import TemplateTags.Delimiters
import TemplateTags.Lexeme

/-!
# What stands at the head of a text

How the remaining text of a template goes on: with a delimiter, with a lexeme, or with a character
that belongs to no token. This depends on the text and on the family of the tag that it stands in,
not on where it stands in the template. The `_iff` lemmas say for each answer exactly when it is
given.
-/

namespace TemplateTags

/-- What stands at the head of text outside every tag. -/
inductive OuterHead where
  /-- A closing delimiter, which closes nothing. -/
  | closing (literal : Literal)
  | opening (literal : Literal)
  /-- A character of the text that the template renders as it is. -/
  | text
  deriving Repr, DecidableEq

/-- Finds what stands at the head of text outside every tag. Closing delimiters come first. -/
def OuterHead.read (delimiters : Delimiters) (rest : List Char) : OuterHead :=
  match delimiters.closeAt? rest with
  | some literal => .closing literal
  | none =>
    match delimiters.openAt? rest with
    | some literal => .opening literal
    | none => .text

/-- What stands at the head of text inside a tag. -/
inductive InnerHead where
  /-- A closing delimiter of the tag. -/
  | closing (literal : Literal)
  /-- A closing delimiter of another family. -/
  | foreignClosing (literal : Literal)
  | opening (literal : Literal)
  /-- A character of a comment. -/
  | commentText
  | lexeme (lexeme : Lexeme)
  deriving Repr, DecidableEq

/-- Finds what stands at the head of the text `char :: rest` inside a tag of a family. Closing
delimiters come first, and among them those of the tag. -/
def InnerHead.read (delimiters : Delimiters) (family : Family) (char : Char) (rest : List Char) :
    InnerHead :=
  match delimiters.closeAt? (char :: rest) with
  | some found =>
    match delimiters.closeOf? family (char :: rest) with
    | some own => .closing own
    | none => if family = .comment then .commentText else .foreignClosing found
  | none =>
    if family = .comment then
      .commentText
    else
      match delimiters.openAt? (char :: rest) with
      | some nested => .opening nested
      | none => .lexeme (Lexeme.read delimiters.closesAt char rest)

namespace OuterHead

/-- Outside every tag, a closing literal comes before anything else. -/
theorem read_eq_closing_iff {delimiters : Delimiters} {rest : List Char} {literal : Literal} :
    read delimiters rest = .closing literal ↔ delimiters.closeAt? rest = some literal := by
  unfold read
  split
  · simp_all
  · split <;> simp_all

/-- Outside every tag, an opening literal is read where there is no closing literal. -/
theorem read_eq_opening_iff {delimiters : Delimiters} {rest : List Char} {literal : Literal} :
    read delimiters rest = .opening literal ↔
      delimiters.closeAt? rest = none ∧ delimiters.openAt? rest = some literal := by
  unfold read
  split
  · simp_all
  · split <;> simp_all

/-- Outside every tag, whatever is no literal is text. -/
theorem read_eq_text_iff {delimiters : Delimiters} {rest : List Char} :
    read delimiters rest = .text ↔
      delimiters.closeAt? rest = none ∧ delimiters.openAt? rest = none := by
  unfold read
  split
  · simp_all
  · split <;> simp_all

end OuterHead

namespace InnerHead

variable {delimiters : Delimiters} {family : Family} {char : Char} {rest : List Char}

/-- A closing literal of the own family closes the tag, whichever else may be found before it in the
table. -/
theorem read_eq_closing_iff {literal : Literal} :
    read delimiters family char rest = .closing literal ↔
      delimiters.closeOf? family (char :: rest) = some literal := by
  unfold read
  split
  · split
    · simp_all
    · split <;> simp_all
  · rename_i noClose
    have noOwn := Delimiters.closeOf?_eq_none family noClose
    split
    · simp [noOwn]
    · split <;> simp [noOwn]

/-- A closing literal of another family is read where there is none of the own family, and not in a
comment. -/
theorem read_eq_foreignClosing_iff {literal : Literal} :
    read delimiters family char rest = .foreignClosing literal ↔
      delimiters.closeAt? (char :: rest) = some literal ∧
        delimiters.closeOf? family (char :: rest) = none ∧ family ≠ .comment := by
  unfold read
  split
  · split
    · simp_all
    · split <;> simp_all
  · split
    · simp_all
    · split <;> simp_all

/-- An opening literal is read inside a tag where there is no closing literal, and not in a
comment. -/
theorem read_eq_opening_iff {literal : Literal} :
    read delimiters family char rest = .opening literal ↔
      delimiters.closeAt? (char :: rest) = none ∧ family ≠ .comment ∧
        delimiters.openAt? (char :: rest) = some literal := by
  unfold read
  split
  · split
    · simp_all
    · split <;> simp_all
  · split
    · simp_all
    · split <;> simp_all

/-- In a comment, whatever does not close it is text. -/
theorem read_eq_commentText_iff :
    read delimiters family char rest = .commentText ↔
      family = .comment ∧ delimiters.closeOf? family (char :: rest) = none := by
  unfold read
  split
  · split
    · simp_all
    · split <;> simp_all
  · rename_i noClose
    have noOwn := Delimiters.closeOf?_eq_none family noClose
    split
    · simp_all
    · split <;> simp_all

/-- A lexeme is read inside a tag where there is no literal, and not in a comment. -/
theorem read_eq_lexeme_iff {lexeme : Lexeme} :
    read delimiters family char rest = .lexeme lexeme ↔
      delimiters.closeAt? (char :: rest) = none ∧ family ≠ .comment ∧
        delimiters.openAt? (char :: rest) = none ∧
          Lexeme.read delimiters.closesAt char rest = lexeme := by
  unfold read
  split
  · split
    · simp_all
    · split <;> simp_all
  · split
    · simp_all
    · split <;> simp_all

end InnerHead

end TemplateTags
