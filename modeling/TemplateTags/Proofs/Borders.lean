import Mathlib.Data.List.Basic
import TemplateTags.Piece
import TemplateTags.Proofs.Body

/-!
# Borders between pieces

With the usual delimiters, what stands on the two sides of a border could run together: a body with
the delimiter that closes its tag, an opening delimiter with the body behind it, text with the tag
or the text behind it. Well-formed pieces are those where this does not happen.
`Scanner.embedded_standard` says so for the end of a body, `Scanner.openAt?_blockStart` for its
beginning, and `Scanner.quiet_flatMap_render` for text.
-/

namespace TemplateTags

/-- Where a text without quotes stands with a closing brace behind it, a body ends before the
brace. -/
theorem BodyText.exists_of_isPrefix {part front tail : List Char} (body : BodyText part)
    (noQuote : ∀ char ∈ front, isQuote char = false) (start : front ++ ['}'] <+: part ++ tail) :
    ∃ behind, front = part ++ behind ∧ behind ++ ['}'] <+: tail := by
  induction body generalizing front with
  | nil => exact ⟨front, rfl, start⟩
  | @char char text plain rest inductionHypothesis =>
    cases front with
    | nil =>
      obtain rfl : '}' = char := (List.cons_prefix_cons.1 start).1
      cases plain
    | cons first others =>
      obtain ⟨rfl, others_start⟩ := List.cons_prefix_cons.1 start
      obtain ⟨behind, rfl, stands⟩ :=
        inductionHypothesis (List.forall_mem_cons.1 noQuote).2 others_start
      exact ⟨behind, rfl, stands⟩
  | @string quote inside text isQuote =>
    cases front with
    | nil =>
      obtain rfl : '}' = quote := (List.cons_prefix_cons.1 start).1
      cases isQuote
    | cons first others =>
      obtain ⟨rfl, -⟩ := List.cons_prefix_cons.1 start
      simp [noQuote first (List.mem_cons_self ..)] at isQuote

/-- A body does not begin with a character that is neither plain nor a quote. -/
theorem BodyText.head_ne {char other : Char} {rest : List Char} (body : BodyText (char :: rest))
    (noPlain : isPlainChar other = false) (noQuote : isQuote other = false) : char ≠ other := by
  rintro rfl
  have plain := (body.of_cons noQuote).1
  simp [noPlain] at plain

/-- Only the operator of two minus signs goes on with a character that may follow a body. -/
theorem eq_of_mem_operators {operator : List Char} (listed : operator ∈ operators) {char : Char}
    (member : char ∈ operator.tail) (follows : char ∈ ['}', '%', '-']) :
    operator = ['-', '-'] := by
  revert operator
  simp only [List.mem_cons, List.not_mem_nil, or_false] at follows
  rcases follows with rfl | rfl | rfl <;> decide

namespace Scanner

/-! ## The usual delimiters -/

theorem closings_standard : standard.delimiters.closings =
    [⟨['-', '%', '}'], .block⟩, ⟨['%', '}'], .block⟩, ⟨['}', '}'], .var⟩,
      ⟨['#', '}'], .comment⟩] := rfl

theorem openings_standard : standard.delimiters.openings =
    [⟨['{', '%', '-'], .block⟩, ⟨['{', '%'], .block⟩, ⟨['{', '{'], .var⟩,
      ⟨['{', '#'], .comment⟩] := rfl

theorem minCloseLength_standard (family : Family) :
    standard.delimiters.minCloseLength family = 2 := by
  cases family <;> rfl

/-- Every usual closing delimiter is a text without quotes and a brace behind it. -/
theorem exists_of_mem_closings_standard {literal : Literal}
    (listed : literal ∈ standard.delimiters.closings) :
    ∃ front ∈ [['-', '%'], ['%'], ['}'], ['#']], literal.text = front ++ ['}'] := by
  revert literal
  decide

/-- Every opening literal starts with an opening brace. -/
theorem openAt?_standard_of_ne {char : Char} (noBrace : char ≠ '{') (rest : List Char) :
    standard.delimiters.openAt? (char :: rest) = none := by
  rw [Delimiters.openAt?_eq_none_iff, openings_standard]
  simp [noBrace.symm]

/-- In front of a closing delimiter that does not run together with the end of the body, no closing
delimiter stands before the body ends. -/
theorem closeAt?_standard_of_bodyText {part tail : List Char} (notEmpty : part ≠ [])
    (body : BodyText part) (noPercent : part.getLast? ≠ some '%')
    (noMinus : part.getLast? = some '-' → tail.head? = some '}') :
    standard.delimiters.closeAt? (part ++ tail) = none := by
  rw [Delimiters.closeAt?_eq_none_iff]
  intro literal listed start
  obtain ⟨front, frontListed, text_eq⟩ := exists_of_mem_closings_standard listed
  have noQuotes : ∀ front ∈ [['-', '%'], ['%'], ['}'], ['#']],
      ∀ char ∈ front, isQuote char = false := by
    simp [isQuote]
  rw [text_eq] at start
  obtain ⟨behind, rfl, stands⟩ := body.exists_of_isPrefix (noQuotes front frontListed) start
  obtain ⟨char, rest, rfl⟩ := List.exists_cons_of_ne_nil notEmpty
  have noBrace : char ≠ '}' := body.head_ne rfl rfl
  have noHash : char ≠ '#' := body.head_ne rfl rfl
  -- What is left are the two delimiters of a block, which the body may share with the tail.
  simp only [List.mem_cons, List.not_mem_nil, or_false, List.cons_append, List.cons.injEq,
    noBrace, noHash, false_and, List.append_eq_nil_iff] at frontListed
  rcases frontListed with ⟨rfl, rest_eq⟩ | ⟨rfl, rfl, rfl⟩
  · rcases List.append_eq_singleton_iff.1 rest_eq with ⟨rfl, rfl⟩ | ⟨rfl, rfl⟩
    · obtain ⟨others, rfl⟩ := stands
      simp at noMinus
    · simp at noPercent
  · simp at noPercent

/-- No operator reaches from a body into a closing delimiter that does not run together with it. -/
theorem isPrefix_of_mem_operators {part tail operator : List Char} (notEmpty : part ≠ [])
    (noMinus : part.getLast? = some '-' → tail.head? = some '}')
    (follows : ∀ char ∈ tail.head?, char ∈ ['}', '%', '-']) (listed : operator ∈ operators)
    (start : operator <+: part ++ tail) : operator <+: part := by
  rcases List.prefix_or_prefix_of_prefix start (List.prefix_append part tail) with
    within | ⟨more, rfl⟩
  · exact within
  cases more with
  | nil => simp
  | cons char others =>
    obtain ⟨rest, tail_eq⟩ := (List.prefix_append_right_inj _).1 start
    have head : tail.head? = some char := by simp [← tail_eq]
    have behind : char ∈ (part ++ char :: others).tail := by
      rw [List.tail_append_of_ne_nil notEmpty]
      simp
    have minuses := eq_of_mem_operators listed behind (follows char head)
    -- The operator is cut in the middle, so the body ends with its first minus sign.
    obtain ⟨first, front, rfl⟩ := List.exists_cons_of_ne_nil notEmpty
    obtain ⟨rfl, rest_eq⟩ := List.cons.inj minuses
    rcases List.append_eq_singleton_iff.1 rest_eq with ⟨rfl, others_eq⟩ | ⟨-, impossible⟩
    · obtain ⟨rfl, -⟩ := List.cons.inj others_eq
      simp [head] at noMinus
    · cases impossible

/-- A comment has a single closing literal. -/
theorem closeOf?_standard_comment {rest : List Char} (noStop : ¬ ['#', '}'] <+: rest) :
    standard.delimiters.closeOf? .comment rest = none := by
  have only : standard.delimiters.closingsOf .comment = [⟨['#', '}'], .comment⟩] := rfl
  simpa [Delimiters.closeOf?, only, Literal.startsAt] using noStop

/-- A body is embedded in front of a closing delimiter that does not run together with its end. -/
theorem embedded_standard (family : Family) {body tail : List Char}
    (noPercent : body.getLast? ≠ some '%')
    (noMinus : body.getLast? = some '-' → tail.head? = some '}')
    (follows : ∀ char ∈ tail.head?, char ∈ ['}', '%', '-']) (enough : 2 ≤ tail.length) :
    standard.Embedded family body tail := by
  have sameLast : ∀ part, part ≠ [] → part <:+ body → body.getLast? = part.getLast? := by
    rintro part notEmpty ⟨front, rfl⟩
    exact List.getLast?_append_of_ne_nil front notEmpty
  refine ⟨?noClose, ?noOpen, ?bounded, ?ends, by rwa [minCloseLength_standard]⟩
  case noClose =>
    intro part notEmpty isSuffix bodyText
    rw [sameLast part notEmpty isSuffix] at noPercent noMinus
    exact closeAt?_standard_of_bodyText notEmpty bodyText noPercent noMinus
  case noOpen =>
    intro part notEmpty isSuffix bodyText
    obtain ⟨char, rest, rfl⟩ := List.exists_cons_of_ne_nil notEmpty
    exact openAt?_standard_of_ne (bodyText.head_ne rfl rfl) _
  case bounded =>
    intro part notEmpty isSuffix _ operator listed start
    rw [sameLast part notEmpty isSuffix] at noMinus
    exact isPrefix_of_mem_operators notEmpty noMinus follows listed start
  case ends =>
    intro char head
    have closes := follows char head
    simp only [List.mem_cons, List.not_mem_nil, or_false] at closes
    rcases closes with rfl | rfl | rfl <;> decide

/-- A plain opening delimiter of a block stands where no trim modifier follows it. -/
theorem openAt?_blockStart {trims : Bool} {rest : List Char}
    (noModifier : trims = false → rest.head? ≠ some '-') :
    standard.delimiters.openAt? (Piece.blockStart trims ++ rest) =
      some ⟨Piece.blockStart trims, .block⟩ := by
  cases trims with
  | true => rfl
  | false =>
    cases rest with
    | nil => rfl
    | cons char rest =>
      have notModifier : '-' ≠ char := by simpa [eq_comm] using noModifier
      simp [Delimiters.openAt?, openings_standard, Piece.blockStart, Literal.startsAt, notModifier]

/-- The delimiter that closes a comment stands within a text, or not before its end. -/
theorem isPrefix_of_stop {char : Char} {part rest : List Char}
    (stop : ['#', '}'] <+: char :: (part ++ '#' :: rest)) : ['#', '}'] <+: char :: part := by
  cases part with
  | nil => simp at stop
  | cons next others => simpa using stop

/-! ## Quiet text -/

/-- No closing delimiter stands at the head of the text, and none does with a character that is no
brace before it. -/
structure Quiet (rest : List Char) : Prop where
  noClose : standard.delimiters.closeAt? rest = none
  noBrace : rest.head? ≠ some '}'

theorem Quiet.nil : Quiet [] :=
  ⟨rfl, by simp⟩

/-- A character in front of quiet text leaves it quiet, unless it is a closing brace: the rest of a
closing literal that began with it would be a brace, or close a block itself. -/
theorem Quiet.cons {char : Char} {rest : List Char} (quiet : Quiet rest) (noBrace : char ≠ '}') :
    Quiet (char :: rest) := by
  refine ⟨?_, by simpa using noBrace⟩
  have noClose := quiet.noClose
  rw [Delimiters.closeAt?_eq_none_iff, closings_standard] at noClose ⊢
  cases rest with
  | nil => simp
  | cons first others =>
    have notFirst : '}' ≠ first := by simpa [eq_comm] using quiet.noBrace
    have notPlain : '%' = first → ¬ ['}'] <+: others := by
      simp only [List.forall_mem_cons, List.cons_prefix_cons, not_and] at noClose
      exact noClose.2.1
    simpa [notFirst] using fun _ => notPlain

/-- Text in front of quiet text is quiet, unless it has a closing brace. -/
theorem Quiet.append {text rest : List Char} (quiet : Quiet rest) (noBrace : '}' ∉ text) :
    Quiet (text ++ rest) := by
  induction text with
  | nil => exact quiet
  | cons char text inductionHypothesis =>
    simp only [List.mem_cons, not_or] at noBrace
    obtain ⟨notChar, notText⟩ := noBrace
    exact (inductionHypothesis notText).cons (Ne.symm notChar)

theorem Quiet.openingBrace (rest : List Char) : Quiet ('{' :: rest) :=
  ⟨rfl, by simp⟩

/-- What is rendered is quiet. -/
theorem quiet_flatMap_render {pieces : List Piece}
    (wellFormed : ∀ piece ∈ pieces, piece.WellFormed) : Quiet (pieces.flatMap Piece.render) := by
  induction pieces with
  | nil => exact .nil
  | cons piece pieces inductionHypothesis =>
    obtain ⟨first, others⟩ := List.forall_mem_cons.1 wellFormed
    rw [List.flatMap_cons]
    cases piece with
    | text chars => exact (inductionHypothesis others).append first.2
    | comment | var => exact .openingBrace _
    | block trimsOpening => cases trimsOpening <;> exact .openingBrace _

end Scanner

end TemplateTags
