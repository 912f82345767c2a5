import TemplateTags.Family

/-!
# Kinds of tokens

What a token is: a delimiter of some family, or one of the things that stand inside a tag. Each
kind has a fixed name for diagnostics, and `ofName?_name` says that the name identifies it.
-/

namespace TemplateTags

/-- The punctuation characters that are tokens of their own. -/
inductive Punctuation where
  | leftParen
  | rightParen
  | leftBracket
  | rightBracket
  | leftCurly
  | rightCurly
  | comma
  | colon
  | tilde
  | pipe
  | dot
  | assignment
  deriving Repr, DecidableEq, Inhabited

namespace Punctuation

/-- Every punctuation mark. -/
def all : List Punctuation :=
  [.leftParen, .rightParen, .leftBracket, .rightBracket, .leftCurly, .rightCurly, .comma, .colon,
    .tilde, .pipe, .dot, .assignment]

/-- The character that is written. -/
def char : Punctuation → Char
  | .leftParen => '('
  | .rightParen => ')'
  | .leftBracket => '['
  | .rightBracket => ']'
  | .leftCurly => '{'
  | .rightCurly => '}'
  | .comma => ','
  | .colon => ':'
  | .tilde => '~'
  | .pipe => '|'
  | .dot => '.'
  | .assignment => '='

/-- The mark that a character writes. -/
def ofChar? (char : Char) : Option Punctuation :=
  all.find? (·.char = char)

/-- The name of the mark in diagnostics. -/
def name : Punctuation → String
  | .leftParen => "LEFT_PAREN"
  | .rightParen => "RIGHT_PAREN"
  | .leftBracket => "LEFT_BRACKET"
  | .rightBracket => "RIGHT_BRACKET"
  | .leftCurly => "LEFT_CURLY"
  | .rightCurly => "RIGHT_CURLY"
  | .comma => "COMMA"
  | .colon => "COLON"
  | .tilde => "TILDE"
  | .pipe => "PIPE"
  | .dot => "DOT"
  | .assignment => "ASSIGNMENT"

/-- A character writes a mark exactly when it is the mark's character. -/
theorem ofChar?_eq_some_iff {char : Char} {mark : Punctuation} :
    ofChar? char = some mark ↔ char = mark.char := by
  constructor
  · intro found
    have := List.find?_some found
    exact (of_decide_eq_true this).symm
  · rintro rfl
    cases mark <;> decide

end Punctuation

/-- The kind of a token. -/
inductive Kind where
  /-- An opening delimiter. -/
  | opening (family : Family)
  /-- A closing delimiter. -/
  | closing (family : Family)
  /-- A run of blank characters inside a tag. -/
  | whitespace
  /-- A quoted string, quotes included. -/
  | string
  /-- A comparison or an arithmetic operator. -/
  | operator
  | punctuation (mark : Punctuation)
  /-- A run of ASCII digits. -/
  | number
  /-- One of the words `true` and `false`. -/
  | boolean
  /-- Any other word. -/
  | symbol
  /-- A character that fits no other kind. -/
  | unknown
  deriving Repr, DecidableEq, Inhabited

namespace Kind

/-- Every kind. -/
def all : List Kind :=
  [.string, .whitespace, .opening .block, .closing .block, .opening .var, .closing .var,
    .opening .comment, .closing .comment, .operator, .number, .boolean, .symbol, .unknown] ++
    Punctuation.all.map .punctuation

/-- The name of the kind in diagnostics. -/
def name : Kind → String
  | .opening .block => "BLOCK_START"
  | .closing .block => "BLOCK_END"
  | .opening .var => "VARIABLE_START"
  | .closing .var => "VARIABLE_END"
  | .opening .comment => "COMMENT_START"
  | .closing .comment => "COMMENT_END"
  | .whitespace => "WHITESPACE"
  | .string => "STRING"
  | .operator => "OPERATOR"
  | .punctuation mark => mark.name
  | .number => "NUMBER"
  | .boolean => "BOOLEAN"
  | .symbol => "SYMBOL"
  | .unknown => "UNKNOWN"

/-- The kind of a given name. -/
def ofName? (name : String) : Option Kind :=
  all.find? (·.name = name)

/-- The family of the tag that a token of this kind opens. -/
def opens? : Kind → Option Family
  | .opening family => some family
  | _ => none

/-- The family of the tag that a token of this kind closes. -/
def closes? : Kind → Option Family
  | .closing family => some family
  | _ => none

/-- The family of a delimiter, opening or closing. -/
def family? : Kind → Option Family
  | .opening family => some family
  | .closing family => some family
  | _ => none

/-- Whether a token of this kind opens a tag. -/
def isOpening (kind : Kind) : Bool :=
  kind.opens?.isSome

/-- Whether a token of this kind closes a tag. -/
def isClosing (kind : Kind) : Bool :=
  kind.closes?.isSome

/-- Whether a token of this kind stands inside a tag rather than delimiting it. -/
def isContent (kind : Kind) : Bool :=
  kind.family?.isNone

/-- What stands inside a tag is what neither opens nor closes one. -/
theorem isContent_iff {kind : Kind} :
    kind.isContent ↔ kind.isOpening = false ∧ kind.isClosing = false := by
  cases kind <;> simp [isContent, family?, isOpening, opens?, isClosing, closes?]

/-- No two kinds share a name. -/
theorem ofName?_name (kind : Kind) : ofName? kind.name = some kind := by
  cases kind with
  | opening family => cases family <;> decide
  | closing family => cases family <;> decide
  | punctuation mark => cases mark <;> decide
  | _ => decide

/-- The name of a kind tells the kind. -/
theorem name_injective {first second : Kind} (same : first.name = second.name) :
    first = second := by
  have := ofName?_name first
  rw [same, ofName?_name second] at this
  exact (Option.some.inj this).symm

end Kind

end TemplateTags
