import TemplateTags.Tag
import TemplateTags.Lexeme

/-!
# Pieces of a template

What a template written with the usual delimiters is put together from: text, comments, variables
and blocks. `Piece.render` writes a piece, `Piece.WellFormed` says which pieces may be written so
that they can be told apart again, and `Piece.outline?` is what is to be found again of a tag.
-/

namespace TemplateTags

/-- Whether a character may stand inside a tag by itself. -/
def isPlainChar (char : Char) : Bool :=
  !(['{', '}', '!', '#'].contains char || isQuote char)

/-- What may stand between the quotes of a string. -/
inductive StringText (quote : Char) : List Char → Prop where
  | nil : StringText quote []
  | char {char text} (noQuote : char ≠ quote) (noEscape : char ≠ '\\')
      (rest : StringText quote text) : StringText quote (char :: text)
  | escaped {char text} (rest : StringText quote text) : StringText quote ('\\' :: char :: text)

/-- What may stand inside a block or a variable tag: single characters and whole strings. -/
inductive BodyText : List Char → Prop where
  | nil : BodyText []
  | char {char text} (plain : isPlainChar char) (rest : BodyText text) : BodyText (char :: text)
  | string {quote inside text} (isQuote : isQuote quote) (string : StringText quote inside)
      (rest : BodyText text) : BodyText (quote :: (inside ++ quote :: text))

/-- A piece of a template. -/
inductive Piece where
  /-- Text outside every tag. -/
  | text (chars : List Char)
  | comment (chars : List Char)
  | var (body : List Char)
  /-- A block with or without the trim modifier on each delimiter. -/
  | block (trimsOpening trimsClosing : Bool) (body : List Char)
  deriving Repr, DecidableEq, Inhabited

/-- What is found of a tag: its family, its trim modifiers and the text of the tokens inside. -/
structure Tag.Outline where
  family : Family
  trims : Bool × Bool
  body : String
  deriving Repr, DecidableEq, Inhabited

/-- The outline of a tag. -/
def Tag.outline (tag : Tag) : Tag.Outline :=
  ⟨tag.family, tag.trims, String.join (tag.body.map (·.value))⟩

namespace Piece

/-- The usual opening delimiter of a block. -/
def blockStart (trims : Bool) : List Char :=
  if trims then ['{', '%', '-'] else ['{', '%']

/-- The usual closing delimiter of a block. -/
def blockStop (trims : Bool) : List Char :=
  if trims then ['-', '%', '}'] else ['%', '}']

/-- The piece as it is written. -/
def render : Piece → List Char
  | .text chars => chars
  | .comment chars => ['{', '#'] ++ chars ++ ['#', '}']
  | .var body => ['{', '{'] ++ body ++ ['}', '}']
  | .block trimsOpening trimsClosing body =>
    blockStart trimsOpening ++ body ++ blockStop trimsClosing

/-- The text of the piece that stands outside every tag. -/
def outerText : Piece → List Char
  | .text chars => chars
  | _ => []

/-- What is to be found of the piece, if it is a tag. There are no tokens inside a comment. -/
def outline? : Piece → Option Tag.Outline
  | .text _ => none
  | .comment _ => some ⟨.comment, (false, false), ""⟩
  | .var body => some ⟨.var, (false, false), String.ofList body⟩
  | .block trimsOpening trimsClosing body =>
    some ⟨.block, (trimsOpening, trimsClosing), String.ofList body⟩

/-- A piece that is a tag has no text outside of tags. -/
theorem outerText_of_outline? {piece : Piece} {outline : Tag.Outline}
    (isTag : piece.outline? = some outline) : piece.outerText = [] := by
  cases piece with
  | text => cases isTag
  | _ => rfl

/-- The piece can be told apart from those around it. -/
def WellFormed : Piece → Prop
  | .text chars => '{' ∉ chars ∧ '}' ∉ chars
  | .comment chars => ¬ ['#', '}'] <:+: chars
  | .var body => BodyText body ∧ body.getLast? ≠ some '%'
  | .block trimsOpening trimsClosing body =>
    BodyText body ∧ body.getLast? ≠ some '%' ∧ body.head? ≠ some '-' ∧ body.getLast? ≠ some '-' ∧
      ¬ (body = [] ∧ trimsOpening = false ∧ trimsClosing)

end Piece

end TemplateTags
