import TemplateTags.Kind
import TemplateTags.Location

/-!
# Tokens

A token is a piece of a template with its kind, its exact text and its place.
-/

namespace TemplateTags

/-- The character that, beside a block delimiter, asks to trim the text next to the tag. -/
def trimModifier : Char :=
  '-'

/-- A piece of a template. -/
structure Token where
  kind : Kind
  value : String
  span : Span
  deriving Repr, DecidableEq, Inhabited

namespace Token

/-- Whether the token opens a tag. -/
def isOpening (token : Token) : Bool :=
  token.kind.isOpening

/-- Whether the token closes a tag. -/
def isClosing (token : Token) : Bool :=
  token.kind.isClosing

/-- Whether the token stands inside a tag. -/
def isContent (token : Token) : Bool :=
  token.kind.isContent

/-- Whether the token is a block delimiter that carries the trim modifier on its inner side. -/
def hasTrimModifier (token : Token) : Bool :=
  match token.kind with
  | .opening .block => token.value.toList.getLast? == some trimModifier
  | .closing .block => token.value.toList.head? == some trimModifier
  | _ => false

end Token

end TemplateTags
