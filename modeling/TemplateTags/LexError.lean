import TemplateTags.Token

/-!
# Errors of a scan

The ways in which a template can be wrong, each with the tokens that make it so. An error also
has a span of its own: where the fault was noticed.
-/

namespace TemplateTags

/-- What is wrong with a template. -/
inductive LexError.Cause where
  /-- Text inside a tag that fits no kind of token, or text outside every tag that is refused. -/
  | unknownToken (token : Token)
  /-- An opening delimiter inside a tag. -/
  | unexpectedOpen (found opened : Token)
  /-- A closing delimiter outside every tag. -/
  | unmatchedClose (found : Token)
  /-- A closing delimiter of a family other than that of the open tag. -/
  | mismatchedClose (found opened : Token)
  /-- A string that is not closed. -/
  | unterminatedString (token : Token)
  /-- A tag that is not closed; its closing delimiter was missed at `expectedAt`. -/
  | unterminatedTag (opened : Token) (expectedAt : Span)
  deriving Repr, DecidableEq, Inhabited

/-- An error of a scan. -/
structure LexError where
  cause : LexError.Cause
  span : Span
  deriving Repr, DecidableEq, Inhabited

/-- A message with the place that it is about. -/
def Span.annotate (span : Span) (message : String) : String :=
  s!"{message} at line {span.line}, column {span.column}"

namespace LexError

/-- What is reported about the cause of an error. -/
def Cause.message : Cause → String
  | .unknownToken token => s!"unknown token '{token.value}'"
  | .unexpectedOpen found opened =>
    s!"unexpected {found.kind.name} '{found.value}' inside {opened.kind.name} opened at line " ++
      s!"{opened.span.line}, column {opened.span.column}"
  | .unmatchedClose found => s!"unmatched {found.kind.name} '{found.value}'"
  | .mismatchedClose found opened =>
    s!"'{found.value}' cannot close {opened.kind.name} '{opened.value}' opened at line " ++
      s!"{opened.span.line}, column {opened.span.column}"
  | .unterminatedString token => s!"unterminated string {token.value}"
  | .unterminatedTag opened _ =>
    s!"unexpected end of input, {opened.kind.name} '{opened.value}' opened at line " ++
      s!"{opened.span.line}, column {opened.span.column} is never closed"

/-- What is reported about an error. -/
def message (error : LexError) : String :=
  error.span.annotate error.cause.message

end LexError

end TemplateTags
