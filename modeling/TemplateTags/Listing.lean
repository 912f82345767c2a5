import TemplateTags.Text.Quoted
import TemplateTags.Token

/-!
# Listings of tokens

One line for each token, for diagnostics: its place, the name of its kind and its quoted text.
-/

namespace TemplateTags

/-- The line that lists a token. -/
def Token.listingLine (token : Token) : String :=
  s!"{token.span.line}:{token.span.column} {token.kind.name} {Text.quote token.value}\n"

/-- The lines that list tokens, in order. -/
def listing (tokens : List Token) : String :=
  String.join (tokens.map Token.listingLine)

end TemplateTags
