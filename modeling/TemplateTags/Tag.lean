import TemplateTags.LexError

/-!
# Tags

A tag is an opening delimiter, the tokens inside, and a closing delimiter of the same family.
`Tag.ofTokens` groups tokens into tags and says what is wrong with tokens that do not group. A
scan only gives tokens that do; tokens put together by hand may not.
-/

namespace TemplateTags

/-- Why tokens do not group into tags. -/
inductive StreamError.Cause where
  /-- A token stands outside every tag. -/
  | outsideTag (found : String)
  /-- No delimiter follows an opening one. -/
  | unclosedTag (opened : String)
  /-- The next delimiter does not close the tag. -/
  | wrongClose (expected : Kind) (found : String)
  deriving Repr, DecidableEq, Inhabited

/-- A fault in a list of tokens, with the place of the token at fault. -/
structure StreamError where
  cause : StreamError.Cause
  span : Span
  deriving Repr, DecidableEq, Inhabited

namespace StreamError

/-- What is reported about the cause of a fault. -/
def Cause.message : Cause → String
  | .outsideTag found => s!"token '{found}' outside of a tag"
  | .unclosedTag opened => s!"tag opened with '{opened}' is not closed"
  | .wrongClose expected found => s!"expected {expected.name}, got '{found}'"

/-- What is reported about a fault. -/
def message (error : StreamError) : String :=
  error.span.annotate error.cause.message

end StreamError

/-- A tag with the tokens inside it. -/
structure Tag where
  family : Family
  opening : Token
  body : List Token
  closing : Token
  deriving Repr, DecidableEq, Inhabited

namespace Tag

/-- The tokens of the tag, delimiters included. -/
def tokens (tag : Tag) : List Token :=
  tag.opening :: tag.body ++ [tag.closing]

theorem tokens_append (tag : Tag) (others : List Token) :
    tag.tokens ++ others = tag.opening :: (tag.body ++ tag.closing :: others) := by
  simp [tokens]

/-- The tokens inside the tag that are not white space. -/
def significant (tag : Tag) : List Token :=
  tag.body.filter (·.kind ≠ .whitespace)

/-- Whether the opening and the closing delimiter carry the trim modifier. -/
def trims (tag : Tag) : Bool × Bool :=
  (tag.opening.hasTrimModifier, tag.closing.hasTrimModifier)

/-- Groups tokens into tags. -/
def ofTokens : List Token → Except StreamError (List Tag)
  | [] => .ok []
  | opening :: tokens =>
    match opening.kind.opens? with
    | none => .error ⟨.outsideTag opening.value, opening.span⟩
    | some family =>
      match _following : tokens.dropWhile Token.isContent with
      | [] => .error ⟨.unclosedTag opening.value, opening.span⟩
      | closing :: others =>
        if closing.kind = .closing family then
          (ofTokens others).map (⟨family, opening, tokens.takeWhile Token.isContent, closing⟩ :: ·)
        else
          .error ⟨.wrongClose (.closing family) closing.value, closing.span⟩
termination_by tokens => tokens.length
decreasing_by
  have shorter := (List.dropWhile_suffix (l := tokens) Token.isContent).length_le
  rw [_following] at shorter
  simp only [List.length_cons] at shorter ⊢
  omega

end Tag

end TemplateTags
