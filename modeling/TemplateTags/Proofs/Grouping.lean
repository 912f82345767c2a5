import TemplateTags.Tag

/-!
# Grouping tokens

`Tag.ofTokens` reads the tokens of well-formed tags, one tag after the other, back as those tags.
What follows a tag does not change how the tag is read.
-/

namespace TemplateTags.Tag

/-- The tag is delimited by its own family and has no delimiter inside. -/
structure WellFormed (tag : Tag) : Prop where
  opens : tag.opening.kind = .opening tag.family
  content : ∀ token ∈ tag.body, token.isContent
  closes : tag.closing.kind = .closing tag.family

variable {tag : Tag} {tags : List Tag} {token : Token}

theorem WellFormed.isOpening_opening (wellFormed : tag.WellFormed) : tag.opening.isOpening := by
  rw [Token.isOpening, wellFormed.opens]
  rfl

/-- The opening delimiter of a tag is no closing one. -/
theorem WellFormed.isClosing_opening (wellFormed : tag.WellFormed) :
    tag.opening.isClosing = false := by
  rw [Token.isClosing, wellFormed.opens]
  rfl

/-- The closing delimiter of a tag is no opening one. -/
theorem WellFormed.isOpening_closing (wellFormed : tag.WellFormed) :
    tag.closing.isOpening = false := by
  rw [Token.isOpening, wellFormed.closes]
  rfl

theorem WellFormed.isClosing_closing (wellFormed : tag.WellFormed) : tag.closing.isClosing := by
  rw [Token.isClosing, wellFormed.closes]
  rfl

/-- The closing delimiter of a tag is no content. -/
theorem WellFormed.isContent_closing (wellFormed : tag.WellFormed) :
    tag.closing.isContent = false := by
  rw [Token.isContent, wellFormed.closes]
  rfl

/-- The content behind an opening delimiter is the body of its tag. -/
theorem WellFormed.takeWhile_isContent (wellFormed : tag.WellFormed) (others : List Token) :
    (tag.body ++ tag.closing :: others).takeWhile Token.isContent = tag.body := by
  rw [List.takeWhile_append_of_pos wellFormed.content,
    List.takeWhile_cons_of_neg (by simp [wellFormed.isContent_closing]), List.append_nil]

/-- The content behind an opening delimiter ends where its tag is closed. -/
theorem WellFormed.dropWhile_isContent (wellFormed : tag.WellFormed) (others : List Token) :
    (tag.body ++ tag.closing :: others).dropWhile Token.isContent = tag.closing :: others := by
  rw [List.dropWhile_append_of_pos wellFormed.content,
    List.dropWhile_cons_of_neg (by simp [wellFormed.isContent_closing])]

/-- A tag has no opening delimiter but its own. -/
theorem WellFormed.eq_opening (wellFormed : tag.WellFormed) (inTag : token ∈ tag.tokens)
    (isOpening : token.isOpening) : token = tag.opening := by
  rcases List.mem_append.1 inTag with before | last
  · rcases List.mem_cons.1 before with rfl | inBody
    · rfl
    · have notOpening := (Kind.isContent_iff.1 (wellFormed.content token inBody)).1
      simp [Token.isOpening, notOpening] at isOpening
  · simp [List.mem_singleton.1 last, wellFormed.isOpening_closing] at isOpening

/-- A tag has no closing delimiter but its own. -/
theorem WellFormed.eq_closing (wellFormed : tag.WellFormed) (inTag : token ∈ tag.tokens)
    (isClosing : token.isClosing) : token = tag.closing := by
  rcases List.mem_append.1 inTag with before | last
  · rcases List.mem_cons.1 before with rfl | inBody
    · simp [wellFormed.isClosing_opening] at isClosing
    · have notClosing := (Kind.isContent_iff.1 (wellFormed.content token inBody)).2
      simp [Token.isClosing, notClosing] at isClosing
  · exact List.mem_singleton.1 last

/-- Content of a tag is in its body. -/
theorem WellFormed.mem_body (wellFormed : tag.WellFormed) (inTag : token ∈ tag.tokens)
    (content : token.isContent) : token ∈ tag.body := by
  rcases List.mem_append.1 inTag with before | last
  · rcases List.mem_cons.1 before with rfl | inBody
    · rw [Token.isContent, wellFormed.opens] at content
      cases content
    · exact inBody
  · simp [List.mem_singleton.1 last, wellFormed.isContent_closing] at content

/-- A well-formed tag is read whatever tokens follow it. -/
theorem WellFormed.ofTokens_append (wellFormed : tag.WellFormed) (others : List Token) :
    ofTokens (tag.tokens ++ others) = (ofTokens others).map (tag :: ·) := by
  rw [tokens_append, ofTokens, wellFormed.opens]
  simp only [Kind.opens?]
  split
  · rename_i stop
    rw [wellFormed.dropWhile_isContent] at stop
    cases stop
  · rename_i closing others' stop
    rw [wellFormed.dropWhile_isContent] at stop
    obtain ⟨rfl, rfl⟩ := List.cons.inj stop
    rw [if_pos wellFormed.closes, wellFormed.takeWhile_isContent]

/-- The tokens of well-formed tags group into these tags. -/
theorem ofTokens_flatMap_tokens (wellFormed : ∀ tag ∈ tags, tag.WellFormed) :
    ofTokens (tags.flatMap tokens) = .ok tags := by
  induction tags with
  | nil => rw [List.flatMap_nil, ofTokens]
  | cons tag tags inductionHypothesis =>
    have following : ofTokens (tags.flatMap tokens) = .ok tags := by
      apply inductionHypothesis
      intro later member
      exact wellFormed later (List.mem_cons_of_mem _ member)
    rw [List.flatMap_cons, (wellFormed tag (List.mem_cons_self ..)).ofTokens_append, following]
    rfl

/-- The tokens of a tag stand together among those of all tags. -/
theorem tokens_isInfix (member : tag ∈ tags) : tag.tokens <:+: tags.flatMap tokens := by
  rw [List.flatMap_def]
  exact List.infix_of_mem_flatten (List.mem_map_of_mem member)

theorem mem_flatMap_tokens_of_mem_body (member : tag ∈ tags)
    (inBody : token ∈ tag.body) : token ∈ tags.flatMap tokens :=
  (tokens_isInfix member).subset (by simp [tokens, inBody])

end TemplateTags.Tag
