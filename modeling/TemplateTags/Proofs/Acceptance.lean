import Mathlib.Data.List.TakeWhile
import TemplateTags.Proofs.Grouping

/-!
# Which tokens group into tags

Tokens put together by hand may be no tags at all. `Tag.Outcome` lists what may become of a list of
tokens: a tag stands at its head, or it has one of three faults, each with the tokens that make it
so. `Tag.outcome_ofTokens` says that grouping comes to nothing else. So it accepts exactly the lists
that are groups, one behind the other, and gives these groups as tags.
-/

namespace TemplateTags

/-- Only the opening delimiter of a family opens it. -/
theorem Kind.opens?_eq_some_iff {kind : Kind} {family : Family} :
    kind.opens? = some family ↔ kind = .opening family := by
  cases kind <;> simp [opens?]

/-- The tokens are groups, one behind the other: an opening delimiter, content, and a closing
delimiter of the same family. -/
inductive Token.Balanced : List Token → Prop where
  | nil : Balanced []
  | group {family : Family} {opening closing : Token} {body others : List Token}
      (opens : opening.kind = .opening family) (content : ∀ token ∈ body, token.isContent)
      (closes : closing.kind = .closing family) (rest : Balanced others) :
      Balanced (opening :: (body ++ closing :: others))

namespace Tag

/-- What may become of a list of tokens that is grouped into tags. -/
inductive Outcome : List Token → Except StreamError (List Tag) → Prop where
  | nil : Outcome [] (.ok [])
  /-- The first token opens no tag. -/
  | outsideTag {first : Token} {others : List Token} (noOpening : first.isOpening = false) :
      Outcome (first :: others) (.error ⟨.outsideTag first.value, first.span⟩)
  /-- No delimiter follows the opening one. -/
  | unclosedTag {opening : Token} {body : List Token} (opens : opening.isOpening)
      (content : ∀ token ∈ body, token.isContent) :
      Outcome (opening :: body) (.error ⟨.unclosedTag opening.value, opening.span⟩)
  /-- The delimiter that follows the opening one does not close its tag. -/
  | wrongClose {family : Family} {opening delimiter : Token} {body others : List Token}
      (opens : opening.kind = .opening family) (content : ∀ token ∈ body, token.isContent)
      (noContent : delimiter.isContent = false) (noClose : delimiter.kind ≠ .closing family) :
      Outcome (opening :: (body ++ delimiter :: others))
        (.error ⟨.wrongClose (.closing family) delimiter.value, delimiter.span⟩)
  /-- A tag stands at the head, and what follows it is grouped by itself. -/
  | tag {tag : Tag} {others : List Token} {outcome : Except StreamError (List Tag)}
      (wellFormed : tag.WellFormed) (rest : Outcome others outcome) :
      Outcome (tag.tokens ++ others) (outcome.map (tag :: ·))

variable {tokens : List Token} {tags : List Tag}

/-- Grouping tokens into tags comes to an outcome of theirs. -/
theorem outcome_ofTokens (tokens : List Token) : Outcome tokens (ofTokens tokens) := by
  have content : ∀ tokens : List Token, ∀ token ∈ tokens.takeWhile Token.isContent,
      token.isContent := fun _ _ => List.mem_takeWhile_imp
  fun_induction ofTokens tokens with
  | case1 => exact .nil
  | case2 opening tokens noOpening =>
    refine .outsideTag ?_
    rw [Token.isOpening, Kind.isOpening, noOpening, Option.isSome_none]
  | case3 opening tokens family opens following =>
    refine .unclosedTag ?_ (List.dropWhile_eq_nil_iff.1 following)
    rw [Token.isOpening, Kind.isOpening, opens, Option.isSome_some]
  | case4 opening tokens family opens closing others following closes inductionHypothesis =>
    have split : tokens = tokens.takeWhile Token.isContent ++ closing :: others := by
      rw [← following, List.takeWhile_append_dropWhile]
    let tag : Tag := ⟨family, opening, tokens.takeWhile Token.isContent, closing⟩
    have wellFormed : tag.WellFormed := ⟨Kind.opens?_eq_some_iff.1 opens, content tokens, closes⟩
    have outcome := inductionHypothesis.tag wellFormed
    rwa [tokens_append, ← split] at outcome
  | case5 opening tokens family opens delimiter others following noClose =>
    have split : tokens = tokens.takeWhile Token.isContent ++ delimiter :: others := by
      rw [← following, List.takeWhile_append_dropWhile]
    have noContent : delimiter.isContent = false := by
      have stops := List.head?_dropWhile_not Token.isContent tokens
      rwa [following] at stops
    have outcome :
        Outcome (opening :: (tokens.takeWhile Token.isContent ++ delimiter :: others)) _ :=
      .wrongClose (Kind.opens?_eq_some_iff.1 opens) (content tokens) noContent noClose
    rwa [← split] at outcome

/-- Tokens that group come from well-formed tags. -/
theorem Outcome.flatMap_tokens {outcome : Except StreamError (List Tag)}
    (comes : Outcome tokens outcome) (accepted : outcome = .ok tags) :
    (∀ tag ∈ tags, tag.WellFormed) ∧ tags.flatMap Tag.tokens = tokens := by
  induction comes generalizing tags with
  | nil =>
    obtain rfl := Except.ok.inj accepted
    exact ⟨List.forall_mem_nil _, rfl⟩
  | outsideTag | unclosedTag | wrongClose => cases accepted
  | @tag tag others outcome wellFormed _ inductionHypothesis =>
    cases outcome with
    | error fault => cases accepted
    | ok following =>
      obtain rfl := Except.ok.inj accepted
      obtain ⟨followingWellFormed, rfl⟩ := inductionHypothesis rfl
      exact ⟨List.forall_mem_cons.2 ⟨wellFormed, followingWellFormed⟩, rfl⟩

/-- Tokens group into tags exactly if they are those of these tags, which are well formed. -/
theorem ofTokens_eq_ok_iff :
    ofTokens tokens = .ok tags ↔
      (∀ tag ∈ tags, tag.WellFormed) ∧ tags.flatMap Tag.tokens = tokens := by
  constructor
  · exact (outcome_ofTokens tokens).flatMap_tokens
  · rintro ⟨wellFormed, rfl⟩
    exact ofTokens_flatMap_tokens wellFormed

/-- The tokens of well-formed tags are balanced. -/
theorem balanced_flatMap_tokens (wellFormed : ∀ tag ∈ tags, tag.WellFormed) :
    Token.Balanced (tags.flatMap Tag.tokens) := by
  induction tags with
  | nil => exact .nil
  | cons tag tags inductionHypothesis =>
    obtain ⟨first, others⟩ := List.forall_mem_cons.1 wellFormed
    rw [List.flatMap_cons, tokens_append]
    exact .group first.opens first.content first.closes (inductionHypothesis others)

end Tag

/-- Balanced tokens are those of well-formed tags. -/
theorem Token.Balanced.exists_tags {tokens : List Token} (balanced : Balanced tokens) :
    ∃ tags : List Tag, (∀ tag ∈ tags, tag.WellFormed) ∧ tags.flatMap Tag.tokens = tokens := by
  induction balanced with
  | nil => exact ⟨[], List.forall_mem_nil _, rfl⟩
  | @group family opening closing body others opens content closes _ inductionHypothesis =>
    obtain ⟨tags, wellFormed, rfl⟩ := inductionHypothesis
    let tag : Tag := ⟨family, opening, body, closing⟩
    have first : tag.WellFormed := ⟨opens, content, closes⟩
    refine ⟨tag :: tags, List.forall_mem_cons.2 ⟨first, wellFormed⟩, ?_⟩
    rw [List.flatMap_cons, Tag.tokens_append]

/-- Tokens group into tags exactly if they are balanced. The tags are then of the family of their
two delimiters, have no delimiter inside, and hold all of the tokens in their order. -/
theorem ofTokens_accepts_iff_balanced (tokens : List Token) :
    ((∃ tags, Tag.ofTokens tokens = .ok tags) ↔ Token.Balanced tokens) ∧
      ∀ tags, Tag.ofTokens tokens = .ok tags →
        (∀ tag ∈ tags, tag.WellFormed) ∧ tags.flatMap Tag.tokens = tokens := by
  refine ⟨⟨?accepted, ?balanced⟩, fun tags => Tag.ofTokens_eq_ok_iff.1⟩
  case accepted =>
    rintro ⟨tags, accepted⟩
    obtain ⟨wellFormed, rfl⟩ := Tag.ofTokens_eq_ok_iff.1 accepted
    exact Tag.balanced_flatMap_tokens wellFormed
  case balanced =>
    intro balanced
    obtain ⟨tags, wellFormed, tokens_eq⟩ := balanced.exists_tags
    exact ⟨tags, Tag.ofTokens_eq_ok_iff.2 ⟨wellFormed, tokens_eq⟩⟩

/-- A comment with content, which no scan finds, and a block without any right behind it. -/
theorem ofTokens_accepts_content_in_comment :
    let comment : Tag :=
      ⟨.comment, ⟨.opening .comment, "<", ⟨7, 8, 1, 1⟩⟩, [⟨.symbol, "a", ⟨3, 2, 1, 1⟩⟩],
        ⟨.closing .comment, "", ⟨0, 0, 0, 0⟩⟩⟩
    let block : Tag :=
      ⟨.block, ⟨.opening .block, "<", ⟨7, 8, 1, 1⟩⟩, [], ⟨.closing .block, ">", ⟨9, 9, 5, 5⟩⟩⟩
    let tokens : List Token := comment.tokens ++ block.tokens
    Tag.ofTokens tokens = .ok [comment, block] ∧ Token.Balanced tokens ∧
      (∀ tag ∈ [comment, block], tag.WellFormed) ∧
        [comment, block].flatMap Tag.tokens = tokens := by
  intro comment block tokens
  have accepted : Tag.ofTokens tokens = .ok [comment, block] := by
    decide +kernel
  have exactly := ofTokens_accepts_iff_balanced tokens
  exact ⟨accepted, exactly.1.1 ⟨_, accepted⟩, exactly.2 _ accepted⟩

end TemplateTags
