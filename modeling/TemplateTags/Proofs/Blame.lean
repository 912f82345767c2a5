import Mathlib.Order.Bounds.Defs
import Mathlib.Tactic.ByContra
import TemplateTags.Proofs.Acceptance

/-!
# Which token is at fault

Grouping goes through the tokens once, so what it makes of a first part that groups stays, whatever
follows. Tokens that do not group have a longest first part that does. The token behind that part
is at fault, or the delimiter that follows that token: `StreamError.blame` tells which of the two
and why, from them alone. No longer first part groups, as no tag stands at the head of what is left.
-/

namespace TemplateTags

/-- Whether the token opens or closes a tag. -/
def Token.isDelimiter (token : Token) : Bool :=
  token.isOpening || token.isClosing

/-- The fault of tokens at whose head no tag stands: the first of them opens none, or no delimiter
follows it, or the next delimiter is the wrong one. -/
def StreamError.blame (first : Token) (others : List Token) : StreamError :=
  match first.kind.opens?, others.find? Token.isDelimiter with
  | none, _ => ⟨.outsideTag first.value, first.span⟩
  | some _, none => ⟨.unclosedTag first.value, first.span⟩
  | some family, some delimiter => ⟨.wrongClose (.closing family) delimiter.value, delimiter.span⟩

namespace Token

theorem isDelimiter_eq_not_isContent (token : Token) : token.isDelimiter = !token.isContent := by
  unfold isDelimiter isOpening isClosing isContent
  cases token.kind <;> rfl

/-- There is no delimiter in content. -/
theorem find?_isDelimiter_eq_none {body : List Token} (content : ∀ token ∈ body, token.isContent) :
    body.find? isDelimiter = none := by
  rw [List.find?_eq_none]
  intro token member
  simp [isDelimiter_eq_not_isContent, content token member]

/-- The first delimiter is the one behind the content. -/
theorem find?_isDelimiter_append {body : List Token} {delimiter : Token}
    (content : ∀ token ∈ body, token.isContent) (noContent : delimiter.isContent = false)
    (after : List Token) :
    (body ++ delimiter :: after).find? isDelimiter = some delimiter := by
  rw [List.find?_append, find?_isDelimiter_eq_none content, Option.none_or,
    List.find?_cons_of_pos (by simp [isDelimiter_eq_not_isContent, noContent])]

end Token

namespace Tag

/-- The tokens of no tag are a first part of these. -/
def NoneAtHead (tokens : List Token) : Prop :=
  ∀ tag : Tag, tag.WellFormed → ¬ tag.tokens <+: tokens

variable {tokens : List Token} {tags : List Tag}

/-- A tag at the head opens with the first token, and its closing delimiter is the first one to
follow. -/
theorem WellFormed.eq_of_isPrefix {tag : Tag} {first : Token} {others : List Token}
    (wellFormed : tag.WellFormed) (atHead : tag.tokens <+: first :: others) :
    first = tag.opening ∧ others.find? Token.isDelimiter = some tag.closing := by
  obtain ⟨after, split⟩ := atHead
  rw [tokens_append] at split
  obtain ⟨rfl, rfl⟩ := List.cons.inj split
  exact ⟨rfl, Token.find?_isDelimiter_append wellFormed.content wellFormed.isContent_closing _⟩

/-- Tokens that do not group are those of tags and others, of which none is at the head, and it is
the others that are at fault. -/
theorem Outcome.exists_blame {outcome : Except StreamError (List Tag)}
    (comes : Outcome tokens outcome) {error : StreamError} (rejected : outcome = .error error) :
    ∃ (tags : List Tag) (first : Token) (others : List Token),
      (∀ tag ∈ tags, tag.WellFormed) ∧ tokens = tags.flatMap Tag.tokens ++ first :: others ∧
        NoneAtHead (first :: others) ∧ error = .blame first others := by
  induction comes generalizing error with
  | nil => cases rejected
  | @outsideTag first others noOpening =>
    cases rejected
    have opensNone : first.kind.opens? = none := by
      rwa [Token.isOpening, Kind.isOpening, Option.isSome_eq_false_iff,
        Option.isNone_iff_eq_none] at noOpening
    refine ⟨[], first, others, List.forall_mem_nil _, rfl, ?_, ?_⟩
    · intro tag wellFormed atHead
      obtain ⟨rfl, -⟩ := wellFormed.eq_of_isPrefix atHead
      cases noOpening.symm.trans wellFormed.isOpening_opening
    · simp only [StreamError.blame, opensNone]
  | @unclosedTag opening body opens content =>
    cases rejected
    have noDelimiter := Token.find?_isDelimiter_eq_none content
    refine ⟨[], opening, body, List.forall_mem_nil _, rfl, ?_, ?_⟩
    · intro tag wellFormed atHead
      obtain ⟨-, closes⟩ := wellFormed.eq_of_isPrefix atHead
      cases noDelimiter.symm.trans closes
    · obtain ⟨family, opensFamily⟩ := Option.isSome_iff_exists.1 opens
      simp only [StreamError.blame, opensFamily, noDelimiter]
  | @wrongClose family opening delimiter body others opens content noContent noClose =>
    cases rejected
    have next := Token.find?_isDelimiter_append content noContent others
    refine ⟨[], opening, body ++ delimiter :: others, List.forall_mem_nil _, rfl, ?_, ?_⟩
    · intro tag wellFormed atHead
      obtain ⟨rfl, closes⟩ := wellFormed.eq_of_isPrefix atHead
      obtain rfl := Option.some.inj (next.symm.trans closes)
      have family_eq : family = tag.family := Kind.opening.inj (opens.symm.trans wellFormed.opens)
      exact noClose (family_eq ▸ wellFormed.closes)
    · simp only [StreamError.blame, Kind.opens?_eq_some_iff.2 opens, next]
  | @tag tag others outcome wellFormed _ inductionHypothesis =>
    cases outcome with
    | ok => cases rejected
    | error fault =>
      cases rejected
      obtain ⟨tags, first, behind, tagsWellFormed, rfl, noneAtHead, rfl⟩ := inductionHypothesis rfl
      refine ⟨tag :: tags, first, behind, List.forall_mem_cons.2 ⟨wellFormed, tagsWellFormed⟩, ?_,
        noneAtHead, rfl⟩
      rw [List.flatMap_cons, List.append_assoc]

/-- Tags are read whatever tokens follow them. -/
theorem ofTokens_append {first : List Token} (grouped : ofTokens first = .ok tags)
    (second : List Token) : ofTokens (first ++ second) = (ofTokens second).map (tags ++ ·) := by
  obtain ⟨wellFormed, rfl⟩ := ofTokens_eq_ok_iff.1 grouped
  clear grouped
  induction tags with
  | nil =>
    rw [List.flatMap_nil, List.nil_append]
    cases ofTokens second <;> rfl
  | cons tag tags inductionHypothesis =>
    obtain ⟨first, others⟩ := List.forall_mem_cons.1 wellFormed
    rw [List.flatMap_cons, List.append_assoc, first.ofTokens_append, inductionHypothesis others]
    cases ofTokens second <;> rfl

/-- Where no tag stands at the head, no first part groups but the empty one. -/
theorem NoneAtHead.not_grouped {first : Token} {others : List Token}
    (noneAtHead : NoneAtHead (first :: others)) (count : Nat) :
    ofTokens ((first :: others).take (count + 1)) ≠ .ok tags := by
  intro grouped
  obtain ⟨wellFormed, flat⟩ := ofTokens_eq_ok_iff.1 grouped
  cases tags with
  | nil => cases flat
  | cons tag tags =>
    have atHead : tag.tokens <+: (first :: others).take (count + 1) := flat ▸ List.prefix_append ..
    exact noneAtHead tag (wellFormed tag (List.mem_cons_self ..))
      (atHead.trans (List.take_prefix ..))

end Tag

/-- Grouping a list goes on behind a first part that groups as it does without it. Where it fails,
there is a longest first part that groups, and the token behind that part is at fault, or the
delimiter next to follow. -/
theorem ofTokens_append_and_blame :
    (∀ (first second : List Token) (tags : List Tag), Tag.ofTokens first = .ok tags →
        Tag.ofTokens (first ++ second) = (Tag.ofTokens second).map (tags ++ ·)) ∧
      ∀ (tokens : List Token) (error : StreamError), Tag.ofTokens tokens = .error error →
        ∃ count token,
          IsGreatest {length | ∃ tags, Tag.ofTokens (tokens.take length) = .ok tags} count ∧
            tokens[count]? = some token ∧ error = .blame token (tokens.drop (count + 1)) := by
  refine ⟨fun first second tags grouped => Tag.ofTokens_append grouped second, ?_⟩
  intro tokens error rejected
  obtain ⟨tags, first, others, wellFormed, rfl, noneAtHead, rfl⟩ :=
    (Tag.outcome_ofTokens tokens).exists_blame rejected
  have grouped := Tag.ofTokens_flatMap_tokens wellFormed
  generalize tags.flatMap Tag.tokens = accepted at *
  refine ⟨accepted.length, first, ⟨?accepted, ?longest⟩, ?behind, ?fault⟩
  case accepted =>
    refine ⟨tags, ?_⟩
    rw [List.take_left, grouped]
  case longest =>
    rintro length ⟨tags', longer⟩
    by_contra! exceeds
    obtain ⟨more, rfl⟩ := Nat.exists_eq_add_of_lt exceeds
    rw [Nat.add_assoc, List.take_length_add_append, Tag.ofTokens_append grouped] at longer
    cases rest : Tag.ofTokens ((first :: others).take (more + 1)) with
    | error fault =>
      rw [rest] at longer
      cases longer
    | ok following => exact noneAtHead.not_grouped more rest
  case behind =>
    rw [List.getElem?_append_right (Nat.le_refl _), Nat.sub_self, List.getElem?_cons_zero]
  case fault =>
    rw [List.drop_length_add_append, List.drop_one, List.tail_cons]

/-- A tag that groups, and behind it a block that another opening delimiter interrupts. -/
theorem ofTokens_append_and_blame_nested :
    let tag : Tag :=
      ⟨.var, ⟨.opening .var, "<", ⟨0, 1, 1, 1⟩⟩, [⟨.symbol, "a", ⟨1, 2, 1, 2⟩⟩],
        ⟨.closing .var, ">", ⟨2, 3, 1, 3⟩⟩⟩
    let others : List Token :=
      [⟨.opening .block, "[", ⟨3, 4, 1, 4⟩⟩, ⟨.symbol, "b", ⟨4, 5, 1, 5⟩⟩,
        ⟨.opening .var, "<", ⟨5, 6, 1, 6⟩⟩, ⟨.closing .block, "]", ⟨6, 7, 1, 7⟩⟩]
    let error : StreamError := ⟨.wrongClose (.closing .block) "<", ⟨5, 6, 1, 6⟩⟩
    Tag.ofTokens tag.tokens = .ok [tag] ∧
      Tag.ofTokens (tag.tokens ++ others) = (Tag.ofTokens others).map ([tag] ++ ·) ∧
      Tag.ofTokens (tag.tokens ++ others) = .error error ∧
      ∃ count token,
        IsGreatest {length | ∃ tags, Tag.ofTokens ((tag.tokens ++ others).take length) = .ok tags}
            count ∧
          (tag.tokens ++ others)[count]? = some token ∧
            error = .blame token ((tag.tokens ++ others).drop (count + 1)) := by
  intro tag others error
  have grouped : Tag.ofTokens tag.tokens = .ok [tag] := by
    decide +kernel
  have rejected : Tag.ofTokens (tag.tokens ++ others) = .error error := by
    decide +kernel
  refine ⟨grouped, ?_, rejected, ?_⟩
  · exact ofTokens_append_and_blame.1 _ _ _ grouped
  · exact ofTokens_append_and_blame.2 _ _ rejected

end TemplateTags
