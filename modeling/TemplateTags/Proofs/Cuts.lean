import TemplateTags.Proofs.Truncation
import TemplateTags.Proofs.Undelimited

/-!
# First parts of a template

A scanned template may be cut at any offset. Outside its tags, the first part is scanned to the
tokens that stand in it. Inside a tag, the scan fails: it misses the end of that tag, or of a string
in it. Which it is depends on where the offset lies between the delimiters, and a tag counts as
begun from the second character of its opening delimiter on.
-/

namespace TemplateTags

open Text

/-! ## Tags and an offset -/

namespace Tag

/-- The tags are well formed, and their tokens stand one behind the other. -/
structure InOrder (tags : List Tag) : Prop where
  wellFormed : ∀ tag ∈ tags, tag.WellFormed
  nonempty : ∀ token ∈ tags.flatMap tokens, token.span.start < token.span.stop
  ordered : (tags.flatMap tokens).Pairwise fun first second =>
    first.span.stop ≤ second.span.start

/-- The opening delimiter of the tag stops before the offset, and the closing one behind it. -/
structure Straddles (tag : Tag) (offset : Nat) : Prop where
  opened : tag.opening.span.stop ≤ offset
  unclosed : offset < tag.closing.span.stop

variable {tags : List Tag} {tag : Tag} {token : Token} {offset : Nat}

/-- The tokens of a tag stand between its delimiters. -/
theorem InOrder.between (inOrder : InOrder tags) (member : tag ∈ tags)
    (inTag : token ∈ tag.tokens) :
    (token = tag.opening ∨ tag.opening.span.stop ≤ token.span.start) ∧
      token.span.stop ≤ tag.closing.span.stop := by
  have part := tokens_isInfix member
  have ordered := inOrder.ordered.sublist part.sublist
  have behindOpening := (List.pairwise_cons.1 ordered).1
  have beforeClosing := (List.pairwise_append.1 ordered).2.2
  constructor
  · rcases List.mem_cons.1 inTag with rfl | behind
    · exact .inl rfl
    · exact .inr (behindOpening token behind)
  · rcases List.mem_append.1 inTag with before | last
    · have nonempty := inOrder.nonempty tag.closing (part.subset (by simp [tokens]))
      have := beforeClosing token before tag.closing (List.mem_singleton.2 rfl)
      omega
    · rw [List.mem_singleton.1 last]

/-- Tokens of other tags stand before the opening delimiter of a tag or behind its closing one. -/
theorem InOrder.around (inOrder : InOrder tags) (member : tag ∈ tags)
    (inTags : token ∈ tags.flatMap tokens) :
    token ∈ tag.tokens ∨ token.span.stop ≤ tag.opening.span.start ∨
      tag.closing.span.stop ≤ token.span.start := by
  obtain ⟨earlier, later, rfl⟩ := List.append_of_mem member
  have ordered := inOrder.ordered
  rw [List.flatMap_append, List.flatMap_cons] at ordered inTags
  obtain ⟨-, fromTag, fromEarlier⟩ := List.pairwise_append.1 ordered
  have toLater := (List.pairwise_append.1 fromTag).2.2
  rcases List.mem_append.1 inTags with inEarlier | inRest
  · exact .inr (.inl (fromEarlier token inEarlier tag.opening (by simp [tokens])))
  · rcases List.mem_append.1 inRest with inTag | inLater
    · exact .inl inTag
    · exact .inr (.inr (toLater tag.closing (by simp [tokens]) token inLater))

/-- A token that an offset goes through stands in the tag that the offset stands in. -/
theorem InOrder.mem_tokens (inOrder : InOrder tags) (member : tag ∈ tags)
    (begun : tag.opening.span.start < offset) (unclosed : offset < tag.closing.span.stop)
    (inTags : token ∈ tags.flatMap tokens) (starts : token.span.start < offset)
    (stops : offset < token.span.stop) : token ∈ tag.tokens := by
  rcases inOrder.around member inTags with inTag | before | behind
  · exact inTag
  · omega
  · omega

/-- A tag that an offset lies in starts before it, as its opening delimiter is not empty. -/
theorem InOrder.start_lt (inOrder : InOrder tags) (member : tag ∈ tags)
    (straddles : tag.Straddles offset) : tag.opening.span.start < offset :=
  Nat.lt_of_lt_of_le
    (inOrder.nonempty tag.opening ((tokens_isInfix member).subset (List.mem_cons_self ..)))
    straddles.opened

/-- If the offset stands in no tag, the tokens before it are those of the tags before it. -/
theorem InOrder.filter_tokens (inOrder : InOrder tags)
    (outside : ∀ tag ∈ tags, ¬ tag.Straddles offset) :
    (tags.flatMap tokens).filter (·.span.stop ≤ offset) =
      (tags.filter (·.closing.span.stop ≤ offset)).flatMap tokens := by
  have whole : ∀ tag ∈ tags, tag.tokens.filter (·.span.stop ≤ offset) =
      if tag.closing.span.stop ≤ offset then tag.tokens else [] := by
    intro tag member
    split <;> rename_i closed
    · rw [List.filter_eq_self]
      intro token inTag
      have := (inOrder.between member inTag).2
      exact decide_eq_true (by omega)
    · rw [List.filter_eq_nil_iff]
      intro token inTag
      have notOpened : ¬ tag.opening.span.stop ≤ offset := fun opened =>
        outside tag member ⟨opened, Nat.not_le.1 closed⟩
      have nonempty := inOrder.nonempty token ((tokens_isInfix member).subset inTag)
      rw [decide_eq_true_eq]
      rcases (inOrder.between member inTag).1 with rfl | behind <;> omega
  rw [List.filter_flatMap, List.flatMap_congr whole]
  clear whole outside inOrder
  induction tags with
  | nil => rfl
  | cons tag tags inductionHypothesis =>
    rw [List.flatMap_cons, inductionHypothesis, List.filter_cons]
    split <;> rename_i closed <;> simp [closed]

/-- In front of an offset that stands in a tag, the opening delimiter of that tag is the last. -/
theorem InOrder.after?_filter (inOrder : InOrder tags) (member : tag ∈ tags)
    (straddles : tag.Straddles offset) :
    OpenTag.after? ((tags.flatMap tokens).filter (·.span.stop ≤ offset)) =
      some ⟨tag.family, tag.opening⟩ := by
  obtain ⟨earlier, later, rfl⟩ := List.append_of_mem member
  have wellFormed := inOrder.wellFormed tag member
  have nonempty := inOrder.nonempty
  have ordered := inOrder.ordered
  rw [List.flatMap_append, List.flatMap_cons, tokens_append] at nonempty ordered ⊢
  obtain ⟨-, fromTag, fromEarlier⟩ := List.pairwise_append.1 ordered
  have toLater := (List.pairwise_cons.1 (List.pairwise_append.1
    (List.pairwise_cons.1 fromTag).2).2.1).1
  have openingNonempty := nonempty tag.opening (by simp)
  obtain ⟨opened, unclosed⟩ := straddles
  have earlierKept : (earlier.flatMap tokens).filter (·.span.stop ≤ offset) =
      earlier.flatMap tokens := by
    rw [List.filter_eq_self]
    intro token inEarlier
    have := fromEarlier token inEarlier tag.opening (List.mem_cons_self ..)
    exact decide_eq_true (by omega)
  have laterDropped : (later.flatMap tokens).filter (·.span.stop ≤ offset) = [] := by
    rw [List.filter_eq_nil_iff]
    intro token inLater
    have := toLater token inLater
    have := nonempty token (by simp [inLater])
    rw [decide_eq_true_eq]
    omega
  have isOpen := OpenTag.after?_append_opening
    (fun other inEarlier => inOrder.wellFormed other (List.mem_append_left _ inEarlier))
    wellFormed.opens
  rw [List.filter_append, earlierKept, List.filter_cons, if_pos (decide_eq_true opened),
    List.filter_append, List.filter_cons, if_neg (by simpa using unclosed), laterDropped,
    List.append_nil, ← List.singleton_append, ← List.append_assoc, OpenTag.after?,
    List.foldl_append, ← OpenTag.after?, isOpen]
  exact OpenTag.foldl_next?_of_isContent fun token kept =>
    wellFormed.content token (List.mem_filter.1 kept).1

/-- If a tag is open behind the tokens before an offset, the offset stands in it. -/
theorem InOrder.exists_straddles (inOrder : InOrder tags) {opened : OpenTag}
    (isOpen : OpenTag.after? ((tags.flatMap tokens).filter (·.span.stop ≤ offset)) =
      some opened) :
    ∃ tag ∈ tags, tag.Straddles offset := by
  by_contra none
  have outside : ∀ tag ∈ tags, ¬ tag.Straddles offset := fun tag member straddles =>
    none ⟨tag, member, straddles⟩
  rw [inOrder.filter_tokens outside, OpenTag.after?_flatMap_tokens] at isOpen
  · cases isOpen
  · intro tag member
    exact inOrder.wellFormed tag (List.mem_filter.1 member).1

end Tag

namespace Scanner

variable {source : String} {tokens : List Token} {count : Nat} {state : State}

/-- The tags of a scan stand in order. -/
theorem Placed.inOrder {tags : List Tag} (placed : Placed source (tags.flatMap Tag.tokens) state)
    (wellFormed : ∀ tag ∈ tags, tag.WellFormed) : Tag.InOrder tags :=
  ⟨wellFormed, placed.nonempty, placed.ordered⟩

/-- The tokens of a scan end within the source. -/
theorem stop_le_of_tokenize (scanned : tokenize source = .ok tokens) :
    ∀ token ∈ tokens, token.span.stop ≤ source.utf8ByteSize := by
  obtain ⟨_, finish, steps, finishes⟩ := tokensFrom_eq_ok_iff.1 scanned
  have rule := rule_of_step_eq finishes
  have placed := placed_of_steps steps
  intro token member
  rw [← placed.offset_of_finished rule]
  exact placed.behind token member

/-- An opening delimiter has two bytes or more. -/
theorem Steps.two_le_of_isOpening (steps : standard.Steps (.initial source) count tokens state)
    {token : Token} (member : token ∈ tokens) (isOpening : token.isOpening) :
    token.span.start + 2 ≤ token.span.stop := by
  obtain ⟨_, _, _, _, -, rule⟩ := exists_rule_of_mem steps member
  obtain ⟨input, literal, -, opening, -, rfl, -⟩ := rule.opens_of_isOpening isOpening
  have chars := (bounds_of_mem_openings literal (Delimiters.openAt?_eq_some opening).1).1
  have bytes := length_le_byteLength literal.text
  rw [Input.start_token, Input.stop_token]
  omega

/-- A scan of a text in two parts that finds more behind the cut comes to it with the tokens before
it, and the other tokens stop behind it. -/
theorem exists_crossing {before after : String}
    (scanned : tokenize (before ++ after) = .ok tokens) (more : after ≠ "") :
    ∃ count state second finish,
      standard.Steps (.initial (before ++ after)) count
        (tokens.filter (·.span.stop ≤ before.utf8ByteSize)) state ∧
      after.toList.length ≤ state.input.rest.length ∧
      standard.Crossing after.toList.length state finish second ∧
      tokens = tokens.filter (·.span.stop ≤ before.utf8ByteSize) ++ second ∧
      ∀ token ∈ second, token ∈ tokens ∧ before.utf8ByteSize < token.span.stop := by
  obtain ⟨_, finish, steps, finishes⟩ := tokensFrom_eq_ok_iff.1 scanned
  have rule := rule_of_step_eq finishes
  obtain rfl := (placed_of_steps steps).eq_of_finished rule
  have notEmpty : after.toList ≠ [] := by simpa using more
  obtain ⟨count, first, state, second, toCut, ahead, crossing, rfl⟩ :=
    @Steps.exists_crossing _ _ _ _ _ after.toList.length steps
      (by simp [State.initial, Input.ofString]) (List.length_pos_iff.2 notEmpty)
  have placed := placed_of_steps toCut
  obtain ⟨passed, follows⟩ := placed.follows
  obtain ⟨left, -, cut_eq⟩ := follows.exists_left ahead
  have firstKept : first.filter (·.span.stop ≤ before.utf8ByteSize) = first := by
    rw [List.filter_eq_self]
    intro token member
    have := placed.behind token member
    exact decide_eq_true (by omega)
  have stops := fun token member => (crossing.behind_cut toCut token member).1
  have secondDropped : second.filter (·.span.stop ≤ before.utf8ByteSize) = [] := by
    rw [List.filter_eq_nil_iff]
    intro token member
    rw [decide_eq_true_eq]
    exact Nat.not_le.2 (stops token member)
  have kept : (first ++ second).filter (·.span.stop ≤ before.utf8ByteSize) = first := by
    rw [List.filter_append, firstKept, secondDropped, List.append_nil]
  exact ⟨count, state, second, _, kept.symm ▸ toCut, ahead, crossing, by rw [kept],
    fun token member => ⟨List.mem_append_right _ member, stops token member⟩⟩

end Scanner

/-- The error misses the end of the tag, or of a string in it that the offset goes through. -/
inductive LexError.Misses (error : LexError) (tag : Tag) (offset : Nat) : Prop where
  | tag {opened expectedAt} (cause : error.cause = .unterminatedTag opened expectedAt)
      (kind : opened.kind = tag.opening.kind)
      (start : opened.span.start = tag.opening.span.start) : Misses error tag offset
  | string {found token} (cause : error.cause = .unterminatedString found)
      (inside : token ∈ tag.body) (kind : token.kind = .string)
      (starts : token.span.start < offset) (stops : offset < token.span.stop) :
      Misses error tag offset

section

variable {before after : String} {tags : List Tag} {tag : Tag}

/-- A first part that ends inside a tag is not scanned, as the end of the tag is missed. -/
theorem exists_error_of_cut (inOrder : Tag.InOrder tags)
    (scanned : tokenize (before ++ after) = .ok (tags.flatMap Tag.tokens)) (more : after ≠ "")
    (member : tag ∈ tags) (begun : tag.opening.span.start + 2 ≤ before.utf8ByteSize)
    (unclosed : before.utf8ByteSize < tag.closing.span.stop) :
    ∃ error, tokenize before = .error error ∧ error.Misses tag before.utf8ByteSize := by
  obtain ⟨count, state, second, finish, toCut, ahead, crossing, tokens_eq, behindCut⟩ :=
    Scanner.exists_crossing scanned more
  have opened?_eq := Scanner.opened?_of_steps toCut
  by_cases opened : tag.opening.span.stop ≤ before.utf8ByteSize
  · have straddles : tag.Straddles before.utf8ByteSize := ⟨opened, unclosed⟩
    rw [inOrder.after?_filter member straddles] at opened?_eq
    rcases @Scanner.Crossing.exists_error_of_cut _ _ _ _ _ _ _ .skip _ crossing toCut ahead
      opened?_eq with ⟨expectedAt, fails⟩ | ⟨token, inSecond, string, starts, found, fails⟩
    · exact ⟨_, fails, .tag rfl rfl rfl⟩
    · obtain ⟨inTags, stops⟩ := behindCut token inSecond
      have inTag := inOrder.mem_tokens member (by omega) unclosed inTags starts stops
      have content : token.isContent := by
        rw [Token.isContent, string]
        rfl
      exact ⟨_, fails, .string rfl ((inOrder.wellFormed tag member).mem_body inTag content) string
        starts stops⟩
  · -- The cut goes through the opening delimiter, so no tag is open there.
    replace opened := Nat.not_le.1 opened
    have openingInTags : tag.opening ∈ tags.flatMap Tag.tokens :=
      (Tag.tokens_isInfix member).subset (List.mem_cons_self ..)
    have outside : state.opened? = none := by
      by_contra isOpen
      obtain ⟨_, isOpen⟩ := Option.ne_none_iff_exists'.1 isOpen
      rw [opened?_eq] at isOpen
      obtain ⟨other, otherMember, straddles⟩ := inOrder.exists_straddles isOpen
      have inOther := inOrder.mem_tokens otherMember (inOrder.start_lt otherMember straddles)
        straddles.unclosed openingInTags (by omega) opened
      have same := (inOrder.wellFormed other otherMember).eq_opening inOther
        (inOrder.wellFormed tag member).isOpening_opening
      have := straddles.opened
      rw [← same] at this
      omega
    rcases crossing.exists_outcome_of_cut toCut ahead outside with
      ⟨-, later⟩ | ⟨token, inSecond, isOpening, starts, opening, kind, start, expectedAt, fails⟩
    · rw [tokens_eq] at openingInTags
      rcases List.mem_append.1 openingInTags with inFirst | inSecond
      · have := of_decide_eq_true (List.mem_filter.1 inFirst).2
        omega
      · have := later tag.opening inSecond (inOrder.wellFormed tag member).isOpening_opening
        omega
    · obtain ⟨inTags, stops⟩ := behindCut token inSecond
      have inTag := inOrder.mem_tokens member (by omega) unclosed inTags (by omega) stops
      obtain rfl := (inOrder.wellFormed tag member).eq_opening inTag isOpening
      exact ⟨_, fails, .tag rfl kind start⟩

/-- A first part that ends inside no tag is scanned to the tokens in it. -/
theorem tokenize_of_cut (inOrder : Tag.InOrder tags)
    (scanned : tokenize (before ++ after) = .ok (tags.flatMap Tag.tokens)) (more : after ≠ "")
    (outside : ∀ tag ∈ tags, tag.opening.span.start + 2 ≤ before.utf8ByteSize →
      tag.closing.span.stop ≤ before.utf8ByteSize) :
    tokenize before =
      .ok ((tags.flatMap Tag.tokens).filter (·.span.stop ≤ before.utf8ByteSize)) := by
  obtain ⟨count, state, second, finish, toCut, ahead, crossing, -, behindCut⟩ :=
    Scanner.exists_crossing scanned more
  obtain ⟨_, _, steps, -⟩ := Scanner.tokensFrom_eq_ok_iff.1 scanned
  have closed : state.opened? = none := by
    by_contra isOpen
    obtain ⟨_, isOpen⟩ := Option.ne_none_iff_exists'.1 isOpen
    rw [Scanner.opened?_of_steps toCut] at isOpen
    obtain ⟨tag, member, opened, unclosed⟩ := inOrder.exists_straddles isOpen
    have long := steps.two_le_of_isOpening
      ((Tag.tokens_isInfix member).subset (List.mem_cons_self ..))
      (inOrder.wellFormed tag member).isOpening_opening
    have := outside tag member (by omega)
    omega
  rcases crossing.exists_outcome_of_cut toCut ahead closed with
    ⟨found, -⟩ | ⟨token, inSecond, isOpening, starts, -⟩
  · exact found
  · obtain ⟨inTags, stops⟩ := behindCut token inSecond
    obtain ⟨tag, member, inTag⟩ := List.mem_flatMap.1 inTags
    have closes := (inOrder.between member inTag).2
    obtain rfl := (inOrder.wellFormed tag member).eq_opening inTag isOpening
    have := outside tag member starts
    omega

end

/-- A scanned template that is cut at a boundary: from the second character of an opening delimiter
on, and up to the end of its tag, the scan of the first part misses that end or the end of a string
that is cut, too. Anywhere else, it finds the tokens that stand in the first part. -/
theorem tokenize_slice {source : String} {tokens : List Token}
    (scanned : tokenize source = .ok tokens) :
    ∃ tags, Tag.ofTokens tokens = .ok tags ∧ ∀ offset, IsBoundary source offset →
      ∃ before, slice? source 0 offset = some before ∧
        (∀ tag ∈ tags, tag.opening.span.start + 2 ≤ offset → offset < tag.closing.span.stop →
          ∃ error, tokenize before = .error error ∧ error.Misses tag offset) ∧
        ((∀ tag ∈ tags, tag.opening.span.start + 2 ≤ offset → tag.closing.span.stop ≤ offset) →
          tokenize before = .ok (tokens.filter (·.span.stop ≤ offset))) := by
  obtain ⟨tags, tagsScanned, grouped, tokens_eq⟩ :=
    exists_tags_of_scan (Scanner.scan_of_tokens scanned)
  obtain rfl : tokens = tags.flatMap Tag.tokens := tokens_eq
  obtain ⟨_, _, steps, -⟩ := Scanner.tokensFrom_eq_ok_iff.1 scanned
  have inOrder := (Scanner.placed_of_steps steps).inOrder
    fun tag member => (tagsScanned tag member).wellFormed
  refine ⟨tags, grouped, fun offset boundary => ?_⟩
  obtain ⟨before, after, rfl, rfl⟩ := isBoundary_iff.1 boundary
  refine ⟨before, slice?_eq_some_iff.2 ⟨"", after, by simp, rfl, by simp⟩, ?_⟩
  by_cases more : after = ""
  · -- The cut is at the end, and all tokens stand in front of it.
    subst more
    rw [String.append_empty] at scanned
    have bounded := Scanner.stop_le_of_tokenize scanned
    constructor
    · intro tag member begun unclosed
      have := bounded tag.closing ((Tag.tokens_isInfix member).subset (by simp [Tag.tokens]))
      omega
    · intro outside
      rw [scanned, List.filter_eq_self.2 fun token member => decide_eq_true (bounded token member)]
  · exact ⟨fun tag member begun unclosed =>
      exists_error_of_cut inOrder scanned more member begun unclosed,
      tokenize_of_cut inOrder scanned more⟩

/-- A trimmed block with a string: cut in its opening delimiter, in the string, behind the first
character of the opening delimiter and behind the tag. -/
theorem tokenize_slice_trimmed :
    let tag : Tag :=
      ⟨.block, ⟨.opening .block, "\x7b%-", ⟨2, 5, 1, 2⟩⟩, [⟨.string, "'b'", ⟨5, 8, 1, 5⟩⟩],
        ⟨.closing .block, "-%\x7d", ⟨8, 11, 1, 8⟩⟩⟩
    (∃ error, tokenize "é\x7b%" = .error error ∧ error.Misses tag 4) ∧
      (∃ error, tokenize "é\x7b%-'b" = .error error ∧ error.Misses tag 7) ∧
        tokenize "é\x7b" = .ok [] ∧ tokenize "é\x7b%-'b'-%\x7d" = .ok tag.tokens := by
  intro tag
  have scanned : tokenize "é\x7b%-'b'-%\x7dc" = .ok ([tag].flatMap Tag.tokens) := by
    decide +kernel
  obtain ⟨tags, grouped, cuts⟩ := tokenize_slice scanned
  have groups : Tag.ofTokens ([tag].flatMap Tag.tokens) = .ok [tag] := by
    decide +kernel
  obtain rfl : [tag] = tags := Except.ok.inj (groups.symm.trans grouped)
  have cut : ∀ before after : String, "é\x7b%-'b'-%\x7dc" = before ++ after →
      (before.utf8ByteSize < 4 ∨ 11 ≤ before.utf8ByteSize →
        tokenize before = .ok (tag.tokens.filter (·.span.stop ≤ before.utf8ByteSize))) ∧
      (4 ≤ before.utf8ByteSize → before.utf8ByteSize < 11 →
        ∃ error, tokenize before = .error error ∧ error.Misses tag before.utf8ByteSize) := by
    intro before after whole
    obtain ⟨found, sliced, inside, outside⟩ := cuts _ (isBoundary_iff.2 ⟨before, after, whole, rfl⟩)
    obtain rfl : before = found := Option.some.inj
      ((slice?_eq_some_iff.2 ⟨"", after, by simpa using whole, rfl, by simp⟩).symm.trans sliced)
    constructor
    · intro around
      exact outside fun other member begun => by
        obtain rfl := List.mem_singleton.1 member
        exact around.resolve_left (Nat.not_lt.2 begun)
    · exact inside tag (List.mem_singleton.2 rfl)
  refine ⟨?_, ?_, ?_, ?_⟩
  · exact (cut "é\x7b%" "-'b'-%\x7dc" (by decide)).2 (by decide) (by decide)
  · exact (cut "é\x7b%-'b" "'-%\x7dc" (by decide)).2 (by decide) (by decide)
  · exact (cut "é\x7b" "%-'b'-%\x7dc" (by decide)).1 (.inl (by decide))
  · exact (cut "é\x7b%-'b'-%\x7d" "c" (by decide)).1 (.inr (by decide))

end TemplateTags
