import TemplateTags.Proofs.Positions

/-!
# Where no delimiter stands

A scan that succeeds has missed no delimiter: none stands in the text outside every tag or at the
start of what stands inside a tag, and no comment is closed before its end. The literals are
compared with the source itself, at every offset.
-/

namespace TemplateTags

open Text

/-- A gap lies between the tokens of the tags before it and those of the tags after it. -/
theorem PiecesFrom.exists_split_of_mem_gaps {source : String} {reached : Nat} {tags : List Tag}
    {gaps : List TextSegment} (pieces : PiecesFrom source reached (tags.flatMap Tag.tokens))
    (found : Tag.gapsFrom? source reached tags = some gaps) {gap : TextSegment}
    (member : gap ∈ gaps) :
    reached ≤ gap.start ∧ gap.start + gap.text.utf8ByteSize ≤ source.utf8ByteSize ∧
      ∃ earlier later, tags = earlier ++ later ∧
        (∀ token ∈ earlier.flatMap Tag.tokens, token.span.stop ≤ gap.start) ∧
          ∀ token ∈ later.flatMap Tag.tokens,
            gap.start + gap.text.utf8ByteSize ≤ token.span.start := by
  induction tags generalizing reached gaps with
  | nil =>
    obtain ⟨rest, cut, rfl⟩ := Tag.gapsFrom?_nil_eq_some_iff.1 found
    obtain rfl := List.mem_singleton.1 member
    obtain ⟨before, after, source_eq, start_eq, stop_eq⟩ := slice?_eq_some_iff.1 cut
    refine ⟨Nat.le_refl _, ?_, [], [], rfl, by simp, by simp⟩
    exact Nat.le_of_eq stop_eq.symm
  | cons tag tags inductionHypothesis =>
    obtain ⟨gapText, cut, following, foundRest, rfl⟩ := Tag.gapsFrom?_cons_eq_some_iff.1 found
    rw [List.flatMap_cons, Tag.tokens_append] at pieces
    have rest := pieces.tail (tag.opening :: tag.body)
    rcases List.mem_cons.1 member with rfl | later
    · -- The first gap ends where the first tag opens, and all other tokens follow.
      obtain ⟨before, after, source_eq, start_eq, stop_eq⟩ := slice?_eq_some_iff.1 cut
      have ordered := (List.pairwise_cons.1 pieces.ordered).1
      have forward := (pieces.bounds (List.mem_cons_self ..)).2.2
      refine ⟨Nat.le_refl _, ?_, [], tag :: tags, rfl, by simp, ?_⟩
      · have size := congrArg String.utf8ByteSize source_eq
        rw [String.utf8ByteSize_append, String.utf8ByteSize_append] at size
        simp only
        omega
      · intro token member
        rw [List.flatMap_cons, Tag.tokens_append] at member
        rcases List.mem_cons.1 member with rfl | other
        · exact Nat.le_of_eq stop_eq.symm
        · have := ordered token other
          simp only
          omega
    · obtain ⟨behind, bounded, earlier, others, rfl, before, after⟩ :=
        inductionHypothesis rest foundRest later
      have forward : tag.closing.span.start ≤ tag.closing.span.stop :=
        (pieces.bounds (by simp)).2.2
      have reachedClosing := pieces.behind tag.closing (by simp)
      refine ⟨by omega, bounded, tag :: earlier, others, rfl, ?_, after⟩
      intro token member
      rw [List.flatMap_cons] at member
      rcases List.mem_append.1 member with inTag | inEarlier
      · -- Within the tag no token stops behind the closing delimiter.
        rcases List.mem_append.1 inTag with inside | last
        · have ordered := pieces.ordered
          rw [← List.cons_append] at ordered
          have := (List.pairwise_append.1 ordered).2.2 token inside tag.closing (by simp)
          omega
        · obtain rfl := List.mem_singleton.1 last
          exact behind
      · exact before token inEarlier

namespace Scanner

variable {scanner : Scanner} {options : Options} {source : String} {count : Nat}
  {tokens : List Token} {state next : State}

/-- A scan that finishes has read all of the source. -/
theorem Placed.offset_of_finished (placed : Placed source tokens state)
    (rule : scanner.Rule state .finished) :
    state.input.here.offset = source.utf8ByteSize := by
  obtain ⟨passed, follows⟩ := placed.follows
  cases rule
  rw [follows.offset_eq, ← byteLength_toList, follows.text, List.append_nil]

/-- Between tokens, a run came to an offset with the tokens before it and passed over a
character. -/
theorem exists_skip_between {left right : List Token} {offset : Nat}
    (steps : scanner.Steps (.initial source) count (left ++ right) state)
    (boundary : IsBoundary source offset) (passed : offset < state.input.here.offset)
    (behind : ∀ token ∈ left, token.span.stop ≤ offset)
    (ahead : ∀ token ∈ right, offset < token.span.start) :
    ∃ count' reached next, scanner.Steps (.initial source) count' left reached ∧
      reached.input.here.offset = offset ∧ scanner.Rule reached (.skipped next) := by
  have nonempty := (placed_of_steps steps).nonempty
  have leftKept : left.filter (·.span.stop ≤ offset) = left := by
    rw [List.filter_eq_self]
    intro token member
    simpa using behind token member
  have rightDropped : right.filter (·.span.stop ≤ offset) = [] := by
    rw [List.filter_eq_nil_iff]
    intro token member
    have := ahead token member
    have := nonempty token (List.mem_append_right _ member)
    simp only [decide_eq_true_eq]
    omega
  have uncovered : ∀ token ∈ left ++ right,
      token.span.stop ≤ offset ∨ offset < token.span.start := by
    intro token member
    rcases List.mem_append.1 member with inLeft | inRight
    · exact .inl (behind token inLeft)
    · exact .inr (ahead token inRight)
  have skip := exists_skip_of_uncovered steps boundary passed uncovered
  rwa [List.filter_append, leftKept, rightDropped, List.append_nil] at skip

/-- No literal stands where the scanner finds none. -/
theorem not_standsAt_of_none {input : Input} {passed : List Char}
    (follows : input.Follows source passed) (accepted : ofOptions options = .ok scanner)
    (noClose : scanner.delimiters.closeAt? input.rest = none)
    (noOpen : scanner.delimiters.openAt? input.rest = none) (role : DelimiterRole) :
    ¬ StandsAt source input.here.offset (options.literal role) := by
  obtain ⟨-, delimiters_eq, -, -⟩ := ofOptions_eq_ok_iff.1 accepted
  rw [delimiters_eq] at noClose noOpen
  rw [follows.standsAt_iff]
  cases opens : role.isOpening with
  | true => exact Delimiters.openAt?_ofOptions_eq_none_iff.1 noOpen role opens
  | false => exact Delimiters.closeAt?_ofOptions_eq_none_iff.1 noClose role opens

/-- No literal stands where text is passed over outside every tag. -/
theorem Placed.not_standsAt_of_skipped (placed : Placed source tokens state)
    (accepted : ofOptions options = .ok scanner) (rule : scanner.Rule state (.skipped next))
    (outside : state.opened? = none) (role : DelimiterRole) :
    ¬ StandsAt source state.input.here.offset (options.literal role) := by
  obtain ⟨passed, follows⟩ := placed.follows
  cases rule with
  | outerSkipped split noClose noOpen =>
    exact not_standsAt_of_none follows accepted noClose noOpen role
  | commentSkipped => cases outside

/-- The closing delimiter of comments does not stand where text is passed over in a comment. -/
theorem Placed.not_standsAt_of_commentSkipped (placed : Placed source tokens state)
    (accepted : ofOptions options = .ok scanner) (rule : scanner.Rule state (.skipped next))
    {opened : OpenTag} (inside : state.opened? = some opened) :
    ¬ StandsAt source state.input.here.offset options.comment.stop := by
  obtain ⟨passed, follows⟩ := placed.follows
  obtain ⟨-, delimiters_eq, -, -⟩ := ofOptions_eq_ok_iff.1 accepted
  cases rule with
  | outerSkipped => cases inside
  | commentSkipped split kept comment noOwn =>
    rw [delimiters_eq] at noOwn
    rw [follows.standsAt_iff]
    exact Delimiters.closeOf?_ofOptions_eq_none_iff.1 noOwn (.closing .comment) rfl rfl

/-- No literal stands where a token inside a tag starts. -/
theorem not_standsAt_of_isContent (steps : scanner.Steps (.initial source) count tokens state)
    (accepted : ofOptions options = .ok scanner) {token : Token} (member : token ∈ tokens)
    (content : token.isContent) (role : DelimiterRole) :
    ¬ StandsAt source token.span.start (options.literal role) := by
  obtain ⟨count', before, reached, next, prior, rule⟩ := exists_rule_of_mem steps member
  obtain ⟨passed, follows⟩ := (placed_of_steps prior).follows
  cases rule with
  | opens => cases content
  | closes => cases content
  | lexeme split kept noComment noClose noOpen =>
    rw [Input.start_token]
    exact not_standsAt_of_none follows accepted noClose noOpen role

/-- No literal stands in a gap of a run that finishes. -/
theorem not_standsAt_of_mem_gaps {tags : List Tag} {gaps : List TextSegment}
    (steps : scanner.Steps (.initial source) count (tags.flatMap Tag.tokens) state)
    (finishes : scanner.Rule state .finished) (accepted : ofOptions options = .ok scanner)
    (wellFormed : ∀ tag ∈ tags, tag.WellFormed)
    (found : Tag.gapsFrom? source 0 tags = some gaps) {gap : TextSegment} (member : gap ∈ gaps)
    {offset : Nat} (notBefore : gap.start ≤ offset)
    (inside : offset < gap.start + gap.text.utf8ByteSize) (role : DelimiterRole) :
    ¬ StandsAt source offset (options.literal role) := by
  intro stands
  have placed := placed_of_steps steps
  obtain ⟨-, bounded, earlier, later, rfl, before, after⟩ :=
    placed.pieces.exists_split_of_mem_gaps found member
  have passed : offset < state.input.here.offset := by
    rw [placed.offset_of_finished finishes]
    omega
  rw [List.flatMap_append] at steps
  obtain ⟨count', reached, next, prior, rfl, rule⟩ :=
    exists_skip_between steps stands.isBoundary passed
      (fun token earlierMember => Nat.le_trans (before token earlierMember) notBefore)
      (fun token laterMember => Nat.lt_of_lt_of_le inside (after token laterMember))
  -- Behind whole tags no tag is open.
  have outside : reached.opened? = none := by
    rw [opened?_of_steps prior]
    exact OpenTag.after?_flatMap_tokens fun tag earlierTag =>
      wellFormed tag (List.mem_append_left _ earlierTag)
  exact (placed_of_steps prior).not_standsAt_of_skipped accepted rule outside role stands

/-- The closing delimiter of comments does not stand inside a comment of a run. -/
theorem not_standsAt_of_comment {tags : List Tag}
    (steps : scanner.Steps (.initial source) count (tags.flatMap Tag.tokens) state)
    (accepted : ofOptions options = .ok scanner) (scanned : ∀ tag ∈ tags, tag.Scanned)
    {tag : Tag} (member : tag ∈ tags) (comment : tag.family = .comment) {offset : Nat}
    (notBefore : tag.opening.span.stop ≤ offset) (inside : offset < tag.closing.span.start) :
    ¬ StandsAt source offset options.comment.stop := by
  intro stands
  have placed := placed_of_steps steps
  have tagScanned := scanned tag member
  have noBody := tagScanned.begun.silent comment
  obtain ⟨earlier, later, rfl⟩ := List.append_of_mem member
  have tokens_eq : (earlier ++ tag :: later).flatMap Tag.tokens =
      (earlier.flatMap Tag.tokens ++ [tag.opening]) ++
        tag.closing :: later.flatMap Tag.tokens := by
    simp [Tag.tokens, noBody]
  rw [tokens_eq] at steps placed
  have ordered := List.pairwise_append.1 placed.ordered
  have passed : offset < state.input.here.offset := by
    have := placed.behind tag.closing (by simp)
    have := placed.nonempty tag.closing (by simp)
    omega
  have behind : ∀ token ∈ earlier.flatMap Tag.tokens ++ [tag.opening],
      token.span.stop ≤ offset := by
    intro token tokenMember
    rcases List.mem_append.1 tokenMember with before | last
    · have := (List.pairwise_append.1 ordered.1).2.2 token before tag.opening (by simp)
      have := placed.nonempty tag.opening (by simp)
      omega
    · obtain rfl := List.mem_singleton.1 last
      exact notBefore
  have ahead : ∀ token ∈ tag.closing :: later.flatMap Tag.tokens,
      offset < token.span.start := by
    refine List.forall_mem_cons.2 ⟨inside, ?_⟩
    intro token tokenMember
    have := (List.pairwise_cons.1 ordered.2.1).1 token tokenMember
    have := placed.nonempty tag.closing (by simp)
    omega
  obtain ⟨count', reached, next, prior, rfl, rule⟩ :=
    exists_skip_between steps stands.isBoundary passed behind ahead
  have opened : reached.opened? = some ⟨tag.family, tag.opening⟩ := by
    rw [opened?_of_steps prior]
    exact OpenTag.after?_append_opening
      (fun other otherMember => (scanned other (List.mem_append_left _ otherMember)).wellFormed)
      tagScanned.begun.opens
  exact (placed_of_steps prior).not_standsAt_of_commentSkipped accepted rule opened stands

end Scanner

/-- A scan that succeeds has missed no delimiter: no literal stands anywhere in the text outside
every tag, nor where a token inside a block or a variable tag starts, and the closing delimiter of
comments stands nowhere between the delimiters of a comment. -/
theorem undelimited_of_scan {options : Options} {source : String} {result : Scan}
    (scanned : scan options source = .ok result) :
    ∃ tags segments, Tag.ofTokens result.tokens = .ok tags ∧
      result.textSegments? = some segments ∧
      (∀ segment ∈ segments, ∀ offset, segment.start ≤ offset →
        offset < segment.start + segment.text.utf8ByteSize →
          ∀ role, ¬ StandsAt source offset (options.literal role)) ∧
      ∀ tag ∈ tags,
        (tag.family = .comment → ∀ offset, tag.opening.span.stop ≤ offset →
          offset < tag.closing.span.start → ¬ StandsAt source offset options.comment.stop) ∧
        (tag.family ≠ .comment → ∀ token ∈ tag.body,
          ∀ role, ¬ StandsAt source token.span.start (options.literal role)) := by
  obtain ⟨tags, tagsScanned, grouped, tokens_eq⟩ := exists_tags_of_scan scanned
  obtain ⟨rfl, scanner, count, state, accepted, steps, finishes⟩ := exists_steps_of_scan scanned
  have wellFormed : ∀ tag ∈ tags, tag.WellFormed :=
    fun tag member => (tagsScanned tag member).wellFormed
  rw [tokens_eq] at steps
  obtain ⟨gaps, -, gapsCut, -⟩ := (Scanner.placed_of_steps steps).pieces.exists_gaps_regions
  refine ⟨tags, gaps.filter (·.text ≠ ""), grouped, ?_, ?_, ?_⟩
  · rw [Scan.textSegments?, tokens_eq]
    exact Scan.segmentsFrom?_flatMap_tokens wellFormed gapsCut
  · intro segment member offset notBefore inside role
    exact Scanner.not_standsAt_of_mem_gaps steps finishes accepted wellFormed gapsCut
      (List.mem_filter.1 member).1 notBefore inside role
  · intro tag member
    refine ⟨?_, ?_⟩
    · intro comment offset notBefore inside
      exact Scanner.not_standsAt_of_comment steps accepted tagsScanned member comment notBefore
        inside
    · intro _ token inBody role
      have inTokens := Tag.mem_flatMap_tokens_of_mem_body member inBody
      exact Scanner.not_standsAt_of_isContent steps accepted inTokens
        ((wellFormed tag member).content token inBody) role

/-- The start of a closing literal before a comment, and a closing literal of blocks in it. -/
theorem undelimited_of_scan_foreign_close :
    let options : Options := { block := ⟨"<%", "%>"⟩, comment := ⟨"<#", "#>"⟩ }
    let source := "-%<#%>#>\x7b\x7b a\x7d\x7d"
    ∃ result, scan options source = .ok result ∧
      ∃ tags segments, Tag.ofTokens result.tokens = .ok tags ∧
        result.textSegments? = some segments ∧
        (∀ segment ∈ segments, ∀ offset, segment.start ≤ offset →
          offset < segment.start + segment.text.utf8ByteSize →
            ∀ role, ¬ StandsAt source offset (options.literal role)) ∧
        ∀ tag ∈ tags,
          (tag.family = .comment → ∀ offset, tag.opening.span.stop ≤ offset →
            offset < tag.closing.span.start → ¬ StandsAt source offset options.comment.stop) ∧
          (tag.family ≠ .comment → ∀ token ∈ tag.body,
            ∀ role, ¬ StandsAt source token.span.start (options.literal role)) := by
  intro options source
  let result : Scan :=
    ⟨source,
      [⟨.opening .comment, "<#", ⟨2, 4, 1, 3⟩⟩, ⟨.closing .comment, "#>", ⟨6, 8, 1, 7⟩⟩,
        ⟨.opening .var, "\x7b\x7b", ⟨8, 10, 1, 9⟩⟩, ⟨.whitespace, " ", ⟨10, 11, 1, 11⟩⟩,
        ⟨.symbol, "a", ⟨11, 12, 1, 12⟩⟩, ⟨.closing .var, "\x7d\x7d", ⟨12, 14, 1, 13⟩⟩]⟩
  have scanned : scan options source = .ok result := by
    decide +kernel
  exact ⟨result, scanned, undelimited_of_scan scanned⟩

end TemplateTags
