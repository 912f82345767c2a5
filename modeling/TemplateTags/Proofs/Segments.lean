import TemplateTags.Proofs.Acceptance
import TemplateTags.Proofs.Reassembly

/-!
# Text segments of tokens put together by hand

The text segments look at two ends of each tag only, and take it for granted that they can be cut
there. Putting a source together looks at every end of every token. So where a source can be put
together, its text segments are there too, whatever the tokens are. If the tokens group into tags
besides, the segments are the gaps around the tags that are not empty, and if no span ends before it
starts, no two of them overlap.
-/

namespace TemplateTags

open Text

/-- Text segments can be cut out at boundaries, in whatever order these come: a segment that would
end before it starts is left out. -/
theorem Scan.isSome_segmentsFrom? {source : String} {reached : Nat} {tokens : List Token}
    (boundary : IsBoundary source reached)
    (bounds : ∀ token ∈ tokens,
      IsBoundary source token.span.start ∧ IsBoundary source token.span.stop) :
    (segmentsFrom? source reached tokens).isSome := by
  induction tokens generalizing reached with
  | nil =>
    obtain ⟨rest, cut⟩ := boundary.exists_sliceFrom?
    rw [segmentsFrom?, cut]
    split <;> rfl
  | cons token tokens inductionHypothesis =>
    obtain ⟨⟨startBoundary, stopBoundary⟩, others⟩ := List.forall_mem_cons.1 bounds
    rw [segmentsFrom?]
    split
    case isTrue ahead =>
      have ordered : reached ≤ token.span.start :=
        Nat.le_of_lt (of_decide_eq_true (Bool.and_eq_true_iff.1 ahead).2)
      obtain ⟨gap, gapCut⟩ := boundary.exists_slice? startBoundary ordered
      obtain ⟨following, found⟩ := Option.isSome_iff_exists.1
        (inductionHypothesis boundary others)
      rw [gapCut, found]
      rfl
    case isFalse =>
      refine inductionHypothesis ?_ others
      split <;> assumption

/-- The second segment starts where the first one ends, or further on. -/
def TextSegment.Precedes (first second : TextSegment) : Prop :=
  first.start + first.text.utf8ByteSize ≤ second.start

namespace FitsFrom

variable {source : String} {reached : Nat} {token : Token} {tokens : List Token} {tags : List Tag}

/-- What follows a token fits from the end of that token on. -/
theorem tail (before : List Token) {after : List Token}
    (fits : FitsFrom source reached (before ++ token :: after)) :
    FitsFrom source token.span.stop after := by
  induction before generalizing reached with
  | nil => exact (cons_iff.1 fits).2
  | cons first before inductionHypothesis => exact inductionHypothesis (cons_iff.1 fits).2

/-- If no span ends before it starts, all tokens start behind the offset. -/
theorem le_start (fits : FitsFrom source reached tokens)
    (forward : ∀ token ∈ tokens, token.span.start ≤ token.span.stop) :
    ∀ token ∈ tokens, reached ≤ token.span.start := by
  induction tokens generalizing reached with
  | nil => exact List.forall_mem_nil _
  | cons first tokens inductionHypothesis =>
    obtain ⟨firstForward, othersForward⟩ := List.forall_mem_cons.1 forward
    have here := fits.behind first rfl
    refine List.forall_mem_cons.2 ⟨here, ?_⟩
    intro later member
    have behind := inductionHypothesis (cons_iff.1 fits).2 othersForward later member
    omega

/-- Where the tokens of tags fit, there is a gap before, between and behind the tags. -/
theorem exists_gaps (fits : FitsFrom source reached (tags.flatMap Tag.tokens)) :
    ∃ gaps, Tag.gapsFrom? source reached tags = some gaps := by
  induction tags generalizing reached with
  | nil =>
    obtain ⟨rest, cut⟩ := fits.boundary.exists_sliceFrom?
    exact ⟨_, Tag.gapsFrom?_nil_eq_some_iff.2 ⟨rest, cut, rfl⟩⟩
  | cons tag tags inductionHypothesis =>
    rw [List.flatMap_cons, Tag.tokens_append] at fits
    obtain ⟨gap, gapCut⟩ := Option.isSome_iff_exists.1 (cons_iff.1 fits).1
    obtain ⟨following, found⟩ := inductionHypothesis (fits.tail (tag.opening :: tag.body))
    exact ⟨_, Tag.gapsFrom?_cons_eq_some_iff.2 ⟨gap, gapCut, following, found, rfl⟩⟩

/-- If moreover no span ends before it starts, the gaps follow one another from the offset on. -/
theorem pairwise_precedes {gaps : List TextSegment}
    (fits : FitsFrom source reached (tags.flatMap Tag.tokens))
    (forward : ∀ token ∈ tags.flatMap Tag.tokens, token.span.start ≤ token.span.stop)
    (found : Tag.gapsFrom? source reached tags = some gaps) :
    (∀ gap ∈ gaps, reached ≤ gap.start) ∧ gaps.Pairwise TextSegment.Precedes := by
  induction tags generalizing reached gaps with
  | nil =>
    obtain ⟨rest, -, rfl⟩ := Tag.gapsFrom?_nil_eq_some_iff.1 found
    exact ⟨by simp, List.pairwise_singleton ..⟩
  | cons tag tags inductionHypothesis =>
    obtain ⟨gap, gapCut, following, foundRest, rfl⟩ := Tag.gapsFrom?_cons_eq_some_iff.1 found
    rw [List.flatMap_cons, Tag.tokens_append] at fits forward
    obtain ⟨openingForward, insideForward⟩ := List.forall_mem_cons.1 forward
    obtain ⟨-, closingForward⟩ := List.forall_mem_append.1 insideForward
    obtain ⟨closingForward, othersForward⟩ := List.forall_mem_cons.1 closingForward
    obtain ⟨behind, ordered⟩ := inductionHypothesis (fits.tail (tag.opening :: tag.body))
      othersForward foundRest
    -- The gap ends where the tag opens, and the gaps behind it start where the tag closes.
    obtain ⟨-, -, -, -, gapStop⟩ := slice?_eq_some_iff.1 gapCut
    have inTag : tag.opening.span.stop ≤ tag.closing.span.start :=
      (cons_iff.1 fits).2.le_start insideForward tag.closing (by simp)
    refine ⟨List.forall_mem_cons.2 ⟨Nat.le_refl _, ?_⟩, List.pairwise_cons.2 ⟨?_, ordered⟩⟩
    · intro later member
      have := behind later member
      omega
    · intro later member
      have := behind later member
      simp only [TextSegment.Precedes]
      omega

end FitsFrom

/-- Where a source can be put together from tokens, there are text segments and an outer text. If
the tokens group into tags, the text segments are the gaps around the tags that are not empty. If
moreover no span ends before it starts, these follow one another. -/
theorem textSegments?_of_reassemble? {scan : Scan} {whole : String}
    (reassembled : scan.reassemble? = some whole) :
    (∃ segments, scan.textSegments? = some segments) ∧ (∃ text, scan.outerText? = some text) ∧
      ∀ tags, Tag.ofTokens scan.tokens = .ok tags →
        ∃ gaps, Tag.gapsFrom? scan.source 0 tags = some gaps ∧
          scan.textSegments? = some (gaps.filter (·.text ≠ "")) ∧
            ((∀ token ∈ scan.tokens, token.span.start ≤ token.span.stop) →
              (gaps.filter (·.text ≠ "")).Pairwise TextSegment.Precedes) := by
  have accepted : scan.reassemble?.isSome := Option.isSome_of_eq_some reassembled
  have fits := Scan.fits_iff.1 (Scan.isSome_reassemble?_iff.1 accepted)
  obtain ⟨segments, found⟩ := Option.isSome_iff_exists.1
    (Scan.isSome_segmentsFrom? fits.boundary fits.bounds)
  refine ⟨⟨segments, found⟩, ⟨_, congrArg (Option.map _) found⟩, ?_⟩
  intro tags grouped
  obtain ⟨wellFormed, tokens_eq⟩ := Tag.ofTokens_eq_ok_iff.1 grouped
  rw [← tokens_eq] at fits
  obtain ⟨gaps, gapsFound⟩ := fits.exists_gaps
  refine ⟨gaps, gapsFound, ?_, ?_⟩
  · rw [Scan.textSegments?, ← tokens_eq]
    exact Scan.segmentsFrom?_flatMap_tokens wellFormed gapsFound
  · intro forward
    rw [← tokens_eq] at forward
    exact (fits.pairwise_precedes forward gapsFound).2.filter _

/-- A closing delimiter that stands alone and ends before it starts; and two tags next to each
other, the first with its content exchanged and the second without its own. -/
theorem textSegments?_of_reassemble?_edited :
    let stray : Scan :=
      ⟨"é<a>b", [⟨.closing .var, ">", ⟨4, 2, 1, 4⟩⟩, ⟨.opening .var, "<", ⟨2, 3, 1, 2⟩⟩]⟩
    let first : Tag :=
      ⟨.var, ⟨.opening .var, "<", ⟨2, 3, 1, 2⟩⟩, [⟨.string, "'>'", ⟨4, 4, 7, 7⟩⟩],
        ⟨.closing .var, ">", ⟨4, 5, 1, 4⟩⟩⟩
    let second : Tag :=
      ⟨.var, ⟨.opening .var, "<", ⟨5, 6, 1, 5⟩⟩, [], ⟨.closing .var, ">", ⟨7, 8, 1, 7⟩⟩⟩
    let edited : Scan := ⟨"é<a><b>c", first.tokens ++ second.tokens⟩
    (stray.reassemble? = some "é<a><a>b" ∧ (∃ segments, stray.textSegments? = some segments) ∧
        ∃ text, stray.outerText? = some text) ∧
      edited.reassemble? = some "é<a'>'><b>c" ∧
      Tag.ofTokens edited.tokens = .ok [first, second] ∧
      (∀ token ∈ edited.tokens, token.span.start ≤ token.span.stop) ∧
      ∃ gaps, Tag.gapsFrom? edited.source 0 [first, second] = some gaps ∧
        edited.textSegments? = some (gaps.filter (·.text ≠ "")) ∧
          (gaps.filter (·.text ≠ "")).Pairwise TextSegment.Precedes := by
  intro stray first second edited
  have strayReassembled : stray.reassemble? = some "é<a><a>b" := by
    decide +kernel
  have reassembled : edited.reassemble? = some "é<a'>'><b>c" := by
    decide +kernel
  have grouped : Tag.ofTokens edited.tokens = .ok [first, second] := by
    decide +kernel
  have forward : ∀ token ∈ edited.tokens, token.span.start ≤ token.span.stop := by
    decide
  obtain ⟨segments, text, -⟩ := textSegments?_of_reassemble? strayReassembled
  obtain ⟨-, -, tags⟩ := textSegments?_of_reassemble? reassembled
  obtain ⟨gaps, found, segments_eq, ordered⟩ := tags _ grouped
  exact ⟨⟨strayReassembled, segments, text⟩, reassembled, grouped, forward, gaps, found,
    segments_eq, ordered forward⟩

end TemplateTags
