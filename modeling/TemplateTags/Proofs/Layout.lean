import Mathlib.Data.List.Chain
import TemplateTags.Proofs.Balance
import TemplateTags.Proofs.Partition

/-!
# The layout of a template

A template is a gap, a tag, a gap and so on to a last gap. `Tag.gapsFrom?` and `Tag.region?` cut it
there, at the offsets that the tags give. What is read as the text segments of a scan are the gaps
that are not empty.

Inside a tag that is no comment nothing is passed over, so its tokens tile its region. Along a run
this is `Scanner.Tiled`: a token starts where the one before stops, unless it opens a tag or closes
a comment.
-/

namespace TemplateTags

open Text

namespace Tag

/-- The text from the start of the tag to its end. -/
def region? (source : String) (tag : Tag) : Option String :=
  slice? source tag.opening.span.start tag.closing.span.stop

/-- The texts before, between and after the tags from the offset `reached` on, the empty ones
too. -/
def gapsFrom? (source : String) (reached : Nat) : List Tag → Option (List TextSegment)
  | [] => do
    let rest ← sliceFrom? source reached
    return [⟨reached, rest⟩]
  | tag :: tags => do
    let gap ← slice? source reached tag.opening.span.start
    let following ← gapsFrom? source tag.closing.span.stop tags
    return ⟨reached, gap⟩ :: following

/-- Behind the last tag there is one gap, up to the end of the source. -/
theorem gapsFrom?_nil_eq_some_iff {source : String} {reached : Nat} {gaps : List TextSegment} :
    gapsFrom? source reached [] = some gaps ↔
      ∃ rest, sliceFrom? source reached = some rest ∧ [⟨reached, rest⟩] = gaps := by
  simp [gapsFrom?, Option.bind_eq_some_iff]

/-- Up to a tag there is one gap, and the next one starts where the tag is closed. -/
theorem gapsFrom?_cons_eq_some_iff {source : String} {reached : Nat} {tag : Tag} {tags : List Tag}
    {gaps : List TextSegment} :
    gapsFrom? source reached (tag :: tags) = some gaps ↔
      ∃ gap, slice? source reached tag.opening.span.start = some gap ∧
        ∃ following, gapsFrom? source tag.closing.span.stop tags = some following ∧
          ⟨reached, gap⟩ :: following = gaps := by
  simp [gapsFrom?, Option.bind_eq_some_iff]

end Tag

/-- Texts of the first and the second list by turns. -/
def interleave : List String → List String → List String
  | first :: firsts, second :: seconds => first :: second :: interleave firsts seconds
  | firsts, [] => firsts
  | [], seconds => seconds

/-! ## Text segments -/

/-- Content has no part in where text segments start and stop. -/
theorem Scan.segmentsFrom?_append_of_isContent {source : String} {reached : Nat}
    {body : List Token} (content : ∀ token ∈ body, token.isContent) (others : List Token) :
    segmentsFrom? source reached (body ++ others) = segmentsFrom? source reached others := by
  induction body with
  | nil => rfl
  | cons token body inductionHypothesis =>
    obtain ⟨notOpening, notClosing⟩ := Kind.isContent_iff.1 (content token (by simp))
    rw [List.cons_append, segmentsFrom?]
    simp only [Token.isOpening, notOpening, Token.isClosing, notClosing, Bool.false_and,
      Bool.false_eq_true, if_false]
    apply inductionHypothesis
    intro other member
    exact content other (List.mem_cons_of_mem _ member)

/-- Behind its opening delimiter a tag only moves the segments on to where it ends. -/
theorem Tag.WellFormed.segmentsFrom?_append {source : String} {reached : Nat} {tag : Tag}
    (wellFormed : tag.WellFormed) (others : List Token) :
    Scan.segmentsFrom? source reached (tag.body ++ tag.closing :: others) =
      Scan.segmentsFrom? source tag.closing.span.stop others := by
  rw [Scan.segmentsFrom?_append_of_isContent wellFormed.content, Scan.segmentsFrom?]
  simp [wellFormed.isOpening_closing, wellFormed.isClosing_closing]

/-- The text segments are the gaps that are not empty. -/
theorem Scan.segmentsFrom?_flatMap_tokens {source : String} {reached : Nat} {tags : List Tag}
    {gaps : List TextSegment} (wellFormed : ∀ tag ∈ tags, tag.WellFormed)
    (found : Tag.gapsFrom? source reached tags = some gaps) :
    segmentsFrom? source reached (tags.flatMap Tag.tokens) =
      some (gaps.filter (·.text ≠ "")) := by
  induction tags generalizing reached gaps with
  | nil =>
    obtain ⟨rest, cut, rfl⟩ := Tag.gapsFrom?_nil_eq_some_iff.1 found
    rw [List.flatMap_nil, segmentsFrom?]
    by_cases ahead : reached < source.utf8ByteSize
    · have notEmpty := (lt_iff_ne_empty_of_slice? cut).1 ahead
      simp [ahead, cut, notEmpty]
    · have empty : rest = "" := by
        simpa [ahead] using lt_iff_ne_empty_of_slice? cut
      simp [ahead, empty]
  | cons tag tags inductionHypothesis =>
    obtain ⟨gap, cut, following, foundRest, rfl⟩ := Tag.gapsFrom?_cons_eq_some_iff.1 found
    have tagWellFormed := wellFormed tag (List.mem_cons_self ..)
    have rest : segmentsFrom? source tag.closing.span.stop (tags.flatMap Tag.tokens) =
        some (following.filter (·.text ≠ "")) := by
      apply inductionHypothesis _ foundRest
      intro later member
      exact wellFormed later (List.mem_cons_of_mem _ member)
    rw [List.flatMap_cons, Tag.tokens_append, segmentsFrom?]
    -- Only the opening delimiter looks at the gap; what follows it is read the same either way.
    simp only [tagWellFormed.isOpening_opening, tagWellFormed.isClosing_opening,
      tagWellFormed.segmentsFrom?_append, rest]
    by_cases ahead : reached < tag.opening.span.start
    · have notEmpty := (lt_iff_ne_empty_of_slice? cut).1 ahead
      simp [ahead, cut, notEmpty]
    · have empty : gap = "" := by
        simpa [ahead] using lt_iff_ne_empty_of_slice? cut
      simp [ahead, empty]

/-! ## Gaps and regions -/

/-- There is a text from any token to the end of a later one. -/
theorem PiecesFrom.exists_region {source : String} {reached : Nat} {first last : Token}
    {between after : List Token}
    (pieces : PiecesFrom source reached (first :: (between ++ last :: after))) :
    ∃ text, slice? source first.span.start last.span.stop = some text := by
  have member : last ∈ between ++ last :: after := by simp
  obtain ⟨startBoundary, -, firstForward⟩ := pieces.bounds (List.mem_cons_self ..)
  obtain ⟨-, stopBoundary, lastForward⟩ := pieces.bounds (List.mem_cons_of_mem _ member)
  have inOrder := (List.pairwise_cons.1 pieces.ordered).1 last member
  exact startBoundary.exists_slice? stopBoundary (by omega)

/-- Where the tokens of tags are pieces of a text, the gaps and the regions of the tags by turns
make up the text. -/
theorem PiecesFrom.exists_gaps_regions {source : String} {reached : Nat} {tags : List Tag}
    (pieces : PiecesFrom source reached (tags.flatMap Tag.tokens)) :
    ∃ gaps regions, Tag.gapsFrom? source reached tags = some gaps ∧
      tags.mapM (Tag.region? source) = some regions ∧
        sliceFrom? source reached =
          some (String.join (interleave (gaps.map (·.text)) regions)) := by
  induction tags generalizing reached with
  | nil =>
    obtain ⟨rest, cut⟩ := pieces.exists_rest
    refine ⟨[⟨reached, rest⟩], [], ?_, rfl, ?_⟩
    · exact Tag.gapsFrom?_nil_eq_some_iff.2 ⟨rest, cut, rfl⟩
    · simp [interleave, cut]
  | cons tag tags inductionHypothesis =>
    rw [List.flatMap_cons, Tag.tokens_append] at pieces
    obtain ⟨gap, gapCut⟩ := pieces.exists_gap (List.mem_cons_self ..)
    obtain ⟨region, regionCut⟩ := pieces.exists_region
    obtain ⟨following, regions, found, cut, restCut⟩ :=
      inductionHypothesis (pieces.tail (tag.opening :: tag.body))
    refine ⟨⟨reached, gap⟩ :: following, region :: regions, ?_, ?_, ?_⟩
    · exact Tag.gapsFrom?_cons_eq_some_iff.2 ⟨gap, gapCut, following, found, rfl⟩
    · simp [Tag.region?, regionCut, cut]
    · rw [List.map_cons, interleave, String.join_cons, String.join_cons]
      exact slice?_append_slice? gapCut (slice?_append_slice? regionCut restCut)

/-! ## Tiling -/

/-- The second token starts where the first one stops. -/
def Token.Meets (first second : Token) : Prop :=
  first.span.stop = second.span.start

/-- The second token starts where the first one stops, unless it opens a tag or closes a
comment. -/
def Token.Joins (first second : Token) : Prop :=
  second.isOpening = false → second.kind ≠ .closing .comment → first.Meets second

namespace Scanner

/-- What a run keeps to: tokens join, and in a tag that is no comment the last token stops where
the run has come to. -/
structure Tiled (tokens : List Token) (state : State) : Prop where
  joined : tokens.IsChain Token.Joins
  reached : ∀ opened, state.opened? = some opened → opened.family ≠ .comment →
    ∀ last ∈ tokens.getLast?, last.span.stop = state.input.here.offset

variable {scanner : Scanner} {state next : State} {tokens : List Token} {token : Token}

/-- Text is passed over only outside every tag and in comments. -/
theorem Rule.comment_of_skipped (rule : scanner.Rule state (.skipped next)) {opened : OpenTag}
    (isOpen : state.opened? = some opened) : opened.family = .comment := by
  cases rule with
  | outerSkipped => cases isOpen
  | commentSkipped _ _ comment =>
    cases isOpen
    exact comment

/-- A token that neither opens a tag nor closes a comment stands in a tag that is no comment. -/
theorem Rule.noComment_of_emitted (rule : scanner.Rule state (.emitted token next))
    (noOpening : token.isOpening = false) (noEnd : token.kind ≠ .closing .comment) :
    ∃ opened, state.opened? = some opened ∧ opened.family ≠ .comment := by
  cases rule with
  | opens => cases noOpening
  | @closes input opened literal =>
    refine ⟨opened, rfl, ?_⟩
    intro comment
    exact noEnd (congrArg Kind.closing comment)
  | lexeme _ _ noComment => exact ⟨_, rfl, noComment⟩

/-- Passing over text keeps the tokens tiled, as it happens only outside every tag and in
comments. -/
theorem Tiled.skipped (tiled : Tiled tokens state) (rule : scanner.Rule state (.skipped next)) :
    Tiled tokens next := by
  obtain ⟨_, _, _, rfl⟩ := rule.skips
  refine ⟨tiled.joined, ?_⟩
  intro opened isOpen noComment
  exact absurd (rule.comment_of_skipped isOpen) noComment

/-- A token keeps the others tiled, as it starts where the run has come to. -/
theorem Tiled.emitted (tiled : Tiled tokens state)
    (rule : scanner.Rule state (.emitted token next)) : Tiled (tokens ++ [token]) next := by
  obtain ⟨kind, text, -, -, token_eq, input_eq, -⟩ := rule.emits
  have starts : token.span.start = state.input.here.offset := by simp [token_eq]
  have stops : token.span.stop = next.input.here.offset := by simp [token_eq, input_eq]
  constructor
  · -- The last token before this one stops here, as a tag that is no comment is open.
    refine List.isChain_append.2 ⟨tiled.joined, List.isChain_singleton _, ?_⟩
    intro last isLast first isFirst noOpening noEnd
    obtain rfl : token = first := by simpa using isFirst
    obtain ⟨opened, isOpen, noComment⟩ := rule.noComment_of_emitted noOpening noEnd
    rw [Token.Meets, starts]
    exact tiled.reached opened isOpen noComment last isLast
  · intro _ _ _ last isLast
    obtain rfl : token = last := by simpa using isLast
    exact stops

/-- However far a scan has come, its tokens are tiled. -/
theorem tiled_of_steps {source : String} {count : Nat}
    (steps : scanner.Steps (.initial source) count tokens state) : Tiled tokens state := by
  have invariant : scanner.Invariant (.initial source) Tiled :=
    { initial := ⟨List.isChain_nil, by simp⟩
      skipped := Tiled.skipped
      emitted := Tiled.emitted }
  exact invariant.of_steps steps

end Scanner

/-- Only the first token of a well-formed tag opens one, and only the last closes one. -/
theorem Tag.WellFormed.meets_of_joins {tag : Tag} (wellFormed : tag.WellFormed)
    (noComment : tag.family ≠ .comment) {first second : Token} (member : second ∈ tag.tokens.tail)
    (joins : first.Joins second) : first.Meets second := by
  rcases List.mem_append.1 member with inBody | last
  · obtain ⟨notOpening, notClosing⟩ := Kind.isContent_iff.1 (wellFormed.content second inBody)
    apply joins notOpening
    intro closing
    rw [closing] at notClosing
    cases notClosing
  · obtain rfl := List.mem_singleton.1 last
    apply joins wellFormed.isOpening_closing
    rw [wellFormed.closes]
    simpa using noComment

/-- Where tokens join, those of a well-formed tag that is no comment meet. -/
theorem Tag.WellFormed.isChain_meets {tag : Tag} {tokens : List Token}
    (wellFormed : tag.WellFormed) (noComment : tag.family ≠ .comment)
    (joined : tokens.IsChain Token.Joins) (part : tag.tokens <:+: tokens) :
    tag.tokens.IsChain Token.Meets := by
  have joins : tag.tokens.IsChain Token.Joins := List.IsChain.infix joined part
  apply joins.imp_of_mem_tail_imp
  intro first second _ member joins
  exact wellFormed.meets_of_joins noComment member joins

/-- A scanned template is its gaps and the regions of its tags by turns. The text segments are the
gaps that are not empty, the tokens of a block or a variable tag meet, and a comment has none
inside. -/
theorem layout_of_scan {options : Options} {source : String} {result : Scan}
    (scanned : scan options source = .ok result) :
    ∃ tags gaps regions, Tag.ofTokens result.tokens = .ok tags ∧
      Tag.gapsFrom? source 0 tags = some gaps ∧
      tags.mapM (Tag.region? source) = some regions ∧
      result.textSegments? = some (gaps.filter (·.text ≠ "")) ∧
      String.join (interleave (gaps.map (·.text)) regions) = source ∧
      ∀ tag ∈ tags, (tag.family ≠ .comment → tag.tokens.IsChain Token.Meets) ∧
        (tag.family = .comment → tag.body = []) := by
  obtain ⟨tags, tagsScanned, grouped, tokens_eq⟩ := exists_tags_of_scan scanned
  obtain ⟨rfl, scanner, count, state, -, steps, -⟩ := exists_steps_of_scan scanned
  have pieces := (Scanner.placed_of_steps steps).pieces
  have joined := (Scanner.tiled_of_steps steps).joined
  have wellFormed : ∀ tag ∈ tags, tag.WellFormed :=
    fun tag member => (tagsScanned tag member).wellFormed
  rw [tokens_eq] at pieces joined
  obtain ⟨gaps, regions, gapsCut, regionsCut, whole⟩ := pieces.exists_gaps_regions
  refine ⟨tags, gaps, regions, grouped, gapsCut, regionsCut, ?_, ?_, ?_⟩
  · rw [Scan.textSegments?, tokens_eq]
    exact Scan.segmentsFrom?_flatMap_tokens wellFormed gapsCut
  · rw [sliceFrom?_zero] at whole
    exact (Option.some.inj whole).symm
  · intro tag member
    refine ⟨?_, (tagsScanned tag member).begun.silent⟩
    intro noComment
    exact (wellFormed tag member).isChain_meets noComment joined (Tag.tokens_isInfix member)

/-- A comment with text before it and a variable tag right behind it. -/
theorem layout_of_scan_adjacent_tags :
    ∃ result, scan { var := ⟨"<<", ">>"⟩, comment := ⟨"<#", "#>"⟩ } "a<#b#><< c>>" = .ok result ∧
      ∃ tags gaps regions, Tag.ofTokens result.tokens = .ok tags ∧
        Tag.gapsFrom? "a<#b#><< c>>" 0 tags = some gaps ∧
        tags.mapM (Tag.region? "a<#b#><< c>>") = some regions ∧
        result.textSegments? = some (gaps.filter (·.text ≠ "")) ∧
        String.join (interleave (gaps.map (·.text)) regions) = "a<#b#><< c>>" ∧
        ∀ tag ∈ tags, (tag.family ≠ .comment → tag.tokens.IsChain Token.Meets) ∧
          (tag.family = .comment → tag.body = []) := by
  let result : Scan :=
    ⟨"a<#b#><< c>>",
      [⟨.opening .comment, "<#", ⟨1, 3, 1, 2⟩⟩, ⟨.closing .comment, "#>", ⟨4, 6, 1, 5⟩⟩,
        ⟨.opening .var, "<<", ⟨6, 8, 1, 7⟩⟩, ⟨.whitespace, " ", ⟨8, 9, 1, 9⟩⟩,
        ⟨.symbol, "c", ⟨9, 10, 1, 10⟩⟩, ⟨.closing .var, ">>", ⟨10, 12, 1, 11⟩⟩]⟩
  have scanned :
      scan { var := ⟨"<<", ">>"⟩, comment := ⟨"<#", "#>"⟩ } "a<#b#><< c>>" = .ok result := by
    decide +kernel
  exact ⟨result, scanned, layout_of_scan scanned⟩

end TemplateTags
