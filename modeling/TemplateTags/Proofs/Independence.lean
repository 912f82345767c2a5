import TemplateTags.Proofs.Region
import TemplateTags.Proofs.Rendering

/-!
# Text that does not matter

The text outside of tags and the text of comments may be replaced without a change in what is found:
the same tags with the same tokens, though in other places. Each tag is scanned as it is scanned
alone, and text without braces in front of a tag does not run together with it. So the tags of a
template that is put together from gaps and regions are those of its regions, by
`Scanner.exists_tags_of_interleave`.
-/

namespace TemplateTags

open Text

/-- What a token is and how it is written, without its place. -/
def Token.written (token : Token) : Kind × String :=
  (token.kind, token.value)

/-- The tag has the family and the tokens of another one, though in other places. -/
structure Tag.Resembles (own tag : Tag) : Prop where
  family : own.family = tag.family
  written : own.tokens.map Token.written = tag.tokens.map Token.written

/-- The tag is one that a scan of the source crosses. -/
structure Tag.CrossedIn (tag : Tag) (source : String) : Prop where
  scanned : tag.Scanned
  crosses : ∃ before behind passed, (Scanner.usual .skip).Crosses tag before behind ∧
    before.input.Follows source passed

/-- What may stand in place of the region of a tag: the region itself or, for a comment, a comment
with a text in which its closing delimiter does not stand. -/
inductive Tag.Rewritten (source : String) (tag : Tag) : String → Prop where
  | kept {region} (noComment : tag.family ≠ .comment) (cut : tag.region? source = some region) :
      Rewritten source tag region
  | comment {chars} (comment : tag.family = .comment) (free : ¬ ['#', '}'] <:+: chars) :
      Rewritten source tag (String.ofList (['{', '#'] ++ chars ++ ['#', '}']))

/-! ## Tags that resemble each other -/

/-- The trim modifier is read off the kind and the value of a token. -/
theorem Token.hasTrimModifier_of_written {token other : Token}
    (same : token.written = other.written) : token.hasTrimModifier = other.hasTrimModifier := by
  obtain ⟨kind, value, span⟩ := token
  obtain ⟨otherKind, otherValue, otherSpan⟩ := other
  cases same
  rfl

namespace Tag

variable {own tag : Tag} {tags owns : List Tag}

/-- Tags that resemble each other have the same trim modifiers. -/
theorem Resembles.trims (resembles : own.Resembles tag) : own.trims = tag.trims := by
  have written := resembles.written
  simp only [tokens, List.cons_append, List.map_cons, List.map_append] at written
  obtain ⟨opening, others⟩ := List.cons.inj written
  have closing := List.cons.inj (List.append_inj' others rfl).2
  rw [Tag.trims, Tag.trims, Token.hasTrimModifier_of_written opening,
    Token.hasTrimModifier_of_written closing.1]

/-- Text in front of a tag leaves unchanged which tags it resembles. -/
theorem Resembles.shift (resembles : own.Resembles tag) (text : List Char) :
    (own.shift text).Resembles tag where
  family := resembles.family
  written := by
    rw [tokens_shift, List.map_map, ← resembles.written]
    rfl

/-- A tag resembles itself with text in front of it. -/
theorem resembles_shift (own : Tag) (text : List Char) : own.Resembles (own.shift text) where
  family := rfl
  written := by
    rw [tokens_shift, List.map_map]
    rfl

/-- Tags that resemble others have their tokens, families and trim modifiers. -/
theorem map_of_resembles (resemble : List.Forall₂ Resembles owns tags) :
    (owns.flatMap tokens).map Token.written = (tags.flatMap tokens).map Token.written ∧
      owns.map (fun tag => (tag.family, tag.trims)) =
        tags.map (fun tag => (tag.family, tag.trims)) := by
  induction resemble with
  | nil => exact ⟨rfl, rfl⟩
  | cons resembles _ inductionHypothesis =>
    obtain ⟨written, families⟩ := inductionHypothesis
    simp [resembles.written, resembles.family, resembles.trims, written, families]

end Tag

/-! ## Regions -/

namespace Scanner

variable {tag : Tag}

/-- The tokens of a comment are its two delimiters. -/
theorem Crosses.written_of_comment {outerText : OuterText} {before behind : State}
    (wellFormed : tag.WellFormed)
    (crosses : (usual outerText).Crosses tag before behind) (comment : tag.family = .comment)
    (silent : tag.body = []) :
    tag.tokens.map Token.written =
      [(.opening .comment, "\x7b#"), (.closing .comment, "#\x7d")] := by
  obtain ⟨next, count, last, opens, inside, closes⟩ := crosses.run
  obtain ⟨_, start, -, opening, -, opening_eq, -⟩ :=
    opens.opens_of_isOpening wellFormed.isOpening_opening
  obtain ⟨_, opened, stop, own, -, closing_eq, -⟩ :=
    closes.closes_of_isClosing wellFormed.isClosing_closing
  have openings : ∀ literal ∈ standard.delimiters.openings, literal.family = .comment →
      literal.text = ['{', '#'] := by
    decide
  have closings : ∀ literal ∈ standard.delimiters.closings, literal.family = .comment →
      literal.text = ['#', '}'] := by
    decide
  have startFamily : start.family = .comment := by
    have := wellFormed.opens
    rw [opening_eq, comment] at this
    exact Kind.opening.inj this
  have openedFamily : opened.family = .comment := by
    have := wellFormed.closes
    rw [closing_eq, comment] at this
    exact Kind.closing.inj this
  obtain ⟨stopListed, stopFamily, -⟩ := Delimiters.closeOf?_eq_some own
  have startText := openings start (Delimiters.openAt?_eq_some opening).1 startFamily
  have stopText := closings stop stopListed (stopFamily.trans openedFamily)
  simp [Tag.tokens, silent, opening_eq, closing_eq, Token.written, Input.token, startFamily,
    openedFamily, startText, stopText]

/-- A comment alone is scanned to its two delimiters, whatever its text. -/
theorem exists_alone_of_comment (outerText : OuterText) {chars : List Char}
    (free : ¬ ['#', '}'] <:+: chars) :
    ∃ own : Tag, own.Alone outerText (String.ofList (['{', '#'] ++ chars ++ ['#', '}'])) ∧
      own.family = .comment ∧
        own.tokens.map Token.written =
          [(.opening .comment, "\x7b#"), (.closing .comment, "#\x7d")] := by
  let text := String.ofList (['{', '#'] ++ chars ++ ['#', '}'])
  let input := Input.ofString text
  let opening := input.token (.opening .comment) ['{', '#']
  let opened : OpenTag := ⟨.comment, opening⟩
  let behind := (input.consume ['{', '#']).consume chars
  let closing := behind.token (.closing .comment) ['#', '}']
  have split : input.rest = ['{', '#'] ++ (chars ++ ['#', '}']) := by
    simp [input, Input.ofString, text]
  have insideSplit : (input.consume ['{', '#']).rest = chars ++ ['#', '}'] :=
    Input.rest_consume split
  have stopSplit : behind.rest = ['#', '}'] := Input.rest_consume insideSplit
  have noClose : (usual outerText).delimiters.closeAt? input.rest = none := by
    rw [split]
    rfl
  have start : (usual outerText).delimiters.openAt? input.rest =
      some ⟨['{', '#'], .comment⟩ := by
    rw [split]
    rfl
  have stop : (usual outerText).delimiters.closeOf? opened.family behind.rest =
      some ⟨['#', '}'], .comment⟩ := by
    rw [stopSplit]
    rfl
  have kept : (usual outerText).givesUp opened.family behind = false := by
    rw [givesUp_usual_eq_false_iff, stopSplit]
    decide
  have opens := Rule.opens noClose start
  obtain ⟨count, inside⟩ := @exists_steps_of_comment _ _ free opened rfl _ insideSplit
  have closes := Rule.closes kept stop
  have steps := ((Steps.emitted .refl opens.step_eq).trans
    (inside.usual_of_content (List.forall_mem_nil _) outerText)).emitted closes.step_eq
  have nothing : (behind.consume ['#', '}']).rest = [] := by
    simp [Input.consume, stopSplit]
  refine ⟨⟨.comment, opening, [], closing⟩, ⟨⟨rfl, by simp, rfl⟩, ?_, ?_, rfl, ?_⟩, rfl, rfl⟩
  · exact tokensFrom_of_steps_to_end steps nothing rfl
  · simp
  · rw [utf8ByteSize_ofList]
    simp [closing, behind, input, Input.ofString, Location.first, Nat.add_assoc]

/-- A region of a scanned source, or what may stand in its place, is scanned alone to a tag that
resembles the one of the source. -/
theorem exists_alone_of_rewritten {source region : String} (crossed : tag.CrossedIn source)
    (rewritten : tag.Rewritten source region) (other : OuterText) :
    ∃ own : Tag, own.Alone other region ∧ own.Resembles tag := by
  obtain ⟨scanned, before, behind, passed, crosses, follows⟩ := crossed
  cases rewritten with
  | kept noComment cut =>
    obtain ⟨_, sameCut, -, alone⟩ := Tag.exists_alone scanned.wellFormed crosses follows
    obtain rfl := Option.some.inj (cut.symm.trans sameCut)
    obtain ⟨own, rfl, ownAlone⟩ := alone other
    exact ⟨own, ownAlone, own.resembles_shift passed⟩
  | comment comment free =>
    obtain ⟨own, alone, family, written⟩ := exists_alone_of_comment other free
    refine ⟨own, alone, family.trans comment.symm, ?_⟩
    rw [written, crosses.written_of_comment scanned.wellFormed comment
      (scanned.begun.silent comment)]

/-- The values of the tokens of a tag, without a break, may stand in place of its region. -/
theorem rewritten_values {source : String} (crossed : tag.CrossedIn source) :
    tag.Rewritten source (String.join (tag.tokens.map (·.value))) := by
  obtain ⟨scanned, before, behind, passed, crosses, follows⟩ := crossed
  by_cases comment : tag.family = .comment
  · have written := crosses.written_of_comment scanned.wellFormed comment
      (scanned.begun.silent comment)
    have values := congrArg (List.map Prod.snd) written
    rw [List.map_map] at values
    have text : String.join (tag.tokens.map (·.value)) =
        String.ofList (['{', '#'] ++ [] ++ ['#', '}']) :=
      congrArg String.join values
    rw [text]
    exact .comment comment (by decide)
  · obtain ⟨region, cut, values, -⟩ := Tag.exists_alone scanned.wellFormed crosses follows
    rw [values comment]
    exact .kept comment cut

/-! ## Gaps -/

/-- Text without braces in front of quiet text shifts what is found there. -/
theorem tokens_gap_append {outerText : OuterText} {gap behind : String}
    (free : '{' ∉ gap.toList ∧ '}' ∉ gap.toList)
    (policy : outerText = .skip ∨ gap = "") (quiet : Quiet behind.toList) :
    (usual outerText).tokens (gap ++ behind) =
      shiftOutcome gap.toList ((usual outerText).tokens behind) := by
  have passes : ∃ count, (usual outerText).Steps (.initial (gap ++ behind)) count []
      ⟨⟨Location.first.after gap.toList, behind.toList⟩, none⟩ := by
    rcases policy with rfl | rfl
    · have split : (Input.ofString (gap ++ behind)).rest = gap.toList ++ behind.toList :=
        String.toList_append
      have next := Input.rest_consume split
      obtain ⟨count, steps⟩ := @exists_steps_of_text gap.toList _ free quiet _ split
      refine ⟨count, ?_⟩
      rw [← next]
      exact steps
    · rw [String.empty_append]
      exact ⟨0, .refl⟩
  obtain ⟨count, steps⟩ := passes
  rw [Scanner.tokens, tokensFrom_of_steps steps, tokensFrom_behind]
  cases shiftOutcome gap.toList ((usual outerText).tokens behind) <;> rfl

end Scanner

/-- What is cut out of a text is cut out behind a text in front of it, too. -/
theorem Text.slice?_append_left {source text : String} {start stop : Nat}
    (cut : slice? source start stop = some text) (front : String) :
    slice? (front ++ source) (front.utf8ByteSize + start) (front.utf8ByteSize + stop) =
      some text := by
  obtain ⟨before, after, rfl, rfl, rfl⟩ := slice?_eq_some_iff.1 cut
  refine slice?_eq_some_iff.2 ⟨front ++ before, after, ?_, ?_, ?_⟩
  · simp only [String.append_assoc]
  · rw [String.utf8ByteSize_append]
  · rw [Nat.add_assoc]

/-- The gaps between tags have the same texts when a text is put in front of the source. -/
theorem Tag.gapsFrom?_append_left {source : String} {reached : Nat} {tags : List Tag}
    {gaps : List TextSegment} (found : gapsFrom? source reached tags = some gaps)
    (front : String) :
    ∃ shifted, gapsFrom? (front ++ source) (front.utf8ByteSize + reached)
        (tags.map (·.shift front.toList)) = some shifted ∧
      shifted.map (·.text) = gaps.map (·.text) := by
  induction tags generalizing reached gaps with
  | nil =>
    obtain ⟨rest, cut, rfl⟩ := gapsFrom?_nil_eq_some_iff.1 found
    have shiftedCut := slice?_append_left cut front
    rw [← String.utf8ByteSize_append] at shiftedCut
    exact ⟨_, gapsFrom?_nil_eq_some_iff.2 ⟨rest, shiftedCut, rfl⟩, rfl⟩
  | cons tag tags inductionHypothesis =>
    obtain ⟨gap, cut, following, foundRest, rfl⟩ := gapsFrom?_cons_eq_some_iff.1 found
    obtain ⟨shifted, shiftedFound, texts⟩ := inductionHypothesis foundRest
    have shiftedCut := slice?_append_left cut front
    rw [← byteLength_toList] at shiftedCut shiftedFound ⊢
    exact ⟨_, gapsFrom?_cons_eq_some_iff.2 ⟨gap, shiftedCut, shifted, shiftedFound, rfl⟩,
      by simp [texts]⟩

/-! ## Gaps and regions by turns -/

namespace Scanner

variable {outerText : OuterText}

/-- A template that is put together from gaps and from regions, each of which is scanned alone to a
tag, is scanned to tags that resemble these, with the gaps between them. -/
theorem exists_tags_of_interleave {tags : List Tag} {gaps regions : List String}
    (counted : gaps.length = tags.length + 1)
    (free : ∀ gap ∈ gaps, '{' ∉ gap.toList ∧ '}' ∉ gap.toList)
    (policy : outerText = .skip ∨ ∀ gap ∈ gaps, gap = "")
    (alone : List.Forall₂ (fun tag region => ∃ own : Tag, own.Alone outerText region ∧
      own.Resembles tag) tags regions) :
    ∃ found, (usual outerText).tokens (String.join (interleave gaps regions)) =
        .ok (found.flatMap Tag.tokens) ∧ (∀ tag ∈ found, tag.WellFormed) ∧
      List.Forall₂ Tag.Resembles found tags ∧
      ∃ segments, Tag.gapsFrom? (String.join (interleave gaps regions)) 0 found = some segments ∧
        segments.map (·.text) = gaps := by
  induction alone generalizing gaps with
  | nil =>
    obtain ⟨gap, rfl⟩ := List.length_eq_one_iff.1 counted
    have scanned : (usual outerText).tokens (gap ++ "") = .ok [] := by
      rw [tokens_gap_append (free gap (by simp)) (policy.imp_right fun empty => empty gap (by simp))
        (by simpa using Quiet.nil), Scanner.tokens, tokensFrom_of_finished rfl]
      rfl
    refine ⟨[], ?_, List.forall_mem_nil _, .nil, [⟨0, gap⟩], ?_, rfl⟩
    · simpa [interleave] using scanned
    · exact Tag.gapsFrom?_nil_eq_some_iff.2 ⟨gap, by simp [interleave, sliceFrom?_zero], rfl⟩
  | @cons tag region tags regions alone _ inductionHypothesis =>
    obtain ⟨gap, gaps, rfl⟩ := List.exists_cons_of_length_eq_add_one counted
    obtain ⟨gapFree, othersFree⟩ := List.forall_mem_cons.1 free
    have gapPolicy : outerText = .skip ∨ gap = "" :=
      policy.imp_right fun empty => empty gap (List.mem_cons_self ..)
    obtain ⟨own, ownAlone, resembles⟩ := alone
    obtain ⟨found, scanned, wellFormed, resemble, segments, segmentsFound, texts⟩ :=
      inductionHypothesis (by simpa using counted) othersFree
        (policy.imp_right fun empty => (List.forall_mem_cons.1 empty).2)
    rw [interleave, String.join_cons, String.join_cons]
    generalize String.join (interleave gaps regions) = rest at scanned segmentsFound ⊢
    have quiet : Quiet (region ++ rest).toList := by
      obtain ⟨others, split⟩ := List.head?_eq_some_iff.1 ownAlone.brace
      rw [String.toList_append, split]
      exact .openingBrace _
    have closed : ∃ last ∈ own.tokens.getLast?, last.span.stop = region.utf8ByteSize :=
      ⟨own.closing, List.getLast?_concat, ownAlone.stops⟩
    let regionFound := own :: found.map (·.shift region.toList)
    have regionScanned : (usual outerText).tokens (region ++ rest) =
        .ok (regionFound.flatMap Tag.tokens) := by
      rw [tokens_append ownAlone.scanned (.inr closed), scanned, List.flatMap_cons,
        Tag.flatMap_tokens_shift]
      rfl
    refine ⟨regionFound.map (·.shift gap.toList), ?_, ?_, ?_, ?_⟩
    · rw [tokens_gap_append gapFree gapPolicy quiet, regionScanned, Tag.flatMap_tokens_shift]
      rfl
    · simp only [regionFound, List.forall_mem_map, List.forall_mem_cons]
      exact ⟨ownAlone.wellFormed.shift _,
        fun tag member => ((wellFormed tag member).shift _).shift _⟩
    · simp only [regionFound, List.map_cons, List.map_map]
      refine .cons (resembles.shift _) (List.forall₂_map_left_iff.2 ?_)
      exact resemble.imp fun _ _ resembles => (resembles.shift _).shift _
    · obtain ⟨behindRegion, behindRegionFound, behindRegionTexts⟩ :=
        Tag.gapsFrom?_append_left segmentsFound region
      obtain ⟨behindGap, behindGapFound, behindGapTexts⟩ :=
        Tag.gapsFrom?_append_left behindRegionFound gap
      have cut : slice? (gap ++ (region ++ rest)) 0 (own.opening.shift gap.toList).span.start =
          some gap := by
        refine slice?_eq_some_iff.2 ⟨"", region ++ rest, by simp, rfl, ?_⟩
        simp [Token.shift, Span.shift, ownAlone.starts, byteLength_toList]
      have following : Tag.gapsFrom? (gap ++ (region ++ rest))
          (own.closing.shift gap.toList).span.stop
          ((found.map (·.shift region.toList)).map (·.shift gap.toList)) = some behindGap := by
        rw [← behindGapFound]
        simp [Token.shift, Span.shift, ownAlone.stops, byteLength_toList]
      refine ⟨_, Tag.gapsFrom?_cons_eq_some_iff.2 ⟨gap, cut, behindGap, following, rfl⟩, ?_⟩
      simp [behindGapTexts, behindRegionTexts, texts]

end Scanner

/-- Between empty gaps, regions stand without a break. -/
theorem join_interleave_replicate (regions : List String) :
    String.join (interleave (List.replicate (regions.length + 1) "") regions) =
      String.join regions := by
  induction regions with
  | nil => rfl
  | cons region regions inductionHypothesis =>
    rw [List.length_cons, List.replicate_succ, interleave, String.join_cons, String.join_cons,
      String.join_cons, inductionHypothesis, String.empty_append]

/-- The values of the tokens of tags, tag by tag. -/
theorem join_values_flatMap_tokens (tags : List Tag) :
    String.join ((tags.flatMap Tag.tokens).map (·.value)) =
      String.join (tags.map fun tag => String.join (tag.tokens.map (·.value))) := by
  induction tags with
  | nil => rfl
  | cons tag tags inductionHypothesis =>
    rw [List.flatMap_cons, List.map_append, String.join_append, List.map_cons, String.join_cons,
      inductionHypothesis]

/-- A scan crosses the tags into which its tokens group. -/
theorem exists_crossed_tags {source : String} {tokens : List Token}
    (scanned : tokenize source = .ok tokens) :
    ∃ tags, Tag.ofTokens tokens = .ok tags ∧ tokens = tags.flatMap Tag.tokens ∧
      ∀ tag ∈ tags, tag.CrossedIn source := by
  obtain ⟨tags, tagsScanned, grouped, tokens_eq⟩ :=
    exists_tags_of_scan (Scanner.scan_of_tokens scanned)
  replace tokens_eq : tokens = tags.flatMap Tag.tokens := tokens_eq
  refine ⟨tags, grouped, tokens_eq, fun tag member => ⟨tagsScanned tag member, ?_⟩⟩
  obtain ⟨count, finish, steps, -⟩ := Scanner.tokensFrom_eq_ok_iff.1 scanned
  obtain ⟨_, _, before, behind, toTag, crosses⟩ :=
    Scanner.Steps.exists_crosses (tokens_eq ▸ steps) member
  obtain ⟨passed, follows⟩ := (Scanner.placed_of_steps toTag).follows
  exact ⟨before, behind, passed, crosses, follows⟩

/-- A template that is put together from gaps and from regions of a scanned source, or what may
stand in their place, is scanned to tags that resemble those of the source, with the gaps between
them. -/
theorem Scanner.exists_tags_of_rewritten {outerText : OuterText} {source : String}
    {tags : List Tag} {gaps regions : List String} (crossed : ∀ tag ∈ tags, tag.CrossedIn source)
    (counted : gaps.length = tags.length + 1)
    (free : ∀ gap ∈ gaps, '{' ∉ gap.toList ∧ '}' ∉ gap.toList)
    (policy : outerText = .skip ∨ ∀ gap ∈ gaps, gap = "")
    (rewritten : List.Forall₂ (Tag.Rewritten source) tags regions) :
    ∃ found, (usual outerText).tokens (String.join (interleave gaps regions)) =
        .ok (found.flatMap Tag.tokens) ∧ (∀ tag ∈ found, tag.WellFormed) ∧
      List.Forall₂ Tag.Resembles found tags ∧
      ∃ segments, Tag.gapsFrom? (String.join (interleave gaps regions)) 0 found = some segments ∧
        segments.map (·.text) = gaps := by
  apply exists_tags_of_interleave counted free policy
  refine ((List.forall₂_and_left _ _).2 ⟨crossed, rewritten⟩).imp ?_
  rintro tag region ⟨tagCrossed, regionRewritten⟩
  exact exists_alone_of_rewritten tagCrossed regionRewritten outerText

/-- The values of the tokens of a scanned source, without a break, are scanned to tags that resemble
those of the source, whatever is done with text outside of tags. -/
theorem Scanner.exists_tags_of_values (outerText : OuterText) {source : String} {tags : List Tag}
    (crossed : ∀ tag ∈ tags, tag.CrossedIn source) :
    ∃ found, (usual outerText).tokens
        (String.join ((tags.flatMap Tag.tokens).map (·.value))) =
          .ok (found.flatMap Tag.tokens) ∧
      List.Forall₂ Tag.Resembles found tags := by
  let regions := tags.map fun tag => String.join (tag.tokens.map (·.value))
  have rewritten : List.Forall₂ (Tag.Rewritten source) tags regions :=
    List.forall₂_map_right_iff.2
      (List.forall₂_same.2 fun tag member => rewritten_values (crossed tag member))
  have empty : ∀ gap ∈ List.replicate (regions.length + 1) "", gap = "" :=
    fun gap member => List.eq_of_mem_replicate member
  obtain ⟨found, scanned, -, resemble, -⟩ := exists_tags_of_rewritten crossed
    (by simp [regions]) (by simp) (.inr empty) rewritten
  rw [join_interleave_replicate, ← join_values_flatMap_tokens] at scanned
  exact ⟨found, scanned, resemble⟩

/-- The gaps and the texts of comments may be replaced, and the tokens taken for themselves: what is
found again are the same tags, but for their places, and the new gaps. -/
theorem tokenize_interleave {source : String} {tokens : List Token}
    (scanned : tokenize source = .ok tokens) :
    ∃ tags, Tag.ofTokens tokens = .ok tags ∧
      (∀ gaps regions : List String, gaps.length = tags.length + 1 →
        (∀ gap ∈ gaps, '{' ∉ gap.toList ∧ '}' ∉ gap.toList) →
        List.Forall₂ (Tag.Rewritten source) tags regions →
        ∃ result found,
          tokenize (String.join (interleave gaps regions)) = .ok result.tokens ∧
          scan {} (String.join (interleave gaps regions)) = .ok result ∧
          result.tokens.map Token.written = tokens.map Token.written ∧
          Tag.ofTokens result.tokens = .ok found ∧
          found.map (fun tag => (tag.family, tag.trims)) =
            tags.map (fun tag => (tag.family, tag.trims)) ∧
          result.outerText? = some (String.join gaps)) ∧
      (∃ again, tokenize (String.join (tokens.map (·.value))) = .ok again ∧
        again.map Token.written = tokens.map Token.written) ∧
      ∃ result, scan { outerText := .reject } (String.join (tokens.map (·.value))) = .ok result ∧
        result.tokens.map Token.written = tokens.map Token.written := by
  obtain ⟨tags, grouped, rfl, crossed⟩ := exists_crossed_tags scanned
  refine ⟨tags, grouped, ?_, ?_, ?_⟩
  · intro gaps regions counted free rewritten
    obtain ⟨found, foundScanned, wellFormed, resemble, segments, segmentsFound, texts⟩ :=
      Scanner.exists_tags_of_rewritten crossed counted free (.inl rfl) rewritten
    obtain ⟨written, families⟩ := Tag.map_of_resembles resemble
    refine ⟨⟨_, found.flatMap Tag.tokens⟩, found, foundScanned,
      Scanner.scan_of_tokens foundScanned, written, Tag.ofTokens_flatMap_tokens wellFormed,
      families, ?_⟩
    have outside := Scan.segmentsFrom?_flatMap_tokens wellFormed segmentsFound
    rw [Scan.outerText?, Scan.textSegments?, outside, Option.map_some, TextSegment.join_filter,
      texts]
  · obtain ⟨found, foundScanned, resemble⟩ := Scanner.exists_tags_of_values .skip crossed
    exact ⟨_, foundScanned, (Tag.map_of_resembles resemble).1⟩
  · obtain ⟨found, foundScanned, resemble⟩ := Scanner.exists_tags_of_values .reject crossed
    exact ⟨_, Scanner.scan_of_tokens foundScanned, (Tag.map_of_resembles resemble).1⟩

/-- A trimmed block, a comment with the closing delimiter of a block and a variable: with other gaps
and another comment, and from the values of the tokens alone. -/
theorem tokenize_interleave_comment :
    let written : List (Kind × String) :=
      [(.opening .block, "\x7b%-"), (.symbol, "b"), (.closing .block, "%\x7d"),
        (.opening .comment, "\x7b#"), (.closing .comment, "#\x7d"), (.opening .var, "\x7b\x7b"),
        (.symbol, "c"), (.closing .var, "\x7d\x7d")]
    (∃ result, scan {} "\x7b%-b%\x7dx\n\x7b###\x7d\x7b\x7bc\x7d\x7dé" = .ok result ∧
      result.tokens.map Token.written = written ∧ result.outerText? = some "x\né") ∧
    ∃ result, scan { outerText := .reject } "\x7b%-b%\x7d\x7b##\x7d\x7b\x7bc\x7d\x7d" = .ok result ∧
      result.tokens.map Token.written = written := by
  intro written
  let source := "a\x7b%-b%\x7d\x7b# %\x7d #\x7d\x7b\x7bc\x7d\x7d"
  let block : Tag :=
    ⟨.block, ⟨.opening .block, "\x7b%-", ⟨1, 4, 1, 2⟩⟩, [⟨.symbol, "b", ⟨4, 5, 1, 5⟩⟩],
      ⟨.closing .block, "%\x7d", ⟨5, 7, 1, 6⟩⟩⟩
  let comment : Tag :=
    ⟨.comment, ⟨.opening .comment, "\x7b#", ⟨7, 9, 1, 8⟩⟩, [],
      ⟨.closing .comment, "#\x7d", ⟨13, 15, 1, 14⟩⟩⟩
  let var : Tag :=
    ⟨.var, ⟨.opening .var, "\x7b\x7b", ⟨15, 17, 1, 16⟩⟩, [⟨.symbol, "c", ⟨17, 18, 1, 18⟩⟩],
      ⟨.closing .var, "\x7d\x7d", ⟨18, 20, 1, 19⟩⟩⟩
  have scanned : tokenize source = .ok ([block, comment, var].flatMap Tag.tokens) := by
    decide +kernel
  have kept : ∀ (tag : Tag) (before region after : String), tag.family ≠ .comment →
      source = before ++ region ++ after → tag.opening.span.start = before.utf8ByteSize →
      tag.closing.span.stop = tag.opening.span.start + region.utf8ByteSize →
      tag.Rewritten source region :=
    fun tag before region after noComment whole start stop =>
      .kept noComment (slice?_eq_some_iff.2 ⟨before, after, whole, start, stop⟩)
  obtain ⟨tags, grouped, replaced, -, refused⟩ := tokenize_interleave scanned
  have groups : Tag.ofTokens ([block, comment, var].flatMap Tag.tokens) =
      .ok [block, comment, var] := by
    decide +kernel
  obtain rfl : [block, comment, var] = tags := Except.ok.inj (groups.symm.trans grouped)
  have rewritten : List.Forall₂ (Tag.Rewritten source) [block, comment, var]
      ["\x7b%-b%\x7d", String.ofList (['{', '#'] ++ ['#'] ++ ['#', '}']), "\x7b\x7bc\x7d\x7d"] :=
    .cons (kept block "a" _ "\x7b# %\x7d #\x7d\x7b\x7bc\x7d\x7d" (by decide) rfl rfl rfl)
      (.cons (.comment rfl (by decide))
        (.cons (kept var "a\x7b%-b%\x7d\x7b# %\x7d #\x7d" _ "" (by decide) rfl rfl rfl) .nil))
  constructor
  · obtain ⟨result, -, -, again, written, -, -, outside⟩ :=
      replaced ["", "x\n", "", "é"] _ rfl (by decide) rewritten
    exact ⟨result, again, written, outside⟩
  · exact refused

end TemplateTags
