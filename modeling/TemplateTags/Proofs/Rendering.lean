import TemplateTags.Proofs.Borders
import TemplateTags.Proofs.Layout

/-!
# Scanning what was rendered

Well-formed pieces, written one after the other with the usual delimiters, are found again. The two
halves of the argument meet at `Rendered`, which says that tags stand where those pieces do that are
tags. The scanner finds such tags, by `Scanner.exists_steps_of_pieces`, and the gaps between such
tags are the pieces that are text, by `Rendered.exists_gaps`.
-/

namespace TemplateTags

open Text

namespace Scanner

/-! ## Text -/

/-- Text is passed over if each of its characters is, whatever stands before it. -/
theorem exists_steps_of_skips {scanner : Scanner} {opened? : Option OpenTag}
    {text rest : List Char}
    (skips : ∀ char part, char :: part <:+ text → ∀ input : Input,
      input.rest = char :: (part ++ rest) →
        scanner.Rule ⟨input, opened?⟩ (.skipped ⟨input.consume [char], opened?⟩))
    {input : Input} (split : input.rest = text ++ rest) :
    ∃ count, scanner.Steps ⟨input, opened?⟩ count [] ⟨input.consume text, opened?⟩ := by
  induction text generalizing input with
  | nil => exact ⟨0, .refl⟩
  | cons char text inductionHypothesis =>
    have rule := skips char text (List.suffix_refl _) input split
    have next : (input.consume [char]).rest = text ++ rest := Input.rest_consume split
    obtain ⟨count, steps⟩ := inductionHypothesis
      (fun other part later => skips other part (later.trans (List.suffix_cons ..))) next
    rw [← List.singleton_append, Input.consume_append]
    exact ⟨_, Steps.trans (.skipped .refl rule.step_eq) steps⟩

/-- Text without braces is passed over in front of quiet text. -/
theorem exists_steps_of_text {chars rest : List Char}
    (wellFormed : (Piece.text chars).WellFormed) (quiet : Quiet rest) {input : Input}
    (split : input.rest = chars ++ rest) :
    ∃ count, standard.Steps ⟨input, none⟩ count [] ⟨input.consume chars, none⟩ := by
  obtain ⟨noOpening, noClosing⟩ := wellFormed
  refine exists_steps_of_skips (fun char part isSuffix input split => ?_) split
  have member : char ∈ chars := isSuffix.subset (List.mem_cons_self ..)
  have free : Quiet ((char :: part) ++ rest) :=
    quiet.append fun closing => noClosing (isSuffix.subset closing)
  refine .outerSkipped split (split ▸ free.noClose) (split ▸ openAt?_standard_of_ne ?_ _) rfl
  rintro rfl
  exact noOpening member

/-- The text of a comment is passed over up to its closing delimiter. -/
theorem exists_steps_of_comment {chars rest : List Char}
    (wellFormed : (Piece.comment chars).WellFormed) {opened : OpenTag}
    (comment : opened.family = .comment) {input : Input}
    (split : input.rest = chars ++ '#' :: '}' :: rest) :
    ∃ count, standard.Steps ⟨input, some opened⟩ count [] ⟨input.consume chars, some opened⟩ := by
  refine exists_steps_of_skips (fun char part isSuffix input split => ?_) split
  refine .commentSkipped split (givesUp_eq_false ?_) comment ?_
  · simp only [minCloseLength_standard, split, List.length_cons, List.length_append]
    omega
  · rw [split]
    refine closeOf?_standard_comment fun stop => wellFormed ?_
    exact (isPrefix_of_stop stop).isInfix.trans isSuffix.isInfix

/-! ## Tags -/

/-- The scanner reads the text at the input as one tag. -/
structure Finds (scanner : Scanner) (input : Input) (text : List Char) (tag : Tag) : Prop where
  steps : ∃ count, scanner.Steps ⟨input, none⟩ count tag.tokens ⟨input.consume text, none⟩
  wellFormed : tag.WellFormed
  starts : tag.opening.span.start = input.here.offset
  stops : tag.closing.span.stop = input.here.offset + byteLength text

/-- A text between two delimiters is found as a tag, if it is read through its end. -/
theorem exists_finds_of_within {scanner : Scanner} {family : Family}
    {start inside stop rest : List Char} {body : String} {input : Input}
    (split : input.rest = start ++ inside ++ stop ++ rest)
    (noClose : scanner.delimiters.closeAt? input.rest = none)
    (opening : scanner.delimiters.openAt? input.rest = some ⟨start, family⟩)
    (within : ∀ opened : OpenTag, opened.family = family → ∀ behind : Input,
      behind.rest = inside ++ (stop ++ rest) → ∃ count tokens,
        scanner.Steps ⟨behind, some opened⟩ count tokens ⟨behind.consume inside, some opened⟩ ∧
          (∀ token ∈ tokens, token.isContent) ∧ String.join (tokens.map (·.value)) = body)
    (enough : scanner.delimiters.minCloseLength family ≤ (stop ++ rest).length)
    (own : scanner.delimiters.closeOf? family (stop ++ rest) = some ⟨stop, family⟩) :
    ∃ tag, scanner.Finds input (start ++ inside ++ stop) tag ∧
      tag.outline =
        ⟨family, ((input.token (.opening family) start).hasTrimModifier,
          (input.token (.closing family) stop).hasTrimModifier), body⟩ := by
  let opened : OpenTag := ⟨family, input.token (.opening family) start⟩
  have opens := Rule.opens noClose opening
  have insideFollows : (input.consume start).rest = inside ++ (stop ++ rest) :=
    Input.rest_consume (by simp [split])
  obtain ⟨count, tokens, steps, content, values⟩ := within opened rfl _ insideFollows
  let behind := (input.consume start).consume inside
  have stopFollows : behind.rest = stop ++ rest := Input.rest_consume insideFollows
  have kept : scanner.givesUp opened.family behind = false := by
    apply givesUp_eq_false
    rwa [stopFollows]
  have ownStands : scanner.delimiters.closeOf? opened.family behind.rest =
      some ⟨stop, family⟩ := by
    rw [stopFollows, own]
  have closes := Rule.closes kept ownStands
  let tag : Tag := ⟨family, opened.token, tokens, behind.token (.closing family) stop⟩
  have found : scanner.Finds input (start ++ inside ++ stop) tag :=
    { steps := by
        rw [Input.consume_append, Input.consume_append]
        exact ⟨_, ((Steps.emitted .refl opens.step_eq).trans steps).emitted closes.step_eq⟩
      wellFormed := ⟨rfl, content, rfl⟩
      starts := rfl
      stops := by simp [tag, behind, Nat.add_assoc] }
  refine ⟨tag, found, ?_⟩
  rw [Tag.outline, values]
  rfl

/-- A body between two delimiters is found as a tag. -/
theorem exists_finds_of_embedded {scanner : Scanner} {family : Family}
    (noComment : family ≠ .comment) {start body stop rest : List Char} (bodyText : BodyText body)
    (embedded : scanner.Embedded family body (stop ++ rest)) {input : Input}
    (split : input.rest = start ++ body ++ stop ++ rest)
    (noClose : scanner.delimiters.closeAt? input.rest = none)
    (opening : scanner.delimiters.openAt? input.rest = some ⟨start, family⟩)
    (own : scanner.delimiters.closeOf? family (stop ++ rest) = some ⟨stop, family⟩) :
    ∃ tag, scanner.Finds input (start ++ body ++ stop) tag ∧
      tag.outline =
        ⟨family, ((input.token (.opening family) start).hasTrimModifier,
          (input.token (.closing family) stop).hasTrimModifier), String.ofList body⟩ := by
  apply exists_finds_of_within split noClose opening ?_ embedded.kept own
  rintro opened rfl behind behindSplit
  exact exists_steps_of_embedded noComment bodyText embedded behindSplit

/-- A well-formed comment is found as a tag with its outline, which has no text. -/
theorem exists_finds_of_comment {chars rest : List Char}
    (wellFormed : (Piece.comment chars).WellFormed) {input : Input}
    (split : input.rest = (Piece.comment chars).render ++ rest) :
    ∃ tag, standard.Finds input (Piece.comment chars).render tag ∧
      (Piece.comment chars).outline? = some tag.outline := by
  obtain ⟨tag, finds, outline_eq⟩ :
      ∃ tag, standard.Finds input (Piece.comment chars).render tag ∧
        tag.outline = ⟨.comment, (false, false), ""⟩ := by
    apply exists_finds_of_within split (by rw [split]; rfl) (by rw [split]; rfl) ?_
      (by simp [minCloseLength_standard]) rfl
    intro opened comment behind behindSplit
    obtain ⟨count, steps⟩ := exists_steps_of_comment wellFormed comment behindSplit
    exact ⟨count, [], steps, by simp, rfl⟩
  exact ⟨tag, finds, by rw [outline_eq]; rfl⟩

/-- A well-formed variable is found as a tag with its outline. -/
theorem exists_finds_of_var {body rest : List Char}
    (wellFormed : (Piece.var body).WellFormed) {input : Input}
    (split : input.rest = (Piece.var body).render ++ rest) :
    ∃ tag, standard.Finds input (Piece.var body).render tag ∧
      (Piece.var body).outline? = some tag.outline := by
  obtain ⟨bodyText, noPercent⟩ := wellFormed
  have embedded : standard.Embedded .var body (['}', '}'] ++ rest) :=
    embedded_standard .var noPercent (by simp) (by simp) (by simp)
  obtain ⟨tag, finds, outline_eq⟩ := exists_finds_of_embedded (by decide) bodyText embedded split
    (by rw [split]; rfl) (by rw [split]; rfl) rfl
  exact ⟨tag, finds, by rw [outline_eq]; rfl⟩

/-- A rendered opening delimiter of a block has the trim modifier that the piece asks for. -/
theorem hasTrimModifier_blockStart (input : Input) (trims : Bool) :
    (input.token (.opening .block) (Piece.blockStart trims)).hasTrimModifier = trims := by
  cases trims <;> simp [Token.hasTrimModifier, Input.token, Piece.blockStart, trimModifier]

/-- A rendered closing delimiter of a block has the trim modifier that the piece asks for. -/
theorem hasTrimModifier_blockStop (input : Input) (trims : Bool) :
    (input.token (.closing .block) (Piece.blockStop trims)).hasTrimModifier = trims := by
  cases trims <;> simp [Token.hasTrimModifier, Input.token, Piece.blockStop, trimModifier]

/-- A well-formed block is found as a tag with its outline. A minus next to a delimiter would be
read as its trim modifier, which is what the conditions on the ends of the body keep out. -/
theorem exists_finds_of_block {trimsOpening trimsClosing : Bool} {body rest : List Char}
    (wellFormed : (Piece.block trimsOpening trimsClosing body).WellFormed) {input : Input}
    (split : input.rest = (Piece.block trimsOpening trimsClosing body).render ++ rest) :
    ∃ tag, standard.Finds input (Piece.block trimsOpening trimsClosing body).render tag ∧
      (Piece.block trimsOpening trimsClosing body).outline? = some tag.outline := by
  obtain ⟨bodyText, noPercent, noMinusFirst, noMinusLast, notEmpty⟩ := wellFormed
  have embedded : standard.Embedded .block body (Piece.blockStop trimsClosing ++ rest) := by
    apply embedded_standard .block noPercent (fun last => absurd last noMinusLast)
    · cases trimsClosing <;> simp [Piece.blockStop]
    · cases trimsClosing <;> simp [Piece.blockStop]
  have noClose : standard.delimiters.closeAt? input.rest = none := by
    rw [split]
    cases trimsOpening <;> rfl
  have opening : standard.delimiters.openAt? input.rest =
      some ⟨Piece.blockStart trimsOpening, .block⟩ := by
    rw [split, Piece.render, List.append_assoc, List.append_assoc]
    apply openAt?_blockStart
    intro plain
    cases body with
    | nil => cases trimsClosing <;> simp_all [Piece.blockStop]
    | cons char body => exact noMinusFirst
  obtain ⟨tag, finds, outline_eq⟩ := exists_finds_of_embedded (by decide) bodyText embedded split
    noClose opening (by cases trimsClosing <;> rfl)
  refine ⟨tag, finds, ?_⟩
  rw [outline_eq, hasTrimModifier_blockStart, hasTrimModifier_blockStop]
  rfl

/-- A well-formed piece that is a tag is found as a tag with its outline. -/
theorem exists_finds_of_piece {piece : Piece} (wellFormed : piece.WellFormed)
    (noText : ∀ chars, piece ≠ .text chars) {rest : List Char} {input : Input}
    (split : input.rest = piece.render ++ rest) :
    ∃ tag, standard.Finds input piece.render tag ∧ piece.outline? = some tag.outline := by
  cases piece with
  | text chars => exact absurd rfl (noText chars)
  | comment => exact exists_finds_of_comment wellFormed split
  | var => exact exists_finds_of_var wellFormed split
  | block => exact exists_finds_of_block wellFormed split

end Scanner

/-! ## Pieces and tags -/

/-- The tags stand where those pieces do that are tags, when the pieces are written from the offset
on. -/
inductive Rendered : Nat → List Piece → List Tag → Prop where
  | nil {offset} : Rendered offset [] []
  | text {offset chars pieces tags} (rest : Rendered (offset + byteLength chars) pieces tags) :
      Rendered offset (.text chars :: pieces) tags
  | tag {offset piece pieces tag tags} (wellFormed : tag.WellFormed)
      (starts : tag.opening.span.start = offset)
      (stops : tag.closing.span.stop = offset + byteLength piece.render)
      (outline : piece.outline? = some tag.outline)
      (rest : Rendered tag.closing.span.stop pieces tags) :
      Rendered offset (piece :: pieces) (tag :: tags)

namespace Rendered

variable {offset : Nat} {pieces : List Piece} {tags : List Tag}

/-- Tags that stand where pieces do are well formed. -/
theorem wellFormed (rendered : Rendered offset pieces tags) : ∀ tag ∈ tags, tag.WellFormed := by
  induction rendered with
  | nil => simp
  | text _ inductionHypothesis => exact inductionHypothesis
  | tag wellFormed _ _ _ _ inductionHypothesis =>
    exact List.forall_mem_cons.2 ⟨wellFormed, inductionHypothesis⟩

/-- The outlines of the tags are those that the pieces ask for. -/
theorem map_outline (rendered : Rendered offset pieces tags) :
    tags.map Tag.outline = pieces.filterMap Piece.outline? := by
  induction rendered with
  | nil => rfl
  | text _ inductionHypothesis => exact inductionHypothesis
  | tag _ _ _ outline _ inductionHypothesis =>
    rw [List.map_cons, List.filterMap_cons_some outline, inductionHypothesis]

/-- The gaps between the tags hold the text outside them, with text that stands before the
pieces. -/
theorem exists_gaps {source : String} (before pending : List Char)
    (rendered : Rendered (byteLength (before ++ pending)) pieces tags)
    (split : source.toList = before ++ pending ++ pieces.flatMap Piece.render) :
    ∃ gaps, Tag.gapsFrom? source (byteLength before) tags = some gaps ∧
      String.join (gaps.map (·.text)) =
        String.ofList (pending ++ pieces.flatMap Piece.outerText) := by
  generalize reached : byteLength (before ++ pending) = offset at rendered
  induction rendered generalizing before pending with
  | nil =>
    have cut := slice?_of_toList_eq split
    have toEnd : byteLength before + byteLength pending = source.utf8ByteSize := by
      simp [← byteLength_toList, split]
    rw [toEnd] at cut
    exact ⟨_, Tag.gapsFrom?_nil_eq_some_iff.2 ⟨_, cut, rfl⟩, by simp⟩
  | @text offset chars pieces tags rest inductionHypothesis =>
    rw [List.flatMap_cons] at split ⊢
    rw [← List.append_assoc]
    apply inductionHypothesis before (pending ++ chars)
    · rw [split]
      simp [Piece.render]
    · rw [← List.append_assoc, byteLength_append, reached]
  | @tag offset piece pieces tag tags _ starts stops outline rest inductionHypothesis =>
    have gapCut : slice? source (byteLength before) tag.opening.span.start =
        some (String.ofList pending) := by
      rw [starts, ← reached, byteLength_append]
      exact slice?_of_toList_eq split
    obtain ⟨following, found, values⟩ :=
      inductionHypothesis (before ++ pending ++ piece.render) [] (by rw [split]; simp)
        (by rw [List.append_nil, byteLength_append, reached, stops])
    have behind : byteLength (before ++ pending ++ piece.render) = tag.closing.span.stop := by
      rw [byteLength_append, reached, stops]
    rw [behind] at found
    refine ⟨_, Tag.gapsFrom?_cons_eq_some_iff.2 ⟨_, gapCut, _, found, rfl⟩, ?_⟩
    rw [List.map_cons, String.join_cons, values, ← String.ofList_append, List.flatMap_cons,
      Piece.outerText_of_outline? outline]

end Rendered

/-- Well-formed pieces are read up to their end, and the tags found are theirs. -/
theorem Scanner.exists_steps_of_pieces {pieces : List Piece}
    (wellFormed : ∀ piece ∈ pieces, piece.WellFormed) {input : Input}
    (split : input.rest = pieces.flatMap Piece.render) :
    ∃ count tags,
      standard.Steps ⟨input, none⟩ count (tags.flatMap Tag.tokens)
        ⟨input.consume (pieces.flatMap Piece.render), none⟩ ∧
      Rendered input.here.offset pieces tags := by
  induction pieces generalizing input with
  | nil => exact ⟨0, [], .refl, .nil⟩
  | cons piece pieces inductionHypothesis =>
    obtain ⟨first, others⟩ := List.forall_mem_cons.1 wellFormed
    rw [List.flatMap_cons] at split ⊢
    rw [Input.consume_append]
    obtain ⟨count', tags, following, rendered⟩ :=
      inductionHypothesis others (Input.rest_consume split)
    rw [Input.offset_consume] at rendered
    by_cases isText : ∃ chars, piece = .text chars
    · obtain ⟨chars, rfl⟩ := isText
      obtain ⟨count, steps⟩ := exists_steps_of_text first (quiet_flatMap_render others) split
      exact ⟨_, tags, steps.trans following, .text rendered⟩
    · obtain ⟨tag, finds, outline⟩ :=
        exists_finds_of_piece first (fun chars same => isText ⟨chars, same⟩) split
      obtain ⟨count, steps⟩ := finds.steps
      refine ⟨_, tag :: tags, steps.trans following, ?_⟩
      exact .tag finds.wellFormed finds.starts finds.stops outline (finds.stops ▸ rendered)

/-- Segments without a text add nothing to a text. -/
theorem TextSegment.join_filter (segments : List TextSegment) :
    String.join ((segments.filter (·.text ≠ "")).map (·.text)) =
      String.join (segments.map (·.text)) := by
  induction segments with
  | nil => rfl
  | cons segment segments inductionHypothesis =>
    by_cases empty : segment.text = "" <;> simp_all

/-- Well-formed pieces that are written with the usual delimiters are found again: a tag for each
piece that is one, with its family, its trim modifiers and its body, and outside the tags the text
of the other pieces. -/
theorem scan_render {pieces : List Piece} (wellFormed : ∀ piece ∈ pieces, piece.WellFormed)
    (trimBlocks lstripBlocks : Bool) :
    ∃ result tags,
      scan { trimBlocks, lstripBlocks } (String.ofList (pieces.flatMap Piece.render)) =
        .ok result ∧
      Tag.ofTokens result.tokens = .ok tags ∧
      tags.map Tag.outline = pieces.filterMap Piece.outline? ∧
      result.outerText? = some (String.ofList (pieces.flatMap Piece.outerText)) := by
  let source := String.ofList (pieces.flatMap Piece.render)
  have split : (Input.ofString source).rest = pieces.flatMap Piece.render :=
    String.toList_ofList
  obtain ⟨count, tags, steps, rendered⟩ := Scanner.exists_steps_of_pieces wellFormed split
  obtain ⟨gaps, gapsCut, values⟩ := rendered.exists_gaps [] [] split
  have finishes : Scanner.standard.step
      ⟨(Input.ofString source).consume (pieces.flatMap Piece.render), none⟩ = .finished := by
    have nothing : ((Input.ofString source).consume (pieces.flatMap Piece.render)).rest = [] :=
      Input.rest_consume (by rw [split, List.append_nil])
    simp [Scanner.step, nothing]
  let result : Scan := ⟨source, tags.flatMap Tag.tokens⟩
  have scanned : scan { trimBlocks, lstripBlocks } source = .ok result := by
    refine scan_eq_ok_iff.2 ⟨.standard, ?_, ?_, rfl⟩
    · exact Scanner.ofOptions_eq_ok_iff.2 ⟨rfl, rfl, rfl, rfl⟩
    · exact Scanner.tokensFrom_eq_ok_iff.2 ⟨count, _, steps, finishes⟩
  refine ⟨result, tags, scanned, Tag.ofTokens_flatMap_tokens rendered.wellFormed,
    rendered.map_outline, ?_⟩
  have segments : result.textSegments? = some (gaps.filter (·.text ≠ "")) :=
    Scan.segmentsFrom?_flatMap_tokens rendered.wellFormed gapsCut
  rw [Scan.outerText?, segments, Option.map_some, TextSegment.join_filter, values]
  rfl

/-- A block trimmed on one side with a closing delimiter in a string, a comment with delimiters of
other families, and a variable whose body is made of minus signs. -/
theorem scan_render_adjacent :
    ∃ result tags, scan {} "a%\x7b%-'%\x7d'%\x7d\x7b##%\x7d#\x7d\x7b\x7b--\x7d\x7d-" = .ok result ∧
      Tag.ofTokens result.tokens = .ok tags ∧
      tags.map Tag.outline =
        [⟨.block, (true, false), "'%\x7d'"⟩, ⟨.comment, (false, false), ""⟩,
          ⟨.var, (false, false), "--"⟩] ∧
      result.outerText? = some "a%-" := by
  let pieces : List Piece :=
    [.text ['a', '%'], .block true false ['\x27', '%', '}', '\x27'], .comment ['#', '%', '}'],
      .var ['-', '-'], .text ['-']]
  have quoted : StringText '\x27' ['%', '}'] :=
    .char (by decide) (by decide) (.char (by decide) (by decide) .nil)
  have wellFormed : ∀ piece ∈ pieces, piece.WellFormed := by
    simp only [pieces, List.forall_mem_cons]
    refine ⟨?_, ?_, ?_, ?_, ?_, by simp⟩
    · exact ⟨by decide, by decide⟩
    · exact ⟨.string rfl quoted .nil, by decide, by decide, by decide, by decide⟩
    · exact (by decide : ¬ ['#', '}'] <:+: ['#', '%', '}'])
    · exact ⟨.char rfl (.char rfl .nil), by decide⟩
    · exact ⟨by decide, by decide⟩
  exact scan_render wellFormed false false

end TemplateTags
