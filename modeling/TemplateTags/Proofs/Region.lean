import TemplateTags.Proofs.Concatenation
import TemplateTags.Proofs.Positions
import TemplateTags.Proofs.Prefixes

/-!
# The region of a tag

A run crosses a tag from its opening delimiter to its closing one. On the way it does not look at
the rule for text outside of tags, and it decides nothing by what stands behind the tag. So the
region of a tag is scanned to the same tokens when it stands alone, by `Tag.exists_alone`.
-/

namespace TemplateTags

open Text

/-- What is consumed and what remains is what there was. -/
theorem Input.append_rest_consume {input : Input} {text : List Char}
    (start : text <+: input.rest) : text ++ (input.consume text).rest = input.rest := by
  obtain ⟨rest, split⟩ := start
  rw [rest_consume split.symm, split]

/-- The numbers of characters that are consumed and that remain add up. -/
theorem Input.length_append_rest_consume {input : Input} {text : List Char}
    (start : text <+: input.rest) :
    text.length + (input.consume text).rest.length = input.rest.length := by
  rw [← List.length_append, append_rest_consume start]

/-- The tag is written with the text, from the input on. The values of the tokens make up the text,
but for the text of a comment. -/
structure Tag.Covers (tag : Tag) (input : Input) (text : List Char) : Prop where
  brace : text.head? = some '{'
  starts : tag.opening.span.start = input.here.offset
  stops : tag.closing.span.stop = input.here.offset + byteLength text
  values : tag.family ≠ .comment → String.join (tag.tokens.map (·.value)) = String.ofList text

namespace Scanner

variable {scanner : Scanner} {outerText : OuterText} {start finish state next : State}
  {input : Input} {opened : OpenTag} {count : Nat} {body : List Token} {token : Token}

/-! ## Runs through a tag -/

/-- A run that finds a token among others is a run up to it, the step that finds it and a run
behind it. -/
theorem Steps.exists_split {tokens first second : List Token}
    (steps : scanner.Steps start count tokens finish) (split : tokens = first ++ token :: second) :
    ∃ countFirst reached next countSecond, scanner.Steps start countFirst first reached ∧
      scanner.Rule reached (.emitted token next) ∧
        scanner.Steps next countSecond second finish := by
  induction steps generalizing second with
  | refl => simp at split
  | skipped _ skips inductionHypothesis =>
    obtain ⟨countFirst, reached, next, countSecond, before, rule, behind⟩ :=
      inductionHypothesis split
    exact ⟨countFirst, reached, next, _, before, rule, behind.skipped skips⟩
  | @emitted _ _ state last _ prior emits inductionHypothesis =>
    rcases List.eq_nil_or_concat' second with rfl | ⟨others, final, rfl⟩
    · obtain ⟨rfl, same⟩ := List.append_inj' split rfl
      obtain rfl : last = token := by simpa using same
      have rule := rule_of_step_eq emits
      exact ⟨_, state, _, 0, prior, rule, .refl⟩
    · rw [← List.cons_append, ← List.append_assoc] at split
      obtain ⟨rfl, same⟩ := List.append_inj' split rfl
      obtain rfl : last = final := by simpa using same
      obtain ⟨countFirst, reached, next, countSecond, before, rule, behind⟩ :=
        inductionHypothesis rfl
      exact ⟨countFirst, reached, next, _, before, rule, behind.emitted emits⟩

/-- Content is found inside a tag, which stays open. -/
theorem Rule.opened?_of_isContent (rule : scanner.Rule state (.emitted token next))
    (content : token.isContent) : next.opened? = state.opened? := by
  cases rule with
  | opens | closes => cases content
  | lexeme => rfl

/-- While a run finds only content, the tag in which it stands stays open. In a tag that is no
comment, the content is all of the text. -/
theorem Steps.exists_consume_of_content
    (steps : scanner.Steps ⟨input, some opened⟩ count body finish)
    (content : ∀ token ∈ body, token.isContent) :
    ∃ text, text <+: input.rest ∧ finish = ⟨input.consume text, some opened⟩ ∧
      (opened.family ≠ .comment →
        String.join (body.map (·.value)) = String.ofList text) := by
  induction steps with
  | refl => exact ⟨[], List.nil_prefix, rfl, fun _ => rfl⟩
  | skipped prior skips inductionHypothesis =>
    obtain ⟨text, within, rfl, -⟩ := inductionHypothesis content
    have rule := rule_of_step_eq skips
    have comment := rule.comment_of_skipped rfl
    obtain ⟨char, rest, split, rfl⟩ := rule.skips
    refine ⟨text ++ [char], ?_, ?_, fun noComment => absurd comment noComment⟩
    · rw [← Input.append_rest_consume within, split]
      exact (List.prefix_append_right_inj text).2 ⟨rest, rfl⟩
    · rw [Input.consume_append]
  | emitted prior emits inductionHypothesis =>
    obtain ⟨earlier, last⟩ := List.forall_mem_append.1 content
    obtain ⟨text, within, rfl, values⟩ := inductionHypothesis earlier
    have rule := rule_of_step_eq emits
    obtain ⟨kind, value, -, starts, rfl, input_eq, -⟩ := rule.emits
    have kept := rule.opened?_of_isContent (last _ (List.mem_singleton.2 rfl))
    refine ⟨text ++ value, ?_, ?_, fun noComment => ?_⟩
    · rw [← Input.append_rest_consume within]
      exact (List.prefix_append_right_inj text).2 starts
    · rw [Input.consume_append]
      exact congrArg₂ State.mk input_eq kept
    · rw [List.map_append, String.join_append, values noComment, String.ofList_append]
      simp [Input.token]

/-! ## Text outside of tags -/

/-- What is done inside a tag is done whatever is done with text outside of tags. -/
theorem Steps.usual_of_content
    (steps : (usual outerText).Steps ⟨input, some opened⟩ count body finish)
    (content : ∀ token ∈ body, token.isContent) (other : OuterText) :
    (usual other).Steps ⟨input, some opened⟩ count body finish := by
  induction steps with
  | refl => exact .refl
  | skipped prior skips inductionHypothesis =>
    obtain ⟨text, -, rfl, -⟩ := prior.exists_consume_of_content content
    have rule := rule_of_step_eq skips
    exact .skipped (inductionHypothesis content) (rule.skipped_under rfl other).step_eq
  | @emitted _ _ state _ _ prior emits inductionHypothesis =>
    have rule := rule_of_step_eq emits
    exact .emitted (inductionHypothesis (List.forall_mem_append.1 content).1)
      (rule.emitted_under other).step_eq

/-! ## Crossing a tag -/

/-- An opening delimiter is found outside every tag, and where no closing literal stands. -/
theorem Rule.opens_of_isOpening (rule : scanner.Rule state (.emitted token next))
    (isOpening : token.isOpening) :
    ∃ input literal, scanner.delimiters.closeAt? input.rest = none ∧
      scanner.delimiters.openAt? input.rest = some literal ∧
      state = ⟨input, none⟩ ∧
      token = input.token (.opening literal.family) literal.text ∧
      next = ⟨input.consume literal.text, some ⟨literal.family, token⟩⟩ := by
  cases rule with
  | opens noClose opening => exact ⟨_, _, noClose, opening, rfl, rfl, rfl⟩
  | closes => cases isOpening
  | lexeme _ _ _ _ _ reads =>
    have content := Lexeme.isContent_of_read reads
    simp [Token.isOpening, (Kind.isContent_iff.1 content).1] at isOpening

/-- A closing delimiter is found inside a tag. -/
theorem Rule.closes_of_isClosing (rule : scanner.Rule state (.emitted token next))
    (isClosing : token.isClosing) :
    ∃ (input : Input) (opened : OpenTag) (literal : Literal),
      scanner.delimiters.closeOf? opened.family input.rest = some literal ∧
      state = ⟨input, some opened⟩ ∧
      token = input.token (.closing opened.family) literal.text ∧
      next = ⟨input.consume literal.text, none⟩ := by
  cases rule with
  | opens => cases isClosing
  | closes kept own => exact ⟨_, _, _, own, rfl, rfl, rfl⟩
  | lexeme _ _ _ _ _ reads =>
    have content := Lexeme.isContent_of_read reads
    simp [Token.isClosing, (Kind.isContent_iff.1 content).2] at isClosing

/-- A run crosses the tag: it finds the opening delimiter in one state, and behind it the tokens
inside and the closing delimiter. -/
structure Crosses (scanner : Scanner) (tag : Tag) (before behind : State) : Prop where
  run : ∃ next count last, scanner.Rule before (.emitted tag.opening next) ∧
    scanner.Steps next count tag.body last ∧ scanner.Rule last (.emitted tag.closing behind)

/-- A run crosses each tag that it finds. -/
theorem Steps.exists_crosses {tags : List Tag} {tag : Tag}
    (steps : scanner.Steps start count (tags.flatMap Tag.tokens) finish) (member : tag ∈ tags) :
    ∃ countBefore earlier before behind, scanner.Steps start countBefore earlier before ∧
      scanner.Crosses tag before behind := by
  obtain ⟨earlier, later, rfl⟩ := List.append_of_mem member
  have shape : (earlier ++ tag :: later).flatMap Tag.tokens = earlier.flatMap Tag.tokens ++
      tag.opening :: (tag.body ++ tag.closing :: later.flatMap Tag.tokens) := by
    rw [List.flatMap_append, List.flatMap_cons, Tag.tokens_append]
  obtain ⟨countBefore, before, next, _, toTag, opens, following⟩ := steps.exists_split shape
  obtain ⟨_, last, behind, _, inside, closes, -⟩ := following.exists_split rfl
  exact ⟨countBefore, _, before, behind, toTag, ⟨next, _, last, opens, inside, closes⟩⟩

section

variable {tag : Tag} {before behind : State} (wellFormed : tag.WellFormed)

include wellFormed

/-- A tag is crossed whatever is done with text outside of tags. -/
theorem Crosses.usual_of_usual (crosses : (usual outerText).Crosses tag before behind)
    (other : OuterText) : (usual other).Crosses tag before behind := by
  obtain ⟨next, count, last, opens, inside, closes⟩ := crosses.run
  obtain ⟨input, literal, -, -, rfl, -, rfl⟩ :=
    opens.opens_of_isOpening wellFormed.isOpening_opening
  exact ⟨_, count, last, opens.emitted_under other,
    inside.usual_of_content wellFormed.content other, closes.emitted_under other⟩

/-- A run that crosses a tag passes over the text that the tag is written with. -/
theorem Crosses.exists_region (crosses : (usual outerText).Crosses tag before behind) :
    ∃ region, before.opened? = none ∧ region ++ behind.input.rest = before.input.rest ∧
      tag.Covers before.input region := by
  obtain ⟨next, count, last, opens, inside, closes⟩ := crosses.run
  obtain ⟨input, start, -, opening, rfl, opening_eq, rfl⟩ :=
    opens.opens_of_isOpening wellFormed.isOpening_opening
  obtain ⟨text, within, rfl, values⟩ := inside.exists_consume_of_content wellFormed.content
  obtain ⟨_, opened, stop, own, same, closing_eq, rfl⟩ :=
    closes.closes_of_isClosing wellFormed.isClosing_closing
  cases same
  obtain ⟨openingListed, openingStart⟩ := Delimiters.openAt?_eq_some opening
  obtain ⟨-, -, closingStart⟩ := Delimiters.closeOf?_eq_some own
  refine ⟨start.text ++ text ++ stop.text, rfl, ?_, ?brace, ?starts, ?stops, ?values⟩
  · rw [List.append_assoc, List.append_assoc, Input.append_rest_consume closingStart,
      Input.append_rest_consume within, Input.append_rest_consume openingStart]
  case brace =>
    have brace : ∀ literal ∈ standard.delimiters.openings, literal.text.head? = some '{' := by
      decide
    rw [List.append_assoc, List.head?_append, brace start openingListed]
    rfl
  case starts => rw [opening_eq, Input.start_token]
  case stops => simp [closing_eq, Nat.add_assoc]
  case values =>
    intro noComment
    have family_eq : tag.family = start.family := by
      have := wellFormed.opens
      rw [opening_eq] at this
      exact (Kind.opening.inj this).symm
    rw [Tag.tokens, List.map_append, String.join_append, List.map_cons, String.join_cons,
      values (family_eq ▸ noComment), String.ofList_append, String.ofList_append]
    simp [opening_eq, closing_eq, Input.token]

/-- A tag is crossed without what stands behind it. -/
theorem Crosses.exists_steps (crosses : (usual outerText).Crosses tag ⟨input, none⟩ behind)
    {region : List Char} (whole : region ++ behind.input.rest = input.rest) :
    ∃ count finish, (usual outerText).Steps ⟨⟨input.here, region⟩, none⟩ count tag.tokens finish ∧
      finish.input.rest = [] ∧ finish.opened? = none := by
  obtain ⟨next, count, last, opens, inside, closes⟩ := crosses.run
  have run := ((Steps.emitted .refl opens.step_eq).trans inside).emitted closes.step_eq
  have start_eq : (⟨input, none⟩ : State) =
      State.extend ⟨⟨input.here, region⟩, none⟩ behind.input.rest := by
    rw [State.extend, Input.extend, whole]
  obtain ⟨_, _, _, -, -, -, behind_eq⟩ :=
    closes.closes_of_isClosing wellFormed.isClosing_closing
  rw [start_eq] at run
  obtain ⟨here, cutRun⟩ := run.exists_cut_to_end (by rw [behind_eq]) rfl
  exact ⟨_, ⟨⟨here, []⟩, none⟩, cutRun, rfl, rfl⟩

end

/-- A run that comes to the end of the text outside every tag is all of the scan. -/
theorem tokensFrom_of_steps_to_end {tokens : List Token}
    (steps : scanner.Steps start count tokens finish) (nothing : finish.input.rest = [])
    (outside : finish.opened? = none) : scanner.tokensFrom start = .ok tokens := by
  refine tokensFrom_eq_ok_iff.2 ⟨count, finish, steps, ?_⟩
  simp [step, nothing, outside]

end Scanner

/-! ## Tags that stand alone -/

/-- The tag, when a text is put in front of the source. -/
def Tag.shift (tag : Tag) (text : List Char) : Tag :=
  ⟨tag.family, tag.opening.shift text, tag.body.map (·.shift text), tag.closing.shift text⟩

/-- With a rule for text outside of tags, the text by itself is scanned to the tokens of the tag,
which reaches from the first to the last of its bytes. -/
structure Tag.Alone (tag : Tag) (outerText : OuterText) (text : String) : Prop where
  wellFormed : tag.WellFormed
  scanned : (Scanner.usual outerText).tokens text = .ok tag.tokens
  brace : text.toList.head? = some '{'
  starts : tag.opening.span.start = 0
  stops : tag.closing.span.stop = text.utf8ByteSize

namespace Tag

variable {outerText : OuterText} {tag : Tag}

/-- The tokens of a tag are moved with it. -/
theorem tokens_shift (tag : Tag) (text : List Char) :
    (tag.shift text).tokens = tag.tokens.map (·.shift text) := by
  simp [tokens, shift]

/-- The tokens of tags are moved with them. -/
theorem flatMap_tokens_shift (tags : List Tag) (text : List Char) :
    (tags.map (·.shift text)).flatMap tokens = (tags.flatMap tokens).map (·.shift text) := by
  rw [List.flatMap_map, List.map_flatMap]
  simp only [tokens_shift]

/-- A well-formed tag is well formed with text in front of it. -/
theorem WellFormed.shift (wellFormed : tag.WellFormed) (text : List Char) :
    (tag.shift text).WellFormed where
  opens := wellFormed.opens
  content := List.forall_mem_map.2 wellFormed.content
  closes := wellFormed.closes

/-- A tag that is well formed with text in front of it is so without. -/
theorem WellFormed.of_shift {text : List Char} (wellFormed : (tag.shift text).WellFormed) :
    tag.WellFormed where
  opens := wellFormed.opens
  content := List.forall_mem_map.1 wellFormed.content
  closes := wellFormed.closes

/-- Tokens that are those of a tag when they are shifted are those of a tag. -/
theorem exists_of_map_shift {tokens : List Token} {text : List Char}
    (shifted : tokens.map (·.shift text) = tag.tokens) :
    ∃ own : Tag, own.shift text = tag ∧ own.tokens = tokens := by
  obtain ⟨front, last, rfl, frontShifted, lastShifted⟩ := List.map_eq_append_iff.1 shifted
  obtain ⟨opening, body, rfl, openingShifted, bodyShifted⟩ := List.map_eq_cons_iff.1 frontShifted
  obtain ⟨closing, nothing, rfl, closingShifted, nothingShifted⟩ :=
    List.map_eq_cons_iff.1 lastShifted
  obtain rfl := List.map_eq_nil_iff.1 nothingShifted
  refine ⟨⟨tag.family, opening, body, closing⟩, ?_, rfl⟩
  simp only [shift, openingShifted, bodyShifted, closingShifted]

/-- The region of a tag that a run crosses is scanned to that tag when it stands alone. -/
theorem exists_alone {source : String} {passed : List Char} {before behind : State}
    (wellFormed : tag.WellFormed)
    (crosses : (Scanner.usual outerText).Crosses tag before behind)
    (follows : before.input.Follows source passed) :
    ∃ region, tag.region? source = some region ∧
      (tag.family ≠ .comment → String.join (tag.tokens.map (·.value)) = region) ∧
      ∀ other, ∃ own : Tag, own.shift passed = tag ∧ own.Alone other region := by
  obtain ⟨region, outside, whole, covers⟩ := crosses.exists_region wellFormed
  have starts : tag.opening.span.start = byteLength passed := by
    rw [covers.starts, follows.offset_eq]
  have stops : tag.closing.span.stop = byteLength passed + byteLength region := by
    rw [covers.stops, follows.offset_eq]
  refine ⟨String.ofList region, ?_, covers.values, fun other => ?_⟩
  · have split : source.toList = passed ++ region ++ behind.input.rest := by
      rw [follows.text, ← whole, List.append_assoc]
    rw [region?, starts, stops, slice?_of_toList_eq split]
  · obtain ⟨⟨here, rest⟩, opened?⟩ := before
    obtain rfl : opened? = none := outside
    obtain ⟨count, finish, steps, nothing, finishOutside⟩ :=
      (crosses.usual_of_usual wellFormed other).exists_steps wellFormed whole
    have shifted : shiftOutcome passed ((Scanner.usual other).tokens (String.ofList region)) =
        .ok tag.tokens := by
      rw [← Scanner.tokensFrom_behind, String.toList_ofList, ← follows.here]
      exact Scanner.tokensFrom_of_steps_to_end steps nothing finishOutside
    obtain ⟨tokens, scanned, tokens_eq⟩ := shiftOutcome_eq_ok_iff.1 shifted
    obtain ⟨own, rfl, rfl⟩ := exists_of_map_shift tokens_eq
    refine ⟨own, rfl, wellFormed.of_shift, scanned, ?_, ?_, ?_⟩
    · rw [String.toList_ofList]
      exact covers.brace
    · simpa [shift, Token.shift, Span.shift] using starts
    · rw [utf8ByteSize_ofList]
      simpa [shift, Token.shift, Span.shift] using stops

end Tag

end TemplateTags
