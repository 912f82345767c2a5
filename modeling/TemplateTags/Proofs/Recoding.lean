import TemplateTags.Proofs.Neutral
import TemplateTags.Proofs.Positions

/-!
# Scans of recoded templates

A scan of a template and a scan of the recoded template go the same way: their tokens have the same
kinds, lines and columns, and the recoded texts, although they may lie at quite different offsets.
`Scanner.Rule.recode` says so for one step, from states that are related by `State.Recodes`, and
`Scanner.Steps.recode` for a run. So the width of characters in bytes has no part in what a scan
finds, by `tokenize_recode`.
-/

namespace TemplateTags

open Text

/-! ## Places in the recoded source -/

section Places

variable (recoding : Recoding) (source : String)

/-- The second offset counts the bytes that the text before the first one takes when it is
recoded. -/
def Recoding.Offsets (offset other : Nat) : Prop :=
  ∃ before, slice? source 0 offset = some before ∧ other = (recoding.text before).utf8ByteSize

/-- The second span covers in the recoded source what the first one covers in the source. -/
structure Span.Recodes (span other : Span) : Prop where
  start : recoding.Offsets source span.start other.start
  stop : recoding.Offsets source span.stop other.stop
  line : other.line = span.line
  column : other.column = span.column

/-- The second token is in the recoded source what the first one is in the source. -/
structure Token.Recodes (token other : Token) : Prop where
  kind : other.kind = token.kind
  value : other.value = recoding.text token.value
  span : token.span.Recodes recoding source other.span

/-- The causes are the same, with tokens and places in the source and in the recoded source. -/
inductive LexError.Cause.Recodes : LexError.Cause → LexError.Cause → Prop where
  | unknownToken {token token'} (tokens : token.Recodes recoding source token') :
      Recodes (.unknownToken token) (.unknownToken token')
  | unexpectedOpen {found found' opened opened'} (tokens : found.Recodes recoding source found')
      (openings : opened.Recodes recoding source opened') :
      Recodes (.unexpectedOpen found opened) (.unexpectedOpen found' opened')
  | unmatchedClose {found found'} (tokens : found.Recodes recoding source found') :
      Recodes (.unmatchedClose found) (.unmatchedClose found')
  | mismatchedClose {found found' opened opened'} (tokens : found.Recodes recoding source found')
      (openings : opened.Recodes recoding source opened') :
      Recodes (.mismatchedClose found opened) (.mismatchedClose found' opened')
  | unterminatedString {token token'} (tokens : token.Recodes recoding source token') :
      Recodes (.unterminatedString token) (.unterminatedString token')
  | unterminatedTag {opened opened' expectedAt expectedAt'}
      (openings : opened.Recodes recoding source opened')
      (spans : expectedAt.Recodes recoding source expectedAt') :
      Recodes (.unterminatedTag opened expectedAt) (.unterminatedTag opened' expectedAt')

/-- The second error is in the recoded source what the first one is in the source. -/
structure LexError.Recodes (error other : LexError) : Prop where
  cause : error.cause.Recodes recoding source other.cause
  span : error.span.Recodes recoding source other.span

/-- Both scans find the same tokens, or fail with the same error. -/
inductive Recoding.Outcomes :
    Except LexError (List Token) → Except LexError (List Token) → Prop where
  | ok {tokens others} (pairs : List.Forall₂ (Token.Recodes recoding source) tokens others) :
      Outcomes (.ok tokens) (.ok others)
  | error {error other} (same : LexError.Recodes recoding source error other) :
      Outcomes (.error error) (.error other)

/-! ## States in the recoded source -/

/-- The second input has come as far in the recoded source as the first one in the source. -/
def Input.Recodes (input other : Input) : Prop :=
  ∃ passed, input.Follows source passed ∧
    other.Follows (recoding.text source) (passed.map recoding.char)

/-- The second open tag is in the recoded source what the first one is in the source. -/
structure OpenTag.Recodes (opened other : OpenTag) : Prop where
  family : other.family = opened.family
  token : opened.token.Recodes recoding source other.token

/-- The second state is in the recoded source what the first one is in the source. -/
structure State.Recodes (state other : State) : Prop where
  input : state.input.Recodes recoding source other.input
  opened? : Option.Rel (OpenTag.Recodes recoding source) state.opened? other.opened?

/-- The second step does in the recoded source what the first one does in the source. -/
inductive Step.Recodes : Step → Step → Prop where
  | finished : Recodes .finished .finished
  | failed {error other} (errors : LexError.Recodes recoding source error other) :
      Recodes (.failed error) (.failed other)
  | skipped {next next'} (states : State.Recodes recoding source next next') :
      Recodes (.skipped next) (.skipped next')
  | emitted {token token' next next'} (tokens : Token.Recodes recoding source token token')
      (states : State.Recodes recoding source next next') :
      Recodes (.emitted token next) (.emitted token' next')

end Places

variable {recoding : Recoding} {source : String}

/-- Recoding keeps the number of lines, as a newline is not neutral. -/
theorem Recoding.count_newline_map (passed : List Char) :
    (passed.map recoding.char).count '\n' = passed.count '\n' := by
  induction passed with
  | nil => rfl
  | cons char passed inductionHypothesis =>
    have newline : (recoding.char char == '\n') = (char == '\n') := by
      rw [Bool.eq_iff_iff, beq_iff_eq, beq_iff_eq, recoding.char_eq_iff (by decide)]
    rw [List.map_cons, List.count_cons, List.count_cons, inductionHypothesis, newline]

/-- Recoding keeps the number of characters of the last line, as newlines stay where they are. -/
theorem Recoding.length_lastLine_map (passed : List Char) :
    (lastLine (passed.map recoding.char)).length = (lastLine passed).length := by
  have newline : ∀ char, recoding.char char = '\n' ↔ char = '\n' := fun char =>
    recoding.char_eq_iff (by decide)
  rw [lastLine, lastLine, ← List.map_reverse, List.takeWhile_map]
  simp [Function.comp_def, newline]

namespace Input.Recodes

variable {input other : Input}

/-- What remains of the recoded source is the recoding of what remains of the source. -/
theorem rest_eq (recodes : input.Recodes recoding source other) :
    other.rest = input.rest.map recoding.char := by
  obtain ⟨passed, follows, follows'⟩ := recodes
  have text := follows'.text
  rw [recoding.toList_text, follows.text, List.map_append] at text
  exact (List.append_cancel_left text).symm

/-- The next character of the recoded source is the recoded next character. -/
theorem split (recodes : input.Recodes recoding source other) {char : Char} {rest : List Char}
    (split : input.rest = char :: rest) :
    other.rest = recoding.char char :: rest.map recoding.char := by
  rw [recodes.rest_eq, split, List.map_cons]

/-- Behind texts with which the inputs start, the inputs have come equally far. -/
theorem consume (recodes : input.Recodes recoding source other) {value : List Char}
    (start : value <+: input.rest) :
    (input.consume value).Recodes recoding source (other.consume (value.map recoding.char)) := by
  have start' : value.map recoding.char <+: other.rest := recodes.rest_eq ▸ start.map _
  obtain ⟨passed, follows, follows'⟩ := recodes
  have consumed := follows'.consume start'
  rw [← List.map_append] at consumed
  exact ⟨_, follows.consume start, consumed⟩

/-- The offsets of the inputs correspond, as both follow a text and its recoding. -/
theorem offsets (recodes : input.Recodes recoding source other) :
    recoding.Offsets source input.here.offset other.here.offset := by
  obtain ⟨passed, follows, follows'⟩ := recodes
  have split : source.toList = [] ++ passed ++ input.rest := follows.text
  refine ⟨String.ofList passed, ?_, ?_⟩
  · simpa [follows.offset_eq] using slice?_of_toList_eq split
  · rw [follows'.offset_eq, recoding.text_ofList, utf8ByteSize_ofList]

/-- Spans from the inputs to offsets that correspond do so themselves: they start on the same line,
in the same column. -/
theorem spanTo (recodes : input.Recodes recoding source other) {stop stop' : Nat}
    (stops : recoding.Offsets source stop stop') :
    (input.here.spanTo stop).Recodes recoding source (other.here.spanTo stop') := by
  refine ⟨recodes.offsets, stops, ?_, ?_⟩ <;> obtain ⟨passed, follows, follows'⟩ := recodes
  · simp [Location.spanTo, follows.here, follows'.here, Recoding.count_newline_map]
  · simp [Location.spanTo, follows.here, follows'.here, Location.after_first,
      Recoding.length_lastLine_map]

/-- Texts with which the inputs start make tokens that correspond. -/
theorem token (recodes : input.Recodes recoding source other) (kind : Kind) {value : List Char}
    (start : value <+: input.rest) :
    (input.token kind value).Recodes recoding source
      (other.token kind (value.map recoding.char)) where
  kind := rfl
  value := (recoding.text_ofList value).symm
  span := recodes.spanTo (recodes.consume start).offsets

/-- A text without neutral characters is its own recoded text. -/
theorem literal (recodes : input.Recodes recoding source other) (kind : Kind)
    {literal : List Char} (noNeutral : ∀ char ∈ literal, isNeutral char = false)
    (start : literal <+: input.rest) :
    (input.token kind literal).Recodes recoding source (other.token kind literal) ∧
      (input.consume literal).Recodes recoding source (other.consume literal) := by
  have tokens := recodes.token kind start
  have consumed := recodes.consume start
  rw [(recoding.map_eq_iff noNeutral).2 rfl] at tokens consumed
  exact ⟨tokens, consumed⟩

/-- A closing literal is its own recoded text. -/
theorem closing (recodes : input.Recodes recoding source other) (kind : Kind) {literal : Literal}
    (listed : literal ∈ Scanner.standard.delimiters.closings)
    (start : literal.text <+: input.rest) :
    (input.token kind literal.text).Recodes recoding source (other.token kind literal.text) ∧
      (input.consume literal.text).Recodes recoding source (other.consume literal.text) :=
  recodes.literal kind (Recoding.noNeutral_of_mem_closings literal listed) start

/-- An opening literal is its own recoded text. -/
theorem opening (recodes : input.Recodes recoding source other) (kind : Kind) {literal : Literal}
    (listed : literal ∈ Scanner.standard.delimiters.openings)
    (start : literal.text <+: input.rest) :
    (input.token kind literal.text).Recodes recoding source (other.token kind literal.text) ∧
      (input.consume literal.text).Recodes recoding source (other.consume literal.text) :=
  recodes.literal kind (Recoding.noNeutral_of_mem_openings literal listed) start

end Input.Recodes

/-- Errors over tokens that correspond do so themselves if their causes do. -/
theorem Step.Recodes.failedOver {cause cause' : Token → LexError.Cause} {token token' : Token}
    (tokens : token.Recodes recoding source token')
    (causes : (cause token).Recodes recoding source (cause' token')) :
    (Step.failedOver cause token).Recodes recoding source (Step.failedOver cause' token') :=
  .failed ⟨causes, tokens.span⟩

/-! ## Runs on the recoded source -/

namespace Scanner

variable {input input' : Input} {opened opened' : OpenTag} {state other start finish : State}
  {step : Step} {count : Nat} {tokens : List Token}

/-- The scanner gives up on a tag in both sources or in neither, as equally many characters
remain. -/
theorem givesUp_recode (inputs : input.Recodes recoding source input') (family : Family) :
    standard.givesUp family input' = standard.givesUp family input := by
  rw [givesUp, givesUp, Bool.eq_iff_iff]
  simp [standard, Input.fewerThan_iff, inputs.rest_eq]

/-- Outside of tags, a step does in the recoded source what it does in the source. -/
theorem Rule.recode_outside (rule : standard.Rule ⟨input, none⟩ step)
    (inputs : input.Recodes recoding source input') :
    ∃ step', standard.Rule ⟨input', none⟩ step' ∧ step.Recodes recoding source step' := by
  -- The same literals stand at the head of both inputs.
  have closeAt?_eq := recoding.closeAt?_map input.rest
  have openAt?_eq := recoding.openAt?_map input.rest
  rw [← inputs.rest_eq] at closeAt?_eq openAt?_eq
  cases rule with
  | finish =>
    obtain ⟨here', rest'⟩ := input'
    obtain rfl : rest' = [] := inputs.rest_eq
    exact ⟨_, .finish, .finished⟩
  | @unmatchedClose _ literal closes =>
    obtain ⟨listed, start⟩ := Delimiters.closeAt?_eq_some closes
    have tokens := (inputs.closing (.closing literal.family) listed start).1
    exact ⟨_, .unmatchedClose (closeAt?_eq.trans closes),
      .failedOver tokens (.unmatchedClose tokens)⟩
  | @opens _ literal noClose opening =>
    obtain ⟨listed, start⟩ := Delimiters.openAt?_eq_some opening
    obtain ⟨tokens, consumed⟩ := inputs.opening (.opening literal.family) listed start
    exact ⟨_, .opens (closeAt?_eq.trans noClose) (openAt?_eq.trans opening),
      .emitted tokens ⟨consumed, .some ⟨rfl, tokens⟩⟩⟩
  | @outerSkipped _ char rest split noClose noOpen policy =>
    have start : [char] <+: input.rest := ⟨rest, split.symm⟩
    have split' := inputs.split split
    exact ⟨_, .outerSkipped split' (closeAt?_eq.trans noClose) (openAt?_eq.trans noOpen) policy,
      .skipped ⟨inputs.consume start, .none⟩⟩
  | outerRefused _ _ _ policy => cases policy

/-- Inside a tag, a step does in the recoded source what it does in the source. -/
theorem Rule.recode_inside (rule : standard.Rule ⟨input, some opened⟩ step)
    (inputs : input.Recodes recoding source input')
    (openings : opened.Recodes recoding source opened') :
    ∃ step', standard.Rule ⟨input', some opened'⟩ step' ∧ step.Recodes recoding source step' := by
  -- The same literals stand at the head of both inputs, and as many characters are left.
  have closeAt?_eq := recoding.closeAt?_map input.rest
  have openAt?_eq := recoding.openAt?_map input.rest
  have closeOf?_eq := recoding.closeOf?_map opened.family input.rest
  have givesUp_eq := givesUp_recode inputs opened.family
  rw [← inputs.rest_eq] at closeAt?_eq openAt?_eq closeOf?_eq
  obtain ⟨family, opening'⟩ := opened'
  obtain ⟨rfl, opens⟩ := openings
  cases rule with
  | unterminated short =>
    have short' : input'.rest = [] ∨ standard.givesUp opened.family input' := by
      rw [givesUp_eq, inputs.rest_eq, List.map_eq_nil_iff]
      exact short
    have spans := inputs.spanTo inputs.offsets
    exact ⟨_, .unterminated short', .failed ⟨.unterminatedTag opens spans, spans⟩⟩
  | @closes _ _ literal kept own =>
    obtain ⟨listed, -, start⟩ := Delimiters.closeOf?_eq_some own
    obtain ⟨tokens, consumed⟩ := inputs.closing (.closing opened.family) listed start
    exact ⟨_, .closes (givesUp_eq.trans kept) (closeOf?_eq.trans own),
      .emitted tokens ⟨consumed, .none⟩⟩
  | @mismatchedClose _ _ literal kept noComment closes foreign =>
    obtain ⟨listed, start⟩ := Delimiters.closeAt?_eq_some closes
    have tokens := (inputs.closing (.closing literal.family) listed start).1
    exact ⟨_, .mismatchedClose (givesUp_eq.trans kept) noComment (closeAt?_eq.trans closes)
      (closeOf?_eq.trans foreign), .failedOver tokens (.mismatchedClose tokens opens)⟩
  | @commentSkipped _ _ char rest split kept comment noOwn =>
    have start : [char] <+: input.rest := ⟨rest, split.symm⟩
    rw [comment] at closeOf?_eq
    have split' := inputs.split split
    exact ⟨_, .commentSkipped split' (givesUp_eq.trans kept) comment (closeOf?_eq.trans noOwn),
      .skipped ⟨inputs.consume start, .some ⟨rfl, opens⟩⟩⟩
  | @unexpectedOpen _ _ literal kept noComment noClose opening =>
    obtain ⟨listed, start⟩ := Delimiters.openAt?_eq_some opening
    have tokens := (inputs.opening (.opening literal.family) listed start).1
    exact ⟨_, .unexpectedOpen (givesUp_eq.trans kept) noComment (closeAt?_eq.trans noClose)
      (openAt?_eq.trans opening), .failedOver tokens (.unexpectedOpen tokens opens)⟩
  | @lexeme _ _ char rest kind value split kept noComment noClose noOpen reads =>
    have start := (piece_of_read split noClose reads).2
    have reads' := (recoding.read_map char rest).trans (congrArg (Lexeme.recode recoding) reads)
    have split' := inputs.split split
    exact ⟨_, .lexeme split' (givesUp_eq.trans kept) noComment (closeAt?_eq.trans noClose)
      (openAt?_eq.trans noOpen) reads',
      .emitted (inputs.token kind start) ⟨inputs.consume start, .some ⟨rfl, opens⟩⟩⟩
  | @unknown _ _ char rest split kept noComment noClose noOpen reads =>
    have start : [char] <+: input.rest := ⟨rest, split.symm⟩
    have reads' := (recoding.read_map char rest).trans (congrArg (Lexeme.recode recoding) reads)
    have tokens := inputs.token .unknown start
    have split' := inputs.split split
    exact ⟨_, .unknown split' (givesUp_eq.trans kept) noComment (closeAt?_eq.trans noClose)
      (openAt?_eq.trans noOpen) reads', .failedOver tokens (.unknownToken tokens)⟩
  | @unclosedString _ _ char rest split kept noComment noClose noOpen reads =>
    have start : char :: rest <+: input.rest := ⟨[], by simp [split]⟩
    have reads' := (recoding.read_map char rest).trans (congrArg (Lexeme.recode recoding) reads)
    have tokens := inputs.token .string start
    have split' := inputs.split split
    exact ⟨_, .unclosedString split' (givesUp_eq.trans kept) noComment (closeAt?_eq.trans noClose)
      (openAt?_eq.trans noOpen) reads', .failedOver tokens (.unterminatedString tokens)⟩

/-- In the recoded source, a step does what it does in the source. -/
theorem step_recode (states : state.Recodes recoding source other) :
    (standard.step state).Recodes recoding source (standard.step other) := by
  have rule := standard.rule_step state
  obtain ⟨input, opened?⟩ := state
  obtain ⟨input', opened'?⟩ := other
  obtain ⟨inputs, openings⟩ := states
  cases openings with
  | none =>
    obtain ⟨step', rule', steps⟩ := rule.recode_outside inputs
    rwa [rule'.step_eq]
  | some openings =>
    obtain ⟨step', rule', steps⟩ := rule.recode_inside inputs openings
    rwa [rule'.step_eq]

/-- In the recoded source, a run goes the way that it goes in the source. -/
theorem Steps.recode (steps : standard.Steps start count tokens finish)
    {start' : State} (states : start.Recodes recoding source start') :
    ∃ tokens' finish', standard.Steps start' count tokens' finish' ∧
      List.Forall₂ (Token.Recodes recoding source) tokens tokens' ∧
        finish.Recodes recoding source finish' := by
  induction steps with
  | refl => exact ⟨[], start', .refl, .nil, states⟩
  | skipped _ skips inductionHypothesis =>
    obtain ⟨tokens', state', prior, pairs, reached⟩ := inductionHypothesis
    have same := step_recode reached
    rw [skips] at same
    generalize step_eq : standard.step state' = step' at same
    cases same with
    | skipped nexts => exact ⟨tokens', _, prior.skipped step_eq, pairs, nexts⟩
  | emitted _ emits inductionHypothesis =>
    obtain ⟨tokens', state', prior, pairs, reached⟩ := inductionHypothesis
    have same := step_recode reached
    rw [emits] at same
    generalize step_eq : standard.step state' = step' at same
    cases same with
    | emitted found nexts =>
      exact ⟨_, _, prior.emitted step_eq, List.rel_append pairs (.cons found .nil), nexts⟩

end Scanner

/-- Scans of the source and of the recoded source start from states that correspond. -/
theorem State.recodes_initial (recoding : Recoding) (source : String) :
    (State.initial source).Recodes recoding source (.initial (recoding.text source)) where
  input := ⟨[], Input.follows_ofString source, Input.follows_ofString (recoding.text source)⟩
  opened? := .none

/-- With the usual delimiters, only the classes of characters matter. However neutral characters are
recoded, the scan succeeds or fails as before, with the same kinds of tokens or the same kind of
error at the same lines and columns, the recoded texts as values, and offsets that count the bytes
of the recoded text before. -/
theorem tokenize_recode (recoding : Recoding) (source : String) :
    recoding.Outcomes source (tokenize source) (tokenize (recoding.text source)) := by
  have initial := State.recodes_initial recoding source
  obtain ⟨count, tokens, finish, steps, last⟩ :=
    Scanner.standard.exists_steps_to_last (.initial source)
  obtain ⟨tokens', finish', steps', pairs, reached⟩ := steps.recode initial
  have same := Scanner.step_recode reached
  generalize step_eq : Scanner.standard.step finish' = step' at same
  rw [tokenize, tokenize, Scanner.tokens, Scanner.tokens, Scanner.tokensFrom_of_steps steps,
    Scanner.tokensFrom_of_steps steps']
  rcases last with finishes | ⟨error, fails⟩
  · rw [finishes] at same
    cases same
    rw [Scanner.tokensFrom_of_finished finishes, Scanner.tokensFrom_of_finished step_eq]
    simpa [Except.map] using Recoding.Outcomes.ok pairs
  · rw [fails] at same
    cases same with
    | failed errors =>
      rw [Scanner.tokensFrom_of_failed fails, Scanner.tokensFrom_of_failed step_eq]
      exact .error errors

/-- One character of three bytes for all letters, before a tag and in it. -/
theorem tokenize_recode_masked :
    let recoding := Recoding.mask '€' (by decide)
    let source := "x\x7b\x7b y\x7d\x7d"
    tokenize source =
        .ok [⟨.opening .var, "\x7b\x7b", ⟨1, 3, 1, 2⟩⟩, ⟨.whitespace, " ", ⟨3, 4, 1, 4⟩⟩,
          ⟨.symbol, "y", ⟨4, 5, 1, 5⟩⟩, ⟨.closing .var, "\x7d\x7d", ⟨5, 7, 1, 6⟩⟩] ∧
      tokenize (recoding.text source) =
        .ok [⟨.opening .var, "\x7b\x7b", ⟨3, 5, 1, 2⟩⟩, ⟨.whitespace, " ", ⟨5, 6, 1, 4⟩⟩,
          ⟨.symbol, "€", ⟨6, 9, 1, 5⟩⟩, ⟨.closing .var, "\x7d\x7d", ⟨9, 11, 1, 6⟩⟩] ∧
      recoding.Outcomes source (tokenize source) (tokenize (recoding.text source)) :=
  ⟨by decide +kernel, by decide +kernel, tokenize_recode _ _⟩

end TemplateTags
