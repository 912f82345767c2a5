import TemplateTags.Proofs.Rules

/-!
# Scans behind a text

What a scan does depends on the text ahead of it and on the open tag, but not on where in the
source it is. So a scan that starts behind a text does what it does without that text, and all its
places are shifted: offsets by the bytes of the text, lines by its newlines, and columns by the
characters of its last line, though only on the line that goes on from that line.
`Scanner.Rule.shift` says so for each rule, and `Scanner.tokensFrom_shift` for whole scans.
-/

namespace TemplateTags

open Text

/-! ## Shifted places -/

/-- The place, when a text is put in front of the source. -/
def Location.shift (here : Location) (text : List Char) : Location :=
  ⟨byteLength text + here.offset, text.count '\n' + here.line,
    if here.line = 1 then (lastLine text).length + here.column else here.column⟩

/-- The span, when a text is put in front of the source. -/
def Span.shift (span : Span) (text : List Char) : Span :=
  ⟨byteLength text + span.start, byteLength text + span.stop, text.count '\n' + span.line,
    if span.line = 1 then (lastLine text).length + span.column else span.column⟩

/-- The token, when a text is put in front of the source. -/
def Token.shift (token : Token) (text : List Char) : Token :=
  { token with span := token.span.shift text }

/-- The cause of an error, when a text is put in front of the source. -/
def LexError.Cause.shift (cause : LexError.Cause) (text : List Char) : LexError.Cause :=
  match cause with
  | .unknownToken token => .unknownToken (token.shift text)
  | .unexpectedOpen found opened => .unexpectedOpen (found.shift text) (opened.shift text)
  | .unmatchedClose found => .unmatchedClose (found.shift text)
  | .mismatchedClose found opened => .mismatchedClose (found.shift text) (opened.shift text)
  | .unterminatedString token => .unterminatedString (token.shift text)
  | .unterminatedTag opened expectedAt =>
    .unterminatedTag (opened.shift text) (expectedAt.shift text)

/-- The error, when a text is put in front of the source. -/
def LexError.shift (error : LexError) (text : List Char) : LexError :=
  ⟨error.cause.shift text, error.span.shift text⟩

/-- The tokens or the error of a scan, when a text is put in front of the source. -/
def shiftOutcome (text : List Char) :
    Except LexError (List Token) → Except LexError (List Token)
  | .ok tokens => .ok (tokens.map (·.shift text))
  | .error error => .error (error.shift text)

/-- Tokens with a text in front are those of a scan that succeeds without it. -/
theorem shiftOutcome_eq_ok_iff {text : List Char} {outcome : Except LexError (List Token)}
    {tokens : List Token} :
    shiftOutcome text outcome = .ok tokens ↔
      ∃ own, outcome = .ok own ∧ own.map (·.shift text) = tokens := by
  cases outcome <;> simp [shiftOutcome]

namespace Location

/-- The first place of a source is moved to the place behind the text in front of it. -/
theorem shift_first (text : List Char) : first.shift text = first.after text := by
  rw [after_first]
  simp [shift, first, Nat.add_comm]

/-- The shift of a place moves on with it. Lines count from 1, so a newline leaves the first. -/
theorem shift_advance {here : Location} (numbered : 0 < here.line) (char : Char)
    (text : List Char) : (here.advance char).shift text = (here.shift text).advance char := by
  unfold advance
  split
  · have notFirst : here.line ≠ 0 := by omega
    simp [shift, Nat.add_assoc, notFirst]
  · by_cases onFirst : here.line = 1 <;> simp [shift, Nat.add_assoc, onFirst]

/-- Lines keep counting from 1. -/
theorem line_pos_advance {here : Location} (numbered : 0 < here.line) (char : Char) :
    0 < (here.advance char).line := by
  unfold advance
  split
  · exact Nat.succ_pos _
  · exact numbered

/-- A place may be moved before it walks over a text or after. -/
theorem shift_after {here : Location} (numbered : 0 < here.line) (passed text : List Char) :
    (here.after passed).shift text = (here.shift text).after passed := by
  induction passed generalizing here with
  | nil => rfl
  | cons char passed inductionHypothesis =>
    rw [after_cons, inductionHypothesis (line_pos_advance numbered char),
      shift_advance numbered, after_cons]

end Location

namespace Input

/-- The same text, when another one is put in front of the source. -/
def shift (input : Input) (text : List Char) : Input :=
  ⟨input.here.shift text, input.rest⟩

/-- The token at a moved input is the moved token. -/
theorem token_shift (input : Input) (kind : Kind) (value text : List Char) :
    (input.shift text).token kind value = (input.token kind value).shift text := by
  simp [token, shift, Token.shift, Span.shift, Location.spanTo, Location.shift, Nat.add_assoc]

/-- An input may be moved before a text is consumed or after. -/
theorem consume_shift {input : Input} (numbered : 0 < input.here.line) (passed text : List Char) :
    (input.shift text).consume passed = (input.consume passed).shift text := by
  simp [consume, shift, Location.shift_after numbered]

/-- Lines keep counting from 1 over a text that is consumed. -/
theorem line_pos_consume {input : Input} (numbered : 0 < input.here.line) (passed : List Char) :
    0 < (input.consume passed).here.line := by
  simp only [consume, Location.line_after]
  omega

end Input

/-- The same open tag, when a text is put in front of the source. -/
def OpenTag.shift (opened : OpenTag) (text : List Char) : OpenTag :=
  ⟨opened.family, opened.token.shift text⟩

/-- The same state, when a text is put in front of the source. -/
def State.shift (state : State) (text : List Char) : State :=
  ⟨state.input.shift text, state.opened?.map (·.shift text)⟩

/-- The same step, when a text is put in front of the source. -/
def Step.shift (step : Step) (text : List Char) : Step :=
  match step with
  | .finished => .finished
  | .failed error => .failed (error.shift text)
  | .skipped next => .skipped (next.shift text)
  | .emitted token next => .emitted (token.shift text) (next.shift text)

/-! ## Shifted scans -/

namespace Scanner

variable {scanner : Scanner}

/-- A rule applies where it does, whatever is put in front of the source. -/
theorem Rule.shift {state : State} {step : Step} (rule : scanner.Rule state step)
    (numbered : 0 < state.input.here.line) (text : List Char) :
    scanner.Rule (state.shift text) (step.shift text) := by
  cases rule with
  | finish => exact .finish
  | @unmatchedClose input literal closes =>
    have shifted : scanner.Rule ⟨input.shift text, none⟩ _ := .unmatchedClose closes
    rwa [Input.token_shift] at shifted
  | @opens input literal noClose opening =>
    have shifted : scanner.Rule ⟨input.shift text, none⟩ _ := .opens noClose opening
    rwa [Input.token_shift, Input.consume_shift numbered] at shifted
  | @outerSkipped input char rest split noClose noOpen policy =>
    have shifted : scanner.Rule ⟨input.shift text, none⟩ _ :=
      .outerSkipped split noClose noOpen policy
    rwa [Input.consume_shift numbered] at shifted
  | @outerRefused input char rest split noClose noOpen policy =>
    have shifted : scanner.Rule ⟨input.shift text, none⟩ _ :=
      .outerRefused split noClose noOpen policy
    rwa [Input.token_shift] at shifted
  | @unterminated input opened short =>
    exact (.unterminated short : scanner.Rule ⟨input.shift text, some (opened.shift text)⟩ _)
  | @closes input opened literal kept own =>
    have shifted : scanner.Rule ⟨input.shift text, some (opened.shift text)⟩ _ :=
      .closes kept own
    rwa [Input.token_shift, Input.consume_shift numbered] at shifted
  | @mismatchedClose input opened literal kept noComment closes foreign =>
    have shifted : scanner.Rule ⟨input.shift text, some (opened.shift text)⟩ _ :=
      .mismatchedClose kept noComment closes foreign
    rwa [Input.token_shift] at shifted
  | @commentSkipped input opened char rest split kept comment noOwn =>
    have shifted : scanner.Rule ⟨input.shift text, some (opened.shift text)⟩ _ :=
      .commentSkipped split kept comment noOwn
    rwa [Input.consume_shift numbered] at shifted
  | @unexpectedOpen input opened literal kept noComment noClose opening =>
    have shifted : scanner.Rule ⟨input.shift text, some (opened.shift text)⟩ _ :=
      .unexpectedOpen kept noComment noClose opening
    rwa [Input.token_shift] at shifted
  | @lexeme input opened char rest kind value split kept noComment noClose noOpen reads =>
    have shifted : scanner.Rule ⟨input.shift text, some (opened.shift text)⟩ _ :=
      .lexeme split kept noComment noClose noOpen reads
    rwa [Input.token_shift, Input.consume_shift numbered] at shifted
  | @unknown input opened char rest split kept noComment noClose noOpen reads =>
    have shifted : scanner.Rule ⟨input.shift text, some (opened.shift text)⟩ _ :=
      .unknown split kept noComment noClose noOpen reads
    rwa [Input.token_shift] at shifted
  | @unclosedString input opened char rest split kept noComment noClose noOpen reads =>
    have shifted : scanner.Rule ⟨input.shift text, some (opened.shift text)⟩ _ :=
      .unclosedString split kept noComment noClose noOpen reads
    rwa [Input.token_shift] at shifted

/-- The next step at a moved state is the moved step. -/
theorem step_shift {state : State} (numbered : 0 < state.input.here.line) (text : List Char) :
    scanner.step (state.shift text) = (scanner.step state).shift text :=
  ((scanner.rule_step state).shift numbered text).step_eq

/-- A run goes the same way, whatever is put in front of the source. -/
theorem Steps.shift {start finish : State} {count : Nat} {tokens : List Token}
    (steps : scanner.Steps start count tokens finish) (numbered : 0 < start.input.here.line)
    (text : List Char) :
    0 < finish.input.here.line ∧
      scanner.Steps (start.shift text) count (tokens.map (·.shift text)) (finish.shift text) := by
  induction steps with
  | refl => exact ⟨numbered, .refl⟩
  | @skipped count tokens state next prior skips inductionHypothesis =>
    obtain ⟨stateNumbered, shifted⟩ := inductionHypothesis
    have rule := rule_of_step_eq skips
    obtain ⟨char, rest, -, rfl⟩ := rule.skips
    refine ⟨Input.line_pos_consume stateNumbered _, .skipped shifted ?_⟩
    rw [step_shift stateNumbered, skips]
    rfl
  | @emitted count tokens state token next prior emits inductionHypothesis =>
    obtain ⟨stateNumbered, shifted⟩ := inductionHypothesis
    have rule := rule_of_step_eq emits
    obtain ⟨kind, value, -, -, -, input_eq, -⟩ := rule.emits
    rw [List.map_append]
    refine ⟨input_eq ▸ Input.line_pos_consume stateNumbered _, .emitted shifted ?_⟩
    rw [step_shift stateNumbered, emits]
    rfl

/-- What a scan finds behind a text is what it finds without it, shifted. -/
theorem tokensFrom_shift {start : State} (numbered : 0 < start.input.here.line)
    (text : List Char) :
    scanner.tokensFrom (start.shift text) = shiftOutcome text (scanner.tokensFrom start) := by
  cases outcome : scanner.tokensFrom start with
  | ok tokens =>
    obtain ⟨count, finish, steps, finishes⟩ := tokensFrom_eq_ok_iff.1 outcome
    obtain ⟨finishNumbered, shifted⟩ := steps.shift numbered text
    refine tokensFrom_eq_ok_iff.2 ⟨count, _, shifted, ?_⟩
    rw [step_shift finishNumbered, finishes]
    rfl
  | error error =>
    obtain ⟨count, tokens, finish, steps, fails⟩ := tokensFrom_eq_error_iff.1 outcome
    obtain ⟨finishNumbered, shifted⟩ := steps.shift numbered text
    refine tokensFrom_eq_error_iff.2 ⟨count, _, _, shifted, ?_⟩
    rw [step_shift finishNumbered, fails]
    rfl

/-- A scan of what is left behind a text is a scan of it alone, shifted. -/
theorem tokensFrom_behind (scanner : Scanner) (text : List Char) (source : String) :
    scanner.tokensFrom ⟨⟨Location.first.after text, source.toList⟩, none⟩ =
      shiftOutcome text (scanner.tokens source) := by
  have numbered : 0 < (State.initial source).input.here.line := Nat.one_pos
  rw [← Location.shift_first]
  exact tokensFrom_shift numbered text

end Scanner

end TemplateTags
