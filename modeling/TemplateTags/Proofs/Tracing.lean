import TemplateTags.Trace
import TemplateTags.Proofs.Balance

/-!
# What the trace of a scan tells

The events of a scan are those of the tokens that its run emits, between one event that says that
it starts and one that says how it ends. `eventsFrom_of_steps` is the induction over the run. The
tokens of a scan that succeeds are its result. Those of a scan that fails are told by the trace
alone, and the error fits the tag that they leave open: `LexError.Cause.Fits`. The last event then
has the place of the error and, by `Event.errorText?`, the text of its cause.
-/

namespace TemplateTags

/-- The event that reports a token. -/
def Event.ofToken (token : Token) : Event :=
  .token token.kind token.span.line token.span.column

/-- The event that reports an error. -/
def Event.ofError (error : LexError) : Event :=
  .failed error.span.line error.span.column error.cause

/-- The events of a scan that finds these tokens and ends with the last event. -/
def Event.log (source : String) (tokens : List Token) (last : Event) : List Event :=
  .started source.utf8ByteSize :: (tokens.map Event.ofToken ++ [last])

/-- The tokens are reported in detail, and the start and the end are not. -/
theorem Event.level_log (source : String) (tokens : List Token) {last : Event}
    (coarse : last.level = .debug) :
    (log source tokens last).map level =
      .debug :: (List.replicate tokens.length .trace ++ [.debug]) := by
  have detailed : level ∘ Event.ofToken = fun _ => .trace := rfl
  have start : (Event.started source.utf8ByteSize).level = .debug := rfl
  simp [log, start, coarse, detailed, List.map_const']

/-- The last event of a scan is the one that says how it ends. -/
@[simp] theorem Event.getLast?_log (source : String) (tokens : List Token) (last : Event) :
    (log source tokens last).getLast? = some last := by
  rw [log, ← List.cons_append, List.getLast?_concat]

/-- The text that goes with an error is that of its cause, without the place. -/
@[simp] theorem Event.errorText?_ofError (error : LexError) :
    (ofError error).errorText? = some error.cause.message := rfl

/-- The tag that is open when a scan fails fits the cause of the error: it is the one that the
cause names, and there is one where a string is not closed and none where a delimiter closes
nothing. -/
def LexError.Cause.Fits (opened? : Option OpenTag) : LexError.Cause → Prop
  | .unknownToken _ => True
  | .unexpectedOpen _ opened => ∃ family, opened? = some ⟨family, opened⟩
  | .unmatchedClose _ => opened? = none
  | .mismatchedClose _ opened => ∃ family, opened? = some ⟨family, opened⟩
  | .unterminatedString _ => ∃ tag, opened? = some tag
  | .unterminatedTag opened _ => ∃ family, opened? = some ⟨family, opened⟩

namespace Scanner

variable {scanner : Scanner} {source : String} {count : Nat} {tokens : List Token}
  {start state finish : State}

/-- A step that fails does so for a cause that fits the open tag. -/
theorem Rule.fits_of_failed {error : LexError} (rule : scanner.Rule state (.failed error)) :
    error.cause.Fits state.opened? := by
  cases rule with
  | unmatchedClose => exact rfl
  | outerRefused => trivial
  | unterminated => exact ⟨_, rfl⟩
  | mismatchedClose => exact ⟨_, rfl⟩
  | unexpectedOpen => exact ⟨_, rfl⟩
  | unknown => trivial
  | unclosedString => exact ⟨_, rfl⟩

/-- A scan that finishes reports how many tokens were found. -/
theorem eventsFrom_of_finished {found : Nat} (finishes : scanner.step state = .finished) :
    scanner.eventsFrom found state = [.finished found] := by
  unfold eventsFrom
  split <;> simp_all

/-- A scan that fails reports the error. -/
theorem eventsFrom_of_failed {found : Nat} {error : LexError}
    (fails : scanner.step state = .failed error) :
    scanner.eventsFrom found state = [.ofError error] := by
  unfold eventsFrom
  split <;> simp_all [Event.ofError]

/-- Text that is passed over is not reported. -/
theorem eventsFrom_of_skipped {found : Nat} {next : State}
    (skips : scanner.step state = .skipped next) :
    scanner.eventsFrom found state = scanner.eventsFrom found next := by
  rw [eventsFrom]
  split <;> simp_all

/-- A token is reported before what follows it, and counted. -/
theorem eventsFrom_of_emitted {found : Nat} {token : Token} {next : State}
    (emits : scanner.step state = .emitted token next) :
    scanner.eventsFrom found state = .ofToken token :: scanner.eventsFrom (found + 1) next := by
  rw [eventsFrom]
  split <;> simp_all [Event.ofToken]

/-- The events after some steps follow those of the tokens that the steps emitted. -/
theorem eventsFrom_of_steps {found : Nat} (steps : scanner.Steps start count tokens finish) :
    scanner.eventsFrom found start =
      tokens.map Event.ofToken ++ scanner.eventsFrom (found + tokens.length) finish := by
  induction steps with
  | refl => rfl
  | skipped _ skips inductionHypothesis =>
    rw [inductionHypothesis, eventsFrom_of_skipped skips]
  | emitted _ emits inductionHypothesis =>
    rw [inductionHypothesis, eventsFrom_of_emitted emits]
    simp [Nat.add_assoc]

/-- A run to a step that finishes is told by its tokens and their number. -/
theorem events_of_finished (steps : scanner.Steps (.initial source) count tokens state)
    (finishes : scanner.Rule state .finished) :
    scanner.events source = Event.log source tokens (.finished tokens.length) := by
  rw [events, eventsFrom_of_steps steps, eventsFrom_of_finished finishes.step_eq, Nat.zero_add,
    Event.log]

/-- A run to a step that fails is told by its tokens and the error. -/
theorem events_of_failed (steps : scanner.Steps (.initial source) count tokens state)
    {error : LexError} (fails : scanner.Rule state (.failed error)) :
    scanner.events source = Event.log source tokens (.ofError error) := by
  rw [events, eventsFrom_of_steps steps, eventsFrom_of_failed fails.step_eq, Event.log]

/-- Every run is told by tokens and how it ends. -/
theorem exists_log (scanner : Scanner) (source : String) :
    ∃ tokens last, scanner.events source = Event.log source tokens last ∧ last.level = .debug := by
  obtain ⟨count, tokens, state, steps, finishes | ⟨error, fails⟩⟩ :=
    scanner.exists_steps_to_last (.initial source)
  · have events_eq := events_of_finished steps (rule_of_step_eq finishes)
    exact ⟨tokens, _, events_eq, rfl⟩
  · have events_eq := events_of_failed steps (rule_of_step_eq fails)
    exact ⟨tokens, _, events_eq, rfl⟩

end Scanner

/-- A scan with accepted options reports what their scanner does. -/
theorem events_of_accepted {options : Options} {scanner : Scanner}
    (accepted : Scanner.ofOptions options = .ok scanner) (source : String) :
    events options source = scanner.events source := by
  simp [events, accepted]

/-- The trace mirrors the scan. Refused options give no event. Otherwise there is one event of
little detail at the start and one at the end, and the events in between are the tokens found: the
result of a scan that succeeds, and, for a scan that fails, those of tags and of the open tag, which
fits the error. The last event of a scan that fails tells the place of the error and the text of its
cause. -/
theorem events_of_scan (options : Options) (source : String) :
    (∀ fault, options.validate = .error fault → events options source = []) ∧
      (options.validate = .ok () → ∃ count, (events options source).map Event.level =
        .debug :: (List.replicate count .trace ++ [.debug])) ∧
      (∀ result, scan options source = .ok result →
        events options source =
          Event.log source result.tokens (.finished result.tokens.length)) ∧
      ∀ error, scan options source = .error (.lex error) →
        (events options source).getLast?.bind Event.errorText? = some error.cause.message ∧
          ∃ tokens opened?, events options source = Event.log source tokens (.ofError error) ∧
            Scanner.Grouped tokens opened? ∧ error.cause.Fits opened? := by
  refine ⟨?_, ?_, ?_, ?_⟩
  · intro fault refused
    have noScanner := Scanner.ofOptions_eq_error_iff.2 refused
    simp [events, noScanner]
  · intro valid
    obtain ⟨scanner, accepted⟩ := Scanner.exists_ofOptions valid
    obtain ⟨tokens, last, events_eq, coarse⟩ := scanner.exists_log source
    refine ⟨tokens.length, ?_⟩
    rw [events_of_accepted accepted, events_eq, Event.level_log source tokens coarse]
  · intro result scanned
    obtain ⟨-, scanner, count, state, accepted, steps, finishes⟩ := exists_steps_of_scan scanned
    rw [events_of_accepted accepted, Scanner.events_of_finished steps finishes]
  · intro error scanned
    obtain ⟨scanner, count, tokens, state, accepted, steps, fails⟩ :=
      exists_steps_of_scan_error scanned
    have events_eq : events options source = Event.log source tokens (.ofError error) := by
      rw [events_of_accepted accepted, Scanner.events_of_failed steps fails]
    refine ⟨?_, tokens, state.opened?, events_eq, Scanner.grouped_of_steps steps,
      fails.fits_of_failed⟩
    rw [events_eq, Event.getLast?_log, Option.bind_some, Event.errorText?_ofError]

/-- An empty delimiter, a whole tag, and a block in a variable tag behind a comment. -/
theorem events_of_scan_nested :
    let refused : Options := { var := ⟨"", ">>"⟩ }
    let fault : OptionsError := .emptyDelimiter (.opening .var)
    let result : Scan :=
      ⟨"\x7b\x7ba\x7d\x7d",
        [⟨.opening .var, "\x7b\x7b", ⟨0, 2, 1, 1⟩⟩, ⟨.symbol, "a", ⟨2, 3, 1, 3⟩⟩,
          ⟨.closing .var, "\x7d\x7d", ⟨3, 5, 1, 4⟩⟩]⟩
    let nested := "\x7b##\x7d\x7b\x7ba \x7b%"
    let error : LexError :=
      ⟨.unexpectedOpen ⟨.opening .block, "\x7b%", ⟨8, 10, 1, 9⟩⟩
        ⟨.opening .var, "\x7b\x7b", ⟨4, 6, 1, 5⟩⟩, ⟨8, 10, 1, 9⟩⟩
    (refused.validate = .error fault ∧ events refused nested = []) ∧
      (Options.validate {} = .ok () ∧ ∃ count, (events {} nested).map Event.level =
        .debug :: (List.replicate count .trace ++ [.debug])) ∧
      (scan {} result.source = .ok result ∧ events {} result.source =
        Event.log result.source result.tokens (.finished result.tokens.length)) ∧
      scan {} nested = .error (.lex error) ∧
        (events {} nested).getLast?.bind Event.errorText? = some error.cause.message ∧
          ∃ tokens opened?, events {} nested = Event.log nested tokens (.ofError error) ∧
            Scanner.Grouped tokens opened? ∧ error.cause.Fits opened? := by
  intro refused fault result nested error
  have scanned : scan {} result.source = .ok result := by
    decide +kernel
  have fails : scan {} nested = .error (.lex error) := by
    decide +kernel
  refine ⟨⟨rfl, ?_⟩, ⟨rfl, ?_⟩, ⟨scanned, ?_⟩, fails, ?_⟩
  · exact (events_of_scan refused nested).1 fault rfl
  · exact (events_of_scan {} nested).2.1 rfl
  · exact (events_of_scan {} _).2.2.1 result scanned
  · exact (events_of_scan {} nested).2.2.2 error fails

end TemplateTags
