import TemplateTags.Scanner.Run

/-!
# The trace of a scan

What a scan reports while it goes on: that it starts, every token, and how it ends. The trace
follows the scanner's steps itself, so it also holds the tokens that a failing scan found before
the error.
-/

namespace TemplateTags

/-- How much detail an event belongs to. -/
inductive Level where
  | debug
  | trace
  deriving Repr, DecidableEq, Inhabited

/-- Something a scan reports. -/
inductive Event where
  /-- A scan of so many bytes starts. -/
  | started (bytes : Nat)
  /-- A token is found. -/
  | token (kind : Kind) (line column : Nat)
  /-- The scan has found so many tokens and no error. -/
  | finished (tokens : Nat)
  /-- The scan ends with an error. -/
  | failed (line column : Nat) (cause : LexError.Cause)
  deriving Repr, DecidableEq, Inhabited

namespace Event

/-- The level of an event. -/
def level : Event → Level
  | .token .. => .trace
  | _ => .debug

/-- The text of an event, without its data. -/
def message : Event → String
  | .started _ => "scanning template"
  | .token .. => "token"
  | .finished _ => "scan finished"
  | .failed .. => "scan failed"

/-- What the event of a scan that fails says about the error: the text of its cause. -/
def errorText? : Event → Option String
  | .failed _ _ cause => some cause.message
  | _ => none

end Event

namespace Scanner

/-- The events from a state of the scan on, when `found` tokens were found before. -/
def eventsFrom (scanner : Scanner) (found : Nat) (state : State) : List Event :=
  match _step : scanner.step state with
  | .finished => [.finished found]
  | .failed error => [.failed error.span.line error.span.column error.cause]
  | .skipped next => scanner.eventsFrom found next
  | .emitted token next =>
    .token token.kind token.span.line token.span.column :: scanner.eventsFrom (found + 1) next
termination_by state.input.rest.length
decreasing_by
  · exact length_lt_of_step_eq_skipped ‹_›
  · exact length_lt_of_step_eq_emitted ‹_›

/-- The events of a scan. -/
def events (scanner : Scanner) (source : String) : List Event :=
  .started source.utf8ByteSize :: scanner.eventsFrom 0 (.initial source)

end Scanner

/-- The events of a scan with the given options. There is no scan, and no event, if the options
are refused. -/
def events (options : Options) (source : String) : List Event :=
  match Scanner.ofOptions options with
  | .error _ => []
  | .ok scanner => scanner.events source

end TemplateTags
