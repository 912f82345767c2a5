import TemplateTags.Scanner.Basic

/-!
# Whole scans

A scan repeats the scanner's steps until the text has ended or a step fails. It ends because every
step that goes on leaves fewer characters to read.
-/

namespace TemplateTags

namespace Scanner

/-- A step that passes over text leaves less of it. -/
theorem length_lt_of_step_eq_skipped {scanner : Scanner} {state next : State}
    (skips : scanner.step state = .skipped next) :
    next.input.rest.length < state.input.rest.length := by
  have consumes := scanner.consumes_step state
  rw [skips] at consumes
  cases consumes with
  | skipped _ _ notEmpty start => exact Input.length_rest_consume_lt notEmpty start

/-- A step that emits a token leaves less text. -/
theorem length_lt_of_step_eq_emitted {scanner : Scanner} {state next : State} {token : Token}
    (emits : scanner.step state = .emitted token next) :
    next.input.rest.length < state.input.rest.length := by
  have consumes := scanner.consumes_step state
  rw [emits] at consumes
  cases consumes with
  | emitted _ _ _ notEmpty start => exact Input.length_rest_consume_lt notEmpty start

/-- The tokens from a state of the scan on, or the first error. -/
def tokensFrom (scanner : Scanner) (state : State) : Except LexError (List Token) :=
  match _step : scanner.step state with
  | .finished => .ok []
  | .failed error => .error error
  | .skipped next => scanner.tokensFrom next
  | .emitted token next => (scanner.tokensFrom next).map (token :: ·)
termination_by state.input.rest.length
decreasing_by
  · exact length_lt_of_step_eq_skipped ‹_›
  · exact length_lt_of_step_eq_emitted ‹_›

/-- The tokens of a template, or the first error. -/
def tokens (scanner : Scanner) (source : String) : Except LexError (List Token) :=
  scanner.tokensFrom (.initial source)

end Scanner

/-- The tokens of a template written with the usual delimiters, or the first error. -/
def tokenize (source : String) : Except LexError (List Token) :=
  Scanner.standard.tokens source

end TemplateTags
