import TemplateTags.Scanner.Run

/-!
# Steps of a scan

The states that a scan goes through, with what it emits on the way. `tokensFrom_eq_ok_iff` and
`tokensFrom_eq_error_iff` say that a whole scan is nothing but its steps: it succeeds with the
tokens emitted on the way to a step that finishes, and fails where a step fails.
-/

namespace TemplateTags.Scanner

/-- So many steps lead from one state of a scan to another and emit these tokens. -/
inductive Steps (scanner : Scanner) (start : State) : Nat → List Token → State → Prop where
  | refl : Steps scanner start 0 [] start
  | skipped {count tokens state next} (prior : Steps scanner start count tokens state)
      (skips : scanner.step state = .skipped next) : Steps scanner start (count + 1) tokens next
  | emitted {count tokens state token next} (prior : Steps scanner start count tokens state)
      (emits : scanner.step state = .emitted token next) :
      Steps scanner start (count + 1) (tokens ++ [token]) next

variable {scanner : Scanner} {start state finish : State}

/-- A scan that finishes adds no token. -/
theorem tokensFrom_of_finished (finishes : scanner.step state = .finished) :
    scanner.tokensFrom state = .ok [] := by
  unfold tokensFrom
  split <;> simp_all

/-- A scan that fails has the error for its outcome. -/
theorem tokensFrom_of_failed {error : LexError} (fails : scanner.step state = .failed error) :
    scanner.tokensFrom state = .error error := by
  unfold tokensFrom
  split <;> simp_all

/-- A step that passes over text adds no token. -/
theorem tokensFrom_of_skipped {next : State} (skips : scanner.step state = .skipped next) :
    scanner.tokensFrom state = scanner.tokensFrom next := by
  rw [tokensFrom]
  split <;> simp_all

/-- A token comes before those of the steps that follow. -/
theorem tokensFrom_of_emitted {token : Token} {next : State}
    (emits : scanner.step state = .emitted token next) :
    scanner.tokensFrom state = (scanner.tokensFrom next).map (token :: ·) := by
  rw [tokensFrom]
  split <;> simp_all

/-- Steps after steps are steps. -/
theorem Steps.trans {count count' : Nat} {tokens tokens' : List Token}
    (first : scanner.Steps start count tokens state)
    (second : scanner.Steps state count' tokens' finish) :
    scanner.Steps start (count + count') (tokens ++ tokens') finish := by
  induction second with
  | refl => simpa using first
  | skipped _ skips inductionHypothesis => exact .skipped inductionHypothesis skips
  | emitted _ emits inductionHypothesis =>
    rw [← List.append_assoc]
    exact .emitted inductionHypothesis emits

/-- What a scan still emits after some steps follows what they emitted. -/
theorem tokensFrom_of_steps {count : Nat} {tokens : List Token}
    (steps : scanner.Steps start count tokens finish) :
    scanner.tokensFrom start = (scanner.tokensFrom finish).map (tokens ++ ·) := by
  induction steps with
  | refl => cases scanner.tokensFrom start <;> rfl
  | skipped _ skips inductionHypothesis =>
    rw [inductionHypothesis, tokensFrom_of_skipped skips]
  | emitted _ emits inductionHypothesis =>
    rw [inductionHypothesis, tokensFrom_of_emitted emits]
    cases scanner.tokensFrom _ <;> simp [Except.map]

/-- From every state, steps lead to a state where the scan finishes or fails. -/
theorem exists_steps_to_last (scanner : Scanner) (start : State) :
    ∃ count tokens finish, scanner.Steps start count tokens finish ∧
      (scanner.step finish = .finished ∨ ∃ error, scanner.step finish = .failed error) := by
  cases step : scanner.step start with
  | finished => exact ⟨0, [], start, .refl, .inl step⟩
  | failed error => exact ⟨0, [], start, .refl, .inr ⟨error, step⟩⟩
  | skipped next =>
    obtain ⟨count, tokens, finish, steps, last⟩ := exists_steps_to_last scanner next
    exact ⟨_, _, finish, (Steps.skipped .refl step).trans steps, last⟩
  | emitted token next =>
    obtain ⟨count, tokens, finish, steps, last⟩ := exists_steps_to_last scanner next
    exact ⟨_, _, finish, (Steps.emitted .refl step).trans steps, last⟩
termination_by start.input.rest.length
decreasing_by
  · exact length_lt_of_step_eq_skipped step
  · exact length_lt_of_step_eq_emitted step

/-- A scan succeeds with the tokens emitted on the way to a step that finishes. -/
theorem tokensFrom_eq_ok_iff {tokens : List Token} :
    scanner.tokensFrom start = .ok tokens ↔
      ∃ count finish, scanner.Steps start count tokens finish ∧
        scanner.step finish = .finished := by
  constructor
  · intro succeeds
    obtain ⟨count, emitted, finish, steps, last⟩ := exists_steps_to_last scanner start
    rw [tokensFrom_of_steps steps] at succeeds
    rcases last with finishes | ⟨error, fails⟩
    · rw [tokensFrom_of_finished finishes] at succeeds
      obtain rfl : emitted = tokens := by simpa [Except.map] using succeeds
      exact ⟨count, finish, steps, finishes⟩
    · rw [tokensFrom_of_failed fails] at succeeds
      cases succeeds
  · rintro ⟨count, finish, steps, finishes⟩
    rw [tokensFrom_of_steps steps, tokensFrom_of_finished finishes]
    simp [Except.map]

/-- A scan fails with the error of the step that fails. -/
theorem tokensFrom_eq_error_iff {error : LexError} :
    scanner.tokensFrom start = .error error ↔
      ∃ count tokens finish, scanner.Steps start count tokens finish ∧
        scanner.step finish = .failed error := by
  constructor
  · intro fails
    obtain ⟨count, emitted, finish, steps, last⟩ := exists_steps_to_last scanner start
    rw [tokensFrom_of_steps steps] at fails
    rcases last with finishes | ⟨error', failed⟩
    · rw [tokensFrom_of_finished finishes] at fails
      cases fails
    · rw [tokensFrom_of_failed failed] at fails
      obtain rfl : error' = error := by simpa [Except.map] using fails
      exact ⟨count, emitted, finish, steps, failed⟩
  · rintro ⟨count, tokens, finish, steps, fails⟩
    rw [tokensFrom_of_steps steps, tokensFrom_of_failed fails]
    rfl

end TemplateTags.Scanner
