import TemplateTags.Proofs.Balance
import TemplateTags.Proofs.Prefixes

/-!
# Giving up on a tag

The scanner gives up on an open tag as soon as fewer characters are left than it takes to close the
tag. `Scanner.patient` does not: it reads on to the end of the text. It does not get anywhere by
that, by `Scanner.exists_error_of_short`, as the tag stays open whatever else is found. So the two
succeed on the same sources with the same tokens, and where they report different faults, the one
that gives up does so no later than the other fails.
-/

namespace TemplateTags

namespace Scanner

/-- The scanner that gives up on no tag before the text has ended. -/
def patient (scanner : Scanner) : Scanner :=
  { scanner with endCheck := .late }

variable {scanner : Scanner} {start state next finish : State} {count : Nat}
  {tokens : List Token} {step : Step} {opened : OpenTag}

/-- A tag that is given up is one that takes more characters to close than are left. -/
theorem length_lt_minCloseLength_of_givesUp {family : Family} {input : Input}
    (givesUp : scanner.givesUp family input) :
    input.rest.length < scanner.delimiters.minCloseLength family := by
  by_contra enough
  simp [givesUp_eq_false (Nat.not_lt.1 enough)] at givesUp

/-- The patient scanner follows the same rules, but for the one that gives up on a tag. -/
theorem Rule.patient_or_short (rule : scanner.Rule state step) :
    scanner.patient.Rule state step ∨
      ∃ opened, state.opened? = some opened ∧
        state.input.rest.length < scanner.delimiters.minCloseLength opened.family ∧
        step = .unterminated opened state.input := by
  cases rule with
  | finish => exact .inl .finish
  | unmatchedClose closes => exact .inl (.unmatchedClose closes)
  | opens noClose opening => exact .inl (.opens noClose opening)
  | outerSkipped split noClose noOpen policy =>
    exact .inl (.outerSkipped split noClose noOpen policy)
  | outerRefused split noClose noOpen policy =>
    exact .inl (.outerRefused split noClose noOpen policy)
  | unterminated short =>
    rcases short with ended | givesUp
    · exact .inl (.unterminated (.inl ended))
    · exact .inr ⟨_, rfl, length_lt_minCloseLength_of_givesUp givesUp, rfl⟩
  | closes _ own => exact .inl (.closes rfl own)
  | mismatchedClose _ noComment closes foreign =>
    exact .inl (.mismatchedClose rfl noComment closes foreign)
  | commentSkipped split _ comment noOwn => exact .inl (.commentSkipped split rfl comment noOwn)
  | unexpectedOpen _ noComment noClose opening =>
    exact .inl (.unexpectedOpen rfl noComment noClose opening)
  | lexeme split _ noComment noClose noOpen reads =>
    exact .inl (.lexeme split rfl noComment noClose noOpen reads)
  | unknown split _ noComment noClose noOpen reads =>
    exact .inl (.unknown split rfl noComment noClose noOpen reads)
  | unclosedString split _ noComment noClose noOpen reads =>
    exact .inl (.unclosedString split rfl noComment noClose noOpen reads)

/-- A scanner that has not given up on a tag has gone the way of the patient one. -/
theorem Steps.patient (steps : scanner.Steps start count tokens finish) :
    scanner.patient.Steps start count tokens finish := by
  refine steps.transfer ?_ ?_
  · intro state next rule
    rcases rule.patient_or_short with patientRule | ⟨_, _, _, gaveUp⟩
    · exact patientRule
    · cases gaveUp
  · intro state token next rule
    rcases rule.patient_or_short with patientRule | ⟨_, _, _, gaveUp⟩
    · exact patientRule
    · cases gaveUp

/-- From within a tag that takes more characters to close than are left, every scan fails. -/
theorem exists_error_of_short (isOpen : state.opened? = some opened)
    (short : state.input.rest.length < scanner.delimiters.minCloseLength opened.family) :
    ∃ error, scanner.tokensFrom state = .error error ∧
      state.input.here.offset ≤ error.span.start := by
  obtain ⟨count, tokens, finish, steps, finishes | ⟨error, fails⟩⟩ :=
    exists_steps_to_last scanner state
  · have outside := (rule_of_step_eq finishes).opened?_of_finished
    have closed := steps.minCloseLength_add_le isOpen outside
    omega
  · refine ⟨error, tokensFrom_eq_error_iff.2 ⟨count, tokens, finish, steps, fails⟩, ?_⟩
    rw [(rule_of_step_eq fails).start_of_failed]
    exact steps.offset_le

/-- From each state the patient scanner has the same outcome, or it fails where the other one has
given up on a tag before. -/
theorem tokensFrom_patient (scanner : Scanner) (start : State) :
    scanner.patient.tokensFrom start = scanner.tokensFrom start ∨
      ∃ opened span error, scanner.tokensFrom start = .error ⟨.unterminatedTag opened span, span⟩ ∧
        scanner.patient.tokensFrom start = .error error ∧ span.start ≤ error.span.start := by
  obtain ⟨count, tokens, finish, steps, last⟩ := exists_steps_to_last scanner start
  have agrees : scanner.step finish = scanner.patient.step finish ∨
      ∃ opened, finish.opened? = some opened ∧
        finish.input.rest.length < scanner.delimiters.minCloseLength opened.family ∧
        scanner.step finish = .unterminated opened finish.input :=
    (scanner.rule_step finish).patient_or_short.imp_left fun rule => rule.step_eq.symm
  rw [tokensFrom_of_steps steps, tokensFrom_of_steps steps.patient]
  rcases agrees with same | ⟨opened, isOpen, short, gaveUp⟩
  · left
    rcases last with finishes | ⟨error, fails⟩
    · rw [tokensFrom_of_finished finishes, tokensFrom_of_finished (same ▸ finishes)]
    · rw [tokensFrom_of_failed fails, tokensFrom_of_failed (same ▸ fails)]
  · right
    have patientFails : ∃ error, scanner.patient.tokensFrom finish = .error error ∧
        finish.input.here.offset ≤ error.span.start := exists_error_of_short isOpen short
    obtain ⟨error, fails, behind⟩ := patientFails
    rw [tokensFrom_of_failed gaveUp, fails]
    exact ⟨_, _, error, rfl, rfl, behind⟩

end Scanner

/-- Giving up early on tags loses no scan: with accepted options, the patient scanner succeeds on
the same sources with the same tokens. Where the errors of the two differ, the scanner has given up
on a tag, and at a place not behind the one where the patient scanner fails. -/
theorem endCheck_of_scan {options : Options} (valid : options.validate = .ok ())
    (source : String) :
    ∃ scanner, Scanner.ofOptions options = .ok scanner ∧
      (∀ tokens, scanner.tokens source = .ok tokens ↔
        scanner.patient.tokens source = .ok tokens) ∧
      ∀ error error', scanner.tokens source = .error error →
        scanner.patient.tokens source = .error error' → error ≠ error' →
          (∃ opened, error.cause = .unterminatedTag opened error.span) ∧
            error.span.start ≤ error'.span.start := by
  obtain ⟨scanner, accepted⟩ := Scanner.exists_ofOptions valid
  refine ⟨scanner, accepted, ?_⟩
  simp only [Scanner.tokens]
  rcases scanner.tokensFrom_patient (.initial source) with
    same | ⟨opened, span, patientError, fails, patientFails, behind⟩
  · rw [same]
    refine ⟨fun tokens => Iff.rfl, ?_⟩
    intro error error' fails fails' differ
    exact absurd (Except.error.inj (fails.symm.trans fails')) differ
  · rw [fails, patientFails]
    refine ⟨by simp, ?_⟩
    rintro _ _ ⟨⟩ ⟨⟩ -
    exact ⟨⟨opened, rfl⟩, behind⟩

/-- With a closing delimiter of four characters, the scanner gives up on the tag at the blank, and
the patient one fails at the number sign. -/
theorem endCheck_of_scan_long_delimiter :
    let options : Options := { block := ⟨"<", ">>>>"⟩ }
    options.validate = .ok () ∧
      ∃ scanner, Scanner.ofOptions options = .ok scanner ∧
        (∀ tokens, scanner.tokens "<a +#" = .ok tokens ↔
          scanner.patient.tokens "<a +#" = .ok tokens) ∧
        ∃ error error', scanner.tokens "<a +#" = .error error ∧
          scanner.patient.tokens "<a +#" = .error error' ∧
          error.span = ⟨2, 2, 1, 3⟩ ∧ error'.span = ⟨4, 5, 1, 5⟩ ∧
          (∃ opened, error.cause = .unterminatedTag opened error.span) ∧
            error.span.start ≤ error'.span.start := by
  intro options
  have valid : options.validate = .ok () := rfl
  obtain ⟨scanner, accepted, same, differ⟩ := endCheck_of_scan valid "<a +#"
  let opened : Token := ⟨.opening .block, "<", ⟨0, 1, 1, 1⟩⟩
  let error : LexError := ⟨.unterminatedTag opened ⟨2, 2, 1, 3⟩, ⟨2, 2, 1, 3⟩⟩
  let error' : LexError := ⟨.unknownToken ⟨.unknown, "#", ⟨4, 5, 1, 5⟩⟩, ⟨4, 5, 1, 5⟩⟩
  have fails : scanner.tokens "<a +#" = .error error := by
    obtain rfl := Except.ok.inj accepted
    decide +kernel
  have fails' : scanner.patient.tokens "<a +#" = .error error' := by
    obtain rfl := Except.ok.inj accepted
    decide +kernel
  refine ⟨valid, scanner, accepted, same, error, error', fails, fails', rfl, rfl, ?_⟩
  exact differ error error' fails fails' (by decide)

end TemplateTags
