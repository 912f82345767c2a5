import TemplateTags.Proofs.Justification
import TemplateTags.Proofs.Prefixes

/-!
# Progress of a scan

No delimiter that is looked for is empty, and no run of blank characters or of word characters is
empty where it is read, as no closing delimiter stands there. So a step that goes on passes over
some of the text, and it stops between two characters. `Scanner.Progresses` collects what this means
in a state of a run, for the step and for the pieces of the source that it takes, and
`progress_of_scan` says that it holds in every state and that a scan comes to an end within as many
steps as the source has characters.
-/

namespace TemplateTags

open Text

/-- The next input starts further on in the source, between two of its characters. -/
structure Input.Advances (source : String) (input next : Input) : Prop where
  further : input.here.offset < next.here.offset
  boundary : IsBoundary source next.here.offset
  inside : next.here.offset ≤ source.utf8ByteSize

namespace Step

/-- The step fails, or it goes on further on in the source. -/
inductive Advances (source : String) (input : Input) : Step → Prop where
  | failed (error : LexError) : Advances source input (.failed error)
  | skipped {next : State} (advances : input.Advances source next.input) :
      Advances source input (.skipped next)
  | emitted {token : Token} {next : State} (advances : input.Advances source next.input) :
      Advances source input (.emitted token next)

/-- The tokens that a step emits or names in an error. -/
def tokens : Step → List Token
  | .finished => []
  | .failed error => error.cause.tokens
  | .skipped _ => []
  | .emitted token _ => [token]

end Step

/-- The literal is found at the head of the remaining text. -/
inductive Delimiters.Finds (delimiters : Delimiters) (rest : List Char) (literal : Literal) :
    Prop where
  | opening (found : delimiters.openAt? rest = some literal)
  | closing (found : delimiters.closeAt? rest = some literal)
  | ownClosing (family : Family) (found : delimiters.closeOf? family rest = some literal)

/-- A literal that is found starts the text. -/
theorem Delimiters.Finds.isPrefix {delimiters : Delimiters} {rest : List Char} {literal : Literal}
    (finds : delimiters.Finds rest literal) : literal.text <+: rest := by
  cases finds with
  | opening found => exact (openAt?_eq_some found).2
  | closing found => exact (closeAt?_eq_some found).2
  | ownClosing _ found => exact (closeOf?_eq_some found).2.2

namespace Input.Follows

variable {input : Input} {source : String} {passed : List Char}

theorem isBoundary (follows : input.Follows source passed) :
    IsBoundary source input.here.offset :=
  isSome_sliceFrom?_iff.1 (Option.isSome_of_eq_some follows.sliceFrom?_eq)

/-- An input that follows a part of the source has not gone past its end. -/
theorem offset_le (follows : input.Follows source passed) :
    input.here.offset ≤ source.utf8ByteSize := by
  rw [follows.offset_eq, ← byteLength_toList, follows.text, byteLength_append]
  exact Nat.le_add_right ..

/-- Behind a text that is not empty, the input starts further on. -/
theorem advances (follows : input.Follows source passed) {text : List Char} (notEmpty : text ≠ [])
    (start : text <+: input.rest) : input.Advances source (input.consume text) where
  further := by
    have bytes := byteLength_pos notEmpty
    rw [Input.offset_consume]
    omega
  boundary := (follows.consume start).isBoundary
  inside := (follows.consume start).offset_le

/-- From between any two characters of the input, what remains is the source from there on. -/
theorem sliceFrom?_of_append (follows : input.Follows source passed) {front back : List Char}
    (split : input.rest = front ++ back) :
    sliceFrom? source (input.here.offset + byteLength front) = some (String.ofList back) := by
  have behind := follows.consume ⟨back, split.symm⟩
  rw [← Input.offset_consume, behind.sliceFrom?_eq, Input.rest_consume split]

end Input.Follows

namespace Scanner

/-- What a state of a run has that has taken so many steps: there were no more steps than characters
passed over, the next step goes on further on, and what is cut out of the source on the way is
there. That is the text from any character ahead, each literal that is found and each token that the
step makes. A word that is read inside a tag is not empty. -/
structure Progresses (scanner : Scanner) (source : String) (count : Nat) (state : State) :
    Prop where
  bounded : count + state.input.rest.length ≤ source.length
  advances : state.input.rest ≠ [] → (scanner.step state).Advances source state.input
  ahead : ∀ front back, state.input.rest = front ++ back →
    sliceFrom? source (state.input.here.offset + byteLength front) = some (String.ofList back)
  literal : ∀ literal, scanner.delimiters.Finds state.input.rest literal →
    slice? (String.ofList state.input.rest) 0 (byteLength literal.text) =
      some (String.ofList literal.text)
  token : ∀ token ∈ (scanner.step state).tokens,
    slice? source token.span.start token.span.stop = some token.value
  word : ∀ opened char rest lexeme, state.opened? = some opened →
    state.input.rest = char :: rest →
    InnerHead.read scanner.delimiters opened.family char rest = .lexeme lexeme → isWordChar char →
      takeRun isWordChar scanner.delimiters.closesAt (char :: rest) ≠ []

/-- The scan ends after no more steps than the bound, at the end of the source or with a step that
fails. -/
inductive EndsWithin (scanner : Scanner) (source : String) (bound : Nat) : Prop where
  | atEnd {count tokens state} (steps : scanner.Steps (.initial source) count tokens state)
      (ended : state.input.rest = []) (within : count ≤ bound)
  | failed {count tokens state error} (steps : scanner.Steps (.initial source) count tokens state)
      (fails : scanner.step state = .failed error) (within : count + 1 ≤ bound)

variable {scanner : Scanner} {source : String} {count : Nat} {tokens : List Token} {state : State}

/-- Where text is left to read, the next step fails or goes on further on. -/
theorem Placed.advances_step (placed : Placed source tokens state)
    (ahead : state.input.rest ≠ []) : (scanner.step state).Advances source state.input := by
  obtain ⟨passed, follows⟩ := placed.follows
  cases step : scanner.step state with
  | finished =>
    cases rule_of_step_eq step
    exact absurd rfl ahead
  | failed error => exact .failed error
  | skipped next =>
    obtain ⟨char, rest, split, rfl⟩ := (rule_of_step_eq step).skips
    exact .skipped (follows.advances (by simp) ⟨rest, split.symm⟩)
  | emitted token next =>
    obtain ⟨kind, text, notEmpty, start, -, input_eq, -⟩ := (rule_of_step_eq step).emits
    exact .emitted (input_eq ▸ follows.advances notEmpty start)

/-- The tokens of the next step stand in the source. -/
theorem Placed.faithful_step (placed : Placed source tokens state) :
    ∀ token ∈ (scanner.step state).tokens, token.Faithful source := by
  intro token member
  cases step : scanner.step state with
  | finished => simp [step, Step.tokens] at member
  | failed error =>
    rw [step] at member
    exact (LexError.wellPlaced_of_rule placed (rule_of_step_eq step)).faithful token member
  | skipped next => simp [step, Step.tokens] at member
  | emitted emittedToken next =>
    obtain rfl : token = emittedToken := by simpa [step, Step.tokens] using member
    exact (placed.emitted (rule_of_step_eq step)).faithful token (by simp)

/-- However far a scan has come, it makes progress. -/
theorem progresses_of_steps (steps : scanner.Steps (.initial source) count tokens state) :
    scanner.Progresses source count state := by
  have placed := placed_of_steps steps
  obtain ⟨passed, follows⟩ := placed.follows
  constructor
  case bounded => exact steps.count_add_length_rest_le
  case advances => exact placed.advances_step
  case ahead => exact fun front back split => follows.sliceFrom?_of_append split
  case literal => exact fun literal finds => slice?_of_isPrefix finds.isPrefix
  case token => exact fun token member => (placed.faithful_step token member).value
  case word =>
    intro opened char rest lexeme _ _ head inWord
    obtain ⟨noClose, -⟩ := InnerHead.read_eq_lexeme_iff.1 head
    exact takeRun_ne_nil inWord (Delimiters.closesAt_eq_false_iff.2 noClose)

/-- A scan takes no more steps than the source has characters. -/
theorem endsWithin_length (scanner : Scanner) (source : String) :
    scanner.EndsWithin source source.length := by
  obtain ⟨count, tokens, state, steps, last⟩ := exists_steps_to_last scanner (.initial source)
  have bounded := (progresses_of_steps steps).bounded
  by_cases ended : state.input.rest = []
  · exact .atEnd steps ended (by omega)
  · have left := List.length_pos_iff.2 ended
    rcases last with finishes | ⟨error, fails⟩
    · cases rule_of_step_eq finishes
      exact absurd rfl ended
    · exact .failed steps fails (by omega)

end Scanner

/-- A scan with accepted options makes progress wherever it has come, and it ends after no more
steps than the source has characters. -/
theorem progress_of_scan {options : Options} (valid : options.validate = .ok ())
    (source : String) :
    ∃ scanner, Scanner.ofOptions options = .ok scanner ∧
      (∀ count tokens state, scanner.Steps (.initial source) count tokens state →
        scanner.Progresses source count state) ∧
      scanner.EndsWithin source source.length := by
  obtain ⟨scanner, accepted⟩ := Scanner.exists_ofOptions valid
  refine ⟨scanner, accepted, ?_, scanner.endsWithin_length source⟩
  intro count tokens state steps
  exact Scanner.progresses_of_steps steps

/-- Delimiters of characters of two bytes, at the end of a text of five characters. -/
theorem progress_of_scan_two_bytes :
    let options : Options := { block := ⟨"«", "»»"⟩ }
    options.validate = .ok () ∧
      ∃ scanner, Scanner.ofOptions options = .ok scanner ∧
        (∀ count tokens state, scanner.Steps (.initial "é«a»»") count tokens state →
          scanner.Progresses "é«a»»" count state) ∧
        scanner.EndsWithin "é«a»»" 5 :=
  ⟨rfl, progress_of_scan rfl "é«a»»"⟩

end TemplateTags
