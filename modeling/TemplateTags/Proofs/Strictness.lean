import TemplateTags.Proofs.Prefixes
import TemplateTags.Proofs.Truncation
import TemplateTags.Proofs.Undelimited

/-!
# Text that is refused and text that is passed over

A strict scan refuses text outside of tags, a lenient one passes over it. Until the strict scan
comes to such text both go the same way, by `Scanner.Steps.under`, and the tokens found until then
leave no text between tags, by `Scanner.seamless_of_steps`. There the strict scan ends, and the
lenient one leaves a text segment if it succeeds. The source up to that place is scanned by both,
as it is cut between tags.
-/

namespace TemplateTags

open Text

namespace Scanner

variable {scanner : Scanner} {options : Options} {source : String} {count : Nat}
  {tokens : List Token} {start state next finish : State}

/-- Whether options are accepted does not depend on what they say of text outside of tags. -/
theorem ofOptions_under (accepted : ofOptions options = .ok scanner) (outerText : OuterText) :
    ofOptions { options with outerText } = .ok (scanner.under outerText) := by
  obtain ⟨valid, delimiters_eq, -, early⟩ := ofOptions_eq_ok_iff.1 accepted
  exact ofOptions_eq_ok_iff.2 ⟨valid, delimiters_eq, rfl, early⟩

/-! ## Runs without text outside of tags -/

/-- A strict scan passes over text inside of tags only. -/
theorem Rule.isSome_of_strict (strict : scanner.outerText = .reject)
    (rule : scanner.Rule state (.skipped next)) : state.opened?.isSome := by
  cases rule with
  | outerSkipped _ _ _ policy => simp [strict] at policy
  | commentSkipped => rfl

/-- What a strict run does is done whatever is done with text outside of tags. -/
theorem Steps.under (steps : scanner.Steps start count tokens finish)
    (strict : scanner.outerText = .reject) (outerText : OuterText) :
    (scanner.under outerText).Steps start count tokens finish := by
  refine steps.transfer ?_ ?_
  · intro state next rule
    have inside := rule.isSome_of_strict strict
    exact rule.skipped_under inside outerText
  · intro state token next rule
    exact rule.emitted_under outerText

/-- The tokens leave no text between tags up to where the run has come, or to the open tag. -/
def Seamless (source : String) (tokens : List Token) (state : State) : Prop :=
  ∃ reached, (∀ others, Scan.segmentsFrom? source 0 (tokens ++ others) =
      Scan.segmentsFrom? source reached others) ∧
    (state.opened? = none → reached = state.input.here.offset)

/-- A token leaves no text between tags. An opening delimiter starts where the last tag was closed,
and what follows it belongs to its tag until that is closed. -/
theorem Seamless.emitted {token : Token} (seamless : Seamless source tokens state)
    (rule : scanner.Rule state (.emitted token next)) :
    Seamless source (tokens ++ [token]) next := by
  obtain ⟨reached, same, outside⟩ := seamless
  simp only [Seamless, List.append_assoc, List.singleton_append, same]
  cases rule with
  | @opens input literal =>
    obtain rfl := outside rfl
    refine ⟨input.here.offset, ?_, by simp⟩
    intro others
    simp [Scan.segmentsFrom?, Token.isClosing, Kind.isClosing, Kind.closes?]
  | @closes input opened literal =>
    refine ⟨(input.consume literal.text).here.offset, ?_, fun _ => rfl⟩
    intro others
    simp [Scan.segmentsFrom?, Token.isOpening, Kind.isOpening, Kind.opens?, Token.isClosing,
      Kind.isClosing, Kind.closes?]
  | lexeme _ _ _ _ _ reads =>
    refine ⟨reached, ?_, by simp⟩
    intro others
    exact Scan.segmentsFrom?_append_of_isContent
      (List.forall_mem_singleton.2 (Lexeme.isContent_of_read reads)) others

/-- A strict run is seamless, as it passes over text in comments only. -/
theorem seamless_of_steps (strict : scanner.outerText = .reject)
    (steps : scanner.Steps (.initial source) count tokens state) :
    Seamless source tokens state := by
  have invariant : scanner.Invariant (.initial source) (Seamless source) :=
    { initial := ⟨0, fun _ => rfl, fun _ => rfl⟩
      skipped := by
        rintro tokens state next ⟨reached, same, -⟩ rule
        have inside := rule.isSome_of_strict strict
        obtain ⟨_, _, _, rfl⟩ := rule.skips
        refine ⟨reached, same, fun (outside : state.opened? = none) => ?_⟩
        simp [outside] at inside
      emitted := Seamless.emitted }
  exact invariant.of_steps steps

/-- A strict run that finishes leaves no text segment. -/
theorem segmentsFrom?_of_finished (strict : scanner.outerText = .reject)
    (steps : scanner.Steps (.initial source) count tokens state)
    (finishes : scanner.Rule state .finished) :
    Scan.segmentsFrom? source 0 tokens = some [] := by
  obtain ⟨reached, same, outside⟩ := seamless_of_steps strict steps
  obtain rfl := outside finishes.opened?_of_finished
  have offset_eq := (placed_of_steps steps).offset_of_finished finishes
  simpa [Scan.segmentsFrom?, offset_eq] using same []

/-! ## Text outside of tags -/

/-- The first token of a run that starts outside of tags opens a tag. -/
theorem Steps.isOpening_of_head (steps : scanner.Steps start count tokens finish)
    (outside : start.opened? = none) : ∀ first ∈ tokens.head?, first.isOpening := by
  have invariant : scanner.Invariant start fun tokens state =>
      (tokens = [] → state.opened? = none) ∧ ∀ first ∈ tokens.head?, first.isOpening :=
    { initial := ⟨fun _ => outside, by simp⟩
      skipped := by
        rintro tokens state next ⟨none, opens⟩ rule
        obtain ⟨_, _, _, rfl⟩ := rule.skips
        exact ⟨none, opens⟩
      emitted := by
        rintro tokens state token next ⟨none, opens⟩ rule
        refine ⟨by simp, ?_⟩
        cases tokens with
        | cons first others => simpa using opens
        | nil =>
          have outside := none rfl
          cases rule with
          | opens => simp [Token.isOpening, Kind.isOpening, Kind.opens?]
          | closes => cases outside
          | lexeme => cases outside }
  exact (invariant.of_steps steps).2

/-- A run from behind a character outside of tags leaves a text segment. -/
theorem segmentsFrom?_ne_nil {input : Input} {passed : List Char}
    (follows : input.Follows source passed) {char : Char} {rest : List Char}
    (split : input.rest = char :: rest)
    (steps : scanner.Steps ⟨input.consume [char], none⟩ count tokens finish) :
    Scan.segmentsFrom? source input.here.offset tokens ≠ some [] := by
  have positive := char.utf8Size_pos
  cases tokens with
  | nil =>
    have ahead : input.here.offset < source.utf8ByteSize := by
      rw [follows.offset_eq, ← byteLength_toList, follows.text, split, byteLength_append,
        byteLength_cons]
      omega
    simp [Scan.segmentsFrom?, ahead, Option.bind_eq_some_iff]
  | cons first others =>
    have opens := steps.isOpening_of_head rfl first rfl
    have starts := steps.le_start first (by simp)
    simp only [Input.offset_consume, byteLength_cons, byteLength_nil] at starts
    have ahead : input.here.offset < first.span.start := by omega
    simp [Scan.segmentsFrom?, opens, ahead, Option.bind_eq_some_iff]

end Scanner

/-- Text is refused behind the first part of the source: a strict scan fails there over the
character, where no delimiter stands, and the first part is scanned to the tokens, with no text
between them. -/
structure RefusesAfter (options : Options) (source before : String) (char : Char)
    (tokens : List Token) : Prop where
  split : ∃ after, source = before ++ String.singleton char ++ after
  fails : ∃ token, scan { options with outerText := .reject } source =
      .error (.lex ⟨.unknownToken token, token.span⟩) ∧ token.kind = .unknown ∧
    token.value = String.singleton char ∧ token.span.start = before.utf8ByteSize
  free : ∀ role, ¬ StandsAt source before.utf8ByteSize (options.literal role)
  scanned : ∀ outerText, scan { options with outerText } before = .ok ⟨before, tokens⟩
  noText : Scan.textSegments? ⟨before, tokens⟩ = some []

namespace Scanner

variable {scanner : Scanner} {options : Options} {source : String} {count : Nat}
  {tokens : List Token} {state : State}

/-- Where a strict run has come to text outside of tags, text is refused behind the part of the
source before it. -/
theorem exists_refusesAfter (accepted : ofOptions options = .ok scanner)
    {input : Input} {char : Char} {rest : List Char}
    (steps : (scanner.under .reject).Steps (.initial source) count tokens ⟨input, none⟩)
    (split : input.rest = char :: rest)
    (noClose : scanner.delimiters.closeAt? input.rest = none)
    (noOpen : scanner.delimiters.openAt? input.rest = none) :
    ∃ before, RefusesAfter options source before char tokens := by
  obtain ⟨passed, follows⟩ := (placed_of_steps steps).follows
  have strictAccepted := ofOptions_under accepted .reject
  have source_eq : source =
      String.ofList passed ++ String.singleton char ++ String.ofList rest := by
    apply String.toList_injective
    simp [follows.text, split]
  have here : input.here.offset = (String.ofList passed).utf8ByteSize := by
    rw [follows.offset_eq, utf8ByteSize_ofList]
  -- The same run on the part before the text comes to its end.
  have initial_eq : State.initial source =
      (State.initial (String.ofList passed)).extend input.rest := by
    rw [source_eq, String.append_assoc, State.initial_append, split]
    simp
  have cutSteps := steps
  rw [initial_eq] at cutSteps
  obtain ⟨place, cutSteps⟩ := cutSteps.exists_cut_to_end rfl rfl
  have finishes : ∀ outerText, (scanner.under outerText).Rule ⟨⟨place, []⟩, none⟩ .finished :=
    fun _ => .finish
  refine ⟨String.ofList passed, ⟨_, source_eq⟩, ?_, ?_, ?_, ?_⟩
  · have refuses : (scanner.under .reject).Rule ⟨input, none⟩ _ :=
      .outerRefused split noClose noOpen rfl
    exact ⟨_, scan_of_steps_failed strictAccepted steps refuses, rfl,
      String.singleton_eq_ofList.symm, here⟩
  · intro role
    rw [← here]
    exact not_standsAt_of_none follows accepted noClose noOpen role
  · intro outerText
    exact scan_of_steps (ofOptions_under accepted outerText) (cutSteps.under rfl outerText)
      (finishes outerText)
  · exact segmentsFrom?_of_finished rfl cutSteps (finishes .reject)

/-- Behind text outside of tags, a lenient run that finishes has left a text segment. -/
theorem textSegments?_ne_nil_of_skipped (accepted : ofOptions options = .ok scanner)
    {input : Input} {char : Char} {rest : List Char}
    (steps : (scanner.under .reject).Steps (.initial source) count tokens ⟨input, none⟩)
    (split : input.rest = char :: rest)
    (noClose : scanner.delimiters.closeAt? input.rest = none)
    (noOpen : scanner.delimiters.openAt? input.rest = none) {result : Scan}
    (scanned : scan { options with outerText := .skip } source = .ok result) :
    result.textSegments? ≠ some [] := by
  obtain ⟨passed, follows⟩ := (placed_of_steps steps).follows
  obtain ⟨reached, same, outside⟩ := seamless_of_steps rfl steps
  obtain rfl := outside rfl
  obtain ⟨lenient, lenientAccepted, succeeds, rfl⟩ := scan_eq_ok_iff.1 scanned
  obtain rfl : scanner.under .skip = lenient := by
    simpa [ofOptions_under accepted] using lenientAccepted
  have skips : (scanner.under .skip).Rule ⟨input, none⟩ (.skipped ⟨input.consume [char], none⟩) :=
    .outerSkipped split noClose noOpen rfl
  have toSkip : (scanner.under .skip).Steps (.initial result.source) (count + 1) tokens _ :=
    (steps.under rfl .skip).skipped skips.step_eq
  rw [Scanner.tokens, tokensFrom_of_steps toSkip] at succeeds
  cases behind : (scanner.under .skip).tokensFrom ⟨input.consume [char], none⟩ with
  | error error => simp [behind, Except.map] at succeeds
  | ok others =>
    obtain ⟨_, _, stepsBehind, -⟩ := tokensFrom_eq_ok_iff.1 behind
    have tokens_eq : result.tokens = tokens ++ others := by
      simpa [behind, Except.map, eq_comm] using succeeds
    rw [Scan.textSegments?, tokens_eq, same]
    exact segmentsFrom?_ne_nil follows split stepsBehind

end Scanner

/-- Compared with a lenient scan, a strict one has the same result and no text segment, or the same
error, or it refuses text, which the lenient one leaves in a segment if it succeeds. -/
theorem strict_cases (options : Options) (source : String) :
    (∃ result, scan { options with outerText := .reject } source = .ok result ∧
        scan { options with outerText := .skip } source = .ok result ∧
        result.textSegments? = some []) ∨
      (∃ error, scan { options with outerText := .reject } source = .error error ∧
        scan { options with outerText := .skip } source = .error error) ∨
      (∃ before char tokens, RefusesAfter options source before char tokens) ∧
        ∀ result, scan { options with outerText := .skip } source = .ok result →
          result.textSegments? ≠ some [] := by
  cases accepted : Scanner.ofOptions options with
  | error fault =>
    have refused := Scanner.ofOptions_eq_error_iff.1 accepted
    have noScan : ∀ outerText,
        scan { options with outerText } source = .error (.options fault) := by
      intro outerText
      have noScanner : Scanner.ofOptions { options with outerText } = .error fault :=
        Scanner.ofOptions_eq_error_iff.2 refused
      rw [scan, noScanner]
    exact .inr (.inl ⟨_, noScan .reject, noScan .skip⟩)
  | ok scanner =>
    have strictAccepted := Scanner.ofOptions_under accepted .reject
    have lenientAccepted := Scanner.ofOptions_under accepted .skip
    obtain ⟨count, tokens, state, steps, finishes | ⟨error, fails⟩⟩ :=
      (scanner.under .reject).exists_steps_to_last (.initial source)
    · have rule := Scanner.rule_of_step_eq finishes
      have lenientRule : (scanner.under .skip).Rule state .finished := by
        cases rule
        exact .finish
      refine .inl ⟨⟨source, tokens⟩, scan_of_steps strictAccepted steps rule, ?_, ?_⟩
      · exact scan_of_steps lenientAccepted (steps.under rfl .skip) lenientRule
      · exact Scanner.segmentsFrom?_of_finished rfl steps rule
    · have rule := Scanner.rule_of_step_eq fails
      rcases rule.failed_under .skip with same | ⟨input, char, rest, rfl, split, noClose, noOpen, -⟩
      · refine .inr (.inl ⟨.lex error, ?_, ?_⟩)
        · exact scan_of_steps_failed strictAccepted steps rule
        · exact scan_of_steps_failed lenientAccepted (steps.under rfl .skip) same
      · obtain ⟨before, refuses⟩ :=
          Scanner.exists_refusesAfter accepted steps split noClose noOpen
        refine .inr (.inr ⟨⟨before, char, tokens, refuses⟩, ?_⟩)
        intro result scanned
        exact Scanner.textSegments?_ne_nil_of_skipped accepted steps split noClose noOpen scanned

/-- A strict scan succeeds exactly if a lenient one does and finds no text between tags, with the
same tokens. Where the two differ, the strict scan fails over a character at which no delimiter
stands, and both scan the source up to there to the same tokens, with no text between them. -/
theorem strict_of_scan (options : Options) (source : String) :
    (∀ result, scan { options with outerText := .reject } source = .ok result ↔
      scan { options with outerText := .skip } source = .ok result ∧
        result.textSegments? = some []) ∧
    (scan { options with outerText := .reject } source ≠
        scan { options with outerText := .skip } source →
      ∃ before char tokens, RefusesAfter options source before char tokens) := by
  rcases strict_cases options source with ⟨result, strict, lenient, noText⟩ |
    ⟨error, strict, lenient⟩ | ⟨⟨before, char, tokens, refuses⟩, someText⟩
  · rw [strict, lenient]
    refine ⟨?_, fun differ => absurd rfl differ⟩
    intro other
    constructor
    · rintro ⟨⟩
      exact ⟨rfl, noText⟩
    · exact And.left
  · rw [strict, lenient]
    exact ⟨by simp, fun differ => absurd rfl differ⟩
  · refine ⟨?_, fun _ => ⟨before, char, tokens, refuses⟩⟩
    obtain ⟨token, strict, -⟩ := refuses.fails
    intro result
    constructor
    · intro scanned
      rw [strict] at scanned
      cases scanned
    · rintro ⟨scanned, noText⟩
      exact absurd noText (someText result scanned)

/-- Text where the closing delimiter of blocks would end, and an open tag behind it. -/
theorem strict_of_scan_overlapping :
    let options : Options := { block := ⟨"<", "]>"⟩, var := ⟨"[", "]"⟩ }
    scan { options with outerText := .reject } "[a]>[" ≠
        scan { options with outerText := .skip } "[a]>[" ∧
      ∃ before char tokens, RefusesAfter options "[a]>[" before char tokens := by
  intro options
  have strict : scan { options with outerText := .reject } "[a]>[" =
      .error (.lex ⟨.unknownToken ⟨.unknown, ">", ⟨3, 4, 1, 4⟩⟩, ⟨3, 4, 1, 4⟩⟩) := by
    decide +kernel
  have lenient : scan { options with outerText := .skip } "[a]>[" =
      .error (.lex ⟨.unterminatedTag ⟨.opening .var, "[", ⟨4, 5, 1, 5⟩⟩ ⟨5, 5, 1, 6⟩,
        ⟨5, 5, 1, 6⟩⟩) := by
    decide +kernel
  have differ : scan { options with outerText := .reject } "[a]>[" ≠
      scan { options with outerText := .skip } "[a]>[" := by
    simp [strict, lenient]
  exact ⟨differ, (strict_of_scan options "[a]>[").2 differ⟩

end TemplateTags
