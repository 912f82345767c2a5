import TemplateTags.Scan
import TemplateTags.Scanner.Steps

/-!
# The rules of a scan

`Scanner.Rule` lists everything that a step can do, each with the literals and the lexeme that
made the scanner do it; `Scanner.rule_step` says that no step does anything else, and
`Scanner.Rule.step_eq` that a rule is followed wherever it applies. What is proved about scans is
proved rule by rule, without opening the scanner.

`Scanner.Invariant` packages the induction over a run: what holds at the beginning and is kept by
every step that goes on holds of all tokens found so far and of the state reached with them. A scan
is such a run up to a last step, by `exists_steps_of_scan` and `exists_steps_of_scan_error`.
-/

namespace TemplateTags

namespace Scanner

/-- What the scanner may do in a state, and why. -/
inductive Rule (scanner : Scanner) : State → Step → Prop where
  /-- The text ends outside every tag. -/
  | finish {here} : Rule scanner ⟨⟨here, []⟩, none⟩ .finished
  /-- A closing literal stands where no tag is open. -/
  | unmatchedClose {input literal}
      (closes : scanner.delimiters.closeAt? input.rest = some literal) :
      Rule scanner ⟨input, none⟩
        (.failedOver .unmatchedClose (input.token (.closing literal.family) literal.text))
  /-- An opening literal, and no closing one, stands where no tag is open. -/
  | opens {input literal} (noClose : scanner.delimiters.closeAt? input.rest = none)
      (opening : scanner.delimiters.openAt? input.rest = some literal) :
      Rule scanner ⟨input, none⟩
        (.emitted (input.token (.opening literal.family) literal.text)
          ⟨input.consume literal.text,
            some ⟨literal.family, input.token (.opening literal.family) literal.text⟩⟩)
  /-- No literal stands where no tag is open, and the text is passed over. -/
  | outerSkipped {input char rest} (split : input.rest = char :: rest)
      (noClose : scanner.delimiters.closeAt? input.rest = none)
      (noOpen : scanner.delimiters.openAt? input.rest = none)
      (policy : scanner.outerText = .skip) :
      Rule scanner ⟨input, none⟩ (.skipped ⟨input.consume [char], none⟩)
  /-- No literal stands where no tag is open, and the text is refused. -/
  | outerRefused {input char rest} (split : input.rest = char :: rest)
      (noClose : scanner.delimiters.closeAt? input.rest = none)
      (noOpen : scanner.delimiters.openAt? input.rest = none)
      (policy : scanner.outerText = .reject) :
      Rule scanner ⟨input, none⟩ (.failedOver .unknownToken (input.token .unknown [char]))
  /-- The text has ended, or is too short to close the tag. -/
  | unterminated {input opened}
      (short : input.rest = [] ∨ scanner.givesUp opened.family input) :
      Rule scanner ⟨input, some opened⟩ (.unterminated opened input)
  /-- A closing literal of the open tag. -/
  | closes {input} {opened : OpenTag} {literal}
      (kept : scanner.givesUp opened.family input = false)
      (own : scanner.delimiters.closeOf? opened.family input.rest = some literal) :
      Rule scanner ⟨input, some opened⟩
        (.emitted (input.token (.closing opened.family) literal.text)
          ⟨input.consume literal.text, none⟩)
  /-- A closing literal, and none of the open tag, in a tag that is no comment. -/
  | mismatchedClose {input} {opened : OpenTag} {literal}
      (kept : scanner.givesUp opened.family input = false) (noComment : opened.family ≠ .comment)
      (closes : scanner.delimiters.closeAt? input.rest = some literal)
      (foreign : scanner.delimiters.closeOf? opened.family input.rest = none) :
      Rule scanner ⟨input, some opened⟩
        (.failedOver (.mismatchedClose · opened.token)
          (input.token (.closing literal.family) literal.text))
  /-- A character of a comment. -/
  | commentSkipped {input} {opened : OpenTag} {char rest} (split : input.rest = char :: rest)
      (kept : scanner.givesUp opened.family input = false)
      (comment : opened.family = .comment)
      (noOwn : scanner.delimiters.closeOf? .comment input.rest = none) :
      Rule scanner ⟨input, some opened⟩ (.skipped ⟨input.consume [char], some opened⟩)
  /-- An opening literal in a tag that is no comment. -/
  | unexpectedOpen {input} {opened : OpenTag} {literal}
      (kept : scanner.givesUp opened.family input = false) (noComment : opened.family ≠ .comment)
      (noClose : scanner.delimiters.closeAt? input.rest = none)
      (opening : scanner.delimiters.openAt? input.rest = some literal) :
      Rule scanner ⟨input, some opened⟩
        (.failedOver (.unexpectedOpen · opened.token)
          (input.token (.opening literal.family) literal.text))
  /-- A lexeme in a tag that is no comment. -/
  | lexeme {input} {opened : OpenTag} {char rest kind text} (split : input.rest = char :: rest)
      (kept : scanner.givesUp opened.family input = false) (noComment : opened.family ≠ .comment)
      (noClose : scanner.delimiters.closeAt? input.rest = none)
      (noOpen : scanner.delimiters.openAt? input.rest = none)
      (reads : Lexeme.read scanner.delimiters.closesAt char rest = .token kind text) :
      Rule scanner ⟨input, some opened⟩
        (.emitted (input.token kind text) ⟨input.consume text, some opened⟩)
  /-- A character that starts no lexeme. -/
  | unknown {input} {opened : OpenTag} {char rest} (split : input.rest = char :: rest)
      (kept : scanner.givesUp opened.family input = false) (noComment : opened.family ≠ .comment)
      (noClose : scanner.delimiters.closeAt? input.rest = none)
      (noOpen : scanner.delimiters.openAt? input.rest = none)
      (reads : Lexeme.read scanner.delimiters.closesAt char rest = .unknown char) :
      Rule scanner ⟨input, some opened⟩
        (.failedOver .unknownToken (input.token .unknown [char]))
  /-- A string that is never closed, which is all that remains. -/
  | unclosedString {input} {opened : OpenTag} {char rest} (split : input.rest = char :: rest)
      (kept : scanner.givesUp opened.family input = false) (noComment : opened.family ≠ .comment)
      (noClose : scanner.delimiters.closeAt? input.rest = none)
      (noOpen : scanner.delimiters.openAt? input.rest = none)
      (reads : Lexeme.read scanner.delimiters.closesAt char rest =
        .unclosedString (char :: rest)) :
      Rule scanner ⟨input, some opened⟩
        (.failedOver .unterminatedString (input.token .string (char :: rest)))

variable {scanner : Scanner}

/-- Outside every tag each way to read the head has its rule, with the conditions under which it is
read that way. Text has one rule for each policy. -/
theorem rule_stepOutside {input : Input} {char : Char} {rest : List Char}
    (split : input.rest = char :: rest) :
    scanner.Rule ⟨input, none⟩ (scanner.stepOutside input char rest) := by
  cases head : OuterHead.read scanner.delimiters (char :: rest) with
  | closing literal =>
    have closes := OuterHead.read_eq_closing_iff.1 head
    simp only [stepOutside, head]
    exact .unmatchedClose (split ▸ closes)
  | opening literal =>
    obtain ⟨noClose, opening⟩ := OuterHead.read_eq_opening_iff.1 head
    simp only [stepOutside, head]
    exact .opens (split ▸ noClose) (split ▸ opening)
  | text =>
    obtain ⟨noClose, noOpen⟩ := OuterHead.read_eq_text_iff.1 head
    rw [← split] at noClose noOpen
    cases policy : scanner.outerText with
    | skip =>
      simp only [stepOutside, head, policy]
      exact .outerSkipped split noClose noOpen policy
    | reject =>
      simp only [stepOutside, head, policy]
      exact .outerRefused split noClose noOpen policy

/-- Inside a tag each way to read the head has its rule, with the conditions under which it is read
that way. A lexeme has one rule for each of its outcomes. -/
theorem rule_stepInside {input : Input} {opened : OpenTag} {char : Char} {rest : List Char}
    (split : input.rest = char :: rest) (kept : scanner.givesUp opened.family input = false) :
    scanner.Rule ⟨input, some opened⟩ (scanner.stepInside opened input char rest) := by
  cases head : InnerHead.read scanner.delimiters opened.family char rest with
  | closing literal =>
    have own := InnerHead.read_eq_closing_iff.1 head
    simp only [stepInside, head]
    exact .closes kept (split ▸ own)
  | foreignClosing literal =>
    obtain ⟨closes, foreign, noComment⟩ := InnerHead.read_eq_foreignClosing_iff.1 head
    simp only [stepInside, head]
    exact .mismatchedClose kept noComment (split ▸ closes) (split ▸ foreign)
  | opening literal =>
    obtain ⟨noClose, noComment, opening⟩ := InnerHead.read_eq_opening_iff.1 head
    simp only [stepInside, head]
    exact .unexpectedOpen kept noComment (split ▸ noClose) (split ▸ opening)
  | commentText =>
    obtain ⟨comment, noOwn⟩ := InnerHead.read_eq_commentText_iff.1 head
    simp only [stepInside, head]
    exact .commentSkipped split kept comment (split ▸ comment ▸ noOwn)
  | lexeme lexeme =>
    obtain ⟨noClose, noComment, noOpen, reads⟩ := InnerHead.read_eq_lexeme_iff.1 head
    rw [← split] at noClose noOpen
    rcases Lexeme.read_cases scanner.delimiters.closesAt char rest with
      ⟨kind, text, token⟩ | unknown | unclosed
    · obtain rfl : .token kind text = lexeme := token.symm.trans reads
      simp only [stepInside, head]
      exact .lexeme split kept noComment noClose noOpen token
    · obtain rfl : .unknown char = lexeme := unknown.symm.trans reads
      simp only [stepInside, head]
      exact .unknown split kept noComment noClose noOpen unknown
    · obtain rfl : .unclosedString (char :: rest) = lexeme := unclosed.symm.trans reads
      simp only [stepInside, head]
      exact .unclosedString split kept noComment noClose noOpen unclosed

/-- Every step follows a rule. -/
theorem rule_step (scanner : Scanner) (state : State) :
    scanner.Rule state (scanner.step state) := by
  obtain ⟨⟨here, rest⟩, opened?⟩ := state
  match opened?, rest with
  | none, [] => exact .finish
  | none, _ :: _ => exact rule_stepOutside rfl
  | some opened, [] => exact .unterminated (.inl rfl)
  | some opened, char :: rest =>
    cases short : scanner.givesUp opened.family ⟨here, char :: rest⟩ with
    | true =>
      simp only [step, short]
      exact .unterminated (.inr short)
    | false =>
      simp only [step, short]
      exact rule_stepInside rfl short

/-- The step that is taken follows a rule. -/
theorem rule_of_step_eq {state : State} {step : Step} (steps : scanner.step state = step) :
    scanner.Rule state step :=
  steps ▸ scanner.rule_step state

/-- Outside every tag, where text remains, the step is told by its head. -/
theorem step_eq_stepOutside {input : Input} {char : Char} {rest : List Char}
    (split : input.rest = char :: rest) :
    scanner.step ⟨input, none⟩ = scanner.stepOutside input char rest := by
  simp [step, split]

/-- Inside a tag that is not given up, where text remains, the step is told by its head. -/
theorem step_eq_stepInside {input : Input} {opened : OpenTag} {char : Char} {rest : List Char}
    (split : input.rest = char :: rest) (kept : scanner.givesUp opened.family input = false) :
    scanner.step ⟨input, some opened⟩ = scanner.stepInside opened input char rest := by
  simp [step, split, kept]

/-- Where a nonempty text stands, some text remains. -/
theorem exists_cons_of_isPrefix {text rest : List Char} (notEmpty : text ≠ [])
    (start : text <+: rest) : ∃ char others, rest = char :: others :=
  List.exists_cons_of_ne_nil fun empty => notEmpty (List.prefix_nil.1 (empty ▸ start))

/-- A rule that applies is the step that is taken. -/
theorem Rule.step_eq {state : State} {step : Step} (rule : scanner.Rule state step) :
    scanner.step state = step := by
  cases rule with
  | finish => rfl
  | unmatchedClose closes =>
    obtain ⟨char, rest, split⟩ := exists_cons_of_isPrefix
      (scanner.text_ne_nil_of_closeAt? closes) (Delimiters.closeAt?_eq_some closes).2
    rw [split] at closes
    rw [step_eq_stepOutside split, stepOutside, OuterHead.read_eq_closing_iff.2 closes]
  | opens noClose opening =>
    obtain ⟨char, rest, split⟩ := exists_cons_of_isPrefix
      (scanner.text_ne_nil_of_openAt? opening) (Delimiters.openAt?_eq_some opening).2
    rw [split] at noClose opening
    rw [step_eq_stepOutside split, stepOutside,
      OuterHead.read_eq_opening_iff.2 ⟨noClose, opening⟩]
  | outerSkipped split noClose noOpen policy =>
    rw [split] at noClose noOpen
    rw [step_eq_stepOutside split, stepOutside, OuterHead.read_eq_text_iff.2 ⟨noClose, noOpen⟩]
    simp only [policy]
  | outerRefused split noClose noOpen policy =>
    rw [split] at noClose noOpen
    rw [step_eq_stepOutside split, stepOutside, OuterHead.read_eq_text_iff.2 ⟨noClose, noOpen⟩]
    simp only [policy]
  | @unterminated input opened short =>
    cases split : input.rest with
    | nil => simp [Scanner.step, split]
    | cons char rest =>
      have givesUp : scanner.givesUp opened.family input := by simpa [split] using short
      simp [Scanner.step, split, givesUp]
  | closes kept own =>
    obtain ⟨char, rest, split⟩ := exists_cons_of_isPrefix
      (scanner.text_ne_nil_of_closeOf? own) (Delimiters.closeOf?_eq_some own).2.2
    rw [split] at own
    rw [step_eq_stepInside split kept, stepInside, InnerHead.read_eq_closing_iff.2 own]
  | mismatchedClose kept noComment closes foreign =>
    obtain ⟨char, rest, split⟩ := exists_cons_of_isPrefix
      (scanner.text_ne_nil_of_closeAt? closes) (Delimiters.closeAt?_eq_some closes).2
    rw [split] at closes foreign
    rw [step_eq_stepInside split kept, stepInside,
      InnerHead.read_eq_foreignClosing_iff.2 ⟨closes, foreign, noComment⟩]
  | commentSkipped split kept comment noOwn =>
    rw [split] at noOwn
    rw [step_eq_stepInside split kept, stepInside,
      InnerHead.read_eq_commentText_iff.2 ⟨comment, comment ▸ noOwn⟩]
  | unexpectedOpen kept noComment noClose opening =>
    obtain ⟨char, rest, split⟩ := exists_cons_of_isPrefix
      (scanner.text_ne_nil_of_openAt? opening) (Delimiters.openAt?_eq_some opening).2
    rw [split] at noClose opening
    rw [step_eq_stepInside split kept, stepInside,
      InnerHead.read_eq_opening_iff.2 ⟨noClose, noComment, opening⟩]
  | lexeme split kept noComment noClose noOpen reads =>
    rw [split] at noClose noOpen
    rw [step_eq_stepInside split kept, stepInside,
      InnerHead.read_eq_lexeme_iff.2 ⟨noClose, noComment, noOpen, reads⟩]
  | unknown split kept noComment noClose noOpen reads =>
    rw [split] at noClose noOpen
    rw [step_eq_stepInside split kept, stepInside,
      InnerHead.read_eq_lexeme_iff.2 ⟨noClose, noComment, noOpen, reads⟩]
  | unclosedString split kept noComment noClose noOpen reads =>
    rw [split] at noClose noOpen
    rw [step_eq_stepInside split kept, stepInside,
      InnerHead.read_eq_lexeme_iff.2 ⟨noClose, noComment, noOpen, reads⟩]

/-- A step without a token passes over one character and leaves the open tag as it is. -/
theorem Rule.skips {state next : State} (rule : scanner.Rule state (.skipped next)) :
    ∃ char rest, state.input.rest = char :: rest ∧
      next = ⟨state.input.consume [char], state.opened?⟩ := by
  cases rule with
  | outerSkipped split => exact ⟨_, _, split, rfl⟩
  | commentSkipped split => exact ⟨_, _, split, rfl⟩

/-- A lexeme that is read where no delimiter closes is a piece of the text ahead. -/
theorem piece_of_read {input : Input} {char : Char} {rest text : List Char} {kind : Kind}
    (split : input.rest = char :: rest) (noClose : scanner.delimiters.closeAt? input.rest = none)
    (reads : Lexeme.read scanner.delimiters.closesAt char rest = .token kind text) :
    text ≠ [] ∧ text <+: input.rest := by
  rw [split] at noClose ⊢
  exact Lexeme.read_eq_token (Delimiters.closesAt_eq_false_iff.2 noClose) reads

/-- A step with a token passes over the text of that token, which is not empty. Afterwards the
tag is open that was open before, or the one that the token opens. -/
theorem Rule.emits {state next : State} {token : Token}
    (rule : scanner.Rule state (.emitted token next)) :
    ∃ kind text, text ≠ [] ∧ text <+: state.input.rest ∧ token = state.input.token kind text ∧
      next.input = state.input.consume text ∧
        ∀ opened, next.opened? = some opened →
          state.opened? = some opened ∨ opened.token = token := by
  cases rule with
  | opens _ opening =>
    refine ⟨_, _, scanner.text_ne_nil_of_openAt? opening, (Delimiters.openAt?_eq_some opening).2,
      rfl, rfl, ?_⟩
    rintro _ ⟨⟩
    exact .inr rfl
  | closes _ own =>
    exact ⟨_, _, scanner.text_ne_nil_of_closeOf? own, (Delimiters.closeOf?_eq_some own).2.2,
      rfl, rfl, nofun⟩
  | lexeme split _ _ noClose _ reads =>
    obtain ⟨notEmpty, start⟩ := piece_of_read split noClose reads
    exact ⟨_, _, notEmpty, start, rfl, rfl, fun _ same => .inl same⟩

/-- The scanner with another rule for text outside of tags. -/
def under (scanner : Scanner) (outerText : OuterText) : Scanner :=
  { scanner with outerText }

/-- A token is found whatever is done with text outside of tags. -/
theorem Rule.emitted_under {state next : State} {token : Token}
    (rule : scanner.Rule state (.emitted token next)) (outerText : OuterText) :
    (scanner.under outerText).Rule state (.emitted token next) := by
  cases rule with
  | opens noClose opening => exact .opens noClose opening
  | closes kept own => exact .closes kept own
  | lexeme split kept noComment noClose noOpen reads =>
    exact .lexeme split kept noComment noClose noOpen reads

/-- Inside a tag, text is passed over whatever is done with text outside of tags. -/
theorem Rule.skipped_under {state next : State} (rule : scanner.Rule state (.skipped next))
    (inside : state.opened?.isSome) (outerText : OuterText) :
    (scanner.under outerText).Rule state (.skipped next) := by
  cases rule with
  | outerSkipped => cases inside
  | commentSkipped split kept comment noOwn => exact .commentSkipped split kept comment noOwn

/-- A step that fails does so whatever is done with text outside of tags, unless it refuses such
text. -/
theorem Rule.failed_under {state : State} {error : LexError}
    (rule : scanner.Rule state (.failed error)) (outerText : OuterText) :
    (scanner.under outerText).Rule state (.failed error) ∨
      ∃ input char rest, state = ⟨input, none⟩ ∧ input.rest = char :: rest ∧
        scanner.delimiters.closeAt? input.rest = none ∧
        scanner.delimiters.openAt? input.rest = none ∧
        error = ⟨.unknownToken (input.token .unknown [char]),
          (input.token .unknown [char]).span⟩ := by
  cases rule with
  | unmatchedClose closes => exact .inl (.unmatchedClose closes)
  | outerRefused split noClose noOpen =>
    exact .inr ⟨_, _, _, rfl, split, noClose, noOpen, rfl⟩
  | unterminated short => exact .inl (.unterminated short)
  | mismatchedClose kept noComment closes foreign =>
    exact .inl (.mismatchedClose kept noComment closes foreign)
  | unexpectedOpen kept noComment noClose opening =>
    exact .inl (.unexpectedOpen kept noComment noClose opening)
  | unknown split kept noComment noClose noOpen reads =>
    exact .inl (.unknown split kept noComment noClose noOpen reads)
  | unclosedString split kept noComment noClose noOpen reads =>
    exact .inl (.unclosedString split kept noComment noClose noOpen reads)

/-- A step that fails does so where the scan has come to. -/
theorem Rule.start_of_failed {state : State} {error : LexError}
    (rule : scanner.Rule state (.failed error)) : error.span.start = state.input.here.offset := by
  cases rule <;> rfl

/-- What holds of no tokens and the first state, and of the tokens and the state after each step
that goes on, if it held of those before it. -/
structure Invariant (scanner : Scanner) (start : State)
    (Holds : List Token → State → Prop) : Prop where
  initial : Holds [] start
  skipped : ∀ {tokens state next}, Holds tokens state →
    scanner.Rule state (.skipped next) → Holds tokens next
  emitted : ∀ {tokens state token next}, Holds tokens state →
    scanner.Rule state (.emitted token next) → Holds (tokens ++ [token]) next

/-- An invariant holds wherever steps lead. -/
theorem Invariant.of_steps {start state : State} {Holds : List Token → State → Prop}
    (invariant : scanner.Invariant start Holds) {count : Nat} {tokens : List Token}
    (steps : scanner.Steps start count tokens state) : Holds tokens state := by
  induction steps with
  | refl => exact invariant.initial
  | @skipped _ _ state _ _ skips inductionHypothesis =>
    have rule := rule_of_step_eq skips
    exact invariant.skipped inductionHypothesis rule
  | @emitted _ _ state _ _ _ emits inductionHypothesis =>
    have rule := rule_of_step_eq emits
    exact invariant.emitted inductionHypothesis rule

/-- Another scanner that goes on wherever this one does goes the same way. -/
theorem Steps.transfer {other : Scanner} {start finish : State} {count : Nat}
    {tokens : List Token} (steps : scanner.Steps start count tokens finish)
    (skips : ∀ {state next}, scanner.Rule state (.skipped next) →
      other.Rule state (.skipped next))
    (emits : ∀ {state token next}, scanner.Rule state (.emitted token next) →
      other.Rule state (.emitted token next)) :
    other.Steps start count tokens finish := by
  induction steps with
  | refl => exact .refl
  | skipped _ skipped inductionHypothesis =>
    have rule := skips (rule_of_step_eq skipped)
    exact inductionHypothesis.skipped rule.step_eq
  | emitted _ emitted inductionHypothesis =>
    have rule := emits (rule_of_step_eq emitted)
    exact inductionHypothesis.emitted rule.step_eq

/-- A run does not go back. -/
theorem Steps.offset_le {start finish : State} {count : Nat} {tokens : List Token}
    (steps : scanner.Steps start count tokens finish) :
    start.input.here.offset ≤ finish.input.here.offset := by
  have invariant : scanner.Invariant start fun _ state =>
      start.input.here.offset ≤ state.input.here.offset :=
    { initial := Nat.le_refl _
      skipped := by
        intro tokens state next reached rule
        obtain ⟨char, rest, -, rfl⟩ := rule.skips
        rw [Input.offset_consume]
        exact Nat.le_add_right_of_le reached
      emitted := by
        intro tokens state token next reached rule
        obtain ⟨kind, text, -, -, -, input_eq, -⟩ := rule.emits
        rw [input_eq, Input.offset_consume]
        exact Nat.le_add_right_of_le reached }
  exact invariant.of_steps steps

end Scanner

/-- A scan that succeeds is a run to a step that finishes. -/
theorem exists_steps_of_scan {options : Options} {source : String} {result : Scan}
    (scanned : scan options source = .ok result) :
    result.source = source ∧ ∃ scanner count state, Scanner.ofOptions options = .ok scanner ∧
      scanner.Steps (.initial source) count result.tokens state ∧
        scanner.Rule state .finished := by
  obtain ⟨scanner, accepted, tokens, source_eq⟩ := scan_eq_ok_iff.1 scanned
  obtain ⟨count, state, steps, finishes⟩ := Scanner.tokensFrom_eq_ok_iff.1 tokens
  have rule := Scanner.rule_of_step_eq finishes
  exact ⟨source_eq, scanner, count, state, accepted, steps, rule⟩

/-- A scan that fails is a run to a step that fails. -/
theorem exists_steps_of_scan_error {options : Options} {source : String} {error : LexError}
    (scanned : scan options source = .error (.lex error)) :
    ∃ scanner count tokens state, Scanner.ofOptions options = .ok scanner ∧
      scanner.Steps (.initial source) count tokens state ∧
        scanner.Rule state (.failed error) := by
  obtain ⟨scanner, accepted, failed⟩ := scan_eq_error_lex_iff.1 scanned
  obtain ⟨count, tokens, state, steps, fails⟩ := Scanner.tokensFrom_eq_error_iff.1 failed
  have rule := Scanner.rule_of_step_eq fails
  exact ⟨scanner, count, tokens, state, accepted, steps, rule⟩

/-- A run to a step that finishes is a scan that succeeds. -/
theorem scan_of_steps {options : Options} {scanner : Scanner} {source : String} {count : Nat}
    {tokens : List Token} {state : State} (accepted : Scanner.ofOptions options = .ok scanner)
    (steps : scanner.Steps (.initial source) count tokens state)
    (finishes : scanner.Rule state .finished) : scan options source = .ok ⟨source, tokens⟩ := by
  have succeeds := Scanner.tokensFrom_eq_ok_iff.2 ⟨count, state, steps, finishes.step_eq⟩
  exact scan_eq_ok_iff.2 ⟨scanner, accepted, succeeds, rfl⟩

/-- A run to a step that fails is a scan that fails. -/
theorem scan_of_steps_failed {options : Options} {scanner : Scanner} {source : String}
    {count : Nat} {tokens : List Token} {state : State} {error : LexError}
    (accepted : Scanner.ofOptions options = .ok scanner)
    (steps : scanner.Steps (.initial source) count tokens state)
    (fails : scanner.Rule state (.failed error)) :
    scan options source = .error (.lex error) := by
  have failed := Scanner.tokensFrom_eq_error_iff.2 ⟨count, tokens, state, steps, fails.step_eq⟩
  exact scan_eq_error_lex_iff.2 ⟨scanner, accepted, failed⟩

end TemplateTags
