import Mathlib.Data.List.TakeWhile
import TemplateTags.Proofs.Region

/-!
# Scans of a text that is cut off

A scan of a first part of a text goes the way of the scan of all of it, up to the step that passes
the cut. There it stands at the end of its text or in the middle of a token. What is left of the
token is passed over, read as another token or refused, and then the text has ended: outside every
tag, or in one that is left open.
-/

namespace TemplateTags

open Text

/-! ## Lexemes that are cut off -/

/-- A text of which a run takes more than all is a run. -/
theorem takeWhile_eq_of_isPrefix {inClass : Char → Bool} {rest text : List Char}
    (cut : rest <+: (rest ++ text).takeWhile inClass) : rest.takeWhile inClass = rest := by
  rw [List.takeWhile_eq_self_iff]
  intro char member
  exact List.mem_takeWhile_imp (cut.subset member)

/-- Where a string is closed behind the cut, it is not closed before it. -/
theorem throughQuote?_eq_none_of_cut {quote : Char} {rest text inside : List Char}
    (closed : throughQuote? quote (rest ++ text) = some inside)
    (longer : rest.length < inside.length) : throughQuote? quote rest = none := by
  by_contra some
  obtain ⟨shorter, found⟩ := Option.ne_none_iff_exists'.1 some
  obtain ⟨more, rfl⟩ := isPrefix_throughQuote? found
  rw [List.append_assoc, throughQuote?_append found] at closed
  obtain rfl := Option.some.inj closed
  rw [List.length_append] at longer
  omega

namespace Lexeme

open Scanner

/-- What is left of a lexeme that is cut off is a lexeme, unless it is a string, which is then not
closed. A single character may be left of an operator that is none itself. -/
theorem Reads.of_cut {char : Char} {rest text value : List Char} {kind : Kind}
    (reads : Reads standard.delimiters.closesAt char (rest ++ text) kind value)
    (cut : char :: rest <+: value) (longer : (char :: rest).length < value.length)
    (enough : 2 ≤ (char :: rest).length) :
    (∃ left, Reads standard.delimiters.closesAt char rest left (char :: rest)) ∨
      kind = .string ∧
        read standard.delimiters.closesAt char rest = .unclosedString (char :: rest) := by
  cases reads with
  | whitespace blank =>
    rw [takeRun_standard @isMarkChar_of_isBlank, ← List.cons_append] at cut
    have run := takeWhile_eq_of_isPrefix cut
    rw [← takeRun_standard @isMarkChar_of_isBlank] at run
    refine .inl ⟨.whitespace, ?_⟩
    rw [← run]
    exact .whitespace blank
  | string noBlank quote closed =>
    have unclosed := throughQuote?_eq_none_of_cut closed (by simpa using longer)
    refine .inr ⟨rfl, ?_⟩
    simp only [read, noBlank, quote, unclosed, Bool.false_eq_true, if_false, if_true]
  | operator noBlank noQuote mark found =>
    -- Only two characters of an operator of three can be left, and these are an operator.
    have shortened : ∀ whole ∈ operators, 2 < whole.length →
        whole.length = 3 ∧ operatorAt? (whole.take 2) = some (whole.take 2) := by
      decide
    obtain ⟨three, left⟩ :=
      shortened value (operatorAt?_eq_some found).1 (Nat.lt_of_le_of_lt enough longer)
    have left_eq : char :: rest = value.take 2 := by
      rw [List.prefix_iff_eq_take.1 cut]
      congr
      omega
    exact .inl ⟨_, .operator noBlank noQuote mark (left_eq ▸ left)⟩
  | punctuation =>
    simp at longer
  | word noBlank noQuote noMark run notEmpty =>
    subst run
    rw [takeRun_standard @isMarkChar_of_isWordChar, ← List.cons_append] at cut
    have run := takeWhile_eq_of_isPrefix cut
    rw [← takeRun_standard @isMarkChar_of_isWordChar] at run
    exact .inl ⟨_, .word noBlank noQuote noMark run (by simp)⟩

end Lexeme

/-- With no more than a character before the cut, a step that does not pass the cut comes to it. -/
theorem Input.rest_consume_extend {input : Input} {text value : List Char}
    (starts : value <+: (input.extend text).rest) (notEmpty : value ≠ [])
    (ahead : text.length ≤ ((input.extend text).consume value).rest.length)
    (short : input.rest.length < 2) : ((input.extend text).consume value).rest = text := by
  have whole := Input.append_rest_consume starts
  have positive := List.length_pos_iff.2 notEmpty
  have lengths := Input.length_append_rest_consume starts
  have extended : (input.extend text).rest.length = input.rest.length + text.length :=
    List.length_append
  exact List.append_inj_right' whole (by omega)

namespace Scanner

variable {scanner : Scanner} {outerText : OuterText} {start finish state next cut : State}
  {count : Nat} {tokens : List Token} {token : Token} {text : List Char} {opened : OpenTag}

/-! ## Tags that are left open -/

/-- A scan from the state misses the closing delimiter of the tag that the token opens. -/
def LeavesOpen (scanner : Scanner) (start : State) (token : Token) : Prop :=
  ∃ expectedAt, scanner.tokensFrom start = .error ⟨.unterminatedTag token expectedAt, expectedAt⟩

/-- A run that comes to the last character inside a tag leaves it open. -/
theorem Steps.leavesOpen (steps : (usual outerText).Steps start count tokens state)
    (isOpen : state.opened? = some opened) (short : state.input.rest.length < 2) :
    (usual outerText).LeavesOpen start opened.token := by
  obtain ⟨input, _⟩ := state
  subst isOpen
  have givesUp : (usual outerText).givesUp opened.family input := by
    by_contra kept
    have := givesUp_usual_eq_false_iff.1 (Bool.eq_false_iff.2 kept)
    simp only at short
    omega
  have rule : (usual outerText).Rule ⟨input, some opened⟩ (.unterminated opened input) :=
    .unterminated (.inr givesUp)
  exact ⟨_, tokensFrom_eq_error_iff.2 ⟨count, tokens, _, steps, rule.step_eq⟩⟩

/-- A step of one character at most leaves an open tag open. -/
theorem Rule.opened?_of_short (rule : (usual outerText).Rule state (.emitted token next))
    (isOpen : state.opened? = some opened)
    (short : state.input.rest.length < next.input.rest.length + 2) :
    next.opened? = some opened := by
  cases rule with
  | opens => cases isOpen
  | closes kept own =>
    obtain ⟨listed, -, starts⟩ := Delimiters.closeOf?_eq_some own
    have := (bounds_of_mem_closings _ listed).1
    have whole := Input.length_append_rest_consume starts
    simp only at short
    omega
  | lexeme => exact isOpen

/-- A run that has not passed the cut goes the same way with the text behind the cut cut off. But a
tag is given up one character early, and then its last character has been read as content. -/
theorem Steps.exists_cut_or_leavesOpen
    (steps : (usual outerText).Steps (start.extend text) count tokens state)
    (ahead : text.length ≤ state.input.rest.length) :
    (∃ cut : State, state = cut.extend text ∧ (usual outerText).Steps start count tokens cut) ∨
      state.input.rest = text ∧ ∃ opened, state.opened? = some opened ∧
        (usual outerText).LeavesOpen start opened.token := by
  induction steps with
  | refl => exact .inl ⟨start, rfl, .refl⟩
  | @skipped count tokens state next prior skips inductionHypothesis =>
    have shorter := length_lt_of_step_eq_skipped skips
    have rule := rule_of_step_eq skips
    rcases inductionHypothesis (by omega) with ⟨cut, rfl, cutSteps⟩ | ⟨atCut, -⟩
    · by_cases kept : cut.opened? = none ∨ 2 ≤ cut.input.rest.length
      · obtain ⟨cutNext, rfl, cutRule⟩ := rule.exists_skipped_of_extend ahead kept
        exact .inl ⟨cutNext, rfl, cutSteps.skipped cutRule.step_eq⟩
      · obtain ⟨isOpen, short⟩ := not_or.1 kept
        obtain ⟨opened, isOpen⟩ := Option.ne_none_iff_exists'.1 isOpen
        obtain ⟨char, rest, split, rfl⟩ := rule.skips
        have starts : [char] <+: (cut.extend text).input.rest := ⟨rest, split.symm⟩
        exact .inr ⟨Input.rest_consume_extend starts (by simp) ahead (Nat.not_le.1 short), opened,
          isOpen, cutSteps.leavesOpen isOpen (Nat.not_le.1 short)⟩
    · rw [atCut] at shorter
      omega
  | @emitted count tokens state token next prior emits inductionHypothesis =>
    have shorter := length_lt_of_step_eq_emitted emits
    have rule := rule_of_step_eq emits
    rcases inductionHypothesis (by omega) with ⟨cut, rfl, cutSteps⟩ | ⟨atCut, -⟩
    · by_cases kept : cut.opened? = none ∨ 2 ≤ cut.input.rest.length
      · obtain ⟨cutNext, rfl, cutRule⟩ := rule.exists_emitted_of_extend ahead kept
        exact .inl ⟨cutNext, rfl, cutSteps.emitted cutRule.step_eq⟩
      · obtain ⟨isOpen, short⟩ := not_or.1 kept
        obtain ⟨opened, isOpen⟩ := Option.ne_none_iff_exists'.1 isOpen
        obtain ⟨kind, value, notEmpty, starts, -, input_eq, -⟩ := rule.emits
        have atCut : next.input.rest = text := by
          rw [input_eq] at ahead ⊢
          exact Input.rest_consume_extend starts notEmpty ahead (Nat.not_le.1 short)
        have stillOpen := rule.opened?_of_short isOpen <| by
          rw [atCut, State.extend, Input.extend, List.length_append]
          omega
        exact .inr ⟨atCut, opened, stillOpen, cutSteps.leavesOpen isOpen (Nat.not_le.1 short)⟩
    · rw [atCut] at shorter
      omega

/-! ## The step that passes the cut -/

/-- A run finds the tokens from a state on, with the first step of which fewer characters remain
than the bound. -/
inductive Crossing (scanner : Scanner) (bound : Nat) (state finish : State) :
    List Token → Prop where
  | skipped {next : State} {count : Nat} {tokens : List Token}
      (rule : scanner.Rule state (.skipped next))
      (behind : next.input.rest.length < bound) (steps : scanner.Steps next count tokens finish) :
      Crossing scanner bound state finish tokens
  | emitted {token : Token} {next : State} {count : Nat} {tokens : List Token}
      (rule : scanner.Rule state (.emitted token next))
      (behind : next.input.rest.length < bound) (steps : scanner.Steps next count tokens finish) :
      Crossing scanner bound state finish (token :: tokens)

/-- A run that passes a bound has a last state before it. -/
theorem Steps.exists_crossing {bound : Nat} (steps : scanner.Steps start count tokens finish)
    (ahead : bound ≤ start.input.rest.length) (behind : finish.input.rest.length < bound) :
    ∃ countFirst first state second, scanner.Steps start countFirst first state ∧
      bound ≤ state.input.rest.length ∧ scanner.Crossing bound state finish second ∧
        tokens = first ++ second := by
  induction steps with
  | refl => omega
  | @skipped count tokens state next prior skips inductionHypothesis =>
    by_cases earlier : state.input.rest.length < bound
    · obtain ⟨countFirst, first, before, second, toCut, stateAhead, crossing, rfl⟩ :=
        inductionHypothesis earlier
      refine ⟨countFirst, first, before, second, toCut, stateAhead, ?_, rfl⟩
      cases crossing with
      | skipped rule nextBehind steps => exact .skipped rule nextBehind (steps.skipped skips)
      | emitted rule nextBehind steps => exact .emitted rule nextBehind (steps.skipped skips)
    · have rule := rule_of_step_eq skips
      exact ⟨count, tokens, state, [], prior, Nat.not_lt.1 earlier, .skipped rule behind .refl,
        by simp⟩
  | @emitted count tokens state token next prior emits inductionHypothesis =>
    by_cases earlier : state.input.rest.length < bound
    · obtain ⟨countFirst, first, before, second, toCut, stateAhead, crossing, rfl⟩ :=
        inductionHypothesis earlier
      refine ⟨countFirst, first, before, second ++ [token], toCut, stateAhead, ?_, by simp⟩
      cases crossing with
      | skipped rule nextBehind steps => exact .skipped rule nextBehind (steps.emitted emits)
      | emitted rule nextBehind steps => exact .emitted rule nextBehind (steps.emitted emits)
    · have rule := rule_of_step_eq emits
      exact ⟨count, tokens, state, [token], prior, Nat.not_lt.1 earlier,
        .emitted rule behind .refl, rfl⟩

/-- What is left of a text that is passed together with the cut is a first part of it. -/
theorem isPrefix_of_cut {input : Input} {value : List Char}
    (starts : value <+: (input.extend text).rest)
    (behind : ((input.extend text).consume value).rest.length < text.length) :
    input.rest <+: value ∧ input.rest.length < value.length := by
  have lengths := Input.length_append_rest_consume starts
  have extended : (input.extend text).rest.length = input.rest.length + text.length :=
    List.length_append
  have longer : input.rest.length < value.length := by omega
  exact ⟨List.prefix_of_prefix_length_le (List.prefix_append ..) starts (Nat.le_of_lt longer),
    longer⟩

/-- Inside a tag, what is left of a token that is cut off is read as content up to the last
character at least, or it is a string that is not closed. -/
theorem Rule.exists_left_of_cut
    (rule : (usual outerText).Rule (cut.extend text) (.emitted token next))
    (isOpen : cut.opened? = some opened) (enough : 2 ≤ cut.input.rest.length)
    (behind : next.input.rest.length < text.length) :
    (∃ left state, (usual outerText).Rule cut (.emitted left state) ∧
        state.opened? = some opened ∧ state.input.rest.length < 2) ∨
      token.kind = .string ∧ (usual outerText).Rule cut
        (.failedOver .unterminatedString (cut.input.token .string cut.input.rest)) := by
  obtain ⟨input, _⟩ := cut
  subst isOpen
  simp only [State.extend] at rule enough
  have kept : (usual outerText).givesUp opened.family input = false :=
    givesUp_usual_eq_false_iff.2 enough
  generalize extended : input.extend text = whole at rule
  cases rule with
  | @closes _ _ literal _ own =>
    subst extended
    obtain ⟨listed, family, starts⟩ := Delimiters.closeOf?_eq_some own
    obtain ⟨left, longer⟩ := isPrefix_of_cut starts behind
    -- The trimmed delimiter of a block leaves a minus sign and a percent sign.
    have only : ∀ literal ∈ standard.delimiters.closings, 2 < literal.text.length →
        literal = ⟨['-', '%', '}'], .block⟩ := by
      decide
    obtain rfl := only literal listed (Nat.lt_of_le_of_lt enough longer)
    have rest_eq : input.rest = ['-', '%'] := by
      have two : input.rest.length = 2 := by
        simp only [List.length_cons, List.length_nil] at longer
        omega
      rw [List.prefix_iff_eq_take.1 left, two]
      rfl
    have noComment : opened.family ≠ .comment := by simp [← family]
    have reads : Lexeme.read standard.delimiters.closesAt '-' ['%'] = .token .operator ['-'] := rfl
    refine .inl ⟨_, _, .lexeme rest_eq kept noComment ?_ ?_ reads, rfl, ?_⟩
    · rw [rest_eq]
      rfl
    · rw [rest_eq]
      rfl
    · simp [Input.consume, rest_eq]
  | @lexeme _ _ char others kind value split _ noComment noClose noOpen reads =>
    subst extended
    obtain ⟨left, longer⟩ := isPrefix_of_cut (piece_of_read split noClose reads).2 behind
    obtain ⟨first, rest, rest_eq⟩ :=
      List.exists_cons_of_length_pos (Nat.lt_of_lt_of_le Nat.two_pos enough)
    obtain ⟨rfl, rfl⟩ : first = char ∧ rest ++ text = others := by
      simpa [Input.extend, rest_eq] using split
    have cutNoClose := Delimiters.closeAt?_eq_none_of_append noClose
    have cutNoOpen := Delimiters.openAt?_eq_none_of_append noOpen
    have cutReads := (Lexeme.read_eq_token_iff.1 reads).of_cut (rest_eq ▸ left) (rest_eq ▸ longer)
      (rest_eq ▸ enough)
    rcases cutReads with ⟨leftKind, leftReads⟩ | ⟨string, unclosed⟩
    · refine .inl ⟨_, _, .lexeme rest_eq kept noComment cutNoClose cutNoOpen
        (Lexeme.read_eq_token_iff.2 leftReads), rfl, ?_⟩
      simp [Input.consume, rest_eq]
    · refine .inr ⟨string, ?_⟩
      simp only [rest_eq]
      exact .unclosedString rest_eq kept noComment cutNoClose cutNoOpen unclosed

/-- Outside every tag, what is left of an opening delimiter that is cut off is nothing, a brace or
the plain delimiter of a block of the trimmed one. -/
theorem Rule.rest_of_cut
    (rule : (usual outerText).Rule (cut.extend text) (.emitted token next))
    (outside : cut.opened? = none) (behind : next.input.rest.length < text.length) :
    token.isOpening ∧ (cut.input.rest = [] ∨ cut.input.rest = ['{'] ∨
      cut.input.rest = ['{', '%'] ∧ token.kind = .opening .block) := by
  obtain ⟨input, _⟩ := cut
  subst outside
  simp only [State.extend] at rule
  generalize extended : input.extend text = whole at rule
  cases rule with
  | @opens _ literal noClose opening =>
    subst extended
    obtain ⟨listed, starts⟩ := Delimiters.openAt?_eq_some opening
    obtain ⟨left, longer⟩ := isPrefix_of_cut starts behind
    have parts : ∀ literal ∈ standard.delimiters.openings, ∀ count < literal.text.length,
        literal.text.take count = [] ∨ literal.text.take count = ['{'] ∨
          literal.text.take count = ['{', '%'] ∧ literal.family = .block := by
      decide
    refine ⟨rfl, ?_⟩
    have := parts literal listed _ longer
    rw [← List.prefix_iff_eq_take.1 left] at this
    simpa using this

/-! ## Places and the cut -/

/-- Tokens of a run start where the run has started, or behind it. -/
theorem Steps.le_start (steps : scanner.Steps start count tokens finish) :
    ∀ token ∈ tokens, start.input.here.offset ≤ token.span.start := by
  intro token member
  obtain ⟨_, _, reached, _, prior, rule⟩ := exists_rule_of_mem steps member
  obtain ⟨kind, value, -, -, rfl, -⟩ := rule.emits
  exact prior.offset_le

end Scanner

/-- An input before the cut has some of the first text left. -/
theorem Input.Follows.exists_left {input : Input} {before after : String} {passed : List Char}
    (follows : input.Follows (before ++ after) passed)
    (ahead : after.toList.length ≤ input.rest.length) :
    ∃ left, input.rest = left ++ after.toList ∧
      before.utf8ByteSize = input.here.offset + byteLength left := by
  have split := follows.text
  rw [String.toList_append] at split
  rcases List.append_eq_append_iff.1 split with
    ⟨more, passed_eq, after_eq⟩ | ⟨left, before_eq, rest_eq⟩
  · have nothing : more = [] := by
      rw [after_eq, List.length_append] at ahead
      exact List.length_eq_zero_iff.1 (by omega)
    refine ⟨[], by simp [after_eq, nothing], ?_⟩
    rw [follows.offset_eq, passed_eq, nothing]
    simp [byteLength_toList]
  · refine ⟨left, rest_eq, ?_⟩
    rw [follows.offset_eq, ← byteLength_toList, before_eq, byteLength_append]

/-- An input behind the cut is behind it by its offset. -/
theorem Input.Follows.lt_offset {input : Input} {before after : String} {passed : List Char}
    (follows : input.Follows (before ++ after) passed)
    (behind : input.rest.length < after.toList.length) :
    before.utf8ByteSize < input.here.offset := by
  have split := follows.text
  rw [String.toList_append] at split
  rcases List.append_eq_append_iff.1 split with
    ⟨more, passed_eq, after_eq⟩ | ⟨left, before_eq, rest_eq⟩
  · have notEmpty : more ≠ [] := by
      rintro rfl
      simp [after_eq] at behind
    have bytes := byteLength_pos notEmpty
    rw [follows.offset_eq, passed_eq, byteLength_append, byteLength_toList]
    omega
  · rw [rest_eq, List.length_append] at behind
    omega

namespace Scanner

variable {before after : String} {count : Nat} {first second : List Token} {state finish : State}

/-- The step that crosses the cut and those behind it make one run. -/
theorem Crossing.exists_steps {scanner : Scanner} {bound : Nat}
    (crossing : scanner.Crossing bound state finish second) :
    ∃ count, scanner.Steps state count second finish := by
  cases crossing with
  | skipped rule _ steps => exact ⟨_, (Steps.skipped .refl rule.step_eq).trans steps⟩
  | emitted rule _ steps => exact ⟨_, (Steps.emitted .refl rule.step_eq).trans steps⟩

/-- The tokens from the cut on stop behind it. They also start behind it, but for the one that
passes the cut. -/
theorem Crossing.behind_cut {scanner : Scanner}
    (crossing : scanner.Crossing after.toList.length state finish second)
    (toCut : scanner.Steps (.initial (before ++ after)) count first state) :
    ∀ token ∈ second, before.utf8ByteSize < token.span.stop ∧
      (before.utf8ByteSize < token.span.start ∨ token.span.start = state.input.here.offset) := by
  obtain ⟨_, fromCut⟩ := crossing.exists_steps
  have nonempty := (placed_of_steps (toCut.trans fromCut)).nonempty
  intro token member
  have stops : before.utf8ByteSize < token.span.start → before.utf8ByteSize < token.span.stop :=
    fun starts => Nat.lt_trans starts (nonempty token (List.mem_append_right _ member))
  cases crossing with
  | skipped rule nextBehind steps =>
    obtain ⟨passed, follows⟩ := (placed_of_steps (toCut.skipped rule.step_eq)).follows
    have passedCut := follows.lt_offset nextBehind
    have starts := Nat.lt_of_lt_of_le passedCut (steps.le_start token member)
    exact ⟨stops starts, .inl starts⟩
  | emitted rule nextBehind steps =>
    obtain ⟨passed, follows⟩ := (placed_of_steps (toCut.emitted rule.step_eq)).follows
    have passedCut := follows.lt_offset nextBehind
    rcases List.mem_cons.1 member with rfl | later
    · obtain ⟨kind, value, -, -, rfl, input_eq, -⟩ := rule.emits
      rw [input_eq, Input.offset_consume] at passedCut
      exact ⟨by rwa [Input.stop_token], .inr (Input.start_token ..)⟩
    · have starts := Nat.lt_of_lt_of_le passedCut (steps.le_start token later)
      exact ⟨stops starts, .inl starts⟩

/-- Where a scan of all of the text stands inside a tag at the cut, a scan of its first part leaves
the tag open, or it fails at a string that the cut goes through. -/
theorem Crossing.exists_error_of_cut {outerText : OuterText} {opened : OpenTag}
    (crossing : (usual outerText).Crossing after.toList.length state finish second)
    (toCut : (usual outerText).Steps (.initial (before ++ after)) count first state)
    (ahead : after.toList.length ≤ state.input.rest.length) (isOpen : state.opened? = some opened) :
    (usual outerText).LeavesOpen (.initial before) opened.token ∨
      ∃ token ∈ second, token.kind = .string ∧ token.span.start < before.utf8ByteSize ∧
        ∃ found,
          (usual outerText).tokens before = .error ⟨.unterminatedString found, found.span⟩ := by
  obtain ⟨passed, follows⟩ := (placed_of_steps toCut).follows
  obtain ⟨left, rest_eq, cut_eq⟩ := follows.exists_left ahead
  rw [State.initial_append] at toCut
  rcases toCut.exists_cut_or_leavesOpen ahead with ⟨cut, rfl, cutSteps⟩ | ⟨-, _, sameOpen, leaves⟩
  · obtain rfl : cut.input.rest = left := List.append_cancel_right rest_eq
    by_cases short : cut.input.rest.length < 2
    · exact .inl (cutSteps.leavesOpen isOpen short)
    · have enough := Nat.not_lt.1 short
      cases crossing with
      | skipped rule nextBehind =>
        obtain ⟨char, rest, split, rfl⟩ := rule.skips
        have starts : [char] <+: (cut.input.extend after.toList).rest := ⟨rest, split.symm⟩
        have longer := (isPrefix_of_cut starts nextBehind).2
        simp only [List.length_cons, List.length_nil] at longer
        omega
      | @emitted token next _ tokens rule nextBehind =>
        rcases rule.exists_left_of_cut isOpen enough nextBehind with
          ⟨_, left, leftRule, leftOpen, leftShort⟩ | ⟨string, unclosed⟩
        · exact .inl ((cutSteps.emitted leftRule.step_eq).leavesOpen leftOpen leftShort)
        · refine .inr ⟨token, List.mem_cons_self .., string, ?_, _,
            tokensFrom_eq_error_iff.2 ⟨_, _, _, cutSteps, unclosed.step_eq⟩⟩
          obtain ⟨kind, value, -, -, rfl, -, -⟩ := rule.emits
          have notEmpty : cut.input.rest ≠ [] := List.ne_nil_of_length_pos (by omega)
          have bytes := byteLength_pos notEmpty
          rw [Input.start_token]
          omega
  · obtain rfl := Option.some.inj (isOpen.symm.trans sameOpen)
    exact .inl leaves

/-- A brace alone opens no tag, so it is passed over. -/
theorem skips_brace {cut : State} (outside : cut.opened? = none) (brace : cut.input.rest = ['{']) :
    standard.Rule cut (.skipped ⟨cut.input.consume ['{'], none⟩) := by
  obtain ⟨input, _⟩ := cut
  subst outside
  replace brace : input.rest = ['{'] := brace
  exact .outerSkipped brace (by rw [brace]; rfl) (by rw [brace]; rfl) rfl

/-- A block is opened by its two characters where there is no third for a trim modifier. -/
theorem opens_block {cut : State} (outside : cut.opened? = none)
    (plain : cut.input.rest = ['{', '%']) :
    standard.Rule cut (.emitted (cut.input.token (.opening .block) ['{', '%'])
      ⟨cut.input.consume ['{', '%'],
        some ⟨.block, cut.input.token (.opening .block) ['{', '%']⟩⟩) := by
  obtain ⟨input, _⟩ := cut
  subst outside
  replace plain : input.rest = ['{', '%'] := plain
  have noClose : standard.delimiters.closeAt? input.rest = none := by
    rw [plain]
    rfl
  have opening : standard.delimiters.openAt? input.rest = some ⟨['{', '%'], .block⟩ := by
    rw [plain]
    rfl
  exact .opens noClose opening

/-- Where a scan of all of the text stands outside every tag at the cut, a scan of its first part
finds what has been found. But a trimmed opening delimiter of a block without its trim modifier
opens a block that is left open. -/
theorem Crossing.exists_outcome_of_cut
    (crossing : standard.Crossing after.toList.length state finish second)
    (toCut : standard.Steps (.initial (before ++ after)) count first state)
    (ahead : after.toList.length ≤ state.input.rest.length) (outside : state.opened? = none) :
    (tokenize before = .ok first ∧ ∀ token ∈ second, token.isOpening →
        before.utf8ByteSize < token.span.start + 2) ∨
      ∃ token ∈ second, token.isOpening ∧ token.span.start + 2 ≤ before.utf8ByteSize ∧
        ∃ opening, opening.kind = token.kind ∧ opening.span.start = token.span.start ∧
          standard.LeavesOpen (.initial before) opening := by
  obtain ⟨passed, follows⟩ := (placed_of_steps toCut).follows
  obtain ⟨left, rest_eq, cut_eq⟩ := follows.exists_left ahead
  have starts := crossing.behind_cut toCut
  rw [State.initial_append] at toCut
  rcases @Steps.exists_cut_or_leavesOpen .skip _ _ _ _ _ toCut ahead with
    ⟨cut, rfl, cutSteps⟩ | ⟨-, _, isOpen, -⟩
  · obtain rfl : cut.input.rest = left := List.append_cancel_right rest_eq
    replace outside : cut.opened? = none := outside
    -- With a byte at most before the cut, each token from the cut on starts too late.
    have later : byteLength cut.input.rest ≤ 1 → ∀ token ∈ second, token.isOpening →
        before.utf8ByteSize < token.span.start + 2 := by
      intro short token member _
      have same : (cut.extend after.toList).input.here = cut.input.here := rfl
      rcases (starts token member).2 with behind | atCut <;> omega
    cases crossing with
    | skipped rule nextBehind =>
      obtain ⟨char, rest, split, rfl⟩ := rule.skips
      have shorter := (isPrefix_of_cut ⟨rest, split.symm⟩ nextBehind).2
      have nothing : cut.input.rest = [] := by simpa using shorter
      exact .inl ⟨tokensFrom_of_steps_to_end cutSteps nothing outside, later (by simp [nothing])⟩
    | @emitted token next _ tokens rule nextBehind =>
      obtain ⟨isOpening, nothing | brace | ⟨plain, block⟩⟩ :=
        @Rule.rest_of_cut .skip _ _ _ _ rule outside nextBehind
      · exact .inl ⟨tokensFrom_of_steps_to_end cutSteps nothing outside, later (by simp [nothing])⟩
      · -- The brace is passed over as text.
        have toEnd := cutSteps.skipped (skips_brace outside brace).step_eq
        refine .inl
          ⟨tokensFrom_of_steps_to_end toEnd (by simp [Input.consume, brace]) rfl, later ?_⟩
        rw [brace]
        decide
      · -- The plain delimiter opens a block, at the end of the text.
        have opens := opens_block outside plain
        have leaves := @Steps.leavesOpen .skip _ _ _ _ _ (cutSteps.emitted opens.step_eq) rfl
          (by simp [Input.consume, plain])
        obtain ⟨kind, value, -, -, rfl, -, -⟩ := rule.emits
        refine .inr ⟨_, List.mem_cons_self .., isOpening, ?_,
          cut.input.token (.opening .block) ['{', '%'], block.symm, rfl, leaves⟩
        have same : (cut.extend after.toList).input.here = cut.input.here := rfl
        have bytes : byteLength ['{', '%'] = 2 := rfl
        rw [plain, bytes] at cut_eq
        exact Nat.le_of_eq cut_eq.symm
  · simp [outside] at isOpen

end Scanner

end TemplateTags
