import TemplateTags.Proofs.Lookahead

/-!
# Cutting the source between tags

Whatever the delimiters are, a run that has come to a place between tags goes the same way when the
source is cut there, by `Scanner.Steps.exists_cut_to_end`. Behind the cut, longer delimiters may
have begun that are not found any more, and a tag may be given up early. But a tag that is closed
before the cut still holds its own closing literal, which is long enough not to give up on the tag,
and at which a run of characters ends that would end there in the whole source.
-/

namespace TemplateTags.Scanner

variable {scanner : Scanner} {start state next finish : State} {count : Nat}
  {tokens : List Token} {text : List Char} {opened : OpenTag}

/-- A run that does not stay where it is takes a first step. -/
theorem Steps.exists_first (steps : scanner.Steps start count tokens finish) :
    start = finish ∨ ∃ next count' tokens', scanner.Steps next count' tokens' finish ∧
      (scanner.step start = .skipped next ∨ ∃ token, scanner.step start = .emitted token next) := by
  induction steps with
  | refl => exact .inl rfl
  | skipped prior skips inductionHypothesis =>
    rcases inductionHypothesis with rfl | ⟨next, _, _, behind, first⟩
    · exact .inr ⟨_, _, _, .refl, .inl skips⟩
    · exact .inr ⟨next, _, _, behind.skipped skips, first⟩
  | emitted prior emits inductionHypothesis =>
    rcases inductionHypothesis with rfl | ⟨next, _, _, behind, first⟩
    · exact .inr ⟨_, _, _, .refl, .inr ⟨_, emits⟩⟩
    · exact .inr ⟨next, _, _, behind.emitted emits, first⟩

/-- Every step of a run leaves fewer characters to read. -/
theorem Steps.count_add_length_rest_le (steps : scanner.Steps start count tokens finish) :
    count + finish.input.rest.length ≤ start.input.rest.length := by
  induction steps with
  | refl => exact Nat.le_of_eq (Nat.zero_add _)
  | skipped _ skips inductionHypothesis =>
    have shorter := length_lt_of_step_eq_skipped skips
    omega
  | emitted _ emits inductionHypothesis =>
    have shorter := length_lt_of_step_eq_emitted emits
    omega

/-- A run leaves no more to read than there was. -/
theorem Steps.length_rest_le (steps : scanner.Steps start count tokens finish) :
    finish.input.rest.length ≤ start.input.rest.length :=
  Nat.le_of_add_left_le steps.count_add_length_rest_le

/-- A run out of a tag reads a closing literal of the tag. -/
theorem Steps.minCloseLength_add_le (steps : scanner.Steps start count tokens finish)
    (isOpen : start.opened? = some opened) (outside : finish.opened? = none) :
    scanner.delimiters.minCloseLength opened.family + finish.input.rest.length ≤
      start.input.rest.length := by
  have invariant : scanner.Invariant start fun _ state =>
      state.input.rest.length ≤ start.input.rest.length ∧
        (state.opened? = some opened ∨
          scanner.delimiters.minCloseLength opened.family + state.input.rest.length ≤
            start.input.rest.length) :=
    { initial := ⟨Nat.le_refl _, .inl isOpen⟩
      skipped := by
        rintro tokens state next ⟨bounded, here⟩ rule
        have shorter := length_lt_of_step_eq_skipped rule.step_eq
        obtain ⟨_, _, _, rfl⟩ := rule.skips
        exact ⟨by omega, here.imp_right (by omega)⟩
      emitted := by
        rintro tokens state token next ⟨bounded, here⟩ rule
        have shorter := length_lt_of_step_eq_emitted rule.step_eq
        refine ⟨by omega, ?_⟩
        rcases here with here | closed
        · cases rule with
          | opens => cases here
          | closes kept own =>
            cases here
            obtain ⟨listed, family_eq, starts⟩ := Delimiters.closeOf?_eq_some own
            have least := family_eq ▸ Delimiters.minCloseLength_le listed
            have fits := starts.length_le
            simp only [Input.consume, List.length_drop] at *
            exact .inr (by omega)
          | lexeme => exact .inl here
        · exact .inr (by omega) }
  obtain ⟨-, stillOpen | closed⟩ := invariant.of_steps steps
  · simp [outside] at stillOpen
  · exact closed

/-- Where a run goes on in a tag that is no comment, from a closing literal out of the tag, that
literal is one of the tag and is read. -/
theorem Steps.exists_own_of_closes (steps : scanner.Steps state count tokens finish)
    (isOpen : state.opened? = some opened) (outside : finish.opened? = none)
    (noComment : opened.family ≠ .comment)
    (closes : scanner.delimiters.closesAt state.input.rest) :
    ∃ literal ∈ scanner.delimiters.closings, literal.text <+: state.input.rest ∧
      literal.text.length + finish.input.rest.length ≤ state.input.rest.length := by
  rcases steps.exists_first with rfl | ⟨next, _, _, behind, skips | ⟨token, emits⟩⟩
  · simp [isOpen] at outside
  · have rule := rule_of_step_eq skips
    cases rule with
    | outerSkipped => cases isOpen
    | commentSkipped _ _ comment =>
      cases isOpen
      exact absurd comment noComment
  · have rule := rule_of_step_eq emits
    cases rule with
    | opens => cases isOpen
    | closes _ own =>
      obtain ⟨listed, -, starts⟩ := Delimiters.closeOf?_eq_some own
      have left := behind.length_rest_le
      have fits := starts.length_le
      simp only [Input.consume, List.length_drop] at left
      exact ⟨_, listed, starts, by simp only; omega⟩
    | lexeme _ _ _ noClose =>
      rw [← Delimiters.closesAt_eq_false_iff] at noClose
      simp [noClose] at closes

/-- A run that can go on to a place between tags, and leaves the text there, goes the same way with
the text cut off. -/
theorem Steps.exists_cut_of_ahead
    (steps : scanner.Steps (start.extend text) count tokens state) {count' : Nat}
    {tokens' : List Token} (toEnd : scanner.Steps state count' tokens' finish)
    (outside : finish.opened? = none) (ahead : text.length ≤ finish.input.rest.length) :
    ∃ cut : State, state = cut.extend text ∧ scanner.Steps start count tokens cut := by
  -- No step gives up on the open tag, as that is closed before the end.
  have kept_of_ahead : ∀ {cut : State} {count' tokens'},
      scanner.Steps (cut.extend text) count' tokens' finish →
        ∀ opened, cut.opened? = some opened →
          scanner.givesUp opened.family cut.input = false := by
    intro cut count' tokens' toEnd opened isOpen
    have fits := toEnd.minCloseLength_add_le isOpen outside
    apply givesUp_eq_false
    simp only [State.extend, Input.extend, List.length_append] at fits
    omega
  induction steps generalizing count' tokens' with
  | refl => exact ⟨start, rfl, .refl⟩
  | skipped prior skips inductionHypothesis =>
    have fromHere := (Steps.skipped .refl skips).trans toEnd
    obtain ⟨cut, rfl, cutSteps⟩ := inductionHypothesis fromHere
    have rule := rule_of_step_eq skips
    obtain ⟨cutNext, rfl, cutRule⟩ :=
      rule.skipped_cut (Nat.le_trans ahead toEnd.length_rest_le) (kept_of_ahead fromHere)
    exact ⟨cutNext, rfl, cutSteps.skipped cutRule.step_eq⟩
  | emitted prior emits inductionHypothesis =>
    have fromHere := (Steps.emitted .refl emits).trans toEnd
    obtain ⟨cut, rfl, cutSteps⟩ := inductionHypothesis fromHere
    have rule := rule_of_step_eq emits
    obtain ⟨cutNext, rfl, cutRule⟩ :=
      rule.emitted_cut (Nat.le_trans ahead toEnd.length_rest_le) (kept_of_ahead fromHere) <| by
        intro opened first behind isOpen noComment split _ closes
        rw [← split] at closes
        obtain ⟨literal, listed, starts, left⟩ :=
          toEnd.exists_own_of_closes isOpen outside noComment closes
        rw [split] at starts left
        refine Delimiters.closesAt_of_isPrefix listed
          (List.prefix_of_prefix_length_le starts (List.prefix_append ..) ?_)
        rw [List.length_append] at left
        omega
    exact ⟨cutNext, rfl, cutSteps.emitted cutRule.step_eq⟩

/-- A run that has come to a place between tags comes to the end of the text when what is left there
is cut off. -/
theorem Steps.exists_cut_to_end
    (steps : scanner.Steps (start.extend text) count tokens finish)
    (outside : finish.opened? = none) (left : finish.input.rest = text) :
    ∃ here, scanner.Steps start count tokens ⟨⟨here, []⟩, none⟩ := by
  obtain ⟨⟨⟨here, rest⟩, opened?⟩, finish_eq, cutSteps⟩ :=
    steps.exists_cut_of_ahead .refl outside (Nat.le_of_eq (by rw [left]))
  have rest_eq : text = rest ++ text := left.symm.trans (congrArg (·.input.rest) finish_eq)
  obtain rfl : rest = [] := List.append_left_eq_self.1 rest_eq.symm
  obtain rfl : opened? = none := (congrArg State.opened? finish_eq).symm.trans outside
  exact ⟨here, cutSteps⟩

end TemplateTags.Scanner
