import TemplateTags.Proofs.Lookahead
import TemplateTags.Proofs.Places
import TemplateTags.Proofs.Shift

/-!
# Templates one after the other

A template that ends with a tag is scanned the same way whatever follows it, and what follows it is
scanned as if it stood alone. So the outcome of a scan of two such texts in a row is put together
from their outcomes, by `tokenize_append`.
-/

namespace TemplateTags

open Text

namespace Scanner

variable {scanner : Scanner} {outerText : OuterText} {source : String} {tokens : List Token}
  {state next : State} {token : Token}

/-- A scan that finishes stands behind all of the source, outside every tag. -/
theorem Placed.eq_of_finished (placed : Placed source tokens state)
    (rule : scanner.Rule state .finished) :
    state = ⟨⟨Location.first.after source.toList, []⟩, none⟩ := by
  obtain ⟨passed, text, here⟩ := placed.follows
  cases rule
  rw [List.append_nil] at text
  rw [text]
  exact congrArg (fun here => (⟨⟨here, []⟩, none⟩ : State)) here

/-- A token that leaves no tag open closes one, so the text is long enough for that. -/
theorem Rule.two_le_of_emitted (rule : (usual outerText).Rule state (.emitted token next))
    (closed : next.opened? = none) : 2 ≤ state.input.rest.length := by
  cases rule with
  | opens => cases closed
  | closes kept => exact givesUp_usual_eq_false_iff.1 kept
  | lexeme => cases closed

/-- Where a run stands behind its last token, or has not begun, it goes the same way with more text
at the end. -/
theorem Steps.extend_of_closed {count : Nat}
    (steps : (usual outerText).Steps (.initial source) count tokens state)
    (outside : state.opened? = none)
    (closed : state = .initial source ∨
      ∃ last ∈ tokens.getLast?, last.span.stop = state.input.here.offset) (text : List Char) :
    (usual outerText).Steps ((State.initial source).extend text) count tokens
      (state.extend text) := by
  cases steps with
  | refl => exact .refl
  | @skipped count _ before _ prior skips =>
    -- The character that was passed over last lies behind the last token.
    have placed := placed_of_steps prior
    have rule := rule_of_step_eq skips
    obtain ⟨char, rest, split, rfl⟩ := rule.skips
    have positive := char.utf8Size_pos
    rcases closed with notBegun | ⟨last, isLast, stops⟩
    · have offset := congrArg (·.input.here.offset) notBegun
      simp [State.initial, Input.ofString, Location.first] at offset
      omega
    · have behind := placed.behind last (List.mem_of_getLast? isLast)
      simp only [Input.offset_consume, byteLength_cons, byteLength_nil] at stops
      omega
  | @emitted count tokens before token _ prior emits =>
    have rule := rule_of_step_eq emits
    exact .emitted (prior.extend (rule.two_le_of_emitted outside) text)
      (rule.emitted_extend (.inl outside) text).step_eq

/-- The outcome of a scan of a template that ends with a tag, with another template behind it. -/
theorem tokens_append (scanned : (usual outerText).tokens source = .ok tokens)
    (closed : source = "" ∨ ∃ last ∈ tokens.getLast?, last.span.stop = source.utf8ByteSize)
    (behind : String) :
    (usual outerText).tokens (source ++ behind) =
      (shiftOutcome source.toList ((usual outerText).tokens behind)).map (tokens ++ ·) := by
  obtain ⟨count, finish, steps, finishes⟩ := tokensFrom_eq_ok_iff.1 scanned
  have rule := rule_of_step_eq finishes
  obtain rfl := (placed_of_steps steps).eq_of_finished rule
  have extended := steps.extend_of_closed rfl (closed.imp ?_ ?_) behind.toList
  · rw [Scanner.tokens, State.initial_append, tokensFrom_of_steps extended]
    exact congrArg _ (tokensFrom_behind _ _ _)
  · rintro rfl
    rfl
  · rintro ⟨last, isLast, stops⟩
    refine ⟨last, isLast, ?_⟩
    rw [stops, Location.after_first, byteLength_toList]

end Scanner

/-- A template that is empty or ends with a tag, with another template behind it, has the tokens of
both, or the error of the second; places in the second are shifted behind the first. -/
theorem tokenize_append {first : String} {tokens : List Token}
    (scanned : tokenize first = .ok tokens)
    (closed : first = "" ∨ ∃ last ∈ tokens.getLast?, last.span.stop = first.utf8ByteSize)
    (second : String) :
    tokenize (first ++ second) =
      (shiftOutcome first.toList (tokenize second)).map (tokens ++ ·) :=
  Scanner.tokens_append scanned closed second

/-- A first template that ends on its second line, with a tag on that line behind it and with a
fault on the next one. -/
theorem tokenize_append_second_line :
    tokenize ("a\n\x7b\x7bb\x7d\x7d" ++ "c\x7b# #\x7d") =
        .ok [⟨.opening .var, "\x7b\x7b", ⟨2, 4, 2, 1⟩⟩, ⟨.symbol, "b", ⟨4, 5, 2, 3⟩⟩,
          ⟨.closing .var, "\x7d\x7d", ⟨5, 7, 2, 4⟩⟩,
          ⟨.opening .comment, "\x7b#", ⟨8, 10, 2, 7⟩⟩,
          ⟨.closing .comment, "#\x7d", ⟨11, 13, 2, 10⟩⟩] ∧
      tokenize ("a\n\x7b\x7bb\x7d\x7d" ++ "\n#\x7d") =
        .error ⟨.unmatchedClose ⟨.closing .comment, "#\x7d", ⟨8, 10, 3, 1⟩⟩, ⟨8, 10, 3, 1⟩⟩ := by
  let last : Token := ⟨.closing .var, "\x7d\x7d", ⟨5, 7, 2, 4⟩⟩
  have scanned : tokenize "a\n\x7b\x7bb\x7d\x7d" =
      .ok [⟨.opening .var, "\x7b\x7b", ⟨2, 4, 2, 1⟩⟩, ⟨.symbol, "b", ⟨4, 5, 2, 3⟩⟩, last] := by
    decide +kernel
  have closed : "a\n\x7b\x7bb\x7d\x7d" = "" ∨ ∃ token ∈ some last,
      token.span.stop = "a\n\x7b\x7bb\x7d\x7d".utf8ByteSize :=
    .inr ⟨last, rfl, rfl⟩
  constructor
  · rw [tokenize_append scanned closed]
    decide +kernel
  · rw [tokenize_append scanned closed]
    decide +kernel

end TemplateTags
