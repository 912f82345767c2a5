import TemplateTags.Text.Measure

/-!
# Places in a text

A `Location` points at a character: its byte offset, its line and its column, the latter two
counted from 1 and the column in characters. A `Span` is the place of a piece of text: where its
first character is, and the byte offset at which it stops.

`Location.after_first` says what walking over a text from its start amounts to, without walking:
the offset counts its bytes, the line its newlines, the column the characters after the last one.
-/

namespace TemplateTags

open Text

/-- Where a character stands in a text. -/
structure Location where
  offset : Nat
  line : Nat
  column : Nat
  deriving Repr, DecidableEq, Inhabited

/-- A piece of a text: the place of its first character and the offset at which it stops. -/
structure Span where
  start : Nat
  stop : Nat
  line : Nat
  column : Nat
  deriving Repr, DecidableEq, Inhabited

namespace Span

/-- How many bytes the span covers. -/
def length (span : Span) : Nat :=
  span.stop - span.start

/-- Whether the span covers nothing. -/
def isEmpty (span : Span) : Bool :=
  span.start == span.stop

end Span

namespace Location

/-- The first character of a text. -/
def first : Location :=
  ⟨0, 1, 1⟩

/-- The place after a character: a newline starts the next line. -/
def advance (here : Location) (char : Char) : Location :=
  if char = '\n' then
    ⟨here.offset + char.utf8Size, here.line + 1, 1⟩
  else
    ⟨here.offset + char.utf8Size, here.line, here.column + 1⟩

/-- The place after a text. -/
def after (here : Location) (text : List Char) : Location :=
  text.foldl advance here

/-- The span from one place up to an offset. -/
def spanTo (here : Location) (stop : Nat) : Span :=
  ⟨here.offset, stop, here.line, here.column⟩

@[simp] theorem after_nil (here : Location) : here.after [] = here := rfl

@[simp] theorem after_cons (here : Location) (char : Char) (text : List Char) :
    here.after (char :: text) = (here.advance char).after text := rfl

@[simp] theorem after_append (here : Location) (first second : List Char) :
    here.after (first ++ second) = (here.after first).after second := by
  simp [after]

/-- A character moves the offset by its bytes, be it a newline or not. -/
@[simp] theorem offset_advance (here : Location) (char : Char) :
    (here.advance char).offset = here.offset + char.utf8Size := by
  unfold advance
  split <;> rfl

/-- A text moves the offset by its bytes. -/
@[simp] theorem offset_after (here : Location) (text : List Char) :
    (here.after text).offset = here.offset + byteLength text := by
  induction text generalizing here with
  | nil => simp
  | cons char text inductionHypothesis => simp [inductionHypothesis, Nat.add_assoc]

/-- A text moves the line by its newlines. -/
@[simp] theorem line_after (here : Location) (text : List Char) :
    (here.after text).line = here.line + text.count '\n' := by
  induction text generalizing here with
  | nil => simp
  | cons char text inductionHypothesis =>
    rw [after_cons, inductionHypothesis, advance]
    by_cases newline : char = '\n'
    · simp only [newline, if_true, List.count_cons_self]
      omega
    · simp only [newline, if_false, ne_eq, not_false_eq_true, List.count_cons_of_ne]

/-- The column counts on from the place before the text if that is a single line, and else from the
beginning of its last line. -/
theorem column_after (here : Location) (text : List Char) :
    (here.after text).column =
      if '\n' ∈ text then 1 + (lastLine text).length else here.column + text.length := by
  induction text generalizing here with
  | nil => simp
  | cons char text inductionHypothesis =>
    rw [after_cons, inductionHypothesis]
    by_cases more : '\n' ∈ text
    · obtain ⟨before, after, rfl⟩ := List.append_of_mem more
      rw [if_pos more, if_pos (List.mem_cons_of_mem char more), lastLine_append_newline,
        ← List.cons_append, lastLine_append_newline]
    · by_cases newline : char = '\n'
      · subst newline
        have := lastLine_append_newline [] text
        simp_all [advance, lastLine_of_not_mem]
      · have : '\n' ≠ char := fun same => newline same.symm
        simp only [more, newline, advance, List.mem_cons, this, or_self, if_false,
          List.length_cons]
        omega

/-- The walk over a text from its first character arrives where counting says. -/
theorem after_first (text : List Char) :
    first.after text = ⟨byteLength text, 1 + text.count '\n', 1 + (lastLine text).length⟩ := by
  have column : (first.after text).column = 1 + (lastLine text).length := by
    rw [column_after]
    split
    · rfl
    · rw [lastLine_of_not_mem ‹_›]; rfl
  cases arrived : first.after text with
  | mk offset line column' =>
    have offset_eq := offset_after first text
    have line_eq := line_after first text
    simp only [arrived] at offset_eq line_eq column
    simp [offset_eq, line_eq, column, first]

end Location

end TemplateTags
