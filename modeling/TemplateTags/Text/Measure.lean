/-!
# Measures of a text

How many bytes a text takes, and what stands on its last line. `lastLine_append_newline` and
`lastLine_of_not_mem` together determine the last line of every text.
-/

namespace TemplateTags.Text

/-- How many bytes the characters take in UTF-8. -/
def byteLength : (text : List Char) → Nat
  | [] => 0
  | char :: text => char.utf8Size + byteLength text

@[simp] theorem byteLength_nil : byteLength [] = 0 := rfl

@[simp] theorem byteLength_cons (char : Char) (text : List Char) :
    byteLength (char :: text) = char.utf8Size + byteLength text := rfl

/-- The bytes of two texts add up. -/
@[simp] theorem byteLength_append (first second : List Char) :
    byteLength (first ++ second) = byteLength first + byteLength second := by
  induction first with
  | nil => simp
  | cons char first inductionHypothesis =>
    rw [List.cons_append, byteLength_cons, inductionHypothesis, byteLength_cons, Nat.add_assoc]

/-- A string takes the bytes of its characters. -/
@[simp] theorem utf8ByteSize_ofList (text : List Char) :
    (String.ofList text).utf8ByteSize = byteLength text := by
  induction text with
  | nil => rfl
  | cons char text inductionHypothesis =>
    rw [show char :: text = [char] ++ text from rfl, String.ofList_append,
      String.utf8ByteSize_append, inductionHypothesis, byteLength_append,
      ← String.singleton_eq_ofList, String.utf8ByteSize_singleton]
    simp

theorem byteLength_toList (text : String) : byteLength text.toList = text.utf8ByteSize := by
  rw [← utf8ByteSize_ofList, String.ofList_toList]

/-- Every character takes a byte at least. -/
theorem length_le_byteLength (text : List Char) : text.length ≤ byteLength text := by
  induction text with
  | nil => simp
  | cons char text inductionHypothesis =>
    have := char.utf8Size_pos
    simp only [List.length_cons, byteLength_cons]
    omega

theorem byteLength_pos {text : List Char} (notEmpty : text ≠ []) : 0 < byteLength text :=
  Nat.lt_of_lt_of_le (List.length_pos_iff.2 notEmpty) (length_le_byteLength text)

/-- The characters after the last newline of a text, all of it if there is none. -/
def lastLine (text : List Char) : List Char :=
  (text.reverse.takeWhile (· ≠ '\n')).reverse

/-- A text without newlines is its own last line. -/
theorem lastLine_of_not_mem {text : List Char} (oneLine : '\n' ∉ text) :
    lastLine text = text := by
  have all : ∀ char ∈ text.reverse, (char ≠ '\n' : Bool) := by
    intro char member
    rw [List.mem_reverse] at member
    simp only [decide_eq_true_eq]
    rintro rfl
    exact oneLine member
  rw [lastLine, ← List.append_nil text.reverse, List.takeWhile_append_of_pos all]
  simp

/-- The last line of a text with a newline is that of what follows the newline. -/
theorem lastLine_append_newline (before after : List Char) :
    lastLine (before ++ '\n' :: after) = lastLine after := by
  have shape : (before ++ '\n' :: after).reverse = after.reverse ++ '\n' :: before.reverse := by
    simp
  rw [lastLine, shape, List.takeWhile_append]
  split <;> rename_i whole
  · rw [lastLine, (List.takeWhile_prefix _).eq_of_length whole]
    simp
  · rfl

end TemplateTags.Text
