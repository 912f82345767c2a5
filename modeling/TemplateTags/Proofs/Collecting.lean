import Mathlib.Data.List.Induction
import TemplateTags.Proofs.Movement

/-!
# Collecting a literal

A cursor collects a literal by passing over its characters one at a time, as long as they are those
ahead. What it passes over is a first part of the literal and of the text ahead, by
`Cursor.exists_follow`, and all of the literal if the text ahead starts with it. If not, the cursor
goes back over what it has passed. That restores all of it, the place included, by
`Cursor.Placed.rewindTo_passOver`, as going back over a character undoes going forward.
-/

namespace TemplateTags

open Text

namespace Cursor

/-- The cursor behind a text with which what is ahead of it starts. -/
def passOver (cursor : Cursor) (text : List Char) : Cursor :=
  ⟨text.reverse ++ cursor.passed, cursor.ahead.consume text⟩

variable {cursor previous : Cursor} {char : Char} {source literal : String} {text : List Char}
  {offset : Nat}

@[simp] theorem passOver_nil (cursor : Cursor) : cursor.passOver [] = cursor := rfl

theorem passOver_append (cursor : Cursor) (first second : List Char) :
    cursor.passOver (first ++ second) = (cursor.passOver first).passOver second := by
  simp [passOver, Input.consume_append]

@[simp] theorem offset_passOver (cursor : Cursor) (text : List Char) :
    (cursor.passOver text).offset = cursor.offset + byteLength text :=
  Input.offset_consume cursor.ahead text

/-- The next character behind a text is the one that follows it. -/
theorem next?_passOver (text : List Char) {rest : List Char}
    (split : cursor.ahead.rest = text ++ char :: rest) :
    (cursor.passOver text).next? = some (char, cursor.passOver (text ++ [char])) := by
  refine next?_eq_some_iff.2 ⟨rest, Input.rest_consume split, ?_⟩
  rw [passOver_append]
  rfl

/-- A cursor that passes over text ahead of it still knows its place. -/
theorem Placed.passOver (placed : cursor.Placed source) (start : text <+: cursor.ahead.rest) :
    (cursor.passOver text).Placed source := by
  rw [Placed, Cursor.passOver, List.reverse_append, List.reverse_reverse]
  exact Input.Follows.consume placed start

/-! ## Along a literal and back -/

/-- Along a literal the cursor passes over a first part of it that is ahead, and over all of it if
all of it is ahead. -/
theorem exists_follow (cursor : Cursor) (literal : List Char) :
    ∃ text, cursor.follow literal = (text, cursor.passOver text) ∧ text <+: literal ∧
      text <+: cursor.ahead.rest ∧ (literal <+: cursor.ahead.rest → text = literal) := by
  induction literal generalizing cursor with
  | nil => exact ⟨[], rfl, List.nil_prefix, List.nil_prefix, fun _ => rfl⟩
  | cons expected literal inductionHypothesis =>
    cases ahead : cursor.ahead.rest with
    | nil =>
      have stays : cursor.follow (expected :: literal) = ([], cursor) := by
        simp only [follow, next?, ahead]
      refine ⟨[], stays, List.nil_prefix, List.nil_prefix, ?_⟩
      intro start
      cases List.prefix_nil.1 start
    | cons char rest =>
      have moved : cursor.next? = some (char, cursor.passOver [char]) :=
        next?_passOver [] ahead
      by_cases same : char = expected
      case pos =>
        subst same
        obtain ⟨text, followed, inLiteral, inRest, whole⟩ :=
          inductionHypothesis (cursor.passOver [char])
        have behind : (cursor.passOver [char]).ahead.rest = rest := Input.rest_consume ahead
        rw [behind] at inRest whole
        refine ⟨char :: text, ?_, ?_, ?_, ?_⟩
        · simp only [follow, moved, if_true, followed]
          rw [← passOver_append, List.singleton_append]
        · exact List.cons_prefix_cons.2 ⟨rfl, inLiteral⟩
        · exact List.cons_prefix_cons.2 ⟨rfl, inRest⟩
        · intro start
          rw [whole (List.cons_prefix_cons.1 start).2]
      case neg =>
        have stays : cursor.follow (expected :: literal) = ([], cursor) := by
          simp only [follow, moved, if_neg same]
        refine ⟨[], stays, List.nil_prefix, List.nil_prefix, ?_⟩
        intro start
        exact absurd (List.cons_prefix_cons.1 start).1.symm same

/-- A cursor past the offset goes back over one character first. -/
theorem rewindTo_of_back? (behind : offset < cursor.offset)
    (moved : cursor.back? = some (char, previous)) :
    cursor.rewindTo offset = previous.rewindTo offset := by
  rw [rewindTo, if_pos behind]
  split <;> simp_all

/-- Going back over what was passed restores the cursor. -/
theorem Placed.rewindTo_passOver (placed : cursor.Placed source)
    (start : text <+: cursor.ahead.rest) :
    (cursor.passOver text).rewindTo cursor.offset = cursor := by
  induction text using List.reverseRecOn with
  | nil => rw [passOver_nil, rewindTo, if_neg (Nat.lt_irrefl _)]
  | append_singleton text char inductionHypothesis =>
    have before : text <+: cursor.ahead.rest := (List.prefix_append ..).trans start
    obtain ⟨rest, split⟩ := start
    rw [List.append_assoc, List.singleton_append] at split
    have moved := next?_passOver text split.symm
    have further : cursor.offset < (cursor.passOver (text ++ [char])).offset := by
      have := char.utf8Size_pos
      simp only [offset_passOver, byteLength_append, byteLength_cons, byteLength_nil]
      omega
    rw [rewindTo_of_back? further ((placed.passOver before).back?_of_next? moved),
      inductionHypothesis before]

/-! ## The literal ahead -/

theorem startsWith_iff :
    cursor.startsWith literal ↔ literal.toList <+: cursor.ahead.rest :=
  List.isPrefixOf_iff_prefix

/-- Whether a literal is ahead can as well be told from bytes. -/
theorem startsWith_iff_bytes :
    cursor.startsWith literal ↔
      ∃ behind, literal.toByteArray ++ behind = cursor.rest.toByteArray := by
  rw [startsWith_iff]
  constructor
  · rintro ⟨behind, split⟩
    refine ⟨(String.ofList behind).toByteArray, ?_⟩
    rw [rest, ← split, String.ofList_append, String.ofList_toList, String.toByteArray_append]
  · rintro ⟨behind, split⟩
    refine List.isPrefix_of_utf8Encode_append_eq_utf8Encode behind ?_
    rw [String.utf8Encode_toList, split, rest, String.toByteArray_ofList]

/-- A literal that is ahead is collected, and passed over. -/
theorem collect_of_startsWith (ahead : cursor.startsWith literal) :
    cursor.collect literal = (some literal, cursor.passOver literal.toList) := by
  obtain ⟨text, followed, -, -, whole⟩ := cursor.exists_follow literal.toList
  obtain rfl := whole (startsWith_iff.1 ahead)
  simp only [collect, followed, String.length_toList, if_true, String.ofList_toList]

/-- A literal that is not ahead is not collected. Whatever part of it was followed is gone back
over, so the cursor is where it was. -/
theorem Placed.collect_of_not_startsWith (placed : cursor.Placed source)
    (notAhead : cursor.startsWith literal = false) : cursor.collect literal = (none, cursor) := by
  obtain ⟨text, followed, inLiteral, inRest, -⟩ := cursor.exists_follow literal.toList
  -- Had it passed over as many characters as the literal has, all of the literal would be ahead.
  have short : text.length ≠ literal.length := by
    intro sameLength
    have whole := inLiteral.eq_of_length (sameLength.trans literal.length_toList.symm)
    rw [whole, ← startsWith_iff, notAhead] at inRest
    cases inRest
  simp only [collect, followed, if_neg short, placed.rewindTo_passOver inRest]

end Cursor

/-- Wherever moves take a cursor, it collects a literal exactly if the literal is ahead, be it told
from characters or from bytes. Then it stands behind the literal and knows its place there.
Otherwise it is as it was. -/
theorem collect_of_moves (source : String) (moves : List Cursor.Move) (literal : String) :
    let cursor := moves.foldl Cursor.move (Cursor.ofString source)
    (cursor.startsWith literal ↔
        ∃ behind, literal.toByteArray ++ behind = cursor.rest.toByteArray) ∧
      ((cursor.collect literal).1 = some literal ↔ cursor.startsWith literal) ∧
      (cursor.startsWith literal →
        (cursor.collect literal).2.offset = cursor.offset + literal.utf8ByteSize ∧
          (cursor.collect literal).2.Located source) ∧
      (cursor.startsWith literal = false → cursor.collect literal = (none, cursor)) := by
  intro cursor
  have placed : cursor.Placed source :=
    (Cursor.placed_ofString source).of_walk ((Cursor.ofString source).walk_moves moves)
  refine ⟨Cursor.startsWith_iff_bytes, ⟨?ahead, ?taken⟩, ?passed, ?unmoved⟩
  case ahead =>
    intro taken
    by_contra notAhead
    rw [placed.collect_of_not_startsWith (Bool.eq_false_iff.2 notAhead)] at taken
    cases taken
  case taken =>
    intro ahead
    rw [Cursor.collect_of_startsWith ahead]
  case passed =>
    intro ahead
    rw [Cursor.collect_of_startsWith ahead, Cursor.offset_passOver, byteLength_toList]
    exact ⟨rfl, (placed.passOver (Cursor.startsWith_iff.1 ahead)).located⟩
  case unmoved => exact placed.collect_of_not_startsWith

/-- Behind the first letter, a literal of which the last character is not there, with a character of
two bytes and a newline before it; and the literal without its last character. -/
theorem collect_of_moves_partial :
    let cursor : Cursor := ⟨['a'], ⟨⟨1, 1, 2⟩, ['é', '\n', 'b']⟩⟩
    let reached : Cursor := ⟨['\n', 'é', 'a'], ⟨⟨4, 2, 1⟩, ['b']⟩⟩
    [.collect "ab", .forward].foldl Cursor.move (Cursor.ofString "aé\nb") = cursor ∧
      cursor.startsWith "é\nc" = false ∧ cursor.collect "é\nc" = (none, cursor) ∧
      cursor.startsWith "é\n" ∧ cursor.collect "é\n" = (some "é\n", reached) ∧
      reached.offset = cursor.offset + "é\n".utf8ByteSize ∧ reached.Located "aé\nb" := by
  intro cursor reached
  have start : [.collect "ab", .forward].foldl Cursor.move (Cursor.ofString "aé\nb") = cursor := by
    decide +kernel
  have notAhead : cursor.startsWith "é\nc" = false := by
    decide +kernel
  have ahead : cursor.startsWith "é\n" := by
    decide +kernel
  have collected : cursor.collect "é\n" = (some "é\n", reached) := by
    decide +kernel
  have missing := collect_of_moves "aé\nb" [.collect "ab", .forward] "é\nc"
  have present := collect_of_moves "aé\nb" [.collect "ab", .forward] "é\n"
  rw [start] at missing present
  obtain ⟨-, -, -, unmoved⟩ := missing
  obtain ⟨-, -, passed, -⟩ := present
  rw [collected] at passed
  exact ⟨start, notAhead, unmoved notAhead, ahead, collected, passed ahead⟩

end TemplateTags
