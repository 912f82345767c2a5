import Mathlib.Logic.Relation
import TemplateTags.Cursor
import TemplateTags.Proofs.Progress

/-!
# Moving a cursor

A cursor moves over single characters in both directions. It keeps its place on the way forward, and
on the way back over a newline it finds its column anew. Here that place is compared with the text
before the cursor. `Cursor.Placed` is the invariant, and passing over a character keeps it in both
directions. Every other move is a walk over single characters, by `Cursor.walk_move`, the ones that
go forward and back again included; so every move keeps it.
-/

namespace TemplateTags

open Text

namespace Cursor

/-- A way to move a cursor. -/
inductive Move where
  | forward
  | backward
  /-- Over a literal, if it is there. -/
  | collect (literal : String)
  /-- Over characters as long as a condition holds. -/
  | collectWhile (keeps : Cursor → Char → Bool)

/-- The cursor after a move. Where there is no character to pass over it stays. -/
def move (cursor : Cursor) : Move → Cursor
  | .forward => (cursor.next?.map Prod.snd).getD cursor
  | .backward => (cursor.back?.map Prod.snd).getD cursor
  | .collect literal => (cursor.collect literal).2
  | .collectWhile keeps => (cursor.collectWhile keeps).2

variable {cursor next previous finish : Cursor} {char : Char} {source : String}

/-- A step forward takes the next character over. -/
theorem next?_eq_some_iff :
    cursor.next? = some (char, next) ↔
      ∃ rest, cursor.ahead.rest = char :: rest ∧
        next = ⟨char :: cursor.passed, cursor.ahead.consume [char]⟩ := by
  unfold next?
  split <;> simp_all [eq_comm]

/-- A step back gives the last character back, and its place is found from the characters before
it. -/
theorem back?_eq_some_iff :
    cursor.back? = some (char, previous) ↔
      ∃ passed, cursor.passed = char :: passed ∧
        previous =
          ⟨passed, ⟨placeBefore cursor.ahead.here char passed, char :: cursor.ahead.rest⟩⟩ := by
  unfold back?
  split <;> simp_all [eq_comm]

/-! ## Walks over single characters -/

/-- A cursor is one character before or behind another. -/
def Beside (cursor other : Cursor) : Prop :=
  ∃ char, cursor.next? = some (char, other) ∨ cursor.back? = some (char, other)

/-- A cursor is reached from another over single characters. -/
abbrev Walk : Cursor → Cursor → Prop :=
  Relation.ReflTransGen Beside

/-- Following a literal steps forward over what agrees with it. -/
theorem walk_follow (cursor : Cursor) (literal : List Char) :
    cursor.Walk (cursor.follow literal).2 := by
  induction literal generalizing cursor with
  | nil => exact .refl
  | cons expected literal inductionHypothesis =>
    cases moved : cursor.next? with
    | none =>
      simp only [follow, moved]
      exact .refl
    | some step =>
      obtain ⟨char, next⟩ := step
      by_cases same : char = expected
      · simp only [follow, moved, same, if_true]
        exact .head ⟨char, .inl moved⟩ (inductionHypothesis next)
      · simp only [follow, moved, same, if_false]
        exact .refl

/-- Going back to an offset takes steps back. -/
theorem walk_rewindTo (offset : Nat) (cursor : Cursor) : cursor.Walk (cursor.rewindTo offset) := by
  fun_induction rewindTo offset cursor with
  | case1 => exact .refl
  | case2 _ _ char _ moved inductionHypothesis => exact .head ⟨char, .inr moved⟩ inductionHypothesis
  | case3 => exact .refl

/-- Collecting a literal steps forward over it, and back again where it fails. -/
theorem walk_collect (cursor : Cursor) (literal : String) :
    cursor.Walk (cursor.collect literal).2 := by
  have walked := cursor.walk_follow literal.toList
  cases followed : cursor.follow literal.toList with
  | mk text reached =>
    rw [followed] at walked
    simp only [collect, followed]
    split
    · exact walked
    · exact walked.trans (walk_rewindTo cursor.offset reached)

/-- Collecting characters takes steps forward. -/
theorem walk_collectWhile (keeps : Cursor → Char → Bool) (cursor : Cursor) :
    cursor.Walk (cursor.collectWhile keeps).2 := by
  fun_induction collectWhile keeps cursor with
  | case1 => exact .refl
  | case2 _ char _ moved _ _ _ collected inductionHypothesis =>
    rw [collected] at inductionHypothesis
    exact .head ⟨char, .inl moved⟩ inductionHypothesis
  | case3 => exact .refl

/-- Whatever a move does, it passes over single characters. -/
theorem walk_move (cursor : Cursor) (move : Move) : cursor.Walk (cursor.move move) := by
  cases move with
  | forward =>
    cases moved : cursor.next? with
    | none => simp [Cursor.move, moved, Relation.ReflTransGen.refl]
    | some step => simpa [Cursor.move, moved] using .single ⟨step.1, .inl moved⟩
  | backward =>
    cases moved : cursor.back? with
    | none => simp [Cursor.move, moved, Relation.ReflTransGen.refl]
    | some step => simpa [Cursor.move, moved] using .single ⟨step.1, .inr moved⟩
  | collect literal => exact cursor.walk_collect literal
  | collectWhile keeps => exact walk_collectWhile keeps cursor

/-- Whatever a cursor is told to do, it takes steps forward and back. -/
theorem walk_moves (cursor : Cursor) (moves : List Move) :
    cursor.Walk (moves.foldl Cursor.move cursor) := by
  induction moves generalizing cursor with
  | nil => exact .refl
  | cons move moves inductionHypothesis =>
    exact (cursor.walk_move move).trans (inductionHypothesis (cursor.move move))

/-! ## Places on a walk -/

/-- The cursor stands in the source and knows its place. -/
def Placed (source : String) (cursor : Cursor) : Prop :=
  cursor.ahead.Follows source cursor.passed.reverse

theorem placed_ofString (source : String) : Placed source (ofString source) :=
  Input.follows_ofString source

/-- The cursor is at the place after the character before it. -/
theorem Placed.here_eq (placed : cursor.Placed source) {passed : List Char}
    (behind : cursor.passed = char :: passed) :
    cursor.ahead.here = (Location.first.after passed.reverse).advance char := by
  have here := placed.here
  rw [behind, List.reverse_cons, Location.after_append] at here
  exact here

/-- Going back over a character finds the place before it. -/
theorem placeBefore_advance (char : Char) (passed : List Char) :
    placeBefore ((Location.first.after passed.reverse).advance char) char passed =
      Location.first.after passed.reverse := by
  have lastLine_eq : (lastLine passed.reverse).length = (passed.takeWhile (· ≠ '\n')).length := by
    rw [lastLine, List.reverse_reverse, List.length_reverse]
  rw [Location.after_first, lastLine_eq]
  by_cases newline : char = '\n' <;> simp [placeBefore, Location.advance, newline]

/-- A cursor that steps forward still knows its place. -/
theorem Placed.forward (placed : cursor.Placed source)
    (moved : cursor.next? = some (char, next)) : next.Placed source := by
  obtain ⟨rest, ahead, rfl⟩ := next?_eq_some_iff.1 moved
  have start : [char] <+: cursor.ahead.rest := ⟨rest, ahead.symm⟩
  have follows := Input.Follows.consume placed start
  rwa [← List.reverse_cons] at follows

/-- A cursor that steps back still knows its place. -/
theorem Placed.backward (placed : cursor.Placed source)
    (moved : cursor.back? = some (char, previous)) : previous.Placed source := by
  obtain ⟨passed, behind, rfl⟩ := back?_eq_some_iff.1 moved
  constructor
  · rw [placed.text, behind, List.reverse_cons, List.append_assoc]
    rfl
  · rw [placed.here_eq behind]
    exact placeBefore_advance char passed

/-- However a cursor walks, it still knows its place. Each step of the walk keeps it so. -/
theorem Placed.of_walk (placed : cursor.Placed source) (walk : cursor.Walk finish) :
    finish.Placed source := by
  induction walk with
  | refl => exact placed
  | tail _ beside inductionHypothesis =>
    obtain ⟨char, forward | backward⟩ := beside
    · exact inductionHypothesis.forward forward
    · exact inductionHypothesis.backward backward

/-- Going back undoes going forward. -/
theorem Placed.back?_of_next? (placed : cursor.Placed source)
    (moved : cursor.next? = some (char, next)) : next.back? = some (char, cursor) := by
  obtain ⟨rest, ahead, rfl⟩ := next?_eq_some_iff.1 moved
  refine back?_eq_some_iff.2 ⟨cursor.passed, rfl, ?_⟩
  obtain ⟨passed, ⟨here, _⟩⟩ := cursor
  obtain rfl : _ = char :: rest := ahead
  obtain rfl : here = Location.first.after passed.reverse := placed.here
  simp only [Input.consume, Location.after_cons, Location.after_nil, placeBefore_advance]
  rfl

/-- Going forward undoes going back. -/
theorem Placed.next?_of_back? (placed : cursor.Placed source)
    (moved : cursor.back? = some (char, previous)) : previous.next? = some (char, cursor) := by
  obtain ⟨passed, behind, rfl⟩ := back?_eq_some_iff.1 moved
  refine next?_eq_some_iff.2 ⟨cursor.ahead.rest, rfl, ?_⟩
  have here := placed.here_eq behind
  obtain ⟨_, ⟨_, rest⟩⟩ := cursor
  obtain rfl : _ = char :: passed := behind
  obtain rfl : _ = (Location.first.after passed.reverse).advance char := here
  simp only [Input.consume, Location.after_cons, Location.after_nil, placeBefore_advance]
  rfl

/-! ## Places of a cursor -/

/-- The cursor stands between two characters of the source, or at one of its ends. Its line and its
column are those of the text before it: one more than its newlines, and the characters of its last
line. -/
structure Located (source : String) (cursor : Cursor) : Prop where
  whole : cursor.source = source
  boundary : IsBoundary source cursor.offset
  inside : cursor.offset ≤ source.utf8ByteSize
  counted : ∃ before, slice? source 0 cursor.offset = some before ∧
    cursor.line = 1 + before.toList.count '\n' ∧
      cursor.column = (lastLine before.toList).length

/-- There is enough to go back over a character: its bytes, and a line or a column before. -/
structure Backs (cursor : Cursor) (char : Char) : Prop where
  offset : char.utf8Size ≤ cursor.offset
  line : char = '\n' → 1 < cursor.line
  column : char ≠ '\n' → 0 < cursor.column

/-- A cursor that knows its place stands on a boundary, and its line and column are counted. -/
theorem Placed.located (placed : cursor.Placed source) : cursor.Located source where
  whole := by rw [Cursor.source, ← placed.text, String.ofList_toList]
  boundary := placed.isBoundary
  inside := placed.offset_le
  counted := by
    obtain ⟨before, cut, line, column⟩ := Input.Follows.located placed cursor.offset
    refine ⟨before, cut, line, ?_⟩
    rw [Cursor.column, show cursor.ahead.here.column = _ from column, Nat.add_sub_cancel_left]

/-- A cursor that knows its place can go back over the character behind it, as it came here over
that character. -/
theorem Placed.backs (placed : cursor.Placed source) (behind : cursor.previous? = some char) :
    cursor.Backs char := by
  obtain ⟨passed, passed_eq⟩ := List.head?_eq_some_iff.1 behind
  have here := placed.here_eq passed_eq
  rw [Location.after_first] at here
  constructor
  · rw [offset, here, Location.offset_advance]
    exact Nat.le_add_left ..
  · rintro rfl
    simp [line, here, Location.advance, Nat.add_comm 1]
  · intro noNewline
    simp [column, here, Location.advance, noNewline, Nat.add_comm 1]

end Cursor

/-- Wherever moves take a cursor, it stands in the source and knows its place. So it can go back
over the character before it, and going back and going forward undo each other. -/
theorem located_of_moves (source : String) (moves : List Cursor.Move) :
    let cursor := moves.foldl Cursor.move (Cursor.ofString source)
    cursor.Located source ∧
      (∀ char, cursor.previous? = some char → cursor.Backs char) ∧
      (∀ char next, cursor.next? = some (char, next) → next.back? = some (char, cursor)) ∧
      ∀ char previous, cursor.back? = some (char, previous) →
        previous.next? = some (char, cursor) := by
  intro cursor
  have walk := (Cursor.ofString source).walk_moves moves
  have placed : cursor.Placed source := (Cursor.placed_ofString source).of_walk walk
  refine ⟨placed.located, ?_, ?_, ?_⟩
  · exact fun char behind => placed.backs behind
  · exact fun char next moved => placed.back?_of_next? moved
  · exact fun char previous moved => placed.next?_of_back? moved

/-- Over a newline and a literal that is there only in part, and back over the newline. -/
theorem located_of_moves_rewound :
    let cursor : Cursor := ⟨['é'], ⟨⟨2, 1, 2⟩, ['\n', 'a', 'b']⟩⟩
    let next : Cursor := ⟨['\n', 'é'], ⟨⟨3, 2, 1⟩, ['a', 'b']⟩⟩
    [.forward, .forward, .collect "ax", .backward].foldl Cursor.move (Cursor.ofString "é\nab") =
        cursor ∧
      cursor.Located "é\nab" ∧ cursor.Backs 'é' ∧
      cursor.next? = some ('\n', next) ∧ next.back? = some ('\n', cursor) ∧
      ∃ previous, cursor.back? = some ('é', previous) ∧
        previous.next? = some ('é', cursor) := by
  intro cursor next
  have reached : [.forward, .forward, .collect "ax", .backward].foldl Cursor.move
      (Cursor.ofString "é\nab") = cursor := by
    decide +kernel
  have sound := located_of_moves "é\nab" [.forward, .forward, .collect "ax", .backward]
  rw [reached] at sound
  obtain ⟨located, backs, forth, back⟩ := sound
  exact ⟨reached, located, backs 'é' rfl, rfl, forth '\n' next rfl, _, rfl, back 'é' _ rfl⟩

end TemplateTags
