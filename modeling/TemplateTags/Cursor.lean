import TemplateTags.Input

/-!
# Cursors

A cursor moves over a text in both directions and knows its line and column wherever it goes.
Going back over a newline, it finds its column by counting the characters since the newline
before. Its column is the number of characters passed on its line, so it is 0 at the start of a
line.
-/

namespace TemplateTags

/-- A place between two characters of a text. -/
structure Cursor where
  /-- The characters before the cursor, nearest first. -/
  passed : List Char
  /-- The text after the cursor. -/
  ahead : Input
  deriving Repr, DecidableEq, Inhabited

namespace Cursor

/-- The cursor before the first character of a text. -/
def ofString (source : String) : Cursor :=
  ⟨[], .ofString source⟩

/-- The whole text. -/
def source (cursor : Cursor) : String :=
  String.ofList (cursor.passed.reverse ++ cursor.ahead.rest)

/-- The text after the cursor. -/
def rest (cursor : Cursor) : String :=
  String.ofList cursor.ahead.rest

/-- The byte offset of the cursor. -/
def offset (cursor : Cursor) : Nat :=
  cursor.ahead.here.offset

/-- The line that the cursor is on. -/
def line (cursor : Cursor) : Nat :=
  cursor.ahead.here.line

/-- The number of characters before the cursor on its line. -/
def column (cursor : Cursor) : Nat :=
  cursor.ahead.here.column - 1

/-- Whether the cursor is behind the last character. -/
def atEnd (cursor : Cursor) : Bool :=
  cursor.ahead.rest.isEmpty

/-- The character after the cursor. -/
def current? (cursor : Cursor) : Option Char :=
  cursor.ahead.rest.head?

/-- The character before the cursor. -/
def previous? (cursor : Cursor) : Option Char :=
  cursor.passed.head?

/-- The place of the character after the cursor. -/
def mark (cursor : Cursor) : Location :=
  cursor.ahead.here

/-- The span from a mark up to the cursor. -/
def spanFrom (cursor : Cursor) (mark : Location) : Span :=
  mark.spanTo cursor.offset

/-- Whether fewer than `count` characters are after the cursor. -/
def fewerThan (cursor : Cursor) (count : Nat) : Bool :=
  cursor.ahead.fewerThan count

/-- Whether the text after the cursor starts with a literal. -/
def startsWith (cursor : Cursor) (literal : String) : Bool :=
  literal.toList.isPrefixOf cursor.ahead.rest

/-- Passes over the next character. -/
def next? (cursor : Cursor) : Option (Char × Cursor) :=
  match cursor.ahead.rest with
  | [] => none
  | char :: _ => some (char, ⟨char :: cursor.passed, cursor.ahead.consume [char]⟩)

/-- The place of a character, from the place after it and the characters before it. -/
def placeBefore (here : Location) (char : Char) (passed : List Char) : Location :=
  if char = '\n' then
    ⟨here.offset - char.utf8Size, here.line - 1, 1 + (passed.takeWhile (· ≠ '\n')).length⟩
  else
    ⟨here.offset - char.utf8Size, here.line, here.column - 1⟩

/-- Goes back over the character before the cursor. -/
def back? (cursor : Cursor) : Option (Char × Cursor) :=
  match cursor.passed with
  | [] => none
  | char :: passed =>
    let here := placeBefore cursor.ahead.here char passed
    some (char, ⟨passed, ⟨here, char :: cursor.ahead.rest⟩⟩)

/-- A step forward leaves less text ahead. -/
theorem length_rest_of_next? {cursor next : Cursor} {char : Char}
    (moved : cursor.next? = some (char, next)) :
    next.ahead.rest.length < cursor.ahead.rest.length := by
  unfold next? at moved
  split at moved
  · cases moved
  · rename_i rest ahead
    cases moved
    simp [Input.consume, ahead]

/-- A step back leaves less text behind. -/
theorem length_passed_of_back? {cursor previous : Cursor} {char : Char}
    (moved : cursor.back? = some (char, previous)) :
    previous.passed.length < cursor.passed.length := by
  unfold back? at moved
  split at moved
  · cases moved
  · rename_i passed behind
    cases moved
    simp [behind]

/-- Goes back, one character at a time, as long as the cursor is past the offset. -/
def rewindTo (offset : Nat) (cursor : Cursor) : Cursor :=
  if offset < cursor.offset then
    match _moved : cursor.back? with
    | none => cursor
    | some (_, previous) => rewindTo offset previous
  else
    cursor
termination_by cursor.passed.length
decreasing_by exact length_passed_of_back? _moved

/-- Passes over characters as long as they are those of the literal, and tells which it passed. -/
def follow (cursor : Cursor) : (literal : List Char) → List Char × Cursor
  | [] => ([], cursor)
  | expected :: literal =>
    match cursor.next? with
    | none => ([], cursor)
    | some (char, next) =>
      if char = expected then
        let (text, reached) := next.follow literal
        (char :: text, reached)
      else
        ([], cursor)

/-- Passes over a literal and gives its text, or stays if the text after the cursor does not start
with it. -/
def collect (cursor : Cursor) (literal : String) : Option String × Cursor :=
  let (text, reached) := cursor.follow literal.toList
  if text.length = literal.length then
    (some (String.ofList text), reached)
  else
    (none, reached.rewindTo cursor.offset)

/-- Passes over characters as long as `keeps` holds at the cursor of the next one, and gives their
text. -/
def collectWhile (keeps : Cursor → Char → Bool) (cursor : Cursor) : List Char × Cursor :=
  match _moved : cursor.next? with
  | none => ([], cursor)
  | some (char, next) =>
    if keeps cursor char then
      let (text, reached) := collectWhile keeps next
      (char :: text, reached)
    else
      ([], cursor)
termination_by cursor.ahead.rest.length
decreasing_by exact length_rest_of_next? _moved

end Cursor

end TemplateTags
