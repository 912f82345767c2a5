import TemplateTags.Kind
import TemplateTags.Text.Blank

/-!
# Lexemes inside a tag

What the text inside a block or a variable tag starts with: a run of blanks, a quoted string, an
operator, a punctuation mark or a word. Blanks and words run on as far as they can, short of a
place where the tag might be closed; the longest operator wins; a backslash in a string takes the
next character with it. Reading a lexeme looks at the text alone and not at where it stands.

`Lexeme.Reads` lists the forms that a token may take, and `Lexeme.read_eq_token_iff` says that a
token is read in one of these forms and in no other.
-/

namespace TemplateTags

/-- The operators, longer ones before those they start with. -/
def operators : List (List Char) :=
  [['=', '=', '='], ['!', '=', '='], ['=', '='], ['!', '='], ['>', '='], ['<', '='], ['+', '+'],
    ['-', '-'], ['>'], ['<'], ['+'], ['-'], ['*'], ['/'], ['%']]

/-- The operator with which a text starts. -/
def operatorAt? (rest : List Char) : Option (List Char) :=
  operators.find? (·.isPrefixOf rest)

/-- Whether a character starts and ends a string. -/
def isQuote (char : Char) : Bool :=
  char == '\x22' || char == '\x27'

/-- The characters that operators and punctuation are made of. -/
def markChars : List Char :=
  ['(', ')', '.', '[', ']', '{', '}', '%', '*', '-', '+', '~', '/', '#', ',', ':', '|', '<', '>',
    '=', '!']

/-- Whether a character may start an operator or a punctuation mark, and so ends a word. -/
def isMarkChar (char : Char) : Bool :=
  markChars.contains char

/-- Whether a character may be part of a word. -/
def isWordChar (char : Char) : Bool :=
  !Text.isBlank char && !isMarkChar char && !isQuote char

/-- Whether a word is a number: ASCII digits and nothing else. -/
def isNumber (word : List Char) : Bool :=
  !word.isEmpty && word.all Char.isDigit

/-- Whether a word is one of the two truth values. -/
def isBoolean (word : List Char) : Bool :=
  word == ['t', 'r', 'u', 'e'] || word == ['f', 'a', 'l', 's', 'e']

/-- The kind of a word. -/
def wordKind (word : List Char) : Kind :=
  if isNumber word then .number
  else if isBoolean word then .boolean
  else .symbol

/-- The longest run of characters in a class at the start of a text that reaches no place where
`stops` holds of what remains. -/
def takeRun (inClass : Char → Bool) (stops : List Char → Bool) : List Char → List Char
  | [] => []
  | char :: rest =>
    if inClass char && !stops (char :: rest) then
      char :: takeRun inClass stops rest
    else
      []

/-- The part of a text through the quote that ends the string it is the inside of, if there is
one. A backslash takes the next character with it. -/
def throughQuote? (quote : Char) : List Char → Option (List Char)
  | [] => none
  | '\\' :: [] => none
  | '\\' :: escaped :: rest => (throughQuote? quote rest).map ('\\' :: escaped :: ·)
  | char :: rest =>
    if char = quote then
      some [char]
    else
      (throughQuote? quote rest).map (char :: ·)

/-- What the text inside a tag starts with. -/
inductive Lexeme where
  /-- A token of the given kind. -/
  | token (kind : Kind) (text : List Char)
  /-- A character that starts no token. -/
  | unknown (char : Char)
  /-- A quote that is never closed, with all that follows. -/
  | unclosedString (text : List Char)
  deriving Repr, DecidableEq

namespace Lexeme

/-- The lexeme at the head of the text `char :: rest`. Runs end where `stops` holds. -/
def read (stops : List Char → Bool) (char : Char) (rest : List Char) : Lexeme :=
  if Text.isBlank char then
    .token .whitespace (takeRun Text.isBlank stops (char :: rest))
  else if isQuote char then
    match throughQuote? char rest with
    | some inside => .token .string (char :: inside)
    | none => .unclosedString (char :: rest)
  else if isMarkChar char then
    match operatorAt? (char :: rest) with
    | some operator => .token .operator operator
    | none =>
      match Punctuation.ofChar? char with
      | some mark => .token (.punctuation mark) [char]
      | none => .unknown char
  else
    match takeRun isWordChar stops (char :: rest) with
    | [] => .unknown char
    | word => .token (wordKind word) word

/-- How the text `char :: rest` starts with a token of a kind, where runs end if `stops` holds. -/
inductive Reads (stops : List Char → Bool) (char : Char) (rest : List Char) :
    Kind → List Char → Prop where
  | whitespace (blank : Text.isBlank char) :
      Reads stops char rest .whitespace (takeRun Text.isBlank stops (char :: rest))
  | string {inside} (noBlank : Text.isBlank char = false) (quote : isQuote char)
      (closed : throughQuote? char rest = some inside) :
      Reads stops char rest .string (char :: inside)
  | operator {operator} (noBlank : Text.isBlank char = false) (noQuote : isQuote char = false)
      (mark : isMarkChar char) (found : operatorAt? (char :: rest) = some operator) :
      Reads stops char rest .operator operator
  | punctuation {mark} (noBlank : Text.isBlank char = false) (noQuote : isQuote char = false)
      (isMark : isMarkChar char) (noOperator : operatorAt? (char :: rest) = none)
      (writes : Punctuation.ofChar? char = some mark) :
      Reads stops char rest (.punctuation mark) [char]
  | word {word} (noBlank : Text.isBlank char = false) (noQuote : isQuote char = false)
      (noMark : isMarkChar char = false) (run : takeRun isWordChar stops (char :: rest) = word)
      (notEmpty : word ≠ []) : Reads stops char rest (wordKind word) word

end Lexeme

/-- An operator that is found is listed, and the text starts with it. -/
theorem operatorAt?_eq_some {rest operator : List Char}
    (found : operatorAt? rest = some operator) : operator ∈ operators ∧ operator <+: rest := by
  have starts := List.find?_some found
  exact ⟨List.mem_of_find?_eq_some found, List.isPrefixOf_iff_prefix.1 starts⟩

/-- No listed operator is empty. -/
theorem ne_nil_of_mem_operators {operator : List Char} (listed : operator ∈ operators) :
    operator ≠ [] := by
  rintro rfl
  revert listed
  decide

/-- A run is a first part of the text. -/
theorem isPrefix_takeRun (inClass : Char → Bool) (stops : List Char → Bool) (text : List Char) :
    takeRun inClass stops text <+: text := by
  induction text with
  | nil => exact List.prefix_refl _
  | cons char rest inductionHypothesis =>
    unfold takeRun
    split
    · exact (List.prefix_cons_inj char).2 inductionHypothesis
    · exact List.nil_prefix

/-- The characters of a run are in its class. -/
theorem forall_mem_takeRun {inClass : Char → Bool} {stops : List Char → Bool}
    {text : List Char} : ∀ char ∈ takeRun inClass stops text, inClass char := by
  induction text with
  | nil => simp [takeRun]
  | cons first rest inductionHypothesis =>
    unfold takeRun
    split
    · rename_i taken
      exact List.forall_mem_cons.2 ⟨(Bool.and_eq_true_iff.1 taken).1, inductionHypothesis⟩
    · simp

/-- A run is empty only where it is stopped at once. -/
theorem takeRun_ne_nil {inClass : Char → Bool} {stops : List Char → Bool} {char : Char}
    {rest : List Char} (member : inClass char) (free : stops (char :: rest) = false) :
    takeRun inClass stops (char :: rest) ≠ [] := by
  simp [takeRun, member, free]

/-- Inside a string, a character that is no backslash ends the string or is passed over. -/
theorem throughQuote?_cons {quote char : Char} (noBackslash : char ≠ '\\') (rest : List Char) :
    throughQuote? quote (char :: rest) =
      if char = quote then some [char] else (throughQuote? quote rest).map (char :: ·) :=
  throughQuote?.eq_4 _ _ _ (by simp [noBackslash]) (by simp [noBackslash])

/-- A text that does not start with an escape, whole or cut off, starts with no backslash. -/
theorem ne_backslash_of_not_escape {char : Char} {rest : List Char}
    (notCutOff : char = '\\' → rest = [] → False)
    (notWhole : ∀ escaped others, char = '\\' → rest = escaped :: others → False) :
    char ≠ '\\' := by
  intro backslash
  cases rest with
  | nil => exact notCutOff backslash rfl
  | cons escaped others => exact notWhole escaped others backslash rfl

/-- A string up to its closing quote is a first part of the text. -/
theorem isPrefix_throughQuote? {quote : Char} {text inside : List Char}
    (closed : throughQuote? quote text = some inside) : inside <+: text := by
  fun_induction throughQuote? quote text generalizing inside with
  | case1 => simp at closed
  | case2 => simp at closed
  | case3 escaped rest inductionHypothesis =>
    obtain ⟨tail, found, rfl⟩ := Option.map_eq_some_iff.1 closed
    simpa using inductionHypothesis found
  | case4 rest =>
    obtain rfl : inside = [quote] := by simpa using closed.symm
    exact ⟨rest, rfl⟩
  | case5 char rest _ _ _ inductionHypothesis =>
    obtain ⟨tail, found, rfl⟩ := Option.map_eq_some_iff.1 closed
    simpa using inductionHypothesis found

/-- A token is read in one of the ways in which a text may start with one. -/
theorem Lexeme.read_eq_token_iff {stops : List Char → Bool} {char : Char} {rest text : List Char}
    {kind : Kind} :
    Lexeme.read stops char rest = .token kind text ↔ Lexeme.Reads stops char rest kind text := by
  constructor
  · intro reads
    unfold Lexeme.read at reads
    split at reads
    · rename_i blank
      obtain ⟨rfl, rfl⟩ := Lexeme.token.inj reads
      exact .whitespace blank
    rename_i noBlank
    split at reads
    · rename_i quote
      split at reads
      · rename_i inside closed
        obtain ⟨rfl, rfl⟩ := Lexeme.token.inj reads
        exact .string (by simpa using noBlank) quote closed
      · cases reads
    rename_i noQuote
    split at reads
    · rename_i mark
      split at reads
      · rename_i found
        obtain ⟨rfl, rfl⟩ := Lexeme.token.inj reads
        exact .operator (by simpa using noBlank) (by simpa using noQuote) mark found
      · rename_i noOperator
        split at reads
        · rename_i writes
          obtain ⟨rfl, rfl⟩ := Lexeme.token.inj reads
          exact .punctuation (by simpa using noBlank) (by simpa using noQuote) mark noOperator
            writes
        · cases reads
    · rename_i noMark
      split at reads
      · cases reads
      · rename_i notEmpty
        obtain ⟨rfl, rfl⟩ := Lexeme.token.inj reads
        exact .word (by simpa using noBlank) (by simpa using noQuote) (by simpa using noMark) rfl
          notEmpty
  · intro reads
    unfold Lexeme.read
    cases reads with
    | whitespace blank => rw [if_pos blank]
    | string noBlank quote closed =>
      simp only [noBlank, quote, closed, Bool.false_eq_true, if_false, if_true]
    | operator noBlank noQuote mark found =>
      simp only [noBlank, noQuote, mark, found, Bool.false_eq_true, if_false, if_true]
    | punctuation noBlank noQuote mark noOperator writes =>
      simp only [noBlank, noQuote, mark, noOperator, writes, Bool.false_eq_true, if_false, if_true]
    | word noBlank noQuote noMark run notEmpty =>
      simp only [noBlank, noQuote, noMark, run, Bool.false_eq_true, if_false]

/-- A token lexeme is a nonempty first part of the text, where the text does not stop at once. -/
theorem Lexeme.read_eq_token {stops : List Char → Bool} {char : Char} {rest text : List Char}
    {kind : Kind} (free : stops (char :: rest) = false)
    (lexeme : Lexeme.read stops char rest = .token kind text) :
    text ≠ [] ∧ text <+: char :: rest := by
  cases Lexeme.read_eq_token_iff.1 lexeme with
  | whitespace blank => exact ⟨takeRun_ne_nil blank free, isPrefix_takeRun ..⟩
  | string _ _ closed =>
    exact ⟨by simp, (List.prefix_cons_inj char).2 (isPrefix_throughQuote? closed)⟩
  | operator _ _ _ found =>
    obtain ⟨listed, start⟩ := operatorAt?_eq_some found
    exact ⟨ne_nil_of_mem_operators listed, start⟩
  | punctuation => exact ⟨by simp, rest, rfl⟩
  | word _ _ _ run notEmpty => exact ⟨notEmpty, run ▸ isPrefix_takeRun ..⟩

/-- A word is content, whichever of the three kinds it is. -/
theorem isContent_wordKind (word : List Char) : (wordKind word).isContent := by
  unfold wordKind
  split
  · rfl
  · split <;> rfl

/-- No token lexeme is a delimiter. -/
theorem Lexeme.isContent_of_read {stops : List Char → Bool} {char : Char} {rest text : List Char}
    {kind : Kind} (lexeme : Lexeme.read stops char rest = .token kind text) : kind.isContent := by
  cases Lexeme.read_eq_token_iff.1 lexeme with
  | word => exact isContent_wordKind _
  | _ => rfl

/-- A lexeme is a token, the first character alone or all of the text. -/
theorem Lexeme.read_cases (stops : List Char → Bool) (char : Char) (rest : List Char) :
    (∃ kind text, Lexeme.read stops char rest = .token kind text) ∨
      Lexeme.read stops char rest = .unknown char ∨
        Lexeme.read stops char rest = .unclosedString (char :: rest) := by
  rw [Lexeme.read]
  split
  · exact .inl ⟨_, _, rfl⟩
  split
  · split
    · exact .inl ⟨_, _, rfl⟩
    · exact .inr (.inr rfl)
  split
  · split
    · exact .inl ⟨_, _, rfl⟩
    · split
      · exact .inl ⟨_, _, rfl⟩
      · exact .inr (.inl rfl)
  · split
    · exact .inr (.inl rfl)
    · exact .inl ⟨_, _, rfl⟩

end TemplateTags
