import TemplateTags.Proofs.Lookahead

/-!
# Neutral characters

With the usual delimiters, a scan tells a character from others by the class it belongs to: white
space, marks, quotes, the backslash, digits and the letters of the truth values. A neutral
character is in none of them. A `Recoding` writes other neutral characters for neutral ones, of any
number of bytes, and leaves all others as they are. What stands at the head of a text is then found
at the head of the recoded text: a literal by `Recoding.isPrefix_map_iff`, a lexeme by
`Recoding.read_map`.
-/

namespace TemplateTags

/-- The letters of the two truth values. -/
def truthLetters : List Char :=
  ['t', 'r', 'u', 'e', 'f', 'a', 'l', 's']

/-- Whether a character belongs to no class of characters that a scan tells apart. -/
def isNeutral (char : Char) : Bool :=
  !Text.isBlank char && !isMarkChar char && !isQuote char && !(char == '\\') && !char.isDigit &&
    !truthLetters.contains char

/-- A character of a delimiter or of an operator is not neutral. -/
theorem notNeutral_of_isMarkChar {char : Char} (mark : isMarkChar char) :
    isNeutral char = false := by
  simp [isNeutral, mark]

/-- A quote is not neutral. -/
theorem notNeutral_of_isQuote {char : Char} (quotes : isQuote char) : isNeutral char = false := by
  simp [isNeutral, quotes]

/-- A way to write neutral characters for neutral characters. -/
structure Recoding where
  char : Char → Char
  neutral : ∀ original, isNeutral original → isNeutral (char original)
  fixed : ∀ original, isNeutral original = false → char original = original

namespace Recoding

/-- Writes one neutral character for all of them. -/
def mask (char : Char) (neutral : isNeutral char) : Recoding where
  char original := if isNeutral original then char else original
  neutral original originalNeutral := by simpa [originalNeutral] using neutral
  fixed original notNeutral := by simp [notNeutral]

/-- The recoded text. -/
def text (recoding : Recoding) (source : String) : String :=
  source.map recoding.char

@[simp] theorem toList_text (recoding : Recoding) (source : String) :
    (recoding.text source).toList = source.toList.map recoding.char :=
  String.toList_map ..

/-- Recoding a text recodes its characters. -/
theorem text_ofList (recoding : Recoding) (source : List Char) :
    recoding.text (String.ofList source) = String.ofList (source.map recoding.char) := by
  apply String.toList_injective
  simp

variable (recoding : Recoding)

/-! ## Classes of characters -/

/-- A class without neutral characters holds the same characters after recoding. -/
theorem inClass_char {inClass : Char → Bool}
    (exempt : ∀ char, isNeutral char → inClass char = false) (char : Char) :
    inClass (recoding.char char) = inClass char := by
  cases neutral : isNeutral char with
  | false => rw [recoding.fixed char neutral]
  | true => rw [exempt _ (recoding.neutral char neutral), exempt _ neutral]

@[simp] theorem isBlank_char (char : Char) :
    Text.isBlank (recoding.char char) = Text.isBlank char :=
  recoding.inClass_char (by simp +contextual [isNeutral]) char

@[simp] theorem isMarkChar_char (char : Char) :
    isMarkChar (recoding.char char) = isMarkChar char :=
  recoding.inClass_char (by simp +contextual [isNeutral]) char

@[simp] theorem isQuote_char (char : Char) : isQuote (recoding.char char) = isQuote char :=
  recoding.inClass_char (by simp +contextual [isNeutral]) char

@[simp] theorem isDigit_char (char : Char) : (recoding.char char).isDigit = char.isDigit :=
  recoding.inClass_char (by simp +contextual [isNeutral]) char

@[simp] theorem isWordChar_char (char : Char) :
    isWordChar (recoding.char char) = isWordChar char := by
  simp [isWordChar]

/-- A character that is not neutral is recoded from itself alone. -/
theorem char_eq_iff {char other : Char} (notNeutral : isNeutral other = false) :
    recoding.char char = other ↔ char = other := by
  have exempt : ∀ char, isNeutral char → (char == other) = false := by
    rintro char neutral
    rw [beq_eq_false_iff_ne]
    rintro rfl
    simp [notNeutral] at neutral
  simpa using recoding.inClass_char exempt char

/-! ## Texts without neutral characters -/

section Literals

variable {literal rest : List Char} (noNeutral : ∀ char ∈ literal, isNeutral char = false)
include noNeutral

/-- A text without neutral characters stands at the head of the recoded text exactly if it stands
at the head of the text. -/
theorem isPrefix_map_iff : literal <+: rest.map recoding.char ↔ literal <+: rest := by
  induction literal generalizing rest with
  | nil => simp
  | cons char literal inductionHypothesis =>
    obtain ⟨notNeutral, others⟩ := List.forall_mem_cons.1 noNeutral
    cases rest with
    | nil => simp
    | cons first rest =>
      rw [List.map_cons, List.cons_prefix_cons, List.cons_prefix_cons, inductionHypothesis others,
        eq_comm, recoding.char_eq_iff notNeutral, eq_comm]

/-- A text without neutral characters is recoded from itself, and from no other text. -/
theorem map_eq_iff : rest.map recoding.char = literal ↔ rest = literal := by
  constructor
  · intro same
    have start : literal <+: rest := by
      apply (recoding.isPrefix_map_iff noNeutral).1
      exact ⟨[], by rw [same, List.append_nil]⟩
    exact (start.eq_of_length (by rw [← same, List.length_map])).symm
  · rintro rfl
    refine (List.map_congr_left fun char member => ?_).trans (List.map_id _)
    exact recoding.fixed char (noNeutral char member)

end Literals

/-- In a table of texts without neutral characters, the same entry is found at the head of the
recoded text. -/
theorem find?_map {α : Type} {key : α → List Char} {table : List α}
    (noNeutral : ∀ entry ∈ table, ∀ char ∈ key entry, isNeutral char = false)
    (rest : List Char) :
    table.find? (fun entry => (key entry).isPrefixOf (rest.map recoding.char)) =
      table.find? fun entry => (key entry).isPrefixOf rest := by
  induction table with
  | nil => rfl
  | cons entry table inductionHypothesis =>
    obtain ⟨first, others⟩ := List.forall_mem_cons.1 noNeutral
    have same : (key entry).isPrefixOf (rest.map recoding.char) =
        (key entry).isPrefixOf rest := by
      rw [Bool.eq_iff_iff, List.isPrefixOf_iff_prefix, List.isPrefixOf_iff_prefix,
        recoding.isPrefix_map_iff first]
    rw [List.find?_cons, List.find?_cons, same, inductionHypothesis others]

/-- No closing literal has a neutral character. -/
theorem noNeutral_of_mem_closings : ∀ literal ∈ Scanner.standard.delimiters.closings,
    ∀ char ∈ literal.text, isNeutral char = false := by
  have marks : ∀ literal ∈ Scanner.standard.delimiters.closings,
      literal.text.all isMarkChar := by decide
  intro literal listed char member
  exact notNeutral_of_isMarkChar (List.all_eq_true.1 (marks literal listed) char member)

/-- No opening literal has a neutral character. -/
theorem noNeutral_of_mem_openings : ∀ literal ∈ Scanner.standard.delimiters.openings,
    ∀ char ∈ literal.text, isNeutral char = false := by
  have marks : ∀ literal ∈ Scanner.standard.delimiters.openings,
      literal.text.all isMarkChar := by decide
  intro literal listed char member
  exact notNeutral_of_isMarkChar (List.all_eq_true.1 (marks literal listed) char member)

/-- No operator has a neutral character. -/
theorem noNeutral_of_mem_operators : ∀ operator ∈ operators,
    ∀ char ∈ operator, isNeutral char = false := by
  have marks : operators.all (·.all isMarkChar) := by decide
  intro operator listed char member
  have ofMarks := List.all_eq_true.1 marks operator listed
  exact notNeutral_of_isMarkChar (List.all_eq_true.1 ofMarks char member)

/-- The recoded text starts with the same closing literal. -/
@[simp] theorem closeAt?_map (rest : List Char) :
    Scanner.standard.delimiters.closeAt? (rest.map recoding.char) =
      Scanner.standard.delimiters.closeAt? rest :=
  recoding.find?_map noNeutral_of_mem_closings rest

/-- The recoded text starts with the same opening literal. -/
@[simp] theorem openAt?_map (rest : List Char) :
    Scanner.standard.delimiters.openAt? (rest.map recoding.char) =
      Scanner.standard.delimiters.openAt? rest :=
  recoding.find?_map noNeutral_of_mem_openings rest

/-- The recoded text starts with the same closing literal of a family. -/
@[simp] theorem closeOf?_map (family : Family) (rest : List Char) :
    Scanner.standard.delimiters.closeOf? family (rest.map recoding.char) =
      Scanner.standard.delimiters.closeOf? family rest :=
  recoding.find?_map
    (fun literal listed => noNeutral_of_mem_closings literal (List.mem_filter.1 listed).1) rest

/-- The recoded text closes a tag where the text does. -/
@[simp] theorem closesAt_map (rest : List Char) :
    Scanner.standard.delimiters.closesAt (rest.map recoding.char) =
      Scanner.standard.delimiters.closesAt rest := by
  rw [Delimiters.closesAt, Delimiters.closesAt, recoding.closeAt?_map]

/-- The recoded text starts with the same operator. -/
@[simp] theorem operatorAt?_map (rest : List Char) :
    operatorAt? (rest.map recoding.char) = operatorAt? rest :=
  recoding.find?_map noNeutral_of_mem_operators rest

/-! ## Lexemes -/

/-- A run is recoded into the run of the recoded text, if its class and where it stops are kept. -/
theorem takeRun_map {inClass : Char → Bool} {stops : List Char → Bool}
    (sameClass : ∀ char, inClass (recoding.char char) = inClass char)
    (sameStops : ∀ rest : List Char, stops (rest.map recoding.char) = stops rest)
    (rest : List Char) :
    takeRun inClass stops (rest.map recoding.char) =
      (takeRun inClass stops rest).map recoding.char := by
  induction rest with
  | nil => rfl
  | cons char rest inductionHypothesis =>
    have stops_eq := sameStops (char :: rest)
    rw [List.map_cons] at stops_eq ⊢
    rw [takeRun, takeRun, sameClass, stops_eq, inductionHypothesis]
    split <;> rfl

/-- A string is recoded into the string of the recoded text: neither a quote nor a backslash is
neutral, so the same ones are escaped. -/
theorem throughQuote?_map {quote : Char} (quotes : isQuote quote) (rest : List Char) :
    throughQuote? quote (rest.map recoding.char) =
      (throughQuote? quote rest).map (·.map recoding.char) := by
  have backslash : recoding.char '\\' = '\\' := recoding.fixed _ (by decide)
  have quoteNotNeutral := notNeutral_of_isQuote quotes
  fun_induction throughQuote? quote rest with
  | case1 => rfl
  | case2 => simp [backslash, throughQuote?]
  | case3 escaped rest inductionHypothesis =>
    simp [backslash, throughQuote?, inductionHypothesis, Function.comp_def]
  | case4 rest notCutOff notWhole =>
    have noBackslash := ne_backslash_of_not_escape notCutOff notWhole
    have fixed : recoding.char quote = quote := recoding.fixed quote (notNeutral_of_isQuote quotes)
    simp [fixed, throughQuote?_cons noBackslash]
  | case5 char rest notCutOff notWhole noQuote inductionHypothesis =>
    have noBackslash : recoding.char char ≠ '\\' :=
      mt (recoding.char_eq_iff (by decide)).1 (ne_backslash_of_not_escape notCutOff notWhole)
    have noQuote : recoding.char char ≠ quote := mt (recoding.char_eq_iff quoteNotNeutral).1 noQuote
    simp [throughQuote?_cons noBackslash, noQuote, inductionHypothesis, Function.comp_def]

/-- A recoded word is of the same kind, as neither digits nor the letters of the truth values are
neutral. -/
@[simp] theorem wordKind_map (word : List Char) :
    wordKind (word.map recoding.char) = wordKind word := by
  have number : isNumber (word.map recoding.char) = isNumber word := by
    simp [isNumber, Function.comp_def]
  have boolean : isBoolean (word.map recoding.char) = isBoolean word := by
    rw [Bool.eq_iff_iff]
    have truth : ∀ char ∈ ['t', 'r', 'u', 'e'], isNeutral char = false := by
      simp [isNeutral, truthLetters]
    have falsehood : ∀ char ∈ ['f', 'a', 'l', 's', 'e'], isNeutral char = false := by
      simp [isNeutral, truthLetters]
    simp [isBoolean, recoding.map_eq_iff truth, recoding.map_eq_iff falsehood]
  rw [wordKind, wordKind, number, boolean]

end Recoding

/-- The same lexeme in the recoded text. -/
def Lexeme.recode (recoding : Recoding) : Lexeme → Lexeme
  | .token kind text => .token kind (text.map recoding.char)
  | .unknown char => .unknown (recoding.char char)
  | .unclosedString text => .unclosedString (text.map recoding.char)

/-- At the head of the recoded text, the same lexeme is read. -/
theorem Recoding.read_map (recoding : Recoding) (char : Char) (rest : List Char) :
    Lexeme.read Scanner.standard.delimiters.closesAt (recoding.char char)
        (rest.map recoding.char) =
      (Lexeme.read Scanner.standard.delimiters.closesAt char rest).recode recoding := by
  have blanks := recoding.takeRun_map recoding.isBlank_char recoding.closesAt_map (char :: rest)
  have word := recoding.takeRun_map recoding.isWordChar_char recoding.closesAt_map (char :: rest)
  have operator := recoding.operatorAt?_map (char :: rest)
  rw [List.map_cons] at blanks word operator
  rw [Lexeme.read, Lexeme.read, isBlank_char, isQuote_char, isMarkChar_char, blanks, word, operator]
  split
  · rfl
  split
  · rename_i quote
    have fixed := recoding.fixed char (notNeutral_of_isQuote quote)
    rw [fixed, recoding.throughQuote?_map quote]
    cases throughQuote? char rest <;> simp [Lexeme.recode, fixed]
  split
  · rename_i mark
    have fixed := recoding.fixed char (notNeutral_of_isMarkChar mark)
    rw [fixed]
    cases found : operatorAt? (char :: rest) with
    | some operator =>
      have listed := noNeutral_of_mem_operators operator (operatorAt?_eq_some found).1
      simp [Lexeme.recode, (recoding.map_eq_iff listed).2 rfl]
    | none =>
      cases Punctuation.ofChar? char <;> simp [Lexeme.recode, fixed]
  · cases takeRun isWordChar Scanner.standard.delimiters.closesAt (char :: rest) with
    | nil => rfl
    | cons first others =>
      have kind := recoding.wordKind_map (first :: others)
      simpa [Lexeme.recode] using kind

end TemplateTags
