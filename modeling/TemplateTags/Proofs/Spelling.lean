import Mathlib.Algebra.Ring.Parity
import TemplateTags.Piece
import TemplateTags.Proofs.Trimming

/-!
# How tokens are spelled

Each kind of token has its own spellings, and `Kind.Spells` lists them: the literals of the options
for delimiters, the table for operators, a class of characters for blanks and words, and matching
quotes for strings. A quote inside a string is escaped, which is told from the backslashes before
it. `spells_of_scan` says that a scan finds no token that is not spelled as its kind says. No
spelling is that of an unknown token, so none is found.
-/

namespace TemplateTags

open Text

/-! ## Escapes -/

/-- How many backslashes a text ends with. -/
def Text.trailingBackslashes (text : List Char) : Nat :=
  (text.reverse.takeWhile (· = '\\')).length

/-- A character right behind the text is escaped: it is the last of the backslashes before it that
takes the character with it, as the others take each other. -/
def Text.Escapes (text : List Char) : Prop :=
  Odd (trailingBackslashes text)

instance (text : List Char) : Decidable (Escapes text) :=
  inferInstanceAs (Decidable (Odd _))

/-- In front of a text, an even number of backslashes changes no escape behind it. -/
theorem Text.escapes_append (front text : List Char) (even : Even (trailingBackslashes front)) :
    Escapes (front ++ text) ↔ Escapes text := by
  unfold Escapes trailingBackslashes
  rw [List.reverse_append, List.takeWhile_append]
  split <;> rename_i whole
  · rw [List.length_append, ← whole, Nat.odd_add]
    exact iff_true_right even
  · exact Iff.rfl

/-- A character that is no backslash does not matter to what is escaped behind it. -/
theorem Text.escapes_cons {char : Char} (noBackslash : char ≠ '\\') (text : List Char) :
    Escapes (char :: text) ↔ Escapes text := by
  have none : trailingBackslashes [char] = 0 := by simp [trailingBackslashes, noBackslash]
  exact escapes_append [char] text (none ▸ Even.zero)

/-- A backslash that takes a character with it escapes nothing behind that character. -/
theorem Text.escapes_backslash_cons (char : Char) (text : List Char) :
    Escapes ('\\' :: char :: text) ↔ Escapes text := by
  refine escapes_append ['\\', char] text ?_
  by_cases backslash : char = '\\'
  · subst backslash
    decide
  · simp [trailingBackslashes, backslash]

namespace StringText

variable {quote : Char} {inside : List Char}

/-- What stands between quotes does not escape the quote behind it. -/
theorem not_escapes (string : StringText quote inside) : ¬ Escapes inside := by
  induction string with
  | nil => decide
  | char _ noEscape _ inductionHypothesis => rwa [escapes_cons noEscape]
  | escaped _ inductionHypothesis => rwa [escapes_backslash_cons]

/-- Every quote that stands between quotes is escaped. -/
theorem escapes_of_append (quoteIsQuote : isQuote quote) (string : StringText quote inside)
    {before after : List Char} (split : inside = before ++ quote :: after) : Escapes before := by
  induction string generalizing before with
  | nil => simp at split
  | @char char text noQuote noEscape _ inductionHypothesis =>
    cases before with
    | nil => exact absurd (List.cons.inj split).1 noQuote
    | cons first before =>
      obtain ⟨rfl, others⟩ := List.cons.inj split
      rw [escapes_cons noEscape]
      exact inductionHypothesis others
  | @escaped char text _ inductionHypothesis =>
    match before with
    | [] =>
      obtain ⟨rfl, -⟩ := List.cons.inj split
      cases quoteIsQuote
    | [first] =>
      obtain ⟨rfl, -⟩ := List.cons.inj split
      decide
    | first :: second :: before =>
      simp only [List.cons_append, List.cons.injEq] at split
      obtain ⟨rfl, rfl, others⟩ := split
      rw [escapes_backslash_cons]
      exact inductionHypothesis others

end StringText

/-- What is read through a quote is the text of a string and that quote. -/
theorem exists_stringText_of_throughQuote? {quote : Char} {text found : List Char}
    (closed : throughQuote? quote text = some found) :
    ∃ inside, found = inside ++ [quote] ∧ StringText quote inside := by
  fun_induction throughQuote? quote text generalizing found with
  | case1 => cases closed
  | case2 => cases closed
  | case3 escaped rest inductionHypothesis =>
    obtain ⟨tail, tailClosed, rfl⟩ := Option.map_eq_some_iff.1 closed
    obtain ⟨inside, rfl, string⟩ := inductionHypothesis tailClosed
    exact ⟨'\\' :: escaped :: inside, rfl, .escaped string⟩
  | case4 rest =>
    obtain rfl : found = [quote] := by simpa using closed.symm
    exact ⟨[], rfl, .nil⟩
  | case5 char rest notCutOff notWhole noQuote inductionHypothesis =>
    obtain ⟨tail, tailClosed, rfl⟩ := Option.map_eq_some_iff.1 closed
    obtain ⟨inside, rfl, string⟩ := inductionHypothesis tailClosed
    exact ⟨char :: inside, rfl,
      .char noQuote (ne_backslash_of_not_escape notCutOff notWhole) string⟩

/-! ## Spellings -/

/-- The texts that a token of a kind may have in a template that is written with the options. -/
inductive Kind.Spells (options : Options) : Kind → String → Prop where
  | opening (family : Family) : Spells options (.opening family) (options.pair family).start
  | trimmedOpening : Spells options (.opening .block) (options.block.start ++ "-")
  | closing (family : Family) : Spells options (.closing family) (options.pair family).stop
  | trimmedClosing : Spells options (.closing .block) ("-" ++ options.block.stop)
  | whitespace {text : List Char} (notEmpty : text ≠ []) (blank : ∀ char ∈ text, isBlank char) :
      Spells options .whitespace (String.ofList text)
  /-- The quote at the end is the first one behind that at the start that is not escaped. -/
  | string {quote : Char} {inside : List Char} (isQuote : isQuote quote)
      (closed : ¬ Escapes inside)
      (escaped : ∀ before after, inside = before ++ quote :: after → Escapes before) :
      Spells options .string (String.ofList (quote :: (inside ++ [quote])))
  | operator {text : List Char} (listed : text ∈ operators) :
      Spells options .operator (String.ofList text)
  | punctuation (mark : Punctuation) :
      Spells options (.punctuation mark) (String.singleton mark.char)
  | number {text : List Char} (notEmpty : text ≠ []) (digits : ∀ char ∈ text, char.isDigit) :
      Spells options .number (String.ofList text)
  | boolean {word : String} (listed : word = "true" ∨ word = "false") :
      Spells options .boolean word
  | symbol {text : List Char} (notEmpty : text ≠ [])
      (free : ∀ char ∈ text,
        isBlank char = false ∧ isMarkChar char = false ∧ isQuote char = false)
      (noNumber : ∃ char ∈ text, char.isDigit = false)
      (noBoolean : String.ofList text ≠ "true" ∧ String.ofList text ≠ "false") :
      Spells options .symbol (String.ofList text)

variable {options : Options}

/-- A literal is a spelling of the delimiters that it is for. -/
theorem DelimiterRole.spells (role : DelimiterRole) (options : Options) :
    role.kind.Spells options (options.literal role) := by
  cases role with
  | opening family => exact .opening family
  | closing family => exact .closing family
  | trimmedOpening => exact .trimmedOpening
  | trimmedClosing => exact .trimmedClosing

/-- A word is a spelling of its kind. -/
theorem spells_wordKind {word : List Char} (notEmpty : word ≠ [])
    (inWord : ∀ char ∈ word, isWordChar char) :
    (wordKind word).Spells options (String.ofList word) := by
  unfold wordKind
  split
  · rename_i number
    have digits := List.all_eq_true.1 (Bool.and_eq_true_iff.1 number).2
    exact .number notEmpty digits
  split
  · rename_i boolean
    have listed : word = ['t', 'r', 'u', 'e'] ∨ word = ['f', 'a', 'l', 's', 'e'] := by
      simpa [isBoolean] using boolean
    rcases listed with rfl | rfl
    · exact .boolean (.inl rfl)
    · exact .boolean (.inr rfl)
  · rename_i noNumber noBoolean
    refine .symbol notEmpty ?_ ?_ ?_
    · intro char member
      simpa [isWordChar, and_assoc] using inWord char member
    · simpa [isNumber, notEmpty] using noNumber
    · have different : word ≠ ['t', 'r', 'u', 'e'] ∧ word ≠ ['f', 'a', 'l', 's', 'e'] := by
        simpa [isBoolean] using noBoolean
      refine different.imp ?_ ?_ <;> intro other same <;> exact other (String.ofList_injective same)

/-- A lexeme is a spelling of its kind, where the text does not stop at once. -/
theorem Lexeme.Reads.spells {stops : List Char → Bool} {char : Char} {rest text : List Char}
    {kind : Kind} (reads : Reads stops char rest kind text)
    (free : stops (char :: rest) = false) : kind.Spells options (String.ofList text) := by
  cases reads with
  | whitespace blank => exact .whitespace (takeRun_ne_nil blank free) forall_mem_takeRun
  | string _ quote closed =>
    obtain ⟨inside, rfl, string⟩ := exists_stringText_of_throughQuote? closed
    exact .string quote string.not_escapes fun _ _ split => string.escapes_of_append quote split
  | operator _ _ _ found => exact .operator (operatorAt?_eq_some found).1
  | @punctuation mark _ _ _ _ writes =>
    obtain rfl := Punctuation.ofChar?_eq_some_iff.1 writes
    exact .punctuation mark
  | word _ _ _ run notEmpty => exact spells_wordKind notEmpty (run ▸ forall_mem_takeRun)

/-- Every token of a run is spelled as its kind says. -/
theorem Scanner.spells_of_mem {scanner : Scanner} {source : String} {count : Nat}
    {tokens : List Token} {state : State}
    (steps : scanner.Steps (.initial source) count tokens state)
    (accepted : ofOptions options = .ok scanner) {token : Token} (member : token ∈ tokens) :
    token.kind.Spells options token.value := by
  rcases isContent_or_exists_role steps accepted member with content | ⟨role, kind_eq, value_eq⟩
  · obtain ⟨_, _, _, _, _, _, -, -, free, reads, -, rfl⟩ :=
      exists_reads_of_mem steps member content
    exact reads.spells free
  · rw [kind_eq, value_eq]
    exact role.spells options

/-- Every token of a scan is spelled as its kind says, and none is of unknown kind. -/
theorem spells_of_scan {source : String} {result : Scan}
    (scanned : scan options source = .ok result) :
    ∀ token ∈ result.tokens, token.kind.Spells options token.value ∧ token.kind ≠ .unknown := by
  obtain ⟨-, scanner, count, state, accepted, steps, -⟩ := exists_steps_of_scan scanned
  intro token member
  have spells := Scanner.spells_of_mem steps accepted member
  refine ⟨spells, ?_⟩
  intro unknown
  rw [unknown] at spells
  cases spells

/-- A string that ends with a backslash, one that holds a quote, and a word that starts with a
digit. -/
theorem spells_of_scan_escapes :
    ∃ result, scan {} "\x7b\x7b'\\\\'\"\\\"\"1a\x7d\x7d" = .ok result ∧
      result.tokens.map (·.value) =
        ["\x7b\x7b", "'\\\\'", "\"\\\"\"", "1a", "\x7d\x7d"] ∧
      ∀ token ∈ result.tokens, token.kind.Spells {} token.value ∧ token.kind ≠ .unknown := by
  let result : Scan :=
    ⟨"\x7b\x7b'\\\\'\"\\\"\"1a\x7d\x7d",
      [⟨.opening .var, "\x7b\x7b", ⟨0, 2, 1, 1⟩⟩, ⟨.string, "'\\\\'", ⟨2, 6, 1, 3⟩⟩,
        ⟨.string, "\"\\\"\"", ⟨6, 10, 1, 7⟩⟩, ⟨.symbol, "1a", ⟨10, 12, 1, 11⟩⟩,
        ⟨.closing .var, "\x7d\x7d", ⟨12, 14, 1, 13⟩⟩]⟩
  have scanned : scan {} result.source = .ok result := by
    decide +kernel
  exact ⟨result, scanned, rfl, spells_of_scan scanned⟩

end TemplateTags
