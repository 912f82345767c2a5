import TemplateTags.Proofs.Body
import TemplateTags.Proofs.Justification
import TemplateTags.Proofs.Spelling

/-!
# Where strings end

A string is read forwards: a backslash takes the next character with it. Where it ends can be told
backwards as well, by the backslashes in front of a quote. `throughQuote?_eq_some_iff` says that the
string ends with the first quote that has an even number of them, and `throughQuote?_eq_none_iff`
that it is not closed if there is none.
-/

namespace TemplateTags

open Text

/-- Between `inside` and `behind` stands the first quote of the text that is not escaped. -/
structure Text.FirstUnescaped (quote : Char) (text inside behind : List Char) : Prop where
  split : text = inside ++ quote :: behind
  unescaped : ¬ Escapes inside
  first : ∀ before after, inside = before ++ quote :: after → Escapes before

/-- A text with a quote that is not escaped has a first one. -/
theorem Text.exists_firstUnescaped {quote : Char} {text before after : List Char}
    (split : text = before ++ quote :: after) (unescaped : ¬ Escapes before) :
    ∃ inside behind, FirstUnescaped quote text inside behind := by
  by_cases first : ∀ earlier between, before = earlier ++ quote :: between → Escapes earlier
  · exact ⟨before, after, split, unescaped, first⟩
  · -- An earlier quote that is not escaped has less text before it.
    simp only [not_forall] at first
    obtain ⟨earlier, between, before_eq, earlierUnescaped⟩ := first
    have earlierSplit : text = earlier ++ quote :: (between ++ quote :: after) := by
      rw [split, before_eq, List.append_assoc, List.cons_append]
    exact exists_firstUnescaped earlierSplit earlierUnescaped
termination_by before.length
decreasing_by
  rw [before_eq]
  simp

section Reader

variable {quote : Char} {text found : List Char}

/-- A text whose quotes are escaped, and which escapes no quote behind it, may stand in a string. -/
theorem StringText.of_escapes {inside : List Char} (unescaped : ¬ Escapes inside)
    (first : ∀ before after, inside = before ++ quote :: after → Escapes before) :
    StringText quote inside := by
  match inside with
  | [] => exact .nil
  | [last] =>
    have noBackslash : last ≠ '\\' := by
      rintro rfl
      exact unescaped (by decide)
    have noQuote : last ≠ quote := by
      rintro rfl
      exact absurd (first [] [] rfl) (by decide)
    exact .char noQuote noBackslash .nil
  | head :: next :: rest =>
    by_cases backslash : head = '\\'
    · -- The backslash takes the next character along, even if it is the quote.
      subst backslash
      rw [escapes_backslash_cons] at unescaped
      refine .escaped (of_escapes unescaped fun before after split => ?_)
      rw [← escapes_backslash_cons next]
      exact first _ after (by rw [split]; rfl)
    · have noQuote : head ≠ quote := by
        rintro rfl
        exact absurd (first [] _ rfl) (by decide)
      rw [escapes_cons backslash] at unescaped
      refine .char noQuote backslash (of_escapes unescaped fun before after split => ?_)
      rw [← escapes_cons backslash]
      exact first _ after (by rw [split]; rfl)

/-- Behind what stands between quotes, the quote is the first one that is not escaped. -/
theorem StringText.firstUnescaped {inside : List Char} (quoteIsQuote : isQuote quote)
    (string : StringText quote inside) (behind : List Char) :
    FirstUnescaped quote (inside ++ quote :: behind) inside behind where
  split := rfl
  unescaped := string.not_escapes
  first _ _ := string.escapes_of_append quoteIsQuote

/-- What is read through a quote ends with the first quote that is not escaped. -/
theorem throughQuote?_eq_some_iff (quoteIsQuote : isQuote quote) :
    throughQuote? quote text = some found ↔
      ∃ inside behind, FirstUnescaped quote text inside behind ∧ found = inside ++ [quote] := by
  constructor
  · intro closed
    obtain ⟨inside, rfl, string⟩ := exists_stringText_of_throughQuote? closed
    obtain ⟨behind, rfl⟩ := isPrefix_throughQuote? closed
    rw [List.append_assoc, List.singleton_append]
    exact ⟨inside, behind, string.firstUnescaped quoteIsQuote behind, rfl⟩
  · rintro ⟨inside, behind, ⟨rfl, unescaped, first⟩, rfl⟩
    exact (StringText.of_escapes unescaped first).throughQuote?_append quoteIsQuote behind

/-- Nothing is read through a quote exactly if every quote of the text is escaped. -/
theorem throughQuote?_eq_none_iff (quoteIsQuote : isQuote quote) :
    throughQuote? quote text = none ↔
      ∀ before after, text = before ++ quote :: after → Escapes before := by
  constructor
  · intro unclosed before after split
    by_contra unescaped
    obtain ⟨inside, behind, first⟩ := exists_firstUnescaped split unescaped
    have closed := (throughQuote?_eq_some_iff quoteIsQuote).2 ⟨inside, behind, first, rfl⟩
    rw [unclosed] at closed
    cases closed
  · intro escaped
    by_contra closed
    obtain ⟨found, closed⟩ := Option.ne_none_iff_exists'.1 closed
    obtain ⟨inside, behind, first, -⟩ := (throughQuote?_eq_some_iff quoteIsQuote).1 closed
    exact first.unescaped (escaped inside behind first.split)

end Reader

/-- A quote is no blank character. -/
theorem isBlank_of_isQuote {char : Char} (quote : isQuote char) : isBlank char = false := by
  rw [Bool.eq_false_iff]
  intro blank
  simp [isQuote_of_isBlank blank] at quote

namespace Lexeme

variable {stops : List Char → Bool} {quote : Char} {rest inside : List Char}

/-- A quote with a closing quote behind it is read as a string up to that one. -/
theorem read_of_closed (quoteIsQuote : isQuote quote)
    (closed : throughQuote? quote rest = some inside) :
    read stops quote rest = .token .string (quote :: inside) :=
  read_eq_token_iff.2 (.string (isBlank_of_isQuote quoteIsQuote) quoteIsQuote closed)

/-- A quote without a closing quote behind it is read as a string that is not closed. -/
theorem read_of_unclosed (quoteIsQuote : isQuote quote)
    (unclosed : throughQuote? quote rest = none) :
    read stops quote rest = .unclosedString (quote :: rest) := by
  have noBlank := isBlank_of_isQuote quoteIsQuote
  simp only [read, noBlank, quoteIsQuote, unclosed, Bool.false_eq_true, if_false, if_true]

end Lexeme

namespace Scanner

variable {scanner : Scanner} {options : Options} {source : String} {state : State}
  {opened : OpenTag}

/-- The scanner reads a lexeme in the state: a block or a variable is open, enough text is left to
close it, and no literal stands where the input does. -/
structure ReadsContent (scanner : Scanner) (options : Options) (source : String) (state : State)
    (opened : OpenTag) : Prop where
  isOpen : state.opened? = some opened
  noComment : opened.family ≠ .comment
  kept : scanner.givesUp opened.family state.input = false
  free : ∀ role, ¬ StandsAt source state.input.here.offset (options.literal role)

/-- Where no literal stands, the scanner finds none. -/
theorem ReadsContent.find_eq_none {passed : List Char}
    (content : scanner.ReadsContent options source state opened)
    (accepted : ofOptions options = .ok scanner) (follows : state.input.Follows source passed) :
    scanner.delimiters.closeAt? state.input.rest = none ∧
      scanner.delimiters.openAt? state.input.rest = none := by
  obtain ⟨-, delimiters_eq, -, -⟩ := ofOptions_eq_ok_iff.1 accepted
  have free : ∀ role, ¬ (options.literal role).toList <+: state.input.rest :=
    fun role start => content.free role (follows.standsAt_iff.2 start)
  rw [delimiters_eq, Delimiters.closeAt?_ofOptions_eq_none_iff,
    Delimiters.openAt?_ofOptions_eq_none_iff]
  exact ⟨fun role _ => free role, fun role _ => free role⟩

/-- With the usual delimiters, a lexeme is read wherever a quote stands inside a block or a variable
and a character follows it. -/
theorem readsContent_standard {passed : List Char} {quote next : Char} {text : List Char}
    (isOpen : state.opened? = some opened) (noComment : opened.family ≠ .comment)
    (follows : state.input.Follows source passed)
    (rest_eq : state.input.rest = quote :: next :: text) (quoteIsQuote : isQuote quote) :
    standard.ReadsContent {} source state opened where
  isOpen := isOpen
  noComment := noComment
  kept := by
    apply givesUp_eq_false
    simp [minCloseLength_standard, rest_eq]
  free := by
    have noQuote : ∀ role, (({} : Options).literal role).toList.head?.any isQuote = false ∧
        (({} : Options).literal role).toList ≠ [] := by
      intro role
      cases role with
      | opening family | closing family => cases family <;> decide
      | trimmedOpening | trimmedClosing => decide
    intro role stands
    rw [follows.standsAt_iff, rest_eq] at stands
    obtain ⟨headNoQuote, notEmpty⟩ := noQuote role
    obtain ⟨head, others, literal_eq⟩ := List.exists_cons_of_ne_nil notEmpty
    rw [literal_eq] at stands headNoQuote
    obtain rfl := (List.cons_prefix_cons.1 stands).1
    simp [quoteIsQuote] at headNoQuote

end Scanner

/-- A string that starts where a lexeme is read ends with the first quote behind its own that has an
even number of backslashes before it, whatever else stands in between. If there is none, the scan
fails over all that is left of the source. -/
theorem string_of_steps {options : Options} {source : String} {scanner : Scanner} {count : Nat}
    {tokens : List Token} {state : State} {opened : OpenTag} {quote : Char} {text : List Char}
    (accepted : Scanner.ofOptions options = .ok scanner)
    (steps : scanner.Steps (.initial source) count tokens state)
    (content : scanner.ReadsContent options source state opened)
    (rest_eq : state.input.rest = quote :: text) (quoteIsQuote : isQuote quote) :
    (∀ inside behind, FirstUnescaped quote text inside behind →
      ∃ token next, scanner.step state = .emitted token next ∧ token.kind = .string ∧
        token.value = String.ofList (quote :: (inside ++ [quote])) ∧
        token.span.start = state.input.here.offset ∧
        token.span.stop = next.input.here.offset ∧ next.input.rest = behind) ∧
    ((∀ before after, text = before ++ quote :: after → Escapes before) →
      ∃ token, scan options source = .error (.lex ⟨.unterminatedString token, token.span⟩) ∧
        token.kind = .string ∧ token.span.start = state.input.here.offset ∧
        token.span.stop = source.utf8ByteSize ∧
        sliceFrom? source token.span.start = some token.value) := by
  obtain ⟨passed, follows⟩ := (Scanner.placed_of_steps steps).follows
  obtain ⟨noClose, noOpen⟩ := content.find_eq_none accepted follows
  obtain ⟨input, opened?⟩ := state
  obtain rfl : opened? = some opened := content.isOpen
  change input.rest = quote :: text at rest_eq
  constructor
  · intro inside behind first
    have closed := (throughQuote?_eq_some_iff quoteIsQuote).2 ⟨inside, behind, first, rfl⟩
    have rule : scanner.Rule ⟨input, some opened⟩ _ :=
      .lexeme rest_eq content.kept content.noComment noClose noOpen
        (Lexeme.read_of_closed quoteIsQuote closed)
    refine ⟨_, _, rule.step_eq, rfl, rfl, rfl, by simp, ?_⟩
    apply Input.rest_consume
    rw [rest_eq, first.split, List.cons_append, List.append_assoc, List.singleton_append]
  · intro escaped
    have unclosed := (throughQuote?_eq_none_iff quoteIsQuote).2 escaped
    have rule : scanner.Rule ⟨input, some opened⟩ _ :=
      .unclosedString rest_eq content.kept content.noComment noClose noOpen
        (Lexeme.read_of_unclosed quoteIsQuote unclosed)
    refine ⟨input.token .string (quote :: text), scan_of_steps_failed accepted steps rule, rfl, rfl,
      ?stops, ?remains⟩
    case stops =>
      rw [Input.stop_token, follows.offset_eq, ← byteLength_append, ← rest_eq, ← follows.text,
        byteLength_toList]
    case remains =>
      have left := follows.sliceFrom?_eq
      rwa [rest_eq] at left

/-- A string with the other quote, an escaped quote, a delimiter, a newline and two backslashes at
its end, and one whose last quote is escaped. -/
theorem string_of_steps_backslashes :
    (∃ state, Scanner.standard.Steps (.initial "\x7b\x7b'\"\\'\x7d\x7d\n\\\\'\x7d\x7d") 1
        [⟨.opening .var, "\x7b\x7b", ⟨0, 2, 1, 1⟩⟩] state ∧
      ∃ token next, Scanner.standard.step state = .emitted token next ∧ token.kind = .string ∧
        token.value = "'\"\\'\x7d\x7d\n\\\\'" ∧ token.span.start = 2 ∧
        token.span.stop = next.input.here.offset ∧ next.input.rest = ['}', '}']) ∧
    ∃ token, scan {} "\x7b\x7b'\x7d\x7d\\\\\\'" =
        .error (.lex ⟨.unterminatedString token, token.span⟩) ∧
      token.kind = .string ∧ token.span.start = 2 ∧ token.span.stop = 9 ∧
      sliceFrom? "\x7b\x7b'\x7d\x7d\\\\\\'" token.span.start = some token.value := by
  let opened : OpenTag := ⟨.var, .opening .var, "\x7b\x7b", ⟨0, 2, 1, 1⟩⟩
  have accepted := Scanner.ofOptions_default
  constructor
  · let inside : List Char := ['"', '\\', '\'', '}', '}', '\n', '\\', '\\']
    let state : State := ⟨⟨⟨2, 1, 3⟩, '\'' :: (inside ++ ['\'', '}', '}'])⟩, some opened⟩
    have steps : Scanner.standard.Steps (.initial "\x7b\x7b'\"\\'\x7d\x7d\n\\\\'\x7d\x7d") 1
        [opened.token] state := .emitted .refl rfl
    obtain ⟨passed, follows⟩ := (Scanner.placed_of_steps steps).follows
    have content := Scanner.readsContent_standard rfl (by decide) follows rfl rfl
    have string : StringText '\'' inside :=
      .char (by decide) (by decide) (.escaped (.char (by decide) (by decide)
        (.char (by decide) (by decide) (.char (by decide) (by decide) (.escaped .nil)))))
    exact ⟨state, steps, (string_of_steps accepted steps content rfl rfl).1 inside _
      (string.firstUnescaped rfl _)⟩
  · let text : List Char := ['}', '}', '\\', '\\', '\\', '\'']
    let state : State := ⟨⟨⟨2, 1, 3⟩, '\'' :: text⟩, some opened⟩
    have steps : Scanner.standard.Steps (.initial "\x7b\x7b'\x7d\x7d\\\\\\'") 1
        [opened.token] state := .emitted .refl rfl
    obtain ⟨passed, follows⟩ := (Scanner.placed_of_steps steps).follows
    have content := Scanner.readsContent_standard rfl (by decide) follows rfl rfl
    have escaped : ∀ before after, text = before ++ '\'' :: after → Escapes before :=
      (throughQuote?_eq_none_iff rfl).1 rfl
    exact (string_of_steps accepted steps content rfl rfl).2 escaped

end TemplateTags
