import TemplateTags.Proofs.Borders

/-!
# Lookahead

With the usual delimiters a scan decides what to do by no more than three characters, and a token
by no more than the two behind it. So more text at the end of the source changes nothing that was
done with two characters to spare, by `Scanner.Steps.extend`.

Text cut off from the end changes nothing that a step did before it, whatever the delimiters are,
but in two cases: the scanner may give up on the open tag, and it may miss the delimiter at which a
token ends. `Scanner.Rule.skipped_cut` and `Scanner.Rule.emitted_cut` leave these cases to the run.
With the usual delimiters a token ends at no delimiter that would not end it anyway.
-/

namespace TemplateTags

/-! ## Tables of texts -/

section Tables

variable {α : Type} (key : α → List Char) {table : List α} {rest : List Char}

/-- What is found in a table at the head of a text is found with more text behind it, if no entry
of the table reaches that far. -/
theorem find?_isPrefixOf_append (short : ∀ entry ∈ table, (key entry).length ≤ rest.length)
    (text : List Char) :
    table.find? (fun entry => (key entry).isPrefixOf (rest ++ text)) =
      table.find? fun entry => (key entry).isPrefixOf rest := by
  induction table with
  | nil => rfl
  | cons entry table inductionHypothesis =>
    obtain ⟨fits, others⟩ := List.forall_mem_cons.1 short
    have same : (key entry).isPrefixOf (rest ++ text) = (key entry).isPrefixOf rest := by
      rw [Bool.eq_iff_iff, List.isPrefixOf_iff_prefix, List.isPrefixOf_iff_prefix]
      constructor
      · intro start
        exact List.prefix_of_prefix_length_le start (List.prefix_append rest text) fits
      · intro start
        exact start.trans (List.prefix_append rest text)
    rw [List.find?_cons, List.find?_cons, same, inductionHypothesis others]

/-- An entry that is found at the head of a text and fits in a first part of it is found there. -/
theorem find?_isPrefixOf_of_append {text : List Char} {found : α}
    (finds : table.find? (fun entry => (key entry).isPrefixOf (rest ++ text)) = some found)
    (fits : key found <+: rest) :
    table.find? (fun entry => (key entry).isPrefixOf rest) = some found := by
  obtain ⟨-, earlier, later, rfl, free⟩ := List.find?_eq_some_iff_append.1 finds
  refine List.find?_eq_some_iff_append.2
    ⟨List.isPrefixOf_iff_prefix.2 fits, earlier, later, rfl, ?_⟩
  intro entry member
  have notStarting := free entry member
  simp only [Bool.not_eq_true', Bool.eq_false_iff, ne_eq, List.isPrefixOf_iff_prefix]
    at notStarting ⊢
  exact fun start => notStarting (start.trans (List.prefix_append rest text))

/-- Where no entry is found at the head of a text, none is at the head of a first part of it. -/
theorem find?_isPrefixOf_eq_none_of_append {text : List Char}
    (finds : table.find? (fun entry => (key entry).isPrefixOf (rest ++ text)) = none) :
    table.find? (fun entry => (key entry).isPrefixOf rest) = none := by
  rw [List.find?_eq_none] at finds ⊢
  intro entry member start
  rw [List.isPrefixOf_iff_prefix] at start
  exact finds entry member (List.isPrefixOf_iff_prefix.2 (start.trans (List.prefix_append ..)))

end Tables

/-! ## Delimiters and operators -/

namespace Delimiters

variable {delimiters : Delimiters} {rest text : List Char}

/-- An opening literal found in a longer text is found in the text itself if it fits. -/
theorem openAt?_of_append {literal : Literal}
    (found : delimiters.openAt? (rest ++ text) = some literal) (fits : literal.text <+: rest) :
    delimiters.openAt? rest = some literal :=
  find?_isPrefixOf_of_append Literal.text found fits

theorem openAt?_eq_none_of_append (found : delimiters.openAt? (rest ++ text) = none) :
    delimiters.openAt? rest = none :=
  find?_isPrefixOf_eq_none_of_append Literal.text found

theorem closeAt?_eq_none_of_append (found : delimiters.closeAt? (rest ++ text) = none) :
    delimiters.closeAt? rest = none :=
  find?_isPrefixOf_eq_none_of_append Literal.text found

/-- A closing literal found for a family in a longer text is found in the text itself if it fits. -/
theorem closeOf?_of_append {family : Family} {literal : Literal}
    (found : delimiters.closeOf? family (rest ++ text) = some literal)
    (fits : literal.text <+: rest) : delimiters.closeOf? family rest = some literal :=
  find?_isPrefixOf_of_append Literal.text found fits

/-- Where no closing literal is found for a family in a longer text, none is found in the text
itself. -/
theorem closeOf?_eq_none_of_append {family : Family}
    (found : delimiters.closeOf? family (rest ++ text) = none) :
    delimiters.closeOf? family rest = none :=
  find?_isPrefixOf_eq_none_of_append Literal.text found

end Delimiters

/-- No operator is longer than three characters, so text behind three does not matter. -/
theorem operatorAt?_append {rest : List Char} (enough : 3 ≤ rest.length) (text : List Char) :
    operatorAt? (rest ++ text) = operatorAt? rest := by
  have short : ∀ operator ∈ operators, operator.length ≤ 3 := by decide
  exact find?_isPrefixOf_append id
    (fun operator listed => Nat.le_trans (short operator listed) enough) _

/-- An operator found in a longer text is found in the text itself if it fits. -/
theorem operatorAt?_of_append {rest text operator : List Char}
    (found : operatorAt? (rest ++ text) = some operator) (fits : operator <+: rest) :
    operatorAt? rest = some operator :=
  find?_isPrefixOf_of_append id found fits

theorem operatorAt?_eq_none_of_append {rest text : List Char}
    (found : operatorAt? (rest ++ text) = none) : operatorAt? rest = none :=
  find?_isPrefixOf_eq_none_of_append id found

namespace Scanner

/-- The scanner for the usual delimiters, with either rule for text outside every tag. -/
def usual (outerText : OuterText) : Scanner :=
  { standard with outerText }

/-- With the usual delimiters and a rule for text outside of tags, a scan is what the scanner
finds. -/
theorem scan_of_tokens {outerText : OuterText} {source : String} {tokens : List Token}
    (scanned : (usual outerText).tokens source = .ok tokens) :
    scan { outerText } source = .ok ⟨source, tokens⟩ :=
  scan_eq_ok_iff.2
    ⟨_, ofOptions_eq_ok_iff.2 ⟨rfl, rfl, rfl, rfl⟩, scanned, rfl⟩

variable {outerText : OuterText} {rest : List Char} {family : Family}

/-- The usual delimiters have two or three characters. -/
theorem bounds_of_mem_openings : ∀ literal ∈ standard.delimiters.openings,
    2 ≤ literal.text.length ∧ literal.text.length ≤ 3 := by
  decide

/-- A closing literal has two or three characters. -/
theorem bounds_of_mem_closings : ∀ literal ∈ standard.delimiters.closings,
    2 ≤ literal.text.length ∧ literal.text.length ≤ 3 := by
  decide

/-- Text behind three characters does not matter to which closing literal is found. -/
theorem closeAt?_standard_append (enough : 3 ≤ rest.length) (text : List Char) :
    standard.delimiters.closeAt? (rest ++ text) = standard.delimiters.closeAt? rest :=
  find?_isPrefixOf_append Literal.text
    (fun literal listed => Nat.le_trans (bounds_of_mem_closings literal listed).2 enough) _

/-- Text behind three characters does not matter to which opening literal is found. -/
theorem openAt?_standard_append (enough : 3 ≤ rest.length) (text : List Char) :
    standard.delimiters.openAt? (rest ++ text) = standard.delimiters.openAt? rest :=
  find?_isPrefixOf_append Literal.text
    (fun literal listed => Nat.le_trans (bounds_of_mem_openings literal listed).2 enough) _

/-- Text behind three characters does not matter to which closing literal is found for a family. -/
theorem closeOf?_standard_append (enough : 3 ≤ rest.length) (text : List Char) :
    standard.delimiters.closeOf? family (rest ++ text) =
      standard.delimiters.closeOf? family rest := by
  refine find?_isPrefixOf_append Literal.text (fun literal listed => ?_) _
  exact Nat.le_trans (bounds_of_mem_closings literal (List.mem_filter.1 listed).1).2 enough

/-- No two usual closing delimiters begin with the same character, so the one that is found is
found with any text behind it. -/
theorem closeAt?_standard_append_of_some {literal : Literal}
    (found : standard.delimiters.closeAt? rest = some literal) (text : List Char) :
    standard.delimiters.closeAt? (rest ++ text) = some literal := by
  obtain ⟨listed, more, rfl⟩ := Delimiters.closeAt?_eq_some found
  simp only [closings_standard, List.mem_cons, List.not_mem_nil, or_false] at listed
  rcases listed with rfl | rfl | rfl | rfl <;> rfl

/-- A closing literal that is found for a family is found with any text behind it. -/
theorem closeOf?_standard_append_of_some {literal : Literal}
    (found : standard.delimiters.closeOf? family rest = some literal) (text : List Char) :
    standard.delimiters.closeOf? family (rest ++ text) = some literal := by
  obtain ⟨listed, rfl, more, rfl⟩ := Delimiters.closeOf?_eq_some found
  simp only [closings_standard, List.mem_cons, List.not_mem_nil, or_false] at listed
  rcases listed with rfl | rfl | rfl | rfl <;> rfl

/-- With the usual delimiters a scanner gives up on a tag when a single character is left. -/
theorem givesUp_usual_eq_false_iff {input : Input} :
    (usual outerText).givesUp family input = false ↔ 2 ≤ input.rest.length := by
  have early : (usual outerText).givesUp family input =
      input.fewerThan (standard.delimiters.minCloseLength family) := rfl
  rw [early, minCloseLength_standard, Bool.eq_false_iff, ne_eq, Input.fewerThan_iff, Nat.not_lt]

end Scanner

/-! ## Lexemes -/

/-- A blank character is in no delimiter and no operator. -/
theorem isMarkChar_of_isBlank {char : Char} (blank : Text.isBlank char) :
    isMarkChar char = false := by
  have noBlank : markChars.all (!Text.isBlank ·) := by decide
  rw [Bool.eq_false_iff]
  intro mark
  have := List.all_eq_true.1 noBlank char (by simpa [isMarkChar] using mark)
  simp [blank] at this

/-- A character of a word is in no delimiter and no operator. -/
theorem isMarkChar_of_isWordChar {char : Char} (inWord : isWordChar char) :
    isMarkChar char = false := by
  have := (Bool.and_eq_true_iff.1 (Bool.and_eq_true_iff.1 inWord).1).2
  simpa using this

/-- The usual closing delimiters begin with marks. -/
theorem isMarkChar_of_closesAt {char : Char} {rest : List Char}
    (closes : Scanner.standard.delimiters.closesAt (char :: rest)) : isMarkChar char := by
  have marked : ∀ literal ∈ Scanner.standard.delimiters.closings,
      literal.text.head?.all isMarkChar := by decide
  obtain ⟨literal, found⟩ := Option.isSome_iff_exists.1 closes
  obtain ⟨listed, start⟩ := Delimiters.closeAt?_eq_some found
  obtain ⟨first, others, text_eq⟩ :=
    List.exists_cons_of_ne_nil (Scanner.standard.nonempty literal (by simp [listed]))
  rw [text_eq] at start
  obtain rfl := (List.cons_prefix_cons.1 start).1
  simpa [text_eq] using marked literal listed

/-- Runs without marks never reach a usual closing delimiter. -/
theorem takeRun_standard {inClass : Char → Bool}
    (noMark : ∀ char, inClass char → isMarkChar char = false) (text : List Char) :
    takeRun inClass Scanner.standard.delimiters.closesAt text = text.takeWhile inClass := by
  induction text with
  | nil => rfl
  | cons char rest inductionHypothesis =>
    rw [takeRun, List.takeWhile_cons, inductionHypothesis]
    cases member : inClass char with
    | false => simp
    | true =>
      have free : Scanner.standard.delimiters.closesAt (char :: rest) = false := by
        rw [Bool.eq_false_iff]
        intro closes
        have mark := isMarkChar_of_closesAt closes
        simp [noMark char member] at mark
      simp [free]

/-- A run that ends before the text does ends there with more text, too. -/
theorem takeWhile_append_of_length_lt {inClass : Char → Bool} {rest : List Char}
    (shorter : (rest.takeWhile inClass).length < rest.length) (text : List Char) :
    (rest ++ text).takeWhile inClass = rest.takeWhile inClass := by
  rw [List.takeWhile_append, if_neg (Nat.ne_of_lt shorter)]

/-- A run that ends in a first part of the text is the run of that part, if a delimiter at which it
ends is closed by that part. -/
theorem takeRun_of_append {inClass : Char → Bool} {delimiters : Delimiters}
    {rest text : List Char}
    (fits : takeRun inClass delimiters.closesAt (rest ++ text) <+: rest)
    (stops : ∀ first behind,
      rest = takeRun inClass delimiters.closesAt (rest ++ text) ++ first :: behind →
        inClass first → delimiters.closesAt (first :: behind ++ text) →
          delimiters.closesAt (first :: behind)) :
    takeRun inClass delimiters.closesAt rest =
      takeRun inClass delimiters.closesAt (rest ++ text) := by
  induction rest with
  | nil => exact (List.prefix_nil.1 fits).symm
  | cons char rest inductionHypothesis =>
    rw [List.cons_append, takeRun] at fits stops ⊢
    rw [takeRun]
    cases member : inClass char with
    | false => simp
    | true =>
      cases closes : delimiters.closesAt (char :: (rest ++ text)) with
      | true =>
        have closesCut : delimiters.closesAt (char :: rest) :=
          stops char rest (by simp [closes]) member closes
        simp [closesCut]
      | false =>
        have free : delimiters.closesAt (char :: rest) = false :=
          Delimiters.closesAt_eq_false_iff.2
            (Delimiters.closeAt?_eq_none_of_append (Delimiters.closesAt_eq_false_iff.1 closes))
        simp only [member, closes, Bool.not_false, Bool.and_self, if_true,
          List.cons_append, List.cons.injEq, true_and] at fits stops
        simp only [free, Bool.not_false, Bool.and_self, if_true, List.cons.injEq, true_and]
        exact inductionHypothesis ((List.prefix_cons_inj char).1 fits) stops

/-- What is read through a closing quote is read so with any text behind it. -/
theorem throughQuote?_append {quote : Char} {rest inside : List Char}
    (closed : throughQuote? quote rest = some inside) (text : List Char) :
    throughQuote? quote (inside ++ text) = some inside := by
  fun_induction throughQuote? quote rest generalizing inside with
  | case1 => simp at closed
  | case2 => simp at closed
  | case3 escaped rest inductionHypothesis =>
    obtain ⟨tail, found, rfl⟩ := Option.map_eq_some_iff.1 closed
    simp [throughQuote?, inductionHypothesis found]
  | case4 rest noEscapeEnd noEscape =>
    obtain rfl : inside = [quote] := by simpa using closed.symm
    have noBackslash := ne_backslash_of_not_escape noEscapeEnd noEscape
    rw [List.singleton_append, throughQuote?_cons noBackslash, if_pos rfl]
  | case5 char rest noEscapeEnd noEscape noQuote inductionHypothesis =>
    obtain ⟨tail, found, rfl⟩ := Option.map_eq_some_iff.1 closed
    have noBackslash := ne_backslash_of_not_escape noEscapeEnd noEscape
    rw [List.cons_append, throughQuote?_cons noBackslash, if_neg noQuote,
      inductionHypothesis found]
    rfl

namespace Lexeme.Reads

open Scanner

variable {char : Char} {rest value : List Char} {kind : Kind}

/-- A lexeme that ends before the text does is read with more text, too. -/
theorem append (reads : Reads standard.delimiters.closesAt char rest kind value)
    (enough : 3 ≤ (char :: rest).length) (shorter : value.length < (char :: rest).length)
    (text : List Char) :
    Reads standard.delimiters.closesAt char (rest ++ text) kind value := by
  cases reads with
  | whitespace blank =>
    rw [takeRun_standard @isMarkChar_of_isBlank] at shorter ⊢
    rw [← takeWhile_append_of_length_lt shorter text, ← takeRun_standard @isMarkChar_of_isBlank]
    exact .whitespace blank
  | @string inside noBlank quote closed =>
    refine .string noBlank quote ?_
    obtain ⟨more, rfl⟩ := isPrefix_throughQuote? closed
    rw [List.append_assoc]
    exact throughQuote?_append closed _
  | operator noBlank noQuote mark found =>
    refine .operator noBlank noQuote mark ?_
    rw [← List.cons_append, operatorAt?_append enough, found]
  | punctuation noBlank noQuote isMark noOperator writes =>
    refine .punctuation noBlank noQuote isMark ?_ writes
    rw [← List.cons_append, operatorAt?_append enough, noOperator]
  | word noBlank noQuote noMark run notEmpty =>
    refine .word noBlank noQuote noMark ?_ notEmpty
    rw [takeRun_standard @isMarkChar_of_isWordChar] at run ⊢
    rw [← run] at shorter
    rw [← run, ← List.cons_append, takeWhile_append_of_length_lt shorter]

/-- A lexeme that ends in a first part of the text is read from that part, too, if a delimiter at
which it ends is closed by that part. -/
theorem of_append {delimiters : Delimiters} {text : List Char}
    (reads : Reads delimiters.closesAt char (rest ++ text) kind value)
    (fits : value <+: char :: rest)
    (stops : ∀ first behind, char :: rest = value ++ first :: behind → isMarkChar first = false →
      delimiters.closesAt (first :: behind ++ text) → delimiters.closesAt (first :: behind)) :
    Reads delimiters.closesAt char rest kind value := by
  cases reads with
  | whitespace blank =>
    rw [← List.cons_append] at fits stops ⊢
    rw [← takeRun_of_append fits fun first behind split inClass =>
      stops first behind split (isMarkChar_of_isBlank inClass)]
    exact .whitespace blank
  | @string inside noBlank quote closed =>
    refine .string noBlank quote ?_
    obtain ⟨more, rfl⟩ := (List.prefix_cons_inj char).1 fits
    exact throughQuote?_append closed _
  | operator noBlank noQuote mark found =>
    exact .operator noBlank noQuote mark (operatorAt?_of_append found fits)
  | punctuation noBlank noQuote isMark noOperator writes =>
    exact .punctuation noBlank noQuote isMark (operatorAt?_eq_none_of_append noOperator) writes
  | word noBlank noQuote noMark run notEmpty =>
    refine .word noBlank noQuote noMark ?_ notEmpty
    subst run
    rw [← List.cons_append] at fits stops ⊢
    exact takeRun_of_append fits fun first behind split inClass =>
      stops first behind split (isMarkChar_of_isWordChar inClass)

end Lexeme.Reads

/-! ## More text at the end -/

/-- The input, when more text stands at the end of the source. -/
def Input.extend (input : Input) (text : List Char) : Input :=
  ⟨input.here, input.rest ++ text⟩

/-- The state, when more text stands at the end of the source. -/
def State.extend (state : State) (text : List Char) : State :=
  ⟨state.input.extend text, state.opened?⟩

/-- A first part that is consumed leaves the text behind it at the end. -/
theorem Input.consume_extend {input : Input} {value : List Char} (start : value <+: input.rest)
    (text : List Char) : (input.extend text).consume value = (input.consume value).extend text := by
  simp [Input.consume, Input.extend, List.drop_append_of_le_length start.length_le]

/-- What the input starts with stands before the text at the end, if it leaves that text. -/
theorem Input.isPrefix_of_extend {input : Input} {value text : List Char}
    (start : value <+: (input.extend text).rest)
    (ahead : text.length ≤ ((input.extend text).consume value).rest.length) :
    value <+: input.rest := by
  apply List.prefix_of_prefix_length_le start (List.prefix_append ..)
  have bounded := start.length_le
  simp only [extend, consume, List.length_drop, List.length_append] at ahead bounded
  omega

/-- A scan of two texts starts as one of the first with the second at its end. -/
theorem State.initial_append (first second : String) :
    State.initial (first ++ second) = (State.initial first).extend second.toList := by
  simp [State.initial, Input.ofString, State.extend, Input.extend]

namespace Scanner

variable {outerText : OuterText} {state next start finish : State} {token : Token}

/-- More text at the end gives no reason to give up on a tag. -/
theorem givesUp_usual_extend {family : Family} {input : Input}
    (kept : (usual outerText).givesUp family input = false) (text : List Char) :
    (usual outerText).givesUp family (input.extend text) = false := by
  rw [givesUp_usual_eq_false_iff] at kept ⊢
  simp only [Input.extend, List.length_append]
  omega

/-- A character that is passed over with two more behind it is passed over with more text at the
end. -/
theorem Rule.skipped_extend (rule : (usual outerText).Rule state (.skipped next))
    (ahead : 2 ≤ next.input.rest.length) (text : List Char) :
    (usual outerText).Rule (state.extend text) (.skipped (next.extend text)) := by
  cases rule with
  | @outerSkipped input char rest split noClose noOpen policy =>
    have start : [char] <+: input.rest := ⟨rest, split.symm⟩
    have shorter := Input.length_rest_consume_lt (List.cons_ne_nil char []) start
    have enough : 3 ≤ input.rest.length := Nat.lt_of_le_of_lt ahead shorter
    have extended : (usual outerText).Rule ⟨input.extend text, none⟩ _ :=
      .outerSkipped (by rw [Input.extend, split, List.cons_append])
        ((closeAt?_standard_append enough text).trans noClose)
        ((openAt?_standard_append enough text).trans noOpen) policy
    rwa [Input.consume_extend start] at extended
  | @commentSkipped input opened char rest split kept comment noOwn =>
    have start : [char] <+: input.rest := ⟨rest, split.symm⟩
    have shorter := Input.length_rest_consume_lt (List.cons_ne_nil char []) start
    have enough : 3 ≤ input.rest.length := Nat.lt_of_le_of_lt ahead shorter
    have extended : (usual outerText).Rule ⟨input.extend text, some opened⟩ _ :=
      .commentSkipped (by rw [Input.extend, split, List.cons_append])
        (givesUp_usual_extend kept text) comment
        ((closeOf?_standard_append enough text).trans noOwn)
    rwa [Input.consume_extend start] at extended

/-- A token that is found with two more characters behind it is found with more text at the end.
The closing delimiter of a tag needs none behind it. -/
theorem Rule.emitted_extend (rule : (usual outerText).Rule state (.emitted token next))
    (ahead : next.opened? = none ∨ 2 ≤ next.input.rest.length) (text : List Char) :
    (usual outerText).Rule (state.extend text) (.emitted token (next.extend text)) := by
  cases rule with
  | @opens input literal noClose opening =>
    have start := (Delimiters.openAt?_eq_some opening).2
    have shorter := Input.length_rest_consume_lt
      ((usual outerText).text_ne_nil_of_openAt? opening) start
    have enough : 3 ≤ input.rest.length := by
      simp only [reduceCtorEq, false_or] at ahead
      omega
    have extended : (usual outerText).Rule ⟨input.extend text, none⟩ _ :=
      .opens ((closeAt?_standard_append enough text).trans noClose)
        ((openAt?_standard_append enough text).trans opening)
    rwa [Input.consume_extend start] at extended
  | @closes input opened literal kept own =>
    have start := (Delimiters.closeOf?_eq_some own).2.2
    have extended : (usual outerText).Rule ⟨input.extend text, some opened⟩ _ :=
      .closes (givesUp_usual_extend kept text)
        (closeOf?_standard_append_of_some own text)
    rwa [Input.consume_extend start] at extended
  | @lexeme input opened char rest kind value split kept noComment noClose noOpen reads =>
    obtain ⟨notEmpty, start⟩ := piece_of_read split noClose reads
    have shorter := Input.length_rest_consume_lt notEmpty start
    simp only [reduceCtorEq, false_or] at ahead
    have enough : 3 ≤ input.rest.length := Nat.lt_of_le_of_lt ahead shorter
    have fits : value.length < input.rest.length := by
      simp only [Input.consume, List.length_drop] at ahead
      omega
    have extendedReads := (Lexeme.read_eq_token_iff.1 reads).append (split ▸ enough)
      (split ▸ fits) text
    have extended : (usual outerText).Rule ⟨input.extend text, some opened⟩ _ :=
      .lexeme (by rw [Input.extend, split, List.cons_append])
        (givesUp_usual_extend kept text) noComment
        ((closeAt?_standard_append enough text).trans noClose)
        ((openAt?_standard_append enough text).trans noOpen)
        (Lexeme.read_eq_token_iff.2 extendedReads)
    rwa [Input.consume_extend start] at extended

/-- A run with two characters left over goes the same way with more text at the end. -/
theorem Steps.extend {count : Nat} {tokens : List Token}
    (steps : (usual outerText).Steps start count tokens finish)
    (ahead : 2 ≤ finish.input.rest.length) (text : List Char) :
    (usual outerText).Steps (start.extend text) count tokens (finish.extend text) := by
  induction steps with
  | refl => exact .refl
  | @skipped count tokens state next prior skips inductionHypothesis =>
    have shorter := length_lt_of_step_eq_skipped skips
    have rule := rule_of_step_eq skips
    exact .skipped (inductionHypothesis (by omega)) (rule.skipped_extend ahead text).step_eq
  | @emitted count tokens state token next prior emits inductionHypothesis =>
    have shorter := length_lt_of_step_eq_emitted emits
    have rule := rule_of_step_eq emits
    exact .emitted (inductionHypothesis (by omega))
      (rule.emitted_extend (.inr ahead) text).step_eq

/-! ## Text cut off from the end -/

/-- A character that is passed over before a text is passed over with that text cut off, unless
the scanner gives up on the open tag then. -/
theorem Rule.skipped_cut {scanner : Scanner} {text : List Char}
    (rule : scanner.Rule (state.extend text) (.skipped next))
    (ahead : text.length ≤ next.input.rest.length)
    (kept : ∀ opened, state.opened? = some opened →
      scanner.givesUp opened.family state.input = false) :
    ∃ cut : State, next = cut.extend text ∧ scanner.Rule state (.skipped cut) := by
  obtain ⟨input, opened?⟩ := state
  simp only [State.extend] at rule
  generalize extended : input.extend text = whole at rule
  cases rule with
  | @outerSkipped _ char others split noClose noOpen policy =>
    subst extended
    have fits := Input.isPrefix_of_extend ⟨others, split.symm⟩ ahead
    have ⟨remaining, here⟩ := fits
    refine ⟨⟨input.consume [char], none⟩, ?_, ?_⟩
    · rw [Input.consume_extend fits]
      rfl
    · exact .outerSkipped here.symm (Delimiters.closeAt?_eq_none_of_append noClose)
        (Delimiters.openAt?_eq_none_of_append noOpen) policy
  | @commentSkipped _ opened char others split _ comment noOwn =>
    subst extended
    have fits := Input.isPrefix_of_extend ⟨others, split.symm⟩ ahead
    have ⟨remaining, here⟩ := fits
    refine ⟨⟨input.consume [char], some opened⟩, ?_, ?_⟩
    · rw [Input.consume_extend fits]
      rfl
    · exact .commentSkipped here.symm (kept opened rfl) comment
        (Delimiters.closeOf?_eq_none_of_append noOwn)

/-- A token that is found before a text is found with that text cut off, unless the scanner gives
up on the open tag then or misses the delimiter at which the token ends. -/
theorem Rule.emitted_cut {scanner : Scanner} {text : List Char}
    (rule : scanner.Rule (state.extend text) (.emitted token next))
    (ahead : text.length ≤ next.input.rest.length)
    (kept : ∀ opened, state.opened? = some opened →
      scanner.givesUp opened.family state.input = false)
    (stops : ∀ opened first behind, next.opened? = some opened → opened.family ≠ .comment →
      next.input.rest = first :: behind ++ text → isMarkChar first = false →
        scanner.delimiters.closesAt (first :: behind ++ text) →
          scanner.delimiters.closesAt (first :: behind)) :
    ∃ cut : State, next = cut.extend text ∧ scanner.Rule state (.emitted token cut) := by
  obtain ⟨input, opened?⟩ := state
  simp only [State.extend] at rule
  generalize extended : input.extend text = whole at rule
  cases rule with
  | @opens _ literal noClose opening =>
    subst extended
    have fits := Input.isPrefix_of_extend (Delimiters.openAt?_eq_some opening).2 ahead
    rw [Input.consume_extend fits]
    exact ⟨⟨input.consume literal.text, _⟩, rfl, .opens
      (Delimiters.closeAt?_eq_none_of_append noClose) (Delimiters.openAt?_of_append opening fits)⟩
  | @closes _ opened literal _ own =>
    subst extended
    have fits := Input.isPrefix_of_extend (Delimiters.closeOf?_eq_some own).2.2 ahead
    rw [Input.consume_extend fits]
    exact ⟨⟨input.consume literal.text, none⟩, rfl, .closes (kept opened rfl)
      (Delimiters.closeOf?_of_append own fits)⟩
  | @lexeme _ opened char others kind value split _ noComment noClose noOpen reads =>
    subst extended
    obtain ⟨notEmpty, start⟩ := piece_of_read split noClose reads
    have fits := Input.isPrefix_of_extend start ahead
    rw [Input.consume_extend fits] at stops ⊢
    obtain ⟨first, remaining, here⟩ := exists_cons_of_isPrefix notEmpty fits
    obtain ⟨rfl, rfl⟩ : first = char ∧ remaining ++ text = others := by
      simpa [Input.extend, here] using split
    have cutReads := (Lexeme.read_eq_token_iff.1 reads).of_append (here ▸ fits) <| by
      intro next behind divided
      refine stops opened next behind rfl noComment ?_
      rw [Input.extend, Input.rest_consume (here.trans divided)]
    exact ⟨⟨input.consume value, some opened⟩, rfl, .lexeme here (kept opened rfl) noComment
      (Delimiters.closeAt?_eq_none_of_append noClose)
      (Delimiters.openAt?_eq_none_of_append noOpen) (Lexeme.read_eq_token_iff.2 cutReads)⟩

/-- With the usual delimiters, two characters are enough not to give up on the open tag. -/
theorem kept_usual (kept : state.opened? = none ∨ 2 ≤ state.input.rest.length) :
    ∀ opened, state.opened? = some opened →
      (usual outerText).givesUp opened.family state.input = false := by
  intro opened isOpen
  simp only [isOpen, reduceCtorEq, false_or] at kept
  exact givesUp_usual_eq_false_iff.2 kept

/-- With the usual delimiters, a character that is passed over is passed over with text behind it
cut off. -/
theorem Rule.exists_skipped_of_extend {text : List Char}
    (rule : (usual outerText).Rule (state.extend text) (.skipped next))
    (ahead : text.length ≤ next.input.rest.length)
    (kept : state.opened? = none ∨ 2 ≤ state.input.rest.length) :
    ∃ cut : State, next = cut.extend text ∧ (usual outerText).Rule state (.skipped cut) :=
  rule.skipped_cut ahead (kept_usual kept)

/-- With the usual delimiters, a token that is found before a text is found with that text cut
off. -/
theorem Rule.exists_emitted_of_extend {text : List Char}
    (rule : (usual outerText).Rule (state.extend text) (.emitted token next))
    (ahead : text.length ≤ next.input.rest.length)
    (kept : state.opened? = none ∨ 2 ≤ state.input.rest.length) :
    ∃ cut : State, next = cut.extend text ∧
      (usual outerText).Rule state (.emitted token cut) := by
  refine rule.emitted_cut ahead (kept_usual kept) ?_
  intro opened first behind isOpen noComment split noMark closes
  simp [isMarkChar_of_closesAt closes] at noMark

end Scanner

end TemplateTags
