import TemplateTags.Proofs.Lookahead
import TemplateTags.Proofs.Places

/-!
# Final errors

An error about text that has been read stays when more text follows the source. It is found with two
characters left, which is as far as the scanner must look to reject what stands there. Only an
opening delimiter of a block can still grow by the trim modifier. An error about text that is
missing is another matter: the text that follows may supply it.
-/

namespace TemplateTags

open Text

/-- Whether what is wrong has been read, rather than missed. -/
def LexError.Cause.isFinal : LexError.Cause → Bool
  | .unknownToken _ | .unexpectedOpen .. | .unmatchedClose _ | .mismatchedClose .. => true
  | .unterminatedString _ | .unterminatedTag .. => false

/-- The token with the trim modifier that stands behind it. -/
def Token.trimmed (token : Token) : Token :=
  ⟨token.kind, token.value.push trimModifier, { token.span with stop := token.span.stop + 1 }⟩

/-- The error is about a plain opening delimiter of a block that ends the source, and the text goes
on with the trim modifier. -/
structure LexError.RunsOn (error : LexError) (source text : String) (found opened : Token) :
    Prop where
  cause : error.cause = .unexpectedOpen found opened
  plain : found.value = "\x7b%"
  last : found.span.stop = source.utf8ByteSize
  modifier : text.toList.head? = some trimModifier

/-! ## What is rejected by two characters -/

/-- Each operator starts with one of at most two characters, so two characters suffice to see that
none stands there. -/
theorem operatorAt?_eq_none_append {rest : List Char} (enough : 2 ≤ rest.length)
    (noOperator : operatorAt? rest = none) (text : List Char) :
    operatorAt? (rest ++ text) = none := by
  have shortened : ∀ operator ∈ operators, operator.take 2 ∈ operators := by decide
  by_contra some
  obtain ⟨operator, found⟩ := Option.ne_none_iff_exists'.1 some
  obtain ⟨listed, start⟩ := operatorAt?_eq_some found
  have within : operator.take 2 <+: rest := by
    apply List.prefix_of_prefix_length_le ((List.take_prefix 2 operator).trans start)
      (List.prefix_append rest text)
    rw [List.length_take]
    omega
  exact operatorAt?_ne_none (shortened operator listed) within noOperator

namespace Lexeme

/-- A character starts no lexeme exactly if it is a mark that no operator and no punctuation
starts with. -/
theorem read_eq_unknown_iff {stops : List Char → Bool} {char : Char} {rest : List Char}
    (free : stops (char :: rest) = false) :
    read stops char rest = .unknown char ↔
      Text.isBlank char = false ∧ isQuote char = false ∧ isMarkChar char ∧
        operatorAt? (char :: rest) = none ∧ Punctuation.ofChar? char = none := by
  cases blank : Text.isBlank char with
  | true => simp [read, blank]
  | false =>
  cases quote : isQuote char with
  | true =>
    simp only [read, blank, quote, Bool.false_eq_true, if_false, if_true]
    split <;> simp
  | false =>
  cases mark : isMarkChar char with
  | true =>
    simp only [read, blank, quote, mark, Bool.false_eq_true, if_false, if_true]
    split <;> rename_i operator
    · simp [operator]
    · split <;> rename_i punctuation <;> simp [operator, punctuation]
  | false =>
    have inWord : isWordChar char := by simp [isWordChar, blank, quote, mark]
    have notEmpty := takeRun_ne_nil inWord free
    simp [read, blank, quote, mark]

end Lexeme

/-- A mark that starts neither an operator nor punctuation is one of two. -/
theorem eq_of_isMarkChar {char : Char} (mark : isMarkChar char)
    (noOperator : [char] ∉ operators) (noPunctuation : Punctuation.ofChar? char = none) :
    char = '#' ∨ char = '!' := by
  have all : markChars.all fun char =>
      [char] ∉ operators → Punctuation.ofChar? char = none → char = '#' ∨ char = '!' := by
    decide
  have listed : char ∈ markChars := by simpa [isMarkChar] using mark
  exact of_decide_eq_true (List.all_eq_true.1 all char listed) noOperator noPunctuation

/-- A character that starts no lexeme is one of two, and one of these only without an equals sign
behind it. -/
theorem Lexeme.eq_of_read_eq_unknown {stops : List Char → Bool} {char : Char} {rest : List Char}
    (free : stops (char :: rest) = false) (reads : read stops char rest = .unknown char) :
    char = '#' ∨ char = '!' ∧ ¬ ['!', '='] <+: char :: rest := by
  obtain ⟨-, -, mark, noOperator, noPunctuation⟩ := (read_eq_unknown_iff free).1 reads
  have notSingle : [char] ∉ operators := fun listed =>
    operatorAt?_ne_none listed ⟨rest, rfl⟩ noOperator
  rcases eq_of_isMarkChar mark notSingle noPunctuation with hash | bang
  · exact .inl hash
  · exact .inr ⟨bang, fun start => operatorAt?_ne_none (by decide) start noOperator⟩

namespace Scanner

variable {rest : List Char} {family : Family}

/-- But for the one with the trim modifier, closing delimiters have two characters. -/
theorem closeAt?_standard_append_of_ne {char next : Char} (noMinus : char ≠ '-')
    (noClose : standard.delimiters.closeAt? (char :: next :: rest) = none) (text : List Char) :
    standard.delimiters.closeAt? (char :: next :: rest ++ text) = none := by
  rw [Delimiters.closeAt?_eq_none_iff, closings_standard] at noClose ⊢
  simpa [noMinus.symm] using noClose

/-- Where a delimiter closes a tag of another family, none closes a tag of this one. -/
theorem closeOf?_standard_append_of_foreign {literal : Literal}
    (closes : standard.delimiters.closeAt? rest = some literal)
    (foreign : standard.delimiters.closeOf? family rest = none) (text : List Char) :
    standard.delimiters.closeOf? family (rest ++ text) = none := by
  obtain ⟨listed, more, rfl⟩ := Delimiters.closeAt?_eq_some closes
  simp only [closings_standard, List.mem_cons, List.not_mem_nil, or_false] at listed
  rcases listed with rfl | rfl | rfl | rfl <;> cases family <;> first | rfl | cases foreign

/-- An opening delimiter that is found is found with any text behind it, unless the trim modifier
makes it another one. -/
theorem openAt?_standard_append_of_some {literal : Literal} {text : List Char}
    (opening : standard.delimiters.openAt? rest = some literal)
    (noModifier : rest = ['{', '%'] → text.head? ≠ some '-') :
    standard.delimiters.openAt? (rest ++ text) = some literal := by
  obtain ⟨listed, more, rfl⟩ := Delimiters.openAt?_eq_some opening
  simp only [openings_standard, List.mem_cons, List.not_mem_nil, or_false] at listed
  rcases listed with rfl | rfl | rfl | rfl
  case inr.inl =>
    cases more with
    | nil => exact @openAt?_blockStart false _ fun _ => noModifier rfl
    | cons char more =>
      refine @openAt?_blockStart false _ fun _ minus => ?_
      obtain rfl : char = '-' := by simpa using minus
      cases opening
  all_goals rfl

/-- No closing delimiter stands where an opening one does. -/
theorem closeAt?_standard_append_of_openAt? {literal : Literal}
    (opening : standard.delimiters.openAt? rest = some literal) (text : List Char) :
    standard.delimiters.closeAt? (rest ++ text) = none := by
  obtain ⟨listed, more, rfl⟩ := Delimiters.openAt?_eq_some opening
  simp only [openings_standard, List.mem_cons, List.not_mem_nil, or_false] at listed
  rcases listed with rfl | rfl | rfl | rfl <;> rfl

/-! ## Failing steps -/

variable {state : State} {error : LexError}

/-- A final error is found with two characters left. -/
theorem Rule.two_le_of_isFinal (rule : standard.Rule state (.failed error))
    (final : error.cause.isFinal) : 2 ≤ state.input.rest.length := by
  have kept : ∀ {family : Family} {input : Input}, standard.givesUp family input = false →
      2 ≤ input.rest.length := fun isKept => (@givesUp_usual_eq_false_iff .skip _ _).1 isKept
  cases rule with
  | unmatchedClose closes =>
    obtain ⟨listed, start⟩ := Delimiters.closeAt?_eq_some closes
    exact Nat.le_trans (bounds_of_mem_closings _ listed).1 start.length_le
  | outerRefused _ _ _ policy => cases policy
  | unterminated => cases final
  | mismatchedClose isKept => exact kept isKept
  | unexpectedOpen isKept => exact kept isKept
  | unknown _ isKept => exact kept isKept
  | unclosedString => cases final

/-- A final error is found with more text at the end, too, unless a plain opening delimiter of a
block goes on there with the trim modifier. -/
theorem Rule.failed_extend (rule : standard.Rule state (.failed error))
    (final : error.cause.isFinal) {text : List Char}
    (noModifier : state.input.rest = ['{', '%'] → text.head? ≠ some '-') :
    standard.Rule (state.extend text) (.failed error) := by
  have enough := rule.two_le_of_isFinal final
  have keeps : ∀ {family : Family} {input : Input}, standard.givesUp family input = false →
      standard.givesUp family (input.extend text) = false := fun isKept =>
    @givesUp_usual_extend .skip _ _ isKept text
  cases rule with
  | @unmatchedClose input literal closes =>
    exact (.unmatchedClose (closeAt?_standard_append_of_some closes text) :
      standard.Rule ⟨input.extend text, none⟩ _)
  | outerRefused _ _ _ policy => cases policy
  | unterminated => cases final
  | @mismatchedClose input opened literal isKept noComment closes foreign =>
    exact (.mismatchedClose (keeps isKept) noComment
      (closeAt?_standard_append_of_some closes text)
      (closeOf?_standard_append_of_foreign closes foreign text) :
      standard.Rule ⟨input.extend text, some opened⟩ _)
  | @unexpectedOpen input opened literal isKept noComment noClose opening =>
    exact (.unexpectedOpen (keeps isKept) noComment
      (closeAt?_standard_append_of_openAt? opening text)
      (openAt?_standard_append_of_some opening noModifier) :
      standard.Rule ⟨input.extend text, some opened⟩ _)
  | @unknown input opened char rest split isKept noComment noClose noOpen reads =>
    simp only [split] at noClose enough
    obtain ⟨blank, quote, mark, noOperator, noPunctuation⟩ :=
      (Lexeme.read_eq_unknown_iff (Delimiters.closesAt_eq_false_iff.2 noClose)).1 reads
    have isBang := (Lexeme.eq_of_read_eq_unknown
      (Delimiters.closesAt_eq_false_iff.2 noClose) reads).imp_right And.left
    have extendedNoClose : standard.delimiters.closeAt? (char :: (rest ++ text)) = none := by
      obtain ⟨next, others, rfl⟩ := List.exists_cons_of_length_pos (Nat.lt_of_succ_lt_succ enough)
      refine closeAt?_standard_append_of_ne ?_ noClose text
      rcases isBang with rfl | rfl <;> decide
    have extendedNoOpen : standard.delimiters.openAt? (char :: (rest ++ text)) = none := by
      apply openAt?_standard_of_ne
      rcases isBang with rfl | rfl <;> decide
    have extendedReads := (Lexeme.read_eq_unknown_iff
      (Delimiters.closesAt_eq_false_iff.2 extendedNoClose)).2
      ⟨blank, quote, mark, operatorAt?_eq_none_append enough noOperator text, noPunctuation⟩
    have extended : (input.extend text).rest = char :: (rest ++ text) := by
      rw [Input.extend, split, List.cons_append]
    exact (.unknown extended (keeps isKept) noComment (extended ▸ extendedNoClose)
      (extended ▸ extendedNoOpen) extendedReads :
      standard.Rule ⟨input.extend text, some opened⟩ _)
  | unclosedString => cases final

/-- Where only a plain opening delimiter of a block is left, a final error is about it. -/
theorem Rule.exists_unexpectedOpen (rule : standard.Rule state (.failed error))
    (final : error.cause.isFinal) (plain : state.input.rest = ['{', '%']) :
    ∃ opened, error.cause =
      .unexpectedOpen (state.input.token (.opening .block) ['{', '%']) opened := by
  cases rule with
  | unmatchedClose closes | mismatchedClose _ _ closes =>
    rw [plain] at closes
    cases closes
  | outerRefused _ _ _ policy => cases policy
  | unterminated | unclosedString => cases final
  | unexpectedOpen _ _ _ opening =>
    rw [plain] at opening
    cases opening
    exact ⟨_, rfl⟩
  | unknown _ _ _ _ noOpen =>
    rw [plain] at noOpen
    cases noOpen

/-- An opening delimiter inside a tag is reported where it stands. -/
theorem Rule.span_of_unexpectedOpen {scanner : Scanner}
    (rule : scanner.Rule state (.failed error)) {found opened : Token}
    (cause : error.cause = .unexpectedOpen found opened) : error.span = found.span := by
  cases rule with
  | unexpectedOpen =>
    obtain ⟨rfl, -⟩ := LexError.Cause.unexpectedOpen.inj cause
    rfl
  | _ => cases cause

/-- The delimiter that a text can make longer is all that is left. -/
theorem Rule.rest_of_runsOn (rule : standard.Rule state (.failed error)) {source text : String}
    {passed : List Char} (follows : state.input.Follows source passed) {found opened : Token}
    (runsOn : error.RunsOn source text found opened) : state.input.rest = ['{', '%'] := by
  obtain ⟨cause, plain, last, -⟩ := runsOn
  cases rule with
  | @unexpectedOpen input _ literal _ _ _ opening =>
    obtain ⟨rfl, -⟩ := LexError.Cause.unexpectedOpen.inj cause
    have literal_eq : literal.text = ['{', '%'] := by
      simpa [Input.token] using congrArg String.toList plain
    obtain ⟨more, split⟩ := (Delimiters.openAt?_eq_some opening).2
    -- The delimiter ends with the source, so nothing follows it.
    have nothing : more = [] := by
      by_contra notEmpty
      have bytes := byteLength_pos notEmpty
      rw [Input.stop_token, follows.here, ← byteLength_toList, follows.text, ← split] at last
      simp [Location.first] at last
      omega
    rw [← split, nothing, literal_eq, List.append_nil]
  | _ => cases cause

/-- An opening delimiter with the trim modifier is the one without it, extended by the modifier. -/
theorem token_trimmed (input : Input) :
    input.token (.opening .block) ['{', '%', '-'] =
      (input.token (.opening .block) ['{', '%']).trimmed := by
  have oneByte : '-'.utf8Size = 1 := rfl
  simp [Input.token, Token.trimmed, Location.spanTo, trimModifier, oneByte]

/-- A plain opening delimiter of a block inside a tag is at fault with the trim modifier, too. -/
theorem Rule.unexpectedOpen_extend (rule : standard.Rule state (.failed error))
    {found opened : Token} (cause : error.cause = .unexpectedOpen found opened)
    (plain : state.input.rest = ['{', '%']) (text : List Char) :
    standard.Rule (state.extend (trimModifier :: text))
      (.failedOver (.unexpectedOpen · opened) found.trimmed) := by
  cases rule with
  | @unexpectedOpen input isOpen literal isKept noComment _ opening =>
    obtain ⟨rfl, rfl⟩ := LexError.Cause.unexpectedOpen.inj cause
    replace plain : input.rest = ['{', '%'] := plain
    rw [plain] at opening
    obtain rfl : ⟨['{', '%'], .block⟩ = literal := Option.some.inj opening
    have extended : (input.extend (trimModifier :: text)).rest =
        ['{', '%', '-'] ++ text := by
      simp [Input.extend, plain, trimModifier]
    have noClose : standard.delimiters.closeAt?
        (input.extend (trimModifier :: text)).rest = none := by
      rw [extended]
      rfl
    have trimmed : standard.delimiters.openAt? (input.extend (trimModifier :: text)).rest =
        some ⟨['{', '%', '-'], .block⟩ := by
      rw [extended]
      rfl
    rw [← token_trimmed]
    exact (.unexpectedOpen (@givesUp_usual_extend .skip _ _ isKept _) noComment noClose trimmed :
      standard.Rule ⟨input.extend (trimModifier :: text), some isOpen⟩ _)
  | _ => cases cause

end Scanner

/-- An error about text that has been read is the error with more text behind the source, too. Only
an opening delimiter of a block inside a tag may grow by the trim modifier. -/
theorem tokenize_append_of_isFinal {source : String} {error : LexError}
    (scanned : tokenize source = .error error) (final : error.cause.isFinal) (text : String) :
    ((¬ ∃ found opened, error.RunsOn source text found opened) →
        tokenize (source ++ text) = .error error) ∧
      ∀ found opened, error.RunsOn source text found opened → error.span = found.span ∧
        tokenize (source ++ text) =
          .error ⟨.unexpectedOpen found.trimmed opened, found.trimmed.span⟩ := by
  obtain ⟨count, tokens, finish, steps, fails⟩ := Scanner.tokensFrom_eq_error_iff.1 scanned
  have rule := Scanner.rule_of_step_eq fails
  obtain ⟨passed, follows⟩ := (Scanner.placed_of_steps steps).follows
  have extended : Scanner.standard.Steps (.initial (source ++ text)) count tokens
      (finish.extend text.toList) := by
    rw [State.initial_append]
    exact @Scanner.Steps.extend .skip _ _ _ _ steps (rule.two_le_of_isFinal final) _
  constructor
  · intro notRunningOn
    refine Scanner.tokensFrom_eq_error_iff.2 ⟨count, tokens, _, extended, ?_⟩
    refine (rule.failed_extend final fun plain modifier => notRunningOn ?_).step_eq
    obtain ⟨opened, cause⟩ := rule.exists_unexpectedOpen final plain
    refine ⟨_, opened, cause, rfl, ?_, modifier⟩
    rw [Input.stop_token, follows.here, ← byteLength_toList, follows.text, plain]
    simp [Location.first]
  · intro found opened runsOn
    have plain := rule.rest_of_runsOn follows runsOn
    obtain ⟨rest, split⟩ := List.head?_eq_some_iff.1 runsOn.modifier
    refine ⟨rule.span_of_unexpectedOpen runsOn.cause,
      Scanner.tokensFrom_eq_error_iff.2 ⟨count, tokens, _, extended, ?_⟩⟩
    rw [split]
    exact (rule.unexpectedOpen_extend runsOn.cause plain rest).step_eq

/-- A delimiter of a block inside a variable tag, with a closing brace and with the trim modifier
behind it. -/
theorem tokenize_append_of_isFinal_open :
    tokenize ("\x7b\x7b \x7b%" ++ "\x7d") =
        .error ⟨.unexpectedOpen ⟨.opening .block, "\x7b%", ⟨3, 5, 1, 4⟩⟩
          ⟨.opening .var, "\x7b\x7b", ⟨0, 2, 1, 1⟩⟩, ⟨3, 5, 1, 4⟩⟩ ∧
      tokenize ("\x7b\x7b \x7b%" ++ "-%\x7d") =
        .error ⟨.unexpectedOpen ⟨.opening .block, "\x7b%-", ⟨3, 6, 1, 4⟩⟩
          ⟨.opening .var, "\x7b\x7b", ⟨0, 2, 1, 1⟩⟩, ⟨3, 6, 1, 4⟩⟩ := by
  let found : Token := ⟨.opening .block, "\x7b%", ⟨3, 5, 1, 4⟩⟩
  let opened : Token := ⟨.opening .var, "\x7b\x7b", ⟨0, 2, 1, 1⟩⟩
  have scanned : tokenize "\x7b\x7b \x7b%" =
      .error ⟨.unexpectedOpen found opened, found.span⟩ := by
    decide +kernel
  constructor
  · refine (tokenize_append_of_isFinal scanned rfl "\x7d").1 ?_
    rintro ⟨_, _, runsOn⟩
    cases runsOn.modifier
  · exact ((tokenize_append_of_isFinal scanned rfl "-%\x7d").2 found opened
      ⟨rfl, rfl, rfl, rfl⟩).2

end TemplateTags
