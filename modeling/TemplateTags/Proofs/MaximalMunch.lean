import TemplateTags.Proofs.Region

/-!
# Tokens go on as far as they can

A run of blanks or of word characters is also cut short where a closing literal starts. Then the
next step closes the tag, or the scan fails. So in a scan nothing follows a run that it could have
gone on over, and no two runs of a kind stand side by side. `Scanner.Steps.exists_successive` gives
the two steps that found a token and the one behind it, and `Scanner.Rule.ends_or_closes` is what is
to be seen of the runs there. The longest operator wins as the table has longer ones first.
-/

namespace TemplateTags

open Text

/-! ## Kinds that run on -/

namespace Kind

/-- Whether the tokens of the kind are words. -/
def isWord : Kind → Bool
  | .number | .boolean | .symbol => true
  | _ => false

/-- Whether tokens of the kind go on over a character. -/
def runsOver : Kind → Char → Bool
  | .whitespace, char => isBlank char
  | .number, char | .boolean, char | .symbol, char => isWordChar char
  | _, _ => false

/-- All three kinds of words run over the characters of words. -/
theorem runsOver_of_isWord {kind : Kind} (word : kind.isWord) : kind.runsOver = isWordChar := by
  cases kind with
  | number | boolean | symbol => rfl
  | _ => cases word

end Kind

/-- The kind of a word is one of those three. -/
theorem isWord_wordKind (word : List Char) : (wordKind word).isWord := by
  unfold wordKind
  split
  · rfl
  · split <;> rfl

/-- What ends a word is a blank, or a character that starts a token of another kind. -/
theorem isWordChar_eq_false_iff {char : Char} :
    isWordChar char = false ↔ isBlank char ∨ isMarkChar char ∨ isQuote char := by
  cases blank : isBlank char <;> cases mark : isMarkChar char <;>
    simp [isWordChar, blank, mark]

/-! ## Runs and operators -/

/-- Where a run ends before a character of its class, it is stopped. -/
theorem stops_of_takeRun {inClass : Char → Bool} {stops : List Char → Bool}
    {text behind : List Char} {next : Char}
    (split : text = takeRun inClass stops text ++ next :: behind) (inRun : inClass next) :
    stops (next :: behind) := by
  induction text with
  | nil => simp [takeRun] at split
  | cons char rest inductionHypothesis =>
    rw [takeRun] at split
    split at split
    · exact inductionHypothesis (List.cons.inj split).2
    · rename_i ends
      obtain ⟨rfl, rfl⟩ := List.cons.inj split
      simpa [inRun] using ends

/-- The operator that is found at the head of a text is the longest one there. -/
theorem length_le_of_operatorAt? {rest operator : List Char}
    (found : operatorAt? rest = some operator) :
    ∀ other ∈ operators, other <+: rest → other.length ≤ operator.length := by
  have descending : operators.Pairwise fun first second => second.length ≤ first.length := by
    decide
  obtain ⟨-, earlier, later, table_eq, passed⟩ := List.find?_eq_some_iff_append.1 found
  rw [table_eq] at descending ⊢
  have notLonger := (List.pairwise_cons.1 (List.pairwise_append.1 descending).2.1).1
  intro other listed start
  rcases List.mem_append.1 listed with isEarlier | isLater
  · have passedOver := passed other isEarlier
    simp [List.isPrefixOf_iff_prefix.2 start] at passedOver
  · rcases List.mem_cons.1 isLater with rfl | isLater
    · exact Nat.le_refl _
    · exact notLonger other isLater

/-- No operator is found exactly where the text starts with none that is listed. -/
theorem operatorAt?_eq_none_iff {rest : List Char} :
    operatorAt? rest = none ↔ ∀ operator ∈ operators, ¬ operator <+: rest := by
  simp [operatorAt?, List.find?_eq_none]

namespace Lexeme.Reads

variable {stops : List Char → Bool} {char next : Char} {rest text behind : List Char} {kind : Kind}

/-- Where a token ends before a character that it could go on over, it is stopped. -/
theorem stops_of_runsOver (reads : Reads stops char rest kind text)
    (split : char :: rest = text ++ next :: behind) (runsOver : kind.runsOver next) :
    stops (next :: behind) := by
  cases reads with
  | whitespace => exact stops_of_takeRun split runsOver
  | word _ _ _ run =>
    rw [Kind.runsOver_of_isWord (isWord_wordKind text)] at runsOver
    exact stops_of_takeRun (run ▸ split) runsOver
  | string | operator | punctuation => cases runsOver

/-- White space and words start with a character that they could go on over. -/
theorem runsOver_head (reads : Reads stops char rest kind text)
    (runs : kind = .whitespace ∨ kind.isWord) : kind.runsOver char := by
  cases reads with
  | whitespace blank => exact blank
  | word noBlank noQuote noMark =>
    rw [Kind.runsOver_of_isWord (isWord_wordKind text)]
    simp [isWordChar, noBlank, noQuote, noMark]
  | string | operator | punctuation => simp [Kind.isWord] at runs

/-- What is read as an operator is the operator that is found. -/
theorem operatorAt?_of_operator (reads : Reads stops char rest kind text)
    (operator : kind = .operator) : operatorAt? (char :: rest) = some text := by
  cases reads with
  | operator _ _ _ found => exact found
  | word =>
    have word := isWord_wordKind text
    rw [operator] at word
    cases word
  | whitespace | string | punctuation => cases operator

/-- Punctuation is read only where no operator is found. -/
theorem operatorAt?_of_punctuation (reads : Reads stops char rest kind text) {mark : Punctuation}
    (punctuation : kind = .punctuation mark) : operatorAt? (char :: rest) = none := by
  cases reads with
  | punctuation _ _ _ noOperator => exact noOperator
  | word =>
    have word := isWord_wordKind text
    rw [punctuation] at word
    cases word
  | whitespace | string | operator => cases punctuation

end Lexeme.Reads

/-! ## Successive tokens -/

namespace Scanner

variable {scanner : Scanner} {options : Options} {source : String} {count : Nat}
  {tokens : List Token} {start state finish reached next last : State} {token following : Token}
  {opened : OpenTag}

/-- A run that finds no token inside a block or a variable stays where it is. -/
theorem Steps.eq_of_nil (steps : scanner.Steps start count [] finish)
    (isOpen : start.opened? = some opened) (noComment : opened.family ≠ .comment) :
    finish = start := by
  generalize none_eq : ([] : List Token) = none at steps
  induction steps with
  | refl => rfl
  | skipped prior skips inductionHypothesis =>
    obtain rfl := inductionHypothesis none_eq
    exact absurd ((rule_of_step_eq skips).comment_of_skipped isOpen) noComment
  | emitted => simp at none_eq

/-- A token inside a tag and the one behind it are found by two steps, one right after the other. -/
theorem Steps.exists_successive (steps : scanner.Steps start count tokens finish)
    (pair : [token, following] <:+: tokens) (content : token.isContent) :
    ∃ count' before reached next last, scanner.Steps start count' before reached ∧
      scanner.Rule reached (.emitted token next) ∧ scanner.Rule next (.emitted following last) := by
  obtain ⟨before, behind, split⟩ := pair
  have firstSplit : tokens = before ++ token :: following :: behind := by
    rw [← split]
    simp
  obtain ⟨countFirst, reached, next, countSecond, prior, rule, rest⟩ :=
    steps.exists_split firstSplit
  obtain ⟨_, state, last, _, between, ruleBehind, -⟩ := rest.exists_split (List.nil_append _).symm
  -- The token stands in a block or a variable, where every step finds one.
  have stays : state = next := by
    cases rule with
    | opens | closes => cases content
    | lexeme _ _ noComment => exact between.eq_of_nil rfl noComment
  exact ⟨countFirst, before, reached, next, last, prior, rule, stays ▸ ruleBehind⟩

/-- Behind a token inside a tag the tag is closed, or a character stands that the token could not
go on over. A run that is found there starts with that character. -/
theorem Rule.ends_or_closes (rule : scanner.Rule reached (.emitted token next))
    (content : token.isContent) (behind : scanner.Rule next (.emitted following last)) :
    following.isClosing ∨ ∃ char rest, next.input.rest = char :: rest ∧
      token.kind.runsOver char = false ∧
        (following.kind = .whitespace ∨ following.kind.isWord → following.kind.runsOver char) := by
  cases rule with
  | opens | closes => cases content
  | @lexeme input opened first others kind text split _ _ noClose _ reads =>
    have whole := Input.append_rest_consume (piece_of_read split noClose reads).2
    generalize input.consume text = stop at behind whole ⊢
    cases behind with
    | closes => exact .inl rfl
    | @lexeme _ _ char rest _ _ splitBehind _ _ noCloseBehind _ readsBehind =>
      refine .inr ⟨char, rest, splitBehind, ?_, ?_⟩
      · -- A closing literal would stand there, and the step would not have read on.
        rw [Input.kind_token, Bool.eq_false_iff]
        intro runsOver
        rw [split, splitBehind] at whole
        have stopped := (Lexeme.read_eq_token_iff.1 reads).stops_of_runsOver whole.symm runsOver
        rw [← splitBehind, Delimiters.closesAt_eq_false_iff.2 noCloseBehind] at stopped
        cases stopped
      · exact (Lexeme.read_eq_token_iff.1 readsBehind).runsOver_head

end Scanner

/-! ## Tokens of a tag -/

namespace Tag

/-- Where the token stops, the tag is closed or a character stands that ends the token. -/
def Ends (tag : Tag) (source : String) (token : Token) (endedBy : Char → Prop) : Prop :=
  tag.closing.span.start = token.span.stop ∨
    ∃ char, StandsAt source token.span.stop (String.singleton char) ∧ endedBy char

/-- No token inside the tag could have been longer: white space and words go on to a character that
ends them or to the end of the tag, and operators are the longest ones that stand where they do.
Punctuation stands where no operator does. -/
structure Munched (source : String) (tag : Tag) : Prop where
  whitespace : ∀ token ∈ tag.body, token.kind = .whitespace →
    tag.Ends source token fun char => isBlank char = false
  word : ∀ token ∈ tag.body, token.kind.isWord →
    tag.Ends source token fun char => isBlank char ∨ isMarkChar char ∨ isQuote char
  separated : tag.body.IsChain fun first second =>
    ¬ (first.kind = .whitespace ∧ second.kind = .whitespace) ∧
      ¬ (first.kind.isWord ∧ second.kind.isWord)
  operator : ∀ token ∈ tag.body, token.kind = .operator →
    token.value.toList ∈ operators ∧ StandsAt source token.span.start token.value ∧
      ∀ other ∈ operators, StandsAt source token.span.start (String.ofList other) →
        other.length ≤ token.value.toList.length
  punctuation : ∀ token ∈ tag.body, ∀ mark, token.kind = .punctuation mark →
    ∀ operator ∈ operators, ¬ StandsAt source token.span.start (String.ofList operator)

variable {tag : Tag} {token following : Token}

/-- Behind each token inside a tag stands another one of the tag. -/
theorem exists_following (inBody : token ∈ tag.body) :
    ∃ following, [token, following] <:+: tag.tokens := by
  obtain ⟨before, behind, split⟩ := List.append_of_mem inBody
  obtain ⟨following, others, behind_eq⟩ :=
    List.exists_cons_of_ne_nil (List.append_ne_nil_of_right_ne_nil behind
      (List.cons_ne_nil tag.closing []))
  refine ⟨following, tag.opening :: before, others, ?_⟩
  simp [tokens, split, ← behind_eq]

end Tag

namespace Scanner

variable {scanner : Scanner} {source : String} {count : Nat} {state : State} {tags : List Tag}
  {tag : Tag} {token following : Token}

section

variable (steps : scanner.Steps (.initial source) count (tags.flatMap Tag.tokens) state)
  (member : tag ∈ tags) (wellFormed : tag.WellFormed)

include steps member wellFormed

/-- What stands in the source behind a token inside a tag, and how the next token starts there. -/
theorem ends_or_closes_of_steps (pair : [token, following] <:+: tag.tokens)
    (content : token.isContent) :
    (following = tag.closing ∧ tag.closing.span.start = token.span.stop) ∨
      ∃ char, StandsAt source token.span.stop (String.singleton char) ∧
        token.kind.runsOver char = false ∧
          (following.kind = .whitespace ∨ following.kind.isWord →
            following.kind.runsOver char) := by
  obtain ⟨count', before, reached, next, last, prior, rule, behind⟩ :=
    steps.exists_successive (pair.trans (Tag.tokens_isInfix member)) content
  obtain ⟨passed, follows⟩ := (placed_of_steps prior).follows
  obtain ⟨kind, text, -, start, token_eq, input_eq, -⟩ := rule.emits
  have stops : token.span.stop = next.input.here.offset := by simp [token_eq, input_eq]
  rcases rule.ends_or_closes content behind with closes | ⟨char, rest, split, ends, begins⟩
  · obtain rfl := wellFormed.eq_closing (pair.subset (by simp)) closes
    obtain ⟨_, _, -, -, following_eq, -⟩ := behind.emits
    exact .inl ⟨rfl, by rw [stops, following_eq, Input.start_token]⟩
  · refine .inr ⟨char, ?_, ends, begins⟩
    rw [stops, input_eq, (follows.consume start).standsAt_iff, ← input_eq, split]
    simp

/-- A token inside a tag stops where the tag closes, or before a character that it could not go on
over. -/
theorem ends_of_steps (inBody : token ∈ tag.body) :
    tag.Ends source token fun char => token.kind.runsOver char = false := by
  obtain ⟨following, pair⟩ := Tag.exists_following inBody
  rcases ends_or_closes_of_steps steps member wellFormed pair (wellFormed.content token inBody) with
    ⟨-, closes⟩ | ⟨char, stands, ends, -⟩
  · exact .inl closes
  · exact .inr ⟨char, stands, ends⟩

/-- No two runs of a kind stand side by side. -/
theorem separated_of_steps :
    tag.body.IsChain fun first second =>
      ¬ (first.kind = .whitespace ∧ second.kind = .whitespace) ∧
        ¬ (first.kind.isWord ∧ second.kind.isWord) := by
  rw [List.isChain_iff_forall_rel_of_append_cons_cons]
  intro first second before behind split
  have content := wellFormed.content
  rw [split] at content
  have pair : [first, second] <:+: tag.tokens :=
    ⟨tag.opening :: before, behind ++ [tag.closing], by simp [Tag.tokens, split]⟩
  rcases ends_or_closes_of_steps steps member wellFormed pair (content first (by simp)) with
    ⟨rfl, -⟩ | ⟨char, -, ends, begins⟩
  · have inside := content tag.closing (by simp)
    simp [wellFormed.isContent_closing] at inside
  constructor
  · rintro ⟨firstBlank, secondBlank⟩
    have runsOver := begins (.inl secondBlank)
    rw [secondBlank, ← firstBlank, ends] at runsOver
    cases runsOver
  · rintro ⟨firstWord, secondWord⟩
    have runsOver := begins (.inr secondWord)
    rw [Kind.runsOver_of_isWord secondWord, ← Kind.runsOver_of_isWord firstWord, ends] at runsOver
    cases runsOver

/-- Each tag of a run is munched. -/
theorem munched_of_steps : tag.Munched source := by
  have ends : ∀ token ∈ tag.body,
      tag.Ends source token fun char => token.kind.runsOver char = false :=
    fun token inBody => ends_of_steps steps member wellFormed inBody
  have reads := fun token (inBody : token ∈ tag.body) =>
    exists_reads_of_mem steps (Tag.mem_flatMap_tokens_of_mem_body member inBody)
      (wellFormed.content token inBody)
  refine ⟨?whitespace, ?word, separated_of_steps steps member wellFormed, ?operator, ?punctuation⟩
  case whitespace =>
    intro token inBody blank
    simpa only [blank, Kind.runsOver] using ends token inBody
  case word =>
    intro token inBody word
    simpa only [Kind.runsOver_of_isWord word, isWordChar_eq_false_iff] using ends token inBody
  case operator =>
    intro token inBody isOperator
    obtain ⟨input, _, _, _, kind, text, follows, split, -, read, start, rfl⟩ := reads token inBody
    have found := split ▸ read.operatorAt?_of_operator isOperator
    have value_eq : (input.token kind text).value.toList = text := String.toList_ofList
    rw [Input.start_token, follows.standsAt_iff, value_eq]
    refine ⟨(operatorAt?_eq_some found).1, start, fun other listed stands => ?_⟩
    rw [follows.standsAt_iff, String.toList_ofList] at stands
    exact length_le_of_operatorAt? found other listed stands
  case punctuation =>
    intro token inBody mark isMark operator listed stands
    obtain ⟨input, _, _, _, _, _, follows, split, -, read, -, rfl⟩ := reads token inBody
    have noOperator := split ▸ read.operatorAt?_of_punctuation isMark
    rw [Input.start_token, follows.standsAt_iff, String.toList_ofList] at stands
    exact operatorAt?_eq_none_iff.1 noOperator operator listed stands

end

end Scanner

/-- In a scan, no token inside a tag could have been longer. -/
theorem munched_of_scan {options : Options} {source : String} {result : Scan}
    (scanned : scan options source = .ok result) :
    ∃ tags, Tag.ofTokens result.tokens = .ok tags ∧ ∀ tag ∈ tags, tag.Munched source := by
  obtain ⟨tags, tagsScanned, grouped, tokens_eq⟩ := exists_tags_of_scan scanned
  obtain ⟨rfl, scanner, count, state, -, steps, -⟩ := exists_steps_of_scan scanned
  rw [tokens_eq] at steps
  exact ⟨tags, grouped, fun tag member =>
    Scanner.munched_of_steps steps member (tagsScanned tag member).wellFormed⟩

/-- A word that is cut short by a closing literal that words could go on over. -/
theorem munched_of_scan_cut_word :
    let options : Options := { var := ⟨"\x7b\x7b", "end"⟩ }
    ∃ result, scan options "\x7b\x7ba  >=(bend" = .ok result ∧
      ∃ tags, Tag.ofTokens result.tokens = .ok tags ∧
        ∀ tag ∈ tags, tag.Munched "\x7b\x7ba  >=(bend" := by
  intro options
  let result : Scan :=
    ⟨"\x7b\x7ba  >=(bend",
      [⟨.opening .var, "\x7b\x7b", ⟨0, 2, 1, 1⟩⟩, ⟨.symbol, "a", ⟨2, 3, 1, 3⟩⟩,
        ⟨.whitespace, "  ", ⟨3, 5, 1, 4⟩⟩, ⟨.operator, ">=", ⟨5, 7, 1, 6⟩⟩,
        ⟨.punctuation .leftParen, "(", ⟨7, 8, 1, 8⟩⟩, ⟨.symbol, "b", ⟨8, 9, 1, 9⟩⟩,
        ⟨.closing .var, "end", ⟨9, 12, 1, 10⟩⟩]⟩
  have scanned : scan options "\x7b\x7ba  >=(bend" = .ok result := by
    decide +kernel
  exact ⟨result, scanned, munched_of_scan scanned⟩

end TemplateTags
