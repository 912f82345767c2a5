import TemplateTags.Piece
import TemplateTags.Proofs.Rules

/-!
# Reading the text inside a tag

Text that may stand inside a block or a variable tag is read as lexemes up to its end, whatever
follows it, as long as no delimiter stands before that end and no operator reaches past it.
`BodyText.exists_reads` reads the first lexeme, and `Scanner.exists_steps_of_embedded` all of them.
-/

namespace TemplateTags

/-- What stands between quotes is read through the quote behind it. -/
theorem StringText.throughQuote?_append {quote : Char} (quoteIsQuote : isQuote quote)
    {inside : List Char} (string : StringText quote inside) (rest : List Char) :
    throughQuote? quote (inside ++ quote :: rest) = some (inside ++ [quote]) := by
  have noEscape : quote ≠ '\\' := by
    rintro rfl
    cases quoteIsQuote
  induction string with
  | nil =>
    rw [List.nil_append, throughQuote?_cons noEscape]
    simp
  | char noQuote notEscape _ inductionHypothesis =>
    rw [List.cons_append, throughQuote?_cons notEscape, if_neg noQuote, inductionHypothesis]
    rfl
  | escaped _ inductionHypothesis =>
    rw [List.cons_append, List.cons_append, throughQuote?, inductionHypothesis]
    rfl

namespace BodyText

/-- A character that is no quote stands in a body by itself. -/
theorem of_cons {char : Char} {rest : List Char} (noQuote : isQuote char = false)
    (body : BodyText (char :: rest)) : isPlainChar char ∧ BodyText rest := by
  cases body with
  | char plain body => exact ⟨plain, body⟩
  | string quote => simp [noQuote] at quote

/-- A text without quotes may be dropped from the front of a body. -/
theorem of_append {text rest : List Char} (noQuote : ∀ char ∈ text, isQuote char = false)
    (body : BodyText (text ++ rest)) : BodyText rest := by
  induction text with
  | nil => exact body
  | cons char text inductionHypothesis =>
    obtain ⟨charNoQuote, textNoQuote⟩ := List.forall_mem_cons.1 noQuote
    exact inductionHypothesis textNoQuote (body.of_cons charNoQuote).2

/-- A run that holds no quotes stays within a body, if it does not go on behind it. -/
theorem exists_takeRun {inClass : Char → Bool} {stops : List Char → Bool}
    (noQuote : ∀ char, inClass char → isQuote char = false) {body tail : List Char}
    (bodyText : BodyText body) (ends : ∀ char ∈ tail.head?, inClass char = false) :
    ∃ remaining, body = takeRun inClass stops (body ++ tail) ++ remaining ∧
      BodyText remaining := by
  have prefixed : takeRun inClass stops (body ++ tail) <+: body := by
    induction bodyText with
    | nil =>
      cases tail with
      | nil => exact List.prefix_refl _
      | cons char rest =>
        simp [takeRun, ends char rfl]
    | @char char text plain rest inductionHypothesis =>
      rw [List.cons_append, takeRun]
      split
      · exact (List.prefix_cons_inj char).2 inductionHypothesis
      · exact List.nil_prefix
    | @string quote inside text quoteIsQuote =>
      have notInClass : inClass quote = false := by
        rw [Bool.eq_false_iff]
        intro inRun
        simp [noQuote quote inRun] at quoteIsQuote
      simp [takeRun, notInClass]
  obtain ⟨remaining, body_eq⟩ := prefixed
  refine ⟨remaining, body_eq.symm, of_append (fun char member => ?_) (body_eq ▸ bodyText)⟩
  exact noQuote char (forall_mem_takeRun char member)

end BodyText

/-- A blank character is no quote. -/
theorem isQuote_of_isBlank {char : Char} (blank : Text.isBlank char) : isQuote char = false := by
  rw [Bool.eq_false_iff]
  intro quote
  have cases : char = '"' ∨ char = '\'' := by simpa [isQuote] using quote
  rcases cases with rfl | rfl <;> cases blank

/-- A character of a word is no quote. -/
theorem isQuote_of_isWordChar {char : Char} (inWord : isWordChar char) : isQuote char = false := by
  have := (Bool.and_eq_true_iff.1 inWord).2
  simpa using this

/-- No operator has a quote in it. -/
theorem isQuote_of_mem_operators {operator : List Char} (listed : operator ∈ operators) :
    ∀ char ∈ operator, isQuote char = false := by
  revert operator
  simp [operators, isQuote]

/-- A mark that may stand inside a tag by itself is a punctuation mark or an operator. -/
theorem exists_mark_or_mem_operators {char : Char} (mark : isMarkChar char)
    (plain : isPlainChar char) :
    (∃ mark, Punctuation.ofChar? char = some mark) ∨ [char] ∈ operators := by
  have all : markChars.all fun char =>
      isPlainChar char → (Punctuation.ofChar? char).isSome ∨ [char] ∈ operators := by
    decide
  have listed : char ∈ markChars := by simpa [isMarkChar] using mark
  rcases of_decide_eq_true (List.all_eq_true.1 all char listed) plain with punctuation | operator
  · exact .inl (Option.isSome_iff_exists.1 punctuation)
  · exact .inr operator

/-- Where the text starts with a listed operator one is found, be it another one that is listed
earlier. -/
theorem operatorAt?_ne_none {operator rest : List Char} (listed : operator ∈ operators)
    (start : operator <+: rest) : operatorAt? rest ≠ none := by
  intro none
  exact List.find?_eq_none.1 none operator listed (List.isPrefixOf_iff_prefix.2 start)

/-- A body that is not empty starts with a lexeme, and what follows the lexeme is a body. -/
theorem BodyText.exists_reads {stops : List Char → Bool} {char : Char} {rest tail : List Char}
    (body : BodyText (char :: rest)) (free : stops (char :: (rest ++ tail)) = false)
    (ends : ∀ next ∈ tail.head?, Text.isBlank next = false ∧ isWordChar next = false)
    (bounded : ∀ operator ∈ operators, operator <+: char :: (rest ++ tail) →
      operator <+: char :: rest) :
    ∃ kind text remaining, char :: rest = text ++ remaining ∧ text ≠ [] ∧ BodyText remaining ∧
      Lexeme.Reads stops char (rest ++ tail) kind text := by
  cases blank : Text.isBlank char with
  | true =>
    obtain ⟨remaining, split, remainingBody⟩ :=
      body.exists_takeRun (fun _ => isQuote_of_isBlank) fun next first => (ends next first).1
    exact ⟨_, _, remaining, split, takeRun_ne_nil blank free, remainingBody, .whitespace blank⟩
  | false =>
  cases quote : isQuote char with
  | true =>
    cases body with
    | char plain => simp [isPlainChar, quote] at plain
    | @string _ inside text _ string rest =>
      have closed := string.throughQuote?_append quote (text ++ tail)
      refine ⟨.string, char :: (inside ++ [char]), text, by simp, by simp, rest, ?_⟩
      exact .string blank quote (by simpa using closed)
  | false =>
  have plain := (body.of_cons quote).1
  cases mark : isMarkChar char with
  | true =>
    cases found : operatorAt? (char :: (rest ++ tail)) with
    | some operator =>
      obtain ⟨listed, start⟩ := operatorAt?_eq_some found
      obtain ⟨remaining, split⟩ := bounded operator listed start
      exact ⟨_, operator, remaining, split.symm, ne_nil_of_mem_operators listed,
        of_append (isQuote_of_mem_operators listed) (split ▸ body),
        .operator blank quote mark found⟩
    | none =>
      rcases exists_mark_or_mem_operators mark plain with ⟨punctuation, writes⟩ | operator
      · exact ⟨_, [char], rest, rfl, by simp, (body.of_cons quote).2,
          .punctuation blank quote mark found writes⟩
      · exact absurd found (operatorAt?_ne_none operator ⟨rest ++ tail, rfl⟩)
  | false =>
    have inWord : isWordChar char := by simp [isWordChar, blank, quote, mark]
    obtain ⟨remaining, split, remainingBody⟩ :=
      body.exists_takeRun (fun _ => isQuote_of_isWordChar) fun next first => (ends next first).2
    have notEmpty := takeRun_ne_nil inWord free
    exact ⟨_, _, remaining, split, notEmpty, remainingBody,
      .word blank quote mark rfl notEmpty⟩

namespace Scanner

/-- Before the tail, no lexeme of a body is taken for a delimiter or reaches into the tail, and the
tail is long enough to close a tag of the family. A lexeme starts where a body is left to read. -/
structure Embedded (scanner : Scanner) (family : Family) (body tail : List Char) : Prop where
  noClose : ∀ part, part ≠ [] → part <:+ body → BodyText part →
    scanner.delimiters.closeAt? (part ++ tail) = none
  noOpen : ∀ part, part ≠ [] → part <:+ body → BodyText part →
    scanner.delimiters.openAt? (part ++ tail) = none
  bounded : ∀ part, part ≠ [] → part <:+ body → BodyText part →
    ∀ operator ∈ operators, operator <+: part ++ tail → operator <+: part
  ends : ∀ next ∈ tail.head?, Text.isBlank next = false ∧ isWordChar next = false
  kept : scanner.delimiters.minCloseLength family ≤ tail.length

variable {scanner : Scanner} {family : Family}

/-- What remains of an embedded body is embedded. -/
theorem Embedded.of_isSuffix {body part tail : List Char}
    (embedded : scanner.Embedded family body tail) (isSuffix : part <:+ body) :
    scanner.Embedded family part tail where
  noClose other notEmpty later := embedded.noClose other notEmpty (later.trans isSuffix)
  noOpen other notEmpty later := embedded.noOpen other notEmpty (later.trans isSuffix)
  bounded other notEmpty later := embedded.bounded other notEmpty (later.trans isSuffix)
  ends := embedded.ends
  kept := embedded.kept

/-- A scanner does not give up on a tag that can still be closed. -/
theorem givesUp_eq_false {input : Input}
    (enough : scanner.delimiters.minCloseLength family ≤ input.rest.length) :
    scanner.givesUp family input = false := by
  unfold givesUp
  split
  · rw [Bool.eq_false_iff]
    intro fewer
    have := Input.fewerThan_iff.1 fewer
    omega
  · rfl

/-- A scanner that stands before an embedded body reads it through its end. -/
theorem exists_steps_of_embedded {opened : OpenTag} (noComment : opened.family ≠ .comment)
    {body tail : List Char} (bodyText : BodyText body)
    (embedded : scanner.Embedded opened.family body tail) {input : Input}
    (split : input.rest = body ++ tail) :
    ∃ count tokens,
      scanner.Steps ⟨input, some opened⟩ count tokens ⟨input.consume body, some opened⟩ ∧
        (∀ token ∈ tokens, token.isContent) ∧
          String.join (tokens.map (·.value)) = String.ofList body := by
  cases body with
  | nil => exact ⟨0, [], .refl, by simp, rfl⟩
  | cons char rest =>
    have noClose := embedded.noClose _ (by simp) (List.suffix_refl _) bodyText
    have noOpen := embedded.noOpen _ (by simp) (List.suffix_refl _) bodyText
    obtain ⟨kind, text, remaining, body_eq, notEmpty, remainingBody, reads⟩ :=
      bodyText.exists_reads (Delimiters.closesAt_eq_false_iff.2 noClose) embedded.ends
        (embedded.bounded _ (by simp) (List.suffix_refl _) bodyText)
    have kept : scanner.givesUp opened.family input = false := by
      apply givesUp_eq_false
      have := embedded.kept
      rw [split, List.length_append]
      omega
    have rule : scanner.Rule ⟨input, some opened⟩
        (.emitted (input.token kind text) ⟨input.consume text, some opened⟩) :=
      .lexeme split kept noComment (split ▸ noClose) (split ▸ noOpen)
        (Lexeme.read_eq_token_iff.2 reads)
    have isSuffix : remaining <:+ char :: rest := ⟨text, body_eq.symm⟩
    have next : (input.consume text).rest = remaining ++ tail := by
      apply Input.rest_consume
      rw [split, body_eq, List.append_assoc]
    have shorter : remaining.length < (char :: rest).length := by
      have := List.length_pos_iff.2 notEmpty
      rw [body_eq, List.length_append]
      omega
    obtain ⟨count, tokens, steps, content, values⟩ :=
      exists_steps_of_embedded noComment remainingBody (embedded.of_isSuffix isSuffix) next
    rw [body_eq, Input.consume_append]
    refine ⟨_, _, Steps.trans (.emitted .refl rule.step_eq) steps, ?_, ?_⟩
    · refine List.forall_mem_append.2 ⟨List.forall_mem_singleton.2 ?_, content⟩
      exact Lexeme.isContent_of_read (Lexeme.read_eq_token_iff.2 reads)
    · rw [List.nil_append, List.singleton_append, List.map_cons, String.join_cons, values,
        String.ofList_append]
      rfl
termination_by body.length

end Scanner

end TemplateTags
