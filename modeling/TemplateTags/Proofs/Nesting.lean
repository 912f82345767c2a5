import TemplateTags.Proofs.Undelimited

/-!
# Nested openings

The scanner looks for a nested opening delimiter where a token starts, while runs and operators stop
for closing delimiters only. So an opening literal whose first character may continue a run can
stand unnoticed inside a token, as `$\x7b` behind a letter; `nesting_of_scan` says that this is the
only way for one to be missed.
-/

namespace TemplateTags

open Text

/-- Whether a character may stand in a token other than a string, behind its first character. -/
def isInnerChar (char : Char) : Bool :=
  isBlank char || isWordChar char || ['=', '+', '-'].contains char

/-- The first character of the text can only be the first of a token, strings apart. -/
def Text.StartsToken (text : String) : Prop :=
  ∀ char ∈ text.toList.head?, isInnerChar char = false

/-- A text starts a token if its first character is no inner one. -/
theorem startsToken_of_head? {text : String} {first : Char}
    (head : text.toList.head? = some first) (notInner : isInnerChar first = false) :
    StartsToken text := by
  intro char member
  obtain rfl : first = char := by simpa [head] using member
  exact notInner

/-- The offset lies between the delimiters of the tag and in none of its strings. -/
structure Tag.Exposes (tag : Tag) (offset : Nat) : Prop where
  notBefore : tag.opening.span.stop ≤ offset
  before : offset < tag.closing.span.start
  noString : ∀ token ∈ tag.body, token.kind = .string →
    ¬ (token.span.start ≤ offset ∧ offset < token.span.stop)

/-- Behind its first character, an operator has inner characters only. -/
theorem isInnerChar_of_mem_operators {operator : List Char} (listed : operator ∈ operators) :
    ∀ char ∈ operator.tail, isInnerChar char := by
  revert operator
  simp [operators, isInnerChar]

/-- Behind its first character, a token other than a string has inner characters only. -/
theorem Lexeme.Reads.isInnerChar {stops : List Char → Bool} {char : Char}
    {rest text : List Char} {kind : Kind} (reads : Lexeme.Reads stops char rest kind text)
    (noString : kind ≠ .string) : ∀ inner ∈ text.tail, isInnerChar inner := by
  intro inner member
  cases reads with
  | whitespace =>
    have blank := forall_mem_takeRun inner (List.mem_of_mem_tail member)
    simp [TemplateTags.isInnerChar, blank]
  | string => exact absurd rfl noString
  | operator _ _ _ found =>
    exact isInnerChar_of_mem_operators (operatorAt?_eq_some found).1 inner member
  | punctuation => simp at member
  | word _ _ _ run =>
    rw [← run] at member
    have inWord := forall_mem_takeRun inner (List.mem_of_mem_tail member)
    simp [TemplateTags.isInnerChar, inWord]

/-- Tokens that meet cover what lies between the first and the last of them. -/
theorem exists_cover_of_isChain_meets {first last : Token} {body : List Token} {offset : Nat}
    (meets : (first :: (body ++ [last])).IsChain Token.Meets)
    (notBefore : first.span.stop ≤ offset) (before : offset < last.span.start) :
    ∃ token ∈ body, token.span.start ≤ offset ∧ offset < token.span.stop := by
  induction body generalizing first with
  | nil =>
    have meeting : first.span.stop = last.span.start :=
      (List.isChain_cons_cons.1 meets).1
    omega
  | cons token body inductionHypothesis =>
    obtain ⟨meeting, rest⟩ := List.isChain_cons_cons.1 meets
    have starts : token.span.start ≤ offset := meeting ▸ notBefore
    by_cases covered : offset < token.span.stop
    · exact ⟨token, List.mem_cons_self .., starts, covered⟩
    · obtain ⟨other, member, cover⟩ := inductionHypothesis rest (Nat.le_of_not_lt covered)
      exact ⟨other, List.mem_cons_of_mem _ member, cover⟩

/-- A boundary inside a text with which the input starts splits that text. -/
theorem Input.Follows.exists_split {input : Input} {source : String} {passed text : List Char}
    (follows : input.Follows source passed) (start : text <+: input.rest) {offset : Nat}
    (boundary : IsBoundary source offset) (notBefore : input.here.offset ≤ offset)
    (inside : offset < input.here.offset + byteLength text) :
    ∃ front back, text = front ++ back ∧ offset = (input.consume front).here.offset := by
  obtain ⟨rest, split⟩ := start
  rw [follows.offset_eq] at notBefore inside
  obtain ⟨front, back, rest_eq, offset_eq⟩ :=
    exists_split_of_isBoundary follows.text boundary notBefore
  have arrives : offset = (input.consume front).here.offset := by
    rw [Input.offset_consume, follows.offset_eq, offset_eq]
  rcases List.append_eq_append_iff.1 (split.trans rest_eq) with
    ⟨more, front_eq, -⟩ | ⟨more, text_eq, -⟩
  · -- The first part would reach past the text.
    rw [front_eq, byteLength_append] at offset_eq
    omega
  · exact ⟨front, more, text_eq, arrives⟩

namespace Scanner

variable {scanner : Scanner} {options : Options} {source : String} {count : Nat}
  {tokens : List Token} {state : State}

/-- A text that stands strictly inside a token of a tag starts with a later part of the token. -/
theorem exists_parts_of_standsAt
    (steps : scanner.Steps (.initial source) count tokens state) {token : Token}
    (member : token ∈ tokens) (content : token.isContent) {offset : Nat}
    (behind : token.span.start < offset) (inside : offset < token.span.stop) {text : String}
    (stands : StandsAt source offset text) :
    ∃ (char : Char) (rest front : List Char) (inner : Char) (back remaining : List Char),
      Lexeme.Reads scanner.delimiters.closesAt char rest token.kind (front ++ inner :: back) ∧
        token.value = String.ofList (front ++ inner :: back) ∧ front ≠ [] ∧
          text.toList <+: inner :: (back ++ remaining) ∧
            ∀ following, StandsAt source token.span.stop following ↔
              following.toList <+: remaining := by
  obtain ⟨input, passed, char, rest, kind, whole, follows, -, -, reads, start, rfl⟩ :=
    exists_reads_of_mem steps member content
  rw [Input.start_token] at behind
  rw [Input.stop_token] at inside
  obtain ⟨front, part, rfl, rfl⟩ :=
    follows.exists_split start stands.isBoundary (Nat.le_of_lt behind) inside
  have frontNotEmpty : front ≠ [] := by
    rintro rfl
    simp at behind
  have partNotEmpty : part ≠ [] := by
    rintro rfl
    simp at inside
  obtain ⟨inner, back, rfl⟩ := List.exists_cons_of_ne_nil partNotEmpty
  obtain ⟨remaining, rest_eq⟩ := start
  have split : front ++ inner :: (back ++ remaining) = input.rest := by
    rw [← rest_eq]
    simp
  rw [(follows.consume ⟨_, split⟩).standsAt_iff, Input.rest_consume split.symm] at stands
  refine ⟨char, rest, front, inner, back, remaining, reads, rfl, frontNotEmpty, stands, ?_⟩
  intro following
  rw [Input.stop_token, ← Input.offset_consume,
    (follows.consume ⟨remaining, rest_eq⟩).standsAt_iff, Input.rest_consume rest_eq.symm]

/-- A literal that stands strictly inside a token other than a string begins with an inner
character. -/
theorem exists_isInnerChar_of_standsAt
    (steps : scanner.Steps (.initial source) count tokens state) {token : Token}
    (member : token ∈ tokens) (content : token.isContent) (noString : token.kind ≠ .string)
    {offset : Nat} (behind : token.span.start < offset) (inside : offset < token.span.stop)
    {literal : String} (notEmpty : literal ≠ "") (stands : StandsAt source offset literal) :
    ∃ char ∈ literal.toList.head?, isInnerChar char := by
  obtain ⟨_, _, front, inner, back, remaining, reads, -, frontNotEmpty, start, -⟩ :=
    exists_parts_of_standsAt steps member content behind inside stands
  obtain ⟨head, tail, literal_eq⟩ :=
    List.exists_cons_of_ne_nil (l := literal.toList) (by simpa using notEmpty)
  rw [literal_eq] at start
  obtain rfl := (List.cons_prefix_cons.1 start).1
  refine ⟨head, by simp [literal_eq], ?_⟩
  apply reads.isInnerChar noString
  simp [List.tail_append_of_ne_nil frontNotEmpty]

/-- A token inside a block or a variable tag covers each exposed offset of the tag, and a literal
that stands there stands strictly inside the token. -/
theorem exists_cover_of_exposes {tags : List Tag}
    (steps : scanner.Steps (.initial source) count (tags.flatMap Tag.tokens) state)
    (accepted : ofOptions options = .ok scanner) {tag : Tag} (member : tag ∈ tags)
    (wellFormed : tag.WellFormed) (noComment : tag.family ≠ .comment) {offset : Nat}
    (exposed : tag.Exposes offset) :
    ∃ token ∈ tag.body, token.kind ≠ .string ∧ offset < token.span.stop ∧
      ∀ role, StandsAt source offset (options.literal role) → token.span.start < offset := by
  have joined := (tiled_of_steps steps).joined
  have meets := wellFormed.isChain_meets noComment joined (Tag.tokens_isInfix member)
  obtain ⟨token, inBody, starts, stops⟩ :=
    exists_cover_of_isChain_meets meets exposed.notBefore exposed.before
  refine ⟨token, inBody, fun isString => ?_, stops, fun role stands => ?_⟩
  · exact exposed.noString token inBody isString ⟨starts, stops⟩
  · refine Nat.lt_of_le_of_ne starts ?_
    rintro rfl
    have inTokens := Tag.mem_flatMap_tokens_of_mem_body member inBody
    have content := wellFormed.content token inBody
    exact not_standsAt_of_isContent steps accepted inTokens content role stands

/-- Where a run comes to an opening literal inside a block or a variable, it fails over it. -/
theorem step_eq_failed_of_standsAt (steps : scanner.Steps (.initial source) count tokens state)
    (accepted : ofOptions options = .ok scanner) {opened : OpenTag}
    (isOpen : state.opened? = some opened) (noComment : opened.family ≠ .comment)
    (kept : scanner.givesUp opened.family state.input = false)
    (noClose : ∀ role : DelimiterRole, role.isOpening = false →
      ¬ StandsAt source state.input.here.offset (options.literal role))
    {role : DelimiterRole} (opens : role.isOpening)
    (stands : StandsAt source state.input.here.offset (options.literal role)) :
    ∃ found : Token, found.kind.isOpening ∧ found.span.start = state.input.here.offset ∧
      scanner.step state = .failed ⟨.unexpectedOpen found opened.token, found.span⟩ := by
  obtain ⟨passed, follows⟩ := (placed_of_steps steps).follows
  obtain ⟨-, delimiters_eq, -, -⟩ := ofOptions_eq_ok_iff.1 accepted
  have noCloseAt : scanner.delimiters.closeAt? state.input.rest = none := by
    rw [delimiters_eq, Delimiters.closeAt?_ofOptions_eq_none_iff]
    intro other closes start
    exact noClose other closes (follows.standsAt_iff.2 start)
  cases found : scanner.delimiters.openAt? state.input.rest with
  | none =>
    rw [delimiters_eq, Delimiters.openAt?_ofOptions_eq_none_iff] at found
    exact absurd (follows.standsAt_iff.1 stands) (found role opens)
  | some literal =>
    obtain ⟨input, opened?⟩ := state
    obtain rfl : opened? = some opened := isOpen
    exact ⟨_, rfl, rfl, (Rule.unexpectedOpen kept noComment noCloseAt found).step_eq⟩

end Scanner

/-- No usual opening literal can be missed inside a token. -/
theorem startsToken_of_isOpening {role : DelimiterRole} (opens : role.isOpening) :
    StartsToken (({} : Options).literal role) := by
  have noBrace : isInnerChar '{' = false := by decide
  cases role with
  | opening family => cases family <;> exact startsToken_of_head? rfl noBrace
  | trimmedOpening => exact startsToken_of_head? rfl noBrace
  | closing | trimmedClosing => cases opens

/-- Inside a block or a variable tag of a scan, strings apart, an opening literal stands nowhere but
strictly inside a token, and not even there if its first character can only be the first of a
token. Where a run comes to an opening literal in such a tag, the scan fails over it. -/
theorem nesting_of_scan (options : Options) (source : String) :
    (∀ result, scan options source = .ok result →
      ∃ tags, Tag.ofTokens result.tokens = .ok tags ∧
        ∀ tag ∈ tags, tag.family ≠ .comment →
          ∀ offset, tag.Exposes offset → ∀ role : DelimiterRole, role.isOpening →
            (StartsToken (options.literal role) →
              ¬ StandsAt source offset (options.literal role)) ∧
            (StandsAt source offset (options.literal role) →
              ∃ token ∈ tag.body, token.span.start < offset ∧ offset < token.span.stop)) ∧
    ∀ scanner count tokens state opened role, Scanner.ofOptions options = .ok scanner →
      scanner.Steps (.initial source) count tokens state → state.opened? = some opened →
      opened.family ≠ .comment → scanner.givesUp opened.family state.input = false →
      (∀ other : DelimiterRole, other.isOpening = false →
        ¬ StandsAt source state.input.here.offset (options.literal other)) →
      role.isOpening → StandsAt source state.input.here.offset (options.literal role) →
        ∃ found : Token, found.kind.isOpening ∧ found.span.start = state.input.here.offset ∧
          scan options source =
            .error (.lex ⟨.unexpectedOpen found opened.token, found.span⟩) := by
  constructor
  · intro result scanned
    obtain ⟨tags, tagsScanned, grouped, tokens_eq⟩ := exists_tags_of_scan scanned
    obtain ⟨rfl, scanner, count, state, accepted, steps, -⟩ := exists_steps_of_scan scanned
    have valid := (Scanner.ofOptions_eq_ok_iff.1 accepted).1
    rw [tokens_eq] at steps
    refine ⟨tags, grouped, ?_⟩
    intro tag member noComment offset exposed role opens
    have tagWellFormed := (tagsScanned tag member).wellFormed
    obtain ⟨token, inBody, noString, stops, behind⟩ :=
      Scanner.exists_cover_of_exposes steps accepted member tagWellFormed noComment exposed
    constructor
    · intro startsToken stands
      obtain ⟨char, first, inner⟩ :=
        Scanner.exists_isInnerChar_of_standsAt steps
          (Tag.mem_flatMap_tokens_of_mem_body member inBody) (tagWellFormed.content token inBody)
          noString (behind role stands) stops (Options.literal_ne_empty valid role) stands
      simp [startsToken char first] at inner
    · intro stands
      exact ⟨token, inBody, behind role stands, stops⟩
  · intro scanner count tokens state opened role accepted steps isOpen noComment kept noClose opens
      stands
    obtain ⟨found, opening, starts, fails⟩ :=
      Scanner.step_eq_failed_of_standsAt steps accepted isOpen noComment kept noClose opens stands
    refine ⟨found, opening, starts, scan_eq_error_lex_iff.2 ⟨scanner, accepted, ?_⟩⟩
    exact Scanner.tokensFrom_eq_error_iff.2 ⟨count, tokens, state, steps, fails⟩

/-- A nested opening literal in a string, and one behind it. -/
theorem nesting_of_scan_string :
    (∃ result, scan {} "\x7b% '\x7b\x7b' %\x7d" = .ok result ∧
      ∃ tags, Tag.ofTokens result.tokens = .ok tags ∧
        ∀ tag ∈ tags, tag.family ≠ .comment → ∀ offset, tag.Exposes offset →
          ¬ StandsAt "\x7b% '\x7b\x7b' %\x7d" offset "\x7b\x7b") ∧
    ∃ found : Token, found.kind.isOpening ∧ found.span.start = 4 ∧
      scan {} "\x7b%''\x7b\x7b %\x7d" = .error (.lex
        ⟨.unexpectedOpen found ⟨.opening .block, "\x7b%", ⟨0, 2, 1, 1⟩⟩, found.span⟩) := by
  let result : Scan :=
    ⟨"\x7b% '\x7b\x7b' %\x7d",
      [⟨.opening .block, "\x7b%", ⟨0, 2, 1, 1⟩⟩, ⟨.whitespace, " ", ⟨2, 3, 1, 3⟩⟩,
        ⟨.string, "'\x7b\x7b'", ⟨3, 7, 1, 4⟩⟩, ⟨.whitespace, " ", ⟨7, 8, 1, 8⟩⟩,
        ⟨.closing .block, "%\x7d", ⟨8, 10, 1, 9⟩⟩]⟩
  have scanned : scan {} "\x7b% '\x7b\x7b' %\x7d" = .ok result := by
    decide +kernel
  constructor
  · obtain ⟨tags, grouped, missed⟩ := (nesting_of_scan {} _).1 result scanned
    refine ⟨result, scanned, tags, grouped, ?_⟩
    intro tag member noComment offset exposed
    exact (missed tag member noComment offset exposed (.opening .var) rfl).1
      (startsToken_of_isOpening rfl)
  · let opened : OpenTag := ⟨.block, ⟨.opening .block, "\x7b%", ⟨0, 2, 1, 1⟩⟩⟩
    let state : State := ⟨⟨⟨4, 1, 5⟩, ['{', '{', ' ', '%', '}']⟩, some opened⟩
    have steps : Scanner.standard.Steps (.initial "\x7b%''\x7b\x7b %\x7d") 2
        [opened.token, ⟨.string, "''", ⟨2, 4, 1, 3⟩⟩] state :=
      .emitted (.emitted .refl rfl) rfl
    have follows : state.input.Follows "\x7b%''\x7b\x7b %\x7d" ['{', '%', '\x27', '\x27'] :=
      ⟨rfl, rfl⟩
    refine (nesting_of_scan {} _).2 Scanner.standard 2 _ state opened (.opening .var)
      Scanner.ofOptions_default steps rfl (by decide) rfl ?_ rfl ?_
    · intro other closes stands
      rw [follows.standsAt_iff] at stands
      revert stands
      cases other with
      | opening | trimmedOpening => cases closes
      | closing family => cases family <;> decide
      | trimmedClosing => decide
    · exact follows.standsAt_iff.2 (by decide)

/-- An opening literal that begins with a character of words is missed behind a letter. -/
theorem nested_opening_missed_behind_letter :
    let options : Options := { var := ⟨"$\x7b", "\x7d"⟩ }
    ∃ result tags tag, scan options "$\x7ba$\x7bb\x7d" = .ok result ∧
      Tag.ofTokens result.tokens = .ok tags ∧ tag ∈ tags ∧ tag.family = .var ∧
        tag.Exposes 3 ∧ StandsAt "$\x7ba$\x7bb\x7d" 3 (options.literal (.opening .var)) := by
  intro options
  let opening : Token := ⟨.opening .var, "$\x7b", ⟨0, 2, 1, 1⟩⟩
  let body : List Token :=
    [⟨.symbol, "a$", ⟨2, 4, 1, 3⟩⟩, ⟨.punctuation .leftCurly, "\x7b", ⟨4, 5, 1, 5⟩⟩,
      ⟨.symbol, "b", ⟨5, 6, 1, 6⟩⟩]
  let closing : Token := ⟨.closing .var, "\x7d", ⟨6, 7, 1, 7⟩⟩
  refine ⟨⟨"$\x7ba$\x7bb\x7d", opening :: (body ++ [closing])⟩, [⟨.var, opening, body, closing⟩],
    ⟨.var, opening, body, closing⟩, by decide +kernel, by decide +kernel, by simp, rfl, ?_, ?_⟩
  · refine ⟨by decide, by decide, ?_⟩
    simp [body]
  · exact slice?_eq_some_iff.2 ⟨"$\x7ba", "b\x7d", by decide, by decide, rfl⟩

end TemplateTags
