import TemplateTags.Proofs.Borders
import TemplateTags.Proofs.MaximalMunch
import TemplateTags.Proofs.Nesting
import TemplateTags.Proofs.Trimming

/-!
# Missed closing delimiters

White space and words stop for a closing delimiter, and operators do not. With the usual delimiters
there is one way to miss one for this: in `--%\x7d` the operator takes the minus sign that the
trimmed delimiter starts with. The block is then closed with the plain delimiter, and its trim is
lost. `Scanner.takesModifier_of_holdsClosing` says that nothing else hides a closing delimiter.
-/

namespace TemplateTags

open Text

/-! ## Texts side by side -/

namespace Text.StandsAt

variable {source first second : String} {offset : Nat}

/-- Two texts that stand one behind the other stand there as one. -/
theorem append (before : StandsAt source offset first)
    (behind : StandsAt source (offset + first.utf8ByteSize) second) :
    StandsAt source offset (first ++ second) := by
  have joined := slice?_append_slice? before behind
  rwa [Nat.add_assoc, ← String.utf8ByteSize_append] at joined

/-- The second part of a text stands behind the first. -/
theorem of_append (stands : StandsAt source offset (first ++ second)) :
    StandsAt source (offset + first.utf8ByteSize) second := by
  obtain ⟨before, after, source_eq, rfl, -⟩ := slice?_eq_some_iff.1 stands
  refine slice?_eq_some_iff.2 ⟨before ++ first, after, ?_, ?_, rfl⟩
  · simp only [source_eq, String.append_assoc]
  · rw [String.utf8ByteSize_append]

end Text.StandsAt

/-- The value of a faithful token stands where the token starts. -/
theorem Token.Faithful.standsAt {source : String} {token : Token}
    (faithful : token.Faithful source) :
    token.span.stop = token.span.start + token.value.utf8ByteSize ∧
      StandsAt source token.span.start token.value := by
  obtain ⟨_, _, -, -, stop_eq⟩ := slice?_eq_some_iff.1 faithful.value
  refine ⟨stop_eq, ?_⟩
  rw [StandsAt, ← stop_eq]
  exact faithful.value

/-! ## Tokens that hide a closing delimiter -/

namespace Token

/-- A usual closing literal stands at a character of the token. -/
def HoldsClosing (source : String) (token : Token) : Prop :=
  ∃ offset, ∃ role : DelimiterRole, token.span.start ≤ offset ∧ offset < token.span.stop ∧
    role.isOpening = false ∧ StandsAt source offset (({} : Options).literal role)

/-- The token is the operator of two minus signs, and the plain delimiter that closes blocks stands
behind it. -/
structure TakesModifier (source : String) (token : Token) : Prop where
  kind : token.kind = .operator
  value : token.value = "--"
  behind : StandsAt source token.span.stop "%\x7d"

/-- With its second minus sign, such a token starts the trimmed delimiter. -/
theorem TakesModifier.holdsClosing {source : String} {token : Token}
    (takes : token.TakesModifier source) (faithful : token.Faithful source) :
    token.HoldsClosing source := by
  obtain ⟨stop_eq, stands⟩ := faithful.standsAt
  rw [takes.value] at stop_eq stands
  replace stop_eq : token.span.stop = token.span.start + 1 + 1 := stop_eq
  replace stands : StandsAt source token.span.start ("-" ++ "-") := stands
  have minus : StandsAt source (token.span.start + 1) "-" := stands.of_append
  have behind : StandsAt source (token.span.start + 1 + 1) "%\x7d" := stop_eq ▸ takes.behind
  exact ⟨token.span.start + 1, .trimmedClosing, Nat.le_succ _, by omega, rfl,
    minus.append behind⟩

end Token

/-- Among the usual closing literals, only the trimmed one can be missed inside a token. -/
theorem startsToken_closing (family : Family) :
    StartsToken (({} : Options).literal (.closing family)) := by
  cases family with
  | block => exact startsToken_of_head? rfl (by decide : isInnerChar '%' = false)
  | var => exact startsToken_of_head? rfl (by decide : isInnerChar '}' = false)
  | comment => exact startsToken_of_head? rfl (by decide : isInnerChar '#' = false)

/-- Behind its first character, only the operator of two minus signs has one. -/
theorem Lexeme.Reads.eq_of_minus_mem {stops : List Char → Bool} {char : Char}
    {rest text : List Char} {kind : Kind} (reads : Lexeme.Reads stops char rest kind text)
    (noString : kind ≠ .string) (minus : '-' ∈ text.tail) :
    kind = .operator ∧ text = ['-', '-'] := by
  cases reads with
  | whitespace =>
    have blank := forall_mem_takeRun '-' (List.mem_of_mem_tail minus)
    cases blank
  | string => exact absurd rfl noString
  | operator _ _ _ found =>
    exact ⟨rfl, eq_of_mem_operators (operatorAt?_eq_some found).1 minus (by simp)⟩
  | punctuation => simp at minus
  | word _ _ _ run =>
    rw [← run] at minus
    have inWord := forall_mem_takeRun '-' (List.mem_of_mem_tail minus)
    cases inWord

namespace Scanner

variable {source : String} {count : Nat} {tokens : List Token} {state : State} {input : Input}
  {opened : OpenTag} {token : Token}

/-- A token other than a string hides a closing literal only by taking its trim modifier. -/
theorem takesModifier_of_holdsClosing (steps : standard.Steps (.initial source) count tokens state)
    (member : token ∈ tokens) (content : token.isContent) (noString : token.kind ≠ .string)
    (holds : token.HoldsClosing source) : token.TakesModifier source := by
  obtain ⟨offset, role, notBefore, inside, closes, stands⟩ := holds
  have behindStart : token.span.start < offset := by
    refine Nat.lt_of_le_of_ne notBefore ?_
    rintro rfl
    exact not_standsAt_of_isContent steps ofOptions_default member content role stands
  obtain ⟨_, _, front, inner, back, remaining, reads, value_eq, frontNotEmpty, start, follows⟩ :=
    exists_parts_of_standsAt steps member content behindStart inside stands
  have inTail : inner ∈ (front ++ inner :: back).tail := by
    simp [List.tail_append_of_ne_nil frontNotEmpty]
  obtain rfl : role = .trimmedClosing := by
    obtain ⟨char, first, isInner⟩ := exists_isInnerChar_of_standsAt steps member content noString
      behindStart inside (Options.literal_ne_empty rfl role) stands
    cases role with
    | opening | trimmedOpening => cases closes
    | trimmedClosing => rfl
    | closing family => simp [startsToken_closing family char first] at isInner
  obtain ⟨rfl, rest⟩ :=
    List.cons_prefix_cons.1 (show '-' :: ['%', '}'] <+: inner :: (back ++ remaining) from start)
  obtain ⟨kind, text_eq⟩ := reads.eq_of_minus_mem noString inTail
  have noBack : back = [] := by
    have lengths := congrArg List.length text_eq
    have notEmpty := List.length_pos_iff.2 frontNotEmpty
    simp only [List.length_append, List.length_cons, List.length_nil] at lengths
    exact List.length_eq_zero_iff.1 (by omega)
  rw [noBack, List.nil_append] at rest
  exact ⟨kind, by rw [value_eq, text_eq], (follows _).2 rest⟩

/-- Where the plain delimiter of blocks stands inside a tag, no other token is found. -/
theorem Rule.closes_block {next : State}
    (rule : standard.Rule ⟨input, some opened⟩ (.emitted token next))
    (start : ['%', '}'] <+: input.rest) :
    opened.family = .block ∧ token = input.token (.closing .block) ['%', '}'] := by
  cases rule with
  | @closes _ _ literal _ own =>
    obtain ⟨listed, family_eq, literalStart⟩ := Delimiters.closeOf?_eq_some own
    obtain rfl : literal = ⟨['%', '}'], .block⟩ := by
      obtain ⟨rest, rest_eq⟩ := start
      rw [← rest_eq] at literalStart
      rw [closings_standard] at listed
      simp only [List.mem_cons, List.not_mem_nil, or_false] at listed
      rcases listed with rfl | rfl | rfl | rfl
      · simp at literalStart
      · rfl
      · simp at literalStart
      · simp at literalStart
    exact ⟨family_eq.symm, by rw [← family_eq]⟩
  | lexeme _ _ _ noClose =>
    exact absurd start (Delimiters.closeAt?_eq_none_iff.1 noClose ⟨['%', '}'], .block⟩ (by decide))

/-- A tag in which a token takes the trim modifier is a block that is closed right behind this one,
without a trim. -/
theorem closes_of_takesModifier {tags : List Tag} {tag : Tag}
    (steps : standard.Steps (.initial source) count (tags.flatMap Tag.tokens) state)
    (member : tag ∈ tags) (wellFormed : tag.WellFormed) (inBody : token ∈ tag.body)
    (takes : token.TakesModifier source) :
    tag.family = .block ∧ tag.closing.value = "%\x7d" ∧
      tag.closing.span.start = token.span.stop ∧ tag.trims.2 = false := by
  have content := wellFormed.content token inBody
  obtain ⟨following, pair⟩ := Tag.exists_following inBody
  obtain ⟨_, _, reached, next, last, prior, rule, behind⟩ :=
    steps.exists_successive (pair.trans (Tag.tokens_isInfix member)) content
  obtain ⟨_, follows⟩ := (placed_of_steps (prior.emitted rule.step_eq)).follows
  have stops : token.span.stop = next.input.here.offset := by
    obtain ⟨_, _, -, -, token_eq, input_eq, -⟩ := rule.emits
    simp [token_eq, input_eq]
  have start : ['%', '}'] <+: next.input.rest := by
    have stands := takes.behind
    rwa [stops, follows.standsAt_iff] at stands
  cases rule with
  | opens | closes => cases content
  | lexeme =>
    obtain ⟨-, following_eq⟩ := behind.closes_block start
    have closing : following.kind = .closing .block := by rw [following_eq, Input.kind_token]
    obtain rfl : following = tag.closing := by
      apply wellFormed.eq_closing (pair.subset (by simp))
      rw [Token.isClosing, closing]
      rfl
    refine ⟨Kind.closing.inj (wellFormed.closes.symm.trans closing), ?_, ?_, ?_⟩
    · rw [following_eq]
      rfl
    · rw [following_eq, stops, Input.start_token]
    · simp [Tag.trims, following_eq, Input.token, Token.hasTrimModifier, trimModifier]

end Scanner

/-- With the usual delimiters, a token other than a string hides a closing delimiter exactly if it
is the operator of two minus signs in front of the plain delimiter of blocks. It then stands at the
end of a block, which this plain delimiter closes without a trim. -/
theorem missed_closings_of_tokenize {source : String} {tokens : List Token}
    (scanned : tokenize source = .ok tokens) :
    ∃ tags, Tag.ofTokens tokens = .ok tags ∧
      (∀ token ∈ tokens, token.isContent → ∃ tag ∈ tags, token ∈ tag.body) ∧
      ∀ tag ∈ tags, ∀ token ∈ tag.body, token.kind ≠ .string →
        (token.HoldsClosing source ↔ token.TakesModifier source) ∧
        (token.TakesModifier source →
          tag.family = .block ∧ tag.closing.value = "%\x7d" ∧
            tag.closing.span.start = token.span.stop ∧ tag.trims.2 = false) := by
  obtain ⟨tags, tagsScanned, grouped, tokens_eq⟩ :=
    exists_tags_of_scan (Scanner.scan_of_tokens scanned)
  obtain rfl : tokens = tags.flatMap Tag.tokens := tokens_eq
  obtain ⟨_, _, steps, -⟩ := Scanner.tokensFrom_eq_ok_iff.1 scanned
  refine ⟨tags, grouped, ?inside, ?hidden⟩
  case inside =>
    intro token inTokens content
    obtain ⟨tag, member, inTag⟩ := List.mem_flatMap.1 inTokens
    exact ⟨tag, member, (tagsScanned tag member).wellFormed.mem_body inTag content⟩
  case hidden =>
    intro tag member token inBody noString
    have wellFormed := (tagsScanned tag member).wellFormed
    have inTokens := Tag.mem_flatMap_tokens_of_mem_body member inBody
    refine ⟨⟨?_, ?_⟩, Scanner.closes_of_takesModifier steps member wellFormed inBody⟩
    · exact Scanner.takesModifier_of_holdsClosing steps inTokens
        (wellFormed.content token inBody) noString
    · intro takes
      exact takes.holdsClosing ((Scanner.placed_of_steps steps).faithful token inTokens)

/-- A block that ends with two minus signs is not trimmed, and one with three is. -/
theorem missed_closings_of_tokenize_minuses :
    let minuses : Token := ⟨.operator, "--", ⟨3, 5, 1, 4⟩⟩
    (∃ tokens tag, tokenize "\x7b%a--%\x7d" = .ok tokens ∧ Tag.ofTokens tokens = .ok [tag] ∧
      minuses ∈ tag.body ∧ minuses.HoldsClosing "\x7b%a--%\x7d" ∧ tag.trims.2 = false) ∧
    ∃ tokens tag, tokenize "\x7b%a---%\x7d" = .ok tokens ∧ Tag.ofTokens tokens = .ok [tag] ∧
      minuses ∈ tag.body ∧ ¬ minuses.HoldsClosing "\x7b%a---%\x7d" ∧ tag.trims.2 = true := by
  intro minuses
  let opening : Token := ⟨.opening .block, "\x7b%", ⟨0, 2, 1, 1⟩⟩
  let symbol : Token := ⟨.symbol, "a", ⟨2, 3, 1, 3⟩⟩
  constructor
  · let tag : Tag := ⟨.block, opening, [symbol, minuses], ⟨.closing .block, "%\x7d", ⟨5, 7, 1, 6⟩⟩⟩
    have scanned : tokenize "\x7b%a--%\x7d" = .ok tag.tokens := by
      decide +kernel
    have groups : Tag.ofTokens tag.tokens = .ok [tag] := by
      decide +kernel
    obtain ⟨tags, grouped, -, hidden⟩ := missed_closings_of_tokenize scanned
    obtain rfl : [tag] = tags := Except.ok.inj (groups.symm.trans grouped)
    obtain ⟨holds, closes⟩ := hidden tag (by simp) minuses (by simp [tag]) (by decide)
    have takes : minuses.TakesModifier "\x7b%a--%\x7d" :=
      ⟨rfl, rfl, slice?_eq_some_iff.2 ⟨"\x7b%a--", "", rfl, rfl, rfl⟩⟩
    exact ⟨_, tag, scanned, groups, by simp [tag], holds.2 takes, (closes takes).2.2.2⟩
  · let tag : Tag := ⟨.block, opening, [symbol, minuses], ⟨.closing .block, "-%\x7d", ⟨5, 8, 1, 6⟩⟩⟩
    have scanned : tokenize "\x7b%a---%\x7d" = .ok tag.tokens := by
      decide +kernel
    have groups : Tag.ofTokens tag.tokens = .ok [tag] := by
      decide +kernel
    obtain ⟨tags, grouped, -, hidden⟩ := missed_closings_of_tokenize scanned
    obtain rfl : [tag] = tags := Except.ok.inj (groups.symm.trans grouped)
    obtain ⟨holds, -⟩ := hidden tag (by simp) minuses (by simp [tag]) (by decide)
    refine ⟨_, tag, scanned, groups, by simp [tag], fun held => ?_, by decide⟩
    have noClose : ¬ StandsAt "\x7b%a---%\x7d" minuses.span.stop "%\x7d" := by
      rw [StandsAt]
      decide
    exact noClose (holds.1 held).behind

end TemplateTags
