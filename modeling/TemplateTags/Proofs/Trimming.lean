import TemplateTags.Proofs.Positions

/-!
# Trimmed delimiters

The trim modifier of a token is read off its text, without the literals that the scanner looked for.
The two agree as long as no plain block literal has the modifier's character on its inner side;
`trims_of_scan` says exactly where they part.
-/

namespace TemplateTags

namespace Options

/-- The plain opening literal of blocks ends with the character of the trim modifier. -/
def PlainOpeningMarked (options : Options) : Prop :=
  options.block.start.toList.getLast? = some trimModifier

/-- The plain closing literal of blocks starts with the character of the trim modifier. -/
def PlainClosingMarked (options : Options) : Prop :=
  options.block.stop.toList.head? = some trimModifier

theorem getLast?_trimmedOpening (options : Options) :
    (options.literal .trimmedOpening).toList.getLast? = some trimModifier := by
  simp [literal]

theorem head?_trimmedClosing (options : Options) :
    (options.literal .trimmedClosing).toList.head? = some trimModifier := by
  simp [literal]

end Options

namespace Scanner

variable {scanner : Scanner} {options : Options} {source : String} {count : Nat}
  {tokens : List Token} {state : State}

/-- A token of a run stands inside a tag, or it is a delimiter with the text of a literal. -/
theorem isContent_or_exists_role (steps : scanner.Steps (.initial source) count tokens state)
    (accepted : ofOptions options = .ok scanner) {token : Token} (member : token ∈ tokens) :
    token.isContent ∨
      ∃ role : DelimiterRole, token.kind = role.kind ∧ token.value = options.literal role := by
  obtain ⟨count', before, reached, next, prior, rule⟩ := exists_rule_of_mem steps member
  obtain ⟨-, delimiters_eq, -, -⟩ := ofOptions_eq_ok_iff.1 accepted
  cases rule with
  | opens noClose opening =>
    have listed := (Delimiters.openAt?_eq_some opening).1
    rw [delimiters_eq] at listed
    obtain ⟨role, isOpening, rfl⟩ := Delimiters.mem_openings_ofOptions_iff.1 listed
    exact .inr ⟨role, by simp [DelimiterRole.kind, isOpening], by simp [Input.token]⟩
  | closes kept own =>
    obtain ⟨listed, family_eq, -⟩ := Delimiters.closeOf?_eq_some own
    rw [delimiters_eq] at listed
    obtain ⟨role, isClosing, rfl⟩ := Delimiters.mem_closings_ofOptions_iff.1 listed
    refine .inr ⟨role, ?_, by simp [Input.token]⟩
    simp [DelimiterRole.kind, isClosing, ← family_eq]
  | lexeme _ _ _ _ _ reads => exact .inl (Lexeme.isContent_of_read reads)

end Scanner

namespace Token

variable {token : Token}

/-- The token is a block delimiter with the text of a trimmed literal. -/
def IsTrimmed (options : Options) (token : Token) : Prop :=
  token.kind = .opening .block ∧ token.value = options.literal .trimmedOpening ∨
    token.kind = .closing .block ∧ token.value = options.literal .trimmedClosing

/-- The token is a block delimiter with the text of a plain literal that looks trimmed. -/
def LooksTrimmed (options : Options) (token : Token) : Prop :=
  token.kind = .opening .block ∧ token.value = options.block.start ∧
      options.PlainOpeningMarked ∨
    token.kind = .closing .block ∧ token.value = options.block.stop ∧ options.PlainClosingMarked

theorem hasTrimModifier_of_opening (opens : token.kind = .opening .block) :
    token.hasTrimModifier ↔ token.value.toList.getLast? = some trimModifier := by
  simp [hasTrimModifier, opens]

theorem hasTrimModifier_of_closing (closes : token.kind = .closing .block) :
    token.hasTrimModifier ↔ token.value.toList.head? = some trimModifier := by
  simp [hasTrimModifier, closes]

/-- Only block delimiters have a trim modifier. -/
theorem kind_of_hasTrimModifier (trimmed : token.hasTrimModifier) :
    token.kind = .opening .block ∨ token.kind = .closing .block := by
  unfold hasTrimModifier at trimmed
  split at trimmed
  · exact .inl ‹_›
  · exact .inr ‹_›
  · cases trimmed

end Token

/-- A token of a run has the trim modifier exactly if it has the text of a trimmed literal, or that
of a plain one that looks trimmed. -/
theorem Scanner.hasTrimModifier_iff {scanner : Scanner} {options : Options} {source : String}
    {count : Nat} {tokens : List Token} {state : State}
    (steps : scanner.Steps (.initial source) count tokens state)
    (accepted : ofOptions options = .ok scanner) {token : Token} (member : token ∈ tokens) :
    token.hasTrimModifier ↔ token.IsTrimmed options ∨ token.LooksTrimmed options := by
  constructor
  · intro trimmed
    have block := Token.kind_of_hasTrimModifier trimmed
    rcases isContent_or_exists_role steps accepted member with content | ⟨role, kind_eq, value_eq⟩
    · rcases block with opens | closes
      · simp [Token.isContent, opens, Kind.isContent, Kind.family?] at content
      · simp [Token.isContent, closes, Kind.isContent, Kind.family?] at content
    rw [kind_eq] at block
    cases role with
    | trimmedOpening => exact .inl (.inl ⟨kind_eq, value_eq⟩)
    | trimmedClosing => exact .inl (.inr ⟨kind_eq, value_eq⟩)
    | opening family =>
      obtain rfl : family = .block := by simpa using block
      rw [Token.hasTrimModifier_of_opening kind_eq, value_eq] at trimmed
      exact .inr (.inl ⟨kind_eq, value_eq, trimmed⟩)
    | closing family =>
      obtain rfl : family = .block := by simpa using block
      rw [Token.hasTrimModifier_of_closing kind_eq, value_eq] at trimmed
      exact .inr (.inr ⟨kind_eq, value_eq, trimmed⟩)
  · rintro ((⟨opens, value_eq⟩ | ⟨closes, value_eq⟩) |
      (⟨opens, value_eq, marked⟩ | ⟨closes, value_eq, marked⟩))
    · rw [Token.hasTrimModifier_of_opening opens, value_eq, options.getLast?_trimmedOpening]
    · rw [Token.hasTrimModifier_of_closing closes, value_eq, options.head?_trimmedClosing]
    · rw [Token.hasTrimModifier_of_opening opens, value_eq, marked]
    · rw [Token.hasTrimModifier_of_closing closes, value_eq, marked]

/-- In a scan the trim modifier is told from the text of a token: it is there exactly if the token
is a block delimiter with a trimmed literal, or with a plain one that looks trimmed. So a block tag
reports its trimmed delimiters, and other ones only if a plain literal looks trimmed; the other tags
report none. -/
theorem trims_of_scan {options : Options} {source : String} {result : Scan}
    (scanned : scan options source = .ok result) :
    (∀ token ∈ result.tokens,
      (token.hasTrimModifier ↔ token.IsTrimmed options ∨ token.LooksTrimmed options)) ∧
    ∃ tags, Tag.ofTokens result.tokens = .ok tags ∧
      ∀ tag ∈ tags,
        (tag.family = .block →
          (tag.trims.1 ↔ tag.opening.value = options.literal .trimmedOpening ∨
            tag.opening.value = options.block.start ∧ options.PlainOpeningMarked) ∧
          (tag.trims.2 ↔ tag.closing.value = options.literal .trimmedClosing ∨
            tag.closing.value = options.block.stop ∧ options.PlainClosingMarked)) ∧
        (tag.family ≠ .block → tag.trims = (false, false)) := by
  obtain ⟨tags, tagsScanned, grouped, tokens_eq⟩ := exists_tags_of_scan scanned
  obtain ⟨rfl, scanner, count, state, accepted, steps, -⟩ := exists_steps_of_scan scanned
  have modifier : ∀ token ∈ result.tokens,
      (token.hasTrimModifier ↔ token.IsTrimmed options ∨ token.LooksTrimmed options) :=
    fun token member => Scanner.hasTrimModifier_iff steps accepted member
  refine ⟨modifier, tags, grouped, ?_⟩
  intro tag member
  have wellFormed := (tagsScanned tag member).wellFormed
  have inTokens : ∀ token ∈ tag.tokens, token ∈ result.tokens := by
    intro token inTag
    rw [tokens_eq]
    exact (Tag.tokens_isInfix member).subset inTag
  constructor
  · intro block
    have opens : tag.opening.kind = .opening .block := block ▸ wellFormed.opens
    have closes : tag.closing.kind = .closing .block := block ▸ wellFormed.closes
    have first := modifier tag.opening (inTokens _ (by simp [Tag.tokens]))
    have last := modifier tag.closing (inTokens _ (by simp [Tag.tokens]))
    simp only [Token.IsTrimmed, Token.LooksTrimmed, opens, closes, reduceCtorEq, false_and,
      true_and, or_false, false_or] at first last
    exact ⟨first, last⟩
  · intro other
    have opening : tag.opening.hasTrimModifier = false := by
      rw [Bool.eq_false_iff]
      intro trimmed
      rcases Token.kind_of_hasTrimModifier trimmed with opens | closes
      · exact other (Kind.opening.inj (wellFormed.opens.symm.trans opens))
      · cases wellFormed.opens.symm.trans closes
    have closing : tag.closing.hasTrimModifier = false := by
      rw [Bool.eq_false_iff]
      intro trimmed
      rcases Token.kind_of_hasTrimModifier trimmed with opens | closes
      · cases wellFormed.closes.symm.trans opens
      · exact other (Kind.closing.inj (wellFormed.closes.symm.trans closes))
    rw [Tag.trims, opening, closing]

/-- A trimmed and a plain delimiter of blocks whose plain opening literal looks trimmed. -/
theorem trims_of_scan_looks_trimmed :
    let options : Options := { block := ⟨"<-", ">"⟩ }
    ∃ result, scan options "<-a->" = .ok result ∧
      (∀ token ∈ result.tokens,
        (token.hasTrimModifier ↔ token.IsTrimmed options ∨ token.LooksTrimmed options)) ∧
      ∃ tags, Tag.ofTokens result.tokens = .ok tags ∧
        ∀ tag ∈ tags,
          (tag.family = .block →
            (tag.trims.1 ↔ tag.opening.value = options.literal .trimmedOpening ∨
              tag.opening.value = options.block.start ∧ options.PlainOpeningMarked) ∧
            (tag.trims.2 ↔ tag.closing.value = options.literal .trimmedClosing ∨
              tag.closing.value = options.block.stop ∧ options.PlainClosingMarked)) ∧
          (tag.family ≠ .block → tag.trims = (false, false)) := by
  intro options
  let result : Scan :=
    ⟨"<-a->",
      [⟨.opening .block, "<-", ⟨0, 2, 1, 1⟩⟩, ⟨.symbol, "a", ⟨2, 3, 1, 3⟩⟩,
        ⟨.closing .block, "->", ⟨3, 5, 1, 4⟩⟩]⟩
  have scanned : scan options "<-a->" = .ok result := by
    decide +kernel
  exact ⟨result, scanned, trims_of_scan scanned⟩

/-- Between `<!--` and `-->` the plain delimiters of a block are reported as trimmed. -/
theorem plain_delimiters_reported_trimmed :
    let options : Options := { block := ⟨"<!--", "-->"⟩ }
    ∃ result tag, scan options "<!--a-->" = .ok result ∧
      Tag.ofTokens result.tokens = .ok [tag] ∧ tag.opening.value = options.block.start ∧
        tag.closing.value = options.block.stop ∧ tag.trims = (true, true) ∧
          ∀ token ∈ result.tokens, ¬ token.IsTrimmed options := by
  intro options
  let opening : Token := ⟨.opening .block, "<!--", ⟨0, 4, 1, 1⟩⟩
  let body : List Token := [⟨.symbol, "a", ⟨4, 5, 1, 5⟩⟩]
  let closing : Token := ⟨.closing .block, "-->", ⟨5, 8, 1, 6⟩⟩
  refine ⟨⟨"<!--a-->", opening :: (body ++ [closing])⟩, ⟨.block, opening, body, closing⟩,
    by decide +kernel, by decide +kernel, rfl, rfl, by decide, ?_⟩
  intro token member
  simp only [body, List.cons_append, List.nil_append, List.mem_cons, List.not_mem_nil,
    or_false] at member
  rcases member with rfl | rfl | rfl <;> simp only [Token.IsTrimmed] <;> decide

end TemplateTags
