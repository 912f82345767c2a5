import TemplateTags.Proofs.Layout

/-!
# Positions in a run

What a run has done at each position of the source. Every token was emitted where it starts, by
`Scanner.exists_rule_of_mem`, and read there if it stands inside a tag, by
`Scanner.exists_reads_of_mem`. At a position that no token covers a character was passed over, by
`Scanner.exists_skip_of_uncovered`. Which tag was open there can be told from the tokens found
before, by `Scanner.opened?_of_steps`.
-/

namespace TemplateTags

open Text

/-! ## Texts at an offset -/

/-- The text stands in the source at an offset. -/
def Text.StandsAt (source : String) (offset : Nat) (text : String) : Prop :=
  slice? source offset (offset + text.utf8ByteSize) = some text

theorem Text.StandsAt.isBoundary {source text : String} {offset : Nat}
    (stands : StandsAt source offset text) : IsBoundary source offset :=
  (isSome_slice?_iff.1 (Option.isSome_of_eq_some stands)).1

/-- A boundary behind a first part of the source splits what follows that part. -/
theorem Text.exists_split_of_isBoundary {source : String} {passed rest : List Char} {offset : Nat}
    (split : source.toList = passed ++ rest) (boundary : IsBoundary source offset)
    (notBefore : byteLength passed ≤ offset) :
    ∃ front back, rest = front ++ back ∧ offset = byteLength passed + byteLength front := by
  obtain ⟨before, after, source_eq, rfl⟩ := isBoundary_iff.1 boundary
  have same : String.ofList passed ++ String.ofList rest = before ++ after := by
    rw [← source_eq, ← String.ofList_append, ← split, String.ofList_toList]
  obtain ⟨front, before_eq, rest_eq⟩ :=
    exists_append_of_utf8ByteSize_le same (by rwa [utf8ByteSize_ofList])
  refine ⟨front.toList, after.toList, by simpa using congrArg String.toList rest_eq, ?_⟩
  rw [before_eq, String.utf8ByteSize_append, utf8ByteSize_ofList, byteLength_toList]

/-- No boundary falls inside a character. -/
theorem Text.eq_byteLength_of_isBoundary {source : String} {passed rest : List Char} {char : Char}
    {offset : Nat} (split : source.toList = passed ++ char :: rest)
    (boundary : IsBoundary source offset) (notBefore : byteLength passed ≤ offset)
    (inside : offset < byteLength passed + char.utf8Size) : offset = byteLength passed := by
  obtain ⟨front, back, rest_eq, offset_eq⟩ := exists_split_of_isBoundary split boundary notBefore
  cases front with
  | nil => simpa using offset_eq
  | cons first others =>
    obtain ⟨rfl, -⟩ := List.cons.inj rest_eq
    rw [byteLength_cons] at offset_eq
    omega

namespace Input.Follows

variable {input : Input} {source : String} {passed : List Char}

/-- The offset counts the bytes of what the input follows. -/
theorem offset_eq (follows : input.Follows source passed) :
    input.here.offset = byteLength passed := by
  simp [follows.here, Location.first]

/-- A text stands where the input is exactly if the input starts with it. -/
theorem standsAt_iff (follows : input.Follows source passed) {text : String} :
    StandsAt source input.here.offset text ↔ text.toList <+: input.rest := by
  constructor
  · intro stands
    obtain ⟨before, after, source_eq, before_eq, -⟩ := slice?_eq_some_iff.1 stands
    have same : before ++ (text ++ after) = String.ofList passed ++ String.ofList input.rest := by
      rw [← String.append_assoc, ← source_eq, ← String.ofList_append, ← follows.text,
        String.ofList_toList]
    have sizes : before.utf8ByteSize = (String.ofList passed).utf8ByteSize := by
      rw [← before_eq, follows.offset_eq, utf8ByteSize_ofList]
    obtain ⟨middle, passed_eq, rest_eq⟩ := exists_append_of_utf8ByteSize_le same (by omega)
    have noBytes : middle.utf8ByteSize = 0 := by
      have lengths := congrArg String.utf8ByteSize passed_eq
      rw [String.utf8ByteSize_append] at lengths
      omega
    obtain rfl : middle = "" := String.utf8ByteSize_eq_zero_iff.1 noBytes
    exact ⟨after.toList, by simpa using congrArg String.toList rest_eq⟩
  · rintro ⟨rest, split⟩
    have parts : source.toList = passed ++ text.toList ++ rest := by
      rw [follows.text, ← split, List.append_assoc]
    simpa [StandsAt, follows.offset_eq, byteLength_toList] using slice?_of_toList_eq parts

end Input.Follows

/-! ## The open tag -/

namespace OpenTag

/-- The tag that is open behind a token, from the one that is open before it. -/
def next? (opened? : Option OpenTag) (token : Token) : Option OpenTag :=
  match token.kind with
  | .opening family => some ⟨family, token⟩
  | .closing _ => none
  | _ => opened?

/-- The tag that tokens leave open. -/
def after? (tokens : List Token) : Option OpenTag :=
  tokens.foldl next? none

/-- Behind an opening delimiter its tag is open. -/
theorem next?_of_opening {opened? : Option OpenTag} {token : Token} {family : Family}
    (opens : token.kind = .opening family) : next? opened? token = some ⟨family, token⟩ := by
  simp [next?, opens]

/-- Behind a closing delimiter no tag is open. -/
theorem next?_of_closing {opened? : Option OpenTag} {token : Token} {family : Family}
    (closes : token.kind = .closing family) : next? opened? token = none := by
  simp [next?, closes]

/-- Content leaves the open tag as it is. -/
theorem next?_of_isContent {opened? : Option OpenTag} {token : Token}
    (content : token.kind.isContent) : next? opened? token = opened? := by
  unfold next?
  split <;> simp_all [Kind.isContent, Kind.family?]

theorem after?_concat (tokens : List Token) (token : Token) :
    after? (tokens ++ [token]) = next? (after? tokens) token := by
  simp [after?]

/-- Tokens that are all content leave the open tag as it is. -/
theorem foldl_next?_of_isContent {opened? : Option OpenTag} {body : List Token}
    (content : ∀ token ∈ body, token.isContent) : body.foldl next? opened? = opened? := by
  induction body with
  | nil => rfl
  | cons token body inductionHypothesis =>
    rw [List.foldl_cons, next?_of_isContent (content token (List.mem_cons_self ..))]
    exact inductionHypothesis fun other member => content other (List.mem_cons_of_mem _ member)

/-- Whole tags leave no tag open. -/
theorem after?_flatMap_tokens {tags : List Tag} (wellFormed : ∀ tag ∈ tags, tag.WellFormed) :
    after? (tags.flatMap Tag.tokens) = none := by
  unfold after?
  induction tags with
  | nil => rfl
  | cons tag tags inductionHypothesis =>
    have tagWellFormed := wellFormed tag (List.mem_cons_self ..)
    rw [List.flatMap_cons, Tag.tokens_append, List.foldl_cons, List.foldl_append,
      foldl_next?_of_isContent tagWellFormed.content, List.foldl_cons,
      next?_of_closing tagWellFormed.closes]
    exact inductionHypothesis fun later member => wellFormed later (List.mem_cons_of_mem _ member)

/-- Behind whole tags, an opening delimiter leaves its tag open. -/
theorem after?_append_opening {tags : List Tag} (wellFormed : ∀ tag ∈ tags, tag.WellFormed)
    {opening : Token} {family : Family} (opens : opening.kind = .opening family) :
    after? (tags.flatMap Tag.tokens ++ [opening]) = some ⟨family, opening⟩ := by
  rw [after?_concat, after?_flatMap_tokens wellFormed, next?_of_opening opens]

end OpenTag

namespace Scanner

variable {scanner : Scanner} {source : String} {count : Nat} {tokens : List Token}
  {start state : State}

/-- The open tag of a run is the one that its tokens leave open. -/
theorem opened?_of_steps (steps : scanner.Steps (.initial source) count tokens state) :
    state.opened? = OpenTag.after? tokens := by
  have invariant : scanner.Invariant (.initial source)
      fun tokens state => state.opened? = OpenTag.after? tokens :=
    { initial := rfl
      skipped := by
        intro tokens state next opened?_eq rule
        obtain ⟨_, _, _, rfl⟩ := rule.skips
        exact opened?_eq
      emitted := by
        intro tokens state token next opened?_eq rule
        rw [OpenTag.after?_concat, ← opened?_eq]
        cases rule with
        | opens => exact (OpenTag.next?_of_opening rfl).symm
        | closes => exact (OpenTag.next?_of_closing rfl).symm
        | lexeme _ _ _ _ _ reads =>
          exact (OpenTag.next?_of_isContent (Lexeme.isContent_of_read reads)).symm }
  exact invariant.of_steps steps

/-! ## What a run does at a position -/

/-- Each token of a run was emitted at a state of it. -/
theorem exists_rule_of_mem (steps : scanner.Steps start count tokens state) {token : Token}
    (member : token ∈ tokens) :
    ∃ count' before reached next, scanner.Steps start count' before reached ∧
      scanner.Rule reached (.emitted token next) := by
  induction steps with
  | refl => simp at member
  | skipped _ _ inductionHypothesis => exact inductionHypothesis member
  | @emitted _ before reached last next prior emits inductionHypothesis =>
    rcases List.mem_append.1 member with earlier | new
    · exact inductionHypothesis earlier
    · obtain rfl := List.mem_singleton.1 new
      have rule := rule_of_step_eq emits
      exact ⟨_, before, reached, next, prior, rule⟩

/-- Each token of a run that stands inside a tag was read where it starts. -/
theorem exists_reads_of_mem (steps : scanner.Steps (.initial source) count tokens state)
    {token : Token} (member : token ∈ tokens) (content : token.isContent) :
    ∃ (input : Input) (passed : List Char) (char : Char) (rest : List Char) (kind : Kind)
      (text : List Char), input.Follows source passed ∧ input.rest = char :: rest ∧
        scanner.delimiters.closesAt (char :: rest) = false ∧
          Lexeme.Reads scanner.delimiters.closesAt char rest kind text ∧
            text <+: input.rest ∧ token = input.token kind text := by
  obtain ⟨_, _, _, _, prior, rule⟩ := exists_rule_of_mem steps member
  obtain ⟨passed, follows⟩ := (placed_of_steps prior).follows
  cases rule with
  | opens | closes => cases content
  | lexeme split _ _ noClose _ reads =>
    have start := (piece_of_read split noClose reads).2
    have free := Delimiters.closesAt_eq_false_iff.2 (split ▸ noClose)
    exact ⟨_, passed, _, _, _, _, follows, split, free, Lexeme.read_eq_token_iff.1 reads, start,
      rfl⟩

/-- Where a run passed a position that no token covers, it came to that position with the tokens
before it and passed over a character. -/
theorem exists_skip_of_uncovered (steps : scanner.Steps (.initial source) count tokens state)
    {offset : Nat} (boundary : IsBoundary source offset)
    (passed : offset < state.input.here.offset)
    (uncovered : ∀ token ∈ tokens, token.span.stop ≤ offset ∨ offset < token.span.start) :
    ∃ count' reached next,
      scanner.Steps (.initial source) count' (tokens.filter (·.span.stop ≤ offset)) reached ∧
        reached.input.here.offset = offset ∧ scanner.Rule reached (.skipped next) := by
  induction steps with
  | refl => simp [State.initial, Input.ofString, Location.first] at passed
  | @skipped count tokens reached next prior skips inductionHypothesis =>
    by_cases earlier : offset < reached.input.here.offset
    · exact inductionHypothesis earlier uncovered
    · have placed := placed_of_steps prior
      have rule := rule_of_step_eq skips
      obtain ⟨char, rest, split, rfl⟩ := rule.skips
      obtain ⟨passedText, follows⟩ := placed.follows
      have here : offset = reached.input.here.offset := by
        rw [Input.offset_consume, follows.offset_eq] at passed
        rw [follows.offset_eq] at earlier ⊢
        exact eq_byteLength_of_isBoundary (split ▸ follows.text) boundary (by omega)
          (by simpa using passed)
      have allBehind : tokens.filter (·.span.stop ≤ offset) = tokens := by
        rw [List.filter_eq_self]
        intro token member
        simpa [here] using placed.behind token member
      exact ⟨count, reached, _, by rwa [allBehind], here.symm, rule⟩
  | @emitted count tokens reached token next prior emits inductionHypothesis =>
    have rule := rule_of_step_eq emits
    obtain ⟨kind, text, notEmpty, -, token_eq, input_eq, -⟩ := rule.emits
    have starts : token.span.start = reached.input.here.offset := by simp [token_eq]
    have stops : token.span.stop = next.input.here.offset := by simp [token_eq, input_eq]
    -- The run is behind the offset, so the last token lies ahead of it.
    have ahead : offset < reached.input.here.offset := by
      have := uncovered token (by simp)
      omega
    have lastAhead : [token].filter (·.span.stop ≤ offset) = [] := by
      refine List.filter_eq_nil_iff.2 (List.forall_mem_singleton.2 ?_)
      simpa [stops] using passed
    rw [List.filter_append, lastAhead, List.append_nil]
    exact inductionHypothesis ahead fun other member =>
      uncovered other (List.mem_append_left _ member)

end Scanner

end TemplateTags
