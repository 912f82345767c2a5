import TemplateTags.Proofs.Finality
import TemplateTags.Proofs.Undelimited

/-!
# What errors say

An error names a cause, with the tokens and the places that make it one. Here the cause is held
against the source, the literals of the options and the tag that is open where the scan fails.
`LexError.Cause.Justified` lists what must be found there for each cause. Which tag is open is read
off the tokens found before, not off the scanner. `justified_of_scan` says that no error claims
more than what is there.
-/

namespace TemplateTags

open Text

/-- The token is written with the literal for a role, which stands in the source where the token
says. -/
structure Token.Writes (token : Token) (options : Options) (source : String)
    (role : DelimiterRole) : Prop where
  kind : token.kind = role.kind
  value : token.value = options.literal role
  stands : slice? source token.span.start token.span.stop = some token.value

/-- What is found in the source when a scan fails for the cause with the given tag open. -/
inductive LexError.Cause.Justified (options : Options) (source : String)
    (opened? : Option OpenTag) : LexError.Cause → Prop where
  /-- No tag is open where a closing delimiter stands. -/
  | unmatchedClose {found role} (outside : opened? = none) (closes : role.isOpening = false)
      (writes : found.Writes options source role) :
      Justified options source opened? (.unmatchedClose found)
  /-- A tag that is no comment is open where a closing delimiter of another family stands, and none
  of its own family does. -/
  | mismatchedClose {found opened family role} (inside : opened? = some ⟨family, opened⟩)
      (opens : opened.kind = .opening family) (noComment : family ≠ .comment)
      (closes : role.isOpening = false) (foreign : role.family ≠ family)
      (writes : found.Writes options source role)
      (noOwn : ∀ own : DelimiterRole, own.isOpening = false → own.family = family →
        ¬ StandsAt source found.span.start (options.literal own)) :
      Justified options source opened? (.mismatchedClose found opened)
  /-- A tag that is no comment is open where an opening delimiter stands, behind its own one. -/
  | unexpectedOpen {found opened family role} (inside : opened? = some ⟨family, opened⟩)
      (opens : opened.kind = .opening family) (noComment : family ≠ .comment)
      (nested : role.isOpening) (writes : found.Writes options source role)
      (behind : opened.span.stop ≤ found.span.start) :
      Justified options source opened? (.unexpectedOpen found opened)
  /-- A tag is open where less text is left than it takes to close it. -/
  | unterminatedTag {opened expectedAt family rest} (inside : opened? = some ⟨family, opened⟩)
      (opens : opened.kind = .opening family)
      (left : sliceFrom? source expectedAt.start = some rest)
      (short : rest.length < (Delimiters.ofOptions options).minCloseLength family) :
      Justified options source opened? (.unterminatedTag opened expectedAt)
  /-- All that is left starts with a quote, inside a tag. -/
  | unterminatedString {token quote inner} (inside : opened? ≠ none)
      (starts : token.value.toList = quote :: inner) (isQuote : isQuote quote)
      (left : sliceFrom? source token.span.start = some token.value)
      (stops : token.span.stop = source.utf8ByteSize) :
      Justified options source opened? (.unterminatedString token)
  /-- A character stands outside every tag where no text may stand, and no delimiter starts
  there. -/
  | refusedText {token char} (outside : opened? = none) (policy : options.outerText = .reject)
      (value : token.value = String.singleton char)
      (stands : slice? source token.span.start token.span.stop = some token.value)
      (free : ∀ role, ¬ StandsAt source token.span.start (options.literal role)) :
      Justified options source opened? (.unknownToken token)
  /-- A number sign, or an exclamation mark that starts no operator, stands inside a tag. -/
  | unknownToken {token char} (inside : opened? ≠ none)
      (value : token.value = String.singleton char)
      (stands : slice? source token.span.start token.span.stop = some token.value)
      (unknown : char = '#' ∨ char = '!' ∧ ¬ StandsAt source token.span.start "!=") :
      Justified options source opened? (.unknownToken token)

namespace Lexeme

/-- A string that is not closed starts with a quote. -/
theorem isQuote_of_read_eq_unclosedString {stops : List Char → Bool} {char : Char}
    {rest text : List Char} (reads : read stops char rest = .unclosedString text) :
    isQuote char := by
  unfold read at reads
  split at reads
  · cases reads
  split at reads
  · assumption
  split at reads
  · split at reads
    · cases reads
    · split at reads <;> cases reads
  · split at reads <;> cases reads

end Lexeme

namespace Input.Follows

variable {input : Input} {source : String} {passed : List Char}

/-- The source from the input on is what remains. -/
theorem sliceFrom?_eq (follows : input.Follows source passed) :
    sliceFrom? source input.here.offset = some (String.ofList input.rest) := by
  have split : source.toList = passed ++ input.rest ++ [] := by
    rw [List.append_nil, follows.text]
  have size : source.utf8ByteSize = byteLength passed + byteLength input.rest := by
    rw [← byteLength_toList, follows.text, byteLength_append]
  rw [sliceFrom?, follows.offset_eq, size]
  exact slice?_of_toList_eq split

/-- A literal with which the input starts makes a token that is written with it. -/
theorem writes (follows : input.Follows source passed) {options : Options} {role : DelimiterRole}
    (start : (options.literal role).toList <+: input.rest) :
    (input.token role.kind (options.literal role).toList).Writes options source role where
  kind := rfl
  value := String.ofList_toList
  stands := (follows.faithful role.kind start).value

end Input.Follows

namespace Scanner

variable {scanner : Scanner} {options : Options} {source : String} {input : Input}
  {passed : List Char} {count : Nat} {tokens : List Token} {state : State}

/-- The closing literal that the scanner finds is one of the options. -/
theorem exists_writes_of_closeAt? (follows : input.Follows source passed)
    (delimiters_eq : scanner.delimiters = .ofOptions options) {literal : Literal}
    (closes : scanner.delimiters.closeAt? input.rest = some literal) :
    ∃ role : DelimiterRole, role.isOpening = false ∧ role.family = literal.family ∧
      (input.token (.closing literal.family) literal.text).Writes options source role := by
  obtain ⟨listed, start⟩ := Delimiters.closeAt?_eq_some closes
  rw [delimiters_eq] at listed
  obtain ⟨role, closesTag, rfl⟩ := Delimiters.mem_closings_ofOptions_iff.1 listed
  have kind : role.kind = .closing role.family := by simp [DelimiterRole.kind, closesTag]
  exact ⟨role, closesTag, rfl, kind ▸ follows.writes start⟩

/-- The opening literal that the scanner finds is one of the options. -/
theorem exists_writes_of_openAt? (follows : input.Follows source passed)
    (delimiters_eq : scanner.delimiters = .ofOptions options) {literal : Literal}
    (opening : scanner.delimiters.openAt? input.rest = some literal) :
    ∃ role : DelimiterRole, role.isOpening ∧
      (input.token (.opening literal.family) literal.text).Writes options source role := by
  obtain ⟨listed, start⟩ := Delimiters.openAt?_eq_some opening
  rw [delimiters_eq] at listed
  obtain ⟨role, opensTag, rfl⟩ := Delimiters.mem_openings_ofOptions_iff.1 listed
  have kind : role.kind = .opening role.family := by simp [DelimiterRole.kind, opensTag]
  exact ⟨role, opensTag, kind ▸ follows.writes start⟩

/-- Where the scanner for options gives up on a tag, it takes more text to close it than is
left. -/
theorem length_lt_of_givesUp (accepted : ofOptions options = .ok scanner) {family : Family}
    (short : input.rest = [] ∨ scanner.givesUp family input) :
    input.rest.length < (Delimiters.ofOptions options).minCloseLength family := by
  obtain ⟨valid, delimiters_eq, -, early⟩ := ofOptions_eq_ok_iff.1 accepted
  rcases short with nothing | givesUp
  · have listed : (⟨(options.literal (.closing family)).toList, family⟩ : Literal) ∈
        (Delimiters.ofOptions options).closings :=
      Delimiters.mem_closings_ofOptions_iff.2 ⟨.closing family, rfl, rfl⟩
    rw [nothing]
    exact Delimiters.minCloseLength_pos (Delimiters.nonempty_ofOptions valid) listed
  · rw [Scanner.givesUp, early, delimiters_eq] at givesUp
    exact Input.fewerThan_iff.1 givesUp

/-- The delimiter of an open tag opens tags of its family. -/
theorem kind_of_opened? (steps : scanner.Steps (.initial source) count tokens state)
    {opened : OpenTag} (isOpen : state.opened? = some opened) :
    opened.token.kind = .opening opened.family := by
  have grouped := grouped_of_steps steps
  rw [isOpen] at grouped
  cases grouped with
  | within _ begun => exact begun.opens

/-- Where a run fails, the cause of the error is justified by the tag that the run has open. -/
theorem justified_of_rule (accepted : ofOptions options = .ok scanner)
    (steps : scanner.Steps (.initial source) count tokens state) {error : LexError}
    (rule : scanner.Rule state (.failed error)) :
    error.span.start = state.input.here.offset ∧
      error.cause.Justified options source state.opened? := by
  have placed := placed_of_steps steps
  obtain ⟨passed, follows⟩ := placed.follows
  have opens : ∀ opened, state.opened? = some opened →
      opened.token.kind = .opening opened.family := fun _ => kind_of_opened? steps
  obtain ⟨-, delimiters_eq, policy_eq, -⟩ := ofOptions_eq_ok_iff.1 accepted
  refine ⟨rule.start_of_failed, ?_⟩
  cases rule with
  | unmatchedClose closes =>
    obtain ⟨role, closesTag, -, writes⟩ :=
      exists_writes_of_closeAt? follows delimiters_eq closes
    exact .unmatchedClose rfl closesTag writes
  | @outerRefused input char rest split noClose noOpen policy =>
    have start : [char] <+: input.rest := ⟨rest, split.symm⟩
    have stands := (follows.faithful .unknown start).value
    exact .refusedText rfl (policy_eq ▸ policy) String.singleton_eq_ofList.symm stands
      (not_standsAt_of_none follows accepted noClose noOpen)
  | unterminated short =>
    refine .unterminatedTag rfl (opens _ rfl) follows.sliceFrom?_eq ?_
    rw [String.length_ofList]
    exact length_lt_of_givesUp accepted short
  | @mismatchedClose input opened literal kept noComment closes foreign =>
    obtain ⟨role, closesTag, family_eq, writes⟩ :=
      exists_writes_of_closeAt? follows delimiters_eq closes
    rw [delimiters_eq, Delimiters.closeOf?_ofOptions_eq_none_iff] at foreign
    have start : (options.literal role).toList <+: input.rest := by
      rw [← writes.value]
      simpa [Input.token] using (Delimiters.closeAt?_eq_some closes).2
    exact .mismatchedClose rfl (opens _ rfl) noComment closesTag
      (fun own => foreign role closesTag own start) writes
      fun own ownCloses ownFamily stands =>
        foreign own ownCloses ownFamily (follows.standsAt_iff.1 stands)
  | @unexpectedOpen input opened literal kept noComment noClose opening =>
    obtain ⟨role, opensTag, writes⟩ := exists_writes_of_openAt? follows delimiters_eq opening
    exact .unexpectedOpen rfl (opens _ rfl) noComment opensTag writes
      (placed.behind _ (placed.delimiter opened rfl))
  | @unknown input opened char rest split kept noComment noClose noOpen reads =>
    have start : [char] <+: input.rest := ⟨rest, split.symm⟩
    have stands := (follows.faithful .unknown start).value
    have free := Delimiters.closesAt_eq_false_iff.2 (split ▸ noClose)
    refine .unknownToken (by simp) String.singleton_eq_ofList.symm stands ?_
    refine (Lexeme.eq_of_read_eq_unknown free reads).imp_right (And.imp_right ?_)
    intro noOperator operator
    exact noOperator (split ▸ follows.standsAt_iff.1 operator)
  | @unclosedString input opened char rest split kept noComment noClose noOpen reads =>
    have left := follows.sliceFrom?_eq
    rw [split] at left
    refine .unterminatedString (by simp) String.toList_ofList
      (Lexeme.isQuote_of_read_eq_unclosedString reads) left ?_
    rw [Input.stop_token, follows.offset_eq, ← byteLength_append, ← split, ← follows.text,
      byteLength_toList]

end Scanner

/-- Every error of a scan is justified by what stands in the source where the scan fails, and by the
tag that the tokens found until then leave open. -/
theorem justified_of_scan {options : Options} {source : String} {error : LexError}
    (scanned : scan options source = .error (.lex error)) :
    ∃ scanner count tokens state, Scanner.ofOptions options = .ok scanner ∧
      scanner.Steps (.initial source) count tokens state ∧
      scanner.step state = .failed error ∧
      error.span.start = state.input.here.offset ∧
      error.cause.Justified options source (OpenTag.after? tokens) := by
  obtain ⟨scanner, count, tokens, state, accepted, steps, rule⟩ :=
    exists_steps_of_scan_error scanned
  obtain ⟨starts, justified⟩ := Scanner.justified_of_rule accepted steps rule
  rw [Scanner.opened?_of_steps steps] at justified
  exact ⟨scanner, count, tokens, state, accepted, steps, rule.step_eq, starts, justified⟩

/-- The closing literal of blocks where only the start of that of the open variable tag stands. -/
theorem justified_of_scan_overlapping :
    let options : Options := { block := ⟨"<", ">"⟩, var := ⟨"[[", ">>"⟩ }
    let error : LexError :=
      ⟨.mismatchedClose ⟨.closing .block, ">", ⟨3, 4, 1, 4⟩⟩ ⟨.opening .var, "[[", ⟨0, 2, 1, 1⟩⟩,
        ⟨3, 4, 1, 4⟩⟩
    scan options "[[a>b" = .error (.lex error) ∧
      ∃ scanner count tokens state, Scanner.ofOptions options = .ok scanner ∧
        scanner.Steps (.initial "[[a>b") count tokens state ∧
        scanner.step state = .failed error ∧
        error.span.start = state.input.here.offset ∧
        error.cause.Justified options "[[a>b" (OpenTag.after? tokens) := by
  intro options error
  have fails : scan options "[[a>b" = .error (.lex error) := by
    decide +kernel
  exact ⟨fails, justified_of_scan fails⟩

end TemplateTags
