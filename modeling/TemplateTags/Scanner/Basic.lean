import TemplateTags.Head
import TemplateTags.Input
import TemplateTags.LexError

/-!
# Scanning

A scanner walks over a template one unit at a time: a delimiter, a lexeme inside a tag, or a
single character of text that yields no token. The head of the remaining text says which;
`Scanner.step` gives the unit its place and keeps track of the open tag. Tags do not nest, and
inside a comment nothing but its own closing delimiter counts.

`Scanner.consumes_step` says that a step that goes on leaves less text to read.
-/

namespace TemplateTags

/-- When a tag that can no longer be closed is reported. -/
inductive EndCheck where
  /-- As soon as the remaining text is shorter than each of its closing delimiters. -/
  | early
  /-- When the text has ended. -/
  | late
  deriving Repr, DecidableEq, Inhabited

/-- The rules of a scan. No delimiter is empty. -/
structure Scanner where
  delimiters : Delimiters
  outerText : OuterText
  endCheck : EndCheck
  nonempty : delimiters.Nonempty

/-- The tag that is open, by its family and its opening delimiter. -/
structure OpenTag where
  family : Family
  token : Token
  deriving Repr, DecidableEq, Inhabited

/-- How far a scan has come: the text still to be read and the tag it stands in, if any. -/
structure State where
  input : Input
  opened? : Option OpenTag
  deriving Repr, DecidableEq, Inhabited

/-- The beginning of a scan. -/
def State.initial (source : String) : State :=
  ⟨.ofString source, none⟩

/-- What a scan does next. -/
inductive Step where
  /-- The text has ended outside every tag. -/
  | finished
  | failed (error : LexError)
  /-- It passes over a character that belongs to no token. -/
  | skipped (next : State)
  | emitted (token : Token) (next : State)
  deriving Repr, DecidableEq

namespace Step

/-- Fails over a token. -/
def failedOver (cause : Token → LexError.Cause) (token : Token) : Step :=
  .failed ⟨cause token, token.span⟩

/-- Fails over a tag that is not closed where the input stands. -/
def unterminated (opened : OpenTag) (input : Input) : Step :=
  let expectedAt := input.here.spanTo input.here.offset
  .failed ⟨.unterminatedTag opened.token expectedAt, expectedAt⟩

/-- If a scan goes on, then from behind a nonempty text, which is the text of the token that it
emits. -/
inductive Consumes (input : Input) : Step → Prop where
  | finished : Consumes input .finished
  | failed (error : LexError) : Consumes input (.failed error)
  | skipped (text : List Char) (opened? : Option OpenTag) (notEmpty : text ≠ [])
      (start : text <+: input.rest) : Consumes input (.skipped ⟨input.consume text, opened?⟩)
  | emitted (kind : Kind) (text : List Char) (opened? : Option OpenTag) (notEmpty : text ≠ [])
      (start : text <+: input.rest) :
      Consumes input (.emitted (input.token kind text) ⟨input.consume text, opened?⟩)

end Step

namespace Scanner

/-- The scanner for accepted options. -/
def ofOptions (options : Options) : Except OptionsError Scanner :=
  match valid : options.validate with
  | .error fault => .error fault
  | .ok () =>
    .ok ⟨.ofOptions options, options.outerText, .early, Delimiters.nonempty_ofOptions valid⟩

/-- The scanner for the usual options. -/
def standard : Scanner :=
  ⟨.ofOptions {}, .skip, .early, Delimiters.nonempty_ofOptions rfl⟩

/-- The scanner for accepted options has their delimiters and their policy, and checks for the end
early. -/
theorem ofOptions_eq_ok_iff {options : Options} {scanner : Scanner} :
    ofOptions options = .ok scanner ↔
      options.validate = .ok () ∧ scanner.delimiters = .ofOptions options ∧
        scanner.outerText = options.outerText ∧ scanner.endCheck = .early := by
  unfold ofOptions
  split
  · simp_all
  · cases scanner
    simp_all [eq_comm]

theorem ofOptions_default : ofOptions {} = .ok standard :=
  ofOptions_eq_ok_iff.2 ⟨rfl, rfl, rfl, rfl⟩

/-- There is no scanner for options that are refused. -/
theorem ofOptions_eq_error_iff {options : Options} {fault : OptionsError} :
    ofOptions options = .error fault ↔ options.validate = .error fault := by
  unfold ofOptions
  split <;> simp_all

/-- There is a scanner for accepted options. -/
theorem exists_ofOptions {options : Options} (valid : options.validate = .ok ()) :
    ∃ scanner, ofOptions options = .ok scanner := by
  cases accepted : ofOptions options with
  | error fault => cases valid.symm.trans (ofOptions_eq_error_iff.1 accepted)
  | ok scanner => exact ⟨scanner, rfl⟩

/-- The next step outside every tag, at the head of `char :: rest`. -/
def stepOutside (scanner : Scanner) (input : Input) (char : Char) (rest : List Char) : Step :=
  match OuterHead.read scanner.delimiters (char :: rest) with
  | .closing literal =>
    .failedOver .unmatchedClose (input.token (.closing literal.family) literal.text)
  | .opening literal =>
    let token := input.token (.opening literal.family) literal.text
    .emitted token ⟨input.consume literal.text, some ⟨literal.family, token⟩⟩
  | .text =>
    match scanner.outerText with
    | .skip => .skipped ⟨input.consume [char], none⟩
    | .reject => .failedOver .unknownToken (input.token .unknown [char])

/-- The next step inside a tag that may still be closed, at the head of `char :: rest`. -/
def stepInside (scanner : Scanner) (opened : OpenTag) (input : Input) (char : Char)
    (rest : List Char) : Step :=
  match InnerHead.read scanner.delimiters opened.family char rest with
  | .closing literal =>
    .emitted (input.token (.closing opened.family) literal.text)
      ⟨input.consume literal.text, none⟩
  | .foreignClosing literal =>
    .failedOver (.mismatchedClose · opened.token)
      (input.token (.closing literal.family) literal.text)
  | .opening literal =>
    .failedOver (.unexpectedOpen · opened.token)
      (input.token (.opening literal.family) literal.text)
  | .commentText => .skipped ⟨input.consume [char], some opened⟩
  | .lexeme (.token kind text) =>
    .emitted (input.token kind text) ⟨input.consume text, some opened⟩
  | .lexeme (.unknown char) => .failedOver .unknownToken (input.token .unknown [char])
  | .lexeme (.unclosedString text) => .failedOver .unterminatedString (input.token .string text)

/-- Whether the scanner gives up on closing a tag of the family. -/
def givesUp (scanner : Scanner) (family : Family) (input : Input) : Bool :=
  match scanner.endCheck with
  | .early => input.fewerThan (scanner.delimiters.minCloseLength family)
  | .late => false

/-- The next step of a scan. -/
def step (scanner : Scanner) (state : State) : Step :=
  match state.opened?, state.input.rest with
  | none, [] => .finished
  | none, char :: rest => scanner.stepOutside state.input char rest
  | some opened, [] => .unterminated opened state.input
  | some opened, char :: rest =>
    if scanner.givesUp opened.family state.input then
      .unterminated opened state.input
    else
      scanner.stepInside opened state.input char rest

/-- An opening literal that a scanner finds is not empty. -/
theorem text_ne_nil_of_openAt? (scanner : Scanner) {rest : List Char} {literal : Literal}
    (found : scanner.delimiters.openAt? rest = some literal) : literal.text ≠ [] :=
  scanner.nonempty literal (List.mem_append_left _ (Delimiters.openAt?_eq_some found).1)

/-- A closing literal that a scanner finds is not empty. -/
theorem text_ne_nil_of_closeAt? (scanner : Scanner) {rest : List Char} {literal : Literal}
    (found : scanner.delimiters.closeAt? rest = some literal) : literal.text ≠ [] :=
  scanner.nonempty literal (List.mem_append_right _ (Delimiters.closeAt?_eq_some found).1)

/-- A closing literal that a scanner finds for a family is not empty. -/
theorem text_ne_nil_of_closeOf? (scanner : Scanner) {family : Family} {rest : List Char}
    {literal : Literal} (found : scanner.delimiters.closeOf? family rest = some literal) :
    literal.text ≠ [] :=
  scanner.nonempty literal (List.mem_append_right _ (Delimiters.closeOf?_eq_some found).1)

/-- A step outside every tag reads on from behind a nonempty text, or fails. -/
theorem consumes_stepOutside (scanner : Scanner) {input : Input} {char : Char} {rest : List Char}
    (split : input.rest = char :: rest) :
    (scanner.stepOutside input char rest).Consumes input := by
  unfold stepOutside
  split <;> rename_i head
  · exact .failed _
  · have found := (OuterHead.read_eq_opening_iff.1 head).2
    exact .emitted _ _ _ (scanner.text_ne_nil_of_openAt? found)
      (split ▸ (Delimiters.openAt?_eq_some found).2)
  · split
    · exact .skipped [char] none (by simp) (split ▸ ⟨rest, rfl⟩)
    · exact .failed _

/-- A step inside a tag reads on from behind a nonempty text, or fails. -/
theorem consumes_stepInside (scanner : Scanner) (opened : OpenTag) {input : Input} {char : Char}
    {rest : List Char} (split : input.rest = char :: rest) :
    (scanner.stepInside opened input char rest).Consumes input := by
  unfold stepInside
  split <;> rename_i head
  · have found := InnerHead.read_eq_closing_iff.1 head
    exact .emitted _ _ _ (scanner.text_ne_nil_of_closeOf? found)
      (split ▸ (Delimiters.closeOf?_eq_some found).2.2)
  · exact .failed _
  · exact .failed _
  · exact .skipped [char] _ (by simp) (split ▸ ⟨rest, rfl⟩)
  · obtain ⟨noClose, -, -, lexeme⟩ := InnerHead.read_eq_lexeme_iff.1 head
    obtain ⟨notEmpty, start⟩ :=
      Lexeme.read_eq_token (Delimiters.closesAt_eq_false_iff.2 noClose) lexeme
    exact .emitted _ _ _ notEmpty (split ▸ start)
  · exact .failed _
  · exact .failed _

/-- Whatever a scan does next, it reads on from behind a nonempty text, or it ends. -/
theorem consumes_step (scanner : Scanner) (state : State) :
    (scanner.step state).Consumes state.input := by
  unfold step
  split
  · exact .finished
  · exact scanner.consumes_stepOutside ‹_›
  · exact .failed _
  · split
    · exact .failed _
    · exact scanner.consumes_stepInside _ ‹_›

end Scanner

end TemplateTags
