import TemplateTags.Scanner.Run
import TemplateTags.Text.Slice

/-!
# Scans

A scan is a source with the tokens found in it. The text between its tags and the whole source can
be recovered from it. Both readings also work on tokens that were edited or made by hand; then a
cut may fall outside the source or into a character, and the reading has no result.
-/

namespace TemplateTags

/-- Why a source has no scan. -/
inductive ScanError where
  | options (error : OptionsError)
  | lex (error : LexError)
  deriving Repr, DecidableEq, Inhabited

/-- What is reported about a source that has no scan. -/
def ScanError.message : ScanError → String
  | .options error => error.message
  | .lex error => error.message

/-- A source with its tokens. -/
structure Scan where
  source : String
  tokens : List Token
  deriving Repr, DecidableEq, Inhabited

/-- Scans a source after checking the options. -/
def scan (options : Options) (source : String) : Except ScanError Scan :=
  match Scanner.ofOptions options with
  | .error fault => .error (.options fault)
  | .ok scanner =>
    match scanner.tokens source with
    | .error fault => .error (.lex fault)
    | .ok tokens => .ok ⟨source, tokens⟩

/-- A scan holds its source and what the scanner for the options finds in it. -/
theorem scan_eq_ok_iff {options : Options} {source : String} {result : Scan} :
    scan options source = .ok result ↔
      ∃ scanner, Scanner.ofOptions options = .ok scanner ∧
        scanner.tokens source = .ok result.tokens ∧ result.source = source := by
  obtain ⟨resultSource, resultTokens⟩ := result
  unfold scan
  cases Scanner.ofOptions options with
  | error fault => simp
  | ok scanner =>
    simp only [Except.ok.injEq, exists_eq_left']
    split <;> rename_i outcome <;> simp [outcome, eq_comm, and_comm]

/-- With accepted options, a source has no scan exactly where the scanner fails. -/
theorem scan_eq_error_lex_iff {options : Options} {source : String} {error : LexError} :
    scan options source = .error (.lex error) ↔
      ∃ scanner, Scanner.ofOptions options = .ok scanner ∧
        scanner.tokens source = .error error := by
  unfold scan
  cases Scanner.ofOptions options with
  | error fault => simp
  | ok scanner =>
    simp only [Except.ok.injEq, exists_eq_left']
    split <;> rename_i outcome <;> simp [outcome]

/-- Text outside every tag, with the offset at which it starts. -/
structure TextSegment where
  start : Nat
  text : String
  deriving Repr, DecidableEq, Inhabited

namespace Scan

/-- The text segments from the offset `reached` on, when these tokens follow. A segment ends where
a tag opens, and the next one starts where a tag closes; empty segments are left out. -/
def segmentsFrom? (source : String) (reached : Nat) : List Token → Option (List TextSegment)
  | [] =>
    if reached < source.utf8ByteSize then do
      let text ← Text.sliceFrom? source reached
      return [⟨reached, text⟩]
    else
      some []
  | token :: tokens =>
    if token.isOpening && reached < token.span.start then do
      let text ← Text.slice? source reached token.span.start
      let following ← segmentsFrom? source reached tokens
      return ⟨reached, text⟩ :: following
    else
      segmentsFrom? source (if token.isClosing then token.span.stop else reached) tokens

/-- The text outside every tag, in the order of the source. The text of a comment is inside one. -/
def textSegments? (scan : Scan) : Option (List TextSegment) :=
  segmentsFrom? scan.source 0 scan.tokens

/-- All text outside every tag, without a break. -/
def outerText? (scan : Scan) : Option String :=
  scan.textSegments?.map fun segments => String.join (segments.map (·.text))

/-- The values of these tokens, each after the text that lies before it, and the text after the
last, from the offset `reached` on. -/
def piecesFrom? (source : String) (reached : Nat) : List Token → Option (List String)
  | [] => do
    let rest ← Text.sliceFrom? source reached
    return [rest]
  | token :: tokens => do
    let gap ← Text.slice? source reached token.span.start
    let following ← piecesFrom? source token.span.stop tokens
    return gap :: token.value :: following

/-- The source, put together from the values of the tokens and the text that no token covers. -/
def reassemble? (scan : Scan) : Option String :=
  (piecesFrom? scan.source 0 scan.tokens).map String.join

end Scan

end TemplateTags
