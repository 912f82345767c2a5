import Mathlib.Data.List.Basic
import TemplateTags.Proofs.Rules

/-!
# Places of tokens and errors

The scanner keeps an offset, a line and a column and moves them along as it reads. Here they are
compared with the source itself: the text before a span, cut out of the source, is counted anew.
`Scanner.Placed` is the invariant behind it, and `Scanner.placed_of_steps` says that every run
keeps it. It also holds the order of the tokens, which later modules use.
-/

namespace TemplateTags

open Text

/-- The input is what remains of the source behind a first part of it. -/
structure Input.Follows (input : Input) (source : String) (passed : List Char) : Prop where
  text : source.toList = passed ++ input.rest
  here : input.here = Location.first.after passed

/-- The line and the column of a span are those that the text before it has when it is counted:
one more than its newlines, and one more than the characters of its last line. -/
def Span.Located (source : String) (span : Span) : Prop :=
  ∃ before, slice? source 0 span.start = some before ∧
    span.line = 1 + before.toList.count '\n' ∧
      span.column = 1 + (lastLine before.toList).length

/-- A token stands in the source: where it says, and with the text that is there. -/
structure Token.Faithful (source : String) (token : Token) : Prop where
  located : token.span.Located source
  value : slice? source token.span.start token.span.stop = some token.value

namespace Input

/-- The input of a whole source follows nothing. -/
theorem follows_ofString (source : String) : (ofString source).Follows source [] :=
  ⟨rfl, rfl⟩

variable {input : Input} {source : String} {passed : List Char}

/-- Behind a text with which the input starts, the input is still what remains. -/
theorem Follows.consume (follows : input.Follows source passed) {text : List Char}
    (start : text <+: input.rest) : (input.consume text).Follows source (passed ++ text) := by
  obtain ⟨rest, split⟩ := start
  constructor
  · rw [rest_consume split.symm, follows.text, ← split, List.append_assoc]
  · rw [Location.after_append, ← follows.here]
    rfl

/-- A span that starts at the head of the input is located. -/
theorem Follows.located (follows : input.Follows source passed) (stop : Nat) :
    (input.here.spanTo stop).Located source := by
  have split : source.toList = [] ++ passed ++ input.rest := follows.text
  refine ⟨String.ofList passed, ?_, ?_, ?_⟩
  · simpa [Location.spanTo, follows.here, Location.first] using slice?_of_toList_eq split
  · simp [Location.spanTo, follows.here, Location.after_first]
  · simp [Location.spanTo, follows.here, Location.after_first]

/-- A text with which the input starts makes a token of the source. -/
theorem Follows.faithful (follows : input.Follows source passed) (kind : Kind) {text : List Char}
    (start : text <+: input.rest) : (input.token kind text).Faithful source := by
  obtain ⟨rest, split⟩ := start
  refine ⟨follows.located _, ?_⟩
  have parts : source.toList = passed ++ text ++ rest := by
    rw [follows.text, ← split, List.append_assoc]
  simpa [token, Location.spanTo, follows.here, Location.first] using slice?_of_toList_eq parts

end Input

namespace Scanner

/-- The tokens found so far are nonempty pieces of the source, in order, and the input follows
them. The delimiter of the open tag is one of them. -/
structure Placed (source : String) (tokens : List Token) (state : State) : Prop where
  follows : ∃ passed, state.input.Follows source passed
  faithful : ∀ token ∈ tokens, token.Faithful source
  nonempty : ∀ token ∈ tokens, token.span.start < token.span.stop
  ordered : tokens.Pairwise fun first second => first.span.stop ≤ second.span.start
  behind : ∀ token ∈ tokens, token.span.stop ≤ state.input.here.offset
  delimiter : ∀ opened, state.opened? = some opened → opened.token ∈ tokens

variable {scanner : Scanner} {source : String} {tokens : List Token} {state next : State}

/-- Before the first step there are no tokens, and the input is the whole source. -/
theorem placed_initial (source : String) : Placed source [] (.initial source) where
  follows := ⟨[], Input.follows_ofString source⟩
  faithful := by simp
  nonempty := by simp
  ordered := .nil
  behind := by simp
  delimiter := nofun

/-- Passing over text keeps the tokens in place, and takes the input further on. -/
theorem Placed.skipped (placed : Placed source tokens state)
    (rule : scanner.Rule state (.skipped next)) : Placed source tokens next := by
  obtain ⟨char, rest, split, rfl⟩ := rule.skips
  obtain ⟨passed, follows⟩ := placed.follows
  refine ⟨⟨_, follows.consume ⟨rest, split.symm⟩⟩, placed.faithful, placed.nonempty,
    placed.ordered, ?_, placed.delimiter⟩
  intro token member
  have before := placed.behind token member
  rw [Input.offset_consume]
  omega

/-- A token that is emitted is a piece of the source behind the others, and the input follows it. An
opening delimiter is the only way to a new open tag, and it is the token. -/
theorem Placed.emitted {token : Token} (placed : Placed source tokens state)
    (rule : scanner.Rule state (.emitted token next)) :
    Placed source (tokens ++ [token]) next := by
  obtain ⟨kind, text, notEmpty, start, rfl, input_eq, opened⟩ := rule.emits
  obtain ⟨passed, follows⟩ := placed.follows
  have bytes := byteLength_pos notEmpty
  refine ⟨⟨_, input_eq ▸ follows.consume start⟩, ?_, ?_, ?_, ?_, ?_⟩
  · refine List.forall_mem_append.2 ⟨placed.faithful, List.forall_mem_singleton.2 ?_⟩
    exact follows.faithful kind start
  · refine List.forall_mem_append.2 ⟨placed.nonempty, List.forall_mem_singleton.2 ?_⟩
    rw [Input.start_token, Input.stop_token]
    omega
  · refine List.pairwise_append.2 ⟨placed.ordered, List.pairwise_singleton .., ?_⟩
    intro earlier member last same
    obtain rfl := List.mem_singleton.1 same
    exact placed.behind earlier member
  · intro token member
    rw [input_eq, Input.offset_consume]
    rcases List.mem_append.1 member with earlier | last
    · have before := placed.behind token earlier
      omega
    · obtain rfl := List.mem_singleton.1 last
      exact Nat.le_of_eq (Input.stop_token ..)
  · intro delimiter now
    rcases opened delimiter now with already | new
    · exact List.mem_append_left _ (placed.delimiter delimiter already)
    · simp [new]

/-- Every run from the beginning keeps its tokens in place. -/
theorem placed_of_steps {count : Nat}
    (steps : scanner.Steps (.initial source) count tokens state) :
    Placed source tokens state :=
  Invariant.of_steps ⟨placed_initial source, Placed.skipped, Placed.emitted⟩ steps

end Scanner

namespace LexError

/-- The tokens that an error names. -/
def Cause.tokens : Cause → List Token
  | .unknownToken token => [token]
  | .unexpectedOpen found opened => [found, opened]
  | .unmatchedClose found => [found]
  | .mismatchedClose found opened => [found, opened]
  | .unterminatedString token => [token]
  | .unterminatedTag opened _ => [opened]

/-- Where an error lies: at the token at fault, or where a closing delimiter was missed. -/
def Cause.place : Cause → Span
  | .unknownToken token => token.span
  | .unexpectedOpen found _ => found.span
  | .unmatchedClose found => found.span
  | .mismatchedClose found _ => found.span
  | .unterminatedString token => token.span
  | .unterminatedTag _ expectedAt => expectedAt

/-- An error points at its place in the source, and the tokens that it names stand there. The
place where a closing delimiter was missed is empty. -/
structure WellPlaced (source : String) (error : LexError) : Prop where
  located : error.span.Located source
  faithful : ∀ token ∈ error.cause.tokens, token.Faithful source
  place : error.span = error.cause.place
  missed : ∀ opened expectedAt, error.cause = .unterminatedTag opened expectedAt →
    expectedAt.start = expectedAt.stop

variable {scanner : Scanner} {source : String} {tokens : List Token} {state : State}

/-- An error over a piece of the source is well placed, if that piece is the token at fault and
the error names no other token than the delimiter of the open tag. -/
theorem wellPlaced_of_token {cause : Cause} {token : Token} (faithful : token.Faithful source)
    (place : cause.place = token.span)
    (others : ∀ other ∈ cause.tokens, other = token ∨ other.Faithful source)
    (seen : ∀ opened expectedAt, cause ≠ .unterminatedTag opened expectedAt) :
    WellPlaced source ⟨cause, token.span⟩ where
  located := faithful.located
  faithful other named := by
    rcases others other named with rfl | already
    · exact faithful
    · exact already
  place := place.symm
  missed opened expectedAt same := absurd same (seen opened expectedAt)

/-- Where a run fails, the error is well placed. -/
theorem wellPlaced_of_rule {error : LexError} (placed : Scanner.Placed source tokens state)
    (rule : scanner.Rule state (.failed error)) : error.WellPlaced source := by
  obtain ⟨passed, follows⟩ := placed.follows
  have delimiter : ∀ opened, state.opened? = some opened → opened.token.Faithful source :=
    fun opened now => placed.faithful _ (placed.delimiter opened now)
  cases rule with
  | @unmatchedClose _ literal closes =>
    have faithful := follows.faithful (.closing literal.family)
      (Delimiters.closeAt?_eq_some closes).2
    exact wellPlaced_of_token faithful rfl (by simp [Cause.tokens]) nofun
  | @outerRefused input char rest split =>
    have start : [char] <+: input.rest := ⟨rest, split.symm⟩
    have faithful := follows.faithful .unknown start
    exact wellPlaced_of_token faithful rfl (by simp [Cause.tokens]) nofun
  | unterminated =>
    refine ⟨follows.located _, ?_, rfl, ?_⟩
    · simpa [Cause.tokens] using delimiter _ rfl
    · rintro opened expectedAt ⟨⟩
      rfl
  | @mismatchedClose _ _ literal _ _ closes =>
    have faithful := follows.faithful (.closing literal.family)
      (Delimiters.closeAt?_eq_some closes).2
    refine wellPlaced_of_token faithful rfl ?_ nofun
    simpa [Cause.tokens] using .inr (delimiter _ rfl)
  | @unexpectedOpen _ _ literal _ _ _ opening =>
    have faithful := follows.faithful (.opening literal.family)
      (Delimiters.openAt?_eq_some opening).2
    refine wellPlaced_of_token faithful rfl ?_ nofun
    simpa [Cause.tokens] using .inr (delimiter _ rfl)
  | @unknown input _ char rest split =>
    have start : [char] <+: input.rest := ⟨rest, split.symm⟩
    have faithful := follows.faithful .unknown start
    exact wellPlaced_of_token faithful rfl (by simp [Cause.tokens]) nofun
  | @unclosedString input _ char rest split =>
    have start : char :: rest <+: input.rest := ⟨[], by simp [split]⟩
    have faithful := follows.faithful .string start
    exact wellPlaced_of_token faithful rfl (by simp [Cause.tokens]) nofun

end LexError

/-- Whether a scan succeeds or fails, each token that it finds stands in the source where it says,
by its bytes, its lines and its characters; and so does an error with each token that it names. -/
theorem places_of_scan (options : Options) (source : String) :
    (∀ (scanner : Scanner) count tokens state, scanner.Steps (.initial source) count tokens state →
        ∀ token ∈ tokens, token.Faithful source) ∧
      (∀ result, scan options source = .ok result →
        ∀ token ∈ result.tokens, token.Faithful source) ∧
      ∀ error, scan options source = .error (.lex error) → error.WellPlaced source := by
  refine ⟨?_, ?_, ?_⟩
  · intro scanner count tokens state steps
    exact (Scanner.placed_of_steps steps).faithful
  · intro result scanned
    obtain ⟨-, scanner, count, state, -, steps, -⟩ := exists_steps_of_scan scanned
    exact (Scanner.placed_of_steps steps).faithful
  · intro error scanned
    obtain ⟨scanner, count, tokens, state, -, steps, rule⟩ := exists_steps_of_scan_error scanned
    exact LexError.wellPlaced_of_rule (Scanner.placed_of_steps steps) rule

/-- Behind a newline, a tag around a character of two bytes, and one that ends in an open
string. -/
theorem places_of_scan_second_line :
    (Scanner.standard.Steps (.initial "\n\x7b\x7bé\x7d\x7d") 2
        [⟨.opening .var, "\x7b\x7b", ⟨1, 3, 2, 1⟩⟩]
        ⟨⟨⟨3, 2, 3⟩, ['é', '}', '}']⟩, some ⟨.var, .opening .var, "\x7b\x7b", ⟨1, 3, 2, 1⟩⟩⟩ ∧
      Token.Faithful "\n\x7b\x7bé\x7d\x7d" ⟨.opening .var, "\x7b\x7b", ⟨1, 3, 2, 1⟩⟩) ∧
    (scan {} "\n\x7b\x7bé\x7d\x7d" =
        .ok ⟨"\n\x7b\x7bé\x7d\x7d",
          [⟨.opening .var, "\x7b\x7b", ⟨1, 3, 2, 1⟩⟩, ⟨.symbol, "é", ⟨3, 5, 2, 3⟩⟩,
            ⟨.closing .var, "\x7d\x7d", ⟨5, 7, 2, 4⟩⟩]⟩ ∧
      Token.Faithful "\n\x7b\x7bé\x7d\x7d" ⟨.closing .var, "\x7d\x7d", ⟨5, 7, 2, 4⟩⟩) ∧
    (scan {} "\n\x7b\x7b 'é" =
        .error (.lex ⟨.unterminatedString ⟨.string, "'é", ⟨4, 7, 2, 4⟩⟩, ⟨4, 7, 2, 4⟩⟩) ∧
      LexError.WellPlaced "\n\x7b\x7b 'é"
        ⟨.unterminatedString ⟨.string, "'é", ⟨4, 7, 2, 4⟩⟩, ⟨4, 7, 2, 4⟩⟩) := by
  have steps : Scanner.standard.Steps (.initial "\n\x7b\x7bé\x7d\x7d") 2
      [⟨.opening .var, "\x7b\x7b", ⟨1, 3, 2, 1⟩⟩]
      ⟨⟨⟨3, 2, 3⟩, ['é', '}', '}']⟩, some ⟨.var, .opening .var, "\x7b\x7b", ⟨1, 3, 2, 1⟩⟩⟩ :=
    .emitted (.skipped .refl rfl) rfl
  let closing : Token := ⟨.closing .var, "\x7d\x7d", ⟨5, 7, 2, 4⟩⟩
  let result : Scan :=
    ⟨"\n\x7b\x7bé\x7d\x7d",
      [⟨.opening .var, "\x7b\x7b", ⟨1, 3, 2, 1⟩⟩, ⟨.symbol, "é", ⟨3, 5, 2, 3⟩⟩, closing]⟩
  have scanned : scan {} "\n\x7b\x7bé\x7d\x7d" = .ok result := by
    decide +kernel
  have fails : scan {} "\n\x7b\x7b 'é" =
      .error (.lex ⟨.unterminatedString ⟨.string, "'é", ⟨4, 7, 2, 4⟩⟩, ⟨4, 7, 2, 4⟩⟩) := by
    decide +kernel
  refine ⟨⟨steps, ?_⟩, ⟨scanned, ?_⟩, ⟨fails, ?_⟩⟩
  · exact (places_of_scan {} _).1 _ _ _ _ steps _ (.head _)
  · exact (places_of_scan {} _).2.1 result scanned closing (.tail _ (.tail _ (.head _)))
  · exact (places_of_scan {} _).2.2 _ fails

end TemplateTags
