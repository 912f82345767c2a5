import TemplateTags.Token

/-!
# Remaining text

The part of a template that is still to be read, with the place where it starts.
-/

namespace TemplateTags

/-- The rest of a text and the place of its first character. -/
structure Input where
  here : Location
  rest : List Char
  deriving Repr, DecidableEq, Inhabited

namespace Input

/-- All of a text, still to be read. -/
def ofString (source : String) : Input :=
  ⟨.first, source.toList⟩

/-- What remains after a text with which the input starts. -/
def consume (input : Input) (text : List Char) : Input :=
  ⟨input.here.after text, input.rest.drop text.length⟩

/-- The token that a text with which the input starts makes. -/
def token (input : Input) (kind : Kind) (text : List Char) : Token :=
  ⟨kind, String.ofList text, input.here.spanTo (input.here.after text).offset⟩

/-- Whether fewer than `count` characters remain. It looks at no more than `count` of them. -/
def fewerThan (input : Input) (count : Nat) : Bool :=
  (input.rest.take count).length < count

@[simp] theorem offset_consume (input : Input) (text : List Char) :
    (input.consume text).here.offset = input.here.offset + Text.byteLength text := by
  simp [consume]

@[simp] theorem kind_token (input : Input) (kind : Kind) (text : List Char) :
    (input.token kind text).kind = kind := rfl

@[simp] theorem start_token (input : Input) (kind : Kind) (text : List Char) :
    (input.token kind text).span.start = input.here.offset := rfl

@[simp] theorem stop_token (input : Input) (kind : Kind) (text : List Char) :
    (input.token kind text).span.stop = input.here.offset + Text.byteLength text := by
  simp [token, Location.spanTo]

/-- The answer is about all characters that remain, although no more than asked about are looked
at. -/
theorem fewerThan_iff {input : Input} {count : Nat} :
    input.fewerThan count ↔ input.rest.length < count := by
  simp only [fewerThan, List.length_take, decide_eq_true_eq]
  omega

/-- Consuming a first part leaves the second. -/
theorem rest_consume {input : Input} {text rest : List Char} (split : input.rest = text ++ rest) :
    (input.consume text).rest = rest := by
  simp [consume, split]

@[simp] theorem consume_nil (input : Input) : input.consume [] = input := rfl

/-- Two texts are consumed one after the other. -/
theorem consume_append (input : Input) (first second : List Char) :
    input.consume (first ++ second) = (input.consume first).consume second := by
  simp [consume]

/-- Consuming a nonempty text leaves less. -/
theorem length_rest_consume_lt {input : Input} {text : List Char} (notEmpty : text ≠ [])
    (start : text <+: input.rest) : (input.consume text).rest.length < input.rest.length := by
  have positive := List.length_pos_iff.2 notEmpty
  have bounded := start.length_le
  simp only [consume, List.length_drop]
  omega

end Input

end TemplateTags
