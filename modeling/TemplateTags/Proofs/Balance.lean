import Mathlib.Data.List.Basic
import TemplateTags.Proofs.Grouping
import TemplateTags.Proofs.Rules

/-!
# Balance of a scan

However far a scan has come, its tokens are those of well-formed tags, with the opening delimiter
of the open tag and the content read since. A scan that succeeds leaves no tag open, so its tokens
group into tags.
-/

namespace TemplateTags

/-- A tag of the family has been opened by the token, and these tokens have been read in it. -/
structure Tag.Begun (family : Family) (opening : Token) (body : List Token) : Prop where
  opens : opening.kind = .opening family
  content : ∀ token ∈ body, token.isContent
  silent : family = .comment → body = []

/-- The tag is one that a scan may find: well formed, and with no content in a comment. -/
structure Tag.Scanned (tag : Tag) : Prop where
  begun : Tag.Begun tag.family tag.opening tag.body
  closes : tag.closing.kind = .closing tag.family

/-- A tag that a scan may find is well formed. -/
theorem Tag.Scanned.wellFormed {tag : Tag} (scanned : tag.Scanned) : tag.WellFormed :=
  ⟨scanned.begun.opens, scanned.begun.content, scanned.closes⟩

namespace Scanner

/-- The tokens are those of tags, followed by those of the open tag if there is one. -/
inductive Grouped : List Token → Option OpenTag → Prop where
  | between {tags : List Tag} (scanned : ∀ tag ∈ tags, tag.Scanned) :
      Grouped (tags.flatMap Tag.tokens) none
  | within {tags : List Tag} {opened : OpenTag} {body : List Token}
      (scanned : ∀ tag ∈ tags, tag.Scanned) (begun : Tag.Begun opened.family opened.token body) :
      Grouped (tags.flatMap Tag.tokens ++ opened.token :: body) (some opened)

variable {scanner : Scanner} {state next : State} {tokens : List Token} {token : Token}

theorem Grouped.nil : Grouped [] none :=
  .between (List.forall_mem_nil _)

/-- Passing over text leaves the open tag and the tokens as they are. -/
theorem Grouped.skipped (grouped : Grouped tokens state.opened?)
    (rule : scanner.Rule state (.skipped next)) : Grouped tokens next.opened? := by
  obtain ⟨_, _, _, rfl⟩ := rule.skips
  exact grouped

/-- A token keeps the others grouped. An opening delimiter stands between tags and begins the next
one, content is added to the open tag, and a closing delimiter completes it. -/
theorem Grouped.emitted (grouped : Grouped tokens state.opened?)
    (rule : scanner.Rule state (.emitted token next)) :
    Grouped (tokens ++ [token]) next.opened? := by
  cases rule with
  | @opens input literal =>
    cases grouped with
    | between scanned =>
      let opened : OpenTag :=
        ⟨literal.family, input.token (.opening literal.family) literal.text⟩
      have begun : Tag.Begun opened.family opened.token [] := ⟨rfl, by simp, fun _ => rfl⟩
      exact .within scanned begun
  | @closes input opened literal =>
    cases grouped with
    | @within tags _ body scanned begun =>
      let tag : Tag :=
        ⟨opened.family, opened.token, body, input.token (.closing opened.family) literal.text⟩
      have closed : tag.Scanned := ⟨begun, rfl⟩
      have grown := Grouped.between
        (List.forall_mem_append.2 ⟨scanned, List.forall_mem_singleton.2 closed⟩)
      simpa [tag, Tag.tokens] using grown
  | @lexeme input opened char rest kind text split kept noComment noClose noOpen reads =>
    cases grouped with
    | @within tags _ body scanned begun =>
      rw [List.append_assoc, List.cons_append]
      refine .within scanned ⟨begun.opens, ?_, fun comment => absurd comment noComment⟩
      refine List.forall_mem_append.2 ⟨begun.content, List.forall_mem_singleton.2 ?_⟩
      exact Lexeme.isContent_of_read reads

/-- However far a scan has come, its tokens are grouped. -/
theorem grouped_of_steps {source : String} {count : Nat}
    (steps : scanner.Steps (.initial source) count tokens state) :
    Grouped tokens state.opened? := by
  have invariant : scanner.Invariant (.initial source)
      fun tokens state => Grouped tokens state.opened? :=
    { initial := Grouped.nil
      skipped := Grouped.skipped
      emitted := Grouped.emitted }
  exact invariant.of_steps steps

/-- A step that finishes leaves no tag open. -/
theorem Rule.opened?_of_finished (rule : scanner.Rule state .finished) : state.opened? = none := by
  cases rule
  rfl

end Scanner

/-- The tokens of a scan are those of tags, and they group into these tags. -/
theorem exists_tags_of_scan {options : Options} {source : String} {result : Scan}
    (scanned : scan options source = .ok result) :
    ∃ tags : List Tag, (∀ tag ∈ tags, tag.Scanned) ∧ Tag.ofTokens result.tokens = .ok tags ∧
      result.tokens = tags.flatMap Tag.tokens := by
  obtain ⟨-, scanner, count, state, -, steps, finishes⟩ := exists_steps_of_scan scanned
  have grouped := Scanner.grouped_of_steps steps
  rw [finishes.opened?_of_finished] at grouped
  generalize result.tokens = tokens at grouped
  cases grouped with
  | between scannedTags =>
    refine ⟨_, scannedTags, ?_, rfl⟩
    exact Tag.ofTokens_flatMap_tokens fun tag member => (scannedTags tag member).wellFormed

/-- However far a scan has come, its tokens are grouped, and the tokens of a whole scan are read
as tags without a loss. -/
theorem balance_of_scan (source : String) :
    (∀ (scanner : Scanner) (count : Nat) (tokens : List Token) (state : State),
        scanner.Steps (.initial source) count tokens state →
          Scanner.Grouped tokens state.opened?) ∧
      ∀ (options : Options) (result : Scan), scan options source = .ok result →
        ∃ tags, Tag.ofTokens result.tokens = .ok tags ∧
          tags.flatMap Tag.tokens = result.tokens := by
  refine ⟨fun scanner count tokens state steps => Scanner.grouped_of_steps steps, ?_⟩
  intro options result scanned
  obtain ⟨tags, -, grouped, tokens_eq⟩ := exists_tags_of_scan scanned
  exact ⟨tags, grouped, tokens_eq.symm⟩

/-- A comment with the closing delimiter of another family, after its first character and whole. -/
theorem balance_of_scan_comment :
    (∃ opened state, state.opened? = some opened ∧
      Scanner.standard.Steps (.initial "\x7b# %\x7d #\x7d") 2 [opened.token] state ∧
        Scanner.Grouped [opened.token] state.opened?) ∧
      ∃ result, scan {} "\x7b# %\x7d #\x7d" = .ok result ∧
        ∃ tags, Tag.ofTokens result.tokens = .ok tags ∧
          tags.flatMap Tag.tokens = result.tokens := by
  let opening : Token := ⟨.opening .comment, "\x7b#", ⟨0, 2, 1, 1⟩⟩
  let closing : Token := ⟨.closing .comment, "#\x7d", ⟨6, 8, 1, 7⟩⟩
  let state : State := ⟨⟨⟨3, 1, 4⟩, ['%', '}', ' ', '#', '}']⟩, some ⟨.comment, opening⟩⟩
  have steps : Scanner.standard.Steps (.initial "\x7b# %\x7d #\x7d") 2 [opening] state :=
    .skipped (.emitted .refl rfl) rfl
  have scanned :
      scan {} "\x7b# %\x7d #\x7d" = .ok ⟨"\x7b# %\x7d #\x7d", [opening, closing]⟩ := by
    decide +kernel
  refine ⟨⟨⟨.comment, opening⟩, state, rfl, steps, ?_⟩, ⟨_, scanned, ?_⟩⟩
  · exact (balance_of_scan _).1 _ _ _ _ steps
  · exact (balance_of_scan _).2 _ _ scanned

end TemplateTags
