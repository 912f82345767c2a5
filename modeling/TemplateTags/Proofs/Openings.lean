import Mathlib.Data.List.Nodup
import TemplateTags.Proofs.Region

/-!
# Opening literals that are found

An opening literal may never be found although it differs from all the others: where it stands, a
closing literal or an earlier opening literal may stand too, and is taken for it. That happens
wherever it stands or nowhere, since what hides it is a first part of it. A literal that nothing
hides is alive, and its own text is a source in which it is found.
-/

namespace TemplateTags

/-- The scan of a source finds the token, whether it succeeds or fails further on. -/
def Options.Emits (options : Options) (source : String) (token : Token) : Prop :=
  ∃ scanner count tokens state, Scanner.ofOptions options = .ok scanner ∧
    scanner.Steps (.initial source) count tokens state ∧ token ∈ tokens

/-- A literal is its text and its family. -/
@[ext] theorem Literal.ext {first second : Literal} (text : first.text = second.text)
    (family : first.family = second.family) : first = second := by
  cases first
  cases second
  cases text
  cases family
  rfl

namespace Delimiters

/-- No literal that is looked for before an opening literal is a first part of it. Before it all
closing literals are looked for, and the opening ones that come earlier. -/
structure Alive (delimiters : Delimiters) (earlier : List Literal) (literal : Literal) : Prop where
  noClosing : ∀ closing ∈ delimiters.closings, ¬ closing.text <+: literal.text
  noEarlier : ∀ opening ∈ earlier, ¬ opening.text <+: literal.text

/-- The opening literals of options differ from each other in their text or in their family. -/
theorem nodup_openings_ofOptions (options : Options) : (ofOptions options).openings.Nodup := by
  simp [ofOptions, Options.literal, Options.pair]

variable {delimiters : Delimiters} {earlier later : List Literal} {literal : Literal}
  {rest : List Char}

/-- An opening literal of the table is found where it stands and no earlier one does. -/
theorem openAt?_eq_some_iff (distinct : delimiters.openings.Nodup)
    (table : delimiters.openings = earlier ++ literal :: later) :
    delimiters.openAt? rest = some literal ↔
      literal.text <+: rest ∧ ∀ opening ∈ earlier, ¬ opening.text <+: rest := by
  rw [openAt?, List.find?_eq_some_iff_append, Literal.startsAt_iff]
  refine and_congr_right fun _ => ⟨?_, fun free => ⟨earlier, later, table, ?_⟩⟩
  · rintro ⟨before, after, split, free⟩
    rw [table] at split distinct
    obtain ⟨absent, -⟩ := List.nodup_cons.1 (List.nodup_middle.1 distinct)
    obtain ⟨noEarlier, noLater⟩ := not_or.1 (mt List.mem_append.2 absent)
    obtain ⟨rfl, -, -⟩ := (List.append_cons_inj_of_notMem noEarlier noLater).1 split
    simpa [← Literal.startsAt_iff] using free
  · simpa [← Literal.startsAt_iff] using free

/-- A literal is alive exactly if there is a text at whose head it is found. -/
theorem alive_iff (distinct : delimiters.openings.Nodup)
    (table : delimiters.openings = earlier ++ literal :: later) :
    delimiters.Alive earlier literal ↔
      ∃ rest, delimiters.closeAt? rest = none ∧ delimiters.openAt? rest = some literal := by
  simp only [openAt?_eq_some_iff distinct table, closeAt?_eq_none_iff]
  constructor
  · intro alive
    exact ⟨literal.text, alive.noClosing, List.prefix_rfl, alive.noEarlier⟩
  · rintro ⟨rest, noClosing, start, noEarlier⟩
    exact ⟨fun closing listed atHead => noClosing closing listed (atHead.trans start),
      fun opening listed atHead => noEarlier opening listed (atHead.trans start)⟩

end Delimiters

/-- Where a scan finds an opening delimiter, a literal of the table stands and no closing one. -/
theorem Options.Emits.exists_openAt? {options : Options} {source : String} {token : Token}
    (emits : options.Emits source token) (isOpening : token.isOpening) :
    ∃ rest literal, (Delimiters.ofOptions options).closeAt? rest = none ∧
      (Delimiters.ofOptions options).openAt? rest = some literal ∧
      token.kind = .opening literal.family ∧ token.value = String.ofList literal.text := by
  obtain ⟨scanner, count, tokens, state, accepted, steps, member⟩ := emits
  obtain ⟨-, delimiters_eq, -, -⟩ := Scanner.ofOptions_eq_ok_iff.1 accepted
  obtain ⟨_, _, _, _, -, rule⟩ := Scanner.exists_rule_of_mem steps member
  obtain ⟨input, literal, noClose, opening, -, rfl, -⟩ := rule.opens_of_isOpening isOpening
  rw [delimiters_eq] at noClose opening
  exact ⟨input.rest, literal, noClose, opening, rfl, rfl⟩

/-- In a source that is an alive literal and no more, the literal is found, and the tag that it
opens is left open. -/
theorem Delimiters.Alive.exists_scan {options : Options} {earlier later : List Literal}
    {literal : Literal} (alive : (ofOptions options).Alive earlier literal)
    (valid : options.validate = .ok ())
    (table : (ofOptions options).openings = earlier ++ literal :: later) :
    ∃ opened expectedAt, opened.kind = .opening literal.family ∧
      opened.value = String.ofList literal.text ∧
      options.Emits (String.ofList literal.text) opened ∧
      scan options (String.ofList literal.text) =
        .error (.lex ⟨.unterminatedTag opened expectedAt, expectedAt⟩) := by
  have noClose := closeAt?_eq_none_iff.2 alive.noClosing
  have opening := (openAt?_eq_some_iff (nodup_openings_ofOptions options) table).2
    ⟨List.prefix_rfl, alive.noEarlier⟩
  obtain ⟨scanner, accepted⟩ := Scanner.exists_ofOptions valid
  obtain ⟨-, delimiters_eq, -, -⟩ := Scanner.ofOptions_eq_ok_iff.1 accepted
  let input : Input := .ofString (String.ofList literal.text)
  have rest_eq : input.rest = literal.text := String.toList_ofList
  let opened : Token := input.token (.opening literal.family) literal.text
  rw [← delimiters_eq, ← rest_eq] at noClose opening
  have opens : scanner.Rule ⟨input, none⟩
      (.emitted opened ⟨input.consume literal.text, some ⟨literal.family, opened⟩⟩) :=
    .opens noClose opening
  have steps := Scanner.Steps.emitted .refl opens.step_eq
  have ended : (input.consume literal.text).rest = [] :=
    Input.rest_consume (by rw [rest_eq, List.append_nil])
  have failed := scan_of_steps_failed accepted steps (.unterminated (.inl ended))
  exact ⟨opened, _, rfl, rfl, ⟨scanner, _, _, _, accepted, steps, by simp⟩, failed⟩

/-- An opening literal is found in some source exactly if it is alive: neither a closing literal nor
an earlier opening one is a first part of it. A scan of the literal itself then fails with the tag
open that it opens. -/
theorem emits_opening_iff_alive {options : Options} (valid : options.validate = .ok ())
    {earlier later : List Literal} {literal : Literal}
    (table : (Delimiters.ofOptions options).openings = earlier ++ literal :: later) :
    ((∃ source token, options.Emits source token ∧ token.kind = .opening literal.family ∧
        token.value = String.ofList literal.text) ↔
      (Delimiters.ofOptions options).Alive earlier literal) ∧
    ((Delimiters.ofOptions options).Alive earlier literal →
      ∃ opened expectedAt, opened.kind = .opening literal.family ∧
        opened.value = String.ofList literal.text ∧
        scan options (String.ofList literal.text) =
          .error (.lex ⟨.unterminatedTag opened expectedAt, expectedAt⟩)) := by
  refine ⟨⟨?alive, ?emitted⟩, ?scanned⟩
  case alive =>
    have distinct := Delimiters.nodup_openings_ofOptions options
    rintro ⟨source, token, emits, kind, value⟩
    have isOpening : token.isOpening := by
      rw [Token.isOpening, kind]
      rfl
    obtain ⟨rest, found, noClose, opening, kind', value'⟩ := emits.exists_openAt? isOpening
    have text_eq : found.text = literal.text :=
      String.ofList_injective (value'.symm.trans value)
    have family_eq : found.family = literal.family := Kind.opening.inj (kind'.symm.trans kind)
    obtain rfl : found = literal := Literal.ext text_eq family_eq
    exact (Delimiters.alive_iff distinct table).2 ⟨rest, noClose, opening⟩
  case emitted =>
    intro alive
    obtain ⟨opened, expectedAt, kind, value, emits, -⟩ := alive.exists_scan valid table
    exact ⟨_, opened, emits, kind, value⟩
  case scanned =>
    intro alive
    obtain ⟨opened, expectedAt, kind, value, -, failed⟩ := alive.exists_scan valid table
    exact ⟨opened, expectedAt, kind, value, failed⟩

/-- A brace alone that opens variables hides the opening literal of comments, and is hidden neither
by the longer ones of blocks, which are looked for earlier, nor by the closing one of variables. -/
theorem emits_opening_iff_alive_brace :
    let options : Options := { var := ⟨"\x7b", "\x7d"⟩ }
    options.validate = .ok () ∧
      (¬ ∃ source token, options.Emits source token ∧ token.kind = .opening .comment ∧
        token.value = "\x7b#") ∧
      (∃ source token, options.Emits source token ∧ token.kind = .opening .var ∧
        token.value = "\x7b") ∧
      ∃ opened expectedAt, opened.kind = .opening .var ∧ opened.value = "\x7b" ∧
        scan options "\x7b" = .error (.lex ⟨.unterminatedTag opened expectedAt, expectedAt⟩) := by
  intro options
  have valid : options.validate = .ok () := rfl
  let trimmed : Literal := ⟨['{', '%', '-'], .block⟩
  let block : Literal := ⟨['{', '%'], .block⟩
  let var : Literal := ⟨['{'], .var⟩
  let comment : Literal := ⟨['{', '#'], .comment⟩
  have commentTable : (Delimiters.ofOptions options).openings =
      [trimmed, block, var] ++ comment :: [] := by
    decide
  have varTable : (Delimiters.ofOptions options).openings =
      [trimmed, block] ++ var :: [comment] := by
    decide
  have commentFound := emits_opening_iff_alive valid commentTable
  have varFound := emits_opening_iff_alive valid varTable
  have varAlive : (Delimiters.ofOptions options).Alive [trimmed, block] var :=
    ⟨by decide, by decide⟩
  refine ⟨valid, ?_, varFound.1.2 varAlive, varFound.2 varAlive⟩
  intro emitted
  have alive := commentFound.1.1 emitted
  exact alive.noEarlier var (by decide) (by decide)

end TemplateTags
