import TemplateTags.Options

/-!
# Delimiter literals

The texts that open and close tags, in the order in which they are looked for: the first literal
of the table that the remaining text starts with is the one found. The trimmed forms of the block
delimiters come first, so that the plain forms do not hide them.
-/

namespace TemplateTags

/-- A text that opens or closes the tags of a family. -/
structure Literal where
  text : List Char
  family : Family
  deriving Repr, DecidableEq, Inhabited

/-- Whether the remaining text starts with the literal. -/
def Literal.startsAt (literal : Literal) (rest : List Char) : Bool :=
  literal.text.isPrefixOf rest

theorem Literal.startsAt_iff {literal : Literal} {rest : List Char} :
    literal.startsAt rest ↔ literal.text <+: rest :=
  List.isPrefixOf_iff_prefix

/-- The opening and the closing literals, each in order of precedence. -/
structure Delimiters where
  openings : List Literal
  closings : List Literal
  deriving Repr, DecidableEq, Inhabited

namespace Delimiters

/-- The literals of the given options. -/
def ofOptions (options : Options) : Delimiters where
  openings :=
    [⟨(options.literal .trimmedOpening).toList, .block⟩,
      ⟨(options.literal (.opening .block)).toList, .block⟩,
      ⟨(options.literal (.opening .var)).toList, .var⟩,
      ⟨(options.literal (.opening .comment)).toList, .comment⟩]
  closings :=
    [⟨(options.literal .trimmedClosing).toList, .block⟩,
      ⟨(options.literal (.closing .block)).toList, .block⟩,
      ⟨(options.literal (.closing .var)).toList, .var⟩,
      ⟨(options.literal (.closing .comment)).toList, .comment⟩]

/-- The opening literal with which the remaining text starts. -/
def openAt? (delimiters : Delimiters) (rest : List Char) : Option Literal :=
  delimiters.openings.find? (·.startsAt rest)

/-- The closing literal with which the remaining text starts. -/
def closeAt? (delimiters : Delimiters) (rest : List Char) : Option Literal :=
  delimiters.closings.find? (·.startsAt rest)

/-- Whether the remaining text starts with a closing literal. -/
def closesAt (delimiters : Delimiters) (rest : List Char) : Bool :=
  (delimiters.closeAt? rest).isSome

/-- The closing literals of a family. -/
def closingsOf (delimiters : Delimiters) (family : Family) : List Literal :=
  delimiters.closings.filter (·.family = family)

/-- The closing literal of a given family with which the remaining text starts. -/
def closeOf? (delimiters : Delimiters) (family : Family) (rest : List Char) : Option Literal :=
  (delimiters.closingsOf family).find? (·.startsAt rest)

/-- The least number of characters in which a tag of the family can be closed. -/
def minCloseLength (delimiters : Delimiters) (family : Family) : Nat :=
  ((delimiters.closingsOf family).map (·.text.length)).min?.getD 0

/-- No literal is empty. -/
def Nonempty (delimiters : Delimiters) : Prop :=
  ∀ literal ∈ delimiters.openings ++ delimiters.closings, literal.text ≠ []

instance (delimiters : Delimiters) : Decidable delimiters.Nonempty :=
  inferInstanceAs (Decidable (∀ _ ∈ _, _))

/-- An opening literal that is found is listed, and the text starts with it. -/
theorem openAt?_eq_some {delimiters : Delimiters} {rest : List Char} {literal : Literal}
    (found : delimiters.openAt? rest = some literal) :
    literal ∈ delimiters.openings ∧ literal.text <+: rest := by
  have starts := List.find?_some found
  exact ⟨List.mem_of_find?_eq_some found, Literal.startsAt_iff.1 starts⟩

/-- A closing literal that is found is listed, and the text starts with it. -/
theorem closeAt?_eq_some {delimiters : Delimiters} {rest : List Char} {literal : Literal}
    (found : delimiters.closeAt? rest = some literal) :
    literal ∈ delimiters.closings ∧ literal.text <+: rest := by
  have starts := List.find?_some found
  exact ⟨List.mem_of_find?_eq_some found, Literal.startsAt_iff.1 starts⟩

/-- A closing literal that is found for a family is listed with that family, and the text starts
with it. -/
theorem closeOf?_eq_some {delimiters : Delimiters} {family : Family} {rest : List Char}
    {literal : Literal} (found : delimiters.closeOf? family rest = some literal) :
    literal ∈ delimiters.closings ∧ literal.family = family ∧ literal.text <+: rest := by
  have listed := List.mem_of_find?_eq_some found
  have starts := List.find?_some found
  rw [closingsOf, List.mem_filter] at listed
  exact ⟨listed.1, of_decide_eq_true listed.2, Literal.startsAt_iff.1 starts⟩

/-- No opening literal is found exactly where the text starts with none that is listed. -/
theorem openAt?_eq_none_iff {delimiters : Delimiters} {rest : List Char} :
    delimiters.openAt? rest = none ↔ ∀ literal ∈ delimiters.openings, ¬ literal.text <+: rest := by
  simp [openAt?, List.find?_eq_none, Literal.startsAt]

/-- No closing literal is found exactly where the text starts with none that is listed. -/
theorem closeAt?_eq_none_iff {delimiters : Delimiters} {rest : List Char} :
    delimiters.closeAt? rest = none ↔ ∀ literal ∈ delimiters.closings, ¬ literal.text <+: rest := by
  simp [closeAt?, List.find?_eq_none, Literal.startsAt]

/-- Where no closing literal is found at all, none is found for a family. -/
theorem closeOf?_eq_none {delimiters : Delimiters} (family : Family) {rest : List Char}
    (noClose : delimiters.closeAt? rest = none) : delimiters.closeOf? family rest = none := by
  rw [closeAt?_eq_none_iff] at noClose
  rw [closeOf?, List.find?_eq_none]
  intro literal listed starts
  exact noClose literal (List.mem_filter.1 listed).1 (Literal.startsAt_iff.1 starts)

/-- A delimiter closes exactly where a closing literal is found. -/
theorem closesAt_eq_false_iff {delimiters : Delimiters} {rest : List Char} :
    delimiters.closesAt rest = false ↔ delimiters.closeAt? rest = none := by
  simp [closesAt]

/-- Where the text starts with a listed closing literal one is found, be it another one that is
listed earlier. -/
theorem closesAt_of_isPrefix {delimiters : Delimiters} {rest : List Char} {literal : Literal}
    (listed : literal ∈ delimiters.closings) (start : literal.text <+: rest) :
    delimiters.closesAt rest := by
  rw [closesAt, closeAt?, List.find?_isSome]
  exact ⟨literal, listed, Literal.startsAt_iff.2 start⟩

/-- No literal closes a tag of its family with fewer characters than it takes at least. -/
theorem minCloseLength_le {delimiters : Delimiters} {literal : Literal}
    (listed : literal ∈ delimiters.closings) :
    delimiters.minCloseLength literal.family ≤ literal.text.length := by
  have member : literal.text.length ∈
      (delimiters.closingsOf literal.family).map (·.text.length) :=
    List.mem_map.2 ⟨literal, List.mem_filter.2 ⟨listed, decide_eq_true rfl⟩, rfl⟩
  rw [minCloseLength]
  cases least : ((delimiters.closingsOf literal.family).map (·.text.length)).min? with
  | none => exact Nat.zero_le _
  | some length => exact (List.min?_eq_some_iff.1 least).2 _ member

/-- It takes a character at least to close a tag of a family that has closing literals. -/
theorem minCloseLength_pos {delimiters : Delimiters} (nonempty : delimiters.Nonempty)
    {literal : Literal} (listed : literal ∈ delimiters.closings) :
    0 < delimiters.minCloseLength literal.family := by
  have member : literal ∈ delimiters.closingsOf literal.family :=
    List.mem_filter.2 ⟨listed, decide_eq_true rfl⟩
  rw [minCloseLength]
  cases least : ((delimiters.closingsOf literal.family).map (·.text.length)).min? with
  | none =>
    rw [List.min?_eq_none_iff, List.map_eq_nil_iff] at least
    rw [least] at member
    cases member
  | some length =>
    obtain ⟨shortest, shortestListed, rfl⟩ := List.mem_map.1 (List.min?_mem least)
    have notEmpty := nonempty shortest
      (List.mem_append_right _ (List.mem_filter.1 shortestListed).1)
    exact List.length_pos_iff.2 notEmpty

/-- The opening literals of options are those of the roles that open a tag. -/
theorem mem_openings_ofOptions_iff {options : Options} {literal : Literal} :
    literal ∈ (ofOptions options).openings ↔
      ∃ role : DelimiterRole, role.isOpening ∧
        literal = ⟨(options.literal role).toList, role.family⟩ := by
  simp only [ofOptions, List.mem_cons, List.not_mem_nil, or_false]
  constructor
  · rintro (rfl | rfl | rfl | rfl) <;> exact ⟨_, rfl, rfl⟩
  · rintro ⟨role, opens, rfl⟩
    cases role with
    | opening family => cases family <;> simp [DelimiterRole.family]
    | trimmedOpening => simp [DelimiterRole.family]
    | closing | trimmedClosing => cases opens

/-- The closing literals of options are those of the roles that do not open a tag. -/
theorem mem_closings_ofOptions_iff {options : Options} {literal : Literal} :
    literal ∈ (ofOptions options).closings ↔
      ∃ role : DelimiterRole, role.isOpening = false ∧
        literal = ⟨(options.literal role).toList, role.family⟩ := by
  simp only [ofOptions, List.mem_cons, List.not_mem_nil, or_false]
  constructor
  · rintro (rfl | rfl | rfl | rfl) <;> exact ⟨_, rfl, rfl⟩
  · rintro ⟨role, closes, rfl⟩
    cases role with
    | closing family => cases family <;> simp [DelimiterRole.family]
    | trimmedClosing => simp [DelimiterRole.family]
    | opening | trimmedOpening => cases closes

/-- No opening literal is found exactly where the text starts with the literal of no opening
role. -/
theorem openAt?_ofOptions_eq_none_iff {options : Options} {rest : List Char} :
    (ofOptions options).openAt? rest = none ↔
      ∀ role : DelimiterRole, role.isOpening → ¬ (options.literal role).toList <+: rest := by
  rw [openAt?_eq_none_iff]
  constructor
  · intro free role opens
    exact free ⟨_, role.family⟩ (mem_openings_ofOptions_iff.2 ⟨role, opens, rfl⟩)
  · intro free literal listed
    obtain ⟨role, opens, rfl⟩ := mem_openings_ofOptions_iff.1 listed
    exact free role opens

/-- No closing literal is found exactly where the text starts with the literal of no closing
role. -/
theorem closeAt?_ofOptions_eq_none_iff {options : Options} {rest : List Char} :
    (ofOptions options).closeAt? rest = none ↔
      ∀ role : DelimiterRole, role.isOpening = false →
        ¬ (options.literal role).toList <+: rest := by
  rw [closeAt?_eq_none_iff]
  constructor
  · intro free role closes
    exact free ⟨_, role.family⟩ (mem_closings_ofOptions_iff.2 ⟨role, closes, rfl⟩)
  · intro free literal listed
    obtain ⟨role, closes, rfl⟩ := mem_closings_ofOptions_iff.1 listed
    exact free role closes

/-- No closing literal is found for a family exactly where the text starts with none of its closing
roles. -/
theorem closeOf?_ofOptions_eq_none_iff {options : Options} {family : Family} {rest : List Char} :
    (ofOptions options).closeOf? family rest = none ↔
      ∀ role : DelimiterRole, role.isOpening = false → role.family = family →
        ¬ (options.literal role).toList <+: rest := by
  simp only [closeOf?, closingsOf, List.find?_eq_none, List.mem_filter, decide_eq_true_eq,
    Literal.startsAt_iff]
  constructor
  · intro free role closes own
    exact free ⟨_, role.family⟩ ⟨mem_closings_ofOptions_iff.2 ⟨role, closes, rfl⟩, own⟩
  · rintro free literal ⟨listed, own⟩
    obtain ⟨role, closes, rfl⟩ := mem_closings_ofOptions_iff.1 listed
    exact free role closes own

/-- Accepted options give no empty literal. -/
theorem nonempty_ofOptions {options : Options} (valid : options.validate = .ok ()) :
    (ofOptions options).Nonempty := by
  intro literal listed
  have shown : ∀ role, (options.literal role).toList ≠ [] := fun role empty =>
    Options.literal_ne_empty valid role (by simpa using empty)
  simp only [ofOptions, List.cons_append, List.nil_append, List.mem_cons, List.not_mem_nil,
    or_false] at listed
  rcases listed with rfl | rfl | rfl | rfl | rfl | rfl | rfl | rfl <;> exact shown _

end Delimiters

end TemplateTags
