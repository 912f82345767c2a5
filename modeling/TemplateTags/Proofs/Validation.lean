import Mathlib.Data.List.Induction
import Mathlib.Data.List.Nodup
import TemplateTags.Options

/-!
# Which options are accepted

Options are accepted exactly if their delimiters can be told apart. Otherwise the first delimiter at
fault is reported, in the order of `Options.roles`.

`Options.Clear` is what the check has found of the delimiters that it has been through. The next
one is clear as well, or it offends: it is empty, or it is the text of one before it, and of one
only, as those before it are clear. `Options.Clear.exists_offender` goes through all of them in this
way.
-/

namespace TemplateTags

namespace Options

/-- No delimiter for these roles is empty, and each is different from those before it. -/
structure Clear (options : Options) (roles : List DelimiterRole) : Prop where
  notEmpty : ∀ role ∈ roles, options.literal role ≠ ""
  distinct : roles.Pairwise fun first second => options.literal first ≠ options.literal second

/-- What is wrong with the delimiter for a role when those of `earlier` are already in use. -/
inductive Offends (options : Options) (earlier : List DelimiterRole) (role : DelimiterRole) :
    OptionsError → Prop where
  | empty (isEmpty : options.literal role = "") :
      Offends options earlier role (.emptyDelimiter role)
  /-- The delimiter is that of one earlier role, and of no other. -/
  | duplicate {other : DelimiterRole} (notEmpty : options.literal role ≠ "")
      (listed : other ∈ earlier) (same : options.literal other = options.literal role)
      (unique : ∀ another ∈ earlier,
        options.literal another = options.literal role → another = other) :
      Offends options earlier role (.duplicateDelimiter role (options.literal role) other)

/-- None of the six delimiters that are given is empty, and no two of the eight that are looked for
are equal, the trimmed ones included. -/
structure Unambiguous (options : Options) : Prop where
  notEmpty : ∀ family, (options.pair family).start ≠ "" ∧ (options.pair family).stop ≠ ""
  distinct : Function.Injective options.literal

variable {options : Options} {earlier later roles : List DelimiterRole}
  {role : DelimiterRole} {fault : OptionsError}

theorem clear_nil : options.Clear [] :=
  ⟨List.forall_mem_nil _, .nil⟩

/-- One more delimiter is clear if it is not empty and not in use. -/
theorem clear_concat_iff :
    options.Clear (earlier ++ [role]) ↔ options.Clear earlier ∧ options.literal role ≠ "" ∧
      ∀ other ∈ earlier, options.literal other ≠ options.literal role := by
  constructor
  · intro clear
    obtain ⟨notEmpty, roleNotEmpty⟩ := List.forall_mem_append.1 clear.notEmpty
    obtain ⟨distinct, -, fresh⟩ := List.pairwise_append.1 clear.distinct
    exact ⟨⟨notEmpty, distinct⟩, roleNotEmpty role (List.mem_singleton_self role),
      fun other listed => fresh other listed role (List.mem_singleton_self role)⟩
  · rintro ⟨clear, roleNotEmpty, fresh⟩
    refine ⟨List.forall_mem_append.2 ⟨clear.notEmpty, ?_⟩,
      List.pairwise_append.2 ⟨clear.distinct, List.pairwise_singleton .., ?_⟩⟩
    · simpa using roleNotEmpty
    · simpa using fresh

/-- A clear delimiter tells its role. -/
theorem Clear.eq_of_literal_eq (clear : options.Clear roles) {first second : DelimiterRole}
    (firstListed : first ∈ roles) (secondListed : second ∈ roles)
    (same : options.literal first = options.literal second) : first = second :=
  List.inj_on_of_nodup_map (List.pairwise_map.2 clear.distinct) firstListed secondListed same

/-- Behind clear delimiters the next one is clear, or there is something wrong with it. -/
theorem Clear.concat_or_offends (clear : options.Clear earlier) (role : DelimiterRole) :
    options.Clear (earlier ++ [role]) ∨ ∃ fault, options.Offends earlier role fault := by
  by_cases isEmpty : options.literal role = ""
  · exact .inr ⟨_, .empty isEmpty⟩
  by_cases inUse : ∃ other ∈ earlier, options.literal other = options.literal role
  · obtain ⟨other, listed, same⟩ := inUse
    refine .inr ⟨_, .duplicate isEmpty listed same ?_⟩
    intro another anotherListed anotherSame
    exact clear.eq_of_literal_eq anotherListed listed (anotherSame.trans same.symm)
  · refine .inl (clear_concat_iff.2 ⟨clear, isEmpty, ?_⟩)
    intro other listed same
    exact inUse ⟨other, listed, same⟩

/-! ## The check -/

/-- The check goes on behind a clear delimiter. -/
theorem Clear.firstFault?_cons (clear : options.Clear (earlier ++ [role]))
    (later : List DelimiterRole) :
    options.firstFault? earlier (role :: later) =
      options.firstFault? (earlier ++ [role]) later := by
  obtain ⟨-, notEmpty, fresh⟩ := clear_concat_iff.1 clear
  have unused : earlier.find? (options.literal · = options.literal role) = none := by
    simpa using fresh
  rw [firstFault?, if_neg notEmpty, unused]

/-- The check ends at a delimiter with which something is wrong. -/
theorem Offends.firstFault?_cons (offends : options.Offends earlier role fault)
    (later : List DelimiterRole) : options.firstFault? earlier (role :: later) = some fault := by
  cases offends with
  | empty isEmpty => rw [firstFault?, if_pos isEmpty]
  | @duplicate other notEmpty listed same unique =>
    have inUse : earlier.find? (options.literal · = options.literal role) = some other := by
      -- Whichever role the search comes to first, it is the only one.
      cases found : earlier.find? (options.literal · = options.literal role) with
      | none => exact absurd same (by simpa using List.find?_eq_none.1 found other listed)
      | some another =>
        have anotherSame : options.literal another = options.literal role := by
          simpa using List.find?_some found
        rw [unique another (List.mem_of_find?_eq_some found) anotherSame]
    rw [firstFault?, if_neg notEmpty, inUse]

/-- The check gets behind clear delimiters. -/
theorem Clear.firstFault?_append (clear : options.Clear earlier) (later : List DelimiterRole) :
    options.firstFault? [] (earlier ++ later) = options.firstFault? earlier later := by
  induction earlier using List.reverseRecOn generalizing later with
  | nil => rfl
  | append_singleton earlier role inductionHypothesis =>
    obtain ⟨clearEarlier, -⟩ := clear_concat_iff.1 clear
    rw [List.append_assoc, List.singleton_append, inductionHypothesis clearEarlier,
      clear.firstFault?_cons]

/-- Behind clear delimiters all others are clear, or there is a first one that offends. -/
theorem Clear.exists_offender (clear : options.Clear earlier) (later : List DelimiterRole) :
    options.Clear (earlier ++ later) ∨
      ∃ before role after fault, later = before ++ role :: after ∧
        options.Clear (earlier ++ before) ∧ options.Offends (earlier ++ before) role fault := by
  induction later generalizing earlier with
  | nil => exact .inl (by rwa [List.append_nil])
  | cons role later inductionHypothesis =>
    rcases clear.concat_or_offends role with next | ⟨fault, offends⟩
    · rcases inductionHypothesis next with all | ⟨before, offender, after, fault, rfl, rest⟩
      · exact .inl (by rwa [List.append_assoc] at all)
      · rw [List.append_assoc] at rest
        exact .inr ⟨role :: before, offender, after, fault, rfl, rest⟩
    · refine .inr ⟨[], role, later, fault, rfl, ?_⟩
      rw [List.append_nil]
      exact ⟨clear, offends⟩

/-- Options are accepted if all of their delimiters are clear. -/
theorem Clear.validate_eq_ok (clear : options.Clear Options.roles) : options.validate = .ok () := by
  have faultless := clear.firstFault?_append []
  rw [List.append_nil] at faultless
  exact validate_eq_ok_iff_firstFault?.2 faultless

/-- Options are refused for the first delimiter that is at fault. -/
theorem Offends.validate_eq_error (offends : options.Offends earlier role fault)
    (clear : options.Clear earlier) (split : Options.roles = earlier ++ role :: later) :
    options.validate = .error fault := by
  have found := clear.firstFault?_append (role :: later)
  rw [offends.firstFault?_cons, ← split] at found
  rw [validate, found]

/-- All delimiters are clear if those that are given are not empty and no two of all are equal. A
trimmed delimiter is never empty, as it carries the trim modifier. -/
theorem clear_roles_iff : options.Clear Options.roles ↔ options.Unambiguous := by
  constructor
  · intro clear
    refine ⟨fun family => ⟨?_, ?_⟩, ?_⟩
    · exact clear.notEmpty (.opening family) (mem_roles _)
    · exact clear.notEmpty (.closing family) (mem_roles _)
    · intro first second same
      exact clear.eq_of_literal_eq (mem_roles first) (mem_roles second) same
  · intro unambiguous
    refine ⟨fun role _ => ?_, ?_⟩
    · cases role with
      | opening family => exact (unambiguous.notEmpty family).1
      | closing family => exact (unambiguous.notEmpty family).2
      | trimmedOpening => simp [literal]
      | trimmedClosing => simp [literal]
    · have nodup : Options.roles.Nodup := by decide
      exact List.pairwise_map.1 (nodup.map unambiguous.distinct)

end Options

/-- Options are accepted exactly if their delimiters can be told apart. They are refused exactly for
what is wrong with the first delimiter that is not clear, when all those before it are. -/
theorem validate_accepts_or_blames (options : Options) :
    (options.validate = .ok () ↔ options.Unambiguous) ∧
      ∀ fault, options.validate = .error fault ↔
        ∃ earlier role later, Options.roles = earlier ++ role :: later ∧
          options.Clear earlier ∧ options.Offends earlier role fault := by
  have outcome := (Options.clear_nil : options.Clear []).exists_offender Options.roles
  simp only [List.nil_append, Options.clear_roles_iff] at outcome
  refine ⟨⟨?unambiguous, ?accepted⟩, fun fault => ⟨?blamed, ?refused⟩⟩
  case accepted =>
    intro unambiguous
    exact (Options.clear_roles_iff.2 unambiguous).validate_eq_ok
  case refused =>
    rintro ⟨earlier, role, later, split, clear, offends⟩
    exact offends.validate_eq_error clear split
  case unambiguous =>
    intro accepted
    rcases outcome with unambiguous | ⟨earlier, role, later, fault, split, clear, offends⟩
    · exact unambiguous
    · cases accepted.symm.trans (offends.validate_eq_error clear split)
  case blamed =>
    intro refused
    rcases outcome with unambiguous | ⟨earlier, role, later, found, split, clear, offends⟩
    · cases refused.symm.trans (Options.clear_roles_iff.2 unambiguous).validate_eq_ok
    · cases refused.symm.trans (offends.validate_eq_error clear split)
      exact ⟨earlier, role, later, split, clear, offends⟩

/-- A block that ends with the trimmed form of what it starts with. -/
example : ({ block := ⟨"<%", "<%-"⟩ } : Options).validate =
    .error (.duplicateDelimiter .trimmedOpening "<%-" (.closing .block)) := by
  decide

end TemplateTags
