import TemplateTags.Token

/-!
# Options of a scan

The delimiters a template is written with, and what becomes of the text outside every tag. Any
texts may be given as delimiters; `Options.validate` accepts them when no delimiter is empty and
no two are equal, the trimmed forms of the block delimiters included, and otherwise names the
first one at fault.
-/

namespace TemplateTags

/-- What a scan does with text outside every tag. -/
inductive OuterText where
  /-- Pass over it: it stays recoverable from the source. -/
  | skip
  /-- Refuse the first character of it. -/
  | reject
  deriving Repr, DecidableEq, Inhabited

/-- The two texts between which a tag is written. -/
structure DelimiterPair where
  start : String
  stop : String
  deriving Repr, DecidableEq, Inhabited

/-- What a template is written with. The flags `trimBlocks` and `lstripBlocks` are meant for
rendering and do not affect the scan. -/
structure Options where
  block : DelimiterPair := ⟨"\x7b%", "%\x7d"⟩
  var : DelimiterPair := ⟨"\x7b\x7b", "\x7d\x7d"⟩
  comment : DelimiterPair := ⟨"\x7b#", "#\x7d"⟩
  trimBlocks : Bool := false
  lstripBlocks : Bool := false
  outerText : OuterText := .skip
  deriving Repr, DecidableEq, Inhabited

/-- What a delimiter is for. -/
inductive DelimiterRole where
  | opening (family : Family)
  | closing (family : Family)
  /-- Opens a block and trims the text before it. -/
  | trimmedOpening
  /-- Closes a block and trims the text after it. -/
  | trimmedClosing
  deriving Repr, DecidableEq, Inhabited

/-- The name of the option that gives a delimiter. -/
def DelimiterRole.name : DelimiterRole → String
  | .opening .block => "block_start"
  | .closing .block => "block_end"
  | .trimmedOpening => "block_start (trimmed)"
  | .trimmedClosing => "block_end (trimmed)"
  | .opening .var => "variable_start"
  | .closing .var => "variable_end"
  | .opening .comment => "comment_start"
  | .closing .comment => "comment_end"

/-- Whether a delimiter for this role opens a tag. -/
def DelimiterRole.isOpening : DelimiterRole → Bool
  | .opening _ => true
  | .trimmedOpening => true
  | .closing _ => false
  | .trimmedClosing => false

/-- The family of the tags that a delimiter for this role opens or closes. -/
def DelimiterRole.family : DelimiterRole → Family
  | .opening family => family
  | .closing family => family
  | .trimmedOpening => .block
  | .trimmedClosing => .block

/-- The kind of the tokens that a delimiter for this role makes. -/
def DelimiterRole.kind (role : DelimiterRole) : Kind :=
  if role.isOpening then .opening role.family else .closing role.family

@[simp] theorem DelimiterRole.kind_opening (family : Family) :
    (DelimiterRole.opening family).kind = .opening family := rfl

@[simp] theorem DelimiterRole.kind_closing (family : Family) :
    (DelimiterRole.closing family).kind = .closing family := rfl

/-- Why options are refused. -/
inductive OptionsError where
  | emptyDelimiter (role : DelimiterRole)
  /-- The delimiter is the same text as the one for the role `other`. -/
  | duplicateDelimiter (role : DelimiterRole) (literal : String) (other : DelimiterRole)
  deriving Repr, DecidableEq, Inhabited

/-- What is reported about refused options. -/
def OptionsError.message : OptionsError → String
  | .emptyDelimiter role => s!"invalid option {role.name}: empty delimiter"
  | .duplicateDelimiter role literal other =>
    s!"invalid option {role.name}: delimiter '{literal}' already used by {other.name}"

namespace Options

/-- The delimiters of a family. -/
def pair (options : Options) : Family → DelimiterPair
  | .block => options.block
  | .var => options.var
  | .comment => options.comment

/-- The text of the delimiter for a role. A trimmed delimiter carries the trim modifier on the
side of the tag's content. -/
def literal (options : Options) : DelimiterRole → String
  | .opening family => (options.pair family).start
  | .closing family => (options.pair family).stop
  | .trimmedOpening => options.block.start ++ String.singleton trimModifier
  | .trimmedClosing => String.singleton trimModifier ++ options.block.stop

/-- Every role, in the order in which delimiters are checked. -/
def roles : List DelimiterRole :=
  [.opening .block, .closing .block, .trimmedOpening, .trimmedClosing, .opening .var,
    .closing .var, .opening .comment, .closing .comment]

/-- The first fault among the delimiters of `later`, when those of `earlier` are already in use. -/
def firstFault? (options : Options) (earlier : List DelimiterRole) :
    (later : List DelimiterRole) → Option OptionsError
  | [] => none
  | role :: later =>
    if options.literal role = "" then
      some (.emptyDelimiter role)
    else
      match earlier.find? (options.literal · = options.literal role) with
      | some other => some (.duplicateDelimiter role (options.literal role) other)
      | none => options.firstFault? (earlier ++ [role]) later

/-- Accepts options whose delimiters can be told apart. -/
def validate (options : Options) : Except OptionsError Unit :=
  match options.firstFault? [] roles with
  | some fault => .error fault
  | none => .ok ()

/-- The table of roles has all of them. -/
theorem mem_roles (role : DelimiterRole) : role ∈ roles := by
  cases role with
  | opening family => cases family <;> decide
  | closing family => cases family <;> decide
  | _ => decide

/-- Options are accepted exactly if all roles are looked at without a fault. -/
theorem validate_eq_ok_iff_firstFault? {options : Options} :
    options.validate = .ok () ↔ options.firstFault? [] roles = none := by
  unfold validate
  split <;> simp_all

/-- A role that was looked at without a fault has a nonempty literal. -/
theorem literal_ne_empty_of_firstFault? {options : Options} {earlier later : List DelimiterRole}
    (faultless : options.firstFault? earlier later = none) {role : DelimiterRole}
    (listed : role ∈ later) : options.literal role ≠ "" := by
  induction later generalizing earlier with
  | nil => simp at listed
  | cons next later inductionHypothesis =>
    unfold firstFault? at faultless
    split at faultless
    · simp at faultless
    · rename_i notEmpty
      split at faultless
      · simp at faultless
      · rcases List.mem_cons.1 listed with rfl | listed
        · exact notEmpty
        · exact inductionHypothesis faultless listed

/-- Accepted options have no empty delimiter. -/
theorem literal_ne_empty {options : Options} (valid : options.validate = .ok ())
    (role : DelimiterRole) : options.literal role ≠ "" :=
  literal_ne_empty_of_firstFault? (validate_eq_ok_iff_firstFault?.1 valid) (mem_roles role)

end Options

end TemplateTags
