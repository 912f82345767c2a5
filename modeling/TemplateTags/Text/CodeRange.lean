/-!
# Ranges of code points

The unit in which the character properties of the Unicode standard are tabulated.
-/

namespace TemplateTags.Text

/-- The code points from `first` to `last`, both included. -/
abbrev CodeRange := Nat × Nat

/-- Whether a character lies in the range. -/
def CodeRange.covers (range : CodeRange) (char : Char) : Bool :=
  range.1 ≤ char.toNat && char.toNat ≤ range.2

end TemplateTags.Text
