import TemplateTags.Text.CodeRange

/-!
# Blank characters

The Unicode property White_Space. It takes in the line and paragraph separators and the
no-break spaces, so it is wider than the ASCII class of `Char.isWhitespace`.
-/

namespace TemplateTags.Text

/-- The ranges of White_Space, in ascending order. -/
def blankRanges : List CodeRange :=
  [(0x0009, 0x000D), (0x0020, 0x0020), (0x0085, 0x0085), (0x00A0, 0x00A0), (0x1680, 0x1680),
    (0x2000, 0x200A), (0x2028, 0x2029), (0x202F, 0x202F), (0x205F, 0x205F), (0x3000, 0x3000)]

/-- Whether a character is white space. -/
def isBlank (char : Char) : Bool :=
  blankRanges.any (·.covers char)

end TemplateTags.Text
