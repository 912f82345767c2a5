import TemplateTags.Text.GraphemeExtend
import TemplateTags.Text.Unprintable

/-!
# Quoted text

A text on one line between double quotes, with every character visible: what cannot be read
where it stands is written as an escape.
-/

namespace TemplateTags.Text

/-- A character by its code point in hexadecimal, between braces. -/
def codePointEscape (char : Char) : List Char :=
  ['\\', 'u', '{'] ++ Nat.toDigits 16 char.toNat ++ ['}']

/-- A character as it is written between double quotes. -/
def escape (char : Char) : List Char :=
  if char = '\x00' then ['\\', '0']
  else if char = '\t' then ['\\', 't']
  else if char = '\r' then ['\\', 'r']
  else if char = '\n' then ['\\', 'n']
  else if char = '\x22' ∨ char = '\\' then ['\\', char]
  else if extendsGrapheme char || isUnprintable char then codePointEscape char
  else [char]

/-- A text between double quotes. -/
def quote (text : String) : String :=
  String.ofList ('\x22' :: text.toList.flatMap escape ++ ['\x22'])

end TemplateTags.Text
