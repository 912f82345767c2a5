import Mathlib.Data.List.Basic
import TemplateTags.Text.Quoted

/-!
# Reading quoted text

What is written between double quotes tells the text that it is written for and where it ends,
whatever the text contains. `Written` lists the ways to write a character. No two of them are alike,
whatever follows, by `Written.append_inj`; so a text is read character by character, up to the quote
at its end, which starts no character. A code point, like any field that ends at a character that it
does not contain, is told by its digits. Which characters are written by their code points does not
matter.
-/

namespace TemplateTags.Text

variable {char other : Char} {first second rest others : List Char}

/-- A field ends at the first separator. -/
theorem takeWhile_ne_separator {separator : Char} (absent : separator ∉ first) :
    (first ++ separator :: rest).takeWhile (· ≠ separator) = first := by
  have kept : ∀ char ∈ first, decide (char ≠ separator) := by
    intro char member
    exact decide_eq_true fun same => absent (same ▸ member)
  rw [List.takeWhile_append_of_pos kept, List.takeWhile_cons_of_neg (by simp), List.append_nil]

/-- Fields that end at their first separator are told apart whatever follows. -/
theorem append_separator_inj {separator : Char} (notInFirst : separator ∉ first)
    (notInSecond : separator ∉ second)
    (same : first ++ separator :: rest = second ++ separator :: others) :
    first = second ∧ rest = others := by
  have fields := congrArg (List.takeWhile (· ≠ separator)) same
  rw [takeWhile_ne_separator notInFirst, takeWhile_ne_separator notInSecond] at fields
  subst fields
  exact ⟨rfl, (List.cons.inj (List.append_cancel_left same)).2⟩

/-! ## Digits -/

/-- A character that is no digit is not among the digits of a number. -/
theorem not_mem_toDigits {base : Nat} (one_lt : 1 < base)
    (noDigit : ∀ digit, Nat.digitChar digit ≠ char) (number : Nat) :
    char ∉ Nat.toDigits base number := by
  induction number using Nat.strongRecOn with
  | ind number inductionHypothesis =>
    rw [Nat.toDigits_eq_if one_lt]
    split
    case isTrue =>
      rw [List.mem_singleton]
      exact (noDigit number).symm
    case isFalse large =>
      have smaller : number / base < number := Nat.div_lt_self (by omega) one_lt
      rw [List.mem_append, List.mem_singleton, not_or]
      exact ⟨inductionHypothesis _ smaller, (noDigit _).symm⟩

/-- Up to base 16 no two digits are written alike. -/
theorem digitChar_inj : ∀ first < 16, ∀ second < 16,
    Nat.digitChar first = Nat.digitChar second → first = second := by
  decide

/-- The digits of a number tell the number. -/
theorem toDigits_injective {base : Nat} (one_lt : 1 < base) (le_sixteen : base ≤ 16) :
    Function.Injective (Nat.toDigits base) := by
  intro first
  induction first using Nat.strongRecOn with
  | ind first inductionHypothesis =>
    intro second same
    have last_lt (number : Nat) : number % base < 16 :=
      Nat.lt_of_lt_of_le (Nat.mod_lt number (by omega)) le_sixteen
    rw [Nat.toDigits_eq_if one_lt, Nat.toDigits_eq_if one_lt (n := second)] at same
    split at same <;> split at same
    case isTrue.isTrue =>
      exact digitChar_inj _ (by omega) _ (by omega) (List.cons.inj same).1
    case isTrue.isFalse =>
      obtain ⟨noDigits, -⟩ := List.append_inj' (show [] ++ [_] = _ from same) rfl
      exact absurd noDigits.symm Nat.toDigits_ne_nil
    case isFalse.isTrue =>
      obtain ⟨noDigits, -⟩ := List.append_inj' (show _ = [] ++ [_] from same) rfl
      exact absurd noDigits Nat.toDigits_ne_nil
    case isFalse.isFalse =>
      -- The last digit is that of the remainder, and those before it are those of the quotient.
      obtain ⟨leading, last⟩ := List.append_inj' same rfl
      have smaller : first / base < first := Nat.div_lt_self (by omega) one_lt
      have quotient := inductionHypothesis _ smaller leading
      have remainder := digitChar_inj _ (last_lt first) _ (last_lt second) (List.cons.inj last).1
      rw [← Nat.div_add_mod first base, quotient, remainder, Nat.div_add_mod]

/-! ## Quoted text -/

/-- The letters that stand for a character behind a backslash, each with its character. -/
def escapeLetters : List (Char × Char) :=
  [('0', '\x00'), ('t', '\t'), ('r', '\r'), ('n', '\n'), ('\x22', '\x22'), ('\\', '\\')]

/-- What stands for a character behind a backslash: a letter, or its code point between braces. -/
inductive EscapeCode (char : Char) : List Char → Prop where
  | letter {letter : Char} (listed : (letter, char) ∈ escapeLetters) : EscapeCode char [letter]
  | codePoint : EscapeCode char ('u' :: '{' :: (Nat.toDigits 16 char.toNat ++ ['}']))

/-- The ways to write a character between double quotes. -/
inductive Written (char : Char) : List Char → Prop where
  | plain (noLetter : ∀ entry ∈ escapeLetters, entry.2 ≠ char) : Written char [char]
  | escaped {code : List Char} (coded : EscapeCode char code) : Written char ('\\' :: code)

/-- Every character is written in one of these ways. -/
theorem written_escape (char : Char) : Written char (escape char) := by
  unfold escape
  split_ifs with null tab carriageReturn newline special hidden
  · subst null
    exact .escaped (.letter (by decide))
  · subst tab
    exact .escaped (.letter (by decide))
  · subst carriageReturn
    exact .escaped (.letter (by decide))
  · subst newline
    exact .escaped (.letter (by decide))
  · rcases special with rfl | rfl
    · exact .escaped (.letter (by decide))
    · exact .escaped (.letter (by decide))
  · exact .escaped .codePoint
  · refine .plain ?_
    simp only [escapeLetters, List.forall_mem_cons]
    grind

/-- A letter stands for one character. -/
theorem eq_of_letter_eq : ∀ entry ∈ escapeLetters, ∀ other ∈ escapeLetters,
    entry.1 = other.1 → entry = other := by
  decide

/-- The letter in front of a code point stands for no character. -/
theorem letter_ne_u : ∀ entry ∈ escapeLetters, entry.1 ≠ 'u' := by
  decide

/-- What follows a backslash tells the character, whatever is behind: a letter does by the table,
and a code point by its digits up to the brace. -/
theorem EscapeCode.append_inj (coded : EscapeCode char first) (otherCoded : EscapeCode other second)
    (same : first ++ rest = second ++ others) : char = other ∧ rest = others := by
  cases coded with
  | letter listed =>
    cases otherCoded with
    | letter otherListed =>
      obtain ⟨letter_eq, rest_eq⟩ := List.cons.inj same
      exact ⟨congrArg Prod.snd (eq_of_letter_eq _ listed _ otherListed letter_eq), rest_eq⟩
    | codePoint => exact absurd (List.cons.inj same).1 (letter_ne_u _ listed)
  | codePoint =>
    cases otherCoded with
    | letter otherListed => exact absurd (List.cons.inj same).1.symm (letter_ne_u _ otherListed)
    | codePoint =>
      -- The closing brace is no digit, so it ends the code point.
      have noBrace : ∀ number, '}' ∉ Nat.toDigits 16 number :=
        not_mem_toDigits (by decide) fun _ => Nat.digitChar_ne _ rfl
      simp only [List.cons_append, List.append_assoc, List.nil_append, List.cons.injEq, true_and]
        at same
      obtain ⟨digits, rest_eq⟩ := append_separator_inj (noBrace _) (noBrace _) same
      exact ⟨Char.toNat_inj.1 (toDigits_injective (by decide) (by decide) digits), rest_eq⟩

/-- No two ways to write a character are alike, whatever follows. -/
theorem Written.append_inj (written : Written char first) (otherWritten : Written other second)
    (same : first ++ rest = second ++ others) : char = other ∧ rest = others := by
  cases written with
  | plain noLetter =>
    cases otherWritten with
    | plain => exact List.cons.inj same
    | escaped => exact absurd (List.cons.inj same).1.symm (noLetter ('\\', '\\') (by decide))
  | escaped coded =>
    cases otherWritten with
    | plain noLetter => exact absurd (List.cons.inj same).1 (noLetter ('\\', '\\') (by decide))
    | escaped otherCoded => exact coded.append_inj otherCoded (List.cons.inj same).2

/-- The quote at the end starts no character. -/
theorem Written.append_ne_quote (written : Written char first) (rest others : List Char) :
    first ++ rest ≠ '\x22' :: others := by
  intro same
  cases written with
  | plain noLetter =>
    exact absurd (List.cons.inj same).1.symm (noLetter ('\x22', '\x22') (by decide))
  | escaped => cases (List.cons.inj same).1

/-- A newline is written by its letter, so no character is written with one. -/
theorem Written.newline_not_mem (written : Written char first) : '\n' ∉ first := by
  cases written with
  | plain noLetter =>
    rw [List.mem_singleton]
    exact noLetter ('n', '\n') (by decide)
  | escaped coded =>
    cases coded with
    | letter listed =>
      have noNewline : ∀ entry ∈ escapeLetters, entry.1 ≠ '\n' := by decide
      simpa using (noNewline _ listed).symm
    | codePoint =>
      have noNewline : ∀ number, '\n' ∉ Nat.toDigits 16 number :=
        not_mem_toDigits (by decide) fun _ => Nat.digitChar_ne _ rfl
      simpa using noNewline char.toNat

/-- A quoted text ends at the first quote that starts no character, and what is written before it
tells the text. -/
theorem quoted_append_inj
    (same : first.flatMap escape ++ '\x22' :: rest = second.flatMap escape ++ '\x22' :: others) :
    first = second ∧ rest = others := by
  induction first generalizing second with
  | nil =>
    cases second with
    | nil => exact ⟨rfl, (List.cons.inj same).2⟩
    | cons char second =>
      rw [List.flatMap_cons, List.append_assoc] at same
      cases (written_escape char).append_ne_quote _ _ same.symm
  | cons char first inductionHypothesis =>
    cases second with
    | nil =>
      rw [List.flatMap_cons, List.append_assoc] at same
      cases (written_escape char).append_ne_quote _ _ same
    | cons other second =>
      rw [List.flatMap_cons, List.append_assoc, List.flatMap_cons, List.append_assoc] at same
      obtain ⟨rfl, tails⟩ := (written_escape char).append_inj (written_escape other) same
      obtain ⟨rfl, rest_eq⟩ := inductionHypothesis tails
      exact ⟨rfl, rest_eq⟩

end TemplateTags.Text
