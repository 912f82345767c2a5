import Mathlib.Data.List.Forall2
import TemplateTags.Listing
import TemplateTags.Proofs.Quotation

/-!
# What a listing tells

A listing has one line for each token, and it tells the place, the kind and the value of each: token
lists that differ in one of these have different listings. The fields of a line end at characters
that they do not contain, all but the value, which is quoted. So each line is read on its own, by
`Token.listingLine_append_inj`, whatever lines follow.
-/

namespace TemplateTags

open Text

/-- The name of a kind is one word. -/
theorem Kind.isWord_name (kind : Kind) :
    ' ' ∉ kind.name.toList ∧ '\n' ∉ kind.name.toList := by
  cases kind with
  | opening family => cases family <;> decide
  | closing family => cases family <;> decide
  | punctuation mark => cases mark <;> decide
  | _ => decide

namespace Token

/-- Two tokens look the same in a listing: they agree in all that it tells of them. -/
structure ListsAs (token other : Token) : Prop where
  line : token.span.line = other.span.line
  column : token.span.column = other.span.column
  kind : token.kind = other.kind
  value : token.value = other.value

variable {token other : Token} {rest others : List Char}

/-- The fields of a line with what ends each of them. -/
theorem toList_listingLine (token : Token) :
    token.listingLine.toList =
      Nat.toDigits 10 token.span.line ++ ':' :: (Nat.toDigits 10 token.span.column ++
        ' ' :: (token.kind.name.toList ++ ' ' :: '\x22' ::
          (token.value.toList.flatMap escape ++ '\x22' :: ['\n']))) := by
  simp [listingLine, quote, toString]

/-- The line of a token tells its place, its kind and its value whatever follows. Neither number has
the separator behind it, nor has the name of a kind a space, and the value is quoted. -/
theorem listingLine_append_inj
    (same : token.listingLine.toList ++ rest = other.listingLine.toList ++ others) :
    token.ListsAs other ∧ rest = others := by
  have noColon : ∀ number, ':' ∉ Nat.toDigits 10 number :=
    not_mem_toDigits (by decide) fun _ => Nat.digitChar_ne _ rfl
  have noBlank : ∀ number, ' ' ∉ Nat.toDigits 10 number :=
    not_mem_toDigits (by decide) fun _ => Nat.digitChar_ne _ rfl
  simp only [toList_listingLine, List.append_assoc, List.cons_append, List.nil_append] at same
  obtain ⟨line, same⟩ := append_separator_inj (noColon _) (noColon _) same
  obtain ⟨column, same⟩ := append_separator_inj (noBlank _) (noBlank _) same
  obtain ⟨name, same⟩ := append_separator_inj (Kind.isWord_name _).1 (Kind.isWord_name _).1 same
  obtain ⟨value, same⟩ := quoted_append_inj (List.cons.inj same).2
  refine ⟨⟨?line, ?column, ?kind, ?value⟩, (List.cons.inj same).2⟩
  case line => exact toDigits_injective (by decide) (by decide) line
  case column => exact toDigits_injective (by decide) (by decide) column
  case kind => exact Kind.name_injective (String.toList_injective name)
  case value => exact String.toList_injective value

/-- Tokens that look the same have the same line. -/
theorem ListsAs.listingLine_eq (alike : token.ListsAs other) :
    token.listingLine = other.listingLine := by
  rw [listingLine, listingLine, alike.line, alike.column, alike.kind, alike.value]

/-- The only newline of a line ends it. -/
theorem count_newline_listingLine (token : Token) : token.listingLine.toList.count '\n' = 1 := by
  have noDigit : ∀ number, '\n' ∉ Nat.toDigits 10 number :=
    not_mem_toDigits (by decide) fun _ => Nat.digitChar_ne _ rfl
  have noQuoted : '\n' ∉ token.value.toList.flatMap escape := by
    rw [List.mem_flatMap]
    rintro ⟨char, -, member⟩
    exact (written_escape char).newline_not_mem member
  simp [toList_listingLine, List.count_eq_zero_of_not_mem, noDigit, noQuoted,
    (Kind.isWord_name token.kind).2]

end Token

variable {first second tokens : List Token}

theorem listing_cons (token : Token) (tokens : List Token) :
    listing (token :: tokens) = token.listingLine ++ listing tokens := by
  rw [listing, List.map_cons, String.join_cons, listing]

/-- There is one line for each token. -/
theorem count_newline_listing (tokens : List Token) :
    (listing tokens).toList.count '\n' = tokens.length := by
  induction tokens with
  | nil => rfl
  | cons token tokens inductionHypothesis =>
    rw [listing_cons, String.toList_append, List.count_append, token.count_newline_listingLine,
      inductionHypothesis, List.length_cons, Nat.add_comm]

/-- Tokens that look the same have the same listing. -/
theorem listing_of_forall₂ (alike : List.Forall₂ Token.ListsAs first second) :
    listing first = listing second := by
  induction alike with
  | nil => rfl
  | cons tokenAlike _ inductionHypothesis =>
    rw [listing_cons, listing_cons, tokenAlike.listingLine_eq, inductionHypothesis]

/-- A listing is read line by line. -/
theorem forall₂_of_listing (same : listing first = listing second) :
    List.Forall₂ Token.ListsAs first second := by
  have length_eq : first.length = second.length := by
    rw [← count_newline_listing, same, count_newline_listing]
  induction first generalizing second with
  | nil =>
    obtain rfl := List.length_eq_zero_iff.1 length_eq.symm
    exact .nil
  | cons token first inductionHypothesis =>
    obtain ⟨other, second, rfl⟩ := List.exists_cons_of_length_eq_add_one length_eq.symm
    have texts := congrArg String.toList same
    rw [listing_cons, listing_cons, String.toList_append, String.toList_append] at texts
    obtain ⟨alike, tails⟩ := Token.listingLine_append_inj texts
    have rest := inductionHypothesis (String.toList_injective tails) (Nat.succ.inj length_eq)
    exact .cons alike rest

/-- A listing has as many newlines as there are tokens, and so one line for each. Two lists of
tokens have the same listing exactly if their tokens agree one by one in line, column, kind and
value. -/
theorem listing_lossless :
    (∀ tokens : List Token, (listing tokens).toList.count '\n' = tokens.length) ∧
      ∀ first second : List Token,
        listing first = listing second ↔ List.Forall₂ Token.ListsAs first second := by
  refine ⟨count_newline_listing, fun first second => ⟨?alike, ?same⟩⟩
  case alike => exact forall₂_of_listing
  case same => exact listing_of_forall₂

/-- A value that is escaped, and one that spells the escape. -/
example :
    listing [⟨.unknown, "\u0301", ⟨0, 2, 1, 1⟩⟩, ⟨.string, "\\u\x7b301\x7d", ⟨2, 9, 1, 2⟩⟩] =
      "1:1 UNKNOWN \"\\u\x7b301\x7d\"\n1:2 STRING \"\\\\u\x7b301\x7d\"\n" := by
  decide +kernel

end TemplateTags
