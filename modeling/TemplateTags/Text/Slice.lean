import TemplateTags.Text.Measure

/-!
# Text cut at byte offsets

Offsets into a text count the bytes of its UTF-8 form. Only some of them fall between two
characters; `slice?` cuts there and refuses every other offset. `slice?_eq_some_iff` says that a
slice is exactly the middle part of a way to split the text in three.
-/

namespace TemplateTags.Text

/-- The offset falls between two characters of the text, or at one of its ends. -/
abbrev IsBoundary (source : String) (offset : Nat) : Prop :=
  String.Pos.Raw.IsValid source ⟨offset⟩

/-- The text from byte `start` up to byte `stop`, unless `stop` comes first or an offset is no
boundary. -/
def slice? (source : String) (start stop : Nat) : Option String :=
  if bounds : IsBoundary source start ∧ IsBoundary source stop ∧ start ≤ stop then
    some (source.extract ⟨⟨start⟩, bounds.1⟩ ⟨⟨stop⟩, bounds.2.1⟩)
  else
    none

/-- The text from byte `start` to its end. -/
def sliceFrom? (source : String) (start : Nat) : Option String :=
  slice? source start source.utf8ByteSize

/-- A boundary is where a source can be split in two. -/
theorem isBoundary_iff {source : String} {offset : Nat} :
    IsBoundary source offset ↔
      ∃ before after, source = before ++ after ∧ offset = before.utf8ByteSize := by
  simp [IsBoundary, String.Pos.Raw.isValid_iff_exists_append, String.Pos.Raw.ext_iff]

/-- The byte lengths of two first parts settle which is longer. -/
theorem exists_append_of_utf8ByteSize_le {first second first' second' : String}
    (same : first ++ second = first' ++ second')
    (shorter : first.utf8ByteSize ≤ first'.utf8ByteSize) :
    ∃ middle, first' = first ++ middle ∧ second = middle ++ second' := by
  have sameChars : first.toList ++ second.toList = first'.toList ++ second'.toList := by
    rw [← String.toList_append, ← String.toList_append, same]
  rcases List.append_eq_append_iff.1 sameChars with
    ⟨middle, first_eq, second_eq⟩ | ⟨middle, first_eq, second_eq⟩
  · refine ⟨String.ofList middle, ?_, ?_⟩ <;> apply String.toList_inj.1
    · simpa using first_eq
    · simpa using second_eq
  · have firstText : first = first' ++ String.ofList middle := by
      apply String.toList_inj.1
      simpa using first_eq
    have noBytes : (String.ofList middle).utf8ByteSize = 0 := by
      have := congrArg String.utf8ByteSize firstText
      rw [String.utf8ByteSize_append] at this
      omega
    have noText : String.ofList middle = "" := String.utf8ByteSize_eq_zero_iff.1 noBytes
    refine ⟨"", ?_, ?_⟩
    · rw [firstText, noText]; simp
    · apply String.toList_inj.1
      have noChars : middle = [] := by simpa using noText
      simp [second_eq, noChars]

/-- A part of a text is the slice at its bytes. -/
theorem slice?_append (before text after : String) :
    slice? (before ++ text ++ after) before.utf8ByteSize
      (before.utf8ByteSize + text.utf8ByteSize) = some text := by
  have startBoundary : IsBoundary (before ++ text ++ after) before.utf8ByteSize :=
    isBoundary_iff.2 ⟨before, text ++ after, by simp [String.append_assoc], rfl⟩
  have stopBoundary :
      IsBoundary (before ++ text ++ after) (before.utf8ByteSize + text.utf8ByteSize) :=
    isBoundary_iff.2 ⟨before ++ text, after, rfl, by simp⟩
  simp only [slice?, startBoundary, stopBoundary, true_and, Nat.le_add_right, dite_true,
    Option.some.injEq]
  apply String.toByteArray_inj.1
  simp only [String.extract, String.append_assoc, String.toByteArray_append]
  have skip := ByteArray.extract_append_size_add (a := before.toByteArray)
    (b := text.toByteArray ++ after.toByteArray) (i := 0) (j := text.utf8ByteSize)
  rw [Nat.add_zero] at skip
  exact skip.trans (ByteArray.extract_append_eq_left rfl)

/-- A slice is the middle of a way to split the text in three. -/
theorem slice?_eq_some_iff {source text : String} {start stop : Nat} :
    slice? source start stop = some text ↔
      ∃ before after, source = before ++ text ++ after ∧ start = before.utf8ByteSize ∧
        stop = start + text.utf8ByteSize := by
  constructor
  · intro cut
    have bounds : IsBoundary source start ∧ IsBoundary source stop ∧ start ≤ stop := by
      apply Classical.byContradiction
      intro outside
      simp [slice?, outside] at cut
    obtain ⟨⟨before, rest, source_eq, start_eq⟩, stopBoundary, ordered⟩ :=
      And.imp_left isBoundary_iff.1 bounds
    obtain ⟨before', after, source_eq', stop_eq⟩ := isBoundary_iff.1 stopBoundary
    obtain ⟨middle, before'_eq, -⟩ :=
      exists_append_of_utf8ByteSize_le (source_eq.symm.trans source_eq') (by omega)
    have split : source = before ++ middle ++ after := by rw [source_eq', before'_eq]
    have stopAfterMiddle : stop = before.utf8ByteSize + middle.utf8ByteSize := by
      rw [stop_eq, before'_eq, String.utf8ByteSize_append]
    have sameCut := slice?_append before middle after
    rw [← split, ← start_eq, show start + middle.utf8ByteSize = stop by omega, cut] at sameCut
    obtain rfl : text = middle := by simpa using sameCut
    exact ⟨before, after, split, start_eq, by omega⟩
  · rintro ⟨before, after, rfl, rfl, rfl⟩
    exact slice?_append before text after

/-- Two boundaries in order always have a slice between them. -/
theorem isSome_slice?_iff {source : String} {start stop : Nat} :
    (slice? source start stop).isSome ↔
      IsBoundary source start ∧ IsBoundary source stop ∧ start ≤ stop := by
  by_cases bounds : IsBoundary source start ∧ IsBoundary source stop ∧ start ≤ stop <;>
    simp [slice?, bounds]

/-- A boundary lies in the source, so there is a slice from it to the end. -/
theorem isSome_sliceFrom?_iff {source : String} {start : Nat} :
    (sliceFrom? source start).isSome ↔ IsBoundary source start := by
  rw [sliceFrom?, isSome_slice?_iff]
  constructor
  · exact And.left
  · intro startBoundary
    have stopBoundary : IsBoundary source source.utf8ByteSize :=
      isBoundary_iff.2 ⟨source, "", by simp, rfl⟩
    obtain ⟨before, after, rfl, rfl⟩ := isBoundary_iff.1 startBoundary
    exact ⟨startBoundary, stopBoundary, by simp⟩

/-- There is a slice between two boundaries in order. -/
theorem IsBoundary.exists_slice? {source : String} {start stop : Nat}
    (startBoundary : IsBoundary source start) (stopBoundary : IsBoundary source stop)
    (ordered : start ≤ stop) : ∃ text, slice? source start stop = some text :=
  Option.isSome_iff_exists.1 (isSome_slice?_iff.2 ⟨startBoundary, stopBoundary, ordered⟩)

/-- There is a slice from a boundary to the end. -/
theorem IsBoundary.exists_sliceFrom? {source : String} {start : Nat}
    (boundary : IsBoundary source start) : ∃ text, sliceFrom? source start = some text :=
  Option.isSome_iff_exists.1 (isSome_sliceFrom?_iff.2 boundary)

/-- A slice is empty only where its bounds meet. -/
theorem lt_iff_ne_empty_of_slice? {source text : String} {start stop : Nat}
    (cut : slice? source start stop = some text) : start < stop ↔ text ≠ "" := by
  obtain ⟨_, _, -, -, stop_eq⟩ := slice?_eq_some_iff.1 cut
  rw [stop_eq, ne_eq, ← String.utf8ByteSize_eq_zero_iff]
  omega

theorem sliceFrom?_zero (source : String) : sliceFrom? source 0 = some source :=
  slice?_eq_some_iff.2 ⟨"", "", by simp, rfl, by simp⟩

/-- The middle of characters split in three is the slice between their byte lengths. -/
theorem slice?_of_toList_eq {source : String} {before text after : List Char}
    (split : source.toList = before ++ text ++ after) :
    slice? source (byteLength before) (byteLength before + byteLength text) =
      some (String.ofList text) := by
  refine slice?_eq_some_iff.2 ⟨String.ofList before, String.ofList after, ?_, ?_, ?_⟩
  · apply String.toList_inj.1
    simpa using split
  · rw [utf8ByteSize_ofList]
  · rw [utf8ByteSize_ofList]

/-- A first part of a text is a slice of it. -/
theorem slice?_of_isPrefix {text rest : List Char} (start : text <+: rest) :
    slice? (String.ofList rest) 0 (byteLength text) = some (String.ofList text) := by
  obtain ⟨behind, rfl⟩ := start
  have split : (String.ofList (text ++ behind)).toList = [] ++ text ++ behind := by simp
  simpa using slice?_of_toList_eq split

/-- Slices that meet make up one slice. -/
theorem slice?_append_slice? {source first second : String} {start middle stop : Nat}
    (firstCut : slice? source start middle = some first)
    (secondCut : slice? source middle stop = some second) :
    slice? source start stop = some (first ++ second) := by
  obtain ⟨before, rest, source_eq, start_eq, middle_eq⟩ := slice?_eq_some_iff.1 firstCut
  obtain ⟨before', after, source_eq', middle_eq', stop_eq⟩ := slice?_eq_some_iff.1 secondCut
  have same : before ++ first ++ rest = before' ++ (second ++ after) := by
    rw [← String.append_assoc, ← source_eq, ← source_eq']
  obtain ⟨between, before'_eq, rest_eq⟩ :=
    exists_append_of_utf8ByteSize_le same (by rw [String.utf8ByteSize_append]; omega)
  have noBytes : between.utf8ByteSize = 0 := by
    have lengths := congrArg String.utf8ByteSize before'_eq
    rw [String.utf8ByteSize_append, String.utf8ByteSize_append] at lengths
    omega
  obtain rfl : between = "" := String.utf8ByteSize_eq_zero_iff.1 noBytes
  refine slice?_eq_some_iff.2 ⟨before, after, ?_, start_eq, ?_⟩
  · rw [source_eq, rest_eq]
    simp [String.append_assoc]
  · rw [String.utf8ByteSize_append]
    omega

/-- A slice that is two texts is cut where they meet. -/
theorem slice?_of_slice?_append {source first second : String} {start stop : Nat}
    (cut : slice? source start stop = some (first ++ second)) :
    slice? source start (start + first.utf8ByteSize) = some first ∧
      slice? source (start + first.utf8ByteSize) stop = some second := by
  obtain ⟨before, after, source_eq, start_eq, stop_eq⟩ := slice?_eq_some_iff.1 cut
  rw [String.utf8ByteSize_append] at stop_eq
  constructor
  · refine slice?_eq_some_iff.2 ⟨before, second ++ after, ?_, start_eq, rfl⟩
    simp [source_eq, String.append_assoc]
  · refine slice?_eq_some_iff.2 ⟨before ++ first, after, ?_, ?_, by omega⟩
    · simp [source_eq, String.append_assoc]
    · rw [String.utf8ByteSize_append, start_eq]

end TemplateTags.Text
