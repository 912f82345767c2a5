import TemplateTags.Proofs.Layout

/-!
# Putting tokens together

A source is put together from any tokens, not only from those of a scan, if their spans follow one
another in it. `Scan.Fits` says what that takes and `Scan.isSome_reassemble?_iff` that it takes
nothing else. What comes out is the gaps and the values by turns, by `Scan.reassemble?_eq`. So it is
the source itself if every value is what its span cuts out of it, and if no value is longer or
shorter than its span, only then.

`FitsFrom` is the same from any offset on: each start is looked at as the end of the gap before it
and each end as the beginning of the next gap, so the offset reached must be a boundary already.
-/

namespace TemplateTags

open Text

/-- From an offset on, the spans of the tokens lie in the source, each behind the one before. -/
structure FitsFrom (source : String) (reached : Nat) (tokens : List Token) : Prop where
  boundary : IsBoundary source reached
  bounds : ∀ token ∈ tokens,
    IsBoundary source token.span.start ∧ IsBoundary source token.span.stop
  behind : ∀ first ∈ tokens.head?, reached ≤ first.span.start
  ordered : tokens.IsChain fun first second => first.span.stop ≤ second.span.start

namespace FitsFrom

variable {source : String} {reached : Nat} {token : Token} {tokens : List Token}

theorem nil_iff : FitsFrom source reached [] ↔ IsBoundary source reached :=
  ⟨fun fits => fits.boundary, fun boundary => ⟨boundary, by simp, by simp, .nil⟩⟩

/-- There is a gap up to the first token, and the others fit from the end of that token on. -/
theorem cons_iff :
    FitsFrom source reached (token :: tokens) ↔
      (slice? source reached token.span.start).isSome ∧
        FitsFrom source token.span.stop tokens := by
  rw [isSome_slice?_iff]
  constructor
  · intro fits
    obtain ⟨⟨startBoundary, stopBoundary⟩, bounds⟩ := List.forall_mem_cons.1 fits.bounds
    obtain ⟨behind, ordered⟩ := List.isChain_cons.1 fits.ordered
    exact ⟨⟨fits.boundary, startBoundary, fits.behind token rfl⟩, stopBoundary, bounds, behind,
      ordered⟩
  · rintro ⟨⟨boundary, startBoundary, behind⟩, fits⟩
    refine ⟨boundary, ?_, by simpa using behind, ?_⟩
    · exact List.forall_mem_cons.2 ⟨⟨startBoundary, fits.boundary⟩, fits.bounds⟩
    · exact List.isChain_cons.2 ⟨fits.behind, fits.ordered⟩

end FitsFrom

namespace Scan

/-- The spans of the tokens follow one another in the source, and all of their ends are boundaries
of it. -/
structure Fits (scan : Scan) : Prop where
  ordered : scan.tokens.IsChain fun first second => first.span.stop ≤ second.span.start
  inside : ∀ last ∈ scan.tokens.getLast?, last.span.stop ≤ scan.source.utf8ByteSize
  starts : ∀ token ∈ scan.tokens, IsBoundary scan.source token.span.start
  stops : ∀ token ∈ scan.tokens, IsBoundary scan.source token.span.stop

/-- The text before the first token, between the tokens and behind the last one. -/
def gaps? (scan : Scan) : Option (List String) :=
  (List.zipWith (slice? scan.source) (0 :: scan.tokens.map (·.span.stop))
    (scan.tokens.map (·.span.start) ++ [scan.source.utf8ByteSize])).mapM id

variable {source : String} {reached : Nat} {token : Token} {tokens : List Token}

/-- Behind the last token there is one piece, up to the end of the source. -/
theorem piecesFrom?_nil_eq_some_iff {parts : List String} :
    piecesFrom? source reached [] = some parts ↔
      ∃ rest, sliceFrom? source reached = some rest ∧ [rest] = parts := by
  simp [piecesFrom?, Option.bind_eq_some_iff]

/-- A token adds the gap up to it and its value, and the pieces go on from where it stops. -/
theorem piecesFrom?_cons_eq_some_iff {parts : List String} :
    piecesFrom? source reached (token :: tokens) = some parts ↔
      ∃ gap, slice? source reached token.span.start = some gap ∧
        ∃ following, piecesFrom? source token.span.stop tokens = some following ∧
          gap :: token.value :: following = parts := by
  simp [piecesFrom?, Option.bind_eq_some_iff]

/-- Tokens are put together exactly if they fit. -/
theorem isSome_piecesFrom?_iff :
    (piecesFrom? source reached tokens).isSome ↔ FitsFrom source reached tokens := by
  induction tokens generalizing reached with
  | nil =>
    rw [FitsFrom.nil_iff, ← isSome_sliceFrom?_iff]
    simp [Option.isSome_iff_exists, piecesFrom?_nil_eq_some_iff]
  | cons token tokens inductionHypothesis =>
    rw [FitsFrom.cons_iff, ← inductionHypothesis]
    simp [Option.isSome_iff_exists, piecesFrom?_cons_eq_some_iff]

/-- The pieces are the gaps and the values by turns. -/
theorem piecesFrom?_eq :
    piecesFrom? source reached tokens =
      ((List.zipWith (slice? source) (reached :: tokens.map (·.span.stop))
        (tokens.map (·.span.start) ++ [source.utf8ByteSize])).mapM id).map
          (interleave · (tokens.map (·.value))) := by
  induction tokens generalizing reached with
  | nil =>
    cases rest : sliceFrom? source reached <;> simp_all [piecesFrom?, sliceFrom?, interleave]
  | cons token tokens inductionHypothesis =>
    rw [piecesFrom?, inductionHypothesis]
    simp [interleave, Option.map_eq_bind, Option.bind_assoc]

/-- If each value is as long as its span, the pieces make up the source exactly where each value is
what its span cuts out. -/
theorem join_eq_sliceFrom?_iff {parts : List String}
    (found : piecesFrom? source reached tokens = some parts)
    (sized : ∀ token ∈ tokens, token.span.start + token.value.utf8ByteSize = token.span.stop) :
    sliceFrom? source reached = some (String.join parts) ↔
      ∀ token ∈ tokens, slice? source token.span.start token.span.stop = some token.value := by
  induction tokens generalizing reached parts with
  | nil =>
    obtain ⟨rest, cut, rfl⟩ := piecesFrom?_nil_eq_some_iff.1 found
    simp [cut]
  | cons token tokens inductionHypothesis =>
    obtain ⟨gap, gapCut, following, foundRest, rfl⟩ := piecesFrom?_cons_eq_some_iff.1 found
    obtain ⟨tokenSized, othersSized⟩ := List.forall_mem_cons.1 sized
    obtain ⟨-, -, -, -, start_eq⟩ := slice?_eq_some_iff.1 gapCut
    rw [List.forall_mem_cons, ← inductionHypothesis foundRest othersSized, String.join_cons,
      String.join_cons]
    constructor
    · intro whole
      obtain ⟨-, behindGap⟩ := slice?_of_slice?_append whole
      rw [← start_eq] at behindGap
      obtain ⟨valueCut, rest⟩ := slice?_of_slice?_append behindGap
      rw [tokenSized] at valueCut rest
      exact ⟨valueCut, rest⟩
    · rintro ⟨valueCut, restCut⟩
      exact slice?_append_slice? gapCut (slice?_append_slice? valueCut restCut)

variable {scan : Scan}

/-- The tokens of a scan fit its source if they do from its first byte on. That the last one stops
within the source is said by its boundary. -/
theorem fits_iff : scan.Fits ↔ FitsFrom scan.source 0 scan.tokens := by
  constructor
  · intro fits
    refine ⟨?_, fun token member => ⟨fits.starts token member, fits.stops token member⟩, ?_,
      fits.ordered⟩
    · exact String.Pos.Raw.isValid_zero
    · simp
  · intro fits
    refine ⟨fits.ordered, ?_, fun token member => (fits.bounds token member).1,
      fun token member => (fits.bounds token member).2⟩
    intro last isLast
    exact (fits.bounds last (List.mem_of_getLast? isLast)).2.le_utf8ByteSize

/-- The source is put together from tokens that fit, and from no others. -/
theorem isSome_reassemble?_iff : scan.reassemble?.isSome ↔ scan.Fits := by
  rw [reassemble?, Option.isSome_map, isSome_piecesFrom?_iff, fits_iff]

/-- What is put together is the gaps and the values by turns. -/
theorem reassemble?_eq :
    scan.reassemble? =
      scan.gaps?.map fun gaps => String.join (interleave gaps (scan.tokens.map (·.value))) := by
  rw [reassemble?, piecesFrom?_eq, Option.map_map]
  rfl

end Scan

/-- A source is put together from tokens exactly if their spans follow one another in it. The result
is then the gaps and the values by turns. If each value is as long as its span, that is the source
exactly where each value is what its span cuts out. -/
theorem reassemble?_accepts_iff_fits (scan : Scan) :
    (scan.reassemble?.isSome ↔ scan.Fits) ∧
      ∀ whole, scan.reassemble? = some whole →
        (∃ gaps, scan.gaps? = some gaps ∧
          whole = String.join (interleave gaps (scan.tokens.map (·.value)))) ∧
        ((∀ token ∈ scan.tokens, token.span.start ≤ token.span.stop ∧
            token.value.utf8ByteSize = token.span.length) →
          (whole = scan.source ↔ ∀ token ∈ scan.tokens,
            slice? scan.source token.span.start token.span.stop = some token.value)) := by
  refine ⟨Scan.isSome_reassemble?_iff, ?_⟩
  intro whole reassembled
  constructor
  case left =>
    rw [Scan.reassemble?_eq, Option.map_eq_some_iff] at reassembled
    obtain ⟨gaps, found, rfl⟩ := reassembled
    exact ⟨gaps, found, rfl⟩
  case right =>
    intro lengths
    have sized : ∀ token ∈ scan.tokens,
        token.span.start + token.value.utf8ByteSize = token.span.stop := by
      intro token member
      obtain ⟨forward, length_eq⟩ := lengths token member
      rw [length_eq, Span.length]
      omega
    obtain ⟨parts, found, rfl⟩ := Option.map_eq_some_iff.1 reassembled
    rw [← Scan.join_eq_sliceFrom?_iff found sized, sliceFrom?_zero, Option.some.injEq, eq_comm]

/-- A value that is exchanged for another of the same length behind a character of two bytes, and
a span that starts in that character. -/
theorem reassemble?_accepts_iff_fits_exchanged :
    let opening : Token := ⟨.opening .var, "<", ⟨2, 3, 1, 2⟩⟩
    let closing : Token := ⟨.closing .var, ">", ⟨4, 5, 1, 4⟩⟩
    let scan : Scan := ⟨"é<a>", [opening, ⟨.symbol, "b", ⟨3, 4, 1, 3⟩⟩, closing]⟩
    let broken : Scan := ⟨"é<a>", [⟨.symbol, "b", ⟨1, 4, 1, 1⟩⟩, closing]⟩
    (scan.reassemble? = some "é<b>" ∧ scan.Fits) ∧
      (broken.reassemble? = none ∧ ¬ broken.Fits) ∧
      (∃ gaps, scan.gaps? = some gaps ∧
        "é<b>" = String.join (interleave gaps (scan.tokens.map (·.value)))) ∧
      (∀ token ∈ scan.tokens, token.span.start ≤ token.span.stop ∧
        token.value.utf8ByteSize = token.span.length) ∧
      ("é<b>" = scan.source ↔ ∀ token ∈ scan.tokens,
        slice? scan.source token.span.start token.span.stop = some token.value) := by
  intro opening closing scan broken
  have reassembled : scan.reassemble? = some "é<b>" := by
    decide +kernel
  have refused : broken.reassemble? = none := by
    decide +kernel
  have lengths : ∀ token ∈ scan.tokens, token.span.start ≤ token.span.stop ∧
      token.value.utf8ByteSize = token.span.length := by
    decide
  obtain ⟨exactly, result⟩ := reassemble?_accepts_iff_fits scan
  obtain ⟨gaps, only⟩ := result _ reassembled
  refine ⟨⟨reassembled, exactly.1 (by rw [reassembled]; rfl)⟩, ⟨refused, ?_⟩, gaps, lengths,
    only lengths⟩
  intro fits
  have accepted := (reassemble?_accepts_iff_fits broken).1.2 fits
  rw [refused] at accepted
  cases accepted

end TemplateTags
