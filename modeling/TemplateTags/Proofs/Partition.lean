import TemplateTags.Proofs.Places

/-!
# Tokens as parts of the source

The tokens of a scan part the source: into themselves and the text that no token covers. Put
together again, the parts are the source. `PiecesFrom` is what this takes, and it is all that it
takes: where the tokens come from does not matter.
-/

namespace TemplateTags

open Text

/-- From an offset on, the tokens are pieces of the source, each behind the one before. -/
structure PiecesFrom (source : String) (reached : Nat) (tokens : List Token) : Prop where
  boundary : IsBoundary source reached
  behind : ∀ token ∈ tokens, reached ≤ token.span.start
  cut : ∀ token ∈ tokens, slice? source token.span.start token.span.stop = some token.value
  ordered : tokens.Pairwise fun first second => first.span.stop ≤ second.span.start

namespace PiecesFrom

variable {source : String} {reached : Nat} {token : Token}

/-- A piece of the source starts and stops on its boundaries. -/
theorem bounds {tokens : List Token} (pieces : PiecesFrom source reached tokens)
    (member : token ∈ tokens) :
    IsBoundary source token.span.start ∧ IsBoundary source token.span.stop ∧
      token.span.start ≤ token.span.stop :=
  isSome_slice?_iff.1 (Option.isSome_of_eq_some (pieces.cut token member))

/-- What follows a token are pieces from the end of that token on. -/
theorem tail (before : List Token) {after : List Token}
    (pieces : PiecesFrom source reached (before ++ token :: after)) :
    PiecesFrom source token.span.stop after := by
  have ordered := List.pairwise_cons.1 (List.pairwise_append.1 pieces.ordered).2.1
  refine ⟨(pieces.bounds (by simp)).2.1, ordered.1, ?_, ordered.2⟩
  intro later member
  exact pieces.cut later (by simp [member])

/-- There is a text, though it may be empty, up to any of the tokens. -/
theorem exists_gap {tokens : List Token} (pieces : PiecesFrom source reached tokens)
    (member : token ∈ tokens) : ∃ text, slice? source reached token.span.start = some text :=
  pieces.boundary.exists_slice? (pieces.bounds member).1 (pieces.behind token member)

/-- There is a text from the offset to the end of the source. -/
theorem exists_rest {tokens : List Token} (pieces : PiecesFrom source reached tokens) :
    ∃ text, sliceFrom? source reached = some text :=
  pieces.boundary.exists_sliceFrom?

/-- The tokens and the text between them make up the source from the offset on. -/
theorem exists_piecesFrom? {tokens : List Token} (pieces : PiecesFrom source reached tokens) :
    ∃ parts, Scan.piecesFrom? source reached tokens = some parts ∧
      sliceFrom? source reached = some (String.join parts) := by
  induction tokens generalizing reached with
  | nil =>
    obtain ⟨rest, cut⟩ := pieces.exists_rest
    exact ⟨[rest], by simp [Scan.piecesFrom?, cut], by simp [cut]⟩
  | cons token tokens inductionHypothesis =>
    obtain ⟨gap, gapCut⟩ := pieces.exists_gap (List.mem_cons_self ..)
    obtain ⟨following, found, restCut⟩ := inductionHypothesis (pieces.tail [])
    have valueCut := pieces.cut token (List.mem_cons_self ..)
    refine ⟨gap :: token.value :: following, by simp [Scan.piecesFrom?, gapCut, found], ?_⟩
    rw [String.join_cons, String.join_cons]
    exact slice?_append_slice? gapCut (slice?_append_slice? valueCut restCut)

end PiecesFrom

/-- The tokens of a run are pieces of the source from its beginning on. -/
theorem Scanner.Placed.pieces {source : String} {tokens : List Token} {state : State}
    (placed : Placed source tokens state) : PiecesFrom source 0 tokens where
  boundary := String.Pos.Raw.isValid_zero
  behind := by simp
  cut token member := (placed.faithful token member).value
  ordered := placed.ordered

/-- The tokens of a scan are nonempty pieces of the source that do not overlap, in order, and the
source can be put together from them and the text between them. -/
theorem partition_of_scan {options : Options} {source : String} {result : Scan}
    (scanned : scan options source = .ok result) :
    (∀ token ∈ result.tokens,
        token.span.start < token.span.stop ∧ IsBoundary source token.span.start ∧
          IsBoundary source token.span.stop ∧ token.span.stop ≤ source.utf8ByteSize ∧
            slice? source token.span.start token.span.stop = some token.value) ∧
      result.tokens.Pairwise (fun first second => first.span.stop ≤ second.span.start) ∧
        result.reassemble? = some source := by
  obtain ⟨rfl, scanner, count, state, -, steps, -⟩ := exists_steps_of_scan scanned
  have placed := Scanner.placed_of_steps steps
  have pieces := placed.pieces
  refine ⟨?_, placed.ordered, ?_⟩
  · intro token member
    obtain ⟨startBoundary, stopBoundary, -⟩ := pieces.bounds member
    obtain ⟨before, after, source_eq, stop_eq⟩ := isBoundary_iff.1 stopBoundary
    refine ⟨placed.nonempty token member, startBoundary, stopBoundary, ?_,
      pieces.cut token member⟩
    rw [source_eq, String.utf8ByteSize_append]
    omega
  · obtain ⟨parts, found, whole⟩ := pieces.exists_piecesFrom?
    rw [sliceFrom?_zero] at whole
    rw [Scan.reassemble?, found, Option.map_some, ← whole]

/-- Delimiters of characters of two bytes, with one of them inside a string. -/
theorem partition_of_scan_two_bytes :
    scan { block := ⟨"«", "»»"⟩ } "é«'»»' -»»" =
        .ok ⟨"é«'»»' -»»",
          [⟨.opening .block, "«", ⟨2, 4, 1, 2⟩⟩, ⟨.string, "'»»'", ⟨4, 10, 1, 3⟩⟩,
            ⟨.whitespace, " ", ⟨10, 11, 1, 7⟩⟩, ⟨.closing .block, "-»»", ⟨11, 16, 1, 8⟩⟩]⟩ ∧
      Scan.reassemble? ⟨"é«'»»' -»»",
          [⟨.opening .block, "«", ⟨2, 4, 1, 2⟩⟩, ⟨.string, "'»»'", ⟨4, 10, 1, 3⟩⟩,
            ⟨.whitespace, " ", ⟨10, 11, 1, 7⟩⟩, ⟨.closing .block, "-»»", ⟨11, 16, 1, 8⟩⟩]⟩ =
        some "é«'»»' -»»" := by
  refine ⟨?scanned, (partition_of_scan ?scanned).2.2⟩
  decide +kernel

end TemplateTags
