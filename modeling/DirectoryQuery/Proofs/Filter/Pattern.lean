/-
Module: DirectoryQuery.Proofs.Filter.Pattern
Purpose: What the pieces of a pattern are, said without the functions that find them: texts without
  wildcards, with one or more wildcards between each two of them and something in every inner one.
  Splitting a pattern finds just these pieces.
Main exports:
  PatternPieces, PatternPieces.inner_ne_nil, patternPieces_iff
-/
import DirectoryQuery.Filter.Assertion

namespace DirectoryQuery

open Text

/-- The pieces of a pattern, the first and the others.  What follows a run of wildcards starts with
no further one: the next piece is not empty, or it is the last and nothing follows the run. -/
inductive PatternPieces : List Char → List Char → List (List Char) → Prop where
  | whole {piece : List Char} (plain : wildcard ∉ piece) : PatternPieces piece piece []
  | next {piece rest following : List Char} {others : List (List Char)} (plain : wildcard ∉ piece)
      (more : Nat) (pieces : PatternPieces rest following others)
      (ended : following ≠ [] ∨ others = []) :
      PatternPieces (piece ++ List.replicate (more + 1) wildcard ++ rest) piece
        (following :: others)

namespace PatternPieces

/-- An ordinary character belongs to the first piece. -/
theorem cons {c : Char} {pattern first : List Char} {others : List (List Char)}
    (ordinary : c ≠ wildcard) (pieces : PatternPieces pattern first others) :
    PatternPieces (c :: pattern) (c :: first) others := by
  have stillPlain : ∀ {piece : List Char}, wildcard ∉ piece → wildcard ∉ c :: piece := by
    intro piece plain found
    rcases List.mem_cons.1 found with same | found
    · exact ordinary same.symm
    · exact plain found
  cases pieces with
  | whole plain => exact .whole (stillPlain plain)
  | next plain more inner ended => exact .next (stillPlain plain) more inner ended

/-- Nothing precedes a wildcard at the front, and something follows it. -/
theorem of_wildcard {pattern first : List Char} {others : List (List Char)}
    (pieces : PatternPieces (wildcard :: pattern) first others) : first = [] ∧ others ≠ [] := by
  generalize same : wildcard :: pattern = source at pieces
  cases pieces with
  | whole plain =>
      rw [← same] at plain
      exact absurd List.mem_cons_self plain
  | next plain more inner ended =>
      refine ⟨?_, List.cons_ne_nil _ _⟩
      cases first with
      | nil => rfl
      | cons c piece =>
          injection same with head
          rw [← head] at plain
          exact absurd List.mem_cons_self plain

/-- A further wildcard at the front changes no pieces. -/
theorem wildcard_cons {pattern first : List Char} {others : List (List Char)}
    (pieces : PatternPieces (wildcard :: pattern) first others) :
    PatternPieces (wildcard :: wildcard :: pattern) first others := by
  obtain ⟨rfl, -⟩ := pieces.of_wildcard
  generalize same : wildcard :: pattern = source at pieces
  cases pieces with
  | whole plain => cases same
  | next plain more inner ended => exact .next plain (more + 1) inner ended

/-- If the first piece is empty, the pattern is so, too, or starts with a wildcard. -/
theorem of_nil {pattern : List Char} {others : List (List Char)}
    (pieces : PatternPieces pattern [] others) :
    pattern = [] ∧ others = [] ∨ ∃ rest, pattern = wildcard :: rest := by
  cases pieces with
  | whole plain => exact .inl ⟨rfl, rfl⟩
  | next plain more inner ended => exact .inr ⟨_, rfl⟩

/-- Every piece between two wildcards holds something. -/
theorem inner_ne_nil {pattern first : List Char} {others : List (List Char)}
    (pieces : PatternPieces pattern first others) : ∀ piece ∈ others.dropLast, piece ≠ [] := by
  induction pieces with
  | whole plain =>
      intro piece found
      cases found
  | @next piece rest following others plain more inner ended ih =>
      intro piece found
      cases others with
      | nil => cases found
      | cons other others =>
          rw [List.dropLast_cons_cons] at found
          rcases List.mem_cons.1 found with rfl | later
          · exact ended.resolve_right (List.cons_ne_nil _ _)
          · exact ih piece later

end PatternPieces

/-! ### Finding the pieces -/

theorem splitPattern_cons_ordinary {c : Char} (ordinary : c ≠ wildcard) (rest : List Char) :
    splitPattern (c :: rest) = (c :: (splitPattern rest).1, (splitPattern rest).2) := by
  simp [splitPattern, collapseWildcards, ordinary, split]

theorem splitPattern_wildcard_wildcard (rest : List Char) :
    splitPattern (wildcard :: wildcard :: rest) = splitPattern (wildcard :: rest) := by
  rw [splitPattern, collapseWildcards, if_pos ⟨rfl, rfl⟩, splitPattern]

theorem splitPattern_wildcard_ordinary {rest : List Char} (ended : rest.head? ≠ some wildcard) :
    splitPattern (wildcard :: rest) =
      ([], (splitPattern rest).1 :: (splitPattern rest).2) := by
  simp [splitPattern, collapseWildcards, ended, split]

/-- What splitting a pattern finds are its pieces. -/
theorem patternPieces_splitPattern (pattern : List Char) :
    PatternPieces pattern (splitPattern pattern).1 (splitPattern pattern).2 := by
  induction pattern with
  | nil => exact .whole (List.not_mem_nil)
  | cons c rest ih =>
      by_cases ordinary : c = wildcard
      · subst ordinary
        by_cases again : rest.head? = some wildcard
        · obtain ⟨more, rfl⟩ := List.head?_eq_some_iff.1 again
          rw [splitPattern_wildcard_wildcard]
          exact ih.wildcard_cons
        · rw [splitPattern_wildcard_ordinary again]
          have ended : (splitPattern rest).1 ≠ [] ∨ (splitPattern rest).2 = [] := by
            by_cases empty : (splitPattern rest).1 = []
            · rw [empty] at ih
              rcases ih.of_nil with ⟨-, none⟩ | ⟨more, same⟩
              · exact .inr none
              · exact absurd (by rw [same]; rfl) again
            · exact .inl empty
          exact @PatternPieces.next [] rest _ _ List.not_mem_nil 0 ih ended
      · rw [splitPattern_cons_ordinary ordinary]
        exact ih.cons ordinary

theorem splitPattern_append_ordinary {piece : List Char} (plain : wildcard ∉ piece)
    (rest : List Char) :
    splitPattern (piece ++ rest) = (piece ++ (splitPattern rest).1, (splitPattern rest).2) := by
  induction piece with
  | nil => rfl
  | cons c piece ih =>
      rw [List.mem_cons, not_or] at plain
      rw [List.cons_append, splitPattern_cons_ordinary (Ne.symm plain.1), ih plain.2]
      rfl

theorem splitPattern_run {rest : List Char} (ended : rest.head? ≠ some wildcard) (more : Nat) :
    splitPattern (List.replicate (more + 1) wildcard ++ rest) =
      ([], (splitPattern rest).1 :: (splitPattern rest).2) := by
  induction more with
  | zero => exact splitPattern_wildcard_ordinary ended
  | succ more ih =>
      rw [List.replicate_succ, List.cons_append] at ih ⊢
      rw [List.replicate_succ, List.cons_append, splitPattern_wildcard_wildcard, ih]

/-- A pattern has no pieces but those that splitting it finds. -/
theorem patternPieces_iff {pattern first : List Char} {others : List (List Char)} :
    PatternPieces pattern first others ↔ splitPattern pattern = (first, others) := by
  constructor
  · intro pieces
    induction pieces with
    | @whole piece plain =>
        have parts := splitPattern_append_ordinary plain []
        rw [List.append_nil] at parts
        rw [parts]
        simp [splitPattern, collapseWildcards, split]
    | @next piece rest following others plain more inner ended ih =>
        have stopped : rest.head? ≠ some wildcard := by
          intro again
          obtain ⟨tail, rfl⟩ := List.head?_eq_some_iff.1 again
          obtain ⟨empty, further⟩ := inner.of_wildcard
          exact ended.elim (absurd empty) fun none => further none
        rw [List.append_assoc, splitPattern_append_ordinary plain, splitPattern_run stopped, ih]
        simp
  · intro parts
    have pieces := patternPieces_splitPattern pattern
    rw [parts] at pieces
    exact pieces

end DirectoryQuery
