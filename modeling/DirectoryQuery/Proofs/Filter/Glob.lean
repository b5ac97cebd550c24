/-
Module: DirectoryQuery.Proofs.Filter.Glob
Purpose: The texts that a pattern finds.  In a pattern each wildcard stands for any text and every
  other character for itself.  A directory knows only octets, and the pieces between the wildcards of
  an escaped value; what it finds for an escaped pattern are just the texts that match the pattern.
Main exports:
  Glob, InOrder, DirectoryFilter.Pieces.Accepts, PatternPieces.glob_iff, inOrder_utf8_iff,
  glob_iff_accepts
-/
import DirectoryQuery.Proofs.Filter.Notation
import DirectoryQuery.Proofs.Filter.Pattern
import Mathlib.Data.List.Basic

namespace DirectoryQuery

open Text

/-! ### Patterns and pieces -/

/-- The texts that match a pattern. -/
inductive Glob : List Char → List Char → Prop where
  | nil : Glob [] []
  | ordinary {c : Char} {pattern text : List Char} (plain : c ≠ wildcard)
      (tail : Glob pattern text) : Glob (c :: pattern) (c :: text)
  | wildcard {pattern text : List Char} (gap : List Char) (tail : Glob pattern text) :
      Glob (wildcard :: pattern) (gap ++ text)

/-- The sequences in which pieces stand in their order and without overlap, the first of them at the
front and the last at the end. -/
inductive InOrder {α : Type} : List α → List (List α) → List α → Prop where
  | whole (piece : List α) : InOrder piece [] piece
  | next {following rest : List α} {others : List (List α)} (piece gap : List α)
      (later : InOrder following others rest) :
      InOrder piece (following :: others) (piece ++ gap ++ rest)

namespace InOrder

variable {α : Type} {piece following value : List α} {others : List (List α)}

theorem nil_iff : InOrder piece [] value ↔ value = piece := by
  constructor
  · rintro ⟨⟩
    rfl
  · rintro rfl
    exact .whole _

theorem cons_iff :
    InOrder piece (following :: others) value ↔
      ∃ gap rest, value = piece ++ gap ++ rest ∧ InOrder following others rest := by
  constructor
  · intro stands
    cases stands with
    | next _ gap later => exact ⟨gap, _, rfl, later⟩
  · rintro ⟨gap, rest, rfl, later⟩
    exact .next piece gap later

/-- The first piece stands at the front, and a single piece is all there is. -/
theorem exists_eq_append (stands : InOrder piece others value) :
    ∃ tail, value = piece ++ tail ∧ (others = [] → tail = []) := by
  cases stands with
  | whole => exact ⟨[], by simp, fun _ => rfl⟩
  | @next _ rest _ _ gap later =>
      refine ⟨gap ++ rest, by simp, ?_⟩
      intro none
      exact absurd none (List.cons_ne_nil _ _)

/-- Without pieces but two empty ones nothing is asked for. -/
theorem anything (value : List α) : InOrder [] [[]] value :=
  cons_iff.2 ⟨value, [], by simp, .whole []⟩

end InOrder

namespace Glob

variable {pattern text : List Char}

theorem nil_iff : Glob [] text ↔ text = [] := by
  constructor
  · rintro ⟨⟩
    rfl
  · rintro rfl
    exact .nil

theorem ordinary_iff {c : Char} (plain : c ≠ DirectoryQuery.wildcard) :
    Glob (c :: pattern) text ↔ ∃ rest, text = c :: rest ∧ Glob pattern rest := by
  constructor
  · intro found
    cases found with
    | ordinary _ tail => exact ⟨_, rfl, tail⟩
    | wildcard gap tail => exact absurd rfl plain
  · rintro ⟨rest, rfl, tail⟩
    exact .ordinary plain tail

theorem wildcard_iff :
    Glob (DirectoryQuery.wildcard :: pattern) text ↔
      ∃ gap rest, text = gap ++ rest ∧ Glob pattern rest := by
  constructor
  · intro found
    cases found with
    | ordinary plain _ => exact absurd rfl plain
    | wildcard gap tail => exact ⟨gap, _, rfl, tail⟩
  · rintro ⟨gap, rest, rfl, tail⟩
    exact .wildcard gap tail

/-- A text without wildcards at the front of a pattern stands for itself. -/
theorem append_iff {piece : List Char} (plain : DirectoryQuery.wildcard ∉ piece) :
    Glob (piece ++ pattern) text ↔ ∃ rest, text = piece ++ rest ∧ Glob pattern rest := by
  induction piece generalizing text with
  | nil => simp
  | cons c piece ih =>
      rw [List.mem_cons, not_or] at plain
      rw [List.cons_append, ordinary_iff (Ne.symm plain.1)]
      constructor
      · rintro ⟨between, rfl, found⟩
        obtain ⟨rest, rfl, tail⟩ := (ih plain.2).1 found
        exact ⟨rest, rfl, tail⟩
      · rintro ⟨rest, rfl, found⟩
        exact ⟨piece ++ rest, rfl, (ih plain.2).2 ⟨rest, rfl, found⟩⟩

/-- A run of wildcards stands for the same as a single one. -/
theorem run_iff (more : Nat) :
    Glob (List.replicate (more + 1) DirectoryQuery.wildcard ++ pattern) text ↔
      ∃ gap rest, text = gap ++ rest ∧ Glob pattern rest := by
  induction more generalizing text with
  | zero => exact wildcard_iff
  | succ more ih =>
      rw [List.replicate_succ, List.cons_append, wildcard_iff]
      constructor
      · rintro ⟨gap, between, rfl, found⟩
        obtain ⟨further, rest, rfl, tail⟩ := ih.1 found
        exact ⟨gap ++ further, rest, by simp, tail⟩
      · rintro ⟨gap, rest, rfl, found⟩
        exact ⟨gap, rest, rfl, ih.2 ⟨[], rest, rfl, found⟩⟩

end Glob

/-- A text matches a pattern just if the pieces of the pattern stand in it, in their order. -/
theorem PatternPieces.glob_iff {pattern first text : List Char} {others : List (List Char)}
    (pieces : PatternPieces pattern first others) :
    Glob pattern text ↔ InOrder first others text := by
  induction pieces generalizing text with
  | @whole piece plain =>
      have alone : Glob (piece ++ []) text ↔ text = piece := by
        rw [Glob.append_iff plain]
        simp [Glob.nil_iff]
      rw [List.append_nil] at alone
      rw [alone, InOrder.nil_iff]
  | @next piece rest following others plain more inner ended ih =>
      rw [List.append_assoc, Glob.append_iff plain, InOrder.cons_iff]
      constructor
      · rintro ⟨between, rfl, found⟩
        obtain ⟨gap, tail, rfl, later⟩ := (Glob.run_iff more).1 found
        exact ⟨gap, tail, by simp, ih.1 later⟩
      · rintro ⟨gap, tail, rfl, stands⟩
        refine ⟨gap ++ tail, by simp, ?_⟩
        exact (Glob.run_iff more).2 ⟨gap, tail, rfl, ih.2 stands⟩

/-! ### Octets -/

/-- A character that begins within another one begins with it. -/
theorem eq_nil_of_utf8EncodeChar_eq {c first : Char} {gap between octets rest : List UInt8}
    (here : String.utf8EncodeChar c = gap ++ between) (some : between ≠ [])
    (later : String.utf8EncodeChar first ++ octets = between ++ rest) : gap = [] := by
  obtain ⟨octet, more, rfl⟩ := List.exists_cons_of_ne_nil some
  obtain ⟨octet', more', headed⟩ := List.exists_cons_of_ne_nil (@String.utf8EncodeChar_ne_nil first)
  have starts : octet.IsUTF8FirstByte := by
    have head := @UInt8.isUTF8FirstByte_getElem_zero_utf8EncodeChar first
    rw [headed, List.cons_append, List.cons_append, List.cons.injEq] at later
    simpa [headed, later.1] using head
  have inside : gap.length < (String.utf8EncodeChar c).length := by simp [here]
  have same : (String.utf8EncodeChar c)[gap.length] = octet := by simp [here]
  rw [← same, UInt8.isUTF8FirstByte_getElem_utf8EncodeChar] at starts
  exact List.length_eq_zero_iff.1 starts

/-- The octets of a text stand in those of another only where a character begins. -/
theorem exists_of_utf8_eq {piece : List Char} {rest : List UInt8} (nonempty : piece ≠ []) :
    ∀ {text : List Char} {gap : List UInt8}, utf8 text = gap ++ (utf8 piece ++ rest) →
      ∃ before after, text = before ++ (piece ++ after) ∧ utf8 before = gap := by
  intro text
  induction text with
  | nil =>
      intro gap whole
      have empty : utf8 piece = [] := by
        have all := whole.symm
        simp only [utf8, List.flatMap_nil, List.append_eq_nil_iff] at all
        exact all.2.1
      exact absurd (utf8_eq_nil_iff.1 empty) nonempty
  | cons c text ih =>
      intro gap whole
      rw [utf8_cons] at whole
      rcases List.append_eq_append_iff.1 whole with ⟨between, rfl, later⟩ | ⟨between, here, later⟩
      · obtain ⟨before, after, rfl, same⟩ := ih later
        exact ⟨c :: before, after, rfl, by rw [utf8_cons, same]⟩
      · by_cases none : between = []
        · subst none
          obtain ⟨after, rfl⟩ := prefix_of_utf8_eq later.symm
          refine ⟨[c], after, rfl, ?_⟩
          rw [← List.append_nil gap, ← here, utf8_cons]
          exact List.append_nil _
        · obtain ⟨first, others, rfl⟩ := List.exists_cons_of_ne_nil nonempty
          rw [utf8_cons, List.append_assoc] at later
          have front := eq_nil_of_utf8EncodeChar_eq here none later
          subst front
          obtain ⟨after, same⟩ := prefix_of_utf8_eq (utf8_cons c text ▸ whole)
          exact ⟨[], after, same, rfl⟩

/-- Pieces stand in a text just if their octets stand in its octets, provided that no inner piece is
empty. -/
theorem inOrder_utf8_iff {first text : List Char} {others : List (List Char)}
    (inner : ∀ piece ∈ others.dropLast, piece ≠ []) :
    InOrder (utf8 first) (others.map utf8) (utf8 text) ↔ InOrder first others text := by
  induction others generalizing first text with
  | nil => rw [List.map_nil, InOrder.nil_iff, InOrder.nil_iff, utf8_injective.eq_iff]
  | cons following others ih =>
      have later : ∀ piece ∈ others.dropLast, piece ≠ [] := by
        intro piece found
        cases others with
        | nil => cases found
        | cons other others => exact inner piece (List.mem_cons_of_mem _ found)
      rw [List.map_cons, InOrder.cons_iff, InOrder.cons_iff]
      constructor
      · rintro ⟨gap, octets, whole, stands⟩
        rw [List.append_assoc] at whole
        obtain ⟨between, rfl⟩ := prefix_of_utf8_eq whole
        rw [utf8_append, List.append_cancel_left_eq] at whole
        obtain ⟨tail, rfl, alone⟩ := stands.exists_eq_append
        by_cases empty : following = []
        · -- Nothing but the last piece can be empty, and then nothing follows the gap.
          have last : others = [] := by
            cases others with
            | nil => rfl
            | cons other others => exact absurd empty (inner following List.mem_cons_self)
          subst empty last
          exact ⟨between, [], by simp, .whole []⟩
        · obtain ⟨before, after, rfl, rfl⟩ := exists_of_utf8_eq empty whole
          rw [utf8_append, List.append_cancel_left_eq] at whole
          rw [← whole] at stands
          exact ⟨before, following ++ after, by simp, (ih later).1 stands⟩
      · rintro ⟨gap, rest, rfl, stands⟩
        exact ⟨utf8 gap, utf8 rest, by simp [utf8_append], (ih later).2 stands⟩

/-! ### What a directory finds -/

namespace DirectoryFilter

/-- Whether a directory finds a value for the pieces of an assertion value.  A single piece is the
value itself, a lone wildcard is met by any value, and otherwise the pieces have to stand in the value.
-/
def Pieces.Accepts : Pieces → List UInt8 → Prop
  | ⟨whole, []⟩, value => value = whole
  | ⟨[], [[]]⟩, _ => True
  | ⟨first, others⟩, value => InOrder first others value

/-- The three ways to find a value are one: its pieces stand in it. -/
theorem Pieces.accepts_iff {pieces : Pieces} {value : List UInt8} :
    pieces.Accepts value ↔ InOrder pieces.first pieces.others value := by
  unfold Accepts
  split
  · exact InOrder.nil_iff.symm
  · exact iff_of_true trivial (InOrder.anything value)
  · exact Iff.rfl

theorem wildcard_notMem_escaped (text : List Char) : wildcard ∉ escaped text := by
  rw [escaped, List.mem_flatMap]
  rintro ⟨c, -, found⟩
  split at found
  · next special =>
      simp only [isFilterSpecial, Bool.or_eq_true, beq_iff_eq] at special
      rcases special with (((rfl | rfl) | rfl) | rfl) | rfl <;> exact absurd found (by decide)
  · next ordinary =>
      rw [List.mem_singleton] at found
      subst found
      exact ordinary rfl

/-- A text without its special characters is read as its octets. -/
theorem readPieces_escaped_alone (text : List Char) :
    readPieces (escaped text) = some ⟨utf8 text, []⟩ := by
  have whole := readPieces_escaped text []
  rw [List.append_nil] at whole
  simp [whole, readPieces, Pieces.preceded]

end DirectoryFilter

open DirectoryFilter

theorem split_escapedPattern (pattern : List Char) :
    split wildcard (escapedPattern pattern) =
      (escaped (splitPattern pattern).1, (splitPattern pattern).2.map escaped) := by
  rw [split_eq_iff]
  refine ⟨rfl, wildcard_notMem_escaped _, ?_⟩
  intro part found
  obtain ⟨piece, -, rfl⟩ := List.mem_map.1 found
  exact wildcard_notMem_escaped piece

theorem readPieces_escapedPattern (pattern : List Char) :
    readPieces (escapedPattern pattern) =
      some ⟨utf8 (splitPattern pattern).1, (splitPattern pattern).2.map utf8⟩ := by
  have read := readPieces_joinWith (.text (splitPattern pattern).1)
    ((splitPattern pattern).2.map .text)
  rw [List.map_map, List.map_map] at read
  exact read

/-- What a directory finds for an escaped pattern are the texts that match the pattern.  The parts of
the escaped pattern between its wildcards are read as the pieces of the pattern between its runs of
wildcards, one by one, and none of the inner ones is empty.  The filter for a pattern holds its escaped
form. -/
theorem glob_iff_accepts (pattern : List Char) :
    (∀ attributeName, (Filter.like attributeName pattern).written =
        Filter.testWritten attributeName ['='] (escapedPattern pattern)) ∧
      (∃ pieces, readPieces (escapedPattern pattern) = some pieces ∧
        ∀ text, Glob pattern text ↔ pieces.Accepts (utf8 text)) ∧
      ∃ first others parts, PatternPieces pattern first others ∧
        split wildcard (escapedPattern pattern) = parts ∧
        readPieces parts.1 = some ⟨utf8 first, []⟩ ∧
        parts.2.map readPieces = others.map (fun piece => some ⟨utf8 piece, []⟩) ∧
        [] ∉ parts.2.dropLast := by
  have pieces := patternPieces_splitPattern pattern
  refine ⟨?_, ⟨_, readPieces_escapedPattern pattern, ?_⟩, _, _, _, pieces,
    split_escapedPattern pattern, readPieces_escaped_alone _, ?_, ?_⟩
  · intro attributeName
    rw [Filter.like, Filter.written, List.map_map]
    rfl
  · intro text
    rw [Pieces.accepts_iff, pieces.glob_iff]
    exact (inOrder_utf8_iff pieces.inner_ne_nil).symm
  · rw [List.map_map]
    exact List.map_congr_left fun piece _ => readPieces_escaped_alone piece
  · rw [← List.map_dropLast]
    intro found
    obtain ⟨piece, listed, empty⟩ := List.mem_map.1 found
    have none : utf8 piece = [] := by
      have read := readPieces_escaped_alone piece
      rw [empty, readPieces] at read
      injection read with read
      injection read with same
      exact same.symm
    exact pieces.inner_ne_nil piece listed (utf8_eq_nil_iff.1 none)

end DirectoryQuery
