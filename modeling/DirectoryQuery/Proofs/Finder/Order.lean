/-
Module: DirectoryQuery.Proofs.Finder.Order
Purpose: The order in which the properties and keywords of a finder name are tried.  Both lists come
  out of a stable sort; what readings rely on is that each list is strictly ordered.
Main exports:
  capitalized, Entity.TriedBefore, Entity.mem_candidates_iff, Entity.pairwise_candidates,
  Keyword.pairwise_byLength
-/
import DirectoryQuery.Finder.Criteria
import DirectoryQuery.Proofs.Entity.Built
import DirectoryQuery.Proofs.Text.Order

namespace DirectoryQuery

open Text

/-! ### Stable sorting -/

/-- A stable sort of distinct items puts items that are equal in its order in the order in which
they were given. -/
theorem pairwise_mergeSort_idxOf {α : Type} [DecidableEq α] {before : α → α → Bool}
    (trans : ∀ a b c, before a b = true → before b c = true → before a c = true)
    (total : ∀ a b, (before a b || before b a) = true) {items : List α} (distinct : items.Nodup) :
    (items.mergeSort before).Pairwise fun a b =>
      before a b = true ∧ (before b a = true → items.idxOf a < items.idxOf b) := by
  rw [← List.mergeSort_zipIdx, List.pairwise_map]
  have permuted := List.mergeSort_perm items.zipIdx (List.zipIdxLE before)
  have sorted := List.pairwise_mergeSort (List.zipIdxLE_trans trans) (List.zipIdxLE_total total)
    items.zipIdx
  have indexed : (items.zipIdx.mergeSort (List.zipIdxLE before)).Nodup := by
    rw [permuted.nodup_iff]
    exact List.Nodup.of_map (·.1) (by rwa [List.zipIdx_map_fst])
  refine (sorted.and indexed).imp_of_mem ?_
  rintro ⟨a, i⟩ ⟨b, j⟩ listedA listedB ⟨ordered, different⟩
  obtain ⟨inA, atA⟩ := List.getElem?_eq_some_iff.1
    (List.mem_zipIdx_iff_getElem?.1 (permuted.mem_iff.1 listedA))
  obtain ⟨inB, atB⟩ := List.getElem?_eq_some_iff.1
    (List.mem_zipIdx_iff_getElem?.1 (permuted.mem_iff.1 listedB))
  dsimp only at inA atA inB atB ⊢
  have indexA : items.idxOf a = i := atA ▸ List.Nodup.idxOf_getElem distinct i inA
  have indexB : items.idxOf b = j := atB ▸ List.Nodup.idxOf_getElem distinct j inB
  unfold List.zipIdxLE at ordered
  dsimp only at ordered
  split at ordered
  · next forward =>
      refine ⟨forward, ?_⟩
      intro backward
      rw [if_pos backward] at ordered
      have noLater : i ≤ j := of_decide_eq_true ordered
      have apart : i ≠ j := by
        rintro rfl
        exact different (by rw [← atA, ← atB])
      omega
  · cases ordered

/-! ### Names of properties -/

theorem Text.upper_ne_nil (c : Char) : LetterCase.upper c ≠ [] := by
  unfold LetterCase.upper
  split
  · next codes found =>
      obtain ⟨front, back, same, -⟩ := List.lookup_eq_some_iff.1 found
      have listed : (c.toNat, codes) ∈ LetterCase.expandingUppers := by simp [same]
      have nonempty : ∀ entry ∈ LetterCase.expandingUppers, entry.2 ≠ [] := by decide
      simpa using nonempty _ listed
  · simp

/-- The form of the name of a property in criteria. -/
def capitalized (property : String) : List Char := capitalize property.toList

theorem capitalized_ne_nil {property : String} (named : property ≠ "") :
    capitalized property ≠ [] := by
  unfold capitalized
  cases letters : property.toList with
  | nil => exact absurd (String.toList_eq_nil_iff.1 letters) named
  | cons c rest => simp [capitalize, Text.upper_ne_nil]

namespace Candidate

theorem triedBefore_iff {a b : Candidate} :
    a.triedBefore b = true ↔
      b.spelling.length < a.spelling.length ∨
        (a.spelling.length = b.spelling.length ∧ noLater a.spelling b.spelling = true) := by
  simp [triedBefore]

theorem triedBefore_trans (a b c : Candidate) (first : a.triedBefore b = true)
    (second : b.triedBefore c = true) : a.triedBefore c = true := by
  rw [triedBefore_iff] at *
  rcases first with longer | ⟨same, smaller⟩
  · left
    rcases second with longer' | ⟨same', -⟩ <;> omega
  · rcases second with longer' | ⟨same', smaller'⟩
    · left
      omega
    · exact .inr ⟨same.trans same', Text.noLater_trans smaller smaller'⟩

theorem triedBefore_total (a b : Candidate) : (a.triedBefore b || b.triedBefore a) = true := by
  rw [Bool.or_eq_true, triedBefore_iff, triedBefore_iff]
  rcases Nat.lt_trichotomy a.spelling.length b.spelling.length with shorter | same | longer
  · exact .inr (.inl shorter)
  · rcases Text.noLater_total a.spelling b.spelling with smaller | larger
    · exact .inl (.inr ⟨same, smaller⟩)
    · exact .inr (.inr ⟨same.symm, larger⟩)
  · exact .inl (.inl longer)

end Candidate

namespace Entity

/-- The order in which properties are tried: longer names first, then by code points, and names that
are spelled alike in the order of their declaration. -/
inductive TriedBefore (entity : Entity) (p q : String) : Prop where
  | longer (length : (capitalized q).length < (capitalized p).length)
  | smaller (length : (capitalized p).length = (capitalized q).length)
      (order : Text.Earlier (capitalized p) (capitalized q))
  | earlier (spelling : capitalized p = capitalized q)
      (order : entity.propertyNames.idxOf p < entity.propertyNames.idxOf q)

theorem TriedBefore.asymm {entity : Entity} {p q : String} (before : entity.TriedBefore p q) :
    ¬entity.TriedBefore q p := by
  intro after
  cases before with
  | longer length =>
      cases after with
      | longer length' => omega
      | smaller length' _ => omega
      | earlier spelling _ => rw [spelling] at length; omega
  | smaller length order =>
      cases after with
      | longer length' => omega
      | smaller _ order' => exact List.lex_asymm (fun less => Nat.lt_asymm less) order order'
      | earlier spelling _ =>
          rw [spelling] at order
          exact List.lex_irrefl (fun c => Nat.lt_irrefl c.toNat) _ order
  | earlier spelling order =>
      cases after with
      | longer length => rw [spelling] at length; omega
      | smaller _ order' =>
          rw [spelling] at order'
          exact List.lex_irrefl (fun c => Nat.lt_irrefl c.toNat) _ order'
      | earlier _ order' => omega

theorem TriedBefore.irrefl {entity : Entity} {p : String} (before : entity.TriedBefore p p) :
    False :=
  before.asymm before

variable {entity : Entity}

/-- The candidate for a property. -/
def candidate (property : String) : Candidate := ⟨property, capitalized property⟩

theorem candidates_eq :
    entity.candidates = (entity.propertyNames.map candidate).mergeSort Candidate.triedBefore := rfl

theorem mem_candidates_iff {found : Candidate} :
    found ∈ entity.candidates ↔
      found.property ∈ entity.propertyNames ∧ found.spelling = capitalized found.property := by
  rw [candidates_eq, List.mem_mergeSort, List.mem_map]
  constructor
  · rintro ⟨property, listed, rfl⟩
    exact ⟨listed, rfl⟩
  · rintro ⟨listed, spelled⟩
    exact ⟨found.property, listed, by rw [candidate, ← spelled]⟩

theorem candidate_injective : Function.Injective candidate := by
  intro p q same
  exact congrArg Candidate.property same

theorem idxOf_map_candidate (property : String) (names : List String) :
    (names.map candidate).idxOf (candidate property) = names.idxOf property := by
  rw [List.idxOf, List.findIdx_map, List.idxOf]
  congr 1
  funext name
  simp [candidate_injective.eq_iff, beq_eq_decide]

/-- The candidates are tried in the order of their properties. -/
theorem Built.pairwise_candidates (built : entity.Built) :
    entity.candidates.Pairwise fun a b => entity.TriedBefore a.property b.property := by
  have distinct : (entity.propertyNames.map candidate).Nodup :=
    List.Nodup.map candidate_injective built.nodup_propertyNames
  have sorted := pairwise_mergeSort_idxOf Candidate.triedBefore_trans Candidate.triedBefore_total
    distinct
  rw [← candidates_eq] at sorted
  refine sorted.imp_of_mem ?_
  rintro ⟨p, spelling⟩ ⟨q, spelling'⟩ listed listed' ⟨forward, stable⟩
  have spelled : spelling = capitalized p := (mem_candidates_iff.1 listed).2
  have spelled' : spelling' = capitalized q := (mem_candidates_iff.1 listed').2
  subst spelled spelled'
  rw [Candidate.triedBefore_iff] at forward stable
  dsimp only at forward stable ⊢
  rcases forward with longer | ⟨same, noLater⟩
  · exact .longer longer
  · rcases Text.noLater_iff.1 noLater with alike | smaller
    · refine .earlier alike ?_
      have backward := Text.noLater_iff.2 (.inl alike.symm)
      have ordered := stable (.inr ⟨same.symm, backward⟩)
      rwa [← candidate, ← candidate, idxOf_map_candidate, idxOf_map_candidate] at ordered
    · exact .smaller same smaller

end Entity

/-! ### Keywords -/

namespace Keyword

theorem mem_byLength_iff {keyword : Keyword} : keyword ∈ byLength ↔ keyword ∈ all :=
  List.mem_mergeSort

/-- No keyword is tried before a longer one, and no word is tried twice. -/
theorem pairwise_byLength :
    byLength.Pairwise fun a b => b.word.length ≤ a.word.length ∧ a.word ≠ b.word := by
  have sorted : byLength.Pairwise fun a b => longerFirst a.word b.word = true :=
    List.pairwise_mergeSort (by simp only [longerFirst, decide_eq_true_eq]; omega)
      (by simp only [longerFirst, Bool.or_eq_true, decide_eq_true_eq]; omega) all
  have distinct : (byLength.map (·.word)).Nodup := by
    rw [byLength, ((List.mergeSort_perm _ _).map _).nodup_iff]
    decide
  rw [List.Nodup, List.pairwise_map] at distinct
  refine (sorted.and distinct).imp ?_
  rintro a b ⟨longer, different⟩
  exact ⟨of_decide_eq_true longer, different⟩

end Keyword

end DirectoryQuery
