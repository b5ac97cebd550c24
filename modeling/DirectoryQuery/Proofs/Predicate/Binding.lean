/-
Module: DirectoryQuery.Proofs.Predicate.Binding
Purpose: What it takes to bind arguments.  By position, and for predicates whose placeholders have
  distinct indices, the argument of a rank goes to the placeholder of that rank, and only the number
  of arguments can be wrong.
Main exports:
  Predicate.placeholders_composite, Predicate.value?_bindPositions, Predicate.bindings_eq_ok_iff,
  Predicate.bind_nil_eq_ok_iff, Predicate.bind_eq_ok_iff_bindings, Predicate.bind_eq_ok_iff,
  Entity.filterFor_eq_of_bind
-/
import DirectoryQuery.Filter.Compilation
import Mathlib.Data.List.Nodup

namespace DirectoryQuery

namespace Predicate

/-! ### Placeholders -/

theorem walkAll_eq_flatMap (predicates : List Predicate) :
    walkAll predicates = predicates.flatMap walk := by
  induction predicates with
  | nil => rfl
  | cons predicate rest ih => rw [walkAll, ih, List.flatMap_cons]

theorem placeholders_comparison (property : Label) (operator : Operator) (value : Value) :
    (comparison property operator value).placeholders = value.parameter?.toList := by
  rw [placeholders, walk]
  cases found : value.parameter? <;> simp [placeholder?, found]

theorem placeholders_negation (operand : Predicate) :
    (negation operand).placeholders = operand.placeholders := rfl

/-- The placeholders of a composite are those of its operands. -/
theorem placeholders_composite (kind : Connective) (first : Predicate) (others : List Predicate) :
    (composite kind first others).placeholders = (first :: others).flatMap placeholders := by
  have walked : (composite kind first others).walk =
      composite kind first others :: (first :: others).flatMap walk := by
    rw [walk, walkAll_eq_flatMap, List.flatMap_cons]
  rw [placeholders, walked, List.filterMap_cons_none rfl, List.filterMap_flatMap]
  rfl

/-! ### Arguments by position -/

variable {placeholders : List Parameter} {arguments : List Value}

theorem value?_foldl_of_notMem {pairs : List (Parameter × Value)} {index : Int}
    (absent : ∀ pair ∈ pairs, pair.1.index ≠ index) :
    ∀ bindings : Bindings,
      (pairs.foldl (fun bindings (p, value) => bindings.insert p.index value)
        bindings).value? index = bindings.value? index := by
  induction pairs with
  | nil => intro bindings; rfl
  | cons pair rest ih =>
      intro bindings
      obtain ⟨other, later⟩ := List.forall_mem_cons.1 absent
      rw [List.foldl_cons, ih later, Bindings.value?_insert, if_neg (Ne.symm other)]

/-- The placeholder of a rank is bound to the argument of that rank, if there is one. -/
theorem value?_foldl_zip :
    ∀ {placeholders : List Parameter} {arguments : List Value} {rank : Nat} {p : Parameter}
      (bindings : Bindings), (placeholders.map (·.index)).Nodup → placeholders[rank]? = some p →
      ((placeholders.zip arguments).foldl
          (fun bindings (p, value) => bindings.insert p.index value) bindings).value? p.index =
        arguments[rank]?.or (bindings.value? p.index) := by
  intro placeholders
  induction placeholders with
  | nil =>
      intro arguments rank p bindings _ listed
      cases listed
  | cons first rest ih =>
      intro arguments rank p bindings distinct listed
      rw [List.map_cons, List.nodup_cons] at distinct
      obtain ⟨fresh, distinct⟩ := distinct
      cases arguments with
      | nil => rfl
      | cons argument others =>
          rw [List.zip_cons_cons, List.foldl_cons]
          cases rank with
          | zero =>
              cases listed
              have absent : ∀ pair ∈ rest.zip others, pair.1.index ≠ first.index := by
                intro pair found same
                refine fresh (List.mem_map.2 ⟨pair.1, ?_, same⟩)
                exact (List.of_mem_zip found).1
              rw [value?_foldl_of_notMem absent, Bindings.value?_insert, if_pos rfl]
              rfl
          | succ rank =>
              have different : p.index ≠ first.index := by
                intro same
                exact fresh (List.mem_map.2 ⟨p, List.mem_of_getElem? listed, same⟩)
              rw [ih _ distinct listed, Bindings.value?_insert, if_neg different]
              rfl

theorem value?_bindPositions (distinct : (placeholders.map (·.index)).Nodup) {rank : Nat}
    {p : Parameter} (listed : placeholders[rank]? = some p) :
    (bindPositions placeholders arguments).value? p.index = arguments[rank]? := by
  rw [bindPositions, value?_foldl_zip [] distinct listed]
  exact Option.or_none

/-- No placeholder is left over just if there are enough arguments. -/
theorem forall_isSome_bindPositions (distinct : (placeholders.map (·.index)).Nodup) :
    (∀ p ∈ placeholders, ((bindPositions placeholders arguments).value? p.index).isSome = true) ↔
      placeholders.length ≤ arguments.length := by
  constructor
  · intro all
    by_contra short
    have listed := List.getElem?_eq_getElem (Nat.lt_of_not_le short)
    have given := all _ (List.mem_of_getElem? listed)
    rw [value?_bindPositions distinct listed, List.getElem?_eq_none (Nat.le_refl _)] at given
    cases given
  · intro enough p found
    obtain ⟨rank, listed⟩ := List.getElem?_of_mem found
    have inside := (List.getElem?_eq_some_iff.1 listed).1
    rw [value?_bindPositions distinct listed, List.getElem?_eq_getElem (by omega)]
    rfl

/-- Arguments can be bound if there are not too many, each keyword takes effect, and no placeholder
is left over. -/
theorem bindings_eq_ok_iff {keywords : List (String × Value)} {bound : Bindings} :
    bindings placeholders arguments keywords = .ok bound ↔
      arguments.length ≤ placeholders.length ∧
        bindKeywords placeholders (bindPositions placeholders arguments) keywords = .ok bound ∧
        ∀ p ∈ placeholders, (bound.value? p.index).isSome = true := by
  have complete (table : Bindings) :
      placeholders.filter (fun p => (table.value? p.index).isNone) = [] ↔
        ∀ p ∈ placeholders, (table.value? p.index).isSome = true := by
    simp [List.filter_eq_nil_iff, Option.isSome_iff_ne_none]
  unfold bindings
  split
  · next many => simp [Nat.not_le.2 many]
  · next few =>
      split
      · next error failed => simp [failed]
      · next table made =>
          split
          · next none =>
              constructor
              · intro same
                cases same
                exact ⟨Nat.le_of_not_lt few, made, (complete _).1 none⟩
              · rintro ⟨-, same, -⟩
                rw [made] at same
                exact same
          · next first others some =>
              constructor
              · intro failed
                cases failed
              · rintro ⟨-, same, all⟩
                rw [made] at same
                cases same
                rw [(complete _).2 all] at some
                cases some

/-- Binding by position succeeds just if there is an argument for each placeholder and none to
spare. -/
theorem bindings_nil_eq_ok_iff (distinct : (placeholders.map (·.index)).Nodup)
    {bound : Bindings} :
    bindings placeholders arguments [] = .ok bound ↔
      arguments.length = placeholders.length ∧ bound = bindPositions placeholders arguments := by
  rw [bindings_eq_ok_iff, bindKeywords]
  constructor
  · rintro ⟨few, made, all⟩
    cases made
    exact ⟨Nat.le_antisymm few ((forall_isSome_bindPositions distinct).1 all), rfl⟩
  · rintro ⟨same, rfl⟩
    refine ⟨Nat.le_of_eq same, rfl, ?_⟩
    exact (forall_isSome_bindPositions distinct).2 (Nat.le_of_eq same.symm)

/-! ### Binding -/

theorem substituteAll_cons_eq_some {bindings : Bindings} {predicate : Predicate}
    {rest results : List Predicate}
    (each : substituteAll bindings (predicate :: rest) = some results) :
    ∃ result others, predicate.substitute bindings = some result ∧
      substituteAll bindings rest = some others ∧ results = result :: others := by
  rw [substituteAll] at each
  cases head : predicate.substitute bindings with
  | none =>
      rw [head] at each
      cases each
  | some result =>
      rw [head] at each
      cases tail : substituteAll bindings rest with
      | none =>
          rw [tail] at each
          cases each
      | some others =>
          rw [tail] at each
          cases each
          exact ⟨result, others, rfl, rfl, rfl⟩

variable {predicate bound : Predicate}

theorem bind_nil_eq_ok_iff (none : predicate.parameters = []) :
    predicate.bind arguments [] = .ok bound ↔ arguments = [] ∧ bound = predicate := by
  unfold bind
  rw [none]
  dsimp only
  split
  · next empty => simp [empty.1, eq_comm]
  · next given =>
      constructor
      · intro failed
        cases failed
      · rintro ⟨empty, -⟩
        exact absurd ⟨empty, rfl⟩ given

/-- Binding puts the arguments into a predicate that has placeholders. -/
theorem bind_eq_ok_iff_bindings {keywords : List (String × Value)}
    (some : predicate.parameters ≠ []) :
    predicate.bind arguments keywords = .ok bound ↔
      ∃ table, bindings predicate.parameters arguments keywords = .ok table ∧
        predicate.substitute table = .some bound := by
  unfold bind
  split
  · next none => exact absurd none some
  · next placeholders _ =>
      split
      · next error failed => simp [failed]
      · next table made => cases result : predicate.substitute table <;> simp [made, result]

/-- Binding by position puts the arguments into a predicate that has a placeholder for each. -/
theorem bind_eq_ok_iff (some : predicate.parameters ≠ [])
    (distinct : (predicate.parameters.map (·.index)).Nodup) :
    predicate.bind arguments [] = .ok bound ↔
      arguments.length = predicate.parameters.length ∧
        predicate.substitute (bindPositions predicate.parameters arguments) = .some bound := by
  rw [bind_eq_ok_iff_bindings some]
  constructor
  · rintro ⟨table, made, result⟩
    obtain ⟨same, rfl⟩ := (bindings_nil_eq_ok_iff distinct).1 made
    exact ⟨same, result⟩
  · rintro ⟨same, result⟩
    exact ⟨_, (bindings_nil_eq_ok_iff distinct).2 ⟨same, rfl⟩, result⟩

end Predicate

/-- A filter does not tell arguments that were bound before from arguments given with the
predicate. -/
theorem Entity.filterFor_eq_of_bind {entity : Entity} {predicate bound : Predicate}
    {arguments : List Value} {keywords : List (String × Value)} (plain : bound.parameters = [])
    (binding : predicate.bind arguments keywords = .ok bound) :
    entity.filterFor (some bound) [] [] = entity.filterFor (some predicate) arguments keywords := by
  rw [filterFor, filterFor, binding, (Predicate.bind_nil_eq_ok_iff plain).2 ⟨rfl, rfl⟩]

end DirectoryQuery
