/-
Module: DirectoryQuery.Proofs.Predicate.Filling
Purpose: Predicates with values in the place of their placeholders.  Filling changes nothing else of
  a predicate, and binding fills a predicate with the arguments for the indices.
Main exports:
  Predicate.fill, Predicate.walk_fill, Predicate.fill_congr, Predicate.fill_eq_self,
  Predicate.parameters_fill, Predicate.exists_comparison_fill, Predicate.bind_eq_ok_iff_fill,
  Predicate.exists_refused_or_bindings
-/
import DirectoryQuery.Proofs.Predicate.Binding

namespace DirectoryQuery

/-- A value, or the argument for it if it is a placeholder. -/
def Value.fill (argument : Parameter → Value) : Value → Value
  | .parameter p => argument p
  | value => value

theorem Value.fill_parameter (value : Value) : value.fill .parameter = value := by
  cases value <;> rfl

/-- The argument bound to the index of a placeholder; without one the placeholder stays. -/
def Bindings.argument (bound : Bindings) (p : Parameter) : Value :=
  (bound.value? p.index).getD (.parameter p)

namespace Predicate

mutual

/-- A predicate with arguments in the place of its placeholders. -/
def fill (argument : Parameter → Value) : Predicate → Predicate
  | .comparison property operator value => .comparison property operator (value.fill argument)
  | .negation operand => .negation (fill argument operand)
  | .composite kind first others =>
    .composite kind (fill argument first) (fillAll argument others)
  | .bare => .bare

/-- Predicates with arguments in the place of their placeholders. -/
def fillAll (argument : Parameter → Value) : List Predicate → List Predicate
  | [] => []
  | predicate :: rest => fill argument predicate :: fillAll argument rest

end

variable {argument other : Parameter → Value} {predicate : Predicate}

/-! ### What filling keeps and what it changes -/

mutual

/-- The parts of a filled predicate are its filled parts. -/
theorem walk_fill (argument : Parameter → Value) (predicate : Predicate) :
    (predicate.fill argument).walk = predicate.walk.map (fill argument) := by
  cases predicate with
  | comparison property operator value => simp [fill, walk]
  | negation operand => simp [fill, walk, walk_fill argument operand]
  | composite kind first others =>
      simp [fill, walk, walk_fill argument first, walkAll_fillAll argument others]
  | bare => simp [fill, walk]

theorem walkAll_fillAll (argument : Parameter → Value) (predicates : List Predicate) :
    walkAll (fillAll argument predicates) = (walkAll predicates).map (fill argument) := by
  cases predicates with
  | nil => rfl
  | cons predicate rest =>
      simp [fillAll, walkAll, walk_fill argument predicate, walkAll_fillAll argument rest]

end

mutual

/-- Only the arguments for the placeholders of a predicate matter. -/
theorem fill_congr (predicate : Predicate)
    (same : ∀ p ∈ predicate.placeholders, argument p = other p) :
    predicate.fill argument = predicate.fill other := by
  cases predicate with
  | comparison property operator value =>
      rw [placeholders_comparison] at same
      cases value with
      | parameter p => rw [fill, fill, Value.fill, Value.fill, same p (by simp [Value.parameter?])]
      | _ => rfl
  | negation operand => rw [fill, fill, fill_congr operand same]
  | composite kind first others =>
      rw [placeholders_composite, List.flatMap_cons] at same
      rw [fill, fill, fill_congr first fun p found => same p (List.mem_append_left _ found),
        fillAll_congr others fun p found => same p (List.mem_append_right _ found)]
  | bare => rfl

theorem fillAll_congr (predicates : List Predicate)
    (same : ∀ p ∈ predicates.flatMap placeholders, argument p = other p) :
    fillAll argument predicates = fillAll other predicates := by
  cases predicates with
  | nil => rfl
  | cons predicate rest =>
      rw [List.flatMap_cons] at same
      rw [fillAll, fillAll,
        fill_congr predicate fun p found => same p (List.mem_append_left _ found),
        fillAll_congr rest fun p found => same p (List.mem_append_right _ found)]

end

mutual

theorem fill_parameter (predicate : Predicate) : predicate.fill .parameter = predicate := by
  cases predicate with
  | comparison property operator value => rw [fill, Value.fill_parameter]
  | negation operand => rw [fill, fill_parameter operand]
  | composite kind first others => rw [fill, fill_parameter first, fillAll_parameter others]
  | bare => rfl

theorem fillAll_parameter (predicates : List Predicate) :
    fillAll .parameter predicates = predicates := by
  cases predicates with
  | nil => rfl
  | cons predicate rest => rw [fillAll, fill_parameter predicate, fillAll_parameter rest]

end

theorem parameters_eq_nil_iff : predicate.parameters = [] ↔ predicate.placeholders = [] := by
  rw [← List.length_eq_zero_iff, parameters, List.length_mergeSort, List.length_eq_zero_iff]

theorem parameters_comparison {property : Label} {operator : Operator} {value : Value}
    (plain : value.parameter? = none) : (comparison property operator value).parameters = [] := by
  rw [parameters_eq_nil_iff, placeholders_comparison, plain]
  rfl

theorem mem_parameters {p : Parameter} : p ∈ predicate.parameters ↔ p ∈ predicate.placeholders :=
  List.mem_mergeSort

/-- A predicate without placeholders is full already. -/
theorem fill_eq_self (none : predicate.parameters = []) :
    predicate.fill argument = predicate := by
  have same : ∀ p ∈ predicate.placeholders, argument p = .parameter p := by
    simp [parameters_eq_nil_iff.1 none]
  rw [fill_congr predicate same, fill_parameter]

/-- No placeholder is left if there is an ordinary value for each. -/
theorem parameters_fill
    (plain : ∀ p ∈ predicate.parameters, (argument p).parameter? = none) :
    (predicate.fill argument).parameters = [] := by
  rw [parameters_eq_nil_iff, placeholders, walk_fill, List.filterMap_map,
    List.filterMap_eq_nil_iff]
  intro part found
  cases part with
  | comparison property operator value =>
      cases value with
      | parameter p =>
          refine plain p (mem_parameters.2 ?_)
          exact List.mem_filterMap.2 ⟨_, found, rfl⟩
      | _ => rfl
  | _ => rfl

/-- The argument for a placeholder is the value of a comparison of the filled predicate. -/
theorem exists_comparison_fill {p : Parameter} (found : p ∈ predicate.parameters) :
    ∃ property operator,
      comparison property operator (argument p) ∈ (predicate.fill argument).walk := by
  rw [mem_parameters, placeholders, List.mem_filterMap] at found
  obtain ⟨part, listed, held⟩ := found
  cases part with
  | comparison property operator value =>
      cases Value.parameter?_eq_some_iff.1 held
      rw [walk_fill]
      exact ⟨property, operator, List.mem_map.2 ⟨_, listed, rfl⟩⟩
  | _ => cases held

/-! ### Binding fills -/

mutual

/-- Arguments can be put into a predicate all of whose parts have a meaning. -/
theorem substitute_eq_some_iff (table : Bindings) (predicate bound : Predicate) :
    predicate.substitute table = some bound ↔
      .bare ∉ predicate.walk ∧ predicate.fill table.argument = bound := by
  cases predicate with
  | comparison property operator value =>
      cases value <;> simp [substitute, walk, fill, Value.fill, Bindings.argument]
  | negation operand =>
      simp [substitute, walk, fill, substitute_eq_some_iff table operand, and_assoc]
  | composite kind first others =>
      simp [substitute, walk, fill, Option.bind_eq_some_iff, substitute_eq_some_iff table first,
        substituteAll_eq_some_iff table others, and_assoc]
  | bare => simp [substitute, walk]

theorem substituteAll_eq_some_iff (table : Bindings) (predicates bounds : List Predicate) :
    substituteAll table predicates = some bounds ↔
      .bare ∉ walkAll predicates ∧ fillAll table.argument predicates = bounds := by
  cases predicates with
  | nil => simp [substituteAll, walkAll, fillAll]
  | cons predicate rest =>
      simp [substituteAll, walkAll, fillAll, Option.bind_eq_some_iff,
        substitute_eq_some_iff table predicate, substituteAll_eq_some_iff table rest, and_assoc]

end

variable {bound : Predicate} {arguments : List Value} {keywords : List (String × Value)}

theorem bindings_nil_iff {table : Bindings} :
    bindings [] arguments keywords = .ok table ↔
      arguments = [] ∧ keywords = [] ∧ table = [] := by
  cases arguments <;> cases keywords <;>
    simp [bindings, bindKeywords, bindKeyword, bindPositions, eq_comm]

/-- A bound predicate is filled with the arguments for the indices of its placeholders.  A part
without a meaning does no harm where there is nothing to fill. -/
theorem bind_eq_ok_iff_fill :
    predicate.bind arguments keywords = .ok bound ↔
      (predicate.parameters = [] ∨ .bare ∉ predicate.walk) ∧
        ∃ table, bindings predicate.parameters arguments keywords = .ok table ∧
          predicate.fill table.argument = bound := by
  by_cases none : predicate.parameters = []
  · rw [none]
    simp only [bindings_nil_iff, fill_eq_self none]
    unfold bind
    rw [none]
    dsimp only
    split
    · next empty => simp [empty]
    · next given =>
        constructor
        · intro failed
          cases failed
        · rintro ⟨-, table, ⟨noArguments, noKeywords, -⟩, -⟩
          exact absurd ⟨noArguments, noKeywords⟩ given
  · rw [bind_eq_ok_iff_bindings none]
    simp only [substitute_eq_some_iff, none, false_or]
    constructor
    · rintro ⟨table, made, meaningful, filled⟩
      exact ⟨meaningful, table, made, filled⟩
    · rintro ⟨meaningful, table, made, filled⟩
      exact ⟨table, made, meaningful, filled⟩

/-- If no table of arguments can be made, the arguments are refused. -/
theorem exists_refused_or_bindings (predicate : Predicate) (arguments : List Value)
    (keywords : List (String × Value)) :
    (∃ error, predicate.bind arguments keywords = .error (.refused error)) ∨
      ∃ table, bindings predicate.parameters arguments keywords = .ok table := by
  unfold bind
  split
  · next none =>
      by_cases empty : arguments = [] ∧ keywords = []
      · right
        exact ⟨[], by rw [none]; exact bindings_nil_iff.2 ⟨empty.1, empty.2, rfl⟩⟩
      · left
        exact ⟨.noneTaken, if_neg empty⟩
  · next placeholders _ =>
      split
      · next error failed => exact .inl ⟨error, rfl⟩
      · next table made => exact .inr ⟨table, made⟩

end Predicate

end DirectoryQuery
