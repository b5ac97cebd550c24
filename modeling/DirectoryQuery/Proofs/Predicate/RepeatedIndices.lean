/-
Module: DirectoryQuery.Proofs.Predicate.RepeatedIndices
Purpose: What becomes of arguments when indices of placeholders repeat.  As long as the arguments by
  position go to placeholders of distinct indices, there is one argument for each index, and none
  gets lost; otherwise there are more arguments than indices.
Main exports:
  Predicate.bindings_eq_append, Predicate.values_of_bindings, Predicate.mem_keys_of_bindings,
  Predicate.nodup_keys_of_bindings, Predicate.card_indices_of_bindings, Predicate.arguments_kept
-/
import DirectoryQuery.Predicate.Equality
import DirectoryQuery.Proofs.Predicate.Filling
import DirectoryQuery.Proofs.Predicate.Keywords
import Mathlib.Data.Finset.Card

namespace DirectoryQuery.Predicate

variable {placeholders : List Parameter} {arguments : List Value}
  {keywords : List (String × Value)} {table : Bindings} {predicate : Predicate}

/-! ### Arguments and their indices -/

theorem bindPositions_eq (placeholders : List Parameter) (arguments : List Value) :
    bindPositions placeholders arguments =
      ((placeholders.zip arguments).map fun pair => (pair.1.index, pair.2)).reverse := by
  simp [bindPositions, Bindings.insert, List.foldl_flip_cons_eq_append]

theorem keys_bindPositions (few : arguments.length ≤ placeholders.length) :
    (bindPositions placeholders arguments).map (·.1) =
      ((placeholders.take arguments.length).map (·.index)).reverse := by
  have zipped : (placeholders.zip arguments).map Prod.fst =
      placeholders.take arguments.length := by
    rw [List.zip_eq_zip_take_min, Nat.min_eq_right few, List.take_length]
    exact List.map_fst_zip (by simp)
  rw [bindPositions_eq, ← zipped]
  simp

theorem values_bindPositions (few : arguments.length ≤ placeholders.length) :
    (bindPositions placeholders arguments).map (·.2) = arguments.reverse := by
  rw [bindPositions_eq, List.map_reverse, List.map_map]
  congr 1
  exact List.map_snd_zip few

/-- The arguments by position, the last one first, come after those by name, which are for indices
of their own. -/
theorem bindings_eq_append (made : bindings placeholders arguments keywords = .ok table) :
    ∃ added : Bindings, table = added ++ bindPositions placeholders arguments ∧
      added.map (·.2) = (keywords.map (·.2)).reverse ∧ (added.map (·.1)).Nodup ∧
      ∀ index ∈ added.map (·.1),
        index ∉ (placeholders.take arguments.length).map (·.index) ∧
          index ∈ placeholders.map (·.index) := by
  obtain ⟨few, named, -⟩ := bindings_eq_ok_iff.1 made
  obtain ⟨added, rfl, values, apart, fresh⟩ := bindKeywords_eq_append named
  refine ⟨added, rfl, values, apart, ?_⟩
  intro index found
  have fresh := fresh index found
  rwa [keys_bindPositions few, List.mem_reverse] at fresh

theorem values_of_bindings (made : bindings placeholders arguments keywords = .ok table) :
    table.map (·.2) = (arguments ++ keywords.map (·.2)).reverse := by
  obtain ⟨few, -, -⟩ := bindings_eq_ok_iff.1 made
  obtain ⟨added, rfl, values, -, -⟩ := bindings_eq_append made
  rw [List.map_append, values, values_bindPositions few, List.reverse_append]

/-- There are arguments for the indices of the placeholders, and for no others. -/
theorem mem_keys_of_bindings (made : bindings placeholders arguments keywords = .ok table)
    {index : Int} : index ∈ table.map (·.1) ↔ index ∈ placeholders.map (·.index) := by
  obtain ⟨few, -, all⟩ := bindings_eq_ok_iff.1 made
  constructor
  · intro found
    obtain ⟨added, rfl, -, -, fresh⟩ := bindings_eq_append made
    rw [List.map_append, List.mem_append, keys_bindPositions few, List.mem_reverse] at found
    rcases found with found | found
    · exact (fresh index found).2
    · exact List.map_subset _ (List.take_subset _ _) found
  · intro listed
    obtain ⟨p, found, rfl⟩ := List.mem_map.1 listed
    exact lookup_isSome_iff_mem_keys.1 (all p found)

/-- An index has two arguments only if two arguments by position go to placeholders of it. -/
theorem nodup_keys_of_bindings (made : bindings placeholders arguments keywords = .ok table) :
    (table.map (·.1)).Nodup ↔
      ((placeholders.take arguments.length).map (·.index)).Nodup := by
  obtain ⟨few, -, -⟩ := bindings_eq_ok_iff.1 made
  obtain ⟨added, rfl, -, apart, fresh⟩ := bindings_eq_append made
  rw [List.map_append, keys_bindPositions few, List.nodup_append, List.nodup_reverse]
  constructor
  · intro whole
    exact whole.2.1
  · intro positions
    refine ⟨apart, positions, ?_⟩
    rintro index found _ taken rfl
    exact (fresh index found).1 (List.mem_reverse.1 taken)

/-- There is one argument for each index just if those by position go to placeholders of distinct
indices. -/
theorem card_indices_of_bindings
    (made : bindings placeholders arguments keywords = .ok table) :
    arguments.length + keywords.length = (placeholders.map (·.index)).toFinset.card ↔
      ((placeholders.take arguments.length).map (·.index)).Nodup := by
  have same : (placeholders.map (·.index)).toFinset = (table.map (·.1)).toFinset := by
    ext index
    rw [List.mem_toFinset, List.mem_toFinset, mem_keys_of_bindings made]
  have length : arguments.length + keywords.length = (table.map (·.1)).length := by
    have values := congrArg List.length (values_of_bindings made)
    simpa [Nat.add_comm] using values.symm
  rw [← nodup_keys_of_bindings made, same, length, eq_comm]
  exact Multiset.toFinset_card_eq_card_iff_nodup

theorem indices_eq (predicate : Predicate) :
    (predicate.parameters.map (·.index)).toFinset =
      (predicate.placeholders.map (·.index)).toFinset :=
  List.toFinset_eq_of_perm _ _ ((List.mergeSort_perm _ _).map _)

/-! ### No argument gets lost -/

/-- Each argument is the value of a comparison, if no two arguments by position are for one index. -/
theorem exists_comparison_of_bindings
    (made : bindings predicate.parameters arguments keywords = .ok table)
    (apart : ((predicate.parameters.take arguments.length).map (·.index)).Nodup) {value : Value}
    (given : value ∈ arguments ++ keywords.map (·.2)) :
    ∃ property operator,
      comparison property operator value ∈ (predicate.fill table.argument).walk := by
  have held : value ∈ table.map (·.2) := by
    rwa [values_of_bindings made, List.mem_reverse]
  obtain ⟨⟨index, _⟩, entry, rfl⟩ := List.mem_map.1 held
  have known := (mem_keys_of_bindings made).1 (List.mem_map_of_mem entry)
  obtain ⟨p, found, rfl⟩ := List.mem_map.1 known
  obtain ⟨property, operator, inside⟩ := @exists_comparison_fill table.argument _ _ found
  have bound := (lookup_eq_some_iff_mem ((nodup_keys_of_bindings made).2 apart)).2 entry
  rw [Bindings.argument, Bindings.value?, bound] at inside
  exact ⟨property, operator, inside⟩

/-- When arguments are bound, there are as many as there are indices of placeholders just if those by
position go to placeholders of distinct indices.  Then none of them gets lost, and any other number
of arguments is refused. -/
theorem arguments_kept (predicate : Predicate) (arguments : List Value)
    (keywords : List (String × Value)) :
    (∀ bound, predicate.bind arguments keywords = .ok bound →
        (arguments.length + keywords.length =
            (predicate.placeholders.map (·.index)).toFinset.card ↔
          ((predicate.parameters.take arguments.length).map (·.index)).Nodup) ∧
        (((predicate.parameters.take arguments.length).map (·.index)).Nodup →
          ∀ value ∈ arguments ++ keywords.map (·.2),
            ∃ property operator, comparison property operator value ∈ bound.walk)) ∧
      (((predicate.parameters.take arguments.length).map (·.index)).Nodup →
        arguments.length + keywords.length ≠
            (predicate.placeholders.map (·.index)).toFinset.card →
          ∃ error, predicate.bind arguments keywords = .error (.refused error)) := by
  rw [← indices_eq]
  constructor
  · intro bound binding
    obtain ⟨-, table, made, rfl⟩ := bind_eq_ok_iff_fill.1 binding
    exact ⟨card_indices_of_bindings made,
      fun apart value => exists_comparison_of_bindings made apart⟩
  · intro apart miscounted
    rcases exists_refused_or_bindings predicate arguments keywords with refused | ⟨table, made⟩
    · exact refused
    · exact absurd ((card_indices_of_bindings made).2 apart) miscounted

/-- A predicate with two placeholders of one index. -/
def askedTwice : Predicate :=
  .composite .conjunction (.comparison (.plain "a") .equals (.parameter ⟨0, "a"⟩))
    [.comparison (.plain "b") .equals (.parameter ⟨0, "b"⟩)]

/-- The predicate with one argument for both. -/
def answeredTwice (value : Value) : Predicate :=
  .composite .conjunction (.comparison (.plain "a") .equals value)
    [.comparison (.plain "b") .equals value]

theorem parameters_askedTwice : askedTwice.parameters = [⟨0, "a"⟩, ⟨0, "b"⟩] := by
  have found : askedTwice.placeholders = [⟨0, "a"⟩, ⟨0, "b"⟩] := rfl
  simp [parameters, found, List.mergeSort, rankBefore]

theorem arguments_kept_askedTwice :
    askedTwice.bind [.int 1] [] = .ok (answeredTwice (.int 1)) ∧
      (askedTwice.placeholders.map (·.index)).toFinset.card = 1 ∧
      (∃ property operator,
        comparison property operator (.int 1) ∈ (answeredTwice (.int 1)).walk) ∧
      ∃ error, askedTwice.bind [] [] = .error (.refused error) := by
  have binding : askedTwice.bind [.int 1] [] = .ok (answeredTwice (.int 1)) := by
    unfold bind
    rw [parameters_askedTwice]
    rfl
  have one : ((askedTwice.parameters.take [Value.int 1].length).map (·.index)).Nodup := by
    rw [parameters_askedTwice]
    decide
  obtain ⟨counted, kept⟩ := (arguments_kept askedTwice [.int 1] []).1 _ binding
  refine ⟨binding, (counted.2 one).symm, kept one _ (by simp), ?_⟩
  exact (arguments_kept askedTwice [] []).2 (by simp) (by decide)

/-- Of two arguments by position for one index, the first one gets lost. -/
theorem argument_lost :
    askedTwice.bind [.int 1, .int 2] [] = .ok (answeredTwice (.int 2)) ∧
      (askedTwice.placeholders.map (·.index)).toFinset.card = 1 ∧
      ¬ ∃ property operator,
        comparison property operator (.int 1) ∈ (answeredTwice (.int 2)).walk := by
  refine ⟨?_, rfl, ?_⟩
  · unfold bind
    rw [parameters_askedTwice]
    rfl
  · simp [answeredTwice, walk, walkAll]

end DirectoryQuery.Predicate
