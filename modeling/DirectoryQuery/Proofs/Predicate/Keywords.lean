/-
Module: DirectoryQuery.Proofs.Predicate.Keywords
Purpose: Binding by name.  A keyword takes effect if it names just one placeholder, for whose index
  there is no argument yet; the argument table then has what the positions and the keywords say.
Main exports:
  Predicate.IsSole, Predicate.bindKeyword_eq_ok_iff, Predicate.bindKeywords_eq_append,
  Predicate.value?_bindKeywords, Predicate.exists_bindKeywords, Predicate.Fit,
  Predicate.argumentAt?, Predicate.value?_of_bindings, Predicate.fit_of_bindings,
  Predicate.exists_bindings
-/
import DirectoryQuery.Proofs.Association
import DirectoryQuery.Proofs.Predicate.Binding

namespace DirectoryQuery.Predicate

variable {placeholders : List Parameter} {arguments : List Value}
  {keywords : List (String × Value)} {table bound : Bindings}

/-! ### Placeholders of a name -/

/-- Whether a placeholder is the only one of a name. -/
def IsSole (placeholders : List Parameter) (name : String) (p : Parameter) : Prop :=
  placeholders.filter (·.name == name) = [p]

namespace IsSole

variable {name other : String} {p q : Parameter}

theorem mem_iff (sole : IsSole placeholders name p) :
    q ∈ placeholders ∧ q.name = name ↔ q = p := by
  have listed : q ∈ placeholders.filter (·.name == name) ↔ q = p := by
    rw [sole, List.mem_singleton]
  simpa using listed

theorem mem (sole : IsSole placeholders name p) : p ∈ placeholders := (sole.mem_iff.2 rfl).1

theorem name_eq (sole : IsSole placeholders name p) : p.name = name := (sole.mem_iff.2 rfl).2

end IsSole

theorem exists_isSole_iff {name : String} :
    (∃ p, IsSole placeholders name p) ↔ (placeholders.map (·.name)).count name = 1 := by
  rw [List.count, List.countP_map, List.countP_eq_length_filter, List.length_eq_one_iff]
  rfl

/-- Placeholders with distinct indices are told apart by their indices. -/
theorem eq_of_index_eq (distinct : (placeholders.map (·.index)).Nodup) {p q : Parameter}
    (here : p ∈ placeholders) (there : q ∈ placeholders) (same : p.index = q.index) : p = q :=
  List.inj_on_of_nodup_map distinct here there same

/-! ### One keyword -/

theorem bindKeyword_eq_ok_iff {name : String} {value : Value} :
    bindKeyword placeholders table name value = .ok bound ↔
      ∃ p, IsSole placeholders name p ∧ table.value? p.index = none ∧
        bound = table.insert p.index value := by
  unfold bindKeyword IsSole
  cases placeholders.filter (·.name == name) with
  | nil => simp
  | cons p others =>
      cases others with
      | nil => cases taken : table.value? p.index <;> simp [taken, eq_comm]
      | cons q rest => simp

theorem bindKeywords_cons_eq_ok_iff {name : String} {value : Value} :
    bindKeywords placeholders table ((name, value) :: keywords) = .ok bound ↔
      ∃ p, IsSole placeholders name p ∧ table.value? p.index = none ∧
        bindKeywords placeholders (table.insert p.index value) keywords = .ok bound := by
  rw [bindKeywords]
  split
  · next step made =>
      obtain ⟨p, sole, free, rfl⟩ := bindKeyword_eq_ok_iff.1 made
      constructor
      · intro rest
        exact ⟨p, sole, free, rest⟩
      · rintro ⟨q, sole', -, rest⟩
        cases sole'.symm.trans sole
        exact rest
  · next error failed =>
      constructor
      · intro made
        cases made
      · rintro ⟨p, sole, free, -⟩
        rw [bindKeyword_eq_ok_iff.2 ⟨p, sole, free, rfl⟩] at failed
        cases failed

/-! ### All keywords -/

/-- Keywords add an argument each, for indices of placeholders that had none. -/
theorem bindKeywords_eq_append (made : bindKeywords placeholders table keywords = .ok bound) :
    ∃ added : Bindings, bound = added ++ table ∧
      added.map (·.2) = (keywords.map (·.2)).reverse ∧ (added.map (·.1)).Nodup ∧
      ∀ index ∈ added.map (·.1),
        index ∉ table.map (·.1) ∧ index ∈ placeholders.map (·.index) := by
  induction keywords generalizing table with
  | nil =>
      cases made
      exact ⟨[], by simp⟩
  | cons keyword rest ih =>
      obtain ⟨name, value⟩ := keyword
      obtain ⟨p, sole, free, more⟩ := bindKeywords_cons_eq_ok_iff.1 made
      obtain ⟨added, rfl, values, apart, fresh⟩ := ih more
      have free : p.index ∉ table.map (·.1) := lookup_eq_none_iff_notMem_keys.1 free
      refine ⟨added ++ [(p.index, value)], by simp [Bindings.insert], by simp [values], ?_, ?_⟩
      · rw [List.map_append, List.nodup_append]
        refine ⟨apart, by simp, ?_⟩
        intro index found other here same
        rw [List.map_singleton, List.mem_singleton] at here
        subst here same
        exact (fresh _ found).1 (by simp [Bindings.insert])
      · intro index found
        rw [List.map_append, List.mem_append] at found
        rcases found with found | found
        · obtain ⟨absent, listed⟩ := fresh index found
          refine ⟨?_, listed⟩
          intro taken
          exact absent (List.mem_cons_of_mem _ taken)
        · rw [List.map_singleton, List.mem_singleton] at found
          subst found
          exact ⟨free, List.mem_map_of_mem sole.mem⟩

/-- Each keyword names just one placeholder, and there was no argument for it. -/
theorem isSole_of_bindKeywords (made : bindKeywords placeholders table keywords = .ok bound) :
    ∀ keyword ∈ keywords,
      ∃ p, IsSole placeholders keyword.1 p ∧ table.value? p.index = none := by
  induction keywords generalizing table with
  | nil => simp
  | cons keyword rest ih =>
      obtain ⟨name, value⟩ := keyword
      obtain ⟨p, sole, free, more⟩ := bindKeywords_cons_eq_ok_iff.1 made
      intro keyword found
      rcases List.mem_cons.1 found with rfl | found
      · exact ⟨p, sole, free⟩
      · obtain ⟨q, sole', free'⟩ := ih more keyword found
        rw [Bindings.value?_insert] at free'
        split at free'
        · cases free'
        · exact ⟨q, sole', free'⟩

/-- A placeholder gets the argument it had before, else that of the keyword with its name. -/
theorem value?_bindKeywords (distinct : (placeholders.map (·.index)).Nodup)
    (made : bindKeywords placeholders table keywords = .ok bound) {p : Parameter}
    (listed : p ∈ placeholders) :
    bound.value? p.index = (table.value? p.index).or (keywords.lookup p.name) := by
  induction keywords generalizing table with
  | nil =>
      cases made
      simp
  | cons keyword rest ih =>
      obtain ⟨name, value⟩ := keyword
      obtain ⟨q, sole, free, more⟩ := bindKeywords_cons_eq_ok_iff.1 made
      rw [ih more, Bindings.value?_insert, List.lookup_cons]
      by_cases named : p.name = name
      · cases sole.mem_iff.1 ⟨listed, named⟩
        simp [named, free]
      · have different : p.index ≠ q.index := by
          intro same
          apply named
          rw [eq_of_index_eq distinct listed sole.mem same, sole.name_eq]
        rw [if_neg different, beq_eq_false_iff_ne.2 named]

/-- Different keywords for placeholders without arguments do not get in each other's way. -/
theorem exists_bindKeywords (distinct : (placeholders.map (·.index)).Nodup)
    (keyed : (keywords.map (·.1)).Nodup)
    (known : ∀ keyword ∈ keywords,
      ∃ p, IsSole placeholders keyword.1 p ∧ table.value? p.index = none) :
    ∃ bound, bindKeywords placeholders table keywords = .ok bound := by
  induction keywords generalizing table with
  | nil => exact ⟨table, rfl⟩
  | cons keyword rest ih =>
      obtain ⟨name, value⟩ := keyword
      obtain ⟨⟨p, sole, free⟩, known⟩ := List.forall_mem_cons.1 known
      rw [List.map_cons, List.nodup_cons] at keyed
      obtain ⟨fresh, keyed⟩ := keyed
      have still : ∀ keyword ∈ rest,
          ∃ q, IsSole placeholders keyword.1 q ∧
            (table.insert p.index value).value? q.index = none := by
        intro keyword found
        obtain ⟨q, sole', free'⟩ := known keyword found
        refine ⟨q, sole', ?_⟩
        have different : q.index ≠ p.index := by
          intro same
          have names := eq_of_index_eq distinct sole'.mem sole.mem same
          rw [← sole.name_eq, ← names, sole'.name_eq] at fresh
          exact fresh (List.mem_map_of_mem found)
        rw [Bindings.value?_insert, if_neg different, free']
      obtain ⟨bound, made⟩ := ih keyed still
      exact ⟨bound, bindKeywords_cons_eq_ok_iff.2 ⟨p, sole, free, made⟩⟩

/-! ### Positions and keywords together -/

/-- How arguments fit placeholders, which stand in the order of their ranks: there are not too many,
each keyword is the name of one placeholder, one that has no argument by position, and all these
are named. -/
structure Fit (placeholders : List Parameter) (arguments : List Value)
    (keywords : List (String × Value)) : Prop where
  few : arguments.length ≤ placeholders.length
  known : ∀ keyword ∈ keywords,
    (placeholders.map (·.name)).count keyword.1 = 1 ∧
      keyword.1 ∈ (placeholders.drop arguments.length).map (·.name)
  complete : ∀ p ∈ placeholders.drop arguments.length, p.name ∈ keywords.map (·.1)

/-- The argument for the placeholder of a rank. -/
def argumentAt? (arguments : List Value) (keywords : List (String × Value)) (rank : Nat)
    (p : Parameter) : Option Value :=
  arguments[rank]?.or (keywords.lookup p.name)

theorem mem_drop_iff {p : Parameter} :
    p ∈ placeholders.drop arguments.length ↔
      ∃ rank : Nat, placeholders[rank]? = some p ∧ arguments[rank]? = none := by
  simp only [List.mem_iff_getElem?, List.getElem?_drop, List.getElem?_eq_none_iff]
  constructor
  · rintro ⟨place, listed⟩
    exact ⟨_, listed, Nat.le_add_right _ _⟩
  · rintro ⟨rank, listed, beyond⟩
    refine ⟨rank - arguments.length, ?_⟩
    rwa [Nat.add_sub_cancel' beyond]

theorem value?_of_bindings (distinct : (placeholders.map (·.index)).Nodup)
    (made : bindings placeholders arguments keywords = .ok bound) {rank : Nat} {p : Parameter}
    (listed : placeholders[rank]? = some p) :
    bound.value? p.index = argumentAt? arguments keywords rank p := by
  obtain ⟨-, made, -⟩ := bindings_eq_ok_iff.1 made
  rw [value?_bindKeywords distinct made (List.mem_of_getElem? listed),
    value?_bindPositions distinct listed, argumentAt?]

theorem fit_of_bindings (distinct : (placeholders.map (·.index)).Nodup)
    (made : bindings placeholders arguments keywords = .ok bound) :
    Fit placeholders arguments keywords := by
  obtain ⟨few, named, all⟩ := bindings_eq_ok_iff.1 made
  refine ⟨few, ?_, ?_⟩
  · intro keyword found
    obtain ⟨p, sole, free⟩ := isSole_of_bindKeywords named keyword found
    obtain ⟨rank, listed⟩ := List.getElem?_of_mem sole.mem
    rw [value?_bindPositions distinct listed] at free
    refine ⟨exists_isSole_iff.1 ⟨p, sole⟩, ?_⟩
    exact List.mem_map.2 ⟨p, mem_drop_iff.2 ⟨rank, listed, free⟩, sole.name_eq⟩
  · intro p left
    obtain ⟨rank, listed, free⟩ := mem_drop_iff.1 left
    have given := all p (List.mem_of_getElem? listed)
    rw [value?_of_bindings distinct made listed, argumentAt?, free, Option.none_or] at given
    exact lookup_isSome_iff_mem_keys.1 given

theorem Fit.isSome_argumentAt? (fit : Fit placeholders arguments keywords) {rank : Nat}
    {p : Parameter} (listed : placeholders[rank]? = some p) :
    (argumentAt? arguments keywords rank p).isSome = true := by
  rw [argumentAt?]
  cases free : arguments[rank]? with
  | some argument => rfl
  | none =>
      have left := mem_drop_iff.2 ⟨rank, listed, free⟩
      rw [Option.none_or]
      exact lookup_isSome_iff_mem_keys.2 (fit.complete p left)

theorem exists_bindings (distinct : (placeholders.map (·.index)).Nodup)
    (keyed : (keywords.map (·.1)).Nodup) (fit : Fit placeholders arguments keywords) :
    ∃ bound, bindings placeholders arguments keywords = .ok bound := by
  have known : ∀ keyword ∈ keywords, ∃ p, IsSole placeholders keyword.1 p ∧
      (bindPositions placeholders arguments).value? p.index = none := by
    intro keyword found
    obtain ⟨once, left⟩ := fit.known keyword found
    obtain ⟨p, sole⟩ := exists_isSole_iff.2 once
    obtain ⟨q, left, named⟩ := List.mem_map.1 left
    obtain ⟨rank, listed, free⟩ := mem_drop_iff.1 left
    obtain rfl := sole.mem_iff.1 ⟨List.mem_of_getElem? listed, named⟩
    exact ⟨q, sole, (value?_bindPositions distinct listed).trans free⟩
  obtain ⟨bound, made⟩ := exists_bindKeywords distinct keyed known
  refine ⟨bound, bindings_eq_ok_iff.2 ⟨fit.few, made, ?_⟩⟩
  intro p found
  obtain ⟨rank, listed⟩ := List.getElem?_of_mem found
  have given := fit.isSome_argumentAt? listed
  rwa [argumentAt?, ← value?_bindPositions distinct listed,
    ← value?_bindKeywords distinct made found] at given

end DirectoryQuery.Predicate
