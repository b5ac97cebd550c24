/-
Module: DirectoryQuery.Proofs.Predicate.Arguments
Purpose: Which arguments a predicate takes whose placeholders have distinct indices, and where they
  go: they are bound just if they fit, each to the placeholder of its rank or of its name.
Main exports:
  Predicate.Supplies, Predicate.bind_eq_ok_iff_fit, Predicate.bind_exact
-/
import DirectoryQuery.Entity.Resolve
import DirectoryQuery.Filter.Request
import DirectoryQuery.Predicate.Equality
import DirectoryQuery.Proofs.Predicate.Filling
import DirectoryQuery.Proofs.Predicate.Keywords
import Mathlib.Data.List.Basic

namespace DirectoryQuery

namespace Predicate

variable {placeholders : List Parameter} {arguments : List Value}
  {keywords keywords' : List (String × Value)} {table : Bindings} {predicate bound : Predicate}

/-! ### Distinct indices -/

/-- Whether an assignment gives each placeholder the argument that a call supplies for it, by its rank
or else by its name. -/
def Supplies (placeholders : List Parameter) (arguments : List Value)
    (keywords : List (String × Value)) (argument : Parameter → Value) : Prop :=
  ∀ (rank : Nat) (p : Parameter), placeholders[rank]? = some p →
    argumentAt? arguments keywords rank p = some (argument p)

theorem supplies_of_bindings (distinct : (placeholders.map (·.index)).Nodup)
    (made : bindings placeholders arguments keywords = .ok table) :
    Supplies placeholders arguments keywords table.argument := by
  intro rank p listed
  obtain ⟨-, -, all⟩ := bindings_eq_ok_iff.1 made
  obtain ⟨value, found⟩ := Option.isSome_iff_exists.1 (all p (List.mem_of_getElem? listed))
  rw [← value?_of_bindings distinct made listed, Bindings.argument, found]
  rfl

/-- What a call supplies determines the filled predicate. -/
theorem Supplies.fill_eq {argument other : Parameter → Value}
    (supplies : Supplies predicate.parameters arguments keywords argument)
    (supplies' : Supplies predicate.parameters arguments keywords other) :
    predicate.fill argument = predicate.fill other := by
  apply fill_congr
  intro p found
  obtain ⟨rank, listed⟩ := List.getElem?_of_mem (mem_parameters.2 found)
  exact Option.some.inj ((supplies rank p listed).symm.trans (supplies' rank p listed))

/-- Binding is filling with what the call supplies, if it fits. -/
theorem bind_eq_ok_iff_fit (meaningful : .bare ∉ predicate.walk)
    (distinct : (predicate.parameters.map (·.index)).Nodup)
    (keyed : (keywords.map (·.1)).Nodup) :
    predicate.bind arguments keywords = .ok bound ↔
      Fit predicate.parameters arguments keywords ∧
        ∃ argument, Supplies predicate.parameters arguments keywords argument ∧
          predicate.fill argument = bound := by
  rw [bind_eq_ok_iff_fill]
  constructor
  · rintro ⟨-, table, made, filled⟩
    exact ⟨fit_of_bindings distinct made, _, supplies_of_bindings distinct made, filled⟩
  · rintro ⟨fit, argument, supplies, rfl⟩
    obtain ⟨table, made⟩ := exists_bindings distinct keyed fit
    exact ⟨.inr meaningful, table, made, (supplies_of_bindings distinct made).fill_eq supplies⟩

theorem Fit.of_perm (fit : Fit placeholders arguments keywords)
    (same : keywords'.Perm keywords) : Fit placeholders arguments keywords' := by
  refine ⟨fit.few, fun keyword found => fit.known keyword (same.mem_iff.1 found), ?_⟩
  intro p left
  rw [(same.map _).mem_iff]
  exact fit.complete p left

theorem Supplies.of_perm {argument : Parameter → Value}
    (supplies : Supplies placeholders arguments keywords argument)
    (same : keywords'.Perm keywords) (keyed : (keywords.map (·.1)).Nodup) :
    Supplies placeholders arguments keywords' argument := by
  intro rank p listed
  rw [argumentAt?, ← lookup_eq_of_perm same.symm keyed]
  exact supplies rank p listed

/-- All arguments can be given by position. -/
theorem fit_map (placeholders : List Parameter) (argument : Parameter → Value) :
    Fit placeholders (placeholders.map argument) [] := by
  refine ⟨by simp, by simp, ?_⟩
  intro p left
  simp at left

theorem supplies_map (placeholders : List Parameter) (argument : Parameter → Value) :
    Supplies placeholders (placeholders.map argument) [] argument := by
  intro rank p listed
  simp [argumentAt?, listed]

theorem Fit.nil_iff :
    Fit [] arguments keywords ↔ arguments = [] ∧ keywords = [] := by
  constructor
  · intro fit
    refine ⟨List.length_eq_zero_iff.1 (Nat.le_zero.1 fit.few), ?_⟩
    apply List.eq_nil_iff_forall_not_mem.2
    intro keyword found
    simpa using (fit.known keyword found).2
  · rintro ⟨rfl, rfl⟩
    exact ⟨by simp, by simp, by simp⟩

/-- A supplied argument was given. -/
theorem mem_of_argumentAt? {rank : Nat} {p : Parameter} {value : Value}
    (found : argumentAt? arguments keywords rank p = some value) :
    value ∈ arguments ++ keywords.map (·.2) := by
  rw [argumentAt?, Option.or_eq_some_iff] at found
  rw [List.mem_append]
  rcases found with found | ⟨-, found⟩
  · exact .inl (List.mem_of_getElem? found)
  · obtain ⟨before, after, rfl, -⟩ := List.lookup_eq_some_iff.1 found
    exact .inr (by simp)

theorem Supplies.parameters_fill {argument : Parameter → Value}
    (supplies : Supplies predicate.parameters arguments keywords argument)
    (plain : ∀ value ∈ arguments ++ keywords.map (·.2), value.parameter? = none) :
    (predicate.fill argument).parameters = [] := by
  apply Predicate.parameters_fill
  intro p found
  obtain ⟨rank, listed⟩ := List.getElem?_of_mem found
  exact plain _ (mem_of_argumentAt? (supplies rank p listed))

theorem requestFilter_eq_of_bind {entity : Entity} (plain : bound.parameters = [])
    (apart : ∀ keyword ∈ keywords, keyword.1 ∉ Entity.filterCall.ownNames)
    (binding : predicate.bind arguments keywords = .ok bound) :
    entity.requestFilter (some bound) [] [] =
      entity.requestFilter (some predicate) arguments keywords := by
  rw [Entity.requestFilter, Entity.requestFilter, Callable.clash?_eq_none.2 apart,
    Callable.clash?_eq_none.2 (by simp)]
  dsimp only
  rw [Entity.filterFor_eq_of_bind plain binding]

/-- Arguments can be bound to placeholders of distinct indices just if they fit; otherwise they are
refused.  The bound predicate differs from the predicate in that each placeholder is replaced by the
argument of its rank or of its name.  Neither the order of the keywords matters nor whether
arguments are given by name or by position, and a filter does not tell the bound predicate from the
predicate with its arguments. -/
theorem bind_exact (meaningful : .bare ∉ predicate.walk)
    (distinct : (predicate.parameters.map (·.index)).Nodup)
    (keyed : (keywords.map (·.1)).Nodup) :
    ((∃ bound, predicate.bind arguments keywords = .ok bound) ↔
        (predicate.parameters = [] ∧ arguments = [] ∧ keywords = []) ∨
          (predicate.parameters ≠ [] ∧ Fit predicate.parameters arguments keywords)) ∧
      ((∃ bound, predicate.bind arguments keywords = .ok bound) ∨
        ∃ error, predicate.bind arguments keywords = .error (.refused error)) ∧
      ∀ bound, predicate.bind arguments keywords = .ok bound →
        (∃ argument, Supplies predicate.parameters arguments keywords argument ∧
          bound = predicate.fill argument ∧
          predicate.bind (predicate.parameters.map argument) [] = .ok bound) ∧
        (∀ keywords', keywords'.Perm keywords →
          predicate.bind arguments keywords' = .ok bound) ∧
        ((∀ value ∈ arguments ++ keywords.map (·.2), value.parameter? = none) →
          (∀ keyword ∈ keywords, keyword.1 ∉ Entity.filterCall.ownNames) →
          ∀ entity : Entity, entity.requestFilter (some bound) [] [] =
            entity.requestFilter (some predicate) arguments keywords) := by
  have fits : (∃ bound, predicate.bind arguments keywords = .ok bound) ↔
      Fit predicate.parameters arguments keywords := by
    constructor
    · rintro ⟨bound, binding⟩
      exact ((bind_eq_ok_iff_fit meaningful distinct keyed).1 binding).1
    · intro fit
      obtain ⟨table, made⟩ := exists_bindings distinct keyed fit
      exact ⟨_, bind_eq_ok_iff_fill.2 ⟨.inr meaningful, table, made, rfl⟩⟩
  refine ⟨?_, ?_, ?_⟩
  · rw [fits]
    by_cases none : predicate.parameters = []
    · simp [none, Fit.nil_iff]
    · simp [none]
  · rcases exists_refused_or_bindings predicate arguments keywords with refused | ⟨table, made⟩
    · exact .inr refused
    · exact .inl (fits.2 (fit_of_bindings distinct made))
  · intro bound binding
    obtain ⟨fit, argument, supplies, rfl⟩ :=
      (bind_eq_ok_iff_fit meaningful distinct keyed).1 binding
    refine ⟨⟨argument, supplies, rfl, ?_⟩, ?_, ?_⟩
    · apply (bind_eq_ok_iff_fit meaningful distinct (by simp)).2
      exact ⟨fit_map _ _, argument, supplies_map _ _, rfl⟩
    · intro keywords' same
      apply (bind_eq_ok_iff_fit meaningful distinct ((same.map _).nodup_iff.2 keyed)).2
      exact ⟨fit.of_perm same, argument, supplies.of_perm same keyed, rfl⟩
    · intro plain apart entity
      exact requestFilter_eq_of_bind (supplies.parameters_fill plain) apart binding

/-- A predicate whose placeholders stand neither in the order of their indices nor at indices next to
each other. -/
def scattered : Predicate :=
  .composite .conjunction (.comparison (.plain "sn") .equals (.parameter ⟨5, "sn"⟩))
    [.negation (.comparison (.plain "uid") .atMost (.parameter ⟨-1, "uid"⟩)),
      .comparison (.plain "cn") .like (.text "J*")]

theorem parameters_scattered : scattered.parameters = [⟨-1, "uid"⟩, ⟨5, "sn"⟩] := by
  have found : scattered.placeholders = [⟨5, "sn"⟩, ⟨-1, "uid"⟩] := rfl
  simp [parameters, found, List.mergeSort, rankBefore]

theorem bind_exact_scattered :
    .bare ∉ scattered.walk ∧ (scattered.parameters.map (·.index)).Nodup ∧
      ∃ bound, scattered.bind [.int 7] [("sn", .text "Smith")] = .ok bound ∧
        scattered.bind [.int 7, .text "Smith"] [] = .ok bound ∧
        ∀ entity : Entity, entity.requestFilter (some bound) [] [] =
          entity.requestFilter (some scattered) [.int 7] [("sn", .text "Smith")] := by
  have meaningful : .bare ∉ scattered.walk := by decide
  have distinct : (scattered.parameters.map (·.index)).Nodup := by
    rw [parameters_scattered]
    decide
  have fit : Fit scattered.parameters [.int 7] [("sn", .text "Smith")] := by
    rw [parameters_scattered]
    exact ⟨by simp, by simp, by simp⟩
  have some : scattered.parameters ≠ [] := by simp [parameters_scattered]
  obtain ⟨succeeds, -, outcome⟩ := @bind_exact [.int 7] [("sn", .text "Smith")] scattered
    meaningful distinct (by simp)
  obtain ⟨bound, binding⟩ := succeeds.2 (.inr ⟨some, fit⟩)
  obtain ⟨⟨argument, supplies, -, positional⟩, -, same⟩ := outcome bound binding
  rw [parameters_scattered] at supplies positional
  have number : argument ⟨-1, "uid"⟩ = .int 7 := (Option.some.inj (supplies 0 _ rfl)).symm
  have name : argument ⟨5, "sn"⟩ = .text "Smith" := (Option.some.inj (supplies 1 _ rfl)).symm
  rw [List.map_cons, List.map_singleton, number, name] at positional
  exact ⟨meaningful, distinct, bound, binding, positional,
    same (by simp [Value.parameter?]) (by simp [Entity.filterCall])⟩

end Predicate

namespace Entity

/-- An entity with a property that is called as an argument of the operation that makes filters. -/
def agent : Entity where
  name := "Agent"
  objectClasses := ["o"]
  attributes := [PropertyDescriptor.resolve { name := "self" }]
  base := ⟨[]⟩

/-- A predicate that asks for the property of agents. -/
def askedForSelf : Predicate := .comparison (.plain "self") .equals (.parameter ⟨0, "self"⟩)

/-- The predicate with its argument. -/
def boundSelf : Predicate := .comparison (.plain "self") .equals (.text "x")

/-- The keyword can be bound, but a filter cannot be asked for with it. -/
theorem requestFilter_clash_self :
    askedForSelf.bind [] [("self", .text "x")] = .ok boundSelf ∧
      agent.requestFilter (some askedForSelf) [] [("self", .text "x")] =
        .error (.clash ⟨"FilterCompiler.compile", "self"⟩) ∧
      agent.requestFilter (some boundSelf) [] [] =
        .ok (.composite .conjunction
          [.equality "objectclass" (.text ['o']), .equality "self" (.text ['x'])]) := by
  have closed : boundSelf.bind [] [] = .ok boundSelf := by decide +kernel
  refine ⟨by decide +kernel, rfl, ?_⟩
  rw [requestFilter, filterFor, closed]
  rfl

end Entity

end DirectoryQuery
