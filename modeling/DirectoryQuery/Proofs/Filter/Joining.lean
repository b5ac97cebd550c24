/-
Module: DirectoryQuery.Proofs.Filter.Joining
Purpose: Joining predicates forgets how they were bracketed, and filters follow it: the filter of a
  conjunction holds what both sides put behind the object classes, that of a disjunction one branch
  with the alternatives of both, and it fails just if a side does.
Main exports:
  Predicate.operands_join, Predicate.join_assoc, Predicate.filters_append, Predicate.filtersText,
  Predicate.findSome?_walk_join, Entity.classText, Entity.filterText, Entity.filterText_join
-/
import DirectoryQuery.Proofs.Filter.Failure

namespace DirectoryQuery

theorem Filter.writtenAll_append (front rest : List Filter) :
    writtenAll (front ++ rest) = writtenAll front ++ writtenAll rest := by
  induction front with
  | nil => rfl
  | cons filter more ih => rw [List.cons_append, writtenAll, ih, writtenAll, List.append_assoc]

/-! ### Joined predicates -/

namespace Predicate

/-- A joined predicate is a composite of what its sides contribute, as they are. -/
theorem exists_join_eq (kind : Connective) (left right : Predicate) :
    ∃ first others, join kind left right = .composite kind first others ∧
      first :: others = left.operands kind ++ right.operands kind := by
  have composed := compose?_operands kind left right
  cases parts : left.operands kind ++ right.operands kind with
  | nil => exact absurd (List.append_eq_nil_iff.1 parts).1 (operands_ne_nil kind left)
  | cons first others =>
      rw [parts, compose?, Option.some.injEq] at composed
      exact ⟨first, others, composed.symm, rfl⟩

/-- A joined predicate contributes what its sides contribute. -/
theorem operands_join (kind : Connective) (left right : Predicate) :
    (join kind left right).operands kind = left.operands kind ++ right.operands kind := by
  obtain ⟨first, others, joined, parts⟩ := exists_join_eq kind left right
  rw [joined, ← parts]
  exact if_pos rfl

/-- It does not matter which two of three predicates are joined first. -/
theorem join_assoc (kind : Connective) (a b c : Predicate) :
    join kind (join kind a b) c = join kind a (join kind b c) := by
  apply Option.some_injective
  calc some (join kind (join kind a b) c)
    _ = compose? kind ((a.operands kind ++ b.operands kind) ++ c.operands kind) := by
      rw [← compose?_operands, operands_join]
    _ = compose? kind (a.operands kind ++ (b.operands kind ++ c.operands kind)) := by
      rw [List.append_assoc]
    _ = some (join kind a (join kind b c)) := by
      rw [← operands_join, compose?_operands]

theorem flatMap_placeholders_operands (kind : Connective) (predicate : Predicate) :
    (predicate.operands kind).flatMap placeholders = predicate.placeholders := by
  cases predicate with
  | composite other first others =>
      by_cases same : other = kind
      · rw [operands, if_pos same, placeholders_composite]
      · rw [operands, if_neg same, List.flatMap_singleton]
  | _ => exact List.flatMap_singleton _ _

theorem placeholders_join (kind : Connective) (left right : Predicate) :
    (join kind left right).placeholders = left.placeholders ++ right.placeholders := by
  obtain ⟨first, others, joined, parts⟩ := exists_join_eq kind left right
  rw [joined, placeholders_composite, parts, List.flatMap_append, flatMap_placeholders_operands,
    flatMap_placeholders_operands]

theorem parameters_join_eq_nil {left right : Predicate} (kind : Connective)
    (closed : left.parameters = []) (closed' : right.parameters = []) :
    (join kind left right).parameters = [] := by
  rw [parameters_eq_nil_iff] at closed closed' ⊢
  rw [placeholders_join, closed, closed', List.append_nil]

/-! ### Filters of joined predicates -/

section

variable (entity : Entity)

/-- Predicates one after the other have their filters one after the other. -/
theorem filters_append (front rest : List Predicate) :
    filters entity (front ++ rest) =
      (filters entity front).bind fun made => (filters entity rest).map (made ++ ·) := by
  induction front with
  | nil =>
      rw [List.nil_append]
      cases filters entity rest <;> rfl
  | cons predicate more ih =>
      rw [List.cons_append, filters, filters, ih]
      cases predicate.filter entity with
      | error error => rfl
      | ok head => cases filters entity more <;> cases filters entity rest <;> rfl

theorem filter_composite (kind : Connective) (first : Predicate) (others : List Predicate) :
    (composite kind first others).filter entity =
      (filters entity (first :: others)).map (.composite kind) := by
  rw [filter, filters]
  cases first.filter entity with
  | error error => rfl
  | ok head => cases filters entity others <;> rfl

theorem filter_join (kind : Connective) (left right : Predicate) :
    (join kind left right).filter entity =
      (filters entity (left.operands kind ++ right.operands kind)).map (.composite kind) := by
  obtain ⟨first, others, joined, parts⟩ := exists_join_eq kind left right
  rw [joined, filter_composite, parts]

/-- The first fault of a joined predicate is that of its left side, or else of its right side. -/
theorem findSome?_walk_join (kind : Connective) (left right : Predicate) :
    (join kind left right).walk.findSome? (fault? entity) =
      (left.walk.findSome? (fault? entity)).or (right.walk.findSome? (fault? entity)) := by
  rw [← findSome?_walkAll_operands entity kind, operands_join, walkAll_eq_flatMap,
    List.flatMap_append, List.findSome?_append, ← walkAll_eq_flatMap, ← walkAll_eq_flatMap,
    findSome?_walkAll_operands, findSome?_walkAll_operands]

/-- The texts of the filters of predicates, one after the other. -/
def filtersText (predicates : List Predicate) : Except FilterError String :=
  (filters entity predicates).map fun made => String.ofList (Filter.writtenAll made)

theorem filtersText_append (front rest : List Predicate) :
    filtersText entity (front ++ rest) =
      (filtersText entity front).bind fun text => (filtersText entity rest).map (text ++ ·) := by
  unfold filtersText
  rw [filters_append]
  cases filters entity front with
  | error error => rfl
  | ok made =>
      cases filters entity rest with
      | error error => rfl
      | ok others => simp [Except.bind, Except.map, Filter.writtenAll_append]

end

/-- Two predicates joined to a disjunction are a single conjunct, with the alternatives that the sides
contribute. -/
theorem filtersText_conjuncts_disjunction {entity : Entity} {left right : Predicate}
    {front rest : String} (made : filtersText entity (left.operands .disjunction) = .ok front)
    (made' : filtersText entity (right.operands .disjunction) = .ok rest) :
    filtersText entity (join .disjunction left right).conjuncts =
      .ok ("(|" ++ front ++ rest ++ ")") := by
  obtain ⟨first, others, joined, -⟩ := exists_join_eq .disjunction left right
  have alone : (join .disjunction left right).conjuncts = [join .disjunction left right] := by
    rw [joined]
    rfl
  obtain ⟨alternatives, built, texts⟩ : ∃ alternatives,
      filters entity (left.operands .disjunction ++ right.operands .disjunction) =
          .ok alternatives ∧
        String.ofList (Filter.writtenAll alternatives) = front ++ rest := by
    rw [← map_eq_ok_iff]
    change filtersText entity _ = _
    rw [filtersText_append, made, made']
    rfl
  have branch : (join .disjunction left right).filter entity =
      .ok (.composite .disjunction alternatives) := by
    rw [filter_join, built]
    rfl
  have branches : filters entity [join .disjunction left right] =
      .ok [.composite .disjunction alternatives] := by
    rw [filters, branch]
    rfl
  rw [alone, filtersText, branches]
  apply congrArg Except.ok
  apply String.toList_inj.1
  have letters := congrArg String.toList texts
  rw [String.toList_ofList, String.toList_append] at letters
  simp [Filter.writtenAll, Filter.written, Filter.mark, letters]

end Predicate

namespace Entity

/-- The tests for the object classes of an entity as they stand at the front of its filters. -/
def classText (entity : Entity) : String := String.ofList (Filter.writtenAll entity.classTests)

/-- The text of the filter for a predicate that asks for no arguments. -/
def filterText (entity : Entity) (predicate : Predicate) : Except CompilationError String :=
  (entity.filterFor (some predicate) [] []).map Filter.text

variable {entity : Entity} {predicate : Predicate}

/-- The filter for a predicate holds the filters of its conjuncts behind the object classes. -/
theorem filterText_eq (closed : predicate.parameters = []) :
    entity.filterText predicate =
      ((Predicate.filtersText entity predicate.conjuncts).map fun body =>
        "(&" ++ entity.classText ++ body ++ ")").mapError .condition := by
  unfold filterText filterFor Predicate.filtersText
  dsimp only
  rw [(Predicate.bind_nil_eq_ok_iff closed).2 ⟨rfl, rfl⟩]
  dsimp only
  cases Predicate.filters entity predicate.conjuncts with
  | error error => rfl
  | ok branches =>
      apply congrArg Except.ok
      apply String.toList_inj.1
      simp [Filter.text, Filter.written, Filter.writtenAll_append, Filter.mark, classText]

/-- A filter for a predicate starts with the object classes, and what stands behind them is what the
conjuncts have. -/
theorem filterText_eq_ok_iff (closed : predicate.parameters = []) {body : String} :
    entity.filterText predicate = .ok ("(&" ++ entity.classText ++ body ++ ")") ↔
      Predicate.filtersText entity predicate.conjuncts = .ok body := by
  rw [filterText_eq closed, mapError_eq_ok_iff, map_eq_ok_iff]
  constructor
  · rintro ⟨other, made, same⟩
    have bodies : other = body := by
      have letters := congrArg String.toList same
      apply String.toList_inj.1
      simpa using letters
    rw [made, bodies]
  · intro made
    exact ⟨body, made, rfl⟩

/-- The filter for a predicate fails just if the predicate has a fault, and then with the first. -/
theorem filterText_eq_error_iff (closed : predicate.parameters = []) {error : CompilationError} :
    entity.filterText predicate = .error error ↔
      ∃ fault, predicate.walk.findSome? (Predicate.fault? entity) = some fault ∧
        error = .condition fault := by
  rw [filterText_eq closed, mapError_eq_error_iff, ← Predicate.refusal?_filters_conjuncts]
  unfold Predicate.filtersText
  cases Predicate.filters entity predicate.conjuncts with
  | error fault => simp [Except.map, Predicate.refusal?, eq_comm]
  | ok branches => simp [Except.map, Predicate.refusal?]

/-- The filter for a predicate starts with the object classes. -/
theorem exists_body_of_filterText {text : String} (closed : predicate.parameters = [])
    (made : entity.filterText predicate = .ok text) :
    ∃ body, text = "(&" ++ entity.classText ++ body ++ ")" := by
  rw [filterText_eq closed, mapError_eq_ok_iff, map_eq_ok_iff] at made
  obtain ⟨body, -, same⟩ := made
  exact ⟨body, same.symm⟩

/-- The filter for a joined predicate fails just if the filter for a side does. -/
theorem exists_filterText_join_error_iff {left right : Predicate} (kind : Connective)
    (closed : left.parameters = []) (closed' : right.parameters = []) :
    (∃ error, entity.filterText (.join kind left right) = .error error) ↔
      (∃ error, entity.filterText left = .error error) ∨
        ∃ error, entity.filterText right = .error error := by
  have fails {predicate : Predicate} (closed : predicate.parameters = []) :
      (∃ error, entity.filterText predicate = .error error) ↔
        (predicate.walk.findSome? (Predicate.fault? entity)).isSome = true := by
    rw [Option.isSome_iff_exists]
    constructor
    · intro failed
      obtain ⟨error, stopped⟩ := failed
      obtain ⟨fault, found, -⟩ := (filterText_eq_error_iff closed).1 stopped
      exact ⟨fault, found⟩
    · intro faulty
      obtain ⟨fault, found⟩ := faulty
      exact ⟨.condition fault, (filterText_eq_error_iff closed).2 ⟨fault, found, rfl⟩⟩
  rw [fails (Predicate.parameters_join_eq_nil kind closed closed'), fails closed, fails closed',
    Predicate.findSome?_walk_join, Option.isSome_or, Bool.or_eq_true]

/-- A predicate that there is a filter for has the texts of what it contributes to a composite. -/
theorem exists_filtersText_operands {text : String} (kind : Connective)
    (closed : predicate.parameters = []) (made : entity.filterText predicate = .ok text) :
    ∃ part, Predicate.filtersText entity (predicate.operands kind) = .ok part := by
  unfold Predicate.filtersText
  rw [exists_map_eq_ok_iff]
  have sound : predicate.walk.findSome? (Predicate.fault? entity) = none := by
    cases found : predicate.walk.findSome? (Predicate.fault? entity) with
    | none => rfl
    | some fault =>
        rw [(filterText_eq_error_iff closed).2 ⟨fault, found, rfl⟩] at made
        cases made
  rw [← Predicate.findSome?_walkAll_operands entity kind, ← Predicate.refusal?_filters] at sound
  cases outcome : Predicate.filters entity (predicate.operands kind) with
  | ok made => exact ⟨made, rfl⟩
  | error error =>
      rw [outcome] at sound
      cases sound

/-- Joining predicates forgets how they were bracketed, and the filters of joined predicates are made
of those of the sides.  A filter has the object classes in front.  That of a conjunction holds what
both sides put behind them; that of a disjunction holds one branch there, with the alternatives that
the sides contribute; and either fails just if a side does. -/
theorem filterText_join :
    (∀ (kind : Connective) (a b c : Predicate),
      Predicate.join kind (.join kind a b) c = .join kind a (.join kind b c)) ∧
    ∀ (entity : Entity) (a b : Predicate), a.parameters = [] → b.parameters = [] →
      (∀ text, entity.filterText a = .ok text →
        ∃ front, text = "(&" ++ entity.classText ++ front ++ ")") ∧
      (∀ front rest : String,
        entity.filterText a = .ok ("(&" ++ entity.classText ++ front ++ ")") →
        entity.filterText b = .ok ("(&" ++ entity.classText ++ rest ++ ")") →
        entity.filterText (.join .conjunction a b) =
            .ok ("(&" ++ entity.classText ++ (front ++ rest) ++ ")") ∧
          ∃ front' rest',
            Predicate.filtersText entity (a.operands .disjunction) = .ok front' ∧
            Predicate.filtersText entity (b.operands .disjunction) = .ok rest' ∧
            entity.filterText (.join .disjunction a b) =
              .ok ("(&" ++ entity.classText ++ ("(|" ++ front' ++ rest' ++ ")") ++ ")")) ∧
      ∀ kind : Connective,
        (∃ error, entity.filterText (.join kind a b) = .error error) ↔
          (∃ error, entity.filterText a = .error error) ∨
            ∃ error, entity.filterText b = .error error := by
  refine ⟨Predicate.join_assoc, ?_⟩
  intro entity a b closed closed'
  refine ⟨?_, ?_, fun kind => exists_filterText_join_error_iff kind closed closed'⟩
  · intro text made
    exact exists_body_of_filterText closed made
  · intro front rest made made'
    have closed_join (kind : Connective) := Predicate.parameters_join_eq_nil kind closed closed'
    constructor
    · rw [filterText_eq_ok_iff (closed_join .conjunction), Predicate.conjuncts,
        Predicate.operands_join, Predicate.filtersText_append]
      rw [filterText_eq_ok_iff closed, Predicate.conjuncts] at made
      rw [filterText_eq_ok_iff closed', Predicate.conjuncts] at made'
      rw [made, made']
      rfl
    · obtain ⟨front', alternatives⟩ := exists_filtersText_operands .disjunction closed made
      obtain ⟨rest', alternatives'⟩ := exists_filtersText_operands .disjunction closed' made'
      refine ⟨front', rest', alternatives, alternatives', ?_⟩
      rw [filterText_eq_ok_iff (closed_join .disjunction)]
      exact Predicate.filtersText_conjuncts_disjunction alternatives alternatives'

/-- A person with a name has a number or a phone. -/
theorem filterText_join_person :
    ∃ named reachable : Predicate, named.parameters = [] ∧ reachable.parameters = [] ∧
      person.filterText (.join .conjunction named reachable) =
        .ok "(&(objectclass=person)(objectclass=top)(sn=Smith)(|(uid=7)(telephoneNumber=*)))" ∧
      person.filterText (.join .disjunction named reachable) =
        .ok "(&(objectclass=person)(objectclass=top)(|(sn=Smith)(uid=7)(telephoneNumber=*)))" ∧
      ∃ error, person.filterText (.join .conjunction named .bare) = .error error := by
  let named : Predicate := .comparison (.plain "lastname") .equals (.text "Smith")
  let reachable : Predicate := .composite .disjunction
    (.comparison (.plain "uid") .equals (.text "7"))
    [.comparison (.plain "phone") .present .null]
  have closed : named.parameters = [] := Predicate.parameters_eq_nil_iff.2 rfl
  have closed' : reachable.parameters = [] := Predicate.parameters_eq_nil_iff.2 rfl
  have bare : Predicate.bare.parameters = [] := Predicate.parameters_eq_nil_iff.2 rfl
  obtain ⟨-, joins⟩ := filterText_join
  obtain ⟨-, made, -⟩ := joins person named reachable closed closed'
  obtain ⟨conjunction, front, rest, alternatives, alternatives', disjunction⟩ :=
    made "(sn=Smith)" "(|(uid=7)(telephoneNumber=*))"
      ((filterText_eq_ok_iff closed).2 rfl) ((filterText_eq_ok_iff closed').2 rfl)
  obtain ⟨-, -, fails⟩ := joins person named .bare closed bare
  refine ⟨named, reachable, closed, closed', conjunction, ?_, ?_⟩
  · have texts : front = "(sn=Smith)" ∧ rest = "(uid=7)(telephoneNumber=*)" := by
      cases alternatives
      cases alternatives'
      exact ⟨rfl, rfl⟩
    rw [disjunction, texts.1, texts.2]
    rfl
  · exact (fails .conjunction).2
      (.inr ⟨_, (filterText_eq_error_iff bare).2 ⟨.meaninglessNode, rfl, rfl⟩⟩)

end Entity

end DirectoryQuery
