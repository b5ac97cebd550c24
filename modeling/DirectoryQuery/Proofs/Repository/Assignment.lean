/-
Module: DirectoryQuery.Proofs.Repository.Assignment
Purpose: Which finder name a call runs after declarations were put under names and told names.  The call
  goes from the declaration to the name that it goes by, and from there to the finder that was read
  for this name when the kind was declared.  Later changes move declarations about and rename them,
  but they read nothing, so that what is run need not be the finder name of the declaration.
Main exports:
  LiveKind.kind_add, Change.told, LiveKind.declarations_run,
  Repository.Runs, LiveKind.finder_runs_as_read
-/
import DirectoryQuery.Proofs.Repository.Session
import DirectoryQuery.Proofs.Search.Base
import DirectoryQuery.Repository.Assignment

namespace DirectoryQuery

/-! ### Tables whose values are changed -/

section Tables

variable {α β : Type} {entries : List (String × α)} {name : String}

theorem lookup_map (change : α → β) :
    (entries.map fun (name, value) => (name, change value)).lookup name =
      (entries.lookup name).map change := by
  induction entries with
  | nil => rfl
  | cons entry rest ih =>
      obtain ⟨known, value⟩ := entry
      rw [List.map_cons, List.lookup_cons, List.lookup_cons]
      split
      · rfl
      · exact ih

theorem map_putNamed (change : α → β) (entries : List (String × α)) (name : String) (value : α) :
    (putNamed entries name value).map (fun (name, value) => (name, change value)) =
      putNamed (entries.map fun (name, value) => (name, change value)) name (change value) := by
  induction entries with
  | nil => rfl
  | cons entry rest ih =>
      obtain ⟨known, old⟩ := entry
      rw [putNamed, List.map_cons, putNamed]
      split
      · rfl
      · rw [List.map_cons, ih]

end Tables

namespace LiveKind

variable {live : LiveKind} {changes : List Change} {name : String} {number : Nat}

/-! ### Kinds as they are -/

theorem member?_kind (live : LiveKind) (name : String) :
    live.kind.member? name = (live.slot? name).map (Slot.member live.declarations) := by
  rw [RepositoryKind.member?, slot?, kind, List.findSome?_map, List.map_findSome?]
  congr 1
  funext body
  exact lookup_map _

/-- Putting a declaration under a name in the own body of a kind adds the declaration as it is. -/
theorem kind_assign (own : live.bodies ≠ []) :
    (live.apply (.assign 0 name number)).kind = live.kind.add name (live.declarations number) := by
  obtain ⟨body, inherited, form⟩ := List.exists_cons_of_ne_nil own
  simp only [apply, kind, form, List.modify_zero_cons, List.map_cons, RepositoryKind.add]
  rw [map_putNamed]
  rfl

/-- Telling a name to a declaration that stands nowhere does not show. -/
theorem kind_tell (nowhere : ∀ body ∈ live.bodies, ∀ entry ∈ body, entry.2 ≠ .finder number) :
    (live.apply (.tell number name)).kind = live.kind := by
  simp only [apply, kind, RepositoryKind.mk.injEq, and_true, true_and]
  apply List.map_congr_left
  intro body listed
  apply List.map_congr_left
  intro entry held
  have other := nowhere body listed entry held
  obtain ⟨known, slot⟩ := entry
  cases slot with
  | other => rfl
  | finder number' =>
      have different : number' ≠ number := by
        rintro rfl
        exact other rfl
      simp [Slot.member, different]

/-- Putting a new declaration under a name, told of it or not, adds the declaration. -/
theorem kind_add (own : live.bodies ≠ [])
    (nowhere : ∀ body ∈ live.bodies, ∀ entry ∈ body, entry.2 ≠ .finder number) :
    (live.run [.assign 0 name number]).kind = live.kind.add name (live.declarations number) ∧
      (live.run [.tell number name, .assign 0 name number]).kind =
        live.kind.add name ((live.declarations number).named name) := by
  refine ⟨kind_assign own, ?_⟩
  have bodies : (live.apply (.tell number name)).bodies ≠ [] := own
  have told : (live.apply (.tell number name)).declarations number =
      (live.declarations number).named name := if_pos rfl
  rw [run, List.foldl_cons, List.foldl_cons, List.foldl_nil, kind_assign bodies, told,
    kind_tell nowhere]

/-! ### What changes leave alone -/

/-- A change reads nothing and names no other entity. -/
theorem fixed_apply (live : LiveKind) (change : Change) :
    (live.apply change).name = live.name ∧ (live.apply change).entity = live.entity ∧
      (live.apply change).finders = live.finders := by
  cases change <;> exact ⟨rfl, rfl, rfl⟩

theorem fixed_run (live : LiveKind) (changes : List Change) :
    (live.run changes).name = live.name ∧ (live.run changes).entity = live.entity ∧
      (live.run changes).finders = live.finders := by
  induction changes generalizing live with
  | nil => exact ⟨rfl, rfl, rfl⟩
  | cons change rest ih =>
      obtain ⟨name, entity, finders⟩ := ih (live.apply change)
      obtain ⟨name', entity', finders'⟩ := fixed_apply live change
      exact ⟨name.trans name', entity.trans entity', finders.trans finders'⟩

end LiveKind

/-! ### What declarations are told -/

/-- The name that a change tells a declaration. -/
def Change.told? (number : Nat) : Change → Option String
  | .assign _ _ _ => none
  | .tell other name => if number = other then some name else none

/-- The names that changes tell a declaration, one after the other. -/
def Change.told (number : Nat) (changes : List Change) : List String :=
  changes.filterMap (told? number)

namespace LiveKind

open Change

variable {live : LiveKind} {number : Nat}

theorem declarations_apply (live : LiveKind) (change : Change) (number : Nat) :
    (live.apply change).declarations number =
      (change.told? number).elim (live.declarations number) (live.declarations number).named := by
  cases change with
  | assign body name other => rfl
  | tell other name => by_cases same : number = other <;> simp [apply, told?, same]

/-- A declaration changes only where it is told a name. -/
theorem declarations_run (live : LiveKind) (changes : List Change) (number : Nat) :
    (live.run changes).declarations number =
      (told number changes).foldl Declaration.named (live.declarations number) := by
  induction changes generalizing live with
  | nil => rfl
  | cons change rest ih =>
      have later := ih (live.apply change)
      rw [declarations_apply] at later
      rw [told, List.filterMap_cons]
      cases said : change.told? number with
      | none =>
          rw [said] at later
          exact later
      | some name =>
          rw [said] at later
          exact later

end LiveKind

/-! ### Calls -/

namespace Repository

variable {α : Type} {repository : Repository} {directory : Directory α} {name : String}
  {declaration : Declaration} {arguments : List Value} {keywords : List (String × Value)}
  {parameters : Option SearchParameters}

/-- Whether a call runs a finder name: it fails before anything is searched, or it sends one query, with
the filter that the finder with this name comes to for the arguments. -/
def Runs (entity : Entity) (descriptor : String) (arguments : List Value)
    (keywords : List (String × Value)) (outcome : Outcome (Reply α)) : Prop :=
  (outcome.searched = [] ∧ ∃ error, outcome.result = .error error) ∨
    ∃ finder filter query, Finder.parse entity descriptor = .ok finder ∧
      entity.requestFilter (some finder.predicate) arguments keywords = .ok filter ∧
      query.filter = filter.text ∧ outcome.searched = [query]

theorem exists_filter_of_queryFor {predicate : Option Predicate} {query : Query}
    (made : (repository.queryFor predicate arguments keywords parameters).result = .ok query) :
    ∃ filter, repository.entity.requestFilter predicate arguments keywords = .ok filter ∧
      query.filter = filter.text := by
  unfold queryFor at made
  split at made
  · cases made
  · split at made
    · cases made
    · next filter compiled =>
        have assembled := mapError_eq_ok_iff.1 made
        exact ⟨filter, compiled, (Query.parts_of_assemble assembled).2⟩

/-- A call that cannot be planned fails before anything is searched. -/
theorem perform_of_plan_error {call : Call} {error : CallError}
    (planned : (repository.plan call).result = .error error) :
    (repository.perform directory call).searched = [] ∧
      (repository.perform directory call).result = .error error := by
  rw [perform_eq, Outcome.andThen_of_error planned]
  exact ⟨searched_plan repository call, rfl⟩

/-- What is run is the finder that was read for the name that the declaration goes by. -/
theorem runs_perform {finder : Finder} {descriptor : String}
    (found : repository.kind.member? name = some (.finder declaration))
    (known : repository.kind.finder? declaration.name = some finder)
    (parsed : Finder.parse repository.entity descriptor = .ok finder) :
    Runs repository.entity descriptor arguments keywords
      (repository.perform directory (.finder name arguments keywords parameters)) := by
  cases planned : (repository.plan (.finder name arguments keywords parameters)).result with
  | error error =>
      obtain ⟨searched, failed⟩ := perform_of_plan_error planned
      exact .inl ⟨searched, error, failed⟩
  | ok query =>
      have sent : repository.logged (.finder name arguments keywords parameters) = [query] := by
        rw [logged, planned]
        rfl
      rw [plan, question, finderQuestion, found] at planned
      dsimp only at planned
      cases clash : finderCall.clash? keywords with
      | some clash =>
          rw [clash] at planned
          cases planned
      | none =>
          rw [clash, known] at planned
          obtain ⟨filter, compiled, shown⟩ := exists_filter_of_queryFor planned
          exact .inr ⟨finder, filter, query, parsed, compiled, shown,
            (searched_perform _ _).trans sent⟩

/-- Where no finder was read for the name that the declaration goes by, the call says so. -/
theorem perform_of_unread (found : repository.kind.member? name = some (.finder declaration))
    (absent : repository.kind.finder? declaration.name = none) :
    (repository.perform directory (.finder name arguments keywords parameters)).searched = [] ∧
      ∃ error, (repository.perform directory
          (.finder name arguments keywords parameters)).result = .error error ∧
        (finderCall.clash? keywords = none →
          error = .neverRead declaration.literal repository.kind.name) := by
  have planned : ∃ error,
      (repository.plan (.finder name arguments keywords parameters)).result = .error error ∧
        (finderCall.clash? keywords = none →
          error = .neverRead declaration.literal repository.kind.name) := by
    rw [plan, question, finderQuestion, found]
    dsimp only
    cases finderCall.clash? keywords with
    | some clash => exact ⟨_, rfl, by simp⟩
    | none =>
        rw [absent]
        exact ⟨_, rfl, fun _ => rfl⟩
  obtain ⟨error, failed, told⟩ := planned
  obtain ⟨searched, result⟩ := perform_of_plan_error failed
  exact ⟨searched, error, result, told⟩

end Repository

/-! ### Calls after changes -/

namespace LiveKind

open Repository

variable {live : LiveKind} {changes : List Change} {defaults : SearchDefaults}
  {repository : Repository} {name : String} {number : Nat}

/-- A repository that is opened after changes has the entity and the finders that its kind had before. -/
theorem fixed_open? (opened : open? (live.run changes).kind defaults = some repository) :
    repository.kind = (live.run changes).kind ∧ live.entity = some repository.entity ∧
      repository.kind.finders = live.finders ∧ repository.kind.name = live.name := by
  obtain ⟨named, chosen, finders⟩ := fixed_run live changes
  obtain ⟨entity, has, rfl⟩ := Option.map_eq_some_iff.1 opened
  exact ⟨rfl, chosen.symm.trans has, finders, named⟩

/-- What a call runs after changes of a kind that was declared.  The declaration that is called is the one
that it was at first, with the names that it was told.  What is run is the finder name that was read
for the name that the declaration goes by; without one the call fails, and says that the declaration
was never read.  So the declaration runs its own finder name if no other one was read for the name
that it goes by.  This is so if looking this name up found the same declaration when the kind was
declared, whatever was put under which names since. -/
theorem finder_runs_as_read (statements : List KindStatement)
    (declared : live.kind ∈ (Kinds.declareAll [] statements).map (·.2))
    (opened : open? (live.run changes).kind defaults = some repository)
    (found : (live.run changes).slot? name = some (.finder number)) {called : Declaration}
    (current : (live.run changes).declarations number = called) :
    called = (Change.told number changes).foldl Declaration.named (live.declarations number) ∧
      ∀ {α : Type} (directory : Directory α) (arguments : List Value)
        (keywords : List (String × Value)) (parameters : Option SearchParameters)
        (outcome : Outcome (Reply α)),
        repository.perform directory (.finder name arguments keywords parameters) = outcome →
          (∀ descriptor, live.kind.descriptor? called.name = some descriptor →
            Runs repository.entity descriptor arguments keywords outcome) ∧
          (live.kind.descriptor? called.name = none →
            outcome.searched = [] ∧ ∃ error, outcome.result = .error error ∧
              (finderCall.clash? keywords = none →
                error = .neverRead called.literal live.name)) ∧
          (∀ descriptor, called.descriptor = some descriptor →
            (∀ read, live.kind.descriptor? called.name = some read → read = descriptor) →
            Runs repository.entity descriptor arguments keywords outcome) ∧
          (live.kind.member? called.name = some (.finder called) →
            ∀ descriptor, called.descriptor = some descriptor → descriptor ≠ "" →
              Runs repository.entity descriptor arguments keywords outcome) := by
  obtain ⟨now, chosen, finders, named⟩ := fixed_open? opened
  have readings : AreReadings repository.entity live.finders live.kind.descriptor? :=
    (Kinds.isRead_declareAll (by simp) statements _ declared).readings _ chosen
  have member : repository.kind.member? name = some (.finder called) := by
    rw [now, member?_kind, found, ← current]
    rfl
  refine ⟨current.symm.trans (declarations_run live changes number), ?_⟩
  rintro α directory arguments keywords parameters outcome rfl
  have asRead (descriptor : String)
      (read : live.kind.descriptor? called.name = some descriptor) :
      Runs repository.entity descriptor arguments keywords
        (repository.perform directory (.finder name arguments keywords parameters)) := by
    obtain ⟨finder, parsed⟩ := readings.exists_parse read
    apply runs_perform member _ parsed
    rw [RepositoryKind.finder?, finders]
    exact readings.lookup_eq_some_iff.2 ⟨descriptor, read, parsed⟩
  have unread (absent : live.kind.descriptor? called.name = none) :
      (repository.perform directory (.finder name arguments keywords parameters)).searched = [] ∧
        ∃ error, (repository.perform directory
            (.finder name arguments keywords parameters)).result = .error error ∧
          (finderCall.clash? keywords = none → error = .neverRead called.literal live.name) := by
    rw [← named]
    apply perform_of_unread member
    rw [RepositoryKind.finder?, finders]
    exact readings.lookup_eq_none_iff.2 absent
  refine ⟨asRead, unread, ?_, ?_⟩
  · intro descriptor own only
    cases read : live.kind.descriptor? called.name with
    | none =>
        obtain ⟨searched, error, failed, -⟩ := unread read
        exact .inl ⟨searched, error, failed⟩
    | some other => exact only other read ▸ asRead other read
  · intro stood descriptor own some
    exact asRead descriptor (RepositoryKind.descriptor?_eq_of_member? stood
      (Member.descriptor?_finder_eq_some_iff.2 ⟨own, some⟩))

/-! ### An example -/

/-- The kind for persons with its finder, and another declaration that stands nowhere yet. -/
def people : LiveKind where
  name := "People"
  entity := some .person
  declarations number :=
    if number = 0 then { name := "by_name", descriptor := some Finder.byNameAndNumber.descriptor }
    else { descriptor := some "findByUid" }
  bodies := [[("by_name", .finder 0)]]
  finders := Kinds.people.finders

theorem declared_people : people.kind ∈ (Kinds.declareAll [] [Kinds.peopleStatement]).map (·.2) := by
  rw [Kinds.declareAll_cons Kinds.kindOf_people]
  exact List.mem_singleton.2 rfl

/-- A second name for the finder, and a name for the other declaration, which is not told of it. -/
def additions : List Change := [.assign 0 "again" 0, .assign 0 "late" 1]

/-- The other declaration in the place of the finder. -/
def replacement : List Change := [.tell 1 "by_name", .assign 0 "by_name" 1]

/-- A repository for persons after changes. -/
def peopleAfter (changes : List Change) : Repository := ⟨(people.run changes).kind, .person, {}⟩

/-- What a finder of persons comes to when nobody is found. -/
def outcomeAfter (changes : List Change) (name : String) (arguments : List Value) :
    Outcome (Reply Nat) :=
  (peopleAfter changes).perform (fun _ => .ok []) (.finder name arguments [] none)

/-- Under its second name the finder runs its finder name, and the declaration that was never read says
so. -/
theorem finder_runs_as_read_people :
    people.kind ∈ (Kinds.declareAll [] [Kinds.peopleStatement]).map (·.2) ∧
      open? (people.run additions).kind {} = some (peopleAfter additions) ∧
      (people.run additions).slot? "again" = some (.finder 0) ∧
      (people.run additions).slot? "late" = some (.finder 1) ∧
      Runs .person Finder.byNameAndNumber.descriptor [.text "Sm*", .text "7"] []
        (outcomeAfter additions "again" [.text "Sm*", .text "7"]) ∧
      (outcomeAfter additions "late" [.text "7"]).searched = [] ∧
      (outcomeAfter additions "late" [.text "7"]).result =
        .error (.neverRead "DerivedQuery('findByUid')" "People") := by
  have again : (people.run additions).slot? "again" = some (.finder 0) := by decide +kernel
  have late : (people.run additions).slot? "late" = some (.finder 1) := by decide +kernel
  have opened : open? (people.run additions).kind {} = some (peopleAfter additions) := rfl
  obtain ⟨-, runs⟩ := finder_runs_as_read [Kinds.peopleStatement] declared_people opened again rfl
  obtain ⟨-, calls⟩ := finder_runs_as_read [Kinds.peopleStatement] declared_people opened late rfl
  obtain ⟨-, -, -, own⟩ := runs (fun _ => .ok []) [.text "Sm*", .text "7"] [] none _ rfl
  obtain ⟨-, unread, -⟩ := calls (fun _ => .ok []) [.text "7"] [] none _ rfl
  obtain ⟨searched, error, failed, complaint⟩ := unread rfl
  refine ⟨declared_people, opened, again, late, own rfl _ rfl (by decide), searched, ?_⟩
  rw [outcomeAfter, failed, complaint rfl]
  rfl

/-- The finder of persons by their identifiers. -/
def byUid : Finder where
  descriptor := "findByUid"
  predicate := .comparison (.plain "uid") .equals (.parameter ⟨0, "uid"⟩)
  parameters := [⟨0, "uid"⟩]

theorem readCriteria_uid :
    Entity.person.readCriteria "Uid".toList = .read ⟨⟨"uid", ⟨"", .equals, false⟩⟩, []⟩ :=
  Entity.built_person.readCriteria_eq_read_iff.2
    (Criteria.isFirstReading_single ⟨by decide, by decide⟩
      (Segment.leads_of_forall (by decide +kernel)))

theorem parse_byUid : Finder.parse .person "findByUid" = .ok byUid :=
  Finder.parse_eq_ok_iff.2 ⟨_, _, by decide +kernel, readCriteria_uid, rfl, rfl⟩

theorem requestFilter_byUid :
    Entity.person.requestFilter (some byUid.predicate) [.text "Sm*", .text "7"] [] =
      .error (.compilation (.binding (.refused (.tooMany 1 2)))) := by
  have taken : byUid.predicate.parameters = [⟨0, "uid"⟩] := List.mergeSort_singleton _
  have refused : byUid.predicate.bind [.text "Sm*", .text "7"] [] =
      .error (.refused (.tooMany 1 2)) := by
    rw [Predicate.bind, taken]
    rfl
  show (Entity.person.filterFor _ _ _).mapError _ = _
  rw [Entity.filterFor, refused]
  rfl

/-- What the finder of persons by name and number comes to for two texts. -/
theorem exists_query_byNameAndNumber :
    ∃ query, ((peopleAfter replacement).plan
      (.finder "by_name" [.text "Sm*", .text "7"] [] none)).result = .ok query := by
  have taken : Finder.byNameAndNumber.predicate.parameters =
      [⟨0, "lastname"⟩, ⟨1, "uid"⟩] := by
    have found : Finder.byNameAndNumber.predicate.placeholders =
        [⟨0, "lastname"⟩, ⟨1, "uid"⟩] := rfl
    simp [Predicate.parameters, found, List.mergeSort, Predicate.rankBefore]
  have parts : ∃ bound made,
      Finder.byNameAndNumber.predicate.bind [.text "Sm*", .text "7"] [] = .ok bound ∧
        Predicate.filters .person bound.conjuncts = .ok made := by
    rw [Predicate.bind, taken]
    exact ⟨_, _, rfl, rfl⟩
  obtain ⟨bound, made, binds, filters⟩ := parts
  have compiled : Entity.person.requestFilter (some Finder.byNameAndNumber.predicate)
      [.text "Sm*", .text "7"] [] =
        .ok (.composite .conjunction (Entity.person.classTests ++ made)) := by
    show (Entity.person.filterFor _ _ _).mapError _ = _
    rw [Entity.filterFor, binds]
    dsimp only
    rw [filters]
    rfl
  have planned : (peopleAfter replacement).plan
      (.finder "by_name" [.text "Sm*", .text "7"] [] none) =
        (peopleAfter replacement).queryFor (some Finder.byNameAndNumber.predicate)
          [.text "Sm*", .text "7"] [] none := rfl
  have free : queryCall.clash? [] = none := rfl
  have entity : (peopleAfter replacement).entity = .person := rfl
  rw [planned, queryFor, free, entity, compiled]
  exact ⟨_, rfl⟩

/-- A declaration that takes the place of a finder and is told its name runs the finder name of that
finder, and not its own, with which these arguments come to nothing. -/
theorem finder_astray_people :
    people.kind ∈ (Kinds.declareAll [] [Kinds.peopleStatement]).map (·.2) ∧
      open? (people.run replacement).kind {} = some (peopleAfter replacement) ∧
      (people.run replacement).slot? "by_name" = some (.finder 1) ∧
      ((people.run replacement).declarations 1).descriptor = some "findByUid" ∧
      Runs .person Finder.byNameAndNumber.descriptor [.text "Sm*", .text "7"] []
        (outcomeAfter replacement "by_name" [.text "Sm*", .text "7"]) ∧
      ¬Runs .person "findByUid" [.text "Sm*", .text "7"] []
        (outcomeAfter replacement "by_name" [.text "Sm*", .text "7"]) := by
  have found : (peopleAfter replacement).kind.member? "by_name" =
      some (.finder { name := "by_name", descriptor := some "findByUid" }) := rfl
  refine ⟨declared_people, rfl, by decide +kernel, rfl, ?_, ?_⟩
  · exact runs_perform found rfl Finder.parse_byNameAndNumber
  · obtain ⟨query, planned⟩ := exists_query_byNameAndNumber
    have sent : (outcomeAfter replacement "by_name" [.text "Sm*", .text "7"]).searched = [query] := by
      rw [outcomeAfter, searched_perform, logged, planned]
      rfl
    rintro (⟨still, -⟩ | ⟨finder, filter, -, parsed, compiled, -, -⟩)
    · rw [sent] at still
      cases still
    · cases parse_byUid.symm.trans parsed
      rw [requestFilter_byUid] at compiled
      cases compiled

end LiveKind

end DirectoryQuery
