/-
Module: DirectoryQuery.Proofs.Repository.Finders
Purpose: Which finders a kind of repositories has.  They are the readings of the nearest finder names
  in its bodies.  Looking a name up finds the same, except where it ends at something that there is
  nothing to read of: a finder with an empty finder name is left out, and a finder that something else
  hides is kept.
Main exports:
  AreReadings, AreReadings.readMember, AreReadings.readMembers, RepositoryKind.descriptor?,
  RepositoryKind.IsRead, RepositoryKind.isRead_of_declare, RepositoryKind.exists_declare_iff,
  RepositoryKind.MirrorsLookup, RepositoryKind.Strays, RepositoryKind.IsRead.mirrorsLookup_iff,
  Kinds.isRead_declareAll, Kinds.finders_declareAll
-/
import DirectoryQuery.Proofs.Association
import DirectoryQuery.Proofs.Finder.Arguments
import DirectoryQuery.Proofs.Result
import DirectoryQuery.Repository.Hierarchy

namespace DirectoryQuery

/-- A finder name to read is the finder name of a declaration, if it is not empty. -/
theorem Member.descriptor?_finder_eq_some_iff {declaration : Declaration} {descriptor : String} :
    (Member.finder declaration).descriptor? = some descriptor ↔
      declaration.descriptor = some descriptor ∧ descriptor ≠ "" := by
  simp [Member.descriptor?, Option.filter_eq_some_iff]

theorem Finder.exists_parse_empty (entity : Entity) :
    ∃ error, Finder.parse entity "" = .error error :=
  ⟨_, rfl⟩

/-! ### Names in bodies -/

section Names

variable {α : Type} {entries : List (String × α)}

theorem mem_keys_putNamed {name other : String} {value : α} :
    other ∈ (putNamed entries name value).map (·.1) ↔
      other = name ∨ other ∈ entries.map (·.1) := by
  rw [← lookup_isSome_iff_mem_keys, ← lookup_isSome_iff_mem_keys, lookup_putNamed]
  by_cases same : other = name <;> simp [same]

theorem nodup_keys_putNamed (distinct : (entries.map (·.1)).Nodup) (name : String) (value : α) :
    ((putNamed entries name value).map (·.1)).Nodup := by
  induction entries with
  | nil => simp [putNamed]
  | cons entry rest ih =>
      rw [List.map_cons, List.nodup_cons] at distinct
      unfold putNamed
      split
      · exact List.nodup_cons.2 distinct
      · next other =>
          refine List.nodup_cons.2 ⟨?_, ih distinct.2⟩
          intro found
          rcases mem_keys_putNamed.1 found with same | listed
          · exact other same
          · exact distinct.1 listed

theorem nodup_keys_foldl_putNamed (distinct : (entries.map (·.1)).Nodup)
    (assignments : List (String × α)) :
    ((assignments.foldl (fun entries (name, value) => putNamed entries name value) entries).map
      (·.1)).Nodup := by
  induction assignments generalizing entries with
  | nil => exact distinct
  | cons assignment rest ih => exact ih (nodup_keys_putNamed distinct _ _)

end Names

namespace Body

theorem nodup_keys_ofAssignments (assignments : List (String × Member)) :
    ((ofAssignments assignments).map (·.1)).Nodup :=
  nodup_keys_foldl_putNamed (by simp) assignments

/-- The finder name that a body has to be read for a name. -/
def descriptor? (body : Body) (name : String) : Option String :=
  (body.lookup name).bind Member.descriptor?

theorem descriptor?_cons {name other : String} {member : Member} {rest : Body}
    (fresh : name ∉ rest.map (·.1)) :
    descriptor? ((name, member) :: rest) other =
      (descriptor? rest other).or (if other = name then member.descriptor? else none) := by
  unfold descriptor?
  rw [List.lookup_cons]
  by_cases same : other = name
  · rw [same, lookup_eq_none_iff_notMem_keys.2 fresh]
    simp
  · simp [same, beq_eq_false_iff_ne.2]

end Body

/-! ### Readings -/

/-- Whether finders are the readings of the finder names for their names. -/
def AreReadings (entity : Entity) (finders : List (String × Finder))
    (descriptor? : String → Option String) : Prop :=
  ∀ name, (descriptor? name).map (Finder.parse entity) = (finders.lookup name).map .ok

namespace AreReadings

open RepositoryKind

variable {entity : Entity} {finders read : List (String × Finder)}
  {descriptor? : String → Option String} {name : String}

theorem lookup_eq_some_iff (readings : AreReadings entity finders descriptor?) {finder : Finder} :
    finders.lookup name = some finder ↔
      ∃ descriptor, descriptor? name = some descriptor ∧
        Finder.parse entity descriptor = .ok finder := by
  have agree := readings name
  cases named : descriptor? name <;> cases found : finders.lookup name <;>
    simp_all

theorem lookup_eq_none_iff (readings : AreReadings entity finders descriptor?) :
    finders.lookup name = none ↔ descriptor? name = none := by
  have agree := readings name
  cases named : descriptor? name <;> cases found : finders.lookup name <;>
    simp_all

theorem exists_parse (readings : AreReadings entity finders descriptor?) {descriptor : String}
    (named : descriptor? name = some descriptor) :
    ∃ finder, Finder.parse entity descriptor = .ok finder := by
  have agree := readings name
  rw [named] at agree
  obtain ⟨finder, -, same⟩ := Option.map_eq_some_iff.1 agree.symm
  exact ⟨finder, same.symm⟩

/-- Reading a member makes its finder name the nearest one for its name. -/
theorem readMember (readings : AreReadings entity finders descriptor?) {member : Member}
    (made : RepositoryKind.readMember entity finders name member = .ok read) :
    AreReadings entity read fun other =>
      (if other = name then member.descriptor? else none).or (descriptor? other) := by
  intro other
  unfold RepositoryKind.readMember at made
  cases named : member.descriptor? with
  | none =>
      rw [named] at made
      cases made
      simpa using readings other
  | some descriptor =>
      rw [named] at made
      obtain ⟨finder, parsed, rfl⟩ := map_eq_ok_iff.1 made
      rw [lookup_putNamed]
      by_cases same : other = name
      · simp [same, parsed]
      · simpa [same] using readings other

/-- Reading a body makes its finder names the nearest ones. -/
theorem readMembers {body : Body} (readings : AreReadings entity finders descriptor?)
    (distinct : (body.map (·.1)).Nodup)
    (made : RepositoryKind.readMembers entity finders body = .ok read) :
    AreReadings entity read fun name => (body.descriptor? name).or (descriptor? name) := by
  induction body generalizing finders descriptor? with
  | nil =>
      cases made
      exact readings
  | cons entry rest ih =>
      obtain ⟨name, member⟩ := entry
      rw [List.map_cons, List.nodup_cons] at distinct
      rw [RepositoryKind.readMembers] at made
      split at made
      · cases made
      · next first one =>
          have whole := ih (readings.readMember one) distinct.2 made
          intro other
          simp only [Body.descriptor?_cons distinct.1, Option.or_assoc]
          exact whole other

end AreReadings

namespace RepositoryKind

variable {entity : Entity} {finders read : List (String × Finder)}

theorem readMembers_append (entity : Entity) (finders : List (String × Finder))
    (first second : List (String × Member)) :
    readMembers entity finders (first ++ second) =
      (readMembers entity finders first).bind fun read => readMembers entity read second := by
  induction first generalizing finders with
  | nil => rfl
  | cons entry rest ih =>
      obtain ⟨name, member⟩ := entry
      rw [List.cons_append, readMembers, readMembers]
      cases readMember entity finders name member with
      | error error => rfl
      | ok one => exact ih one

/-- The finder name to read for a name, from the nearest of bodies that has one. -/
def nearest? (bodies : List Body) (name : String) : Option String :=
  bodies.findSome? (·.descriptor? name)

theorem nearest?_cons (own : Body) (inherited : List Body) (name : String) :
    nearest? (own :: inherited) name = (own.descriptor? name).or (nearest? inherited name) := by
  rw [nearest?, List.findSome?_cons]
  cases own.descriptor? name <;> rfl

/-- Reading the bodies of a kind, its own body last, gives the readings of the nearest finder names.
-/
theorem areReadings_of_bodies {bodies : List Body}
    (distinct : ∀ body ∈ bodies, (body.map (·.1)).Nodup)
    (made : readMembers entity [] bodies.reverse.flatten = .ok read) :
    AreReadings entity read (nearest? bodies) := by
  induction bodies generalizing read with
  | nil =>
      cases made
      exact fun name => rfl
  | cons own inherited ih =>
      rw [List.forall_mem_cons] at distinct
      rw [List.reverse_cons, List.flatten_append, readMembers_append] at made
      cases outer : readMembers entity [] inherited.reverse.flatten with
      | error error =>
          rw [outer] at made
          cases made
      | ok below =>
          rw [outer, List.flatten_singleton] at made
          intro name
          rw [nearest?_cons]
          exact (ih distinct.2 outer).readMembers distinct.1 made name

/-- The finder name to read for a name, from the nearest body that has one. -/
def descriptor? (kind : RepositoryKind) (name : String) : Option String :=
  nearest? kind.bodies name

/-- What declaring keeps up: each body has one member for a name, and the finders are the readings of
the nearest finder names, if there is an entity to read them for. -/
structure IsRead (kind : RepositoryKind) : Prop where
  distinct : ∀ body ∈ kind.bodies, (body.map (·.1)).Nodup
  readings : ∀ entity, kind.entity = some entity →
    AreReadings entity kind.finders kind.descriptor?
  unread : kind.entity = none → kind.finders = []

theorem declare_eq_ok {name : String} {base : Option RepositoryKind} {choice : EntityChoice}
    {body : Body} (chosen : chosenEntity base choice = some entity)
    (made : readMembers entity [] (body :: (base.map (·.bodies)).getD []).reverse.flatten =
      .ok finders) :
    declare name base choice body =
      .ok ⟨name, some entity, body :: (base.map (·.bodies)).getD [], finders⟩ := by
  unfold declare
  rw [chosen]
  dsimp only
  rw [made]
  rfl

theorem isRead_of_declare {name : String} {base : Option RepositoryKind} {choice : EntityChoice}
    {body : Body} {kind : RepositoryKind} (readBase : ∀ kind ∈ base, kind.IsRead)
    (own : (body.map (·.1)).Nodup) (made : declare name base choice body = .ok kind) :
    kind.IsRead := by
  have distinct : ∀ other ∈ body :: (base.map (·.bodies)).getD [], (other.map (·.1)).Nodup := by
    rw [List.forall_mem_cons]
    refine ⟨own, ?_⟩
    cases base with
    | none => simp
    | some kind => exact (readBase kind rfl).distinct
  unfold declare at made
  dsimp only at made
  split at made
  · cases made
    exact ⟨distinct, by simp, fun _ => rfl⟩
  · next target chosen =>
      obtain ⟨finders, outcome, rfl⟩ := map_eq_ok_iff.1 made
      rw [chosen]
      refine ⟨distinct, ?_, by simp⟩
      intro entity same
      cases same
      exact areReadings_of_bodies distinct outcome

theorem exists_readMember_iff {name : String} {member : Member} :
    (∃ read, readMember entity finders name member = .ok read) ↔
      ∀ descriptor, member.descriptor? = some descriptor →
        ∃ finder, Finder.parse entity descriptor = .ok finder := by
  unfold readMember
  cases member.descriptor? with
  | none => simp
  | some descriptor => simp [exists_map_eq_ok_iff]

theorem exists_readMembers_iff {members : List (String × Member)} :
    (∃ read, readMembers entity finders members = .ok read) ↔
      ∀ entry ∈ members, ∀ descriptor, entry.2.descriptor? = some descriptor →
        ∃ finder, Finder.parse entity descriptor = .ok finder := by
  induction members generalizing finders with
  | nil => simp [readMembers]
  | cons entry rest ih =>
      obtain ⟨name, member⟩ := entry
      rw [List.forall_mem_cons, ← @exists_readMember_iff entity finders name member, readMembers]
      cases readMember entity finders name member with
      | error error => simp
      | ok one => simp [ih]

/-- A kind is declared just if each finder name in its bodies is the name of a finder for its entity,
be it hidden or not. -/
theorem exists_declare_iff {name : String} {base : Option RepositoryKind} {choice : EntityChoice}
    {body : Body} :
    (∃ kind, declare name base choice body = .ok kind) ↔
      ∀ target, chosenEntity base choice = some target →
        ∀ other ∈ body :: (base.map (·.bodies)).getD [], ∀ entry ∈ other, ∀ descriptor,
          entry.2.descriptor? = some descriptor →
            ∃ finder, Finder.parse target descriptor = .ok finder := by
  unfold declare
  cases chosenEntity base choice with
  | none => simp
  | some target =>
      dsimp only
      rw [exists_map_eq_ok_iff, exists_readMembers_iff]
      constructor
      · intro all same chosen other listed entry found
        cases chosen
        exact all entry (List.mem_flatten.2 ⟨other, List.mem_reverse.2 listed, found⟩)
      · intro all entry found
        obtain ⟨other, listed, found⟩ := List.mem_flatten.1 found
        exact all target rfl other (List.mem_reverse.1 listed) entry found

/-! ### Looking up -/

variable {kind : RepositoryKind} {name : String}

theorem descriptor?_eq_of_member? {member : Member} {descriptor : String}
    (found : kind.member? name = some member) (named : member.descriptor? = some descriptor) :
    kind.descriptor? name = some descriptor := by
  unfold member? at found
  unfold descriptor? nearest?
  obtain ⟨before, body, after, split, held, hidden⟩ := List.findSome?_eq_some_iff.1 found
  refine List.findSome?_eq_some_iff.2 ⟨before, body, after, split, ?_, ?_⟩
  · rw [Body.descriptor?, held]
    exact named
  · intro other listed
    rw [Body.descriptor?, hidden other listed]
    rfl

theorem descriptor?_eq_none_of_member? (absent : kind.member? name = none) :
    kind.descriptor? name = none := by
  unfold member? at absent
  unfold descriptor? nearest?
  rw [List.findSome?_eq_none_iff] at absent ⊢
  intro body listed
  rw [Body.descriptor?, absent body listed]
  rfl

/-- Whether the finder that was read for a name is that of the member which looking the name up finds,
so that there is none if there is no such member or if it is no finder. -/
def MirrorsLookup (kind : RepositoryKind) (entity : Entity) (name : String) : Prop :=
  match kind.member? name with
  | some (.finder declaration) =>
    ∃ descriptor finder, declaration.descriptor = some descriptor ∧
      Finder.parse entity descriptor = .ok finder ∧ kind.finder? name = some finder
  | _ => kind.finder? name = none

/-- The names for which the finders of a kind stray from looking up: those that have been given to
something else, while a finder further in had them, and those of finders without a finder name. -/
inductive Strays (kind : RepositoryKind) (name : String) : Prop where
  | withdrawn {descriptor : String} (hides : kind.member? name = some .other)
      (hidden : kind.descriptor? name = some descriptor) : Strays kind name
  | unnamed {declaration : Declaration}
      (found : kind.member? name = some (.finder declaration))
      (unread : (Member.finder declaration).descriptor? = none) : Strays kind name

theorem Strays.of_other (hides : kind.member? name = some .other) :
    kind.Strays name ↔ kind.descriptor? name ≠ none := by
  constructor
  · intro strays
    cases strays with
    | withdrawn _ hidden =>
        rw [hidden]
        exact Option.some_ne_none _
    | unnamed found _ =>
        rw [hides] at found
        cases found
  · intro kept
    obtain ⟨descriptor, hidden⟩ := Option.ne_none_iff_exists'.1 kept
    exact .withdrawn hides hidden

theorem Strays.of_finder {declaration : Declaration}
    (found : kind.member? name = some (.finder declaration)) :
    kind.Strays name ↔ (Member.finder declaration).descriptor? = none := by
  constructor
  · intro strays
    cases strays with
    | withdrawn hides _ =>
        rw [found] at hides
        cases hides
    | unnamed same unread =>
        rw [found] at same
        cases same
        exact unread
  · exact .unnamed found

/-- A finder that was found mirrors looking up just if it has a finder name to read. -/
theorem IsRead.mirrorsLookup_of_finder {entity : Entity} {declaration : Declaration}
    (read : kind.IsRead) (chosen : kind.entity = some entity)
    (found : kind.member? name = some (.finder declaration)) :
    kind.MirrorsLookup entity name ↔ (Member.finder declaration).descriptor? ≠ none := by
  have readings := read.readings entity chosen
  unfold MirrorsLookup
  rw [found]
  dsimp only
  constructor
  · intro mirrors unread
    obtain ⟨descriptor, finder, named, parsed, -⟩ := mirrors
    have empty : descriptor = "" := by
      by_contra some
      rw [Member.descriptor?_finder_eq_some_iff.2 ⟨named, some⟩] at unread
      cases unread
    obtain ⟨error, failed⟩ := Finder.exists_parse_empty entity
    rw [empty, failed] at parsed
    cases parsed
  · intro some
    obtain ⟨descriptor, named⟩ := Option.ne_none_iff_exists'.1 some
    have nearest := descriptor?_eq_of_member? found named
    obtain ⟨finder, parsed⟩ := readings.exists_parse nearest
    refine ⟨descriptor, finder, (Member.descriptor?_finder_eq_some_iff.1 named).1, parsed, ?_⟩
    exact readings.lookup_eq_some_iff.2 ⟨descriptor, nearest, parsed⟩

/-- The finders that were read mirror looking up for all names but those that stray. -/
theorem IsRead.mirrorsLookup_iff {entity : Entity} (read : kind.IsRead)
    (chosen : kind.entity = some entity) :
    kind.MirrorsLookup entity name ↔ ¬kind.Strays name := by
  have unread : kind.finder? name = none ↔ kind.descriptor? name = none :=
    (read.readings entity chosen).lookup_eq_none_iff
  cases found : kind.member? name with
  | none =>
      have absent := descriptor?_eq_none_of_member? found
      constructor
      · intro _ strays
        cases strays with
        | withdrawn hides _ =>
            rw [found] at hides
            cases hides
        | unnamed same _ =>
            rw [found] at same
            cases same
      · intro _
        rw [MirrorsLookup, found]
        exact unread.2 absent
  | some member =>
      cases member with
      | other =>
          rw [Strays.of_other found, not_not, MirrorsLookup, found]
          exact unread
      | finder declaration =>
          rw [Strays.of_finder found]
          exact read.mirrorsLookup_of_finder chosen found

end RepositoryKind

/-! ### Statements -/

namespace Kinds

variable {kinds : Kinds} {statements : List KindStatement}

/-- A kind is read if the kinds are that it can extend. -/
theorem isRead_kindOf {statement : KindStatement} {kind : RepositoryKind}
    (read : ∀ known ∈ kinds.map (·.2), known.IsRead)
    (made : kinds.kindOf statement = .ok kind) : kind.IsRead := by
  unfold kindOf at made
  split at made
  · cases made
  · next base extended =>
      have readBase : ∀ known ∈ base, known.IsRead := by
        unfold base? at extended
        split at extended
        · cases extended
          simp
        · split at extended <;> cases extended
          next known held =>
            intro kind same
            cases same
            obtain ⟨before, after, rfl, -⟩ := List.lookup_eq_some_iff.1 held
            exact read known (by simp)
      exact RepositoryKind.isRead_of_declare readBase (Body.nodup_keys_ofAssignments _)
        (mapError_eq_ok_iff.1 made)

theorem isRead_declare (read : ∀ known ∈ kinds.map (·.2), known.IsRead)
    (statement : KindStatement) : ∀ known ∈ (kinds.declare statement).map (·.2), known.IsRead := by
  unfold declare
  split
  · exact read
  · next kind made => exact List.forall_mem_cons.2 ⟨isRead_kindOf read made, read⟩

theorem kindOf_eq_ok {statement : KindStatement} {base : Option RepositoryKind}
    {kind : RepositoryKind} (extended : kinds.base? statement = .ok base)
    (declared : RepositoryKind.declare statement.name base statement.choice
      (Body.ofAssignments statement.assignments) = .ok kind) :
    kinds.kindOf statement = .ok kind := by
  rw [kindOf, extended]
  exact mapError_eq_ok_iff.2 declared

theorem declareAll_cons {statement : KindStatement} {kind : RepositoryKind}
    (made : kinds.kindOf statement = .ok kind) (rest : List KindStatement) :
    kinds.declareAll (statement :: rest) =
      declareAll ((statement.name, kind) :: kinds) rest := by
  rw [declareAll, List.foldl_cons, declare, made]
  rfl

/-- All kinds of a run of statements are read. -/
theorem isRead_declareAll (read : ∀ known ∈ kinds.map (·.2), known.IsRead)
    (statements : List KindStatement) :
    ∀ known ∈ (kinds.declareAll statements).map (·.2), known.IsRead := by
  induction statements generalizing kinds with
  | nil => exact read
  | cons statement rest ih => exact ih (isRead_declare read statement)

/-- The kinds that were declared before stay as they are. -/
theorem suffix_declare (kinds : Kinds) (statement : KindStatement) :
    kinds <:+ kinds.declare statement := by
  unfold declare
  split
  · exact List.suffix_refl _
  · exact List.suffix_cons _ _

theorem suffix_declareAll (kinds : Kinds) (statements : List KindStatement) :
    kinds <:+ kinds.declareAll statements := by
  induction statements generalizing kinds with
  | nil => exact List.suffix_refl _
  | cons statement rest ih => exact (suffix_declare kinds statement).trans (ih _)

/-- The kinds that a kind extends stay as they are.  Its finders are the readings of the nearest
finder names for its own entity, all of which can be read, and they are what looking a name up finds
unless the name strays.  Without an entity it has none. -/
theorem finders_declareAll (statements : List KindStatement) :
    (∀ earlier later, statements = earlier ++ later →
        declareAll [] earlier <:+ declareAll [] statements) ∧
      ∀ kind ∈ (declareAll [] statements).map (·.2),
        (kind.entity = none → kind.finders = []) ∧
          ∀ entity, kind.entity = some entity → ∀ name,
            (kind.MirrorsLookup entity name ↔ ¬kind.Strays name) ∧
            (∀ finder, kind.finder? name = some finder ↔
              ∃ descriptor, kind.descriptor? name = some descriptor ∧
                Finder.parse entity descriptor = .ok finder) ∧
            ∀ descriptor, kind.descriptor? name = some descriptor →
              ∃ finder, Finder.parse entity descriptor = .ok finder := by
  constructor
  · intro earlier later same
    subst same
    have split : declareAll [] (earlier ++ later) = (declareAll [] earlier).declareAll later :=
      List.foldl_append
    rw [split]
    exact suffix_declareAll _ later
  · intro kind declared
    have read := @isRead_declareAll [] (by simp) statements kind declared
    refine ⟨read.unread, ?_⟩
    intro entity chosen name
    have readings := read.readings entity chosen
    exact ⟨read.mirrorsLookup_iff chosen, fun finder => readings.lookup_eq_some_iff,
      fun descriptor => readings.exists_parse⟩

/-! ### An example -/

/-- A finder that goes by its name, with a finder name. -/
def byName (descriptor : String) : Member :=
  .finder { name := "by_name", descriptor := some descriptor }

/-- A kind for persons, with a finder. -/
def peopleStatement : KindStatement where
  name := "People"
  choice := .of .person
  assignments := [("by_name", byName Finder.byNameAndNumber.descriptor)]

/-- An extension that gives the name of the finder to something else. -/
def silentStatement : KindStatement where
  name := "Silent"
  base := some "People"
  assignments := [("by_name", .other)]

/-- A kind for persons, with a finder that has an empty finder name. -/
def namelessStatement : KindStatement where
  name := "Nameless"
  choice := .of .person
  assignments := [("by_name", byName "")]

/-- The kind with a finder. -/
def people : RepositoryKind where
  name := "People"
  entity := some .person
  bodies := [[("by_name", byName Finder.byNameAndNumber.descriptor)]]
  finders := [("by_name", Finder.byNameAndNumber)]

/-- Its extension. -/
def silent : RepositoryKind where
  name := "Silent"
  entity := some .person
  bodies := [("by_name", .other)] :: people.bodies
  finders := people.finders

/-- The kind with the empty finder name. -/
def nameless : RepositoryKind where
  name := "Nameless"
  entity := some .person
  bodies := [[("by_name", byName "")]]
  finders := []

theorem descriptor?_byName : (byName Finder.byNameAndNumber.descriptor).descriptor? =
    some Finder.byNameAndNumber.descriptor :=
  Member.descriptor?_finder_eq_some_iff.2 ⟨rfl, by decide⟩

theorem readMembers_people :
    RepositoryKind.readMembers .person [] people.bodies.reverse.flatten = .ok people.finders := by
  show RepositoryKind.readMembers .person []
    [("by_name", byName Finder.byNameAndNumber.descriptor)] = _
  rw [RepositoryKind.readMembers, RepositoryKind.readMember, descriptor?_byName]
  dsimp only
  rw [Finder.parse_byNameAndNumber]
  rfl

theorem kindOf_people : kindOf [] peopleStatement = .ok people := by
  refine kindOf_eq_ok rfl (RepositoryKind.declare_eq_ok rfl ?_)
  exact readMembers_people

theorem kindOf_silent : kindOf [("People", people)] silentStatement = .ok silent := by
  refine kindOf_eq_ok rfl (RepositoryKind.declare_eq_ok rfl ?_)
  show RepositoryKind.readMembers .person []
    (people.bodies.reverse.flatten ++ [("by_name", .other)]) = _
  rw [RepositoryKind.readMembers_append, readMembers_people]
  rfl

theorem declareAll_people :
    declareAll [] [peopleStatement, silentStatement, namelessStatement] =
      [("Nameless", nameless), ("Silent", silent), ("People", people)] :=
  calc
    _ = declareAll [("People", people)] [silentStatement, namelessStatement] :=
      declareAll_cons kindOf_people _
    _ = declareAll [("Silent", silent), ("People", people)] [namelessStatement] :=
      declareAll_cons kindOf_silent _
    _ = _ := rfl

theorem finders_declareAll_people :
    ∃ kinds, declareAll [] [peopleStatement, silentStatement, namelessStatement] = kinds ∧
      people ∈ kinds.map (·.2) ∧ people.entity = some .person ∧
      people.MirrorsLookup .person "by_name" ∧
      silent.finder? "by_name" = some Finder.byNameAndNumber := by
  have outcome := finders_declareAll [peopleStatement, silentStatement, namelessStatement]
  rw [declareAll_people] at outcome
  have each := outcome.2
  refine ⟨_, declareAll_people, by simp, rfl, ?_, ?_⟩
  · refine ((each people (by simp)).2 .person rfl "by_name").1.2 ?_
    rw [RepositoryKind.Strays.of_finder rfl]
    exact Option.ne_none_iff_exists'.2 ⟨_, descriptor?_byName⟩
  · refine (((each silent (by simp)).2 .person rfl "by_name").2.1 _).2 ?_
    exact ⟨Finder.byNameAndNumber.descriptor, rfl, Finder.parse_byNameAndNumber⟩

/-- A finder with an empty finder name is offered, but nothing is read of it, and a finder whose name
was given to something else is kept. -/
theorem finders_astray_people :
    declareAll [] [peopleStatement, silentStatement, namelessStatement] =
        [("Nameless", nameless), ("Silent", silent), ("People", people)] ∧
      nameless.member? "by_name" = some (byName "") ∧
      nameless.finder? "by_name" = none ∧
      ¬nameless.MirrorsLookup .person "by_name" ∧
      silent.member? "by_name" = some .other ∧
      silent.finder? "by_name" = some Finder.byNameAndNumber ∧
      ¬silent.MirrorsLookup .person "by_name" := by
  refine ⟨declareAll_people, rfl, rfl, ?_, rfl, rfl, ?_⟩
  · intro mirrors
    obtain ⟨descriptor, finder, -, -, read⟩ := mirrors
    cases read
  · intro mirrors
    cases (mirrors : some Finder.byNameAndNumber = none)

end Kinds

end DirectoryQuery
