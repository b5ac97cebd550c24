/-
Module: DirectoryQuery.Proofs.Finder.Furthest
Purpose: What is reported about criteria that cannot be read.  A search that fails has tried every
  partial reading and met a dead end on each; of these the one is reported that got furthest, and of
  several that got equally far the one that was met first.
Main exports:
  Approach, DeadEnd, DeadEnd.IsIn, DeadEnd.Before, Entity.deadEnds, Failure.recorded,
  Entity.recorded_of_readCriteria, Entity.Built.mem_deadEnds_iff, Entity.Built.pairwise_deadEnds,
  Entity.Reaches, DeadEnd.IsFirstFurthest, Entity.Built.reports_furthest
-/
import DirectoryQuery.Proofs.Finder.Tree

namespace DirectoryQuery

open Text

/-! ### Dead ends -/

/-- A partial reading: segments, each with the connective behind it. -/
abbrev Approach := List (Segment × Connective)

namespace Approach

/-- A partial reading as it is written. -/
def spelling (approach : Approach) : List Char :=
  approach.flatMap fun (segment, kind) => segment.spelling ++ kind.segmentWord

/-- A partial reading of a text, with what it leaves to be read.  Behind a connective something is
left. -/
structure Leaves (approach : Approach) (entity : Entity) (text rest : List Char) : Prop where
  spelled : text = approach.spelling ++ rest
  admitted : ∀ entry ∈ approach, entry.1.IsAdmitted entity
  unfinished : approach ≠ [] → rest ≠ []

end Approach

/-- A partial reading and the failure that stops it. -/
structure DeadEnd where
  approach : Approach
  failure : Failure
deriving Repr, DecidableEq

namespace DeadEnd

/-- A dead end of a text: the place that the partial reading comes to gives rise to the failure. -/
def IsIn (deadEnd : DeadEnd) (entity : Entity) (text : List Char) : Prop :=
  ∃ rest, deadEnd.approach.Leaves entity text rest ∧ deadEnd.failure.ArisesAt entity rest

/-- The property that comes first: that of the first segment, or else the one that the failure is
about. -/
def property? (deadEnd : DeadEnd) : Option String :=
  match deadEnd.approach with
  | [] => deadEnd.failure.fault.property?
  | (segment, _) :: _ => some segment.property

/-- A dead end of the text behind a segment and a connective as one of the whole text. -/
def preceded (segment : Segment) (kind : Connective) (deadEnd : DeadEnd) : DeadEnd :=
  { deadEnd with approach := (segment, kind) :: deadEnd.approach }

/-- The order in which the dead ends of a text are met, decided where they part: by the properties
that are tried there, longer keywords first, `And` before `Or`.  That no keyword leads on behind a
property is found last of all for the property, and that no property is known after all properties
have been tried. -/
inductive Before (entity : Entity) : DeadEnd → DeadEnd → Prop where
  | property {one other : DeadEnd} {p q : String} (first : one.property? = some p)
      (second : other.property? = some q) (order : entity.TriedBefore p q) :
      Before entity one other
  | keyword {s t : Segment} {kind kind' : Connective} {rest rest' : Approach}
      {failure failure' : Failure} (same : s.property = t.property)
      (longer : t.keyword.word.length < s.keyword.word.length) :
      Before entity ⟨(s, kind) :: rest, failure⟩ ⟨(t, kind') :: rest', failure'⟩
  | connective {segment : Segment} {rest rest' : Approach} {failure failure' : Failure} :
      Before entity ⟨(segment, .conjunction) :: rest, failure⟩
        ⟨(segment, .disjunction) :: rest', failure'⟩
  | later {segment : Segment} {kind : Connective} {rest rest' : Approach}
      {failure failure' : Failure} (order : Before entity ⟨rest, failure⟩ ⟨rest', failure'⟩) :
      Before entity ⟨(segment, kind) :: rest, failure⟩ ⟨(segment, kind) :: rest', failure'⟩
  | leading {segment : Segment} {kind : Connective} {rest : Approach} {failure failure' : Failure}
      (same : failure'.fault.property? = some segment.property) :
      Before entity ⟨(segment, kind) :: rest, failure⟩ ⟨[], failure'⟩
  | known {one other : DeadEnd} {p : String} (first : one.property? = some p)
      (second : other.property? = none) : Before entity one other

end DeadEnd

namespace DeadEnd

variable {entity : Entity} {one other : DeadEnd}

/-- What is met first is met at no later property. -/
theorem Before.exists_property? (before : one.Before entity other) :
    ∃ p, one.property? = some p ∧
      ∀ q, other.property? = some q → entity.TriedBefore p q ∨ p = q := by
  cases before with
  | property first second order =>
      refine ⟨_, first, fun q third => .inl ?_⟩
      cases second.symm.trans third
      exact order
  | keyword same longer =>
      exact ⟨_, rfl, fun q second => .inr (same.trans (Option.some.inj second))⟩
  | connective => exact ⟨_, rfl, fun q second => .inr (Option.some.inj second)⟩
  | later order => exact ⟨_, rfl, fun q second => .inr (Option.some.inj second)⟩
  | leading same =>
      exact ⟨_, rfl, fun q second => .inr (Option.some.inj (same.symm.trans second))⟩
  | known first second =>
      refine ⟨_, first, fun q third => ?_⟩
      cases second.symm.trans third

/-- Of two dead ends at most one is met before the other. -/
theorem Before.asymm (before : one.Before entity other) : ¬other.Before entity one := by
  induction before with
  | property first second order =>
      intro after
      obtain ⟨p, first', least⟩ := after.exists_property?
      cases second.symm.trans first'
      rcases least _ first with order' | rfl
      · exact order.asymm order'
      · exact order.irrefl
  | keyword same longer =>
      intro after
      cases after with
      | property first second order =>
          cases first
          cases second
          rw [same] at order
          exact order.irrefl
      | keyword same' longer' => omega
      | connective => omega
      | later _ => omega
      | known first second => cases second
  | connective =>
      intro after
      cases after with
      | property first second order =>
          cases first
          cases second
          exact order.irrefl
      | keyword same' longer' => omega
      | known first second => cases second
  | later order ih =>
      intro after
      cases after with
      | property first second order =>
          cases first
          cases second
          exact order.irrefl
      | keyword same' longer' => omega
      | later order' => exact ih order'
      | known first second => cases second
  | leading same =>
      intro after
      cases after with
      | property first second order =>
          cases second
          cases same.symm.trans first
          exact order.irrefl
      | known first second => cases second
  | known first second =>
      intro after
      obtain ⟨p, first', -⟩ := after.exists_property?
      cases second.symm.trans first'

end DeadEnd

namespace Entity

/-- The dead ends of a text in the order in which a search meets them that does not come to an end
before. -/
def deadEnds (entity : Entity) (text : List Char) : List DeadEnd :=
  (entity.steps text).attach.flatMap fun
    | ⟨.last _, _⟩ => []
    | ⟨.joined segment kind rest, _known⟩ =>
      (entity.deadEnds rest).map (DeadEnd.preceded segment kind)
    | ⟨.stuck failure, _⟩ => [⟨[], failure⟩]
termination_by text.length
decreasing_by exact length_lt_of_joined_mem_steps _known

/-- The dead ends that a step leads to. -/
def deadEndsBehind (entity : Entity) : Step → List DeadEnd
  | .last _ => []
  | .joined segment kind rest => (entity.deadEnds rest).map (DeadEnd.preceded segment kind)
  | .stuck failure => [⟨[], failure⟩]

variable {entity : Entity} {text : List Char}

theorem deadEnds_eq (entity : Entity) (text : List Char) :
    entity.deadEnds text = (entity.steps text).flatMap entity.deadEndsBehind := by
  conv_rhs => rw [← List.attach_map_subtype_val (entity.steps text), List.flatMap_map]
  rw [deadEnds]
  congr 1
  funext ⟨step, known⟩
  cases step <;> rfl

end Entity

/-! ### The record of failures -/

namespace Failure

variable {record : Option Failure} {failure : Failure} {failures others : List Failure}

theorem further?_none (failure : Option Failure) : further? failure none = failure := by
  cases failure <;> rfl

theorem further?_assoc (first second third : Option Failure) :
    further? (further? first second) third = further? first (further? second third) := by
  cases first with
  | none => rfl
  | some a =>
      cases second with
      | none => rfl
      | some b =>
          cases third with
          | none => simp only [further?_none]
          | some c =>
              simp only [further?, Option.some.injEq]
              grind

/-- The record of failures that are met one after the other: one that is met replaces the one that is
kept only if it got further. -/
def recorded (record : Option Failure) (failures : List Failure) : Option Failure :=
  failures.foldl (fun kept failure => further? kept (some failure)) record

/-- Keeping a record through a part of a search is the same as comparing the record before it with the
one of the part alone. -/
theorem recorded_eq (record : Option Failure) (failures : List Failure) :
    recorded record failures = further? record (recorded none failures) := by
  induction failures generalizing record with
  | nil => exact (further?_none record).symm
  | cons failure failures ih =>
      have step (kept : Option Failure) :
          recorded kept (failure :: failures) =
            recorded (further? kept (some failure)) failures := rfl
      rw [step, step, ih, ih (further? none (some failure)), further?_assoc]
      rfl

theorem recorded_append (failures others : List Failure) :
    recorded none (failures ++ others) =
      further? (recorded none failures) (recorded none others) := by
  rw [recorded, List.foldl_append]
  exact recorded_eq _ _

theorem recorded_eq_none_iff : recorded none failures = none ↔ failures = [] := by
  cases failures with
  | nil => simp [recorded]
  | cons failure failures =>
      rw [← List.singleton_append, recorded_append]
      change further? (some failure) _ = none ↔ _
      cases recorded none failures <;> simp [further?]

/-- What is recorded in the end is the first of the failures that got furthest. -/
theorem exists_of_recorded_eq_some (kept : recorded none failures = some failure) :
    ∃ earlier later, failures = earlier ++ failure :: later ∧
      (∀ other ∈ earlier, failure.remaining < other.remaining) ∧
      ∀ other ∈ later, failure.remaining ≤ other.remaining := by
  induction failures generalizing failure with
  | nil => cases kept
  | cons first failures ih =>
      rw [← List.singleton_append, recorded_append] at kept
      change further? (some first) _ = some failure at kept
      cases among : recorded none failures with
      | none =>
          rw [among] at kept
          cases kept
          exact ⟨[], [], by rw [recorded_eq_none_iff.1 among]; rfl, by simp, by simp⟩
      | some best =>
          obtain ⟨earlier, later, rfl, before, behind⟩ := ih among
          rw [among, further?] at kept
          split at kept
          · next further =>
              cases kept
              exact ⟨first :: earlier, later, rfl,
                List.forall_mem_cons.2 ⟨further, before⟩, behind⟩
          · next noFurther =>
              cases kept
              refine ⟨[], _, rfl, by simp, ?_⟩
              intro other listed
              rcases List.mem_append.1 listed with listed | listed
              · have := before other listed
                omega
              · rcases List.mem_cons.1 listed with rfl | listed
                · omega
                · have := behind other listed
                  omega

end Failure

namespace Reading

theorem afterFailure_eq_failed_iff {earlier failure : Option Failure} {reading : Reading} :
    reading.afterFailure earlier = .failed failure ↔
      ∃ later, reading = .failed later ∧ failure = Failure.further? earlier later := by
  cases reading <;> simp [afterFailure, eq_comm]

end Reading

namespace Entity

variable {entity : Entity} {text : List Char}

/-- Steps tried one after the other, if nothing is read, leave the record of all dead ends behind them.
The induction is on the steps that are left. -/
theorem recorded_of_readSteps
    (shorter : ∀ rest : List Char, rest.length < text.length → ∀ failure,
      entity.readCriteria rest = .failed failure →
        failure = Failure.recorded none ((entity.deadEnds rest).map (·.failure))) :
    ∀ (steps : List Step) (known : ∀ step ∈ steps, step ∈ entity.steps text) (failure),
      entity.readSteps text steps known = .failed failure →
        failure =
          Failure.recorded none ((steps.flatMap entity.deadEndsBehind).map (·.failure)) := by
  intro steps
  induction steps with
  | nil =>
      intro known failure failed
      rw [readSteps] at failed
      cases failed
      rfl
  | cons step others ih =>
      intro known failure failed
      rw [List.flatMap_cons, List.map_append, Failure.recorded_append]
      cases step with
      | last segment =>
          rw [readSteps] at failed
          cases failed
      | stuck first =>
          rw [readSteps] at failed
          obtain ⟨later, tail, rfl⟩ := Reading.afterFailure_eq_failed_iff.1 failed
          rw [ih _ later tail]
          rfl
      | joined segment kind rest =>
          rw [readSteps] at failed
          cases inner : entity.readCriteria rest with
          | read criteria =>
              rw [inner] at failed
              cases failed
          | failed first =>
              rw [inner] at failed
              obtain ⟨later, tail, rfl⟩ := Reading.afterFailure_eq_failed_iff.1 failed
              have less := length_lt_of_joined_mem_steps (known _ List.mem_cons_self)
              rw [ih _ later tail, shorter rest less first inner, deadEndsBehind, List.map_map]
              rfl

/-- A search that fails has the record of all dead ends. -/
theorem recorded_of_readCriteria {failure : Option Failure}
    (failed : entity.readCriteria text = .failed failure) :
    failure = Failure.recorded none ((entity.deadEnds text).map (·.failure)) := by
  induction size : text.length using Nat.strongRecOn generalizing text failure with
  | _ length ih =>
      subst size
      rw [readCriteria] at failed
      rw [deadEnds_eq]
      exact recorded_of_readSteps (fun rest less other inner => ih _ less inner rfl) _ _ _ failed

end Entity

/-! ### Which dead ends there are -/

namespace Approach

variable {entity : Entity} {text rest : List Char}

theorem leaves_nil_iff : Leaves [] entity text rest ↔ text = rest := by
  constructor
  · exact fun leaves => leaves.spelled
  · rintro rfl
    exact ⟨rfl, by simp, by simp⟩

theorem leaves_cons_iff {segment : Segment} {kind : Connective}
    {approach : Approach} :
    Leaves ((segment, kind) :: approach) entity text rest ↔
      segment.IsAdmitted entity ∧ ∃ middle,
        text = segment.spelling ++ (kind.segmentWord ++ middle) ∧ middle ≠ [] ∧
          approach.Leaves entity middle rest := by
  constructor
  · rintro ⟨spelled, admitted, unfinished⟩
    obtain ⟨front, admitted⟩ := List.forall_mem_cons.1 admitted
    have remaining := unfinished (List.cons_ne_nil _ _)
    refine ⟨front, approach.spelling ++ rest, ?_, ?_, rfl, admitted, fun _ => remaining⟩
    · rw [spelled, spelling, List.flatMap_cons, ← spelling, List.append_assoc, List.append_assoc]
    · exact List.append_ne_nil_of_right_ne_nil _ remaining
  · rintro ⟨front, middle, rfl, nonempty, spelled, admitted, unfinished⟩
    refine ⟨?_, List.forall_mem_cons.2 ⟨front, admitted⟩, fun _ => ?_⟩
    · rw [spelling, List.flatMap_cons, ← spelling, spelled, List.append_assoc, List.append_assoc]
    · by_cases last : approach = []
      · rw [last] at spelled
        exact fun nothing => nonempty (spelled.trans nothing)
      · exact unfinished last

end Approach

namespace DeadEnd

variable {entity : Entity} {text : List Char}

theorem isIn_nil_iff {failure : Failure} :
    IsIn ⟨[], failure⟩ entity text ↔ failure.ArisesAt entity text := by
  simp [IsIn, Approach.leaves_nil_iff]

theorem isIn_preceded_iff {segment : Segment} {kind : Connective} {deadEnd : DeadEnd} :
    (deadEnd.preceded segment kind).IsIn entity text ↔
      segment.IsAdmitted entity ∧ ∃ rest,
        text = segment.spelling ++ (kind.segmentWord ++ rest) ∧ rest ≠ [] ∧
          deadEnd.IsIn entity rest := by
  simp only [IsIn, preceded, Approach.leaves_cons_iff]
  constructor
  · rintro ⟨rest, ⟨admitted, middle, spelled, nonempty, leaves⟩, arises⟩
    exact ⟨admitted, middle, spelled, nonempty, rest, leaves, arises⟩
  · rintro ⟨admitted, middle, spelled, nonempty, rest, leaves, arises⟩
    exact ⟨rest, ⟨admitted, middle, spelled, nonempty, leaves⟩, arises⟩

end DeadEnd

namespace Entity

variable {entity : Entity} {text : List Char}

/-- A search meets all dead ends of a text and no others. -/
theorem Built.mem_deadEnds_iff (built : entity.Built) {deadEnd : DeadEnd} :
    deadEnd ∈ entity.deadEnds text ↔ deadEnd.IsIn entity text := by
  induction size : text.length using Nat.strongRecOn generalizing text deadEnd with
  | _ length ih =>
      subst size
      rw [deadEnds_eq, List.mem_flatMap]
      constructor
      · rintro ⟨step, listed, behind⟩
        cases step with
        | last segment => cases behind
        | joined segment kind rest =>
            obtain ⟨inner, found, rfl⟩ := List.mem_map.1 behind
            obtain ⟨admitted, spelled, nonempty⟩ := built.joined_mem_steps_iff.1 listed
            have less := length_lt_of_joined_mem_steps listed
            exact DeadEnd.isIn_preceded_iff.2
              ⟨admitted, rest, spelled, nonempty, (ih _ less rfl).1 found⟩
        | stuck failure =>
            rw [List.mem_singleton.1 behind]
            exact DeadEnd.isIn_nil_iff.2 (built.stuck_mem_steps_iff.1 listed)
      · intro found
        obtain ⟨approach, failure⟩ := deadEnd
        cases approach with
        | nil =>
            exact ⟨.stuck failure, built.stuck_mem_steps_iff.2 (DeadEnd.isIn_nil_iff.1 found),
              List.mem_singleton_self _⟩
        | cons entry approach =>
            obtain ⟨segment, kind⟩ := entry
            obtain ⟨admitted, rest, spelled, nonempty, inner⟩ :=
              (@DeadEnd.isIn_preceded_iff _ _ _ _ ⟨approach, failure⟩).1 found
            have listed := built.joined_mem_steps_iff.2 ⟨admitted, spelled, nonempty⟩
            have less := length_lt_of_joined_mem_steps listed
            exact ⟨.joined segment kind rest, listed,
              List.mem_map_of_mem ((ih _ less rfl).2 inner)⟩

/-! ### The order in which they are met -/

theorem property?_of_mem_deadEndsBehind {step : Step} {deadEnd : DeadEnd}
    (found : deadEnd ∈ entity.deadEndsBehind step) : deadEnd.property? = step.property? := by
  cases step with
  | last segment => cases found
  | joined segment kind rest =>
      obtain ⟨inner, -, rfl⟩ := List.mem_map.1 found
      rfl
  | stuck failure =>
      rw [List.mem_singleton.1 found]
      rfl

theorem exists_preceded_of_mem_deadEndsBehind {step : Step} {segment : Segment}
    {deadEnd : DeadEnd} (read : step.segment? = some segment)
    (found : deadEnd ∈ entity.deadEndsBehind step) :
    ∃ kind inner, deadEnd = DeadEnd.preceded segment kind inner := by
  cases step with
  | last found' => cases found
  | joined other kind rest =>
      obtain ⟨inner, -, rfl⟩ := List.mem_map.1 found
      cases read
      exact ⟨kind, inner, rfl⟩
  | stuck failure => cases read

/-- The dead ends behind a step are met before those behind a later one. -/
theorem before_of_precedes {step later : Step} (precedes : step.Precedes entity later)
    {one other : DeadEnd} (found : one ∈ entity.deadEndsBehind step)
    (found' : other ∈ entity.deadEndsBehind later) : one.Before entity other := by
  have property := property?_of_mem_deadEndsBehind found
  have property' := property?_of_mem_deadEndsBehind found'
  cases precedes with
  | property first second order =>
      exact .property (property.trans first) (property'.trans second) order
  | keyword first second same longer =>
      obtain ⟨kind, inner, rfl⟩ := exists_preceded_of_mem_deadEndsBehind first found
      obtain ⟨kind', inner', rfl⟩ := exists_preceded_of_mem_deadEndsBehind second found'
      exact .keyword same longer
  | connective =>
      obtain ⟨inner, -, rfl⟩ := List.mem_map.1 found
      obtain ⟨inner', -, rfl⟩ := List.mem_map.1 found'
      exact .connective
  | leading first second =>
      obtain ⟨kind, inner, rfl⟩ := exists_preceded_of_mem_deadEndsBehind first found
      rw [List.mem_singleton.1 found']
      exact .leading second
  | known first second => exact .known (property.trans first) (property'.trans second)

/-- A search meets the dead ends of a text in their order. -/
theorem Built.pairwise_deadEnds (built : entity.Built) (text : List Char) :
    (entity.deadEnds text).Pairwise (DeadEnd.Before entity) := by
  induction size : text.length using Nat.strongRecOn generalizing text with
  | _ length ih =>
      subst size
      rw [deadEnds_eq, List.pairwise_flatMap]
      constructor
      · intro step listed
        cases step with
        | last segment => exact List.Pairwise.nil
        | joined segment kind rest =>
            have less := length_lt_of_joined_mem_steps listed
            exact List.pairwise_map.2 ((ih _ less rest rfl).imp .later)
        | stuck failure => exact List.pairwise_singleton _ _
      · exact (built.pairwise_steps text).imp fun precedes one found other found' =>
          before_of_precedes precedes found found'

end Entity

/-! ### How far a search gets -/

/-- The places in a text that a search comes to: those where a partial reading ends, and the ends of the
properties that may be queried and stand there. -/
inductive Entity.Reaches (entity : Entity) (text : List Char) : Nat → Prop where
  | start {approach : Approach} {rest : List Char} (leaves : approach.Leaves entity text rest) :
      Reaches entity text approach.spelling.length
  | property {approach : Approach} {rest : List Char} {property : String}
      (leaves : approach.Leaves entity text rest)
      (queryable : property ∈ entity.queryableProperties)
      (spelled : capitalized property <+: rest) :
      Reaches entity text (approach.spelling.length + (capitalized property).length)

theorem Approach.Leaves.length_eq {entity : Entity} {approach : Approach} {text rest : List Char}
    (leaves : approach.Leaves entity text rest) :
    text.length = approach.spelling.length + rest.length := by
  rw [leaves.spelled, List.length_append]

variable {entity : Entity} {text : List Char}

/-- The place of a dead end is one that the search comes to. -/
theorem DeadEnd.IsIn.exists_reaches {deadEnd : DeadEnd} (found : deadEnd.IsIn entity text) :
    ∃ place, entity.Reaches text place ∧ place + deadEnd.failure.remaining = text.length := by
  obtain ⟨approach, failure⟩ := deadEnd
  obtain ⟨rest, leaves, arises⟩ := found
  have length := leaves.length_eq
  cases arises with
  | refused declared hidden spelled => exact ⟨_, .start leaves, length.symm⟩
  | unknown unspelled => exact ⟨_, .start leaves, length.symm⟩
  | behind queryable spelled =>
      refine ⟨_, .property leaves queryable (spelled ▸ List.prefix_append _ _), ?_⟩
      rw [spelled, List.length_append] at length
      dsimp only at length ⊢
      omega

/-- There is a dead end at or behind every place that the search comes to. -/
theorem Entity.Reaches.exists_isIn {place : Nat} (reached : entity.Reaches text place) :
    ∃ deadEnd : DeadEnd, deadEnd.IsIn entity text ∧
      place + deadEnd.failure.remaining ≤ text.length := by
  have behind {approach : Approach} {rest : List Char} {property : String}
      (leaves : approach.Leaves entity text rest)
      (queryable : property ∈ entity.queryableProperties)
      (spelled : capitalized property <+: rest) :
      ∃ deadEnd : DeadEnd, deadEnd.IsIn entity text ∧
        approach.spelling.length + (capitalized property).length +
          deadEnd.failure.remaining = text.length := by
    obtain ⟨more, rfl⟩ := spelled
    refine ⟨⟨approach, _⟩, ⟨_, leaves, .behind queryable rfl⟩, ?_⟩
    rw [leaves.length_eq, List.length_append, Nat.add_assoc]
  cases reached with
  | start leaves =>
      rename_i approach rest
      by_cases known : ∃ property ∈ entity.queryableProperties, capitalized property <+: rest
      · obtain ⟨property, queryable, spelled⟩ := known
        obtain ⟨deadEnd, found, length⟩ := behind leaves queryable spelled
        exact ⟨deadEnd, found, by omega⟩
      · simp only [not_exists, not_and] at known
        exact ⟨⟨approach, _⟩, ⟨rest, leaves, .unknown known⟩, leaves.length_eq.ge⟩
  | property leaves queryable spelled =>
      obtain ⟨deadEnd, found, length⟩ := behind leaves queryable spelled
      exact ⟨deadEnd, found, length.le⟩

/-! ### What is reported -/

/-- A dead end of a text that no other one gets further than, and the first of those that get equally
far. -/
structure DeadEnd.IsFirstFurthest (deadEnd : DeadEnd) (entity : Entity) (text : List Char) :
    Prop where
  found : deadEnd.IsIn entity text
  furthest : ∀ other : DeadEnd, other.IsIn entity text →
    deadEnd.failure.remaining ≤ other.failure.remaining
  first : ∀ other : DeadEnd, other.IsIn entity text →
    other.failure.remaining = deadEnd.failure.remaining → other ≠ deadEnd →
      deadEnd.Before entity other

namespace DeadEnd.IsFirstFurthest

variable {deadEnd other : DeadEnd}

theorem unique (first : deadEnd.IsFirstFurthest entity text)
    (first' : other.IsFirstFurthest entity text) : deadEnd = other := by
  have equallyFar : other.failure.remaining = deadEnd.failure.remaining :=
    (first'.furthest _ first.found).antisymm (first.furthest _ first'.found)
  by_contra different
  exact (first.first _ first'.found equallyFar (Ne.symm different)).asymm
    (first'.first _ first.found equallyFar.symm different)

/-- It lies at the furthest of all places that the search comes to. -/
theorem exists_isGreatest (first : deadEnd.IsFirstFurthest entity text) :
    ∃ place, place + deadEnd.failure.remaining = text.length ∧
      IsGreatest {place | entity.Reaches text place} place := by
  obtain ⟨place, reached, length⟩ := first.found.exists_reaches
  refine ⟨place, length, reached, ?_⟩
  rintro place' reached'
  obtain ⟨other, found', length'⟩ := reached'.exists_isIn
  have noFurther := first.furthest other found'
  omega

/-- In the order in which the dead ends are met it comes after shorter ones, and before those that get
no further. -/
theorem of_deadEnds_eq (built : entity.Built) {earlier later : List DeadEnd}
    (met : entity.deadEnds text = earlier ++ deadEnd :: later)
    (before : ∀ other ∈ earlier, deadEnd.failure.remaining < other.failure.remaining)
    (behind : ∀ other ∈ later, deadEnd.failure.remaining ≤ other.failure.remaining) :
    deadEnd.IsFirstFurthest entity text := by
  have isIn_iff {other : DeadEnd} :
      other.IsIn entity text ↔ other ∈ earlier ∨ other = deadEnd ∨ other ∈ later := by
    rw [← built.mem_deadEnds_iff, met, List.mem_append, List.mem_cons]
  refine ⟨isIn_iff.2 (.inr (.inl rfl)), ?_, ?_⟩
  · intro other found
    rcases isIn_iff.1 found with listed | rfl | listed
    · exact (before other listed).le
    · exact le_rfl
    · exact behind other listed
  · intro other found equallyFar different
    have ordered := built.pairwise_deadEnds text
    rw [met, List.pairwise_append, List.pairwise_cons] at ordered
    rcases isIn_iff.1 found with listed | rfl | listed
    · exact absurd equallyFar (before other listed).ne'
    · exact absurd rfl different
    · exact ordered.2.1.1 other listed

end DeadEnd.IsFirstFurthest

namespace Entity

theorem Built.deadEnds_ne_nil (built : entity.Built) (text : List Char) :
    entity.deadEnds text ≠ [] := by
  have start : entity.Reaches text 0 := .start (Approach.leaves_nil_iff.2 rfl)
  obtain ⟨deadEnd, found, -⟩ := start.exists_isIn
  exact List.ne_nil_of_mem (built.mem_deadEnds_iff.2 found)

/-- A search that fails has a failure on record, that of a dead end which no earlier one equals and no
later one exceeds. -/
theorem Built.exists_of_readCriteria_failed (built : entity.Built) {record : Option Failure}
    (failed : entity.readCriteria text = .failed record) :
    ∃ earlier reported later, record = some (DeadEnd.failure reported) ∧
      entity.deadEnds text = earlier ++ reported :: later ∧
      (∀ other ∈ earlier, reported.failure.remaining < other.failure.remaining) ∧
      ∀ other ∈ later, reported.failure.remaining ≤ other.failure.remaining := by
  have kept := recorded_of_readCriteria failed
  cases record with
  | none =>
      have none := Failure.recorded_eq_none_iff.1 kept.symm
      exact absurd (List.map_eq_nil_iff.1 none) (built.deadEnds_ne_nil text)
  | some failure =>
      obtain ⟨_, _, listed, before, behind⟩ := Failure.exists_of_recorded_eq_some kept.symm
      obtain ⟨earlier, tail, met, rfl, same⟩ := List.map_eq_append_iff.1 listed
      obtain ⟨reported, later, rfl, rfl, rfl⟩ := List.map_eq_cons_iff.1 same
      rw [List.forall_mem_map] at before behind
      exact ⟨earlier, reported, later, rfl, met, before, behind⟩

/-- Criteria that have no reading are always complained about, and the complaint is about the furthest
of all places that a search comes to.  It is the failure of a dead end there; if there are several, of
the one that comes first in their order, which is the one that the search meets first. -/
theorem Built.reports_furthest (built : entity.Built)
    (unreadable : ∀ criteria : Criteria, ¬criteria.IsReading entity text) :
    ∃ (reported : DeadEnd) (place : Nat),
      entity.readCriteria text = .failed (some reported.failure) ∧
      (∀ descriptor, criteriaOf descriptor = .ok text →
        Finder.parse entity descriptor =
          .error ⟨descriptor, .criteria reported.failure.fault⟩) ∧
      place + reported.failure.remaining = text.length ∧
      IsGreatest {place | entity.Reaches text place} place ∧
      (∃ earlier later, entity.deadEnds text = earlier ++ reported :: later ∧
        ∀ other ∈ earlier, other.failure.remaining ≠ reported.failure.remaining) ∧
      reported.IsFirstFurthest entity text ∧
      ∀ other : DeadEnd, other.IsFirstFurthest entity text → other = reported := by
  cases outcome : entity.readCriteria text with
  | read criteria =>
      exact absurd (built.readCriteria_eq_read_iff.1 outcome).reading (unreadable criteria)
  | failed record =>
      obtain ⟨earlier, reported, later, rfl, met, before, behind⟩ :=
        built.exists_of_readCriteria_failed outcome
      have first := DeadEnd.IsFirstFurthest.of_deadEnds_eq built met before behind
      obtain ⟨place, length, greatest⟩ := first.exists_isGreatest
      refine ⟨reported, place, rfl, ?_, length, greatest, ⟨earlier, later, met, ?_⟩, first,
        fun other first' => first'.unique first⟩
      · intro descriptor accepted
        rw [Finder.parse, accepted]
        dsimp only
        rw [outcome]
      · exact fun other listed => (before other listed).ne'

/-! ### An example -/

/-- A text has no reading if it is no segment itself, and nothing that follows a segment and a
connective in it has one. -/
theorem not_isReading_of_forall
    (alone : ∀ property ∈ entity.queryableProperties, ∀ keyword ∈ Keyword.all,
      capitalized property ++ keyword.word.toList ≠ text)
    (joined : ∀ property ∈ entity.queryableProperties, ∀ keyword ∈ Keyword.all,
      ∀ kind ∈ Connective.tried, ∀ rest,
        text = capitalized property ++ (keyword.word.toList ++ (kind.segmentWord ++ rest)) →
          ∀ criteria : Criteria, ¬criteria.IsReading entity rest)
    (criteria : Criteria) : ¬criteria.IsReading entity text := by
  intro reading
  rcases criteria.eq_single_or_preceded with ⟨segment, rfl⟩ | ⟨segment, kind, others, rfl⟩
  · obtain ⟨admitted, spelled⟩ := Criteria.isReading_single_iff.1 reading
    exact alone _ admitted.property _ admitted.keyword spelled.symm
  · obtain ⟨admitted, rest, inner, spelled⟩ := Criteria.isReading_preceded_iff.1 reading
    rw [Segment.spelling, List.append_assoc] at spelled
    exact joined _ admitted.property _ admitted.keyword kind (by cases kind <;> decide) rest
      spelled others inner

/-- Criteria in which a known property is followed by something that is no keyword. -/
theorem unreadable_lastnameWhatever (criteria : Criteria) :
    ¬criteria.IsReading person "LastnameWhatever".toList := by
  refine not_isReading_of_forall (by decide +kernel) ?_ criteria
  intro property queryable keyword known kind tried rest spelled
  have none : ∀ property ∈ person.queryableProperties, ∀ keyword ∈ Keyword.all,
      ∀ kind ∈ Connective.tried,
        ¬capitalized property ++ (keyword.word.toList ++ kind.segmentWord) <+:
          "LastnameWhatever".toList := by decide +kernel
  exact absurd ⟨rest, by rw [spelled]; simp only [List.append_assoc]⟩
    (none property queryable keyword known kind tried)

theorem unreadable_phoneAndLastnameWhatever (criteria : Criteria) :
    ¬criteria.IsReading person "PhoneAndLastnameWhatever".toList := by
  refine not_isReading_of_forall (by decide +kernel) ?_ criteria
  intro property queryable keyword known kind tried rest spelled
  have only : ∀ property ∈ person.queryableProperties, ∀ keyword ∈ Keyword.all,
      ∀ kind ∈ Connective.tried,
        capitalized property ++ (keyword.word.toList ++ kind.segmentWord) <+:
          "PhoneAndLastnameWhatever".toList →
            (capitalized property ++ (keyword.word.toList ++ kind.segmentWord)).length = 8 := by
    decide +kernel
  have cut : "PhoneAndLastnameWhatever".toList =
      capitalized property ++ (keyword.word.toList ++ kind.segmentWord) ++ rest := by
    rw [spelled]
    simp only [List.append_assoc]
  have front := only property queryable keyword known kind tried ⟨rest, cut.symm⟩
  have left := congrArg (List.drop 8) cut
  rw [← front, List.drop_left, front] at left
  exact left ▸ unreadable_lastnameWhatever

/-- The complaint is about what follows the second property. -/
theorem Built.reports_furthest_person :
    person.Built ∧
      (∀ criteria : Criteria, ¬criteria.IsReading person "PhoneAndLastnameWhatever".toList) ∧
      ∃ (reported : DeadEnd) (place : Nat),
        Finder.parse person "findByPhoneAndLastnameWhatever" =
          .error ⟨"findByPhoneAndLastnameWhatever", .criteria reported.failure.fault⟩ ∧
        IsGreatest {place | person.Reaches "PhoneAndLastnameWhatever".toList place} place ∧
        16 ≤ place := by
  obtain ⟨reported, place, -, complaint, -, greatest, -⟩ :=
    Built.reports_furthest built_person unreadable_phoneAndLastnameWhatever
  have leaves : Approach.Leaves [(⟨"phone", ⟨"", .equals, false⟩⟩, .conjunction)] person
      "PhoneAndLastnameWhatever".toList "LastnameWhatever".toList := by
    refine ⟨by decide +kernel, ?_, by decide⟩
    rintro entry listed
    rw [List.mem_singleton.1 listed]
    exact ⟨by decide, by decide⟩
  have reached : person.Reaches "PhoneAndLastnameWhatever".toList 16 :=
    .property leaves (by decide : "lastname" ∈ person.queryableProperties)
      ⟨"Whatever".toList, by decide +kernel⟩
  exact ⟨built_person, unreadable_phoneAndLastnameWhatever, reported, place,
    complaint _ (by decide +kernel), greatest, greatest.2 reached⟩

end Entity

end DirectoryQuery
