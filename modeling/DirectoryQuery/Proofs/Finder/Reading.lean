/-
Module: DirectoryQuery.Proofs.Finder.Reading
Purpose: Criteria have a grammar, and the reader accepts exactly its texts.  Among the readings of a
  text the one that is taken comes first in an order on readings that does not mention the search.
Main exports:
  Criteria.IsReading, Criteria.Before, Criteria.IsFirstReading, Step.LeadsTo,
  Entity.Built.isReading_iff, Entity.Built.readCriteria_eq_read_iff
-/
import DirectoryQuery.Proofs.Finder.Steps

namespace DirectoryQuery

open Text

/-! ### Readings -/

namespace Criteria

/-- Criteria as they are written. -/
def spelling (criteria : Criteria) : List Char :=
  criteria.first.spelling ++
    criteria.others.flatMap fun (kind, segment) => kind.segmentWord ++ segment.spelling

/-- Criteria that are written as the whole of a text and hold admitted segments only. -/
structure IsReading (criteria : Criteria) (entity : Entity) (text : List Char) : Prop where
  spelled : text = criteria.spelling
  admitted : ∀ segment ∈ criteria.segments, segment.IsAdmitted entity

/-- The order of readings, decided where they first differ: by the segment there, and if a
connective follows, `And` before `Or`. -/
inductive Before (entity : Entity) : Criteria → Criteria → Prop where
  | segment {one other : Criteria} (order : Segment.Before entity one.first other.first) :
      Before entity one other
  | connective {s t u : Segment} {more rest : List (Connective × Segment)} :
      Before entity ⟨s, (.conjunction, t) :: more⟩ ⟨s, (.disjunction, u) :: rest⟩
  | later {s t u : Segment} {kind : Connective} {more rest : List (Connective × Segment)}
      (order : Before entity ⟨t, more⟩ ⟨u, rest⟩) :
      Before entity ⟨s, (kind, t) :: more⟩ ⟨s, (kind, u) :: rest⟩

/-- The reading of a text that comes before all its other readings. -/
structure IsFirstReading (criteria : Criteria) (entity : Entity) (text : List Char) : Prop where
  reading : criteria.IsReading entity text
  first : ∀ other : Criteria, other.IsReading entity text → other ≠ criteria →
    criteria.Before entity other

theorem Before.asymm {entity : Entity} {one other : Criteria} (before : one.Before entity other) :
    ¬other.Before entity one := by
  induction before with
  | segment order =>
      intro after
      cases after with
      | segment order' => exact order.asymm order'
      | connective => exact Segment.Before.irrefl order
      | later _ => exact Segment.Before.irrefl order
  | connective =>
      intro after
      cases after with
      | segment order => exact Segment.Before.irrefl order
  | later _ ih =>
      intro after
      cases after with
      | segment order => exact Segment.Before.irrefl order
      | later order => exact ih order

/-- A text has at most one first reading. -/
theorem IsFirstReading.unique {entity : Entity} {text : List Char} {one other : Criteria}
    (first : one.IsFirstReading entity text) (first' : other.IsFirstReading entity text) :
    one = other := by
  by_contra different
  have before := first.first other first'.reading (Ne.symm different)
  exact before.asymm (first'.first one first.reading different)

variable {entity : Entity}

theorem isReading_single_iff {segment : Segment} {text : List Char} :
    IsReading ⟨segment, []⟩ entity text ↔ segment.IsAdmitted entity ∧ text = segment.spelling := by
  constructor
  · rintro ⟨spelled, admitted⟩
    exact ⟨admitted segment (by simp [segments]), by simpa [spelling] using spelled⟩
  · rintro ⟨admitted, spelled⟩
    exact ⟨by simpa [spelling] using spelled, by simpa [segments] using admitted⟩

theorem spelling_preceded (segment : Segment) (kind : Connective) (criteria : Criteria) :
    (criteria.preceded segment kind).spelling =
      segment.spelling ++ (kind.segmentWord ++ criteria.spelling) := by
  simp [spelling, preceded]

theorem segments_preceded (segment : Segment) (kind : Connective) (criteria : Criteria) :
    (criteria.preceded segment kind).segments = segment :: criteria.segments := rfl

theorem isReading_preceded_iff {segment : Segment} {kind : Connective} {criteria : Criteria}
    {text : List Char} :
    (criteria.preceded segment kind).IsReading entity text ↔
      segment.IsAdmitted entity ∧ ∃ rest, criteria.IsReading entity rest ∧
        text = segment.spelling ++ (kind.segmentWord ++ rest) := by
  constructor
  · rintro ⟨spelled, admitted⟩
    rw [segments_preceded, List.forall_mem_cons] at admitted
    exact ⟨admitted.1, criteria.spelling, ⟨rfl, admitted.2⟩, spelling_preceded .. ▸ spelled⟩
  · rintro ⟨admitted, rest, ⟨rfl, others⟩, spelled⟩
    refine ⟨spelling_preceded .. ▸ spelled, ?_⟩
    rw [segments_preceded, List.forall_mem_cons]
    exact ⟨admitted, others⟩

/-- Criteria are a lone segment, or a segment in front of criteria. -/
theorem eq_single_or_preceded (criteria : Criteria) :
    (∃ segment, criteria = ⟨segment, []⟩) ∨
      ∃ segment kind rest, criteria = preceded segment kind rest := by
  obtain ⟨segment, others⟩ := criteria
  cases others with
  | nil => exact .inl ⟨segment, rfl⟩
  | cons joined more => exact .inr ⟨segment, joined.1, ⟨joined.2, more⟩, rfl⟩

end Criteria

/-! ### Steps -/

namespace Step

/-- The readings that a step leads to. -/
inductive LeadsTo (entity : Entity) : Step → Criteria → Prop where
  | last (segment : Segment) : LeadsTo entity (.last segment) ⟨segment, []⟩
  | joined (segment : Segment) (kind : Connective) {rest : List Char} {criteria : Criteria}
      (reading : criteria.IsReading entity rest) :
      LeadsTo entity (.joined segment kind rest) (criteria.preceded segment kind)

/-- All readings that one step leads to come before those that the other leads to. -/
def Before (entity : Entity) (step later : Step) : Prop :=
  ∀ one other : Criteria, step.LeadsTo entity one → later.LeadsTo entity other →
    one.Before entity other

theorem not_leadsTo_stuck {entity : Entity} {failure : Failure} {criteria : Criteria} :
    ¬(Step.stuck failure).LeadsTo entity criteria := by
  intro leads
  cases leads

variable {entity : Entity} {step later : Step} {criteria : Criteria}

/-- A step leads to readings that begin with the segment that it reads. -/
theorem LeadsTo.segment? (leads : step.LeadsTo entity criteria) :
    step.segment? = some criteria.first := by
  cases leads with
  | last segment => rfl
  | joined segment kind reading => rfl

theorem LeadsTo.property? (leads : step.LeadsTo entity criteria) :
    step.property? = some criteria.first.property :=
  property?_of_segment? leads.segment?

/-- Steps are tried in the order of the readings that they lead to. -/
theorem Precedes.before (precedes : step.Precedes entity later) : step.Before entity later := by
  intro one other leads leads'
  cases precedes with
  | property first second order =>
      cases first.symm.trans leads.property?
      cases second.symm.trans leads'.property?
      exact .segment (.property order)
  | keyword first second same longer =>
      cases first.symm.trans leads.segment?
      cases second.symm.trans leads'.segment?
      exact .segment (.keyword same longer)
  | connective =>
      cases leads
      cases leads'
      exact .connective
  | leading first second => exact absurd leads' not_leadsTo_stuck
  | known first second => cases second.symm.trans leads'.property?

end Step

/-! ### Steps of an entity -/

namespace Entity

variable {entity : Entity}

/-- The readings of a text are those that the steps at its front lead to. -/
theorem Built.isReading_iff (built : entity.Built) {text : List Char} {criteria : Criteria} :
    criteria.IsReading entity text ↔ ∃ step ∈ entity.steps text, step.LeadsTo entity criteria := by
  constructor
  · intro reading
    rcases criteria.eq_single_or_preceded with ⟨segment, rfl⟩ | ⟨segment, kind, others, rfl⟩
    · exact ⟨.last segment,
        built.last_mem_steps_iff.2 (Criteria.isReading_single_iff.1 reading), .last segment⟩
    · obtain ⟨admitted, rest, inner, spelled⟩ := Criteria.isReading_preceded_iff.1 reading
      refine ⟨.joined segment kind rest, built.joined_mem_steps_iff.2 ⟨admitted, spelled, ?_⟩,
        .joined segment kind inner⟩
      -- Behind a connective there is at least the name of a property.
      rw [inner.spelled]
      exact List.append_ne_nil_of_left_ne_nil
        (built.spelling_ne_nil (inner.admitted _ List.mem_cons_self)) _
  · rintro ⟨step, listed, leads⟩
    cases leads with
    | last segment => exact Criteria.isReading_single_iff.2 (built.last_mem_steps_iff.1 listed)
    | joined segment kind reading =>
        obtain ⟨admitted, spelled, -⟩ := built.joined_mem_steps_iff.1 listed
        exact Criteria.isReading_preceded_iff.2 ⟨admitted, _, reading, spelled⟩

end Entity

/-! ### The search -/

/-- An outcome that takes the first of some criteria, and fails only if there are none. -/
inductive Reading.TakesFirst (entity : Entity) (options : Criteria → Prop) : Reading → Prop where
  | read {criteria : Criteria} (option : options criteria)
      (first : ∀ other, options other → other ≠ criteria → criteria.Before entity other) :
      TakesFirst entity options (.read criteria)
  | failed {failure : Option Failure} (none : ∀ criteria, ¬options criteria) :
      TakesFirst entity options (.failed failure)

/-- The readings that steps lead to. -/
def LedTo (entity : Entity) (steps : List Step) (criteria : Criteria) : Prop :=
  ∃ step ∈ steps, step.LeadsTo entity criteria

namespace Reading.TakesFirst

variable {entity : Entity} {step : Step} {steps : List Step} {criteria : Criteria}
  {reading : Reading}

theorem last (segment : Segment) :
    (Reading.read ⟨segment, []⟩).TakesFirst entity ((Step.last segment).LeadsTo entity) := by
  refine .read (.last segment) ?_
  intro other leads different
  cases leads
  exact absurd rfl different

theorem joined (segment : Segment) (kind : Connective) {rest : List Char}
    (inner : (Reading.read criteria).TakesFirst entity fun tail => tail.IsReading entity rest) :
    (Reading.read (criteria.preceded segment kind)).TakesFirst entity
      ((Step.joined segment kind rest).LeadsTo entity) := by
  cases inner with
  | read option first =>
      refine .read (.joined segment kind option) ?_
      intro other leads different
      cases leads with
      | joined _ _ reading =>
          refine .later (first _ reading ?_)
          rintro rfl
          exact different rfl

/-- What the first of ordered steps leads to comes before what the others lead to. -/
theorem cons (taken : (Reading.read criteria).TakesFirst entity (step.LeadsTo entity))
    (ordered : ∀ later ∈ steps, step.Before entity later) :
    (Reading.read criteria).TakesFirst entity (LedTo entity (step :: steps)) := by
  cases taken with
  | read option first =>
      refine .read ⟨step, List.mem_cons_self, option⟩ ?_
      rintro other ⟨later, listed, leads⟩ different
      rcases List.mem_cons.1 listed with rfl | listed
      · exact first other leads different
      · exact ordered later listed _ _ option leads

/-- A step that leads nowhere is passed over. -/
theorem skip (taken : reading.TakesFirst entity (LedTo entity steps))
    (nowhere : ∀ criteria, ¬step.LeadsTo entity criteria) (failure : Option Failure) :
    (reading.afterFailure failure).TakesFirst entity (LedTo entity (step :: steps)) := by
  have same : LedTo entity (step :: steps) = LedTo entity steps := by
    funext criteria
    simp [LedTo, nowhere]
  rw [same]
  cases taken with
  | read option first => exact .read option first
  | failed none => exact .failed none

end Reading.TakesFirst

namespace Entity

variable {entity : Entity}

/-- Steps tried one after the other take the first of the readings that they lead to, if every
shorter text is read that way.  The induction is on the steps that are left. -/
theorem takesFirst_readSteps {text : List Char}
    (shorter : ∀ rest : List Char, rest.length < text.length →
      (entity.readCriteria rest).TakesFirst entity fun criteria => criteria.IsReading entity rest) :
    ∀ (steps : List Step) (known : ∀ step ∈ steps, step ∈ entity.steps text),
      steps.Pairwise (Step.Before entity) →
        (entity.readSteps text steps known).TakesFirst entity (LedTo entity steps) := by
  intro steps
  induction steps with
  | nil =>
      intro known _
      rw [readSteps]
      exact .failed (by simp [LedTo])
  | cons step others ih =>
      intro known ordered
      obtain ⟨front, ordered⟩ := List.pairwise_cons.1 ordered
      have tail := ih (fun step found => known step (.tail _ found)) ordered
      cases step with
      | last segment =>
          rw [readSteps]
          exact (Reading.TakesFirst.last segment).cons front
      | stuck failure =>
          rw [readSteps]
          exact tail.skip (fun _ => Step.not_leadsTo_stuck) _
      | joined segment kind rest =>
          have inner := shorter rest (length_lt_of_joined_mem_steps (known _ List.mem_cons_self))
          rw [readSteps]
          cases outcome : entity.readCriteria rest with
          | read criteria =>
              rw [outcome] at inner
              exact (inner.joined segment kind).cons front
          | failed failure =>
              rw [outcome] at inner
              refine tail.skip ?_ failure
              intro criteria leads
              cases inner with
              | failed none =>
                  cases leads with
                  | joined _ _ reading => exact none _ reading

/-- A whole text is read as the first of its readings. -/
theorem Built.takesFirst_readCriteria (built : entity.Built) (text : List Char) :
    (entity.readCriteria text).TakesFirst entity
      fun criteria => criteria.IsReading entity text := by
  induction size : text.length using Nat.strongRecOn generalizing text with
  | _ length ih =>
      subst size
      have same : (fun criteria : Criteria => criteria.IsReading entity text) =
          LedTo entity (entity.steps text) := funext fun _ => propext built.isReading_iff
      rw [same, readCriteria]
      exact takesFirst_readSteps (fun rest less => ih _ less rest rfl) _ _
        ((built.pairwise_steps text).imp Step.Precedes.before)

/-- Reading gives the first reading of a text. -/
theorem Built.readCriteria_eq_read_iff (built : entity.Built) {text : List Char}
    {criteria : Criteria} :
    entity.readCriteria text = .read criteria ↔ criteria.IsFirstReading entity text := by
  have taken := built.takesFirst_readCriteria text
  constructor
  · intro outcome
    rw [outcome] at taken
    cases taken with
    | read option first => exact ⟨option, first⟩
  · intro first
    cases outcome : entity.readCriteria text with
    | read other =>
        rw [outcome] at taken
        cases taken with
        | read option first' =>
            rw [Criteria.IsFirstReading.unique ⟨option, first'⟩ first]
    | failed failure =>
        rw [outcome] at taken
        cases taken with
        | failed none => exact absurd first.reading (none criteria)

/-- A text with a reading has a first one. -/
theorem Built.exists_isFirstReading_iff (built : entity.Built) {text : List Char} :
    (∃ criteria : Criteria, criteria.IsFirstReading entity text) ↔
      ∃ criteria : Criteria, criteria.IsReading entity text := by
  constructor
  · rintro ⟨criteria, first⟩
    exact ⟨criteria, first.reading⟩
  · rintro ⟨criteria, reading⟩
    have taken := built.takesFirst_readCriteria text
    cases outcome : entity.readCriteria text with
    | read other => exact ⟨other, built.readCriteria_eq_read_iff.1 outcome⟩
    | failed failure =>
        rw [outcome] at taken
        cases taken with
        | failed none => exact absurd reading (none criteria)

end Entity

/-! ### Readings that nothing rivals -/

/-- All other segments that a text may start with come later than the given one. -/
def Segment.Leads (segment : Segment) (entity : Entity) (text : List Char) : Prop :=
  ∀ other : Segment, other.IsAdmitted entity → other.spelling <+: text → other ≠ segment →
    segment.Before entity other

/-- A segment leads if the text starts with no other property and with no longer keyword. -/
theorem Segment.leads_of_forall {segment : Segment} {entity : Entity} {text : List Char}
    (front : ∀ property ∈ entity.queryableProperties, ∀ keyword ∈ Keyword.all,
      capitalized property ++ keyword.word.toList <+: text →
        property = segment.property ∧
          (keyword = segment.keyword ∨ keyword.word.length < segment.keyword.word.length)) :
    segment.Leads entity text := by
  rintro ⟨property, keyword⟩ admitted starts different
  obtain ⟨rfl, rfl | shorter⟩ := front property admitted.property keyword admitted.keyword starts
  · exact absurd rfl different
  · exact .keyword rfl shorter

namespace Criteria

variable {entity : Entity} {segment : Segment}

/-- A reading of a text that starts with another segment than one that leads comes later. -/
theorem before_of_leads {text : List Char} (leads : segment.Leads entity text)
    {criteria other : Criteria} (front : criteria.first = segment)
    (reading : other.IsReading entity text) (different : other.first ≠ segment) :
    criteria.Before entity other := by
  refine .segment (front ▸ leads other.first (reading.admitted _ List.mem_cons_self) ?_ different)
  rw [reading.spelled]
  exact List.prefix_append _ _

theorem isFirstReading_single (admitted : segment.IsAdmitted entity)
    (leads : segment.Leads entity segment.spelling) :
    IsFirstReading ⟨segment, []⟩ entity segment.spelling := by
  refine ⟨isReading_single_iff.2 ⟨admitted, rfl⟩, fun other reading different => ?_⟩
  by_cases same : other.first = segment
  · -- The segment is the whole text, so nothing follows it.
    obtain ⟨first, others⟩ := other
    obtain rfl : first = segment := same
    have nothing := List.self_eq_append_right.1 reading.spelled
    cases others with
    | nil => exact absurd rfl different
    | cons joined more =>
        obtain ⟨kind, next⟩ := joined
        cases kind <;> simp [Connective.segmentWord] at nothing
  · exact before_of_leads leads rfl reading same

theorem isFirstReading_preceded {kind : Connective} {rest : List Char} {criteria : Criteria}
    (admitted : segment.IsAdmitted entity)
    (leads : segment.Leads entity (segment.spelling ++ (kind.segmentWord ++ rest)))
    (first : criteria.IsFirstReading entity rest) :
    (criteria.preceded segment kind).IsFirstReading entity
      (segment.spelling ++ (kind.segmentWord ++ rest)) := by
  refine ⟨isReading_preceded_iff.2 ⟨admitted, rest, first.reading, rfl⟩, ?_⟩
  intro other reading different
  by_cases same : other.first = segment
  · rcases other.eq_single_or_preceded with ⟨segment', rfl⟩ | ⟨segment', kind', others, rfl⟩
    · obtain rfl : segment' = segment := same
      have nothing := List.append_right_eq_self.1 (isReading_single_iff.1 reading).2
      cases kind <;> cases nothing
    · obtain rfl : segment' = segment := same
      obtain ⟨-, rest', reading', spelled⟩ := isReading_preceded_iff.1 reading
      -- Only one connective can stand behind the segment.
      obtain ⟨rfl, rfl⟩ : kind = kind' ∧ rest = rest' := by
        have after := List.append_cancel_left spelled
        cases kind <;> cases kind' <;>
          first
          | exact ⟨rfl, List.append_cancel_left after⟩
          | simp [Connective.segmentWord] at after
      refine .later (first.first others reading' ?_)
      rintro rfl
      exact different rfl
  · exact before_of_leads leads rfl reading same

end Criteria

end DirectoryQuery
