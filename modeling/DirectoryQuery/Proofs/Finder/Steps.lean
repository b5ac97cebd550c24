/-
Module: DirectoryQuery.Proofs.Finder.Steps
Purpose: The ways to go on at a place in criteria.  Which they are is said without the lists that a
  reading goes through, and so is the order in which they are tried.
Main exports:
  Segment.spelling, Segment.IsAdmitted, Segment.Before, Step.Precedes, Failure.ArisesAt,
  Entity.Built.last_mem_steps_iff, Entity.Built.joined_mem_steps_iff,
  Entity.Built.stuck_mem_steps_iff, Entity.Built.pairwise_steps
-/
import DirectoryQuery.Proofs.Finder.Order

namespace DirectoryQuery

open Text

/-! ### Segments -/

namespace Segment

/-- A segment as it is written in criteria. -/
def spelling (segment : Segment) : List Char :=
  capitalized segment.property ++ segment.keyword.word.toList

/-- A segment that criteria may hold: its property may be queried, and its keyword is known. -/
structure IsAdmitted (segment : Segment) (entity : Entity) : Prop where
  property : segment.property ∈ entity.queryableProperties
  keyword : segment.keyword ∈ Keyword.all

/-- The order of segments at one place: by property, then longer keywords first. -/
inductive Before (entity : Entity) : Segment → Segment → Prop where
  | property {s t : Segment} (order : entity.TriedBefore s.property t.property) : Before entity s t
  | keyword {s t : Segment} (same : s.property = t.property)
      (longer : t.keyword.word.length < s.keyword.word.length) : Before entity s t

theorem Before.asymm {entity : Entity} {s t : Segment} (before : Before entity s t) :
    ¬Before entity t s := by
  intro after
  cases before with
  | property order =>
      cases after with
      | property order' => exact order.asymm order'
      | keyword same _ =>
          rw [same] at order
          exact order.asymm order
  | keyword same longer =>
      cases after with
      | property order =>
          rw [same] at order
          exact order.asymm order
      | keyword _ longer' => omega

theorem Before.irrefl {entity : Entity} {s : Segment} : ¬Before entity s s :=
  fun before => before.asymm before

end Segment

/-! ### Failures at a place -/

/-- The property that a fault is about, unless it is that none is known. -/
def CriteriaFault.property? : CriteriaFault → Option String
  | .notQueryable property _ => some property
  | .unknownProperty _ _ _ => none
  | .unsupportedKeyword _ property => some property
  | .unknownKeyword _ property => some property

theorem property?_keywordFault (property : String) (rest : List Char) :
    (keywordFault property rest).property? = some property := by
  unfold keywordFault
  dsimp only
  split <;> rfl

/-- The failures that a place may give rise to: a property stands there that may not be queried; no
property stands there that may be queried; or one does, and the failure is that no keyword behind
it leads on. -/
inductive Failure.ArisesAt (entity : Entity) (text : List Char) : Failure → Prop where
  | refused {property : String} {reason : Unqueryable} (declared : property ∈ entity.propertyNames)
      (hidden : entity.unqueryable? property = some reason)
      (spelled : capitalized property <+: text) :
      ArisesAt entity text ⟨text.length, .notQueryable property reason⟩
  | unknown (unspelled : ∀ property ∈ entity.queryableProperties, ¬capitalized property <+: text) :
      ArisesAt entity text ⟨text.length, .unknownProperty entity.name
        (String.ofList (untilNextSegment text)) entity.queryableProperties⟩
  | behind {property : String} {rest : List Char} (queryable : property ∈ entity.queryableProperties)
      (spelled : text = capitalized property ++ rest) :
      ArisesAt entity text ⟨rest.length, keywordFault property rest⟩

/-! ### The order of steps -/

namespace Step

/-- The segment that a step reads. -/
def segment? : Step → Option Segment
  | .last segment => some segment
  | .joined segment _ _ => some segment
  | .stuck _ => none

/-- The property that a step reads or fails at. -/
def property? : Step → Option String
  | .last segment => some segment.property
  | .joined segment _ _ => some segment.property
  | .stuck failure => failure.fault.property?

/-- The order in which the steps at a place are tried: by property; for one property all that its
keywords lead to, longer keywords first and `And` before `Or`, and then that none leads on; and in the
end that no property is known. -/
inductive Precedes (entity : Entity) : Step → Step → Prop where
  | property {step later : Step} {p q : String} (first : step.property? = some p)
      (second : later.property? = some q) (order : entity.TriedBefore p q) :
      Precedes entity step later
  | keyword {step later : Step} {s t : Segment} (first : step.segment? = some s)
      (second : later.segment? = some t) (same : s.property = t.property)
      (longer : t.keyword.word.length < s.keyword.word.length) : Precedes entity step later
  | connective {segment : Segment} {rest rest' : List Char} :
      Precedes entity (.joined segment .conjunction rest) (.joined segment .disjunction rest')
  | leading {step : Step} {segment : Segment} {failure : Failure}
      (first : step.segment? = some segment)
      (second : failure.fault.property? = some segment.property) :
      Precedes entity step (.stuck failure)
  | known {step later : Step} {p : String} (first : step.property? = some p)
      (second : later.property? = none) : Precedes entity step later

theorem property?_of_segment? {step : Step} {segment : Segment}
    (read : step.segment? = some segment) : step.property? = some segment.property := by
  cases step with
  | last found => exact congrArg (Option.map Segment.property) read
  | joined found kind rest => exact congrArg (Option.map Segment.property) read
  | stuck failure => cases read

end Step

/-! ### Steps behind a segment -/

section

variable {segment found : Segment} {kind : Connective} {text rest : List Char} {step : Step}

theorem last_mem_stepsAfterSegment_iff :
    Step.last found ∈ stepsAfterSegment segment text ↔ found = segment ∧ text = [] := by
  unfold stepsAfterSegment
  split
  · simp
  · next nonempty =>
      constructor
      · intro listed
        obtain ⟨kind, -, made⟩ := List.mem_filterMap.1 listed
        split at made <;> cases made
      · rintro ⟨-, empty⟩
        exact absurd empty nonempty

theorem joined_mem_stepsAfterSegment_iff :
    Step.joined found kind rest ∈ stepsAfterSegment segment text ↔
      found = segment ∧ text = kind.segmentWord ++ rest ∧ rest ≠ [] := by
  unfold stepsAfterSegment
  split
  · cases kind <;> simp [Connective.segmentWord]
  · constructor
    · intro listed
      obtain ⟨tried, -, made⟩ := List.mem_filterMap.1 listed
      split at made
      · next c more after =>
          simp only [Option.some.injEq, Step.joined.injEq] at made
          obtain ⟨rfl, rfl, rfl⟩ := made
          exact ⟨rfl, afterPrefix?_eq_some_iff.1 after, by simp⟩
      · cases made
    · rintro ⟨rfl, rfl, nonempty⟩
      refine List.mem_filterMap.2 ⟨kind, by cases kind <;> decide, ?_⟩
      obtain ⟨c, more, rfl⟩ := List.exists_cons_of_ne_nil nonempty
      rw [afterPrefix?_eq_some_iff.2 rfl]

/-- All steps behind a segment read it. -/
theorem segment?_of_mem_stepsAfterSegment (listed : step ∈ stepsAfterSegment segment text) :
    step.segment? = some segment := by
  cases step with
  | last found => exact congrArg some (last_mem_stepsAfterSegment_iff.1 listed).1
  | joined found kind rest => exact congrArg some (joined_mem_stepsAfterSegment_iff.1 listed).1
  | stuck failure =>
      unfold stepsAfterSegment at listed
      split at listed
      · simp at listed
      · obtain ⟨kind, -, made⟩ := List.mem_filterMap.1 listed
        split at made <;> cases made

theorem pairwise_stepsAfterSegment (entity : Entity) (segment : Segment) (text : List Char) :
    (stepsAfterSegment segment text).Pairwise (Step.Precedes entity) := by
  unfold stepsAfterSegment
  split
  · exact List.pairwise_singleton _ _
  · rw [List.pairwise_filterMap]
    have distinct : Connective.tried.Pairwise fun kind later =>
        kind = .conjunction ∧ later = .disjunction := by decide
    refine distinct.imp ?_
    rintro _ _ ⟨rfl, rfl⟩ step made step' made'
    split at made <;> cases made
    split at made' <;> cases made'
    exact .connective

end

/-! ### Steps behind a property

Which keyword comes first is settled by its length, since two keywords of one length cannot both
stand at the same place. -/

section

variable {property : String} {text : List Char} {step : Step}

theorem mem_stepsAfterProperty_iff :
    step ∈ stepsAfterProperty property text ↔
      (∃ keyword ∈ Keyword.all, ∃ rest, text = keyword.word.toList ++ rest ∧
        step ∈ stepsAfterSegment ⟨property, keyword⟩ rest) ∨
      step = .stuck ⟨text.length, keywordFault property text⟩ := by
  unfold stepsAfterProperty
  rw [List.mem_append, List.mem_flatMap, List.mem_singleton]
  refine or_congr_left (exists_congr fun keyword => ?_)
  rw [Keyword.mem_byLength_iff]
  refine and_congr_right fun _ => ?_
  simp only [← afterPrefix?_eq_some_iff]
  cases afterPrefix? keyword.word.toList text <;> simp

theorem property?_of_mem_stepsAfterProperty (listed : step ∈ stepsAfterProperty property text) :
    step.property? = some property := by
  rcases mem_stepsAfterProperty_iff.1 listed with ⟨keyword, -, rest, -, behind⟩ | rfl
  · exact Step.property?_of_segment? (segment?_of_mem_stepsAfterSegment behind)
  · exact property?_keywordFault property text

theorem pairwise_stepsAfterProperty (entity : Entity) (property : String) (text : List Char) :
    (stepsAfterProperty property text).Pairwise (Step.Precedes entity) := by
  unfold stepsAfterProperty
  rw [List.pairwise_append, List.pairwise_flatMap]
  refine ⟨⟨?_, ?_⟩, List.pairwise_singleton _ _, ?_⟩
  · intro keyword _
    split
    · exact pairwise_stepsAfterSegment entity _ _
    · exact List.Pairwise.nil
  · refine Keyword.pairwise_byLength.imp ?_
    rintro keyword keyword' ⟨noShorter, different⟩ step listed step' listed'
    split at listed
    · next rest after =>
        split at listed'
        · next rest' after' =>
            refine .keyword (segment?_of_mem_stepsAfterSegment listed)
              (segment?_of_mem_stepsAfterSegment listed') rfl
              (Nat.lt_of_le_of_ne noShorter ?_)
            intro same
            rw [afterPrefix?_eq_some_iff] at after after'
            rw [after] at after'
            have lengths : keyword.word.toList.length = keyword'.word.toList.length := by
              rw [String.length_toList, String.length_toList, same]
            exact different (String.toList_inj.1 (List.append_inj after' lengths).1)
        · cases listed'
    · cases listed
  · intro step listed later behind
    obtain ⟨keyword, -, read⟩ := List.mem_flatMap.1 listed
    rw [List.mem_singleton.1 behind]
    split at read
    · exact .leading (segment?_of_mem_stepsAfterSegment read) (property?_keywordFault property text)
    · cases read

end

/-! ### Steps of an entity -/

namespace Entity

variable {entity : Entity} {text : List Char}

theorem Built.unqueryable?_eq_none_iff (built : entity.Built) {property : String} :
    entity.unqueryable? property = none ↔ property ∈ entity.queryableProperties := by
  rw [built.mem_queryableProperties_iff]
  unfold Entity.unqueryable?
  cases entity.get? property with
  | none => simp
  | some found => simp [Attribute.unqueryable?_eq_none_iff]

theorem Built.spelling_ne_nil (built : entity.Built) {segment : Segment}
    (admitted : segment.IsAdmitted entity) : segment.spelling ≠ [] := by
  obtain ⟨found, known, -⟩ := built.mem_queryableProperties_iff.1 admitted.property
  obtain ⟨listed, named⟩ := mem_of_get?_eq_some known
  have nonempty := capitalized_ne_nil (named ▸ built.property_ne_empty listed)
  exact List.append_ne_nil_of_left_ne_nil nonempty _

theorem mem_candidateSteps_iff {candidate : Candidate} {step : Step} :
    step ∈ entity.candidateSteps text candidate ↔
      ∃ rest, text = candidate.spelling ++ rest ∧
        ((∃ reason, entity.unqueryable? candidate.property = some reason ∧
            step = .stuck ⟨text.length, .notQueryable candidate.property reason⟩) ∨
          (entity.unqueryable? candidate.property = none ∧
            step ∈ stepsAfterProperty candidate.property rest)) := by
  unfold candidateSteps
  simp only [← afterPrefix?_eq_some_iff]
  cases afterPrefix? candidate.spelling text with
  | none => simp
  | some rest => cases entity.unqueryable? candidate.property <;> simp

theorem property?_of_mem_candidateSteps {candidate : Candidate} {step : Step}
    (listed : step ∈ entity.candidateSteps text candidate) :
    step.property? = some candidate.property := by
  obtain ⟨rest, -, ⟨reason, -, rfl⟩ | ⟨-, behind⟩⟩ := mem_candidateSteps_iff.1 listed
  · rfl
  · exact property?_of_mem_stepsAfterProperty behind

/-- The steps at a place are tried in their order. -/
theorem Built.pairwise_steps (built : entity.Built) (text : List Char) :
    (entity.steps text).Pairwise (Step.Precedes entity) := by
  have ordered : (entity.candidates.flatMap (entity.candidateSteps text)).Pairwise
      (Step.Precedes entity) := by
    refine List.pairwise_flatMap.2 ⟨?_, ?_⟩
    · intro candidate _
      unfold candidateSteps
      split
      · exact List.Pairwise.nil
      · split
        · exact List.pairwise_singleton _ _
        · exact pairwise_stepsAfterProperty entity _ _
    · refine built.pairwise_candidates.imp ?_
      intro candidate candidate' order step listed step' listed'
      exact .property (property?_of_mem_candidateSteps listed)
        (property?_of_mem_candidateSteps listed') order
  unfold steps
  dsimp only
  split
  · rwa [List.append_nil]
  · refine List.pairwise_append.2 ⟨ordered, List.pairwise_singleton _ _, ?_⟩
    intro step listed later unknown
    obtain ⟨candidate, -, listed⟩ := List.mem_flatMap.1 listed
    rw [List.mem_singleton.1 unknown]
    exact .known (property?_of_mem_candidateSteps listed) rfl

theorem queryableProperties_subset_propertyNames :
    entity.queryableProperties ⊆ entity.propertyNames :=
  List.map_subset _ List.filter_sublist.subset

theorem Built.any_fits_iff (built : entity.Built) :
    entity.candidates.any (entity.fits text) = true ↔
      ∃ property ∈ entity.queryableProperties, capitalized property <+: text := by
  simp only [List.any_eq_true, fits, Bool.and_eq_true, Option.isNone_iff_eq_none,
    List.isPrefixOf_iff_prefix, built.unqueryable?_eq_none_iff, mem_candidates_iff]
  constructor
  · rintro ⟨found, ⟨-, spelled⟩, front, queryable⟩
    exact ⟨found.property, queryable, spelled ▸ front⟩
  · rintro ⟨property, queryable, front⟩
    exact ⟨candidate property,
      ⟨queryableProperties_subset_propertyNames queryable, rfl⟩, front, queryable⟩

/-- The steps at a place: a property stands there that may not be queried; one stands there that may,
and the step is one behind it; or none does that may. -/
theorem Built.mem_steps_iff (built : entity.Built) {step : Step} :
    step ∈ entity.steps text ↔
      (∃ property ∈ entity.propertyNames, ∃ reason, entity.unqueryable? property = some reason ∧
        capitalized property <+: text ∧
        step = .stuck ⟨text.length, .notQueryable property reason⟩) ∨
      (∃ property ∈ entity.queryableProperties, ∃ rest, text = capitalized property ++ rest ∧
        step ∈ stepsAfterProperty property rest) ∨
      ((∀ property ∈ entity.queryableProperties, ¬capitalized property <+: text) ∧
        step = .stuck ⟨text.length, .unknownProperty entity.name
          (String.ofList (untilNextSegment text)) entity.queryableProperties⟩) := by
  unfold steps
  dsimp only
  rw [List.mem_append, List.mem_flatMap, ← or_assoc]
  refine or_congr ⟨?_, ?_⟩ ?_
  · rintro ⟨candidate, known, listed⟩
    obtain ⟨declared, spelled⟩ := mem_candidates_iff.1 known
    obtain ⟨rest, front, step⟩ := mem_candidateSteps_iff.1 listed
    rw [spelled] at front
    rcases step with ⟨reason, hidden, same⟩ | ⟨queryable, behind⟩
    · exact .inl ⟨candidate.property, declared, reason, hidden, ⟨rest, front.symm⟩, same⟩
    · exact .inr ⟨candidate.property, built.unqueryable?_eq_none_iff.1 queryable, rest, front,
        behind⟩
  · rintro (⟨property, declared, reason, hidden, ⟨rest, front⟩, same⟩ |
      ⟨property, queryable, rest, front, behind⟩)
    · exact ⟨candidate property, mem_candidates_iff.2 ⟨declared, rfl⟩,
        mem_candidateSteps_iff.2 ⟨rest, front.symm, .inl ⟨reason, hidden, same⟩⟩⟩
    · have declared := queryableProperties_subset_propertyNames queryable
      exact ⟨candidate property, mem_candidates_iff.2 ⟨declared, rfl⟩,
        mem_candidateSteps_iff.2 ⟨rest, front,
          .inr ⟨built.unqueryable?_eq_none_iff.2 queryable, behind⟩⟩⟩
  · split
    · next known =>
        obtain ⟨property, queryable, front⟩ := built.any_fits_iff.1 known
        simp only [List.not_mem_nil, false_iff, not_and]
        exact fun none => absurd front (none property queryable)
    · next unknown =>
        rw [built.any_fits_iff] at unknown
        simp only [not_exists, not_and] at unknown
        rw [List.mem_singleton, and_iff_right unknown]

/-- The steps that read a segment are those behind an admitted segment at the front. -/
theorem Built.mem_steps_iff_of_segment? (built : entity.Built) {step : Step} {segment : Segment}
    (read : step.segment? = some segment) :
    step ∈ entity.steps text ↔
      segment.IsAdmitted entity ∧ ∃ rest, text = segment.spelling ++ rest ∧
        step ∈ stepsAfterSegment segment rest := by
  have moving (failure : Failure) : step ≠ .stuck failure := by
    rintro rfl
    cases read
  simp only [built.mem_steps_iff, mem_stepsAfterProperty_iff, moving, and_false, exists_false,
    false_or, or_false]
  constructor
  · rintro ⟨property, queryable, _, rfl, keyword, known, rest, rfl, behind⟩
    obtain rfl : ⟨property, keyword⟩ = segment :=
      Option.some.inj ((segment?_of_mem_stepsAfterSegment behind).symm.trans read)
    exact ⟨⟨queryable, known⟩, rest, by rw [Segment.spelling, List.append_assoc], behind⟩
  · rintro ⟨admitted, rest, rfl, behind⟩
    exact ⟨segment.property, admitted.property, _, by rw [Segment.spelling, List.append_assoc],
      segment.keyword, admitted.keyword, rest, rfl, behind⟩

theorem Built.last_mem_steps_iff (built : entity.Built) {segment : Segment} :
    Step.last segment ∈ entity.steps text ↔
      segment.IsAdmitted entity ∧ text = segment.spelling := by
  rw [built.mem_steps_iff_of_segment? rfl]
  simp [last_mem_stepsAfterSegment_iff]

theorem Built.joined_mem_steps_iff (built : entity.Built) {segment : Segment} {kind : Connective}
    {rest : List Char} :
    Step.joined segment kind rest ∈ entity.steps text ↔
      segment.IsAdmitted entity ∧ text = segment.spelling ++ (kind.segmentWord ++ rest) ∧
        rest ≠ [] := by
  rw [built.mem_steps_iff_of_segment? rfl]
  simp [joined_mem_stepsAfterSegment_iff]

/-- The failures at a place are those that it gives rise to. -/
theorem Built.stuck_mem_steps_iff (built : entity.Built) {failure : Failure} :
    Step.stuck failure ∈ entity.steps text ↔ failure.ArisesAt entity text := by
  have behind {property : String} {rest : List Char} :
      Step.stuck failure ∈ stepsAfterProperty property rest ↔
        failure = ⟨rest.length, keywordFault property rest⟩ := by
    rw [mem_stepsAfterProperty_iff, Step.stuck.injEq]
    refine or_iff_right ?_
    rintro ⟨keyword, -, more, -, listed⟩
    cases segment?_of_mem_stepsAfterSegment listed
  simp only [built.mem_steps_iff, behind, Step.stuck.injEq]
  constructor
  · rintro (⟨property, declared, reason, hidden, front, rfl⟩ |
      ⟨property, queryable, rest, spelled, rfl⟩ | ⟨unspelled, rfl⟩)
    · exact .refused declared hidden front
    · exact .behind queryable spelled
    · exact .unknown unspelled
  · intro arises
    cases arises with
    | refused declared hidden front => exact .inl ⟨_, declared, _, hidden, front, rfl⟩
    | behind queryable spelled => exact .inr (.inl ⟨_, queryable, _, spelled, rfl⟩)
    | unknown unspelled => exact .inr (.inr ⟨unspelled, rfl⟩)

end Entity

end DirectoryQuery
