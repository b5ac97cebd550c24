/-
Module: DirectoryQuery.Proofs.Search.Features
Purpose: Features that directories do not have never get into a query.  They are either ignored, and
  then they change nothing, or refused before anything else is looked at.  What a query consists of
  is said in full by `Query.IsMadeFor`.
Main exports:
  SearchParameters.RequestsFeature, SearchParameters.withoutFeatures, SearchDefaults.under,
  StartsFrom, Query.IsMadeFor, Query.assemble_regardless_of_features
-/
import DirectoryQuery.Proofs.Search.Base

namespace DirectoryQuery

/-! ### Requests for features -/

namespace SearchParameters

variable {parameters : SearchParameters}

/-- A feature is requested as soon as a value is given for it, be it zero, or anything to sort by. -/
def RequestsFeature (parameters : SearchParameters) : Prop :=
  parameters.offset ≠ none ∨ parameters.page ≠ none ∨ parameters.pageSize ≠ none ∨
    parameters.order ≠ []

/-- The same wishes with no feature requested. -/
def withoutFeatures (parameters : SearchParameters) : SearchParameters :=
  { parameters with offset := none, page := none, pageSize := none, order := [] }

/-- Other wishes with the features that these ones request. -/
def requestingFrom (others parameters : SearchParameters) : SearchParameters :=
  { others with
    offset := parameters.offset
    page := parameters.page
    pageSize := parameters.pageSize
    order := parameters.order }

theorem requestedFeatures_eq_nil_iff :
    parameters.requestedFeatures = [] ↔ ¬parameters.RequestsFeature := by
  simp [requestedFeatures, RequestsFeature]

theorem RequestsFeature.exists_head? (requests : parameters.RequestsFeature) :
    ∃ feature, parameters.requestedFeatures.head? = some feature := by
  have some := mt requestedFeatures_eq_nil_iff.1 (not_not.2 requests)
  obtain ⟨feature, others, listed⟩ := List.exists_cons_of_ne_nil some
  exact ⟨feature, by rw [listed]; rfl⟩

end SearchParameters

/-- The defaults with a policy in place of their own. -/
def SearchDefaults.under (defaults : SearchDefaults) (policy : FeaturePolicy) : SearchDefaults :=
  { defaults with policy }

/-- An error by which a caller is told that a feature is not supported. -/
def AssemblyError.IsUnsupported (error : AssemblyError) : Prop :=
  ∃ feature detail, error.report = .unsupported feature detail

theorem AssemblyError.isUnsupported_iff {error : AssemblyError} :
    error.IsUnsupported ↔ ∃ feature, error = .unsupported feature := by
  cases error <;> simp [IsUnsupported, report, CompositionError.report]

/-! ### The parts of a query -/

/-- The names that a search may start from: the base that the caller gives, be it the root; else
that of the entity, unless it is the root; else the default. -/
inductive StartsFrom (entity : Entity) (parameters : SearchParameters)
    (defaults : SearchDefaults) : DistinguishedName → Prop where
  | given {given : SearchBase} {base : DistinguishedName} (asked : parameters.base = some given)
      (read : given.resolve = .ok base) : StartsFrom entity parameters defaults base
  | entity (unasked : parameters.base = none) (below : entity.base ≠ .root) :
      StartsFrom entity parameters defaults entity.base
  | default {base : DistinguishedName} (unasked : parameters.base = none)
      (root : entity.base = .root) (read : DistinguishedName.parse defaults.base = .ok base) :
      StartsFrom entity parameters defaults base

/-- What a query consists of.  Limits are those of the caller, be they zero, or else the default
ones. -/
structure Query.IsMadeFor (query : Query) (entity : Entity) (filter : String)
    (parameters : SearchParameters) (defaults : SearchDefaults) : Prop where
  base : ∃ start, StartsFrom entity parameters defaults start ∧
    (parameters.componentValues = [] → query.base = start) ∧
    (parameters.componentValues ≠ [] →
      entity.scopedBase parameters.componentValues (some (.name start)) = .ok query.base)
  filter : query.filter = filter
  scope : query.scope = parameters.scope.getD defaults.scope
  attributes : query.attributes = parameters.attributes.getD entity.persistedAttributes
  countLimit : (query.countLimit : Int) = parameters.countLimit.getD defaults.countLimit
  timeLimit : (query.timeLimit : Int) = parameters.timeLimit.getD defaults.timeLimit

variable {entity : Entity} {filter : String} {parameters : SearchParameters}
  {defaults : SearchDefaults} {query : Query}

theorem DistinguishedName.isRoot_iff {name : DistinguishedName} :
    name.isRoot = true ↔ name = .root := by
  obtain ⟨rdns⟩ := name
  simp [isRoot, root]

theorem startsFrom_iff {base : DistinguishedName} :
    StartsFrom entity parameters defaults base ↔
      (selectedBase entity parameters defaults).resolve = .ok base := by
  unfold selectedBase
  constructor
  · intro start
    cases start with
    | given asked read => rwa [asked]
    | entity unasked below =>
        rw [unasked]
        dsimp only
        rw [if_neg (mt DistinguishedName.isRoot_iff.1 below)]
        rfl
    | default unasked root read =>
        rw [unasked]
        dsimp only
        rw [if_pos (DistinguishedName.isRoot_iff.2 root)]
        exact mapError_eq_ok_iff.2 read
  · intro selected
    cases asked : parameters.base with
    | some given =>
        rw [asked] at selected
        exact .given asked selected
    | none =>
        rw [asked] at selected
        dsimp only at selected
        split at selected
        · next root =>
            exact .default asked (DistinguishedName.isRoot_iff.1 root)
              (mapError_eq_ok_iff.1 selected)
        · next below =>
            cases selected
            exact .entity asked (mt DistinguishedName.isRoot_iff.2 below)

namespace Query

theorem isMadeFor_iff :
    query.IsMadeFor entity filter parameters defaults ↔
      searchBase entity parameters defaults = .ok query.base ∧ query.filter = filter ∧
      query.scope = parameters.scope.getD defaults.scope ∧
      query.attributes = parameters.attributes.getD entity.persistedAttributes ∧
      (query.countLimit : Int) = parameters.countLimit.getD defaults.countLimit ∧
      (query.timeLimit : Int) = parameters.timeLimit.getD defaults.timeLimit := by
  have base : (∃ start, StartsFrom entity parameters defaults start ∧
        (parameters.componentValues = [] → query.base = start) ∧
        (parameters.componentValues ≠ [] →
          entity.scopedBase parameters.componentValues (some (.name start)) = .ok query.base)) ↔
      searchBase entity parameters defaults = .ok query.base := by
    simp only [searchBase_eq_ok_iff, startsFrom_iff]
    refine exists_congr fun start => and_congr_right fun _ => ?_
    by_cases none : parameters.componentValues = []
    · simp [none, entity.scopedBase_nil, eq_comm]
    · simp [none]
  rw [← base]
  exact ⟨fun made => ⟨made.base, made.filter, made.scope, made.attributes, made.countLimit,
      made.timeLimit⟩,
    fun ⟨base, filter, scope, attributes, countLimit, timeLimit⟩ =>
      ⟨base, filter, scope, attributes, countLimit, timeLimit⟩⟩

/-! ### Both policies -/

theorem rejectedFeature?_eq_none_iff :
    rejectedFeature? parameters defaults = none ↔
      (defaults.policy = .reject → ¬parameters.RequestsFeature) := by
  unfold rejectedFeature?
  cases defaults.policy with
  | reject => simp [List.head?_eq_none_iff, SearchParameters.requestedFeatures_eq_nil_iff]
  | ignore => simp

/-- Features are refused on their own account only, and before anything else. -/
theorem assemble_eq_unsupported_iff {feature : Feature} :
    Query.assemble entity filter parameters defaults = .error (.unsupported feature) ↔
      rejectedFeature? parameters defaults = some feature := by
  have base : searchBase entity parameters defaults ≠ .error (.unsupported feature) := by
    unfold searchBase
    split
    · simp
    · split
      · simp
      · simp [mapError_eq_error_iff]
  have limits (limit : Limit) (value : Int) :
      readLimit limit value ≠ .error (.unsupported feature) := by
    unfold readLimit
    split <;> simp
  unfold Query.assemble
  cases rejectedFeature? parameters defaults with
  | some refused => simp
  | none =>
      simp only [reduceCtorEq, iff_false]
      exact bind_ne_error base fun name =>
        bind_ne_error (limits .count _) fun most =>
          bind_ne_error (limits .time _) fun longest => nofun

/-- Unless a feature is refused, assembling is as if none were requested and all were ignored. -/
theorem assemble_of_accepted (accepted : rejectedFeature? parameters defaults = none) :
    Query.assemble entity filter parameters defaults =
      Query.assemble entity filter parameters.withoutFeatures (defaults.under .ignore) := by
  rw [Query.assemble, Query.assemble, accepted]
  rfl

/-- No feature that directories do not have leaves a trace in a query.  Where such features are
ignored, requests for them change nothing; where they are refused, the first request is refused
whatever the entity, the filter, the other wishes and the defaults are, and without a request all is
as if they were ignored.  The queries that come about are those that have the filter, the limits, the
base and the other parts that were asked for, or else the default ones. -/
theorem assemble_regardless_of_features (entity : Entity) (filter : String)
    (parameters : SearchParameters) (defaults : SearchDefaults) :
    Query.assemble entity filter parameters (defaults.under .ignore) =
      Query.assemble entity filter parameters.withoutFeatures (defaults.under .ignore) ∧
    ((∃ error, Query.assemble entity filter parameters (defaults.under .reject) = .error error ∧
        error.IsUnsupported) ↔
      parameters.RequestsFeature) ∧
    (parameters.RequestsFeature → ∃ feature,
      parameters.requestedFeatures.head? = some feature ∧
      ∀ (entity' : Entity) (filter' : String) (others : SearchParameters)
        (defaults' : SearchDefaults),
        Query.assemble entity' filter' (others.requestingFrom parameters)
          (defaults'.under .reject) = .error (.unsupported feature)) ∧
    (¬parameters.RequestsFeature →
      Query.assemble entity filter parameters (defaults.under .reject) =
        Query.assemble entity filter parameters (defaults.under .ignore)) ∧
    ∀ query, Query.assemble entity filter parameters defaults = .ok query ↔
      (defaults.policy = .reject → ¬parameters.RequestsFeature) ∧
        query.IsMadeFor entity filter parameters defaults := by
  have accepted (plain : ¬parameters.RequestsFeature) :
      rejectedFeature? parameters (defaults.under .reject) = none :=
    rejectedFeature?_eq_none_iff.2 fun _ => plain
  refine ⟨assemble_of_accepted rfl, ⟨?_, ?_⟩, ?_, ?_, ?_⟩
  · rintro ⟨error, failed, unsupported⟩
    obtain ⟨feature, rfl⟩ := AssemblyError.isUnsupported_iff.1 unsupported
    by_contra plain
    cases (accepted plain).symm.trans (assemble_eq_unsupported_iff.1 failed)
  · intro requests
    obtain ⟨feature, first⟩ := requests.exists_head?
    exact ⟨_, assemble_eq_unsupported_iff.2 first,
      AssemblyError.isUnsupported_iff.2 ⟨feature, rfl⟩⟩
  · intro requests
    obtain ⟨feature, first⟩ := requests.exists_head?
    exact ⟨feature, first, fun _ _ _ _ => assemble_eq_unsupported_iff.2 first⟩
  · intro plain
    have ignored : rejectedFeature? parameters (defaults.under .ignore) = none := rfl
    rw [assemble_of_accepted (accepted plain), assemble_of_accepted ignored]
    rfl
  · intro query
    rw [assemble_eq_ok_iff, isMadeFor_iff, rejectedFeature?_eq_none_iff]

/-- To begin at the first entry is a request, and no limit is looked at before it is refused. -/
example : Query.assemble .person "(uid=*)" { offset := some 0, countLimit := some (-1) } {} =
    .error (.unsupported .offset) := rfl

end Query

end DirectoryQuery
