/-
Module: DirectoryQuery.Proofs.Finder.Tree
Purpose: The predicate of a finder is fixed by the first reading of its criteria: a node for each
  segment, joined by the one connective.  Which names are accepted follows from the readings alone.
Main exports:
  Segment.holding, Segment.rank, Criteria.nodes, Criteria.Joins, Finder.parse_eq_ok_iff,
  Entity.parse_takes_first_reading
-/
import DirectoryQuery.Finder.Parser
import DirectoryQuery.Proofs.Finder.Reading

namespace DirectoryQuery

/-! ### Nodes -/

namespace Segment

/-- Whether the keyword of a segment compares with a value. -/
def takesValue (segment : Segment) : Bool := segment.keyword.operator.takesValue

/-- The comparison of a segment with a value.  A test for presence ignores the value. -/
def test (segment : Segment) (value : Value) : Predicate :=
  .comparison (.plain segment.property) segment.keyword.operator
    (if segment.takesValue then value else .null)

/-- The node of a segment that holds a value: its comparison, negated if the keyword says so. -/
def holding (segment : Segment) (value : Value) : Predicate :=
  if segment.keyword.isNegated then .negation (segment.test value) else segment.test value

/-- The number of values that the segments before a place take. -/
def rank (segments : List Segment) (place : Nat) : Nat :=
  (segments.take place).countP (·.takesValue)

/-- The value that waits for the argument of an index. -/
def awaited (index : Nat) (segment : Segment) : Value := .parameter ⟨index, segment.property⟩

theorem predicate_eq_holding (segment : Segment) (index : Nat) :
    segment.predicate index = segment.holding (awaited index segment) := by
  unfold predicate holding test placeholder? takesValue awaited
  cases segment.keyword.operator.takesValue <;> rfl

theorem arity_eq (segment : Segment) : segment.arity = if segment.takesValue then 1 else 0 := rfl

/-- Nodes of segments that hold the values of their ranks, counted from an index on. -/
def nodesFrom (value : Nat → Segment → Value) : (index : Nat) → List Segment → List Predicate
  | _, [] => []
  | index, segment :: rest =>
    segment.holding (value index segment) :: nodesFrom value (index + segment.arity) rest

theorem rank_cons (segment : Segment) (segments : List Segment) (place : Nat) :
    rank (segment :: segments) (place + 1) = segment.arity + rank segments place := by
  unfold rank
  rw [List.take_succ_cons, List.countP_cons, arity_eq, Nat.add_comm]

theorem nodesFrom_eq_mapIdx (value : Nat → Segment → Value) (segments : List Segment) :
    ∀ index : Nat, nodesFrom value index segments =
      segments.mapIdx fun place segment =>
        segment.holding (value (index + rank segments place) segment) := by
  induction segments with
  | nil => intro index; rfl
  | cons segment rest ih =>
      intro index
      rw [nodesFrom, ih, List.mapIdx_cons]
      simp only [rank_cons, Nat.add_assoc]
      rfl

theorem predicatesFrom_eq_nodesFrom (segments : List Segment) :
    ∀ index : Nat, Criteria.predicatesFrom index segments = nodesFrom awaited index segments := by
  induction segments with
  | nil => intro index; rfl
  | cons segment rest ih =>
      intro index
      rw [Criteria.predicatesFrom, nodesFrom, predicate_eq_holding, ih]

end Segment

namespace Criteria

/-- The nodes of criteria.  The value of a node is found from the number of values that the segments
before it take. -/
def nodes (criteria : Criteria) (value : Nat → Segment → Value) : List Predicate :=
  criteria.segments.mapIdx fun place segment =>
    segment.holding (value (Segment.rank criteria.segments place) segment)

theorem nodes_eq_nodesFrom (criteria : Criteria) (value : Nat → Segment → Value) :
    criteria.nodes value = Segment.nodesFrom value 0 criteria.segments := by
  rw [Segment.nodesFrom_eq_mapIdx]
  simp only [Nat.zero_add]
  rfl

/-! ### Trees -/

/-- A predicate that joins operands the way criteria do: a lone operand stays as it is, several are
the operands of one composite of the connective that stands between all of them. -/
inductive Joins (criteria : Criteria) : List Predicate → Predicate → Prop where
  | lone {operand : Predicate} (alone : criteria.others = []) : Joins criteria [operand] operand
  | flat {kind : Connective} {first : Predicate} {others : List Predicate}
      (several : criteria.others ≠ []) (same : ∀ joined ∈ criteria.others, joined.1 = kind) :
      Joins criteria (first :: others) (.composite kind first others)

/-- Whether a connective stands between segments. -/
def Uses (criteria : Criteria) (kind : Connective) : Prop :=
  ∃ segment, (kind, segment) ∈ criteria.others

theorem any_eq_true_iff_uses (criteria : Criteria) (kind : Connective) :
    (criteria.others.any fun joined => joined.1 == kind) = true ↔ criteria.Uses kind := by
  rw [List.any_eq_true]
  constructor
  · rintro ⟨⟨other, segment⟩, listed, same⟩
    exact ⟨segment, eq_of_beq same ▸ listed⟩
  · rintro ⟨segment, listed⟩
    exact ⟨(kind, segment), listed, beq_self_eq_true kind⟩

theorem mixesConnectives_eq_false_iff (criteria : Criteria) :
    criteria.mixesConnectives = false ↔
      ¬(criteria.Uses .conjunction ∧ criteria.Uses .disjunction) := by
  rw [← any_eq_true_iff_uses, ← any_eq_true_iff_uses, ← Bool.and_eq_true, Bool.not_eq_true]
  rfl

/-- Criteria that do not mix connectives have a predicate that joins their nodes. -/
theorem joins_predicate {criteria : Criteria} (pure : criteria.mixesConnectives = false) :
    criteria.Joins (criteria.nodes Segment.awaited) criteria.predicate := by
  rw [mixesConnectives_eq_false_iff] at pure
  rw [nodes_eq_nodesFrom, ← Segment.predicatesFrom_eq_nodesFrom]
  obtain ⟨first, others⟩ := criteria
  cases others with
  | nil => exact .lone rfl
  | cons joined more =>
      obtain ⟨kind, segment⟩ := joined
      have result : predicate ⟨first, (kind, segment) :: more⟩ =
          .composite kind (first.predicate 0)
            (predicatesFrom first.arity (segment :: more.map (·.2))) := rfl
      rw [result, segments, predicatesFrom, Nat.zero_add]
      refine .flat (by simp) ?_
      rintro ⟨other, segment'⟩ listed
      by_contra different
      refine pure ?_
      have both : Uses ⟨first, (kind, segment) :: more⟩ kind ∧
          Uses ⟨first, (kind, segment) :: more⟩ other :=
        ⟨⟨segment, List.mem_cons_self⟩, ⟨segment', listed⟩⟩
      cases kind <;> cases other <;>
        first
        | exact both
        | exact both.symm
        | exact absurd rfl different

end Criteria

/-! ### Accepted names -/

/-- A finder comes of criteria that have been read and do not mix connectives. -/
theorem Finder.parse_eq_ok_iff {entity : Entity} {descriptor : String} {finder : Finder} :
    Finder.parse entity descriptor = .ok finder ↔
      ∃ body criteria, criteriaOf descriptor = .ok body ∧
        entity.readCriteria body = .read criteria ∧ criteria.mixesConnectives = false ∧
        finder = ⟨descriptor, criteria.predicate, criteria.placeholders⟩ := by
  constructor
  · intro parsed
    unfold parse at parsed
    split at parsed
    · cases parsed
    · next body found =>
        split at parsed
        · cases parsed
        · cases parsed
        · next criteria outcome =>
            unfold ofCriteria at parsed
            split at parsed
            · cases parsed
            · next pure =>
                cases parsed
                exact ⟨body, criteria, found, outcome, Bool.eq_false_iff.2 pure, rfl⟩
  · rintro ⟨body, criteria, found, outcome, pure, rfl⟩
    rw [parse, found]
    dsimp only
    rw [outcome]
    dsimp only
    rw [ofCriteria, pure]
    rfl

namespace Entity

variable {entity : Entity}

/-- The reader accepts just the texts that have a reading, and gives the first of their readings.  A
finder name with such criteria is accepted unless that reading mixes connectives, and its predicate
joins the nodes of that reading. -/
theorem parse_takes_first_reading (built : entity.Built) (body : List Char) :
    (∀ criteria, entity.readCriteria body = .read criteria ↔
      criteria.IsFirstReading entity body) ∧
    ((∃ criteria, entity.readCriteria body = .read criteria) ↔
      ∃ criteria : Criteria, criteria.IsReading entity body) ∧
    ∀ descriptor, criteriaOf descriptor = .ok body →
      ((∃ finder, Finder.parse entity descriptor = .ok finder) ↔
        ∃ criteria : Criteria, criteria.IsFirstReading entity body ∧
          ¬(criteria.Uses .conjunction ∧ criteria.Uses .disjunction)) ∧
      ∀ finder, Finder.parse entity descriptor = .ok finder →
        ∃ criteria : Criteria, criteria.IsFirstReading entity body ∧
          criteria.Joins (criteria.nodes Segment.awaited) finder.predicate := by
  refine ⟨fun criteria => built.readCriteria_eq_read_iff, ?_, ?_⟩
  · rw [← built.exists_isFirstReading_iff]
    exact exists_congr fun criteria => built.readCriteria_eq_read_iff
  · intro descriptor found
    have reading {finder : Finder} (parsed : Finder.parse entity descriptor = .ok finder) :
        ∃ criteria : Criteria, criteria.IsFirstReading entity body ∧
          criteria.mixesConnectives = false ∧ finder.predicate = criteria.predicate := by
      obtain ⟨text, criteria, found', outcome, pure, rfl⟩ := Finder.parse_eq_ok_iff.1 parsed
      cases found.symm.trans found'
      exact ⟨criteria, built.readCriteria_eq_read_iff.1 outcome, pure, rfl⟩
    refine ⟨⟨?_, ?_⟩, ?_⟩
    · rintro ⟨finder, parsed⟩
      obtain ⟨criteria, first, pure, -⟩ := reading parsed
      exact ⟨criteria, first, criteria.mixesConnectives_eq_false_iff.1 pure⟩
    · rintro ⟨criteria, first, pure⟩
      exact ⟨_, Finder.parse_eq_ok_iff.2 ⟨body, criteria, found,
        built.readCriteria_eq_read_iff.2 first, criteria.mixesConnectives_eq_false_iff.2 pure, rfl⟩⟩
    · intro finder parsed
      obtain ⟨criteria, first, pure, same⟩ := reading parsed
      exact ⟨criteria, first, same ▸ Criteria.joins_predicate pure⟩

/-- The description of an item.  The name of one property goes on with letters of a keyword that may
follow the name of the other. -/
def itemDescriptor : EntityDescriptor where
  name := "Item"
  objectClasses := ["item"]
  properties := [
    { name := "dn", identifier := true, valueType := .dn },
    { name := "code" },
    { name := "codeNo" }]

/-- The entity of items. -/
def item : Entity where
  name := "Item"
  objectClasses := ["item"]
  attributes := itemDescriptor.properties.map PropertyDescriptor.resolve
  base := ⟨[]⟩

theorem built_item : item.Built :=
  ⟨itemDescriptor, ⟨by decide, by decide⟩, by decide +kernel⟩

/-- The shorter of two properties that the text of the criteria starts with. -/
def shorterProperty : Criteria := ⟨⟨"code", ⟨"NotNull", .present, false⟩⟩, []⟩

theorem isFirstReading_shorterProperty :
    shorterProperty.IsFirstReading item "CodeNotNull".toList := by
  have front : ∀ property ∈ item.queryableProperties, ∀ keyword ∈ Keyword.all,
      capitalized property ++ keyword.word.toList <+: "CodeNotNull".toList →
        keyword = ⟨"NotNull", .present, false⟩ ∧ property = "code" ∨
        keyword.word.length < 7 ∧ property = "code" ∨ keyword.word = "" ∧ property = "codeNo" := by
    decide +kernel
  have code : capitalized "code" = "Code".toList := by decide +kernel
  have codeNo : capitalized "codeNo" = "CodeNo".toList := by decide +kernel
  refine ⟨Criteria.isReading_single_iff.2 ⟨⟨by decide, by decide⟩, by decide +kernel⟩, ?_⟩
  rintro ⟨⟨property, keyword⟩, others⟩ ⟨spelled, admitted⟩ different
  obtain ⟨queryable, known⟩ := admitted ⟨property, keyword⟩ List.mem_cons_self
  rcases front property queryable keyword known ⟨_, spelled.symm⟩ with
    ⟨rfl, rfl⟩ | ⟨shorter, rfl⟩ | ⟨empty, rfl⟩
  · -- The text ends behind this segment, so nothing can follow it.
    have size := congrArg List.length spelled
    cases others with
    | nil => exact absurd rfl different
    | cons joined more =>
        obtain ⟨kind, segment⟩ := joined
        rw [Criteria.spelling, Segment.spelling, code] at size
        cases kind <;> simp [Connective.segmentWord] at size
  · exact .segment (.keyword rfl shorter)
  · -- Neither the end nor a connective stands behind the longer property.
    cases others with
    | nil => simp [Criteria.spelling, Segment.spelling, empty, codeNo] at spelled
    | cons joined more =>
        obtain ⟨kind, segment⟩ := joined
        rw [Criteria.spelling, Segment.spelling, codeNo, empty] at spelled
        cases kind <;> simp [Connective.segmentWord] at spelled

theorem readCriteria_codeNotNull :
    item.readCriteria "CodeNotNull".toList = .read shorterProperty :=
  built_item.readCriteria_eq_read_iff.2 isFirstReading_shorterProperty

/-- The name that gives the longer property up is accepted. -/
theorem exists_parse_codeNotNull :
    ∃ finder, Finder.parse item "findByCodeNotNull" = .ok finder :=
  ⟨_, Finder.parse_eq_ok_iff.2 ⟨_, _, by decide +kernel, readCriteria_codeNotNull, rfl, rfl⟩⟩

theorem parse_takes_first_reading_item :
    item.Built ∧ item.readCriteria "CodeNotNull".toList = .read shorterProperty ∧
      ∃ finder, Finder.parse item "findByCodeNotNull" = .ok finder := by
  have subject : criteriaOf "findByCodeNotNull" = .ok "CodeNotNull".toList := by decide +kernel
  obtain ⟨taken, -, accepted⟩ := parse_takes_first_reading built_item "CodeNotNull".toList
  have first := isFirstReading_shorterProperty
  refine ⟨built_item, (taken _).2 first, (accepted _ subject).1.2 ⟨_, first, ?_⟩⟩
  rintro ⟨⟨segment, listed⟩, -⟩
  cases listed

end Entity

end DirectoryQuery
