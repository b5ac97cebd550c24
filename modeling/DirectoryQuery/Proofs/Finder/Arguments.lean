/-
Module: DirectoryQuery.Proofs.Finder.Arguments
Purpose: An accepted finder can be run.  Its placeholders are those of the segments that take a
  value, in their order; binding asks for one argument each and puts it into the node of its segment;
  and with texts that are not empty there always is a filter.
Main exports:
  Criteria.Joins.unique, Criteria.Joins.parameters_eq, Criteria.Joins.bind_eq_ok_iff,
  Criteria.Joins.exists_filters, Finder.executable_of_parse
-/
import DirectoryQuery.Filter.Compilation
import DirectoryQuery.Proofs.Filter.Assertion
import DirectoryQuery.Proofs.Finder.Tree
import DirectoryQuery.Proofs.Predicate.Binding

namespace DirectoryQuery

/-! ### Placeholders of nodes -/

namespace Segment

theorem holding_congr {segment : Segment} {value other : Value}
    (same : segment.takesValue = true → value = other) :
    segment.holding value = segment.holding other := by
  unfold holding test
  cases taken : segment.takesValue with
  | false => rfl
  | true => rw [same taken]

/-- Nodes depend only on the values of the ranks that occur. -/
theorem nodesFrom_congr {value other : Nat → Segment → Value} {segments : List Segment} :
    ∀ {index : Nat},
      (∀ rank segment, rank < index + segments.countP (·.takesValue) → index ≤ rank →
        value rank segment = other rank segment) →
      nodesFrom value index segments = nodesFrom other index segments := by
  induction segments with
  | nil => intro index _; rfl
  | cons segment rest ih =>
      intro index same
      have count : (segment :: rest).countP (·.takesValue) =
          rest.countP (·.takesValue) + segment.arity := List.countP_cons
      rw [count] at same
      have tail : nodesFrom value (index + segment.arity) rest =
          nodesFrom other (index + segment.arity) rest :=
        ih fun rank segment' below above => same rank segment' (by omega) (by omega)
      have head :
          segment.holding (value index segment) = segment.holding (other index segment) := by
        refine holding_congr fun taken => same index segment ?_ (Nat.le_refl _)
        rw [arity_eq, if_pos taken]
        omega
      rw [nodesFrom, nodesFrom, head, tail]

theorem placeholders_test (segment : Segment) (value : Value) :
    (segment.test value).placeholders =
      if segment.takesValue then value.parameter?.toList else [] := by
  rw [test, Predicate.placeholders_comparison]
  cases segment.takesValue <;> rfl

theorem placeholders_holding (segment : Segment) (value : Value) :
    (segment.holding value).placeholders =
      if segment.takesValue then value.parameter?.toList else [] := by
  unfold holding
  split
  · rw [Predicate.placeholders_negation, placeholders_test]
  · exact placeholders_test segment value

theorem placeholders_nodesFrom (segments : List Segment) :
    ∀ index : Nat, (nodesFrom awaited index segments).flatMap Predicate.placeholders =
      Criteria.placeholdersFrom index segments := by
  induction segments with
  | nil => intro index; rfl
  | cons segment rest ih =>
      intro index
      rw [nodesFrom, List.flatMap_cons, placeholders_holding, ih, Criteria.placeholdersFrom]
      unfold placeholder? takesValue awaited
      cases segment.keyword.operator.takesValue <;> rfl

/-- The placeholders are named after the segments that take a value and numbered in their order. -/
theorem placeholdersFrom_eq_mapIdx (segments : List Segment) :
    ∀ index : Nat, Criteria.placeholdersFrom index segments =
      (segments.filter (·.takesValue)).mapIdx fun rank segment =>
        ⟨((index + rank : Nat) : Int), segment.property⟩ := by
  induction segments with
  | nil => intro index; rfl
  | cons segment rest ih =>
      intro index
      rw [Criteria.placeholdersFrom, ih, placeholder?, arity_eq]
      cases taken : segment.takesValue with
      | false =>
          rw [List.filter_cons_of_neg (by simp [taken])]
          unfold takesValue at taken
          rw [taken]
          rfl
      | true =>
          rw [List.filter_cons_of_pos (by simp [taken]), List.mapIdx_cons]
          unfold takesValue at taken
          rw [taken]
          simp only [if_true, Nat.add_assoc, Nat.add_comm 1]
          rfl

/-- The node of a segment is no composite. -/
theorem operands_holding (segment : Segment) (kind : Connective) (value : Value) :
    (segment.holding value).operands kind = [segment.holding value] := by
  unfold holding
  split <;> rfl

/-! ### Arguments in nodes -/

theorem substitute_test_awaited (segment : Segment) (bound : Bindings) (index : Nat) :
    (segment.test (awaited index segment)).substitute bound =
      some (segment.test ((bound.value? index).getD (awaited index segment))) := by
  unfold test
  cases segment.takesValue <;> rfl

theorem substitute_holding_awaited (segment : Segment) (bound : Bindings) (index : Nat) :
    (segment.holding (awaited index segment)).substitute bound =
      some (segment.holding ((bound.value? index).getD (awaited index segment))) := by
  unfold holding
  split
  · rw [Predicate.substitute, substitute_test_awaited]
    rfl
  · exact substitute_test_awaited segment bound index

theorem substituteAll_nodesFrom (bound : Bindings) (segments : List Segment) :
    ∀ index : Nat, Predicate.substituteAll bound (nodesFrom awaited index segments) =
      some (nodesFrom (fun rank segment => (bound.value? rank).getD (awaited rank segment)) index
        segments) := by
  induction segments with
  | nil => intro index; rfl
  | cons segment rest ih =>
      intro index
      rw [nodesFrom, Predicate.substituteAll, substitute_holding_awaited, ih]
      rfl

end Segment

namespace Criteria

variable {criteria : Criteria}

theorem placeholders_eq_mapIdx (criteria : Criteria) :
    criteria.placeholders =
      (criteria.segments.filter (·.takesValue)).mapIdx fun rank segment =>
        ⟨(rank : Int), segment.property⟩ := by
  rw [placeholders, Segment.placeholdersFrom_eq_mapIdx]
  simp only [Nat.zero_add]

theorem length_placeholders (criteria : Criteria) :
    criteria.placeholders.length = criteria.segments.countP (·.takesValue) := by
  rw [placeholders_eq_mapIdx, List.length_mapIdx, List.countP_eq_length_filter]

theorem length_nodes (criteria : Criteria) (value : Nat → Segment → Value) :
    (criteria.nodes value).length = criteria.segments.length := List.length_mapIdx

/-- The placeholder of a rank has that rank as its index. -/
theorem index_of_getElem?_placeholders {rank : Nat} {p : Parameter}
    (listed : criteria.placeholders[rank]? = some p) : p.index = rank := by
  rw [placeholders_eq_mapIdx, List.getElem?_mapIdx, Option.map_eq_some_iff] at listed
  obtain ⟨segment, -, rfl⟩ := listed
  rfl

theorem pairwise_placeholders (criteria : Criteria) :
    criteria.placeholders.Pairwise fun a b => a.index < b.index := by
  rw [List.pairwise_iff_getElem]
  intro i j inI inJ less
  rw [index_of_getElem?_placeholders (List.getElem?_eq_getElem inI),
    index_of_getElem?_placeholders (List.getElem?_eq_getElem inJ)]
  omega

theorem nodup_placeholders (criteria : Criteria) :
    (criteria.placeholders.map (·.index)).Nodup := by
  rw [List.Nodup, List.pairwise_map]
  exact criteria.pairwise_placeholders.imp fun less => Int.ne_of_lt less

/-- Bound by position, the nodes hold the arguments of their ranks. -/
theorem nodesFrom_bindPositions {arguments : List Value}
    (enough : arguments.length = criteria.segments.countP (·.takesValue)) :
    Segment.nodesFrom
        (fun rank segment =>
          ((Predicate.bindPositions criteria.placeholders arguments).value? rank).getD
            (Segment.awaited rank segment)) 0 criteria.segments =
      criteria.nodes fun rank _ => arguments.getD rank .null := by
  rw [nodes_eq_nodesFrom]
  refine Segment.nodesFrom_congr fun rank segment below _ => ?_
  have inside : rank < criteria.placeholders.length := by
    rw [length_placeholders]
    omega
  have listed := List.getElem?_eq_getElem inside
  have value : (Predicate.bindPositions criteria.placeholders arguments).value? _ =
      arguments[rank]? := Predicate.value?_bindPositions criteria.nodup_placeholders listed
  rw [index_of_getElem?_placeholders listed] at value
  rw [value, List.getD_eq_getElem?_getD, List.getElem?_eq_getElem (by omega)]
  rfl

/-! ### Trees of nodes -/

namespace Joins

variable {operands : List Predicate} {tree other bound : Predicate} {arguments : List Value}

/-- Criteria join operands in one way only. -/
theorem unique (joined : criteria.Joins operands tree) (joined' : criteria.Joins operands other) :
    tree = other := by
  cases joined with
  | lone alone =>
      cases joined' with
      | lone _ => rfl
      | flat several _ => exact absurd alone several
  | flat several same =>
      cases joined' with
      | lone alone => exact absurd alone several
      | flat _ same' =>
          obtain ⟨between, more, others⟩ := List.exists_cons_of_ne_nil several
          have listed : between ∈ criteria.others := others ▸ List.mem_cons_self
          rw [← same between listed, ← same' between listed]

/-- As many other operands can be joined the same way. -/
theorem exists_of_length_eq {results : List Predicate} (joined : criteria.Joins operands tree)
    (same : results.length = operands.length) : ∃ result, criteria.Joins results result := by
  cases joined with
  | lone alone =>
      obtain ⟨result, rfl⟩ := List.length_eq_one_iff.1 same
      exact ⟨result, .lone alone⟩
  | flat several between =>
      cases results with
      | nil => cases same
      | cons first others => exact ⟨_, .flat several between⟩

theorem placeholders_eq (joined : criteria.Joins operands tree) :
    tree.placeholders = operands.flatMap Predicate.placeholders := by
  cases joined with
  | lone _ => rw [List.flatMap_singleton]
  | flat _ _ => exact Predicate.placeholders_composite _ _ _

/-- The placeholders of a tree of nodes come in the order of their arguments already. -/
theorem parameters_eq (joined : criteria.Joins (criteria.nodes Segment.awaited) tree) :
    tree.parameters = criteria.placeholders := by
  have found : tree.placeholders = criteria.placeholders := by
    rw [joined.placeholders_eq, nodes_eq_nodesFrom, Segment.placeholders_nodesFrom]
    rfl
  rw [Predicate.parameters, found]
  refine List.mergeSort_of_pairwise (criteria.pairwise_placeholders.imp ?_)
  intro a b less
  exact decide_eq_true (Int.le_of_lt less)

theorem substitute_eq_some {bindings : Bindings} {results : List Predicate}
    (joined : criteria.Joins operands tree)
    (each : Predicate.substituteAll bindings operands = some results) :
    ∃ result, tree.substitute bindings = some result ∧ criteria.Joins results result := by
  cases joined with
  | lone alone =>
      obtain ⟨result, others, substituted, none, rfl⟩ := Predicate.substituteAll_cons_eq_some each
      cases none
      exact ⟨result, substituted, .lone alone⟩
  | @flat kind first others several same =>
      obtain ⟨first', others', head, tail, rfl⟩ := Predicate.substituteAll_cons_eq_some each
      refine ⟨.composite kind first' others', ?_, .flat several same⟩
      rw [Predicate.substitute, head, tail]
      rfl

/-- Binding by position takes as many arguments as segments take values, and gives the tree of the
nodes that hold these arguments. -/
theorem bind_eq_ok_iff (joined : criteria.Joins (criteria.nodes Segment.awaited) tree) :
    tree.bind arguments [] = .ok bound ↔
      arguments.length = criteria.segments.countP (·.takesValue) ∧
        criteria.Joins (criteria.nodes fun rank _ => arguments.getD rank .null) bound := by
  have parameters := joined.parameters_eq
  have length := criteria.length_placeholders
  by_cases none : criteria.placeholders = []
  · rw [Predicate.bind_nil_eq_ok_iff (parameters.trans none)]
    rw [none, List.length_nil] at length
    -- No segment takes a value, so the nodes are the same whatever the values.
    have same : criteria.nodes Segment.awaited =
        criteria.nodes fun rank _ => arguments.getD rank .null := by
      rw [nodes_eq_nodesFrom, nodes_eq_nodesFrom]
      exact Segment.nodesFrom_congr fun rank segment below _ => by omega
    rw [← same, ← length]
    constructor
    · rintro ⟨rfl, rfl⟩
      exact ⟨rfl, joined⟩
    · rintro ⟨empty, joined'⟩
      exact ⟨List.eq_nil_of_length_eq_zero empty, joined'.unique joined⟩
  · rw [Predicate.bind_eq_ok_iff (parameters ▸ none) (parameters ▸ criteria.nodup_placeholders),
      parameters, length]
    refine and_congr_right fun enough => ?_
    have each := Segment.substituteAll_nodesFrom
      (Predicate.bindPositions criteria.placeholders arguments) criteria.segments 0
    rw [← nodes_eq_nodesFrom] at each
    obtain ⟨result, substituted, joined'⟩ := joined.substitute_eq_some each
    rw [nodesFrom_bindPositions enough] at joined'
    rw [substituted, Option.some.injEq]
    constructor
    · rintro rfl
      exact joined'
    · intro joined''
      exact joined'.unique joined''

end Joins

end Criteria

/-! ### Filters of nodes -/

namespace Predicate

variable {entity : Entity}

/-- Every recognized operator that compares with a value takes one that spells a text which is not
empty. -/
theorem exists_valueTest {operator : Operator} (known : operator.isRecognized = true)
    (takes : operator.takesValue = true) {value : Value} {text : String}
    (spells : value.Spells text) (nonempty : text ≠ "") (attributeName : String)
    (property : Label) : ∃ test, valueTest attributeName property operator value = .ok test := by
  have whole := spells.assertion_eq
  have part := spells.substringAssertion_eq nonempty
  cases operator with
  | equals => exact ⟨_, by rw [valueTest, whole]; rfl⟩
  | atMost => exact ⟨_, by rw [valueTest, whole]; rfl⟩
  | atLeast => exact ⟨_, by rw [valueTest, whole]; rfl⟩
  | like =>
      cases pattern : value.asText? with
      | some pattern => exact ⟨_, by simp only [valueTest, pattern]; rfl⟩
      | none => exact ⟨_, by simp only [valueTest, pattern, part]; rfl⟩
  | startingWith => exact ⟨_, by simp only [valueTest, part]; rfl⟩
  | endingWith => exact ⟨_, by simp only [valueTest, part]; rfl⟩
  | containing => exact ⟨_, by simp only [valueTest, part]; rfl⟩
  | absent => cases takes
  | present => cases takes
  | unrecognized symbol => cases known

theorem exists_comparisonFilter (built : entity.Built) {property : String}
    (queryable : property ∈ entity.queryableProperties) {operator : Operator}
    (known : operator.isRecognized = true) {value : Value}
    (fits : operator.takesValue = true → ∃ text, value.Spells text ∧ text ≠ "") :
    ∃ test, comparisonFilter entity (.plain property) operator value = .ok test := by
  obtain ⟨found, looked, unrestricted⟩ := built.mem_queryableProperties_iff.1 queryable
  have filterable : filterableAttribute entity (.plain property) = .ok found :=
    filterableAttribute_eq_ok_iff.2 ⟨looked, unrestricted⟩
  unfold comparisonFilter
  rw [filterable]
  dsimp only
  split
  · exact ⟨_, rfl⟩
  · exact ⟨_, rfl⟩
  · next present absent =>
      have takes : operator.takesValue = true := by
        cases operator <;> first | rfl | exact absurd rfl present | exact absurd rfl absent
      obtain ⟨text, spells, nonempty⟩ := fits takes
      rw [spells.parameter?_eq_none]
      exact exists_valueTest known takes spells nonempty _ _

theorem exists_filters {predicates : List Predicate}
    (each : ∀ predicate ∈ predicates, ∃ made, predicate.filter entity = .ok made) :
    ∃ made, filters entity predicates = .ok made := by
  induction predicates with
  | nil => exact ⟨[], rfl⟩
  | cons predicate rest ih =>
      obtain ⟨⟨head, one⟩, others⟩ := List.forall_mem_cons.1 each
      obtain ⟨tail, more⟩ := ih others
      exact ⟨head :: tail, by rw [filters, one]; dsimp only; rw [more]⟩

end Predicate

theorem Keyword.isRecognized_of_mem {keyword : Keyword} (known : keyword ∈ Keyword.all) :
    keyword.operator.isRecognized = true := by
  have each : ∀ keyword ∈ Keyword.all, keyword.operator.isRecognized = true := by decide
  exact each keyword known

namespace Segment

variable {entity : Entity} {segment : Segment} {value : Value}

theorem exists_filter_test (built : entity.Built) (admitted : segment.IsAdmitted entity)
    (fits : segment.takesValue = true → ∃ text, value.Spells text ∧ text ≠ "") :
    ∃ made, (segment.test value).filter entity = .ok made := by
  rw [test, Predicate.filter]
  refine Predicate.exists_comparisonFilter built admitted.property
    (Keyword.isRecognized_of_mem admitted.keyword) fun taken => ?_
  rw [show segment.takesValue = true from taken]
  exact fits taken

theorem exists_filter_holding (built : entity.Built) (admitted : segment.IsAdmitted entity)
    (fits : segment.takesValue = true → ∃ text, value.Spells text ∧ text ≠ "") :
    ∃ made, (segment.holding value).filter entity = .ok made := by
  obtain ⟨made, compiled⟩ := exists_filter_test built admitted fits
  unfold holding
  split
  · exact ⟨.negation made, by rw [Predicate.filter, compiled]; rfl⟩
  · exact ⟨made, compiled⟩

theorem rank_lt_countP {segments : List Segment} {place : Nat}
    (listed : segments[place]? = some segment) (taken : segment.takesValue = true) :
    rank segments place < segments.countP (·.takesValue) := by
  have next : rank segments place + 1 = (segments.take (place + 1)).countP (·.takesValue) := by
    rw [List.take_add_one, listed, List.countP_append, Option.toList_some, List.countP_singleton,
      if_pos taken]
    rfl
  have part := (List.take_sublist (place + 1) segments).countP_le (p := (·.takesValue))
  omega

end Segment

namespace Criteria

variable {criteria : Criteria} {entity : Entity}

/-- The nodes of a reading can be put into a filter if what they hold spells texts that are not
empty. -/
theorem exists_filter_of_mem_nodes (built : entity.Built)
    (admitted : ∀ segment ∈ criteria.segments, segment.IsAdmitted entity) {arguments : List Value}
    (enough : arguments.length = criteria.segments.countP (·.takesValue))
    (texts : ∀ argument ∈ arguments, ∃ text, argument.Spells text ∧ text ≠ "")
    {node : Predicate} (listed : node ∈ criteria.nodes fun rank _ => arguments.getD rank .null) :
    ∃ made, node.filter entity = .ok made := by
  obtain ⟨place, inside, rfl⟩ := List.mem_mapIdx.1 listed
  refine Segment.exists_filter_holding built (admitted _ (List.getElem_mem inside)) fun taken => ?_
  have below := Segment.rank_lt_countP (List.getElem?_eq_getElem inside) taken
  dsimp only
  rw [List.getD_eq_getElem?_getD, List.getElem?_eq_getElem (by omega)]
  exact texts _ (List.getElem_mem _)

theorem operands_of_mem_nodes {value : Nat → Segment → Value} {node : Predicate}
    (listed : node ∈ criteria.nodes value) (kind : Connective) : node.operands kind = [node] := by
  obtain ⟨place, inside, rfl⟩ := List.mem_mapIdx.1 listed
  exact Segment.operands_holding _ kind _

namespace Joins

variable {operands : List Predicate} {tree : Predicate}

/-- A tree has a filter if its operands have, provided none of them is a composite itself. -/
theorem exists_filters (joined : criteria.Joins operands tree)
    (simple : ∀ operand ∈ operands, operand.operands .conjunction = [operand])
    (each : ∀ operand ∈ operands, ∃ made, operand.filter entity = .ok made) :
    ∃ made, Predicate.filters entity tree.conjuncts = .ok made := by
  cases joined with
  | lone _ =>
      rw [Predicate.conjuncts, simple tree List.mem_cons_self]
      exact Predicate.exists_filters each
  | @flat kind first others _ _ =>
      obtain ⟨made, all⟩ := Predicate.exists_filters each
      cases kind with
      | conjunction => exact ⟨made, all⟩
      | disjunction =>
          obtain ⟨⟨head, one⟩, later⟩ := List.forall_mem_cons.1 each
          obtain ⟨tail, more⟩ := Predicate.exists_filters later
          refine Predicate.exists_filters fun operand listed => ?_
          rw [List.mem_singleton.1 listed]
          exact ⟨.composite .disjunction (head :: tail), by
            rw [Predicate.filter, one]; dsimp only; rw [more]⟩

end Joins

end Criteria

namespace Finder

variable {entity : Entity} {descriptor : String} {finder : Finder}

/-- An accepted finder can be run with just its declared arguments.  Its placeholders are those of
the segments that take a value, numbered in their order.  Binding by position succeeds for as many
arguments, and gives the tree whose nodes hold them; nothing else changes.  And if the arguments are
texts that are not empty, or members of enumerations that stand for such, there is a filter. -/
theorem executable_of_parse (built : entity.Built)
    (parsed : Finder.parse entity descriptor = .ok finder) :
    finder.predicate.parameters = finder.parameters ∧
    ∃ body criteria, criteriaOf descriptor = .ok body ∧
      entity.readCriteria body = .read criteria ∧
      finder.parameters = (criteria.segments.filter (·.takesValue)).mapIdx
        (fun rank segment => ⟨(rank : Int), segment.property⟩) ∧
      criteria.Joins (criteria.nodes Segment.awaited) finder.predicate ∧
      ∀ arguments : List Value,
        ((∃ bound, finder.predicate.bind arguments [] = .ok bound) ↔
          arguments.length = finder.arity) ∧
        (∀ bound, finder.predicate.bind arguments [] = .ok bound →
          criteria.Joins (criteria.nodes fun rank _ => arguments.getD rank .null) bound) ∧
        (arguments.length = finder.arity →
          (∀ argument ∈ arguments, ∃ text, argument.Spells text ∧ text ≠ "") →
          ∃ filter, entity.filterFor (some finder.predicate) arguments [] = .ok filter) := by
  obtain ⟨body, criteria, found, outcome, pure, rfl⟩ := parse_eq_ok_iff.1 parsed
  have joined := Criteria.joins_predicate pure
  have reading := (built.readCriteria_eq_read_iff.1 outcome).reading
  refine ⟨joined.parameters_eq, body, criteria, found, outcome, criteria.placeholders_eq_mapIdx,
    joined, ?_⟩
  intro arguments
  rw [arity, criteria.length_placeholders]
  have bound_of_length (enough : arguments.length = criteria.segments.countP (·.takesValue)) :
      ∃ bound, criteria.predicate.bind arguments [] = .ok bound := by
    have same : (criteria.nodes fun rank _ => arguments.getD rank .null).length =
        (criteria.nodes Segment.awaited).length := by
      rw [Criteria.length_nodes, Criteria.length_nodes]
    obtain ⟨bound, joined'⟩ := joined.exists_of_length_eq same
    exact ⟨bound, joined.bind_eq_ok_iff.2 ⟨enough, joined'⟩⟩
  refine ⟨⟨?_, bound_of_length⟩, ?_, ?_⟩
  · rintro ⟨bound, binding⟩
    exact (joined.bind_eq_ok_iff.1 binding).1
  · intro bound binding
    exact (joined.bind_eq_ok_iff.1 binding).2
  · intro enough texts
    obtain ⟨bound, binding⟩ := bound_of_length enough
    have joined' := (joined.bind_eq_ok_iff.1 binding).2
    obtain ⟨made, all⟩ := joined'.exists_filters
      (fun node listed => Criteria.operands_of_mem_nodes listed .conjunction)
      (fun node listed =>
        Criteria.exists_filter_of_mem_nodes built reading.admitted enough texts listed)
    refine ⟨.composite .conjunction (entity.classTests ++ made), ?_⟩
    rw [Entity.filterFor, binding]
    dsimp only
    rw [all]

/-- The criteria of a finder with a negation, a test for presence and an empty keyword. -/
def nameAndNumber : Criteria where
  first := ⟨"lastname", ⟨"NotLike", .startingWith, true⟩⟩
  others := [
    (.conjunction, ⟨"phone", ⟨"IsNull", .absent, false⟩⟩),
    (.conjunction, ⟨"uid", ⟨"", .equals, false⟩⟩)]

/-- The finder of persons with these criteria. -/
def byNameAndNumber : Finder where
  descriptor := "findByLastnameNotLikeAndPhoneIsNullAndUid"
  predicate := .composite .conjunction
    (.negation (.comparison (.plain "lastname") .startingWith (.parameter ⟨0, "lastname"⟩)))
    [.comparison (.plain "phone") .absent .null,
      .comparison (.plain "uid") .equals (.parameter ⟨1, "uid"⟩)]
  parameters := [⟨0, "lastname"⟩, ⟨1, "uid"⟩]

theorem readCriteria_nameAndNumber :
    Entity.person.readCriteria "LastnameNotLikeAndPhoneIsNullAndUid".toList =
      .read nameAndNumber := by
  refine Entity.built_person.readCriteria_eq_read_iff.2 ?_
  have uid : Criteria.IsFirstReading ⟨⟨"uid", ⟨"", .equals, false⟩⟩, []⟩ Entity.person _ :=
    Criteria.isFirstReading_single ⟨by decide, by decide⟩
      (Segment.leads_of_forall (by decide +kernel))
  have phone : Criteria.IsFirstReading
      (.preceded ⟨"phone", ⟨"IsNull", .absent, false⟩⟩ .conjunction _) Entity.person _ :=
    Criteria.isFirstReading_preceded ⟨by decide, by decide⟩
      (Segment.leads_of_forall (by decide +kernel)) uid
  have lastname : Criteria.IsFirstReading
      (.preceded ⟨"lastname", ⟨"NotLike", .startingWith, true⟩⟩ .conjunction _) Entity.person _ :=
    Criteria.isFirstReading_preceded ⟨by decide, by decide⟩
      (Segment.leads_of_forall (by decide +kernel)) phone
  have text : "LastnameNotLikeAndPhoneIsNullAndUid".toList = nameAndNumber.spelling := by
    decide +kernel
  rw [text]
  exact lastname

theorem parse_byNameAndNumber :
    Finder.parse Entity.person byNameAndNumber.descriptor = .ok byNameAndNumber :=
  parse_eq_ok_iff.2 ⟨_, nameAndNumber, by decide +kernel, readCriteria_nameAndNumber, rfl, rfl⟩

theorem executable_of_parse_person :
    Entity.person.Built ∧
      Finder.parse Entity.person byNameAndNumber.descriptor = .ok byNameAndNumber ∧
      byNameAndNumber.predicate.parameters = [⟨0, "lastname"⟩, ⟨1, "uid"⟩] ∧
      (∃ bound, byNameAndNumber.predicate.bind [.text "Sm*", .text "7"] [] = .ok bound) ∧
      ∃ filter, Entity.person.filterFor (some byNameAndNumber.predicate)
        [.text "Sm*", .text "7"] [] = .ok filter := by
  obtain ⟨parameters, body, criteria, -, -, -, -, run⟩ :=
    executable_of_parse Entity.built_person parse_byNameAndNumber
  obtain ⟨binds, -, compiles⟩ := run [.text "Sm*", .text "7"]
  refine ⟨Entity.built_person, parse_byNameAndNumber, parameters, binds.2 rfl, compiles rfl ?_⟩
  intro argument listed
  rcases List.mem_cons.1 listed with rfl | later
  · exact ⟨"Sm*", .text _, by decide⟩
  · rw [List.mem_singleton.1 later]
    exact ⟨"7", .text _, by decide⟩

end Finder

end DirectoryQuery
