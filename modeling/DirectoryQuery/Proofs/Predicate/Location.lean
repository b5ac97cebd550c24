/-
Module: DirectoryQuery.Proofs.Predicate.Location
Purpose: Where reading data fails.  Conditions are read in their order, each with all its parts, and
  the first part that is at fault itself ends the reading.  The error names the fault and the way to
  that part, and nothing about it depends on where the part lies.
Main exports:
  Value.part?, DataError.under, Predicate.ofDataAt_append, Predicate.Reaches, Predicate.Fails,
  Predicate.ofData_eq_error_iff, pathText_injective, Predicate.fault_located
-/
import DirectoryQuery.Proofs.Predicate.Data

namespace DirectoryQuery

open Text

/-! ### Parts of data -/

/-- The conditions that a part of data lists. -/
def Value.conditions : Value → List Value
  | .record fields =>
    match fields.lookup "conditions" with
    | some (.list conditions) => conditions
    | _ => []
  | _ => []

/-- The part of data that positions in nested lists of conditions lead to. -/
def Value.part? (value : Value) : List Nat → Option Value
  | [] => some value
  | position :: path => value.conditions[position]?.bind (part? · path)

/-- An error of a part as an error of the whole, in which `outer` leads to the part. -/
def DataError.under (outer : List Nat) : DataError → DataError
  | .faulty path fault => .faulty (outer ++ path) fault
  | error => error

theorem DataError.under_nil (error : DataError) : error.under [] = error := by
  cases error <;> rfl

theorem DataError.under_under (outer inner : List Nat) (error : DataError) :
    (error.under inner).under outer = error.under (outer ++ inner) := by
  cases error <;> simp [under]

/-! ### Ways as texts -/

/-- One step of a way, as its text shows it behind an opening mark. -/
def stepText (opening : String) (position : Nat) : List Char :=
  opening.toList ++ (Nat.toDigits 10 position ++ [']'])

theorem toList_pathText (path : List Nat) :
    (pathText path).toList = "<root>".toList ++ path.flatMap (stepText ".conditions[") := by
  unfold pathText
  generalize "<root>" = text
  generalize ".conditions[" = opening
  induction path generalizing text with
  | nil => simp
  | cons position rest ih =>
      have digits : (toString position).toList = Nat.toDigits 10 position := Nat.toList_repr
      rw [List.foldl_cons, ih]
      simp only [stepText, String.toList_append, List.append_assoc, List.flatMap_cons, digits]
      rfl

variable {opening : String} {position position' : Nat}

theorem stepText_ne_nil : stepText opening position ≠ [] := by simp [stepText]

/-- The digits of a step end where its bracket closes. -/
theorem eq_of_stepText_append {rest rest' : List Char}
    (same : stepText opening position ++ rest = stepText opening position' ++ rest') :
    position = position' ∧ rest = rest' := by
  have digits (position : Nat) (rest : List Char) :
      (Nat.toDigits 10 position ++ ']' :: rest).takeWhile Char.isDigit =
        Nat.toDigits 10 position := by
    rw [List.takeWhile_append_of_pos fun c =>
      Nat.isDigit_of_mem_toDigits (by decide) (by decide)]
    simp
  simp only [stepText, List.append_assoc, List.append_cancel_left_eq, List.singleton_append] at same
  have number := congrArg (List.takeWhile Char.isDigit) same
  rw [digits, digits] at number
  rw [number, List.append_cancel_left_eq, List.cons.injEq] at same
  refine ⟨?_, same.2⟩
  rw [← Nat.ofDigitChars_ten_toDigits (n := position), number, Nat.ofDigitChars_ten_toDigits]

/-- Different ways have different texts. -/
theorem pathText_injective : Function.Injective pathText := by
  intro path path' same
  have steps := congrArg String.toList same
  rw [toList_pathText, toList_pathText, List.append_cancel_left_eq] at steps
  clear same
  generalize ".conditions[" = opening at steps
  induction path generalizing path' with
  | nil =>
      cases path' with
      | nil => rfl
      | cons position rest =>
          rw [List.flatMap_cons, eq_comm, List.flatMap_nil, List.append_eq_nil_iff] at steps
          exact absurd steps.1 stepText_ne_nil
  | cons position rest ih =>
      cases path' with
      | nil =>
          rw [List.flatMap_cons, List.flatMap_nil, List.append_eq_nil_iff] at steps
          exact absurd steps.1 stepText_ne_nil
      | cons position' rest' =>
          rw [List.flatMap_cons, List.flatMap_cons] at steps
          obtain ⟨rfl, later⟩ := eq_of_stepText_append steps
          rw [ih later]

namespace Predicate

variable {fields : List (String × Value)} {operator : Label} {path : List Nat}
  {value condition : Value} {conditions : List Value} {error : DataError}

/-! ### Data at first sight -/

/-- What the operator and the conditions of a part of data make of it. -/
inductive Shape : Value → Prop where
  | foreign {value : Value} (other : ∀ fields, value ≠ .record fields) : Shape value
  | unmarked {fields : List (String × Value)} (bare : labelField? fields "op" = none) :
      Shape (.record fields)
  | comparison {fields : List (String × Value)} {operator : Label}
      (operated : labelField? fields "op" = some operator)
      (comparing : isCombiningWord (lowercase operator.text) = false) : Shape (.record fields)
  | unconditional {fields : List (String × Value)} {operator : Label}
      (operated : labelField? fields "op" = some operator)
      (combining : isCombiningWord (lowercase operator.text) = true)
      (empty : ∀ first others, fields.lookup "conditions" ≠ some (.list (first :: others))) :
      Shape (.record fields)
  | combination {fields : List (String × Value)} {operator : Label} {condition : Value}
      {conditions : List Value} (operated : labelField? fields "op" = some operator)
      (combining : isCombiningWord (lowercase operator.text) = true)
      (listed : fields.lookup "conditions" = some (.list (condition :: conditions))) :
      Shape (.record fields)

theorem shape (value : Value) : Shape value := by
  cases value with
  | record fields =>
      cases operated : labelField? fields "op" with
      | none => exact .unmarked operated
      | some operator =>
          cases combining : isCombiningWord (lowercase operator.text) with
          | false => exact .comparison operated combining
          | true =>
              by_cases some : ∃ first others,
                  fields.lookup "conditions" = some (.list (first :: others))
              · obtain ⟨first, others, listed⟩ := some
                exact .combination operated combining listed
              · exact .unconditional operated combining fun first others listed =>
                  some ⟨first, others, listed⟩
  | _ => exact .foreign (by rintro fields ⟨⟩)

theorem ofDataAt_foreign (other : ∀ fields, value ≠ .record fields) :
    ofDataAt path value = .error (.faulty path (.notARecord value.kindName)) := by
  rw [ofDataAt.eq_def]
  split
  · next fields => exact absurd rfl (other fields)
  · rfl

theorem ofDataAt_unmarked (bare : labelField? fields "op" = none) :
    ofDataAt path (.record fields) = .error (.faulty path .noOperator) := by
  rw [ofDataAt, bare]

theorem ofDataAt_unconditional (operated : labelField? fields "op" = some operator)
    (combining : isCombiningWord (lowercase operator.text) = true)
    (empty : ∀ first others, fields.lookup "conditions" ≠ some (.list (first :: others))) :
    ofDataAt path (.record fields) =
      .error (.faulty path (.noConditions (lowercase operator.text))) := by
  rw [ofDataAt, operated]
  dsimp only
  rw [if_pos combining]
  split
  · next first others listed => exact absurd listed (empty first others)
  · rfl

/-- The conditions of a combination are read from the first on, and an error of theirs is its own. -/
theorem ofDataAt_combination_error (operated : labelField? fields "op" = some operator)
    (combining : isCombiningWord (lowercase operator.text) = true)
    (listed : fields.lookup "conditions" = some (.list (condition :: conditions)))
    (failed : ofDataFrom path 0 (condition :: conditions) = .error error) :
    ofDataAt path (.record fields) = .error error := by
  rw [ofDataAt, operated]
  dsimp only
  rw [if_pos combining]
  rw [ofDataFrom] at failed
  split
  · next condition' conditions' found =>
      rw [listed] at found
      cases found
      cases one : ofDataAt (path ++ [0]) condition with
      | error first =>
          rw [one] at failed
          cases failed
          rfl
      | ok first =>
          rw [one] at failed
          dsimp only at failed ⊢
          rw [Nat.zero_add] at failed
          cases more : ofDataFrom path 1 conditions with
          | error later =>
              rw [more] at failed
              cases failed
              rfl
          | ok others =>
              rw [more] at failed
              cases failed
  · next none => exact absurd listed (none condition conditions)

theorem sizeOf_conditions_lt {conditions : List Value}
    (listed : fields.lookup "conditions" = some (.list conditions)) :
    sizeOf conditions < sizeOf (Value.record fields) := by
  have smaller := sizeOf_lookup_lt listed
  rw [Value.list.sizeOf_spec] at smaller
  rw [Value.record.sizeOf_spec]
  omega

theorem ofDataFrom_cons_eq_ok_iff {position : Nat} {predicates : List Predicate} :
    ofDataFrom path position (condition :: conditions) = .ok predicates ↔
      ∃ first others, ofDataAt (path ++ [position]) condition = .ok first ∧
        ofDataFrom path (position + 1) conditions = .ok others ∧ predicates = first :: others := by
  rw [ofDataFrom]
  cases ofDataAt (path ++ [position]) condition with
  | error error => simp
  | ok first => cases ofDataFrom path (position + 1) conditions <;> simp [eq_comm]

/-! ### The place of a part -/

theorem readPlaceholder_append (outer path : List Nat) (property : Label)
    (fields : List (String × Value)) (index : Value) :
    readPlaceholder (outer ++ path) property fields index =
      (readPlaceholder path property fields index).mapError (·.under outer) := by
  unfold readPlaceholder
  split
  · split <;> rfl
  · split
    · rfl
    · split <;> rfl

theorem readValue_append (outer path : List Nat) (property : Label) (value : Value) :
    readValue (outer ++ path) property value =
      (readValue path property value).mapError (·.under outer) := by
  unfold readValue
  split
  · split
    · rfl
    · next index indexed =>
        rw [readPlaceholder_append]
        cases readPlaceholder path property _ index <;> rfl
  · rfl

theorem readComparison_append (outer path : List Nat) (fields : List (String × Value))
    (symbol : String) :
    readComparison (outer ++ path) fields symbol =
      (readComparison path fields symbol).mapError (·.under outer) := by
  unfold readComparison
  split
  · rfl
  · split
    · rfl
    · next property named =>
        rw [readValue_append]
        cases readValue path property ((fields.lookup "val").getD .null) <;> rfl

theorem assembleOperands_append (outer path : List Nat) (word : String) (first : Predicate)
    (others : List Predicate) :
    assembleOperands (outer ++ path) word first others =
      (assembleOperands path word first others).mapError (·.under outer) := by
  unfold assembleOperands
  split
  · rfl
  · split <;> rfl

mutual

/-- Where a part of data lies makes no difference but for the way to a fault. -/
theorem ofDataAt_append (outer path : List Nat) (value : Value) :
    ofDataAt (outer ++ path) value = (ofDataAt path value).mapError (·.under outer) := by
  -- The induction is on the data: the way grows with every step into a condition.
  cases shape value with
  | foreign other =>
      rw [ofDataAt_foreign other, ofDataAt_foreign other]
      rfl
  | unmarked bare =>
      rw [ofDataAt_unmarked bare, ofDataAt_unmarked bare]
      rfl
  | comparison operated comparing =>
      rw [ofDataAt_comparison operated comparing, ofDataAt_comparison operated comparing,
        readComparison_append]
  | unconditional operated combining empty =>
      rw [ofDataAt_unconditional operated combining empty,
        ofDataAt_unconditional operated combining empty]
      rfl
  | @combination fields operator condition conditions operated combining listed =>
      have moved := ofDataFrom_append outer path 0 (condition :: conditions)
      cases read : ofDataFrom path 0 (condition :: conditions) with
      | error error =>
          rw [read] at moved
          rw [ofDataAt_combination_error operated combining listed read,
            ofDataAt_combination_error operated combining listed moved]
          rfl
      | ok predicates =>
          rw [read] at moved
          obtain ⟨first, others, one, more, same⟩ := ofDataFrom_cons_eq_ok_iff.1 read
          obtain ⟨first', others', one', more', same'⟩ := ofDataFrom_cons_eq_ok_iff.1 moved
          cases same.symm.trans same'
          rw [ofDataAt_combination operated combining listed one more,
            ofDataAt_combination operated combining listed one' more', assembleOperands_append]
termination_by sizeOf value
decreasing_by exact sizeOf_conditions_lt listed

theorem ofDataFrom_append (outer path : List Nat) (position : Nat) (values : List Value) :
    ofDataFrom (outer ++ path) position values =
      (ofDataFrom path position values).mapError (·.under outer) := by
  cases values with
  | nil =>
      rw [ofDataFrom, ofDataFrom]
      rfl
  | cons value rest =>
      have one := ofDataAt_append outer (path ++ [position]) value
      have more := ofDataFrom_append outer path (position + 1) rest
      rw [ofDataFrom, ofDataFrom, List.append_assoc, one, more]
      cases ofDataAt (path ++ [position]) value with
      | error error => rfl
      | ok first => cases ofDataFrom path (position + 1) rest <;> rfl
termination_by sizeOf values

end

/-- A part of data is read alike wherever it lies. -/
theorem ofDataAt_eq (path : List Nat) (value : Value) :
    ofDataAt path value = (ofData value).mapError (·.under path) := by
  have moved := ofDataAt_append path [] value
  rwa [List.append_nil] at moved

/-- Conditions are read if and only if each of them is. -/
theorem exists_ofDataFrom_eq_ok_iff {position : Nat} :
    (∃ predicates, ofDataFrom path position conditions = .ok predicates) ↔
      ∀ condition ∈ conditions, ∃ predicate, ofData condition = .ok predicate := by
  induction conditions generalizing position with
  | nil =>
      rw [ofDataFrom]
      simp
  | cons condition rest ih =>
      rw [List.forall_mem_cons, ← @ih (position + 1)]
      simp only [ofDataFrom_cons_eq_ok_iff, ofDataAt_eq _ condition, mapError_eq_ok_iff]
      constructor
      · rintro ⟨predicates, first, others, one, more, -⟩
        exact ⟨⟨first, one⟩, others, more⟩
      · rintro ⟨⟨first, one⟩, others, more⟩
        exact ⟨_, first, others, one, more, rfl⟩

/-- The first condition that cannot be read is the one that conditions fail for. -/
theorem ofDataFrom_eq_error_iff {position : Nat} :
    ofDataFrom path position conditions = .error error ↔
      ∃ before condition after, conditions = before ++ condition :: after ∧
        (∀ earlier ∈ before, ∃ predicate, ofData earlier = .ok predicate) ∧
        ofDataAt (path ++ [position + before.length]) condition = .error error := by
  induction conditions generalizing position with
  | nil =>
      rw [ofDataFrom]
      simp
  | cons condition rest ih =>
      rw [ofDataFrom]
      constructor
      · intro failed
        cases one : ofDataAt (path ++ [position]) condition with
        | error first =>
            rw [one] at failed
            cases failed
            exact ⟨[], condition, rest, rfl, by simp, one⟩
        | ok first =>
            rw [one] at failed
            dsimp only at failed
            cases more : ofDataFrom path (position + 1) rest with
            | ok others =>
                rw [more] at failed
                cases failed
            | error later =>
                rw [more] at failed
                cases failed
                obtain ⟨before, culprit, after, rfl, accepted, failed⟩ := ih.1 more
                rw [ofDataAt_eq, mapError_eq_ok_iff] at one
                refine ⟨condition :: before, culprit, after, rfl, ?_, ?_⟩
                · exact List.forall_mem_cons.2 ⟨⟨first, one⟩, accepted⟩
                · rw [List.length_cons, Nat.add_comm before.length, ← Nat.add_assoc]
                  exact failed
      · rintro ⟨before, culprit, after, same, accepted, failed⟩
        cases before with
        | nil =>
            cases same
            rw [show path ++ [position] = path ++ [position + [].length] from rfl, failed]
        | cons earlier before =>
            rw [List.cons_append, List.cons.injEq] at same
            obtain ⟨rfl, rfl⟩ := same
            obtain ⟨⟨first, one⟩, accepted⟩ := List.forall_mem_cons.1 accepted
            have later : ofDataFrom path (position + 1) (before ++ culprit :: after) =
                .error error := by
              refine ih.2 ⟨before, culprit, after, rfl, accepted, ?_⟩
              rw [Nat.add_assoc, Nat.add_comm 1]
              exact failed
            rw [ofDataAt_eq, one, later]
            rfl

/-! ### The part at fault -/

/-- Reading data reaches a part of it: all conditions that come before it on the way are read. -/
inductive Reaches : Value → List Nat → Value → Prop where
  | here (value : Value) : Reaches value [] value
  | inside {fields : List (String × Value)} {operator : Label} {before after : List Value}
      {condition part : Value} {path : List Nat}
      (operated : labelField? fields "op" = some operator)
      (combining : isCombiningWord (lowercase operator.text) = true)
      (listed : fields.lookup "conditions" = some (.list (before ++ condition :: after)))
      (accepted : ∀ earlier ∈ before, ∃ predicate, ofData earlier = .ok predicate)
      (within : Reaches condition path part) : Reaches (.record fields) (before.length :: path) part

/-- A part of data that is at fault itself, as opposed to its conditions. -/
inductive Fails : Value → DataError → Prop where
  | foreign {value : Value} (other : ∀ fields, value ≠ .record fields) :
      Fails value (.faulty [] (.notARecord value.kindName))
  | unmarked {fields : List (String × Value)} (bare : labelField? fields "op" = none) :
      Fails (.record fields) (.faulty [] .noOperator)
  | comparison {fields : List (String × Value)} {operator : Label} {error : DataError}
      (operated : labelField? fields "op" = some operator)
      (comparing : isCombiningWord (lowercase operator.text) = false)
      (failed : readComparison [] fields (lowercase operator.text) = .error error) :
      Fails (.record fields) error
  | unconditional {fields : List (String × Value)} {operator : Label}
      (operated : labelField? fields "op" = some operator)
      (combining : isCombiningWord (lowercase operator.text) = true)
      (empty : ∀ first others, fields.lookup "conditions" ≠ some (.list (first :: others))) :
      Fails (.record fields) (.faulty [] (.noConditions (lowercase operator.text)))
  | severalNegated {fields : List (String × Value)} {operator : Label} {first second : Value}
      {others : List Value} (operated : labelField? fields "op" = some operator)
      (negating : lowercase operator.text = negationWord)
      (listed : fields.lookup "conditions" = some (.list (first :: second :: others)))
      (accepted : ∀ condition ∈ first :: second :: others,
        ∃ predicate, ofData condition = .ok predicate) :
      Fails (.record fields) (.faulty [] .severalNegated)

theorem assembleOperands_eq_error_iff {word : String} (combining : isCombiningWord word = true)
    {first : Predicate} {others : List Predicate} :
    assembleOperands path word first others = .error error ↔
      word = negationWord ∧ others ≠ [] ∧ error = .faulty path .severalNegated := by
  unfold assembleOperands
  cases joined : connective? word with
  | some kind =>
      have other : word ≠ negationWord := by
        rintro rfl
        rw [connective?_negationWord] at joined
        cases joined
      simp [other]
  | none =>
      have negating : word = negationWord := by
        simpa [isCombiningWord, joined] using combining
      by_cases alone : others = [] <;> simp [negating, alone, eq_comm]

/-- A part that is at fault itself cannot be read. -/
theorem Fails.ofData_eq (failing : Fails value error) : ofData value = .error error := by
  cases failing with
  | foreign other => exact ofDataAt_foreign other
  | unmarked bare => exact ofDataAt_unmarked bare
  | comparison operated comparing failed =>
      rw [ofData, ofDataAt_comparison operated comparing, failed]
  | unconditional operated combining empty => exact ofDataAt_unconditional operated combining empty
  | @severalNegated fields operator _ _ _ operated negating listed accepted =>
      obtain ⟨predicates, read⟩ := (@exists_ofDataFrom_eq_ok_iff [] _ 0).2 accepted
      obtain ⟨first, others, one, more, -⟩ := ofDataFrom_cons_eq_ok_iff.1 read
      obtain ⟨second, rest, -, -, several⟩ := ofDataFrom_cons_eq_ok_iff.1 more
      have combining : isCombiningWord (lowercase operator.text) = true := by
        rw [negating]
        rfl
      rw [ofData, ofDataAt_combination operated combining listed one more,
        assembleOperands_eq_error_iff combining]
      exact ⟨negating, by simp [several], rfl⟩

/-- Data that cannot be read has a part at fault that reading reaches. -/
theorem exists_reaches_of_ofData {value : Value} {error : DataError}
    (failed : ofData value = .error error) :
    ∃ path part own, Reaches value path part ∧ Fails part own ∧ error = own.under path := by
  have here {own : DataError} (failing : Fails value own) (same : error = own) :
      ∃ path part own, Reaches value path part ∧ Fails part own ∧ error = own.under path :=
    ⟨[], value, own, .here value, failing, by rw [own.under_nil, same]⟩
  cases shape value with
  | comparison operated comparing =>
      rw [ofData, ofDataAt_comparison operated comparing] at failed
      exact here (.comparison operated comparing failed) rfl
  | @combination fields operator condition conditions operated combining listed =>
      cases read : ofDataFrom [] 0 (condition :: conditions) with
      | error inner =>
          -- The first condition that cannot be read leads on to the part at fault.
          obtain ⟨before, culprit, after, split, accepted, stopped⟩ :=
            ofDataFrom_eq_error_iff.1 read
          rw [ofData, ofDataAt_combination_error operated combining listed read] at failed
          cases failed
          rw [ofDataAt_eq, mapError_eq_error_iff] at stopped
          obtain ⟨inner, stopped, rfl⟩ := stopped
          obtain ⟨path, part, own, within, failing, rfl⟩ := exists_reaches_of_ofData stopped
          rw [split] at listed
          refine ⟨_, part, own, .inside operated combining listed accepted within, failing, ?_⟩
          rw [DataError.under_under]
          simp
      | ok predicates =>
          -- All conditions are read, so that only their number can be wrong.
          obtain ⟨first, others, one, more, -⟩ := ofDataFrom_cons_eq_ok_iff.1 read
          rw [ofData, ofDataAt_combination operated combining listed one more,
            assembleOperands_eq_error_iff combining] at failed
          obtain ⟨negating, several, same⟩ := failed
          cases conditions with
          | nil =>
              rw [ofDataFrom] at more
              cases more
              exact absurd rfl several
          | cons second rest =>
              have accepted := exists_ofDataFrom_eq_ok_iff.1 ⟨predicates, read⟩
              exact here (.severalNegated operated negating listed accepted) same
  | foreign other =>
      rw [ofData, ofDataAt_foreign other] at failed
      cases failed
      exact here (.foreign other) rfl
  | unmarked bare =>
      rw [ofData, ofDataAt_unmarked bare] at failed
      cases failed
      exact here (.unmarked bare) rfl
  | unconditional operated combining empty =>
      rw [ofData, ofDataAt_unconditional operated combining empty] at failed
      cases failed
      exact here (.unconditional operated combining empty) rfl
termination_by sizeOf value
decreasing_by
  have smaller := sizeOf_conditions_lt listed
  have inside := List.sizeOf_lt_of_mem (show culprit ∈ condition :: conditions by simp [split])
  subst_vars
  omega

/-- Data that reading reaches a part of fails like the part. -/
theorem Reaches.ofData_eq {part : Value} (reached : Reaches value path part)
    (failed : ofData part = .error error) : ofData value = .error (error.under path) := by
  induction reached with
  | here value => rw [failed, error.under_nil]
  | @inside fields operator before after condition part path operated combining listed accepted
      within ih =>
      have stopped : ofDataFrom [] 0 (before ++ condition :: after) =
          .error ((error.under path).under [before.length]) := by
        refine ofDataFrom_eq_error_iff.2 ⟨before, condition, after, rfl, accepted, ?_⟩
        rw [ofDataAt_eq, ih failed]
        simp [Except.mapError]
      rw [DataError.under_under] at stopped
      cases before <;> exact ofDataAt_combination_error operated combining listed stopped

/-- Reading, to whatever depth, fails if and only if it reaches a part that is at fault itself. -/
theorem ofData_eq_error_iff :
    ofData value = .error error ↔
      ∃ path part own, Reaches value path part ∧ Fails part own ∧ error = own.under path := by
  constructor
  · exact exists_reaches_of_ofData
  · rintro ⟨path, part, own, reached, failing, rfl⟩
    exact reached.ofData_eq failing.ofData_eq

/-! ### The way to the part at fault -/

variable {part : Value}

theorem Reaches.part?_eq (reached : Reaches value path part) : value.part? path = some part := by
  induction reached with
  | here value => rfl
  | inside operated combining listed accepted within ih =>
      rw [Value.part?, Value.conditions, listed]
      simpa using ih

/-- Every condition that comes before a step of the way is read. -/
theorem Reaches.exists_earlier (reached : Reaches value path part) {before after : List Nat}
    {position earlier : Nat} (way : path = before ++ position :: after)
    (sooner : earlier < position) :
    ∃ condition predicate, value.part? (before ++ [earlier]) = some condition ∧
      ofData condition = .ok predicate := by
  induction reached generalizing before with
  | here value => simp at way
  | @inside fields operator passed later condition part path operated combining listed accepted
      within ih =>
      have conditions : (Value.record fields).conditions = passed ++ condition :: later := by
        rw [Value.conditions, listed]
      cases before with
      | nil =>
          rw [List.nil_append, List.cons.injEq] at way
          obtain ⟨rfl, -⟩ := way
          have found := List.getElem?_eq_getElem sooner
          obtain ⟨predicate, read⟩ := accepted _ (List.getElem_mem sooner)
          refine ⟨passed[earlier], predicate, ?_, read⟩
          rw [List.nil_append, Value.part?, conditions, List.getElem?_append_left sooner, found]
          rfl
      | cons step before =>
          rw [List.cons_append, List.cons.injEq] at way
          obtain ⟨rfl, way⟩ := way
          obtain ⟨condition', predicate, found, read⟩ := ih way
          refine ⟨condition', predicate, ?_, read⟩
          rw [List.cons_append, Value.part?, conditions]
          simpa using found

theorem exists_fault_of_readPlaceholder {property : Label} {index : Value}
    (failed : readPlaceholder path property fields index = .error error) :
    error.report? = none ∨ ∃ fault, error = .faulty path fault := by
  unfold readPlaceholder at failed
  split at failed
  · split at failed <;> cases failed
    exact .inl rfl
  · split at failed
    · cases failed
      exact .inl rfl
    · split at failed <;> cases failed
      · exact .inl rfl
      · exact .inr ⟨_, rfl⟩

theorem exists_fault_of_readValue {property : Label}
    (failed : readValue path property value = .error error) :
    error.report? = none ∨ ∃ fault, error = .faulty path fault := by
  unfold readValue at failed
  split at failed
  · split at failed
    · cases failed
    · exact exists_fault_of_readPlaceholder (map_eq_error_iff.1 failed)
  · cases failed

/-- An error of a comparison lies at the comparison, if it is reported at all. -/
theorem exists_fault_of_readComparison {symbol : String}
    (failed : readComparison path fields symbol = .error error) :
    error.report? = none ∨ ∃ fault, error = .faulty path fault := by
  unfold readComparison at failed
  split at failed
  · cases failed
    exact .inr ⟨_, rfl⟩
  · split at failed
    · cases failed
      exact .inr ⟨_, rfl⟩
    · next property named =>
        cases valued : readValue path property ((fields.lookup "val").getD .null) with
        | ok value =>
            rw [valued] at failed
            cases failed
        | error problem =>
            rw [valued] at failed
            cases failed
            exact exists_fault_of_readValue valued

/-- A reported error of a part that is at fault itself lies at the part. -/
theorem Fails.exists_fault (failing : Fails value error) {report : Report}
    (told : error.report? = some report) : ∃ fault, error = .faulty [] fault := by
  cases failing with
  | comparison operated comparing failed =>
      rcases exists_fault_of_readComparison failed with silent | located
      · rw [silent] at told
        cases told
      · exact located
  | _ => exact ⟨_, rfl⟩

/-- A report leads to the part at fault.  The way that it shows leads to a part of the data; that part
alone is reported with the same fault, at its root; and every condition that comes before a step of
the way can be read.  The text of the way belongs to no other one. -/
theorem fault_located {value : Value} {error : DataError} {report : Report}
    (failed : ofData value = .error error) (told : error.report? = some report) :
    ∃ path part own message fragment suggestions,
      report = .unreadable message (pathText path) fragment suggestions ∧
      value.part? path = some part ∧
      ofData part = .error own ∧
      own.report? = some (.unreadable message "<root>" fragment suggestions) ∧
      (∀ before position after, path = before ++ position :: after → ∀ earlier < position,
        ∃ condition predicate, value.part? (before ++ [earlier]) = some condition ∧
          ofData condition = .ok predicate) ∧
      ∀ other, pathText other = pathText path → other = path := by
  obtain ⟨path, part, own, reached, failing, rfl⟩ := ofData_eq_error_iff.1 failed
  have reported : ∃ report, own.report? = some report := by
    cases own with
    | faulty inner fault => exact ⟨_, rfl⟩
    | _ => cases told
  obtain ⟨report', told'⟩ := reported
  obtain ⟨fault, rfl⟩ := failing.exists_fault told'
  rw [DataError.under, List.append_nil] at told
  cases told
  refine ⟨path, part, _, fault.message, fault.fragment?, _, rfl, reached.part?_eq,
    failing.ofData_eq, rfl, ?_, ?_⟩
  · intro before position after way earlier sooner
    exact reached.exists_earlier way sooner
  · intro other same
    exact pathText_injective same

/-- A conjunction of a comparison and of a negation, in which the second of two comparisons has the
misspelled operator `contians`. -/
def misspelled : Value :=
  let comparison := .record [("op", .text "="), ("attr", .text "sn"), ("val", .text "x")]
  let inner := combinationData Connective.disjunction.word
    [comparison, .record [("op", .text "contians"), ("attr", .text "cn")]]
  combinationData Connective.conjunction.word [comparison, combinationData negationWord [inner]]

theorem fault_located_misspelled :
    ofData misspelled = .error (.faulty [1, 0, 1] (.unknownOperator "contians")) ∧
    pathText [1, 0, 1] = "<root>.conditions[1].conditions[0].conditions[1]" ∧
    ∃ part own, misspelled.part? [1, 0, 1] = some part ∧ ofData part = .error own ∧
      own.report? = some (.unreadable "unknown operator 'contians'" "<root>" (some "contians")
        (suggestions "contians" operatorSymbols)) := by
  have failed : ofData misspelled = .error (.faulty [1, 0, 1] (.unknownOperator "contians")) := by
    decide +kernel
  have told : (DataError.faulty [1, 0, 1] (.unknownOperator "contians")).report? =
      some (.unreadable "unknown operator 'contians'" (pathText [1, 0, 1]) (some "contians")
        (suggestions "contians" operatorSymbols)) := rfl
  refine ⟨failed, by decide +kernel, ?_⟩
  obtain ⟨path, part, own, message, fragment, suggestions, same, reached, stopped, reported, -, -⟩ :=
    fault_located failed told
  injection same with message' way fragment' suggestions'
  rw [pathText_injective way, message', fragment', suggestions']
  exact ⟨part, own, reached, stopped, reported⟩

end Predicate

end DirectoryQuery
