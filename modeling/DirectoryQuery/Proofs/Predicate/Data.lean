/-
Module: DirectoryQuery.Proofs.Predicate.Data
Purpose: The data form of predicates loses nothing.  Every predicate whose parts can be told apart in
  it is read back just as it was, and whatever is read from data has such parts, so that one round of
  reading absorbs all that data may leave open: letter case, missing fields, and how an index is given.
Main exports:
  Predicate.HasData, ofDataAt_toData, hasData_of_ofDataAt, ofData_toData_eq_self
-/
import DirectoryQuery.Predicate.Data
import DirectoryQuery.Predicate.Equality
import DirectoryQuery.Proofs.Result
import Mathlib.Data.List.Basic

namespace DirectoryQuery

open Text

/-! ### Words and symbols -/

theorem Operator.isRecognized_of_ofSymbol? {symbol : String} {operator : Operator}
    (found : ofSymbol? symbol = some operator) : operator.isRecognized = true := by
  have each : ∀ operator ∈ recognized, operator.isRecognized = true := by decide
  exact each operator (List.mem_of_find?_eq_some found)

theorem Operator.symbol_of_ofSymbol? {symbol : String} {operator : Operator}
    (found : ofSymbol? symbol = some operator) : operator.symbol = symbol :=
  eq_of_beq (List.find?_some found :)

/-- Symbols of operators are written in lower case. -/
theorem Operator.lowercase_symbol {operator : Operator} (known : operator.isRecognized = true) :
    lowercase operator.symbol = operator.symbol := by
  cases operator with
  | unrecognized symbol => cases known
  | _ => decide +kernel

/-- No symbol of an operator is a word that combines conditions. -/
theorem Operator.isCombiningWord_symbol {operator : Operator}
    (known : operator.isRecognized = true) :
    Predicate.isCombiningWord operator.symbol = false := by
  cases operator with
  | unrecognized symbol => cases known
  | _ => decide

theorem Connective.lowercase_word (kind : Connective) : lowercase kind.word = kind.word := by
  cases kind <;> decide +kernel

namespace Predicate

theorem lowercase_negationWord : lowercase negationWord = negationWord := by decide +kernel

theorem connective?_negationWord : connective? negationWord = none := by decide

theorem connective?_word (kind : Connective) : connective? kind.word = some kind := by
  cases kind <;> decide

/-! ### Parts of data -/

theorem text_ne_empty_of_labelField? {fields : List (String × Value)} {key : String}
    {label : Label} (found : labelField? fields key = some label) : label.text ≠ "" := by
  simpa using (Option.filter_eq_some_iff.1 found).2

theorem labelField?_value {fields : List (String × Value)} {key : String} {label : Label}
    (found : fields.lookup key = some label.value) (nonempty : label.text ≠ "") :
    labelField? fields key = some label := by
  simp [labelField?, found, Label.ofValue?_value, nonempty]

/-- A value that was read is never a record that would be taken for a placeholder. -/
theorem lookup_param_of_readValue {path : List Nat} {property : Label} {raw value : Value}
    (read : readValue path property raw = .ok value) {fields : List (String × Value)}
    (same : value = .record fields) : fields.lookup "param" = none := by
  subst same
  unfold readValue at read
  split at read
  · split at read
    · next absent =>
        cases read
        exact absent
    · obtain ⟨placeholder, -, made⟩ := map_eq_ok_iff.1 read
      cases made
  · next other =>
      cases read
      exact absurd rfl (other fields)

/-- The data form of a value that is not taken for a placeholder stands for the value. -/
theorem readValue_toData {property : Label} {value : Value}
    (literal : ∀ fields, value = .record fields → fields.lookup "param" = none)
    (path : List Nat) : readValue path property value.toData = .ok value := by
  cases value with
  | record fields =>
      have absent := literal fields rfl
      simp [Value.toData, readValue, absent]
  | _ => rfl

/-! ### Reading and its cases -/

/-- A record with a word and conditions stands for what the word makes of its conditions. -/
theorem ofDataAt_combination {path : List Nat} {fields : List (String × Value)} {operator : Label}
    {condition : Value} {conditions : List Value} (operated : labelField? fields "op" = some operator)
    (combining : isCombiningWord (lowercase operator.text) = true)
    (listed : fields.lookup "conditions" = some (.list (condition :: conditions)))
    {first : Predicate} {others : List Predicate}
    (one : ofDataAt (path ++ [0]) condition = .ok first)
    (more : ofDataFrom path 1 conditions = .ok others) :
    ofDataAt path (.record fields) =
      assembleOperands path (lowercase operator.text) first others := by
  rw [ofDataAt, operated]
  dsimp only
  rw [if_pos combining]
  split
  · next condition' conditions' found =>
      rw [listed] at found
      cases found
      rw [one]
      dsimp only
      rw [more]
  · next none => exact absurd listed (none condition conditions)

theorem ofDataAt_comparison {path : List Nat} {fields : List (String × Value)} {operator : Label}
    (operated : labelField? fields "op" = some operator)
    (comparing : isCombiningWord (lowercase operator.text) = false) :
    ofDataAt path (.record fields) =
      readComparison path fields (lowercase operator.text) := by
  rw [ofDataAt, operated]
  dsimp only
  rw [if_neg (by simp [comparing])]

/-- What is read from data, case by case: a comparison of a named property by a recognized operator
with a value that was read, or a combination of predicates that were read. -/
inductive IsRead : Predicate → Prop where
  | comparison {path : List Nat} {property : Label} {operator : Operator} {raw value : Value}
      (named : property.text ≠ "") (known : operator.isRecognized = true)
      (read : readValue path property raw = .ok value) :
      IsRead (.comparison property operator value)
  | negation {path : List Nat} {raw : Value} {operand : Predicate}
      (read : ofDataAt path raw = .ok operand) : IsRead (.negation operand)
  | composite {kind : Connective} {path path' : List Nat} {raw : Value} {raws : List Value}
      {first : Predicate} {others : List Predicate} (one : ofDataAt path raw = .ok first)
      (more : ofDataFrom path' 1 raws = .ok others) : IsRead (.composite kind first others)

theorem isRead_of_readComparison {path : List Nat} {fields : List (String × Value)}
    {symbol : String} {predicate : Predicate}
    (read : readComparison path fields symbol = .ok predicate) : IsRead predicate := by
  unfold readComparison at read
  split at read
  · cases read
  · next operator found =>
      split at read
      · cases read
      · next property named =>
          cases value : readValue path property ((fields.lookup "val").getD .null) with
          | error error =>
              rw [value] at read
              cases read
          | ok value' =>
              rw [value] at read
              cases read
              exact .comparison (text_ne_empty_of_labelField? named)
                (Operator.isRecognized_of_ofSymbol? found) value

theorem isRead_of_assembleOperands {path path' path'' : List Nat} {word : String} {raw : Value}
    {raws : List Value} {first : Predicate} {others : List Predicate} {predicate : Predicate}
    (one : ofDataAt path' raw = .ok first) (more : ofDataFrom path'' 1 raws = .ok others)
    (read : assembleOperands path word first others = .ok predicate) : IsRead predicate := by
  unfold assembleOperands at read
  split at read
  · cases read
    exact .composite one more
  · split at read
    · cases read
      exact .negation one
    · cases read

theorem isRead_of_ofDataAt {path : List Nat} {value : Value} {predicate : Predicate}
    (read : ofDataAt path value = .ok predicate) : IsRead predicate := by
  rw [ofDataAt.eq_def] at read
  split at read
  · split at read
    · cases read
    · dsimp only at read
      split at read
      · split at read
        · split at read
          · cases read
          · next first one =>
              split at read
              · cases read
              · next others more => exact isRead_of_assembleOperands one more read
        · cases read
      · exact isRead_of_readComparison read
  · cases read

theorem ofDataFrom_eq_ok_cons {path : List Nat} {position : Nat} {values : List Value}
    {predicate : Predicate} {rest : List Predicate}
    (read : ofDataFrom path position values = .ok (predicate :: rest)) :
    ∃ value others, ofDataAt (path ++ [position]) value = .ok predicate ∧
      ofDataFrom path (position + 1) others = .ok rest := by
  cases values with
  | nil =>
      rw [ofDataFrom] at read
      cases read
  | cons value others =>
      rw [ofDataFrom] at read
      split at read
      · cases read
      · next first one =>
          split at read
          · cases read
          · next tail more =>
              cases read
              exact ⟨value, others, one, more⟩

/-! ### Predicates with a data form -/

/-- What a part of a predicate must be for its data form to stand for it.  A comparison needs a
property with a name, a recognized operator, and no record for a value that would be taken for a
placeholder. -/
def HasData : Predicate → Prop
  | .comparison property operator value =>
    property.text ≠ "" ∧ operator.isRecognized = true ∧
      ∀ fields, value = .record fields → fields.lookup "param" = none
  | .negation _ => True
  | .composite _ _ _ => True
  | .bare => False

/-- A comparison is read back from its data form. -/
theorem ofDataAt_toData_comparison {property : Label} {operator : Operator} {value : Value}
    (whole : (comparison property operator value).HasData) :
    ∃ data, (comparison property operator value).toData = .ok data ∧
      ∀ path, ofDataAt path data = .ok (.comparison property operator value) := by
  obtain ⟨named, known, literal⟩ := whole
  refine ⟨_, by rw [toData, if_pos known], ?_⟩
  intro path
  have symbol : operator.symbol ≠ "" := by
    cases operator with
    | unrecognized symbol => cases known
    | _ => decide
  have operated : labelField? [("op", Value.text operator.symbol), ("attr", property.value),
      ("val", value.toData)] "op" = some (.plain operator.symbol) :=
    labelField?_value rfl symbol
  have comparing : isCombiningWord (lowercase (Label.plain operator.symbol).text) = false := by
    rw [Label.text, Operator.lowercase_symbol known, Operator.isCombiningWord_symbol known]
  rw [ofDataAt_comparison operated comparing, Label.text, Operator.lowercase_symbol known,
    readComparison, Operator.ofSymbol?_symbol known]
  dsimp only
  have attributed : labelField? [("op", Value.text operator.symbol), ("attr", property.value),
      ("val", value.toData)] "attr" = some property :=
    labelField?_value rfl named
  have valued : [("op", Value.text operator.symbol), ("attr", property.value),
      ("val", value.toData)].lookup "val" = some value.toData := rfl
  have read : readValue path property value.toData = .ok value := readValue_toData literal path
  rw [attributed, valued, Option.getD_some]
  dsimp only
  rw [read]
  rfl

mutual

/-- A predicate is read back from its data form. -/
theorem ofDataAt_toData (predicate : Predicate)
    (whole : ∀ part ∈ predicate.walk, part.HasData) :
    ∃ data, predicate.toData = .ok data ∧ ∀ path, ofDataAt path data = .ok predicate := by
  cases predicate with
  | comparison property operator value =>
      exact ofDataAt_toData_comparison (whole _ (by simp [walk]))
  | negation operand =>
      obtain ⟨data, written, read⟩ :=
        ofDataAt_toData operand fun part found => whole part (by simp [walk, found])
      refine ⟨combinationData negationWord [data], ?_, ?_⟩
      · rw [toData, written]
        rfl
      · intro path
        have none : ofDataFrom path 1 [] = .ok [] := by rw [ofDataFrom]
        have operated : labelField? [("op", Value.text negationWord),
            ("conditions", .list [data])] "op" = some (.plain negationWord) := rfl
        have combining : isCombiningWord (lowercase (Label.plain negationWord).text) = true := by
          rw [Label.text, lowercase_negationWord]
          rfl
        rw [combinationData, ofDataAt_combination operated combining rfl (read _) none, Label.text,
          lowercase_negationWord, assembleOperands, connective?_negationWord]
        rfl
  | composite kind first others =>
      obtain ⟨data, written, read⟩ :=
        ofDataAt_toData first fun part found => whole part (by simp [walk, found])
      obtain ⟨datas, writtenAll, readAll⟩ :=
        ofDataFrom_toDataAll others fun part found => whole part (by simp [walk, found])
      refine ⟨combinationData kind.word (data :: datas), ?_, ?_⟩
      · rw [toData, written, writtenAll]
        rfl
      · intro path
        have operated : labelField? [("op", Value.text kind.word),
            ("conditions", .list (data :: datas))] "op" = some (.plain kind.word) := by
          cases kind <;> rfl
        have combining : isCombiningWord (lowercase (Label.plain kind.word).text) = true := by
          rw [Label.text, kind.lowercase_word, isCombiningWord, connective?_word]
          simp
        rw [combinationData, ofDataAt_combination operated combining rfl (read _) (readAll _ _),
          Label.text, kind.lowercase_word, assembleOperands, connective?_word]
  | bare => exact (whole .bare (by simp [walk])).elim

/-- Predicates are read back from their data forms. -/
theorem ofDataFrom_toDataAll (predicates : List Predicate)
    (whole : ∀ part ∈ walkAll predicates, part.HasData) :
    ∃ datas, toDataAll predicates = .ok datas ∧
      ∀ path position, ofDataFrom path position datas = .ok predicates := by
  cases predicates with
  | nil =>
      refine ⟨[], rfl, ?_⟩
      intro path position
      rw [ofDataFrom]
  | cons predicate rest =>
      obtain ⟨data, written, read⟩ :=
        ofDataAt_toData predicate fun part found => whole part (by simp [walkAll, found])
      obtain ⟨datas, writtenAll, readAll⟩ :=
        ofDataFrom_toDataAll rest fun part found => whole part (by simp [walkAll, found])
      refine ⟨data :: datas, ?_, ?_⟩
      · rw [toDataAll, written, writtenAll]
        rfl
      · intro path position
        rw [ofDataFrom, read]
        dsimp only
        rw [readAll]

end

mutual

/-- What is read from data has a data form, part by part. -/
theorem hasData_of_ofDataAt {path : List Nat} {value : Value} {predicate : Predicate}
    (read : ofDataAt path value = .ok predicate) : ∀ part ∈ predicate.walk, part.HasData := by
  intro part found
  cases predicate with
  | comparison property operator stored =>
      rw [walk, List.mem_singleton] at found
      subst found
      cases isRead_of_ofDataAt read with
      | comparison named known valued =>
          exact ⟨named, known, fun _ same => lookup_param_of_readValue valued same⟩
  | negation operand =>
      cases isRead_of_ofDataAt read with
      | negation inner =>
          rw [walk, List.mem_cons] at found
          rcases found with rfl | within
          · trivial
          · exact hasData_of_ofDataAt inner part within
  | composite kind first others =>
      cases isRead_of_ofDataAt read with
      | composite one more =>
          rw [walk, List.mem_cons, List.mem_append] at found
          rcases found with rfl | within | within
          · trivial
          · exact hasData_of_ofDataAt one part within
          · exact hasData_of_ofDataFrom more part within
  | bare => cases isRead_of_ofDataAt read

theorem hasData_of_ofDataFrom {path : List Nat} {position : Nat} {values : List Value}
    {predicates : List Predicate} (read : ofDataFrom path position values = .ok predicates) :
    ∀ part ∈ walkAll predicates, part.HasData := by
  intro part found
  cases predicates with
  | nil => simp [walkAll] at found
  | cons predicate rest =>
      obtain ⟨value, others, one, more⟩ := ofDataFrom_eq_ok_cons read
      rw [walkAll, List.mem_append] at found
      rcases found with within | within
      · exact hasData_of_ofDataAt one part within
      · exact hasData_of_ofDataFrom more part within

end

/-- The data form is faithful.  A predicate of named properties, recognized operators, placeholders
and values that are not taken for placeholders is read back from its data form just as it was.  And
whatever is read from data, however it was put there, is read again from the data form that it has.
-/
theorem ofData_toData_eq_self :
    (∀ predicate : Predicate, (∀ part ∈ predicate.walk, part.HasData) →
      ∃ data, predicate.toData = .ok data ∧ ofData data = .ok predicate) ∧
    ∀ (value : Value) (predicate : Predicate), ofData value = .ok predicate →
      ∃ data, predicate.toData = .ok data ∧ ofData data = .ok predicate := by
  constructor
  · intro predicate whole
    obtain ⟨data, written, read⟩ := ofDataAt_toData _ whole
    exact ⟨data, written, read []⟩
  · intro value predicate read
    obtain ⟨data, written, again⟩ := ofDataAt_toData _ (hasData_of_ofDataAt read)
    exact ⟨data, written, again []⟩

/-- The name of a property as a member of an enumeration. -/
def uidKey : Label := .member ⟨"Key", "Key.UID", some "<Key.UID: 'uid'>"⟩ "uid" (.text "uid")

/-- A predicate with a conjunction in a conjunction, a placeholder without a name, and a record for
a value. -/
def unflattened : Predicate :=
  .composite .conjunction
    (.composite .conjunction
      (.negation (.comparison (.plain "lastname") .startingWith (.parameter ⟨-7, ""⟩))) [])
    [.comparison uidKey .equals (.record [("name", .text "param")])]

/-- Data for a predicate in mixed letter case, with a field too many and a text for an index. -/
def looseData : Value :=
  .record [
    ("conditions", .list [.record [
      ("note", .null), ("attr", .text "lastname"), ("op", .text "LIKE"),
      ("val", .record [("param", .text " 1_0 ")])]]),
    ("op", .text "Or")]

/-- The predicate that the loose data stands for. -/
def ofLooseData : Predicate :=
  .composite .disjunction
    (.comparison (.plain "lastname") .like (.parameter ⟨10, "lastname"⟩)) []

theorem ofData_toData_eq_self_unflattened :
    (∀ part ∈ unflattened.walk, part.HasData) ∧
      (∃ data, unflattened.toData = .ok data ∧ ofData data = .ok unflattened) ∧
      ofData looseData = .ok ofLooseData ∧
      ∃ data, ofLooseData.toData = .ok data ∧ ofData data = .ok ofLooseData := by
  have whole : ∀ part ∈ unflattened.walk, part.HasData := by
    simp [unflattened, uidKey, walk, walkAll, HasData, Label.text, Operator.isRecognized]
  have read : ofData looseData = .ok ofLooseData := by decide +kernel
  exact ⟨whole, ofData_toData_eq_self.1 unflattened whole, read,
    ofData_toData_eq_self.2 looseData ofLooseData read⟩

end Predicate

end DirectoryQuery
