/-
Module: DirectoryQuery.Predicate.Data
Purpose: The data form of predicates: writing it, and reading it back from records or JSON.
Main exports:
  DataFault, DataError, DataError.report?, Predicate.toData, Predicate.ofData, Predicate.ofJsonText
-/
import DirectoryQuery.Json.Reader
import DirectoryQuery.Predicate.Basic
import DirectoryQuery.Report
import DirectoryQuery.Value.WholeNumber

namespace DirectoryQuery

open Text

/-!
A comparison is written as a record of its operator, its property and its value, a composite or a
negation as a record of a word and the list of its operands.  In the place of a value, a record with
a `param` field is a placeholder.
-/

/-! ### Writing -/

/-- The word for a connective. -/
def Connective.word : Connective → String
  | .conjunction => "and"
  | .disjunction => "or"

/-- The word for a negation. -/
def negationWord : String := "not"

/-- Why a predicate has no data form. -/
inductive WritingFault where
  | meaninglessNode
  | unrecognizedOperator
deriving Repr, DecidableEq

/-- The wording of the complaint about a predicate without a data form. -/
def WritingFault.message : WritingFault → String
  | .meaninglessNode => ""
  | .unrecognizedOperator => "'str' object has no attribute 'value'"

/-- The data form of a placeholder. -/
def Parameter.toData (placeholder : Parameter) : Value :=
  .record [("param", .int placeholder.index), ("name", .text placeholder.name)]

/-- The data form of the value of a comparison. -/
def Value.toData (value : Value) : Value :=
  match value with
  | .parameter placeholder => placeholder.toData
  | value => value

namespace Predicate

/-- The data form of a combination of predicates whose data forms are given. -/
def combinationData (word : String) (conditions : List Value) : Value :=
  .record [("op", .text word), ("conditions", .list conditions)]

mutual

/-- The data form of a predicate. -/
def toData : Predicate → Except WritingFault Value
  | .comparison property operator value =>
    if operator.isRecognized then
      .ok (.record
        [("op", .text operator.symbol), ("attr", property.value), ("val", value.toData)])
    else
      .error .unrecognizedOperator
  | .negation operand => do
    return combinationData negationWord [← toData operand]
  | .composite kind first others => do
    let first ← toData first
    let others ← toDataAll others
    return combinationData kind.word (first :: others)
  | .bare => .error .meaninglessNode

/-- The data forms of predicates. -/
def toDataAll : List Predicate → Except WritingFault (List Value)
  | [] => .ok []
  | predicate :: rest => do
    let predicate ← toData predicate
    let rest ← toDataAll rest
    return predicate :: rest

end

end Predicate

/-! ### Reading -/

/-- What is wrong with a part of a data form. -/
inductive DataFault where
  | notARecord (kind : String)
  | noOperator
  | noConditions (word : String)
  | severalNegated
  | unknownOperator (symbol : String)
  | noProperty
  | badIndex (written : String)
  | notJson (error : Json.SyntaxError)
deriving Repr, DecidableEq

/-- Why no predicate could be read: a fault at the place that the positions in nested lists of
conditions lead to, an infinite placeholder index, a placeholder for whose name or complaint a number
of too many digits would have to be written, or a JSON number that is too large. -/
inductive DataError where
  | faulty (path : List Nat) (fault : DataFault)
  | infiniteIndex (problem : NumberProblem)
  | unwrittenNumber
  | oversizedInteger (error : Json.SyntaxError)
deriving Repr, DecidableEq

/-- The symbols of the recognized operators in the order of code points. -/
def operatorSymbols : List String :=
  (Operator.recognized.map Operator.symbol).mergeSort (fun a b => decide (a ≤ b))

/-- The wording of a fault. -/
def DataFault.message : DataFault → String
  | .notARecord kind => "expected a dict, got " ++ kind
  | .noOperator => "missing or empty 'op' key"
  | .noConditions word => "'" ++ word ++ "' requires a 'conditions' list"
  | .severalNegated => "'not' takes exactly one condition"
  | .unknownOperator symbol => "unknown operator '" ++ symbol ++ "'"
  | .noProperty => "leaf condition is missing 'attr'"
  | .badIndex written => "parameter index must be an integer, got " ++ written
  | .notJson error => "invalid JSON: " ++ error.message

/-- The text to blame. -/
def DataFault.fragment? : DataFault → Option String
  | .unknownOperator symbol => some symbol
  | _ => none

/-- The text of a path. -/
def pathText (path : List Nat) : String :=
  path.foldl (fun text position => text ++ ".conditions[" ++ toString position ++ "]") "<root>"

/-- What a caller is told about a fault at a place. -/
def DataFault.report (fault : DataFault) (path : List Nat) : Report :=
  .ofUnreadable fault.message (pathText path) fault.fragment? operatorSymbols

/-- What a caller is told of an error.  Only faults of the data are reported. -/
def DataError.report? : DataError → Option Report
  | .faulty path fault => some (fault.report path)
  | _ => none

namespace Predicate

theorem sizeOf_lookup_lt {fields : List (String × Value)} {key : String} {value : Value}
    (found : fields.lookup key = some value) : sizeOf value < sizeOf fields := by
  induction fields with
  | nil => simp at found
  | cons field rest ih =>
    obtain ⟨name, stored⟩ := field
    rw [List.lookup_cons] at found
    split at found
    · cases found; simp; omega
    · have := ih found; simp; omega

/-- A nonempty label under a key. -/
def labelField? (fields : List (String × Value)) (key : String) : Option Label :=
  ((fields.lookup key).bind Label.ofValue?).filter (·.text ≠ "")

/-- The placeholder that a record with the given index describes.  It goes by the reading of the
property if the record names none. -/
def readPlaceholder (path : List Nat) (property : Label) (fields : List (String × Value))
    (index : Value) : Except DataError Parameter :=
  match index.wholeNumber with
  | .ok rank =>
    if (fields.lookup "name").any Value.isUnreadable then .error .unwrittenNumber
    else .ok ⟨rank, ((fields.lookup "name").map Value.reading).getD property.reading⟩
  | .error problem =>
    if problem.isInfinite then .error (.infiniteIndex problem)
    else if index.isUnwritable then .error .unwrittenNumber
    else .error (.faulty path (.badIndex index.literal))

/-- The value of a comparison: a record with a `param` field is a placeholder. -/
def readValue (path : List Nat) (property : Label) (value : Value) :
    Except DataError Value :=
  match value with
  | .record fields =>
    match fields.lookup "param" with
    | none => .ok value
    | some index => (readPlaceholder path property fields index).map .parameter
  | value => .ok value

/-- The comparison that a record with the given operator symbol stands for. -/
def readComparison (path : List Nat) (fields : List (String × Value)) (symbol : String) :
    Except DataError Predicate :=
  match Operator.ofSymbol? symbol with
  | none => .error (.faulty path (.unknownOperator symbol))
  | some operator =>
    match labelField? fields "attr" with
    | none => .error (.faulty path .noProperty)
    | some property => do
      let value ← readValue path property ((fields.lookup "val").getD .null)
      return .comparison property operator value

/-- The connective that a word stands for. -/
def connective? (word : String) : Option Connective :=
  if word = Connective.conjunction.word then some .conjunction
  else if word = Connective.disjunction.word then some .disjunction
  else none

/-- The predicate made of operands that were read, given the word that combines them. -/
def assembleOperands (path : List Nat) (word : String) (first : Predicate)
    (others : List Predicate) : Except DataError Predicate :=
  match connective? word with
  | some kind => .ok (.composite kind first others)
  | none => if others = [] then .ok (.negation first) else .error (.faulty path .severalNegated)

/-- Whether a word combines conditions. -/
def isCombiningWord (word : String) : Bool :=
  word == negationWord || (connective? word).isSome

mutual

/-- The predicate that a part of a data form stands for; `path` leads to the part. -/
def ofDataAt (path : List Nat) (value : Value) : Except DataError Predicate :=
  match value with
  | .record fields =>
    match labelField? fields "op" with
    | none => .error (.faulty path .noOperator)
    | some operator =>
      let word := lowercase operator.text
      if isCombiningWord word then
        match _found : fields.lookup "conditions" with
        | some (.list (condition :: conditions)) =>
          match ofDataAt (path ++ [0]) condition with
          | .error error => .error error
          | .ok first =>
            match ofDataFrom path 1 conditions with
            | .error error => .error error
            | .ok others => assembleOperands path word first others
        | _ => .error (.faulty path (.noConditions word))
      else
        readComparison path fields word
  | value => .error (.faulty path (.notARecord value.kindName))
termination_by sizeOf value
decreasing_by
  all_goals
    have := sizeOf_lookup_lt _found
    simp only [Value.list.sizeOf_spec, List.cons.sizeOf_spec, Value.record.sizeOf_spec] at *
    omega

/-- The predicates that conditions stand for, from a position in their list on. -/
def ofDataFrom (path : List Nat) (position : Nat) (values : List Value) :
    Except DataError (List Predicate) :=
  match values with
  | [] => .ok []
  | value :: rest =>
    match ofDataAt (path ++ [position]) value with
    | .error error => .error error
    | .ok predicate =>
      match ofDataFrom path (position + 1) rest with
      | .error error => .error error
      | .ok others => .ok (predicate :: others)
termination_by sizeOf values

end

/-- The predicate that a data form stands for.  Data may be nested to any depth here: that a stack may
be too small for it is left out, while the limit on the digits of whole numbers is not. -/
def ofData (value : Value) : Except DataError Predicate := ofDataAt [] value

/-- The predicate that a JSON text stands for.  As for `ofData`, only the digits of whole numbers have
a limit, and the depth of the document has none. -/
def ofJsonText (text : String) : Except DataError Predicate :=
  match Json.parse text with
  | .ok document => ofData (Value.ofJson document)
  | .error error =>
    if error.problem.isOversized then .error (.oversizedInteger error)
    else .error (.faulty [] (.notJson error))

end Predicate

end DirectoryQuery
