/-
Module: DirectoryQuery.Proofs.Predicate.Unreported
Purpose: What becomes of data, and of texts that hold data.  A predicate is read or a report tells what
  is wrong, with two exceptions.  Reading stops in silence at a placeholder whose index is infinite, or
  for which a number with too many digits would have to be written.  And a text may hold a whole
  number with too many digits to be read.  The depth of data has no limit here, see `ofData`.
Main exports:
  Value.IsInfinite, Predicate.IsUnanswerable, Predicate.StopsReading,
  Predicate.ofData_unreported_iff, Predicate.ofJsonText_unreported_iff, Predicate.reading_answered_iff
-/
import DirectoryQuery.Proofs.Json.WholeNumber
import DirectoryQuery.Proofs.Predicate.Location
import Mathlib.Algebra.Group.Int.Defs

namespace DirectoryQuery

open Numeric Text

/-! ### Infinite numbers -/

/-- An infinite number. -/
inductive Value.IsInfinite : Value → Prop where
  | float (negative : Bool) : IsInfinite (.float (.infinite negative))
  | decimal (negative : Bool) : IsInfinite (.decimal (.infinite negative))

theorem readNumber_not_infinite {base : Nat} {text : List Char} {written : String}
    {problem : NumberProblem} (failed : readNumber base text written = .error problem) :
    problem.isInfinite = false := by
  obtain ⟨fault, -, rfl⟩ := mapError_eq_error_iff.1 failed
  cases fault <;> rfl

theorem Value.wholeNumberIn_not_infinite {base : Nat} {value : Value} {problem : NumberProblem}
    (failed : value.wholeNumberIn base = .error problem) : problem.isInfinite = false := by
  unfold wholeNumberIn at failed
  split at failed
  · exact readNumber_not_infinite failed
  · exact readNumber_not_infinite failed
  · split at failed
    · exact readNumber_not_infinite failed
    · cases failed
      rfl

theorem Value.exists_infinite_iff_of_finite {value : Value} (ordinary : ¬value.IsInfinite)
    (finite : ∀ problem, value.wholeNumber = .error problem → problem.isInfinite = false) :
    (∃ problem, value.wholeNumber = .error problem ∧ problem.isInfinite = true) ↔
      value.IsInfinite := by
  refine iff_of_false ?_ ordinary
  rintro ⟨problem, failed, infinite⟩
  cases (finite problem failed).symm.trans infinite

/-- A value has no whole part for being infinite just if it is infinite. -/
theorem Value.exists_infinite_iff {value : Value} :
    (∃ problem, value.wholeNumber = .error problem ∧ problem.isInfinite = true) ↔
      value.IsInfinite := by
  cases value with
  | float number =>
      cases number with
      | infinite negative => exact iff_of_true ⟨.infiniteFloat, rfl, rfl⟩ (.float negative)
      | _ =>
          refine exists_infinite_iff_of_finite (by rintro ⟨⟩) fun problem failed => ?_
          cases failed <;> rfl
  | decimal number =>
      cases number with
      | infinite negative => exact iff_of_true ⟨.infiniteDecimal, rfl, rfl⟩ (.decimal negative)
      | _ =>
          refine exists_infinite_iff_of_finite (by rintro ⟨⟩) fun problem failed => ?_
          cases failed <;> rfl
  | text characters =>
      refine exists_infinite_iff_of_finite (by rintro ⟨⟩) fun problem failed => ?_
      rw [wholeNumber] at failed
      exact wholeNumberIn_not_infinite failed
  | bytes octets | byteArray octets =>
      refine exists_infinite_iff_of_finite (by rintro ⟨⟩) fun problem failed => ?_
      exact readNumber_not_infinite failed
  | member appearance kind content =>
      refine exists_infinite_iff_of_finite (by rintro ⟨⟩) fun problem failed => ?_
      cases kind with
      | text own =>
          rw [wholeNumber] at failed
          exact wholeNumberIn_not_infinite failed
      | _ => cases failed <;> rfl
  | _ =>
      refine exists_infinite_iff_of_finite (by rintro ⟨⟩) fun problem failed => ?_
      cases failed <;> rfl

namespace Predicate

variable {fields : List (String × Value)} {index value part : Value} {path : List Nat}
  {error : DataError}

/-! ### Placeholders -/

/-- A placeholder, given by its fields and its index, that is neither read nor reported: the index is
infinite, the name cannot be read, or the index is no number and cannot be written either. -/
inductive IsUnanswerable (fields : List (String × Value)) (index : Value) : Prop where
  | infinite (endless : index.IsInfinite)
  | name {rank : Int} {name : Value} (ranked : index.wholeNumber = .ok rank)
      (named : fields.lookup "name" = some name) (long : name.isUnreadable = true)
  | index {problem : NumberProblem} (unranked : index.wholeNumber = .error problem)
      (finite : ¬index.IsInfinite) (long : index.isUnwritable = true)

theorem readPlaceholder_unreported_iff {property : Label} :
    (∃ error, readPlaceholder path property fields index = .error error ∧ error.report? = none) ↔
      IsUnanswerable fields index := by
  unfold readPlaceholder
  constructor
  · rintro ⟨error, failed, silent⟩
    split at failed
    · next rank ranked =>
        split at failed
        · next long =>
            obtain ⟨name, named, long⟩ := (Option.any_eq_true _ _).1 long
            exact .name ranked named long
        · cases failed
    · next problem unranked =>
        split at failed
        · next endless => exact .infinite (Value.exists_infinite_iff.1 ⟨problem, unranked, endless⟩)
        · next finite =>
            split at failed
            · next long =>
                refine .index unranked ?_ long
                intro endless
                obtain ⟨problem', same, endless⟩ := Value.exists_infinite_iff.2 endless
                cases unranked.symm.trans same
                exact finite endless
            · cases failed
              cases silent
  · intro unanswerable
    cases unanswerable with
    | infinite endless =>
        obtain ⟨problem, unranked, endless⟩ := Value.exists_infinite_iff.2 endless
        exact ⟨.infiniteIndex problem, by simp [unranked, endless], rfl⟩
    | name ranked named long => exact ⟨.unwrittenNumber, by simp [ranked, named, long], rfl⟩
    | @index problem unranked finite long =>
        have finite : problem.isInfinite ≠ true := fun endless =>
          finite (Value.exists_infinite_iff.1 ⟨problem, unranked, endless⟩)
        exact ⟨.unwrittenNumber, by simp [unranked, finite, long], rfl⟩

/-- A comparison with a placeholder that has the given fields and index. -/
inductive HasPlaceholder : Value → List (String × Value) → Value → Prop where
  | comparison {fields placeholder : List (String × Value)} {operator : Label} {index : Value}
      (operated : labelField? fields "op" = some operator)
      (known : (Operator.ofSymbol? (lowercase operator.text)).isSome = true)
      (named : (labelField? fields "attr").isSome = true)
      (valued : fields.lookup "val" = some (.record placeholder))
      (indexed : placeholder.lookup "param" = some index) :
      HasPlaceholder (.record fields) placeholder index

theorem readValue_unreported_iff (path : List Nat) (property : Label) :
    (∃ error, readValue path property value = .error error ∧ error.report? = none) ↔
      ∃ placeholder index, value = .record placeholder ∧ placeholder.lookup "param" = some index ∧
        IsUnanswerable placeholder index := by
  cases value with
  | record placeholder =>
      rw [readValue]
      cases indexed : placeholder.lookup "param" with
      | none => simp [indexed]
      | some index =>
          simp only [map_eq_error_iff, readPlaceholder_unreported_iff]
          constructor
          · intro unanswerable
            exact ⟨placeholder, index, rfl, indexed, unanswerable⟩
          · rintro ⟨placeholder', index', ⟨⟩, indexed', unanswerable⟩
            cases indexed.symm.trans indexed'
            exact unanswerable
  | _ =>
      constructor
      · rintro ⟨error, ⟨⟩, -⟩
      · rintro ⟨placeholder, index, ⟨⟩, -⟩

theorem readComparison_unreported_iff (path : List Nat) {symbol : String} :
    (∃ error, readComparison path fields symbol = .error error ∧ error.report? = none) ↔
      (Operator.ofSymbol? symbol).isSome = true ∧ (labelField? fields "attr").isSome = true ∧
        ∃ placeholder index, fields.lookup "val" = some (.record placeholder) ∧
          placeholder.lookup "param" = some index ∧ IsUnanswerable placeholder index := by
  have valued (placeholder : List (String × Value)) :
      (fields.lookup "val").getD .null = .record placeholder ↔
        fields.lookup "val" = some (.record placeholder) := by
    cases fields.lookup "val" <;> simp
  unfold readComparison
  cases Operator.ofSymbol? symbol with
  | none =>
      constructor
      · rintro ⟨error, ⟨⟩, ⟨⟩⟩
      · rintro ⟨⟨⟩, -⟩
  | some operator =>
      cases labelField? fields "attr" with
      | none =>
          constructor
          · rintro ⟨error, ⟨⟩, ⟨⟩⟩
          · rintro ⟨-, ⟨⟩, -⟩
      | some property =>
          simp only [← valued]
          rw [← readValue_unreported_iff path property]
          cases readValue path property ((fields.lookup "val").getD .null) with
          | error problem =>
              constructor
              · rintro ⟨error, ⟨⟩, silent⟩
                exact ⟨rfl, rfl, problem, rfl, silent⟩
              · rintro ⟨-, -, error, ⟨⟩, silent⟩
                exact ⟨problem, rfl, silent⟩
          | ok value =>
              constructor
              · rintro ⟨error, ⟨⟩, -⟩
              · rintro ⟨-, -, error, ⟨⟩, -⟩

/-! ### Data -/

/-- A comparison that reading stops at without a report. -/
def StopsReading (part : Value) : Prop :=
  ∃ placeholder index, HasPlaceholder part placeholder index ∧ IsUnanswerable placeholder index

theorem fails_unreported_iff :
    (∃ error, Fails part error ∧ error.report? = none) ↔ StopsReading part := by
  constructor
  · rintro ⟨error, failing, silent⟩
    cases failing with
    | comparison operated comparing failed =>
        obtain ⟨known, named, placeholder, index, valued, indexed, unanswerable⟩ :=
          (readComparison_unreported_iff []).1 ⟨error, failed, silent⟩
        exact ⟨placeholder, index, .comparison operated known named valued indexed, unanswerable⟩
    | _ => cases silent
  · rintro ⟨placeholder, index, ⟨operated, known, named, valued, indexed⟩, unanswerable⟩
    obtain ⟨operator, found⟩ := Option.isSome_iff_exists.1 known
    obtain ⟨error, failed, silent⟩ := (readComparison_unreported_iff []).2
      ⟨known, named, placeholder, index, valued, indexed, unanswerable⟩
    refine ⟨error, .comparison operated ?_ failed, silent⟩
    rw [← Operator.symbol_of_ofSymbol? found]
    exact Operator.isCombiningWord_symbol (Operator.isRecognized_of_ofSymbol? found)

theorem report?_under (outer : List Nat) (error : DataError) :
    (error.under outer).report? = none ↔ error.report? = none := by
  cases error <;> simp [DataError.under, DataError.report?]

/-- Reading data, of whatever depth, fails without a report if and only if it reaches a comparison
that stops it. -/
theorem ofData_unreported_iff :
    (∃ error, ofData value = .error error ∧ error.report? = none) ↔
      ∃ path part, Reaches value path part ∧ StopsReading part := by
  simp only [← fails_unreported_iff]
  constructor
  · rintro ⟨error, failed, silent⟩
    obtain ⟨path, part, own, reached, failing, rfl⟩ := ofData_eq_error_iff.1 failed
    exact ⟨path, part, reached, own, failing, (report?_under path own).1 silent⟩
  · rintro ⟨path, part, reached, own, failing, silent⟩
    exact ⟨own.under path, ofData_eq_error_iff.2 ⟨path, part, own, reached, failing, rfl⟩,
      (report?_under path own).2 silent⟩

/-! ### Documents -/

/-- The parts of documented data are documented. -/
theorem Reaches.documented (reached : Reaches value path part) (documented : value.Documented) :
    part.Documented := by
  induction reached with
  | here value => exact documented
  | inside operated combining listed accepted within ih =>
      exact ih ((documented.lookup listed).mem (by simp))

/-- Only an infinite index stops the reading of documented data. -/
theorem stopsReading_iff_of_documented (documented : part.Documented) :
    StopsReading part ↔
      ∃ placeholder index, HasPlaceholder part placeholder index ∧ index.IsInfinite := by
  constructor
  · rintro ⟨placeholder, index, placed, unanswerable⟩
    refine ⟨placeholder, index, placed, ?_⟩
    obtain ⟨operated, known, named, valued, indexed⟩ := placed
    have inside := documented.lookup valued
    cases unanswerable with
    | infinite endless => exact endless
    | name ranked named long =>
        cases (inside.lookup named).isUnreadable_eq_false.symm.trans long
    | index unranked finite long =>
        cases (inside.lookup indexed).isUnwritable_eq_false.symm.trans long
  · rintro ⟨placeholder, index, placed, endless⟩
    exact ⟨placeholder, index, placed, .infinite endless⟩

/-- Reading a text fails without a report if and only if it writes a whole number with too many
digits before any other fault, or is a document in which reading reaches an infinite index.  A
document may be of any depth. -/
theorem ofJsonText_unreported_iff {text : String} :
    (∃ error, ofJsonText text = .error error ∧ error.report? = none) ↔
      (∃ error, Json.parse text = .error error ∧ error.problem.isOversized = true) ∨
        ∃ document path part placeholder index, Json.parse text = .ok document ∧
          Reaches (.ofJson document) path part ∧ HasPlaceholder part placeholder index ∧
          index.IsInfinite := by
  unfold ofJsonText
  cases parsed : Json.parse text with
  | error fault =>
      by_cases long : fault.problem.isOversized = true
      · simp [long, DataError.report?]
      · simp [long, DataError.report?]
  | ok document =>
      have documented : (Value.ofJson document).Documented :=
        ⟨document, Json.isWritable_of_parse parsed, rfl⟩
      have stops {path : List Nat} {part : Value} (reached : Reaches (.ofJson document) path part) :=
        stopsReading_iff_of_documented (reached.documented documented)
      dsimp only
      rw [ofData_unreported_iff]
      constructor
      · rintro ⟨path, part, reached, stopping⟩
        obtain ⟨placeholder, index, placed, endless⟩ := (stops reached).1 stopping
        exact .inr ⟨document, path, part, placeholder, index, rfl, reached, placed, endless⟩
      · rintro (⟨error, ⟨⟩, -⟩ | ⟨document, path, part, placeholder, index, ⟨⟩, reached, rest⟩)
        exact ⟨path, part, reached, (stops reached).2 ⟨placeholder, index, rest⟩⟩

/-! ### Answers -/

/-- A predicate, or a report of what cannot be read. -/
def IsAnswered (result : Except DataError Predicate) : Prop :=
  (∃ predicate, result = .ok predicate) ∨
    ∃ error message descriptor fragment suggestions, result = .error error ∧
      error.report? = some (.unreadable message descriptor fragment suggestions)

theorem isAnswered_iff {result : Except DataError Predicate} :
    IsAnswered result ↔ ¬∃ error, result = .error error ∧ error.report? = none := by
  cases result with
  | ok predicate => simp [IsAnswered]
  | error error =>
      cases error <;>
        simp [IsAnswered, DataError.report?, DataFault.report, Report.ofUnreadable]

/-- Data of whatever depth, and a text that holds data, are answered by a predicate or a report,
unless reading comes to a placeholder whose index is infinite or for which a number with too many
digits had to be written, or, in a text, to a whole number with too many digits. -/
theorem reading_answered_iff (value : Value) (text : String) :
    (IsAnswered (ofData value) ↔
      ∀ path part placeholder index, Reaches value path part →
        HasPlaceholder part placeholder index → ¬IsUnanswerable placeholder index) ∧
    (IsAnswered (ofJsonText text) ↔
      (∀ error, Json.parse text = .error error → error.problem.isOversized = false) ∧
      ∀ document path part placeholder index, Json.parse text = .ok document →
        Reaches (.ofJson document) path part → HasPlaceholder part placeholder index →
        ¬index.IsInfinite) := by
  constructor
  · rw [isAnswered_iff, ofData_unreported_iff]
    constructor
    · intro answered path part placeholder index reached placed unanswerable
      exact answered ⟨path, part, reached, placeholder, index, placed, unanswerable⟩
    · rintro answered ⟨path, part, reached, placeholder, index, placed, unanswerable⟩
      exact answered path part placeholder index reached placed unanswerable
  · rw [isAnswered_iff, ofJsonText_unreported_iff]
    simp only [not_or, not_exists, not_and, Bool.not_eq_true]

/-- A comparison of one property with the placeholder that has the given fields. -/
def placing (placeholder : List (String × Value)) : Value :=
  .record [("op", .text "="), ("attr", .text "sn"), ("val", .record placeholder)]

/-- An infinite index, as a value or in a text, and a name or an index with a number of too many digits
are not answered. -/
theorem reading_unanswered :
    ¬IsAnswered (ofData (placing [("param", .float (.infinite false))])) ∧
    ¬IsAnswered (ofJsonText
      "\x7b\"op\": \"=\", \"attr\": \"sn\", \"val\": \x7b\"param\": Infinity\x7d\x7d") ∧
    ¬IsAnswered (ofData (placing [("param", .int 0), ("name", .int (10 ^ 4300))])) ∧
    ¬IsAnswered (ofData (placing [("param", .list [.int (10 ^ 4300)])])) := by
  simp only [isAnswered_iff, not_not]
  refine ⟨⟨.infiniteIndex .infiniteFloat, ?_, rfl⟩, ⟨.infiniteIndex .infiniteFloat, ?_, rfl⟩,
    ⟨.unwrittenNumber, ?_, rfl⟩, .unwrittenNumber, ?_, rfl⟩
  · decide +kernel
  · decide +kernel
  · decide +kernel
  · decide +kernel

end Predicate

end DirectoryQuery
