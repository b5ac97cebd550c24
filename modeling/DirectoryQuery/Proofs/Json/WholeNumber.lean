/-
Module: DirectoryQuery.Proofs.Json.WholeNumber
Purpose: The whole numbers of a JSON document.  One with more digits than are ever written ends the
  reading, so that every document that was read can be written.
Main exports:
  Json.IsWritable, Json.isWritable_of_parse, Json.IsWritable.isUnwritable_ofJson, Value.Documented
-/
import DirectoryQuery.Json.Reader
import DirectoryQuery.Value.Text
import Mathlib.Algebra.Group.Nat.Defs

namespace DirectoryQuery.Json

open Numeric Text

/-- A document whose whole numbers have no more digits than are written. -/
inductive IsWritable : Json → Prop where
  | null : IsWritable .null
  | bool (value : Bool) : IsWritable (.bool value)
  | int {value : Int} (short : digitCount value.natAbs ≤ wholeNumberDigitLimit) :
      IsWritable (.int value)
  | float (value : Binary64) : IsWritable (.float value)
  | text (value : String) : IsWritable (.text value)
  | list {items : List Json} (each : ∀ item ∈ items, IsWritable item) : IsWritable (.list items)
  | object {members : List (String × Json)} (each : ∀ member ∈ members, IsWritable member.2) :
      IsWritable (.object members)

/-! ### Numbers -/

theorem asciiDigit?_lt {c : Char} {digit : Nat} (found : asciiDigit? c = some digit) :
    digit < 10 := by
  unfold asciiDigit? at found
  split at found
  · next decimal =>
      cases found
      simp only [Char.isDigit, Bool.and_eq_true, decide_eq_true_eq] at decimal
      have upper : c.toNat ≤ '9'.toNat := decimal.2
      have nine : '9'.toNat = '0'.toNat + 9 := rfl
      omega
  · cases found

theorem foldl_decimal_lt {digits : List Nat} (small : ∀ digit ∈ digits, digit < 10) :
    ∀ {start size : Nat}, start < 10 ^ size →
      digits.foldl (fun value digit => 10 * value + digit) start < 10 ^ (size + digits.length) := by
  induction digits with
  | nil =>
      intro start size below
      exact below
  | cons digit rest ih =>
      intro start size below
      obtain ⟨here, later⟩ := List.forall_mem_cons.1 small
      rw [List.foldl_cons, List.length_cons, Nat.add_comm rest.length, ← Nat.add_assoc]
      apply ih later
      rw [Nat.pow_succ]
      omega

/-- A number has no more digits than it is written with. -/
theorem digitCount_naturalOf_le {digits : List Char} {limit : Nat} (positive : 0 < limit)
    (short : digits.length ≤ limit) : digitCount (naturalOf digits) ≤ limit := by
  rw [digitCount, digitsOf, Nat.length_toDigits_le_iff (by decide) positive, naturalOf, decimalValue]
  have small : ∀ digit ∈ digits.filterMap asciiDigit?, digit < 10 := by
    intro digit listed
    obtain ⟨c, -, found⟩ := List.mem_filterMap.1 listed
    exact asciiDigit?_lt found
  calc (digits.filterMap asciiDigit?).foldl (fun value digit => 10 * value + digit) 0
    _ < 10 ^ (0 + (digits.filterMap asciiDigit?).length) := foldl_decimal_lt small (by decide)
    _ ≤ 10 ^ limit := by
      apply Nat.pow_le_pow_right (by decide)
      have fewer := List.length_filterMap_le asciiDigit? digits
      omega

variable {source : List Char}

theorem isWritable_of_readNumber {reading : Reading Json source}
    (read : readNumber source = .ok reading) : reading.value.IsWritable := by
  unfold readNumber at read
  dsimp only at read
  split at read
  · cases read
  · split at read
    · cases read
      exact .float _
    · split at read
      · cases read
      · next short =>
          cases read
          apply IsWritable.int
          have size := digitCount_naturalOf_le (by decide) (Nat.le_of_not_lt short)
          split
          · rwa [Int.natAbs_neg]
          · exact size

theorem isWritable_of_readScalar {reading : Reading Json source}
    (read : readScalar source = .ok reading) : reading.value.IsWritable := by
  unfold readScalar at read
  split at read
  · next word value found =>
      split at read
      · cases read
        have listed := List.mem_of_find?_eq_some found
        simp only [constants, List.mem_cons, List.not_mem_nil, or_false, Prod.mk.injEq] at listed
        rcases listed with ⟨-, rfl⟩ | ⟨-, rfl⟩ | ⟨-, rfl⟩ | ⟨-, rfl⟩ | ⟨-, rfl⟩ | ⟨-, rfl⟩
        · exact .null
        · exact .bool true
        · exact .bool false
        · exact .float _
        · exact .float _
        · exact .float _
      · cases read
  · exact isWritable_of_readNumber read

/-! ### Documents -/

theorem mem_enter {members : List (String × Json)} {key : String} {value : Json}
    {member : String × Json} (found : member ∈ enter members key value) :
    member ∈ members ∨ member.2 = value := by
  induction members with
  | nil =>
      rw [enter, List.mem_singleton] at found
      exact .inr (by rw [found])
  | cons first rest ih =>
      obtain ⟨known, old⟩ := first
      rw [enter] at found
      split at found
      · rcases List.mem_cons.1 found with rfl | later
        · exact .inr rfl
        · exact .inl (List.mem_cons_of_mem _ later)
      · rcases List.mem_cons.1 found with rfl | later
        · exact .inl List.mem_cons_self
        · exact (ih later).imp_left (List.mem_cons_of_mem _)

mutual

theorem isWritable_of_readValue {source : List Char} {reading : Reading Json source}
    (read : readValue source = .ok reading) : reading.value.IsWritable := by
  rw [readValue.eq_def] at read
  split at read
  · cases read
  · next c rest =>
      split at read
      · split at read
        · cases read
        · cases read
          exact .text _
      · split at read
        · split at read
          · cases read
            exact .list (by simp)
          · next items inside =>
              split at read
              · cases read
              · next value left less found =>
                  cases read
                  exact (isWritable_of_readItems (List.forall_mem_nil _) found :)
        · split at read
          · split at read
            · cases read
              exact .object (by simp)
            · next members inside =>
                split at read
                · cases read
                · next value left less found =>
                    cases read
                    exact (isWritable_of_readMembers (List.forall_mem_nil _) found :)
          · exact isWritable_of_readScalar read
termination_by 2 * source.length
decreasing_by all_goals grind [skipGap_length_le]

theorem isWritable_of_readItems {items : List Json} {source : List Char}
    {reading : Reading Json source} (before : ∀ item ∈ items, item.IsWritable)
    (read : readItems items source = .ok reading) : reading.value.IsWritable := by
  rw [readItems.eq_def] at read
  split at read
  · cases read
  · next item after less one =>
      have entered : ∀ other ∈ item :: items, other.IsWritable :=
        List.forall_mem_cons.2 ⟨isWritable_of_readValue one, before⟩
      split at read
      · cases read
        apply IsWritable.list
        intro other listed
        exact entered other (List.mem_reverse.1 listed)
      · next left next =>
          split at read
          · cases read
          · next value final fewer more =>
              cases read
              exact (isWritable_of_readItems entered more :)
      · cases read
termination_by 2 * source.length + 1
decreasing_by all_goals grind [skipGap_length_le]

theorem isWritable_of_readMembers {members : List (String × Json)} {source : List Char}
    {reading : Reading Json source} (before : ∀ member ∈ members, member.2.IsWritable)
    (read : readMembers members source = .ok reading) : reading.value.IsWritable := by
  rw [readMembers.eq_def] at read
  split at read
  · cases read
  · next c rest =>
      split at read
      · split at read
        · cases read
        · next key after less named =>
            split at read
            · next following separator =>
                split at read
                · cases read
                · next value behind fewer one =>
                    have entered : ∀ member ∈ enter members key value, member.2.IsWritable := by
                      intro member listed
                      rcases mem_enter listed with old | new
                      · exact before member old
                      · rw [new]
                        exact isWritable_of_readValue one
                    split at read
                    · cases read
                      exact .object entered
                    · next left next =>
                        split at read
                        · cases read
                        · next whole final least more =>
                            cases read
                            exact (isWritable_of_readMembers entered more :)
                    · cases read
            · cases read
      · cases read
termination_by 2 * source.length + 1
decreasing_by all_goals grind [skipGap_length_le]

end

/-- No document that was read holds a whole number with too many digits. -/
theorem isWritable_of_parse {text : String} {document : Json}
    (read : parse text = .ok document) : document.IsWritable := by
  have inside : readDocument text.toList = .ok document := by
    unfold parse at read
    split at read
    · next found =>
        cases read
        exact found
    · cases read
  unfold readDocument at inside
  split at inside
  · cases inside
  · split at inside
    · cases inside
    · next value after less found =>
        split at inside
        · cases inside
          exact isWritable_of_readValue found
        · cases inside

/-! ### The values of documents -/

theorem isAnyUnwritable_ofJsonItems {items : List Json}
    (each : ∀ item ∈ items, (Value.ofJson item).isUnwritable = false) :
    Value.isAnyUnwritable (Value.ofJsonItems items) = false := by
  induction items with
  | nil => rfl
  | cons item rest ih =>
      obtain ⟨one, more⟩ := List.forall_mem_cons.1 each
      rw [Value.ofJsonItems, Value.isAnyUnwritable, one, ih more]
      rfl

theorem isAnyFieldUnwritable_ofJsonMembers {members : List (String × Json)}
    (each : ∀ member ∈ members, (Value.ofJson member.2).isUnwritable = false) :
    Value.isAnyFieldUnwritable (Value.ofJsonMembers members) = false := by
  induction members with
  | nil => rfl
  | cons member rest ih =>
      obtain ⟨one, more⟩ := List.forall_mem_cons.1 each
      rw [Value.ofJsonMembers, Value.isAnyFieldUnwritable, one, ih more]
      rfl

theorem IsWritable.isUnwritable_ofJson {document : Json} (writable : document.IsWritable) :
    (Value.ofJson document).isUnwritable = false := by
  induction writable with
  | int short =>
      rw [Value.ofJson, Value.isUnwritable, Value.isOversized]
      simpa using short
  | list each ih => exact isAnyUnwritable_ofJsonItems ih
  | object each ih => exact isAnyFieldUnwritable_ofJsonMembers ih
  | _ => rfl

end DirectoryQuery.Json

/-! ### Documented values -/

namespace DirectoryQuery.Value

/-- The value of a document that can be written. -/
def Documented (value : Value) : Prop :=
  ∃ document : Json, document.IsWritable ∧ ofJson document = value

theorem mem_ofJsonItems_iff {items : List Json} {value : Value} :
    value ∈ ofJsonItems items ↔ ∃ item ∈ items, ofJson item = value := by
  induction items with
  | nil => simp [ofJsonItems]
  | cons item rest ih => simp [ofJsonItems, ih, eq_comm]

theorem exists_of_lookup_ofJsonMembers {members : List (String × Json)} {key : String}
    {value : Value} (found : (ofJsonMembers members).lookup key = some value) :
    ∃ member ∈ members, ofJson member.2 = value := by
  induction members with
  | nil => cases found
  | cons member rest ih =>
      obtain ⟨name, document⟩ := member
      rw [ofJsonMembers, List.lookup_cons] at found
      split at found
      · cases found
        exact ⟨(name, document), List.mem_cons_self, rfl⟩
      · obtain ⟨member, listed, same⟩ := ih found
        exact ⟨member, List.mem_cons_of_mem _ listed, same⟩

namespace Documented

variable {value : Value}

theorem mem {items : List Value} (whole : (list items).Documented) (listed : value ∈ items) :
    value.Documented := by
  obtain ⟨document, writable, same⟩ := whole
  cases writable with
  | list each =>
      cases same
      obtain ⟨item, within, same⟩ := mem_ofJsonItems_iff.1 listed
      exact ⟨item, each item within, same⟩
  | _ => cases same

theorem lookup {fields : List (String × Value)} {key : String}
    (whole : (record fields).Documented) (found : fields.lookup key = some value) :
    value.Documented := by
  obtain ⟨document, writable, same⟩ := whole
  cases writable with
  | object each =>
      cases same
      obtain ⟨member, within, same⟩ := exists_of_lookup_ofJsonMembers found
      exact ⟨member.2, each member within, same⟩
  | _ => cases same

theorem isUnwritable_eq_false (documented : value.Documented) : value.isUnwritable = false := by
  obtain ⟨document, writable, rfl⟩ := documented
  exact writable.isUnwritable_ofJson

/-- A document holds no members of enumerations, which may read otherwise than they are written. -/
theorem isUnreadable_eq_false (documented : value.Documented) : value.isUnreadable = false := by
  have writable := documented.isUnwritable_eq_false
  obtain ⟨document, -, rfl⟩ := documented
  cases document <;> exact writable

end Documented

end DirectoryQuery.Value
