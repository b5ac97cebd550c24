/-
Module: DirectoryQuery.Proofs.Filter.Assertion
Purpose: What a text stands for in a filter, as a whole value and as a part of one.
Main exports:
  escaped_ne_nil, escaped_eq_self, Value.Spells, Value.Spells.assertion_eq,
  Value.Spells.substringAssertion_eq
-/
import DirectoryQuery.Filter.Assertion

namespace DirectoryQuery

theorem escaped_ne_nil {text : List Char} (nonempty : text ≠ []) : escaped text ≠ [] := by
  cases text with
  | nil => exact absurd rfl nonempty
  | cons c rest =>
      rw [escaped, List.flatMap_cons]
      refine List.append_ne_nil_of_left_ne_nil ?_ _
      split <;> simp [escapedOctet]

theorem escaped_eq_self {text : List Char} (ordinary : ∀ c ∈ text, isFilterSpecial c = false) :
    escaped text = text := by
  induction text with
  | nil => rfl
  | cons c text ih =>
      obtain ⟨here, behind⟩ := List.forall_mem_cons.1 ordinary
      rw [escaped, List.flatMap_cons, here]
      exact congrArg (c :: ·) (ih behind)

theorem isFilterSpecial_of_isDigit {c : Char} (digit : c.isDigit = true) :
    isFilterSpecial c = false := by
  cases special : isFilterSpecial c with
  | false => rfl
  | true =>
      simp only [isFilterSpecial, Bool.or_eq_true, beq_iff_eq] at special
      rcases special with (((rfl | rfl) | rfl) | rfl) | rfl <;> cases digit

/-- A value spells a text in filters: it is the text, or it is a member of an enumeration, whatever
the member is besides, and its value spells the text. -/
inductive Value.Spells : Value → String → Prop where
  | text (text : String) : Spells (.text text) text
  | member (appearance : Appearance) (kind : MemberKind) {value : Value} {text : String}
      (inner : Spells value text) : Spells (.member appearance kind value) text

namespace Value.Spells

variable {value : Value} {text : String}

/-- What spells a text stands for it in a filter. -/
theorem assertion_eq (spells : value.Spells text) :
    value.assertion = .ok (.text text.toList) := by
  induction spells with
  | text text => rfl
  | member appearance kind inner ih => rw [assertion, ih]

theorem hasNoSubstrings_eq_false (spells : value.Spells text) : value.hasNoSubstrings = false := by
  cases spells <;> rfl

theorem parameter?_eq_none (spells : value.Spells text) : value.parameter? = none := by
  cases spells <;> rfl

theorem substringAssertion_eq (spells : value.Spells text) (nonempty : text ≠ "") :
    value.substringAssertion = .ok (.text text.toList) := by
  unfold substringAssertion
  rw [spells.hasNoSubstrings_eq_false, spells.assertion_eq]
  have written : (Assertion.text text.toList).written ≠ [] :=
    escaped_ne_nil fun empty => nonempty (String.toList_eq_nil_iff.1 empty)
  simp [written]

end Value.Spells

end DirectoryQuery
