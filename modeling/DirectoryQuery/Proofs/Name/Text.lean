/-
Module: DirectoryQuery.Proofs.Name.Text
Purpose: The text of a name shows its relative names.  What plus signs join and what leads one level
  below another name are relative names that a reader cannot cut, so that splitting the text of a name
  of such relative names at its commas gives them back.
Main exports:
  DistinguishedName.IsWhole, DistinguishedName.IsRdnOf, isWhole_of_mem_groupRdns, isRdnOf_rdn,
  partsAt_text, eq_of_text_eq
-/
import DirectoryQuery.Name.Parser
import DirectoryQuery.Proofs.Name.Escaping

namespace DirectoryQuery.DistinguishedName

/-! ### Values that were read -/

/-- The backslash that a scan has passed without the character behind it. -/
def ValueScan.pending : ValueScan → List Char
  | .escapeStart => ['\\']
  | _ => []

theorem needsEscape_eq_false_of_isHexDigit {c : Char} (digit : isHexDigit c = true) :
    needsEscape c = false := by
  by_contra special
  simp only [needsEscape, Bool.not_eq_false, Bool.or_eq_true, beq_iff_eq] at special
  rcases special with (((((((rfl | rfl) | rfl) | rfl) | rfl) | rfl) | rfl) | rfl) | rfl <;>
    exact absurd digit (by decide)

variable {marks : List Char}

/-- A value without a fault hides the characters that need a backslash. -/
theorem sealed_of_valueProblemFrom? (special : ∀ c ∈ marks, needsEscape c = true)
    {text : List Char} : ∀ {scan : ValueScan}, valueProblemFrom? scan text = none →
      Sealed marks (scan.pending ++ text) := by
  induction text with
  | nil =>
      intro scan sound
      cases scan with
      | anything => exact .nil
      | escapeStart => cases sound
      | secondHexDigit => cases sound
  | cons c rest ih =>
      intro scan sound
      cases scan with
      | anything =>
          rw [valueProblemFrom?] at sound
          split at sound
          · next backslash =>
              subst backslash
              exact ih sound
          · next ordinary =>
              split at sound
              · cases sound
              · next harmless =>
                  apply Sealed.plain ordinary
                  · intro marked
                    exact harmless (special c marked)
                  · exact ih sound
      | escapeStart =>
          rw [valueProblemFrom?] at sound
          split at sound
          · exact .escaped (ih sound)
          · split at sound
            · exact .escaped (ih sound)
            · cases sound
      | secondHexDigit =>
          rw [valueProblemFrom?] at sound
          split at sound
          · next digit =>
              have harmless := needsEscape_eq_false_of_isHexDigit digit
              apply Sealed.plain
              · rintro rfl
                exact absurd digit (by decide)
              · intro marked
                simp [special c marked] at harmless
              · exact ih sound
          · cases sound

theorem sealed_of_valueProblem? (special : ∀ c ∈ marks, needsEscape c = true)
    {piece value : List Char} (sound : valueProblem? piece value = none) :
    Sealed marks value := by
  unfold valueProblem? at sound
  split at sound
  · cases sound
  · split at sound
    · cases sound
    · have closed := sealed_of_valueProblemFrom? special sound
      exact closed

/-! ### Attributes that were read -/

/-- An attribute without a fault holds no backslash, no separator and no equals sign. -/
theorem plain_of_attributeProblem? {attributeType : List Char}
    (sound : attributeProblem? attributeType = none) :
    ∀ c ∈ attributeType, c ≠ '\\' ∧ c ∉ [',', '+', '='] := by
  unfold attributeProblem? at sound
  split at sound
  · cases sound
  · split at sound
    · next form =>
        subst form
        simp
    · split at sound
      · cases sound
      · next none =>
          intro c found
          have typed : isTypeChar c = true := by
            simpa using List.find?_eq_none.1 none c found
          constructor
          · rintro rfl
            exact absurd typed (by decide)
          · intro separator
            simp only [List.mem_cons, List.not_mem_nil, or_false] at separator
            rcases separator with rfl | rfl | rfl <;> exact absurd typed (by decide)

/-! ### Relative names that were read -/

/-- A relative name that a reader of the text around it cannot cut. -/
structure IsWhole (rdn : String) : Prop where
  nonempty : rdn.toList ≠ []
  closed : Sealed [','] rdn.toList

theorem isWhole_ofList {text : List Char} (nonempty : text ≠ []) (closed : Sealed [','] text) :
    IsWhole (String.ofList text) := by
  constructor
  · simpa using nonempty
  · simpa using closed

theorem groupRdns_cons (open? : Option (List Char)) (assertion : Assertion)
    (rest : List Assertion) :
    groupRdns open? (assertion :: rest) =
      let text := open?.elim assertion.text fun before => before ++ '+' :: assertion.text
      if assertion.joint = .plus then groupRdns (some text) rest
      else String.ofList text :: groupRdns none rest := by
  cases open? <;> rfl

/-- Joining sealed assertions with plus signs gives whole relative names. -/
theorem isWhole_of_mem_groupRdns {assertions : List Assertion}
    (each : ∀ assertion ∈ assertions, Sealed [','] assertion.text) :
    ∀ {open? : Option (List Char)},
      (∀ text, open? = some text → text ≠ [] ∧ Sealed [','] text) →
      ∀ rdn ∈ groupRdns open? assertions, IsWhole rdn := by
  induction assertions with
  | nil =>
      intro open? unfinished rdn found
      cases open? with
      | none => cases found
      | some text =>
          rw [groupRdns, List.mem_singleton] at found
          subst found
          exact isWhole_ofList (unfinished text rfl).1 (unfinished text rfl).2
  | cons assertion rest ih =>
      intro open? unfinished rdn found
      obtain ⟨head, tail⟩ := List.forall_mem_cons.1 each
      rw [groupRdns_cons] at found
      dsimp only at found
      generalize joined :
        (open?.elim assertion.text fun before => before ++ '+' :: assertion.text) = text at found
      have whole : text ≠ [] ∧ Sealed [','] text := by
        subst joined
        cases open? with
        | none => exact ⟨assertion.text_ne_nil, head⟩
        | some before =>
            refine ⟨by simp, ?_⟩
            apply (unfinished before rfl).2.append
            exact .plain (by decide) (by decide) head
      split at found
      · apply ih tail ?_ rdn found
        intro other same
        cases same
        exact whole
      · rcases List.mem_cons.1 found with rfl | later
        · exact isWhole_ofList whole.1 whole.2
        · exact ih tail (by simp) rdn later

/-! ### Relative names that were made -/

/-- A relative name that gives an attribute a value and nothing else: it begins with the attribute
and an equals sign, and no other equals sign and no plus sign stands in it without a backslash. -/
structure IsRdnOf (attributeType rdn : String) : Prop where
  front : (attributeType ++ "=").toList <+: rdn.toList
  equals : (bareChars rdn.toList).count '=' = 1
  plus : '+' ∉ bareChars rdn.toList

section Made

variable {attributeType : String}
  (plain : ∀ c ∈ attributeType.toList, c ≠ '\\' ∧ c ∉ [',', '+', '='])

theorem toList_rdn (attributeType value : String) :
    (rdn attributeType value).toList =
      attributeType.toList ++ '=' :: escapeValue value.toList := by
  simp [rdn]

include plain

theorem isWhole_rdn (value : String) : IsWhole (rdn attributeType value) := by
  constructor
  · simp [toList_rdn]
  · rw [toList_rdn]
    apply ((Sealed.of_forall plain).mono (by decide)).append
    exact .plain (by decide) (by decide) (sealed_escapeValue (by simp [isReserved]) _)

theorem isRdnOf_rdn (value : String) : IsRdnOf attributeType (rdn attributeType value) := by
  have front : Sealed [',', '+', '='] attributeType.toList := .of_forall plain
  have back : Sealed [',', '+', '='] (escapeValue value.toList) :=
    sealed_escapeValue (by simp [isReserved]) _
  have bare : bareChars (rdn attributeType value).toList =
      bareChars attributeType.toList ++ '=' :: bareChars (escapeValue value.toList) := by
    rw [toList_rdn, front.bareChars_append, bareChars_ordinary (by decide)]
  have equals {text : List Char} (closed : Sealed [',', '+', '='] text) :
      (bareChars text).count '=' = 0 :=
    List.count_eq_zero.2 (closed.notMem_bareChars (by decide))
  constructor
  · simp [toList_rdn]
  · rw [bare, List.count_append, List.count_cons_self, equals front, equals back]
  · rw [bare, List.mem_append, List.mem_cons]
    rintro (found | found | found)
    · exact front.notMem_bareChars (by decide) found
    · exact absurd found (by decide)
    · exact back.notMem_bareChars (by decide) found

omit plain in
/-- A relative name of an attribute shows the value. -/
theorem eq_of_rdn_eq {value other : String}
    (same : rdn attributeType value = rdn attributeType other) : value = other := by
  have texts := congrArg String.toList same
  rw [toList_rdn, toList_rdn, List.append_cancel_left_eq, List.cons.injEq] at texts
  exact String.toList_inj.1 (escapeValue_injective texts.2)

end Made

/-! ### Texts of names -/

variable {name other : DistinguishedName}

/-- Cutting the text of a name at its commas gives the relative names. -/
theorem partsAt_text (some : name.rdns ≠ []) (each : ∀ rdn ∈ name.rdns, IsWhole rdn) :
    partsAt ',' name.text.toList = name.rdns.map String.toList := by
  rw [text, String.toList_intercalate]
  apply partsAt_intercalate (by decide)
  · simpa using some
  · intro part found
    obtain ⟨rdn, listed, rfl⟩ := List.mem_map.1 found
    exact (each rdn listed).closed

/-- Only the name of the root has an empty text. -/
theorem rdns_eq_nil_of_text_eq (each : ∀ rdn ∈ name.rdns, IsWhole rdn) (empty : name.text = "") :
    name.rdns = [] := by
  by_contra some
  have parts := partsAt_text some each
  rw [empty] at parts
  cases rdns : name.rdns with
  | nil => exact some rdns
  | cons rdn rest =>
      rw [rdns, List.map_cons] at parts
      have nonempty := (each rdn (rdns ▸ List.mem_cons_self)).nonempty
      injection parts with head
      exact nonempty head.symm

/-- The text of a name determines the name. -/
theorem eq_of_text_eq (each : ∀ rdn ∈ name.rdns, IsWhole rdn)
    (each' : ∀ rdn ∈ other.rdns, IsWhole rdn) (same : name.text = other.text) : name = other := by
  suffices rdns : name.rdns = other.rdns by
    cases name
    cases other
    simpa using rdns
  by_cases none : name.rdns = []
  · have empty : other.text = "" := by
      rw [← same, text, none]
      rfl
    rw [none, rdns_eq_nil_of_text_eq each' empty]
  · have some : other.rdns ≠ [] := by
      intro nil
      apply none
      apply rdns_eq_nil_of_text_eq each
      rw [same, text, nil]
      rfl
    have texts := partsAt_text none each
    rw [same, partsAt_text some each'] at texts
    exact (List.map_injective_iff.2 (fun _ _ => String.toList_inj.1) texts).symm

end DirectoryQuery.DistinguishedName
