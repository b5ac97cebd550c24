/-
Module: DirectoryQuery.Proofs.Name.Readable
Purpose: Which names one level below another are read back from their text.  Escaping protects all
  that divides a name, but it leaves number signs behind the first character as they are, which the
  reader refuses, and the reader removes white space from the end of a value whether or not a
  backslash stands before it.
Main exports:
  DistinguishedName.ReadsBack, isSound_escapeValue_iff, isSettled_cons_iff, isSettled_append_iff,
  child?_reads_back
-/
import DirectoryQuery.Proofs.Name.NormalForm

namespace DirectoryQuery.DistinguishedName

open Text

/-! ### Values -/

/-- A value whose form in a name is read back: it is not empty, it does not end in white space, it begins
with none but the space, and the number sign stands nowhere but in front. -/
structure ReadsBack (value : List Char) : Prop where
  nonempty : value ≠ []
  front : ∀ c ∈ value.head?, isBlank c = true → c = ' '
  back : ∀ c ∈ value.getLast?, isBlank c = false
  inside : '#' ∉ value.tail

theorem readsBack_iff {value : List Char} :
    ReadsBack value ↔
      value ≠ [] ∧ value.head?.all (fun c => !isBlank c || c == ' ') = true ∧
        value.getLast?.all (!isBlank ·) = true ∧ '#' ∉ value.tail := by
  simp only [Option.all_eq_true, Bool.or_eq_true, Bool.not_eq_true', beq_iff_eq]
  constructor
  · rintro ⟨nonempty, front, back, inside⟩
    refine ⟨nonempty, ?_, back, inside⟩
    intro c first
    cases blank : isBlank c with
    | false => exact .inl rfl
    | true => exact .inr (front c first blank)
  · rintro ⟨nonempty, front, back, inside⟩
    refine ⟨nonempty, ?_, back, inside⟩
    intro c first blank
    exact (front c first).resolve_left (by simp [blank])

instance (value : List Char) : Decidable (ReadsBack value) := decidable_of_iff' _ readsBack_iff

/-- Reserved characters must be escaped, and so must the number sign. -/
theorem needsEscape_eq (c : Char) :
    needsEscape c = (c == '#' || (isReserved c && c != '\\')) := by
  by_cases backslash : c = '\\'
  · subst backslash
    rfl
  · simp only [needsEscape, isReserved, bne_iff_ne.2 backslash, beq_eq_false_iff_ne.2 backslash]
    grind

theorem of_isReserved {test : Char → Bool} {c : Char}
    (each : ['\\', ',', '+', '\x22', '<', '>', ';', '=', '\x00'].all test = true)
    (reserved : isReserved c = true) : test c = true := by
  rw [List.all_eq_true] at each
  apply each c
  simpa [isReserved, or_assoc] using reserved

/-- A backslash before a reserved character, a number sign or a space is in order. -/
theorem valueProblemFrom?_escaped {c : Char} (guarded : isReserved c = true ∨ c = '#' ∨ c = ' ')
    (rest : List Char) :
    valueProblemFrom? .anything ('\\' :: c :: rest) = valueProblemFrom? .anything rest := by
  have digit : isHexDigit c = false := by
    rcases guarded with reserved | rfl | rfl
    · simpa using of_isReserved (show List.all _ (!isHexDigit ·) = true by decide) reserved
    · rfl
    · rfl
  have known : c = ' ' ∨ c = '\\' ∨ needsEscape c = true := by
    rw [needsEscape_eq]
    grind
  simp [valueProblemFrom?, digit, known]

theorem valueProblemFrom?_ordinary {c : Char} (ordinary : ¬isReserved c = true) (rest : List Char) :
    valueProblemFrom? .anything (c :: rest) =
      if c = '#' then some (.unescapedCharacter '#') else valueProblemFrom? .anything rest := by
  have other : c ≠ '\\' := by
    rintro rfl
    exact ordinary isReserved_backslash
  rw [valueProblemFrom?, if_neg other, needsEscape_eq]
  by_cases sign : c = '#'
  · simp [sign]
  · simp [sign, ordinary]

/-- Escaping leaves nothing for a reader to complain about but number signs. -/
theorem valueProblemFrom?_escapeReserved (value : List Char) :
    valueProblemFrom? .anything (escapeReserved value) = none ↔ '#' ∉ value := by
  induction value with
  | nil => simp [escapeReserved, valueProblemFrom?]
  | cons c rest ih =>
      rw [escapeReserved_cons, List.mem_cons, not_or]
      split
      · next reserved =>
          have other : '#' ≠ c := by
            rintro rfl
            exact absurd reserved (by decide)
          simp [valueProblemFrom?_escaped (.inl reserved), ih, other]
      · next ordinary =>
          rw [List.singleton_append, valueProblemFrom?_ordinary ordinary]
          by_cases sign : c = '#'
          · simp [sign]
          · simp [sign, ih, Ne.symm sign]

theorem eq_space_of_isBlank {c : Char} (guarded : isReserved c = true ∨ c = '#' ∨ c = ' ')
    (blank : isBlank c = true) : c = ' ' := by
  rcases guarded with reserved | rfl | rfl
  · have visible := of_isReserved (show List.all _ (!isBlank ·) = true by decide) reserved
    simp [blank] at visible
  · exact absurd blank (by decide)
  · rfl

theorem getLast?_guardBack (text : List Char) : (guardBack text).getLast? = text.getLast? := by
  rcases List.eq_nil_or_concat' text with rfl | ⟨front, last, rfl⟩
  · rfl
  · rw [guardBack_concat]
    split
    · next space => simp [space]
    · simp

theorem getLast?_escapeValue (value : List Char) : (escapeValue value).getLast? = value.getLast? := by
  rw [escapeValue, getLast?_guardBack, getLast?_guardFront, getLast?_escapeReserved]

section Guarded

variable {c : Char} {rest : List Char}

theorem guardFront_escapeReserved_cons (c : Char) (rest : List Char) :
    guardFront (escapeReserved (c :: rest)) =
      (if isReserved c = true ∨ c = '#' ∨ c = ' ' then ['\\', c] else [c]) ++
        escapeReserved rest := by
  rw [escapeReserved_cons]
  by_cases reserved : isReserved c = true
  · simp [reserved, guardFront]
  · by_cases guarded : c = '#' ∨ c = ' '
    · simp [reserved, guarded, guardFront]
    · simp [reserved, guarded, guardFront]

theorem valueProblemFrom?_guarded :
    valueProblemFrom? .anything (guardFront (escapeReserved (c :: rest))) = none ↔ '#' ∉ rest := by
  rw [guardFront_escapeReserved_cons]
  split
  · next guarded =>
      rw [List.cons_append, List.singleton_append, valueProblemFrom?_escaped guarded,
        valueProblemFrom?_escapeReserved]
  · next ordinary =>
      simp only [not_or] at ordinary
      rw [List.singleton_append, valueProblemFrom?_ordinary ordinary.1, if_neg ordinary.2.1,
        valueProblemFrom?_escapeReserved]

theorem head?_guarded : (guardFront (escapeReserved (c :: rest))).head? ≠ some '#' := by
  rw [guardFront_escapeReserved_cons]
  split
  · simp
  · next ordinary =>
      simp only [not_or] at ordinary
      simpa using ordinary.2.1

/-- White space in front is hidden if it is the space. -/
theorem isBlank_head?_guarded :
    (∀ d ∈ (guardFront (escapeReserved (c :: rest))).head?, isBlank d = false) ↔
      (isBlank c = true → c = ' ') := by
  rw [guardFront_escapeReserved_cons]
  split
  · next guarded =>
      have visible : isBlank '\\' = false := by decide
      simpa [visible] using eq_space_of_isBlank guarded
  · next ordinary =>
      simp only [not_or] at ordinary
      simp [ordinary.2.2]

end Guarded

theorem isSound_iff {assertion : Assertion} :
    assertion.IsSound ↔ attributeProblem? assertion.attributeType = none ∧
      (assertion.value ≠ [] ∧ assertion.value.head? ≠ some '#' ∧
        valueProblemFrom? .anything assertion.value = none) ∧
      trim assertion.value = assertion.value := by
  constructor
  · rintro ⟨typed, valued, trimmed⟩
    exact ⟨typed, valueProblem?_eq_none_iff.1 (valued []), trimmed⟩
  · rintro ⟨typed, valued, trimmed⟩
    exact ⟨typed, fun piece => valueProblem?_eq_none_iff.2 valued, trimmed⟩

/-- An attribute with the form of a value in a name is sound if and only if the attribute has no fault
and the value is read back. -/
theorem isSound_escapeValue_iff {attributeType value : List Char} {joint : Joint} :
    Assertion.IsSound ⟨attributeType, escapeValue value, joint⟩ ↔
      attributeProblem? attributeType = none ∧ ReadsBack value := by
  rw [isSound_iff, trim_eq_self_iff, getLast?_escapeValue]
  by_cases last : value.getLast? = some ' '
  · -- A space at the end is white space whether or not it is guarded.
    have outer : ¬∀ c ∈ value.getLast?, isBlank c = false := by
      intro visible
      exact absurd (visible ' ' last) (by decide)
    constructor
    · rintro ⟨-, -, -, back⟩
      exact absurd back outer
    · rintro ⟨-, reads⟩
      exact absurd reads.back outer
  · rw [escapeValue_eq last]
    dsimp only
    cases value with
    | nil =>
        constructor
        · rintro ⟨-, ⟨nonempty, -, -⟩, -⟩
          exact absurd rfl nonempty
        · rintro ⟨-, reads⟩
          exact absurd rfl reads.nonempty
    | cons c rest =>
        have some : guardFront (escapeReserved (c :: rest)) ≠ [] := by
          rw [guardFront_escapeReserved_cons]
          split <;> simp
        rw [valueProblemFrom?_guarded, isBlank_head?_guarded]
        constructor
        · rintro ⟨typed, ⟨-, -, inside⟩, front, back⟩
          exact ⟨typed, ⟨List.cons_ne_nil _ _, by simpa using front, back, inside⟩⟩
        · rintro ⟨typed, reads⟩
          exact ⟨typed, ⟨some, head?_guarded, reads.inside⟩, by simpa using reads.front, reads.back⟩

/-! ### Relative names -/

/-- A plus sign behind what was read so far is shown by the first relative name. -/
theorem exists_head_groupRdns (text : List Char) (assertion : Assertion) (rest : List Assertion) :
    ∃ more others, groupRdns (some text) (assertion :: rest) =
      String.ofList (text ++ '+' :: more) :: others := by
  induction rest generalizing text assertion with
  | nil =>
      refine ⟨assertion.text, [], ?_⟩
      cases joint : assertion.joint <;> simp [groupRdns, joint]
  | cons next rest ih =>
      rw [groupRdns_cons]
      dsimp only [Option.elim_some]
      split
      · obtain ⟨more, others, form⟩ := ih (text ++ '+' :: assertion.text) next
        exact ⟨assertion.text ++ '+' :: more, others, by simpa using form⟩
      · exact ⟨assertion.text, _, rfl⟩

/-- A relative name without a plus sign is the text of the first assertion. -/
theorem eq_text_of_groupRdns {assertion : Assertion} {rest : List Assertion} {rdn : String}
    {rdns : List String} (sound : assertion.IsSound) (single : '+' ∉ bareChars rdn.toList)
    (grouped : rdn :: rdns = groupRdns none (assertion :: rest)) :
    rdn.toList = assertion.text ∧ rdns = groupRdns none rest := by
  rw [groupRdns_cons] at grouped
  dsimp only [Option.elim_none] at grouped
  split at grouped
  · cases rest with
    | nil =>
        rw [groupRdns, List.cons.injEq] at grouped
        exact ⟨by rw [grouped.1, String.toList_ofList], grouped.2⟩
    | cons next rest =>
        obtain ⟨more, others, form⟩ := exists_head_groupRdns assertion.text next rest
        rw [form, List.cons.injEq] at grouped
        rw [grouped.1, String.toList_ofList, sound.isClear.sealed_text.bareChars_append,
          bareChars_ordinary (by decide)] at single
        simp at single
  · rw [List.cons.injEq] at grouped
    exact ⟨by rw [grouped.1, String.toList_ofList], grouped.2⟩

section Made

variable {attributeType value : String}
  (plain : ∀ c ∈ attributeType.toList, c ≠ '\\' ∧ c ∉ [',', '+', '='])

include plain in
/-- The text of a relative name that was made shows which attribute and which value made it. -/
theorem eq_of_rdn_eq_text {assertion : Assertion} (sound : assertion.IsSound)
    (same : (rdn attributeType value).toList = assertion.text) :
    assertion.attributeType = attributeType.toList ∧
      assertion.value = escapeValue value.toList := by
  have ordinary : ' ' ≠ '\\' := by decide
  have made := splitAfter_append ordinary plain (escapeValue value.toList)
  have read := splitAfter_append ordinary sound.isClear.plain assertion.value
  rw [← toList_rdn, same, Assertion.text, read] at made
  simpa using made

include plain in
/-- A name one level below another is in normal form if and only if the other is, the attribute has no
fault and the value is read back. -/
theorem isSettled_cons_iff {rdns : List String} :
    IsSettled ⟨rdn attributeType value :: rdns⟩ ↔
      (attributeProblem? attributeType.toList = none ∧ ReadsBack value.toList) ∧
        IsSettled ⟨rdns⟩ := by
  constructor
  · rintro ⟨assertions, each, form⟩
    cases assertions with
    | nil => cases form
    | cons assertion rest =>
        obtain ⟨sound, later⟩ := List.forall_mem_cons.1 each
        obtain ⟨head, tail⟩ := eq_text_of_groupRdns sound (isRdnOf_rdn plain value).plus form
        obtain ⟨typed, valued⟩ := eq_of_rdn_eq_text plain sound head
        refine ⟨?_, rest, later, tail⟩
        obtain ⟨_, _, joint⟩ := assertion
        dsimp only at typed valued
        subst typed valued
        exact isSound_escapeValue_iff.1 sound
  · rintro ⟨good, rest, later, form⟩
    refine ⟨⟨attributeType.toList, escapeValue value.toList, .comma⟩ :: rest, ?_, ?_⟩
    · exact List.forall_mem_cons.2 ⟨isSound_escapeValue_iff.2 good, later⟩
    · dsimp only at form
      rw [groupRdns_cons, form]
      simp [← String.toList_inj, toList_rdn, Assertion.text]

/-- Relative names that were made, each before the next one, leave a name in normal form if and only if
this holds of each. -/
theorem isSettled_append_iff {parts : List (String × String)} {rdns : List String}
    (each : ∀ part ∈ parts, ∀ c ∈ part.1.toList, c ≠ '\\' ∧ c ∉ [',', '+', '=']) :
    IsSettled ⟨(parts.map fun part => rdn part.1 part.2) ++ rdns⟩ ↔
      (∀ part ∈ parts, attributeProblem? part.1.toList = none ∧ ReadsBack part.2.toList) ∧
        IsSettled ⟨rdns⟩ := by
  induction parts with
  | nil => simp
  | cons part parts ih =>
      obtain ⟨plain, later⟩ := List.forall_mem_cons.1 each
      rw [List.map_cons, List.cons_append, isSettled_cons_iff plain, ih later, List.forall_mem_cons]
      exact and_assoc.symm

end Made

/-- Going down one level from a name in normal form gives a name that is read back if and only if the
value is. -/
theorem child?_reads_back {name : DistinguishedName} (canonical : name.IsSettled)
    {attributeType value : String} (typed : attributeProblem? attributeType.toList = none)
    (nonempty : value ≠ "") :
    ∃ below, name.child? attributeType value = some below ∧
      (parse below.text = .ok below ↔ ReadsBack value.toList) := by
  have named : attributeType ≠ "" := by
    rintro rfl
    exact absurd typed (by decide)
  refine ⟨⟨rdn attributeType value :: name.rdns⟩, by simp [child?, named, nonempty], ?_⟩
  rw [← isSettled_iff, isSettled_cons_iff (plain_of_attributeProblem? typed)]
  simp [typed, show IsSettled ⟨name.rdns⟩ from canonical]

end DirectoryQuery.DistinguishedName
