/-
Module: DirectoryQuery.Proofs.Name.Escaping
Purpose: What a reader of names sees between separators.  A backslash takes the meaning of the
  character behind it away, so a text is cut only at separators that stand without one.  An escaped
  value cannot be cut, hides all reserved characters, and is the escaped form of no other value.
Main exports:
  DistinguishedName.partsAt, DistinguishedName.bareChars, DistinguishedName.Sealed,
  partsAt_intercalate, sealed_escapeValue, unescape_escapeValue, escapeValue_injective
-/
import DirectoryQuery.Name.Basic
import Mathlib.Data.List.Basic

namespace DirectoryQuery.DistinguishedName

/-! ### Reading a text with backslashes -/

/-- Parts with characters put before the first of them. -/
def beforeFirst (front : List Char) : List (List Char) → List (List Char)
  | [] => [front]
  | part :: others => (front ++ part) :: others

/-- The parts of a text between the separators that no backslash escapes.  A backslash escapes the
character behind it, which may be a backslash. -/
def partsAt (separator : Char) : List Char → List (List Char)
  | [] => [[]]
  | '\\' :: c :: rest => beforeFirst ['\\', c] (partsAt separator rest)
  | c :: rest =>
    if c = separator then [] :: partsAt separator rest
    else beforeFirst [c] (partsAt separator rest)

/-- The characters of a text that no backslash escapes, without the backslashes that escape. -/
def bareChars : List Char → List Char
  | [] => []
  | '\\' :: _ :: rest => bareChars rest
  | c :: rest => c :: bareChars rest

/-- The characters that a text stands for: each escaped character is that character. -/
def unescape : List Char → List Char
  | [] => []
  | '\\' :: c :: rest => c :: unescape rest
  | c :: rest => c :: unescape rest

/-- A text in which no character of `marks` stands without a backslash, and which does not end with
a backslash that waits for its character. -/
inductive Sealed (marks : List Char) : List Char → Prop where
  | nil : Sealed marks []
  | plain {c : Char} {rest : List Char} (ordinary : c ≠ '\\') (unmarked : c ∉ marks)
      (tail : Sealed marks rest) : Sealed marks (c :: rest)
  | escaped {c : Char} {rest : List Char} (tail : Sealed marks rest) :
      Sealed marks ('\\' :: c :: rest)

theorem partsAt_ordinary {separator c : Char} (ordinary : c ≠ '\\') (other : c ≠ separator)
    (rest : List Char) :
    partsAt separator (c :: rest) = beforeFirst [c] (partsAt separator rest) := by
  simp [partsAt, ordinary, other]

theorem partsAt_separator {separator : Char} (ordinary : separator ≠ '\\') (rest : List Char) :
    partsAt separator (separator :: rest) = [] :: partsAt separator rest := by
  simp [partsAt, ordinary]

theorem bareChars_ordinary {c : Char} (ordinary : c ≠ '\\') (rest : List Char) :
    bareChars (c :: rest) = c :: bareChars rest := by
  simp [bareChars, ordinary]

theorem unescape_ordinary {c : Char} (ordinary : c ≠ '\\') (rest : List Char) :
    unescape (c :: rest) = c :: unescape rest := by
  simp [unescape, ordinary]

namespace Sealed

variable {marks front back : List Char}

theorem append (first : Sealed marks front) (second : Sealed marks back) :
    Sealed marks (front ++ back) := by
  induction first with
  | nil => exact second
  | plain ordinary unmarked _ ih => exact .plain ordinary unmarked ih
  | escaped _ ih => exact .escaped ih

theorem mono {fewer : List Char} (part : fewer ⊆ marks) {text : List Char}
    (closed : Sealed marks text) : Sealed fewer text := by
  induction closed with
  | nil => exact .nil
  | plain ordinary unmarked _ ih => exact .plain ordinary (fun found => unmarked (part found)) ih
  | escaped _ ih => exact .escaped ih

theorem of_forall {text : List Char} (each : ∀ c ∈ text, c ≠ '\\' ∧ c ∉ marks) :
    Sealed marks text := by
  induction text with
  | nil => exact .nil
  | cons c rest ih =>
      obtain ⟨head, tail⟩ := List.forall_mem_cons.1 each
      exact .plain head.1 head.2 (ih tail)

/-- A marked character stands in a sealed text only behind a backslash. -/
theorem notMem_bareChars {text : List Char} (closed : Sealed marks text) {c : Char}
    (marked : c ∈ marks) : c ∉ bareChars text := by
  induction closed with
  | nil => simp [bareChars]
  | plain ordinary unmarked _ ih =>
      rw [bareChars_ordinary ordinary]
      simp only [List.mem_cons, not_or]
      refine ⟨?_, ih⟩
      intro same
      exact unmarked (same ▸ marked)
  | escaped _ ih => simpa [bareChars] using ih

/-- What stands before another text keeps its meaning, and so does the other text. -/
theorem bareChars_append (closed : Sealed marks front) :
    bareChars (front ++ back) = bareChars front ++ bareChars back := by
  induction closed with
  | nil => rfl
  | plain ordinary _ _ ih =>
      rw [List.cons_append, bareChars_ordinary ordinary, bareChars_ordinary ordinary, ih,
        List.cons_append]
  | escaped _ ih => simpa [bareChars] using ih

theorem unescape_append (closed : Sealed marks front) :
    unescape (front ++ back) = unescape front ++ unescape back := by
  induction closed with
  | nil => rfl
  | plain ordinary _ _ ih =>
      rw [List.cons_append, unescape_ordinary ordinary, unescape_ordinary ordinary, ih,
        List.cons_append]
  | escaped _ ih => simpa [unescape] using ih

variable {separator : Char}

/-- A sealed text is a part of its own. -/
theorem partsAt_eq (closed : Sealed [separator] front) : partsAt separator front = [front] := by
  induction closed with
  | nil => rfl
  | plain ordinary unmarked _ ih =>
      rw [partsAt_ordinary ordinary (by simpa using unmarked), ih]
      rfl
  | escaped _ ih => simp [partsAt, ih, beforeFirst]

/-- A separator behind a sealed text ends the part. -/
theorem partsAt_append (ordinary : separator ≠ '\\') (closed : Sealed [separator] front) :
    partsAt separator (front ++ separator :: back) = front :: partsAt separator back := by
  induction closed with
  | nil => exact partsAt_separator ordinary back
  | plain plain unmarked _ ih =>
      rw [List.cons_append, partsAt_ordinary plain (by simpa using unmarked), ih]
      rfl
  | escaped _ ih => simp [partsAt, ih, beforeFirst]

end Sealed

/-- Sealed texts with separators between them are cut into just these texts. -/
theorem partsAt_intercalate {separator : Char} (ordinary : separator ≠ '\\')
    {parts : List (List Char)} (some : parts ≠ [])
    (each : ∀ part ∈ parts, Sealed [separator] part) :
    partsAt separator ([separator].intercalate parts) = parts := by
  induction parts with
  | nil => exact absurd rfl some
  | cons part others ih =>
      obtain ⟨head, tail⟩ := List.forall_mem_cons.1 each
      cases others with
      | nil => simpa [List.intercalate] using head.partsAt_eq
      | cons next more =>
          rw [List.intercalate_cons_cons, List.append_assoc, List.singleton_append,
            head.partsAt_append ordinary, ih (List.cons_ne_nil _ _) tail]

/-! ### Escaped values -/

theorem isReserved_backslash : isReserved '\\' = true := rfl

theorem escapeReserved_append (front back : List Char) :
    escapeReserved (front ++ back) = escapeReserved front ++ escapeReserved back :=
  List.flatMap_append

theorem escapeReserved_cons (c : Char) (rest : List Char) :
    escapeReserved (c :: rest) =
      (if isReserved c then ['\\', c] else [c]) ++ escapeReserved rest :=
  List.flatMap_cons

theorem escapeReserved_ne_nil {value : List Char} (nonempty : value ≠ []) :
    escapeReserved value ≠ [] := by
  cases value with
  | nil => exact absurd rfl nonempty
  | cons c rest =>
      rw [escapeReserved_cons]
      split <;> simp

theorem unescape_escapeReserved (value : List Char) : unescape (escapeReserved value) = value := by
  induction value with
  | nil => rfl
  | cons c rest ih =>
      rw [escapeReserved_cons]
      by_cases reserved : isReserved c = true
      · simp [reserved, unescape, ih]
      · have ordinary : c ≠ '\\' := by
          intro same
          exact reserved (same ▸ isReserved_backslash)
        simp [reserved, unescape_ordinary ordinary, ih]

theorem getLast?_escapeReserved (value : List Char) :
    (escapeReserved value).getLast? = value.getLast? := by
  rcases List.eq_nil_or_concat' value with rfl | ⟨front, last, rfl⟩
  · rfl
  · rw [escapeReserved_append, escapeReserved_cons]
    split <;> simp [escapeReserved]

variable {marks : List Char}

/-- Escaping leaves no reserved character without a backslash. -/
theorem sealed_escapeReserved (reserved : ∀ c ∈ marks, isReserved c = true) (value : List Char) :
    Sealed marks (escapeReserved value) := by
  induction value with
  | nil => exact .nil
  | cons c rest ih =>
      rw [escapeReserved_cons]
      by_cases special : isReserved c = true
      · simpa [special] using Sealed.escaped ih
      · simp only [special, Bool.false_eq_true, if_false, List.singleton_append]
        apply Sealed.plain
        · intro same
          exact special (same ▸ isReserved_backslash)
        · intro marked
          exact special (reserved c marked)
        · exact ih

/-! ### Guarded ends -/

theorem guardFront_cons (c : Char) (rest : List Char) :
    guardFront (c :: rest) = if c = '#' ∨ c = ' ' then '\\' :: c :: rest else c :: rest := rfl

theorem getLast?_guardFront (text : List Char) : (guardFront text).getLast? = text.getLast? := by
  cases text with
  | nil => rfl
  | cons c rest =>
      rw [guardFront_cons]
      split <;> simp

theorem unescape_guardFront (text : List Char) : unescape (guardFront text) = unescape text := by
  cases text with
  | nil => rfl
  | cons c rest =>
      rw [guardFront_cons]
      split
      · next guarded =>
          have ordinary : c ≠ '\\' := by
            rintro rfl
            simp at guarded
          rw [unescape_ordinary ordinary, unescape]
      · rfl

theorem Sealed.guardFront {text : List Char} (closed : Sealed marks text) :
    Sealed marks (guardFront text) := by
  cases closed with
  | nil => exact .nil
  | plain ordinary unmarked tail =>
      rw [guardFront_cons]
      split
      · exact .escaped tail
      · exact .plain ordinary unmarked tail
  | escaped tail => simpa [DistinguishedName.guardFront] using Sealed.escaped tail

theorem guardFront_append {front : List Char} (nonempty : front ≠ []) (back : List Char) :
    guardFront (front ++ back) = guardFront front ++ back := by
  cases front with
  | nil => exact absurd rfl nonempty
  | cons c rest =>
      rw [List.cons_append, guardFront_cons, guardFront_cons]
      split <;> rfl

theorem guardBack_concat (front : List Char) (last : Char) :
    guardBack (front ++ [last]) = front ++ if last = ' ' then ['\\', ' '] else [last] := by
  induction front with
  | nil => rfl
  | cons c rest ih =>
      cases rest with
      | nil =>
          rw [List.nil_append] at ih
          simp [guardBack]
      | cons d rest => simpa [guardBack] using ih

theorem guardBack_eq_self {text : List Char} (last : text.getLast? ≠ some ' ') :
    guardBack text = text := by
  rcases List.eq_nil_or_concat' text with rfl | ⟨front, c, rfl⟩
  · rfl
  · have other : c ≠ ' ' := by simpa using last
    rw [guardBack_concat, if_neg other]

/-! ### The form of a value in a name -/

/-- A lone space is guarded at both ends. -/
theorem escapeValue_space : escapeValue [' '] = ['\\', '\\', ' '] := rfl

theorem escapeValue_concat_space {front : List Char} (nonempty : front ≠ []) :
    escapeValue (front ++ [' ']) = guardFront (escapeReserved front) ++ ['\\', ' '] := by
  have last : escapeReserved [' '] = [' '] := rfl
  rw [escapeValue, escapeReserved_append, last,
    guardFront_append (escapeReserved_ne_nil nonempty), guardBack_concat, if_pos rfl]

theorem escapeValue_eq {value : List Char} (last : value.getLast? ≠ some ' ') :
    escapeValue value = guardFront (escapeReserved value) := by
  apply guardBack_eq_self
  rwa [getLast?_guardFront, getLast?_escapeReserved]

/-- A value is a lone space, ends with a space behind something else, or ends with no space. -/
theorem eq_space_or_concat_or (value : List Char) :
    value = [' '] ∨ (∃ front, front ≠ [] ∧ value = front ++ [' ']) ∨
      value.getLast? ≠ some ' ' := by
  rcases List.eq_nil_or_concat' value with rfl | ⟨front, last, rfl⟩
  · exact .inr (.inr (by simp))
  · by_cases space : last = ' '
    · subst space
      by_cases alone : front = []
      · exact .inl (by simp [alone])
      · exact .inr (.inl ⟨front, alone, rfl⟩)
    · exact .inr (.inr (by simpa using space))

/-- The form of a value in a name hides all reserved characters, whatever the value is. -/
theorem sealed_escapeValue (reserved : ∀ c ∈ marks, isReserved c = true) (value : List Char) :
    Sealed marks (escapeValue value) := by
  rcases eq_space_or_concat_or value with rfl | ⟨front, nonempty, rfl⟩ | last
  · have unmarked : ' ' ∉ marks := by
      intro marked
      simpa [isReserved] using reserved ' ' marked
    rw [escapeValue_space]
    exact .escaped (.plain (by decide) unmarked .nil)
  · rw [escapeValue_concat_space nonempty]
    exact (sealed_escapeReserved reserved front).guardFront.append (.escaped .nil)
  · rw [escapeValue_eq last]
    exact (sealed_escapeReserved reserved value).guardFront

/-- But for a lone space, the form of a value in a name stands for the value. -/
theorem unescape_escapeValue {value : List Char} (other : value ≠ [' ']) :
    unescape (escapeValue value) = value := by
  rcases eq_space_or_concat_or value with rfl | ⟨front, nonempty, rfl⟩ | last
  · exact absurd rfl other
  · have closed : Sealed [] (guardFront (escapeReserved front)) :=
      (sealed_escapeReserved (by simp) front).guardFront
    rw [escapeValue_concat_space nonempty, closed.unescape_append, unescape_guardFront,
      unescape_escapeReserved]
    rfl
  · rw [escapeValue_eq last, unescape_guardFront, unescape_escapeReserved]

/-- Only a lone space has the form of a lone space: that form stands for a backslash and a space,
whose own form is longer. -/
theorem eq_space_of_escapeValue_eq {value : List Char}
    (same : escapeValue value = escapeValue [' ']) : value = [' '] := by
  by_contra other
  have stands := unescape_escapeValue other
  rw [same] at stands
  subst stands
  exact absurd same (by decide)

/-- No two values have the same form in a name. -/
theorem escapeValue_injective : Function.Injective escapeValue := by
  intro value other same
  by_cases space : value = [' ']
  · subst space
    exact (eq_space_of_escapeValue_eq same.symm).symm
  · by_cases space' : other = [' ']
    · subst space'
      exact eq_space_of_escapeValue_eq same
    · calc
        value = unescape (escapeValue value) := (unescape_escapeValue space).symm
        _ = unescape (escapeValue other) := by rw [same]
        _ = other := unescape_escapeValue space'

/-- A value of backslashes and a comma cannot leave its place: the escaped text is one part. -/
example : partsAt ',' (escapeValue "\\,".toList ++ ",ou=x".toList) =
    ["\\\\\\,".toList, "ou=x".toList] := by decide

end DirectoryQuery.DistinguishedName
