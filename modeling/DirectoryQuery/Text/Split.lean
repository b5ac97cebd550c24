/-
Module: DirectoryQuery.Text.Split
Purpose: Splitting a text at a character, finding one text in another, and the order of texts.
Main exports:
  split, joinWith, split_eq_iff, occursIn, afterPrefix?, noLater
-/

namespace DirectoryQuery.Text

/-- The parts of a text between the occurrences of a separator: the first part and the others. -/
def split (separator : Char) : List Char → List Char × List (List Char)
  | [] => ([], [])
  | c :: rest =>
    let (first, others) := split separator rest
    if c = separator then ([], first :: others) else (c :: first, others)

/-- Parts with a separator between them. -/
def joinWith (separator : Char) (first : List Char) : List (List Char) → List Char
  | [] => first
  | part :: others => first ++ separator :: joinWith separator part others

/-- Whether a text occurs in another. -/
def occursIn (part : List Char) : List Char → Bool
  | [] => part.isEmpty
  | c :: rest => part.isPrefixOf (c :: rest) || occursIn part rest

/-- What follows a text at the front of another. -/
def afterPrefix? : (front text : List Char) → Option (List Char)
  | [], text => some text
  | _ :: _, [] => none
  | a :: front, b :: text => if a = b then afterPrefix? front text else none

/-- Whether a text comes no later than another in the order of code points.  A text comes before
those that it is the front of. -/
def noLater : List Char → List Char → Bool
  | [], _ => true
  | _ :: _, [] => false
  | a :: front, b :: text => a.toNat < b.toNat || (a == b && noLater front text)

/-- Joining the parts restores the text. -/
theorem joinWith_split (separator : Char) (text : List Char) :
    joinWith separator (split separator text).1 (split separator text).2 = text := by
  induction text with
  | nil => rfl
  | cons c rest ih =>
    unfold split
    dsimp only
    split
    · next equal => simp only [joinWith, ih, equal, List.nil_append]
    · cases others : (split separator rest).2 with
      | nil => simp only [joinWith]; rw [others, joinWith] at ih; rw [ih]
      | cons part more => rw [others, joinWith] at ih; simp only [joinWith, List.cons_append, ih]

/-- No part holds the separator. -/
theorem separator_notMem_split (separator : Char) (text : List Char) :
    separator ∉ (split separator text).1 ∧ ∀ part ∈ (split separator text).2, separator ∉ part := by
  induction text with
  | nil => simp [split]
  | cons c rest ih =>
    unfold split
    dsimp only
    split
    · simpa using ih
    · next different => exact ⟨by simp [ih.1, Ne.symm different], ih.2⟩

section

variable {separator : Char} {first text : List Char} {others : List (List Char)}

theorem joinWith_eq_append (separator : Char) (first : List Char) (others : List (List Char)) :
    joinWith separator first others = first ++ others.flatMap (separator :: ·) := by
  induction others generalizing first with
  | nil => simp [joinWith]
  | cons part others ih => rw [joinWith, ih, List.flatMap_cons, List.cons_append]

theorem split_of_notMem (absent : separator ∉ first) : split separator first = (first, []) := by
  induction first with
  | nil => rfl
  | cons c rest ih =>
      rw [List.mem_cons, not_or] at absent
      rw [split, ih absent.2]
      exact if_neg (Ne.symm absent.1)

theorem split_append_separator (absent : separator ∉ first) (rest : List Char) :
    split separator (first ++ separator :: rest) =
      (first, (split separator rest).1 :: (split separator rest).2) := by
  induction first with
  | nil => simp [split]
  | cons c first ih =>
      rw [List.mem_cons, not_or] at absent
      rw [List.cons_append, split, ih absent.2]
      exact if_neg (Ne.symm absent.1)

/-- Splitting is the only way to cut a text into parts without the separator. -/
theorem split_eq_iff :
    split separator text = (first, others) ↔
      text = joinWith separator first others ∧ separator ∉ first ∧
        ∀ part ∈ others, separator ∉ part := by
  constructor
  · intro cut
    have joined := joinWith_split separator text
    have absent := separator_notMem_split separator text
    rw [cut] at joined absent
    exact ⟨joined.symm, absent⟩
  · rintro ⟨rfl, absent, each⟩
    induction others generalizing first with
    | nil => exact split_of_notMem absent
    | cons part others ih =>
        obtain ⟨head, tail⟩ := List.forall_mem_cons.1 each
        rw [joinWith, split_append_separator absent, ih head tail]

end

theorem afterPrefix?_eq_some_iff {front text rest : List Char} :
    afterPrefix? front text = some rest ↔ text = front ++ rest := by
  induction front generalizing text with
  | nil => simp [afterPrefix?, eq_comm]
  | cons a front ih =>
    cases text with
    | nil => simp [afterPrefix?]
    | cons b text =>
      unfold afterPrefix?
      split
      · next equal => simp [ih, equal]
      · next different => simp [Ne.symm different]

theorem length_of_afterPrefix? {front text rest : List Char}
    (found : afterPrefix? front text = some rest) :
    text.length = front.length + rest.length := by
  rw [afterPrefix?_eq_some_iff] at found
  simp [found]

end DirectoryQuery.Text
