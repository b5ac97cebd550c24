/-
Module: DirectoryQuery.Proofs.Text.Order
Purpose: The order of texts by code points.
Main exports:
  Text.Earlier, Text.noLater_iff, Text.noLater_trans, Text.noLater_total, Text.earlier_append_iff
-/
import DirectoryQuery.Text.Split

namespace DirectoryQuery.Text

/-- The strict order of texts by code points. -/
abbrev Earlier : List Char → List Char → Prop := List.Lex fun a b => a.toNat < b.toNat

theorem noLater_iff {a b : List Char} : noLater a b = true ↔ a = b ∨ Earlier a b := by
  induction a generalizing b with
  | nil =>
      cases b with
      | nil => simp [noLater]
      | cons d text => simp [noLater, Earlier]
  | cons c front ih =>
      cases b with
      | nil => simp [noLater, Earlier]
      | cons d text =>
          rw [Earlier, List.cons_lex_cons_iff, List.cons.injEq, noLater, Bool.or_eq_true,
            Bool.and_eq_true, decide_eq_true_eq, beq_iff_eq, ih, and_or_left]
          exact or_left_comm

theorem noLater_trans : ∀ {a b c : List Char}, noLater a b = true → noLater b c = true →
    noLater a c = true
  | [], _, _, _, _ => rfl
  | x :: a, y :: b, z :: c, first, second => by
      simp only [noLater, Bool.or_eq_true, Bool.and_eq_true, decide_eq_true_eq, beq_iff_eq] at *
      rcases first with less | ⟨rfl, first⟩
      · left
        rcases second with less' | ⟨rfl, -⟩
        · omega
        · exact less
      · rcases second with less' | ⟨rfl, second⟩
        · exact .inl less'
        · exact .inr ⟨rfl, noLater_trans first second⟩

theorem noLater_total : ∀ a b : List Char, noLater a b = true ∨ noLater b a = true
  | [], _ => .inl rfl
  | _ :: _, [] => .inr rfl
  | x :: a, y :: b => by
      simp only [noLater, Bool.or_eq_true, Bool.and_eq_true, decide_eq_true_eq, beq_iff_eq]
      rcases Nat.lt_trichotomy x.toNat y.toNat with less | same | more
      · exact .inl (.inl less)
      · obtain rfl := Char.toNat_inj.1 same
        rcases noLater_total a b with first | second
        · exact .inl (.inr ⟨rfl, first⟩)
        · exact .inr (.inr ⟨rfl, second⟩)
      · exact .inr (.inl more)

/-- Texts whose fronts are of one length are in the order of their fronts, and after equal fronts in
the order of what follows. -/
theorem earlier_append_iff {front front' back back' : List Char}
    (sameLength : front.length = front'.length) :
    Earlier (front ++ back) (front' ++ back') ↔
      Earlier front front' ∨ front = front' ∧ Earlier back back' := by
  induction front generalizing front' with
  | nil =>
      obtain rfl := List.eq_nil_of_length_eq_zero sameLength.symm
      simp [Earlier]
  | cons c front ih =>
      cases front' with
      | nil => cases sameLength
      | cons d front' =>
          simp only [List.cons_append, Earlier, List.cons_lex_cons_iff, List.cons.injEq]
          rw [← Earlier, ih (Nat.succ.inj sameLength), and_or_left, or_assoc, and_assoc]

end DirectoryQuery.Text
