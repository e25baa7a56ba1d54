import CecGateway.Text.Decimal

/-!
# Numbers are read back

The digits of a number are read as the number, by every reader whose bound is above it. A numeral is
a text that has digits and nothing else.
-/

namespace CecGateway.Decimal

theorem isDigit_eq (c : Char) : isDigit c = c.isDigit := by
  simp [isDigit, Char.isDigit, Char.le_def]

def IsNumeral (text : String) : Prop := text ≠ "" ∧ ∀ c ∈ text.toList, c.isDigit = true

instance (text : String) : Decidable (IsNumeral text) := inferInstanceAs (Decidable (_ ∧ _))

theorem isDigit_of_mem_digits {n : Nat} : ∀ c ∈ digits n, isDigit c = true := by
  intro c hc
  rw [isDigit_eq]
  exact Nat.isDigit_of_mem_toDigits (by decide) (by decide) hc

theorem exists_digits (n : Nat) : ∃ d ds, digits n = d :: ds :=
  List.exists_cons_of_ne_nil Nat.toDigits_ne_nil

theorem valueOf_digits (n : Nat) : valueOf (digits n) = n :=
  Nat.ofDigitChars_ten_toDigits

/-- Only zero begins with a zero. -/
theorem head?_digits {n : Nat} (hpositive : 0 < n) : (digits n).head? ≠ some '0' := by
  unfold digits
  induction n using Nat.strongRecOn with
  | ind n ih =>
      by_cases hlt : n < 10
      · rw [Nat.toDigits_of_lt_base hlt, List.head?_cons, ne_eq, Option.some_inj,
          Nat.digitChar_eq_zero]
        omega
      · have hfirst := ih (n / 10) (by omega) (by omega)
        rw [Nat.toDigits_of_base_le (by decide) (by omega)]
        obtain ⟨d, ds, hdigits⟩ := List.exists_cons_of_ne_nil
          (Nat.toDigits_ne_nil : Nat.toDigits 10 (n / 10) ≠ [])
        rw [hdigits] at hfirst ⊢
        exact hfirst

theorem render_injective {m n : Nat} (h : render m = render n) : m = n := by
  have hdigits : digits m = digits n := String.ofList_injective h
  rw [← valueOf_digits m, hdigits, valueOf_digits]

theorem readBelow?_digits {bound n : Nat} (hbound : n < bound) :
    readBelow? bound (digits n) = some n := by
  have hall : (digits n).all isDigit = true := List.all_eq_true.mpr isDigit_of_mem_digits
  have hvalue := valueOf_digits n
  obtain ⟨d, ds, hds⟩ := exists_digits n
  rw [hds] at hall hvalue ⊢
  unfold readBelow?
  split
  · -- a plus sign is no digit
    rename_i hplus
    obtain ⟨rfl, rfl⟩ := List.cons.inj hplus
    contradiction
  · simp only [hall, hvalue, hbound, List.isEmpty_cons, Bool.not_true, Bool.or_self, if_true,
      Bool.false_eq_true, if_false]

end CecGateway.Decimal
