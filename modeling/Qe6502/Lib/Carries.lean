import Mathlib.Data.Nat.Digits.Lemmas

/-!
# Carries

Digit strings to a base, the least significant digit first, and the chain of carries of their
addition.  A difference has the same chain: `x - y` is the `z` with `z + y = x`, and the borrows
are its carries.
-/

/-- `xs + ys + c = zs` digit by digit, with a carry `d` out of the last digit. -/
inductive Carries (β : ℕ) : ℕ → List ℕ → List ℕ → List ℕ → ℕ → Prop
  | nil (c : ℕ) : Carries β c [] [] [] c
  | cons {x y z c c' d : ℕ} {xs ys zs : List ℕ} (digit : x + y + c = z + β * c')
      (rest : Carries β c' xs ys zs d) : Carries β c (x :: xs) (y :: ys) (z :: zs) d

namespace Carries

open Nat (ofDigits)

variable {β c d : ℕ} {xs ys zs : List ℕ}

theorem lengths (h : Carries β c xs ys zs d) :
    xs.length = zs.length ∧ ys.length = zs.length := by
  induction h with
  | nil c => exact ⟨rfl, rfl⟩
  | cons digit rest ih =>
    rw [List.length_cons, List.length_cons, List.length_cons, ih.1, ih.2]
    exact ⟨rfl, rfl⟩

/-- **The sum of the strings.** -/
theorem sum (h : Carries β c xs ys zs d) :
    ofDigits β xs + ofDigits β ys + c = ofDigits β zs + β ^ zs.length * d := by
  induction h with
  | nil c => simp
  | @cons x y z c c' d xs ys zs digit rest ih =>
    rw [Nat.ofDigits_cons, Nat.ofDigits_cons, Nat.ofDigits_cons, List.length_cons, Nat.pow_succ]
    calc x + β * ofDigits β xs + (y + β * ofDigits β ys) + c
        = (x + y + c) + β * (ofDigits β xs + ofDigits β ys) := by ring
      _ = z + β * (ofDigits β xs + ofDigits β ys + c') := by rw [digit]; ring
      _ = z + β * ofDigits β zs + β ^ zs.length * β * d := by rw [ih]; ring

section bounded

variable (hβ : 1 < β) (h : Carries β c xs ys zs d)

include hβ h

/-- A sum without its carry. -/
theorem sum_mod (hzs : ∀ z ∈ zs, z < β) :
    ofDigits β zs = (ofDigits β xs + ofDigits β ys + c) % β ^ zs.length := by
  rw [h.sum, Nat.add_mul_mod_self_left,
    Nat.mod_eq_of_lt (Nat.ofDigits_lt_base_pow_length hβ hzs)]

/-- There is a carry when the sum needs another digit. -/
theorem carry_pos (hzs : ∀ z ∈ zs, z < β) :
    0 < d ↔ β ^ zs.length ≤ ofDigits β xs + ofDigits β ys + c := by
  have hlt := Nat.ofDigits_lt_base_pow_length hβ hzs
  rw [h.sum]
  constructor
  · intro hd
    have hle := Nat.le_mul_of_pos_right (β ^ zs.length) hd
    omega
  · intro hle
    rcases Nat.eq_zero_or_pos d with rfl | hd
    · rw [Nat.mul_zero] at hle
      omega
    · exact hd

/-- A difference, with the borrows `c` and `d`. -/
theorem sub_emod (hxs : ∀ x ∈ xs, x < β) :
    ((ofDigits β xs : ℕ) : ℤ) =
      ((ofDigits β zs : ℕ) - (ofDigits β ys : ℕ) - (c : ℕ) : ℤ) % ((β ^ zs.length : ℕ) : ℤ) := by
  have hlt := Nat.ofDigits_lt_base_pow_length hβ hxs
  rw [h.lengths.1] at hlt
  have hsum : ((ofDigits β zs : ℕ) - (ofDigits β ys : ℕ) - (c : ℕ) : ℤ) =
      (ofDigits β xs : ℕ) - ((β ^ zs.length : ℕ) : ℤ) * (d : ℕ) := by
    have heq := congrArg (Nat.cast (R := ℤ)) h.sum
    rw [Nat.cast_add, Nat.cast_add, Nat.cast_add, Nat.cast_mul] at heq
    linarith
  rw [hsum, Int.sub_mul_emod_self_left, Int.emod_eq_of_lt (by omega) (by omega)]

/-- There is a borrow when the subtrahend is larger. -/
theorem borrow_pos (hxs : ∀ x ∈ xs, x < β) :
    0 < d ↔ ofDigits β zs < ofDigits β ys + c := by
  have hlt := Nat.ofDigits_lt_base_pow_length hβ hxs
  rw [h.lengths.1] at hlt
  have hsum := h.sum
  constructor
  · intro hd
    have hle := Nat.le_mul_of_pos_right (β ^ zs.length) hd
    omega
  · intro hlt'
    rcases Nat.eq_zero_or_pos d with rfl | hd
    · rw [Nat.mul_zero] at hsum
      omega
    · exact hd

end bounded

end Carries
