import Mathlib.Data.Vector.Basic

/-!
# Bit fields and byte buffers

Fields of a bit vector: a masked shift cuts one out (`field_eq`), a shift puts one in place
(`placed_bit`), and the bytes of a word or a double word join to the number and split off
again.  `Copies w v m` says that a buffer `v` holds the first `m` bytes of `w`; writing byte
after byte of `w` extends the copy.
-/

namespace Fields

/-- A masked shift cuts out a field. -/
theorem field_eq {w : Nat} (m : Nat) (hm : m ≤ w) (x : BitVec w) (k : Nat) :
    ((x >>> k) &&& BitVec.ofNat w (2 ^ m - 1)).setWidth m = x.extractLsb' k m := by
  refine BitVec.eq_of_getLsbD_eq fun i hi => ?_
  have hmask : (BitVec.ofNat w (2 ^ m - 1)).getLsbD i = true := by
    rw [BitVec.getLsbD_ofNat, Nat.testBit_two_pow_sub_one]
    simp only [hi, show i < w by omega, decide_true, Bool.and_true]
  simp only [BitVec.getLsbD_setWidth, BitVec.getLsbD_and, hmask, Bool.and_true,
    BitVec.getLsbD_ushiftRight, BitVec.getLsbD_extractLsb']

theorem byte_eq {w : Nat} (hw : 8 ≤ w) (x : BitVec w) (k : Nat) :
    ((x >>> k) &&& 0xFF).setWidth 8 = x.extractLsb' k 8 := field_eq 8 hw x k

theorem lowByte_eq {w : Nat} (hw : 8 ≤ w) (x : BitVec w) :
    (x &&& 0xFF).setWidth 8 = x.extractLsb' 0 8 := by
  rw [← byte_eq hw, BitVec.ushiftRight_zero]

/-- Bit `i` of a field put at bit `k` of a wider number. -/
theorem placed_bit {m : Nat} (w : Nat) (x : BitVec m) (k i : Nat) (hi : i < w) :
    (x.setWidth w <<< k).getLsbD i = (decide (k ≤ i) && x.getLsbD (i - k)) := by
  rw [BitVec.getLsbD_shiftLeft, BitVec.getLsbD_setWidth, decide_eq_true hi,
    decide_eq_true (show i - k < w by omega), Bool.true_and, Bool.true_and]
  by_cases h : i < k
  · rw [decide_eq_true h, decide_eq_false (by omega)]
    rfl
  · rw [decide_eq_false h, decide_eq_true (by omega)]
    rfl

/-! ### The bytes of a number -/

/-- The word of two bytes, high byte first. -/
def word (b₁ b₀ : BitVec 8) : BitVec 16 := (b₁.setWidth 16 <<< 8) ||| b₀.setWidth 16

/-- The double word of four bytes, high byte first. -/
def dword (b₃ b₂ b₁ b₀ : BitVec 8) : BitVec 32 :=
  (b₃.setWidth 32 <<< 24) ||| (b₂.setWidth 32 <<< 16) ||| (b₁.setWidth 32 <<< 8) |||
    b₀.setWidth 32

theorem word_bit (b₁ b₀ : BitVec 8) {i : Nat} (hi : i < 16) :
    (word b₁ b₀).getLsbD i =
      ((decide (8 ≤ i) && b₁.getLsbD (i - 8)) || b₀.getLsbD i) := by
  rw [word, BitVec.getLsbD_or, placed_bit _ _ _ _ hi, BitVec.getLsbD_setWidth, decide_eq_true hi,
    Bool.true_and]

theorem dword_bit (b₃ b₂ b₁ b₀ : BitVec 8) {i : Nat} (hi : i < 32) :
    (dword b₃ b₂ b₁ b₀).getLsbD i =
      ((decide (24 ≤ i) && b₃.getLsbD (i - 24)) || (decide (16 ≤ i) && b₂.getLsbD (i - 16)) ||
        (decide (8 ≤ i) && b₁.getLsbD (i - 8)) || b₀.getLsbD i) := by
  rw [dword, BitVec.getLsbD_or, BitVec.getLsbD_or, BitVec.getLsbD_or, placed_bit _ _ _ _ hi,
    placed_bit _ _ _ _ hi, placed_bit _ _ _ _ hi, BitVec.getLsbD_setWidth, decide_eq_true hi,
    Bool.true_and]

theorem join_word (x : BitVec 16) : word (x.extractLsb' 8 8) (x.extractLsb' 0 8) = x := by
  refine BitVec.eq_of_getLsbD_eq fun i hi => ?_
  rw [word_bit _ _ hi]
  simp only [BitVec.getLsbD_extractLsb']
  grind

theorem join_dword (x : BitVec 32) :
    dword (x.extractLsb' 24 8) (x.extractLsb' 16 8) (x.extractLsb' 8 8) (x.extractLsb' 0 8) =
      x := by
  refine BitVec.eq_of_getLsbD_eq fun i hi => ?_
  rw [dword_bit _ _ _ _ hi]
  simp only [BitVec.getLsbD_extractLsb']
  grind

theorem split_word (b₁ b₀ : BitVec 8) :
    (word b₁ b₀).extractLsb' 8 8 = b₁ ∧ (word b₁ b₀).extractLsb' 0 8 = b₀ := by
  refine ⟨?_, ?_⟩ <;> refine BitVec.eq_of_getLsbD_eq fun i hi => ?_ <;>
    rw [BitVec.getLsbD_extractLsb', word_bit _ _ (by omega)] <;> grind

theorem split_dword (b₃ b₂ b₁ b₀ : BitVec 8) :
    (dword b₃ b₂ b₁ b₀).extractLsb' 24 8 = b₃ ∧ (dword b₃ b₂ b₁ b₀).extractLsb' 16 8 = b₂ ∧
      (dword b₃ b₂ b₁ b₀).extractLsb' 8 8 = b₁ ∧ (dword b₃ b₂ b₁ b₀).extractLsb' 0 8 = b₀ := by
  refine ⟨?_, ?_, ?_, ?_⟩ <;> refine BitVec.eq_of_getLsbD_eq fun i hi => ?_ <;>
    rw [BitVec.getLsbD_extractLsb', dword_bit _ _ _ _ (by omega)] <;> grind

/-! ### Buffers -/

section buffers

variable {n m : Nat} {w v : Vector (BitVec 8) n}

theorem get_set (v : Vector (BitVec 8) n) (i : Nat) (b : BitVec 8) {j : Nat} (hj : j < n) :
    (v.setIfInBounds i b)[j]! = if i = j then b else v[j]! := by
  rw [getElem!_pos (v.setIfInBounds i b) j hj, getElem!_pos v j hj, Vector.getElem_setIfInBounds]

/-- The buffer `v` holds the first `m` bytes of `w`. -/
def Copies (w v : Vector (BitVec 8) n) (m : Nat) : Prop := ∀ j < n, j < m → v[j]! = w[j]!

theorem copies_zero (w v : Vector (BitVec 8) n) : Copies w v 0 :=
  fun j _ hlt => absurd hlt (Nat.not_lt_zero j)

theorem Copies.set (h : Copies w v m) : Copies w (v.setIfInBounds m w[m]!) (m + 1) := by
  intro j hj hlt
  rw [get_set _ _ _ hj]
  by_cases hm : m = j
  · rw [if_pos hm, hm]
  · rw [if_neg hm]
    exact h j hj (by omega)

theorem Copies.eq (h : Copies w v n) : v = w := by
  refine Vector.ext fun j hj => ?_
  have hget := h j hj hj
  rwa [getElem!_pos v j hj, getElem!_pos w j hj] at hget

end buffers

end Fields
