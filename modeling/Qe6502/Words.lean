import Qe6502.Cpu

/-!
# The two bytes of a word

`u16_get_byte` and `u16_set_byte` bit by bit, and a word from its two bytes.
-/

namespace Qe6502

theorem byteMask_bit (i : Nat) : (0x00FF#16).getLsbD i = decide (i < 8) := by
  by_cases hi : i < 16
  · have hall : ∀ i < 16, (0x00FF#16).getLsbD i = decide (i < 8) := by decide
    exact hall i hi
  · rw [BitVec.getLsbD_of_ge _ _ (by omega), decide_eq_false (by omega)]

theorem u16GetByte_bit (x : Word) (k i : Nat) :
    (u16GetByte x k).getLsbD i = (decide (i < 8) && x.getLsbD (k * 8 + i)) := by
  simp [u16GetByte]

theorem u16SetByte_bit (x : Word) (k : Nat) (b : Byte) {j : Nat} (hj : j < 16) :
    (u16SetByte x k b).getLsbD j =
      if k * 8 ≤ j ∧ j < k * 8 + 8 then b.getLsbD (j - k * 8) else x.getLsbD j := by
  simp only [u16SetByte, BitVec.getLsbD_or, BitVec.getLsbD_and, BitVec.getLsbD_not,
    BitVec.getLsbD_shiftLeft, BitVec.getLsbD_setWidth, byteMask_bit, hj, decide_true, Bool.true_and]
  by_cases hlow : j < k * 8
  · simp only [hlow, decide_true, Bool.not_true, Bool.false_and, Bool.or_false]
    rw [if_neg (by omega)]
    simp
  · by_cases hhigh : j < k * 8 + 8
    · simp [hlow, hhigh]
      grind
    · have hb : b.getLsbD (j - k * 8) = false := BitVec.getLsbD_of_ge _ _ (by omega)
      simp [hlow, hhigh, hb]
      omega

theorem word_ext {x y : Word} (h₀ : u16GetByte x 0 = u16GetByte y 0)
    (h₁ : u16GetByte x 1 = u16GetByte y 1) : x = y := by
  refine BitVec.eq_of_getLsbD_eq fun i hi => ?_
  by_cases hlow : i < 8
  · have hbit : (u16GetByte x 0).getLsbD i = (u16GetByte y 0).getLsbD i := by rw [h₀]
    simpa only [u16GetByte_bit, hlow, decide_true, Bool.true_and, Nat.zero_mul, Nat.zero_add]
      using hbit
  · have hbit : (u16GetByte x 1).getLsbD (i - 8) = (u16GetByte y 1).getLsbD (i - 8) := by rw [h₁]
    have hi' : i - 8 < 8 := by omega
    have hsum : 1 * 8 + (i - 8) = i := by omega
    simpa only [u16GetByte_bit, hi', hsum, decide_true, Bool.true_and] using hbit

section bytes

variable (x y : Word) (b : Byte)

theorem getByte_zero_setByte_zero : u16GetByte (u16SetByte x 0 b) 0 = b := by
  refine BitVec.eq_of_getLsbD_eq fun i hi => ?_
  rw [u16GetByte_bit, u16SetByte_bit _ _ _ (by omega), if_pos (by omega)]
  simp [hi]

theorem getByte_one_setByte_one : u16GetByte (u16SetByte x 1 b) 1 = b := by
  refine BitVec.eq_of_getLsbD_eq fun i hi => ?_
  rw [u16GetByte_bit, u16SetByte_bit _ _ _ (by omega), if_pos (by omega)]
  simp [hi]

theorem getByte_one_setByte_zero : u16GetByte (u16SetByte x 0 b) 1 = u16GetByte x 1 := by
  refine BitVec.eq_of_getLsbD_eq fun i hi => ?_
  rw [u16GetByte_bit, u16GetByte_bit, u16SetByte_bit _ _ _ (by omega), if_neg (by omega)]

theorem getByte_zero_setByte_one : u16GetByte (u16SetByte x 1 b) 0 = u16GetByte x 0 := by
  refine BitVec.eq_of_getLsbD_eq fun i hi => ?_
  rw [u16GetByte_bit, u16GetByte_bit, u16SetByte_bit _ _ _ (by omega), if_neg (by omega)]

variable {x y}

theorem setByte_zero_congr (h : u16GetByte x 1 = u16GetByte y 1) :
    u16SetByte x 0 b = u16SetByte y 0 b := by
  refine word_ext ?_ ?_
  · rw [getByte_zero_setByte_zero, getByte_zero_setByte_zero]
  · rw [getByte_one_setByte_zero, getByte_one_setByte_zero, h]

theorem setByte_one_congr (h : u16GetByte x 0 = u16GetByte y 0) :
    u16SetByte x 1 b = u16SetByte y 1 b := by
  refine word_ext ?_ ?_
  · rw [getByte_zero_setByte_one, getByte_zero_setByte_one, h]
  · rw [getByte_one_setByte_one, getByte_one_setByte_one]

end bytes

/-- A word put together from two bytes. -/
def ofBytes (low high : Byte) : Word := low.setWidth 16 ||| (high.setWidth 16 <<< 8)

section ofBytes

variable (x : Word) (low high : Byte)

theorem getByte_zero_ofBytes : u16GetByte (ofBytes low high) 0 = low := by
  refine BitVec.eq_of_getLsbD_eq fun i hi => ?_
  rw [u16GetByte_bit, ofBytes, BitVec.getLsbD_or, BitVec.getLsbD_shiftLeft]
  simp [hi, show i < 16 by omega]

theorem getByte_one_ofBytes : u16GetByte (ofBytes low high) 1 = high := by
  refine BitVec.eq_of_getLsbD_eq fun i hi => ?_
  have hlow : low.getLsbD (8 + i) = false := BitVec.getLsbD_of_ge _ _ (by omega)
  rw [u16GetByte_bit, ofBytes, BitVec.getLsbD_or, BitVec.getLsbD_shiftLeft]
  have hbounds : 8 + i < 16 ∧ i < 16 ∧ ¬8 + i < 8 ∧ 8 + i - 8 = i := by omega
  simp [hi, hbounds]

theorem ofBytes_getByte : ofBytes (u16GetByte x 0) (u16GetByte x 1) = x :=
  word_ext (getByte_zero_ofBytes _ _) (getByte_one_ofBytes _ _)

theorem setByte_one_setByte_zero :
    u16SetByte (u16SetByte x 0 low) 1 high = ofBytes low high := by
  refine word_ext ?_ ?_
  · rw [getByte_zero_setByte_one, getByte_zero_setByte_zero, getByte_zero_ofBytes]
  · rw [getByte_one_setByte_one, getByte_one_ofBytes]

end ofBytes

section zeroPage

variable (a b : Byte)

theorem setWidth_eq_ofBytes : a.setWidth 16 = ofBytes a 0 := by
  have hhigh : ((0 : Byte).setWidth 16 : Word) <<< 8 = 0#16 := rfl
  rw [ofBytes, hhigh, BitVec.or_zero]

theorem getByte_zero_setWidth : u16GetByte (a.setWidth 16) 0 = a := by
  rw [setWidth_eq_ofBytes, getByte_zero_ofBytes]

theorem setByte_zero_setWidth : u16SetByte (a.setWidth 16) 0 b = b.setWidth 16 := by
  rw [setWidth_eq_ofBytes, setWidth_eq_ofBytes]
  refine word_ext ?_ ?_
  · rw [getByte_zero_setByte_zero, getByte_zero_ofBytes]
  · rw [getByte_one_setByte_zero, getByte_one_ofBytes, getByte_one_ofBytes]

theorem setByte_one_setWidth : u16SetByte (a.setWidth 16) 1 b = ofBytes a b := by
  rw [setWidth_eq_ofBytes]
  refine word_ext ?_ ?_
  · rw [getByte_zero_setByte_one, getByte_zero_ofBytes, getByte_zero_ofBytes]
  · rw [getByte_one_setByte_one, getByte_one_ofBytes]

end zeroPage

/-! ### Indexed words -/

theorem ofBytes_toNat (low high : Byte) :
    (ofBytes low high).toNat = low.toNat + 256 * high.toNat := by
  have hlow := low.isLt
  have hhigh := high.isLt
  rw [ofBytes, BitVec.toNat_or, BitVec.toNat_shiftLeft, BitVec.toNat_setWidth_of_le (by omega),
    BitVec.toNat_setWidth_of_le (by omega), Nat.or_comm,
    Nat.mod_eq_of_lt (by rw [Nat.shiftLeft_eq]; omega),
    ← Nat.shiftLeft_add_eq_or_of_lt hlow, Nat.shiftLeft_eq]
  omega

/-- The carry of an index into the high byte. -/
def carry (low index : Byte) : Byte :=
  ((low.setWidth 16 + index.setWidth 16 : Word) >>> 8).setWidth 8

section indexed

variable (low high index : Byte)

theorem indexed_toNat :
    (low.setWidth 16 + index.setWidth 16 : Word).toNat = low.toNat + index.toNat := by
  have hlow := low.isLt
  have hindex := index.isLt
  rw [BitVec.toNat_add, BitVec.toNat_setWidth_of_le (by omega),
    BitVec.toNat_setWidth_of_le (by omega)]
  omega

theorem carry_toNat : (carry low index).toNat = (low.toNat + index.toNat) / 256 := by
  have hlow := low.isLt
  have hindex := index.isLt
  rw [carry, BitVec.toNat_setWidth, BitVec.toNat_ushiftRight, indexed_toNat,
    Nat.shiftRight_eq_div_pow]
  omega

theorem indexed_low : (low.setWidth 16 + index.setWidth 16 : Word) &&& 0x00FF =
    (low + index).setWidth 16 := by
  have hmask : (0x00FF : Word).toNat = 2 ^ 8 - 1 := rfl
  have hlow := low.isLt
  have hindex := index.isLt
  apply BitVec.eq_of_toNat_eq
  rw [BitVec.toNat_and, indexed_toNat, hmask, Nat.and_two_pow_sub_one_eq_mod,
    BitVec.toNat_setWidth_of_le (by omega), BitVec.toNat_add]

/-- **An indexed address** is built byte by byte, with the carry added to the high byte. -/
theorem ofBytes_add_index :
    ofBytes (low + index) (high + carry low index) = ofBytes low high + index.setWidth 16 := by
  have hlow := low.isLt
  have hhigh := high.isLt
  have hindex := index.isLt
  apply BitVec.eq_of_toNat_eq
  rw [ofBytes_toNat, BitVec.toNat_add, BitVec.toNat_add, BitVec.toNat_add, carry_toNat,
    ofBytes_toNat, BitVec.toNat_setWidth_of_le (by omega)]
  omega

/-- The carry marks a crossed page. -/
theorem carry_eq_zero : carry low index = 0 ↔
    u16GetByte (ofBytes low high + index.setWidth 16) 1 = u16GetByte (ofBytes low high) 1 := by
  rw [← ofBytes_add_index, getByte_one_ofBytes, getByte_one_ofBytes]
  constructor
  · intro hzero
    rw [hzero]
    exact BitVec.add_zero high
  · intro hkeep
    exact (BitVec.add_right_inj high).mp (hkeep.trans (BitVec.add_zero high).symm)

end indexed

end Qe6502
