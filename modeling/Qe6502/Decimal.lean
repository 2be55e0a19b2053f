import Qe6502.Lib.Carries
import Qe6502.Exits

/-!
# Decimal arithmetic

Each of the four decimal routines of `qe6502.c` adds or subtracts one packed-BCD byte: the
relation `Adds` says so, with the C flag as the carry.  A program that threads C through P adds
numbers of any length (`decimal_chains`).
-/

namespace Qe6502

/-- The number that a packed-BCD byte stands for. -/
def bcd (b : Byte) : ℕ := 10 * (b.toNat / 16) + b.toNat % 16

/-- Both nibbles are decimal digits. -/
structure Bcd (b : Byte) : Prop where
  low : b.toNat % 16 ≤ 9
  high : b.toNat / 16 ≤ 9

theorem Bcd.lt {b : Byte} (h : Bcd b) : bcd b < 100 := by
  obtain ⟨hlow, hhigh⟩ := h
  rw [bcd]
  omega

theorem Bcd.inj {a b : Byte} (ha : Bcd a) (hb : Bcd b) (h : bcd a = bcd b) : a = b := by
  obtain ⟨hal, hah⟩ := ha
  obtain ⟨hbl, hbh⟩ := hb
  rw [bcd, bcd] at h
  apply BitVec.eq_of_toNat_eq
  omega

theorem bcd_of_toNat {b : Byte} {h l : ℕ} (hh : h ≤ 9) (hl : l ≤ 9) (hb : b.toNat = 16 * h + l) :
    Bcd b ∧ bcd b = 10 * h + l := by
  refine ⟨⟨?_, ?_⟩, ?_⟩
  · omega
  · omega
  · rw [bcd]
    omega

/-! ### Nibbles and the C flag -/

theorem and_low (b : Byte) : (b &&& 0x0F).toNat = b.toNat % 16 := by
  rw [BitVec.toNat_and]
  exact Nat.and_two_pow_sub_one_eq_mod b.toNat 4

theorem and_high : ∀ b : Byte, (b &&& 0xF0).toNat = b.toNat / 16 * 16 := by decide

theorem shift_high (b : Byte) : (b >>> 4).toNat = b.toNat / 16 := by
  rw [BitVec.toNat_ushiftRight, Nat.shiftRight_eq_div_pow]

theorem join_nibbles (h l : Byte) :
    ((h <<< 4) ||| (l &&& 0x0F)).toNat = h.toNat % 16 * 16 + l.toNat % 16 := by
  have hl : l.toNat % 16 < 2 ^ 4 := Nat.mod_lt _ (by decide)
  have hmod : h.toNat * 2 ^ 4 % 2 ^ 8 = (h.toNat % 16) <<< 4 := by
    rw [Nat.shiftLeft_eq]
    omega
  rw [BitVec.toNat_or, BitVec.toNat_shiftLeft, and_low, Nat.shiftLeft_eq, hmod,
    ← Nat.shiftLeft_add_eq_or_of_lt hl, Nat.shiftLeft_eq]

/-- The C flag. -/
def carryFlag (cpu : Cpu) : Bool := cpu.p.getLsbD 0

theorem carryIn_eq (cpu : Cpu) : carryIn cpu = if carryFlag cpu then 1 else 0 := by
  have hbit : ∀ p : Byte, p &&& flagC ≠ 0 ↔ p.getLsbD 0 = true := by decide
  exact if_congr (hbit cpu.p) rfl rfl

theorem carryIn_toNat (cpu : Cpu) : (carryIn cpu).toNat = (carryFlag cpu).toNat := by
  rw [carryIn_eq]
  cases carryFlag cpu <;> rfl

theorem flagZIf_carry (c : Bool) : (flagZIf c).getLsbD 0 = false := by cases c <;> decide

theorem flagVIf_carry (c : Bool) : (flagVIf c).getLsbD 0 = false := by cases c <;> decide

theorem flagC_bit : flagC.getLsbD 0 = true := by decide

theorem not_flagC_bit : (~~~flagC).getLsbD 0 = false := by decide

theorem and_flagN_bit (b : Byte) : (b &&& flagN).getLsbD 0 = false := by
  have hn : flagN.getLsbD 0 = false := by decide
  rw [BitVec.getLsbD_and, hn, Bool.and_false]

theorem carryFlag_update (cpu : Cpu) (flags a : Byte) :
    carryFlag { updateFlagsCvzn cpu flags with a := a } = flags.getLsbD 0 := by
  have hmask : (flagC ||| flagZ ||| flagV ||| flagN).getLsbD 0 = true := by decide
  simp only [carryFlag, updateFlagsCvzn, BitVec.getLsbD_or, BitVec.getLsbD_and,
    BitVec.getLsbD_not, hmask]
  simp

/-! ### One byte -/

/-- A step from one context to the next: the byte `z` and the carry `c'` are the sum of `x`, `y`
and the carry `c`. -/
def Adds (x y : Byte) (c : ℕ) (z : Byte) (c' : ℕ) : Prop :=
  bcd x + bcd y + c = bcd z + 100 * c'

/-- The carry and the borrow of a context. -/
def carryOf (cpu : Cpu) : ℕ := (carryFlag cpu).toNat

def borrowOf (cpu : Cpu) : ℕ := (!carryFlag cpu).toNat

theorem carryOf_update (cpu : Cpu) (flags a : Byte) :
    carryOf { updateFlagsCvzn cpu flags with a := a } = (flags.getLsbD 0).toNat :=
  congrArg Bool.toNat (carryFlag_update cpu flags a)

theorem borrowOf_update (cpu : Cpu) (flags a : Byte) :
    borrowOf { updateFlagsCvzn cpu flags with a := a } = (!flags.getLsbD 0).toNat :=
  congrArg (fun b => (!b).toNat) (carryFlag_update cpu flags a)

section digits

variable {cpu : Cpu} {value : Byte} (ha : Bcd cpu.a) (hv : Bcd value)

include ha hv

/-- The low digit of the NMOS sum is corrected first. -/
theorem adc_low_digit : ∃ low high : Byte,
    (if (cpu.a &&& 0x0F) + (value &&& 0x0F) + carryIn cpu > 9 then
        ((cpu.a &&& 0x0F) + (value &&& 0x0F) + carryIn cpu - 10, (cpu.a >>> 4) + (value >>> 4) + 1)
      else ((cpu.a &&& 0x0F) + (value &&& 0x0F) + carryIn cpu, (cpu.a >>> 4) + (value >>> 4))) =
        (low, high) ∧
      low.toNat ≤ 9 ∧ high.toNat ≤ 19 ∧
        10 * high.toNat + low.toNat = bcd cpu.a + bcd value + carryOf cpu := by
  obtain ⟨hal, hah⟩ := ha
  obtain ⟨hvl, hvh⟩ := hv
  have hcarry : carryOf cpu ≤ 1 := Bool.toNat_le (carryFlag cpu)
  generalize hlow : (cpu.a &&& 0x0F) + (value &&& 0x0F) + carryIn cpu = low
  generalize hhigh : (cpu.a >>> 4) + (value >>> 4) = high
  have hlow' : low.toNat = cpu.a.toNat % 16 + value.toNat % 16 + carryOf cpu := by
    rw [← hlow, BitVec.toNat_add, BitVec.toNat_add, and_low, and_low, carryIn_toNat, ← carryOf]
    omega
  have hhigh' : high.toNat = cpu.a.toNat / 16 + value.toNat / 16 := by
    rw [← hhigh, BitVec.toNat_add, shift_high, shift_high]
    omega
  rw [bcd, bcd]
  by_cases hl : low > 9
  · exact ⟨_, _, if_pos hl, by bv_omega, by bv_omega, by bv_omega⟩
  · exact ⟨_, _, if_neg hl, by bv_omega, by bv_omega, by bv_omega⟩

theorem adcDecimalNmos_adds : Bcd (adcDecimalNmos cpu value).a ∧
    Adds cpu.a value (carryOf cpu) (adcDecimalNmos cpu value).a
      (carryOf (adcDecimalNmos cpu value)) := by
  obtain ⟨low, high, hdigits, hlow, hhigh, hsum⟩ := adc_low_digit ha hv
  rw [Adds, ← hsum]
  dsimp only [adcDecimalNmos]
  rw [hdigits]
  dsimp only
  have hjoin := join_nibbles high low
  generalize (high <<< 4) ||| (low &&& 0x0F) = result at hjoin ⊢
  by_cases hh : high > 9
  · obtain ⟨hbcd, hvalue⟩ := bcd_of_toNat (b := result - 10 * 16) (h := high.toNat - 10)
      (l := low.toNat) (by omega) hlow (by bv_omega)
    have hcarry : 10 ≤ high.toNat := by bv_omega
    rw [if_pos hh, carryOf_update, BitVec.getLsbD_or, flagC_bit, Bool.or_true, hvalue]
    refine ⟨hbcd, ?_⟩
    rw [Bool.toNat_true]
    omega
  · obtain ⟨hbcd, hvalue⟩ := bcd_of_toNat (b := result) (h := high.toNat) (l := low.toNat)
      (by bv_omega) hlow (by bv_omega)
    rw [if_neg hh, carryOf_update, BitVec.getLsbD_or, BitVec.getLsbD_or, flagZIf_carry,
      flagVIf_carry, and_flagN_bit, hvalue]
    exact ⟨hbcd, rfl⟩

/-- The low digit of the NMOS difference is corrected first; the digits are signed. -/
theorem sbc_low_digit : ∃ low high : Byte,
    (if ((cpu.a &&& 0x0F) - (value &&& 0x0F) - if carryIn cpu = 0 then 1 else 0 : Byte).toInt < 0
      then
        ((cpu.a &&& 0x0F) - (value &&& 0x0F) - (if carryIn cpu = 0 then 1 else 0) + 10,
          (cpu.a >>> 4) - (value >>> 4) - 1)
      else ((cpu.a &&& 0x0F) - (value &&& 0x0F) - if carryIn cpu = 0 then 1 else 0,
        (cpu.a >>> 4) - (value >>> 4))) = (low, high) ∧
      low.toNat ≤ 9 ∧ -10 ≤ high.toInt ∧ high.toInt ≤ 9 ∧
        10 * high.toInt + low.toNat + bcd value + borrowOf cpu = bcd cpu.a := by
  obtain ⟨hal, hah⟩ := ha
  obtain ⟨hvl, hvh⟩ := hv
  have hborrow : (if carryIn cpu = 0 then 1 else 0 : Byte).toNat = borrowOf cpu ∧
      borrowOf cpu ≤ 1 := by
    rw [carryIn_eq, borrowOf]
    cases carryFlag cpu <;> decide
  obtain ⟨hborrow, hle⟩ := hborrow
  have hsub := and_low cpu.a
  have hsub' := and_low value
  have hhigh := shift_high cpu.a
  have hhigh' := shift_high value
  generalize (if carryIn cpu = 0 then 1 else 0 : Byte) = borrow at hborrow ⊢
  generalize cpu.a &&& 0x0F = al at hsub ⊢
  generalize value &&& 0x0F = vl at hsub' ⊢
  generalize cpu.a >>> 4 = ah at hhigh ⊢
  generalize value >>> 4 = vh at hhigh' ⊢
  rw [bcd, bcd]
  by_cases hl : (al - vl - borrow).toInt < 0
  · refine ⟨_, _, if_pos hl, ?_, ?_, ?_, ?_⟩ <;> rw [BitVec.toInt_eq_toNat_cond] at * <;> bv_omega
  · refine ⟨_, _, if_neg hl, ?_, ?_, ?_, ?_⟩ <;> rw [BitVec.toInt_eq_toNat_cond] at * <;> bv_omega

theorem sbcDecimalNmos_adds : Bcd (sbcDecimalNmos cpu value).a ∧
    Adds (sbcDecimalNmos cpu value).a value (borrowOf cpu) cpu.a
      (borrowOf (sbcDecimalNmos cpu value)) := by
  obtain ⟨low, high, hdigits, hlow, hge, hle, hsum⟩ := sbc_low_digit ha hv
  rw [Adds, ← Nat.cast_inj (R := ℤ)]
  push_cast
  rw [← hsum]
  dsimp only [sbcDecimalNmos]
  rw [hdigits]
  dsimp only
  have hjoin := join_nibbles high low
  have hhigh := BitVec.toInt_eq_toNat_cond high
  generalize (high <<< 4) ||| (low &&& 0x0F) = result at hjoin ⊢
  by_cases hh : high.toInt < 0
  · obtain ⟨hbcd, hvalue⟩ := bcd_of_toNat (b := result + 10 * 16) (h := high.toNat - 246)
      (l := low.toNat) (by bv_omega) hlow (by bv_omega)
    rw [if_pos hh, borrowOf_update, BitVec.getLsbD_and, not_flagC_bit, Bool.and_false,
      hvalue]
    refine ⟨hbcd, ?_⟩
    rw [Bool.not_false, Bool.toNat_true]
    bv_omega
  · obtain ⟨hbcd, hvalue⟩ := bcd_of_toNat (b := result) (h := high.toNat) (l := low.toNat)
      (by bv_omega) hlow (by bv_omega)
    rw [if_neg hh, borrowOf_update, BitVec.getLsbD_or, BitVec.getLsbD_or,
      BitVec.getLsbD_or, flagC_bit, hvalue]
    refine ⟨hbcd, ?_⟩
    simp only [Bool.true_or, Bool.not_true, Bool.toNat_false]
    bv_omega

/-- The low digit of the CMOS sum carries into the sixteen-bit sum. -/
theorem adc_low_sum : ∃ low : Word,
    (if (cpu.a &&& 0x0F).setWidth 16 + (value &&& 0x0F).setWidth 16 + (carryIn cpu).setWidth 16 ≥
          0x000A#16 then
        0x0010#16 ||| (((cpu.a &&& 0x0F).setWidth 16 + (value &&& 0x0F).setWidth 16 +
          (carryIn cpu).setWidth 16 + 6) &&& 0x000F)
      else (cpu.a &&& 0x0F).setWidth 16 + (value &&& 0x0F).setWidth 16 +
        (carryIn cpu).setWidth 16) = low ∧ low.toNat % 16 ≤ 9 ∧ low.toNat / 16 ≤ 1 ∧
      10 * (low.toNat / 16) + low.toNat % 16 =
        cpu.a.toNat % 16 + value.toNat % 16 + carryOf cpu := by
  have hlow := ha.low
  have hlow' := hv.low
  have hcarry : carryOf cpu ≤ 1 := Bool.toNat_le (carryFlag cpu)
  generalize hsum : (cpu.a &&& 0x0F).setWidth 16 + (value &&& 0x0F).setWidth 16 +
    (carryIn cpu).setWidth 16 = sum
  have hsum' : (sum : Word).toNat = cpu.a.toNat % 16 + value.toNat % 16 + carryOf cpu := by
    rw [← hsum, BitVec.toNat_add, BitVec.toNat_add, BitVec.toNat_setWidth_of_le (by omega),
      BitVec.toNat_setWidth_of_le (by omega), BitVec.toNat_setWidth_of_le (by omega), and_low,
      and_low, carryIn_toNat, ← carryOf]
    omega
  by_cases hl : sum ≥ 0x000A#16
  · have hor : (0x0010#16 ||| ((sum + 6) &&& 0x000F)).toNat = 16 + (sum + 6).toNat % 16 := by
      have hlt : (sum + 6).toNat % 16 < 2 ^ 4 := Nat.mod_lt _ (by decide)
      have hand : ((sum + 6) &&& 0x000F).toNat = (sum + 6).toNat % 16 := by
        rw [BitVec.toNat_and]
        exact Nat.and_two_pow_sub_one_eq_mod _ 4
      rw [BitVec.toNat_or, hand]
      exact (Nat.shiftLeft_add_eq_or_of_lt hlt 1).symm
    refine ⟨_, if_pos hl, ?_, ?_, ?_⟩ <;> rw [hor] <;> bv_omega
  · refine ⟨_, if_neg hl, ?_, ?_, ?_⟩ <;> bv_omega

theorem adcDecimalCmos_adds : Bcd (adcDecimalCmos cpu value).a ∧
    Adds cpu.a value (carryOf cpu) (adcDecimalCmos cpu value).a
      (carryOf (adcDecimalCmos cpu value)) := by
  obtain ⟨low, hdigit, hlow, hone, hsum⟩ := adc_low_sum ha hv
  have hhigh := ha.high
  have hhigh' := hv.high
  rw [Adds]
  dsimp only [adcDecimalCmos]
  rw [hdigit]
  generalize hr : low + (cpu.a &&& 0xF0).setWidth 16 + (value &&& 0xF0).setWidth 16 = result
  have hr' : result.toNat = low.toNat + cpu.a.toNat / 16 * 16 + value.toNat / 16 * 16 := by
    rw [← hr, BitVec.toNat_add, BitVec.toNat_add, BitVec.toNat_setWidth_of_le (by omega),
      BitVec.toNat_setWidth_of_le (by omega), and_high, and_high]
    omega
  by_cases hh : result ≥ 0x00A0#16
  · have hresult : ((result + 0x0060).setWidth 8 : Byte).toNat = result.toNat + 96 - 256 := by
      bv_omega
    obtain ⟨hbcd, hvalue⟩ := bcd_of_toNat (b := (result + 0x0060).setWidth 8)
      (h := (result.toNat - 160) / 16) (l := low.toNat % 16) (by bv_omega) hlow (by bv_omega)
    rw [if_pos hh]
    dsimp only
    rw [carryOf_update, BitVec.getLsbD_or, BitVec.getLsbD_or, BitVec.getLsbD_or, flagC_bit, hvalue]
    refine ⟨hbcd, ?_⟩
    simp only [Bool.true_or, Bool.toNat_true]
    rw [bcd, bcd]
    bv_omega
  · have hresult : (result.setWidth 8 : Byte).toNat = result.toNat := by bv_omega
    obtain ⟨hbcd, hvalue⟩ := bcd_of_toNat (b := result.setWidth 8) (h := result.toNat / 16)
      (l := low.toNat % 16) (by bv_omega) hlow (by bv_omega)
    rw [if_neg hh]
    dsimp only
    rw [carryOf_update, BitVec.getLsbD_or, BitVec.getLsbD_or, flagVIf_carry, flagZIf_carry,
      and_flagN_bit, hvalue]
    refine ⟨hbcd, ?_⟩
    simp only [Bool.or_self, Bool.toNat_false]
    rw [bcd, bcd]
    omega

/-- The low digit of the CMOS difference borrows from the sixteen-bit high digit. -/
theorem sbc_low_difference : ∃ (low : Byte) (high : Word),
    (if 0x0F + (cpu.a &&& 0x0F) - (value &&& 0x0F) + carryIn cpu < 0x10#8 then
        (0x0F + (cpu.a &&& 0x0F) - (value &&& 0x0F) + carryIn cpu - 0x06,
          (cpu.a &&& 0xF0).setWidth 16 - (value &&& 0xF0).setWidth 16)
      else (0x0F + (cpu.a &&& 0x0F) - (value &&& 0x0F) + carryIn cpu - 0x10,
        (cpu.a &&& 0xF0).setWidth 16 - (value &&& 0xF0).setWidth 16 + 0x0010)) = (low, high) ∧
      low.toNat ≤ 9 ∧ (high + 0x00F0).toNat % 16 = 0 ∧ 0x60 ≤ (high + 0x00F0).toNat ∧
        (high + 0x00F0).toNat ≤ 0x190 ∧
        10 * ((high + 0x00F0).toNat / 16) + low.toNat + bcd value + borrowOf cpu =
          160 + bcd cpu.a := by
  obtain ⟨hal, hah⟩ := ha
  obtain ⟨hvl, hvh⟩ := hv
  have hcarry := carryIn_toNat cpu
  have hborrow : (carryFlag cpu).toNat + borrowOf cpu = 1 := by
    rw [borrowOf]
    cases carryFlag cpu <;> rfl
  generalize hlow : 0x0F + (cpu.a &&& 0x0F) - (value &&& 0x0F) + carryIn cpu = low
  generalize hhigh : (cpu.a &&& 0xF0).setWidth 16 - (value &&& 0xF0).setWidth 16 = high
  have hlow' : low.toNat + value.toNat % 16 + borrowOf cpu = 16 + cpu.a.toNat % 16 := by
    have hsub := and_low cpu.a
    have hsub' := and_low value
    rw [← hlow]
    generalize cpu.a &&& 0x0F = al at hsub ⊢
    generalize value &&& 0x0F = vl at hsub' ⊢
    bv_omega
  have hhigh' : high.toNat = (65536 + cpu.a.toNat / 16 * 16 - value.toNat / 16 * 16) % 65536 := by
    rw [← hhigh, BitVec.toNat_sub, BitVec.toNat_setWidth_of_le (by omega),
      BitVec.toNat_setWidth_of_le (by omega), and_high, and_high]
    omega
  rw [bcd, bcd]
  by_cases hl : low < 0x10#8
  · refine ⟨_, _, if_pos hl, ?_, ?_, ?_, ?_, ?_⟩ <;> bv_omega
  · refine ⟨_, _, if_neg hl, ?_, ?_, ?_, ?_, ?_⟩ <;> bv_omega

theorem sbcDecimalCmos_adds : Bcd (sbcDecimalCmos cpu value).a ∧
    Adds (sbcDecimalCmos cpu value).a value (borrowOf cpu) cpu.a
      (borrowOf (sbcDecimalCmos cpu value)) := by
  obtain ⟨low, high, hdigits, hlow, hmod, hge, hle, hsum⟩ := sbc_low_difference ha hv
  rw [Adds]
  dsimp only [sbcDecimalCmos]
  rw [hdigits]
  dsimp only
  generalize high + 0x00F0 = high' at hmod hge hle hsum ⊢
  by_cases hh : high' < 0x0100#16
  · obtain ⟨hbcd, hvalue⟩ := bcd_of_toNat (b := (high' - 0x0060 + low.setWidth 16).setWidth 8)
      (h := high'.toNat / 16 - 6) (l := low.toNat) (by bv_omega) hlow (by bv_omega)
    rw [if_pos hh]
    dsimp only
    rw [borrowOf_update, BitVec.getLsbD_or, BitVec.getLsbD_or, flagVIf_carry, flagZIf_carry,
      and_flagN_bit, hvalue]
    refine ⟨hbcd, ?_⟩
    simp only [Bool.or_self, Bool.not_false, Bool.toNat_true]
    bv_omega
  · obtain ⟨hbcd, hvalue⟩ := bcd_of_toNat (b := (high' + low.setWidth 16).setWidth 8)
      (h := high'.toNat / 16 - 16) (l := low.toNat) (by bv_omega) hlow (by bv_omega)
    rw [if_neg hh]
    dsimp only
    rw [borrowOf_update, BitVec.getLsbD_or, BitVec.getLsbD_or, BitVec.getLsbD_or, flagC_bit,
      hvalue]
    refine ⟨hbcd, ?_⟩
    simp only [Bool.or_true, Bool.true_or, Bool.not_true, Bool.toNat_false]
    bv_omega

end digits

/-! ### Numbers of many bytes -/

/-- A routine applied byte by byte, from the least significant end, with P carried along. -/
def chain (op : Cpu → Byte → Cpu) : Cpu → List (Byte × Byte) → List Byte × Cpu
  | cpu, [] => ([], cpu)
  | cpu, (x, y) :: rest =>
    let cpu := op { cpu with a := x } y
    let (bytes, last) := chain op cpu rest
    (cpu.a :: bytes, last)

/-- The number that packed-BCD bytes stand for. -/
def number (bytes : List Byte) : ℕ := Nat.ofDigits 100 (bytes.map bcd)

/-- The bytes of a number. -/
abbrev Packed (bytes : List Byte) : Prop := ∀ b ∈ bytes, Bcd b

variable {op : Cpu → Byte → Cpu}

theorem Packed.digits {bytes : List Byte} (h : Packed bytes) : ∀ d ∈ bytes.map bcd, d < 100 := by
  intro d hd
  obtain ⟨b, hb, rfl⟩ := List.mem_map.mp hd
  exact (h b hb).lt

theorem Packed.inj : ∀ {a b : List Byte}, Packed a → Packed b → a.map bcd = b.map bcd → a = b := by
  intro a
  induction a with
  | nil =>
    intro b _ _ h
    exact (List.map_eq_nil_iff.mp h.symm).symm
  | cons x a ih =>
    intro b ha hb h
    cases b with
    | nil => cases h
    | cons y b =>
      rw [List.map_cons, List.map_cons, List.cons.injEq] at h
      rw [(ha x List.mem_cons_self).inj (hb y List.mem_cons_self) h.1,
        ih (fun z hz => ha z (List.mem_cons_of_mem x hz))
          (fun z hz => hb z (List.mem_cons_of_mem y hz)) h.2]

/-- The routine adds packed bytes. -/
structure Adder (op : Cpu → Byte → Cpu) : Prop where
  adds : ∀ {cpu : Cpu} {value : Byte}, Bcd cpu.a → Bcd value →
    Bcd (op cpu value).a ∧ Adds cpu.a value (carryOf cpu) (op cpu value).a (carryOf (op cpu value))

/-- The routine subtracts packed bytes. -/
structure Subtracter (op : Cpu → Byte → Cpu) : Prop where
  subtracts : ∀ {cpu : Cpu} {value : Byte}, Bcd cpu.a → Bcd value →
    Bcd (op cpu value).a ∧
      Adds (op cpu value).a value (borrowOf cpu) cpu.a (borrowOf (op cpu value))

theorem chain_adds (hop : Adder op) : ∀ {a b : List Byte} (cpu : Cpu), a.length = b.length →
    Packed a → Packed b → Packed (chain op cpu (a.zip b)).1 ∧
      Carries 100 (carryOf cpu) (a.map bcd) (b.map bcd) ((chain op cpu (a.zip b)).1.map bcd)
        (carryOf (chain op cpu (a.zip b)).2) := by
  intro a
  induction a with
  | nil =>
    intro b cpu hlen _ _
    obtain rfl := List.length_eq_zero_iff.mp hlen.symm
    exact ⟨fun _ h => (nomatch h), .nil _⟩
  | cons x a ih =>
    intro b cpu hlen ha hb
    cases b with
    | nil => cases hlen
    | cons y b =>
      obtain ⟨hbyte, hadds⟩ := @hop.adds { cpu with a := x } y (ha x List.mem_cons_self)
        (hb y List.mem_cons_self)
      obtain ⟨hbytes, hrest⟩ := ih (op { cpu with a := x } y) (Nat.succ.inj hlen)
        (fun z hz => ha z (List.mem_cons_of_mem x hz))
        (fun z hz => hb z (List.mem_cons_of_mem y hz))
      exact ⟨List.forall_mem_cons.mpr ⟨hbyte, hbytes⟩, .cons hadds hrest⟩

theorem chain_subtracts (hop : Subtracter op) :
    ∀ {a b : List Byte} (cpu : Cpu), a.length = b.length →
      Packed a → Packed b → Packed (chain op cpu (a.zip b)).1 ∧
        Carries 100 (borrowOf cpu) ((chain op cpu (a.zip b)).1.map bcd) (b.map bcd) (a.map bcd)
          (borrowOf (chain op cpu (a.zip b)).2) := by
  intro a
  induction a with
  | nil =>
    intro b cpu hlen _ _
    obtain rfl := List.length_eq_zero_iff.mp hlen.symm
    exact ⟨fun _ h => (nomatch h), .nil _⟩
  | cons x a ih =>
    intro b cpu hlen ha hb
    cases b with
    | nil => cases hlen
    | cons y b =>
      obtain ⟨hbyte, hadds⟩ := @hop.subtracts { cpu with a := x } y (ha x List.mem_cons_self)
        (hb y List.mem_cons_self)
      obtain ⟨hbytes, hrest⟩ := ih (op { cpu with a := x } y) (Nat.succ.inj hlen)
        (fun z hz => ha z (List.mem_cons_of_mem x hz))
        (fun z hz => hb z (List.mem_cons_of_mem y hz))
      exact ⟨List.forall_mem_cons.mpr ⟨hbyte, hbytes⟩, .cons hadds hrest⟩

/-! ### Sums and differences -/

theorem carry_set (cpu : Cpu) :
    (cpu.p &&& flagC ≠ 0 ↔ 0 < carryOf cpu) ∧ (cpu.p &&& flagC ≠ 0 ↔ ¬0 < borrowOf cpu) ∧
      carryOf cpu + borrowOf cpu = 1 := by
  have hbit : ∀ p : Byte, p &&& flagC ≠ 0 ↔ p.getLsbD 0 = true := by decide
  rw [hbit cpu.p, carryOf, borrowOf, carryFlag]
  cases cpu.p.getLsbD 0 <;> decide

theorem number_inj {n : ℕ} {a b : List Byte} (hla : a.length = n) (ha : Packed a)
    (hlb : b.length = n) (hb : Packed b) (h : number a = number b) : a = b := by
  refine ha.inj hb (Nat.ofDigits_inj_of_len_eq (by decide) ?_ ha.digits hb.digits h)
  rw [List.length_map, List.length_map, hla, hlb]

theorem number_lt {n : ℕ} {a : List Byte} (hla : a.length = n) (ha : Packed a) :
    number a < 100 ^ n := by
  have hlt := Nat.ofDigits_lt_base_pow_length (by decide : 1 < 100) ha.digits
  rw [List.length_map, hla] at hlt
  exact hlt

section chains

variable {n : ℕ} {a b : List Byte} (hla : a.length = n) (hlb : b.length = n) (ha : Packed a)
  (hb : Packed b) (cpu : Cpu)

include hla hlb ha hb

/-- **A sum of two numbers.** -/
theorem Adder.number (hop : Adder op) :
    (chain op cpu (a.zip b)).1.length = n ∧ Packed (chain op cpu (a.zip b)).1 ∧
      number (chain op cpu (a.zip b)).1 = (number a + number b + carryOf cpu) % 100 ^ n ∧
        ((chain op cpu (a.zip b)).2.p &&& flagC ≠ 0 ↔
          100 ^ n ≤ number a + number b + carryOf cpu) := by
  obtain ⟨hpacked, hcarries⟩ := chain_adds hop cpu (hla.trans hlb.symm) ha hb
  have hlen : ((chain op cpu (a.zip b)).1.map bcd).length = n := by
    rw [← hcarries.lengths.1, List.length_map, hla]
  have hmod := hcarries.sum_mod (by decide) hpacked.digits
  have hcarry := hcarries.carry_pos (by decide) hpacked.digits
  rw [hlen] at hmod hcarry
  rw [List.length_map] at hlen
  exact ⟨hlen, hpacked, hmod, (carry_set _).1.trans hcarry⟩

/-- **A difference of two numbers.** -/
theorem Subtracter.number (hop : Subtracter op) :
    (chain op cpu (a.zip b)).1.length = n ∧ Packed (chain op cpu (a.zip b)).1 ∧
      (Qe6502.number (chain op cpu (a.zip b)).1 : ℤ) =
        (Qe6502.number a - Qe6502.number b - (1 - carryOf cpu)) % (100 ^ n : ℕ) ∧
        ((chain op cpu (a.zip b)).2.p &&& flagC ≠ 0 ↔
          Qe6502.number b + (1 - carryOf cpu) ≤ Qe6502.number a) := by
  obtain ⟨hpacked, hcarries⟩ := chain_subtracts hop cpu (hla.trans hlb.symm) ha hb
  have hlen : ((chain op cpu (a.zip b)).1.map bcd).length = n := by
    rw [hcarries.lengths.1, List.length_map, hla]
  have hmod := hcarries.sub_emod (by decide) hpacked.digits
  have hborrow := hcarries.borrow_pos (by decide) hpacked.digits
  obtain ⟨_, hset, _⟩ := carry_set (chain op cpu (a.zip b)).2
  obtain ⟨_, _, hsum⟩ := carry_set cpu
  have hsub : ((borrowOf cpu : ℕ) : ℤ) = 1 - carryOf cpu := by omega
  have hsub' : borrowOf cpu = 1 - carryOf cpu := by omega
  rw [List.length_map, hla, hsub] at hmod
  rw [hsub'] at hborrow
  rw [List.length_map] at hlen
  exact ⟨hlen, hpacked, hmod, hset.trans ((not_congr hborrow).trans not_lt)⟩

/-- Two adders agree on packed numbers. -/
theorem Adder.unique {op' : Cpu → Byte → Cpu} (hop : Adder op) (hop' : Adder op') :
    (chain op cpu (a.zip b)).1 = (chain op' cpu (a.zip b)).1 ∧
      ((chain op cpu (a.zip b)).2.p &&& flagC ≠ 0 ↔
        (chain op' cpu (a.zip b)).2.p &&& flagC ≠ 0) := by
  obtain ⟨hlen, hpacked, hnumber, hcarry⟩ := hop.number hla hlb ha hb cpu
  obtain ⟨hlen', hpacked', hnumber', hcarry'⟩ := hop'.number hla hlb ha hb cpu
  exact ⟨number_inj hlen hpacked hlen' hpacked' (hnumber.trans hnumber'.symm),
    hcarry.trans hcarry'.symm⟩

/-- Two subtracters agree on packed numbers. -/
theorem Subtracter.unique {op' : Cpu → Byte → Cpu} (hop : Subtracter op) (hop' : Subtracter op') :
    (chain op cpu (a.zip b)).1 = (chain op' cpu (a.zip b)).1 ∧
      ((chain op cpu (a.zip b)).2.p &&& flagC ≠ 0 ↔
        (chain op' cpu (a.zip b)).2.p &&& flagC ≠ 0) := by
  obtain ⟨hlen, hpacked, hnumber, hcarry⟩ := hop.number hla hlb ha hb cpu
  obtain ⟨hlen', hpacked', hnumber', hcarry'⟩ := hop'.number hla hlb ha hb cpu
  have hnum := Int.natCast_inj.mp (hnumber.trans hnumber'.symm)
  exact ⟨number_inj hlen hpacked hlen' hpacked' hnum, hcarry.trans hcarry'.symm⟩

/-- **A summand subtracted from a sum** gives the other summand. -/
theorem Subtracter.cancels {add sub : Cpu → Byte → Cpu} (hadd : Adder add)
    (hsub : Subtracter sub) {cpu' : Cpu} (hclear : carryOf cpu = 0) (hset : carryOf cpu' = 1) :
    (chain sub cpu' ((chain add cpu (a.zip b)).1.zip b)).1 = a := by
  obtain ⟨hlen, hpacked, hnumber, _⟩ := hadd.number hla hlb ha hb cpu
  obtain ⟨hlen', hpacked', hnumber', _⟩ := hsub.number hlen hlb hpacked hb cpu'
  have hlt := number_lt hla ha
  rw [hnumber, hclear, hset, Nat.add_zero] at hnumber'
  refine number_inj hlen' hpacked' hla ha ?_
  rw [← Int.natCast_inj, hnumber']
  push_cast
  rw [sub_zero, Int.emod_sub_emod, add_sub_cancel_right]
  exact Int.emod_eq_of_lt (by omega) (by exact_mod_cast hlt)

end chains

/-- The decimal routines. -/
def decimalAdders : List (Cpu → Byte → Cpu) := [adcDecimalNmos, adcDecimalCmos]

def decimalSubtracters : List (Cpu → Byte → Cpu) := [sbcDecimalNmos, sbcDecimalCmos]

theorem adder_of_mem (h : op ∈ decimalAdders) : Adder op := by
  rcases List.mem_pair.mp h with rfl | rfl
  · exact ⟨adcDecimalNmos_adds⟩
  · exact ⟨adcDecimalCmos_adds⟩

theorem subtracter_of_mem (h : op ∈ decimalSubtracters) : Subtracter op := by
  rcases List.mem_pair.mp h with rfl | rfl
  · exact ⟨sbcDecimalNmos_adds⟩
  · exact ⟨sbcDecimalCmos_adds⟩

/-- **Decimal arithmetic of any length.**  On packed numbers of `n` bytes the adders of both
families give the sum modulo `100 ^ n`, with C set when it does not fit, and the subtracters the
difference, with C set when nothing is borrowed.  So the families agree, and a summand taken from
a sum gives the other summand. -/
theorem decimal_chains {n : ℕ} {a b : List Byte} (hla : a.length = n) (hlb : b.length = n)
    (ha : Packed a) (hb : Packed b) (cpu : Cpu) :
    (∀ adc ∈ decimalAdders, (chain adc cpu (a.zip b)).1.length = n ∧
      Packed (chain adc cpu (a.zip b)).1 ∧
      number (chain adc cpu (a.zip b)).1 = (number a + number b + carryOf cpu) % 100 ^ n ∧
      ((chain adc cpu (a.zip b)).2.p &&& flagC ≠ 0 ↔
        100 ^ n ≤ number a + number b + carryOf cpu)) ∧
    (∀ sbc ∈ decimalSubtracters, (chain sbc cpu (a.zip b)).1.length = n ∧
      Packed (chain sbc cpu (a.zip b)).1 ∧
      (number (chain sbc cpu (a.zip b)).1 : ℤ) =
        (number a - number b - (1 - carryOf cpu)) % (100 ^ n : ℕ) ∧
      ((chain sbc cpu (a.zip b)).2.p &&& flagC ≠ 0 ↔
        number b + (1 - carryOf cpu) ≤ number a)) ∧
    ((chain adcDecimalNmos cpu (a.zip b)).1 = (chain adcDecimalCmos cpu (a.zip b)).1 ∧
      ((chain adcDecimalNmos cpu (a.zip b)).2.p &&& flagC ≠ 0 ↔
        (chain adcDecimalCmos cpu (a.zip b)).2.p &&& flagC ≠ 0)) ∧
    ((chain sbcDecimalNmos cpu (a.zip b)).1 = (chain sbcDecimalCmos cpu (a.zip b)).1 ∧
      ((chain sbcDecimalNmos cpu (a.zip b)).2.p &&& flagC ≠ 0 ↔
        (chain sbcDecimalCmos cpu (a.zip b)).2.p &&& flagC ≠ 0)) ∧
    ∀ adc ∈ decimalAdders, ∀ sbc ∈ decimalSubtracters, ∀ cpu' : Cpu,
      cpu.p &&& flagC = 0 → cpu'.p &&& flagC ≠ 0 →
        (chain sbc cpu' ((chain adc cpu (a.zip b)).1.zip b)).1 = a := by
  have hnmos : Adder adcDecimalNmos := adder_of_mem List.mem_cons_self
  have hcmos : Adder adcDecimalCmos := adder_of_mem (List.mem_pair.mpr (.inr rfl))
  have hnmos' : Subtracter sbcDecimalNmos := subtracter_of_mem List.mem_cons_self
  have hcmos' : Subtracter sbcDecimalCmos := subtracter_of_mem (List.mem_pair.mpr (.inr rfl))
  refine ⟨fun adc hadc => (adder_of_mem hadc).number hla hlb ha hb cpu,
    fun sbc hsbc => (subtracter_of_mem hsbc).number hla hlb ha hb cpu,
    hnmos.unique hla hlb ha hb cpu hcmos, hnmos'.unique hla hlb ha hb cpu hcmos', ?_⟩
  intro adc hadc sbc hsbc cpu' hclear hset
  have hzero : carryOf cpu = 0 :=
    Nat.eq_zero_of_not_pos fun hpos => (carry_set cpu).1.mpr hpos hclear
  have hone : carryOf cpu' = 1 := by
    have hpos := (carry_set cpu').1.mp hset
    have hle : carryOf cpu' ≤ 1 := Bool.toNat_le (carryFlag cpu')
    omega
  exact (subtracter_of_mem hsbc).cancels hla hlb ha hb cpu (adder_of_mem hadc) hzero hone

theorem decimal_chains_carry :
    (chain adcDecimalNmos blankCpu [(0x99, 0x01), (0x09, 0x90)]).1 = [0x00, 0x00] ∧
      (chain adcDecimalNmos blankCpu [(0x99, 0x01), (0x09, 0x90)]).1 =
        (chain adcDecimalCmos blankCpu [(0x99, 0x01), (0x09, 0x90)]).1 := by
  have ha : Packed [0x99, 0x09] := by
    intro b hb
    rcases List.mem_pair.mp hb with rfl | rfl <;> exact ⟨by decide, by decide⟩
  have hb : Packed [0x01, 0x90] := by
    intro b hb
    rcases List.mem_pair.mp hb with rfl | rfl <;> exact ⟨by decide, by decide⟩
  exact ⟨rfl, (decimal_chains (n := 2) rfl rfl ha hb blankCpu).2.2.1.1⟩

end Qe6502
