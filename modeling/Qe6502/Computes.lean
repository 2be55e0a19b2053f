import Qe6502.Interpreter
import Qe6502.Decimal
import Mathlib.Tactic.IntervalCases

/-!
# The operations compute

The operations of the handlers, which set flags with masks of a byte and add in sixteen bits, are
those of the interpreter: `Load.effect_reads`, `Modify.effect_modifies`, `Implied.effect_works`.
-/

namespace Qe6502

/-! ### Flags -/

theorem and_flagN (value : Byte) : value &&& flagN = if value.msb then flagN else 0 := by
  revert value
  decide

theorem flagN_ne (value : Byte) : decide (value &&& flagN ≠ 0) = value.msb := by
  revert value
  decide

theorem bit0_ne (value : Byte) : decide (value &&& 1 ≠ 0) = value.getLsbD 0 := by
  revert value
  decide

/-- The flags under a mask are replaced one by one. -/
theorem put_cvzn (p : Byte) (c z v n : Bool) :
    (p &&& ~~~(flagC ||| flagZ ||| flagV ||| flagN)) |||
        ((flagCIf c ||| flagZIf z ||| (if n then flagN else 0) ||| flagVIf v) &&&
          (flagC ||| flagZ ||| flagV ||| flagN)) =
      putFlag (putFlag (putFlag (putFlag p flagC c) flagV v) flagZ z) flagN n := by
  simp only [putFlag, flagCIf, flagZIf, flagVIf, flagC, flagZ, flagV, flagN]
  ext i hi
  interval_cases i <;> cases c <;> cases z <;> cases v <;> cases n <;> simp

theorem put_nzc (p : Byte) (c z n : Bool) :
    (p &&& ~~~(flagC ||| flagZ ||| flagN)) |||
        (flagCIf c &&& flagC ||| flagZIf z ||| (if n then flagN else 0)) =
      putFlag (putFlag (putFlag p flagC c) flagZ z) flagN n := by
  simp only [putFlag, flagCIf, flagZIf, flagC, flagZ, flagN]
  ext i hi
  interval_cases i <;> cases c <;> cases z <;> cases n <;> simp

theorem put_nz (p : Byte) (z n : Bool) :
    (p &&& ~~~(flagZ ||| flagN)) ||| (flagZIf z ||| (if n then flagN else 0)) =
      putFlag (putFlag p flagZ z) flagN n := by
  simp only [putFlag, flagZIf, flagZ, flagN]
  ext i hi
  interval_cases i <;> cases z <;> cases n <;> simp

theorem updateFlagsNz_p (cpu : Cpu) (value : Byte) :
    (updateFlagsNz cpu value).p = putNz cpu.p value := by
  rw [updateFlagsNz, and_flagN]
  exact put_nz _ _ _

theorem updateFlagsNzc_p (cpu : Cpu) (value : Byte) (c : Bool) :
    (updateFlagsNzc cpu value (flagCIf c)).p = putNz (putFlag cpu.p flagC c) value := by
  rw [updateFlagsNzc, and_flagN]
  exact put_nzc _ _ _ _

theorem updateFlagsCvzn_p (cpu : Cpu) (value : Byte) (c v : Bool) :
    (updateFlagsCvzn cpu (flagCIf c ||| flagZIf (value = 0) ||| (value &&& flagN) |||
      flagVIf v)).p = putNz (putFlag (putFlag cpu.p flagC c) flagV v) value := by
  rw [updateFlagsCvzn, and_flagN]
  exact put_cvzn _ _ _ _ _

/-! ### Sums -/

theorem msb_eq (value : Byte) : value.msb = decide (128 ≤ value.toNat) := BitVec.msb_eq_decide value

/-- V is set when the operands have one sign and the sum has the other. -/
theorem overflow_adds {a value : Byte} {carry : ℕ} (hcarry : carry ≤ 1) :
    decide ((~~~(a ^^^ value) &&& (a ^^^ BitVec.ofNat 8 (a.toNat + value.toNat + carry))) &&&
      flagN ≠ 0) = Registers.overflows (a.toInt + value.toInt + carry) := by
  have ha : a.toNat < 256 := a.isLt
  have hvalue : value.toNat < 256 := value.isLt
  rw [flagN_ne, BitVec.msb_and, BitVec.msb_not, BitVec.msb_xor, BitVec.msb_xor,
    BitVec.toInt_eq_msb_cond a, BitVec.toInt_eq_msb_cond value, msb_eq, msb_eq, msb_eq,
    BitVec.toNat_ofNat, Registers.overflows, Bool.eq_iff_iff]
  by_cases hsign : 128 ≤ a.toNat <;> by_cases hsign' : 128 ≤ value.toNat <;>
    simp [hsign, hsign'] <;> omega

theorem carry_le (r : Registers) : r.carried ≤ 1 := Bool.toNat_le _

theorem carryIn_carried (r : Registers) : (carryIn (r.cpu 0)).toNat = r.carried :=
  carryIn_toNat (r.cpu 0)

theorem adcBinary_registers (r : Registers) (value : Byte) :
    (adcBinary (r.cpu 0) value).registers =
      r.summed (BitVec.ofNat 8 (r.a.toNat + value.toNat + r.carried))
        (256 ≤ r.a.toNat + value.toNat + r.carried)
        (Registers.overflows (r.a.toInt + value.toInt + r.carried)) := by
  have ha : r.a.toNat < 256 := r.a.isLt
  have hvalue : value.toNat < 256 := value.isLt
  have hcarry := carry_le r
  let sum : Word := r.a.setWidth 16 + value.setWidth 16 + (carryIn (r.cpu 0)).setWidth 16
  have hsum : sum.toNat = r.a.toNat + value.toNat + r.carried := by
    simp only [sum, BitVec.toNat_add, BitVec.toNat_setWidth, carryIn_carried]
    omega
  have hresult : sum.setWidth 8 = BitVec.ofNat 8 (r.a.toNat + value.toNat + r.carried) := by
    rw [← hsum]
    exact BitVec.eq_of_toNat_eq rfl
  have hover : decide (sum > 0x00FF#16) =
      decide (256 ≤ r.a.toNat + value.toNat + r.carried) := by
    rw [← hsum]
    exact decide_eq_decide.mpr (by bv_omega)
  have hp := updateFlagsCvzn_p (r.cpu 0) (sum.setWidth 8) (sum > 0x00FF#16)
    ((~~~(r.a ^^^ value) &&& (r.a ^^^ sum.setWidth 8)) &&& flagN ≠ 0)
  have hadc : (adcBinary (r.cpu 0) value).registers = { r with
      a := sum.setWidth 8
      p := putNz (putFlag (putFlag r.p flagC (sum > 0x00FF#16)) flagV
        ((~~~(r.a ^^^ value) &&& (r.a ^^^ sum.setWidth 8)) &&& flagN ≠ 0)) (sum.setWidth 8) } :=
    congrArg (fun p => { r with a := sum.setWidth 8, p := p }) hp
  rw [hadc, hover, hresult, overflow_adds hcarry]
  rfl

theorem complement_toNat (data : Byte) : (data ^^^ 0xFF).toNat = 255 - data.toNat := by
  revert data
  decide

theorem complement_toInt (data : Byte) : (data ^^^ 0xFF).toInt = -data.toInt - 1 := by
  revert data
  decide

theorem adcBinary_adds (r : Registers) (data : Byte) :
    (adcBinary (r.cpu 0) data).registers = r.adds data := adcBinary_registers r data

/-- A subtraction adds the complement. -/
theorem adcBinary_subtracts (r : Registers) (data : Byte) :
    (adcBinary (r.cpu 0) (data ^^^ 0xFF)).registers = r.subtracts data := by
  have hdata : data.toNat < 256 := data.isLt
  have hsum : ((r.a.toNat + (255 - data.toNat) + r.carried : ℕ) : ℤ) =
      r.a.toNat - data.toNat - (1 - r.carried) + 256 := by omega
  have hvalue : BitVec.ofNat 8 (r.a.toNat + (255 - data.toNat) + r.carried) =
      BitVec.ofInt 8 (r.a.toNat - data.toNat - (1 - r.carried)) := by
    apply BitVec.eq_of_toNat_eq
    rw [BitVec.toNat_ofNat, BitVec.toNat_ofInt]
    omega
  have hcarry : decide (256 ≤ r.a.toNat + (255 - data.toNat) + r.carried) =
      decide (0 ≤ (r.a.toNat - data.toNat - (1 - r.carried) : ℤ)) :=
    decide_eq_decide.mpr (by omega)
  have hover : r.a.toInt + (-data.toInt - 1) + r.carried =
      r.a.toInt - data.toInt - (1 - r.carried) := by omega
  rw [adcBinary_registers, complement_toNat, complement_toInt, hvalue, hcarry, hover]
  rfl

section modes

variable {model : Nat} {r : Registers}

/-- Both sums take the binary way with D clear. -/
theorem adcValue_registers (hm : isCmos model = false) (hnes : model ≠ 1) (data : Byte) :
    (adcValue (r.cpu 0) data).registers = r.adc model data := by
  have hp : (r.cpu 0).p = r.p := rfl
  rw [adcValue, Registers.adc, hp, hm]
  by_cases hd : r.p &&& flagD = 0
  · rw [if_pos hd, if_pos (.inr hd)]
    exact adcBinary_adds r data
  · rw [if_neg hd, if_neg (not_or.mpr ⟨hnes, hd⟩)]
    rfl

theorem sbcValue_registers (hm : isCmos model = false) (hnes : model ≠ 1) (data : Byte) :
    (sbcValue (r.cpu 0) data).registers = r.sbc model data := by
  have hp : (r.cpu 0).p = r.p := rfl
  rw [sbcValue, Registers.sbc, hp, hm]
  by_cases hd : r.p &&& flagD = 0
  · rw [if_pos hd, if_pos (.inr hd)]
    exact adcBinary_subtracts r data
  · rw [if_neg hd, if_neg (not_or.mpr ⟨hnes, hd⟩)]
    rfl

end modes

/-! ### Operands -/

theorem compare_registers (cpu : Cpu) (register data : Byte) :
    (compareRegisterWithValue cpu register data).registers =
      cpu.registers.compares register data := by
  have hp := updateFlagsNzc_p cpu (register - data) (register ≥ data)
  exact congrArg (fun p => { cpu.registers with p := p }) hp

theorem loadA_registers (cpu : Cpu) (value : Byte) :
    (loadA cpu value).registers = cpu.registers.setA value := by
  have hp := updateFlagsNz_p { cpu with a := value } value
  exact congrArg (fun p => { cpu.registers with a := value, p := p }) hp

theorem loadX_registers (cpu : Cpu) (value : Byte) :
    (loadX cpu value).registers = cpu.registers.setX value := by
  have hp := updateFlagsNz_p { cpu with x := value } value
  exact congrArg (fun p => { cpu.registers with x := value, p := p }) hp

theorem loadY_registers (cpu : Cpu) (value : Byte) :
    (loadY cpu value).registers = cpu.registers.setY value := by
  have hp := updateFlagsNz_p { cpu with y := value } value
  exact congrArg (fun p => { cpu.registers with y := value, p := p }) hp

theorem put_z (p : Byte) (z : Bool) : (p &&& ~~~flagZ) ||| flagZIf z = putFlag p flagZ z := by
  cases z with
  | true =>
    simp only [putFlag, flagZIf, flagZ]
    ext i hi
    interval_cases i <;> simp
  | false => exact BitVec.or_zero

/-- The flags of BIT. -/
theorem put_zvn (p data : Byte) (z : Bool) :
    (p &&& ~~~(flagZ ||| flagV ||| flagN)) ||| (flagZIf z ||| (data &&& (flagV ||| flagN))) =
      putFlag (putFlag (putFlag p flagZ z) flagV (data.getLsbD 6)) flagN (data.getLsbD 7) := by
  simp only [putFlag, flagZIf, flagZ, flagV, flagN]
  ext i hi
  interval_cases i <;> cases z <;> cases h₆ : data.getLsbD 6 <;> cases h₇ : data.getLsbD 7 <;>
    simp [BitVec.getLsbD_eq_getElem] at h₆ h₇ ⊢ <;> simp [h₆, h₇]

/-! ### Shifts -/

theorem shift_registers (cpu : Cpu) (result : Byte) {out out' : Bool} (hout : out = out') :
    (updateFlagsNzc cpu result (flagCIf out)).registers = cpu.registers.shifts out' result := by
  rw [hout]
  exact congrArg (fun p => { cpu.registers with p := p }) (updateFlagsNzc_p cpu result out')

theorem put_arr (p result : Byte) :
    (p &&& ~~~(flagC ||| flagZ ||| flagV ||| flagN)) |||
        ((flagCIf (result &&& 0x40 ≠ 0) ||| flagZIf (result = 0) ||| (result &&& flagN) |||
          flagVIf ((result &&& 0x40) >>> 1 ^^^ (result &&& 0x20) ≠ 0)) &&&
          (flagC ||| flagZ ||| flagV ||| flagN)) =
      putNz (putFlag (putFlag p flagC (result.getLsbD 6)) flagV
        (result.getLsbD 6 ^^ result.getLsbD 5)) result := by
  have hbit : ∀ result : Byte, decide (result &&& 0x40 ≠ 0) = result.getLsbD 6 ∧
      decide ((result &&& 0x40) >>> 1 ^^^ (result &&& 0x20) ≠ 0) =
        (result.getLsbD 6 ^^ result.getLsbD 5) := by
    decide
  rw [(hbit result).1, (hbit result).2, and_flagN]
  exact put_cvzn _ _ _ _ _

theorem arrBinary_registers (r : Registers) (data : Byte) :
    { (arrBinaryValue (r.cpu 0) (r.a &&& data)).1.registers with
      a := (arrBinaryValue (r.cpu 0) (r.a &&& data)).2 } = r.arr data := by
  have hp := put_arr r.p (Mnemonic.ror.result 0 r (r.a &&& data))
  exact congrArg (fun p => { r with a := Mnemonic.ror.result 0 r (r.a &&& data), p := p }) hp

/-! ### Loads -/

section load

variable {model : Nat} {m : Mnemonic}

/-- The sums and ARR of the NES model, which has no decimal mode. -/
theorem nes_reads {op : Load} (h : (m.load true).map Load.handler = some op.handler)
    (hm : m = .adc ∨ m = .sbc ∨ m = .arr) (mode : Mode) (r : Registers) (data : Byte) :
    op.effect r data = m.reads 1 mode r data := by
  obtain ⟨handler, hop⟩ := op
  rcases hm with rfl | rfl | rfl
  · cases h
    exact adcBinary_adds r data
  · cases h
    exact adcBinary_subtracts r data
  · cases h
    exact arrBinary_registers r data

/-- Their siblings with decimal mode. -/
theorem nmos_reads {op : Load} (h : (m.load false).map Load.handler = some op.handler)
    (hm : m = .adc ∨ m = .sbc ∨ m = .arr) (hnes : model ≠ 1)
    (hadds : m = .arr ∨ isCmos model = false) (mode : Mode) (r : Registers) (data : Byte) :
    op.effect r data = m.reads model mode r data := by
  obtain ⟨handler, hop⟩ := op
  rcases hm with rfl | rfl | rfl
  · cases h
    exact adcValue_registers (hadds.resolve_left (by decide)) hnes data
  · cases h
    exact sbcValue_registers (hadds.resolve_left (by decide)) hnes data
  · cases h
    have hp : (r.cpu 0).p = r.p := rfl
    have heffect : (arrValue (r.cpu 0) (r.a &&& data)).registers =
        Mnemonic.arr.reads model mode r data := by
      rw [Mnemonic.reads_arr]
      by_cases hd : r.p &&& flagD = 0
      · rw [if_pos (.inr hd), arrValue, hp, if_pos hd]
        exact arrBinary_registers r data
      · rw [if_neg (not_or.mpr ⟨hnes, hd⟩)]
    exact heffect

/-- The loads without decimal mode. -/
theorem plain_reads {op : Load} {nes : Bool}
    (h : (m.load nes).map Load.handler = some op.handler)
    (hm : ¬(m = .adc ∨ m = .sbc ∨ m = .arr)) {mode : Mode}
    (hbit : ¬(isCmos model = true ∧ mode = .imm ∧ m = .bit)) (r : Registers) (data : Byte) :
    op.effect r data = m.reads model mode r data := by
  obtain ⟨handler, hop⟩ := op
  cases m <;> cases h
  case adc | sbc | arr => simp at hm
  case alr =>
    exact congrArg (fun r' : Registers => { r' with a := (r.a &&& data) >>> 1 })
      (shift_registers (r.cpu 0) _ (bit0_ne _))
  case anc =>
    have hp := updateFlagsNzc_p (r.cpu 0) (r.a &&& data) ((r.a &&& data) &&& flagN ≠ 0)
    refine (congrArg (fun p => { r with a := r.a &&& data, p := p }) hp).trans ?_
    exact congrArg (fun c => { r with
      a := r.a &&& data, p := putNz (putFlag r.p flagC c) (r.a &&& data) }) (flagN_ne _)
  case bit =>
    have himm : (isCmos model && decide (mode = .imm)) = false := by simpa using hbit
    rw [Mnemonic.reads_bit, himm]
    exact congrArg (fun p => { r with p := p }) (put_zvn r.p data _)
  case axs =>
    exact congrArg (fun p => { r with x := (r.a &&& r.x) - data, p := p })
      (updateFlagsNzc_p (r.cpu 0) ((r.a &&& r.x) - data) (r.a &&& r.x ≥ data))
  case las =>
    exact congrArg (fun p => { r with
      a := data &&& r.s, x := data &&& r.s, s := data &&& r.s, p := p })
      (updateFlagsNz_p (r.cpu 0) (data &&& r.s))
  case lax =>
    exact congrArg (fun p => { r with a := data, x := data, p := p })
      (updateFlagsNz_p (r.cpu 0) data)
  case lxa =>
    exact congrArg (fun p => { r with
      a := (r.a ||| 0xEE) &&& data, x := (r.a ||| 0xEE) &&& data, p := p })
      (updateFlagsNz_p (r.cpu 0) ((r.a ||| 0xEE) &&& data))
  case nop => rfl
  case cmp => exact compare_registers (r.cpu 0) r.a data
  case cpx => exact compare_registers (r.cpu 0) r.x data
  case cpy => exact compare_registers (r.cpu 0) r.y data
  case ldx => exact loadX_registers (r.cpu 0) data
  case ldy => exact loadY_registers (r.cpu 0) data
  all_goals exact loadA_registers (r.cpu 0) _

/-- **What a load computes.** -/
theorem Load.effect_reads {op : Load}
    (h : (m.load (model = 1)).map Load.handler = some op.handler) {mode : Mode}
    (hbit : ¬(isCmos model = true ∧ mode = .imm ∧ m = .bit))
    (hadds : ¬(isCmos model = true ∧ (m = .adc ∨ m = .sbc))) (r : Registers) (data : Byte) :
    op.effect r data = m.reads model mode r data := by
  by_cases hsum : m = .adc ∨ m = .sbc ∨ m = .arr
  · by_cases hnes : model = 1
    · rw [decide_eq_true hnes] at h
      subst hnes
      exact nes_reads h hsum mode r data
    · rw [decide_eq_false hnes] at h
      refine nmos_reads h hsum hnes ?_ mode r data
      rcases hsum with rfl | rfl | rfl
      · exact .inr (by simpa using hadds)
      · exact .inr (by simpa using hadds)
      · exact .inl rfl
  · exact plain_reads h hsum hbit r data

/-- BIT with an immediate operand. -/
theorem bitImmediate_reads {op : Load} (hop : op.handler = .opCmosBitImmReadyNonePendingDataFetch)
    (hm : isCmos model = true) (r : Registers) (data : Byte) :
    op.effect r data = Mnemonic.bit.reads model .imm r data := by
  rw [Load.effect, hop, Mnemonic.reads_bit, hm]
  exact congrArg (fun p => { r with p := p }) (put_z r.p _)

/-- The sums of the CMOS models. -/
theorem sum_handlers {op : Sum} {mode : Mode}
    (h : (m.sum model mode).map Sum.handler = some op.handler) :
    m = .adc ∧ op.handler.sums = some (.opNesAdcRReadyNonePendingDataFetch,
        .opCmosAdcDecReadyNonePendingDummyFetch) ∨
      m = .sbc ∧ op.handler.sums = some (.opNesSbcRReadyNonePendingDataFetch,
        .opCmosSbcDecReadyNonePendingDummyFetch) := by
  obtain ⟨op', hop, hhandler⟩ := Option.map_eq_some_iff.mp h
  rw [← hhandler]
  cases m <;> try cases hop
  · refine .inl ⟨rfl, ?_⟩
    dsimp only [Mnemonic.sum] at hop
    split at hop
    · split at hop <;> cases hop <;> rfl
    · cases hop
      rfl
  · refine .inr ⟨rfl, ?_⟩
    dsimp only [Mnemonic.sum] at hop
    split at hop <;> cases hop <;> rfl

/-- **What a sum of a CMOS model computes.** -/
theorem Sum.effect_reads {op : Sum} {mode : Mode}
    (h : (m.sum model mode).map Sum.handler = some op.handler) (hm : isCmos model = true)
    (r : Registers) (data : Byte) :
    (if r.p &&& flagD = 0 then op.load.effect r data else op.effect r data) =
      m.reads model mode r data := by
  have hnes : model ≠ 1 := by
    rintro rfl
    cases hm
  have hbinary : op.load.effect r data = (op.binary.run (r.cpu 0) data).1.registers := rfl
  rw [hbinary, Sum.effect]
  rcases sum_handlers h with ⟨rfl, hsums⟩ | ⟨rfl, hsums⟩
  · obtain ⟨hload, hdecimal⟩ := Prod.mk.inj (Option.some.inj (op.sums.symm.trans hsums))
    rw [hload, hdecimal, Mnemonic.reads_adc, Registers.adc, hm]
    by_cases hd : r.p &&& flagD = 0
    · rw [if_pos hd, if_pos (.inr hd)]
      exact adcBinary_adds r data
    · rw [if_neg hd, if_neg (not_or.mpr ⟨hnes, hd⟩)]
      rfl
  · obtain ⟨hload, hdecimal⟩ := Prod.mk.inj (Option.some.inj (op.sums.symm.trans hsums))
    rw [hload, hdecimal, Mnemonic.reads_sbc, Registers.sbc, hm]
    by_cases hd : r.p &&& flagD = 0
    · rw [if_pos hd, if_pos (.inr hd)]
      exact adcBinary_subtracts r data
    · rw [if_neg hd, if_neg (not_or.mpr ⟨hnes, hd⟩)]
      exact sbcDecimalCmos_registers (r.cpu data) data 0

end load

/-! ### Modifications -/

section modify

variable {model : Nat} {m : Mnemonic}

theorem adcBinary_any (cpu : Cpu) (value : Byte) :
    (adcBinary cpu value).registers = cpu.registers.adds value :=
  adcBinary_adds cpu.registers value

theorem adcValue_any (hm : isCmos model = false) (hnes : model ≠ 1) (cpu : Cpu) (value : Byte) :
    (adcValue cpu value).registers = cpu.registers.adc model value :=
  (Load.run ⟨.opAdcRReadyNonePendingDataFetch, rfl⟩ cpu value).2.2.1.trans
    (adcValue_registers hm hnes value)

theorem sbcValue_any (hm : isCmos model = false) (hnes : model ≠ 1) (cpu : Cpu) (value : Byte) :
    (sbcValue cpu value).registers = cpu.registers.sbc model value :=
  (Load.run ⟨.opSbcRReadyNonePendingDataFetch, rfl⟩ cpu value).2.2.1.trans
    (sbcValue_registers hm hnes value)

/-- A shift and its rotated siblings, as modifications. -/
theorem shiftLeft_registers (cpu : Cpu) (result data : Byte) :
    (updateFlagsNzc cpu result (flagCIf (data &&& flagN ≠ 0))).registers =
      cpu.registers.shifts data.msb result :=
  shift_registers cpu result (flagN_ne data)

theorem shiftRight_registers (cpu : Cpu) (result data : Byte) :
    (updateFlagsNzc cpu result (flagCIf (data &&& 1 ≠ 0))).registers =
      cpu.registers.shifts (data.getLsbD 0) result :=
  shift_registers cpu result (bit0_ne data)

/-- The sums behind a rotate and an increment. -/
theorem sum_modifies {op : Modify}
    (h : (m.modify (model = 1)).map Modify.handler = some op.handler)
    (hm : m = .rra ∨ m = .isc) (hcmos : isCmos model = false) (r : Registers) (data : Byte) :
    op.effect r data = m.modifies model r data := by
  obtain ⟨handler, hop⟩ := op
  by_cases hnes : model = 1
  · subst hnes
    rcases hm with rfl | rfl
    · cases h
      have hror := shiftRight_registers (prefetch (r.cpu data)) (Mnemonic.rra.result 0 r data) data
      exact (adcBinary_any _ _).trans (congrArg (fun r' : Registers => r'.adds _) hror)
    · cases h
      exact adcBinary_subtracts r (data + 1)
  · rw [decide_eq_false hnes] at h
    rcases hm with rfl | rfl
    · cases h
      have hror := shiftRight_registers (prefetch (r.cpu data)) (Mnemonic.rra.result 0 r data) data
      exact (adcValue_any hcmos hnes _ _).trans
        (congrArg (fun r' : Registers => r'.adc model _) hror)
    · cases h
      exact sbcValue_any hcmos hnes (prefetch (r.cpu data)) (data + 1)

theorem plain_modifies {op : Modify} {nes : Bool}
    (h : (m.modify nes).map Modify.handler = some op.handler) (hm : ¬(m = .rra ∨ m = .isc))
    (r : Registers) (data : Byte) : op.effect r data = m.modifies model r data := by
  obtain ⟨handler, hop⟩ := op
  cases m <;> cases h
  case rra | isc => simp at hm
  case asl => exact shiftLeft_registers (prefetch (r.cpu data)) _ data
  case rol => exact shiftLeft_registers (prefetch (r.cpu data)) _ data
  case lsr => exact shiftRight_registers (prefetch (r.cpu data)) _ data
  case ror => exact shiftRight_registers (prefetch (r.cpu data)) _ data
  case dec => exact congrArg (fun p => { r with p := p }) (updateFlagsNz_p (r.cpu 0) (data - 1))
  case inc => exact congrArg (fun p => { r with p := p }) (updateFlagsNz_p (r.cpu 0) (data + 1))
  case trb => exact congrArg (fun p => { r with p := p }) (put_z r.p _)
  case tsb => exact congrArg (fun p => { r with p := p }) (put_z r.p _)
  case rmb => rfl
  case smb => rfl
  case dcp => exact compare_registers (prefetch (r.cpu data)) r.a (data - 1)
  case slo =>
    have hasl := shiftLeft_registers (prefetch (r.cpu data)) (Mnemonic.slo.result 0 r data) data
    exact (loadA_registers _ _).trans (congrArg (fun r' : Registers => r'.setA _) hasl)
  case rla =>
    have hrol := shiftLeft_registers (prefetch (r.cpu data)) (Mnemonic.rla.result 0 r data) data
    exact (loadA_registers _ _).trans (congrArg (fun r' : Registers => r'.setA _) hrol)
  case sre =>
    have hlsr := shiftRight_registers (prefetch (r.cpu data)) (Mnemonic.sre.result 0 r data) data
    exact (loadA_registers _ _).trans (congrArg (fun r' : Registers => r'.setA _) hlsr)

/-- **What a modification computes.** -/
theorem Modify.effect_modifies {op : Modify}
    (h : (m.modify (model = 1)).map Modify.handler = some op.handler)
    (hsums : m = .rra ∨ m = .isc → isCmos model = false) (r : Registers) (data : Byte) :
    op.effect r data = m.modifies model r data := by
  by_cases hm : m = .rra ∨ m = .isc
  · exact sum_modifies h hm (hsums hm) r data
  · exact plain_modifies h hm r data

end modify

/-! ### Instructions without an operand -/

section implied

variable {cmos : Bool} {m : Mnemonic}

/-- **What an operation on the registers computes.** -/
theorem Implied.effect_works {op : Implied} (h : m.shape cmos = some (.implied op))
    (r : Registers) : op.effect r = m.works r := by
  have hbrk : m ≠ .brk := by
    rintro rfl
    cases cmos <;> cases h
  cases m <;> first | exact absurd rfl hbrk | cases h
  case dex => exact loadX_registers (prefetch (r.cpu 0)) _
  case inx => exact loadX_registers (prefetch (r.cpu 0)) _
  case tax => exact loadX_registers (prefetch (r.cpu 0)) _
  case tsx => exact loadX_registers (prefetch (r.cpu 0)) _
  case dey => exact loadY_registers (prefetch (r.cpu 0)) _
  case iny => exact loadY_registers (prefetch (r.cpu 0)) _
  case tay => exact loadY_registers (prefetch (r.cpu 0)) _
  case txa => exact loadA_registers (prefetch (r.cpu 0)) _
  case tya => exact loadA_registers (prefetch (r.cpu 0)) _
  all_goals rfl

/-- The same on the accumulator, which is both the operand and the result. -/
theorem Implied.effect_modifies {op : Implied} (h : m.accumulator = some op) (model : Nat)
    (opcode : Byte) (r : Registers) :
    op.effect r = { m.modifies model r r.a with a := m.result opcode r r.a } := by
  cases m <;> cases h
  case asl =>
    exact congrArg (fun r' : Registers => { r' with a := Mnemonic.asl.result opcode r r.a })
      (shiftLeft_registers (prefetch (r.cpu 0)) _ r.a)
  case rol =>
    exact congrArg (fun r' : Registers => { r' with a := Mnemonic.rol.result opcode r r.a })
      (shiftLeft_registers (prefetch (r.cpu 0)) _ r.a)
  case lsr =>
    exact congrArg (fun r' : Registers => { r' with a := Mnemonic.lsr.result opcode r r.a })
      (shiftRight_registers (prefetch (r.cpu 0)) _ r.a)
  case ror =>
    exact congrArg (fun r' : Registers => { r' with a := Mnemonic.ror.result opcode r r.a })
      (shiftRight_registers (prefetch (r.cpu 0)) _ r.a)
  case dec => exact loadA_registers (prefetch (r.cpu 0)) _
  case inc => exact loadA_registers (prefetch (r.cpu 0)) _

theorem Load.effect_pulls {op : Load} (h : m.shape cmos = some (.pull op)) (r : Registers)
    (data : Byte) : op.effect r data = m.pulls r data := by
  have hbrk : m ≠ .brk := by
    rintro rfl
    cases cmos <;> cases h
  cases m <;> first | exact absurd rfl hbrk | cases h
  case pla => exact loadA_registers (r.cpu 0) data
  case plp => rfl
  case plx => exact loadX_registers (r.cpu 0) data
  case ply => exact loadY_registers (r.cpu 0) data

theorem Push.value_pushed {op : Push} (h : m.shape cmos = some (.push op)) (r : Registers) :
    op.value r = m.pushed r := by
  have hbrk : m ≠ .brk := by
    rintro rfl
    cases cmos <;> cases h
  cases m <;> first | exact absurd rfl hbrk | cases h <;> rfl

end implied

theorem Unstable.effect_tas {m : Mnemonic} {op : Unstable}
    (h : m.unstable.map Unstable.handler = some op.handler) (r : Registers) :
    op.effect r = if m = .tas then { r with s := r.a &&& r.x } else r := by
  obtain ⟨handler, hop⟩ := op
  cases m <;> cases h <;> rfl

end Qe6502
