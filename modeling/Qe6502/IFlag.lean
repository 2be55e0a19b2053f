import Qe6502.InterruptUnit

/-!
# The I flag

Which handlers change the I flag (`Handler.changesI`), and that no other one does
(`run_iClear`).
-/

namespace Qe6502

theorem iClear_eq (p : Byte) : iClear p = !p.getLsbD 2 := by
  have hflag : flag p flagI = 0#8 ↔ p.getLsbD 2 = false := flag_twoPow p 2 (by decide)
  simp [iClear, hflag]

/-! ### Flag updates -/

theorem flagZIf_bit (cond : Bool) : (flagZIf cond).getLsbD 2 = false := by
  cases cond <;> rfl

theorem flagN_bit (value : Byte) : (value &&& flagN).getLsbD 2 = false := by
  rw [BitVec.getLsbD_and]
  exact Bool.and_false _

/-- An update of P that keeps bit 2. -/
theorem iClear_update {p mask flags : Byte} (hmask : mask.getLsbD 2 = false)
    (hflags : flags.getLsbD 2 = false) : iClear ((p &&& ~~~mask) ||| flags) = iClear p := by
  rw [iClear_eq, iClear_eq, BitVec.getLsbD_or, BitVec.getLsbD_and, BitVec.getLsbD_not, hmask,
    hflags]
  simp

variable (cpu : Cpu) (value : Byte)

@[simp] theorem iClear_updateFlagsNz : iClear (updateFlagsNz cpu value).p = iClear cpu.p := by
  refine iClear_update rfl ?_
  rw [BitVec.getLsbD_or, flagZIf_bit, flagN_bit]
  rfl

@[simp] theorem iClear_updateFlagsNzc (carry : Byte) :
    iClear (updateFlagsNzc cpu value carry).p = iClear cpu.p := by
  refine iClear_update rfl ?_
  rw [BitVec.getLsbD_or, BitVec.getLsbD_or, BitVec.getLsbD_and, flagZIf_bit, flagN_bit]
  exact congrArg (fun b => b || false || false) (Bool.and_false _)

@[simp] theorem iClear_updateFlagsCvzn : iClear (updateFlagsCvzn cpu value).p = iClear cpu.p := by
  refine iClear_update rfl ?_
  rw [BitVec.getLsbD_and]
  exact Bool.and_false _

@[simp] theorem iClear_adcBinary : iClear (adcBinary cpu value).p = iClear cpu.p :=
  iClear_updateFlagsCvzn cpu _

theorem iClear_adcDecimalNmos : iClear (adcDecimalNmos cpu value).p = iClear cpu.p :=
  iClear_updateFlagsCvzn cpu _

theorem iClear_sbcDecimalNmos : iClear (sbcDecimalNmos cpu value).p = iClear cpu.p :=
  iClear_updateFlagsCvzn cpu _

@[simp] theorem iClear_adcDecimalCmos : iClear (adcDecimalCmos cpu value).p = iClear cpu.p :=
  iClear_updateFlagsCvzn cpu _

@[simp] theorem iClear_sbcDecimalCmos : iClear (sbcDecimalCmos cpu value).p = iClear cpu.p :=
  iClear_updateFlagsCvzn cpu _

@[simp] theorem iClear_adcValue : iClear (adcValue cpu value).p = iClear cpu.p := by
  unfold adcValue
  split
  · exact iClear_adcBinary cpu value
  · exact iClear_adcDecimalNmos cpu value

@[simp] theorem iClear_sbcValue : iClear (sbcValue cpu value).p = iClear cpu.p := by
  unfold sbcValue
  split
  · exact iClear_adcBinary cpu _
  · exact iClear_sbcDecimalNmos cpu value

@[simp] theorem iClear_arrBinaryValue : iClear (arrBinaryValue cpu value).1.p = iClear cpu.p :=
  iClear_updateFlagsCvzn cpu _

@[simp] theorem iClear_or_flagC (p : Byte) : iClear (p ||| flagC) = iClear p := by
  simp [iClear_eq, flagC]

@[simp] theorem iClear_and_flagC (p : Byte) : iClear (p &&& ~~~flagC) = iClear p := by
  simp [iClear_eq, flagC]

@[simp] theorem iClear_or_flagD (p : Byte) : iClear (p ||| flagD) = iClear p := by
  simp [iClear_eq, flagD]

@[simp] theorem iClear_and_flagD (p : Byte) : iClear (p &&& ~~~flagD) = iClear p := by
  simp [iClear_eq, flagD]

@[simp] theorem iClear_and_flagV (p : Byte) : iClear (p &&& ~~~flagV) = iClear p := by
  simp [iClear_eq, flagV]

@[simp] theorem iClear_flagZIf (p : Byte) (cond : Bool) :
    iClear ((p &&& ~~~flagZ) ||| flagZIf cond) = iClear p :=
  iClear_update rfl (flagZIf_bit cond)

theorem iClear_arrDecimalNmosValue : iClear (arrDecimalNmosValue cpu value).1.p = iClear cpu.p := by
  dsimp only [arrDecimalNmosValue]
  split
  · exact (iClear_or_flagC _).trans (iClear_arrBinaryValue cpu value)
  · exact (iClear_and_flagC _).trans (iClear_arrBinaryValue cpu value)

theorem iClear_bit (data : Byte) :
    iClear ((cpu.p &&& ~~~(flagZ ||| flagV ||| flagN)) |||
      (flagZIf (cpu.a &&& data = 0) ||| (data &&& (flagV ||| flagN)))) = iClear cpu.p := by
  refine iClear_update rfl ?_
  rw [BitVec.getLsbD_or, BitVec.getLsbD_and, flagZIf_bit]
  exact Bool.and_false _

/-! ### Shapes -/

theorem iClear_execFetch (op : Cpu → Byte → Cpu) (hop : iClear (op cpu value).p = iClear cpu.p) :
    iClear (execFetch op cpu value).1.p = iClear cpu.p := hop

theorem iClear_dummyPrefetch (op : Cpu → Cpu)
    (hop : ∀ cpu, iClear (op cpu).p = iClear cpu.p) :
    iClear (dummyPrefetch op cpu value).1.p = iClear cpu.p := hop _

theorem iClear_modifyWritePrefetch (op : Cpu → Byte → Cpu × Byte)
    (hop : ∀ cpu data, iClear (op cpu data).1.p = iClear cpu.p) :
    iClear (modifyWritePrefetch op cpu value).1.p = iClear cpu.p := hop _ _

theorem iClear_branchC0Offset (taken : Bool) :
    iClear (branchC0Offset cpu taken).1.p = iClear cpu.p := by
  cases taken <;> rfl

theorem iClear_fetchOrDecimal (operand : Byte → Byte) (dummy : Cpu → Word) :
    iClear (fetchOrDecimalDummyPrefetchDecimalSet operand dummy cpu value).1.p =
      iClear cpu.p := by
  have hp : ∀ b, iClear (prefetchIf b cpu).p = iClear cpu.p := fun b => by cases b <;> rfl
  dsimp only [fetchOrDecimalDummyPrefetchDecimalSet]
  split
  · exact (iClear_adcBinary _ _).trans (hp _)
  · exact hp _

/-- The handlers that change the I flag. -/
def Handler.changesI : Handler → Bool
  | .mcResetVecHi | .mcBrkC5VecHi | .mcCmosBrkC5VecHi | .mcNmosNmiC5VecHi | .mcCmosNmiC5VecHi
  | .mcNmosIrqC5VecHi | .mcCmosIrqC5VecHi | .mcRtiC3PullPcl
  | .opPlpStackPullReadyNonePendingDataFetch | .opCliImpReadyNonePendingNoneDummyPrefetch
  | .opSeiImpReadyNonePendingNoneDummyPrefetch => true
  | _ => false

/-- **Only these handlers change the I flag.** -/
theorem run_iClear {h : Handler} (hi : h.changesI = false) (cpu : Cpu) (bus : Byte) :
    iClear (h.run cpu bus).1.p = iClear cpu.p := by
  cases h
  case mcResetVecHi | mcBrkC5VecHi | mcCmosBrkC5VecHi | mcNmosNmiC5VecHi | mcCmosNmiC5VecHi
      | mcNmosIrqC5VecHi | mcCmosIrqC5VecHi | mcRtiC3PullPcl
      | opPlpStackPullReadyNonePendingDataFetch | opCliImpReadyNonePendingNoneDummyPrefetch
      | opSeiImpReadyNonePendingNoneDummyPrefetch =>
    exact Bool.noConfusion hi
  case opAdcRReadyNonePendingDataFetch | opNesAdcRReadyNonePendingDataFetch
      | opCmosAdcDecReadyNonePendingDummyFetch | opAndRReadyNonePendingDataFetch
      | opAncRReadyNonePendingDataFetch | opAlrRReadyNonePendingDataFetch
      | opAxsRReadyNonePendingDataFetch | opXaaRReadyNonePendingDataFetch
      | opLxaRReadyNonePendingDataFetch
      | opCmosBitImmReadyNonePendingDataFetch | opCmpRReadyNonePendingDataFetch
      | opCpxRReadyNonePendingDataFetch | opCpyRReadyNonePendingDataFetch
      | opEorRReadyNonePendingDataFetch | mcLoadAUpdateNzFetch | opLaxRReadyNonePendingDataFetch
      | opLasRReadyNonePendingDataFetch | mcLoadXUpdateNzFetch | mcLoadYUpdateNzFetch
      | opOraRReadyNonePendingDataFetch | opSbcRReadyNonePendingDataFetch
      | opNesSbcRReadyNonePendingDataFetch | opCmosSbcDecReadyNonePendingDummyFetch =>
    refine iClear_execFetch cpu bus _ ?_
    simp [loadA, loadX, loadY, compareRegisterWithValue, lsrValue]
  case opAslAccReadyNonePendingNoneDummyPrefetch | opLsrAccReadyNonePendingNoneDummyPrefetch
      | opRolAccReadyNonePendingNoneDummyPrefetch | opRorAccReadyNonePendingNoneDummyPrefetch
      | opClcImpReadyNonePendingNoneDummyPrefetch | opCldImpReadyNonePendingNoneDummyPrefetch
      | opClvImpReadyNonePendingNoneDummyPrefetch | opSecImpReadyNonePendingNoneDummyPrefetch
      | opSedImpReadyNonePendingNoneDummyPrefetch
      | opCmosDecAccReadyNonePendingNoneDummyPrefetch
      | opCmosIncAccReadyNonePendingNoneDummyPrefetch
      | opDexImpReadyNonePendingNoneDummyPrefetch | opDeyImpReadyNonePendingNoneDummyPrefetch
      | opInxImpReadyNonePendingNoneDummyPrefetch | opInyImpReadyNonePendingNoneDummyPrefetch
      | opTaxImpReadyNonePendingNoneDummyPrefetch | opTayImpReadyNonePendingNoneDummyPrefetch
      | opTsxImpReadyNonePendingNoneDummyPrefetch | opTxaImpReadyNonePendingNoneDummyPrefetch
      | opTxsImpReadyNonePendingNoneDummyPrefetch | opTyaImpReadyNonePendingNoneDummyPrefetch =>
    refine iClear_dummyPrefetch cpu bus _ fun cpu => ?_
    simp [loadA, loadX, loadY, onAccumulator, aslValue, lsrValue, rolValue, rorValue]
  case opAslRwReadyAddrDataPendingNoneWrPrefetch | opLsrRwReadyAddrDataPendingNoneWrPrefetch
      | opRolRwReadyAddrDataPendingNoneWrPrefetch | opRorRwReadyAddrDataPendingNoneWrPrefetch
      | opDecRwReadyAddrDataPendingNoneWrPrefetch | opIncRwReadyAddrDataPendingNoneWrPrefetch
      | opCmosTrbRwReadyAddrDataPendingNoneWrPrefetch
      | opCmosTsbRwReadyAddrDataPendingNoneWrPrefetch
      | opDcpRwReadyAddrDataPendingNoneWrPrefetch | opIscRwReadyAddrDataPendingNoneWrPrefetch
      | mcNesIscRwReadyAddrDataPendingNoneWrPrefetch | opRraRwReadyAddrDataPendingNoneWrPrefetch
      | opNesRraRwReadyAddrDataPendingNoneWrPrefetch | opRlaRwReadyAddrDataPendingNoneWrPrefetch
      | opSloRwReadyAddrDataPendingNoneWrPrefetch | opSreRwReadyAddrDataPendingNoneWrPrefetch
      | opWdcRmbSmbRwReadyAddrDataPendingNoneWrPrefetch =>
    refine iClear_modifyWritePrefetch cpu bus _ fun cpu data => ?_
    simp [loadA, aslValue, lsrValue, rolValue, rorValue, decValue, incValue,
      compareRegisterWithValue]
  case opBccBranchC0OffsetPrefetch | opBcsBranchC0OffsetPrefetch | opBeqBranchC0OffsetPrefetch
      | opBmiBranchC0OffsetPrefetch | opBneBranchC0OffsetPrefetch | opBplBranchC0OffsetPrefetch
      | opBvcBranchC0OffsetPrefetch | opBvsBranchC0OffsetPrefetch =>
    exact iClear_branchC0Offset cpu _
  case mcWdcBbrBbsC3OffsetOrSkipPrefetch =>
    exact iClear_branchC0Offset cpu
      (if currentOpcodeSlot cpu >>> 4 < 8#8 then
        bus &&& bitMask (currentOpcodeSlot cpu >>> 4) = 0
      else bus &&& bitMask (currentOpcodeSlot cpu >>> 4 - 8) ≠ 0)
  case opCmosAdcRReadyAddrPendingDataFetchOrDecimalDummyPrefetchDecimalSet =>
    exact iClear_fetchOrDecimal cpu bus id Cpu.latchAddr
  case opCmosSbcRReadyAddrPendingDataFetchOrDecimalDummyPrefetchDecimalSet =>
    exact iClear_fetchOrDecimal cpu bus (· ^^^ 0xFF) Cpu.latchAddr
  case opCmosSbcImmReadyNonePendingDataFetchOrDecimalDummyPrefetchDecimalSet =>
    exact iClear_fetchOrDecimal cpu bus (· ^^^ 0xFF) fun _ => 0x0000
  case opWdcAdcImmReadyNonePendingDataFetchOrDecimalDummyPrefetchDecimalSet =>
    exact iClear_fetchOrDecimal cpu bus id fun _ => 0x007F
  case opRwAdcImmReadyNonePendingDataFetchOrDecimalDummyPrefetchDecimalSet =>
    exact iClear_fetchOrDecimal cpu bus id fun _ => 0x0059
  case opStAdcImmReadyNonePendingDataFetchOrDecimalDummyPrefetchDecimalSet =>
    exact iClear_fetchOrDecimal cpu bus id fun _ => 0x0056
  case opBitRReadyNonePendingDataFetch => exact iClear_bit cpu bus
  case opArrRReadyNonePendingDataFetch =>
    show iClear (opArrRReadyNonePendingDataFetch cpu bus).1.p = iClear cpu.p
    dsimp only [opArrRReadyNonePendingDataFetch, execFetch]
    split
    · exact iClear_arrBinaryValue cpu _
    · exact iClear_arrDecimalNmosValue cpu _
  case opNesArrRReadyNonePendingDataFetch => exact iClear_arrBinaryValue cpu _
  case mcStackPushStatusB =>
    refine congrArg iClear ?_
    rw [Handler.run, mcStackPushStatusB_split]
    dsimp only
    split
    · rfl
    · split <;> rfl
  case mcIrqC3PushP =>
    refine congrArg iClear ?_
    rw [Handler.run, mcIrqC3PushP_split]
    dsimp only
    split <;> rfl
  case mcCmosNmiC3PushP =>
    refine congrArg iClear ?_
    dsimp only [Handler.run, mcCmosNmiC3PushP]
    rw [updateNmiLastSampled_eq]
    rfl
  case mcInternalReset | mcBranchRelC1Apply | mcWdcBbrBbsC4Apply | mcCmosRIndexedProbe
      | mcCmosJmpIndC4TargetHiRetryPrefetch =>
    refine congrArg iClear ?_
    dsimp only [Handler.run, mcInternalReset, mcBranchRelC1Apply, mcWdcBbrBbsC4Apply,
      mcCmosRIndexedProbe, mcCmosJmpIndC4TargetHiRetryPrefetch]
    split <;> rfl
  case mcCmosRIndexedProbePrefetchNoPageCrossDecimalClear
      | mcCmosRIndexedProbeNoLatchPrefetchNoPageCross
      | mcRIndexedProbeNoLatchPrefetchNoPageCross =>
    refine congrArg iClear ?_
    dsimp only [Handler.run, mcCmosRIndexedProbePrefetchNoPageCrossDecimalClear,
      mcCmosRIndexedProbeNoLatchPrefetchNoPageCross, mcRIndexedProbeNoLatchPrefetchNoPageCross,
      mcCmosRIndexedProbe, prefetchIf]
    split <;> split <;> rfl
  case mcLatchAddr1ReadLatchAddrPrefetchDecimalClear
      | mcLatchZpAddrReadLatchAddrPrefetchDecimalClear | mcRIzxC4DataPrefetchDecimalClear
      | mcReadLatchAddrPrefetchDecimalClear | mcReadPcIncPrefetchDecimalClear =>
    refine congrArg iClear ?_
    dsimp only [Handler.run, mcLatchAddr1ReadLatchAddrPrefetchDecimalClear,
      mcLatchZpAddrReadLatchAddrPrefetchDecimalClear, mcRIzxC4DataPrefetchDecimalClear,
      mcReadLatchAddrPrefetchDecimalClear, mcReadPcIncPrefetchDecimalClear, prefetchIf]
    split <;> rfl
  all_goals exact congrArg iClear (rfl : _ = cpu.p)

/-- The handlers that set the I flag. -/
def Handler.setsI : Handler → Bool
  | .mcResetVecHi | .mcBrkC5VecHi | .mcCmosBrkC5VecHi | .mcNmosNmiC5VecHi | .mcCmosNmiC5VecHi
  | .mcNmosIrqC5VecHi | .mcCmosIrqC5VecHi | .opSeiImpReadyNonePendingNoneDummyPrefetch => true
  | _ => false

theorem iClear_or_flagI (p : Byte) :
    iClear (p ||| flagI) = false ∧ iClear ((p ||| flagI) &&& ~~~flagD) = false ∧
      iClear (flagOn p (flagB ||| flagI)) = false := by
  simp [iClear_eq, flagI, flagD, flagB, flagOn]

theorem run_setsI {h : Handler} (hi : h.setsI = true) (cpu : Cpu) (bus : Byte) :
    iClear (h.run cpu bus).1.p = false := by
  obtain ⟨hset, hclearD, hreset⟩ := iClear_or_flagI cpu.p
  cases h
  case mcResetVecHi => exact hreset
  case mcBrkC5VecHi | mcNmosIrqC5VecHi | opSeiImpReadyNonePendingNoneDummyPrefetch => exact hset
  case mcCmosBrkC5VecHi => exact hclearD
  case mcNmosNmiC5VecHi =>
    dsimp only [Handler.run, mcNmosNmiC5VecHi]
    rw [updateNmiLastSampled_eq]
    exact hset
  case mcCmosNmiC5VecHi | mcCmosIrqC5VecHi =>
    dsimp only [Handler.run, mcCmosNmiC5VecHi, mcCmosIrqC5VecHi, cmosInterruptVectorLow]
    rw [updateNmiLastSampled_eq]
    exact hclearD
  all_goals exact Bool.noConfusion hi

theorem execute_p (h : Handler) (cpu : Cpu) (bus : Byte) :
    (execute h cpu bus).1.p = (h.run cpu bus).1.p := by
  obtain ⟨i, j, k, hframe⟩ := execute_frame h cpu bus
  rw [hframe, run_eq h cpu bus]
  rfl

/-- **A tick keeps the I flag**, unless its handler changes it. -/
theorem execute_iClear {h : Handler} (hi : h.changesI = false) (cpu : Cpu) (bus : Byte) :
    iClear (execute h cpu bus).1.p = iClear cpu.p := by
  rw [execute_p, run_iClear hi]

theorem execute_setsI {h : Handler} (hi : h.setsI = true) (cpu : Cpu) (bus : Byte) :
    iClear (execute h cpu bus).1.p = false := by
  rw [execute_p, run_setsI hi]

end Qe6502
