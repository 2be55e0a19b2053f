import Qe6502.Position

/-!
# What a handler sees of the interrupt state

`Cpu.forget` is the context without `interrupts` and `hijack_microcode`.  A handler's result is
determined by the forgotten context, up to its signal on the interrupt byte: that is `run_eq`,
proved handler by handler, with one lemma for each shape that branches.  Two runs whose contexts
are equal up to the interrupt state can then be compared in the forgotten context.
-/

namespace Qe6502

/-- The context without its interrupt state. -/
def Cpu.forget (cpu : Cpu) : Cpu := { cpu with interrupts := 0, hijackMicrocode := 0 }

/-- The interrupt state of another context put in. -/
def Cpu.restore (cpu source : Cpu) : Cpu :=
  { cpu with interrupts := source.interrupts, hijackMicrocode := source.hijackMicrocode }

/-- What a signal of the handler running in `cpu` adds to a result of the forgotten context. -/
def withSignal (s : Signal) (cpu : Cpu) (r : Cpu × Tick) : Cpu × Tick :=
  ({ r.1 with
    interrupts := s.apply cpu.p cpu.interrupts
    hijackMicrocode := cpu.hijackMicrocode
    microcode := match s.jump cpu.p cpu.interrupts with
      | some slot => idx cpu.model slot.code 4 - 1
      | none => r.1.microcode }, r.2)

theorem forget_p (cpu : Cpu) : cpu.forget.p = cpu.p := rfl
theorem decimalClear_forget (cpu : Cpu) : decimalClear cpu.forget = decimalClear cpu := rfl
/-! ### Shapes that branch -/

theorem ite_eq_withSignal {c c' : Prop} [Decidable c] [Decidable c'] {s : Signal} {cpu : Cpu}
    {r₁ r₂ r₁' r₂' : Cpu × Tick} (hc : c ↔ c') (h₁ : r₁ = withSignal s cpu r₁')
    (h₂ : r₂ = withSignal s cpu r₂') :
    (if c then r₁ else r₂) = withSignal s cpu (if c' then r₁' else r₂') := by
  by_cases h : c
  · rw [if_pos h, if_pos (hc.mp h), h₁]
  · rw [if_neg h, if_neg (mt hc.mpr h), h₂]

theorem adcValue_forget (cpu : Cpu) (value : Byte) :
    adcValue cpu value = (adcValue cpu.forget value).restore cpu := by
  unfold adcValue
  rw [forget_p]
  split <;> rfl

theorem sbcValue_forget (cpu : Cpu) (value : Byte) :
    sbcValue cpu value = (sbcValue cpu.forget value).restore cpu := by
  unfold sbcValue
  rw [forget_p]
  split <;> rfl

theorem arrDecimalNmosValue_forget (cpu : Cpu) (value : Byte) :
    arrDecimalNmosValue cpu value =
      ((arrDecimalNmosValue cpu.forget value).1.restore cpu,
        (arrDecimalNmosValue cpu.forget value).2) := by
  have hbin : arrBinaryValue cpu value =
      ((arrBinaryValue cpu.forget value).1.restore cpu, (arrBinaryValue cpu.forget value).2) := rfl
  unfold arrDecimalNmosValue
  rw [hbin]
  by_cases hc : (value &&& 0xF0).setWidth 16 + (value &&& 0x10).setWidth 16 > 0x0050#16
  · simp only [if_pos hc]
    rfl
  · simp only [if_neg hc]
    rfl

theorem branchC0Offset_eq (cpu : Cpu) (taken : Bool) :
    branchC0Offset cpu taken = withSignal .sample cpu (branchC0Offset cpu.forget taken) := by
  cases taken <;> rfl

theorem fetchOrDecimal_eq (operand : Byte → Byte) (dummy : Cpu → Word)
    (hdummy : ∀ cpu, dummy (prefetch cpu) = dummy (prefetch cpu.forget)) (cpu : Cpu)
    (bus : Byte) :
    fetchOrDecimalDummyPrefetchDecimalSet operand dummy cpu bus =
      withSignal (if !decimalClear cpu then .sample else .none) cpu
        (fetchOrDecimalDummyPrefetchDecimalSet operand dummy cpu.forget bus) := by
  unfold fetchOrDecimalDummyPrefetchDecimalSet
  rw [decimalClear_forget]
  by_cases hd : cpu.p &&& flagD = 0
  · have hclear : decimalClear cpu = true := decide_eq_true hd
    have hforget : cpu.forget.p &&& flagD = 0 := hd
    rw [hclear]
    simp only [prefetchIf, Bool.not_true, Bool.false_eq_true, ↓reduceIte, hd, hforget]
    rfl
  · have hclear : decimalClear cpu = false := decide_eq_false hd
    have hcpu : ¬(prefetch cpu).p &&& flagD = 0 := hd
    have hforget : ¬(prefetch cpu.forget).p &&& flagD = 0 := hd
    rw [hclear]
    simp only [prefetchIf, Bool.not_false, ↓reduceIte, hcpu, hforget, hdummy cpu]
    rfl

/-- A handler that samples under a condition, as one that samples and one that does not. -/
theorem prefetchIf_eq {f : Cpu → Cpu × Tick} {s : Signal} (cpu : Cpu) (cond : Bool)
    (hsample : f (prefetch cpu) = withSignal .sample cpu (f (prefetch cpu.forget)))
    (hplain : f cpu = withSignal .none cpu (f cpu.forget))
    (hs : s = if cond then .sample else .none) :
    f (prefetchIf cond cpu) = withSignal s cpu (f (prefetchIf cond cpu.forget)) := by
  subst hs
  cases cond
  · exact hplain
  · exact hsample

theorem mcCmosRIndexedProbe_eq (cpu : Cpu) (bus : Byte) :
    mcCmosRIndexedProbe cpu bus =
      withSignal .none cpu (mcCmosRIndexedProbe cpu.forget bus) :=
  ite_eq_withSignal Iff.rfl rfl rfl

theorem mcCmosRIndexedProbe_prefetch (cpu : Cpu) (bus : Byte) :
    mcCmosRIndexedProbe (prefetch cpu) bus =
      withSignal .sample cpu (mcCmosRIndexedProbe (prefetch cpu.forget) bus) :=
  ite_eq_withSignal Iff.rfl rfl rfl

theorem opArr_eq (cpu : Cpu) (bus : Byte) :
    opArrRReadyNonePendingDataFetch cpu bus =
      withSignal .none cpu (opArrRReadyNonePendingDataFetch cpu.forget bus) := by
  dsimp only [opArrRReadyNonePendingDataFetch, execFetch]
  by_cases hd : cpu.p &&& flagD = 0
  · have hforget : cpu.forget.p &&& flagD = 0 := hd
    rw [if_pos hd, if_pos hforget]
    rfl
  · have hforget : ¬cpu.forget.p &&& flagD = 0 := hd
    rw [if_neg hd, if_neg hforget, arrDecimalNmosValue_forget]
    rfl

/-- A write-back of an operation that does not see the interrupt state. -/
theorem modifyWritePrefetch_eq (op : Cpu → Byte → Cpu × Byte)
    (hop : ∀ cpu data, op cpu data = ((op cpu.forget data).1.restore cpu, (op cpu.forget data).2))
    (cpu : Cpu) (bus : Byte) :
    modifyWritePrefetch op cpu bus =
      withSignal .sample cpu (modifyWritePrefetch op cpu.forget bus) := by
  dsimp only [modifyWritePrefetch]
  rw [hop (prefetch cpu), hop (prefetch cpu.forget)]
  rfl

/-! ### Push-status cycles -/

theorem findActiveInterrupt_zero (cpuFlags : Byte) : findActiveInterrupt 0 cpuFlags = 0 := by
  have hpin : ¬(flag cpuFlags flagI = 0 ∧ flag (0 : Byte) interruptIrqInvPin ≠ 0) :=
    fun h => h.2 rfl
  have hedge : ¬flag (0 : Byte) interruptNmiEdge ≠ 0 := fun h => h rfl
  rw [findActiveInterrupt, if_neg hedge, if_neg hpin]

/-- `mc_stack_push_status_b` as a choice among the three sequences it can continue. -/
theorem mcStackPushStatusB_split (cpu : Cpu) (bus : Byte) :
    mcStackPushStatusB cpu bus =
      let pushed := Signal.pushed cpu.interrupts cpu.p
      let cleared := flagOff (flagOff pushed interruptNmiTaken) interruptIrqTaken
      let cpu := { cpu with s := cpu.s - 1 }
      let tick := write (stackAddress (cpu.s + 1)) (stackStatus cpu.p flagB)
      if flag pushed interruptNmiTaken ≠ 0 then
        ({ cpu with interrupts := cleared, microcode := idx cpu.model ServiceSlot.nmi.code 4 - 1 },
          tick)
      else if flag pushed interruptIrqTaken ≠ 0 then
        ({ cpu with interrupts := cleared, microcode := idx cpu.model ServiceSlot.irq.code 4 - 1 },
          tick)
      else ({ cpu with interrupts := pushed }, tick) := by
  have hs : cpu.s - 1 + 1 = cpu.s := BitVec.sub_add_cancel cpu.s 1
  dsimp only
  rw [hs]
  rfl

theorem mcIrqC3PushP_split (cpu : Cpu) (bus : Byte) :
    mcIrqC3PushP cpu bus =
      let pushed := flagOff (Signal.pushed cpu.interrupts cpu.p) interruptIrqTaken
      let cpu := { cpu with s := cpu.s - 1 }
      let tick := write (stackAddress (cpu.s + 1)) (stackStatus cpu.p 0)
      if flag pushed interruptNmiTaken ≠ 0 then
        ({ cpu with
          interrupts := flagOff pushed interruptNmiTaken
          microcode := idx cpu.model ServiceSlot.nmi.code 4 - 1 }, tick)
      else ({ cpu with interrupts := pushed }, tick) := by
  have hs : cpu.s - 1 + 1 = cpu.s := BitVec.sub_add_cancel cpu.s 1
  dsimp only
  rw [hs]
  rfl

theorem pushed_zero (cpuFlags : Byte) : Signal.pushed 0 cpuFlags = interruptSamplingOff := by
  rw [Signal.pushed, findActiveInterrupt_zero]
  rfl

theorem mcStackPushStatusB_eq (cpu : Cpu) (bus : Byte) :
    mcStackPushStatusB cpu bus = withSignal .brkPush cpu (mcStackPushStatusB cpu.forget bus) := by
  have hforget : Signal.pushed cpu.forget.interrupts cpu.forget.p = interruptSamplingOff :=
    pushed_zero cpu.p
  rw [mcStackPushStatusB_split, mcStackPushStatusB_split]
  dsimp only [withSignal, Signal.apply, Signal.jump]
  rw [hforget]
  by_cases hn : flag (Signal.pushed cpu.interrupts cpu.p) interruptNmiTaken ≠ 0
  · rw [if_pos hn, if_pos (Or.inl hn), if_pos hn]
    rfl
  · by_cases hi : flag (Signal.pushed cpu.interrupts cpu.p) interruptIrqTaken ≠ 0
    · rw [if_neg hn, if_pos hi, if_pos (Or.inr hi), if_neg hn, if_pos hi]
      rfl
    · rw [if_neg hn, if_neg hi, if_neg (not_or.mpr ⟨hn, hi⟩), if_neg hn, if_neg hi]
      rfl

theorem mcIrqC3PushP_eq (cpu : Cpu) (bus : Byte) :
    mcIrqC3PushP cpu bus = withSignal .irqPush cpu (mcIrqC3PushP cpu.forget bus) := by
  have hforget : Signal.pushed cpu.forget.interrupts cpu.forget.p = interruptSamplingOff :=
    pushed_zero cpu.p
  rw [mcIrqC3PushP_split, mcIrqC3PushP_split]
  dsimp only [withSignal, Signal.apply, Signal.jump]
  rw [hforget]
  by_cases hn : flag (flagOff (Signal.pushed cpu.interrupts cpu.p) interruptIrqTaken)
      interruptNmiTaken ≠ 0
  · rw [if_pos hn, if_pos hn, if_pos hn]
    rfl
  · rw [if_neg hn, if_neg hn, if_neg hn]
    rfl

/-! ### Every handler -/

/-- **A handler does not see the interrupt state**, up to its signal. -/
theorem run_eq (h : Handler) (cpu : Cpu) (bus : Byte) :
    h.run cpu bus = withSignal (h.signal cpu) cpu (h.run cpu.forget bus) := by
  cases h
  case mcInternalReset => exact ite_eq_withSignal Iff.rfl rfl rfl
  case mcBranchRelC1Apply => exact ite_eq_withSignal Iff.rfl rfl rfl
  case mcWdcBbrBbsC4Apply => exact ite_eq_withSignal Iff.rfl rfl rfl
  case mcCmosJmpIndC4TargetHiRetryPrefetch =>
    show mcCmosJmpIndC4TargetHiRetryPrefetch cpu bus =
      withSignal .sample cpu (mcCmosJmpIndC4TargetHiRetryPrefetch cpu.forget bus)
    dsimp only [mcCmosJmpIndC4TargetHiRetryPrefetch]
    by_cases hc : u16GetByte cpu.latchAddr 0 = 0
    · have hcpu : u16GetByte (prefetch cpu).latchAddr 0 = 0 := hc
      have hforget : u16GetByte (prefetch cpu.forget).latchAddr 0 = 0 := hc
      rw [if_pos hcpu, if_pos hforget]
      rfl
    · have hcpu : ¬u16GetByte (prefetch cpu).latchAddr 0 = 0 := hc
      have hforget : ¬u16GetByte (prefetch cpu.forget).latchAddr 0 = 0 := hc
      rw [if_neg hcpu, if_neg hforget]
      rfl
  case mcCmosRIndexedProbe => exact mcCmosRIndexedProbe_eq cpu bus
  case mcCmosRIndexedProbePrefetchNoPageCrossDecimalClear =>
    exact prefetchIf_eq (f := (mcCmosRIndexedProbe · bus)) cpu _
      (mcCmosRIndexedProbe_prefetch cpu bus) (mcCmosRIndexedProbe_eq cpu bus) rfl
  case mcCmosRIndexedProbeNoLatchPrefetchNoPageCross =>
    exact prefetchIf_eq (f := fun cpu =>
      if cpu.latchData = 0 then
        ({ cpu with pc := cpu.pc + 1, microcode := cpu.microcode + 1 },
          read (u16SetByte cpu.latchAddr 1 (bus + cpu.latchData)))
      else
        let cpu := setLatchAddr1 cpu (bus + cpu.latchData)
        ({ cpu with pc := cpu.pc + 1 }, read cpu.pc)) cpu _
      (ite_eq_withSignal Iff.rfl rfl rfl) (ite_eq_withSignal Iff.rfl rfl rfl) rfl
  case mcRIndexedProbeNoLatchPrefetchNoPageCross =>
    exact prefetchIf_eq (f := fun cpu =>
      if cpu.latchData = 0 then
        ({ cpu with microcode := cpu.microcode + 1 }, read (u16SetByte cpu.latchAddr 1 bus))
      else
        (setLatchAddr1 cpu (bus + cpu.latchData), read (u16SetByte cpu.latchAddr 1 bus))) cpu _
      (ite_eq_withSignal Iff.rfl rfl rfl) (ite_eq_withSignal Iff.rfl rfl rfl) rfl
  case mcLatchAddr1ReadLatchAddrPrefetchDecimalClear =>
    exact prefetchIf_eq (f := (mcLatchAddr1ReadLatchAddr · bus)) cpu _ rfl rfl rfl
  case mcLatchZpAddrReadLatchAddrPrefetchDecimalClear =>
    exact prefetchIf_eq (f := (mcLatchZpAddrReadLatchAddr · bus)) cpu _ rfl rfl rfl
  case mcRIzxC4DataPrefetchDecimalClear =>
    exact prefetchIf_eq (f := (mcRIzxC4Data · bus)) cpu _ rfl rfl rfl
  case mcReadLatchAddrPrefetchDecimalClear =>
    exact prefetchIf_eq (f := fun c => (c, read cpu.latchAddr)) cpu _ rfl rfl rfl
  case mcReadPcIncPrefetchDecimalClear =>
    exact prefetchIf_eq (f := readPcInc) cpu _ rfl rfl rfl
  case mcStackPushStatusB => exact mcStackPushStatusB_eq cpu bus
  case mcIrqC3PushP => exact mcIrqC3PushP_eq cpu bus
  case mcCmosNmiC3PushP =>
    show mcCmosNmiC3PushP cpu bus = withSignal .cmosNmiPush cpu (mcCmosNmiC3PushP cpu.forget bus)
    dsimp only [mcCmosNmiC3PushP]
    rw [updateNmiLastSampled_eq, updateNmiLastSampled_eq]
    rfl
  case mcNmosNmiC5VecHi =>
    show mcNmosNmiC5VecHi cpu bus = withSignal .nmiVector cpu (mcNmosNmiC5VecHi cpu.forget bus)
    dsimp only [mcNmosNmiC5VecHi]
    rw [updateNmiLastSampled_eq, updateNmiLastSampled_eq]
    rfl
  case mcCmosNmiC5VecHi =>
    show mcCmosNmiC5VecHi cpu bus = withSignal .cmosVector cpu (mcCmosNmiC5VecHi cpu.forget bus)
    dsimp only [mcCmosNmiC5VecHi, cmosInterruptVectorLow]
    rw [updateNmiLastSampled_eq, updateNmiLastSampled_eq]
    rfl
  case mcCmosIrqC5VecHi =>
    show mcCmosIrqC5VecHi cpu bus = withSignal .cmosVector cpu (mcCmosIrqC5VecHi cpu.forget bus)
    dsimp only [mcCmosIrqC5VecHi, cmosInterruptVectorLow]
    rw [updateNmiLastSampled_eq, updateNmiLastSampled_eq]
    rfl
  case opAdcRReadyNonePendingDataFetch =>
    show execFetch adcValue cpu bus = withSignal .none cpu (execFetch adcValue cpu.forget bus)
    rw [execFetch, adcValue_forget]
    rfl
  case opSbcRReadyNonePendingDataFetch =>
    show execFetch sbcValue cpu bus = withSignal .none cpu (execFetch sbcValue cpu.forget bus)
    rw [execFetch, sbcValue_forget]
    rfl
  case opArrRReadyNonePendingDataFetch => exact opArr_eq cpu bus
  case opIscRwReadyAddrDataPendingNoneWrPrefetch =>
    refine modifyWritePrefetch_eq (fun cpu data => (sbcValue cpu (data + 1), data + 1))
      (fun cpu data => ?_) cpu bus
    rw [sbcValue_forget]
  case opRraRwReadyAddrDataPendingNoneWrPrefetch =>
    refine modifyWritePrefetch_eq (fun cpu data =>
      (adcValue (rorValue cpu data).1 (rorValue cpu data).2, (rorValue cpu data).2))
      (fun cpu data => ?_) cpu bus
    rw [adcValue_forget]
    rfl
  case opBccBranchC0OffsetPrefetch | opBcsBranchC0OffsetPrefetch | opBeqBranchC0OffsetPrefetch
      | opBmiBranchC0OffsetPrefetch | opBneBranchC0OffsetPrefetch | opBplBranchC0OffsetPrefetch
      | opBvcBranchC0OffsetPrefetch | opBvsBranchC0OffsetPrefetch =>
    exact branchC0Offset_eq cpu _
  case mcWdcBbrBbsC3OffsetOrSkipPrefetch =>
    exact branchC0Offset_eq cpu
      (if currentOpcodeSlot cpu >>> 4 < 8#8 then
        bus &&& bitMask (currentOpcodeSlot cpu >>> 4) = 0
      else bus &&& bitMask (currentOpcodeSlot cpu >>> 4 - 8) ≠ 0)
  case opCmosAdcRReadyAddrPendingDataFetchOrDecimalDummyPrefetchDecimalSet =>
    exact fetchOrDecimal_eq id Cpu.latchAddr (fun _ => rfl) cpu bus
  case opCmosSbcRReadyAddrPendingDataFetchOrDecimalDummyPrefetchDecimalSet =>
    exact fetchOrDecimal_eq (· ^^^ 0xFF) Cpu.latchAddr (fun _ => rfl) cpu bus
  case opCmosSbcImmReadyNonePendingDataFetchOrDecimalDummyPrefetchDecimalSet =>
    exact fetchOrDecimal_eq (· ^^^ 0xFF) (fun _ => 0x0000) (fun _ => rfl) cpu bus
  case opWdcAdcImmReadyNonePendingDataFetchOrDecimalDummyPrefetchDecimalSet =>
    exact fetchOrDecimal_eq id (fun _ => 0x007F) (fun _ => rfl) cpu bus
  case opRwAdcImmReadyNonePendingDataFetchOrDecimalDummyPrefetchDecimalSet =>
    exact fetchOrDecimal_eq id (fun _ => 0x0059) (fun _ => rfl) cpu bus
  case opStAdcImmReadyNonePendingDataFetchOrDecimalDummyPrefetchDecimalSet =>
    exact fetchOrDecimal_eq id (fun _ => 0x0056) (fun _ => rfl) cpu bus
  all_goals rfl

end Qe6502
