import Qe6502.Tick

/-!
# The interrupt byte

What the resolver and the handlers do to `interrupts`, as functions of that byte and of P.
The functions of the source that take the whole context are these functions on one field:
`detectNmiEdge_eq`, `resolveTick_eq` and the calls of the pins.

A handler changes the byte by one of ten signals (`Signal.apply`); `Handler.signal` says by
which.
-/

namespace Qe6502

/-! ### Detection -/

/-- `update_nmi_last_sampled` on the byte. -/
def lastSampled (interrupts : Byte) : Byte :=
  if flag interrupts interruptNmiInvPin ≠ 0 then
    flagOn interrupts interruptNmiInvLastSampledPin
  else
    flagOff interrupts interruptNmiInvLastSampledPin

/-- `detectNmiEdge` on the byte. -/
def detected (interrupts : Byte) : Byte :=
  if flag interrupts interruptSamplingOff = 0 then
    if flag interrupts interruptNmiInvPin ≠ 0 ∧
        flag interrupts interruptNmiInvLastSampledPin = 0 then
      lastSampled (flagOn interrupts interruptNmiEdge)
    else lastSampled interrupts
  else interrupts

theorem updateNmiLastSampled_eq (cpu : Cpu) :
    updateNmiLastSampled cpu = { cpu with interrupts := lastSampled cpu.interrupts } := by
  unfold updateNmiLastSampled lastSampled
  split <;> rfl

theorem detectNmiEdge_eq (cpu : Cpu) :
    detectNmiEdge cpu = { cpu with interrupts := detected cpu.interrupts } := by
  unfold detectNmiEdge detected
  simp only [updateNmiLastSampled_eq]
  split
  · split <;> rfl
  · rfl

/-! ### The pins -/

/-- `qe6502_nmi_assert` on the byte. -/
def nmiPinned (assertNmi interrupts : Byte) : Byte :=
  if assertNmi ≠ 0 then
    flagOn (flagOff interrupts interruptSampling) interruptNmiInvPin
  else flagOff (flagOff interrupts interruptSampling) interruptNmiInvPin

/-- `qe6502_irq_assert` on the byte. -/
def irqPinned (assertIrq interrupts : Byte) : Byte :=
  if assertIrq ≠ 0 then
    flagOn (flagOff interrupts interruptSampling) interruptIrqInvPin
  else flagOff (flagOff interrupts interruptSampling) interruptIrqInvPin

/-- The NMI pin is changed by a call with this level. -/
def nmiChanges (assertNmi interrupts : Byte) : Prop :=
  (assertNmi ≠ 0 ↔ flag interrupts interruptNmiInvPin = 0)

instance (assertNmi interrupts : Byte) : Decidable (nmiChanges assertNmi interrupts) := by
  unfold nmiChanges; infer_instance

theorem nmiAssert_eq (cpu : Cpu) (assertNmi : Byte) :
    nmiAssert cpu assertNmi =
      { cpu with
        interrupts := nmiPinned assertNmi cpu.interrupts
        hijackMicrocode :=
          if nmiChanges assertNmi cpu.interrupts then 1 else cpu.hijackMicrocode } := by
  have hall : ∀ i : Byte,
      (flag (flagOff i interruptSampling) interruptNmiInvPin = 0 ↔
        flag i interruptNmiInvPin = 0) ∧
      (flag i interruptNmiInvPin ≠ 0 → flagOn (flagOff i interruptSampling) interruptNmiInvPin =
        flagOff i interruptSampling) ∧
      (flag i interruptNmiInvPin = 0 → flagOff (flagOff i interruptSampling) interruptNmiInvPin =
        flagOff i interruptSampling) := by
    decide
  obtain ⟨hpin, hon, hoff⟩ := hall cpu.interrupts
  dsimp only [nmiAssert, nmiPinned]
  by_cases ha : assertNmi ≠ 0
  · rw [if_pos ha, if_pos ha]
    by_cases hp : flag cpu.interrupts interruptNmiInvPin = 0
    · rw [if_pos (hpin.mpr hp), if_pos (show nmiChanges _ _ from iff_of_true ha hp)]
    · rw [if_neg (mt hpin.mp hp),
        if_neg (show ¬nmiChanges _ _ from fun h => hp (h.mp ha)), hon hp]
  · rw [if_neg ha, if_neg ha]
    by_cases hp : flag cpu.interrupts interruptNmiInvPin = 0
    · rw [if_neg (not_not_intro (hpin.mpr hp)),
        if_neg (show ¬nmiChanges _ _ from fun h => ha (h.mpr hp)), hoff hp]
    · rw [if_pos (mt hpin.mp hp), if_pos (show nmiChanges _ _ from iff_of_false ha hp)]

theorem irqAssert_eq (cpu : Cpu) (assertIrq : Byte) :
    irqAssert cpu assertIrq =
      { cpu with
        interrupts := irqPinned assertIrq cpu.interrupts
        hijackMicrocode := if assertIrq ≠ 0 then 1 else cpu.hijackMicrocode } := by
  dsimp only [irqAssert, irqPinned]
  split <;> rfl

/-- A call that puts a level on a pin. -/
inductive PinCall
  | nmi (assertNmi : Byte)
  | irq (assertIrq : Byte)
deriving DecidableEq

namespace PinCall

def apply (cpu : Cpu) : PinCall → Cpu
  | nmi assertNmi => nmiAssert cpu assertNmi
  | irq assertIrq => irqAssert cpu assertIrq

/-- The interrupt byte after the call. -/
def pinned (interrupts : Byte) : PinCall → Byte
  | nmi assertNmi => nmiPinned assertNmi interrupts
  | irq assertIrq => irqPinned assertIrq interrupts

/-- The call switches the resolver on. -/
def SwitchesOn (interrupts : Byte) : PinCall → Prop
  | nmi assertNmi => nmiChanges assertNmi interrupts
  | irq assertIrq => assertIrq ≠ 0

instance (interrupts : Byte) : (p : PinCall) → Decidable (p.SwitchesOn interrupts)
  | nmi assertNmi => inferInstanceAs (Decidable (nmiChanges assertNmi interrupts))
  | irq assertIrq => inferInstanceAs (Decidable (assertIrq ≠ 0))

/-- `hijack_microcode` after the call. -/
def hijack (interrupts hijackMicrocode : Byte) (p : PinCall) : Byte :=
  if p.SwitchesOn interrupts then 1 else hijackMicrocode

/-- **A pin call changes the interrupt state only.** -/
theorem apply_eq (p : PinCall) (cpu : Cpu) :
    p.apply cpu =
      { cpu with
        interrupts := p.pinned cpu.interrupts
        hijackMicrocode := p.hijack cpu.interrupts cpu.hijackMicrocode } := by
  cases p with
  | nmi assertNmi => exact nmiAssert_eq cpu assertNmi
  | irq assertIrq => exact irqAssert_eq cpu assertIrq

end PinCall

/-! ### Resolution -/

/-- The byte after the resolver's second half, and the service slot it enters. -/
def settled (interrupts cpuFlags : Byte) (fetching : Bool) : Byte × Option ServiceSlot :=
  if flag interrupts interruptSampling ≠ 0 then
    (findActiveInterrupt (flagOff interrupts interruptSampling) cpuFlags, none)
  else if fetching then
    if flag interrupts interruptNmiTaken ≠ 0 then
      (flagOff (flagOff interrupts interruptNmiTaken) interruptIrqTaken, some .nmi)
    else if flag interrupts interruptIrqTaken ≠ 0 then
      (flagOff (flagOff interrupts interruptNmiTaken) interruptIrqTaken, some .irq)
    else (interrupts, none)
  else (interrupts, none)

def Tick.fetching (tick : Tick) : Bool := tick.status &&& statusOpcodeFetch ≠ 0

/-- The resolver keeps itself switched on while it enters a slot or has work left. -/
def settledHijack (settled : Byte × Option ServiceSlot) (hijack : Byte) : Byte :=
  if settled.2 = none ∧ Idle settled.1 then 0 else hijack

/-- The microcode index after an optional jump into a service slot. -/
def jumpIndex (model : Byte) (cycle index : Word) : Option ServiceSlot → Word
  | some slot => idx model slot.code cycle
  | none => index

theorem resolveTick_eq (cpuFlags : Byte) (tick : Tick) (cpu : Cpu) :
    resolveTick cpuFlags tick cpu =
      { cpu with
        interrupts := (settled cpu.interrupts cpuFlags tick.fetching).1
        hijackMicrocode :=
          settledHijack (settled cpu.interrupts cpuFlags tick.fetching) cpu.hijackMicrocode
        microcode := jumpIndex cpu.model 0 cpu.microcode
          (settled cpu.interrupts cpuFlags tick.fetching).2 } := by
  unfold resolveTick settled Tick.fetching settledHijack switchOffWhenIdle
  split
  · simp only [true_and]
    split <;> rfl
  · by_cases hfetch : tick.status &&& statusOpcodeFetch ≠ 0
    · simp only [hfetch, ↓reduceIte, decide_true, ne_eq, not_false_eq_true]
      split
      · rfl
      · split
        · rfl
        · simp only [true_and]
          split <;> rfl
    · simp only [hfetch, ↓reduceIte, decide_false, Bool.false_eq_true, true_and]
      split <;> rfl

/-! ### Signals of the handlers -/

/-- What a handler does to the interrupt byte. -/
inductive Signal
  | none
  | sample
  | brkPush
  | nmiPush
  | irqPush
  | cmosNmiPush
  | cmosIrqPush
  | detectOn
  | nmiVector
  | cmosVector
deriving DecidableEq

namespace Signal

/-- The byte after `find_active_interrupt` in a push-status cycle. -/
def pushed (interrupts cpuFlags : Byte) : Byte :=
  flagOn (findActiveInterrupt interrupts cpuFlags) interruptSamplingOff

def apply (cpuFlags : Byte) : Signal → Byte → Byte
  | none, i => i
  | sample, i => flagOn i interruptSampling
  | brkPush, i =>
    let i := pushed i cpuFlags
    if flag i interruptNmiTaken ≠ 0 ∨ flag i interruptIrqTaken ≠ 0 then
      flagOff (flagOff i interruptNmiTaken) interruptIrqTaken
    else i
  | nmiPush, i =>
    flagOff (flagOff (flagOff (pushed i cpuFlags) interruptNmiEdge) interruptNmiTaken)
      interruptIrqTaken
  | irqPush, i =>
    let i := flagOff (pushed i cpuFlags) interruptIrqTaken
    if flag i interruptNmiTaken ≠ 0 then flagOff i interruptNmiTaken else i
  | cmosNmiPush, i => lastSampled (flagOff (flagOff i interruptNmiEdge) interruptNmiTaken)
  | cmosIrqPush, i => flagOff i interruptIrqTaken
  | detectOn, i => flagOff i interruptSamplingOff
  | nmiVector, i => lastSampled (flagOff i interruptSamplingOff)
  | cmosVector, i => lastSampled (flagOff i interruptNmiEdge)

/-- The service slot a push-status cycle continues in, at cycle 4. -/
def jump (cpuFlags : Byte) : Signal → Byte → Option ServiceSlot
  | brkPush, i =>
    let i := pushed i cpuFlags
    if flag i interruptNmiTaken ≠ 0 then some .nmi
    else if flag i interruptIrqTaken ≠ 0 then some .irq
    else Option.none
  | irqPush, i =>
    let i := flagOff (pushed i cpuFlags) interruptIrqTaken
    if flag i interruptNmiTaken ≠ 0 then some .nmi else Option.none
  | _, _ => Option.none

end Signal

/-- The signal a handler gives to the interrupt lines. -/
def Handler.signal (cpu : Cpu) : Handler → Signal
  | .mcStackPushStatusB => .brkPush
  | .mcNmiC3PushP => .nmiPush
  | .mcIrqC3PushP => .irqPush
  | .mcCmosNmiC3PushP => .cmosNmiPush
  | .mcCmosIrqC3PushP => .cmosIrqPush
  | .mcBrkC5VecHi | .mcNmosIrqC5VecHi => .detectOn
  | .mcNmosNmiC5VecHi => .nmiVector
  | .mcCmosNmiC5VecHi | .mcCmosIrqC5VecHi => .cmosVector
  | .mcCmosRIndexedProbePrefetchNoPageCrossDecimalClear =>
    if noPageCross cpu && decimalClear cpu then .sample else .none
  | .mcCmosRIndexedProbeNoLatchPrefetchNoPageCross
  | .mcRIndexedProbeNoLatchPrefetchNoPageCross =>
    if noPageCross cpu then .sample else .none
  | .mcLatchAddr1ReadLatchAddrPrefetchDecimalClear
  | .mcLatchZpAddrReadLatchAddrPrefetchDecimalClear
  | .mcRIzxC4DataPrefetchDecimalClear
  | .mcReadLatchAddrPrefetchDecimalClear
  | .mcReadPcIncPrefetchDecimalClear =>
    if decimalClear cpu then .sample else .none
  | .opCmosAdcRReadyAddrPendingDataFetchOrDecimalDummyPrefetchDecimalSet
  | .opCmosSbcRReadyAddrPendingDataFetchOrDecimalDummyPrefetchDecimalSet
  | .opCmosSbcImmReadyNonePendingDataFetchOrDecimalDummyPrefetchDecimalSet
  | .opWdcAdcImmReadyNonePendingDataFetchOrDecimalDummyPrefetchDecimalSet
  | .opRwAdcImmReadyNonePendingDataFetchOrDecimalDummyPrefetchDecimalSet
  | .opStAdcImmReadyNonePendingDataFetchOrDecimalDummyPrefetchDecimalSet =>
    if !decimalClear cpu then .sample else .none
  | .mcBranchPgfixPrefetch
  | .mcCmosJmpIndC4TargetHiRetryPrefetch
  | .mcLatchAddr0ReadPcIncPrefetch
  | .mcLatchDataReadLatchAddrPrefetch
  | .mcLatchPclStackReadPrefetch
  | .mcRIzxC4DataNoLatchPrefetch
  | .mcRZpC1DataPrefetch
  | .mcReadAddrWithBusHiPrefetch
  | .mcReadLatchAddrPrefetch
  | .mcReadPcPrefetch
  | .mcReadPcIncPrefetch
  | .mcReadPcMinusOnePrefetch
  | .mcRtsC4IncPcDummyPrefetch
  | .mcStackPullReadPrefetch
  | .mcWdcBbrBbsC3OffsetOrSkipPrefetch
  | .opAhxUnstableWReadyAddrPendingNoneWrPrefetch
  | .opAslAccReadyNonePendingNoneDummyPrefetch
  | .opAslRwReadyAddrDataPendingNoneWrPrefetch
  | .opBccBranchC0OffsetPrefetch
  | .opBcsBranchC0OffsetPrefetch
  | .opBeqBranchC0OffsetPrefetch
  | .opBmiBranchC0OffsetPrefetch
  | .opBneBranchC0OffsetPrefetch
  | .opBplBranchC0OffsetPrefetch
  | .opBvcBranchC0OffsetPrefetch
  | .opBvsBranchC0OffsetPrefetch
  | .opClcImpReadyNonePendingNoneDummyPrefetch
  | .opCldImpReadyNonePendingNoneDummyPrefetch
  | .opCliImpReadyNonePendingNoneDummyPrefetch
  | .opClvImpReadyNonePendingNoneDummyPrefetch
  | .opCmosBraBranchC0OffsetPrefetch
  | .opCmosDecAccReadyNonePendingNoneDummyPrefetch
  | .opCmosIncAccReadyNonePendingNoneDummyPrefetch
  | .opCmosPhxStackPushReadyNonePendingNoneWrPrefetch
  | .opCmosPhyStackPushReadyNonePendingNoneWrPrefetch
  | .opCmosStzWReadyAddrPendingNoneWrPrefetch
  | .opCmosStzWReadyAddrloPendingAddrhiWrPrefetch
  | .opCmosStzWReadyNonePendingAddrloWrPrefetch
  | .opCmosTrbRwReadyAddrDataPendingNoneWrPrefetch
  | .opCmosTsbRwReadyAddrDataPendingNoneWrPrefetch
  | .opDcpRwReadyAddrDataPendingNoneWrPrefetch
  | .opDecRwReadyAddrDataPendingNoneWrPrefetch
  | .opDexImpReadyNonePendingNoneDummyPrefetch
  | .opDeyImpReadyNonePendingNoneDummyPrefetch
  | .opIncRwReadyAddrDataPendingNoneWrPrefetch
  | .opInxImpReadyNonePendingNoneDummyPrefetch
  | .opInyImpReadyNonePendingNoneDummyPrefetch
  | .opIscRwReadyAddrDataPendingNoneWrPrefetch
  | .opLsrAccReadyNonePendingNoneDummyPrefetch
  | .opLsrRwReadyAddrDataPendingNoneWrPrefetch
  | .mcNesIscRwReadyAddrDataPendingNoneWrPrefetch
  | .opNesRraRwReadyAddrDataPendingNoneWrPrefetch
  | .opPhaStackPushReadyNonePendingNoneWrPrefetch
  | .opPhpStackPushReadyNonePendingNoneWrPrefetch
  | .opRlaRwReadyAddrDataPendingNoneWrPrefetch
  | .opRolAccReadyNonePendingNoneDummyPrefetch
  | .opRolRwReadyAddrDataPendingNoneWrPrefetch
  | .opRorAccReadyNonePendingNoneDummyPrefetch
  | .opRorRwReadyAddrDataPendingNoneWrPrefetch
  | .opRraRwReadyAddrDataPendingNoneWrPrefetch
  | .opSaxWReadyAddrPendingNoneWrPrefetch
  | .opSaxWReadyAddrloPendingAddrhiWrPrefetch
  | .opSaxWReadyNonePendingAddrloWrPrefetch
  | .opSecImpReadyNonePendingNoneDummyPrefetch
  | .opSedImpReadyNonePendingNoneDummyPrefetch
  | .opSeiImpReadyNonePendingNoneDummyPrefetch
  | .opShxUnstableWReadyAddrPendingNoneWrPrefetch
  | .opShyUnstableWReadyAddrPendingNoneWrPrefetch
  | .opSloRwReadyAddrDataPendingNoneWrPrefetch
  | .opSreRwReadyAddrDataPendingNoneWrPrefetch
  | .opStaWReadyAddrPendingNoneWrPrefetch
  | .opStaWReadyAddrloPendingAddrhiWrPrefetch
  | .opStaWReadyNonePendingAddrloWrPrefetch
  | .opStxWReadyAddrPendingNoneWrPrefetch
  | .opStxWReadyAddrloPendingAddrhiWrPrefetch
  | .opStxWReadyNonePendingAddrloWrPrefetch
  | .opStyWReadyAddrPendingNoneWrPrefetch
  | .opStyWReadyAddrloPendingAddrhiWrPrefetch
  | .opStyWReadyNonePendingAddrloWrPrefetch
  | .opTasUnstableWReadyAddrPendingNoneWrPrefetch
  | .opTaxImpReadyNonePendingNoneDummyPrefetch
  | .opTayImpReadyNonePendingNoneDummyPrefetch
  | .opTsxImpReadyNonePendingNoneDummyPrefetch
  | .opTxaImpReadyNonePendingNoneDummyPrefetch
  | .opTxsImpReadyNonePendingNoneDummyPrefetch
  | .opTyaImpReadyNonePendingNoneDummyPrefetch
  | .opWdcRmbSmbRwReadyAddrDataPendingNoneWrPrefetch => .sample
  | _ => .none

end Qe6502
