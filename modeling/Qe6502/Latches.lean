import Qe6502.InterruptUnit
import Qe6502.Words

/-!
# What the latches carry

`latch_addr` and `latch_data` hold the state of an instruction between its cycles, and P has two
internal bits.  `Cpu.vary` puts other values there.  `Handler.reads` is what a handler needs of
the latches and `Handler.writes` what it fills in; `run_vary` says that a handler which has what
it needs runs alike in two contexts that differ elsewhere.
-/

namespace Qe6502

/-! ### The flags outside of B and the unused bit -/

/-- The two bits of P that the pins do not see. -/
def internalFlags : Byte := flagB ||| flagUN

/-- The same status flags, but for the two internal bits. -/
def SameFlags (p q : Byte) : Prop := p &&& ~~~internalFlags = q &&& ~~~internalFlags

instance (p q : Byte) : Decidable (SameFlags p q) := by
  unfold SameFlags
  infer_instance

namespace SameFlags

variable {p q : Byte}

theorem bit (h : SameFlags p q) {i : Nat} (hi : (~~~internalFlags).getLsbD i = true) :
    p.getLsbD i = q.getLsbD i := by
  have hbit := congrArg (fun b : Byte => b.getLsbD i) h
  simpa only [BitVec.getLsbD_and, hi, Bool.and_true] using hbit

theorem of_bit (h : ∀ i, (~~~internalFlags).getLsbD i = true → p.getLsbD i = q.getLsbD i) :
    SameFlags p q := by
  refine BitVec.eq_of_getLsbD_eq fun i _ => ?_
  rw [BitVec.getLsbD_and, BitVec.getLsbD_and]
  cases hi : (~~~internalFlags).getLsbD i with
  | false => rw [Bool.and_false, Bool.and_false]
  | true => rw [h i hi]

theorem update (h : SameFlags p q) (mask flags : Byte) :
    SameFlags ((p &&& ~~~mask) ||| flags) ((q &&& ~~~mask) ||| flags) := by
  refine .of_bit fun i hi => ?_
  simp only [BitVec.getLsbD_or, BitVec.getLsbD_and, h.bit hi]

theorem or (h : SameFlags p q) (flags : Byte) : SameFlags (p ||| flags) (q ||| flags) := by
  refine .of_bit fun i hi => ?_
  simp only [BitVec.getLsbD_or, h.bit hi]

theorem and (h : SameFlags p q) (flags : Byte) : SameFlags (p &&& flags) (q &&& flags) := by
  refine .of_bit fun i hi => ?_
  simp only [BitVec.getLsbD_and, h.bit hi]

/-- A flag that is not internal is the same. -/
theorem flag_eq (h : SameFlags p q) {mask : Byte} (hmask : mask &&& internalFlags = 0#8) :
    q &&& mask = p &&& mask := by
  refine BitVec.eq_of_getLsbD_eq fun i hi => ?_
  rw [BitVec.getLsbD_and, BitVec.getLsbD_and]
  cases hm : mask.getLsbD i with
  | false => rw [Bool.and_false, Bool.and_false]
  | true =>
    have hbit := congrArg (fun b : Byte => b.getLsbD i) hmask
    rw [h.bit]
    simpa [hm, hi] using hbit

theorem findActiveInterrupt_eq (h : SameFlags p q) (interrupts : Byte) :
    findActiveInterrupt interrupts q = findActiveInterrupt interrupts p := by
  have hi : flag q flagI = flag p flagI := h.flag_eq (by decide)
  rw [findActiveInterrupt, findActiveInterrupt, hi]

theorem pushed_eq (h : SameFlags p q) (interrupts : Byte) :
    Signal.pushed interrupts q = Signal.pushed interrupts p :=
  congrArg (flagOn · interruptSamplingOff) (h.findActiveInterrupt_eq interrupts)

theorem stackStatus_eq (h : SameFlags p q) {breakFlag : Byte}
    (hbreak : breakFlag = 0 ∨ breakFlag = flagB) :
    stackStatus q breakFlag = stackStatus p breakFlag := by
  refine BitVec.eq_of_getLsbD_eq fun i hi => ?_
  by_cases hin : (~~~internalFlags).getLsbD i = true
  · simp only [stackStatus, BitVec.getLsbD_and, BitVec.getLsbD_or, h.bit hin]
  · have hcase : i = 4 ∨ i = 5 := by
      have hall : ∀ i < 8, (~~~internalFlags).getLsbD i = true ∨ i = 4 ∨ i = 5 := by decide
      exact (hall i hi).resolve_left hin
    rcases hbreak with rfl | rfl <;> rcases hcase with rfl | rfl <;>
      simp [stackStatus, flagB, flagUN]

end SameFlags

/-! ### Latches -/

/-- The bytes of `latch_addr` and `latch_data`. -/
structure Latches where
  low : Bool := false
  high : Bool := false
  data : Bool := false
deriving DecidableEq

namespace Latches

def union (l m : Latches) : Latches := ⟨l.low || m.low, l.high || m.high, l.data || m.data⟩

structure Le (l m : Latches) : Prop where
  low : l.low = true → m.low = true
  high : l.high = true → m.high = true
  data : l.data = true → m.data = true

instance (l m : Latches) : Decidable (l.Le m) :=
  decidable_of_iff ((l.low = true → m.low = true) ∧ (l.high = true → m.high = true) ∧
    (l.data = true → m.data = true))
    ⟨fun ⟨low, high, data⟩ => ⟨low, high, data⟩, fun h => ⟨h.low, h.high, h.data⟩⟩

theorem Le.union_right (l m : Latches) : m.Le (l.union m) := by
  refine ⟨fun h => ?_, fun h => ?_, fun h => ?_⟩ <;> simp [Latches.union, h]

theorem Le.union_left {l l' : Latches} (h : l.Le l') (m : Latches) :
    (l.union m).Le (l'.union m) := by
  refine ⟨fun hm => ?_, fun hm => ?_, fun hm => ?_⟩
  · exact Bool.or_eq_true_iff.mpr ((Bool.or_eq_true_iff.mp hm).imp_left h.low)
  · exact Bool.or_eq_true_iff.mpr ((Bool.or_eq_true_iff.mp hm).imp_left h.high)
  · exact Bool.or_eq_true_iff.mpr ((Bool.or_eq_true_iff.mp hm).imp_left h.data)

theorem Le.empty (l : Latches) : Latches.Le {} l := ⟨nofun, nofun, nofun⟩

end Latches

namespace Handler

/-- What a handler reads of the latches. -/
def reads : Handler → Latches
  | mcReadLatchAddr | mcReadLatchAddrPrefetch | mcReadLatchAddrPrefetchDecimalClear
  | mcLatchDataWriteLatchAddr | mcLatchDataReadLatchAddr | mcLatchDataReadLatchAddrPrefetch
  | mcBranchPgfixPrefetch | mcCmosJmpIndXC3TargetLo | mcIzxReadPtrloIncPtr | mcWIzxC3Ptrhi
  | opStaWReadyAddrPendingNoneWrPrefetch | opStxWReadyAddrPendingNoneWrPrefetch
  | opStyWReadyAddrPendingNoneWrPrefetch | opSaxWReadyAddrPendingNoneWrPrefetch
  | opCmosStzWReadyAddrPendingNoneWrPrefetch | mcCmosJmpIndC4TargetHiRetryPrefetch
  | mcRIzyC2Ptrhi
  | opCmosAdcRReadyAddrPendingDataFetchOrDecimalDummyPrefetchDecimalSet
  | opCmosSbcRReadyAddrPendingDataFetchOrDecimalDummyPrefetchDecimalSet =>
    { low := true, high := true }
  | mcLatchAddr1SetPcFetch | mcLatchAddr1ReadLatchAddr
  | mcLatchAddr1ReadLatchAddrPrefetchDecimalClear | mcJmpIndC2TargetLo | mcIzpC2Ptrhi
  | mcWIzyC2Ptrhi | mcReadAddrWithBusHiPrefetch | opStaWReadyAddrloPendingAddrhiWrPrefetch
  | opStxWReadyAddrloPendingAddrhiWrPrefetch | opStyWReadyAddrloPendingAddrhiWrPrefetch
  | opSaxWReadyAddrloPendingAddrhiWrPrefetch | opCmosStzWReadyAddrloPendingAddrhiWrPrefetch
  | mcUnstableStoreIndexedProbePreserveBaseHigh => { low := true }
  | mcWIndexedProbe | mcCmosRIndexedProbe | mcCmosRIndexedProbePrefetchNoPageCrossDecimalClear
  | mcCmosRIndexedProbeNoLatchPrefetchNoPageCross | mcRIndexedProbeNoLatchPrefetchNoPageCross =>
    { low := true, data := true }
  | mcLatchAddr0ReadLatchAddr | mcRIzxC1Idx | mcZpxC1Idx | mcRZpyC1Idx => { high := true }
  | mcCmosWIndexedProbe | mcRIzxC4Data | mcRIzxC4DataPrefetchDecimalClear
  | mcRIzxC4DataNoLatchPrefetch | mcJmpIndC4Fetch | mcInternalReset
  | opCmosAdcDecReadyNonePendingDummyFetch | opCmosSbcDecReadyNonePendingDummyFetch =>
    { data := true }
  | opAhxUnstableWReadyAddrPendingNoneWrPrefetch | opShxUnstableWReadyAddrPendingNoneWrPrefetch
  | opShyUnstableWReadyAddrPendingNoneWrPrefetch | opTasUnstableWReadyAddrPendingNoneWrPrefetch
  | opAslRwReadyAddrDataPendingNoneWrPrefetch | opLsrRwReadyAddrDataPendingNoneWrPrefetch
  | opRolRwReadyAddrDataPendingNoneWrPrefetch | opRorRwReadyAddrDataPendingNoneWrPrefetch
  | opDecRwReadyAddrDataPendingNoneWrPrefetch | opIncRwReadyAddrDataPendingNoneWrPrefetch
  | opCmosTrbRwReadyAddrDataPendingNoneWrPrefetch | opCmosTsbRwReadyAddrDataPendingNoneWrPrefetch
  | opDcpRwReadyAddrDataPendingNoneWrPrefetch | opIscRwReadyAddrDataPendingNoneWrPrefetch
  | mcNesIscRwReadyAddrDataPendingNoneWrPrefetch | opRraRwReadyAddrDataPendingNoneWrPrefetch
  | opNesRraRwReadyAddrDataPendingNoneWrPrefetch | opRlaRwReadyAddrDataPendingNoneWrPrefetch
  | opSloRwReadyAddrDataPendingNoneWrPrefetch | opSreRwReadyAddrDataPendingNoneWrPrefetch
  | opWdcRmbSmbRwReadyAddrDataPendingNoneWrPrefetch => { low := true, high := true, data := true }
  | _ => {}

/-- What a handler fills in, when it goes on to the next cycle or not. -/
def writes : Handler → Bool → Latches
  | mcLatchAddr0ReadPcInc, _ | mcLatchAddr0ReadPcIncPrefetch, _ | mcLatchAddr0ReadLatchAddr, _
  | mcJsrAbsC1Dummy, _ | mcRIzxC1Idx, _ | mcIzxReadPtrloIncPtr, _ | mcIzpC2Ptrhi, _
  | mcZpxC1Idx, _ | mcRZpyC1Idx, _ | mcWIzxC3Ptrhi, _ => { low := true }
  | mcLatchAddr1SetPcFetch, _ | mcLatchAddr1ReadLatchAddr, _
  | mcLatchAddr1ReadLatchAddrPrefetchDecimalClear, _ | mcCmosJmpIndXC2Dummy, _
  | mcCmosRIndexedProbe, _ | mcCmosRIndexedProbePrefetchNoPageCrossDecimalClear, _
  | mcCmosWIndexedProbe, _ | mcWIndexedProbe, _
  | mcUnstableStoreIndexedProbePreserveBaseHigh, _
  | mcCmosRIndexedProbeNoLatchPrefetchNoPageCross, true
  | mcRIndexedProbeNoLatchPrefetchNoPageCross, true => { high := true }
  | mcClearLatchAddrReadPcInc, _ | mcClearLatchAddrReadPc, _ | mcJmpIndC2TargetLo, _
  | mcCmosJmpIndXC3TargetLo, _ | mcLatchZpAddrReadLatchAddr, _
  | mcLatchZpAddrReadLatchAddrPrefetchDecimalClear, _ | mcReadZpLatchX, _ | mcWZpyC1Idx, _
  | mcRIzxC4Data, _ | mcRIzxC4DataPrefetchDecimalClear, _
  | mcBranchRelC1Apply, true | mcWdcBbrBbsC4Apply, true => { low := true, high := true }
  | mcLatchDataWriteLatchAddr, _ | mcLatchDataReadLatchAddr, _
  | mcLatchDataReadLatchAddrPrefetch, _ | mcInternalReset, _
  | opCmosAdcRReadyAddrPendingDataFetchOrDecimalDummyPrefetchDecimalSet, true
  | opCmosSbcRReadyAddrPendingDataFetchOrDecimalDummyPrefetchDecimalSet, true
  | opCmosSbcImmReadyNonePendingDataFetchOrDecimalDummyPrefetchDecimalSet, true
  | opWdcAdcImmReadyNonePendingDataFetchOrDecimalDummyPrefetchDecimalSet, true
  | opRwAdcImmReadyNonePendingDataFetchOrDecimalDummyPrefetchDecimalSet, true
  | opStAdcImmReadyNonePendingDataFetchOrDecimalDummyPrefetchDecimalSet, true => { data := true }
  | mcLatchAbxBaseReadPcInc, _ | mcCmosLatchAbxBaseReadPc, _ | mcLatchAbyBaseReadPcInc, _
  | mcCmosLatchAbyBaseReadPc, _ | mcRwAbxC1Hi, _ | mcRIzyC2Ptrhi, _ | mcWIzyC2Ptrhi, _ =>
    { low := true, high := true, data := true }
  | _, _ => {}
end Handler

/-! ### Variations of a context -/

/-- What two contexts at an instruction boundary may differ in. -/
structure Variation where
  p : Byte
  latchAddr : Word
  latchData : Byte
  reservedExtension : Byte

def Cpu.vary (cpu : Cpu) (v : Variation) : Cpu :=
  { cpu with
    p := v.p
    latchAddr := v.latchAddr
    latchData := v.latchData
    reservedExtension := v.reservedExtension }

/-- What a context has of a variation. -/
def Cpu.carried (cpu : Cpu) : Variation :=
  ⟨cpu.p, cpu.latchAddr, cpu.latchData, cpu.reservedExtension⟩

/-- The same flags, and the same known part of the latches. -/
structure Known (known : Latches) (c v : Variation) : Prop where
  p : SameFlags c.p v.p
  low : known.low = true → u16GetByte v.latchAddr 0 = u16GetByte c.latchAddr 0
  high : known.high = true → u16GetByte v.latchAddr 1 = u16GetByte c.latchAddr 1
  data : known.data = true → v.latchData = c.latchData

namespace Known

variable {known needed : Latches} {c v : Variation} {cpu : Cpu}

theorem mono (hk : Known known c v) (hle : needed.Le known) : Known needed c v :=
  ⟨hk.p, fun h => hk.low (hle.low h), fun h => hk.high (hle.high h), fun h => hk.data (hle.data h)⟩

theorem addr (hk : Known known c v) (hle : Latches.Le { low := true, high := true } known) :
    v.latchAddr = c.latchAddr := word_ext (hk.low (hle.low rfl)) (hk.high (hle.high rfl))

theorem set_p (hk : Known known c v) {p q : Byte} (hp : SameFlags p q) :
    Known known { c with p := p } { v with p := q } := ⟨hp, hk.low, hk.high, hk.data⟩

theorem set_low (hk : Known known c v) (b : Byte) :
    Known (Latches.union { low := true } known)
      { c with latchAddr := u16SetByte c.latchAddr 0 b }
      { v with latchAddr := u16SetByte v.latchAddr 0 b } := by
  refine ⟨hk.p, fun _ => ?_, fun h => ?_, hk.data⟩
  · rw [getByte_zero_setByte_zero, getByte_zero_setByte_zero]
  · rw [getByte_one_setByte_zero, getByte_one_setByte_zero]
    exact hk.high h

theorem set_high (hk : Known known c v) (b : Byte) :
    Known (Latches.union { high := true } known)
      { c with latchAddr := u16SetByte c.latchAddr 1 b }
      { v with latchAddr := u16SetByte v.latchAddr 1 b } := by
  refine ⟨hk.p, fun h => ?_, fun _ => ?_, hk.data⟩
  · rw [getByte_zero_setByte_one, getByte_zero_setByte_one]
    exact hk.low h
  · rw [getByte_one_setByte_one, getByte_one_setByte_one]

theorem set_addr (hk : Known known c v) (addr : Word) :
    Known (Latches.union { low := true, high := true } known) { c with latchAddr := addr }
      { v with latchAddr := addr } :=
  ⟨hk.p, fun _ => rfl, fun _ => rfl, hk.data⟩

theorem set_data (hk : Known known c v) (data : Byte) :
    Known (Latches.union { data := true } known) { c with latchData := data }
      { v with latchData := data } :=
  ⟨hk.p, hk.low, hk.high, fun _ => rfl⟩

theorem set_all (hk : Known known c v) (addr : Word) (data : Byte) :
    Known (Latches.union { low := true, high := true, data := true } known)
      { c with latchAddr := addr, latchData := data }
      { v with latchAddr := addr, latchData := data } :=
  ⟨hk.p, fun _ => rfl, fun _ => rfl, fun _ => rfl⟩

theorem flag_eq (hk : Known known cpu.carried v) {mask : Byte}
    (hmask : mask &&& internalFlags = 0#8) : (cpu.vary v).p &&& mask = cpu.p &&& mask :=
  hk.p.flag_eq hmask

theorem decimalClear_eq (hk : Known known cpu.carried v) :
    decimalClear (cpu.vary v) = decimalClear cpu := by
  rw [decimalClear, decimalClear, hk.flag_eq (by decide)]

theorem noPageCross_eq (hk : Known known cpu.carried v) (hdata : known.data = true) :
    noPageCross (cpu.vary v) = noPageCross cpu :=
  congrArg (fun b : Byte => decide (b = 0)) (hk.data hdata)

end Known

/-! ### Operations on the registers and flags -/

/-- The operation changes registers and flags alone, and does so in the same way whatever else
is varied. -/
def Varies (op : Cpu → Cpu) : Prop :=
  ∀ (cpu : Cpu) (v : Variation), SameFlags cpu.p v.p →
    ∃ q, op (cpu.vary v) = (op cpu).vary { v with p := q } ∧ SameFlags (op cpu).p q ∧
      (op cpu).latchAddr = cpu.latchAddr ∧ (op cpu).latchData = cpu.latchData

/-- The same of an operation that also returns a byte. -/
def VariesValue (op : Cpu → Cpu × Byte) : Prop :=
  ∀ (cpu : Cpu) (v : Variation), SameFlags cpu.p v.p →
    ∃ q, op (cpu.vary v) = ((op cpu).1.vary { v with p := q }, (op cpu).2) ∧
      SameFlags (op cpu).1.p q ∧ (op cpu).1.latchAddr = cpu.latchAddr ∧
      (op cpu).1.latchData = cpu.latchData

section operations

variable (value : Byte)

theorem carryIn_vary {cpu : Cpu} {v : Variation} (h : SameFlags cpu.p v.p) :
    carryIn (cpu.vary v) = carryIn cpu := by
  have hcarry : (cpu.vary v).p &&& flagC = cpu.p &&& flagC := h.flag_eq (by decide)
  rw [carryIn, carryIn, hcarry]

theorem varies_adcBinary : Varies (adcBinary · value) := by
  intro cpu v h
  dsimp only [adcBinary]
  rw [carryIn_vary h]
  exact ⟨_, rfl, h.update _ _, rfl, rfl⟩

theorem varies_adcDecimalNmos : Varies (adcDecimalNmos · value) := by
  intro cpu v h
  dsimp only [adcDecimalNmos]
  rw [carryIn_vary h]
  exact ⟨_, rfl, h.update _ _, rfl, rfl⟩

theorem varies_sbcDecimalNmos : Varies (sbcDecimalNmos · value) := by
  intro cpu v h
  dsimp only [sbcDecimalNmos]
  rw [carryIn_vary h]
  exact ⟨_, rfl, h.update _ _, rfl, rfl⟩

theorem varies_adcDecimalCmos : Varies (adcDecimalCmos · value) := by
  intro cpu v h
  dsimp only [adcDecimalCmos]
  rw [carryIn_vary h]
  exact ⟨_, rfl, h.update _ _, rfl, rfl⟩

theorem varies_sbcDecimalCmos : Varies (sbcDecimalCmos · value) := by
  intro cpu v h
  dsimp only [sbcDecimalCmos]
  rw [carryIn_vary h]
  exact ⟨_, rfl, h.update _ _, rfl, rfl⟩

theorem varies_adcValue : Varies (adcValue · value) := by
  intro cpu v h
  have hd : (cpu.vary v).p &&& flagD = cpu.p &&& flagD := h.flag_eq (by decide)
  dsimp only [adcValue]
  rw [hd]
  split
  · exact varies_adcBinary value cpu v h
  · exact varies_adcDecimalNmos value cpu v h

theorem varies_sbcValue : Varies (sbcValue · value) := by
  intro cpu v h
  have hd : (cpu.vary v).p &&& flagD = cpu.p &&& flagD := h.flag_eq (by decide)
  dsimp only [sbcValue]
  rw [hd]
  split
  · exact varies_adcBinary _ cpu v h
  · exact varies_sbcDecimalNmos value cpu v h

theorem varies_aslValue : VariesValue (aslValue · value) :=
  fun _ _ h => ⟨_, rfl, h.update _ _, rfl, rfl⟩

theorem varies_lsrValue : VariesValue (lsrValue · value) :=
  fun _ _ h => ⟨_, rfl, h.update _ _, rfl, rfl⟩

theorem varies_rolValue : VariesValue (rolValue · value) := by
  intro cpu v h
  have hc : (cpu.vary v).p &&& flagC = cpu.p &&& flagC := h.flag_eq (by decide)
  dsimp only [rolValue]
  rw [hc]
  exact ⟨_, rfl, h.update _ _, rfl, rfl⟩

theorem varies_rorValue : VariesValue (rorValue · value) := by
  intro cpu v h
  have hc : (cpu.vary v).p &&& flagC = cpu.p &&& flagC := h.flag_eq (by decide)
  dsimp only [rorValue]
  rw [hc]
  exact ⟨_, rfl, h.update _ _, rfl, rfl⟩

theorem varies_arrBinaryValue : VariesValue (arrBinaryValue · value) := by
  intro cpu v h
  have hc : (cpu.vary v).p &&& flagC = cpu.p &&& flagC := h.flag_eq (by decide)
  dsimp only [arrBinaryValue]
  rw [hc]
  exact ⟨_, rfl, h.update _ _, rfl, rfl⟩

theorem varies_arrDecimalNmosValue : VariesValue (arrDecimalNmosValue · value) := by
  intro cpu v h
  obtain ⟨q, heq, hq, haddr, hdata⟩ := varies_arrBinaryValue value cpu v h
  dsimp only at heq hq haddr hdata
  dsimp only [arrDecimalNmosValue]
  rw [heq]
  split
  · exact ⟨_, rfl, hq.or _, haddr, hdata⟩
  · exact ⟨_, rfl, hq.and _, haddr, hdata⟩

end operations

/-! ### Shapes of handlers -/

/-- The two results differ by a variation that keeps what is known. -/
def Carries (known : Latches) (r r' : Cpu × Tick) : Prop :=
  ∃ v, r' = (r.1.vary v, r.2) ∧ Known known r.1.carried v

section shapes

variable {known : Latches} {cpu : Cpu} {v : Variation}

/-- What an operation changes is not in the latches. -/
theorem Known.of_op (hk : Known known cpu.carried v) {cpu' : Cpu} {q : Byte}
    (hq : SameFlags cpu'.p q) (haddr : cpu'.latchAddr = cpu.latchAddr)
    (hdata : cpu'.latchData = cpu.latchData) : Known known cpu'.carried { v with p := q } := by
  refine ⟨hq, fun h => ?_, fun h => ?_, fun h => ?_⟩
  · exact (hk.low h).trans (congrArg (u16GetByte · 0) haddr.symm)
  · exact (hk.high h).trans (congrArg (u16GetByte · 1) haddr.symm)
  · exact (hk.data h).trans hdata.symm

theorem carries_execFetch {op : Cpu → Byte → Cpu} {bus : Byte} (hop : Varies (op · bus))
    (hk : Known known cpu.carried v) :
    Carries known (execFetch op cpu bus) (execFetch op (cpu.vary v) bus) := by
  obtain ⟨q, heq, hq, haddr, hdata⟩ := hop cpu v hk.p
  dsimp only at heq
  dsimp only [execFetch]
  rw [heq]
  exact ⟨_, rfl, hk.of_op hq haddr hdata⟩

theorem carries_dummyPrefetch {op : Cpu → Cpu} {bus : Byte} (hop : Varies op)
    (hk : Known known cpu.carried v) :
    Carries known (dummyPrefetch op cpu bus) (dummyPrefetch op (cpu.vary v) bus) := by
  obtain ⟨q, heq, hq, haddr, hdata⟩ := hop (prefetch cpu) v hk.p
  have hprefetch : prefetch (cpu.vary v) = (prefetch cpu).vary v := rfl
  dsimp only [dummyPrefetch]
  rw [hprefetch, heq]
  exact ⟨_, rfl, hk.of_op hq haddr hdata⟩

theorem carries_modifyWritePrefetch {op : Cpu → Byte → Cpu × Byte} {bus : Byte}
    (hop : VariesValue (op · cpu.latchData)) (hk : Known known cpu.carried v)
    (hle : Latches.Le { low := true, high := true, data := true } known) :
    Carries known (modifyWritePrefetch op cpu bus) (modifyWritePrefetch op (cpu.vary v) bus) := by
  have haddr := hk.addr ⟨hle.low, hle.high, nofun⟩
  have hdata := hk.data (hle.data rfl)
  obtain ⟨q, heq, hq, haddr', hdata'⟩ := hop (prefetch cpu) v hk.p
  have hprefetch : prefetch (cpu.vary v) = (prefetch cpu).vary v := rfl
  have hoperand : ((prefetch cpu).vary v).latchData = cpu.latchData := hdata
  dsimp only at heq hq haddr' hdata'
  dsimp only [modifyWritePrefetch]
  rw [hprefetch, hoperand, heq]
  refine ⟨_, Prod.ext rfl ?_, hk.of_op hq haddr' hdata'⟩
  show write v.latchAddr _ = write (op (prefetch cpu) cpu.latchData).1.latchAddr _
  rw [haddr, haddr']
  rfl

theorem carries_branchC0Offset (hk : Known known cpu.carried v) (taken : Bool) :
    Carries known (branchC0Offset cpu taken) (branchC0Offset (cpu.vary v) taken) := by
  cases taken <;> exact ⟨v, rfl, hk⟩

theorem carries_storeAddrPrefetch {value : Cpu → Byte} {bus : Byte}
    (hvalue : value (prefetch (cpu.vary v)) = value (prefetch cpu))
    (hk : Known known cpu.carried v) (hle : Latches.Le { low := true, high := true } known) :
    Carries known (storeAddrPrefetch value cpu bus) (storeAddrPrefetch value (cpu.vary v) bus) := by
  refine ⟨v, Prod.ext rfl ?_, hk⟩
  show write v.latchAddr (value (prefetch (cpu.vary v))) =
    write cpu.latchAddr (value (prefetch cpu))
  rw [hk.addr hle, hvalue]
  rfl

theorem carries_storeAddrHiPrefetch {value : Cpu → Byte} {bus : Byte}
    (hvalue : value (prefetch (cpu.vary v)) = value (prefetch cpu))
    (hk : Known known cpu.carried v) (hle : Latches.Le { low := true } known) :
    Carries known (storeAddrHiPrefetch value cpu bus)
      (storeAddrHiPrefetch value (cpu.vary v) bus) := by
  refine ⟨v, Prod.ext rfl ?_, hk⟩
  show write (u16SetByte v.latchAddr 1 bus) (value (prefetch (cpu.vary v))) =
    write (u16SetByte cpu.latchAddr 1 bus) (value (prefetch cpu))
  rw [setByte_one_congr bus (hk.low (hle.low rfl)), hvalue]
  rfl

theorem carries_unstableStorePrefetch {value : Cpu → Byte} {bus : Byte}
    (hvalue : value (prefetch (cpu.vary v)) = value (prefetch cpu))
    (hk : Known known cpu.carried v)
    (hle : Latches.Le { low := true, high := true, data := true } known) :
    Carries known (unstableStorePrefetch value cpu bus)
      (unstableStorePrefetch value (cpu.vary v) bus) := by
  have haddr : v.latchAddr = cpu.latchAddr := hk.addr ⟨hle.low, hle.high, nofun⟩
  have hdata : v.latchData = cpu.latchData := hk.data (hle.data rfl)
  obtain ⟨p, addr, data, ext⟩ := v
  dsimp only at haddr hdata
  subst haddr hdata
  refine ⟨_, Prod.ext rfl ?_, hk⟩
  dsimp only [unstableStorePrefetch]
  rw [hvalue]
  rfl

theorem next_ne (index : Word) : (index + 1 == index) = false := by
  rw [beq_eq_false_iff_ne]
  intro h
  bv_omega

/-- With D clear the adder fetches, with D set it keeps the operand. -/
theorem carries_fetchOrDecimal {operand : Byte → Byte} {dummy : Cpu → Word} {bus : Byte}
    {writes : Bool → Latches} (hnext : writes true = { data := true }) (hskip : writes false = {})
    (hdummy : dummy ((prefetch cpu).vary v) = dummy (prefetch cpu))
    (hk : Known known cpu.carried v) :
    Carries ((writes ((fetchOrDecimalDummyPrefetchDecimalSet operand dummy cpu bus).1.microcode ==
        cpu.microcode)).union known)
      (fetchOrDecimalDummyPrefetchDecimalSet operand dummy cpu bus)
      (fetchOrDecimalDummyPrefetchDecimalSet operand dummy (cpu.vary v) bus) := by
  by_cases hd : cpu.p &&& flagD = 0
  · have hrun : ∀ c : Cpu, c.p &&& flagD = 0 →
        fetchOrDecimalDummyPrefetchDecimalSet operand dummy c bus =
          ({ adcBinary c (operand bus) with microcode := c.microcode + 1 },
            fetch (adcBinary c (operand bus))) := by
      intro c hc
      have hclear : decimalClear c = true := decide_eq_true hc
      rw [fetchOrDecimalDummyPrefetchDecimalSet, hclear]
      exact if_pos hc
    obtain ⟨q, heq, hq, haddr, hdata⟩ := varies_adcBinary (operand bus) cpu v hk.p
    dsimp only at heq hq haddr hdata
    rw [hrun cpu hd, hrun (cpu.vary v) ((hk.flag_eq (by decide)).trans hd), heq]
    dsimp only
    rw [next_ne, hskip]
    exact ⟨_, rfl, hk.of_op hq haddr hdata⟩
  · have hrun : ∀ c : Cpu, ¬c.p &&& flagD = 0 →
        fetchOrDecimalDummyPrefetchDecimalSet operand dummy c bus =
          ({ prefetch c with latchData := bus }, read (dummy (prefetch c))) := by
      intro c hc
      have hset : decimalClear c = false := decide_eq_false hc
      rw [fetchOrDecimalDummyPrefetchDecimalSet, hset]
      exact if_neg hc
    have hprefetch : prefetch (cpu.vary v) = (prefetch cpu).vary v := rfl
    have hself : ((prefetch cpu).microcode == cpu.microcode) = true := beq_self_eq_true _
    rw [hrun cpu hd, hrun (cpu.vary v) (fun h => hd ((hk.flag_eq (by decide)).symm.trans h)),
      hprefetch, hdummy]
    dsimp only
    rw [hself, hnext]
    exact ⟨_, rfl, hk.set_data bus⟩

end shapes

end Qe6502
