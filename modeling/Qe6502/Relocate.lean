import Qe6502.InterruptUnit

/-!
# Relocation

A handler uses the model and the microcode index only to move the index, apart from the two
handlers of the WDC bit instructions that read the opcode off it.  So a handler that runs at
another place, or in the block of another model, does the same and makes the same move:
`run_seat`.
-/

namespace Qe6502

/-- The context put at a place of a block. -/
def Cpu.seat (cpu : Cpu) (model : Byte) (index : Word) : Cpu :=
  { cpu with model := model, microcode := index }

/-- Where a move leaves the index before the increment that follows the handler. -/
def Move.before (model : Byte) (index : Word) : Move → Word
  | next => index
  | skip n => index + BitVec.ofNat 16 n
  | stay => index - 1
  | enter slot cycle => idx model slot.code (BitVec.ofNat 16 cycle) - 1

/-- A jump goes to a cycle of its slot. -/
def Move.Within : Move → Prop
  | enter _ cycle => cycle < microcodePerSlot
  | _ => True

/-- The function, run in `cpu`, makes the move `m` and does the same in any other seat. -/
structure Seated (f : Cpu → Cpu × Tick) (cpu : Cpu) (m : Move) : Prop where
  within : m.Within
  run : ∀ model index,
    f (cpu.seat model index) = ((f cpu).1.seat model (m.before model index), (f cpu).2)

/-- The handlers that read the opcode off the microcode index. -/
def Handler.readsSlot : Handler → Bool
  | mcWdcBbrBbsC3OffsetOrSkipPrefetch | opWdcRmbSmbRwReadyAddrDataPendingNoneWrPrefetch => true
  | _ => false

/-- The handler, run in `cpu`, makes the move `m` and does the same in any other seat of the
opcode it reads. -/
structure Handler.Seats (h : Handler) (cpu : Cpu) (bus : Byte) (m : Move) : Prop where
  within : m.Within
  run : ∀ model index,
    (h.readsSlot = true → currentOpcodeSlot (cpu.seat model index) = currentOpcodeSlot cpu) →
    h.run (cpu.seat model index) bus =
      ((h.run cpu bus).1.seat model (m.before model index), (h.run cpu bus).2)

theorem Seated.seats {h : Handler} {cpu : Cpu} {bus : Byte}
    (hseated : ∃ m, Seated (h.run · bus) cpu m) : ∃ m, h.Seats cpu bus m :=
  hseated.imp fun _ hm => ⟨hm.within, fun model index _ => hm.run model index⟩

/-! ### Shapes that branch -/

section shapes

variable {cpu : Cpu}

/-- A choice that does not depend on the seat. -/
theorem seated_ite {c : Cpu → Prop} [DecidablePred c] {f g : Cpu → Cpu × Tick}
    (hc : ∀ model index, c (cpu.seat model index) ↔ c cpu) (hf : ∃ m, Seated f cpu m)
    (hg : ∃ m, Seated g cpu m) : ∃ m, Seated (fun cpu => if c cpu then f cpu else g cpu) cpu m := by
  by_cases hcpu : c cpu
  · obtain ⟨m, hm⟩ := hf
    refine ⟨m, hm.within, fun model index => ?_⟩
    rw [if_pos hcpu, if_pos ((hc model index).mpr hcpu), hm.run]
  · obtain ⟨m, hm⟩ := hg
    refine ⟨m, hm.within, fun model index => ?_⟩
    rw [if_neg hcpu, if_neg (mt (hc model index).mp hcpu), hm.run]

/-- A function that samples under a condition on the registers. -/
theorem seated_prefetchIf {c : Cpu → Bool} {f : Cpu → Cpu × Tick}
    (hc : ∀ model index, c (cpu.seat model index) = c cpu)
    (hf : ∀ cpu, ∃ m, Seated f cpu m) :
    ∃ m, Seated (fun cpu => f (prefetchIf (c cpu) cpu)) cpu m := by
  obtain ⟨m, hm⟩ := hf (prefetchIf (c cpu) cpu)
  refine ⟨m, hm.within, fun model index => ?_⟩
  rw [hc, ← hm.run]
  cases c cpu <;> rfl

theorem seated_branchC0Offset {taken : Cpu → Bool}
    (htaken : ∀ model index, taken (cpu.seat model index) = taken cpu) :
    ∃ m, Seated (fun cpu => branchC0Offset cpu (taken cpu)) cpu m := by
  cases ht : taken cpu with
  | true =>
    refine ⟨.next, trivial, fun model index => ?_⟩
    rw [htaken, ht]
    rfl
  | false =>
    refine ⟨.skip 2, trivial, fun model index => ?_⟩
    rw [htaken, ht]
    rfl

theorem fetchOrDecimal_clear (operand : Byte → Byte) (dummy : Cpu → Word) (bus : Byte)
    (hd : decimalClear cpu = true) :
    fetchOrDecimalDummyPrefetchDecimalSet operand dummy cpu bus =
      ({ adcBinary cpu (operand bus) with microcode := cpu.microcode + 1 },
        fetch (adcBinary cpu (operand bus))) := by
  have hp : cpu.p &&& flagD = 0 := of_decide_eq_true hd
  unfold fetchOrDecimalDummyPrefetchDecimalSet
  simp only [hd, prefetchIf, Bool.not_true, Bool.false_eq_true, ↓reduceIte, hp]
  rfl

theorem fetchOrDecimal_set (operand : Byte → Byte) (dummy : Cpu → Word) (bus : Byte)
    (hd : decimalClear cpu = false) :
    fetchOrDecimalDummyPrefetchDecimalSet operand dummy cpu bus =
      ({ prefetch cpu with latchData := bus }, read (dummy (prefetch cpu))) := by
  have hp : ¬(prefetch cpu).p &&& flagD = 0 := of_decide_eq_false hd
  unfold fetchOrDecimalDummyPrefetchDecimalSet
  simp only [hd, prefetchIf, Bool.not_false, ↓reduceIte, hp]

theorem seated_fetchOrDecimal (operand : Byte → Byte) (dummy : Cpu → Word) (bus : Byte)
    (hdummy : ∀ cpu model index, dummy (Cpu.seat cpu model index) = dummy cpu) :
    ∃ m, Seated (fetchOrDecimalDummyPrefetchDecimalSet operand dummy · bus) cpu m := by
  cases hd : decimalClear cpu with
  | true =>
    refine ⟨.skip 1, trivial, fun model index => ?_⟩
    have hseat : decimalClear (cpu.seat model index) = true := hd
    rw [fetchOrDecimal_clear operand dummy bus hd, fetchOrDecimal_clear operand dummy bus hseat]
    rfl
  | false =>
    refine ⟨.next, trivial, fun model index => ?_⟩
    have hseat : decimalClear (cpu.seat model index) = false := hd
    have hread : dummy (prefetch (cpu.seat model index)) = dummy (prefetch cpu) :=
      hdummy (prefetch cpu) model index
    rw [fetchOrDecimal_set operand dummy bus hd, fetchOrDecimal_set operand dummy bus hseat,
      hread]
    rfl

/-- An operation on the registers. -/
theorem seated_execFetch {op : Cpu → Byte → Cpu} (bus : Byte)
    (hop : ∀ model index, op (cpu.seat model index) bus = (op cpu bus).seat model index) :
    Seated (execFetch op · bus) cpu .next := by
  refine ⟨trivial, fun model index => ?_⟩
  dsimp only [execFetch]
  rw [hop]
  rfl

theorem seated_modifyWrite (op : Cpu → Byte → Cpu × Byte) (bus : Byte)
    (hop : ∀ cpu data model index,
      op (Cpu.seat cpu model index) data = ((op cpu data).1.seat model index, (op cpu data).2)) :
    Seated (modifyWritePrefetch op · bus) cpu .next := by
  refine ⟨trivial, fun model index => ?_⟩
  have hseat : prefetch (cpu.seat model index) = (prefetch cpu).seat model index := rfl
  have hlatch : ((prefetch cpu).seat model index).latchData = (prefetch cpu).latchData := rfl
  dsimp only [modifyWritePrefetch]
  rw [hseat, hlatch, hop]
  rfl

end shapes

/-! ### Operations -/

section operations

variable (cpu : Cpu) (bus value : Byte) (model : Byte) (index : Word)

theorem adcValue_seat :
    adcValue (cpu.seat model index) value = (adcValue cpu value).seat model index := by
  dsimp only [adcValue]
  rw [apply_ite (fun c : Cpu => c.seat model index)]
  rfl

theorem sbcValue_seat :
    sbcValue (cpu.seat model index) value = (sbcValue cpu value).seat model index := by
  dsimp only [sbcValue]
  rw [apply_ite (fun c : Cpu => c.seat model index)]
  rfl

theorem arrDecimalNmosValue_seat : arrDecimalNmosValue (cpu.seat model index) value =
    ((arrDecimalNmosValue cpu value).1.seat model index, (arrDecimalNmosValue cpu value).2) := by
  have hbin : arrBinaryValue (cpu.seat model index) value =
      ((arrBinaryValue cpu value).1.seat model index, (arrBinaryValue cpu value).2) := rfl
  unfold arrDecimalNmosValue
  rw [hbin]
  by_cases hc : (value &&& 0xF0).setWidth 16 + (value &&& 0x10).setWidth 16 > 0x0050#16
  · simp only [if_pos hc]
    rfl
  · simp only [if_neg hc]
    rfl

theorem opArr_seated : Seated (opArrRReadyNonePendingDataFetch · bus) cpu .next := by
  refine seated_execFetch bus fun model index => ?_
  by_cases hd : cpu.p &&& flagD = 0
  · have hseat : (cpu.seat model index).p &&& flagD = 0 := hd
    simp only [hd, hseat, if_true]
    rfl
  · have hseat : ¬(cpu.seat model index).p &&& flagD = 0 := hd
    have hvalue : (cpu.seat model index).a &&& bus = cpu.a &&& bus := rfl
    simp only [hd, hseat, if_false, hvalue, arrDecimalNmosValue_seat]
    rfl

theorem mcCmosRIndexedProbe_seated : ∃ m, Seated (mcCmosRIndexedProbe · bus) cpu m :=
  seated_ite (c := fun cpu => cpu.latchData = 0)
    (f := fun cpu =>
      let cpu := setLatchAddr1 cpu (bus + cpu.latchData)
      ({ cpu with pc := cpu.pc + 1, microcode := cpu.microcode + 1 }, read cpu.latchAddr))
    (g := fun cpu =>
      let cpu := setLatchAddr1 cpu (bus + cpu.latchData)
      ({ cpu with pc := cpu.pc + 1 }, read cpu.pc))
    (fun _ _ => Iff.rfl) ⟨.skip 1, trivial, fun _ _ => rfl⟩ ⟨.next, trivial, fun _ _ => rfl⟩

theorem mcStackPushStatusB_seated : ∃ m, Seated (mcStackPushStatusB · bus) cpu m := by
  rw [funext fun cpu => mcStackPushStatusB_split cpu bus]
  exact seated_ite (fun _ _ => Iff.rfl) ⟨.enter .nmi 4, (by decide : 4 < 8), fun _ _ => rfl⟩
    (seated_ite (fun _ _ => Iff.rfl) ⟨.enter .irq 4, (by decide : 4 < 8), fun _ _ => rfl⟩
      ⟨.next, trivial, fun _ _ => rfl⟩)

theorem mcIrqC3PushP_seated : ∃ m, Seated (mcIrqC3PushP · bus) cpu m := by
  rw [funext fun cpu => mcIrqC3PushP_split cpu bus]
  exact seated_ite (fun _ _ => Iff.rfl) ⟨.enter .nmi 4, (by decide : 4 < 8), fun _ _ => rfl⟩
    ⟨.next, trivial, fun _ _ => rfl⟩

/-- The condition of the WDC branch on a bit. -/
def bbrBbsTaken (bus : Byte) (cpu : Cpu) : Bool :=
  let bit := currentOpcodeSlot cpu >>> 4
  if bit < 8#8 then bus &&& bitMask bit = 0 else bus &&& bitMask (bit - 8) ≠ 0

theorem mcWdcBbrBbsC3_seats :
    ∃ m, Handler.mcWdcBbrBbsC3OffsetOrSkipPrefetch.Seats cpu bus m := by
  have hrun : ∀ cpu, mcWdcBbrBbsC3OffsetOrSkipPrefetch cpu bus =
      branchC0Offset cpu (bbrBbsTaken bus cpu) := fun _ => rfl
  have htaken : ∀ model index, currentOpcodeSlot (cpu.seat model index) = currentOpcodeSlot cpu →
      bbrBbsTaken bus (cpu.seat model index) = bbrBbsTaken bus cpu := by
    intro model index hslot
    rw [bbrBbsTaken, bbrBbsTaken, hslot]
  cases ht : bbrBbsTaken bus cpu with
  | true =>
    refine ⟨.next, trivial, fun model index hslot => ?_⟩
    dsimp only [Handler.run]
    rw [hrun, hrun, htaken model index (hslot rfl), ht]
    rfl
  | false =>
    refine ⟨.skip 2, trivial, fun model index hslot => ?_⟩
    dsimp only [Handler.run]
    rw [hrun, hrun, htaken model index (hslot rfl), ht]
    rfl

theorem opWdcRmbSmb_seat
    (hslot : currentOpcodeSlot (cpu.seat model index) = currentOpcodeSlot cpu) :
    opWdcRmbSmbRwReadyAddrDataPendingNoneWrPrefetch (cpu.seat model index) bus =
      ((opWdcRmbSmbRwReadyAddrDataPendingNoneWrPrefetch cpu bus).1.seat model index,
        (opWdcRmbSmbRwReadyAddrDataPendingNoneWrPrefetch cpu bus).2) := by
  have hprefetch : currentOpcodeSlot (prefetch (cpu.seat model index)) =
      currentOpcodeSlot (prefetch cpu) := hslot
  dsimp only [opWdcRmbSmbRwReadyAddrDataPendingNoneWrPrefetch, modifyWritePrefetch]
  rw [hprefetch]
  rfl

end operations

/-! ### Every handler -/

/-- **A handler does not depend on its seat.** -/
theorem run_seat (h : Handler) (cpu : Cpu) (bus : Byte) : ∃ m, h.Seats cpu bus m := by
  cases h
  case mcWdcBbrBbsC3OffsetOrSkipPrefetch => exact mcWdcBbrBbsC3_seats cpu bus
  case opWdcRmbSmbRwReadyAddrDataPendingNoneWrPrefetch =>
    refine ⟨.next, trivial, fun model index hslot => ?_⟩
    exact opWdcRmbSmb_seat cpu bus model index (hslot rfl)
  all_goals refine Seated.seats ?_
  case opKilJamRFfffPendingDataLoop => exact ⟨.stay, trivial, fun _ _ => rfl⟩
  case mcFetchIllegalExtDispatch =>
    exact ⟨.enter .illegalExt 0, (by decide : 0 < 8), fun _ _ => rfl⟩
  case mcInternalReset =>
    exact seated_ite (c := fun cpu => cpu.latchData + 1 = 8)
      (f := fun cpu =>
        let cpu := { cpu with latchData := cpu.latchData + 1, pc := calculateResetPc cpu.pc bus }
        (nextEnterServiceSlot cpu .reset0 0, read cpu.pc))
      (g := fun cpu =>
        let cpu := { cpu with latchData := cpu.latchData + 1, pc := calculateResetPc cpu.pc bus }
        let tick := read cpu.pc
        (loopHere cpu, { tick with status := flagOn tick.status statusInternalReset }))
      (fun _ _ => Iff.rfl) ⟨.enter .reset0 0, (by decide : 0 < 8), fun _ _ => rfl⟩
      ⟨.stay, trivial, fun _ _ => rfl⟩
  case mcBranchRelC1Apply =>
    exact seated_ite
      (c := fun cpu => u16GetByte cpu.pc 1 = u16GetByte (branchTarget cpu.pc bus) 1)
      (f := fun cpu =>
        let pc := u16SetByte cpu.pc 0 (u16GetByte (branchTarget cpu.pc bus) 0)
        ({ cpu with pc := pc, microcode := cpu.microcode + 1 }, read cpu.pc))
      (g := fun cpu =>
        let pc := u16SetByte cpu.pc 0 (u16GetByte (branchTarget cpu.pc bus) 0)
        ({ cpu with pc := pc, latchAddr := branchTarget cpu.pc bus }, read cpu.pc))
      (fun _ _ => Iff.rfl) ⟨.skip 1, trivial, fun _ _ => rfl⟩ ⟨.next, trivial, fun _ _ => rfl⟩
  case mcWdcBbrBbsC4Apply =>
    exact seated_ite
      (c := fun cpu => u16GetByte cpu.pc 1 = u16GetByte (branchTarget cpu.pc bus) 1)
      (f := fun cpu => ({ cpu with pc := branchTarget cpu.pc bus, microcode := cpu.microcode + 1 },
        read cpu.pc))
      (g := fun cpu => ({ cpu with latchAddr := branchTarget cpu.pc bus }, read cpu.pc))
      (fun _ _ => Iff.rfl) ⟨.skip 1, trivial, fun _ _ => rfl⟩ ⟨.next, trivial, fun _ _ => rfl⟩
  case mcCmosRIndexedProbe => exact mcCmosRIndexedProbe_seated cpu bus
  case mcStackPushStatusB => exact mcStackPushStatusB_seated cpu bus
  case mcIrqC3PushP => exact mcIrqC3PushP_seated cpu bus
  case mcCmosNmiC3PushP | mcNmosNmiC5VecHi | mcCmosNmiC5VecHi | mcCmosIrqC5VecHi =>
    refine ⟨.next, trivial, fun model index => ?_⟩
    dsimp only [Handler.run, mcCmosNmiC3PushP, mcNmosNmiC5VecHi, mcCmosNmiC5VecHi,
      mcCmosIrqC5VecHi, cmosInterruptVectorLow]
    simp only [updateNmiLastSampled_eq]
    rfl
  case opAdcRReadyNonePendingDataFetch =>
    exact ⟨.next, seated_execFetch bus (adcValue_seat cpu bus)⟩
  case opSbcRReadyNonePendingDataFetch =>
    exact ⟨.next, seated_execFetch bus (sbcValue_seat cpu bus)⟩
  case opArrRReadyNonePendingDataFetch => exact ⟨.next, opArr_seated cpu bus⟩
  case mcCmosJmpIndC4TargetHiRetryPrefetch =>
    refine ⟨.next, trivial, fun model index => ?_⟩
    dsimp only [Handler.run, mcCmosJmpIndC4TargetHiRetryPrefetch]
    by_cases hc : u16GetByte cpu.latchAddr 0 = 0
    · have hcpu : u16GetByte (prefetch cpu).latchAddr 0 = 0 := hc
      have hseat : u16GetByte (prefetch (cpu.seat model index)).latchAddr 0 = 0 := hc
      rw [if_pos hcpu, if_pos hseat]
      rfl
    · have hcpu : ¬u16GetByte (prefetch cpu).latchAddr 0 = 0 := hc
      have hseat : ¬u16GetByte (prefetch (cpu.seat model index)).latchAddr 0 = 0 := hc
      rw [if_neg hcpu, if_neg hseat]
      rfl
  case mcCmosRIndexedProbePrefetchNoPageCrossDecimalClear =>
    exact seated_prefetchIf (f := (mcCmosRIndexedProbe · bus)) (fun _ _ => rfl)
      fun cpu => mcCmosRIndexedProbe_seated cpu bus
  case mcCmosRIndexedProbeNoLatchPrefetchNoPageCross =>
    refine seated_prefetchIf (c := noPageCross) (fun _ _ => rfl) fun cpu =>
      seated_ite (c := fun cpu => cpu.latchData = 0)
        (f := fun cpu => ({ cpu with pc := cpu.pc + 1, microcode := cpu.microcode + 1 },
          read (u16SetByte cpu.latchAddr 1 (bus + cpu.latchData))))
        (g := fun cpu =>
          let cpu := setLatchAddr1 cpu (bus + cpu.latchData)
          ({ cpu with pc := cpu.pc + 1 }, read cpu.pc))
        (fun _ _ => Iff.rfl) ⟨.skip 1, trivial, fun _ _ => rfl⟩ ⟨.next, trivial, fun _ _ => rfl⟩
  case mcRIndexedProbeNoLatchPrefetchNoPageCross =>
    refine seated_prefetchIf (c := noPageCross) (fun _ _ => rfl) fun cpu =>
      seated_ite (c := fun cpu => cpu.latchData = 0)
        (f := fun cpu => ({ cpu with microcode := cpu.microcode + 1 },
          read (u16SetByte cpu.latchAddr 1 bus)))
        (g := fun cpu =>
          (setLatchAddr1 cpu (bus + cpu.latchData), read (u16SetByte cpu.latchAddr 1 bus)))
        (fun _ _ => Iff.rfl) ⟨.skip 1, trivial, fun _ _ => rfl⟩ ⟨.next, trivial, fun _ _ => rfl⟩
  case mcLatchAddr1ReadLatchAddrPrefetchDecimalClear =>
    exact seated_prefetchIf (f := (mcLatchAddr1ReadLatchAddr · bus)) (fun _ _ => rfl)
      fun _ => ⟨.next, trivial, fun _ _ => rfl⟩
  case mcLatchZpAddrReadLatchAddrPrefetchDecimalClear =>
    exact seated_prefetchIf (f := (mcLatchZpAddrReadLatchAddr · bus)) (fun _ _ => rfl)
      fun _ => ⟨.next, trivial, fun _ _ => rfl⟩
  case mcRIzxC4DataPrefetchDecimalClear =>
    exact seated_prefetchIf (f := (mcRIzxC4Data · bus)) (fun _ _ => rfl)
      fun _ => ⟨.next, trivial, fun _ _ => rfl⟩
  case mcReadLatchAddrPrefetchDecimalClear =>
    refine ⟨.next, trivial, fun model index => ?_⟩
    have hseat : decimalClear (cpu.seat model index) = decimalClear cpu := rfl
    dsimp only [Handler.run, mcReadLatchAddrPrefetchDecimalClear]
    rw [hseat]
    cases decimalClear cpu <;> rfl
  case mcReadPcIncPrefetchDecimalClear =>
    exact seated_prefetchIf (c := decimalClear) (f := readPcInc) (fun _ _ => rfl)
      fun _ => ⟨.next, trivial, fun _ _ => rfl⟩
  case opIscRwReadyAddrDataPendingNoneWrPrefetch =>
    exact ⟨.next, seated_modifyWrite (fun cpu data => (sbcValue cpu (data + 1), data + 1)) bus
      fun cpu data model index => by rw [sbcValue_seat]⟩
  case opRraRwReadyAddrDataPendingNoneWrPrefetch =>
    refine ⟨.next, seated_modifyWrite (fun cpu data =>
      (adcValue (rorValue cpu data).1 (rorValue cpu data).2, (rorValue cpu data).2)) bus
      fun cpu data model index => ?_⟩
    have hror : (rorValue (cpu.seat model index) data).1 =
      (rorValue cpu data).1.seat model index := rfl
    rw [hror, adcValue_seat]
    rfl
  case opBccBranchC0OffsetPrefetch | opBneBranchC0OffsetPrefetch | opBplBranchC0OffsetPrefetch
      | opBvcBranchC0OffsetPrefetch | opBcsBranchC0OffsetPrefetch | opBeqBranchC0OffsetPrefetch
      | opBmiBranchC0OffsetPrefetch | opBvsBranchC0OffsetPrefetch =>
    exact seated_branchC0Offset fun _ _ => rfl
  case opCmosAdcRReadyAddrPendingDataFetchOrDecimalDummyPrefetchDecimalSet =>
    exact seated_fetchOrDecimal id Cpu.latchAddr bus fun _ _ _ => rfl
  case opCmosSbcRReadyAddrPendingDataFetchOrDecimalDummyPrefetchDecimalSet =>
    exact seated_fetchOrDecimal (· ^^^ 0xFF) Cpu.latchAddr bus fun _ _ _ => rfl
  case opCmosSbcImmReadyNonePendingDataFetchOrDecimalDummyPrefetchDecimalSet =>
    exact seated_fetchOrDecimal (· ^^^ 0xFF) (fun _ => 0x0000) bus fun _ _ _ => rfl
  case opWdcAdcImmReadyNonePendingDataFetchOrDecimalDummyPrefetchDecimalSet =>
    exact seated_fetchOrDecimal id (fun _ => 0x007F) bus fun _ _ _ => rfl
  case opRwAdcImmReadyNonePendingDataFetchOrDecimalDummyPrefetchDecimalSet =>
    exact seated_fetchOrDecimal id (fun _ => 0x0059) bus fun _ _ _ => rfl
  case opStAdcImmReadyNonePendingDataFetchOrDecimalDummyPrefetchDecimalSet =>
    exact seated_fetchOrDecimal id (fun _ => 0x0056) bus fun _ _ _ => rfl
  all_goals exact ⟨.next, trivial, fun _ _ => rfl⟩

end Qe6502
