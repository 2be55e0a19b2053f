import Qe6502.Relocate
import Qe6502.Core

/-!
# Instructions apart from their place

Inside a slot a tick goes to the next entry or skips some: `Handler.skips` says how many.  So an
instruction can be followed on the entries of its slot alone, whatever the model and the
interrupt state are.  `Phase.step` is that machine, and `execute_phase` says that a tick of the
CPU is a step of it.
-/

namespace Qe6502

/-! ### Skipped entries -/

/-- The target of a relative branch is in the page of the program counter. -/
def samePage (cpu : Cpu) (bus : Byte) : Bool :=
  u16GetByte cpu.pc 1 = u16GetByte (branchTarget cpu.pc bus) 1

/-- The condition of a branch; every other handler counts as taken. -/
def Handler.taken (cpu : Cpu) (bus : Byte) : Handler → Bool
  | opBccBranchC0OffsetPrefetch => cpu.p &&& flagC = 0
  | opBcsBranchC0OffsetPrefetch => cpu.p &&& flagC ≠ 0
  | opBeqBranchC0OffsetPrefetch => cpu.p &&& flagZ ≠ 0
  | opBmiBranchC0OffsetPrefetch => cpu.p &&& flagN ≠ 0
  | opBneBranchC0OffsetPrefetch => cpu.p &&& flagZ = 0
  | opBplBranchC0OffsetPrefetch => cpu.p &&& flagN = 0
  | opBvcBranchC0OffsetPrefetch => cpu.p &&& flagV = 0
  | opBvsBranchC0OffsetPrefetch => cpu.p &&& flagV ≠ 0
  | mcWdcBbrBbsC3OffsetOrSkipPrefetch => bbrBbsTaken bus cpu
  | _ => true

/-- The number of entries a handler skips. -/
def Handler.skips (cpu : Cpu) (bus : Byte) : Handler → Nat
  | mcBranchRelC1Apply | mcWdcBbrBbsC4Apply => if samePage cpu bus then 1 else 0
  | mcCmosRIndexedProbe | mcCmosRIndexedProbePrefetchNoPageCrossDecimalClear
  | mcCmosRIndexedProbeNoLatchPrefetchNoPageCross | mcRIndexedProbeNoLatchPrefetchNoPageCross =>
    if noPageCross cpu then 1 else 0
  | opCmosAdcRReadyAddrPendingDataFetchOrDecimalDummyPrefetchDecimalSet
  | opCmosSbcRReadyAddrPendingDataFetchOrDecimalDummyPrefetchDecimalSet
  | opCmosSbcImmReadyNonePendingDataFetchOrDecimalDummyPrefetchDecimalSet
  | opWdcAdcImmReadyNonePendingDataFetchOrDecimalDummyPrefetchDecimalSet
  | opRwAdcImmReadyNonePendingDataFetchOrDecimalDummyPrefetchDecimalSet
  | opStAdcImmReadyNonePendingDataFetchOrDecimalDummyPrefetchDecimalSet =>
    if decimalClear cpu then 1 else 0
  | h => if h.taken cpu bus then 0 else 2

/-- The handlers that stay in their slot, apart from interrupts. -/
def Handler.flows : Handler → Bool
  | opKilJamRFfffPendingDataLoop | mcFetchIllegalExtDispatch | mcInternalReset => false
  | _ => true

theorem skips_ite {cpu : Cpu} {c : Prop} [Decidable c] {r₁ r₂ : Cpu × Tick} {n₁ n₂ : Nat}
    (h₁ : r₁.1.microcode = cpu.microcode + BitVec.ofNat 16 n₁)
    (h₂ : r₂.1.microcode = cpu.microcode + BitVec.ofNat 16 n₂) :
    (if c then r₁ else r₂).1.microcode =
      cpu.microcode + BitVec.ofNat 16 (if decide c then n₁ else n₂) := by
  by_cases hc : c
  · rw [if_pos hc, if_pos (decide_eq_true hc), h₁]
  · rw [if_neg hc, if_neg (by simpa using hc), h₂]

theorem skips_prefetchIf {cpu : Cpu} {f : Cpu → Cpu × Tick} {n : Cpu → Nat} {cond : Bool}
    (hf : ∀ cpu, (f cpu).1.microcode = cpu.microcode + BitVec.ofNat 16 (n cpu))
    (hn : n (prefetch cpu) = n cpu) :
    (f (prefetchIf cond cpu)).1.microcode = cpu.microcode + BitVec.ofNat 16 (n cpu) := by
  cases cond with
  | false => exact hf cpu
  | true => exact (hf (prefetch cpu)).trans (by rw [hn]; rfl)

theorem skips_branch (cpu : Cpu) (taken : Bool) : (branchC0Offset cpu taken).1.microcode =
    cpu.microcode + BitVec.ofNat 16 (if taken then 0 else 2) := by
  cases taken with
  | true => exact (BitVec.add_zero _).symm
  | false => rfl

theorem skips_fetchOrDecimal (operand : Byte → Byte) (dummy : Cpu → Word) (cpu : Cpu)
    (bus : Byte) : (fetchOrDecimalDummyPrefetchDecimalSet operand dummy cpu bus).1.microcode =
      cpu.microcode + BitVec.ofNat 16 (if decimalClear cpu then 1 else 0) := by
  cases hd : decimalClear cpu with
  | true => rw [fetchOrDecimal_clear operand dummy bus hd]; rfl
  | false =>
    rw [fetchOrDecimal_set operand dummy bus hd]
    exact (BitVec.add_zero _).symm

/-- A handler with one exit goes to the next entry. -/
theorem skips_plain {h : Handler} (hexits : h.exits = [h.plainExit])
    (cpu : Cpu) (bus : Byte) :
    (h.run cpu bus).1.microcode = cpu.microcode + BitVec.ofNat 16 0 := by
  obtain ⟨e, hmem, he⟩ := exit_of_run h cpu bus
  rw [hexits, List.mem_singleton] at hmem
  have hindex : (h.run cpu bus).1.microcode + 1 = cpu.microcode + 1 := by
    have hi := he.index
    rw [hmem] at hi
    exact hi
  exact ((BitVec.add_left_inj 1).mp hindex).trans (BitVec.add_zero _).symm

/-- **Where a handler that stays in its slot goes.** -/
theorem run_skips {h : Handler} (hflow : h.flows = true) (cpu : Cpu) (bus : Byte) :
    (h.run cpu.forget bus).1.microcode = cpu.microcode + BitVec.ofNat 16 (h.skips cpu bus) := by
  have hskips : h.skips cpu bus = h.skips cpu.forget bus := by cases h <;> rfl
  have hindex : cpu.microcode = cpu.forget.microcode := rfl
  rw [hskips, hindex]
  cases h
  case opKilJamRFfffPendingDataLoop | mcFetchIllegalExtDispatch | mcInternalReset => cases hflow
  case mcStackPushStatusB | mcIrqC3PushP =>
    exact (push_forget rfl cpu bus).2.1.trans (BitVec.add_zero _).symm
  case mcBranchRelC1Apply | mcWdcBbrBbsC4Apply | mcCmosRIndexedProbe =>
    exact skips_ite rfl (BitVec.add_zero _).symm
  case mcCmosRIndexedProbePrefetchNoPageCrossDecimalClear =>
    exact skips_prefetchIf (f := (mcCmosRIndexedProbe · bus))
      (n := fun cpu => if noPageCross cpu then 1 else 0)
      (fun cpu => skips_ite rfl (BitVec.add_zero _).symm) rfl
  case mcCmosRIndexedProbeNoLatchPrefetchNoPageCross =>
    exact skips_prefetchIf (n := fun cpu => if noPageCross cpu then 1 else 0)
      (f := fun cpu =>
        if cpu.latchData = 0 then
          ({ cpu with pc := cpu.pc + 1, microcode := cpu.microcode + 1 },
            read (u16SetByte cpu.latchAddr 1 (bus + cpu.latchData)))
        else
          let cpu := setLatchAddr1 cpu (bus + cpu.latchData)
          ({ cpu with pc := cpu.pc + 1 }, read cpu.pc))
      (fun cpu => skips_ite rfl (BitVec.add_zero _).symm) rfl
  case mcRIndexedProbeNoLatchPrefetchNoPageCross =>
    exact skips_prefetchIf (n := fun cpu => if noPageCross cpu then 1 else 0)
      (f := fun cpu =>
        if cpu.latchData = 0 then
          ({ cpu with microcode := cpu.microcode + 1 }, read (u16SetByte cpu.latchAddr 1 bus))
        else
          (setLatchAddr1 cpu (bus + cpu.latchData), read (u16SetByte cpu.latchAddr 1 bus)))
      (fun cpu => skips_ite rfl (BitVec.add_zero _).symm) rfl
  case mcLatchAddr1ReadLatchAddrPrefetchDecimalClear
      | mcLatchZpAddrReadLatchAddrPrefetchDecimalClear | mcRIzxC4DataPrefetchDecimalClear
      | mcReadLatchAddrPrefetchDecimalClear | mcReadPcIncPrefetchDecimalClear =>
    dsimp only [Handler.run, mcLatchAddr1ReadLatchAddrPrefetchDecimalClear,
      mcLatchZpAddrReadLatchAddrPrefetchDecimalClear, mcRIzxC4DataPrefetchDecimalClear,
      mcReadLatchAddrPrefetchDecimalClear, mcReadPcIncPrefetchDecimalClear, prefetchIf]
    cases decimalClear cpu.forget <;> exact (BitVec.add_zero _).symm
  case opBccBranchC0OffsetPrefetch | opBneBranchC0OffsetPrefetch | opBplBranchC0OffsetPrefetch
      | opBvcBranchC0OffsetPrefetch | opBcsBranchC0OffsetPrefetch | opBeqBranchC0OffsetPrefetch
      | opBmiBranchC0OffsetPrefetch | opBvsBranchC0OffsetPrefetch =>
    exact skips_branch cpu.forget _
  case mcWdcBbrBbsC3OffsetOrSkipPrefetch =>
    exact skips_branch cpu.forget (bbrBbsTaken bus cpu.forget)
  case opCmosAdcRReadyAddrPendingDataFetchOrDecimalDummyPrefetchDecimalSet =>
    exact skips_fetchOrDecimal id Cpu.latchAddr cpu.forget bus
  case opCmosSbcRReadyAddrPendingDataFetchOrDecimalDummyPrefetchDecimalSet =>
    exact skips_fetchOrDecimal (· ^^^ 0xFF) Cpu.latchAddr cpu.forget bus
  case opCmosSbcImmReadyNonePendingDataFetchOrDecimalDummyPrefetchDecimalSet =>
    exact skips_fetchOrDecimal (· ^^^ 0xFF) (fun _ => 0x0000) cpu.forget bus
  case opWdcAdcImmReadyNonePendingDataFetchOrDecimalDummyPrefetchDecimalSet =>
    exact skips_fetchOrDecimal id (fun _ => 0x007F) cpu.forget bus
  case opRwAdcImmReadyNonePendingDataFetchOrDecimalDummyPrefetchDecimalSet =>
    exact skips_fetchOrDecimal id (fun _ => 0x0059) cpu.forget bus
  case opStAdcImmReadyNonePendingDataFetchOrDecimalDummyPrefetchDecimalSet =>
    exact skips_fetchOrDecimal id (fun _ => 0x0056) cpu.forget bus
  all_goals exact skips_plain rfl _ _

/-! ### The machine of a slot -/

/-- What one tick of an instruction shows: the request and, if interrupts are sampled, the P
under which they are. -/
structure Beat where
  tick : Tick
  sample : Option Byte
deriving DecidableEq

/-- A cycle of a slot, and the context without its place and its interrupt state. -/
structure Phase where
  cycle : Nat
  cpu : Cpu

def Handler.beat (h : Handler) (cpu : Cpu) (bus : Byte) : Beat :=
  ⟨(h.run cpu bus).2, if h.signal cpu = .sample then some cpu.p else none⟩

/-- The context in the seat that all models share. -/
def Cpu.base (cpu : Cpu) (slot : Nat) : Cpu := cpu.forget.seat 0 (position 0 slot 0)

/-- One tick inside the slot. -/
def Phase.step (entries : Slot) (p : Phase) (bus : Byte) : Option (Beat × Phase) :=
  match entries[p.cycle]? with
  | some (.handler h) =>
    some (h.beat p.cpu bus, ⟨p.cycle + 1 + h.skips p.cpu bus,
      (h.run p.cpu bus).1.forget.seat p.cpu.model p.cpu.microcode⟩)
  | _ => none

theorem currentOpcodeSlot_at {cpu : Cpu} {slot cycle : Nat} (hat : cpu.At slot cycle)
    (hm : cpu.model.toNat < 5) (hs : slot < 264) (hc : cycle < 8) :
    currentOpcodeSlot cpu = BitVec.ofNat 8 slot := by
  have hmask : (0x00FF : Word).toNat = 2 ^ 8 - 1 := rfl
  rw [currentOpcodeSlot, hat]
  apply BitVec.eq_of_toNat_eq
  rw [BitVec.toNat_setWidth, BitVec.toNat_and, BitVec.toNat_ushiftRight, position_toNat hm hs hc,
    hmask, Nat.and_two_pow_sub_one_eq_mod, Nat.shiftRight_eq_div_pow, BitVec.toNat_ofNat]
  omega

theorem currentOpcodeSlot_base {cpu : Cpu} {slot cycle : Nat} (hat : cpu.At slot cycle)
    (hm : cpu.model.toNat < 5) (hs : slot < 264) (hc : cycle < 8) :
    currentOpcodeSlot (cpu.base slot) = currentOpcodeSlot cpu := by
  have hbase : (cpu.base slot).At slot 0 := rfl
  rw [currentOpcodeSlot_at hbase (by decide : (0 : Byte).toNat < 5) hs (by omega),
    currentOpcodeSlot_at hat hm hs hc]

/-- **A tick of the CPU is a step inside its slot**, as far as the request, the registers and
the sampling go. -/
theorem execute_phase {cpu : Cpu} {slot cycle : Nat} (hat : cpu.At slot cycle)
    (hm : cpu.model.toNat < 5) (hs : slot < 264) (hc : cycle < 8) (h : Handler) (bus : Byte) :
    h.beat (cpu.base slot) bus =
        ⟨(execute h cpu bus).2, if h.signal cpu = .sample then some cpu.p else none⟩ ∧
      (h.run (cpu.base slot) bus).1.forget.seat (cpu.base slot).model (cpu.base slot).microcode =
        (execute h cpu bus).1.base slot := by
  obtain ⟨m, hseats⟩ := run_seat h cpu.forget bus
  have hopcode : currentOpcodeSlot (cpu.base slot) = currentOpcodeSlot cpu.forget :=
    currentOpcodeSlot_base hat hm hs hc
  have hrun : h.run (cpu.base slot) bus = _ := hseats.run 0 (position 0 slot 0) fun _ => hopcode
  have hsignal : h.signal (cpu.base slot) = h.signal cpu := by cases h <;> rfl
  obtain ⟨interrupts, hijack, index, hframe⟩ := execute_frame h cpu bus
  rw [Handler.beat, hrun, hsignal, execute_tick, hframe]
  exact ⟨rfl, rfl⟩

theorem skips_base {cpu : Cpu} {slot cycle : Nat} (hat : cpu.At slot cycle)
    (hm : cpu.model.toNat < 5) (hs : slot < 264) (hc : cycle < 8) (h : Handler) (bus : Byte) :
    h.skips (cpu.base slot) bus = h.skips cpu bus := by
  cases h
  case mcWdcBbrBbsC3OffsetOrSkipPrefetch =>
    have htaken : bbrBbsTaken bus (cpu.base slot) = bbrBbsTaken bus cpu := by
      rw [bbrBbsTaken, bbrBbsTaken, currentOpcodeSlot_base hat hm hs hc]
    exact congrArg (fun taken : Bool => if taken then 0 else 2) htaken
  all_goals rfl

/-- Where the tick leads, if no service slot is entered. -/
theorem execute_skips {cpu : Cpu} {slot cycle : Nat} (hat : cpu.At slot cycle)
    (hm : cpu.model.toNat < 5) (hs : slot < 264) (hc : cycle < 8) {h : Handler}
    (hflow : h.flows = true) {bus : Byte} (hnone : (unitTick h cpu bus).2 = none) :
    (execute h cpu bus).1.At slot (cycle + 1 + h.skips (cpu.base slot) bus) := by
  have hmodel : (execute h cpu bus).1.model = cpu.model := execute_model
  have hindex : cpu.microcode = position cpu.model.toNat slot cycle := hat
  have hmicro := execute_microcode h cpu bus
  rw [hnone] at hmicro
  dsimp only at hmicro
  rw [run_skips hflow, hindex, position_add, position_succ] at hmicro
  rw [Cpu.At, hmodel, hmicro, skips_base hat hm hs hc, Nat.add_right_comm]

end Qe6502
