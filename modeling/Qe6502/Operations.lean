import Qe6502.Shapes
import Qe6502.Restart
import Qe6502.Phases

/-!
# What operations compute

An operation reads the registers and one operand, and changes the registers only.  The latches
and the place of the context have no say in it, so each kind of operation has an effect on
`Registers`, and a tick that runs it shows a request that the effect does not decide.
-/

namespace Qe6502

/-- The registers of the programmer. -/
structure Registers where
  pc : Word
  s : Byte
  a : Byte
  x : Byte
  y : Byte
  p : Byte
deriving DecidableEq

def Cpu.registers (cpu : Cpu) : Registers := ⟨cpu.pc, cpu.s, cpu.a, cpu.x, cpu.y, cpu.p⟩

/-- A context with given registers and a given byte in `latch_data`. -/
def Registers.cpu (r : Registers) (data : Byte) : Cpu where
  model := 0
  reservedExtension := 0
  microcode := 0
  latchAddr := 0
  latchData := data
  hijackMicrocode := 0
  pc := r.pc
  s := r.s
  a := r.a
  x := r.x
  y := r.y
  p := r.p
  interrupts := 0

/-- The request of an opcode fetch. -/
def fetchAt (pc : Word) : Tick := ⟨pc, 0, statusOpcodeFetch⟩

theorem fetch_eq_fetchAt (cpu : Cpu) : fetch cpu = fetchAt cpu.pc := fetch_eq cpu

/-! ### Loads -/

theorem registers_ite {c : Prop} [Decidable c] {a b a' b' : Cpu}
    (ha : a.registers = a'.registers) (hb : b.registers = b'.registers) :
    (if c then a else b).registers = (if c then a' else b').registers := by
  by_cases hc : c
  · rw [if_pos hc, if_pos hc, ha]
  · rw [if_neg hc, if_neg hc, hb]

theorem execFetch_tick {op : Cpu → Byte → Cpu} {cpu : Cpu} {bus : Byte}
    (hpc : (op cpu bus).pc = cpu.pc) : (execFetch op cpu bus).2 = fetchAt cpu.pc :=
  (fetch_eq_fetchAt _).trans (congrArg fetchAt hpc)

theorem arrDecimalNmosValue_registers (cpu : Cpu) (value : Byte) :
    (arrDecimalNmosValue cpu value).1.registers =
        (arrDecimalNmosValue (cpu.registers.cpu 0) value).1.registers ∧
      (arrDecimalNmosValue cpu value).2 = (arrDecimalNmosValue (cpu.registers.cpu 0) value).2 ∧
        (arrDecimalNmosValue cpu value).1.pc = cpu.pc := by
  dsimp only [arrDecimalNmosValue]
  split <;> exact ⟨rfl, rfl, rfl⟩

/-- The register operation of ARR on the NMOS model. -/
def arrValue (cpu : Cpu) (value : Byte) : Cpu :=
  let (cpu, result) :=
    if cpu.p &&& flagD = 0 then arrBinaryValue cpu value else arrDecimalNmosValue cpu value
  { cpu with a := result }

theorem arrValue_registers (cpu : Cpu) (value : Byte) :
    (arrValue cpu value).registers = (arrValue (cpu.registers.cpu 0) value).registers ∧
      (arrValue cpu value).pc = cpu.pc := by
  have hp : (cpu.registers.cpu 0).p = cpu.p := rfl
  obtain ⟨hregisters, hvalue, hpc⟩ := arrDecimalNmosValue_registers cpu value
  rw [arrValue, arrValue, hp]
  by_cases hd : cpu.p &&& flagD = 0
  · rw [if_pos hd, if_pos hd]
    exact ⟨rfl, rfl⟩
  · rw [if_neg hd, if_neg hd]
    refine ⟨?_, hpc⟩
    exact congrArg₂ (fun (r : Registers) (v : Byte) => { r with a := v }) hregisters hvalue

section load

variable (op : Load)

/-- The registers after the operation on an operand. -/
def Load.effect (r : Registers) (data : Byte) : Registers :=
  (op.handler.run (r.cpu 0) data).1.registers

/-- **A load** fetches at the program counter and has its effect on the registers. -/
theorem Load.run (cpu : Cpu) (bus : Byte) :
    (op.handler.run cpu bus).2 = fetchAt cpu.pc ∧ op.handler.signal cpu = .none ∧
      (op.handler.run cpu bus).1.registers = op.effect cpu.registers bus ∧
        (op.handler.run cpu bus).1.pc = cpu.pc := by
  obtain ⟨h, hh⟩ := op
  rw [Load.effect]
  cases h <;> cases hh
  case opAdcRReadyNonePendingDataFetch =>
    obtain ⟨p, a, hframe⟩ := adcValue_frame cpu bus
    have hpc : (adcValue cpu bus).pc = cpu.pc := by rw [hframe]
    exact ⟨execFetch_tick hpc, rfl, registers_ite rfl rfl, hpc⟩
  case opSbcRReadyNonePendingDataFetch =>
    obtain ⟨p, a, hframe⟩ := sbcValue_frame cpu bus
    have hpc : (sbcValue cpu bus).pc = cpu.pc := by rw [hframe]
    exact ⟨execFetch_tick hpc, rfl, registers_ite rfl rfl, hpc⟩
  case opArrRReadyNonePendingDataFetch =>
    obtain ⟨hregisters, hpc⟩ := arrValue_registers cpu (cpu.a &&& bus)
    exact ⟨execFetch_tick hpc, rfl, hregisters, hpc⟩
  all_goals exact ⟨fetch_eq_fetchAt _, rfl, rfl, rfl⟩

theorem Load.effect_pc (r : Registers) (data : Byte) : (op.effect r data).pc = r.pc :=
  (op.run (r.cpu 0) data).2.2.2

end load

/-! ### Operations during a dummy read, and pushes -/

def Implied.effect (op : Implied) (r : Registers) : Registers :=
  (op.handler.run (r.cpu 0) 0).1.registers

theorem Implied.run (op : Implied) (cpu : Cpu) (bus : Byte) :
    (op.handler.run cpu bus).2 = read cpu.pc ∧ op.handler.signal cpu = .sample ∧
      (op.handler.run cpu bus).1.registers = op.effect cpu.registers ∧
        (op.handler.run cpu bus).1.pc = cpu.pc := by
  obtain ⟨h, hh⟩ := op
  cases h <;> cases hh <;> exact ⟨rfl, rfl, rfl, rfl⟩

theorem Implied.effect_pc (op : Implied) (r : Registers) : (op.effect r).pc = r.pc :=
  (op.run (r.cpu 0) 0).2.2.2

theorem Implied.skips (op : Implied) (cpu : Cpu) (bus : Byte) : op.handler.skips cpu bus = 0 := by
  obtain ⟨h, hh⟩ := op
  cases h <;> cases hh <;> rfl

/-- The byte that is pushed. -/
def Push.value (op : Push) (r : Registers) : Byte := (op.handler.run (r.cpu 0) 0).2.bus

theorem Push.run (op : Push) (cpu : Cpu) (bus : Byte) :
    (op.handler.run cpu bus).2 = write (stackAddress cpu.s) (op.value cpu.registers) ∧
      op.handler.signal cpu = .sample ∧
        (op.handler.run cpu bus).1.registers = { cpu.registers with s := cpu.s - 1 } := by
  obtain ⟨h, hh⟩ := op
  cases h <;> cases hh <;> exact ⟨rfl, rfl, rfl⟩

theorem Push.skips (op : Push) (cpu : Cpu) (bus : Byte) : op.handler.skips cpu bus = 0 := by
  obtain ⟨h, hh⟩ := op
  cases h <;> cases hh <;> rfl

/-! ### Stores and modifications -/

/-- The register that an unstable store masks. -/
def Unstable.source (op : Unstable) (r : Registers) : Byte :=
  match op.handler with
  | .opShxUnstableWReadyAddrPendingNoneWrPrefetch => r.x
  | .opShyUnstableWReadyAddrPendingNoneWrPrefetch => r.y
  | _ => r.a &&& r.x

/-- The byte that an unstable store writes, masked with the high byte of its base. -/
def Unstable.value (op : Unstable) (r : Registers) (high : Byte) : Byte :=
  op.source r &&& (high + 1)

def Unstable.effect (op : Unstable) (r : Registers) : Registers :=
  (op.handler.run (r.cpu 0) 0).1.registers

/-- The high byte of the address is the byte written, if a page is crossed. -/
theorem Unstable.run (op : Unstable) (cpu : Cpu) (bus : Byte) :
    op.handler.signal cpu = .sample ∧ op.handler.skips cpu bus = 0 ∧
      (op.handler.run cpu bus).1.pc = cpu.pc ∧
        (op.handler.run cpu bus).1.registers = op.effect cpu.registers ∧
          (op.handler.run cpu bus).2 =
            write (u16SetByte cpu.latchAddr 1 (if cpu.latchData = 0 then u16GetByte cpu.latchAddr 1
              else op.value cpu.registers (u16GetByte cpu.latchAddr 1)))
              (op.value cpu.registers (u16GetByte cpu.latchAddr 1)) := by
  obtain ⟨h, hh⟩ := op
  cases h <;> cases hh <;> exact ⟨rfl, rfl, rfl, rfl, rfl⟩

theorem Unstable.effect_pc (op : Unstable) (r : Registers) : (op.effect r).pc = r.pc :=
  (op.run (r.cpu 0) 0).2.2.1

section modify

variable (op : Modify)

/-- The byte that is written back; RMB and SMB find their bit in the microcode index. -/
def Modify.value (cpu : Cpu) : Byte := (op.handler.run cpu 0).2.bus

def Modify.effect (r : Registers) (data : Byte) : Registers :=
  (op.handler.run (r.cpu data) 0).1.registers

theorem modifyWritePrefetch_run {f : Cpu → Byte → Cpu × Byte} {cpu : Cpu} {bus : Byte}
    (haddr : (f (prefetch cpu) cpu.latchData).1.latchAddr = cpu.latchAddr)
    (hpc : (f (prefetch cpu) cpu.latchData).1.pc = cpu.pc)
    (hf : (f (prefetch cpu) cpu.latchData).1.registers =
      (f (prefetch (cpu.registers.cpu cpu.latchData)) cpu.latchData).1.registers) :
    (modifyWritePrefetch f cpu bus).2 =
        write cpu.latchAddr (modifyWritePrefetch f cpu 0).2.bus ∧
      (modifyWritePrefetch f cpu bus).1.registers =
          (modifyWritePrefetch f (cpu.registers.cpu cpu.latchData) 0).1.registers ∧
        (modifyWritePrefetch f cpu bus).1.pc = cpu.pc :=
  ⟨congrArg (fun a => write a (f (prefetch cpu) cpu.latchData).2) haddr, hf, hpc⟩

/-- **A modification** writes back at `latch_addr`. -/
theorem Modify.run (cpu : Cpu) (bus : Byte) :
    op.handler.signal cpu = .sample ∧
      (op.handler.run cpu bus).2 = write cpu.latchAddr (op.value cpu) ∧
        (op.handler.run cpu bus).1.registers = op.effect cpu.registers cpu.latchData ∧
          (op.handler.run cpu bus).1.pc = cpu.pc := by
  obtain ⟨h, hh⟩ := op
  rw [Modify.value, Modify.effect]
  cases h <;> cases hh
  case opIscRwReadyAddrDataPendingNoneWrPrefetch =>
    obtain ⟨p, a, hframe⟩ := sbcValue_frame (prefetch cpu) (cpu.latchData + 1)
    have haddr := congrArg Cpu.latchAddr hframe
    have hpc := congrArg Cpu.pc hframe
    exact ⟨rfl, modifyWritePrefetch_run haddr hpc (registers_ite rfl rfl)⟩
  case opRraRwReadyAddrDataPendingNoneWrPrefetch =>
    obtain ⟨p, a, hframe⟩ := adcValue_frame (rorValue (prefetch cpu) cpu.latchData).1
      (rorValue (prefetch cpu) cpu.latchData).2
    have haddr := congrArg Cpu.latchAddr hframe
    have hpc := congrArg Cpu.pc hframe
    exact ⟨rfl, modifyWritePrefetch_run haddr hpc (registers_ite rfl rfl)⟩
  all_goals exact ⟨rfl, rfl, rfl, rfl⟩

theorem Modify.skips (cpu : Cpu) (bus : Byte) : op.handler.skips cpu bus = 0 := by
  obtain ⟨h, hh⟩ := op
  cases h <;> cases hh <;> rfl

theorem Modify.effect_pc (r : Registers) (data : Byte) : (op.effect r data).pc = r.pc :=
  (op.run (r.cpu data) 0).2.2.2

end modify

/-! ### Sums of the CMOS models -/

section sum

variable (op : Sum)

/-- The sum without decimal mode. -/
def Sum.load : Load where
  handler := op.binary
  loads := by
    obtain ⟨h, binary, decimal, hh⟩ := op
    cases h <;> cases hh <;> rfl

/-- The sum of the extra cycle. -/
def Sum.effect (r : Registers) (data : Byte) : Registers :=
  (op.decimal.run (r.cpu data) 0).1.registers

theorem Sum.run_eq : ∃ operand dummy, ∀ cpu bus,
    op.handler.run cpu bus = fetchOrDecimalDummyPrefetchDecimalSet operand dummy cpu bus ∧
      (op.binary.run cpu bus).1 = adcBinary cpu (operand bus) := by
  obtain ⟨h, binary, decimal, hh⟩ := op
  cases h <;> cases hh
  case opCmosAdcRReadyAddrPendingDataFetchOrDecimalDummyPrefetchDecimalSet =>
    exact ⟨id, Cpu.latchAddr, fun _ _ => ⟨rfl, rfl⟩⟩
  case opCmosSbcRReadyAddrPendingDataFetchOrDecimalDummyPrefetchDecimalSet =>
    exact ⟨(· ^^^ 0xFF), Cpu.latchAddr, fun _ _ => ⟨rfl, rfl⟩⟩
  case opCmosSbcImmReadyNonePendingDataFetchOrDecimalDummyPrefetchDecimalSet =>
    exact ⟨(· ^^^ 0xFF), fun _ => 0x0000, fun _ _ => ⟨rfl, rfl⟩⟩
  case opWdcAdcImmReadyNonePendingDataFetchOrDecimalDummyPrefetchDecimalSet =>
    exact ⟨id, fun _ => 0x007F, fun _ _ => ⟨rfl, rfl⟩⟩
  case opRwAdcImmReadyNonePendingDataFetchOrDecimalDummyPrefetchDecimalSet =>
    exact ⟨id, fun _ => 0x0059, fun _ _ => ⟨rfl, rfl⟩⟩
  case opStAdcImmReadyNonePendingDataFetchOrDecimalDummyPrefetchDecimalSet =>
    exact ⟨id, fun _ => 0x0056, fun _ _ => ⟨rfl, rfl⟩⟩

theorem Sum.signal (cpu : Cpu) :
    op.handler.signal cpu = if !decimalClear cpu then .sample else .none := by
  obtain ⟨h, binary, decimal, hh⟩ := op
  cases h <;> cases hh <;> rfl

/-- **Without decimal mode** a sum is done at once. -/
theorem Sum.run_clear {cpu : Cpu} (hd : decimalClear cpu = true) (bus : Byte) :
    (op.handler.run cpu bus).2 = fetchAt cpu.pc ∧ op.handler.signal cpu = .none ∧
      (op.handler.run cpu bus).1.registers = op.load.effect cpu.registers bus := by
  obtain ⟨operand, dummy, hrun⟩ := op.run_eq
  have hbinary : (adcBinary cpu (operand bus)).registers = op.load.effect cpu.registers bus := by
    rw [← (op.load.run cpu bus).2.2.1]
    exact congrArg Cpu.registers (hrun cpu bus).2.symm
  rw [(hrun cpu bus).1, op.signal, hd, fetchOrDecimal_clear operand dummy bus hd]
  exact ⟨fetch_eq_fetchAt _, rfl, hbinary⟩

/-- **In decimal mode** the operand is kept for the extra cycle. -/
theorem Sum.run_set {cpu : Cpu} (hd : decimalClear cpu = false) (bus : Byte) :
    op.handler.signal cpu = .sample ∧ ∃ dummy,
      op.handler.run cpu bus = ({ prefetch cpu with latchData := bus }, read dummy) := by
  obtain ⟨operand, dummy, hrun⟩ := op.run_eq
  rw [(hrun cpu bus).1, op.signal, hd]
  exact ⟨rfl, dummy (prefetch cpu), fetchOrDecimal_set operand dummy bus hd⟩

theorem Sum.skips (cpu : Cpu) (bus : Byte) :
    op.handler.skips cpu bus = if decimalClear cpu then 1 else 0 := by
  obtain ⟨h, binary, decimal, hh⟩ := op
  cases h <;> cases hh <;> rfl

theorem sbcDecimalCmos_registers (cpu : Cpu) (value data : Byte) :
    (sbcDecimalCmos cpu value).registers =
      (sbcDecimalCmos (cpu.registers.cpu data) value).registers := by
  unfold sbcDecimalCmos
  rfl

theorem Sum.run_decimal (cpu : Cpu) (bus : Byte) :
    (op.decimal.run cpu bus).2 = fetchAt cpu.pc ∧ op.decimal.signal cpu = .none ∧
      (op.decimal.run cpu bus).1.registers = op.effect cpu.registers cpu.latchData := by
  obtain ⟨h, binary, decimal, hh⟩ := op
  cases h <;> cases hh
  case opCmosSbcRReadyAddrPendingDataFetchOrDecimalDummyPrefetchDecimalSet
      | opCmosSbcImmReadyNonePendingDataFetchOrDecimalDummyPrefetchDecimalSet =>
    exact ⟨fetch_eq_fetchAt _, rfl, sbcDecimalCmos_registers cpu cpu.latchData cpu.latchData⟩
  all_goals exact ⟨fetch_eq_fetchAt _, rfl, rfl⟩

theorem Sum.effect_pc (r : Registers) (data : Byte) : (op.effect r data).pc = r.pc := by
  obtain ⟨h, binary, decimal, hh⟩ := op
  cases h <;> cases hh <;> rfl

end sum

end Qe6502
