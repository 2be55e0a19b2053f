import Qe6502.Session

/-!
# Hosts

A host answers each bus request from its memory: it stores the byte of a write and feeds the
byte of a read.  What it feeds after a write is its own choice, and the hosts of the repository
choose differently: the loop of the README feeds 0, the single-step host the byte written, the
instruction adapter the byte the memory held before.  `hostCycle` is one iteration with that
choice left open; the instruction adapter is written out as in the source.
-/

namespace Qe6502

/-- The state of `Qe6502InstructionCpu`: the CPU, the last tick and the memory. -/
structure InstructionCpu where
  cpu : Cpu
  tick : Tick
  memory : Word → Byte

/-- `memory[address] = value`. -/
def poke (memory : Word → Byte) (address : Word) (value : Byte) : Word → Byte :=
  fun a => if a = address then value else memory a

namespace InstructionCpu

def session (m : InstructionCpu) : Session := (m.cpu, m.tick)

def isWrite (m : InstructionCpu) : Bool := m.tick.status &&& statusWriting ≠ 0

/-- `step_cycle`. -/
def stepCycle (m : InstructionCpu) : Option InstructionCpu :=
  let address := m.tick.address
  let input := m.memory address
  let memory := if m.isWrite then poke m.memory address m.tick.bus else m.memory
  (Qe6502.tick m.cpu input).map fun r => { cpu := r.1, tick := r.2, memory := memory }

/-- The loop of `step_until_opcode_fetch`, for a given number of cycles at most. -/
def stepUntil : Nat → InstructionCpu → Option InstructionCpu
  | 0, m => some m
  | cycles + 1, m =>
    if m.tick.status &&& statusOpcodeFetch ≠ 0 then some m
    else if m.tick.status &&& statusCpuJammed ≠ 0 then some m
    else m.stepCycle.bind (stepUntil cycles)

/-- `step_until_opcode_fetch`. -/
def stepUntilOpcodeFetch (m : InstructionCpu) : Option InstructionCpu := m.stepUntil 32

/-- One iteration of a host that feeds `answer` after a write. -/
def hostCycle (answer : Tick → (Word → Byte) → Byte) (m : InstructionCpu) :
    Option InstructionCpu :=
  let input := if m.isWrite then answer m.tick m.memory else m.memory m.tick.address
  let memory := if m.isWrite then poke m.memory m.tick.address m.tick.bus else m.memory
  (Qe6502.tick m.cpu input).map fun r => { cpu := r.1, tick := r.2, memory := memory }

/-- The README loop feeds 0 after a write. -/
def readmeAnswer (_ : Tick) (_ : Word → Byte) : Byte := 0

/-- The single-step host feeds the byte just written. -/
def singlestepAnswer (tick : Tick) (_ : Word → Byte) : Byte := tick.bus

/-- The instruction adapter feeds the byte the memory held before the write. -/
def adapterAnswer (tick : Tick) (memory : Word → Byte) : Byte := memory tick.address

theorem stepCycle_eq_hostCycle (m : InstructionCpu) : m.stepCycle = m.hostCycle adapterAnswer := by
  rw [stepCycle, hostCycle]
  dsimp only [adapterAnswer]
  rw [ite_self]

/-- A host that moves the pins before each cycle. -/
def hostRun (answer : Tick → (Word → Byte) → Byte) :
    List (List PinCall) → InstructionCpu → Option InstructionCpu
  | [], m => some m
  | calls :: rest, m =>
    ({ m with cpu := calls.foldl PinCall.apply m.cpu }.hostCycle answer).bind
      (hostRun answer rest)

end InstructionCpu

end Qe6502
