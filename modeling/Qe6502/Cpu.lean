import Mathlib.Data.Nat.Notation

/-!
# The CPU context and its bus ticks

The context `qe6502_t` of `qe6502.h`, one bus tick, and the small inline helpers of
`qe6502.c` that the microcode handlers are built from.  A C function that changes
`*cpu` takes the context and returns the changed one; a function that also returns a
tick returns the pair.
-/

namespace Qe6502

abbrev Byte := BitVec 8
abbrev Word := BitVec 16

/-- `qe6502_t`. -/
structure Cpu where
  model : Byte
  reservedExtension : Byte
  microcode : Word
  latchAddr : Word
  latchData : Byte
  hijackMicrocode : Byte
  pc : Word
  s : Byte
  a : Byte
  x : Byte
  y : Byte
  p : Byte
  interrupts : Byte
deriving DecidableEq

/-- `qe6502_tick_t`: the bus request a tick leaves behind. -/
structure Tick where
  address : Word
  bus : Byte
  status : Byte
deriving DecidableEq

/-! ### Constants -/

def modelNmos : Byte := 0
def modelNes : Byte := 1
def modelWdc : Byte := 2
def modelRw : Byte := 3
def modelSt : Byte := 4

def supportedModelsCount : Nat := 5

def flagC : Byte := 0x01
def flagZ : Byte := 0x02
def flagI : Byte := 0x04
def flagD : Byte := 0x08
def flagB : Byte := 0x10
def flagUN : Byte := 0x20
def flagV : Byte := 0x40
def flagN : Byte := 0x80

def statusWriting : Byte := 0x01
def statusOpcodeFetch : Byte := 0x02
def statusInternalReset : Byte := 0x40
def statusCpuJammed : Byte := 0x80

def interruptSampling : Byte := 0x01
def interruptNmiInvPin : Byte := 0x02
def interruptNmiInvLastSampledPin : Byte := 0x04
def interruptNmiEdge : Byte := 0x08
def interruptNmiTaken : Byte := 0x10
def interruptIrqInvPin : Byte := 0x20
def interruptIrqTaken : Byte := 0x40
def interruptSamplingOff : Byte := 0x80

def microcodePerSlot : Nat := 8

def controlStoreSize : Nat := 2 * 256 * microcodePerSlot * supportedModelsCount

/-! ### Bytes and words -/

def flagCIf (cond : Bool) : Byte := if cond then flagC else 0
def flagZIf (cond : Bool) : Byte := if cond then flagZ else 0
def flagVIf (cond : Bool) : Byte := if cond then flagV else 0

def stackStatus (status breakFlag : Byte) : Byte :=
  (status ||| flagUN ||| breakFlag) &&& (~~~flagB ||| breakFlag)

def u16GetByte (x : Word) (byteIndex : Nat) : Byte := (x >>> (byteIndex * 8)).setWidth 8

def u16SetByte (x : Word) (byteIndex : Nat) (value : Byte) : Word :=
  let shift := byteIndex * 8
  let mask : Word := 0x00FF#16 <<< shift
  (x &&& ~~~mask) ||| (value.setWidth 16 <<< shift)

def flag (flags mask : Byte) : Byte := flags &&& mask
def flagOn (flags mask : Byte) : Byte := flags ||| mask
def flagOff (flags mask : Byte) : Byte := flags &&& ~~~mask

/-! ### Microcode positions -/

/-- `service_slot_t`. -/
inductive ServiceSlot
  | microcodeHijacked
  | illegalExt
  | internalReset
  | reset0
  | reset1
  | goto
  | nmi
  | irq
deriving DecidableEq

def ServiceSlot.code : ServiceSlot → Word
  | .microcodeHijacked => 256
  | .illegalExt => 257
  | .internalReset => 258
  | .reset0 => 259
  | .reset1 => 260
  | .goto => 261
  | .nmi => 262
  | .irq => 263

/-- `QE6502_IDX`: the index of one microcode entry. -/
def idx (model : Byte) (slot : Word) (cycle : Word) : Word :=
  ((model.setWidth 16 &&& 0x0F) <<< 12) ||| ((slot &&& 0x1FF) <<< 3) ||| cycle

def enterServiceSlot (cpu : Cpu) (slot : ServiceSlot) (cycle : Word) : Cpu :=
  { cpu with microcode := idx cpu.model slot.code cycle }

/-- The slot is entered by the increment that follows the running handler. -/
def nextEnterServiceSlot (cpu : Cpu) (slot : ServiceSlot) (cycle : Word) : Cpu :=
  let cpu := enterServiceSlot cpu slot cycle
  { cpu with microcode := cpu.microcode - 1 }

def loopHere (cpu : Cpu) : Cpu := { cpu with microcode := cpu.microcode - 1 }

def currentOpcodeSlot (cpu : Cpu) : Byte := ((cpu.microcode >>> 3) &&& 0x00FF).setWidth 8

def setLatchAddr0 (cpu : Cpu) (value : Byte) : Cpu :=
  { cpu with latchAddr := u16SetByte cpu.latchAddr 0 value }

def setLatchAddr1 (cpu : Cpu) (value : Byte) : Cpu :=
  { cpu with latchAddr := u16SetByte cpu.latchAddr 1 value }

/-! ### Bus requests -/

def read (address : Word) : Tick := ⟨address, 0, 0⟩

def write (address : Word) (data : Byte) : Tick := ⟨address, data, statusWriting⟩

def fetch (cpu : Cpu) : Tick :=
  let tick := read cpu.pc
  { tick with status := tick.status ||| statusOpcodeFetch }

def fakeFetch (cpu : Cpu) : Tick := fetch cpu

/-- The address of the stack cell `s` points at. -/
def stackAddress (s : Byte) : Word := 0x0100 ||| s.setWidth 16

def stackWrite (cpu : Cpu) (data : Byte) : Cpu × Tick :=
  ({ cpu with s := cpu.s - 1 }, write (stackAddress cpu.s) data)

def stackRead (cpu : Cpu) : Cpu × Tick :=
  let cpu := { cpu with s := cpu.s + 1 }
  (cpu, read (stackAddress cpu.s))

def readPcInc (cpu : Cpu) : Cpu × Tick :=
  ({ cpu with pc := cpu.pc + 1 }, read cpu.pc)

def calculateResetPc (pc : Word) (bus : Byte) : Word :=
  let oldHigh : Byte := (pc >>> 8).setWidth 8
  let newLow := oldHigh - 1
  let newHigh := bus
  (newHigh.setWidth 16 <<< 8) ||| newLow.setWidth 16

/-! ### The interrupt byte -/

def updateNmiLastSampled (cpu : Cpu) : Cpu :=
  if flag cpu.interrupts interruptNmiInvPin ≠ 0 then
    { cpu with interrupts := flagOn cpu.interrupts interruptNmiInvLastSampledPin }
  else
    { cpu with interrupts := flagOff cpu.interrupts interruptNmiInvLastSampledPin }

def findActiveInterrupt (interrupts cpuFlags : Byte) : Byte :=
  if flag interrupts interruptNmiEdge ≠ 0 then
    let interrupts := flagOff interrupts interruptNmiEdge
    let interrupts := flagOn interrupts interruptNmiTaken
    flagOff interrupts interruptIrqTaken
  else if flag cpuFlags flagI = 0 ∧ flag interrupts interruptIrqInvPin ≠ 0 then
    let interrupts := flagOn interrupts interruptIrqTaken
    flagOff interrupts interruptNmiTaken
  else
    interrupts

def prefetch (cpu : Cpu) : Cpu :=
  { cpu with interrupts := flagOn cpu.interrupts interruptSampling }

end Qe6502
