import Qe6502.ControlStore.Nmos
import Qe6502.ControlStore.Nes
import Qe6502.ControlStore.Wdc
import Qe6502.ControlStore.Rw
import Qe6502.ControlStore.St

/-!
# Ticks and the public API

The control store is read by its sixteen-bit index: model, slot and cycle.  An entry that no
initialiser of the blocks names, and any index past the end, is `none`, so a call through it
is a `none` result here.

`mc_dispatch` and `interrupt_resolver` call the control store again.  `callEntry` counts
these nested calls down from `callDepth`: a tick calls at most the resolver, the dispatcher
and one handler.
-/

namespace Qe6502

def controlStoreBlocks : List (List Slot) := [nmosBlock, nesBlock, wdcBlock, rwBlock, stBlock]

/-- The entries of a slot of a block. -/
def slotAt (model slot : Nat) : Option Slot := do
  let block ← controlStoreBlocks[model]?
  block[slot]?

/-- The entry at given block, slot and cycle. -/
def entryAt (model slot cycle : Nat) : Option Entry := do
  let entries ← slotAt model slot
  entries[cycle]?

/-- `qe6502_control_store[index]`. -/
def controlStore (index : Word) : Option Entry :=
  entryAt (index >>> 12).toNat ((index >>> 3) &&& 0x1FF).toNat (index &&& 7).toNat

def mcDispatch (call : Word → Cpu → Byte → Option (Cpu × Tick)) (cpu : Cpu) (bus : Byte) :
    Option (Cpu × Tick) :=
  let cpu := { cpu with microcode := (cpu.model.setWidth 16 <<< 12) ||| (bus.setWidth 16 <<< 3) }
  let cpu := { cpu with pc := cpu.pc + 1 }
  call cpu.microcode cpu bus

/-! ### The interrupt resolver -/

/-- Latches an NMI edge, unless a BRK, NMI or IRQ sequence has switched detection off. -/
def detectNmiEdge (cpu : Cpu) : Cpu :=
  if flag cpu.interrupts interruptSamplingOff = 0 then
    let cpu :=
      if flag cpu.interrupts interruptNmiInvPin ≠ 0 ∧
          flag cpu.interrupts interruptNmiInvLastSampledPin = 0 then
        { cpu with interrupts := flagOn cpu.interrupts interruptNmiEdge }
      else cpu
    updateNmiLastSampled cpu
  else cpu

/-- The condition under which the resolver switches itself off. -/
def Idle (interrupts : Byte) : Prop :=
  flag interrupts interruptNmiEdge = 0 ∧
    flag interrupts interruptIrqInvPin = 0 ∧
    (flag interrupts interruptNmiInvPin = 0 ∨
      flag interrupts interruptNmiInvLastSampledPin ≠ 0) ∧
    flag interrupts interruptNmiTaken = 0 ∧
    flag interrupts interruptIrqTaken = 0

instance (interrupts : Byte) : Decidable (Idle interrupts) := by unfold Idle; infer_instance

def switchOffWhenIdle (cpu : Cpu) : Cpu :=
  if Idle cpu.interrupts then { cpu with hijackMicrocode := 0 } else cpu

def clearTaken (cpu : Cpu) : Cpu :=
  let cpu := { cpu with interrupts := flagOff cpu.interrupts interruptNmiTaken }
  { cpu with interrupts := flagOff cpu.interrupts interruptIrqTaken }

/-- The part of the resolver after the hijacked handler has run. -/
def resolveTick (initialCpuFlags : Byte) (tick : Tick) (cpu : Cpu) : Cpu :=
  if flag cpu.interrupts interruptSampling ≠ 0 then
    let cpu := { cpu with interrupts := flagOff cpu.interrupts interruptSampling }
    let cpu := { cpu with interrupts := findActiveInterrupt cpu.interrupts initialCpuFlags }
    switchOffWhenIdle cpu
  else if tick.status &&& statusOpcodeFetch ≠ 0 then
    if flag cpu.interrupts interruptNmiTaken ≠ 0 then
      enterServiceSlot (clearTaken cpu) .nmi 0
    else if flag cpu.interrupts interruptIrqTaken ≠ 0 then
      enterServiceSlot (clearTaken cpu) .irq 0
    else
      switchOffWhenIdle cpu
  else
    switchOffWhenIdle cpu

/-- The increment of `microcode` that follows a call from `qe6502_tick` or the resolver. -/
def advanceMicrocode (cpu : Cpu) : Cpu := { cpu with microcode := cpu.microcode + 1 }

def interruptResolver (call : Word → Cpu → Byte → Option (Cpu × Tick)) (cpu : Cpu) (bus : Byte) :
    Option (Cpu × Tick) := do
  let cpu := detectNmiEdge cpu
  let initialCpuFlags := cpu.p
  let (cpu, tick) ← call cpu.microcode cpu bus
  let cpu := advanceMicrocode cpu
  return (resolveTick initialCpuFlags tick cpu, tick)

/-! ### One tick -/

def callDepth : Nat := 3

/-- `qe6502_control_store[index](cpu, bus)`. -/
def callEntry : Nat → Word → Cpu → Byte → Option (Cpu × Tick)
  | 0, _, _, _ => none
  | depth + 1, index, cpu, bus =>
    match controlStore index with
    | none => none
    | some .interruptResolver => interruptResolver (callEntry depth) cpu bus
    | some .mcDispatch => mcDispatch (callEntry depth) cpu bus
    | some (.handler h) => some (h.run cpu bus)

/-- The index of the resolver that `qe6502_tick` uses for every model. -/
def hijackIndex : Word := idx 0 0x100 0

/-- `qe6502_tick`. -/
def tick (cpu : Cpu) (bus : Byte) : Option (Cpu × Tick) :=
  if cpu.hijackMicrocode ≠ 0 then
    callEntry callDepth hijackIndex cpu bus
  else do
    let (cpu, tick) ← callEntry callDepth cpu.microcode cpu bus
    return (advanceMicrocode cpu, tick)

/-! ### Pins, goto and restart -/

def goto (cpu : Cpu) (address : Word) : Option (Cpu × Tick) :=
  let cpu := { cpu with reservedExtension := 0 }
  let cpu := { cpu with pc := address }
  let cpu := enterServiceSlot cpu .goto 0
  tick cpu 0

def nmiAssert (cpu : Cpu) (assertNmi : Byte) : Cpu :=
  let cpu := { cpu with interrupts := flagOff cpu.interrupts interruptSampling }
  if assertNmi ≠ 0 then
    if flag cpu.interrupts interruptNmiInvPin = 0 then
      { cpu with
        interrupts := flagOn cpu.interrupts interruptNmiInvPin
        hijackMicrocode := 1 }
    else cpu
  else if flag cpu.interrupts interruptNmiInvPin ≠ 0 then
    { cpu with
      interrupts := flagOff cpu.interrupts interruptNmiInvPin
      hijackMicrocode := 1 }
  else cpu

def irqAssert (cpu : Cpu) (assertIrq : Byte) : Cpu :=
  let cpu := { cpu with interrupts := flagOff cpu.interrupts interruptSampling }
  if assertIrq ≠ 0 then
    { cpu with
      interrupts := flagOn cpu.interrupts interruptIrqInvPin
      hijackMicrocode := 1 }
  else
    { cpu with interrupts := flagOff cpu.interrupts interruptIrqInvPin }

def restart (cpu : Cpu) : Cpu × Tick :=
  let model := cpu.model
  let cpu : Cpu := ⟨0, 0, 0, 0, 0, 0, 0, 0, 0, 0, 0, 0, 0⟩
  let cpu := { cpu with model := model, pc := 0x01FF, s := 0xC0, x := 0xC0, p := flagZ }
  let cpu := enterServiceSlot cpu .internalReset 0
  let cpu := { cpu with latchData := 0 }
  let tick := read 0x00FF
  (cpu, { tick with status := flagOn tick.status statusInternalReset })

end Qe6502
