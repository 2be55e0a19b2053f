import Qe6502.Alu

/-!
# Control handlers

The handlers of `qe6502.c` that move the program counter, the stack pointer and the
microcode index: fetches, restart, branches, pushes and pulls, and the BRK, NMI and IRQ
sequences.  A handler takes the context and the bus byte; a bus byte that the source
discards is an unnamed argument.
-/

namespace Qe6502

/-! ### Jam, fetch and plain reads -/

def mcKilJamReadFfff (cpu : Cpu) (_ : Byte) : Cpu × Tick := (cpu, read 0xFFFF)

def mcReadFffe (cpu : Cpu) (_ : Byte) : Cpu × Tick := (cpu, read 0xFFFE)

def opKilJamRFfffPendingDataLoop (cpu : Cpu) (_ : Byte) : Cpu × Tick :=
  (loopHere cpu, ⟨0xFFFF, 0xFF, statusCpuJammed⟩)

def mcFetch (cpu : Cpu) (_ : Byte) : Cpu × Tick := (cpu, fetch cpu)

def mcFetchIllegalExtDispatch (cpu : Cpu) (_ : Byte) : Cpu × Tick :=
  let cpu := nextEnterServiceSlot cpu .illegalExt 0
  (cpu, fetch cpu)

def mcReadPcInc (cpu : Cpu) (_ : Byte) : Cpu × Tick := readPcInc cpu

def mcReadPc (cpu : Cpu) (_ : Byte) : Cpu × Tick := (cpu, read cpu.pc)

def mcClearLatchAddrReadPcInc (cpu : Cpu) (_ : Byte) : Cpu × Tick :=
  readPcInc { cpu with latchAddr := 0 }

def mcClearLatchAddrReadPc (cpu : Cpu) (_ : Byte) : Cpu × Tick :=
  let cpu := { cpu with latchAddr := 0 }
  (cpu, read cpu.pc)

def mcReadLatchAddr (cpu : Cpu) (_ : Byte) : Cpu × Tick := (cpu, read cpu.latchAddr)

def mcLatchDataWriteLatchAddr (cpu : Cpu) (bus : Byte) : Cpu × Tick :=
  let cpu := { cpu with latchData := bus }
  (cpu, write cpu.latchAddr cpu.latchData)

def mcReadStackCurrentS (cpu : Cpu) (_ : Byte) : Cpu × Tick := (cpu, read (stackAddress cpu.s))

def mcStackPullRead (cpu : Cpu) (_ : Byte) : Cpu × Tick := stackRead cpu

/-! ### The restart sequence -/

def mcInternalReset (cpu : Cpu) (bus : Byte) : Cpu × Tick :=
  let cpu := { cpu with latchData := cpu.latchData + 1 }
  let cpu := { cpu with pc := calculateResetPc cpu.pc bus }
  if cpu.latchData = 8 then
    let cpu := nextEnterServiceSlot cpu .reset0 0
    (cpu, read cpu.pc)
  else
    let cpu := loopHere cpu
    let tick := read cpu.pc
    (cpu, { tick with status := flagOn tick.status statusInternalReset })

def mcRestartReadHhff (cpu : Cpu) (bus : Byte) : Cpu × Tick :=
  let cpu := { cpu with pc := calculateResetPc cpu.pc bus }
  (cpu, read cpu.pc)

def mcRestartReadZzhhFetch (cpu : Cpu) (bus : Byte) : Cpu × Tick :=
  let cpu := { cpu with pc := calculateResetPc cpu.pc bus }
  (cpu, fakeFetch cpu)

def mcRestartReadZzhh (cpu : Cpu) (_ : Byte) : Cpu × Tick := (cpu, read cpu.pc)

def mcResetStackRead (cpu : Cpu) (_ : Byte) : Cpu × Tick :=
  ({ cpu with s := cpu.s - 1 }, read (stackAddress cpu.s))

def mcResetVecLo (cpu : Cpu) (_ : Byte) : Cpu × Tick := (cpu, read 0xFFFC)

def mcResetVecHi (cpu : Cpu) (bus : Byte) : Cpu × Tick :=
  let cpu := { cpu with pc := u16SetByte cpu.pc 0 bus }
  let cpu := { cpu with p := flagOn cpu.p (flagB ||| flagI) }
  (cpu, read 0xFFFD)

/-- The five sequences that end in a vector or in a pulled address share this fetch. -/
def latchPchFetch (cpu : Cpu) (bus : Byte) : Cpu × Tick :=
  let cpu := { cpu with pc := u16SetByte cpu.pc 1 bus }
  (cpu, fetch cpu)

def mcLatchPchResetFetch (cpu : Cpu) (bus : Byte) : Cpu × Tick := latchPchFetch cpu bus
def mcLatchPchNmiFetch (cpu : Cpu) (bus : Byte) : Cpu × Tick := latchPchFetch cpu bus
def mcLatchPchIrqFetch (cpu : Cpu) (bus : Byte) : Cpu × Tick := latchPchFetch cpu bus
def mcLatchPchBrkFetch (cpu : Cpu) (bus : Byte) : Cpu × Tick := latchPchFetch cpu bus
def mcLatchPchRtiFetch (cpu : Cpu) (bus : Byte) : Cpu × Tick := latchPchFetch cpu bus

/-! ### Branches -/

def branchTarget (oldPc : Word) (bus : Byte) : Word := oldPc + bus.signExtend 16

def mcBranchRelC1Apply (cpu : Cpu) (bus : Byte) : Cpu × Tick :=
  let oldPc := cpu.pc
  let target := branchTarget oldPc bus
  let tick := read oldPc
  let cpu := { cpu with pc := u16SetByte cpu.pc 0 (u16GetByte target 0) }
  if u16GetByte oldPc 1 = u16GetByte target 1 then
    ({ cpu with microcode := cpu.microcode + 1 }, tick)
  else
    ({ cpu with latchAddr := target }, tick)

def mcBranchPgfixPrefetch (cpu : Cpu) (_ : Byte) : Cpu × Tick :=
  let cpu := prefetch cpu
  ({ cpu with pc := cpu.latchAddr }, read cpu.pc)

def mcWdcBbrBbsC4Apply (cpu : Cpu) (bus : Byte) : Cpu × Tick :=
  let oldPc := cpu.pc
  let target := branchTarget oldPc bus
  let tick := read oldPc
  if u16GetByte oldPc 1 = u16GetByte target 1 then
    ({ cpu with pc := target, microcode := cpu.microcode + 1 }, tick)
  else
    ({ cpu with latchAddr := target }, tick)

def branchC0Offset (cpu : Cpu) (taken : Bool) : Cpu × Tick :=
  let (cpu, tick) := readPcInc cpu
  let cpu := prefetch cpu
  let cpu := if !taken then { cpu with microcode := cpu.microcode + 2 } else cpu
  (cpu, tick)

/-! ### BRK, NMI and IRQ -/

def mcStackPushPcHigh (cpu : Cpu) (_ : Byte) : Cpu × Tick := stackWrite cpu (u16GetByte cpu.pc 1)

def mcStackPushPcLow (cpu : Cpu) (_ : Byte) : Cpu × Tick := stackWrite cpu (u16GetByte cpu.pc 0)

def mcStackPushStatusB (cpu : Cpu) (_ : Byte) : Cpu × Tick :=
  let (cpu, tick) := stackWrite cpu (stackStatus cpu.p flagB)
  let cpu := { cpu with interrupts := findActiveInterrupt cpu.interrupts cpu.p }
  let cpu := { cpu with interrupts := flagOn cpu.interrupts interruptSamplingOff }
  if flag cpu.interrupts interruptNmiTaken ≠ 0 then
    let cpu := { cpu with interrupts := flagOff cpu.interrupts interruptNmiTaken }
    let cpu := { cpu with interrupts := flagOff cpu.interrupts interruptIrqTaken }
    (nextEnterServiceSlot cpu .nmi 4, tick)
  else if flag cpu.interrupts interruptIrqTaken ≠ 0 then
    let cpu := { cpu with interrupts := flagOff cpu.interrupts interruptNmiTaken }
    let cpu := { cpu with interrupts := flagOff cpu.interrupts interruptIrqTaken }
    (nextEnterServiceSlot cpu .irq 4, tick)
  else
    (cpu, tick)

def mcCmosStackPushStatusB (cpu : Cpu) (_ : Byte) : Cpu × Tick :=
  stackWrite cpu (stackStatus cpu.p flagB)

def mcBrkC5VecHi (cpu : Cpu) (bus : Byte) : Cpu × Tick :=
  let cpu := { cpu with pc := u16SetByte cpu.pc 0 bus }
  let cpu := { cpu with p := cpu.p ||| flagI }
  let cpu := { cpu with interrupts := flagOff cpu.interrupts interruptSamplingOff }
  (cpu, read 0xFFFF)

def mcCmosBrkC5VecHi (cpu : Cpu) (bus : Byte) : Cpu × Tick :=
  let cpu := { cpu with pc := u16SetByte cpu.pc 0 bus }
  let cpu := { cpu with p := (cpu.p ||| flagI) &&& ~~~flagD }
  (cpu, read 0xFFFF)

def nmosInterruptVectorLow (cpu : Cpu) (bus : Byte) : Cpu :=
  let cpu := { cpu with pc := u16SetByte cpu.pc 0 bus }
  { cpu with p := cpu.p ||| flagI }

def cmosInterruptVectorLow (cpu : Cpu) (bus : Byte) : Cpu :=
  let cpu := { cpu with pc := u16SetByte cpu.pc 0 bus }
  let cpu := { cpu with p := (cpu.p ||| flagI) &&& ~~~flagD }
  let cpu := { cpu with interrupts := flagOff cpu.interrupts interruptNmiEdge }
  updateNmiLastSampled cpu

def mcNmiC3PushP (cpu : Cpu) (_ : Byte) : Cpu × Tick :=
  let cpu := { cpu with interrupts := findActiveInterrupt cpu.interrupts cpu.p }
  let cpu := { cpu with interrupts := flagOn cpu.interrupts interruptSamplingOff }
  let cpu := { cpu with interrupts := flagOff cpu.interrupts interruptNmiEdge }
  let cpu := { cpu with interrupts := flagOff cpu.interrupts interruptNmiTaken }
  let cpu := { cpu with interrupts := flagOff cpu.interrupts interruptIrqTaken }
  stackWrite cpu (stackStatus cpu.p 0)

def mcIrqC3PushP (cpu : Cpu) (_ : Byte) : Cpu × Tick :=
  let (cpu, tick) := stackWrite cpu (stackStatus cpu.p 0)
  let cpu := { cpu with interrupts := findActiveInterrupt cpu.interrupts cpu.p }
  let cpu := { cpu with interrupts := flagOn cpu.interrupts interruptSamplingOff }
  let cpu := { cpu with interrupts := flagOff cpu.interrupts interruptIrqTaken }
  if flag cpu.interrupts interruptNmiTaken ≠ 0 then
    let cpu := { cpu with interrupts := flagOff cpu.interrupts interruptNmiTaken }
    (nextEnterServiceSlot cpu .nmi 4, tick)
  else
    (cpu, tick)

def mcCmosNmiC3PushP (cpu : Cpu) (_ : Byte) : Cpu × Tick :=
  let cpu := { cpu with interrupts := flagOff cpu.interrupts interruptNmiEdge }
  let cpu := { cpu with interrupts := flagOff cpu.interrupts interruptNmiTaken }
  let cpu := updateNmiLastSampled cpu
  stackWrite cpu (stackStatus cpu.p 0)

def mcCmosIrqC3PushP (cpu : Cpu) (_ : Byte) : Cpu × Tick :=
  let (cpu, tick) := stackWrite cpu (stackStatus cpu.p 0)
  ({ cpu with interrupts := flagOff cpu.interrupts interruptIrqTaken }, tick)

def mcNmiC4VecLo (cpu : Cpu) (_ : Byte) : Cpu × Tick := (cpu, read 0xFFFA)

def mcNmosNmiC5VecHi (cpu : Cpu) (bus : Byte) : Cpu × Tick :=
  let cpu := nmosInterruptVectorLow cpu bus
  let cpu := { cpu with interrupts := flagOff cpu.interrupts interruptSamplingOff }
  (updateNmiLastSampled cpu, read 0xFFFB)

def mcCmosNmiC5VecHi (cpu : Cpu) (bus : Byte) : Cpu × Tick :=
  (cmosInterruptVectorLow cpu bus, read 0xFFFB)

def mcIrqC4VecLo (cpu : Cpu) (_ : Byte) : Cpu × Tick := (cpu, read 0xFFFE)

def mcNmosIrqC5VecHi (cpu : Cpu) (bus : Byte) : Cpu × Tick :=
  let cpu := nmosInterruptVectorLow cpu bus
  let cpu := { cpu with interrupts := flagOff cpu.interrupts interruptSamplingOff }
  (cpu, read 0xFFFF)

def mcCmosIrqC5VecHi (cpu : Cpu) (bus : Byte) : Cpu × Tick :=
  (cmosInterruptVectorLow cpu bus, read 0xFFFF)

/-! ### Returns -/

def mcRtiC3PullPcl (cpu : Cpu) (bus : Byte) : Cpu × Tick :=
  stackRead { cpu with p := (bus ||| flagUN) &&& ~~~flagB }

def mcLatchPclStackRead (cpu : Cpu) (bus : Byte) : Cpu × Tick :=
  stackRead { cpu with pc := u16SetByte cpu.pc 0 bus }

end Qe6502
