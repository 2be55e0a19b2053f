import Qe6502.Alu

/-!
# Addressing handlers

The handlers of `qe6502.c` that build an effective address in `latch_addr`, with
`latch_data` as the pointer byte, the operand or the page-cross flag.
-/

namespace Qe6502

def mcLatchAddr0ReadPcInc (cpu : Cpu) (bus : Byte) : Cpu × Tick :=
  readPcInc (setLatchAddr0 cpu bus)

def mcLatchAddr1SetPcFetch (cpu : Cpu) (bus : Byte) : Cpu × Tick :=
  let cpu := setLatchAddr1 cpu bus
  let cpu := { cpu with pc := cpu.latchAddr }
  (cpu, fetch cpu)

def mcLatchDataReadLatchAddr (cpu : Cpu) (bus : Byte) : Cpu × Tick :=
  ({ cpu with latchData := bus }, read cpu.latchAddr)

def mcLatchAddr0ReadLatchAddr (cpu : Cpu) (bus : Byte) : Cpu × Tick :=
  let cpu := setLatchAddr0 cpu bus
  (cpu, read cpu.latchAddr)

def mcLatchAddr1ReadLatchAddr (cpu : Cpu) (bus : Byte) : Cpu × Tick :=
  let cpu := setLatchAddr1 cpu bus
  (cpu, read cpu.latchAddr)

/-! ### Jumps -/

def mcJmpIndC2TargetLo (cpu : Cpu) (bus : Byte) : Cpu × Tick :=
  let cpu := setLatchAddr1 cpu bus
  (setLatchAddr0 cpu (u16GetByte cpu.latchAddr 0 + 1), read cpu.latchAddr)

def mcJmpIndC4Fetch (cpu : Cpu) (bus : Byte) : Cpu × Tick :=
  let cpu := { cpu with pc := u16SetByte (cpu.latchData.setWidth 16) 1 bus }
  (cpu, fetch cpu)

def mcCmosJmpIndXC2Dummy (cpu : Cpu) (bus : Byte) : Cpu × Tick :=
  (setLatchAddr1 cpu bus, read (cpu.pc - 2))

def mcCmosJmpIndXC3TargetLo (cpu : Cpu) (_ : Byte) : Cpu × Tick :=
  let pointer := cpu.latchAddr + cpu.x.setWidth 16
  ({ cpu with latchAddr := pointer + 1 }, read pointer)

def mcJsrAbsC1Dummy (cpu : Cpu) (bus : Byte) : Cpu × Tick :=
  (setLatchAddr0 cpu bus, read (stackAddress cpu.s))

/-! ### Indexed absolute -/

/-- Adds an index to a low byte: the low byte of the sum goes to `latch_addr`, the carry,
which marks a crossed page, to `latch_data`. -/
def latchIndexed (cpu : Cpu) (bus index : Byte) : Cpu :=
  let indexed : Word := bus.setWidth 16 + index.setWidth 16
  { cpu with latchAddr := indexed &&& 0x00FF, latchData := (indexed >>> 8).setWidth 8 }

def mcLatchAbxBaseReadPcInc (cpu : Cpu) (bus : Byte) : Cpu × Tick :=
  readPcInc (latchIndexed cpu bus cpu.x)

def mcCmosLatchAbxBaseReadPc (cpu : Cpu) (bus : Byte) : Cpu × Tick :=
  (latchIndexed cpu bus cpu.x, read cpu.pc)

def mcLatchAbyBaseReadPcInc (cpu : Cpu) (bus : Byte) : Cpu × Tick :=
  readPcInc (latchIndexed cpu bus cpu.y)

def mcCmosLatchAbyBaseReadPc (cpu : Cpu) (bus : Byte) : Cpu × Tick :=
  (latchIndexed cpu bus cpu.y, read cpu.pc)

def mcRwAbxC1Hi (cpu : Cpu) (bus : Byte) : Cpu × Tick :=
  readPcInc (latchIndexed cpu bus cpu.x)

def mcCmosRIndexedProbe (cpu : Cpu) (bus : Byte) : Cpu × Tick :=
  let pageCross := cpu.latchData
  let cpu := setLatchAddr1 cpu (bus + pageCross)
  if pageCross = 0 then
    ({ cpu with pc := cpu.pc + 1, microcode := cpu.microcode + 1 }, read cpu.latchAddr)
  else
    ({ cpu with pc := cpu.pc + 1 }, read cpu.pc)

def mcCmosWIndexedProbe (cpu : Cpu) (bus : Byte) : Cpu × Tick :=
  let pageCross := cpu.latchData
  let cpu := setLatchAddr1 cpu (bus + pageCross)
  ({ cpu with pc := cpu.pc + 1 }, read cpu.pc)

def mcWIndexedProbe (cpu : Cpu) (bus : Byte) : Cpu × Tick :=
  let pageCross := cpu.latchData
  let addr := u16SetByte cpu.latchAddr 1 bus
  (setLatchAddr1 cpu (bus + pageCross), read addr)

def mcUnstableStoreIndexedProbePreserveBaseHigh (cpu : Cpu) (bus : Byte) : Cpu × Tick :=
  let address := u16SetByte cpu.latchAddr 1 bus
  (setLatchAddr1 cpu bus, read address)

/-! ### Zero page and its pointers -/

def mcRIzxC1Idx (cpu : Cpu) (bus : Byte) : Cpu × Tick :=
  let cpu := setLatchAddr0 cpu bus
  (setLatchAddr0 cpu (bus + cpu.x), read cpu.latchAddr)

def mcIzxReadPtrloIncPtr (cpu : Cpu) (_ : Byte) : Cpu × Tick :=
  let addr := cpu.latchAddr
  (setLatchAddr0 cpu (u16GetByte addr 0 + 1), read addr)

def mcIzpC2Ptrhi (cpu : Cpu) (bus : Byte) : Cpu × Tick :=
  let ptr := u16GetByte cpu.latchAddr 0
  let ptrHiAddr : Word := (ptr + 1).setWidth 16
  (setLatchAddr0 cpu bus, read ptrHiAddr)

def mcRIzxC4Data (cpu : Cpu) (bus : Byte) : Cpu × Tick :=
  let cpu := { cpu with latchAddr := u16SetByte (cpu.latchData.setWidth 16) 1 bus }
  (cpu, read cpu.latchAddr)

def mcRIzyC2Ptrhi (cpu : Cpu) (bus : Byte) : Cpu × Tick :=
  let ptrHiAddr := u16SetByte cpu.latchAddr 0 (u16GetByte cpu.latchAddr 0 + 1)
  (latchIndexed cpu bus cpu.y, read ptrHiAddr)

def mcLatchZpAddrReadLatchAddr (cpu : Cpu) (bus : Byte) : Cpu × Tick :=
  ({ cpu with latchAddr := bus.setWidth 16 }, read (bus.setWidth 16))

def mcZpxC1Idx (cpu : Cpu) (bus : Byte) : Cpu × Tick :=
  let addr := u16SetByte cpu.latchAddr 0 bus
  (setLatchAddr0 cpu (bus + cpu.x), read addr)

def mcRZpyC1Idx (cpu : Cpu) (bus : Byte) : Cpu × Tick :=
  let addr := u16SetByte cpu.latchAddr 0 bus
  (setLatchAddr0 cpu (bus + cpu.y), read addr)

def mcReadZpLatchX (cpu : Cpu) (bus : Byte) : Cpu × Tick :=
  ({ cpu with latchAddr := (bus + cpu.x).setWidth 16 }, read (bus.setWidth 16))

def mcWIzxC3Ptrhi (cpu : Cpu) (bus : Byte) : Cpu × Tick :=
  let ptrHiAddr := cpu.latchAddr
  (setLatchAddr0 cpu bus, read ptrHiAddr)

def mcWIzyC2Ptrhi (cpu : Cpu) (bus : Byte) : Cpu × Tick :=
  let ptr := u16GetByte cpu.latchAddr 0
  let ptrHiAddr : Word := (ptr + 1).setWidth 16
  (latchIndexed cpu bus cpu.y, read ptrHiAddr)

def mcWZpyC1Idx (cpu : Cpu) (bus : Byte) : Cpu × Tick :=
  ({ cpu with latchAddr := (bus + cpu.y).setWidth 16 }, read (bus.setWidth 16))

/-! ### Probes and reads that sample interrupts -/

def prefetchIf (cond : Bool) (cpu : Cpu) : Cpu := if cond then prefetch cpu else cpu

/-- The condition `decimal_clear` of the prefetch variants. -/
def decimalClear (cpu : Cpu) : Bool := cpu.p &&& flagD = 0

/-- The condition `no_page_cross` of the prefetch variants. -/
def noPageCross (cpu : Cpu) : Bool := cpu.latchData = 0

def mcCmosJmpIndC4TargetHiRetryPrefetch (cpu : Cpu) (_ : Byte) : Cpu × Tick :=
  let cpu := prefetch cpu
  let cpu := if u16GetByte cpu.latchAddr 0 = 0 then
      setLatchAddr1 cpu (u16GetByte cpu.latchAddr 1 + 1)
    else cpu
  (cpu, read cpu.latchAddr)

def mcCmosRIndexedProbePrefetchNoPageCrossDecimalClear (cpu : Cpu) (bus : Byte) : Cpu × Tick :=
  mcCmosRIndexedProbe (prefetchIf (noPageCross cpu && decimalClear cpu) cpu) bus

def mcCmosRIndexedProbeNoLatchPrefetchNoPageCross (cpu : Cpu) (bus : Byte) : Cpu × Tick :=
  let cpu := prefetchIf (noPageCross cpu) cpu
  let pageCross := cpu.latchData
  let high := bus + pageCross
  if pageCross = 0 then
    let address := u16SetByte cpu.latchAddr 1 high
    ({ cpu with pc := cpu.pc + 1, microcode := cpu.microcode + 1 }, read address)
  else
    let cpu := setLatchAddr1 cpu high
    ({ cpu with pc := cpu.pc + 1 }, read cpu.pc)

def mcLatchAddr0ReadPcIncPrefetch (cpu : Cpu) (bus : Byte) : Cpu × Tick :=
  mcLatchAddr0ReadPcInc (prefetch cpu) bus

def mcLatchAddr1ReadLatchAddrPrefetchDecimalClear (cpu : Cpu) (bus : Byte) : Cpu × Tick :=
  mcLatchAddr1ReadLatchAddr (prefetchIf (decimalClear cpu) cpu) bus

def mcLatchDataReadLatchAddrPrefetch (cpu : Cpu) (bus : Byte) : Cpu × Tick :=
  mcLatchDataReadLatchAddr (prefetch cpu) bus

def mcLatchZpAddrReadLatchAddrPrefetchDecimalClear (cpu : Cpu) (bus : Byte) : Cpu × Tick :=
  mcLatchZpAddrReadLatchAddr (prefetchIf (decimalClear cpu) cpu) bus

def mcRIndexedProbeNoLatchPrefetchNoPageCross (cpu : Cpu) (bus : Byte) : Cpu × Tick :=
  let cpu := prefetchIf (noPageCross cpu) cpu
  let pageCross := cpu.latchData
  let addr := u16SetByte cpu.latchAddr 1 bus
  let tick := read addr
  if pageCross = 0 then
    ({ cpu with microcode := cpu.microcode + 1 }, tick)
  else
    (setLatchAddr1 cpu (bus + pageCross), tick)

def mcRIzxC4DataPrefetchDecimalClear (cpu : Cpu) (bus : Byte) : Cpu × Tick :=
  mcRIzxC4Data (prefetchIf (decimalClear cpu) cpu) bus

def mcRIzxC4DataNoLatchPrefetch (cpu : Cpu) (bus : Byte) : Cpu × Tick :=
  let cpu := prefetch cpu
  (cpu, read (u16SetByte (cpu.latchData.setWidth 16) 1 bus))

def mcRZpC1DataPrefetch (cpu : Cpu) (bus : Byte) : Cpu × Tick :=
  (prefetch cpu, read (bus.setWidth 16))

def mcReadAddrWithBusHiPrefetch (cpu : Cpu) (bus : Byte) : Cpu × Tick :=
  let cpu := prefetch cpu
  (cpu, read (u16SetByte cpu.latchAddr 1 bus))

def mcReadLatchAddrPrefetch (cpu : Cpu) (_ : Byte) : Cpu × Tick :=
  (prefetch cpu, read cpu.latchAddr)

def mcReadLatchAddrPrefetchDecimalClear (cpu : Cpu) (_ : Byte) : Cpu × Tick :=
  (prefetchIf (decimalClear cpu) cpu, read cpu.latchAddr)

def mcReadPcPrefetch (cpu : Cpu) (_ : Byte) : Cpu × Tick :=
  let cpu := prefetch cpu
  (cpu, read cpu.pc)

def mcReadPcIncPrefetch (cpu : Cpu) (_ : Byte) : Cpu × Tick := readPcInc (prefetch cpu)

def mcReadPcIncPrefetchDecimalClear (cpu : Cpu) (_ : Byte) : Cpu × Tick :=
  readPcInc (prefetchIf (decimalClear cpu) cpu)

def mcReadPcMinusOnePrefetch (cpu : Cpu) (_ : Byte) : Cpu × Tick :=
  (prefetch cpu, read (cpu.pc - 1))

end Qe6502
