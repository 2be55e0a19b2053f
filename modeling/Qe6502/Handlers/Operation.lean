import Qe6502.Handlers.Control
import Qe6502.Handlers.Addressing

/-!
# Operation handlers

The handlers of `qe6502.c` that carry an instruction's own effect.  Most of them are one
of five shapes: run an operation on the operand and fetch, run an operation during a dummy
read, write back an operation on `latch_data`, store a register, or add and subtract with
an extra decimal cycle.  The shapes come first, each handler is one of them applied to its
own operation.
-/

namespace Qe6502

/-! ### Operand operations that fetch -/

/-- Consumes the operand on the bus and fetches the next opcode. -/
def execFetch (op : Cpu → Byte → Cpu) (cpu : Cpu) (bus : Byte) : Cpu × Tick :=
  let cpu := op cpu bus
  (cpu, fetch cpu)

def loadA (cpu : Cpu) (value : Byte) : Cpu := updateFlagsNz { cpu with a := value } value
def loadX (cpu : Cpu) (value : Byte) : Cpu := updateFlagsNz { cpu with x := value } value
def loadY (cpu : Cpu) (value : Byte) : Cpu := updateFlagsNz { cpu with y := value } value

def opAdcRReadyNonePendingDataFetch : Cpu → Byte → Cpu × Tick := execFetch adcValue

def opNesAdcRReadyNonePendingDataFetch : Cpu → Byte → Cpu × Tick := execFetch adcBinary

def opCmosAdcDecReadyNonePendingDummyFetch : Cpu → Byte → Cpu × Tick :=
  execFetch fun cpu _ => adcDecimalCmos cpu cpu.latchData

def opAndRReadyNonePendingDataFetch : Cpu → Byte → Cpu × Tick :=
  execFetch fun cpu bus => loadA cpu (cpu.a &&& bus)

def opAncRReadyNonePendingDataFetch : Cpu → Byte → Cpu × Tick :=
  execFetch fun cpu bus =>
    let cpu := { cpu with a := cpu.a &&& bus }
    updateFlagsNzc cpu cpu.a (flagCIf (cpu.a &&& flagN ≠ 0))

def opAlrRReadyNonePendingDataFetch : Cpu → Byte → Cpu × Tick :=
  execFetch fun cpu bus =>
    let (cpu, value) := lsrValue cpu (cpu.a &&& bus)
    { cpu with a := value }

def opArrRReadyNonePendingDataFetch : Cpu → Byte → Cpu × Tick :=
  execFetch fun cpu bus =>
    let value := cpu.a &&& bus
    let (cpu, result) :=
      if cpu.p &&& flagD = 0 then arrBinaryValue cpu value else arrDecimalNmosValue cpu value
    { cpu with a := result }

def opNesArrRReadyNonePendingDataFetch : Cpu → Byte → Cpu × Tick :=
  execFetch fun cpu bus =>
    let (cpu, result) := arrBinaryValue cpu (cpu.a &&& bus)
    { cpu with a := result }

def opAxsRReadyNonePendingDataFetch : Cpu → Byte → Cpu × Tick :=
  execFetch fun cpu bus =>
    let lhs := cpu.a &&& cpu.x
    let result := lhs - bus
    updateFlagsNzc { cpu with x := result } result (flagCIf (lhs ≥ bus))

def opXaaRReadyNonePendingDataFetch : Cpu → Byte → Cpu × Tick :=
  execFetch fun cpu bus => loadA cpu ((cpu.a ||| 0xEE) &&& cpu.x &&& bus)

def opLxaRReadyNonePendingDataFetch : Cpu → Byte → Cpu × Tick :=
  execFetch fun cpu bus =>
    let value := (cpu.a ||| 0xEE) &&& bus
    updateFlagsNz { cpu with a := value, x := value } value

def opBitRReadyNonePendingDataFetch : Cpu → Byte → Cpu × Tick :=
  execFetch fun cpu bus =>
    let mask := flagZ ||| flagV ||| flagN
    let flags := flagZIf (cpu.a &&& bus = 0) ||| (bus &&& (flagV ||| flagN))
    { cpu with p := (cpu.p &&& ~~~mask) ||| flags }

def opCmosBitImmReadyNonePendingDataFetch : Cpu → Byte → Cpu × Tick :=
  execFetch fun cpu bus =>
    let flags := flagZIf (cpu.a &&& bus = 0)
    { cpu with p := (cpu.p &&& ~~~flagZ) ||| flags }

def opCmpRReadyNonePendingDataFetch : Cpu → Byte → Cpu × Tick :=
  execFetch fun cpu bus => compareRegisterWithValue cpu cpu.a bus

def opCpxRReadyNonePendingDataFetch : Cpu → Byte → Cpu × Tick :=
  execFetch fun cpu bus => compareRegisterWithValue cpu cpu.x bus

def opCpyRReadyNonePendingDataFetch : Cpu → Byte → Cpu × Tick :=
  execFetch fun cpu bus => compareRegisterWithValue cpu cpu.y bus

def opEorRReadyNonePendingDataFetch : Cpu → Byte → Cpu × Tick :=
  execFetch fun cpu bus => loadA cpu (cpu.a ^^^ bus)

def mcLoadAUpdateNzFetch : Cpu → Byte → Cpu × Tick := execFetch loadA

def opLaxRReadyNonePendingDataFetch : Cpu → Byte → Cpu × Tick :=
  execFetch fun cpu bus => updateFlagsNz { cpu with a := bus, x := bus } bus

def opLasRReadyNonePendingDataFetch : Cpu → Byte → Cpu × Tick :=
  execFetch fun cpu bus =>
    let value := bus &&& cpu.s
    updateFlagsNz { cpu with a := value, x := value, s := value } value

def mcLoadXUpdateNzFetch : Cpu → Byte → Cpu × Tick := execFetch loadX

def mcLoadYUpdateNzFetch : Cpu → Byte → Cpu × Tick := execFetch loadY

def opOraRReadyNonePendingDataFetch : Cpu → Byte → Cpu × Tick :=
  execFetch fun cpu bus => loadA cpu (cpu.a ||| bus)

def opPlpStackPullReadyNonePendingDataFetch : Cpu → Byte → Cpu × Tick :=
  execFetch fun cpu bus => { cpu with p := (bus ||| flagUN) &&& ~~~flagB }

def opSbcRReadyNonePendingDataFetch : Cpu → Byte → Cpu × Tick := execFetch sbcValue

def opNesSbcRReadyNonePendingDataFetch : Cpu → Byte → Cpu × Tick :=
  execFetch fun cpu bus => adcBinary cpu (bus ^^^ 0xFF)

def opCmosSbcDecReadyNonePendingDummyFetch : Cpu → Byte → Cpu × Tick :=
  execFetch fun cpu _ => sbcDecimalCmos cpu cpu.latchData

/-! ### Operations during a dummy read -/

/-- Samples interrupts, runs a register operation and reads at the program counter. -/
def dummyPrefetch (op : Cpu → Cpu) (cpu : Cpu) (_ : Byte) : Cpu × Tick :=
  let cpu := op (prefetch cpu)
  (cpu, read cpu.pc)

/-- A shift or rotate on the accumulator. -/
def onAccumulator (op : Cpu → Byte → Cpu × Byte) (cpu : Cpu) : Cpu :=
  let (cpu, value) := op cpu cpu.a
  { cpu with a := value }

def opAslAccReadyNonePendingNoneDummyPrefetch : Cpu → Byte → Cpu × Tick :=
  dummyPrefetch (onAccumulator aslValue)

def opLsrAccReadyNonePendingNoneDummyPrefetch : Cpu → Byte → Cpu × Tick :=
  dummyPrefetch (onAccumulator lsrValue)

def opRolAccReadyNonePendingNoneDummyPrefetch : Cpu → Byte → Cpu × Tick :=
  dummyPrefetch (onAccumulator rolValue)

def opRorAccReadyNonePendingNoneDummyPrefetch : Cpu → Byte → Cpu × Tick :=
  dummyPrefetch (onAccumulator rorValue)

def opClcImpReadyNonePendingNoneDummyPrefetch : Cpu → Byte → Cpu × Tick :=
  dummyPrefetch fun cpu => { cpu with p := cpu.p &&& ~~~flagC }

def opCldImpReadyNonePendingNoneDummyPrefetch : Cpu → Byte → Cpu × Tick :=
  dummyPrefetch fun cpu => { cpu with p := cpu.p &&& ~~~flagD }

def opCliImpReadyNonePendingNoneDummyPrefetch : Cpu → Byte → Cpu × Tick :=
  dummyPrefetch fun cpu => { cpu with p := cpu.p &&& ~~~flagI }

def opClvImpReadyNonePendingNoneDummyPrefetch : Cpu → Byte → Cpu × Tick :=
  dummyPrefetch fun cpu => { cpu with p := cpu.p &&& ~~~flagV }

def opSecImpReadyNonePendingNoneDummyPrefetch : Cpu → Byte → Cpu × Tick :=
  dummyPrefetch fun cpu => { cpu with p := cpu.p ||| flagC }

def opSedImpReadyNonePendingNoneDummyPrefetch : Cpu → Byte → Cpu × Tick :=
  dummyPrefetch fun cpu => { cpu with p := cpu.p ||| flagD }

def opSeiImpReadyNonePendingNoneDummyPrefetch : Cpu → Byte → Cpu × Tick :=
  dummyPrefetch fun cpu => { cpu with p := cpu.p ||| flagI }

def opCmosDecAccReadyNonePendingNoneDummyPrefetch : Cpu → Byte → Cpu × Tick :=
  dummyPrefetch fun cpu => loadA cpu (cpu.a - 1)

def opCmosIncAccReadyNonePendingNoneDummyPrefetch : Cpu → Byte → Cpu × Tick :=
  dummyPrefetch fun cpu => loadA cpu (cpu.a + 1)

def opDexImpReadyNonePendingNoneDummyPrefetch : Cpu → Byte → Cpu × Tick :=
  dummyPrefetch fun cpu => loadX cpu (cpu.x - 1)

def opDeyImpReadyNonePendingNoneDummyPrefetch : Cpu → Byte → Cpu × Tick :=
  dummyPrefetch fun cpu => loadY cpu (cpu.y - 1)

def opInxImpReadyNonePendingNoneDummyPrefetch : Cpu → Byte → Cpu × Tick :=
  dummyPrefetch fun cpu => loadX cpu (cpu.x + 1)

def opInyImpReadyNonePendingNoneDummyPrefetch : Cpu → Byte → Cpu × Tick :=
  dummyPrefetch fun cpu => loadY cpu (cpu.y + 1)

def opTaxImpReadyNonePendingNoneDummyPrefetch : Cpu → Byte → Cpu × Tick :=
  dummyPrefetch fun cpu => loadX cpu cpu.a

def opTayImpReadyNonePendingNoneDummyPrefetch : Cpu → Byte → Cpu × Tick :=
  dummyPrefetch fun cpu => loadY cpu cpu.a

def opTsxImpReadyNonePendingNoneDummyPrefetch : Cpu → Byte → Cpu × Tick :=
  dummyPrefetch fun cpu => loadX cpu cpu.s

def opTxaImpReadyNonePendingNoneDummyPrefetch : Cpu → Byte → Cpu × Tick :=
  dummyPrefetch fun cpu => loadA cpu cpu.x

def opTxsImpReadyNonePendingNoneDummyPrefetch : Cpu → Byte → Cpu × Tick :=
  dummyPrefetch fun cpu => { cpu with s := cpu.x }

def opTyaImpReadyNonePendingNoneDummyPrefetch : Cpu → Byte → Cpu × Tick :=
  dummyPrefetch fun cpu => loadA cpu cpu.y

/-! ### Pushes and pulls -/

/-- Samples interrupts and pushes a register. -/
def pushPrefetch (value : Cpu → Byte) (cpu : Cpu) (_ : Byte) : Cpu × Tick :=
  let cpu := prefetch cpu
  stackWrite cpu (value cpu)

def opPhaStackPushReadyNonePendingNoneWrPrefetch : Cpu → Byte → Cpu × Tick :=
  pushPrefetch Cpu.a

def opPhpStackPushReadyNonePendingNoneWrPrefetch : Cpu → Byte → Cpu × Tick :=
  pushPrefetch fun cpu => stackStatus cpu.p flagB

def opCmosPhxStackPushReadyNonePendingNoneWrPrefetch : Cpu → Byte → Cpu × Tick :=
  pushPrefetch Cpu.x

def opCmosPhyStackPushReadyNonePendingNoneWrPrefetch : Cpu → Byte → Cpu × Tick :=
  pushPrefetch Cpu.y

def mcStackPullReadPrefetch (cpu : Cpu) (bus : Byte) : Cpu × Tick :=
  mcStackPullRead (prefetch cpu) bus

def mcLatchPclStackReadPrefetch (cpu : Cpu) (bus : Byte) : Cpu × Tick :=
  mcLatchPclStackRead (prefetch cpu) bus

def mcRtsC4IncPcDummyPrefetch (cpu : Cpu) (bus : Byte) : Cpu × Tick :=
  let cpu := prefetch cpu
  readPcInc { cpu with pc := u16SetByte cpu.pc 1 bus }

/-! ### Branch conditions -/

def opBccBranchC0OffsetPrefetch (cpu : Cpu) (_ : Byte) : Cpu × Tick :=
  branchC0Offset cpu (cpu.p &&& flagC = 0)

def opBcsBranchC0OffsetPrefetch (cpu : Cpu) (_ : Byte) : Cpu × Tick :=
  branchC0Offset cpu (cpu.p &&& flagC ≠ 0)

def opBeqBranchC0OffsetPrefetch (cpu : Cpu) (_ : Byte) : Cpu × Tick :=
  branchC0Offset cpu (cpu.p &&& flagZ ≠ 0)

def opBmiBranchC0OffsetPrefetch (cpu : Cpu) (_ : Byte) : Cpu × Tick :=
  branchC0Offset cpu (cpu.p &&& flagN ≠ 0)

def opBneBranchC0OffsetPrefetch (cpu : Cpu) (_ : Byte) : Cpu × Tick :=
  branchC0Offset cpu (cpu.p &&& flagZ = 0)

def opBplBranchC0OffsetPrefetch (cpu : Cpu) (_ : Byte) : Cpu × Tick :=
  branchC0Offset cpu (cpu.p &&& flagN = 0)

def opBvcBranchC0OffsetPrefetch (cpu : Cpu) (_ : Byte) : Cpu × Tick :=
  branchC0Offset cpu (cpu.p &&& flagV = 0)

def opBvsBranchC0OffsetPrefetch (cpu : Cpu) (_ : Byte) : Cpu × Tick :=
  branchC0Offset cpu (cpu.p &&& flagV ≠ 0)

def opCmosBraBranchC0OffsetPrefetch (cpu : Cpu) (_ : Byte) : Cpu × Tick :=
  readPcInc (prefetch cpu)

def bitMask (bit : Byte) : Byte := (1 : Byte) <<< bit

/-- Opcode `0xnF` names bit `n mod 8`: the branch is taken on a clear bit in the lower half
of the opcode table and on a set bit in the upper half. -/
def mcWdcBbrBbsC3OffsetOrSkipPrefetch (cpu : Cpu) (bus : Byte) : Cpu × Tick :=
  let cpu := prefetch cpu
  let opcode := currentOpcodeSlot cpu
  let bit := opcode >>> 4
  let taken : Bool :=
    if bit < 8#8 then bus &&& bitMask bit = 0 else bus &&& bitMask (bit - 8) ≠ 0
  let tick := read cpu.pc
  let cpu := { cpu with pc := cpu.pc + 1 }
  let cpu := if !taken then { cpu with microcode := cpu.microcode + 2 } else cpu
  (cpu, tick)

/-! ### Decimal cycle of the CMOS adders -/

/-- With D clear the binary sum is done at once and the extra cycle is skipped; with D set
the operand is kept for the decimal adder and `dummy` is read. -/
def fetchOrDecimalDummyPrefetchDecimalSet (operand : Byte → Byte) (dummy : Cpu → Word)
    (cpu : Cpu) (bus : Byte) : Cpu × Tick :=
  let cpu := prefetchIf (!decimalClear cpu) cpu
  if cpu.p &&& flagD = 0 then
    let cpu := adcBinary cpu (operand bus)
    let cpu := { cpu with microcode := cpu.microcode + 1 }
    (cpu, fetch cpu)
  else
    ({ cpu with latchData := bus }, read (dummy cpu))

def opCmosAdcRReadyAddrPendingDataFetchOrDecimalDummyPrefetchDecimalSet :
    Cpu → Byte → Cpu × Tick :=
  fetchOrDecimalDummyPrefetchDecimalSet id Cpu.latchAddr

def opCmosSbcRReadyAddrPendingDataFetchOrDecimalDummyPrefetchDecimalSet :
    Cpu → Byte → Cpu × Tick :=
  fetchOrDecimalDummyPrefetchDecimalSet (· ^^^ 0xFF) Cpu.latchAddr

def opCmosSbcImmReadyNonePendingDataFetchOrDecimalDummyPrefetchDecimalSet :
    Cpu → Byte → Cpu × Tick :=
  fetchOrDecimalDummyPrefetchDecimalSet (· ^^^ 0xFF) fun _ => 0x0000

def opWdcAdcImmReadyNonePendingDataFetchOrDecimalDummyPrefetchDecimalSet :
    Cpu → Byte → Cpu × Tick :=
  fetchOrDecimalDummyPrefetchDecimalSet id fun _ => 0x007F

def opRwAdcImmReadyNonePendingDataFetchOrDecimalDummyPrefetchDecimalSet :
    Cpu → Byte → Cpu × Tick :=
  fetchOrDecimalDummyPrefetchDecimalSet id fun _ => 0x0059

def opStAdcImmReadyNonePendingDataFetchOrDecimalDummyPrefetchDecimalSet :
    Cpu → Byte → Cpu × Tick :=
  fetchOrDecimalDummyPrefetchDecimalSet id fun _ => 0x0056

/-! ### Stores -/

/-- Stores a register at the effective address in `latch_addr`. -/
def storeAddrPrefetch (value : Cpu → Byte) (cpu : Cpu) (_ : Byte) : Cpu × Tick :=
  let cpu := prefetch cpu
  (cpu, write cpu.latchAddr (value cpu))

/-- Stores a register at the address whose high byte is on the bus. -/
def storeAddrHiPrefetch (value : Cpu → Byte) (cpu : Cpu) (bus : Byte) : Cpu × Tick :=
  let cpu := prefetch cpu
  (cpu, write (u16SetByte cpu.latchAddr 1 bus) (value cpu))

/-- Stores a register at the zero-page address on the bus. -/
def storeZpPrefetch (value : Cpu → Byte) (cpu : Cpu) (bus : Byte) : Cpu × Tick :=
  let cpu := prefetch cpu
  (cpu, write (bus.setWidth 16) (value cpu))

def saxValue (cpu : Cpu) : Byte := cpu.a &&& cpu.x

def opStaWReadyAddrPendingNoneWrPrefetch : Cpu → Byte → Cpu × Tick := storeAddrPrefetch Cpu.a
def opStaWReadyAddrloPendingAddrhiWrPrefetch : Cpu → Byte → Cpu × Tick :=
  storeAddrHiPrefetch Cpu.a
def opStaWReadyNonePendingAddrloWrPrefetch : Cpu → Byte → Cpu × Tick := storeZpPrefetch Cpu.a

def opStxWReadyAddrPendingNoneWrPrefetch : Cpu → Byte → Cpu × Tick := storeAddrPrefetch Cpu.x
def opStxWReadyAddrloPendingAddrhiWrPrefetch : Cpu → Byte → Cpu × Tick :=
  storeAddrHiPrefetch Cpu.x
def opStxWReadyNonePendingAddrloWrPrefetch : Cpu → Byte → Cpu × Tick := storeZpPrefetch Cpu.x

def opStyWReadyAddrPendingNoneWrPrefetch : Cpu → Byte → Cpu × Tick := storeAddrPrefetch Cpu.y
def opStyWReadyAddrloPendingAddrhiWrPrefetch : Cpu → Byte → Cpu × Tick :=
  storeAddrHiPrefetch Cpu.y
def opStyWReadyNonePendingAddrloWrPrefetch : Cpu → Byte → Cpu × Tick := storeZpPrefetch Cpu.y

def opSaxWReadyAddrPendingNoneWrPrefetch : Cpu → Byte → Cpu × Tick := storeAddrPrefetch saxValue
def opSaxWReadyAddrloPendingAddrhiWrPrefetch : Cpu → Byte → Cpu × Tick :=
  storeAddrHiPrefetch saxValue
def opSaxWReadyNonePendingAddrloWrPrefetch : Cpu → Byte → Cpu × Tick := storeZpPrefetch saxValue

def opCmosStzWReadyAddrPendingNoneWrPrefetch : Cpu → Byte → Cpu × Tick :=
  storeAddrPrefetch fun _ => 0
def opCmosStzWReadyAddrloPendingAddrhiWrPrefetch : Cpu → Byte → Cpu × Tick :=
  storeAddrHiPrefetch fun _ => 0
def opCmosStzWReadyNonePendingAddrloWrPrefetch : Cpu → Byte → Cpu × Tick :=
  storeZpPrefetch fun _ => 0

def writeUnstableStore (cpu : Cpu) (value : Byte) : Tick :=
  let baseHigh := u16GetByte cpu.latchAddr 1
  let pageCross := cpu.latchData
  let writeHigh := if pageCross = 0 then baseHigh else value
  write (u16SetByte cpu.latchAddr 1 writeHigh) value

def unstableStoreMask (cpu : Cpu) : Byte := u16GetByte cpu.latchAddr 1 + 1

def unstableStorePrefetch (value : Cpu → Byte) (cpu : Cpu) (_ : Byte) : Cpu × Tick :=
  let cpu := prefetch cpu
  (cpu, writeUnstableStore cpu (value cpu &&& unstableStoreMask cpu))

def opAhxUnstableWReadyAddrPendingNoneWrPrefetch : Cpu → Byte → Cpu × Tick :=
  unstableStorePrefetch saxValue

def opShxUnstableWReadyAddrPendingNoneWrPrefetch : Cpu → Byte → Cpu × Tick :=
  unstableStorePrefetch Cpu.x

def opShyUnstableWReadyAddrPendingNoneWrPrefetch : Cpu → Byte → Cpu × Tick :=
  unstableStorePrefetch Cpu.y

def opTasUnstableWReadyAddrPendingNoneWrPrefetch (cpu : Cpu) (_ : Byte) : Cpu × Tick :=
  let cpu := prefetch cpu
  let stack := cpu.a &&& cpu.x
  let value := stack &&& unstableStoreMask cpu
  let cpu := { cpu with s := stack }
  (cpu, writeUnstableStore cpu value)

/-! ### Read, modify, write -/

/-- Writes back what an operation makes of the byte in `latch_data`. -/
def modifyWritePrefetch (op : Cpu → Byte → Cpu × Byte) (cpu : Cpu) (_ : Byte) : Cpu × Tick :=
  let cpu := prefetch cpu
  let (cpu, value) := op cpu cpu.latchData
  (cpu, write cpu.latchAddr value)

def decValue (cpu : Cpu) (data : Byte) : Cpu × Byte := (updateFlagsNz cpu (data - 1), data - 1)
def incValue (cpu : Cpu) (data : Byte) : Cpu × Byte := (updateFlagsNz cpu (data + 1), data + 1)

def opAslRwReadyAddrDataPendingNoneWrPrefetch : Cpu → Byte → Cpu × Tick :=
  modifyWritePrefetch aslValue

def opLsrRwReadyAddrDataPendingNoneWrPrefetch : Cpu → Byte → Cpu × Tick :=
  modifyWritePrefetch lsrValue

def opRolRwReadyAddrDataPendingNoneWrPrefetch : Cpu → Byte → Cpu × Tick :=
  modifyWritePrefetch rolValue

def opRorRwReadyAddrDataPendingNoneWrPrefetch : Cpu → Byte → Cpu × Tick :=
  modifyWritePrefetch rorValue

def opDecRwReadyAddrDataPendingNoneWrPrefetch : Cpu → Byte → Cpu × Tick :=
  modifyWritePrefetch decValue

def opIncRwReadyAddrDataPendingNoneWrPrefetch : Cpu → Byte → Cpu × Tick :=
  modifyWritePrefetch incValue

def opCmosTrbRwReadyAddrDataPendingNoneWrPrefetch : Cpu → Byte → Cpu × Tick :=
  modifyWritePrefetch fun cpu data =>
    let flags := flagZIf (cpu.a &&& data = 0)
    ({ cpu with p := (cpu.p &&& ~~~flagZ) ||| flags }, data &&& ~~~cpu.a)

def opCmosTsbRwReadyAddrDataPendingNoneWrPrefetch : Cpu → Byte → Cpu × Tick :=
  modifyWritePrefetch fun cpu data =>
    let flags := flagZIf (cpu.a &&& data = 0)
    ({ cpu with p := (cpu.p &&& ~~~flagZ) ||| flags }, data ||| cpu.a)

def opDcpRwReadyAddrDataPendingNoneWrPrefetch : Cpu → Byte → Cpu × Tick :=
  modifyWritePrefetch fun cpu data =>
    let value := data - 1
    (compareRegisterWithValue cpu cpu.a value, value)

def opIscRwReadyAddrDataPendingNoneWrPrefetch : Cpu → Byte → Cpu × Tick :=
  modifyWritePrefetch fun cpu data =>
    let value := data + 1
    (sbcValue cpu value, value)

def mcNesIscRwReadyAddrDataPendingNoneWrPrefetch : Cpu → Byte → Cpu × Tick :=
  modifyWritePrefetch fun cpu data =>
    let value := data + 1
    (adcBinary cpu (value ^^^ 0xFF), value)

def opRraRwReadyAddrDataPendingNoneWrPrefetch : Cpu → Byte → Cpu × Tick :=
  modifyWritePrefetch fun cpu data =>
    let (cpu, value) := rorValue cpu data
    (adcValue cpu value, value)

def opNesRraRwReadyAddrDataPendingNoneWrPrefetch : Cpu → Byte → Cpu × Tick :=
  modifyWritePrefetch fun cpu data =>
    let (cpu, value) := rorValue cpu data
    (adcBinary cpu value, value)

def opRlaRwReadyAddrDataPendingNoneWrPrefetch : Cpu → Byte → Cpu × Tick :=
  modifyWritePrefetch fun cpu data =>
    let (cpu, value) := rolValue cpu data
    (loadA cpu (cpu.a &&& value), value)

def opSloRwReadyAddrDataPendingNoneWrPrefetch : Cpu → Byte → Cpu × Tick :=
  modifyWritePrefetch fun cpu data =>
    let (cpu, value) := aslValue cpu data
    (loadA cpu (cpu.a ||| value), value)

def opSreRwReadyAddrDataPendingNoneWrPrefetch : Cpu → Byte → Cpu × Tick :=
  modifyWritePrefetch fun cpu data =>
    let (cpu, value) := lsrValue cpu data
    (loadA cpu (cpu.a ^^^ value), value)

def opWdcRmbSmbRwReadyAddrDataPendingNoneWrPrefetch : Cpu → Byte → Cpu × Tick :=
  modifyWritePrefetch fun cpu data =>
    let opcode := currentOpcodeSlot cpu
    let bit := opcode >>> 4
    let value := if bit < 8#8 then data &&& ~~~bitMask bit else data ||| bitMask (bit - 8)
    (cpu, value)

end Qe6502
