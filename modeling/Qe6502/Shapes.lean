import Qe6502.Instructions
import Qe6502.Execute

/-!
# Shapes

A shape is a slot class with its handlers: what an instruction does on the bus, apart from what
its operation computes.  `Instruction.shape` gives each instruction of a model its shape, and
`slotAt_shape` says that the control store has the slot of that shape.
-/

namespace Qe6502

/-! ### Operations -/

namespace Handler

/-- The handlers that take the operand from the bus and fetch. -/
def loads : Handler → Bool
  | mcFetch | mcFetchIllegalExtDispatch | mcLoadAUpdateNzFetch | mcLoadXUpdateNzFetch
  | mcLoadYUpdateNzFetch | opAdcRReadyNonePendingDataFetch | opNesAdcRReadyNonePendingDataFetch
  | opAndRReadyNonePendingDataFetch | opAncRReadyNonePendingDataFetch
  | opAlrRReadyNonePendingDataFetch | opArrRReadyNonePendingDataFetch
  | opNesArrRReadyNonePendingDataFetch | opAxsRReadyNonePendingDataFetch
  | opXaaRReadyNonePendingDataFetch | opLxaRReadyNonePendingDataFetch
  | opBitRReadyNonePendingDataFetch | opCmosBitImmReadyNonePendingDataFetch
  | opCmpRReadyNonePendingDataFetch | opCpxRReadyNonePendingDataFetch
  | opCpyRReadyNonePendingDataFetch | opEorRReadyNonePendingDataFetch
  | opLaxRReadyNonePendingDataFetch | opLasRReadyNonePendingDataFetch
  | opOraRReadyNonePendingDataFetch | opPlpStackPullReadyNonePendingDataFetch
  | opSbcRReadyNonePendingDataFetch | opNesSbcRReadyNonePendingDataFetch => true
  | _ => false

/-- The handlers that write back what they make of `latch_data`. -/
def modifies : Handler → Bool
  | opAslRwReadyAddrDataPendingNoneWrPrefetch | opLsrRwReadyAddrDataPendingNoneWrPrefetch
  | opRolRwReadyAddrDataPendingNoneWrPrefetch | opRorRwReadyAddrDataPendingNoneWrPrefetch
  | opDecRwReadyAddrDataPendingNoneWrPrefetch | opIncRwReadyAddrDataPendingNoneWrPrefetch
  | opCmosTrbRwReadyAddrDataPendingNoneWrPrefetch
  | opCmosTsbRwReadyAddrDataPendingNoneWrPrefetch | opDcpRwReadyAddrDataPendingNoneWrPrefetch
  | opIscRwReadyAddrDataPendingNoneWrPrefetch | mcNesIscRwReadyAddrDataPendingNoneWrPrefetch
  | opRraRwReadyAddrDataPendingNoneWrPrefetch | opNesRraRwReadyAddrDataPendingNoneWrPrefetch
  | opRlaRwReadyAddrDataPendingNoneWrPrefetch | opSloRwReadyAddrDataPendingNoneWrPrefetch
  | opSreRwReadyAddrDataPendingNoneWrPrefetch
  | opWdcRmbSmbRwReadyAddrDataPendingNoneWrPrefetch => true
  | _ => false

/-- The handlers that work on registers during a dummy read. -/
def implies : Handler → Bool
  | mcReadPcPrefetch | opAslAccReadyNonePendingNoneDummyPrefetch
  | opLsrAccReadyNonePendingNoneDummyPrefetch | opRolAccReadyNonePendingNoneDummyPrefetch
  | opRorAccReadyNonePendingNoneDummyPrefetch | opClcImpReadyNonePendingNoneDummyPrefetch
  | opCldImpReadyNonePendingNoneDummyPrefetch | opCliImpReadyNonePendingNoneDummyPrefetch
  | opClvImpReadyNonePendingNoneDummyPrefetch | opSecImpReadyNonePendingNoneDummyPrefetch
  | opSedImpReadyNonePendingNoneDummyPrefetch | opSeiImpReadyNonePendingNoneDummyPrefetch
  | opCmosDecAccReadyNonePendingNoneDummyPrefetch
  | opCmosIncAccReadyNonePendingNoneDummyPrefetch | opDexImpReadyNonePendingNoneDummyPrefetch
  | opDeyImpReadyNonePendingNoneDummyPrefetch | opInxImpReadyNonePendingNoneDummyPrefetch
  | opInyImpReadyNonePendingNoneDummyPrefetch | opTaxImpReadyNonePendingNoneDummyPrefetch
  | opTayImpReadyNonePendingNoneDummyPrefetch | opTsxImpReadyNonePendingNoneDummyPrefetch
  | opTxaImpReadyNonePendingNoneDummyPrefetch | opTxsImpReadyNonePendingNoneDummyPrefetch
  | opTyaImpReadyNonePendingNoneDummyPrefetch => true
  | _ => false

/-- The handlers that push a register. -/
def pushes : Handler → Bool
  | opPhaStackPushReadyNonePendingNoneWrPrefetch | opPhpStackPushReadyNonePendingNoneWrPrefetch
  | opCmosPhxStackPushReadyNonePendingNoneWrPrefetch
  | opCmosPhyStackPushReadyNonePendingNoneWrPrefetch => true
  | _ => false

/-- The handlers that read a branch offset. -/
def branches : Handler → Bool
  | opBccBranchC0OffsetPrefetch | opBcsBranchC0OffsetPrefetch | opBeqBranchC0OffsetPrefetch
  | opBmiBranchC0OffsetPrefetch | opBneBranchC0OffsetPrefetch | opBplBranchC0OffsetPrefetch
  | opBvcBranchC0OffsetPrefetch | opBvsBranchC0OffsetPrefetch
  | opCmosBraBranchC0OffsetPrefetch => true
  | _ => false

/-- The stores at the address an unstable store makes up. -/
def storesUnstable : Handler → Bool
  | opAhxUnstableWReadyAddrPendingNoneWrPrefetch | opShxUnstableWReadyAddrPendingNoneWrPrefetch
  | opShyUnstableWReadyAddrPendingNoneWrPrefetch
  | opTasUnstableWReadyAddrPendingNoneWrPrefetch => true
  | _ => false

/-- The CMOS additions and subtractions: the handler that does the same without decimal mode,
and the one of the extra cycle. -/
def sums : Handler → Option (Handler × Handler)
  | opCmosAdcRReadyAddrPendingDataFetchOrDecimalDummyPrefetchDecimalSet
  | opWdcAdcImmReadyNonePendingDataFetchOrDecimalDummyPrefetchDecimalSet
  | opRwAdcImmReadyNonePendingDataFetchOrDecimalDummyPrefetchDecimalSet
  | opStAdcImmReadyNonePendingDataFetchOrDecimalDummyPrefetchDecimalSet =>
    some (opNesAdcRReadyNonePendingDataFetch, opCmosAdcDecReadyNonePendingDummyFetch)
  | opCmosSbcRReadyAddrPendingDataFetchOrDecimalDummyPrefetchDecimalSet
  | opCmosSbcImmReadyNonePendingDataFetchOrDecimalDummyPrefetchDecimalSet =>
    some (opNesSbcRReadyNonePendingDataFetch, opCmosSbcDecReadyNonePendingDummyFetch)
  | _ => none

end Handler

structure Load where
  handler : Handler
  loads : handler.loads = true

structure Modify where
  handler : Handler
  modifies : handler.modifies = true

structure Implied where
  handler : Handler
  implies : handler.implies = true

structure Push where
  handler : Handler
  pushes : handler.pushes = true

structure Branch where
  handler : Handler
  branches : handler.branches = true

structure Unstable where
  handler : Handler
  storesUnstable : handler.storesUnstable = true

structure Sum where
  handler : Handler
  binary : Handler
  decimal : Handler
  sums : handler.sums = some (binary, decimal)

/-- What a store writes. -/
inductive Source
  | a | x | y | ax | zero
deriving DecidableEq

namespace Source

def value (cpu : Cpu) : Source → Byte
  | a => cpu.a
  | x => cpu.x
  | y => cpu.y
  | ax => saxValue cpu
  | zero => 0

/-- The store at `latch_addr`. -/
def atLatch : Source → Handler
  | a => .opStaWReadyAddrPendingNoneWrPrefetch
  | x => .opStxWReadyAddrPendingNoneWrPrefetch
  | y => .opStyWReadyAddrPendingNoneWrPrefetch
  | ax => .opSaxWReadyAddrPendingNoneWrPrefetch
  | zero => .opCmosStzWReadyAddrPendingNoneWrPrefetch

/-- The store at the address whose high byte is on the bus. -/
def atHigh : Source → Handler
  | a => .opStaWReadyAddrloPendingAddrhiWrPrefetch
  | x => .opStxWReadyAddrloPendingAddrhiWrPrefetch
  | y => .opStyWReadyAddrloPendingAddrhiWrPrefetch
  | ax => .opSaxWReadyAddrloPendingAddrhiWrPrefetch
  | zero => .opCmosStzWReadyAddrloPendingAddrhiWrPrefetch

/-- The store at the zero-page address on the bus. -/
def atZeroPage : Source → Handler
  | a => .opStaWReadyNonePendingAddrloWrPrefetch
  | x => .opStxWReadyNonePendingAddrloWrPrefetch
  | y => .opStyWReadyNonePendingAddrloWrPrefetch
  | ax => .opSaxWReadyNonePendingAddrloWrPrefetch
  | zero => .opCmosStzWReadyNonePendingAddrloWrPrefetch

end Source

/-! ### Shapes and their slots -/

/-- A slot class with its handlers.  The first argument of the shapes that access memory
chooses the CMOS chains. -/
inductive Shape
  | read (cmos : Bool) (mode : Mode) (op : Load)
  | readDecimal (mode : Mode) (op : Sum)
  | write (cmos : Bool) (mode : Mode) (source : Source)
  | unstable (mode : Mode) (op : Unstable)
  | modify (cmos : Bool) (mode : Mode) (op : Modify)
  | modifyShort (op : Modify)
  | implied (op : Implied)
  | push (op : Push)
  | pull (op : Load)
  | nopFetch | nopAbs | stNopAbs | stNopAbsHigh
  | branch (op : Branch)
  | branchBit
  | jump | jumpInd | jumpIndCmos | jumpIndX | call | ret | rti | brk | brkCmos | jam

def readSlot (cmos : Bool) (op : Handler) : Mode → Option Slot
  | .imm => some (rImm op)
  | .zp => some (rZp op)
  | .zpx => some (rZpx op)
  | .zpy => some (rZpy op)
  | .abs => some (rAbs op)
  | .abx => some (if cmos then rAbxCmos op else rAbx op)
  | .aby => some (if cmos then rAbyCmos op else rAby op)
  | .izx => some (rIzx op)
  | .izy => some (if cmos then rIzyCmos op else rIzy op)
  | .izp => some (rIzp op)
  | _ => none

def readDecimalSlot (op opDecimal : Handler) : Mode → Option Slot
  | .imm => some (rImmCmosDecimal op opDecimal)
  | .zp => some (rZpCmosDecimal op opDecimal)
  | .zpx => some (rZpxCmosDecimal op opDecimal)
  | .abs => some (rAbsCmosDecimal op opDecimal)
  | .abx => some (rAbxCmosDecimal op opDecimal)
  | .aby => some (rAbyCmosDecimal op opDecimal)
  | .izx => some (rIzxCmosDecimal op opDecimal)
  | .izy => some (rIzyCmosDecimal op opDecimal)
  | .izp => some (rIzpWdcDecimal op opDecimal)
  | _ => none

def writeSlot (cmos : Bool) (source : Source) : Mode → Option Slot
  | .zp => some (wZp source.atZeroPage)
  | .zpx => some (wZpx source.atLatch)
  | .zpy => some (wZpy source.atLatch)
  | .abs => some (wAbs source.atHigh)
  | .abx => some (if cmos then wAbxCmos source.atLatch else wAbx source.atLatch)
  | .aby => some (if cmos then wAbyCmos source.atLatch else wAby source.atLatch)
  | .izx => some (wIzx source.atHigh)
  | .izy => some (if cmos then wIzyCmos source.atLatch else wIzy source.atLatch)
  | .izp => some (wIzp source.atHigh)
  | _ => none

def unstableSlot (op : Handler) : Mode → Option Slot
  | .abx => some (unstableWAbx op)
  | .aby => some (unstableWAby op)
  | .izy => some (unstableWIzy op)
  | _ => none

def modifySlot (cmos : Bool) (op : Handler) : Mode → Option Slot
  | .zp => some (if cmos then rwZpCmos op else rwZp op)
  | .zpx => some (if cmos then rwZpxCmos op else rwZpx op)
  | .abs => some (if cmos then rwAbsCmos op else rwAbs op)
  | .abx => some (if cmos then rwAbxCmos op else rwAbx op)
  | .aby => if cmos then none else some (rwAby op)
  | .izx => if cmos then none else some (rwIzx op)
  | .izy => if cmos then none else some (rwIzy op)
  | _ => none

def Shape.slot : Shape → Option Slot
  | .read cmos mode op => readSlot cmos op.handler mode
  | .readDecimal mode op => readDecimalSlot op.handler op.decimal mode
  | .write cmos mode source => writeSlot cmos source mode
  | .unstable mode op => unstableSlot op.handler mode
  | .modify cmos mode op => modifySlot cmos op.handler mode
  | .modifyShort op => some (rwAbxShort op.handler)
  | .implied op => some (imp op.handler)
  | .push op => some (stackPush op.handler)
  | .pull op => some (stackPull op.handler)
  | .nopFetch => some nop1b1c
  | .nopAbs => some nop3b4c
  | .stNopAbs => some stNopAbsRead
  | .stNopAbsHigh => some stNopAbsReadHighDummy
  | .branch op => some (branchRel op.handler)
  | .branchBit => some bbrBbsZpRel
  | .jump => some jmpAbs
  | .jumpInd => some jmpInd
  | .jumpIndCmos => some jmpIndWdc
  | .jumpIndX => some jmpIndXWdc
  | .call => some jsrAbs
  | .ret => some rts
  | .rti => some Qe6502.rti
  | .brk => some Qe6502.brk
  | .brkCmos => some Qe6502.brkCmos
  | .jam => some kilJam

/-! ### The shape of an instruction -/

namespace Mnemonic

/-- Operations on an operand; the NES model adds and subtracts without decimal mode. -/
def load (nes : Bool) : Mnemonic → Option Load
  | adc => some (if nes then ⟨.opNesAdcRReadyNonePendingDataFetch, rfl⟩
      else ⟨.opAdcRReadyNonePendingDataFetch, rfl⟩)
  | alr => some ⟨.opAlrRReadyNonePendingDataFetch, rfl⟩
  | anc => some ⟨.opAncRReadyNonePendingDataFetch, rfl⟩
  | and => some ⟨.opAndRReadyNonePendingDataFetch, rfl⟩
  | arr => some (if nes then ⟨.opNesArrRReadyNonePendingDataFetch, rfl⟩
      else ⟨.opArrRReadyNonePendingDataFetch, rfl⟩)
  | axs => some ⟨.opAxsRReadyNonePendingDataFetch, rfl⟩
  | bit => some ⟨.opBitRReadyNonePendingDataFetch, rfl⟩
  | cmp => some ⟨.opCmpRReadyNonePendingDataFetch, rfl⟩
  | cpx => some ⟨.opCpxRReadyNonePendingDataFetch, rfl⟩
  | cpy => some ⟨.opCpyRReadyNonePendingDataFetch, rfl⟩
  | eor => some ⟨.opEorRReadyNonePendingDataFetch, rfl⟩
  | las => some ⟨.opLasRReadyNonePendingDataFetch, rfl⟩
  | lax => some ⟨.opLaxRReadyNonePendingDataFetch, rfl⟩
  | lda => some ⟨.mcLoadAUpdateNzFetch, rfl⟩
  | ldx => some ⟨.mcLoadXUpdateNzFetch, rfl⟩
  | ldy => some ⟨.mcLoadYUpdateNzFetch, rfl⟩
  | lxa => some ⟨.opLxaRReadyNonePendingDataFetch, rfl⟩
  | nop => some ⟨.mcFetch, rfl⟩
  | ora => some ⟨.opOraRReadyNonePendingDataFetch, rfl⟩
  | sbc => some (if nes then ⟨.opNesSbcRReadyNonePendingDataFetch, rfl⟩
      else ⟨.opSbcRReadyNonePendingDataFetch, rfl⟩)
  | xaa => some ⟨.opXaaRReadyNonePendingDataFetch, rfl⟩
  | _ => none

/-- The sums of the CMOS models, whose immediate ADC differ in the extra cycle. -/
def sum (model : Nat) (mode : Mode) : Mnemonic → Option Sum
  | adc =>
    if mode = .imm then
      match model with
      | 2 => some ⟨.opWdcAdcImmReadyNonePendingDataFetchOrDecimalDummyPrefetchDecimalSet, _, _, rfl⟩
      | 3 => some ⟨.opRwAdcImmReadyNonePendingDataFetchOrDecimalDummyPrefetchDecimalSet, _, _, rfl⟩
      | _ => some ⟨.opStAdcImmReadyNonePendingDataFetchOrDecimalDummyPrefetchDecimalSet, _, _, rfl⟩
    else some ⟨.opCmosAdcRReadyAddrPendingDataFetchOrDecimalDummyPrefetchDecimalSet, _, _, rfl⟩
  | sbc =>
    if mode = .imm then
      some ⟨.opCmosSbcImmReadyNonePendingDataFetchOrDecimalDummyPrefetchDecimalSet, _, _, rfl⟩
    else some ⟨.opCmosSbcRReadyAddrPendingDataFetchOrDecimalDummyPrefetchDecimalSet, _, _, rfl⟩
  | _ => none

def modify (nes : Bool) : Mnemonic → Option Modify
  | asl => some ⟨.opAslRwReadyAddrDataPendingNoneWrPrefetch, rfl⟩
  | dcp => some ⟨.opDcpRwReadyAddrDataPendingNoneWrPrefetch, rfl⟩
  | dec => some ⟨.opDecRwReadyAddrDataPendingNoneWrPrefetch, rfl⟩
  | inc => some ⟨.opIncRwReadyAddrDataPendingNoneWrPrefetch, rfl⟩
  | isc => some (if nes then ⟨.mcNesIscRwReadyAddrDataPendingNoneWrPrefetch, rfl⟩
      else ⟨.opIscRwReadyAddrDataPendingNoneWrPrefetch, rfl⟩)
  | lsr => some ⟨.opLsrRwReadyAddrDataPendingNoneWrPrefetch, rfl⟩
  | rla => some ⟨.opRlaRwReadyAddrDataPendingNoneWrPrefetch, rfl⟩
  | rmb | smb => some ⟨.opWdcRmbSmbRwReadyAddrDataPendingNoneWrPrefetch, rfl⟩
  | rol => some ⟨.opRolRwReadyAddrDataPendingNoneWrPrefetch, rfl⟩
  | ror => some ⟨.opRorRwReadyAddrDataPendingNoneWrPrefetch, rfl⟩
  | rra => some (if nes then ⟨.opNesRraRwReadyAddrDataPendingNoneWrPrefetch, rfl⟩
      else ⟨.opRraRwReadyAddrDataPendingNoneWrPrefetch, rfl⟩)
  | slo => some ⟨.opSloRwReadyAddrDataPendingNoneWrPrefetch, rfl⟩
  | sre => some ⟨.opSreRwReadyAddrDataPendingNoneWrPrefetch, rfl⟩
  | trb => some ⟨.opCmosTrbRwReadyAddrDataPendingNoneWrPrefetch, rfl⟩
  | tsb => some ⟨.opCmosTsbRwReadyAddrDataPendingNoneWrPrefetch, rfl⟩
  | _ => none

/-- The shifts and rotates, which the CMOS models shorten. -/
def shifts : Mnemonic → Bool
  | asl | lsr | rol | ror => true
  | _ => false

def source : Mnemonic → Option Source
  | sta => some .a
  | stx => some .x
  | sty => some .y
  | sax => some .ax
  | stz => some .zero
  | _ => none

def unstable : Mnemonic → Option Unstable
  | ahx => some ⟨.opAhxUnstableWReadyAddrPendingNoneWrPrefetch, rfl⟩
  | shx => some ⟨.opShxUnstableWReadyAddrPendingNoneWrPrefetch, rfl⟩
  | shy => some ⟨.opShyUnstableWReadyAddrPendingNoneWrPrefetch, rfl⟩
  | tas => some ⟨.opTasUnstableWReadyAddrPendingNoneWrPrefetch, rfl⟩
  | _ => none

def accumulator : Mnemonic → Option Implied
  | asl => some ⟨.opAslAccReadyNonePendingNoneDummyPrefetch, rfl⟩
  | dec => some ⟨.opCmosDecAccReadyNonePendingNoneDummyPrefetch, rfl⟩
  | inc => some ⟨.opCmosIncAccReadyNonePendingNoneDummyPrefetch, rfl⟩
  | lsr => some ⟨.opLsrAccReadyNonePendingNoneDummyPrefetch, rfl⟩
  | rol => some ⟨.opRolAccReadyNonePendingNoneDummyPrefetch, rfl⟩
  | ror => some ⟨.opRorAccReadyNonePendingNoneDummyPrefetch, rfl⟩
  | _ => none

def branch : Mnemonic → Option Branch
  | bcc => some ⟨.opBccBranchC0OffsetPrefetch, rfl⟩
  | bcs => some ⟨.opBcsBranchC0OffsetPrefetch, rfl⟩
  | beq => some ⟨.opBeqBranchC0OffsetPrefetch, rfl⟩
  | bmi => some ⟨.opBmiBranchC0OffsetPrefetch, rfl⟩
  | bne => some ⟨.opBneBranchC0OffsetPrefetch, rfl⟩
  | bpl => some ⟨.opBplBranchC0OffsetPrefetch, rfl⟩
  | bra => some ⟨.opCmosBraBranchC0OffsetPrefetch, rfl⟩
  | bvc => some ⟨.opBvcBranchC0OffsetPrefetch, rfl⟩
  | bvs => some ⟨.opBvsBranchC0OffsetPrefetch, rfl⟩
  | _ => none

/-- The instructions without an operand. -/
def shape (cmos : Bool) : Mnemonic → Option Shape
  | brk => some (if cmos then .brkCmos else .brk)
  | clc => some (.implied ⟨.opClcImpReadyNonePendingNoneDummyPrefetch, rfl⟩)
  | cld => some (.implied ⟨.opCldImpReadyNonePendingNoneDummyPrefetch, rfl⟩)
  | cli => some (.implied ⟨.opCliImpReadyNonePendingNoneDummyPrefetch, rfl⟩)
  | clv => some (.implied ⟨.opClvImpReadyNonePendingNoneDummyPrefetch, rfl⟩)
  | dex => some (.implied ⟨.opDexImpReadyNonePendingNoneDummyPrefetch, rfl⟩)
  | dey => some (.implied ⟨.opDeyImpReadyNonePendingNoneDummyPrefetch, rfl⟩)
  | inx => some (.implied ⟨.opInxImpReadyNonePendingNoneDummyPrefetch, rfl⟩)
  | iny => some (.implied ⟨.opInyImpReadyNonePendingNoneDummyPrefetch, rfl⟩)
  | kil => some .jam
  | nop => some (.implied ⟨.mcReadPcPrefetch, rfl⟩)
  | nopFetch => some .nopFetch
  | pha => some (.push ⟨.opPhaStackPushReadyNonePendingNoneWrPrefetch, rfl⟩)
  | php => some (.push ⟨.opPhpStackPushReadyNonePendingNoneWrPrefetch, rfl⟩)
  | phx => some (.push ⟨.opCmosPhxStackPushReadyNonePendingNoneWrPrefetch, rfl⟩)
  | phy => some (.push ⟨.opCmosPhyStackPushReadyNonePendingNoneWrPrefetch, rfl⟩)
  | pla => some (.pull ⟨.mcLoadAUpdateNzFetch, rfl⟩)
  | plp => some (.pull ⟨.opPlpStackPullReadyNonePendingDataFetch, rfl⟩)
  | plx => some (.pull ⟨.mcLoadXUpdateNzFetch, rfl⟩)
  | ply => some (.pull ⟨.mcLoadYUpdateNzFetch, rfl⟩)
  | rti => some .rti
  | rts => some .ret
  | sec => some (.implied ⟨.opSecImpReadyNonePendingNoneDummyPrefetch, rfl⟩)
  | sed => some (.implied ⟨.opSedImpReadyNonePendingNoneDummyPrefetch, rfl⟩)
  | sei => some (.implied ⟨.opSeiImpReadyNonePendingNoneDummyPrefetch, rfl⟩)
  | tax => some (.implied ⟨.opTaxImpReadyNonePendingNoneDummyPrefetch, rfl⟩)
  | tay => some (.implied ⟨.opTayImpReadyNonePendingNoneDummyPrefetch, rfl⟩)
  | tsx => some (.implied ⟨.opTsxImpReadyNonePendingNoneDummyPrefetch, rfl⟩)
  | txa => some (.implied ⟨.opTxaImpReadyNonePendingNoneDummyPrefetch, rfl⟩)
  | txs => some (.implied ⟨.opTxsImpReadyNonePendingNoneDummyPrefetch, rfl⟩)
  | tya => some (.implied ⟨.opTyaImpReadyNonePendingNoneDummyPrefetch, rfl⟩)
  | _ => none

/-- The instructions with an operand, other than branches and indirect jumps. -/
def operandShape (model : Nat) (mode : Mode) (m : Mnemonic) : Option Shape :=
  match m with
  | jmp => some .jump
  | jsr => some .call
  | nopAbs => some .nopAbs
  | stNopAbs => some .stNopAbs
  | stNopAbsHigh => some .stNopAbsHigh
  | _ =>
    if isCmos model && mode = .imm && m = bit then
      some (.read true .imm ⟨.opCmosBitImmReadyNonePendingDataFetch, rfl⟩)
    else if isCmos model && (m = adc || m = sbc) then
      (m.sum model mode).map (.readDecimal mode)
    else if isCmos model && mode = .abx && m.shifts then
      (m.modify false).map .modifyShort
    else
      (m.source.map (.write (isCmos model) mode)).or
        ((m.unstable.map (.unstable mode)).or
          (((m.modify (model = 1)).map (.modify (isCmos model) mode)).or
            ((m.load (model = 1)).map (.read (isCmos model) mode))))

end Mnemonic

def Instruction.shape (model : Nat) (i : Instruction) : Option Shape :=
  match i.mode with
  | .imp => i.mnemonic.shape (isCmos model)
  | .acc => i.mnemonic.accumulator.map .implied
  | .rel => i.mnemonic.branch.map .branch
  | .zpRel => some .branchBit
  | .ind => some (if isCmos model then .jumpIndCmos else .jumpInd)
  | .indX => some .jumpIndX
  | mode => i.mnemonic.operandShape model mode

/-- The slot that the comment of an opcode asks for. -/
def Instruction.slot (model : Nat) (i : Instruction) : Option Slot :=
  (i.shape model).bind Shape.slot

theorem shaped_blocks : ∀ model < 5,
    controlStoreBlocks[model]?.map (fun block => (block.take 256).map some) =
      instructionTables[model]?.map (List.map (Instruction.slot model)) := by
  decide +kernel

theorem instruction_tables : ∀ model < 5,
    instructionTables[model]?.map List.length = some 256 := by
  decide +kernel

/-- **The control store has the slot of the shape of each instruction.** -/
theorem slotAt_shape {model : Nat} (hm : model < 5) (opcode : Byte) :
    ∃ i shape entries, instructionAt model opcode = some i ∧ i.shape model = some shape ∧
      shape.slot = some entries ∧ slotAt model opcode.toNat = some entries := by
  have hopcode : opcode.toNat < 256 := opcode.isLt
  obtain ⟨table, htable, hlength⟩ := Option.map_eq_some_iff.mp (instruction_tables model hm)
  have hblocks := shaped_blocks model hm
  rw [htable, Option.map_some, Option.map_eq_some_iff] at hblocks
  obtain ⟨block, hblock, hslots⟩ := hblocks
  have hat : table[opcode.toNat]? = some table[opcode.toNat] :=
    List.getElem?_eq_getElem (by omega)
  have hentry := congrArg (·[opcode.toNat]?) hslots
  simp only [List.getElem?_map, List.getElem?_take_of_lt hopcode, hat, Option.map_some,
    Option.map_eq_some_iff] at hentry
  obtain ⟨entries, hentries, hslot⟩ := hentry
  obtain ⟨shape, hshape, hshapeSlot⟩ := Option.bind_eq_some_iff.mp hslot.symm
  refine ⟨table[opcode.toNat], shape, entries, ?_, hshape, hshapeSlot, ?_⟩
  · rw [instructionAt, htable]
    exact hat
  · rw [slotAt, hblock]
    exact hentries

end Qe6502
