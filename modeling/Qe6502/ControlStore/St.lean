import Qe6502.ControlStore.Classes

/-!
# The ST control-store block

`st_block.inc`: the opcode slots `0x00` to `0xFF` in order, then the service slots.
-/

namespace Qe6502

def stOpcodeSlots : List Slot := [
  -- 0x00
  brkCmos, rIzx .opOraRReadyNonePendingDataFetch, nop2b2c, nop1b1c,
  rwZpCmos .opCmosTsbRwReadyAddrDataPendingNoneWrPrefetch, rZp .opOraRReadyNonePendingDataFetch,
  rwZpCmos .opAslRwReadyAddrDataPendingNoneWrPrefetch, stNopZpRead,
  stackPush .opPhpStackPushReadyNonePendingNoneWrPrefetch, rImm .opOraRReadyNonePendingDataFetch,
  acc .opAslAccReadyNonePendingNoneDummyPrefetch, nop1b1c,
  rwAbsCmos .opCmosTsbRwReadyAddrDataPendingNoneWrPrefetch, rAbs .opOraRReadyNonePendingDataFetch,
  rwAbsCmos .opAslRwReadyAddrDataPendingNoneWrPrefetch, stNopAbsRead,
  -- 0x10
  branchRel .opBplBranchC0OffsetPrefetch, rIzyCmos .opOraRReadyNonePendingDataFetch,
  rIzp .opOraRReadyNonePendingDataFetch, nop1b1c,
  rwZpCmos .opCmosTrbRwReadyAddrDataPendingNoneWrPrefetch, rZpx .opOraRReadyNonePendingDataFetch,
  rwZpxCmos .opAslRwReadyAddrDataPendingNoneWrPrefetch, stNopZpxRead,
  imp .opClcImpReadyNonePendingNoneDummyPrefetch, rAbyCmos .opOraRReadyNonePendingDataFetch,
  acc .opCmosIncAccReadyNonePendingNoneDummyPrefetch, nop1b1c,
  rwAbsCmos .opCmosTrbRwReadyAddrDataPendingNoneWrPrefetch,
  rAbxCmos .opOraRReadyNonePendingDataFetch, rwAbxShort .opAslRwReadyAddrDataPendingNoneWrPrefetch,
  stNopAbsReadHighDummy,
  -- 0x20
  jsrAbs, rIzx .opAndRReadyNonePendingDataFetch, nop2b2c, nop1b1c,
  rZp .opBitRReadyNonePendingDataFetch, rZp .opAndRReadyNonePendingDataFetch,
  rwZpCmos .opRolRwReadyAddrDataPendingNoneWrPrefetch, stNopZpRead,
  stackPull .opPlpStackPullReadyNonePendingDataFetch, rImm .opAndRReadyNonePendingDataFetch,
  acc .opRolAccReadyNonePendingNoneDummyPrefetch, nop1b1c, rAbs .opBitRReadyNonePendingDataFetch,
  rAbs .opAndRReadyNonePendingDataFetch, rwAbsCmos .opRolRwReadyAddrDataPendingNoneWrPrefetch,
  stNopAbsRead,
  -- 0x30
  branchRel .opBmiBranchC0OffsetPrefetch, rIzyCmos .opAndRReadyNonePendingDataFetch,
  rIzp .opAndRReadyNonePendingDataFetch, nop1b1c, rZpx .opBitRReadyNonePendingDataFetch,
  rZpx .opAndRReadyNonePendingDataFetch, rwZpxCmos .opRolRwReadyAddrDataPendingNoneWrPrefetch,
  stNopZpxRead, imp .opSecImpReadyNonePendingNoneDummyPrefetch,
  rAbyCmos .opAndRReadyNonePendingDataFetch, acc .opCmosDecAccReadyNonePendingNoneDummyPrefetch,
  nop1b1c, rAbxCmos .opBitRReadyNonePendingDataFetch, rAbxCmos .opAndRReadyNonePendingDataFetch,
  rwAbxShort .opRolRwReadyAddrDataPendingNoneWrPrefetch, stNopAbsReadHighDummy,
  -- 0x40
  rti, rIzx .opEorRReadyNonePendingDataFetch, nop2b2c, nop1b1c, nopZpRead,
  rZp .opEorRReadyNonePendingDataFetch, rwZpCmos .opLsrRwReadyAddrDataPendingNoneWrPrefetch,
  stNopZpRead, stackPush .opPhaStackPushReadyNonePendingNoneWrPrefetch,
  rImm .opEorRReadyNonePendingDataFetch, acc .opLsrAccReadyNonePendingNoneDummyPrefetch, nop1b1c,
  jmpAbs, rAbs .opEorRReadyNonePendingDataFetch,
  rwAbsCmos .opLsrRwReadyAddrDataPendingNoneWrPrefetch, stNopAbsRead,
  -- 0x50
  branchRel .opBvcBranchC0OffsetPrefetch, rIzyCmos .opEorRReadyNonePendingDataFetch,
  rIzp .opEorRReadyNonePendingDataFetch, nop1b1c, nopZpxRead,
  rZpx .opEorRReadyNonePendingDataFetch, rwZpxCmos .opLsrRwReadyAddrDataPendingNoneWrPrefetch,
  stNopZpxRead, imp .opCliImpReadyNonePendingNoneDummyPrefetch,
  rAbyCmos .opEorRReadyNonePendingDataFetch,
  stackPush .opCmosPhyStackPushReadyNonePendingNoneWrPrefetch, nop1b1c, nop3b4c,
  rAbxCmos .opEorRReadyNonePendingDataFetch, rwAbxShort .opLsrRwReadyAddrDataPendingNoneWrPrefetch,
  stNopAbsReadHighDummy,
  -- 0x60
  rts,
  rIzxCmosDecimal .opCmosAdcRReadyAddrPendingDataFetchOrDecimalDummyPrefetchDecimalSet .opCmosAdcDecReadyNonePendingDummyFetch,
  nop2b2c, nop1b1c, wZp .opCmosStzWReadyNonePendingAddrloWrPrefetch,
  rZpCmosDecimal .opCmosAdcRReadyAddrPendingDataFetchOrDecimalDummyPrefetchDecimalSet .opCmosAdcDecReadyNonePendingDummyFetch,
  rwZpCmos .opRorRwReadyAddrDataPendingNoneWrPrefetch, stNopZpRead,
  stackPull .mcLoadAUpdateNzFetch,
  rImmCmosDecimal .opStAdcImmReadyNonePendingDataFetchOrDecimalDummyPrefetchDecimalSet .opCmosAdcDecReadyNonePendingDummyFetch,
  acc .opRorAccReadyNonePendingNoneDummyPrefetch, nop1b1c, jmpIndWdc,
  rAbsCmosDecimal .opCmosAdcRReadyAddrPendingDataFetchOrDecimalDummyPrefetchDecimalSet .opCmosAdcDecReadyNonePendingDummyFetch,
  rwAbsCmos .opRorRwReadyAddrDataPendingNoneWrPrefetch, stNopAbsRead,
  -- 0x70
  branchRel .opBvsBranchC0OffsetPrefetch,
  rIzyCmosDecimal .opCmosAdcRReadyAddrPendingDataFetchOrDecimalDummyPrefetchDecimalSet .opCmosAdcDecReadyNonePendingDummyFetch,
  rIzpWdcDecimal .opCmosAdcRReadyAddrPendingDataFetchOrDecimalDummyPrefetchDecimalSet .opCmosAdcDecReadyNonePendingDummyFetch,
  nop1b1c, wZpx .opCmosStzWReadyAddrPendingNoneWrPrefetch,
  rZpxCmosDecimal .opCmosAdcRReadyAddrPendingDataFetchOrDecimalDummyPrefetchDecimalSet .opCmosAdcDecReadyNonePendingDummyFetch,
  rwZpxCmos .opRorRwReadyAddrDataPendingNoneWrPrefetch, stNopZpxRead,
  imp .opSeiImpReadyNonePendingNoneDummyPrefetch,
  rAbyCmosDecimal .opCmosAdcRReadyAddrPendingDataFetchOrDecimalDummyPrefetchDecimalSet .opCmosAdcDecReadyNonePendingDummyFetch,
  stackPull .mcLoadYUpdateNzFetch, nop1b1c, jmpIndXWdc,
  rAbxCmosDecimal .opCmosAdcRReadyAddrPendingDataFetchOrDecimalDummyPrefetchDecimalSet .opCmosAdcDecReadyNonePendingDummyFetch,
  rwAbxShort .opRorRwReadyAddrDataPendingNoneWrPrefetch, stNopAbsReadHighDummy,
  -- 0x80
  branchRel .opCmosBraBranchC0OffsetPrefetch, wIzx .opStaWReadyAddrloPendingAddrhiWrPrefetch,
  nop2b2c, nop1b1c, wZp .opStyWReadyNonePendingAddrloWrPrefetch,
  wZp .opStaWReadyNonePendingAddrloWrPrefetch, wZp .opStxWReadyNonePendingAddrloWrPrefetch,
  stNopZpRead, imp .opDeyImpReadyNonePendingNoneDummyPrefetch,
  rImm .opCmosBitImmReadyNonePendingDataFetch, imp .opTxaImpReadyNonePendingNoneDummyPrefetch,
  nop1b1c, wAbs .opStyWReadyAddrloPendingAddrhiWrPrefetch,
  wAbs .opStaWReadyAddrloPendingAddrhiWrPrefetch, wAbs .opStxWReadyAddrloPendingAddrhiWrPrefetch,
  stNopAbsRead,
  -- 0x90
  branchRel .opBccBranchC0OffsetPrefetch, wIzyCmos .opStaWReadyAddrPendingNoneWrPrefetch,
  wIzp .opStaWReadyAddrloPendingAddrhiWrPrefetch, nop1b1c,
  wZpx .opStyWReadyAddrPendingNoneWrPrefetch, wZpx .opStaWReadyAddrPendingNoneWrPrefetch,
  wZpy .opStxWReadyAddrPendingNoneWrPrefetch, stNopZpxRead,
  imp .opTyaImpReadyNonePendingNoneDummyPrefetch, wAbyCmos .opStaWReadyAddrPendingNoneWrPrefetch,
  imp .opTxsImpReadyNonePendingNoneDummyPrefetch, nop1b1c,
  wAbs .opCmosStzWReadyAddrloPendingAddrhiWrPrefetch,
  wAbxCmos .opStaWReadyAddrPendingNoneWrPrefetch,
  wAbxCmos .opCmosStzWReadyAddrPendingNoneWrPrefetch, stNopAbsReadHighDummy,
  -- 0xA0
  rImm .mcLoadYUpdateNzFetch, rIzx .mcLoadAUpdateNzFetch, rImm .mcLoadXUpdateNzFetch, nop1b1c,
  rZp .mcLoadYUpdateNzFetch, rZp .mcLoadAUpdateNzFetch, rZp .mcLoadXUpdateNzFetch, stNopZpRead,
  imp .opTayImpReadyNonePendingNoneDummyPrefetch, rImm .mcLoadAUpdateNzFetch,
  imp .opTaxImpReadyNonePendingNoneDummyPrefetch, nop1b1c, rAbs .mcLoadYUpdateNzFetch,
  rAbs .mcLoadAUpdateNzFetch, rAbs .mcLoadXUpdateNzFetch, stNopAbsRead,
  -- 0xB0
  branchRel .opBcsBranchC0OffsetPrefetch, rIzyCmos .mcLoadAUpdateNzFetch,
  rIzp .mcLoadAUpdateNzFetch, nop1b1c, rZpx .mcLoadYUpdateNzFetch, rZpx .mcLoadAUpdateNzFetch,
  rZpy .mcLoadXUpdateNzFetch, stNopZpxRead, imp .opClvImpReadyNonePendingNoneDummyPrefetch,
  rAbyCmos .mcLoadAUpdateNzFetch, imp .opTsxImpReadyNonePendingNoneDummyPrefetch, nop1b1c,
  rAbxCmos .mcLoadYUpdateNzFetch, rAbxCmos .mcLoadAUpdateNzFetch, rAbyCmos .mcLoadXUpdateNzFetch,
  stNopAbsReadHighDummy,
  -- 0xC0
  rImm .opCpyRReadyNonePendingDataFetch, rIzx .opCmpRReadyNonePendingDataFetch, nop2b2c, nop1b1c,
  rZp .opCpyRReadyNonePendingDataFetch, rZp .opCmpRReadyNonePendingDataFetch,
  rwZpCmos .opDecRwReadyAddrDataPendingNoneWrPrefetch, stNopZpRead,
  imp .opInyImpReadyNonePendingNoneDummyPrefetch, rImm .opCmpRReadyNonePendingDataFetch,
  imp .opDexImpReadyNonePendingNoneDummyPrefetch, nopImp, rAbs .opCpyRReadyNonePendingDataFetch,
  rAbs .opCmpRReadyNonePendingDataFetch, rwAbsCmos .opDecRwReadyAddrDataPendingNoneWrPrefetch,
  stNopAbsRead,
  -- 0xD0
  branchRel .opBneBranchC0OffsetPrefetch, rIzyCmos .opCmpRReadyNonePendingDataFetch,
  rIzp .opCmpRReadyNonePendingDataFetch, nop1b1c, nopZpxRead,
  rZpx .opCmpRReadyNonePendingDataFetch, rwZpxCmos .opDecRwReadyAddrDataPendingNoneWrPrefetch,
  stNopZpxRead, imp .opCldImpReadyNonePendingNoneDummyPrefetch,
  rAbyCmos .opCmpRReadyNonePendingDataFetch,
  stackPush .opCmosPhxStackPushReadyNonePendingNoneWrPrefetch, nopZpxRead, nop3b4c,
  rAbxCmos .opCmpRReadyNonePendingDataFetch, rwAbxCmos .opDecRwReadyAddrDataPendingNoneWrPrefetch,
  stNopAbsReadHighDummy,
  -- 0xE0
  rImm .opCpxRReadyNonePendingDataFetch,
  rIzxCmosDecimal .opCmosSbcRReadyAddrPendingDataFetchOrDecimalDummyPrefetchDecimalSet .opCmosSbcDecReadyNonePendingDummyFetch,
  nop2b2c, nop1b1c, rZp .opCpxRReadyNonePendingDataFetch,
  rZpCmosDecimal .opCmosSbcRReadyAddrPendingDataFetchOrDecimalDummyPrefetchDecimalSet .opCmosSbcDecReadyNonePendingDummyFetch,
  rwZpCmos .opIncRwReadyAddrDataPendingNoneWrPrefetch, stNopZpRead,
  imp .opInxImpReadyNonePendingNoneDummyPrefetch,
  rImmCmosDecimal .opCmosSbcImmReadyNonePendingDataFetchOrDecimalDummyPrefetchDecimalSet .opCmosSbcDecReadyNonePendingDummyFetch,
  imp .mcReadPcPrefetch, nop1b1c, rAbs .opCpxRReadyNonePendingDataFetch,
  rAbsCmosDecimal .opCmosSbcRReadyAddrPendingDataFetchOrDecimalDummyPrefetchDecimalSet .opCmosSbcDecReadyNonePendingDummyFetch,
  rwAbsCmos .opIncRwReadyAddrDataPendingNoneWrPrefetch, stNopAbsRead,
  -- 0xF0
  branchRel .opBeqBranchC0OffsetPrefetch,
  rIzyCmosDecimal .opCmosSbcRReadyAddrPendingDataFetchOrDecimalDummyPrefetchDecimalSet .opCmosSbcDecReadyNonePendingDummyFetch,
  rIzpWdcDecimal .opCmosSbcRReadyAddrPendingDataFetchOrDecimalDummyPrefetchDecimalSet .opCmosSbcDecReadyNonePendingDummyFetch,
  nop1b1c, nopZpxRead,
  rZpxCmosDecimal .opCmosSbcRReadyAddrPendingDataFetchOrDecimalDummyPrefetchDecimalSet .opCmosSbcDecReadyNonePendingDummyFetch,
  rwZpxCmos .opIncRwReadyAddrDataPendingNoneWrPrefetch, stNopZpxRead,
  imp .opSedImpReadyNonePendingNoneDummyPrefetch,
  rAbyCmosDecimal .opCmosSbcRReadyAddrPendingDataFetchOrDecimalDummyPrefetchDecimalSet .opCmosSbcDecReadyNonePendingDummyFetch,
  stackPull .mcLoadXUpdateNzFetch, nop1b1c, nop3b4c,
  rAbxCmosDecimal .opCmosSbcRReadyAddrPendingDataFetchOrDecimalDummyPrefetchDecimalSet .opCmosSbcDecReadyNonePendingDummyFetch,
  rwAbxCmos .opIncRwReadyAddrDataPendingNoneWrPrefetch, stNopAbsReadHighDummy]

def stServiceSlots : List Slot := [
  [.interruptResolver],
  [.mcDispatch],
  handlers [.mcInternalReset],
  handlers [
    .mcRestartReadHhff, .mcRestartReadZzhhFetch, .mcRestartReadZzhh, .mcResetStackRead,
    .mcResetStackRead, .mcResetStackRead, .mcResetVecLo, .mcResetVecHi],
  thenDispatch [.mcLatchPchResetFetch],
  thenDispatch [.mcFetch],
  thenDispatch [
    .mcReadPc, .mcStackPushPcHigh, .mcStackPushPcLow, .mcCmosNmiC3PushP, .mcNmiC4VecLo,
    .mcCmosNmiC5VecHi, .mcLatchPchNmiFetch],
  thenDispatch [
    .mcReadPc, .mcStackPushPcHigh, .mcStackPushPcLow, .mcCmosIrqC3PushP, .mcIrqC4VecLo,
    .mcCmosIrqC5VecHi, .mcLatchPchIrqFetch]]

def stBlock : List Slot := stOpcodeSlots ++ stServiceSlots

end Qe6502
