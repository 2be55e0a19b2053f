import Qe6502.ControlStore.Classes

/-!
# The WDC control-store block

`wdc_block.inc`: the opcode slots `0x00` to `0xFF` in order, then the service slots.
-/

namespace Qe6502

def wdcOpcodeSlots : List Slot := [
  -- 0x00
  brkCmos, rIzx .opOraRReadyNonePendingDataFetch, nop2b2c, nop1b1c,
  rwZpCmos .opCmosTsbRwReadyAddrDataPendingNoneWrPrefetch, rZp .opOraRReadyNonePendingDataFetch,
  rwZpCmos .opAslRwReadyAddrDataPendingNoneWrPrefetch,
  rwZpCmos .opWdcRmbSmbRwReadyAddrDataPendingNoneWrPrefetch,
  stackPush .opPhpStackPushReadyNonePendingNoneWrPrefetch, rImm .opOraRReadyNonePendingDataFetch,
  acc .opAslAccReadyNonePendingNoneDummyPrefetch, nop1b1c,
  rwAbsCmos .opCmosTsbRwReadyAddrDataPendingNoneWrPrefetch, rAbs .opOraRReadyNonePendingDataFetch,
  rwAbsCmos .opAslRwReadyAddrDataPendingNoneWrPrefetch, bbrBbsZpRel,
  -- 0x10
  branchRel .opBplBranchC0OffsetPrefetch, rIzyCmos .opOraRReadyNonePendingDataFetch,
  rIzp .opOraRReadyNonePendingDataFetch, nop1b1c,
  rwZpCmos .opCmosTrbRwReadyAddrDataPendingNoneWrPrefetch, rZpx .opOraRReadyNonePendingDataFetch,
  rwZpxCmos .opAslRwReadyAddrDataPendingNoneWrPrefetch,
  rwZpCmos .opWdcRmbSmbRwReadyAddrDataPendingNoneWrPrefetch,
  imp .opClcImpReadyNonePendingNoneDummyPrefetch, rAbyCmos .opOraRReadyNonePendingDataFetch,
  acc .opCmosIncAccReadyNonePendingNoneDummyPrefetch, nop1b1c,
  rwAbsCmos .opCmosTrbRwReadyAddrDataPendingNoneWrPrefetch,
  rAbxCmos .opOraRReadyNonePendingDataFetch, rwAbxShort .opAslRwReadyAddrDataPendingNoneWrPrefetch,
  bbrBbsZpRel,
  -- 0x20
  jsrAbs, rIzx .opAndRReadyNonePendingDataFetch, nop2b2c, nop1b1c,
  rZp .opBitRReadyNonePendingDataFetch, rZp .opAndRReadyNonePendingDataFetch,
  rwZpCmos .opRolRwReadyAddrDataPendingNoneWrPrefetch,
  rwZpCmos .opWdcRmbSmbRwReadyAddrDataPendingNoneWrPrefetch,
  stackPull .opPlpStackPullReadyNonePendingDataFetch, rImm .opAndRReadyNonePendingDataFetch,
  acc .opRolAccReadyNonePendingNoneDummyPrefetch, nop1b1c, rAbs .opBitRReadyNonePendingDataFetch,
  rAbs .opAndRReadyNonePendingDataFetch, rwAbsCmos .opRolRwReadyAddrDataPendingNoneWrPrefetch,
  bbrBbsZpRel,
  -- 0x30
  branchRel .opBmiBranchC0OffsetPrefetch, rIzyCmos .opAndRReadyNonePendingDataFetch,
  rIzp .opAndRReadyNonePendingDataFetch, nop1b1c, rZpx .opBitRReadyNonePendingDataFetch,
  rZpx .opAndRReadyNonePendingDataFetch, rwZpxCmos .opRolRwReadyAddrDataPendingNoneWrPrefetch,
  rwZpCmos .opWdcRmbSmbRwReadyAddrDataPendingNoneWrPrefetch,
  imp .opSecImpReadyNonePendingNoneDummyPrefetch, rAbyCmos .opAndRReadyNonePendingDataFetch,
  acc .opCmosDecAccReadyNonePendingNoneDummyPrefetch, nop1b1c,
  rAbxCmos .opBitRReadyNonePendingDataFetch, rAbxCmos .opAndRReadyNonePendingDataFetch,
  rwAbxShort .opRolRwReadyAddrDataPendingNoneWrPrefetch, bbrBbsZpRel,
  -- 0x40
  rti, rIzx .opEorRReadyNonePendingDataFetch, nop2b2c, nop1b1c, nopZpRead,
  rZp .opEorRReadyNonePendingDataFetch, rwZpCmos .opLsrRwReadyAddrDataPendingNoneWrPrefetch,
  rwZpCmos .opWdcRmbSmbRwReadyAddrDataPendingNoneWrPrefetch,
  stackPush .opPhaStackPushReadyNonePendingNoneWrPrefetch, rImm .opEorRReadyNonePendingDataFetch,
  acc .opLsrAccReadyNonePendingNoneDummyPrefetch, nop1b1c, jmpAbs,
  rAbs .opEorRReadyNonePendingDataFetch, rwAbsCmos .opLsrRwReadyAddrDataPendingNoneWrPrefetch,
  bbrBbsZpRel,
  -- 0x50
  branchRel .opBvcBranchC0OffsetPrefetch, rIzyCmos .opEorRReadyNonePendingDataFetch,
  rIzp .opEorRReadyNonePendingDataFetch, nop1b1c, nopZpxRead,
  rZpx .opEorRReadyNonePendingDataFetch, rwZpxCmos .opLsrRwReadyAddrDataPendingNoneWrPrefetch,
  rwZpCmos .opWdcRmbSmbRwReadyAddrDataPendingNoneWrPrefetch,
  imp .opCliImpReadyNonePendingNoneDummyPrefetch, rAbyCmos .opEorRReadyNonePendingDataFetch,
  stackPush .opCmosPhyStackPushReadyNonePendingNoneWrPrefetch, nop1b1c, nop3b4c,
  rAbxCmos .opEorRReadyNonePendingDataFetch, rwAbxShort .opLsrRwReadyAddrDataPendingNoneWrPrefetch,
  bbrBbsZpRel,
  -- 0x60
  rts,
  rIzxCmosDecimal .opCmosAdcRReadyAddrPendingDataFetchOrDecimalDummyPrefetchDecimalSet .opCmosAdcDecReadyNonePendingDummyFetch,
  nop2b2c, nop1b1c, wZp .opCmosStzWReadyNonePendingAddrloWrPrefetch,
  rZpCmosDecimal .opCmosAdcRReadyAddrPendingDataFetchOrDecimalDummyPrefetchDecimalSet .opCmosAdcDecReadyNonePendingDummyFetch,
  rwZpCmos .opRorRwReadyAddrDataPendingNoneWrPrefetch,
  rwZpCmos .opWdcRmbSmbRwReadyAddrDataPendingNoneWrPrefetch, stackPull .mcLoadAUpdateNzFetch,
  rImmCmosDecimal .opWdcAdcImmReadyNonePendingDataFetchOrDecimalDummyPrefetchDecimalSet .opCmosAdcDecReadyNonePendingDummyFetch,
  acc .opRorAccReadyNonePendingNoneDummyPrefetch, nop1b1c, jmpIndWdc,
  rAbsCmosDecimal .opCmosAdcRReadyAddrPendingDataFetchOrDecimalDummyPrefetchDecimalSet .opCmosAdcDecReadyNonePendingDummyFetch,
  rwAbsCmos .opRorRwReadyAddrDataPendingNoneWrPrefetch, bbrBbsZpRel,
  -- 0x70
  branchRel .opBvsBranchC0OffsetPrefetch,
  rIzyCmosDecimal .opCmosAdcRReadyAddrPendingDataFetchOrDecimalDummyPrefetchDecimalSet .opCmosAdcDecReadyNonePendingDummyFetch,
  rIzpWdcDecimal .opCmosAdcRReadyAddrPendingDataFetchOrDecimalDummyPrefetchDecimalSet .opCmosAdcDecReadyNonePendingDummyFetch,
  nop1b1c, wZpx .opCmosStzWReadyAddrPendingNoneWrPrefetch,
  rZpxCmosDecimal .opCmosAdcRReadyAddrPendingDataFetchOrDecimalDummyPrefetchDecimalSet .opCmosAdcDecReadyNonePendingDummyFetch,
  rwZpxCmos .opRorRwReadyAddrDataPendingNoneWrPrefetch,
  rwZpCmos .opWdcRmbSmbRwReadyAddrDataPendingNoneWrPrefetch,
  imp .opSeiImpReadyNonePendingNoneDummyPrefetch,
  rAbyCmosDecimal .opCmosAdcRReadyAddrPendingDataFetchOrDecimalDummyPrefetchDecimalSet .opCmosAdcDecReadyNonePendingDummyFetch,
  stackPull .mcLoadYUpdateNzFetch, nop1b1c, jmpIndXWdc,
  rAbxCmosDecimal .opCmosAdcRReadyAddrPendingDataFetchOrDecimalDummyPrefetchDecimalSet .opCmosAdcDecReadyNonePendingDummyFetch,
  rwAbxShort .opRorRwReadyAddrDataPendingNoneWrPrefetch, bbrBbsZpRel,
  -- 0x80
  branchRel .opCmosBraBranchC0OffsetPrefetch, wIzx .opStaWReadyAddrloPendingAddrhiWrPrefetch,
  nop2b2c, nop1b1c, wZp .opStyWReadyNonePendingAddrloWrPrefetch,
  wZp .opStaWReadyNonePendingAddrloWrPrefetch, wZp .opStxWReadyNonePendingAddrloWrPrefetch,
  rwZpCmos .opWdcRmbSmbRwReadyAddrDataPendingNoneWrPrefetch,
  imp .opDeyImpReadyNonePendingNoneDummyPrefetch, rImm .opCmosBitImmReadyNonePendingDataFetch,
  imp .opTxaImpReadyNonePendingNoneDummyPrefetch, nop1b1c,
  wAbs .opStyWReadyAddrloPendingAddrhiWrPrefetch, wAbs .opStaWReadyAddrloPendingAddrhiWrPrefetch,
  wAbs .opStxWReadyAddrloPendingAddrhiWrPrefetch, bbrBbsZpRel,
  -- 0x90
  branchRel .opBccBranchC0OffsetPrefetch, wIzyCmos .opStaWReadyAddrPendingNoneWrPrefetch,
  wIzp .opStaWReadyAddrloPendingAddrhiWrPrefetch, nop1b1c,
  wZpx .opStyWReadyAddrPendingNoneWrPrefetch, wZpx .opStaWReadyAddrPendingNoneWrPrefetch,
  wZpy .opStxWReadyAddrPendingNoneWrPrefetch,
  rwZpCmos .opWdcRmbSmbRwReadyAddrDataPendingNoneWrPrefetch,
  imp .opTyaImpReadyNonePendingNoneDummyPrefetch, wAbyCmos .opStaWReadyAddrPendingNoneWrPrefetch,
  imp .opTxsImpReadyNonePendingNoneDummyPrefetch, nop1b1c,
  wAbs .opCmosStzWReadyAddrloPendingAddrhiWrPrefetch,
  wAbxCmos .opStaWReadyAddrPendingNoneWrPrefetch,
  wAbxCmos .opCmosStzWReadyAddrPendingNoneWrPrefetch, bbrBbsZpRel,
  -- 0xA0
  rImm .mcLoadYUpdateNzFetch, rIzx .mcLoadAUpdateNzFetch, rImm .mcLoadXUpdateNzFetch, nop1b1c,
  rZp .mcLoadYUpdateNzFetch, rZp .mcLoadAUpdateNzFetch, rZp .mcLoadXUpdateNzFetch,
  rwZpCmos .opWdcRmbSmbRwReadyAddrDataPendingNoneWrPrefetch,
  imp .opTayImpReadyNonePendingNoneDummyPrefetch, rImm .mcLoadAUpdateNzFetch,
  imp .opTaxImpReadyNonePendingNoneDummyPrefetch, nop1b1c, rAbs .mcLoadYUpdateNzFetch,
  rAbs .mcLoadAUpdateNzFetch, rAbs .mcLoadXUpdateNzFetch, bbrBbsZpRel,
  -- 0xB0
  branchRel .opBcsBranchC0OffsetPrefetch, rIzyCmos .mcLoadAUpdateNzFetch,
  rIzp .mcLoadAUpdateNzFetch, nop1b1c, rZpx .mcLoadYUpdateNzFetch, rZpx .mcLoadAUpdateNzFetch,
  rZpy .mcLoadXUpdateNzFetch, rwZpCmos .opWdcRmbSmbRwReadyAddrDataPendingNoneWrPrefetch,
  imp .opClvImpReadyNonePendingNoneDummyPrefetch, rAbyCmos .mcLoadAUpdateNzFetch,
  imp .opTsxImpReadyNonePendingNoneDummyPrefetch, nop1b1c, rAbxCmos .mcLoadYUpdateNzFetch,
  rAbxCmos .mcLoadAUpdateNzFetch, rAbyCmos .mcLoadXUpdateNzFetch, bbrBbsZpRel,
  -- 0xC0
  rImm .opCpyRReadyNonePendingDataFetch, rIzx .opCmpRReadyNonePendingDataFetch, nop2b2c, nop1b1c,
  rZp .opCpyRReadyNonePendingDataFetch, rZp .opCmpRReadyNonePendingDataFetch,
  rwZpCmos .opDecRwReadyAddrDataPendingNoneWrPrefetch,
  rwZpCmos .opWdcRmbSmbRwReadyAddrDataPendingNoneWrPrefetch,
  imp .opInyImpReadyNonePendingNoneDummyPrefetch, rImm .opCmpRReadyNonePendingDataFetch,
  imp .opDexImpReadyNonePendingNoneDummyPrefetch, nopImp, rAbs .opCpyRReadyNonePendingDataFetch,
  rAbs .opCmpRReadyNonePendingDataFetch, rwAbsCmos .opDecRwReadyAddrDataPendingNoneWrPrefetch,
  bbrBbsZpRel,
  -- 0xD0
  branchRel .opBneBranchC0OffsetPrefetch, rIzyCmos .opCmpRReadyNonePendingDataFetch,
  rIzp .opCmpRReadyNonePendingDataFetch, nop1b1c, nopZpxRead,
  rZpx .opCmpRReadyNonePendingDataFetch, rwZpxCmos .opDecRwReadyAddrDataPendingNoneWrPrefetch,
  rwZpCmos .opWdcRmbSmbRwReadyAddrDataPendingNoneWrPrefetch,
  imp .opCldImpReadyNonePendingNoneDummyPrefetch, rAbyCmos .opCmpRReadyNonePendingDataFetch,
  stackPush .opCmosPhxStackPushReadyNonePendingNoneWrPrefetch, nopZpxRead, nop3b4c,
  rAbxCmos .opCmpRReadyNonePendingDataFetch, rwAbxCmos .opDecRwReadyAddrDataPendingNoneWrPrefetch,
  bbrBbsZpRel,
  -- 0xE0
  rImm .opCpxRReadyNonePendingDataFetch,
  rIzxCmosDecimal .opCmosSbcRReadyAddrPendingDataFetchOrDecimalDummyPrefetchDecimalSet .opCmosSbcDecReadyNonePendingDummyFetch,
  nop2b2c, nop1b1c, rZp .opCpxRReadyNonePendingDataFetch,
  rZpCmosDecimal .opCmosSbcRReadyAddrPendingDataFetchOrDecimalDummyPrefetchDecimalSet .opCmosSbcDecReadyNonePendingDummyFetch,
  rwZpCmos .opIncRwReadyAddrDataPendingNoneWrPrefetch,
  rwZpCmos .opWdcRmbSmbRwReadyAddrDataPendingNoneWrPrefetch,
  imp .opInxImpReadyNonePendingNoneDummyPrefetch,
  rImmCmosDecimal .opCmosSbcImmReadyNonePendingDataFetchOrDecimalDummyPrefetchDecimalSet .opCmosSbcDecReadyNonePendingDummyFetch,
  imp .mcReadPcPrefetch, nop1b1c, rAbs .opCpxRReadyNonePendingDataFetch,
  rAbsCmosDecimal .opCmosSbcRReadyAddrPendingDataFetchOrDecimalDummyPrefetchDecimalSet .opCmosSbcDecReadyNonePendingDummyFetch,
  rwAbsCmos .opIncRwReadyAddrDataPendingNoneWrPrefetch, bbrBbsZpRel,
  -- 0xF0
  branchRel .opBeqBranchC0OffsetPrefetch,
  rIzyCmosDecimal .opCmosSbcRReadyAddrPendingDataFetchOrDecimalDummyPrefetchDecimalSet .opCmosSbcDecReadyNonePendingDummyFetch,
  rIzpWdcDecimal .opCmosSbcRReadyAddrPendingDataFetchOrDecimalDummyPrefetchDecimalSet .opCmosSbcDecReadyNonePendingDummyFetch,
  nop1b1c, nopZpxRead,
  rZpxCmosDecimal .opCmosSbcRReadyAddrPendingDataFetchOrDecimalDummyPrefetchDecimalSet .opCmosSbcDecReadyNonePendingDummyFetch,
  rwZpxCmos .opIncRwReadyAddrDataPendingNoneWrPrefetch,
  rwZpCmos .opWdcRmbSmbRwReadyAddrDataPendingNoneWrPrefetch,
  imp .opSedImpReadyNonePendingNoneDummyPrefetch,
  rAbyCmosDecimal .opCmosSbcRReadyAddrPendingDataFetchOrDecimalDummyPrefetchDecimalSet .opCmosSbcDecReadyNonePendingDummyFetch,
  stackPull .mcLoadXUpdateNzFetch, nop1b1c, nop3b4c,
  rAbxCmosDecimal .opCmosSbcRReadyAddrPendingDataFetchOrDecimalDummyPrefetchDecimalSet .opCmosSbcDecReadyNonePendingDummyFetch,
  rwAbxCmos .opIncRwReadyAddrDataPendingNoneWrPrefetch, bbrBbsZpRel]

def wdcServiceSlots : List Slot := [
  [.interruptResolver],
  [.mcDispatch],
  handlers [.mcInternalReset],
  handlers [
    .mcRestartReadHhff, .mcRestartReadZzhhFetch, .mcRestartReadZzhh, .mcResetStackRead,
    .mcResetStackRead, .mcResetStackRead, .mcResetVecLo, .mcResetVecHi],
  thenDispatch [.mcLatchPchResetFetch],
  thenDispatch [.mcFetch],
  thenDispatch [
    .mcReadPc, .mcStackPushPcHigh, .mcStackPushPcLow, .mcCmosNmiC3PushP, .mcNmiC4VecLo,
    .mcCmosNmiC5VecHi, .mcLatchPchNmiFetch],
  thenDispatch [
    .mcReadPc, .mcStackPushPcHigh, .mcStackPushPcLow, .mcCmosIrqC3PushP, .mcIrqC4VecLo,
    .mcCmosIrqC5VecHi, .mcLatchPchIrqFetch]]

def wdcBlock : List Slot := wdcOpcodeSlots ++ wdcServiceSlots

end Qe6502
