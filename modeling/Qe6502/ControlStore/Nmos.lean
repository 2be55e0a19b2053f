import Qe6502.ControlStore.Classes

/-!
# The NMOS control-store block

`nmos_block.inc`: the opcode slots `0x00` to `0xFF` in order, then the service slots.
-/

namespace Qe6502

def nmosOpcodeSlots : List Slot := [
  -- 0x00
  brk, rIzx .opOraRReadyNonePendingDataFetch, kilJam,
  rwIzx .opSloRwReadyAddrDataPendingNoneWrPrefetch, nopZpRead,
  rZp .opOraRReadyNonePendingDataFetch, rwZp .opAslRwReadyAddrDataPendingNoneWrPrefetch,
  rwZp .opSloRwReadyAddrDataPendingNoneWrPrefetch,
  stackPush .opPhpStackPushReadyNonePendingNoneWrPrefetch, rImm .opOraRReadyNonePendingDataFetch,
  acc .opAslAccReadyNonePendingNoneDummyPrefetch, rImm .opAncRReadyNonePendingDataFetch,
  nopAbsRead, rAbs .opOraRReadyNonePendingDataFetch,
  rwAbs .opAslRwReadyAddrDataPendingNoneWrPrefetch,
  rwAbs .opSloRwReadyAddrDataPendingNoneWrPrefetch,
  -- 0x10
  branchRel .opBplBranchC0OffsetPrefetch, rIzy .opOraRReadyNonePendingDataFetch, kilJam,
  rwIzy .opSloRwReadyAddrDataPendingNoneWrPrefetch, nopZpxRead,
  rZpx .opOraRReadyNonePendingDataFetch, rwZpx .opAslRwReadyAddrDataPendingNoneWrPrefetch,
  rwZpx .opSloRwReadyAddrDataPendingNoneWrPrefetch, imp .opClcImpReadyNonePendingNoneDummyPrefetch,
  rAby .opOraRReadyNonePendingDataFetch, nopImp, rwAby .opSloRwReadyAddrDataPendingNoneWrPrefetch,
  nopAbxRead, rAbx .opOraRReadyNonePendingDataFetch,
  rwAbx .opAslRwReadyAddrDataPendingNoneWrPrefetch,
  rwAbx .opSloRwReadyAddrDataPendingNoneWrPrefetch,
  -- 0x20
  jsrAbs, rIzx .opAndRReadyNonePendingDataFetch, kilJam,
  rwIzx .opRlaRwReadyAddrDataPendingNoneWrPrefetch, rZp .opBitRReadyNonePendingDataFetch,
  rZp .opAndRReadyNonePendingDataFetch, rwZp .opRolRwReadyAddrDataPendingNoneWrPrefetch,
  rwZp .opRlaRwReadyAddrDataPendingNoneWrPrefetch,
  stackPull .opPlpStackPullReadyNonePendingDataFetch, rImm .opAndRReadyNonePendingDataFetch,
  acc .opRolAccReadyNonePendingNoneDummyPrefetch, rImm .opAncRReadyNonePendingDataFetch,
  rAbs .opBitRReadyNonePendingDataFetch, rAbs .opAndRReadyNonePendingDataFetch,
  rwAbs .opRolRwReadyAddrDataPendingNoneWrPrefetch,
  rwAbs .opRlaRwReadyAddrDataPendingNoneWrPrefetch,
  -- 0x30
  branchRel .opBmiBranchC0OffsetPrefetch, rIzy .opAndRReadyNonePendingDataFetch, kilJam,
  rwIzy .opRlaRwReadyAddrDataPendingNoneWrPrefetch, nopZpxRead,
  rZpx .opAndRReadyNonePendingDataFetch, rwZpx .opRolRwReadyAddrDataPendingNoneWrPrefetch,
  rwZpx .opRlaRwReadyAddrDataPendingNoneWrPrefetch, imp .opSecImpReadyNonePendingNoneDummyPrefetch,
  rAby .opAndRReadyNonePendingDataFetch, nopImp, rwAby .opRlaRwReadyAddrDataPendingNoneWrPrefetch,
  nopAbxRead, rAbx .opAndRReadyNonePendingDataFetch,
  rwAbx .opRolRwReadyAddrDataPendingNoneWrPrefetch,
  rwAbx .opRlaRwReadyAddrDataPendingNoneWrPrefetch,
  -- 0x40
  rti, rIzx .opEorRReadyNonePendingDataFetch, kilJam,
  rwIzx .opSreRwReadyAddrDataPendingNoneWrPrefetch, nopZpRead,
  rZp .opEorRReadyNonePendingDataFetch, rwZp .opLsrRwReadyAddrDataPendingNoneWrPrefetch,
  rwZp .opSreRwReadyAddrDataPendingNoneWrPrefetch,
  stackPush .opPhaStackPushReadyNonePendingNoneWrPrefetch, rImm .opEorRReadyNonePendingDataFetch,
  acc .opLsrAccReadyNonePendingNoneDummyPrefetch, rImm .opAlrRReadyNonePendingDataFetch, jmpAbs,
  rAbs .opEorRReadyNonePendingDataFetch, rwAbs .opLsrRwReadyAddrDataPendingNoneWrPrefetch,
  rwAbs .opSreRwReadyAddrDataPendingNoneWrPrefetch,
  -- 0x50
  branchRel .opBvcBranchC0OffsetPrefetch, rIzy .opEorRReadyNonePendingDataFetch, kilJam,
  rwIzy .opSreRwReadyAddrDataPendingNoneWrPrefetch, nopZpxRead,
  rZpx .opEorRReadyNonePendingDataFetch, rwZpx .opLsrRwReadyAddrDataPendingNoneWrPrefetch,
  rwZpx .opSreRwReadyAddrDataPendingNoneWrPrefetch, imp .opCliImpReadyNonePendingNoneDummyPrefetch,
  rAby .opEorRReadyNonePendingDataFetch, nopImp, rwAby .opSreRwReadyAddrDataPendingNoneWrPrefetch,
  nopAbxRead, rAbx .opEorRReadyNonePendingDataFetch,
  rwAbx .opLsrRwReadyAddrDataPendingNoneWrPrefetch,
  rwAbx .opSreRwReadyAddrDataPendingNoneWrPrefetch,
  -- 0x60
  rts, rIzx .opAdcRReadyNonePendingDataFetch, kilJam,
  rwIzx .opRraRwReadyAddrDataPendingNoneWrPrefetch, nopZpRead,
  rZp .opAdcRReadyNonePendingDataFetch, rwZp .opRorRwReadyAddrDataPendingNoneWrPrefetch,
  rwZp .opRraRwReadyAddrDataPendingNoneWrPrefetch, stackPull .mcLoadAUpdateNzFetch,
  rImm .opAdcRReadyNonePendingDataFetch, acc .opRorAccReadyNonePendingNoneDummyPrefetch,
  rImm .opArrRReadyNonePendingDataFetch, jmpInd, rAbs .opAdcRReadyNonePendingDataFetch,
  rwAbs .opRorRwReadyAddrDataPendingNoneWrPrefetch,
  rwAbs .opRraRwReadyAddrDataPendingNoneWrPrefetch,
  -- 0x70
  branchRel .opBvsBranchC0OffsetPrefetch, rIzy .opAdcRReadyNonePendingDataFetch, kilJam,
  rwIzy .opRraRwReadyAddrDataPendingNoneWrPrefetch, nopZpxRead,
  rZpx .opAdcRReadyNonePendingDataFetch, rwZpx .opRorRwReadyAddrDataPendingNoneWrPrefetch,
  rwZpx .opRraRwReadyAddrDataPendingNoneWrPrefetch, imp .opSeiImpReadyNonePendingNoneDummyPrefetch,
  rAby .opAdcRReadyNonePendingDataFetch, nopImp, rwAby .opRraRwReadyAddrDataPendingNoneWrPrefetch,
  nopAbxRead, rAbx .opAdcRReadyNonePendingDataFetch,
  rwAbx .opRorRwReadyAddrDataPendingNoneWrPrefetch,
  rwAbx .opRraRwReadyAddrDataPendingNoneWrPrefetch,
  -- 0x80
  nopImm, wIzx .opStaWReadyAddrloPendingAddrhiWrPrefetch, nopImm,
  wIzx .opSaxWReadyAddrloPendingAddrhiWrPrefetch, wZp .opStyWReadyNonePendingAddrloWrPrefetch,
  wZp .opStaWReadyNonePendingAddrloWrPrefetch, wZp .opStxWReadyNonePendingAddrloWrPrefetch,
  wZp .opSaxWReadyNonePendingAddrloWrPrefetch, imp .opDeyImpReadyNonePendingNoneDummyPrefetch,
  nopImm, imp .opTxaImpReadyNonePendingNoneDummyPrefetch, rImm .opXaaRReadyNonePendingDataFetch,
  wAbs .opStyWReadyAddrloPendingAddrhiWrPrefetch, wAbs .opStaWReadyAddrloPendingAddrhiWrPrefetch,
  wAbs .opStxWReadyAddrloPendingAddrhiWrPrefetch, wAbs .opSaxWReadyAddrloPendingAddrhiWrPrefetch,
  -- 0x90
  branchRel .opBccBranchC0OffsetPrefetch, wIzy .opStaWReadyAddrPendingNoneWrPrefetch, kilJam,
  unstableWIzy .opAhxUnstableWReadyAddrPendingNoneWrPrefetch,
  wZpx .opStyWReadyAddrPendingNoneWrPrefetch, wZpx .opStaWReadyAddrPendingNoneWrPrefetch,
  wZpy .opStxWReadyAddrPendingNoneWrPrefetch, wZpy .opSaxWReadyAddrPendingNoneWrPrefetch,
  imp .opTyaImpReadyNonePendingNoneDummyPrefetch, wAby .opStaWReadyAddrPendingNoneWrPrefetch,
  imp .opTxsImpReadyNonePendingNoneDummyPrefetch,
  unstableWAby .opTasUnstableWReadyAddrPendingNoneWrPrefetch,
  unstableWAbx .opShyUnstableWReadyAddrPendingNoneWrPrefetch,
  wAbx .opStaWReadyAddrPendingNoneWrPrefetch,
  unstableWAby .opShxUnstableWReadyAddrPendingNoneWrPrefetch,
  unstableWAby .opAhxUnstableWReadyAddrPendingNoneWrPrefetch,
  -- 0xA0
  rImm .mcLoadYUpdateNzFetch, rIzx .mcLoadAUpdateNzFetch, rImm .mcLoadXUpdateNzFetch,
  rIzx .opLaxRReadyNonePendingDataFetch, rZp .mcLoadYUpdateNzFetch, rZp .mcLoadAUpdateNzFetch,
  rZp .mcLoadXUpdateNzFetch, rZp .opLaxRReadyNonePendingDataFetch,
  imp .opTayImpReadyNonePendingNoneDummyPrefetch, rImm .mcLoadAUpdateNzFetch,
  imp .opTaxImpReadyNonePendingNoneDummyPrefetch, rImm .opLxaRReadyNonePendingDataFetch,
  rAbs .mcLoadYUpdateNzFetch, rAbs .mcLoadAUpdateNzFetch, rAbs .mcLoadXUpdateNzFetch,
  rAbs .opLaxRReadyNonePendingDataFetch,
  -- 0xB0
  branchRel .opBcsBranchC0OffsetPrefetch, rIzy .mcLoadAUpdateNzFetch, kilJam,
  rIzy .opLaxRReadyNonePendingDataFetch, rZpx .mcLoadYUpdateNzFetch, rZpx .mcLoadAUpdateNzFetch,
  rZpy .mcLoadXUpdateNzFetch, rZpy .opLaxRReadyNonePendingDataFetch,
  imp .opClvImpReadyNonePendingNoneDummyPrefetch, rAby .mcLoadAUpdateNzFetch,
  imp .opTsxImpReadyNonePendingNoneDummyPrefetch, rAby .opLasRReadyNonePendingDataFetch,
  rAbx .mcLoadYUpdateNzFetch, rAbx .mcLoadAUpdateNzFetch, rAby .mcLoadXUpdateNzFetch,
  rAby .opLaxRReadyNonePendingDataFetch,
  -- 0xC0
  rImm .opCpyRReadyNonePendingDataFetch, rIzx .opCmpRReadyNonePendingDataFetch, nopImm,
  rwIzx .opDcpRwReadyAddrDataPendingNoneWrPrefetch, rZp .opCpyRReadyNonePendingDataFetch,
  rZp .opCmpRReadyNonePendingDataFetch, rwZp .opDecRwReadyAddrDataPendingNoneWrPrefetch,
  rwZp .opDcpRwReadyAddrDataPendingNoneWrPrefetch, imp .opInyImpReadyNonePendingNoneDummyPrefetch,
  rImm .opCmpRReadyNonePendingDataFetch, imp .opDexImpReadyNonePendingNoneDummyPrefetch,
  rImm .opAxsRReadyNonePendingDataFetch, rAbs .opCpyRReadyNonePendingDataFetch,
  rAbs .opCmpRReadyNonePendingDataFetch, rwAbs .opDecRwReadyAddrDataPendingNoneWrPrefetch,
  rwAbs .opDcpRwReadyAddrDataPendingNoneWrPrefetch,
  -- 0xD0
  branchRel .opBneBranchC0OffsetPrefetch, rIzy .opCmpRReadyNonePendingDataFetch, kilJam,
  rwIzy .opDcpRwReadyAddrDataPendingNoneWrPrefetch, nopZpxRead,
  rZpx .opCmpRReadyNonePendingDataFetch, rwZpx .opDecRwReadyAddrDataPendingNoneWrPrefetch,
  rwZpx .opDcpRwReadyAddrDataPendingNoneWrPrefetch, imp .opCldImpReadyNonePendingNoneDummyPrefetch,
  rAby .opCmpRReadyNonePendingDataFetch, nopImp, rwAby .opDcpRwReadyAddrDataPendingNoneWrPrefetch,
  nopAbxRead, rAbx .opCmpRReadyNonePendingDataFetch,
  rwAbx .opDecRwReadyAddrDataPendingNoneWrPrefetch,
  rwAbx .opDcpRwReadyAddrDataPendingNoneWrPrefetch,
  -- 0xE0
  rImm .opCpxRReadyNonePendingDataFetch, rIzx .opSbcRReadyNonePendingDataFetch, nopImm,
  rwIzx .opIscRwReadyAddrDataPendingNoneWrPrefetch, rZp .opCpxRReadyNonePendingDataFetch,
  rZp .opSbcRReadyNonePendingDataFetch, rwZp .opIncRwReadyAddrDataPendingNoneWrPrefetch,
  rwZp .opIscRwReadyAddrDataPendingNoneWrPrefetch, imp .opInxImpReadyNonePendingNoneDummyPrefetch,
  rImm .opSbcRReadyNonePendingDataFetch, imp .mcReadPcPrefetch,
  rImm .opSbcRReadyNonePendingDataFetch, rAbs .opCpxRReadyNonePendingDataFetch,
  rAbs .opSbcRReadyNonePendingDataFetch, rwAbs .opIncRwReadyAddrDataPendingNoneWrPrefetch,
  rwAbs .opIscRwReadyAddrDataPendingNoneWrPrefetch,
  -- 0xF0
  branchRel .opBeqBranchC0OffsetPrefetch, rIzy .opSbcRReadyNonePendingDataFetch, kilJam,
  rwIzy .opIscRwReadyAddrDataPendingNoneWrPrefetch, nopZpxRead,
  rZpx .opSbcRReadyNonePendingDataFetch, rwZpx .opIncRwReadyAddrDataPendingNoneWrPrefetch,
  rwZpx .opIscRwReadyAddrDataPendingNoneWrPrefetch, imp .opSedImpReadyNonePendingNoneDummyPrefetch,
  rAby .opSbcRReadyNonePendingDataFetch, nopImp, rwAby .opIscRwReadyAddrDataPendingNoneWrPrefetch,
  nopAbxRead, rAbx .opSbcRReadyNonePendingDataFetch,
  rwAbx .opIncRwReadyAddrDataPendingNoneWrPrefetch,
  rwAbx .opIscRwReadyAddrDataPendingNoneWrPrefetch]

def nmosServiceSlots : List Slot := [
  [.interruptResolver],
  [.mcDispatch],
  handlers [.mcInternalReset],
  handlers [
    .mcRestartReadHhff, .mcRestartReadZzhhFetch, .mcRestartReadZzhh, .mcResetStackRead,
    .mcResetStackRead, .mcResetStackRead, .mcResetVecLo, .mcResetVecHi],
  thenDispatch [.mcLatchPchResetFetch],
  thenDispatch [.mcFetch],
  thenDispatch [
    .mcReadPc, .mcStackPushPcHigh, .mcStackPushPcLow, .mcNmiC3PushP, .mcNmiC4VecLo,
    .mcNmosNmiC5VecHi, .mcLatchPchNmiFetch],
  thenDispatch [
    .mcReadPc, .mcStackPushPcHigh, .mcStackPushPcLow, .mcIrqC3PushP, .mcIrqC4VecLo,
    .mcNmosIrqC5VecHi, .mcLatchPchIrqFetch]]

def nmosBlock : List Slot := nmosOpcodeSlots ++ nmosServiceSlots

end Qe6502
