import Qe6502.Handlers.Operation

/-!
# The microcode handlers as data

A function pointer of the control store is one of the handlers below, the dispatcher or the
interrupt resolver.  The last two call back into the control store, so they are entries of
their own; `Handler.run` is the call of any other function pointer.
-/

namespace Qe6502

inductive Handler
  | mcKilJamReadFfff
  | mcReadFffe
  | opKilJamRFfffPendingDataLoop
  | mcFetch
  | mcFetchIllegalExtDispatch
  | mcReadPcInc
  | mcReadPc
  | mcClearLatchAddrReadPcInc
  | mcClearLatchAddrReadPc
  | mcReadLatchAddr
  | mcLatchDataWriteLatchAddr
  | mcReadStackCurrentS
  | mcStackPullRead
  | mcInternalReset
  | mcRestartReadHhff
  | mcRestartReadZzhhFetch
  | mcRestartReadZzhh
  | mcResetStackRead
  | mcResetVecLo
  | mcResetVecHi
  | mcLatchPchResetFetch
  | mcLatchPchNmiFetch
  | mcLatchPchIrqFetch
  | mcLatchPchBrkFetch
  | mcLatchPchRtiFetch
  | mcBranchRelC1Apply
  | mcBranchPgfixPrefetch
  | mcWdcBbrBbsC4Apply
  | mcStackPushPcHigh
  | mcStackPushPcLow
  | mcStackPushStatusB
  | mcCmosStackPushStatusB
  | mcBrkC5VecHi
  | mcCmosBrkC5VecHi
  | mcNmiC3PushP
  | mcIrqC3PushP
  | mcCmosNmiC3PushP
  | mcCmosIrqC3PushP
  | mcNmiC4VecLo
  | mcNmosNmiC5VecHi
  | mcCmosNmiC5VecHi
  | mcIrqC4VecLo
  | mcNmosIrqC5VecHi
  | mcCmosIrqC5VecHi
  | mcLatchAddr0ReadPcInc
  | mcLatchAddr1SetPcFetch
  | mcJmpIndC2TargetLo
  | mcLatchDataReadLatchAddr
  | mcJmpIndC4Fetch
  | mcCmosJmpIndXC2Dummy
  | mcCmosJmpIndXC3TargetLo
  | mcJsrAbsC1Dummy
  | mcLatchAddr1ReadLatchAddr
  | mcLatchAbxBaseReadPcInc
  | mcCmosLatchAbxBaseReadPc
  | mcLatchAbyBaseReadPcInc
  | mcCmosLatchAbyBaseReadPc
  | mcCmosRIndexedProbe
  | mcCmosWIndexedProbe
  | mcRIzxC1Idx
  | mcIzxReadPtrloIncPtr
  | mcIzpC2Ptrhi
  | mcRIzxC4Data
  | mcLatchAddr0ReadLatchAddr
  | mcRIzyC2Ptrhi
  | mcLatchZpAddrReadLatchAddr
  | mcZpxC1Idx
  | mcRZpyC1Idx
  | mcRtiC3PullPcl
  | mcLatchPclStackRead
  | mcRwAbxC1Hi
  | mcWIndexedProbe
  | mcUnstableStoreIndexedProbePreserveBaseHigh
  | mcReadZpLatchX
  | mcWIzxC3Ptrhi
  | mcWIzyC2Ptrhi
  | mcWZpyC1Idx
  | opAdcRReadyNonePendingDataFetch
  | opNesAdcRReadyNonePendingDataFetch
  | opCmosAdcDecReadyNonePendingDummyFetch
  | opAndRReadyNonePendingDataFetch
  | opAncRReadyNonePendingDataFetch
  | opAlrRReadyNonePendingDataFetch
  | opArrRReadyNonePendingDataFetch
  | opNesArrRReadyNonePendingDataFetch
  | opAxsRReadyNonePendingDataFetch
  | opXaaRReadyNonePendingDataFetch
  | opLxaRReadyNonePendingDataFetch
  | opBitRReadyNonePendingDataFetch
  | opCmosBitImmReadyNonePendingDataFetch
  | opCmpRReadyNonePendingDataFetch
  | opCpxRReadyNonePendingDataFetch
  | opCpyRReadyNonePendingDataFetch
  | opEorRReadyNonePendingDataFetch
  | mcLoadAUpdateNzFetch
  | opLaxRReadyNonePendingDataFetch
  | opLasRReadyNonePendingDataFetch
  | mcLoadXUpdateNzFetch
  | mcLoadYUpdateNzFetch
  | opOraRReadyNonePendingDataFetch
  | opPlpStackPullReadyNonePendingDataFetch
  | opSbcRReadyNonePendingDataFetch
  | opNesSbcRReadyNonePendingDataFetch
  | opCmosSbcDecReadyNonePendingDummyFetch
  | mcCmosJmpIndC4TargetHiRetryPrefetch
  | mcCmosRIndexedProbePrefetchNoPageCrossDecimalClear
  | mcCmosRIndexedProbeNoLatchPrefetchNoPageCross
  | mcLatchAddr0ReadPcIncPrefetch
  | mcLatchAddr1ReadLatchAddrPrefetchDecimalClear
  | mcLatchDataReadLatchAddrPrefetch
  | mcLatchPclStackReadPrefetch
  | mcLatchZpAddrReadLatchAddrPrefetchDecimalClear
  | mcRIndexedProbeNoLatchPrefetchNoPageCross
  | mcRIzxC4DataPrefetchDecimalClear
  | mcRIzxC4DataNoLatchPrefetch
  | mcRZpC1DataPrefetch
  | mcReadAddrWithBusHiPrefetch
  | mcReadLatchAddrPrefetch
  | mcReadLatchAddrPrefetchDecimalClear
  | mcReadPcPrefetch
  | mcReadPcIncPrefetch
  | mcReadPcIncPrefetchDecimalClear
  | mcReadPcMinusOnePrefetch
  | mcRtsC4IncPcDummyPrefetch
  | mcStackPullReadPrefetch
  | mcWdcBbrBbsC3OffsetOrSkipPrefetch
  | opAhxUnstableWReadyAddrPendingNoneWrPrefetch
  | opAslAccReadyNonePendingNoneDummyPrefetch
  | opAslRwReadyAddrDataPendingNoneWrPrefetch
  | opBccBranchC0OffsetPrefetch
  | opBcsBranchC0OffsetPrefetch
  | opBeqBranchC0OffsetPrefetch
  | opBmiBranchC0OffsetPrefetch
  | opBneBranchC0OffsetPrefetch
  | opBplBranchC0OffsetPrefetch
  | opBvcBranchC0OffsetPrefetch
  | opBvsBranchC0OffsetPrefetch
  | opClcImpReadyNonePendingNoneDummyPrefetch
  | opCldImpReadyNonePendingNoneDummyPrefetch
  | opCliImpReadyNonePendingNoneDummyPrefetch
  | opClvImpReadyNonePendingNoneDummyPrefetch
  | opCmosAdcRReadyAddrPendingDataFetchOrDecimalDummyPrefetchDecimalSet
  | opCmosBraBranchC0OffsetPrefetch
  | opCmosDecAccReadyNonePendingNoneDummyPrefetch
  | opCmosIncAccReadyNonePendingNoneDummyPrefetch
  | opCmosPhxStackPushReadyNonePendingNoneWrPrefetch
  | opCmosPhyStackPushReadyNonePendingNoneWrPrefetch
  | opCmosSbcImmReadyNonePendingDataFetchOrDecimalDummyPrefetchDecimalSet
  | opCmosSbcRReadyAddrPendingDataFetchOrDecimalDummyPrefetchDecimalSet
  | opCmosStzWReadyAddrPendingNoneWrPrefetch
  | opCmosStzWReadyAddrloPendingAddrhiWrPrefetch
  | opCmosStzWReadyNonePendingAddrloWrPrefetch
  | opCmosTrbRwReadyAddrDataPendingNoneWrPrefetch
  | opCmosTsbRwReadyAddrDataPendingNoneWrPrefetch
  | opDcpRwReadyAddrDataPendingNoneWrPrefetch
  | opDecRwReadyAddrDataPendingNoneWrPrefetch
  | opDexImpReadyNonePendingNoneDummyPrefetch
  | opDeyImpReadyNonePendingNoneDummyPrefetch
  | opIncRwReadyAddrDataPendingNoneWrPrefetch
  | opInxImpReadyNonePendingNoneDummyPrefetch
  | opInyImpReadyNonePendingNoneDummyPrefetch
  | opIscRwReadyAddrDataPendingNoneWrPrefetch
  | opLsrAccReadyNonePendingNoneDummyPrefetch
  | opLsrRwReadyAddrDataPendingNoneWrPrefetch
  | mcNesIscRwReadyAddrDataPendingNoneWrPrefetch
  | opNesRraRwReadyAddrDataPendingNoneWrPrefetch
  | opPhaStackPushReadyNonePendingNoneWrPrefetch
  | opPhpStackPushReadyNonePendingNoneWrPrefetch
  | opRlaRwReadyAddrDataPendingNoneWrPrefetch
  | opRolAccReadyNonePendingNoneDummyPrefetch
  | opRolRwReadyAddrDataPendingNoneWrPrefetch
  | opRorAccReadyNonePendingNoneDummyPrefetch
  | opRorRwReadyAddrDataPendingNoneWrPrefetch
  | opRraRwReadyAddrDataPendingNoneWrPrefetch
  | opRwAdcImmReadyNonePendingDataFetchOrDecimalDummyPrefetchDecimalSet
  | opSaxWReadyAddrPendingNoneWrPrefetch
  | opSaxWReadyAddrloPendingAddrhiWrPrefetch
  | opSaxWReadyNonePendingAddrloWrPrefetch
  | opSecImpReadyNonePendingNoneDummyPrefetch
  | opSedImpReadyNonePendingNoneDummyPrefetch
  | opSeiImpReadyNonePendingNoneDummyPrefetch
  | opShxUnstableWReadyAddrPendingNoneWrPrefetch
  | opShyUnstableWReadyAddrPendingNoneWrPrefetch
  | opSloRwReadyAddrDataPendingNoneWrPrefetch
  | opSreRwReadyAddrDataPendingNoneWrPrefetch
  | opStAdcImmReadyNonePendingDataFetchOrDecimalDummyPrefetchDecimalSet
  | opStaWReadyAddrPendingNoneWrPrefetch
  | opStaWReadyAddrloPendingAddrhiWrPrefetch
  | opStaWReadyNonePendingAddrloWrPrefetch
  | opStxWReadyAddrPendingNoneWrPrefetch
  | opStxWReadyAddrloPendingAddrhiWrPrefetch
  | opStxWReadyNonePendingAddrloWrPrefetch
  | opStyWReadyAddrPendingNoneWrPrefetch
  | opStyWReadyAddrloPendingAddrhiWrPrefetch
  | opStyWReadyNonePendingAddrloWrPrefetch
  | opTasUnstableWReadyAddrPendingNoneWrPrefetch
  | opTaxImpReadyNonePendingNoneDummyPrefetch
  | opTayImpReadyNonePendingNoneDummyPrefetch
  | opTsxImpReadyNonePendingNoneDummyPrefetch
  | opTxaImpReadyNonePendingNoneDummyPrefetch
  | opTxsImpReadyNonePendingNoneDummyPrefetch
  | opTyaImpReadyNonePendingNoneDummyPrefetch
  | opWdcAdcImmReadyNonePendingDataFetchOrDecimalDummyPrefetchDecimalSet
  | opWdcRmbSmbRwReadyAddrDataPendingNoneWrPrefetch
deriving DecidableEq

/-- Calls the handler. -/
def Handler.run : Handler → Cpu → Byte → Cpu × Tick
  | .mcKilJamReadFfff => Qe6502.mcKilJamReadFfff
  | .mcReadFffe => Qe6502.mcReadFffe
  | .opKilJamRFfffPendingDataLoop => Qe6502.opKilJamRFfffPendingDataLoop
  | .mcFetch => Qe6502.mcFetch
  | .mcFetchIllegalExtDispatch => Qe6502.mcFetchIllegalExtDispatch
  | .mcReadPcInc => Qe6502.mcReadPcInc
  | .mcReadPc => Qe6502.mcReadPc
  | .mcClearLatchAddrReadPcInc => Qe6502.mcClearLatchAddrReadPcInc
  | .mcClearLatchAddrReadPc => Qe6502.mcClearLatchAddrReadPc
  | .mcReadLatchAddr => Qe6502.mcReadLatchAddr
  | .mcLatchDataWriteLatchAddr => Qe6502.mcLatchDataWriteLatchAddr
  | .mcReadStackCurrentS => Qe6502.mcReadStackCurrentS
  | .mcStackPullRead => Qe6502.mcStackPullRead
  | .mcInternalReset => Qe6502.mcInternalReset
  | .mcRestartReadHhff => Qe6502.mcRestartReadHhff
  | .mcRestartReadZzhhFetch => Qe6502.mcRestartReadZzhhFetch
  | .mcRestartReadZzhh => Qe6502.mcRestartReadZzhh
  | .mcResetStackRead => Qe6502.mcResetStackRead
  | .mcResetVecLo => Qe6502.mcResetVecLo
  | .mcResetVecHi => Qe6502.mcResetVecHi
  | .mcLatchPchResetFetch => Qe6502.mcLatchPchResetFetch
  | .mcLatchPchNmiFetch => Qe6502.mcLatchPchNmiFetch
  | .mcLatchPchIrqFetch => Qe6502.mcLatchPchIrqFetch
  | .mcLatchPchBrkFetch => Qe6502.mcLatchPchBrkFetch
  | .mcLatchPchRtiFetch => Qe6502.mcLatchPchRtiFetch
  | .mcBranchRelC1Apply => Qe6502.mcBranchRelC1Apply
  | .mcBranchPgfixPrefetch => Qe6502.mcBranchPgfixPrefetch
  | .mcWdcBbrBbsC4Apply => Qe6502.mcWdcBbrBbsC4Apply
  | .mcStackPushPcHigh => Qe6502.mcStackPushPcHigh
  | .mcStackPushPcLow => Qe6502.mcStackPushPcLow
  | .mcStackPushStatusB => Qe6502.mcStackPushStatusB
  | .mcCmosStackPushStatusB => Qe6502.mcCmosStackPushStatusB
  | .mcBrkC5VecHi => Qe6502.mcBrkC5VecHi
  | .mcCmosBrkC5VecHi => Qe6502.mcCmosBrkC5VecHi
  | .mcNmiC3PushP => Qe6502.mcNmiC3PushP
  | .mcIrqC3PushP => Qe6502.mcIrqC3PushP
  | .mcCmosNmiC3PushP => Qe6502.mcCmosNmiC3PushP
  | .mcCmosIrqC3PushP => Qe6502.mcCmosIrqC3PushP
  | .mcNmiC4VecLo => Qe6502.mcNmiC4VecLo
  | .mcNmosNmiC5VecHi => Qe6502.mcNmosNmiC5VecHi
  | .mcCmosNmiC5VecHi => Qe6502.mcCmosNmiC5VecHi
  | .mcIrqC4VecLo => Qe6502.mcIrqC4VecLo
  | .mcNmosIrqC5VecHi => Qe6502.mcNmosIrqC5VecHi
  | .mcCmosIrqC5VecHi => Qe6502.mcCmosIrqC5VecHi
  | .mcLatchAddr0ReadPcInc => Qe6502.mcLatchAddr0ReadPcInc
  | .mcLatchAddr1SetPcFetch => Qe6502.mcLatchAddr1SetPcFetch
  | .mcJmpIndC2TargetLo => Qe6502.mcJmpIndC2TargetLo
  | .mcLatchDataReadLatchAddr => Qe6502.mcLatchDataReadLatchAddr
  | .mcJmpIndC4Fetch => Qe6502.mcJmpIndC4Fetch
  | .mcCmosJmpIndXC2Dummy => Qe6502.mcCmosJmpIndXC2Dummy
  | .mcCmosJmpIndXC3TargetLo => Qe6502.mcCmosJmpIndXC3TargetLo
  | .mcJsrAbsC1Dummy => Qe6502.mcJsrAbsC1Dummy
  | .mcLatchAddr1ReadLatchAddr => Qe6502.mcLatchAddr1ReadLatchAddr
  | .mcLatchAbxBaseReadPcInc => Qe6502.mcLatchAbxBaseReadPcInc
  | .mcCmosLatchAbxBaseReadPc => Qe6502.mcCmosLatchAbxBaseReadPc
  | .mcLatchAbyBaseReadPcInc => Qe6502.mcLatchAbyBaseReadPcInc
  | .mcCmosLatchAbyBaseReadPc => Qe6502.mcCmosLatchAbyBaseReadPc
  | .mcCmosRIndexedProbe => Qe6502.mcCmosRIndexedProbe
  | .mcCmosWIndexedProbe => Qe6502.mcCmosWIndexedProbe
  | .mcRIzxC1Idx => Qe6502.mcRIzxC1Idx
  | .mcIzxReadPtrloIncPtr => Qe6502.mcIzxReadPtrloIncPtr
  | .mcIzpC2Ptrhi => Qe6502.mcIzpC2Ptrhi
  | .mcRIzxC4Data => Qe6502.mcRIzxC4Data
  | .mcLatchAddr0ReadLatchAddr => Qe6502.mcLatchAddr0ReadLatchAddr
  | .mcRIzyC2Ptrhi => Qe6502.mcRIzyC2Ptrhi
  | .mcLatchZpAddrReadLatchAddr => Qe6502.mcLatchZpAddrReadLatchAddr
  | .mcZpxC1Idx => Qe6502.mcZpxC1Idx
  | .mcRZpyC1Idx => Qe6502.mcRZpyC1Idx
  | .mcRtiC3PullPcl => Qe6502.mcRtiC3PullPcl
  | .mcLatchPclStackRead => Qe6502.mcLatchPclStackRead
  | .mcRwAbxC1Hi => Qe6502.mcRwAbxC1Hi
  | .mcWIndexedProbe => Qe6502.mcWIndexedProbe
  | .mcUnstableStoreIndexedProbePreserveBaseHigh =>
      Qe6502.mcUnstableStoreIndexedProbePreserveBaseHigh
  | .mcReadZpLatchX => Qe6502.mcReadZpLatchX
  | .mcWIzxC3Ptrhi => Qe6502.mcWIzxC3Ptrhi
  | .mcWIzyC2Ptrhi => Qe6502.mcWIzyC2Ptrhi
  | .mcWZpyC1Idx => Qe6502.mcWZpyC1Idx
  | .opAdcRReadyNonePendingDataFetch => Qe6502.opAdcRReadyNonePendingDataFetch
  | .opNesAdcRReadyNonePendingDataFetch => Qe6502.opNesAdcRReadyNonePendingDataFetch
  | .opCmosAdcDecReadyNonePendingDummyFetch => Qe6502.opCmosAdcDecReadyNonePendingDummyFetch
  | .opAndRReadyNonePendingDataFetch => Qe6502.opAndRReadyNonePendingDataFetch
  | .opAncRReadyNonePendingDataFetch => Qe6502.opAncRReadyNonePendingDataFetch
  | .opAlrRReadyNonePendingDataFetch => Qe6502.opAlrRReadyNonePendingDataFetch
  | .opArrRReadyNonePendingDataFetch => Qe6502.opArrRReadyNonePendingDataFetch
  | .opNesArrRReadyNonePendingDataFetch => Qe6502.opNesArrRReadyNonePendingDataFetch
  | .opAxsRReadyNonePendingDataFetch => Qe6502.opAxsRReadyNonePendingDataFetch
  | .opXaaRReadyNonePendingDataFetch => Qe6502.opXaaRReadyNonePendingDataFetch
  | .opLxaRReadyNonePendingDataFetch => Qe6502.opLxaRReadyNonePendingDataFetch
  | .opBitRReadyNonePendingDataFetch => Qe6502.opBitRReadyNonePendingDataFetch
  | .opCmosBitImmReadyNonePendingDataFetch => Qe6502.opCmosBitImmReadyNonePendingDataFetch
  | .opCmpRReadyNonePendingDataFetch => Qe6502.opCmpRReadyNonePendingDataFetch
  | .opCpxRReadyNonePendingDataFetch => Qe6502.opCpxRReadyNonePendingDataFetch
  | .opCpyRReadyNonePendingDataFetch => Qe6502.opCpyRReadyNonePendingDataFetch
  | .opEorRReadyNonePendingDataFetch => Qe6502.opEorRReadyNonePendingDataFetch
  | .mcLoadAUpdateNzFetch => Qe6502.mcLoadAUpdateNzFetch
  | .opLaxRReadyNonePendingDataFetch => Qe6502.opLaxRReadyNonePendingDataFetch
  | .opLasRReadyNonePendingDataFetch => Qe6502.opLasRReadyNonePendingDataFetch
  | .mcLoadXUpdateNzFetch => Qe6502.mcLoadXUpdateNzFetch
  | .mcLoadYUpdateNzFetch => Qe6502.mcLoadYUpdateNzFetch
  | .opOraRReadyNonePendingDataFetch => Qe6502.opOraRReadyNonePendingDataFetch
  | .opPlpStackPullReadyNonePendingDataFetch => Qe6502.opPlpStackPullReadyNonePendingDataFetch
  | .opSbcRReadyNonePendingDataFetch => Qe6502.opSbcRReadyNonePendingDataFetch
  | .opNesSbcRReadyNonePendingDataFetch => Qe6502.opNesSbcRReadyNonePendingDataFetch
  | .opCmosSbcDecReadyNonePendingDummyFetch => Qe6502.opCmosSbcDecReadyNonePendingDummyFetch
  | .mcCmosJmpIndC4TargetHiRetryPrefetch => Qe6502.mcCmosJmpIndC4TargetHiRetryPrefetch
  | .mcCmosRIndexedProbePrefetchNoPageCrossDecimalClear =>
      Qe6502.mcCmosRIndexedProbePrefetchNoPageCrossDecimalClear
  | .mcCmosRIndexedProbeNoLatchPrefetchNoPageCross =>
      Qe6502.mcCmosRIndexedProbeNoLatchPrefetchNoPageCross
  | .mcLatchAddr0ReadPcIncPrefetch => Qe6502.mcLatchAddr0ReadPcIncPrefetch
  | .mcLatchAddr1ReadLatchAddrPrefetchDecimalClear =>
      Qe6502.mcLatchAddr1ReadLatchAddrPrefetchDecimalClear
  | .mcLatchDataReadLatchAddrPrefetch => Qe6502.mcLatchDataReadLatchAddrPrefetch
  | .mcLatchPclStackReadPrefetch => Qe6502.mcLatchPclStackReadPrefetch
  | .mcLatchZpAddrReadLatchAddrPrefetchDecimalClear =>
      Qe6502.mcLatchZpAddrReadLatchAddrPrefetchDecimalClear
  | .mcRIndexedProbeNoLatchPrefetchNoPageCross => Qe6502.mcRIndexedProbeNoLatchPrefetchNoPageCross
  | .mcRIzxC4DataPrefetchDecimalClear => Qe6502.mcRIzxC4DataPrefetchDecimalClear
  | .mcRIzxC4DataNoLatchPrefetch => Qe6502.mcRIzxC4DataNoLatchPrefetch
  | .mcRZpC1DataPrefetch => Qe6502.mcRZpC1DataPrefetch
  | .mcReadAddrWithBusHiPrefetch => Qe6502.mcReadAddrWithBusHiPrefetch
  | .mcReadLatchAddrPrefetch => Qe6502.mcReadLatchAddrPrefetch
  | .mcReadLatchAddrPrefetchDecimalClear => Qe6502.mcReadLatchAddrPrefetchDecimalClear
  | .mcReadPcPrefetch => Qe6502.mcReadPcPrefetch
  | .mcReadPcIncPrefetch => Qe6502.mcReadPcIncPrefetch
  | .mcReadPcIncPrefetchDecimalClear => Qe6502.mcReadPcIncPrefetchDecimalClear
  | .mcReadPcMinusOnePrefetch => Qe6502.mcReadPcMinusOnePrefetch
  | .mcRtsC4IncPcDummyPrefetch => Qe6502.mcRtsC4IncPcDummyPrefetch
  | .mcStackPullReadPrefetch => Qe6502.mcStackPullReadPrefetch
  | .mcWdcBbrBbsC3OffsetOrSkipPrefetch => Qe6502.mcWdcBbrBbsC3OffsetOrSkipPrefetch
  | .opAhxUnstableWReadyAddrPendingNoneWrPrefetch =>
      Qe6502.opAhxUnstableWReadyAddrPendingNoneWrPrefetch
  | .opAslAccReadyNonePendingNoneDummyPrefetch => Qe6502.opAslAccReadyNonePendingNoneDummyPrefetch
  | .opAslRwReadyAddrDataPendingNoneWrPrefetch => Qe6502.opAslRwReadyAddrDataPendingNoneWrPrefetch
  | .opBccBranchC0OffsetPrefetch => Qe6502.opBccBranchC0OffsetPrefetch
  | .opBcsBranchC0OffsetPrefetch => Qe6502.opBcsBranchC0OffsetPrefetch
  | .opBeqBranchC0OffsetPrefetch => Qe6502.opBeqBranchC0OffsetPrefetch
  | .opBmiBranchC0OffsetPrefetch => Qe6502.opBmiBranchC0OffsetPrefetch
  | .opBneBranchC0OffsetPrefetch => Qe6502.opBneBranchC0OffsetPrefetch
  | .opBplBranchC0OffsetPrefetch => Qe6502.opBplBranchC0OffsetPrefetch
  | .opBvcBranchC0OffsetPrefetch => Qe6502.opBvcBranchC0OffsetPrefetch
  | .opBvsBranchC0OffsetPrefetch => Qe6502.opBvsBranchC0OffsetPrefetch
  | .opClcImpReadyNonePendingNoneDummyPrefetch => Qe6502.opClcImpReadyNonePendingNoneDummyPrefetch
  | .opCldImpReadyNonePendingNoneDummyPrefetch => Qe6502.opCldImpReadyNonePendingNoneDummyPrefetch
  | .opCliImpReadyNonePendingNoneDummyPrefetch => Qe6502.opCliImpReadyNonePendingNoneDummyPrefetch
  | .opClvImpReadyNonePendingNoneDummyPrefetch => Qe6502.opClvImpReadyNonePendingNoneDummyPrefetch
  | .opCmosAdcRReadyAddrPendingDataFetchOrDecimalDummyPrefetchDecimalSet =>
      Qe6502.opCmosAdcRReadyAddrPendingDataFetchOrDecimalDummyPrefetchDecimalSet
  | .opCmosBraBranchC0OffsetPrefetch => Qe6502.opCmosBraBranchC0OffsetPrefetch
  | .opCmosDecAccReadyNonePendingNoneDummyPrefetch =>
      Qe6502.opCmosDecAccReadyNonePendingNoneDummyPrefetch
  | .opCmosIncAccReadyNonePendingNoneDummyPrefetch =>
      Qe6502.opCmosIncAccReadyNonePendingNoneDummyPrefetch
  | .opCmosPhxStackPushReadyNonePendingNoneWrPrefetch =>
      Qe6502.opCmosPhxStackPushReadyNonePendingNoneWrPrefetch
  | .opCmosPhyStackPushReadyNonePendingNoneWrPrefetch =>
      Qe6502.opCmosPhyStackPushReadyNonePendingNoneWrPrefetch
  | .opCmosSbcImmReadyNonePendingDataFetchOrDecimalDummyPrefetchDecimalSet =>
      Qe6502.opCmosSbcImmReadyNonePendingDataFetchOrDecimalDummyPrefetchDecimalSet
  | .opCmosSbcRReadyAddrPendingDataFetchOrDecimalDummyPrefetchDecimalSet =>
      Qe6502.opCmosSbcRReadyAddrPendingDataFetchOrDecimalDummyPrefetchDecimalSet
  | .opCmosStzWReadyAddrPendingNoneWrPrefetch => Qe6502.opCmosStzWReadyAddrPendingNoneWrPrefetch
  | .opCmosStzWReadyAddrloPendingAddrhiWrPrefetch =>
      Qe6502.opCmosStzWReadyAddrloPendingAddrhiWrPrefetch
  | .opCmosStzWReadyNonePendingAddrloWrPrefetch => Qe6502.opCmosStzWReadyNonePendingAddrloWrPrefetch
  | .opCmosTrbRwReadyAddrDataPendingNoneWrPrefetch =>
      Qe6502.opCmosTrbRwReadyAddrDataPendingNoneWrPrefetch
  | .opCmosTsbRwReadyAddrDataPendingNoneWrPrefetch =>
      Qe6502.opCmosTsbRwReadyAddrDataPendingNoneWrPrefetch
  | .opDcpRwReadyAddrDataPendingNoneWrPrefetch => Qe6502.opDcpRwReadyAddrDataPendingNoneWrPrefetch
  | .opDecRwReadyAddrDataPendingNoneWrPrefetch => Qe6502.opDecRwReadyAddrDataPendingNoneWrPrefetch
  | .opDexImpReadyNonePendingNoneDummyPrefetch => Qe6502.opDexImpReadyNonePendingNoneDummyPrefetch
  | .opDeyImpReadyNonePendingNoneDummyPrefetch => Qe6502.opDeyImpReadyNonePendingNoneDummyPrefetch
  | .opIncRwReadyAddrDataPendingNoneWrPrefetch => Qe6502.opIncRwReadyAddrDataPendingNoneWrPrefetch
  | .opInxImpReadyNonePendingNoneDummyPrefetch => Qe6502.opInxImpReadyNonePendingNoneDummyPrefetch
  | .opInyImpReadyNonePendingNoneDummyPrefetch => Qe6502.opInyImpReadyNonePendingNoneDummyPrefetch
  | .opIscRwReadyAddrDataPendingNoneWrPrefetch => Qe6502.opIscRwReadyAddrDataPendingNoneWrPrefetch
  | .opLsrAccReadyNonePendingNoneDummyPrefetch => Qe6502.opLsrAccReadyNonePendingNoneDummyPrefetch
  | .opLsrRwReadyAddrDataPendingNoneWrPrefetch => Qe6502.opLsrRwReadyAddrDataPendingNoneWrPrefetch
  | .mcNesIscRwReadyAddrDataPendingNoneWrPrefetch =>
      Qe6502.mcNesIscRwReadyAddrDataPendingNoneWrPrefetch
  | .opNesRraRwReadyAddrDataPendingNoneWrPrefetch =>
      Qe6502.opNesRraRwReadyAddrDataPendingNoneWrPrefetch
  | .opPhaStackPushReadyNonePendingNoneWrPrefetch =>
      Qe6502.opPhaStackPushReadyNonePendingNoneWrPrefetch
  | .opPhpStackPushReadyNonePendingNoneWrPrefetch =>
      Qe6502.opPhpStackPushReadyNonePendingNoneWrPrefetch
  | .opRlaRwReadyAddrDataPendingNoneWrPrefetch => Qe6502.opRlaRwReadyAddrDataPendingNoneWrPrefetch
  | .opRolAccReadyNonePendingNoneDummyPrefetch => Qe6502.opRolAccReadyNonePendingNoneDummyPrefetch
  | .opRolRwReadyAddrDataPendingNoneWrPrefetch => Qe6502.opRolRwReadyAddrDataPendingNoneWrPrefetch
  | .opRorAccReadyNonePendingNoneDummyPrefetch => Qe6502.opRorAccReadyNonePendingNoneDummyPrefetch
  | .opRorRwReadyAddrDataPendingNoneWrPrefetch => Qe6502.opRorRwReadyAddrDataPendingNoneWrPrefetch
  | .opRraRwReadyAddrDataPendingNoneWrPrefetch => Qe6502.opRraRwReadyAddrDataPendingNoneWrPrefetch
  | .opRwAdcImmReadyNonePendingDataFetchOrDecimalDummyPrefetchDecimalSet =>
      Qe6502.opRwAdcImmReadyNonePendingDataFetchOrDecimalDummyPrefetchDecimalSet
  | .opSaxWReadyAddrPendingNoneWrPrefetch => Qe6502.opSaxWReadyAddrPendingNoneWrPrefetch
  | .opSaxWReadyAddrloPendingAddrhiWrPrefetch => Qe6502.opSaxWReadyAddrloPendingAddrhiWrPrefetch
  | .opSaxWReadyNonePendingAddrloWrPrefetch => Qe6502.opSaxWReadyNonePendingAddrloWrPrefetch
  | .opSecImpReadyNonePendingNoneDummyPrefetch => Qe6502.opSecImpReadyNonePendingNoneDummyPrefetch
  | .opSedImpReadyNonePendingNoneDummyPrefetch => Qe6502.opSedImpReadyNonePendingNoneDummyPrefetch
  | .opSeiImpReadyNonePendingNoneDummyPrefetch => Qe6502.opSeiImpReadyNonePendingNoneDummyPrefetch
  | .opShxUnstableWReadyAddrPendingNoneWrPrefetch =>
      Qe6502.opShxUnstableWReadyAddrPendingNoneWrPrefetch
  | .opShyUnstableWReadyAddrPendingNoneWrPrefetch =>
      Qe6502.opShyUnstableWReadyAddrPendingNoneWrPrefetch
  | .opSloRwReadyAddrDataPendingNoneWrPrefetch => Qe6502.opSloRwReadyAddrDataPendingNoneWrPrefetch
  | .opSreRwReadyAddrDataPendingNoneWrPrefetch => Qe6502.opSreRwReadyAddrDataPendingNoneWrPrefetch
  | .opStAdcImmReadyNonePendingDataFetchOrDecimalDummyPrefetchDecimalSet =>
      Qe6502.opStAdcImmReadyNonePendingDataFetchOrDecimalDummyPrefetchDecimalSet
  | .opStaWReadyAddrPendingNoneWrPrefetch => Qe6502.opStaWReadyAddrPendingNoneWrPrefetch
  | .opStaWReadyAddrloPendingAddrhiWrPrefetch => Qe6502.opStaWReadyAddrloPendingAddrhiWrPrefetch
  | .opStaWReadyNonePendingAddrloWrPrefetch => Qe6502.opStaWReadyNonePendingAddrloWrPrefetch
  | .opStxWReadyAddrPendingNoneWrPrefetch => Qe6502.opStxWReadyAddrPendingNoneWrPrefetch
  | .opStxWReadyAddrloPendingAddrhiWrPrefetch => Qe6502.opStxWReadyAddrloPendingAddrhiWrPrefetch
  | .opStxWReadyNonePendingAddrloWrPrefetch => Qe6502.opStxWReadyNonePendingAddrloWrPrefetch
  | .opStyWReadyAddrPendingNoneWrPrefetch => Qe6502.opStyWReadyAddrPendingNoneWrPrefetch
  | .opStyWReadyAddrloPendingAddrhiWrPrefetch => Qe6502.opStyWReadyAddrloPendingAddrhiWrPrefetch
  | .opStyWReadyNonePendingAddrloWrPrefetch => Qe6502.opStyWReadyNonePendingAddrloWrPrefetch
  | .opTasUnstableWReadyAddrPendingNoneWrPrefetch =>
      Qe6502.opTasUnstableWReadyAddrPendingNoneWrPrefetch
  | .opTaxImpReadyNonePendingNoneDummyPrefetch => Qe6502.opTaxImpReadyNonePendingNoneDummyPrefetch
  | .opTayImpReadyNonePendingNoneDummyPrefetch => Qe6502.opTayImpReadyNonePendingNoneDummyPrefetch
  | .opTsxImpReadyNonePendingNoneDummyPrefetch => Qe6502.opTsxImpReadyNonePendingNoneDummyPrefetch
  | .opTxaImpReadyNonePendingNoneDummyPrefetch => Qe6502.opTxaImpReadyNonePendingNoneDummyPrefetch
  | .opTxsImpReadyNonePendingNoneDummyPrefetch => Qe6502.opTxsImpReadyNonePendingNoneDummyPrefetch
  | .opTyaImpReadyNonePendingNoneDummyPrefetch => Qe6502.opTyaImpReadyNonePendingNoneDummyPrefetch
  | .opWdcAdcImmReadyNonePendingDataFetchOrDecimalDummyPrefetchDecimalSet =>
      Qe6502.opWdcAdcImmReadyNonePendingDataFetchOrDecimalDummyPrefetchDecimalSet
  | .opWdcRmbSmbRwReadyAddrDataPendingNoneWrPrefetch =>
      Qe6502.opWdcRmbSmbRwReadyAddrDataPendingNoneWrPrefetch

/-- `qe6502_microcode_fn`: what an entry of the control store points at. -/
inductive Entry
  | interruptResolver
  | mcDispatch
  | handler (h : Handler)
deriving DecidableEq

/-- The microcode entries of one opcode or service slot, from cycle 0 on. -/
abbrev Slot := List Entry

def handlers (hs : List Handler) : Slot := hs.map .handler

/-- Handlers followed by the dispatch of the next opcode. -/
def thenDispatch (hs : List Handler) : Slot := handlers hs ++ [.mcDispatch]

end Qe6502
