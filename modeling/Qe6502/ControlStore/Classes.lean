import Qe6502.Handler

/-!
# Slot classes

The control-store blocks give every opcode slot a class: the chain of handlers of one
addressing mode, with the handlers of the operation left open.  A class the CMOS blocks fill
differently has a second chain with the suffix `Cmos`, and one with the suffix `CmosDecimal`
for the additions that take an extra cycle in decimal mode.
-/

namespace Qe6502

/-! ### Control flow -/

def brk : Slot :=
  thenDispatch [
    .mcReadPcInc, .mcStackPushPcHigh, .mcStackPushPcLow, .mcStackPushStatusB, .mcReadFffe,
    .mcBrkC5VecHi, .mcLatchPchBrkFetch]

def brkCmos : Slot :=
  thenDispatch [
    .mcReadPcInc, .mcStackPushPcHigh, .mcStackPushPcLow, .mcCmosStackPushStatusB, .mcReadFffe,
    .mcCmosBrkC5VecHi, .mcLatchPchBrkFetch]

def kilJam : Slot :=
  handlers [.mcReadPc, .mcKilJamReadFfff, .mcReadFffe, .mcReadFffe, .opKilJamRFfffPendingDataLoop]

def jsrAbs : Slot :=
  thenDispatch [
    .mcReadPcInc, .mcJsrAbsC1Dummy, .mcStackPushPcHigh, .mcStackPushPcLow, .mcReadPcPrefetch,
    .mcLatchAddr1SetPcFetch]

def rti : Slot :=
  thenDispatch [
    .mcReadPc, .mcReadStackCurrentS, .mcStackPullRead, .mcRtiC3PullPcl,
    .mcLatchPclStackReadPrefetch, .mcLatchPchRtiFetch]

def rts : Slot :=
  thenDispatch [
    .mcReadPc, .mcReadStackCurrentS, .mcStackPullRead, .mcLatchPclStackRead,
    .mcRtsC4IncPcDummyPrefetch, .mcFetch]

def jmpAbs : Slot :=
  thenDispatch [.mcReadPcInc, .mcLatchAddr0ReadPcIncPrefetch, .mcLatchAddr1SetPcFetch]

def jmpInd : Slot :=
  thenDispatch [
    .mcReadPcInc, .mcLatchAddr0ReadPcInc, .mcJmpIndC2TargetLo, .mcLatchDataReadLatchAddrPrefetch,
    .mcJmpIndC4Fetch]

def jmpIndWdc : Slot :=
  thenDispatch [
    .mcReadPcInc, .mcLatchAddr0ReadPcInc, .mcJmpIndC2TargetLo, .mcLatchDataReadLatchAddr,
    .mcCmosJmpIndC4TargetHiRetryPrefetch, .mcJmpIndC4Fetch]

def jmpIndXWdc : Slot :=
  thenDispatch [
    .mcReadPcInc, .mcLatchAddr0ReadPcInc, .mcCmosJmpIndXC2Dummy, .mcCmosJmpIndXC3TargetLo,
    .mcLatchDataReadLatchAddrPrefetch, .mcJmpIndC4Fetch]

def branchRel (op : Handler) : Slot :=
  thenDispatch [op, .mcBranchRelC1Apply, .mcBranchPgfixPrefetch, .mcFetch]

def bbrBbsZpRel : Slot :=
  thenDispatch [
    .mcReadPcInc, .mcLatchZpAddrReadLatchAddr, .mcReadLatchAddr,
    .mcWdcBbrBbsC3OffsetOrSkipPrefetch, .mcWdcBbrBbsC4Apply, .mcBranchPgfixPrefetch, .mcFetch]

/-! ### Implied, accumulator and stack -/

def imp (op : Handler) : Slot :=
  thenDispatch [op, .mcFetch]

def nopImp : Slot :=
  thenDispatch [.mcReadPcPrefetch, .mcFetch]

def acc (op : Handler) : Slot :=
  thenDispatch [op, .mcFetch]

def stackPush (op : Handler) : Slot :=
  thenDispatch [.mcReadPc, op, .mcFetch]

def stackPull (op : Handler) : Slot :=
  thenDispatch [.mcReadPc, .mcReadStackCurrentS, .mcStackPullReadPrefetch, op]

def nopImm : Slot :=
  thenDispatch [.mcReadPcIncPrefetch, .mcFetch]

def nop2b2c : Slot :=
  thenDispatch [.mcReadPcIncPrefetch, .mcFetch]

def nop1b1c : Slot :=
  thenDispatch [.mcFetch]

def nop3b4c : Slot :=
  thenDispatch [.mcReadPcInc, .mcReadPc, .mcReadPcIncPrefetch, .mcFetch]

/-! ### Reads -/

def rImm (op : Handler) : Slot :=
  thenDispatch [.mcReadPcIncPrefetch, op]

def rImmCmosDecimal (op opDecimal : Handler) : Slot :=
  thenDispatch [.mcReadPcIncPrefetchDecimalClear, op, opDecimal]

def rZp (op : Handler) : Slot :=
  thenDispatch [.mcReadPcInc, .mcRZpC1DataPrefetch, op]

def rZpCmosDecimal (op opDecimal : Handler) : Slot :=
  thenDispatch [.mcReadPcInc, .mcLatchZpAddrReadLatchAddrPrefetchDecimalClear, op, opDecimal]

def rZpx (op : Handler) : Slot :=
  thenDispatch [.mcClearLatchAddrReadPcInc, .mcZpxC1Idx, .mcReadLatchAddrPrefetch, op]

def rZpxCmosDecimal (op opDecimal : Handler) : Slot :=
  thenDispatch [
    .mcClearLatchAddrReadPcInc, .mcZpxC1Idx, .mcReadLatchAddrPrefetchDecimalClear, op, opDecimal]

def rZpy (op : Handler) : Slot :=
  thenDispatch [.mcClearLatchAddrReadPcInc, .mcRZpyC1Idx, .mcReadLatchAddrPrefetch, op]

def rAbs (op : Handler) : Slot :=
  thenDispatch [.mcReadPcInc, .mcLatchAddr0ReadPcInc, .mcReadAddrWithBusHiPrefetch, op]

def rAbsCmosDecimal (op opDecimal : Handler) : Slot :=
  thenDispatch [
    .mcReadPcInc, .mcLatchAddr0ReadPcInc, .mcLatchAddr1ReadLatchAddrPrefetchDecimalClear, op,
    opDecimal]

def rAbx (op : Handler) : Slot :=
  thenDispatch [
    .mcReadPcInc, .mcLatchAbxBaseReadPcInc, .mcRIndexedProbeNoLatchPrefetchNoPageCross,
    .mcReadLatchAddrPrefetch, op]

def rAbxCmos (op : Handler) : Slot :=
  thenDispatch [
    .mcReadPcInc, .mcCmosLatchAbxBaseReadPc, .mcCmosRIndexedProbeNoLatchPrefetchNoPageCross,
    .mcReadLatchAddrPrefetch, op]

def rAbxCmosDecimal (op opDecimal : Handler) : Slot :=
  thenDispatch [
    .mcReadPcInc, .mcCmosLatchAbxBaseReadPc, .mcCmosRIndexedProbePrefetchNoPageCrossDecimalClear,
    .mcReadLatchAddrPrefetchDecimalClear, op, opDecimal]

def rAby (op : Handler) : Slot :=
  thenDispatch [
    .mcReadPcInc, .mcLatchAbyBaseReadPcInc, .mcRIndexedProbeNoLatchPrefetchNoPageCross,
    .mcReadLatchAddrPrefetch, op]

def rAbyCmos (op : Handler) : Slot :=
  thenDispatch [
    .mcReadPcInc, .mcCmosLatchAbyBaseReadPc, .mcCmosRIndexedProbeNoLatchPrefetchNoPageCross,
    .mcReadLatchAddrPrefetch, op]

def rAbyCmosDecimal (op opDecimal : Handler) : Slot :=
  thenDispatch [
    .mcReadPcInc, .mcCmosLatchAbyBaseReadPc, .mcCmosRIndexedProbePrefetchNoPageCrossDecimalClear,
    .mcReadLatchAddrPrefetchDecimalClear, op, opDecimal]

def rIzx (op : Handler) : Slot :=
  thenDispatch [
    .mcClearLatchAddrReadPcInc, .mcRIzxC1Idx, .mcIzxReadPtrloIncPtr, .mcLatchDataReadLatchAddr,
    .mcRIzxC4DataNoLatchPrefetch, op]

def rIzxCmosDecimal (op opDecimal : Handler) : Slot :=
  thenDispatch [
    .mcClearLatchAddrReadPcInc, .mcRIzxC1Idx, .mcIzxReadPtrloIncPtr, .mcLatchDataReadLatchAddr,
    .mcRIzxC4DataPrefetchDecimalClear, op, opDecimal]

def rIzy (op : Handler) : Slot :=
  thenDispatch [
    .mcClearLatchAddrReadPcInc, .mcLatchAddr0ReadLatchAddr, .mcRIzyC2Ptrhi,
    .mcRIndexedProbeNoLatchPrefetchNoPageCross, .mcReadLatchAddrPrefetch, op]

def rIzyCmos (op : Handler) : Slot :=
  thenDispatch [
    .mcClearLatchAddrReadPc, .mcLatchAddr0ReadLatchAddr, .mcRIzyC2Ptrhi,
    .mcCmosRIndexedProbeNoLatchPrefetchNoPageCross, .mcReadLatchAddrPrefetch, op]

def rIzyCmosDecimal (op opDecimal : Handler) : Slot :=
  thenDispatch [
    .mcClearLatchAddrReadPc, .mcLatchAddr0ReadLatchAddr, .mcRIzyC2Ptrhi,
    .mcCmosRIndexedProbePrefetchNoPageCrossDecimalClear, .mcReadLatchAddrPrefetchDecimalClear, op,
    opDecimal]

def rIzp (op : Handler) : Slot :=
  thenDispatch [
    .mcReadPcInc, .mcLatchZpAddrReadLatchAddr, .mcIzpC2Ptrhi, .mcReadAddrWithBusHiPrefetch, op]

def rIzpWdcDecimal (op opDecimal : Handler) : Slot :=
  thenDispatch [
    .mcReadPcInc, .mcLatchZpAddrReadLatchAddr, .mcIzpC2Ptrhi,
    .mcLatchAddr1ReadLatchAddrPrefetchDecimalClear, op, opDecimal]

def nopZpRead : Slot :=
  thenDispatch [.mcReadPcInc, .mcRZpC1DataPrefetch, .mcFetch]

def nopZpxRead : Slot :=
  thenDispatch [.mcClearLatchAddrReadPcInc, .mcZpxC1Idx, .mcReadLatchAddrPrefetch, .mcFetch]

def nopAbsRead : Slot :=
  thenDispatch [.mcReadPcInc, .mcLatchAddr0ReadPcInc, .mcReadAddrWithBusHiPrefetch, .mcFetch]

def nopAbxRead : Slot :=
  thenDispatch [
    .mcReadPcInc, .mcLatchAbxBaseReadPcInc, .mcRIndexedProbeNoLatchPrefetchNoPageCross,
    .mcReadLatchAddrPrefetch, .mcFetch]

def stNopZpRead : Slot :=
  thenDispatch [.mcReadPcInc, .mcRZpC1DataPrefetch, .mcFetch]

def stNopZpxRead : Slot :=
  thenDispatch [.mcClearLatchAddrReadPcInc, .mcZpxC1Idx, .mcReadLatchAddrPrefetch, .mcFetch]

def stNopAbsRead : Slot :=
  thenDispatch [.mcReadPcInc, .mcReadPcIncPrefetch, .mcFetch]

def stNopAbsReadHighDummy : Slot :=
  thenDispatch [.mcReadPcInc, .mcReadPcInc, .mcReadPcMinusOnePrefetch, .mcFetch]

/-! ### Writes -/

def wZp (op : Handler) : Slot :=
  thenDispatch [.mcReadPcInc, op, .mcFetch]

def wZpx (op : Handler) : Slot :=
  thenDispatch [.mcReadPcInc, .mcReadZpLatchX, op, .mcFetch]

def wZpy (op : Handler) : Slot :=
  thenDispatch [.mcReadPcInc, .mcWZpyC1Idx, op, .mcFetch]

def wAbs (op : Handler) : Slot :=
  thenDispatch [.mcReadPcInc, .mcLatchAddr0ReadPcInc, op, .mcFetch]

def wAbx (op : Handler) : Slot :=
  thenDispatch [.mcReadPcInc, .mcLatchAbxBaseReadPcInc, .mcWIndexedProbe, op, .mcFetch]

def wAbxCmos (op : Handler) : Slot :=
  thenDispatch [.mcReadPcInc, .mcCmosLatchAbxBaseReadPc, .mcCmosWIndexedProbe, op, .mcFetch]

def wAby (op : Handler) : Slot :=
  thenDispatch [.mcReadPcInc, .mcLatchAbyBaseReadPcInc, .mcWIndexedProbe, op, .mcFetch]

def wAbyCmos (op : Handler) : Slot :=
  thenDispatch [.mcReadPcInc, .mcCmosLatchAbyBaseReadPc, .mcCmosWIndexedProbe, op, .mcFetch]

def wIzx (op : Handler) : Slot :=
  thenDispatch [.mcReadPcInc, .mcReadZpLatchX, .mcIzxReadPtrloIncPtr, .mcWIzxC3Ptrhi, op, .mcFetch]

def wIzy (op : Handler) : Slot :=
  thenDispatch [
    .mcReadPcInc, .mcLatchZpAddrReadLatchAddr, .mcWIzyC2Ptrhi, .mcWIndexedProbe, op, .mcFetch]

def wIzyCmos (op : Handler) : Slot :=
  thenDispatch [
    .mcReadPc, .mcLatchZpAddrReadLatchAddr, .mcWIzyC2Ptrhi, .mcCmosWIndexedProbe, op, .mcFetch]

def wIzp (op : Handler) : Slot :=
  thenDispatch [.mcReadPcInc, .mcLatchZpAddrReadLatchAddr, .mcIzpC2Ptrhi, op, .mcFetch]

def unstableWAbx (op : Handler) : Slot :=
  thenDispatch [
    .mcReadPcInc, .mcLatchAbxBaseReadPcInc, .mcUnstableStoreIndexedProbePreserveBaseHigh, op,
    .mcFetch]

def unstableWAby (op : Handler) : Slot :=
  thenDispatch [
    .mcReadPcInc, .mcLatchAbyBaseReadPcInc, .mcUnstableStoreIndexedProbePreserveBaseHigh, op,
    .mcFetch]

def unstableWIzy (op : Handler) : Slot :=
  thenDispatch [
    .mcReadPcInc, .mcLatchZpAddrReadLatchAddr, .mcWIzyC2Ptrhi,
    .mcUnstableStoreIndexedProbePreserveBaseHigh, op, .mcFetch]

/-! ### Reads with a write back -/

def rwZp (op : Handler) : Slot :=
  thenDispatch [
    .mcClearLatchAddrReadPcInc, .mcLatchAddr0ReadLatchAddr, .mcLatchDataWriteLatchAddr, op,
    .mcFetch]

def rwZpx (op : Handler) : Slot :=
  thenDispatch [
    .mcClearLatchAddrReadPcInc, .mcZpxC1Idx, .mcReadLatchAddr, .mcLatchDataWriteLatchAddr, op,
    .mcFetch]

def rwAbs (op : Handler) : Slot :=
  thenDispatch [
    .mcReadPcInc, .mcLatchAddr0ReadPcInc, .mcLatchAddr1ReadLatchAddr, .mcLatchDataWriteLatchAddr,
    op, .mcFetch]

def rwAbx (op : Handler) : Slot :=
  thenDispatch [
    .mcReadPcInc, .mcRwAbxC1Hi, .mcWIndexedProbe, .mcReadLatchAddr, .mcLatchDataWriteLatchAddr,
    op, .mcFetch]

def rwAbxCmos (op : Handler) : Slot :=
  thenDispatch [
    .mcReadPcInc, .mcCmosLatchAbxBaseReadPc, .mcCmosWIndexedProbe, .mcReadLatchAddr,
    .mcLatchDataReadLatchAddr, op, .mcFetch]

def rwAby (op : Handler) : Slot :=
  thenDispatch [
    .mcReadPcInc, .mcLatchAbyBaseReadPcInc, .mcWIndexedProbe, .mcReadLatchAddr,
    .mcLatchDataWriteLatchAddr, op, .mcFetch]

def rwIzx (op : Handler) : Slot :=
  handlers [
    .mcClearLatchAddrReadPcInc, .mcRIzxC1Idx, .mcIzxReadPtrloIncPtr, .mcLatchDataReadLatchAddr,
    .mcRIzxC4Data, .mcLatchDataWriteLatchAddr, op, .mcFetchIllegalExtDispatch]

def rwIzy (op : Handler) : Slot :=
  handlers [
    .mcClearLatchAddrReadPcInc, .mcLatchAddr0ReadLatchAddr, .mcWIzyC2Ptrhi, .mcWIndexedProbe,
    .mcReadLatchAddr, .mcLatchDataWriteLatchAddr, op, .mcFetchIllegalExtDispatch]

def rwZpCmos (op : Handler) : Slot :=
  thenDispatch [
    .mcClearLatchAddrReadPcInc, .mcLatchAddr0ReadLatchAddr, .mcLatchDataReadLatchAddr, op,
    .mcFetch]

def rwZpxCmos (op : Handler) : Slot :=
  thenDispatch [
    .mcClearLatchAddrReadPcInc, .mcZpxC1Idx, .mcReadLatchAddr, .mcLatchDataReadLatchAddr, op,
    .mcFetch]

def rwAbsCmos (op : Handler) : Slot :=
  thenDispatch [
    .mcReadPcInc, .mcLatchAddr0ReadPcInc, .mcLatchAddr1ReadLatchAddr, .mcLatchDataReadLatchAddr,
    op, .mcFetch]

def rwAbxShort (op : Handler) : Slot :=
  thenDispatch [
    .mcReadPcInc, .mcCmosLatchAbxBaseReadPc, .mcCmosRIndexedProbe, .mcReadLatchAddr,
    .mcLatchDataReadLatchAddr, op, .mcFetch]

end Qe6502
