import Qe6502.Effects

/-!
# Exits of the handlers

A handler leaves by one of a few exits: where the microcode index goes, which status the tick
has and whether interrupts are sampled.  `Handler.exits` lists them, `exit_of_run` says that
the list is complete, and `execute_exit` carries an exit through the resolver.  What holds
along all exits of all entries is then checked on the tables.
-/

namespace Qe6502

/-- Where a handler leaves the microcode index, after the increment that follows it. -/
inductive Move
  | next
  | skip (n : Nat)
  | stay
  | enter (slot : ServiceSlot) (cycle : Nat)
deriving DecidableEq

namespace Move

def index (cpu : Cpu) : Move → Word
  | next => cpu.microcode + 1
  | skip n => cpu.microcode + BitVec.ofNat 16 n + 1
  | stay => cpu.microcode
  | enter slot cycle => idx cpu.model slot.code (BitVec.ofNat 16 cycle)

/-- The slot and cycle a move leads to.  A slot of eight cycles runs on into the next one, as
`reset0` does into `reset1`. -/
def target (slot cycle : Nat) : Move → Nat × Nat
  | next => if cycle + 1 = microcodePerSlot then (slot + 1, 0) else (slot, cycle + 1)
  | skip n => (slot, cycle + n + 1)
  | stay => (slot, cycle)
  | enter s k => (s.code.toNat, k)

end Move

/-- One way to leave a handler.  `decimal` is the D flag where the exit depends on it. -/
structure Exit where
  move : Move := .next
  status : Byte := 0
  samples : Bool := false
  decimal : Option Bool := none
deriving DecidableEq

/-- A context to read off what does not depend on the context. -/
def blankCpu : Cpu := ⟨0, 0, 0, 0, 0, 0, 0, 0, 0, 0, 0, 0, 0⟩

namespace Handler

/-- The only exit of a handler that does not branch. -/
def plainExit (h : Handler) : Exit where
  status := (h.run blankCpu 0).2.status
  samples := h.signal blankCpu = .sample

/-- Every way a handler can leave. -/
def exits : Handler → List Exit
  | opKilJamRFfffPendingDataLoop => [{ move := .stay, status := statusCpuJammed }]
  | mcFetchIllegalExtDispatch =>
    [{ move := .enter .illegalExt 0, status := statusOpcodeFetch }]
  | mcInternalReset =>
    [{ move := .enter .reset0 0 }, { move := .stay, status := statusInternalReset }]
  | mcBranchRelC1Apply | mcWdcBbrBbsC4Apply | mcCmosRIndexedProbe =>
    [{ move := .skip 1 }, {}]
  | mcStackPushStatusB =>
    [{ status := statusWriting }, { move := .enter .nmi 4, status := statusWriting },
      { move := .enter .irq 4, status := statusWriting }]
  | mcIrqC3PushP =>
    [{ status := statusWriting }, { move := .enter .nmi 4, status := statusWriting }]
  | mcCmosRIndexedProbePrefetchNoPageCrossDecimalClear =>
    [{ move := .skip 1, samples := true, decimal := some false },
      { move := .skip 1, decimal := some true }, {}]
  | mcCmosRIndexedProbeNoLatchPrefetchNoPageCross
  | mcRIndexedProbeNoLatchPrefetchNoPageCross =>
    [{ move := .skip 1, samples := true }, {}]
  | mcLatchAddr1ReadLatchAddrPrefetchDecimalClear
  | mcLatchZpAddrReadLatchAddrPrefetchDecimalClear
  | mcRIzxC4DataPrefetchDecimalClear
  | mcReadLatchAddrPrefetchDecimalClear
  | mcReadPcIncPrefetchDecimalClear =>
    [{ samples := true, decimal := some false }, { decimal := some true }]
  | opBccBranchC0OffsetPrefetch | opBcsBranchC0OffsetPrefetch | opBeqBranchC0OffsetPrefetch
  | opBmiBranchC0OffsetPrefetch | opBneBranchC0OffsetPrefetch | opBplBranchC0OffsetPrefetch
  | opBvcBranchC0OffsetPrefetch | opBvsBranchC0OffsetPrefetch
  | mcWdcBbrBbsC3OffsetOrSkipPrefetch =>
    [{ samples := true }, { move := .skip 2, samples := true }]
  | opCmosAdcRReadyAddrPendingDataFetchOrDecimalDummyPrefetchDecimalSet
  | opCmosSbcRReadyAddrPendingDataFetchOrDecimalDummyPrefetchDecimalSet
  | opCmosSbcImmReadyNonePendingDataFetchOrDecimalDummyPrefetchDecimalSet
  | opWdcAdcImmReadyNonePendingDataFetchOrDecimalDummyPrefetchDecimalSet
  | opRwAdcImmReadyNonePendingDataFetchOrDecimalDummyPrefetchDecimalSet
  | opStAdcImmReadyNonePendingDataFetchOrDecimalDummyPrefetchDecimalSet =>
    [{ move := .skip 1, status := statusOpcodeFetch, decimal := some false },
      { samples := true, decimal := some true }]
  | h => [h.plainExit]

end Handler

/-! ### The exits are complete -/

/-- The handler `h`, run in `cpu`, left by the exit `e`. -/
structure Exit.Of (e : Exit) (h : Handler) (cpu : Cpu) (r : Cpu × Tick) : Prop where
  model : r.1.model = cpu.model
  index : (advanceMicrocode r.1).microcode = e.move.index cpu
  status : r.2.status = e.status
  samples : decide (h.signal cpu = .sample) = e.samples
  decimal : ∀ d ∈ e.decimal, decimalClear cpu = !d

/-- The handler, run in `cpu`, leaves by one of its exits. -/
def Handler.Leaves (h : Handler) (cpu : Cpu) (r : Cpu × Tick) : Prop :=
  ∃ e ∈ h.exits, e.Of h cpu r

/-- A handler with one plain exit: its status and its sampling do not depend on the context. -/
theorem leaves_plain {h : Handler} {cpu : Cpu} {bus : Byte} (hexits : h.exits = [h.plainExit])
    (hmodel : (h.run cpu bus).1.model = cpu.model)
    (hindex : (h.run cpu bus).1.microcode = cpu.microcode)
    (hstatus : (h.run cpu bus).2.status = h.plainExit.status)
    (hsamples : decide (h.signal cpu = .sample) = h.plainExit.samples) :
    h.Leaves cpu (h.run cpu bus) := by
  refine ⟨h.plainExit, ?_, hmodel, ?_, hstatus, hsamples, ?_⟩
  · rw [hexits]
    exact List.mem_singleton_self _
  · show (h.run cpu bus).1.microcode + 1 = cpu.microcode + 1
    rw [hindex]
  · intro d hd
    cases hd

/-! ### Handlers that branch -/

theorem fetch_status (cpu : Cpu) : (fetch cpu).status = statusOpcodeFetch := BitVec.zero_or

theorem internalReset_status (address : Word) :
    flagOn (read address).status statusInternalReset = statusInternalReset := BitVec.zero_or

theorem leaves_ite {h : Handler} {cpu : Cpu} {r₁ r₂ : Cpu × Tick} {c : Prop} [Decidable c]
    (h₁ : c → h.Leaves cpu r₁) (h₂ : ¬c → h.Leaves cpu r₂) :
    h.Leaves cpu (if c then r₁ else r₂) := by
  by_cases hc : c
  · rw [if_pos hc]
    exact h₁ hc
  · rw [if_neg hc]
    exact h₂ hc

/-- An exit that does not depend on D. -/
theorem leaves_by {h : Handler} {cpu : Cpu} {r : Cpu × Tick} (e : Exit) (he : e ∈ h.exits)
    (hmodel : r.1.model = cpu.model) (hindex : r.1.microcode + 1 = e.move.index cpu)
    (hstatus : r.2.status = e.status) (hsamples : decide (h.signal cpu = .sample) = e.samples)
    (hdecimal : e.decimal = none) : h.Leaves cpu r := by
  refine ⟨e, he, hmodel, hindex, hstatus, hsamples, ?_⟩
  rw [hdecimal]
  intro d hd
  cases hd

theorem leaves_branchC0Offset {h : Handler} {cpu : Cpu} (taken : Bool)
    (hexits : h.exits = [{ samples := true }, { move := .skip 2, samples := true }])
    (hsignal : h.signal cpu = .sample) : h.Leaves cpu (branchC0Offset cpu taken) := by
  cases taken
  · refine leaves_by { move := .skip 2, samples := true } ?_ rfl rfl rfl ?_ rfl
    · simp [hexits]
    · simp [hsignal]
  · refine leaves_by { samples := true } ?_ rfl rfl rfl ?_ rfl
    · simp [hexits]
    · simp [hsignal]

/-- A handler that samples exactly when D is clear. -/
theorem leaves_decimalClear {h : Handler} {f : Cpu → Cpu × Tick} {cpu : Cpu}
    (hexits : h.exits = [{ samples := true, decimal := some false }, { decimal := some true }])
    (hsignal : h.signal cpu = if decimalClear cpu then .sample else .none)
    (hsample : (f (prefetch cpu)).1.model = cpu.model ∧
      (f (prefetch cpu)).1.microcode = cpu.microcode ∧ (f (prefetch cpu)).2.status = 0)
    (hplain : (f cpu).1.model = cpu.model ∧ (f cpu).1.microcode = cpu.microcode ∧
      (f cpu).2.status = 0) : h.Leaves cpu (f (prefetchIf (decimalClear cpu) cpu)) := by
  cases hd : decimalClear cpu with
  | true =>
    refine ⟨{ samples := true, decimal := some false }, by simp [hexits], hsample.1, ?_,
      hsample.2.2, by simp [hsignal, hd], by simp [hd]⟩
    show (f (prefetch cpu)).1.microcode + 1 = cpu.microcode + 1
    rw [hsample.2.1]
  | false =>
    refine ⟨{ decimal := some true }, by simp [hexits], hplain.1, ?_, hplain.2.2,
      by simp [hsignal, hd], by simp [hd]⟩
    show (f cpu).1.microcode + 1 = cpu.microcode + 1
    rw [hplain.2.1]

theorem leaves_fetchOrDecimal {h : Handler} (operand : Byte → Byte) (dummy : Cpu → Word)
    {cpu : Cpu} {bus : Byte}
    (hexits : h.exits =
      [{ move := .skip 1, status := statusOpcodeFetch, decimal := some false },
        { samples := true, decimal := some true }])
    (hsignal : h.signal cpu = if !decimalClear cpu then .sample else .none) :
    h.Leaves cpu (fetchOrDecimalDummyPrefetchDecimalSet operand dummy cpu bus) := by
  dsimp only [fetchOrDecimalDummyPrefetchDecimalSet]
  by_cases hd : cpu.p &&& flagD = 0
  · have hclear : decimalClear cpu = true := decide_eq_true hd
    rw [hclear]
    refine ⟨{ move := .skip 1, status := statusOpcodeFetch, decimal := some false },
      by simp [hexits], ?_⟩
    have hif : (prefetchIf (!true) cpu).p &&& flagD = 0 := hd
    rw [if_pos hif]
    exact ⟨rfl, rfl, fetch_status _, by simp [hsignal, hclear], by simp [hclear]⟩
  · have hclear : decimalClear cpu = false := decide_eq_false hd
    rw [hclear]
    refine ⟨{ samples := true, decimal := some true }, by simp [hexits], ?_⟩
    have hif : ¬(prefetchIf (!false) cpu).p &&& flagD = 0 := hd
    rw [if_neg hif]
    exact ⟨rfl, rfl, rfl, by simp [hsignal, hclear], by simp [hclear]⟩

theorem adcValue_frame (cpu : Cpu) (value : Byte) :
    ∃ p a, adcValue cpu value = { cpu with p := p, a := a } := by
  unfold adcValue
  split
  · exact ⟨_, _, rfl⟩
  · exact ⟨_, _, rfl⟩

theorem sbcValue_frame (cpu : Cpu) (value : Byte) :
    ∃ p a, sbcValue cpu value = { cpu with p := p, a := a } := by
  unfold sbcValue
  split
  · exact ⟨_, _, rfl⟩
  · exact ⟨_, _, rfl⟩

theorem arr_frame (cpu : Cpu) (bus : Byte) :
    ∃ p a, (let (cpu, result) :=
      if cpu.p &&& flagD = 0 then arrBinaryValue cpu (cpu.a &&& bus)
      else arrDecimalNmosValue cpu (cpu.a &&& bus)
    { cpu with a := result }) = { cpu with p := p, a := a } := by
  split
  next r hr =>
  split at hr
  · cases hr
    exact ⟨_, _, rfl⟩
  · dsimp only [arrDecimalNmosValue] at hr
    split at hr
    · cases hr
      exact ⟨_, _, rfl⟩
    · cases hr
      exact ⟨_, _, rfl⟩

theorem leaves_execFetch {h : Handler} (op : Cpu → Byte → Cpu) {cpu : Cpu} {bus : Byte}
    (hop : ∃ p a, op cpu bus = { cpu with p := p, a := a }) (hexits : h.exits = [h.plainExit])
    (hplain : h.plainExit = { status := (fetch cpu).status })
    (hsignal : h.signal cpu = .none) : h.Leaves cpu (execFetch op cpu bus) := by
  obtain ⟨p, a, hop⟩ := hop
  rw [execFetch, hop]
  refine leaves_by h.plainExit ?_ rfl ?_ ?_ ?_ ?_
  · rw [hexits]
    exact List.mem_singleton_self _
  · rw [hplain]
    rfl
  · rw [hplain]
    rfl
  · rw [hplain, hsignal]
    rfl
  · rw [hplain]

theorem leaves_modifyWritePrefetch {h : Handler} (op : Cpu → Byte → Cpu × Byte) {cpu : Cpu}
    (bus : Byte)
    (hop : ∃ p a, (op (prefetch cpu) cpu.latchData).1 = { prefetch cpu with p := p, a := a })
    (hexits : h.exits = [h.plainExit])
    (hplain : h.plainExit = { status := statusWriting, samples := true })
    (hsignal : h.signal cpu = .sample) : h.Leaves cpu (modifyWritePrefetch op cpu bus) := by
  obtain ⟨p, a, hop⟩ := hop
  refine leaves_by h.plainExit ?_ ?_ ?_ ?_ ?_ ?_
  · rw [hexits]
    exact List.mem_singleton_self _
  · exact (congrArg Cpu.model hop).trans rfl
  · rw [hplain]
    exact (congrArg (fun c => Cpu.microcode c + 1) hop).trans rfl
  · rw [hplain]
    rfl
  · rw [hplain, hsignal]
    rfl
  · rw [hplain]

theorem leaves_mcCmosRIndexedProbePrefetch (cpu : Cpu) (bus : Byte) :
    Handler.Leaves .mcCmosRIndexedProbePrefetchNoPageCrossDecimalClear cpu
      (mcCmosRIndexedProbePrefetchNoPageCrossDecimalClear cpu bus) := by
  have hsignal : Handler.signal cpu .mcCmosRIndexedProbePrefetchNoPageCrossDecimalClear =
    if noPageCross cpu && decimalClear cpu then .sample else .none := rfl
  have hexits : Handler.exits .mcCmosRIndexedProbePrefetchNoPageCrossDecimalClear =
    [{ move := .skip 1, samples := true, decimal := some false },
      { move := .skip 1, decimal := some true }, {}] := rfl
  dsimp only [mcCmosRIndexedProbePrefetchNoPageCrossDecimalClear, mcCmosRIndexedProbe]
  by_cases hc : cpu.latchData = 0
  · have hcross : noPageCross cpu = true := decide_eq_true hc
    have hif : ∀ b, (prefetchIf b cpu).latchData = 0 := fun b => by cases b <;> exact hc
    rw [if_pos (hif _), hcross]
    cases hd : decimalClear cpu with
    | true =>
      exact ⟨{ move := .skip 1, samples := true, decimal := some false }, by simp [hexits],
        rfl, rfl, rfl, by simp [hsignal, hcross, hd], by simp [hd]⟩
    | false =>
      exact ⟨{ move := .skip 1, decimal := some true }, by simp [hexits],
        rfl, rfl, rfl, by simp [hsignal, hcross, hd], by simp [hd]⟩
  · have hcross : noPageCross cpu = false := decide_eq_false hc
    have hif : ∀ b, ¬(prefetchIf b cpu).latchData = 0 := fun b => by cases b <;> exact hc
    rw [if_neg (hif _), hcross]
    exact leaves_by {} (by simp [hexits]) rfl rfl rfl (by simp [hsignal, hcross]) rfl

/-- A probe that samples and skips the cycle after it exactly when no page is crossed. -/
theorem leaves_noPageCross {h : Handler} {cpu : Cpu} {f : Cpu → Cpu × Tick}
    (r₁ r₂ : Cpu → Cpu × Tick)
    (hf : ∀ cpu, f cpu = if cpu.latchData = 0 then r₁ cpu else r₂ cpu)
    (hexits : h.exits = [{ move := .skip 1, samples := true }, {}])
    (hsignal : h.signal cpu = if noPageCross cpu then .sample else .none)
    (h₁ : (r₁ (prefetch cpu)).1.model = cpu.model ∧
      (r₁ (prefetch cpu)).1.microcode = cpu.microcode + 1 ∧ (r₁ (prefetch cpu)).2.status = 0)
    (h₂ : (r₂ cpu).1.model = cpu.model ∧ (r₂ cpu).1.microcode = cpu.microcode ∧
      (r₂ cpu).2.status = 0) : h.Leaves cpu (f (prefetchIf (noPageCross cpu) cpu)) := by
  by_cases hc : cpu.latchData = 0
  · have hcross : noPageCross cpu = true := decide_eq_true hc
    have hif : (prefetch cpu).latchData = 0 := hc
    have hrun : f (prefetchIf (noPageCross cpu) cpu) = r₁ (prefetch cpu) := by
      rw [hcross]
      exact (hf (prefetch cpu)).trans (if_pos hif)
    rw [hrun]
    refine leaves_by { move := .skip 1, samples := true } (by simp [hexits]) h₁.1 ?_ h₁.2.2
      (by simp [hsignal, hcross]) rfl
    rw [h₁.2.1]
    rfl
  · have hcross : noPageCross cpu = false := decide_eq_false hc
    have hrun : f (prefetchIf (noPageCross cpu) cpu) = r₂ cpu := by
      rw [hcross]
      exact (hf cpu).trans (if_neg hc)
    rw [hrun]
    refine leaves_by {} (by simp [hexits]) h₂.1 ?_ h₂.2.2 (by simp [hsignal, hcross]) rfl
    rw [h₂.2.1]
    rfl

/-! ### Every handler -/

/-- **The exits are complete.** -/
theorem exit_of_run (h : Handler) (cpu : Cpu) (bus : Byte) :
    h.Leaves cpu (h.run cpu bus) := by
  cases h
  case opKilJamRFfffPendingDataLoop =>
    exact leaves_by _ (List.mem_singleton_self _) rfl (BitVec.sub_add_cancel _ _) rfl rfl rfl
  case mcFetchIllegalExtDispatch =>
    exact leaves_by _ (List.mem_singleton_self _) rfl (BitVec.sub_add_cancel _ _)
      (fetch_status _) rfl rfl
  case mcInternalReset =>
    refine leaves_ite (fun _ => ?_) fun _ => ?_
    · exact leaves_by { move := .enter .reset0 0 } (by simp [Handler.exits]) rfl
        (BitVec.sub_add_cancel _ _) rfl rfl rfl
    · exact leaves_by { move := .stay, status := statusInternalReset } (by simp [Handler.exits])
        rfl (BitVec.sub_add_cancel _ _) (internalReset_status _) rfl rfl
  case mcBranchRelC1Apply | mcWdcBbrBbsC4Apply | mcCmosRIndexedProbe =>
    refine leaves_ite (fun _ => ?_) fun _ => ?_
    · exact leaves_by { move := .skip 1 } (by simp [Handler.exits]) rfl rfl rfl rfl rfl
    · exact leaves_by {} (by simp [Handler.exits]) rfl rfl rfl rfl rfl
  case mcStackPushStatusB =>
    show Handler.Leaves _ cpu (mcStackPushStatusB cpu bus)
    rw [mcStackPushStatusB_split]
    refine leaves_ite (fun _ => ?_) fun _ => leaves_ite (fun _ => ?_) fun _ => ?_
    · exact leaves_by { move := .enter .nmi 4, status := statusWriting }
        (by simp [Handler.exits]) rfl (BitVec.sub_add_cancel _ _) rfl rfl rfl
    · exact leaves_by { move := .enter .irq 4, status := statusWriting }
        (by simp [Handler.exits]) rfl (BitVec.sub_add_cancel _ _) rfl rfl rfl
    · exact leaves_by { status := statusWriting } (by simp [Handler.exits]) rfl rfl rfl rfl rfl
  case mcIrqC3PushP =>
    show Handler.Leaves _ cpu (mcIrqC3PushP cpu bus)
    rw [mcIrqC3PushP_split]
    refine leaves_ite (fun _ => ?_) fun _ => ?_
    · exact leaves_by { move := .enter .nmi 4, status := statusWriting }
        (by simp [Handler.exits]) rfl (BitVec.sub_add_cancel _ _) rfl rfl rfl
    · exact leaves_by { status := statusWriting } (by simp [Handler.exits]) rfl rfl rfl rfl rfl
  case mcCmosNmiC3PushP =>
    refine leaves_plain rfl ?_ ?_ rfl rfl <;> dsimp only [Handler.run, mcCmosNmiC3PushP] <;>
      rw [updateNmiLastSampled_eq] <;> rfl
  case mcNmosNmiC5VecHi =>
    refine leaves_plain rfl ?_ ?_ rfl rfl <;> dsimp only [Handler.run, mcNmosNmiC5VecHi] <;>
      rw [updateNmiLastSampled_eq] <;> rfl
  case mcCmosNmiC5VecHi | mcCmosIrqC5VecHi =>
    refine leaves_plain rfl ?_ ?_ rfl rfl <;>
      dsimp only [Handler.run, mcCmosNmiC5VecHi, mcCmosIrqC5VecHi, cmosInterruptVectorLow] <;>
      rw [updateNmiLastSampled_eq]
  case opAdcRReadyNonePendingDataFetch =>
    exact leaves_execFetch adcValue (adcValue_frame cpu bus) rfl rfl rfl
  case opSbcRReadyNonePendingDataFetch =>
    exact leaves_execFetch sbcValue (sbcValue_frame cpu bus) rfl rfl rfl
  case opArrRReadyNonePendingDataFetch =>
    exact leaves_execFetch (fun cpu bus =>
      let value := cpu.a &&& bus
      let (cpu, result) :=
        if cpu.p &&& flagD = 0 then arrBinaryValue cpu value else arrDecimalNmosValue cpu value
      { cpu with a := result }) (arr_frame cpu bus) rfl rfl rfl
  case opIscRwReadyAddrDataPendingNoneWrPrefetch =>
    exact leaves_modifyWritePrefetch
      (fun cpu data => (sbcValue cpu (data + 1), data + 1)) bus (sbcValue_frame _ _) rfl rfl rfl
  case opRraRwReadyAddrDataPendingNoneWrPrefetch =>
    exact leaves_modifyWritePrefetch (fun cpu data =>
      (adcValue (rorValue cpu data).1 (rorValue cpu data).2, (rorValue cpu data).2)) bus
      (adcValue_frame _ _) rfl rfl rfl
  case mcCmosJmpIndC4TargetHiRetryPrefetch =>
    refine leaves_plain rfl ?_ ?_ rfl rfl <;>
      dsimp only [Handler.run, mcCmosJmpIndC4TargetHiRetryPrefetch] <;> split <;> rfl
  case mcCmosRIndexedProbePrefetchNoPageCrossDecimalClear =>
    exact leaves_mcCmosRIndexedProbePrefetch cpu bus
  case mcCmosRIndexedProbeNoLatchPrefetchNoPageCross =>
    exact leaves_noPageCross (h := .mcCmosRIndexedProbeNoLatchPrefetchNoPageCross)
      (fun cpu => ({ cpu with pc := cpu.pc + 1, microcode := cpu.microcode + 1 },
          read (u16SetByte cpu.latchAddr 1 (bus + cpu.latchData))))
      (fun cpu =>
        let cpu := setLatchAddr1 cpu (bus + cpu.latchData)
        ({ cpu with pc := cpu.pc + 1 }, read cpu.pc))
      (fun _ => rfl) rfl rfl ⟨rfl, rfl, rfl⟩ ⟨rfl, rfl, rfl⟩
  case mcRIndexedProbeNoLatchPrefetchNoPageCross =>
    exact leaves_noPageCross (h := .mcRIndexedProbeNoLatchPrefetchNoPageCross)
      (fun cpu => ({ cpu with microcode := cpu.microcode + 1 },
          read (u16SetByte cpu.latchAddr 1 bus)))
      (fun cpu =>
        (setLatchAddr1 cpu (bus + cpu.latchData), read (u16SetByte cpu.latchAddr 1 bus)))
      (fun _ => rfl) rfl rfl ⟨rfl, rfl, rfl⟩ ⟨rfl, rfl, rfl⟩
  case mcLatchAddr1ReadLatchAddrPrefetchDecimalClear =>
    exact leaves_decimalClear (f := (mcLatchAddr1ReadLatchAddr · bus)) rfl rfl ⟨rfl, rfl, rfl⟩
      ⟨rfl, rfl, rfl⟩
  case mcLatchZpAddrReadLatchAddrPrefetchDecimalClear =>
    exact leaves_decimalClear (f := (mcLatchZpAddrReadLatchAddr · bus)) rfl rfl ⟨rfl, rfl, rfl⟩
      ⟨rfl, rfl, rfl⟩
  case mcRIzxC4DataPrefetchDecimalClear =>
    exact leaves_decimalClear (f := (mcRIzxC4Data · bus)) rfl rfl ⟨rfl, rfl, rfl⟩
      ⟨rfl, rfl, rfl⟩
  case mcReadLatchAddrPrefetchDecimalClear =>
    exact leaves_decimalClear (f := fun c => (c, read cpu.latchAddr)) rfl rfl ⟨rfl, rfl, rfl⟩
      ⟨rfl, rfl, rfl⟩
  case mcReadPcIncPrefetchDecimalClear =>
    exact leaves_decimalClear (f := readPcInc) rfl rfl ⟨rfl, rfl, rfl⟩ ⟨rfl, rfl, rfl⟩
  case opBccBranchC0OffsetPrefetch | opBcsBranchC0OffsetPrefetch | opBeqBranchC0OffsetPrefetch
      | opBmiBranchC0OffsetPrefetch | opBneBranchC0OffsetPrefetch | opBplBranchC0OffsetPrefetch
      | opBvcBranchC0OffsetPrefetch | opBvsBranchC0OffsetPrefetch =>
    exact leaves_branchC0Offset _ rfl rfl
  case mcWdcBbrBbsC3OffsetOrSkipPrefetch =>
    exact leaves_branchC0Offset
      (if currentOpcodeSlot cpu >>> 4 < 8#8 then
        bus &&& bitMask (currentOpcodeSlot cpu >>> 4) = 0
      else bus &&& bitMask (currentOpcodeSlot cpu >>> 4 - 8) ≠ 0) rfl rfl
  case opCmosAdcRReadyAddrPendingDataFetchOrDecimalDummyPrefetchDecimalSet =>
    exact leaves_fetchOrDecimal id Cpu.latchAddr rfl rfl
  case opCmosSbcRReadyAddrPendingDataFetchOrDecimalDummyPrefetchDecimalSet =>
    exact leaves_fetchOrDecimal (· ^^^ 0xFF) Cpu.latchAddr rfl rfl
  case opCmosSbcImmReadyNonePendingDataFetchOrDecimalDummyPrefetchDecimalSet =>
    exact leaves_fetchOrDecimal (· ^^^ 0xFF) (fun _ => 0x0000) rfl rfl
  case opWdcAdcImmReadyNonePendingDataFetchOrDecimalDummyPrefetchDecimalSet =>
    exact leaves_fetchOrDecimal id (fun _ => 0x007F) rfl rfl
  case opRwAdcImmReadyNonePendingDataFetchOrDecimalDummyPrefetchDecimalSet =>
    exact leaves_fetchOrDecimal id (fun _ => 0x0059) rfl rfl
  case opStAdcImmReadyNonePendingDataFetchOrDecimalDummyPrefetchDecimalSet =>
    exact leaves_fetchOrDecimal id (fun _ => 0x0056) rfl rfl
  all_goals exact leaves_plain rfl rfl rfl rfl rfl

end Qe6502
