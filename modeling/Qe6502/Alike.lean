import Qe6502.Latches

/-!
# Handlers run alike

`run_vary`: in two contexts that differ in a variation, a handler that reads only what is known
of the latches asks for the same bus access and leaves the same difference.
-/

namespace Qe6502

/-! ### Probes -/

section probe

variable {c : Cpu} {bus : Byte}

theorem mcCmosRIndexedProbe_same (hc : c.latchData = 0) : mcCmosRIndexedProbe c bus =
    ({ setLatchAddr1 c (bus + c.latchData) with pc := c.pc + 1, microcode := c.microcode + 1 },
      read (u16SetByte c.latchAddr 1 (bus + c.latchData))) :=
  if_pos hc

theorem mcCmosRIndexedProbe_cross (hc : c.latchData ≠ 0) : mcCmosRIndexedProbe c bus =
    ({ setLatchAddr1 c (bus + c.latchData) with pc := c.pc + 1 }, read c.pc) :=
  if_neg hc

theorem mcCmosRIndexedProbeNoLatch_same (hc : c.latchData = 0) :
    mcCmosRIndexedProbeNoLatchPrefetchNoPageCross c bus =
      ({ prefetch c with pc := c.pc + 1, microcode := c.microcode + 1 },
        read (u16SetByte c.latchAddr 1 (bus + c.latchData))) := by
  have hclear : noPageCross c = true := decide_eq_true hc
  rw [mcCmosRIndexedProbeNoLatchPrefetchNoPageCross, hclear]
  exact if_pos hc

theorem mcCmosRIndexedProbeNoLatch_cross (hc : c.latchData ≠ 0) :
    mcCmosRIndexedProbeNoLatchPrefetchNoPageCross c bus =
      ({ setLatchAddr1 c (bus + c.latchData) with pc := c.pc + 1 }, read c.pc) := by
  have hclear : noPageCross c = false := decide_eq_false hc
  rw [mcCmosRIndexedProbeNoLatchPrefetchNoPageCross, hclear]
  exact if_neg hc

theorem mcRIndexedProbeNoLatch_same (hc : c.latchData = 0) :
    mcRIndexedProbeNoLatchPrefetchNoPageCross c bus =
      ({ prefetch c with microcode := c.microcode + 1 }, read (u16SetByte c.latchAddr 1 bus)) := by
  have hclear : noPageCross c = true := decide_eq_true hc
  rw [mcRIndexedProbeNoLatchPrefetchNoPageCross, hclear]
  exact if_pos hc

theorem mcRIndexedProbeNoLatch_cross (hc : c.latchData ≠ 0) :
    mcRIndexedProbeNoLatchPrefetchNoPageCross c bus =
      (setLatchAddr1 c (bus + c.latchData), read (u16SetByte c.latchAddr 1 bus)) := by
  have hclear : noPageCross c = false := decide_eq_false hc
  rw [mcRIndexedProbeNoLatchPrefetchNoPageCross, hclear]
  exact if_neg hc

end probe

/-! ### Composed operations -/

theorem varies_onAccumulator {op : Cpu → Byte → Cpu × Byte}
    (hop : ∀ b, VariesValue (op · b)) :
    Varies (onAccumulator op) := by
  intro cpu v h
  obtain ⟨q, heq, hq, haddr, hdata⟩ := hop cpu.a cpu v h
  dsimp only at heq
  have ha : (cpu.vary v).a = cpu.a := rfl
  dsimp only [onAccumulator]
  rw [ha, heq]
  exact ⟨q, rfl, hq, haddr, hdata⟩

theorem VariesValue.then {op : Cpu → Byte → Cpu × Byte} {value : Byte}
    {f : Cpu → Byte → Cpu}
    (hop : VariesValue (op · value)) (hf : ∀ b, Varies (f · b)) :
    VariesValue fun cpu => (f (op cpu value).1 (op cpu value).2, (op cpu value).2) := by
  intro cpu v h
  obtain ⟨q, heq, hq, haddr, hdata⟩ := hop cpu v h
  dsimp only at heq hq haddr hdata
  obtain ⟨q', heq', hq', haddr', hdata'⟩ :=
    hf (op cpu value).2 (op cpu value).1 { v with p := q } hq
  dsimp only at heq' ⊢
  rw [heq]
  dsimp only
  rw [heq']
  exact ⟨q', rfl, hq', haddr'.trans haddr, hdata'.trans hdata⟩

theorem varies_loadA (f : Byte → Byte) : Varies fun cpu => loadA cpu (f cpu.a) :=
  fun _ _ h => ⟨_, rfl, h.update _ _, rfl, rfl⟩

/-! ### Handlers with a lemma of their own -/

/-- Run in both contexts, the handler keeps what is known and adds what it writes. -/
def RunsAlike (h : Handler) (known : Latches) (cpu : Cpu) (v : Variation) (bus : Byte) : Prop :=
  Carries ((h.writes ((h.run cpu bus).1.microcode == cpu.microcode)).union known)
    (h.run cpu bus) (h.run (cpu.vary v) bus)

theorem prefetchIf_vary (cond : Bool) (cpu : Cpu) (v : Variation) :
    prefetchIf cond (cpu.vary v) = (prefetchIf cond cpu).vary v := by
  cases cond <;> rfl

theorem prefetchIf_carried (cond : Bool) (cpu : Cpu) :
    (prefetchIf cond cpu).carried = cpu.carried := by
  cases cond <;> rfl

section handlers

variable {known : Latches} {cpu : Cpu} {v : Variation} (bus : Byte)

theorem carries_branch (mask : Byte) (hmask : mask &&& internalFlags = 0#8)
    (taken : Byte → Bool) (hk : Known known cpu.carried v) :
    Carries known (branchC0Offset cpu (taken (cpu.p &&& mask)))
      (branchC0Offset (cpu.vary v) (taken ((cpu.vary v).p &&& mask))) := by
  rw [hk.flag_eq hmask]
  exact carries_branchC0Offset hk _

theorem Known.of_prefetchIf (hk : Known known cpu.carried v) (cond : Bool) :
    Known known (prefetchIf cond cpu).carried v := by
  rw [prefetchIf_carried]
  exact hk

theorem carries_mcRIzxC4Data (hk : Known known cpu.carried v)
    (hle : Latches.Le { data := true } known) :
    Carries (Latches.union { low := true, high := true } known) (mcRIzxC4Data cpu bus)
      (mcRIzxC4Data (cpu.vary v) bus) := by
  have hdata : v.latchData = cpu.latchData := hk.data (hle.data rfl)
  obtain ⟨p, addr, data, ext⟩ := v
  dsimp only at hdata
  subst hdata
  exact ⟨_, rfl, hk.set_addr _⟩

theorem carries_mcLatchAddr1ReadLatchAddr (hk : Known known cpu.carried v)
    (hle : Latches.Le { low := true } known) :
    Carries (Latches.union { high := true } known) (mcLatchAddr1ReadLatchAddr cpu bus)
      (mcLatchAddr1ReadLatchAddr (cpu.vary v) bus) := by
  have hset : u16SetByte v.latchAddr 1 bus = u16SetByte cpu.latchAddr 1 bus :=
    setByte_one_congr bus (hk.low (hle.low rfl))
  exact ⟨_, Prod.ext rfl (congrArg read hset), hk.set_high bus⟩

theorem carries_mcCmosRIndexedProbe (hk : Known known cpu.carried v)
    (hle : Latches.Le { low := true, data := true } known) :
    Carries (Latches.union { high := true } known) (mcCmosRIndexedProbe cpu bus)
      (mcCmosRIndexedProbe (cpu.vary v) bus) := by
  have hdata : v.latchData = cpu.latchData := hk.data (hle.data rfl)
  obtain ⟨p, addr, data, ext⟩ := v
  dsimp only at hdata
  subst hdata
  have hset : u16SetByte addr 1 (bus + cpu.latchData) =
      u16SetByte cpu.latchAddr 1 (bus + cpu.latchData) :=
    setByte_one_congr _ (hk.low (hle.low rfl))
  by_cases hcross : cpu.latchData = 0
  · rw [mcCmosRIndexedProbe_same hcross,
      mcCmosRIndexedProbe_same (c := cpu.vary ⟨p, addr, cpu.latchData, ext⟩) hcross]
    exact ⟨_, Prod.ext rfl (congrArg read hset), hk.set_high _⟩
  · rw [mcCmosRIndexedProbe_cross hcross,
      mcCmosRIndexedProbe_cross (c := cpu.vary ⟨p, addr, cpu.latchData, ext⟩) hcross]
    exact ⟨_, rfl, hk.set_high _⟩

theorem alike_opCmosAdcDecReadyNonePendingDummyFetch (hk : Known known cpu.carried v)
    (hle : Handler.opCmosAdcDecReadyNonePendingDummyFetch.reads.Le known) :
    RunsAlike .opCmosAdcDecReadyNonePendingDummyFetch known cpu v bus := by
  have hdata : v.latchData = cpu.latchData := hk.data (hle.data rfl)
  obtain ⟨p, addr, data, ext⟩ := v
  dsimp only at hdata
  subst hdata
  obtain ⟨q, heq, hq, haddr, hdata⟩ := varies_adcDecimalCmos cpu.latchData cpu _ hk.p
  dsimp only at heq
  refine ⟨_, ?_, hk.of_op hq haddr hdata⟩
  exact congrArg (fun c => (c, fetch c)) heq

theorem alike_opCmosSbcDecReadyNonePendingDummyFetch (hk : Known known cpu.carried v)
    (hle : Handler.opCmosSbcDecReadyNonePendingDummyFetch.reads.Le known) :
    RunsAlike .opCmosSbcDecReadyNonePendingDummyFetch known cpu v bus := by
  have hdata : v.latchData = cpu.latchData := hk.data (hle.data rfl)
  obtain ⟨p, addr, data, ext⟩ := v
  dsimp only at hdata
  subst hdata
  obtain ⟨q, heq, hq, haddr, hdata⟩ := varies_sbcDecimalCmos cpu.latchData cpu _ hk.p
  dsimp only at heq
  refine ⟨_, ?_, hk.of_op hq haddr hdata⟩
  exact congrArg (fun c => (c, fetch c)) heq

theorem alike_opArrRReadyNonePendingDataFetch (hk : Known known cpu.carried v) :
    RunsAlike .opArrRReadyNonePendingDataFetch known cpu v bus := by
  dsimp only [RunsAlike, Handler.run]
  refine carries_execFetch (fun cpu v h => ?_) hk
  have hd : (cpu.vary v).p &&& flagD = cpu.p &&& flagD := h.flag_eq (by decide)
  have ha : (cpu.vary v).a = cpu.a := rfl
  dsimp only
  rw [hd, ha]
  split
  · obtain ⟨q, heq, hq, haddr, hdata⟩ := varies_arrBinaryValue (cpu.a &&& bus) cpu v h
    refine ⟨q, ?_, hq, haddr, hdata⟩
    exact congrArg (fun r : Cpu × Byte => { r.1 with a := r.2 }) heq
  · obtain ⟨q, heq, hq, haddr, hdata⟩ := varies_arrDecimalNmosValue (cpu.a &&& bus) cpu v h
    refine ⟨q, ?_, hq, haddr, hdata⟩
    exact congrArg (fun r : Cpu × Byte => { r.1 with a := r.2 }) heq

theorem alike_opTasUnstableWReadyAddrPendingNoneWrPrefetch (hk : Known known cpu.carried v)
    (hle : Handler.opTasUnstableWReadyAddrPendingNoneWrPrefetch.reads.Le known) :
    RunsAlike .opTasUnstableWReadyAddrPendingNoneWrPrefetch known cpu v bus := by
  have haddr : v.latchAddr = cpu.latchAddr := hk.addr ⟨hle.low, hle.high, nofun⟩
  have hdata : v.latchData = cpu.latchData := hk.data (hle.data rfl)
  obtain ⟨p, addr, data, ext⟩ := v
  dsimp only at haddr hdata
  subst haddr hdata
  exact ⟨_, rfl, hk⟩

theorem alike_mcLatchAddr1SetPcFetch (hk : Known known cpu.carried v)
    (hle : Handler.mcLatchAddr1SetPcFetch.reads.Le known) :
    RunsAlike .mcLatchAddr1SetPcFetch known cpu v bus := by
  have hset : u16SetByte v.latchAddr 1 bus = u16SetByte cpu.latchAddr 1 bus :=
    setByte_one_congr bus (hk.low (hle.low rfl))
  refine ⟨{ v with latchAddr := u16SetByte cpu.latchAddr 1 bus }, ?_,
    (hk.set_addr _).mono ⟨fun _ => rfl, fun _ => rfl, id⟩⟩
  exact congrArg (fun addr : Word =>
    (({ cpu.vary v with latchAddr := addr, pc := addr } : Cpu),
      fetch { cpu.vary v with latchAddr := addr, pc := addr })) hset

theorem alike_mcJmpIndC2TargetLo (hk : Known known cpu.carried v)
    (hle : Handler.mcJmpIndC2TargetLo.reads.Le known) :
    RunsAlike .mcJmpIndC2TargetLo known cpu v bus := by
  have hset : u16SetByte v.latchAddr 1 bus = u16SetByte cpu.latchAddr 1 bus :=
    setByte_one_congr bus (hk.low (hle.low rfl))
  refine ⟨{ v with latchAddr := _ }, ?_, hk.set_addr _⟩
  exact congrArg (fun addr : Word =>
    (({ cpu.vary v with latchAddr := u16SetByte addr 0 (u16GetByte addr 0 + 1) } : Cpu),
      read addr)) hset

theorem alike_mcJmpIndC4Fetch (hk : Known known cpu.carried v)
    (hle : Handler.mcJmpIndC4Fetch.reads.Le known) :
    RunsAlike .mcJmpIndC4Fetch known cpu v bus := by
  have hdata : v.latchData = cpu.latchData := hk.data (hle.data rfl)
  refine ⟨v, ?_, hk⟩
  exact congrArg (fun data : Byte =>
    (({ cpu.vary v with pc := u16SetByte (data.setWidth 16) 1 bus } : Cpu),
      fetch { cpu.vary v with pc := u16SetByte (data.setWidth 16) 1 bus })) hdata

theorem alike_mcCmosJmpIndC4TargetHiRetryPrefetch (hk : Known known cpu.carried v)
    (hle : Handler.mcCmosJmpIndC4TargetHiRetryPrefetch.reads.Le known) :
    RunsAlike .mcCmosJmpIndC4TargetHiRetryPrefetch known cpu v bus := by
  have haddr : v.latchAddr = cpu.latchAddr := hk.addr hle
  obtain ⟨p, addr, data, ext⟩ := v
  dsimp only at haddr
  subst haddr
  dsimp only [RunsAlike, Handler.run]
  by_cases hwrap : u16GetByte cpu.latchAddr 0 = 0
  · have hrun : ∀ c : Cpu, u16GetByte c.latchAddr 0 = 0 →
        mcCmosJmpIndC4TargetHiRetryPrefetch c bus =
          let high := u16GetByte c.latchAddr 1 + 1
          (setLatchAddr1 (prefetch c) high, read (u16SetByte c.latchAddr 1 high)) := by
      intro c hc
      have hc' : u16GetByte (prefetch c).latchAddr 0 = 0 := hc
      dsimp only [mcCmosJmpIndC4TargetHiRetryPrefetch]
      rw [if_pos hc']
      rfl
    rw [hrun _ hwrap, hrun (cpu.vary ⟨p, cpu.latchAddr, data, ext⟩) hwrap]
    exact ⟨⟨p, _, data, ext⟩, rfl, hk.p, fun _ => rfl, fun _ => rfl, hk.data⟩
  · have hrun : ∀ c : Cpu, ¬u16GetByte c.latchAddr 0 = 0 →
        mcCmosJmpIndC4TargetHiRetryPrefetch c bus = (prefetch c, read c.latchAddr) := by
      intro c hc
      have hc' : ¬u16GetByte (prefetch c).latchAddr 0 = 0 := hc
      dsimp only [mcCmosJmpIndC4TargetHiRetryPrefetch]
      rw [if_neg hc']
      rfl
    rw [hrun _ hwrap, hrun (cpu.vary ⟨p, cpu.latchAddr, data, ext⟩) hwrap]
    exact ⟨_, rfl, hk⟩

theorem alike_mcWIndexedProbe (hk : Known known cpu.carried v)
    (hle : Handler.mcWIndexedProbe.reads.Le known) :
    RunsAlike .mcWIndexedProbe known cpu v bus := by
  have hdata : v.latchData = cpu.latchData := hk.data (hle.data rfl)
  obtain ⟨p, addr, data, ext⟩ := v
  dsimp only at hdata
  subst hdata
  have hset : u16SetByte addr 1 bus = u16SetByte cpu.latchAddr 1 bus :=
    setByte_one_congr bus (hk.low (hle.low rfl))
  exact ⟨_, Prod.ext rfl (congrArg read hset), hk.set_high _⟩

theorem alike_mcCmosRIndexedProbeNoLatchPrefetchNoPageCross (hk : Known known cpu.carried v)
    (hle : Handler.mcCmosRIndexedProbeNoLatchPrefetchNoPageCross.reads.Le known) :
    RunsAlike .mcCmosRIndexedProbeNoLatchPrefetchNoPageCross known cpu v bus := by
  have hdata : v.latchData = cpu.latchData := hk.data (hle.data rfl)
  obtain ⟨p, addr, data, ext⟩ := v
  dsimp only at hdata
  subst hdata
  have hset : u16SetByte addr 1 (bus + cpu.latchData) =
      u16SetByte cpu.latchAddr 1 (bus + cpu.latchData) :=
    setByte_one_congr _ (hk.low (hle.low rfl))
  by_cases hcross : cpu.latchData = 0
  · dsimp only [RunsAlike, Handler.run]
    rw [mcCmosRIndexedProbeNoLatch_same hcross,
      mcCmosRIndexedProbeNoLatch_same (c := cpu.vary ⟨p, addr, cpu.latchData, ext⟩) hcross]
    dsimp only
    rw [next_ne]
    exact ⟨_, Prod.ext rfl (congrArg read hset), hk⟩
  · dsimp only [RunsAlike, Handler.run]
    rw [mcCmosRIndexedProbeNoLatch_cross hcross,
      mcCmosRIndexedProbeNoLatch_cross (c := cpu.vary ⟨p, addr, cpu.latchData, ext⟩) hcross]
    dsimp only [setLatchAddr1]
    rw [beq_self_eq_true]
    exact ⟨_, rfl, hk.set_high _⟩

theorem alike_mcRIndexedProbeNoLatchPrefetchNoPageCross (hk : Known known cpu.carried v)
    (hle : Handler.mcRIndexedProbeNoLatchPrefetchNoPageCross.reads.Le known) :
    RunsAlike .mcRIndexedProbeNoLatchPrefetchNoPageCross known cpu v bus := by
  have hdata : v.latchData = cpu.latchData := hk.data (hle.data rfl)
  obtain ⟨p, addr, data, ext⟩ := v
  dsimp only at hdata
  subst hdata
  have hset : u16SetByte addr 1 bus = u16SetByte cpu.latchAddr 1 bus :=
    setByte_one_congr bus (hk.low (hle.low rfl))
  by_cases hcross : cpu.latchData = 0
  · dsimp only [RunsAlike, Handler.run]
    rw [mcRIndexedProbeNoLatch_same hcross,
      mcRIndexedProbeNoLatch_same (c := cpu.vary ⟨p, addr, cpu.latchData, ext⟩) hcross]
    dsimp only
    rw [next_ne]
    exact ⟨_, Prod.ext rfl (congrArg read hset), hk⟩
  · dsimp only [RunsAlike, Handler.run]
    rw [mcRIndexedProbeNoLatch_cross hcross,
      mcRIndexedProbeNoLatch_cross (c := cpu.vary ⟨p, addr, cpu.latchData, ext⟩) hcross]
    dsimp only [setLatchAddr1]
    rw [beq_self_eq_true]
    exact ⟨_, Prod.ext rfl (congrArg read hset), hk.set_high _⟩

theorem alike_mcBranchRelC1Apply (hk : Known known cpu.carried v) :
    RunsAlike .mcBranchRelC1Apply known cpu v bus := by
  dsimp only [RunsAlike, Handler.run, mcBranchRelC1Apply]
  by_cases hpage : u16GetByte cpu.pc 1 = u16GetByte (branchTarget cpu.pc bus) 1
  · have hpage' : u16GetByte (cpu.vary v).pc 1 =
      u16GetByte (branchTarget (cpu.vary v).pc bus) 1 := hpage
    rw [if_pos hpage, if_pos hpage', next_ne]
    exact ⟨v, rfl, hk⟩
  · have hpage' : ¬u16GetByte (cpu.vary v).pc 1 =
      u16GetByte (branchTarget (cpu.vary v).pc bus) 1 := hpage
    rw [if_neg hpage, if_neg hpage', beq_self_eq_true]
    exact ⟨_, rfl, hk.set_addr _⟩

theorem alike_mcWdcBbrBbsC4Apply (hk : Known known cpu.carried v) :
    RunsAlike .mcWdcBbrBbsC4Apply known cpu v bus := by
  dsimp only [RunsAlike, Handler.run, mcWdcBbrBbsC4Apply]
  by_cases hpage : u16GetByte cpu.pc 1 = u16GetByte (branchTarget cpu.pc bus) 1
  · have hpage' : u16GetByte (cpu.vary v).pc 1 =
      u16GetByte (branchTarget (cpu.vary v).pc bus) 1 := hpage
    rw [if_pos hpage, if_pos hpage', next_ne]
    exact ⟨v, rfl, hk⟩
  · have hpage' : ¬u16GetByte (cpu.vary v).pc 1 =
      u16GetByte (branchTarget (cpu.vary v).pc bus) 1 := hpage
    rw [if_neg hpage, if_neg hpage', beq_self_eq_true]
    exact ⟨_, rfl, hk.set_addr _⟩

theorem alike_mcInternalReset (hk : Known known cpu.carried v)
    (hle : Handler.mcInternalReset.reads.Le known) :
    RunsAlike .mcInternalReset known cpu v bus := by
  have hdata : v.latchData = cpu.latchData := hk.data (hle.data rfl)
  obtain ⟨p, addr, data, ext⟩ := v
  dsimp only at hdata
  subst hdata
  dsimp only [RunsAlike, Handler.run, mcInternalReset]
  by_cases hlast : cpu.latchData + 1 = 8
  · have hlast' : (cpu.vary ⟨p, addr, cpu.latchData, ext⟩).latchData + 1 = 8 := hlast
    rw [if_pos hlast, if_pos hlast']
    exact ⟨_, rfl, hk.set_data _⟩
  · have hlast' : ¬(cpu.vary ⟨p, addr, cpu.latchData, ext⟩).latchData + 1 = 8 := hlast
    rw [if_neg hlast, if_neg hlast']
    exact ⟨_, rfl, hk.set_data _⟩

theorem alike_mcNmiC3PushP (hk : Known known cpu.carried v) :
    RunsAlike .mcNmiC3PushP known cpu v bus := by
  have hstatus : stackStatus v.p 0 = stackStatus cpu.p 0 := hk.p.stackStatus_eq (.inl rfl)
  have hactive : findActiveInterrupt cpu.interrupts v.p =
    findActiveInterrupt cpu.interrupts cpu.p := hk.p.findActiveInterrupt_eq cpu.interrupts
  dsimp only [RunsAlike, Handler.run, mcNmiC3PushP, Cpu.vary]
  rw [hactive]
  exact ⟨v, Prod.ext rfl (congrArg (write (stackAddress cpu.s)) hstatus), hk⟩

theorem alike_mcStackPushStatusB (hk : Known known cpu.carried v) :
    RunsAlike .mcStackPushStatusB known cpu v bus := by
  have hstatus : stackStatus v.p flagB = stackStatus cpu.p flagB := hk.p.stackStatus_eq (.inr rfl)
  have hpushed : Signal.pushed cpu.interrupts v.p = Signal.pushed cpu.interrupts cpu.p :=
    hk.p.pushed_eq cpu.interrupts
  dsimp only [RunsAlike, Handler.run]
  rw [mcStackPushStatusB_split, mcStackPushStatusB_split]
  dsimp only [Cpu.vary]
  rw [hpushed, hstatus]
  split
  · exact ⟨v, rfl, hk⟩
  · split <;> exact ⟨v, rfl, hk⟩

theorem alike_mcIrqC3PushP (hk : Known known cpu.carried v) :
    RunsAlike .mcIrqC3PushP known cpu v bus := by
  have hstatus : stackStatus v.p 0 = stackStatus cpu.p 0 := hk.p.stackStatus_eq (.inl rfl)
  have hpushed : Signal.pushed cpu.interrupts v.p = Signal.pushed cpu.interrupts cpu.p :=
    hk.p.pushed_eq cpu.interrupts
  dsimp only [RunsAlike, Handler.run]
  rw [mcIrqC3PushP_split, mcIrqC3PushP_split]
  dsimp only [Cpu.vary]
  rw [hpushed, hstatus]
  split <;> exact ⟨v, rfl, hk⟩

end handlers

/-! ### Every handler -/

/-- **A handler that reads only what is known runs alike.** -/
theorem run_vary {h : Handler} {known : Latches} {cpu : Cpu} {v : Variation} (bus : Byte)
    (hk : Known known cpu.carried v) (hle : h.reads.Le known) :
    RunsAlike h known cpu v bus := by
  cases h
  case opAndRReadyNonePendingDataFetch | opAncRReadyNonePendingDataFetch
      | opAlrRReadyNonePendingDataFetch | opAxsRReadyNonePendingDataFetch
      | opXaaRReadyNonePendingDataFetch | opLxaRReadyNonePendingDataFetch
      | opBitRReadyNonePendingDataFetch | opCmosBitImmReadyNonePendingDataFetch
      | opCmpRReadyNonePendingDataFetch | opCpxRReadyNonePendingDataFetch
      | opCpyRReadyNonePendingDataFetch | opEorRReadyNonePendingDataFetch
      | mcLoadAUpdateNzFetch | opLaxRReadyNonePendingDataFetch | opLasRReadyNonePendingDataFetch
      | mcLoadXUpdateNzFetch | mcLoadYUpdateNzFetch | opOraRReadyNonePendingDataFetch =>
    dsimp only [RunsAlike, Handler.run]
    refine carries_execFetch (fun _ _ h => ?_) hk
    exact ⟨_, rfl, h.update _ _, rfl, rfl⟩
  case opAdcRReadyNonePendingDataFetch => exact carries_execFetch (varies_adcValue bus) hk
  case opNesAdcRReadyNonePendingDataFetch => exact carries_execFetch (varies_adcBinary bus) hk
  case opSbcRReadyNonePendingDataFetch => exact carries_execFetch (varies_sbcValue bus) hk
  case opNesSbcRReadyNonePendingDataFetch => exact carries_execFetch (varies_adcBinary _) hk
  case opPlpStackPullReadyNonePendingDataFetch =>
    dsimp only [RunsAlike, Handler.run]
    refine carries_execFetch (fun _ _ h => ?_) hk
    exact ⟨_, rfl, rfl, rfl, rfl⟩
  case opCmosAdcDecReadyNonePendingDummyFetch =>
    exact alike_opCmosAdcDecReadyNonePendingDummyFetch bus hk hle
  case opCmosSbcDecReadyNonePendingDummyFetch =>
    exact alike_opCmosSbcDecReadyNonePendingDummyFetch bus hk hle
  case opNesArrRReadyNonePendingDataFetch =>
    dsimp only [RunsAlike, Handler.run]
    refine carries_execFetch (fun cpu v h => ?_) hk
    obtain ⟨q, heq, hq, haddr, hdata⟩ := varies_arrBinaryValue (cpu.a &&& bus) cpu v h
    refine ⟨q, ?_, hq, haddr, hdata⟩
    exact congrArg (fun r : Cpu × Byte => { r.1 with a := r.2 }) heq
  case opArrRReadyNonePendingDataFetch => exact alike_opArrRReadyNonePendingDataFetch bus hk
  case opAslAccReadyNonePendingNoneDummyPrefetch =>
    dsimp only [RunsAlike, Handler.run]
    exact carries_dummyPrefetch (varies_onAccumulator varies_aslValue) hk
  case opLsrAccReadyNonePendingNoneDummyPrefetch =>
    dsimp only [RunsAlike, Handler.run]
    exact carries_dummyPrefetch (varies_onAccumulator varies_lsrValue) hk
  case opRolAccReadyNonePendingNoneDummyPrefetch =>
    dsimp only [RunsAlike, Handler.run]
    exact carries_dummyPrefetch (varies_onAccumulator varies_rolValue) hk
  case opRorAccReadyNonePendingNoneDummyPrefetch =>
    dsimp only [RunsAlike, Handler.run]
    exact carries_dummyPrefetch (varies_onAccumulator varies_rorValue) hk
  case opClcImpReadyNonePendingNoneDummyPrefetch | opCldImpReadyNonePendingNoneDummyPrefetch
      | opCliImpReadyNonePendingNoneDummyPrefetch | opClvImpReadyNonePendingNoneDummyPrefetch =>
    dsimp only [RunsAlike, Handler.run]
    refine carries_dummyPrefetch (fun _ _ h => ?_) hk
    exact ⟨_, rfl, h.and _, rfl, rfl⟩
  case opSecImpReadyNonePendingNoneDummyPrefetch | opSedImpReadyNonePendingNoneDummyPrefetch
      | opSeiImpReadyNonePendingNoneDummyPrefetch =>
    dsimp only [RunsAlike, Handler.run]
    refine carries_dummyPrefetch (fun _ _ h => ?_) hk
    exact ⟨_, rfl, h.or _, rfl, rfl⟩
  case opTxsImpReadyNonePendingNoneDummyPrefetch =>
    dsimp only [RunsAlike, Handler.run]
    refine carries_dummyPrefetch (fun _ _ h => ?_) hk
    exact ⟨_, rfl, h, rfl, rfl⟩
  case opCmosDecAccReadyNonePendingNoneDummyPrefetch
      | opCmosIncAccReadyNonePendingNoneDummyPrefetch
      | opDexImpReadyNonePendingNoneDummyPrefetch | opDeyImpReadyNonePendingNoneDummyPrefetch
      | opInxImpReadyNonePendingNoneDummyPrefetch | opInyImpReadyNonePendingNoneDummyPrefetch
      | opTaxImpReadyNonePendingNoneDummyPrefetch | opTayImpReadyNonePendingNoneDummyPrefetch
      | opTsxImpReadyNonePendingNoneDummyPrefetch | opTxaImpReadyNonePendingNoneDummyPrefetch
      | opTyaImpReadyNonePendingNoneDummyPrefetch =>
    dsimp only [RunsAlike, Handler.run]
    refine carries_dummyPrefetch (fun _ _ h => ?_) hk
    exact ⟨_, rfl, h.update _ _, rfl, rfl⟩
  case opAslRwReadyAddrDataPendingNoneWrPrefetch =>
    dsimp only [RunsAlike, Handler.run]
    exact carries_modifyWritePrefetch (varies_aslValue _) hk hle
  case opLsrRwReadyAddrDataPendingNoneWrPrefetch =>
    dsimp only [RunsAlike, Handler.run]
    exact carries_modifyWritePrefetch (varies_lsrValue _) hk hle
  case opRolRwReadyAddrDataPendingNoneWrPrefetch =>
    dsimp only [RunsAlike, Handler.run]
    exact carries_modifyWritePrefetch (varies_rolValue _) hk hle
  case opRorRwReadyAddrDataPendingNoneWrPrefetch =>
    dsimp only [RunsAlike, Handler.run]
    exact carries_modifyWritePrefetch (varies_rorValue _) hk hle
  case opDecRwReadyAddrDataPendingNoneWrPrefetch | opIncRwReadyAddrDataPendingNoneWrPrefetch
      | opCmosTrbRwReadyAddrDataPendingNoneWrPrefetch
      | opCmosTsbRwReadyAddrDataPendingNoneWrPrefetch
      | opDcpRwReadyAddrDataPendingNoneWrPrefetch =>
    dsimp only [RunsAlike, Handler.run]
    refine carries_modifyWritePrefetch (fun _ _ h => ?_) hk hle
    exact ⟨_, rfl, h.update _ _, rfl, rfl⟩
  case opIscRwReadyAddrDataPendingNoneWrPrefetch =>
    dsimp only [RunsAlike, Handler.run]
    refine carries_modifyWritePrefetch (fun cpu v h => ?_) hk hle
    obtain ⟨q, heq, hrest⟩ := varies_sbcValue _ cpu v h
    exact ⟨q, congrArg (·, _) heq, hrest⟩
  case mcNesIscRwReadyAddrDataPendingNoneWrPrefetch =>
    dsimp only [RunsAlike, Handler.run]
    refine carries_modifyWritePrefetch (fun cpu v h => ?_) hk hle
    obtain ⟨q, heq, hrest⟩ := varies_adcBinary _ cpu v h
    exact ⟨q, congrArg (·, _) heq, hrest⟩
  case opRraRwReadyAddrDataPendingNoneWrPrefetch =>
    dsimp only [RunsAlike, Handler.run]
    exact carries_modifyWritePrefetch ((varies_rorValue _).then varies_adcValue) hk hle
  case opNesRraRwReadyAddrDataPendingNoneWrPrefetch =>
    dsimp only [RunsAlike, Handler.run]
    exact carries_modifyWritePrefetch ((varies_rorValue _).then varies_adcBinary) hk hle
  case opRlaRwReadyAddrDataPendingNoneWrPrefetch =>
    dsimp only [RunsAlike, Handler.run]
    refine carries_modifyWritePrefetch ?_ hk hle
    exact (varies_rolValue _).then (f := fun cpu value => loadA cpu (cpu.a &&& value)) fun b =>
      varies_loadA (· &&& b)
  case opSloRwReadyAddrDataPendingNoneWrPrefetch =>
    dsimp only [RunsAlike, Handler.run]
    refine carries_modifyWritePrefetch ?_ hk hle
    exact (varies_aslValue _).then (f := fun cpu value => loadA cpu (cpu.a ||| value)) fun b =>
      varies_loadA (· ||| b)
  case opSreRwReadyAddrDataPendingNoneWrPrefetch =>
    dsimp only [RunsAlike, Handler.run]
    refine carries_modifyWritePrefetch ?_ hk hle
    exact (varies_lsrValue _).then (f := fun cpu value => loadA cpu (cpu.a ^^^ value)) fun b =>
      varies_loadA (· ^^^ b)
  case opWdcRmbSmbRwReadyAddrDataPendingNoneWrPrefetch =>
    dsimp only [RunsAlike, Handler.run]
    refine carries_modifyWritePrefetch (fun _ _ h => ?_) hk hle
    exact ⟨_, rfl, h, rfl, rfl⟩
  case opBccBranchC0OffsetPrefetch =>
    dsimp only [RunsAlike, Handler.run]
    exact carries_branch flagC (by decide) (fun b => b = 0) hk
  case opBcsBranchC0OffsetPrefetch =>
    dsimp only [RunsAlike, Handler.run]
    exact carries_branch flagC (by decide) (fun b => b ≠ 0) hk
  case opBeqBranchC0OffsetPrefetch =>
    dsimp only [RunsAlike, Handler.run]
    exact carries_branch flagZ (by decide) (fun b => b ≠ 0) hk
  case opBmiBranchC0OffsetPrefetch =>
    dsimp only [RunsAlike, Handler.run]
    exact carries_branch flagN (by decide) (fun b => b ≠ 0) hk
  case opBneBranchC0OffsetPrefetch =>
    dsimp only [RunsAlike, Handler.run]
    exact carries_branch flagZ (by decide) (fun b => b = 0) hk
  case opBplBranchC0OffsetPrefetch =>
    dsimp only [RunsAlike, Handler.run]
    exact carries_branch flagN (by decide) (fun b => b = 0) hk
  case opBvcBranchC0OffsetPrefetch =>
    dsimp only [RunsAlike, Handler.run]
    exact carries_branch flagV (by decide) (fun b => b = 0) hk
  case opBvsBranchC0OffsetPrefetch =>
    dsimp only [RunsAlike, Handler.run]
    exact carries_branch flagV (by decide) (fun b => b ≠ 0) hk
  case mcWdcBbrBbsC3OffsetOrSkipPrefetch =>
    dsimp only [RunsAlike, Handler.run]
    exact carries_branchC0Offset hk
      (if currentOpcodeSlot cpu >>> 4 < 8#8 then
        bus &&& bitMask (currentOpcodeSlot cpu >>> 4) = 0
      else bus &&& bitMask (currentOpcodeSlot cpu >>> 4 - 8) ≠ 0)
  case opCmosAdcRReadyAddrPendingDataFetchOrDecimalDummyPrefetchDecimalSet
      | opCmosSbcRReadyAddrPendingDataFetchOrDecimalDummyPrefetchDecimalSet =>
    dsimp only [RunsAlike, Handler.run]
    exact carries_fetchOrDecimal rfl rfl (hk.addr hle) hk
  case opCmosSbcImmReadyNonePendingDataFetchOrDecimalDummyPrefetchDecimalSet
      | opWdcAdcImmReadyNonePendingDataFetchOrDecimalDummyPrefetchDecimalSet
      | opRwAdcImmReadyNonePendingDataFetchOrDecimalDummyPrefetchDecimalSet
      | opStAdcImmReadyNonePendingDataFetchOrDecimalDummyPrefetchDecimalSet =>
    dsimp only [RunsAlike, Handler.run]
    exact carries_fetchOrDecimal rfl rfl rfl hk
  case opStaWReadyAddrPendingNoneWrPrefetch | opStxWReadyAddrPendingNoneWrPrefetch
      | opStyWReadyAddrPendingNoneWrPrefetch | opSaxWReadyAddrPendingNoneWrPrefetch
      | opCmosStzWReadyAddrPendingNoneWrPrefetch =>
    dsimp only [RunsAlike, Handler.run]
    exact carries_storeAddrPrefetch rfl hk hle
  case opStaWReadyAddrloPendingAddrhiWrPrefetch | opStxWReadyAddrloPendingAddrhiWrPrefetch
      | opStyWReadyAddrloPendingAddrhiWrPrefetch | opSaxWReadyAddrloPendingAddrhiWrPrefetch
      | opCmosStzWReadyAddrloPendingAddrhiWrPrefetch =>
    dsimp only [RunsAlike, Handler.run]
    exact carries_storeAddrHiPrefetch rfl hk hle
  case opAhxUnstableWReadyAddrPendingNoneWrPrefetch | opShxUnstableWReadyAddrPendingNoneWrPrefetch
      | opShyUnstableWReadyAddrPendingNoneWrPrefetch =>
    dsimp only [RunsAlike, Handler.run]
    exact carries_unstableStorePrefetch rfl hk hle
  case opTasUnstableWReadyAddrPendingNoneWrPrefetch =>
    exact alike_opTasUnstableWReadyAddrPendingNoneWrPrefetch bus hk hle
  case mcClearLatchAddrReadPcInc | mcClearLatchAddrReadPc => exact ⟨_, rfl, hk.set_addr 0⟩
  case mcReadZpLatchX | mcWZpyC1Idx | mcLatchZpAddrReadLatchAddr =>
    exact ⟨_, rfl, hk.set_addr _⟩
  case mcLatchAbxBaseReadPcInc | mcCmosLatchAbxBaseReadPc | mcLatchAbyBaseReadPcInc
      | mcCmosLatchAbyBaseReadPc | mcRwAbxC1Hi =>
    exact ⟨_, rfl, hk.set_all _ _⟩
  case mcLatchAddr0ReadPcInc | mcLatchAddr0ReadPcIncPrefetch | mcJsrAbsC1Dummy =>
    exact ⟨_, rfl, hk.set_low bus⟩
  case mcCmosJmpIndXC2Dummy => exact ⟨_, rfl, hk.set_high bus⟩
  case mcReadLatchAddr | mcReadLatchAddrPrefetch =>
    exact ⟨v, Prod.ext rfl (congrArg read (hk.addr hle)), hk⟩
  case mcLatchDataWriteLatchAddr =>
    exact ⟨_, Prod.ext rfl (congrArg (write · bus) (hk.addr hle)), hk.set_data bus⟩
  case mcLatchDataReadLatchAddr | mcLatchDataReadLatchAddrPrefetch =>
    exact ⟨_, Prod.ext rfl (congrArg read (hk.addr hle)), hk.set_data bus⟩
  case mcBranchPgfixPrefetch =>
    have haddr : v.latchAddr = cpu.latchAddr := hk.addr hle
    refine ⟨v, Prod.ext ?_ rfl, hk⟩
    exact congrArg (fun pc => { prefetch (cpu.vary v) with pc := pc }) haddr
  case mcReadLatchAddrPrefetchDecimalClear =>
    have haddr : v.latchAddr = cpu.latchAddr := hk.addr hle
    dsimp only [RunsAlike, Handler.run, mcReadLatchAddrPrefetchDecimalClear]
    rw [hk.decimalClear_eq, prefetchIf_vary]
    exact ⟨v, Prod.ext rfl (congrArg read haddr), hk.of_prefetchIf _⟩
  case mcLatchZpAddrReadLatchAddrPrefetchDecimalClear =>
    dsimp only [RunsAlike, Handler.run, mcLatchZpAddrReadLatchAddrPrefetchDecimalClear]
    rw [hk.decimalClear_eq, prefetchIf_vary]
    exact ⟨_, rfl, (hk.of_prefetchIf _).set_addr _⟩
  case mcReadPcIncPrefetchDecimalClear =>
    dsimp only [RunsAlike, Handler.run, mcReadPcIncPrefetchDecimalClear]
    rw [hk.decimalClear_eq, prefetchIf_vary]
    exact ⟨v, rfl, hk.of_prefetchIf _⟩
  case mcRIzxC4Data => exact carries_mcRIzxC4Data bus hk hle
  case mcRIzxC4DataPrefetchDecimalClear =>
    dsimp only [RunsAlike, Handler.run, mcRIzxC4DataPrefetchDecimalClear]
    rw [hk.decimalClear_eq, prefetchIf_vary]
    exact carries_mcRIzxC4Data bus (hk.of_prefetchIf _) hle
  case mcLatchAddr1ReadLatchAddr => exact carries_mcLatchAddr1ReadLatchAddr bus hk hle
  case mcLatchAddr1ReadLatchAddrPrefetchDecimalClear =>
    dsimp only [RunsAlike, Handler.run, mcLatchAddr1ReadLatchAddrPrefetchDecimalClear]
    rw [hk.decimalClear_eq, prefetchIf_vary]
    exact carries_mcLatchAddr1ReadLatchAddr bus (hk.of_prefetchIf _) hle
  case mcCmosRIndexedProbe => exact carries_mcCmosRIndexedProbe bus hk hle
  case mcCmosRIndexedProbePrefetchNoPageCrossDecimalClear =>
    dsimp only [RunsAlike, Handler.run, mcCmosRIndexedProbePrefetchNoPageCrossDecimalClear]
    rw [hk.decimalClear_eq, hk.noPageCross_eq (hle.data rfl), prefetchIf_vary]
    exact carries_mcCmosRIndexedProbe bus (hk.of_prefetchIf _) hle
  case mcLatchAddr1SetPcFetch => exact alike_mcLatchAddr1SetPcFetch bus hk hle
  case mcJmpIndC2TargetLo => exact alike_mcJmpIndC2TargetLo bus hk hle
  case mcJmpIndC4Fetch => exact alike_mcJmpIndC4Fetch bus hk hle
  case mcRIzxC4DataNoLatchPrefetch =>
    have hdata : v.latchData = cpu.latchData := hk.data (hle.data rfl)
    refine ⟨v, Prod.ext rfl ?_, hk⟩
    exact congrArg (fun data : Byte => read (u16SetByte (data.setWidth 16) 1 bus)) hdata
  case mcReadAddrWithBusHiPrefetch =>
    have hset : u16SetByte v.latchAddr 1 bus = u16SetByte cpu.latchAddr 1 bus :=
      setByte_one_congr bus (hk.low (hle.low rfl))
    exact ⟨v, Prod.ext rfl (congrArg read hset), hk⟩
  case mcUnstableStoreIndexedProbePreserveBaseHigh =>
    have hset : u16SetByte v.latchAddr 1 bus = u16SetByte cpu.latchAddr 1 bus :=
      setByte_one_congr bus (hk.low (hle.low rfl))
    exact ⟨_, Prod.ext rfl (congrArg read hset), hk.set_high bus⟩
  case mcLatchAddr0ReadLatchAddr | mcZpxC1Idx | mcRZpyC1Idx =>
    have hset : u16SetByte v.latchAddr 0 bus = u16SetByte cpu.latchAddr 0 bus :=
      setByte_zero_congr bus (hk.high (hle.high rfl))
    exact ⟨_, Prod.ext rfl (congrArg read hset), hk.set_low _⟩
  case mcRIzxC1Idx =>
    have hset : u16SetByte v.latchAddr 0 bus = u16SetByte cpu.latchAddr 0 bus :=
      setByte_zero_congr bus (hk.high (hle.high rfl))
    exact ⟨_, Prod.ext rfl (congrArg read hset), (hk.set_low bus).set_low _⟩
  case mcIzpC2Ptrhi =>
    have hlow := hk.low (hle.low rfl)
    refine ⟨_, Prod.ext rfl ?_, hk.set_low bus⟩
    exact congrArg (fun ptr : Byte => read ((ptr + 1).setWidth 16)) hlow
  case mcWIzyC2Ptrhi =>
    have hlow := hk.low (hle.low rfl)
    refine ⟨_, Prod.ext rfl ?_, hk.set_all _ _⟩
    exact congrArg (fun ptr : Byte => read ((ptr + 1).setWidth 16)) hlow
  case mcRIzyC2Ptrhi =>
    have haddr : v.latchAddr = cpu.latchAddr := hk.addr hle
    refine ⟨_, Prod.ext rfl ?_, hk.set_all _ _⟩
    exact congrArg (fun addr => read (u16SetByte addr 0 (u16GetByte addr 0 + 1))) haddr
  case mcWIzxC3Ptrhi =>
    exact ⟨_, Prod.ext rfl (congrArg read (hk.addr hle)), hk.set_low bus⟩
  case mcIzxReadPtrloIncPtr =>
    have haddr : v.latchAddr = cpu.latchAddr := hk.addr hle
    obtain ⟨p, addr, data, ext⟩ := v
    dsimp only at haddr
    subst haddr
    exact ⟨_, rfl, hk.set_low _⟩
  case mcCmosJmpIndXC3TargetLo =>
    have haddr : v.latchAddr = cpu.latchAddr := hk.addr hle
    obtain ⟨p, addr, data, ext⟩ := v
    dsimp only at haddr
    subst haddr
    exact ⟨_, rfl, hk.set_addr _⟩
  case mcCmosJmpIndC4TargetHiRetryPrefetch =>
    exact alike_mcCmosJmpIndC4TargetHiRetryPrefetch bus hk hle
  case mcCmosWIndexedProbe =>
    have hdata : v.latchData = cpu.latchData := hk.data (hle.data rfl)
    obtain ⟨p, addr, data, ext⟩ := v
    dsimp only at hdata
    subst hdata
    exact ⟨_, rfl, hk.set_high _⟩
  case mcWIndexedProbe => exact alike_mcWIndexedProbe bus hk hle
  case mcBranchRelC1Apply => exact alike_mcBranchRelC1Apply bus hk
  case mcWdcBbrBbsC4Apply => exact alike_mcWdcBbrBbsC4Apply bus hk
  case mcInternalReset => exact alike_mcInternalReset bus hk hle
  case mcRtiC3PullPcl => exact ⟨{ v with p := _ }, rfl, hk.set_p rfl⟩
  case mcBrkC5VecHi | mcNmosIrqC5VecHi | mcResetVecHi =>
    exact ⟨{ v with p := _ }, rfl, hk.set_p (hk.p.or _)⟩
  case mcCmosBrkC5VecHi => exact ⟨{ v with p := _ }, rfl, hk.set_p ((hk.p.or _).and _)⟩
  case mcNmosNmiC5VecHi =>
    dsimp only [RunsAlike, Handler.run, mcNmosNmiC5VecHi]
    rw [updateNmiLastSampled_eq, updateNmiLastSampled_eq]
    exact ⟨{ v with p := _ }, rfl, hk.set_p (hk.p.or _)⟩
  case mcCmosNmiC5VecHi | mcCmosIrqC5VecHi =>
    dsimp only [RunsAlike, Handler.run, mcCmosNmiC5VecHi, mcCmosIrqC5VecHi, cmosInterruptVectorLow]
    rw [updateNmiLastSampled_eq, updateNmiLastSampled_eq]
    exact ⟨{ v with p := _ }, rfl, hk.set_p ((hk.p.or _).and _)⟩
  case mcCmosStackPushStatusB | opPhpStackPushReadyNonePendingNoneWrPrefetch =>
    have hstatus : stackStatus v.p flagB = stackStatus cpu.p flagB := hk.p.stackStatus_eq (.inr rfl)
    exact ⟨v, Prod.ext rfl (congrArg (write (stackAddress cpu.s)) hstatus), hk⟩
  case mcCmosIrqC3PushP =>
    have hstatus : stackStatus v.p 0 = stackStatus cpu.p 0 := hk.p.stackStatus_eq (.inl rfl)
    exact ⟨v, Prod.ext rfl (congrArg (write (stackAddress cpu.s)) hstatus), hk⟩
  case mcCmosNmiC3PushP =>
    have hstatus : stackStatus v.p 0 = stackStatus cpu.p 0 := hk.p.stackStatus_eq (.inl rfl)
    dsimp only [RunsAlike, Handler.run, mcCmosNmiC3PushP]
    rw [updateNmiLastSampled_eq, updateNmiLastSampled_eq]
    exact ⟨v, Prod.ext rfl (congrArg (write (stackAddress cpu.s)) hstatus), hk⟩
  case mcNmiC3PushP => exact alike_mcNmiC3PushP bus hk
  case mcStackPushStatusB => exact alike_mcStackPushStatusB bus hk
  case mcIrqC3PushP => exact alike_mcIrqC3PushP bus hk
  case mcCmosRIndexedProbeNoLatchPrefetchNoPageCross =>
    exact alike_mcCmosRIndexedProbeNoLatchPrefetchNoPageCross bus hk hle
  case mcRIndexedProbeNoLatchPrefetchNoPageCross =>
    exact alike_mcRIndexedProbeNoLatchPrefetchNoPageCross bus hk hle
  all_goals exact ⟨v, rfl, hk⟩

/-! ### One tick -/

namespace SameFlags

variable {p q : Byte}

theorem apply_eq (h : SameFlags p q) (s : Signal) (interrupts : Byte) :
    s.apply q interrupts = s.apply p interrupts := by
  cases s with
  | brkPush | nmiPush | irqPush =>
    dsimp only [Signal.apply]
    rw [h.pushed_eq]
  | _ => rfl

theorem jump_eq (h : SameFlags p q) (s : Signal) (interrupts : Byte) :
    s.jump q interrupts = s.jump p interrupts := by
  cases s with
  | brkPush | irqPush =>
    dsimp only [Signal.jump]
    rw [h.pushed_eq]
  | _ => rfl

theorem resolvedByte_eq (h : SameFlags p q) (s : Signal) (fetching : Bool) (interrupts : Byte) :
    resolvedByte s q fetching interrupts = resolvedByte s p fetching interrupts := by
  rw [resolvedByte, resolvedByte, h.apply_eq, settled, settled, h.findActiveInterrupt_eq]

end SameFlags

variable {h : Handler} {known : Latches} {cpu : Cpu} {v : Variation}

theorem signal_vary (hk : Known known cpu.carried v) (hle : h.reads.Le known) :
    h.signal (cpu.vary v) = h.signal cpu := by
  cases h
  case mcCmosRIndexedProbePrefetchNoPageCrossDecimalClear =>
    dsimp only [Handler.signal]
    rw [hk.decimalClear_eq, hk.noPageCross_eq (hle.data rfl)]
  case mcCmosRIndexedProbeNoLatchPrefetchNoPageCross
      | mcRIndexedProbeNoLatchPrefetchNoPageCross =>
    dsimp only [Handler.signal]
    rw [hk.noPageCross_eq (hle.data rfl)]
  case mcLatchAddr1ReadLatchAddrPrefetchDecimalClear
      | mcLatchZpAddrReadLatchAddrPrefetchDecimalClear | mcRIzxC4DataPrefetchDecimalClear
      | mcReadLatchAddrPrefetchDecimalClear | mcReadPcIncPrefetchDecimalClear
      | opCmosAdcRReadyAddrPendingDataFetchOrDecimalDummyPrefetchDecimalSet
      | opCmosSbcRReadyAddrPendingDataFetchOrDecimalDummyPrefetchDecimalSet
      | opCmosSbcImmReadyNonePendingDataFetchOrDecimalDummyPrefetchDecimalSet
      | opWdcAdcImmReadyNonePendingDataFetchOrDecimalDummyPrefetchDecimalSet
      | opRwAdcImmReadyNonePendingDataFetchOrDecimalDummyPrefetchDecimalSet
      | opStAdcImmReadyNonePendingDataFetchOrDecimalDummyPrefetchDecimalSet =>
    dsimp only [Handler.signal]
    rw [hk.decimalClear_eq]
  all_goals rfl

/-- The handler leaves the microcode index to the increment. -/
def Handler.goesOn (h : Handler) (cpu : Cpu) (bus : Byte) : Bool :=
  (h.run cpu.forget bus).1.microcode == cpu.microcode

/-- **A tick of a handler that reads only what is known runs alike.** -/
theorem execute_vary (bus : Byte) (hk : Known known cpu.carried v) (hle : h.reads.Le known) :
    Carries ((h.writes (h.goesOn cpu bus)).union known) (execute h cpu bus)
      (execute h (cpu.vary v) bus) := by
  obtain ⟨w, hrun, hw⟩ := run_vary bus (show Known known cpu.forget.carried v from hk) hle
  have hforget : (cpu.vary v).forget = cpu.forget.vary v := rfl
  by_cases hij : cpu.hijackMicrocode = 0
  · have hij' : (cpu.vary v).hijackMicrocode = 0 := hij
    rw [execute_off hij, execute_off hij', unresolved_eq, unresolved_eq, signal_vary hk hle,
      hforget,
      hrun]
    rw [show (cpu.vary v).p = v.p from rfl, hk.p.apply_eq, hk.p.jump_eq]
    exact ⟨w, rfl, hw⟩
  · have hij' : (cpu.vary v).hijackMicrocode ≠ 0 := hij
    rw [execute_on hij, execute_on hij', resolved_eq, resolved_eq, signal_vary hk hle, hforget,
      hrun]
    dsimp only
    rw [show (cpu.vary v).p = v.p from rfl, hk.p.jump_eq, hk.p.resolvedByte_eq]
    exact ⟨w, rfl, hw⟩

end Qe6502
