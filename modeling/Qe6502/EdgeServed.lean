import Qe6502.CmosEdge

/-!
# Serving a latched NMI edge

`nmi_edge_survives` says of which cycles of a BRK or IRQ sequence an NMI edge is served on the
CMOS models: of every cycle of BRK, and of the last cycle of an IRQ sequence.  In the cycles
before it `mc_cmos_irq_c5_vec_hi` clears the latch on the way (`nmi_edge_dropped`).
-/

namespace Qe6502

/-! ### After the sample -/

/-- I is set, or nothing more is sampled in the slot at hand. -/
def Cpu.Sampled (cpu : Cpu) : Prop :=
  iClear cpu.p = false ∨ ∃ slot cycle entries, cpu.At slot cycle ∧ slot < 264 ∧ cycle < 8 ∧
    slotAt cpu.model.toNat slot = some entries ∧ noMoreSamples entries cycle = true

section sampled

variable {cpu cpu₀ : Cpu} {bus : Byte} {slot cycle : Nat} {h : Handler} {entries : Slot}

/-- A handler runs with I set, or where nothing more is sampled. -/
theorem Cpu.Sampled.executes (hs : cpu.Sampled) (hp : TakenPlaced cpu)
    (hx : Executes cpu bus slot cycle h cpu₀) (ht : cpu₀.lines.taken = true)
    (hslot : slotAt cpu₀.model.toNat slot = some entries) :
    iClear cpu₀.p = false ∨ noMoreSamples entries cycle = true := by
  obtain ⟨entries', hslot', hbefore⟩ := hp.executes hx ht
  rcases hs with hclear | ⟨slot₁, cycle₁, entries₁, hat₁, hs₁, hc₁, hslot₁, hno⟩
  · obtain ⟨hpeq, _⟩ := hx.interrupts_eq
    exact Or.inl (hpeq ▸ hclear)
  · cases hx with
    | direct hat he =>
      obtain ⟨hm, hs, hc⟩ := entryAt_bounds he
      obtain ⟨rfl, rfl⟩ := position_inj hm hs hc hs₁ hc₁ (hat.symm.trans hat₁)
      rw [hslot, Option.some.injEq] at hslot₁
      exact Or.inr (hslot₁ ▸ hno)
    | dispatch =>
      rw [sampledBefore_zero] at hbefore
      cases hbefore

/-- Where nothing more is sampled the tick does not sample. -/
theorem signal_of_noMoreSamples (hx : Executes cpu bus slot cycle h cpu₀)
    (hslot : slotAt cpu₀.model.toNat slot = some entries)
    (hno : noMoreSamples entries cycle = true) : h.signal cpu₀ ≠ .sample := by
  intro hsample
  obtain ⟨e, slot', cycle', hleads⟩ := execute_place hx
  have hentry := hx.entry.2
  rw [entryAt, hslot] at hentry
  have hmem : Entry.handler h ∈ entries.drop cycle := by
    refine List.mem_of_getElem? ?_ (i := 0)
    rw [List.getElem?_drop]
    exact hentry
  have hmay := List.all_eq_true.mp hno _ hmem
  have hany : (Entry.handler h).maySample = true :=
    List.any_eq_true.mpr ⟨e, hleads.mem, hleads.samples.trans (decide_eq_true hsample)⟩
  rw [hany] at hmay
  cases hmay

/-- Where a tick of a sampled instruction leads that does not fetch. -/
theorem execute_sampled (hx : Executes cpu bus slot cycle h cpu₀)
    (hslot : slotAt cpu₀.model.toNat slot = some entries)
    (hsampled : h.signal cpu₀ = .sample ∨ sampledBefore slot entries cycle = true)
    (hi : iClear cpu₀.p = false ∨ noMoreSamples entries cycle = true ∨
      (Entry.handler h).isRtiSample = true)
    (hf : (execute h cpu₀ bus).2.fetching = false)
    (hnone : (unitTick h cpu₀ bus).2 = none) : (execute h cpu₀ bus).1.Sampled := by
  obtain ⟨e, slot', cycle', hleads⟩ := execute_place hx
  obtain ⟨hts, htc⟩ := hleads.of_none hnone
  obtain ⟨entries', hslot', hall⟩ := forall_entries sampled_step hx.entry.2
  rw [hslot, Option.some.injEq] at hslot'
  subst hslot'
  have he := List.all_eq_true.mp hall e hleads.mem
  have hstatus : (e.status &&& statusOpcodeFetch != 0) = false := by
    rw [hleads.fetching, decide_eq_false_iff_not, not_not] at hf
    rw [hf]
    rfl
  have hsample : (e.samples || sampledBefore slot entries cycle) = true := by
    rcases hsampled with hs | hs
    · rw [hleads.samples, decide_eq_true hs, Bool.true_or]
    · rw [hs, Bool.or_true]
  simp only [hstatus, hleads.noService, hsample, ← hts, ← htc, Bool.not_true, Bool.false_or,
    Bool.and_eq_true, Bool.or_eq_true, Bool.not_eq_true', beq_iff_eq] at he
  obtain ⟨hsame, hnext⟩ := he
  have hmodel : (execute h cpu₀ bus).1.model = cpu₀.model := execute_model
  obtain ⟨_, hs', hc'⟩ := bounds_of_callable hleads.callable
  rcases hnext with hno | ⟨⟨hkeep, hmore⟩, hrti⟩
  · refine Or.inr ⟨slot', cycle', entries, hleads.place, hs', hc', ?_, hno⟩
    rw [hmodel, hsame]
    exact hslot
  · rcases hi with hclear | hno | hrti'
    · rcases hkeep with hkeep | hset
      · exact Or.inl ((execute_iClear hkeep cpu₀ bus).trans hclear)
      · exact Or.inl (execute_setsI hset cpu₀ bus)
    · exact absurd (hmore.symm.trans hno) Bool.false_ne_true
    · exact absurd (hrti.symm.trans hrti') Bool.false_ne_true

end sampled

theorem Session.HoldsNmi.taken {s : Session} (hheld : s.HoldsNmi) {cpu₀ : Cpu} {bus : Byte}
    {slot cycle : Nat} {h : Handler} (hx : Executes s.1 bus slot cycle h cpu₀) :
    cpu₀.lines.taken = true := by
  obtain ⟨_, hi, _, _⟩ := hx.interrupts_eq
  have hlines : cpu₀.lines = s.1.lines := congrArg Lines.of hi
  rw [hlines, Lines.taken, hheld.1, Bool.true_or]

/-- **The NMI taken for the edge cannot be lost.** -/
theorem held_sampled {s : Session} (hr : s.Reachable) (hheld : s.HoldsNmi) (hs : s.1.Sampled)
    (i : Input) : ∃ s', s.step i = some s' ∧ (s'.FetchesNmi i ∨ s'.HoldsNmi ∧ s'.1.Sampled) := by
  have hinv := reachable_takenWaits hr
  have hok : ¬s.LosesToIrq i := by
    cases i with
    | pin p => exact id
    | tick bus =>
      rintro ⟨_, _, _, hclear, r, hr', hsample⟩
      obtain ⟨slot, cycle, h, cpu₀, hx⟩ := (Session.reachable_placed hr).executes bus
      rw [handler_of_executes hx, Option.some.injEq] at hr'
      subst hr'
      obtain ⟨hp, _⟩ := hx.interrupts_eq
      have ht := hheld.taken hx
      obtain ⟨entries, hslot, _⟩ := hinv.placed.executes hx ht
      rcases hs.executes hinv.placed hx ht hslot with hset | hno
      · rw [hp, iClear, decide_eq_false_iff_not] at hset
        exact hset hclear
      · exact signal_of_noMoreSamples hx hslot hno hsample
  obtain ⟨s', hs', hnext⟩ := held_next hr hheld hok
  refine ⟨s', hs', hnext.imp_right fun hheld' => ⟨hheld', ?_⟩⟩
  cases i with
  | pin p =>
    cases hs'
    rw [PinCall.apply_eq]
    exact hs
  | tick bus =>
    obtain ⟨slot, cycle, h, cpu₀, hx⟩ := (Session.reachable_placed hr).executes bus
    obtain rfl := Option.some.inj ((tick_of_executes hx).symm.trans hs')
    have ht := hheld.taken hx
    obtain ⟨entries, hslot, hbefore⟩ := hinv.placed.executes hx ht
    refine execute_sampled hx hslot (Or.inr hbefore) ?_ hheld'.2 ?_
    · exact (hs.executes hinv.placed hx ht hslot).imp_right Or.inl
    · cases hentered : (unitTick h cpu₀ bus).2 with
      | none => rfl
      | some entered =>
        have hnot := Lines.not_taken_of_entered (hinv.off.executes hx).lines_quiet hentered
        have hn : (execute h cpu₀ bus).1.lines.taken = true := by
          rw [Lines.taken, hheld'.1, Bool.true_or]
        rw [execute_lines, unitTick, hnot] at hn
        cases hn

/-! ### Served edges -/

namespace Session

/-- The tick of an input calls `prefetch`. -/
def SamplesOn (s : Session) : Input → Prop
  | .tick bus => s.Samples bus
  | .pin _ => False

instance (s : Session) : (i : Input) → Decidable (s.SamplesOn i)
  | .tick bus => inferInstanceAs (Decidable (s.Samples bus))
  | .pin _ => isFalse id

/-- The edge stays latched until the first tick that samples, and the fetch after that tick
enters the NMI slot. -/
def EdgeServed (s : Session) : List Input → Prop
  | [] => s.1.lines.nmiEdge = true
  | i :: is => s.1.lines.nmiEdge = true ∧ ∃ s', s.step i = some s' ∧
      if s.SamplesOn i then
        StepMachine.Until step HoldsNmi (fun _ i s' _ => s'.FetchesNmi i) s' is
      else s'.EdgeServed is

instance decidableEdgeServed : (is : List Input) → (s : Session) → Decidable (s.EdgeServed is)
  | [], s => inferInstanceAs (Decidable (s.1.lines.nmiEdge = true))
  | i :: is, s =>
    have (s' : Session) : Decidable (s'.EdgeServed is) := decidableEdgeServed is s'
    inferInstanceAs (Decidable (s.1.lines.nmiEdge = true ∧ ∃ s', s.step i = some s' ∧
      if s.SamplesOn i then
        StepMachine.Until step HoldsNmi (fun _ i s' _ => s'.FetchesNmi i) s' is
      else s'.EdgeServed is))

/-- The pin is released at one tick and asserted at the next, a tick of a BRK or IRQ
sequence. -/
structure EdgeInEntry (s s' : Session) (bus : Byte) (slot cycle : Nat) : Prop where
  released : ∃ (s₀ : Session) (b₀ : Byte) (s₁ : Session) (calls : List PinCall),
    s₀.Reachable ∧ s₀.1.lines.nmiPin = false ∧
    s₀.step (.tick b₀) = some s₁ ∧ s = s₁.pins calls
  asserted : s.1.lines.nmiPin = true
  sequence : slot = 0 ∨ slot = 263
  executes : ∃ h cpu₀, Executes s.1 bus slot cycle h cpu₀
  step : s.step (.tick bus) = some s'

theorem held_until {s : Session} (hr : s.Reachable) (hheld : s.HoldsNmi) (hs : s.1.Sampled)
    (is : List Input) :
    StepMachine.Until step HoldsNmi (fun _ i s' _ => s'.FetchesNmi i) s is := by
  refine StepMachine.until_of_invariant
    (fun s : Session => s.Reachable ∧ s.HoldsNmi ∧ s.1.Sampled) (fun s h => h.2.1) ?_
    ⟨hr, hheld, hs⟩ (StepMachine.always_of_forall (fun _ _ => trivial) is s)
  rintro s i is ⟨hr, hheld, hs⟩ _
  obtain ⟨s', hs', hnext⟩ := held_sampled hr hheld hs i
  exact ⟨s', hs', hnext.imp_right fun h => ⟨.step (i := .input i) hr hs', h⟩⟩

end Session

/-! ### While the edge is latched -/

/-- The session while the edge is latched. -/
structure WaitsWithEdge (s : Session) : Prop where
  reachable : s.Reachable
  cmos : s.1.cmos
  lines : s.1.lines.Latched
  place : s.1.UnsampledAt

theorem resolving_of_edge {cpu : Cpu} (hoff : ResolverOff cpu) (hedge : cpu.lines.nmiEdge = true) :
    cpu.resolving = true := by
  cases hon : cpu.resolving with
  | true => rfl
  | false =>
    have hidle := hoff.lines_idle hon
    simp only [Lines.idle, hedge, Bool.not_true, Bool.false_and] at hidle
    cases hidle

theorem nmiEdge_detect {l : Lines} (hedge : l.nmiEdge = true) : l.detect.nmiEdge = true := by
  unfold Lines.detect
  split
  · exact hedge
  · rw [hedge, Bool.true_or]

/-- **A tick while the edge is latched.** -/
theorem WaitsWithEdge.tick {s : Session} (hw : WaitsWithEdge s) (bus : Byte) :
    ∃ s', s.step (.tick bus) = some s' ∧
      if s.Samples bus then s'.HoldsNmi ∧ s'.1.Sampled else WaitsWithEdge s' := by
  obtain ⟨slot, cycle, h, cpu₀, hx⟩ := (Session.reachable_placed hw.reachable).executes bus
  obtain ⟨_, hi, hh, hm⟩ := hx.interrupts_eq
  have hinv := reachable_takenWaits hw.reachable
  have hlines : cpu₀.lines = s.1.lines := congrArg Lines.of hi
  have hoff := hinv.off.executes hx
  have hc : cpu₀.cmos := by
    rw [Cpu.cmos, hm]
    exact hw.cmos
  have hedge : cpu₀.lines.nmiEdge = true := by rw [hlines, hw.lines.edge]
  have hu := hw.place.executes hw.cmos hx
  have hstep := tick_of_executes hx
  have hsamples := Session.samples_iff hx
  refine ⟨_, hstep, ?_⟩
  rcases execute_latched hx hc hoff hu (nmiEdge_detect hedge) (by rw [hlines, hw.lines.untaken])
    (resolving_of_edge hoff hedge) with ⟨hsignal, hlatched, hplace⟩ | ⟨hsignal, hn⟩
  · rw [if_neg (by rw [hsamples, hsignal]; decide)]
    have hmodel : (execute h cpu₀ bus).1.model = cpu₀.model := execute_model
    refine ⟨Session.reachable_tick hw.reachable hstep, ?_, hlatched, hplace⟩
    rw [Cpu.cmos, hmodel]
    exact hc
  · rw [if_pos (hsamples.mpr hsignal)]
    have ht : (execute h cpu₀ bus).1.lines.taken = true := by rw [Lines.taken, hn, Bool.true_or]
    have hf := (hinv.placed.next hinv.off hx ht).2
    obtain ⟨entries, hslot, hall⟩ := forall_entries unsampled_step hx.entry.2
    refine ⟨⟨hn, hf⟩, execute_sampled hx hslot (Or.inl hsignal) ?_ hf ?_⟩
    · rcases hu.interrupts with hbrk | hclear | hrti
      · obtain ⟨e, slot', cycle', hleads⟩ := execute_place hx
        have hmodel : ¬cpu₀.model.toNat < 2 := Nat.not_lt.mpr hc
        simp only [unsampledStep, hmodel, decide_false, hu.safe, hu.unpulled, Bool.false_or,
          Bool.and_eq_true] at hall
        have he := List.all_eq_true.mp hall.2 e hleads.mem
        simp [hleads.noService, hleads.samples, hsignal, hbrk] at he
      · exact Or.inl hclear
      · exact Or.inr (Or.inr hrti)
    · rw [unitTick_sample hoff (resolving_of_edge hoff hedge) hsignal]

theorem WaitsWithEdge.pin {s : Session} (hw : WaitsWithEdge s) (p : PinCall) :
    ∃ s', s.step (.pin p) = some s' ∧ WaitsWithEdge s' := by
  have hstep : s.step (.pin p) = some (p.apply s.1, s.2) := rfl
  have hlatched : (s.1.lines.pinned p).Latched := by
    cases p <;> exact ⟨hw.lines.edge, hw.lines.untaken⟩
  refine ⟨_, hstep, .step (i := .input (.pin p)) hw.reachable hstep, ?_, ?_, ?_⟩
  · rw [PinCall.apply_eq]
    exact hw.cmos
  · rw [PinCall.apply_eq]
    show (Lines.of (p.pinned s.1.interrupts)).Latched
    rw [of_pinned]
    exact hlatched
  · rw [PinCall.apply_eq]
    exact hw.place

theorem WaitsWithEdge.served {s : Session} (hw : WaitsWithEdge s) (is : List Input) :
    s.EdgeServed is := by
  induction is generalizing s with
  | nil => exact hw.lines.edge
  | cons i is ih =>
    refine ⟨hw.lines.edge, ?_⟩
    cases i with
    | tick bus =>
      obtain ⟨s', hs', hnext⟩ := hw.tick bus
      refine ⟨s', hs', ?_⟩
      by_cases hsample : s.Samples bus
      · rw [if_pos hsample] at hnext
        refine (if_pos (c := s.SamplesOn (.tick bus)) hsample).mpr ?_
        exact Session.held_until (Session.reachable_tick hw.reachable hs') hnext.1 hnext.2 is
      · rw [if_neg hsample] at hnext
        exact (if_neg (c := s.SamplesOn (.tick bus)) hsample).mpr (ih hnext)
    | pin p =>
      obtain ⟨s', hs', hw'⟩ := hw.pin p
      exact ⟨s', hs', (if_neg (c := s.SamplesOn (.pin p)) id).mpr (ih hw')⟩

/-! ### Where the edge comes from -/

theorem pinned_unseen (calls : List PinCall) (l : Lines) :
    (calls.foldl Lines.pinned l).nmiLast = l.nmiLast ∧
      (calls.foldl Lines.pinned l).samplingOff = l.samplingOff := by
  induction calls generalizing l with
  | nil => exact ⟨rfl, rfl⟩
  | cons p calls ih =>
    obtain ⟨hlast, hoff⟩ := ih (l.pinned p)
    have hpinned : (l.pinned p).nmiLast = l.nmiLast ∧
        (l.pinned p).samplingOff = l.samplingOff := by
      cases p <;> exact ⟨rfl, rfl⟩
    exact ⟨hlast.trans hpinned.1, hoff.trans hpinned.2⟩

namespace Session

section edge

variable {s s' : Session} {bus : Byte} {slot cycle : Nat}

theorem EdgeInEntry.reachable (hedge : EdgeInEntry s s' bus slot cycle) : s.Reachable := by
  obtain ⟨s₀, b₀, s₁, calls, hr, _, hstep, rfl⟩ := hedge.released
  exact reachable_pins (reachable_tick hr hstep) calls

/-- The resolver sees the edge. -/
theorem EdgeInEntry.detected (hedge : EdgeInEntry s s' bus slot cycle) (hc : s.1.cmos) :
    s.1.lines.detect.nmiEdge = true ∧ s.1.resolving = true := by
  have hr := hedge.reachable
  obtain ⟨s₀, b₀, s₁, calls, hr₀, hpin, hstep, hpins⟩ := hedge.released
  obtain ⟨slot₀, cycle₀, h, cpu₀, hx⟩ := (reachable_placed hr₀).executes b₀
  obtain rfl := Option.some.inj ((tick_of_executes hx).symm.trans hstep)
  obtain ⟨_, hi, _, hm⟩ := hx.interrupts_eq
  have hmodel : s.1.model = s₀.1.model := by
    obtain ⟨interrupts, hijack, hcalls⟩ := pins_eq calls (execute h cpu₀ b₀).1
    rw [hpins, pins, hcalls]
    exact execute_model.trans hm
  have hc₀ : s₀.1.cmos := by
    rw [Cpu.cmos, ← hmodel]
    exact hc
  have hfollowed := execute_followed hx hc₀ (reachable_follows hr₀ hc₀)
  simp only [Lines.followed, Bool.and_eq_true, Bool.not_eq_true', beq_iff_eq] at hfollowed
  have hpin₁ : (execute h cpu₀ b₀).1.lines.nmiPin = false := by
    have hlines : cpu₀.lines = s₀.1.lines := congrArg Lines.of hi
    rw [execute_lines, unitTick, Lines.tick_nmiPin, hlines, hpin]
  have hcalls : s.1.lines = calls.foldl Lines.pinned (execute h cpu₀ b₀).1.lines := by
    rw [hpins]
    exact pins_lines calls _
  obtain ⟨hlast, hoff⟩ := pinned_unseen calls (execute h cpu₀ b₀).1.lines
  rw [← hcalls, hfollowed.2, hpin₁] at hlast
  rw [← hcalls, hfollowed.1] at hoff
  constructor
  · simp [Lines.detect, hoff, hlast, hedge.asserted]
  · cases hon : s.1.resolving with
    | true => rfl
    | false =>
      have hstill := (reachable_follows hr hc).followed hon
      simp [Lines.followed, hlast, hedge.asserted] at hstill

/-- Nothing is taken in a BRK or IRQ sequence of a CMOS model. -/
theorem EdgeInEntry.untaken (hedge : EdgeInEntry s s' bus slot cycle) (hc : s.1.cmos)
    {h : Handler} {cpu₀ : Cpu} (hx : Executes s.1 bus slot cycle h cpu₀) :
    cpu₀.lines.taken = false := by
  by_contra ht
  rw [Bool.not_eq_false] at ht
  obtain ⟨_, _, _, hm⟩ := hx.interrupts_eq
  obtain ⟨entries, hslot, hbefore⟩ :=
    (reachable_takenWaits hedge.reachable).placed.executes hx ht
  obtain ⟨entries', hslot', hall⟩ := forall_entries brk_unsampled hx.entry.2
  rw [hslot, Option.some.injEq] at hslot'
  subst hslot'
  have hcmos : ¬cpu₀.model.toNat < 2 := by
    rw [hm]
    exact Nat.not_lt.mpr hc
  rcases hedge.sequence with rfl | rfl
  · simp [hcmos, hbefore] at hall
  · exact absurd (sampledBefore_bound hbefore) (by decide)

/-- Cycles of BRK, and the last cycle of an IRQ sequence, are safe for the edge. -/
theorem EdgeInEntry.unsampled (hedge : EdgeInEntry s s' bus slot cycle)
    (hsafe : slot = 0 ∨ cycle = 6) {h : Handler} {cpu₀ : Cpu}
    (hx : Executes s.1 bus slot cycle h cpu₀) :
    Unsampled slot cycle (.handler h) (iClear cpu₀.p) ∧
      (inBrk slot cycle = true ∨ afterSetI slot cycle = true) := by
  have hwhere : inBrk slot cycle = true ∨ afterSetI slot cycle = true := by
    rcases hsafe with rfl | rfl
    · by_cases hc : cycle ≤ 5
      · simp [inBrk, hc]
      · simp [afterSetI, show 6 ≤ cycle by omega]
    · rcases hedge.sequence with rfl | rfl
      · exact Or.inr rfl
      · exact Or.inr rfl
  refine ⟨⟨?_, ?_, ?_⟩, hwhere⟩
  · rcases hsafe with rfl | rfl <;> simp [clearsEdge]
  · obtain ⟨_, _, hall⟩ := forall_entries starts_unpulled hx.entry.2
    rcases hedge.sequence with rfl | rfl <;> simpa using hall
  · rcases hwhere with hbrk | hafter
    · exact Or.inl hbrk
    · exact Or.inr (Or.inl ((reachable_endsWithI hedge.reachable).executes hx hafter))

/-- **The edge is latched in a safe cycle.** -/
theorem EdgeInEntry.waits (hedge : EdgeInEntry s s' bus slot cycle) (hc : s.1.cmos)
    (hsafe : slot = 0 ∨ cycle = 6) : WaitsWithEdge s' := by
  obtain ⟨h, cpu₀, hx⟩ := hedge.executes
  obtain ⟨_, hi, hh, hm⟩ := hx.interrupts_eq
  have hlines : cpu₀.lines = s.1.lines := congrArg Lines.of hi
  obtain ⟨hdetected, hon⟩ := hedge.detected hc
  obtain ⟨hu, hwhere⟩ := hedge.unsampled hsafe hx
  have hc₀ : cpu₀.cmos := by
    rw [Cpu.cmos, hm]
    exact hc
  have hoff := (reachable_takenWaits hedge.reachable).off.executes hx
  have hmodel : (execute h cpu₀ bus).1.model = cpu₀.model := execute_model
  have hs' := hedge.step
  obtain rfl := Option.some.inj ((tick_of_executes hx).symm.trans hs')
  rw [← hlines] at hdetected
  rcases execute_latched hx hc₀ hoff hu hdetected (hedge.untaken hc hx)
    (by rw [Cpu.resolving, hh]; exact hon) with ⟨_, hlatched, hplace⟩ | ⟨hsignal, _⟩
  · refine ⟨reachable_tick hedge.reachable hs', ?_, hlatched, hplace⟩
    rw [Cpu.cmos, hmodel]
    exact hc₀
  · obtain ⟨e, slot', cycle', hleads⟩ := execute_place hx
    obtain ⟨_, _, hall⟩ := forall_entries unsampled_step hx.entry.2
    have hnot : ¬cpu₀.model.toNat < 2 := Nat.not_lt.mpr hc₀
    simp only [unsampledStep, hnot, decide_false, hu.safe, hu.unpulled, Bool.false_or,
      Bool.and_eq_true] at hall
    have he := List.all_eq_true.mp hall.2 e hleads.mem
    rcases hwhere with hbrk | hafter
    · simp [hleads.noService, hleads.samples, hsignal, hbrk] at he
    · simp [hleads.noService, hleads.samples, hsignal, hafter] at he

end edge

end Session

/-! ### Dropped edges -/

/-- The cycles of an IRQ sequence of a CMOS model lead to the vector, which clears the
latch. -/
def irqCycle (cycle : Nat) : Entry → Bool
  | .handler h => (Entry.handler h).straight && !(Entry.handler h).maySample &&
      (cycle != 5 || h == .mcCmosIrqC5VecHi)
  | _ => false

theorem irq_slot : ∀ model < 5, 2 ≤ model → ∀ cycle < 6,
    (entryAt model 263 cycle).any (irqCycle cycle) = true := by
  decide

/-- Cycle 6 is the last of an IRQ sequence. -/
theorem irq_ends : entriesAll (fun _ slot _ cycle e =>
    slot != 263 || cycle ≤ 6 || e.isDispatch) = true := by decide +kernel

theorem irq_executes {cpu : Cpu} {cycle : Nat} (hm : cpu.model.toNat < 5) (hc : cpu.cmos)
    (hat : cpu.At 263 cycle) (hcycle : cycle < 6) (bus : Byte) :
    ∃ h, Executes cpu bus 263 cycle h cpu ∧ irqCycle cycle (.handler h) = true := by
  obtain ⟨entry, hentry, hirq⟩ := (Option.any_eq_true _ _).mp (irq_slot _ hm hc cycle hcycle)
  cases entry with
  | interruptResolver | mcDispatch => cases hirq
  | handler h => exact ⟨h, .direct hat hentry, hirq⟩

/-- From each of the first six cycles of an IRQ sequence the latch is cleared before a tick
samples. -/
theorem irq_drops {s s' : Session} {bus : Byte} {cycle : Nat} (hr : s.Reachable)
    (hc : s.1.cmos) (hat : s.1.At 263 cycle) {n : Nat} (hn : cycle + n = 5)
    (hstep : s.step (.tick bus) = some s') : ∃ is, ¬s'.EdgeServed is := by
  induction n generalizing s s' bus cycle with
  | zero =>
    obtain ⟨h, hx, hirq⟩ :=
      irq_executes (Session.reachable_placed hr).supported hc hat (by omega) bus
    obtain rfl := Option.some.inj ((tick_of_executes hx).symm.trans hstep)
    simp only [irqCycle, show cycle = 5 by omega, Bool.and_eq_true, Bool.or_eq_true, bne_iff_ne,
      beq_iff_eq, ne_eq, not_true_eq_false, false_or] at hirq
    obtain rfl := hirq.2
    refine ⟨[], fun hserved => ?_⟩
    have hoff := (reachable_takenWaits hr).off
    have hf := straight_fetching hx hirq.1.1
    have hclear : (unitTick .mcCmosIrqC5VecHi s.1 bus).1.nmiEdge = false := by
      cases hon : s.1.resolving with
      | true => rw [unitTick_plain hoff hon Signal.noConfusion hf]; rfl
      | false => rw [unitTick_off hon]; rfl
    rw [← execute_lines] at hclear
    exact absurd (hclear.symm.trans hserved) Bool.false_ne_true
  | succ n ih =>
    obtain ⟨h, hx, hirq⟩ :=
      irq_executes (Session.reachable_placed hr).supported hc hat (by omega) bus
    obtain rfl := Option.some.inj ((tick_of_executes hx).symm.trans hstep)
    simp only [irqCycle, Bool.and_eq_true] at hirq
    have hat' := straight_next hx hirq.1.1 (by omega)
    have hr' := Session.reachable_tick hr hstep
    have hmodel : (execute h s.1 bus).1.model = s.1.model := execute_model
    have hc' : (execute h s.1 bus).1.cmos := by
      rw [Cpu.cmos, hmodel]
      exact hc
    obtain ⟨h', hx', hirq'⟩ :=
      irq_executes (Session.reachable_placed hr').supported hc' hat' (by omega) 0
    obtain ⟨is, hdropped⟩ := ih hr' hc' hat' (by omega) (tick_of_executes hx')
    refine ⟨.tick 0 :: is, fun hserved => ?_⟩
    obtain ⟨_, s₂, hs₂, hrest⟩ := hserved
    obtain rfl := Option.some.inj ((tick_of_executes hx').symm.trans hs₂)
    have hsample : ¬Session.SamplesOn (execute h s.1 bus) (.tick 0) := by
      intro hsample
      have hsignal := (Session.samples_iff hx').mp hsample
      obtain ⟨e, slot', cycle', hleads⟩ := execute_place hx'
      have hmay : (Entry.handler h').maySample = true :=
        List.any_eq_true.mpr ⟨e, hleads.mem, hleads.samples.trans (decide_eq_true hsignal)⟩
      simp only [irqCycle, hmay, Bool.not_true, Bool.and_false, Bool.false_and] at hirq'
      cases hirq'
    rw [if_neg hsample] at hrest
    exact hdropped hrest

/-- **An NMI edge in a BRK or IRQ sequence of a CMOS model is served** exactly when it comes in
a cycle of BRK or in the last cycle of the IRQ sequence. -/
theorem nmi_edge_survives {s s' : Session} {bus : Byte} {slot cycle : Nat} (hc : s.1.cmos)
    (hedge : s.EdgeInEntry s' bus slot cycle) :
    (∀ inputs, s'.EdgeServed inputs) ↔ slot = 0 ∨ cycle = 6 := by
  constructor
  · intro hserved
    by_contra hnot
    rw [not_or] at hnot
    obtain rfl := hedge.sequence.resolve_left hnot.1
    obtain ⟨h, cpu₀, hx⟩ := hedge.executes
    obtain rfl := hx.direct_of_service (by decide)
    have hcycle : cycle < 6 := by
      obtain ⟨_, _, hall⟩ := forall_entries irq_ends hx.entry.2
      have hle : cycle ≤ 6 := by simpa [Entry.isDispatch] using hall
      omega
    obtain ⟨is, hdropped⟩ := irq_drops hedge.reachable hc hx.entry.1 (n := 5 - cycle) (by omega)
      hedge.step
    exact hdropped (hserved is)
  · exact fun hsafe is => (hedge.waits hc hsafe).served is

/-- A WDC session redirected to 0x1000, after more calls. -/
def wdcSession (calls : List Call) : Session := .after 2 (.goto 0x1000 :: calls)

/-- The NMI pin is asserted before cycle 1 of BRK. -/
theorem brk_edge : Session.EdgeInEntry (wdcSession [.input (.tick 0), .input (.pin (.nmi 1))])
    (wdcSession [.input (.tick 0), .input (.pin (.nmi 1)), .input (.tick 0)]) 0 0 1 where
  released := ⟨wdcSession [], 0, wdcSession [.input (.tick 0)], [.nmi 1],
    Session.after_reachable (by decide) _, by decide, rfl, rfl⟩
  asserted := by decide
  sequence := Or.inl rfl
  executes := ⟨_, _, .direct (h := .mcStackPushPcHigh) (by decide) (by decide)⟩
  step := rfl

theorem nmi_edge_survives_brk :
    (wdcSession [.input (.tick 0), .input (.pin (.nmi 1)), .input (.tick 0)]).EdgeServed
      (List.replicate 8 (.tick 0xEA)) :=
  (nmi_edge_survives (by decide : 2 ≤ _) brk_edge).mpr (Or.inl rfl) _

/-- The calls that lead to cycle 1 of an IRQ sequence. -/
def irqCalls : List Call :=
  [.input (.pin (.irq 1)), .input (.tick 0xEA), .input (.tick 0), .input (.tick 0)]

theorem irq_edge : Session.EdgeInEntry (wdcSession (irqCalls ++ [.input (.pin (.nmi 1))]))
    (wdcSession (irqCalls ++ [.input (.pin (.nmi 1)), .input (.tick 0)])) 0 263 1 where
  released := ⟨wdcSession (irqCalls.take 3), 0, wdcSession irqCalls, [.nmi 1],
    Session.after_reachable (by decide) _, by decide, rfl, rfl⟩
  asserted := by decide
  sequence := Or.inr rfl
  executes := ⟨_, _, .direct (h := .mcStackPushPcHigh) (by decide) (by decide)⟩
  step := rfl

/-- The vector cycles of an IRQ sequence drop an edge that comes in cycle 1. -/
theorem nmi_edge_dropped : ∃ s s' : Session, s.1.cmos ∧ s.EdgeInEntry s' 0 263 1 ∧
    ¬s'.EdgeServed (List.replicate 4 (.tick 0)) :=
  ⟨_, _, (by decide : 2 ≤ _), irq_edge, by decide⟩

end Qe6502
