import Qe6502.Sampling
import Qe6502.Writes
import Qe6502.IFlag

/-!
# The windows of the I flag

In a run that never asserts the NMI pin, with the IRQ pin held asserted: at which instructions the
IRQ slot is entered (`irq_windows`).
-/

namespace Qe6502

open StepMachine (first final)

/-! ### Runs without an NMI -/

namespace Lines

/-- The NMI pin is released, and no NMI edge is latched or taken. -/
structure NmiQuiet (l : Lines) : Prop where
  pin : l.nmiPin = false
  edge : l.nmiEdge = false
  taken : l.nmiTaken = false

variable {l : Lines}

theorem NmiQuiet.detect (h : l.NmiQuiet) : l.detect.NmiQuiet := by
  unfold Lines.detect
  split
  · exact h
  · exact ⟨h.pin, by simp [h.edge, h.pin], h.taken⟩

theorem NmiQuiet.arbitrate (h : l.NmiQuiet) (iClear : Bool) : (l.arbitrate iClear).NmiQuiet := by
  unfold Lines.arbitrate
  split
  · exact ⟨h.pin, rfl, absurd h.edge (by simp [*])⟩
  · split
    · exact ⟨h.pin, h.edge, rfl⟩
    · exact h

theorem NmiQuiet.apply (h : l.NmiQuiet) (iClear : Bool) (s : Signal) :
    (l.apply iClear s).NmiQuiet := by
  cases s with
  | none => exact h
  | brkPush | nmiPush | irqPush =>
    have harb := h.arbitrate iClear
    exact ⟨harb.pin, by first | exact harb.edge | rfl, rfl⟩
  | cmosNmiPush => exact ⟨h.pin, rfl, rfl⟩
  | cmosVector => exact ⟨h.pin, rfl, h.taken⟩
  | sample | cmosIrqPush | detectOn | nmiVector => exact ⟨h.pin, h.edge, h.taken⟩

theorem NmiQuiet.settle (h : l.NmiQuiet) (iClear fetching : Bool) :
    (l.settle iClear fetching).1.NmiQuiet := by
  have hquiet : l.quiet.NmiQuiet := ⟨h.pin, h.edge, h.taken⟩
  unfold Lines.settle
  split
  · exact hquiet.arbitrate iClear
  · split
    · exact ⟨h.pin, h.edge, rfl⟩
    · split
      · exact ⟨h.pin, h.edge, rfl⟩
      · exact h

theorem NmiQuiet.tick (h : l.NmiQuiet) (on iClear fetching : Bool) (s : Signal) :
    (l.tick on iClear fetching s).1.NmiQuiet := by
  cases on with
  | true => exact (h.detect.apply iClear s).settle iClear fetching
  | false => exact h.apply iClear s

theorem NmiQuiet.pinned (h : l.NmiQuiet) {p : PinCall} (hp : ∀ a, p = .nmi a → a = 0) :
    (l.pinned p).NmiQuiet := by
  cases p with
  | nmi a =>
    obtain rfl := hp a rfl
    exact ⟨rfl, h.edge, h.taken⟩
  | irq a => exact ⟨h.pin, h.edge, h.taken⟩

end Lines

/-- The pin calls leave the NMI pin released. -/
def LeaveNmi (calls : List PinCall) : Prop := ∀ a, PinCall.nmi a ∈ calls → a = 0

namespace Session

/-- **The sessions of the runs that never assert the NMI pin**: restart starts one, and any call but
that one goes on. -/
inductive NmiFree : Session → Prop
  | restart {cpu : Cpu} : cpu.model.toNat < 5 → NmiFree (Qe6502.restart cpu)
  | call {s s' : Session} {c : Call} : NmiFree s → (∀ a, c = .input (.pin (.nmi a)) → a = 0) →
      s.call c = some s' → NmiFree s'

theorem NmiFree.reachable {s : Session} (h : s.NmiFree) : s.Reachable := by
  induction h with
  | restart hm => exact .init ⟨_, hm, rfl⟩
  | call _ _ hcall ih => exact .step ih hcall

theorem restart_nmiQuiet (cpu : Cpu) : (Qe6502.restart cpu).1.lines.NmiQuiet := by
  have hlines : (Lines.of 0).NmiQuiet := ⟨by decide, by decide, by decide⟩
  exact hlines

theorem NmiFree.quiet {s : Session} (h : s.NmiFree) : s.1.lines.NmiQuiet := by
  induction h with
  | restart => exact restart_nmiQuiet _
  | @call s s' c hs hc hcall ih =>
    have heffect := effect_of_call (reachable_placed hs.reachable) hcall
    cases heffect with
    | tick hx =>
      rw [execute_lines]
      exact (hx.lines ▸ ih).tick _ _ _ _
    | pin p =>
      have hlines : (Lines.of (p.pinned s.1.interrupts)).NmiQuiet := by
        rw [of_pinned]
        exact ih.pinned fun a ha => hc a (by rw [ha])
      exact hlines
    | goto address =>
      rw [execute_lines]
      exact ih.tick _ _ _ _
    | restart => exact restart_nmiQuiet _

theorem NmiFree.pins {s : Session} (h : s.NmiFree) {calls : List PinCall}
    (hcalls : LeaveNmi calls) : (s.pins calls).NmiFree := by
  induction calls generalizing s with
  | nil => exact h
  | cons p calls ih =>
    have hp : ∀ a, Call.input (.pin p) = .input (.pin (.nmi a)) → a = 0 := by
      intro a ha
      obtain rfl : p = .nmi a := by injection ha with ha; injection ha
      exact hcalls a List.mem_cons_self
    exact ih (.call h hp rfl) fun a ha => hcalls a (List.mem_cons_of_mem p ha)

theorem NmiFree.final {input : ℕ → List PinCall × Byte} (hinput : ∀ k, LeaveNmi (input k).1)
    {s sₖ : Session} (h : s.NmiFree) {k : ℕ}
    (hfinal : StepMachine.final Session.cycle s (first input k) = some sₖ) : sₖ.NmiFree := by
  induction k generalizing sₖ with
  | zero =>
    cases hfinal
    exact h
  | succ k ih =>
    rw [StepMachine.first_succ, StepMachine.final_append, Option.bind_eq_some_iff] at hfinal
    obtain ⟨s₁, hs₁, hlast⟩ := hfinal
    obtain ⟨s₂, hcycle, hs₂⟩ := Option.bind_eq_some_iff.mp hlast
    obtain rfl := Option.some.inj hs₂
    refine .call (c := .input (.tick (input k).2)) ((ih hs₁).pins (hinput k)) ?_ hcycle
    rintro a ⟨⟩

theorem NmiFree.sensed {input : ℕ → List PinCall × Byte} (hinput : ∀ k, LeaveNmi (input k).1)
    {s : Session} (h : s.NmiFree) {k : ℕ} {l : Lines} (hl : s.sensedAt input k = some l) :
    l.NmiQuiet := by
  obtain ⟨sₖ, hsₖ, rfl⟩ := Option.map_eq_some_iff.mp hl
  exact ((h.final hinput hsₖ).pins (hinput k)).quiet.detect

/-- The IRQ pin is asserted at each of the first `n` ticks. -/
def HoldsIrq (s : Session) (input : ℕ → List PinCall × Byte) (n : ℕ) : Prop :=
  ∀ k < n, ∀ l, s.sensedAt input k = some l → l.irqPin = true

end Session

/-! ### The I flag -/

namespace Instruction

/-- With the IRQ pin held, the IRQ slot is entered at the end of the instruction. -/
def opensIrq (i : Instruction) (p : Byte) (bus : ℕ → Byte) : Bool :=
  match i.mnemonic with
  | .brk | .nopFetch => false
  | .rti => iClear (bus 3)
  | _ => iClear p

/-- I is clear after the instruction. -/
def clearsI (i : Instruction) (p : Byte) (bus : ℕ → Byte) : Bool :=
  match i.mnemonic with
  | .cli => true
  | .sei | .brk => false
  | .plp | .rti => iClear (bus 3)
  | _ => iClear p

/-- The slots of the instructions that change I, and the handlers of the others keep it. -/
def changesI (model : Nat) (i : Instruction) : Bool :=
  match i.mnemonic with
  | .cli => i.slot model = some (imp .opCliImpReadyNonePendingNoneDummyPrefetch)
  | .sei => i.slot model = some (imp .opSeiImpReadyNonePendingNoneDummyPrefetch)
  | .plp => i.slot model = some (stackPull .opPlpStackPullReadyNonePendingDataFetch)
  | .rti => i.slot model = some rti
  | .nopFetch => i.slot model = some nop1b1c
  | .brk => true
  | _ => (i.slot model).all fun entries => entries.all fun e => match e with
    | .handler h => !h.changesI
    | _ => true

end Instruction

theorem instructions_changesI : ∀ model < 5,
    instructionTables[model]?.all (List.all · (Instruction.changesI model)) = true := by
  decide +kernel

theorem iClear_flags (p : Byte) : iClear (flagOff p flagI) = true ∧
    iClear (flagOn p flagI) = false ∧ iClear (pulledFlags p) = iClear p := by
  simp [iClear_eq, flagI, flagB, flagUN, flagOn, flagOff, pulledFlags]

/-- A slot whose handlers keep I keeps it. -/
theorem Slot.Yields.iClear {entries : Slot} {cpu : Cpu} {bus : ℕ → Byte} {beats : List Beat}
    {r : Registers} (h : entries.Yields cpu bus beats r)
    (hkeeps : ∀ hd, Entry.handler hd ∈ entries → hd.changesI = false) :
    Qe6502.iClear r.p = Qe6502.iClear cpu.p := by
  obtain ⟨p, hreach, rfl⟩ := h
  have hrun : ∀ (bytes : List Byte) (p₀ p' : Phase) (beats : List Beat),
      StepMachine.trace (Phase.step entries) p₀ bytes = some (beats, p') →
        Qe6502.iClear p'.cpu.p = Qe6502.iClear p₀.cpu.p := by
    intro bytes
    induction bytes with
    | nil =>
      intro p₀ p' beats htrace
      cases htrace
      rfl
    | cons byte bytes ih =>
      intro p₀ p' beats htrace
      obtain ⟨b, p₁, beats₁, hstep, htail, rfl⟩ := StepMachine.trace_cons_inv htrace
      rw [ih p₁ p' beats₁ htail]
      unfold Phase.step at hstep
      split at hstep
      next hd hget =>
        obtain ⟨_, rfl⟩ := Prod.mk.inj (Option.some.inj hstep)
        exact run_iClear (hkeeps hd (List.mem_of_getElem? hget)) p₀.cpu byte
      next => cases hstep
  exact hrun _ _ _ _ hreach

namespace Session

section completes

variable {s s' : Session} {input : ℕ → List PinCall × Byte} {i : Instruction} {beats : List Beat}

/-- The slot of an instruction leads to the registers that a completed run has. -/
theorem Completes.registers_p (h : s.Completes input beats s') (hd : s.Dispatching) {entries : Slot}
    (hi : instructionAt s.1.model.toNat (input 0).2 = some i) (hkil : i.mnemonic ≠ .kil)
    (hbrk : i.mnemonic ≠ .brk) (hslot : i.slot s.1.model.toNat = some entries) {beats₀ : List Beat}
    {r : Registers} (hyields : entries.Yields (s.1.opened (input 0).2) (onBus input) beats₀ r)
    (hends : Ends beats₀) : s'.1.p = r.p := by
  obtain ⟨_, entries', _, _, hat, hstays, hpushes⟩ := slot_of_instruction hd.1 hi
  obtain rfl := Option.some.inj (hslot.symm.trans (slot_of_at hd.1 hi hat))
  obtain ⟨s₀, hs₀, _, hr⟩ := hd.completes hat (hstays hkil) (.inl (hpushes hbrk)) hyields hends
  rw [(h.unique hs₀).2, ← hr]
  rfl

/-- **The I flag after an instruction.** -/
theorem Completes.iClear (h : s.Completes input beats s') (hd : s.Dispatching)
    (hi : instructionAt s.1.model.toNat (input 0).2 = some i) (hkil : i.mnemonic ≠ .kil)
    (hbrk : i.mnemonic ≠ .brk) : Qe6502.iClear s'.1.p = i.clearsI s.1.p (onBus input) := by
  have hrule : i.changesI s.1.model.toNat = true :=
    instruction_rule instructions_changesI hd.1 hi
  obtain ⟨hset, hclear, hpulled⟩ := iClear_flags s.1.p
  have hplain : ∀ {c : Course}, c.plain = true → Ends c.beats := fun hc => Course.ends hc
  unfold Instruction.changesI at hrule
  rw [Instruction.clearsI]
  split at hrule
  next hm =>
    rw [h.registers_p hd hi hkil hbrk (of_decide_eq_true hrule) (implied_yields _ _
      ⟨.opCliImpReadyNonePendingNoneDummyPrefetch, rfl⟩) (hplain (by simp [Course.plain])), hm]
    exact hset
  next hm =>
    rw [h.registers_p hd hi hkil hbrk (of_decide_eq_true hrule) (implied_yields _ _
      ⟨.opSeiImpReadyNonePendingNoneDummyPrefetch, rfl⟩) (hplain (by simp [Course.plain])), hm]
    exact hclear
  next hm =>
    rw [h.registers_p hd hi hkil hbrk (of_decide_eq_true hrule) (pull_yields _ _
      ⟨.opPlpStackPullReadyNonePendingDataFetch, rfl⟩) (hplain (by simp [Course.plain])), hm]
    exact (iClear_flags (onBus input 3)).2.2
  next hm =>
    rw [h.registers_p hd hi hkil hbrk (of_decide_eq_true hrule) (rti_yields _ _)
      (hplain (by simp [Course.plain])), hm]
    exact (iClear_flags (onBus input 3)).2.2
  next hm =>
    have hends : Ends ([] ++ [quiet (fetchAt (s.1.opened (input 0).2).pc)]) :=
      Ends.snoc (by simp) _
    rw [h.registers_p hd hi hkil hbrk (of_decide_eq_true hrule) (nopFetch_yields _ _) hends, hm]
    rfl
  next hm => exact absurd hm hbrk
  next hcli hsei hplp hrti hnop _ =>
    have hsamples : i.samples = true := by
      have hnop' : i.mnemonic ≠ .nopFetch := hnop
      simp [Instruction.samples, hbrk, hkil, hnop']
    obtain ⟨entries, hat, _, _, _, _, _, _, _, r, hyields, hends, _⟩ :=
      Instruction.shows hd.1 hi hsamples s.1 (onBus input)
    have hslot := slot_of_at hd.1 hi hat
    rw [hslot, Option.all_some] at hrule
    rw [h.registers_p hd hi hkil hbrk hslot hyields hends, hyields.iClear fun hd hmem => by
      simpa using List.all_eq_true.mp hrule _ hmem]
    split <;> first | rfl | exact absurd ‹_› ‹_›

end completes

/-! ### What is entered at the end -/

theorem take_held {l : Lines} (hedge : l.nmiEdge = false) (hirq : l.irqPin = true)
    (before : Option ServiceSlot) (flags : Byte) :
    Lines.take before l (some flags) = if Qe6502.iClear flags then some .irq else before := by
  rw [Lines.take, hedge, hirq, Bool.and_true, if_neg Bool.false_ne_true]

section held

variable {s s' : Session} {input : ℕ → List PinCall × Byte} {reqs : List Tick}
  {first step dummy : Tick} {flags : Byte} {next : Word} {turn : Turn} {beats : List Beat}

/-- While the IRQ pin is held without an NMI, what a turn takes depends on I alone. -/
theorem tally_held (hbeats : beats = turn.shows reqs first step dummy flags next)
    (hsensed : ∀ k < beats.length, ∃ l, s.sensedAt input k = some l ∧ l.nmiEdge = false ∧
      l.irqPin = true) :
    s.tally input beats beats.length = if Qe6502.iClear flags then some .irq else none := by
  have hlength := (congrArg List.length hbeats).trans (Turn.shows_length turn)
  obtain ⟨l, hl, hedge, hirq⟩ := hsensed reqs.length (by rw [hlength]; cases turn <;> simp)
  by_cases hturn : turn = .far
  · obtain ⟨l', hl', hedge', hirq'⟩ := hsensed (reqs.length + 2) (by rw [hlength, hturn]; simp)
    rw [tally_twice hbeats hturn hl hl', take_held hedge hirq, take_held hedge' hirq']
    split <;> rfl
  · rw [tally_once hbeats hturn hl, take_held hedge hirq]

end held

theorem reachable_trace {cycles : List (List PinCall × Byte)} : ∀ {s s' : Session}
    {beats : List Beat}, s.Reachable → StepMachine.trace Session.beat s cycles = some (beats, s') →
      s'.Reachable := by
  induction cycles with
  | nil =>
    intro s s' beats hr htrace
    cases htrace
    exact hr
  | cons c cycles ih =>
    intro s s' beats hr htrace
    obtain ⟨b, s₁, beats₁, hbeat, htail, _⟩ := StepMachine.trace_cons_inv htrace
    exact ih (reachable_cycle hr (cycle_of_beat hbeat)) htail

theorem brk_unsampled : ∀ model < 5, (slotAt model 0).all (!sampledBefore 0 · 6) = true := by
  decide

/-- In the last cycle of a sequence nothing has been taken. -/
theorem Follows.untaken {s : Session} {slot : Nat} {cpu : Cpu} (hf : Follows slot ⟨6, cpu⟩ s)
    (hslot : slot = 0 ∨ slot = 262 ∨ slot = 263) (hr : s.Reachable) :
    s.1.lines.served = none := by
  rw [Lines.served_none]
  by_contra htaken
  rw [Bool.not_eq_false] at htaken
  obtain ⟨slot', cycle', entries, hat, hc, hentries, hbefore⟩ :=
    (reachable_takenWaits hr).placed htaken
  have hbound := sampledBefore_bound hbefore
  obtain ⟨rfl, rfl⟩ := position_inj hf.supported (by omega) (by show 6 < 8; decide) (by omega) hc
    (hf.place.symm.trans hat)
  obtain rfl : slot = 0 := hslot.resolve_right (by omega)
  have hrule := brk_unsampled _ hf.supported
  rw [hentries, Option.all_some, hbefore] at hrule
  cases hrule

/-- After a sequence the session waits at a dispatch. -/
theorem EndsSequence.dispatching {s s' : Session} {input : ℕ → List PinCall × Byte} {n : ℕ}
    (h : s.EndsSequence input n s') (hr : s.Reachable) (hfetch : s'.2.fetching = true) :
    s'.Dispatching := by
  obtain ⟨beats, s₀, b, slot, cpu, htrace, hlast, hslot, hf⟩ := h
  have hr₀ := reachable_trace hr htrace
  obtain ⟨entries, push, low, high, last, rest, hat, rfl, _, _, _, hlatch⟩ :=
    interrupt_slot hf.supported hslot
  have hx := hf.executes hat rfl (input n).1 (input n).2
  obtain rfl := Option.some.inj ((cycle_of_beat hlast).symm.trans (tick_of_executes hx))
  have hsignal : last.signal (s₀.pins (input n).1).1 = .none := by
    cases last <;> first | rfl | cases hlatch
  have hoff : ResolverOff (s₀.pins (input n).1).1 := (reachable_takenWaits hr₀).off.pins _
  have hentered := unitTick_enters hoff hsignal hfetch
  rw [pins_served, hf.untaken hslot hr₀] at hentered
  have hsequence : isSequence slot = true := by rcases hslot with rfl | rfl | rfl <;> rfl
  have hgoes := executes_goes hx hsequence hentered
  rw [hfetch, if_pos rfl] at hgoes
  exact hgoes

theorem services_handled : ∀ model < 5, entryAt model 262 0 ≠ some .mcDispatch ∧
    entryAt model 263 0 ≠ some .mcDispatch := by
  decide

theorem Dispatching.waitsAt {s : Session} (hd : s.Dispatching) : s.waitsAt = none := by
  obtain ⟨hm, slot, cycle, hat, hentry⟩ := hd
  obtain ⟨_, hs, hc⟩ := entryAt_bounds hentry
  obtain ⟨hnmi, hirq⟩ := services_handled _ hm
  rw [waitsAt_of_at hm hat hs hc, if_neg, if_neg]
  · rintro ⟨rfl, rfl⟩
    exact hirq hentry
  · rintro ⟨rfl, rfl⟩
    exact hnmi hentry

/-- Without an NMI edge none is taken. -/
theorem tally_ne_nmi {s : Session} {input : ℕ → List PinCall × Byte} {beats : List Beat}
    (hsensed : ∀ k l, s.sensedAt input k = some l → l.nmiEdge = false) (k : ℕ) :
    s.tally input beats k ≠ some .nmi := by
  induction k with
  | zero => exact (Option.some_ne_none _).symm
  | succ k ih =>
    rw [tally]
    cases hl : s.sensedAt input k with
    | none => exact ih
    | some l =>
      cases beats[k]?.bind Beat.sample with
      | none => exact ih
      | some flags =>
        dsimp only
        rw [Lines.take, hsensed k l hl, if_neg Bool.false_ne_true]
        split
        · decide
        · exact ih

theorem waitsAt_of_ne {s : Session} (hnmi : s.waitsAt ≠ some .nmi) (hirq : s.waitsAt ≠ some .irq) :
    s.waitsAt = none := by
  have hnmi' : ¬s.1.At 262 0 := fun h => hnmi (if_pos h)
  have hirq' : ¬s.1.At 263 0 := fun h => hirq ((if_neg hnmi').trans (if_pos h))
  exact (if_neg hnmi').trans (if_neg hirq')

section window

variable {s : Session} {input : ℕ → List PinCall × Byte} {i : Instruction} (hs : s.NmiFree)
  (hinput : ∀ k, LeaveNmi (input k).1) (hd : s.Dispatching)
  (hi : instructionAt s.1.model.toNat (input 0).2 = some i)

include hs hinput hd hi

/-- **An instruction that samples** enters the IRQ slot if I is clear in the flags it samples. -/
theorem NmiFree.samples (hsamples : i.samples = true) : ∃ beats s', s.Completes input beats s' ∧
    (s.HoldsIrq input beats.length → s'.waitsAt =
      if Qe6502.iClear (i.flags s.1.decoded (onBus input)) then some .irq else none) ∧
    (s'.waitsAt ≠ some .irq → s'.Dispatching) := by
  obtain ⟨entries, hat, hstays, hpushes, reqs, first, step, dummy, next, r, hyields, hends, _⟩ :=
    Instruction.shows hd.1 hi hsamples s.1 (onBus input)
  have hbrk : i.mnemonic ≠ .brk := by
    simp only [Instruction.samples, Bool.and_eq_true, decide_eq_true_eq] at hsamples
    exact hsamples.1.1
  obtain ⟨s', hcompletes, hwaits, hdispatch⟩ := hd.serves (reachable_takenWaits hs.reachable).off
    (hs.reachable.untaken hd) hat hstays (slot_unserving hd.1 hi hbrk hat) hyields hends
    fun b hb => by
      obtain rfl := Option.some.inj ((Turn.shows_last _).symm.trans hb)
      rfl
  have hedge : ∀ k l, s.sensedAt input k = some l → l.nmiEdge = false :=
    fun k l hl => (hs.sensed hinput hl).edge
  refine ⟨_, s', hcompletes, fun hheld => ?_, fun hirq => hdispatch (waitsAt_of_ne ?_ hirq)⟩
  · rw [hwaits]
    refine tally_held rfl fun k hk => ?_
    obtain ⟨l, hl⟩ := hcompletes.sensed hk.le
    exact ⟨l, hl, hedge k l hl, hheld k hk l hl⟩
  · rw [hwaits]
    exact tally_ne_nmi hedge _

omit hinput in
/-- The one-cycle no-operation enters nothing. -/
theorem NmiFree.nopFetch (hnop : i.mnemonic = .nopFetch) :
    ∃ beats s', s.Completes input beats s' ∧ s'.waitsAt = none ∧ s'.Dispatching := by
  have hslot : i.slot s.1.model.toNat = some nop1b1c := by
    have hrule : i.changesI s.1.model.toNat = true :=
      instruction_rule instructions_changesI hd.1 hi
    rw [Instruction.changesI, hnop] at hrule
    exact of_decide_eq_true hrule
  obtain ⟨_, entries, _, _, hat, _⟩ := slot_of_instruction hd.1 hi
  obtain rfl := Option.some.inj ((slot_of_at hd.1 hi hat).symm.trans hslot)
  have hends : Ends ([] ++ [Qe6502.quiet (fetchAt (s.1.opened (input 0).2).pc)]) :=
    Ends.snoc (by simp) _
  obtain ⟨s', hcompletes, hwaits, hdispatch⟩ := hd.serves (reachable_takenWaits hs.reachable).off
    (hs.reachable.untaken hd) hat rfl rfl (nopFetch_yields _ _) hends fun b hb => by
      obtain rfl := Option.some.inj hb
      rfl
  have hnone : s'.waitsAt = none := by
    obtain ⟨l, hl⟩ := hcompletes.sensed (Nat.zero_le _)
    have htally := @tally_succ s input [Qe6502.quiet (fetchAt (s.1.opened (input 0).2).pc)] 0 l hl
      _ rfl
    exact hwaits.trans htally
  exact ⟨_, s', hcompletes, hnone, hdispatch hnone⟩

end window

end Session

/-- **IRQ recognition follows the windows of the I flag.**  In a run that never asserts the NMI
pin, with the IRQ pin held asserted through an instruction, the IRQ slot is entered at its end if
and only if I was clear before it, or for RTI in the status it pulled, and never after BRK and the
CMOS no-operations of one cycle; and never at the end of an interrupt sequence. -/
theorem irq_windows {s : Session} (hs : s.NmiFree) {input : ℕ → List PinCall × Byte}
    (hinput : ∀ k, LeaveNmi (input k).1) :
    (∀ i : Instruction, s.Dispatching → instructionAt s.1.model.toNat (input 0).2 = some i →
      i.mnemonic ≠ .kil → ∃ beats s', s.Completes input beats s' ∧
        (s.HoldsIrq input beats.length →
          (s'.waitsAt = some .irq ↔ i.opensIrq s.1.p (onBus input) = true)) ∧
        (i.mnemonic ≠ .brk → iClear s'.1.p = i.clearsI s.1.p (onBus input)) ∧
        s'.NmiFree ∧ (s'.waitsAt ≠ some .irq → s'.Dispatching)) ∧
    (∀ slot, slot = 262 ∨ slot = 263 → s.1.At slot 0 → ∃ beats s', s.Completes input beats s' ∧
      s'.waitsAt = none ∧ s'.NmiFree ∧ s'.Dispatching) := by
  have hfree : ∀ {beats s'}, s.Completes input beats s' → s'.NmiFree :=
    fun h => hs.final hinput (Session.final_of_trace h.trace)
  have hnever : ∀ {s' : Session}, s'.waitsAt = none → (s'.waitsAt = some .irq ↔ false = true) :=
    fun h => iff_of_false (by rw [h]; exact nofun) Bool.false_ne_true
  refine ⟨fun i hd hi hkil => ?_, fun slot hslot hat => ?_⟩
  · by_cases hbrk : i.mnemonic = .brk
    · obtain ⟨beats, s', hcompletes, _, hsequence⟩ := hd.breaks input (brk_opcode hd.1 hi hbrk)
      have hd' := hsequence.dispatching hs.reachable hcompletes.fetching
      refine ⟨beats, s', hcompletes, fun _ => ?_, fun h => absurd hbrk h, hfree hcompletes,
        fun _ => hd'⟩
      rw [Instruction.opensIrq, hbrk]
      exact hnever hd'.waitsAt
    · by_cases hnop : i.mnemonic = .nopFetch
      · obtain ⟨beats, s', hcompletes, hnone, hd'⟩ := hs.nopFetch hd hi hnop
        refine ⟨beats, s', hcompletes, fun _ => ?_, fun _ => hcompletes.iClear hd hi hkil hbrk,
          hfree hcompletes, fun _ => hd'⟩
        rw [Instruction.opensIrq, hnop]
        exact hnever hnone
      · have hsamples : i.samples = true := by simp [Instruction.samples, hbrk, hkil, hnop]
        obtain ⟨beats, s', hcompletes, hwaits, hd'⟩ := hs.samples hinput hd hi hsamples
        refine ⟨beats, s', hcompletes, fun hheld => ?_,
          fun _ => hcompletes.iClear hd hi hkil hbrk, hfree hcompletes, hd'⟩
        have hopens : i.opensIrq s.1.p (onBus input) =
            iClear (i.flags s.1.decoded (onBus input)) := by
          rw [Instruction.opensIrq, Instruction.flags]
          split
          next h => exact absurd h hbrk
          next h => exact absurd h hnop
          next h =>
            rw [if_pos h]
            exact ((iClear_flags (onBus input 3)).2.2).symm
          next hrti => exact congrArg iClear (if_neg hrti).symm
        rw [hwaits hheld, hopens]
        cases iClear (i.flags s.1.decoded (onBus input)) <;> simp
  · have hf : Session.Follows slot ⟨0, s.1.base slot⟩ s :=
      ⟨(Session.reachable_placed hs.reachable).supported, hat, rfl⟩
    obtain ⟨beats, s', htrace, hlength, hends, _, hsequence⟩ := hf.interrupt (.inr hslot) input
    have hcompletes : s.Completes input beats s' := ⟨hlength ▸ htrace, hends⟩
    have hd' := hsequence.dispatching hs.reachable hcompletes.fetching
    exact ⟨beats, s', hcompletes, hd'.waitsAt, hfree hcompletes, hd'⟩

/-! ### A pin that stays asserted -/

namespace Session

/-- Without pin calls the IRQ pin stays asserted. -/
theorem holdsIrq_of_pin {s : Session} (hr : s.Reachable) (hpin : s.1.lines.irqPin = true)
    {input : ℕ → List PinCall × Byte} (hcalls : ∀ k, (input k).1 = []) (n : ℕ) :
    s.HoldsIrq input n := by
  have hkeeps : ∀ k sₖ, final Session.cycle s (first input k) = some sₖ →
      sₖ.Reachable ∧ sₖ.1.lines.irqPin = true := by
    intro k
    induction k with
    | zero =>
      intro sₖ hfinal
      cases hfinal
      exact ⟨hr, hpin⟩
    | succ k ih =>
      intro sₖ hfinal
      rw [StepMachine.first_succ, StepMachine.final_append, Option.bind_eq_some_iff] at hfinal
      obtain ⟨s₁, hs₁, hlast⟩ := hfinal
      obtain ⟨s₂, hcycle, hs₂⟩ := Option.bind_eq_some_iff.mp hlast
      obtain rfl := Option.some.inj hs₂
      obtain ⟨hr₁, hpin₁⟩ := ih s₁ hs₁
      refine ⟨reachable_cycle hr₁ hcycle, ?_⟩
      rw [cycle, pins, hcalls k] at hcycle
      obtain ⟨slot, cycle, h, cpu₀, hx⟩ := (reachable_placed hr₁).executes (input k).2
      obtain rfl := Option.some.inj ((tick_of_executes hx).symm.trans hcycle)
      rw [execute_lines]
      exact (Lines.tick_irqPin _ _ _ _ _).trans (hx.lines ▸ hpin₁)
  intro k _ l hl
  obtain ⟨sₖ, hsₖ, rfl⟩ := Option.map_eq_some_iff.mp hl
  rw [sensed, Lines.irqPin_detect, pins, hcalls k]
  exact (hkeeps k sₖ hsₖ).2

theorem NmiFree.calls {s s' : Session} {calls : List Call} (hs : s.NmiFree)
    (hcalls : ∀ a, Call.input (.pin (.nmi a)) ∈ calls → a = 0)
    (hfinal : StepMachine.final Session.call s calls = some s') : s'.NmiFree := by
  induction calls generalizing s with
  | nil =>
    cases hfinal
    exact hs
  | cons c calls ih =>
    obtain ⟨s₁, hcall, hfinal⟩ := Option.bind_eq_some_iff.mp hfinal
    exact ih (.call hs (fun a ha => hcalls a (ha ▸ List.mem_cons_self)) hcall)
      (fun a ha => hcalls a (List.mem_cons_of_mem c ha)) hfinal

end Session

/-- An NMOS session waits for the opcode at 0x0200, with the IRQ pin asserted and I clear. -/
def irqSession : Session := .after 0 [.goto 0x0200, .input (.pin (.irq 1))]

theorem irqSession_nmiFree : irqSession.NmiFree := by
  have hrun : (final Session.call (restart { blankCpu with model := 0 })
      [.goto 0x0200, .input (.pin (.irq 1))]).isSome = true := by decide
  obtain ⟨s, hs⟩ := Option.isSome_iff_exists.mp hrun
  have hsession : irqSession = s := by rw [irqSession, Session.after, hs, Option.getD_some]
  have hstart : Session.NmiFree (restart { blankCpu with model := 0 }) := .restart (by decide)
  rw [hsession]
  exact hstart.calls (by simp) hs

/-- SEI does not block the IRQ. -/
theorem irq_windows_sei : ∃ beats s', irqSession.Completes (fun _ => ([], 0x78)) beats s' ∧
    s'.waitsAt = some .irq ∧ iClear s'.1.p = false := by
  obtain ⟨beats, s', hcompletes, hwindow, hflag, _⟩ := (@irq_windows irqSession
    irqSession_nmiFree (fun _ => ([], 0x78)) (fun _ => by simp [LeaveNmi])).1 ⟨.sei, .imp⟩
      ⟨by decide, 261, 1, by decide, by decide⟩ (by decide) (by decide)
  have hheld := @Session.holdsIrq_of_pin irqSession irqSession_nmiFree.reachable (by decide)
    (fun _ => ([], 0x78)) (fun _ => rfl) beats.length
  exact ⟨beats, s', hcompletes, (hwindow hheld).mpr (by decide), (hflag (by decide)).trans rfl⟩

end Qe6502
