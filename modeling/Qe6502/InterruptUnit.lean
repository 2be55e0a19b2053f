import Qe6502.Resolver

/-!
# The interrupt unit

`Lines.tick` is what one tick does to the lines, with the resolver on or off, and the service
slot it enters: at cycle 0 from a fetch, at cycle 4 from a push-status cycle.  `execute_lines`
says that every tick of the CPU is such a step, and `execute_place` where it leads.
-/

namespace Qe6502

namespace Lines

/-- One tick of the lines, and the service slot and cycle it enters. -/
def tick (on iClear fetching : Bool) (s : Signal) (l : Lines) :
    Lines × Option (ServiceSlot × Nat) :=
  if on then
    let after := (l.detect.apply iClear s).settle iClear fetching
    (after.1, match after.2 with
      | some slot => some (slot, 0)
      | none => (l.detect.jump iClear s).map (·, 4))
  else (l.apply iClear s, (l.jump iClear s).map (·, 4))

theorem detect_frame (l : Lines) : ∃ edge last,
    l.detect = { l with nmiEdge := edge, nmiLast := last } := by
  unfold detect
  split
  · exact ⟨_, _, rfl⟩
  · exact ⟨_, _, rfl⟩

theorem sampling_apply {iClear : Bool} {s : Signal} {l : Lines} (hl : l.sampling = false) :
    (l.apply iClear s).sampling = decide (s = .sample) := by
  have harb : (l.arbitrate iClear).sampling = false := by
    unfold arbitrate
    split
    · exact hl
    · split
      · exact hl
      · exact hl
  cases s <;> simp [apply, hl, harb]

/-- The lines after a fetch has entered a service slot. -/
def clearTaken (l : Lines) : Lines := { l with nmiTaken := false, irqTaken := false }

/-- **A sampling tick takes what is pending.** -/
theorem tick_sample {l : Lines} (hl : l.sampling = false) (iClear fetching : Bool) :
    l.tick true iClear fetching .sample = (l.detect.arbitrate iClear, none) := by
  obtain ⟨edge, last, hdetect⟩ := l.detect_frame
  have hquiet : ({ l.detect with sampling := true } : Lines).quiet = l.detect := by
    rw [hdetect]
    exact (congrArg (fun b => ({ l with sampling := b, nmiEdge := edge, nmiLast := last } : Lines))
      hl).symm
  rw [tick, if_pos rfl, apply, settle, if_pos rfl, hquiet]
  rfl

/-- **A tick that does not sample** enters a service slot from a fetch. -/
theorem tick_other {l : Lines} (hl : l.sampling = false) (iClear fetching : Bool) {s : Signal}
    (hs : s ≠ .sample) : l.tick true iClear fetching s =
      if fetching && (l.detect.apply iClear s).nmiTaken then
        ((l.detect.apply iClear s).clearTaken, some (.nmi, 0))
      else if fetching && (l.detect.apply iClear s).irqTaken then
        ((l.detect.apply iClear s).clearTaken, some (.irq, 0))
      else (l.detect.apply iClear s, (l.detect.jump iClear s).map (·, 4)) := by
  obtain ⟨edge, last, hdetect⟩ := l.detect_frame
  have hsampling : (l.detect.apply iClear s).sampling = false := by
    rw [sampling_apply (by rw [hdetect]; exact hl), decide_eq_false hs]
  rw [tick, if_pos rfl, settle, if_neg (by simp [hsampling])]
  cases hn : fetching && (l.detect.apply iClear s).nmiTaken with
  | true => rfl
  | false =>
    cases hi : fetching && (l.detect.apply iClear s).irqTaken with
    | true => rfl
    | false => rfl

theorem settle_entered {iClear fetching : Bool} {l : Lines} {slot : ServiceSlot}
    (h : (l.settle iClear fetching).2 = some slot) :
    fetching = true ∧ (slot = .nmi ∧ l.nmiTaken = true ∨ slot = .irq ∧ l.irqTaken = true) := by
  unfold settle at h
  split at h
  · cases h
  · split at h
    next hn =>
      rw [Bool.and_eq_true] at hn
      cases h
      exact ⟨hn.1, Or.inl ⟨rfl, hn.2⟩⟩
    · split at h
      next hi =>
        rw [Bool.and_eq_true] at hi
        cases h
        exact ⟨hi.1, Or.inr ⟨rfl, hi.2⟩⟩
      · cases h

theorem jump_entered {iClear : Bool} {l : Lines} {s : Signal} {slot : ServiceSlot}
    (h : l.jump iClear s = some slot) :
    s = .brkPush ∧ (slot = .nmi ∨ slot = .irq) ∨ s = .irqPush ∧ slot = .nmi := by
  cases s with
  | brkPush =>
    refine Or.inl ⟨rfl, ?_⟩
    simp only [jump] at h
    split at h
    · cases h
      exact Or.inl rfl
    · split at h
      · cases h
        exact Or.inr rfl
      · cases h
  | irqPush =>
    refine Or.inr ⟨rfl, ?_⟩
    simp only [jump] at h
    split at h
    · cases h
      rfl
    · cases h
  | _ => cases h

theorem tick_entered {on iClear fetching : Bool} {s : Signal} {l : Lines} {slot : ServiceSlot}
    {cycle : Nat} (h : (l.tick on iClear fetching s).2 = some (slot, cycle)) :
    cycle = 0 ∧ fetching = true ∧ (slot = .nmi ∨ slot = .irq) ∨
      cycle = 4 ∧ (s = .brkPush ∧ (slot = .nmi ∨ slot = .irq) ∨ s = .irqPush ∧ slot = .nmi) := by
  unfold tick at h
  split at h
  · dsimp only at h
    split at h
    next hs =>
      cases h
      obtain ⟨hf, hslot⟩ := settle_entered hs
      exact Or.inl ⟨rfl, hf, hslot.imp And.left And.left⟩
    · obtain ⟨slot', hj, heq⟩ := Option.map_eq_some_iff.mp h
      cases heq
      exact Or.inr ⟨rfl, jump_entered hj⟩
  · obtain ⟨slot', hj, heq⟩ := Option.map_eq_some_iff.mp h
    cases heq
    exact Or.inr ⟨rfl, jump_entered hj⟩

end Lines

/-- The lines of a context. -/
def Cpu.lines (cpu : Cpu) : Lines := Lines.of cpu.interrupts

theorem pins_lines (calls : List PinCall) (cpu : Cpu) :
    (calls.foldl PinCall.apply cpu).lines = calls.foldl Lines.pinned cpu.lines := by
  induction calls generalizing cpu with
  | nil => rfl
  | cons p calls ih =>
    have hlines : (p.apply cpu).lines = cpu.lines.pinned p := by
      rw [PinCall.apply_eq]
      exact of_pinned _ _
    rw [List.foldl_cons, List.foldl_cons, ih, hlines]

theorem Executes.lines {cpu cpu₀ : Cpu} {bus : Byte} {slot cycle : Nat} {h : Handler}
    (hx : Executes cpu bus slot cycle h cpu₀) : cpu₀.lines = cpu.lines := by
  rw [Cpu.lines, Cpu.lines, hx.interrupts_eq.2.1]

/-- The resolver is on. -/
def Cpu.resolving (cpu : Cpu) : Bool := cpu.hijackMicrocode ≠ 0

theorem ResolverOff.lines_idle {cpu : Cpu} (h : ResolverOff cpu) (hoff : cpu.resolving = false) :
    cpu.lines.idle = true :=
  (idle_iff _).mp (h.idle (by simpa [Cpu.resolving] using hoff))

theorem ResolverOff.lines_quiet {cpu : Cpu} (h : ResolverOff cpu) (hon : cpu.resolving = true) :
    cpu.lines.sampling = false := by
  refine (flag_sampling _).mp ?_
  by_contra hreq
  simp [Cpu.resolving, h.request hreq] at hon

/-- The tick of the interrupt unit that goes with a tick of the CPU. -/
def unitTick (h : Handler) (cpu : Cpu) (bus : Byte) : Lines × Option (ServiceSlot × Nat) :=
  cpu.lines.tick cpu.resolving (iClear cpu.p) (execute h cpu bus).2.fetching (h.signal cpu)

theorem unitTick_sample {h : Handler} {cpu : Cpu} (hoff : ResolverOff cpu)
    (hon : cpu.resolving = true) (hs : h.signal cpu = .sample) (bus : Byte) :
    unitTick h cpu bus = (cpu.lines.detect.arbitrate (iClear cpu.p), none) := by
  rw [unitTick, hon, hs, Lines.tick_sample (hoff.lines_quiet hon)]

theorem unitTick_other {h : Handler} {cpu : Cpu} (hoff : ResolverOff cpu)
    (hon : cpu.resolving = true) (hs : h.signal cpu ≠ .sample) (bus : Byte) :
    unitTick h cpu bus =
      let l := cpu.lines.detect.apply (iClear cpu.p) (h.signal cpu)
      if (execute h cpu bus).2.fetching && l.nmiTaken then (l.clearTaken, some (.nmi, 0))
      else if (execute h cpu bus).2.fetching && l.irqTaken then (l.clearTaken, some (.irq, 0))
      else (l, (cpu.lines.detect.jump (iClear cpu.p) (h.signal cpu)).map (·, 4)) := by
  rw [unitTick, hon, Lines.tick_other (hoff.lines_quiet hon) _ _ hs]

theorem unitTick_plain {h : Handler} {cpu : Cpu} {bus : Byte} (hoff : ResolverOff cpu)
    (hon : cpu.resolving = true) (hs : h.signal cpu ≠ .sample)
    (hf : (execute h cpu bus).2.fetching = false) :
    unitTick h cpu bus = (cpu.lines.detect.apply (iClear cpu.p) (h.signal cpu),
      (cpu.lines.detect.jump (iClear cpu.p) (h.signal cpu)).map (·, 4)) := by
  rw [unitTick_other hoff hon hs, hf]
  rfl

theorem unitTick_off {h : Handler} {cpu : Cpu} (hoff : cpu.resolving = false) (bus : Byte) :
    unitTick h cpu bus = (cpu.lines.apply (iClear cpu.p) (h.signal cpu),
      (cpu.lines.jump (iClear cpu.p) (h.signal cpu)).map (·, 4)) := by
  rw [unitTick, hoff]
  rfl

section execute

variable (h : Handler) (cpu : Cpu) (bus : Byte)

/-- **A tick steps the interrupt unit.** -/
theorem execute_lines : (execute h cpu bus).1.lines = (unitTick h cpu bus).1 := by
  rw [unitTick, Lines.tick, Cpu.resolving, execute_tick]
  by_cases hij : cpu.hijackMicrocode = 0
  · rw [execute_off hij, unresolved_eq, if_neg (by simp [hij])]
    exact of_apply _ _ _
  · rw [execute_on hij, resolved_eq, if_pos (decide_eq_true hij)]
    exact congrArg Prod.fst (of_resolvedByte _ _ _ _)

/-- **The interrupt unit says where the microcode goes.** -/
theorem execute_microcode : (execute h cpu bus).1.microcode =
    match (unitTick h cpu bus).2 with
    | some (slot, cycle) => idx cpu.model slot.code (BitVec.ofNat 16 cycle)
    | none => (h.run cpu.forget bus).1.microcode + 1 := by
  rw [unitTick, Lines.tick, Cpu.resolving, execute_tick]
  by_cases hij : cpu.hijackMicrocode = 0
  · rw [execute_off hij, unresolved_eq, if_neg (by simp [hij])]
    dsimp only
    rw [jump_of]
    show jumpIndex _ _ _ (cpu.lines.jump (iClear cpu.p) (h.signal cpu)) = _
    cases cpu.lines.jump (iClear cpu.p) (h.signal cpu) <;> rfl
  · rw [execute_on hij, resolved_eq, if_pos (decide_eq_true hij)]
    dsimp only
    have hafter := congrArg Prod.snd (of_resolvedByte (h.signal cpu) cpu.p
      (h.run cpu.forget bus).2.fetching cpu.interrupts)
    rw [jump_of, of_detected]
    dsimp only at hafter
    rw [hafter]
    show jumpIndex _ _ (jumpIndex _ _ _ (cpu.lines.detect.jump _ _))
      ((cpu.lines.detect.apply _ _).settle _ _).2 = _
    cases ((cpu.lines.detect.apply (iClear cpu.p) (h.signal cpu)).settle (iClear cpu.p)
      (h.run cpu.forget bus).2.fetching).2 with
    | none => cases cpu.lines.detect.jump (iClear cpu.p) (h.signal cpu) <;> rfl
    | some slot => rfl

end execute

/-! ### Places -/

/-- The handlers that switch edge detection off. -/
def Handler.switchesOff : Handler → Bool
  | .mcStackPushStatusB | .mcNmiC3PushP | .mcIrqC3PushP => true
  | _ => false

def Move.isService : Move → Bool
  | .enter .nmi _ | .enter .irq _ => true
  | _ => false

/-- The push-status handlers that may enter a service slot. -/
def Handler.isPush : Handler → Bool
  | .mcStackPushStatusB | .mcIrqC3PushP => true
  | _ => false

theorem exits_noService {h : Handler} (hpush : h.isPush = false) :
    (h.exits.all fun e => !e.move.isService) = true := by
  cases h <;> first | exact Bool.noConfusion hpush | rfl

theorem push_forget {h : Handler} (hpush : h.isPush = true) (cpu : Cpu) (bus : Byte) :
    (h.run cpu.forget bus).1.model = cpu.model ∧
      (h.run cpu.forget bus).1.microcode = cpu.microcode ∧
      (h.run cpu.forget bus).2.status = statusWriting := by
  have hpushed : Signal.pushed cpu.forget.interrupts cpu.forget.p = interruptSamplingOff :=
    pushed_zero cpu.p
  cases h with
  | mcStackPushStatusB =>
    rw [Handler.run, mcStackPushStatusB_split, hpushed]
    exact ⟨rfl, rfl, rfl⟩
  | mcIrqC3PushP =>
    rw [Handler.run, mcIrqC3PushP_split, hpushed]
    exact ⟨rfl, rfl, rfl⟩
  | _ => exact Bool.noConfusion hpush

/-- Without the interrupt state a handler leaves by an exit that enters no service slot. -/
theorem forgotten_exit (h : Handler) (cpu : Cpu) (bus : Byte) :
    ∃ e ∈ h.exits, e.move.isService = false ∧ e.Of h cpu.forget (h.run cpu.forget bus) := by
  cases hpush : h.isPush with
  | false =>
    obtain ⟨e, hmem, he⟩ := exit_of_run h cpu.forget bus
    have hall := List.all_eq_true.mp (exits_noService hpush) e hmem
    exact ⟨e, hmem, by simpa using hall, he⟩
  | true =>
    obtain ⟨hmodel, hindex, hstatus⟩ := push_forget hpush cpu bus
    refine ⟨{ status := statusWriting }, ?_, rfl, hmodel, congrArg (· + 1) hindex, hstatus, ?_, ?_⟩
    · cases h <;> first | exact Bool.noConfusion hpush | simp [Handler.exits]
    · cases h <;> first | exact Bool.noConfusion hpush | rfl
    · intro d hd
      cases hd

/-- The exit `e` of a tick of `h` that leads from one place to another, or to the service slot
the interrupt unit enters. -/
structure Exit.Leads (e : Exit) (h : Handler) (cpu : Cpu) (bus : Byte)
    (slot cycle slot' cycle' : Nat) : Prop where
  mem : e ∈ h.exits
  index : (h.run cpu.forget bus).1.microcode + 1 = e.move.index cpu
  place : (execute h cpu bus).1.At slot' cycle'
  callable : isCallable (entryAt cpu.model.toNat slot' cycle') = true
  status : (execute h cpu bus).2.status = e.status
  samples : e.samples = decide (h.signal cpu = .sample)
  decimal : ∀ d ∈ e.decimal, decimalClear cpu = !d
  noService : e.move.isService = false
  target : (slot', cycle') = match (unitTick h cpu bus).2 with
    | some (slot, cycle) => (slot.code.toNat, cycle)
    | none => e.move.target slot cycle

section leads

variable {e : Exit} {h : Handler} {cpu : Cpu} {bus : Byte} {slot cycle slot' cycle' : Nat}

theorem Exit.Leads.of_none (hleads : e.Leads h cpu bus slot cycle slot' cycle')
    (hnone : (unitTick h cpu bus).2 = none) :
    slot' = (e.move.target slot cycle).1 ∧ cycle' = (e.move.target slot cycle).2 := by
  have htarget : (slot', cycle') = e.move.target slot cycle := by
    rw [hleads.target, hnone]
  rw [← htarget]
  exact ⟨rfl, rfl⟩

theorem Exit.Leads.of_entered (hleads : e.Leads h cpu bus slot cycle slot' cycle')
    {service : ServiceSlot} {k : Nat} (hentered : (unitTick h cpu bus).2 = some (service, k)) :
    slot' = service.code.toNat ∧ cycle' = k := by
  have htarget : (slot', cycle') = (service.code.toNat, k) := by
    rw [hleads.target, hentered]
  exact Prod.mk.inj htarget

theorem Exit.Leads.fetching (hleads : e.Leads h cpu bus slot cycle slot' cycle') :
    (execute h cpu bus).2.fetching = decide (e.status &&& statusOpcodeFetch ≠ 0) := by
  rw [Tick.fetching, hleads.status]

end leads

theorem handler_of_brkPush {h : Handler} {cpu : Cpu} (hs : h.signal cpu = .brkPush) :
    h = .mcStackPushStatusB := by
  cases h <;> first
    | rfl
    | exact Signal.noConfusion hs
    | (dsimp only [Handler.signal] at hs; split at hs <;> cases hs)

theorem handler_of_irqPush {h : Handler} {cpu : Cpu} (hs : h.signal cpu = .irqPush) :
    h = .mcIrqC3PushP := by
  cases h <;> first
    | rfl
    | exact Signal.noConfusion hs
    | (dsimp only [Handler.signal] at hs; split at hs <;> cases hs)

theorem handler_of_nmiPush {h : Handler} {cpu : Cpu} (hs : h.signal cpu = .nmiPush) :
    h = .mcNmiC3PushP := by
  cases h <;> first
    | rfl
    | exact Signal.noConfusion hs
    | (dsimp only [Handler.signal] at hs; split at hs <;> cases hs)

/-- A service slot is entered from a fetch or from a push-status cycle. -/
theorem entered_cases {h : Handler} {cpu : Cpu} {bus : Byte} {service : ServiceSlot} {k : Nat}
    (hs : (unitTick h cpu bus).2 = some (service, k)) :
    (execute h cpu bus).2.fetching = true ∨ h.isPush = true := by
  rcases Lines.tick_entered hs with ⟨_, hf, _⟩ | ⟨_, ⟨hsig, _⟩ | ⟨hsig, _⟩⟩
  · exact Or.inl hf
  · exact Or.inr (by rw [handler_of_brkPush hsig]; rfl)
  · exact Or.inr (by rw [handler_of_irqPush hsig]; rfl)

/-- The slot that the interrupt unit enters has the cycle it is entered at. -/
theorem entered_callable {h : Handler} {cpu : Cpu} {bus : Byte} {slot cycle : Nat}
    (hentry : entryAt cpu.model.toNat slot cycle = some (.handler h)) {service : ServiceSlot}
    {k : Nat} (hs : (unitTick h cpu bus).2 = some (service, k)) :
    isCallable (entryAt cpu.model.toNat service.code.toNat k) = true := by
  obtain ⟨hm, _, _⟩ := entryAt_bounds hentry
  rcases Lines.tick_entered hs with ⟨rfl, _, hslot⟩ | ⟨rfl, ⟨hsig, hslot⟩ | ⟨hsig, rfl⟩⟩
  · exact service_callable hm hslot
  · obtain rfl := handler_of_brkPush hsig
    rcases hslot with rfl | rfl
    · exact callable_target (e := { move := .enter .nmi 4, status := statusWriting }) hentry
        (by simp [Handler.exits])
    · exact callable_target (e := { move := .enter .irq 4, status := statusWriting }) hentry
        (by simp [Handler.exits])
  · obtain rfl := handler_of_irqPush hsig
    exact callable_target (e := { move := .enter .nmi 4, status := statusWriting }) hentry
      (by simp [Handler.exits])

/-- **Where a tick leads, exactly.** -/
theorem execute_place {cpu cpu₀ : Cpu} {bus : Byte} {slot cycle : Nat} {h : Handler}
    (hx : Executes cpu bus slot cycle h cpu₀) :
    ∃ (e : Exit) (slot' cycle' : Nat), e.Leads h cpu₀ bus slot cycle slot' cycle' := by
  obtain ⟨hat, hentry⟩ := hx.entry
  obtain ⟨hm, _, _⟩ := entryAt_bounds hentry
  obtain ⟨e, hmem, hservice, he⟩ := forgotten_exit h cpu₀ bus
  have hmodel : (execute h cpu₀ bus).1.model = cpu₀.model := execute_model
  have hmicro := execute_microcode h cpu₀ bus
  have hstatus : (execute h cpu₀ bus).2.status = e.status := by
    rw [execute_tick]
    exact he.status
  have hsamples : e.samples = decide (h.signal cpu₀ = .sample) := by
    rw [← he.samples, signal_forget]
  have hforget : e.move.index cpu₀.forget = e.move.index cpu₀ := by cases e.move <;> rfl
  have hindex := he.index.trans hforget
  cases hentered : (unitTick h cpu₀ bus).2 with
  | none =>
    have hcall := callable_target hentry hmem
    refine ⟨e, _, _, hmem, hindex, ?_, hcall, hstatus, hsamples, he.decimal, hservice, ?_⟩
    · rw [hentered] at hmicro
      rw [Cpu.At, hmodel, hmicro]
      exact hindex.trans (move_target_at hm hat e.move hcall)
    · rw [hentered]
  | some entered =>
    obtain ⟨service, k⟩ := entered
    have hcall := entered_callable hentry hentered
    refine ⟨e, service.code.toNat, k, hmem, hindex, ?_, hcall, hstatus, hsamples, he.decimal,
      hservice, ?_⟩
    · rw [hentered] at hmicro
      rw [Cpu.At, hmodel, hmicro]
      exact idx_eq_position hm service (bounds_of_callable hcall).2.2
    · rw [hentered]

end Qe6502
