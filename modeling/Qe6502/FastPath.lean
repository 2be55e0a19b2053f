import Qe6502.Resolver

/-!
# The fast path

`qe6502_tick` goes through `interrupt_resolver` only while `hijack_microcode` is set.  The
reference tick goes through it every time.  The two run in lockstep (`Lockstep`) as long as no
tick leaves the resolver out on a byte that is `Stale` (`fast_path`).

A stale byte is made by an NMI pin that is released while a BRK, NMI or IRQ sequence has
switched edge detection off: the resolver then switches itself off before it has followed the
pin, and the next edge is lost (`fast_path_differs`).
-/

namespace Qe6502

/-- `qe6502_tick` as if `hijack_microcode` were set. -/
def referenceTick (cpu : Cpu) (bus : Byte) : Option (Cpu × Tick) :=
  callEntry callDepth hijackIndex cpu bus

theorem referenceTick_of_executes {cpu cpu₀ : Cpu} {bus : Byte} {slot cycle : Nat} {h : Handler}
    (hx : Executes cpu bus slot cycle h cpu₀) :
    referenceTick cpu bus = some (resolved h cpu₀ bus) := by
  rw [referenceTick, callDepth, callEntry, controlStore_hijackIndex]
  exact interruptResolver_of_executes hx

/-- The tick issued and the registers. -/
structure Observed where
  tick : Tick
  pc : Word
  s : Byte
  a : Byte
  x : Byte
  y : Byte
  p : Byte
deriving DecidableEq

namespace Session

def observed (s : Session) : Observed := ⟨s.2, s.1.pc, s.1.s, s.1.a, s.1.x, s.1.y, s.1.p⟩

def referenceStep (s : Session) : Input → Option Session
  | .tick bus => referenceTick s.1 bus
  | .pin p => some (p.apply s.1, s.2)

/-- A tick leaves the resolver out before the last sampled level has followed the NMI pin. -/
def MissesRelease (s : Session) : Input → Prop
  | .tick _ => s.1.hijackMicrocode = 0 ∧ Stale s.1.interrupts
  | .pin _ => False

instance (s : Session) : (i : Input) → Decidable (s.MissesRelease i)
  | .tick _ => inferInstanceAs (Decidable (_ ∧ _))
  | .pin _ => inferInstanceAs (Decidable False)

/-- A tick that leaves the resolver out would leave the interrupt byte as it does with the
resolver, apart from the sampling request. -/
def ResolverDone (s : Session) : Input → Prop
  | .tick bus => s.1.hijackMicrocode = 0 →
    (referenceTick s.1 bus).map (fun r => r.1.interrupts) =
      (tick s.1 bus).map fun r => flagOff r.1.interrupts interruptSampling
  | .pin _ => True

/-- The fast session `f` and the reference session `r`. -/
structure Lockstep (f r : Session) : Prop where
  tick : r.2 = f.2
  forget : r.1.forget = f.1.forget
  interrupts : r.1.interrupts = flagOff f.1.interrupts interruptSampling
  off : ResolverOff f.1
  placed : Placed f.1

end Session

/-! ### One tick -/

theorem eq_of_forget {cpu cpu' : Cpu} (h : cpu'.forget = cpu.forget) :
    cpu' = { cpu with
      interrupts := cpu'.interrupts, hijackMicrocode := cpu'.hijackMicrocode } := by
  obtain ⟨⟩ := cpu
  obtain ⟨⟩ := cpu'
  simp only [Cpu.forget, Cpu.mk.injEq] at h ⊢
  simp [h]

/-- A handler runs whatever the interrupt state. -/
theorem Executes.of_forget {cpu cpu' cpu₀ : Cpu} {bus : Byte} {slot cycle : Nat} {h : Handler}
    (hx : Executes cpu bus slot cycle h cpu₀) (hforget : cpu'.forget = cpu.forget) :
    ∃ cpu₀', Executes cpu' bus slot cycle h cpu₀' ∧ cpu₀'.forget = cpu₀.forget ∧
      cpu₀'.interrupts = cpu'.interrupts ∧ cpu₀'.hijackMicrocode = cpu'.hijackMicrocode := by
  rw [eq_of_forget hforget]
  cases hx with
  | direct hat he => exact ⟨_, .direct hat he, rfl, rfl, rfl⟩
  | dispatch hat he hop => exact ⟨_, .dispatch hat he hop, rfl, rfl, rfl⟩

theorem execute_forget (h : Handler) (cpu : Cpu) (bus : Byte) :
    (execute h cpu bus).1.forget =
      { (h.run cpu.forget bus).1.forget with
        microcode := (execute h cpu bus).1.microcode } := by
  obtain ⟨i, j, k, hframe⟩ := execute_frame h cpu bus
  rw [hframe]
  rfl

theorem resolved_forget (h : Handler) (cpu : Cpu) (bus : Byte) :
    (resolved h cpu bus).1.forget =
      { (h.run cpu.forget bus).1.forget with
        microcode := (resolved h cpu bus).1.microcode } := by
  rw [resolved_eq]
  rfl

/-- **One tick in lockstep.** -/
theorem resolved_lockstep (h : Handler) {f r : Cpu} (bus : Byte) (hoff : ResolverOff f)
    (hstale : ¬(f.hijackMicrocode = 0 ∧ Stale f.interrupts)) (hforget : r.forget = f.forget)
    (hbyte : r.interrupts = flagOff f.interrupts interruptSampling) :
    (resolved h r bus).2 = (execute h f bus).2 ∧
      (resolved h r bus).1.interrupts =
        flagOff (execute h f bus).1.interrupts interruptSampling ∧
      (resolved h r bus).1.microcode = (execute h f bus).1.microcode := by
  have hsignal : h.signal r = h.signal f := by
    rw [← signal_forget, hforget, signal_forget]
  have hp : r.p = f.p := by rw [← forget_p, hforget, forget_p]
  have hmodel : r.model = f.model := by
    rw [eq_of_forget hforget]
  rw [resolved_eq]
  dsimp only
  rw [hforget, hsignal, hp, hmodel, hbyte]
  by_cases hij : f.hijackMicrocode = 0
  · have hidle := hoff.idle hij
    have hquiet := idle_sampling.mpr hidle
    have hfresh : ¬Stale (flagOff f.interrupts interruptSampling) :=
      fun hs => hstale ⟨hij, stale_sampling.mp hs⟩
    rw [execute_off hij, unresolved_eq]
    dsimp only
    rw [resolvedByte_of_idle hquiet hfresh, detected_of_idle hquiet hfresh,
      jump_of_idle hquiet, jump_of_idle hidle, apply_sampling]
    exact ⟨rfl, rfl, rfl⟩
  · have hquiet : flag f.interrupts interruptSampling = 0 := by
      by_contra hreq
      exact hij (hoff.request hreq)
    rw [execute_on hij, resolved_eq, flagOff_of_not_sampling hquiet]
    exact ⟨rfl, (flagOff_of_not_sampling (resolvedByte_sampling _ _ _ _)).symm, rfl⟩

namespace Session

theorem Lockstep.observed_eq {f r : Session} (h : Lockstep f r) : f.observed = r.observed := by
  rw [observed, observed, h.tick, eq_of_forget h.forget]

theorem Lockstep.next {f r : Session} (h : Lockstep f r) {i : Input} (hmiss : ¬MissesRelease f i) :
    Option.Rel Lockstep (f.step i) (r.referenceStep i) := by
  cases i with
  | tick bus =>
    obtain ⟨slot, cycle, h₀, f₀, hx⟩ := h.placed.executes bus
    obtain ⟨r₀, hx', hforget, hi, _⟩ := hx.of_forget h.forget
    obtain ⟨_, hfi, hfh, _⟩ := hx.interrupts_eq
    have hoff : ResolverOff f₀ := h.off.executes hx
    have hstale : ¬(f₀.hijackMicrocode = 0 ∧ Stale f₀.interrupts) := by
      rw [hfi, hfh]
      exact hmiss
    have hbyte : r₀.interrupts = flagOff f₀.interrupts interruptSampling := by
      rw [hi, hfi, h.interrupts]
    obtain ⟨htick, hbyte', hindex⟩ := resolved_lockstep h₀ bus hoff hstale hforget hbyte
    rw [step, tick_of_executes hx, referenceStep, referenceTick_of_executes hx']
    refine .some ⟨htick, ?_, hbyte', hoff.execute h₀ bus, hx.placed⟩
    rw [resolved_forget, execute_forget, hforget, hindex]
  | pin p =>
    rw [step, referenceStep, PinCall.apply_eq, PinCall.apply_eq]
    refine .some ⟨h.tick, ?_, ?_, h.off.pin p, placed_pins h.placed _ _⟩
    · exact h.forget
    · show p.pinned r.1.interrupts = flagOff (p.pinned f.1.interrupts) interruptSampling
      rw [h.interrupts, pinned_sampling, flagOff_of_not_sampling (sampling_pinned p _)]

theorem lockstep_restart {cpu : Cpu} (hm : cpu.model.toNat < supportedModelsCount) :
    Lockstep (restart cpu) (restart cpu) :=
  ⟨rfl, rfl, by show 0 = flagOff 0 interruptSampling; decide, restart_resolverOff cpu,
    restart_placed hm⟩

theorem resolverDone {s : Session} (hr : s.Reachable) {i : Input} (hmiss : ¬s.MissesRelease i) :
    s.ResolverDone i := by
  cases i with
  | tick bus =>
    intro hij
    obtain ⟨slot, cycle, h, cpu₀, hx⟩ := (reachable_placed hr).executes bus
    obtain ⟨_, hi, hh, _⟩ := hx.interrupts_eq
    have hidle : Idle cpu₀.interrupts := by
      rw [hi]
      exact (reachable_resolverOff hr).idle hij
    have hfresh : ¬Stale cpu₀.interrupts := by
      rw [hi]
      exact fun hs => hmiss ⟨hij, hs⟩
    rw [referenceTick_of_executes hx, tick_of_executes hx, execute_off (hh.trans hij),
      resolved_eq, unresolved_eq]
    dsimp only [Option.map_some]
    rw [resolvedByte_of_idle hidle hfresh]
  | pin p => trivial

end Session

/-- **The fast path is the slow path** in every run in which no tick leaves the resolver out on
a stale byte: the ticks and the registers are those of the reference, and the resolver never
switches itself off with something left to do. -/
theorem fast_path {cpu : Cpu} (hm : cpu.model.toNat < supportedModelsCount) {inputs : List Input}
    (h : StepMachine.Always Session.step (fun s i => ¬s.MissesRelease i) (restart cpu) inputs) :
    (StepMachine.states Session.step (restart cpu) inputs).map (List.map Session.observed) =
        (StepMachine.states Session.referenceStep (restart cpu) inputs).map
          (List.map Session.observed) ∧
      StepMachine.Always Session.step Session.ResolverDone (restart cpu) inputs := by
  refine ⟨?_, ?_⟩
  · refine StepMachine.states_observe_eq (fun _ _ hR => hR.observed_eq) ?_
      (Session.lockstep_restart hm) (StepMachine.together_of_always h)
    rintro f r i _ hR ⟨hmiss, rfl⟩
    exact hR.next hmiss
  · exact StepMachine.always_of_invariant Session.Reachable
      (fun _ i _ hr hs => .step (i := .input i) hr hs)
      (fun _ _ hr hmiss => Session.resolverDone hr hmiss) (.init ⟨cpu, hm, rfl⟩) h

/-- A run of CLIs in which an IRQ is served and released, and an NMI is served, released behind
its sequence and asserted again. -/
def pulses : List Input :=
  [.pin (.irq 1)] ++ List.replicate 28 (.tick 0x58) ++ [.pin (.irq 0)] ++
    List.replicate 8 (.tick 0x58) ++ [.pin (.nmi 1)] ++ List.replicate 12 (.tick 0x58) ++
    [.pin (.nmi 0)] ++ List.replicate 4 (.tick 0x58) ++ [.pin (.nmi 1)] ++
    List.replicate 12 (.tick 0x58)

/-- The run is without the resolver at some tick and reads the vectors of the reset, the IRQ and
both NMIs. -/
theorem fast_path_pulses :
    (∃ run, StepMachine.states Session.step (restart blankCpu) pulses = some run ∧
        (∃ s ∈ run, s.1.hijackMicrocode = 0) ∧
        (run.map fun s => s.2.address).filter (0xFFFA ≤ ·) =
          [0xFFFC, 0xFFFD, 0xFFFE, 0xFFFF, 0xFFFA, 0xFFFB, 0xFFFA, 0xFFFB]) ∧
      (StepMachine.states Session.step (restart blankCpu) pulses).map
          (List.map Session.observed) =
        (StepMachine.states Session.referenceStep (restart blankCpu) pulses).map
          (List.map Session.observed) ∧
      StepMachine.Always Session.step Session.ResolverDone (restart blankCpu) pulses := by
  have hfollows : StepMachine.Always Session.step (fun s i => ¬s.MissesRelease i)
      (restart blankCpu) pulses := by
    decide +kernel
  exact ⟨by decide +kernel, fast_path (by decide : blankCpu.model.toNat < 5) hfollows⟩

/-- An NMI pin asserted, released while a BRK sequence has edge detection off, and asserted
again. -/
def releaseUnseen : List Input :=
  [.pin (.nmi 1)] ++ List.replicate 28 (.tick 0) ++ [.pin (.nmi 0)] ++
    List.replicate 4 (.tick 0) ++ [.pin (.nmi 1)] ++ List.replicate 4 (.tick 0)

/-- The fast path reads the BRK vector where the reference serves the second NMI. -/
theorem fast_path_differs :
    (StepMachine.states Session.step (restart blankCpu) releaseUnseen).map
        (List.map Session.observed) ≠
      (StepMachine.states Session.referenceStep (restart blankCpu) releaseUnseen).map
        (List.map Session.observed) := by
  decide +kernel

end Qe6502
