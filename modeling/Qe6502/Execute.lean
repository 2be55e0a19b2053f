import Qe6502.Exits

/-!
# One tick in normal form

`execute_off` and `execute_on` write what a tick does as one record, for a tick that leaves the
resolver out and for one that goes through it: the registers come from the handler's run in
the forgotten context, the interrupt state from its signal.  `execute_exit` is the exit a tick
leaves by.
-/

namespace Qe6502

variable {h : Handler} {cpu : Cpu} {bus : Byte}

theorem run_model : (h.run cpu bus).1.model = cpu.model := by
  obtain ⟨e, _, he⟩ := exit_of_run h cpu bus
  exact he.model

theorem signal_interrupts (h : Handler) (cpu : Cpu) (interrupts : Byte) :
    h.signal { cpu with interrupts := interrupts } = h.signal cpu := by
  cases h <;> rfl

theorem signal_forget (h : Handler) (cpu : Cpu) : h.signal cpu.forget = h.signal cpu := by
  cases h <;> rfl

theorem signal_detectNmiEdge : h.signal (detectNmiEdge cpu) = h.signal cpu := by
  rw [detectNmiEdge_eq]
  exact signal_interrupts h cpu _

/-- The interrupt byte and the entered slot after a tick through the resolver. -/
def resolvedByte (s : Signal) (cpuFlags : Byte) (fetching : Bool) (interrupts : Byte) :
    Byte × Option ServiceSlot :=
  settled (s.apply cpuFlags (detected interrupts)) cpuFlags fetching

theorem unresolved_eq (h : Handler) (cpu : Cpu) (bus : Byte) :
    unresolved h cpu bus =
      ({ (h.run cpu.forget bus).1 with
          interrupts := (h.signal cpu).apply cpu.p cpu.interrupts
          hijackMicrocode := cpu.hijackMicrocode
          microcode := jumpIndex cpu.model 4 ((h.run cpu.forget bus).1.microcode + 1)
            ((h.signal cpu).jump cpu.p cpu.interrupts) }, (h.run cpu.forget bus).2) := by
  rw [unresolved, run_eq]
  dsimp only [withSignal, advanceMicrocode]
  cases (h.signal cpu).jump cpu.p cpu.interrupts with
  | none => rfl
  | some slot =>
    dsimp only [jumpIndex]
    rw [BitVec.sub_add_cancel]

theorem resolved_eq (h : Handler) (cpu : Cpu) (bus : Byte) :
    resolved h cpu bus =
      let tick := (h.run cpu.forget bus).2
      let after := resolvedByte (h.signal cpu) cpu.p tick.fetching cpu.interrupts
      let index := jumpIndex cpu.model 4 ((h.run cpu.forget bus).1.microcode + 1)
        ((h.signal cpu).jump cpu.p (detected cpu.interrupts))
      ({ (h.run cpu.forget bus).1 with
          interrupts := after.1
          hijackMicrocode := settledHijack after cpu.hijackMicrocode
          microcode := jumpIndex cpu.model 0 index after.2 }, tick) := by
  have hforget : (detectNmiEdge cpu).forget = cpu.forget := by
    rw [detectNmiEdge_eq]
    rfl
  have hmodel : (h.run cpu.forget bus).1.model = cpu.model := run_model
  dsimp only [resolved]
  rw [resolveTick_eq, unresolved_eq, hforget, signal_detectNmiEdge, detectNmiEdge_eq]
  dsimp only [resolvedByte]
  rw [hmodel]

/-- **A tick that leaves the resolver out.** -/
theorem execute_off (hoff : cpu.hijackMicrocode = 0) :
    execute h cpu bus = unresolved h cpu bus :=
  if_neg (not_not.mpr hoff)

/-- **A tick that goes through the resolver.** -/
theorem execute_on (hon : cpu.hijackMicrocode ≠ 0) : execute h cpu bus = resolved h cpu bus :=
  if_pos hon

theorem execute_tick : (execute h cpu bus).2 = (h.run cpu.forget bus).2 := by
  by_cases hij : cpu.hijackMicrocode = 0
  · rw [execute_off hij, unresolved_eq]
  · rw [execute_on hij, resolved_eq]

/-- Outside the interrupt state and the microcode index, a tick does what its handler does. -/
theorem execute_frame (h : Handler) (cpu : Cpu) (bus : Byte) : ∃ interrupts hijack index,
    (execute h cpu bus).1 =
      { (h.run cpu.forget bus).1 with
        interrupts := interrupts, hijackMicrocode := hijack, microcode := index } := by
  by_cases hij : cpu.hijackMicrocode = 0
  · rw [execute_off hij, unresolved_eq]
    exact ⟨_, _, _, rfl⟩
  · rw [execute_on hij, resolved_eq]
    exact ⟨_, _, _, rfl⟩

theorem execute_model : (execute h cpu bus).1.model = cpu.model := by
  by_cases hij : cpu.hijackMicrocode = 0
  · rw [execute_off hij, unresolved_eq]
    exact run_model
  · rw [execute_on hij, resolved_eq]
    exact run_model

/-! ### Exits of a tick -/

theorem settled_fetching {interrupts cpuFlags : Byte} {fetching : Bool} {slot : ServiceSlot}
    (hs : (settled interrupts cpuFlags fetching).2 = some slot) :
    fetching = true ∧ (slot = .nmi ∨ slot = .irq) := by
  unfold settled at hs
  split at hs
  · cases hs
  · split at hs
    next hf =>
      split at hs
      · cases hs
        exact ⟨hf, Or.inl rfl⟩
      · split at hs
        · cases hs
          exact ⟨hf, Or.inr rfl⟩
        · cases hs
    · cases hs

/-- The tick left by the exit `e`: to its target, or from a fetch into a service slot. -/
structure Exit.Took (e : Exit) (h : Handler) (cpu : Cpu) (r : Cpu × Tick) : Prop where
  model : r.1.model = cpu.model
  index : r.1.microcode = e.move.index cpu ∨
    r.2.fetching = true ∧
      ∃ slot : ServiceSlot, (slot = .nmi ∨ slot = .irq) ∧
        r.1.microcode = idx cpu.model slot.code 0
  status : r.2.status = e.status
  samples : decide (h.signal cpu = .sample) = e.samples
  decimal : ∀ d ∈ e.decimal, decimalClear cpu = !d

/-- **Every tick leaves by an exit of its handler.** -/
theorem execute_exit (h : Handler) (cpu : Cpu) (bus : Byte) :
    ∃ e ∈ h.exits, e.Took h cpu (execute h cpu bus) := by
  by_cases hij : cpu.hijackMicrocode = 0
  · obtain ⟨e, hmem, he⟩ := exit_of_run h cpu bus
    rw [execute_off hij]
    exact ⟨e, hmem, he.model, Or.inl he.index, he.status, he.samples, he.decimal⟩
  · obtain ⟨e, hmem, he⟩ := exit_of_run h (detectNmiEdge cpu) bus
    have hsamples := he.samples
    rw [signal_detectNmiEdge] at hsamples
    rw [execute_on hij]
    dsimp only [resolved]
    rw [resolveTick_eq]
    have hdetect := detectNmiEdge_eq cpu
    have hindex : e.move.index (detectNmiEdge cpu) = e.move.index cpu := by
      rw [hdetect]
      cases e.move <;> rfl
    have hmodel : (h.run (detectNmiEdge cpu) bus).1.model = cpu.model := by
      rw [run_model, hdetect]
    have hdecimal : decimalClear (detectNmiEdge cpu) = decimalClear cpu := by
      rw [hdetect]
      rfl
    refine ⟨e, hmem, hmodel, ?_, he.status, hsamples, ?_⟩
    · show jumpIndex (h.run (detectNmiEdge cpu) bus).1.model 0 _ _ = _ ∨ _ ∧ ∃ slot, _ ∧
        jumpIndex (h.run (detectNmiEdge cpu) bus).1.model 0 _ _ = _
      rw [hmodel]
      cases hslot : (settled _ cpu.p (unresolved h (detectNmiEdge cpu) bus).2.fetching).2 with
      | none => exact Or.inl (he.index.trans hindex)
      | some slot =>
        obtain ⟨hfetch, hcase⟩ := settled_fetching hslot
        exact Or.inr ⟨hfetch, slot, hcase, rfl⟩
    · rw [← hdecimal]
      exact he.decimal

end Qe6502
