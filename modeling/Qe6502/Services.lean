import Mathlib.Data.List.Induction
import Qe6502.TakenNmi

/-!
# No spurious interrupts

Every NMI service is owed to an assertion of the NMI pin (`services_le`), and every entry
into the IRQ slot to a sampling tick of the instruction before it (`irq_entry`).

The first is a potential argument: an assertion that has not been seen, a latched edge, a
taken NMI and an NMI sequence on its way to the vector each owe one service.  The second
carries the sampling tick along the run while `irqTaken` is set.
-/

namespace Qe6502

/-! ### What the lines owe -/

namespace Lines

/-- The NMI services the lines still owe. -/
def owed (l : Lines) : Nat := (l.nmiPin && !l.nmiLast).toNat + l.nmiEdge.toNat + l.nmiTaken.toNat

/-- One when the NMI slot is entered. -/
def servesNmi : Option (ServiceSlot × Nat) → Nat
  | some (.nmi, _) => 1
  | _ => 0

theorem owed_detect_le (l : Lines) : l.detect.owed ≤ l.owed := by
  unfold detect
  split
  · exact Nat.le_refl _
  · dsimp only [owed]
    cases l.nmiPin <;> cases l.nmiLast <;> cases l.nmiEdge <;> simp

theorem owed_arbitrate_le (l : Lines) (iClear : Bool) : (l.arbitrate iClear).owed ≤ l.owed := by
  unfold arbitrate
  split
  next hedge =>
    simp only [owed, hedge, Bool.toNat_true, Bool.toNat_false]
    omega
  next =>
    split
    · simp only [owed, Bool.toNat_false]
      omega
    · exact Nat.le_refl _

theorem owed_follow_le (l : Lines) {last : Bool} (hlast : l.nmiPin = true → l.nmiLast = true →
    last = true) : ({ l with nmiLast := last } : Lines).owed ≤ l.owed := by
  have hpin : (l.nmiPin && !last).toNat ≤ (l.nmiPin && !l.nmiLast).toNat := by
    cases hp : l.nmiPin with
    | false => exact Nat.le_refl _
    | true =>
      cases hl : l.nmiLast with
      | false => cases last <;> decide
      | true => rw [hlast hp hl]
  dsimp only [owed]
  omega

/-- What a handler does to the lines pays for the NMI slot it jumps to. -/
theorem owed_apply_le (l : Lines) (iClear : Bool) (s : Signal) :
    (l.apply iClear s).owed + servesNmi ((l.jump iClear s).map (·, 4)) ≤ l.owed := by
  have harb := l.owed_arbitrate_le iClear
  cases s with
  | none | sample | detectOn | cmosIrqPush => exact Nat.le_refl _
  | brkPush =>
    cases hn : (l.arbitrate iClear).nmiTaken with
    | true =>
      simp only [owed, hn, Bool.toNat_true] at harb
      simp only [apply, jump, hn, if_true, Option.map_some, servesNmi, owed, Bool.toNat_false]
      omega
    | false =>
      simp only [owed, hn, Bool.toNat_false] at harb
      cases hi : (l.arbitrate iClear).irqTaken with
      | true | false =>
        simp only [apply, jump, hn, hi, if_true, if_false, Bool.false_eq_true, Option.map_some,
          Option.map_none, servesNmi, owed, Bool.toNat_false]
        omega
  | irqPush =>
    cases hn : (l.arbitrate iClear).nmiTaken with
    | true =>
      simp only [owed, hn, Bool.toNat_true] at harb
      simp only [apply, jump, hn, if_true, Option.map_some, servesNmi, owed, Bool.toNat_false]
      omega
    | false =>
      simp only [owed, hn, Bool.toNat_false] at harb
      simp only [apply, jump, hn, if_false, Bool.false_eq_true, Option.map_none, servesNmi, owed,
        Bool.toNat_false]
      omega
  | nmiPush =>
    simp only [owed] at harb
    simp only [apply, jump, Option.map_none, servesNmi, owed, Bool.toNat_false]
    omega
  | cmosNmiPush | nmiVector | cmosVector =>
    have hfollow := l.owed_follow_le fun hp _ => hp
    simp only [owed] at hfollow
    simp only [apply, jump, Option.map_none, servesNmi, owed, Bool.toNat_false]
    omega

theorem owed_settle_le (l : Lines) (iClear fetching : Bool) :
    (l.settle iClear fetching).1.owed +
      servesNmi ((l.settle iClear fetching).2.map (·, 0)) ≤ l.owed := by
  unfold settle
  split
  · exact l.quiet.owed_arbitrate_le iClear
  · split
    next hn =>
      rw [Bool.and_eq_true] at hn
      simp only [owed, hn.2, Option.map_some, servesNmi, Bool.toNat_true, Bool.toNat_false]
      omega
    next =>
      split
      · simp only [owed, Option.map_some, servesNmi, Bool.toNat_false]
        omega
      · exact Nat.le_refl _

/-- **A tick of the lines pays for the NMI slot it enters.** -/
theorem owed_tick_le (l : Lines) (on iClear fetching : Bool) (s : Signal) :
    (l.tick on iClear fetching s).1.owed + servesNmi (l.tick on iClear fetching s).2 ≤ l.owed := by
  cases on with
  | false => exact l.owed_apply_le iClear s
  | true =>
    have hdetect := l.owed_detect_le
    have happly := l.detect.owed_apply_le iClear s
    have hsettle := (l.detect.apply iClear s).owed_settle_le iClear fetching
    simp only [tick, if_true]
    cases hslot : ((l.detect.apply iClear s).settle iClear fetching).2 with
    | none =>
      rw [hslot] at hsettle
      simp only [Option.map_none, servesNmi] at hsettle
      dsimp only
      omega
    | some slot =>
      rw [hslot] at hsettle
      simp only [Option.map_some] at hsettle
      dsimp only
      omega

end Lines

/-! ### On the way to the vector -/

/-- The NMI sequence is on its way to the vector. -/
def Cpu.inNmi (cpu : Cpu) : Bool := (List.range 5).any fun cycle => decide (cpu.At 262 cycle)

/-- A cycle of the NMI slot up to the vector is reached from the one before it, and cycle 4
alone reads the low byte of the vector. -/
def nmiPlaced (_model slot : Nat) (_entries : Slot) (cycle : Nat) : Entry → Bool
  | .handler h => (h != .mcNmiC4VecLo || slot == 262 && cycle == 4 && (Entry.handler h).straight) &&
      h.exits.all fun e => e.move.isService ||
        !((e.move.target slot cycle).1 == 262 && (e.move.target slot cycle).2 < 5) ||
        slot == 262 && cycle < 4
  | _ => true

theorem nmi_placed : entriesAll nmiPlaced = true := by decide +kernel

theorem inNmi_of_at {cpu : Cpu} {slot cycle : Nat} (hm : cpu.model.toNat < 5) (hs : slot < 264)
    (hc : cycle < 8) (hat : cpu.At slot cycle) :
    cpu.inNmi = decide (slot = 262 ∧ cycle < 5) := by
  rw [Bool.eq_iff_iff, Cpu.inNmi, List.any_eq_true, decide_eq_true_eq]
  constructor
  · rintro ⟨cycle', hmem, hat'⟩
    have hlt := List.mem_range.mp hmem
    obtain ⟨rfl, rfl⟩ := position_inj hm hs hc (by omega) (by omega)
      (hat.symm.trans (of_decide_eq_true hat'))
    exact ⟨rfl, hlt⟩
  · rintro ⟨rfl, hlt⟩
    exact ⟨cycle, List.mem_range.mpr hlt, decide_eq_true hat⟩

/-- The NMI services a session still owes. -/
def Session.owed (s : Session) : Nat := s.1.lines.owed + s.1.inNmi.toNat

namespace Session

/-- The tick is an NMI service: `mc_nmi_c4_vec_lo` reads 0xFFFA. -/
def ServesNmi (s : Session) : Input → Prop
  | .tick bus => (s.1.handler bus).map Prod.fst = some .mcNmiC4VecLo
  | .pin _ => False

instance (s : Session) : (i : Input) → Decidable (s.ServesNmi i)
  | .tick _ => inferInstanceAs (Decidable (_ = _))
  | .pin _ => isFalse id

/-- The call takes the NMI pin from deasserted to asserted. -/
def AssertsNmi (s : Session) : Input → Prop
  | .pin (.nmi assertNmi) => s.1.lines.nmiPin = false ∧ assertNmi ≠ 0
  | _ => False

instance (s : Session) : (i : Input) → Decidable (s.AssertsNmi i)
  | .pin (.nmi _) => inferInstanceAs (Decidable (_ ∧ _))
  | .pin (.irq _) => isFalse id
  | .tick _ => isFalse id

def nmiServices (s : Session) (inputs : List Input) : Nat :=
  StepMachine.total step (fun s i => if s.ServesNmi i then 1 else 0) s inputs

def nmiAssertions (s : Session) (inputs : List Input) : Nat :=
  StepMachine.total step (fun s i => if s.AssertsNmi i then 1 else 0) s inputs

theorem servesNmi_iff {s : Session} {bus : Byte} {slot cycle : Nat} {h : Handler} {cpu₀ : Cpu}
    (hx : Executes s.1 bus slot cycle h cpu₀) : s.ServesNmi (.tick bus) ↔ h = .mcNmiC4VecLo := by
  rw [ServesNmi, handler_of_executes hx, Option.map_some, Option.some.injEq]

theorem owed_tick {s : Session} (hp : Placed s.1) (bus : Byte) :
    ∃ s', s.step (.tick bus) = some s' ∧
      s'.owed + (if s.ServesNmi (.tick bus) then 1 else 0) ≤ s.owed := by
  obtain ⟨slot, cycle, h, cpu₀, hx⟩ := hp.executes bus
  refine ⟨_, tick_of_executes hx, ?_⟩
  obtain ⟨_, hi, _, hm⟩ := hx.interrupts_eq
  have hlines : cpu₀.lines = s.1.lines := congrArg Lines.of hi
  obtain ⟨e, slot', cycle', hleads⟩ := execute_place hx
  obtain ⟨hmodel, hs', hc'⟩ := bounds_of_callable hleads.callable
  obtain ⟨_, hs, hc⟩ := entryAt_bounds hx.entry.2
  have hexec : (execute h cpu₀ bus).1.model = cpu₀.model := execute_model
  have hnext := inNmi_of_at (by rw [hexec]; exact hmodel) hs' hc' hleads.place
  have hpaid : (execute h cpu₀ bus).1.lines.owed + Lines.servesNmi (unitTick h cpu₀ bus).2 ≤
      s.1.lines.owed := by
    rw [execute_lines, ← hlines]
    exact Lines.owed_tick_le _ _ _ _ _
  obtain ⟨_, _, hall⟩ := forall_entries nmi_placed hx.entry.2
  simp only [nmiPlaced, Bool.and_eq_true, Bool.or_eq_true, bne_iff_ne, ne_eq, beq_iff_eq]
    at hall
  -- What runs in the NMI slot up to the vector runs there without a dispatch.
  have hhere : slot = 262 → cycle < 5 → s.1.inNmi = true := by
    intro hslot hlt
    obtain rfl := hx.direct_of_service (by omega)
    rw [inNmi_of_at hp.supported hs hc hx.entry.1]
    exact decide_eq_true ⟨hslot, hlt⟩
  have hplace : (execute h cpu₀ bus).1.inNmi.toNat + (if s.ServesNmi (.tick bus) then 1 else 0) ≤
      Lines.servesNmi (unitTick h cpu₀ bus).2 + s.1.inNmi.toNat := by
    cases hentered : (unitTick h cpu₀ bus).2 with
    | some entered =>
      obtain ⟨service, k⟩ := entered
      obtain ⟨rfl, rfl⟩ := hleads.of_entered hentered
      have hnot : ¬s.ServesNmi (.tick bus) := by
        rw [servesNmi_iff hx]
        rintro rfl
        have hstraight := (hall.1.resolve_left (not_not.mpr rfl)).2
        rcases entered_cases hentered with hf | hpush
        · exact absurd ((straight_fetching hx hstraight).symm.trans hf) Bool.false_ne_true
        · cases hpush
      rw [if_neg hnot, hnext]
      cases service with
      | nmi =>
        have hle := Bool.toNat_le (decide (ServiceSlot.nmi.code.toNat = 262 ∧ cycle' < 5))
        simp only [Lines.servesNmi]
        omega
      | _ => simp [ServiceSlot.code]
    | none =>
      obtain ⟨hts, htc⟩ := hleads.of_none hentered
      have he := List.all_eq_true.mp hall.2 e hleads.mem
      rw [hleads.noService, ← hts, ← htc] at he
      by_cases hserves : s.ServesNmi (.tick bus)
      · have hvec := (servesNmi_iff hx).mp hserves
        obtain ⟨⟨hslot, hcycle⟩, hstraight⟩ := hall.1.resolve_left (not_not.mpr hvec)
        have hat := straight_next hx hstraight (by omega)
        rw [hhere hslot (by omega), if_pos hserves,
          inNmi_of_at (by rw [hexec]; exact hmodel) hs (by omega) hat]
        simp [hcycle]
      · rw [if_neg hserves, hnext]
        by_cases hin : slot' = 262 ∧ cycle' < 5
        · have hbefore : slot = 262 ∧ cycle < 4 := by simpa [hin] using he
          rw [hhere hbefore.1 (by omega), decide_eq_true hin]
          simp [Lines.servesNmi]
        · rw [decide_eq_false hin]
          simp
  dsimp only [owed]
  omega

theorem owed_pin (s : Session) (p : PinCall) :
    ∃ s', s.step (.pin p) = some s' ∧
      s'.owed ≤ s.owed + (if s.AssertsNmi (.pin p) then 1 else 0) := by
  refine ⟨_, rfl, ?_⟩
  have hlines : (p.apply s.1).lines = s.1.lines.pinned p := by
    rw [PinCall.apply_eq]
    exact of_pinned _ _
  have hplace : (p.apply s.1).inNmi = s.1.inNmi := by
    rw [PinCall.apply_eq]
    rfl
  have howed : (s.1.lines.pinned p).owed ≤
      s.1.lines.owed + (if s.AssertsNmi (.pin p) then 1 else 0) := by
    cases p with
    | irq assertIrq => exact Nat.le_add_right _ _
    | nmi assertNmi =>
      by_cases hassert : s.AssertsNmi (.pin (.nmi assertNmi))
      · have hle := Bool.toNat_le (decide (assertNmi ≠ 0) && !s.1.lines.nmiLast)
        rw [if_pos hassert]
        simp only [Lines.pinned, Lines.quiet, Lines.owed]
        omega
      · rw [if_neg hassert]
        have hpin : decide (assertNmi ≠ 0) = true → s.1.lines.nmiPin = true := by
          intro hne
          by_contra hoff
          exact hassert ⟨by simpa using hoff, of_decide_eq_true hne⟩
        simp only [Lines.pinned, Lines.quiet, Lines.owed]
        cases ha : decide (assertNmi ≠ 0) with
        | false =>
          simp only [Bool.false_and, Bool.toNat_false]
          omega
        | true => rw [hpin ha]; omega
  dsimp only [owed]
  rw [hlines, hplace]
  omega

/-- **The NMI services of a run are owed to assertions of the NMI pin.** -/
theorem services_le {s : Session} (hp : Placed s.1) (inputs : List Input) :
    s.nmiServices inputs ≤ s.owed + s.nmiAssertions inputs := by
  refine StepMachine.total_le_of_potential (fun s : Session => Placed s.1) ?_ hp
  intro s i hp
  obtain ⟨s', hs', heffect⟩ := call_effect hp (.input i)
  refine ⟨s', hs', heffect.placed hp, ?_⟩
  cases i with
  | tick bus =>
    obtain ⟨s₁, hs₁, hle⟩ := owed_tick hp bus
    obtain rfl := Option.some.inj (hs₁.symm.trans hs')
    exact Nat.le_add_right_of_le hle
  | pin p =>
    obtain ⟨s₁, hs₁, hle⟩ := owed_pin s p
    obtain rfl := Option.some.inj (hs₁.symm.trans hs')
    exact hle

theorem restart_owed {cpu : Cpu} (hm : cpu.model.toNat < 5) : owed (Qe6502.restart cpu) = 0 := by
  have hat : (Qe6502.restart cpu).1.At 258 0 := idx_eq_position hm .internalReset (by omega : 0 < 8)
  have hmodel : (Qe6502.restart cpu).1.model.toNat < 5 := hm
  have hplace : (Qe6502.restart cpu).1.inNmi = false :=
    inNmi_of_at hmodel (by omega) (by omega) hat
  have hlines : (Qe6502.restart cpu).1.lines.owed = 0 := by
    show (Lines.of 0).owed = 0
    decide
  show (Qe6502.restart cpu).1.lines.owed + (Qe6502.restart cpu).1.inNmi.toNat = 0
  rw [hplace, hlines]
  rfl

end Session

/-! ### Where an IRQ comes from -/

namespace Lines

theorem irqTaken_apply {iClear : Bool} {s : Signal} {l : Lines}
    (h : (l.apply iClear s).irqTaken = true) : l.irqTaken = true := by
  cases s with
  | brkPush | nmiPush | irqPush | cmosIrqPush => cases h
  | _ => exact h

theorem irqTaken_detect (l : Lines) : l.detect.irqTaken = l.irqTaken := by
  obtain ⟨edge, last, hdetect⟩ := l.detect_frame
  rw [hdetect]

theorem irqTaken_arbitrate {iClear : Bool} {l : Lines} (h : (l.arbitrate iClear).irqTaken = true) :
    l.irqTaken = true ∨ iClear = true ∧ l.irqPin = true := by
  unfold arbitrate at h
  split at h
  · cases h
  · split at h
    next hirq => exact Or.inr (by simpa using hirq)
    next => exact Or.inl h

/-- An IRQ is taken by a tick that samples the pin with I clear. -/
theorem irqTaken_tick {on iClear fetching : Bool} {s : Signal} {l : Lines}
    (hidle : on = false → l.idle) (hquiet : on = true → l.sampling = false)
    (h : (l.tick on iClear fetching s).1.irqTaken = true) :
    l.irqTaken = true ∨ s = .sample ∧ iClear = true ∧ l.irqPin = true := by
  cases on with
  | false => exact Or.inl (irqTaken_apply h)
  | true =>
    by_cases hs : s = .sample
    · subst hs
      rw [tick_sample (hquiet rfl)] at h
      rcases irqTaken_arbitrate h with htaken | ⟨hclear, hpin⟩
      · exact Or.inl ((irqTaken_detect l).symm.trans htaken)
      · exact Or.inr ⟨rfl, hclear, (irqPin_detect l).symm.trans hpin⟩
    · rw [tick_other (hquiet rfl) iClear fetching hs] at h
      split at h
      · cases h
      · split at h
        · cases h
        · exact Or.inl ((irqTaken_detect l).symm.trans (irqTaken_apply h))

/-- Cycle 0 of the IRQ slot is entered from a fetch with an IRQ taken. -/
theorem irqTaken_of_entered {on iClear fetching : Bool} {s : Signal} {l : Lines}
    (hquiet : on = true → l.sampling = false)
    (h : (l.tick on iClear fetching s).2 = some (.irq, 0)) :
    fetching = true ∧ l.irqTaken = true := by
  have hjump : ∀ o : Option ServiceSlot, o.map (·, 4) ≠ some (ServiceSlot.irq, 0) := by
    intro o ho
    cases o <;> simp at ho
  cases on with
  | false => exact absurd h (hjump _)
  | true =>
    by_cases hs : s = .sample
    · rw [hs, tick_sample (hquiet rfl)] at h
      cases h
    · rw [tick_other (hquiet rfl) iClear fetching hs] at h
      split at h
      · cases h
      · split at h
        next hi =>
          rw [Bool.and_eq_true] at hi
          exact ⟨hi.1, (irqTaken_detect l).symm.trans (irqTaken_apply hi.2)⟩
        next => exact absurd h (hjump _)

end Lines

/-- No handler moves to cycle 0 of the IRQ slot. -/
theorem irq_entered : entriesAll (fun _ slot _ cycle e => match e with
    | .handler h => h.exits.all fun e => e.move.isService || e.move.target slot cycle != (263, 0)
    | _ => true) = true := by decide +kernel

namespace Session

/-- The tick samples an asserted IRQ pin with I clear. -/
def SamplesIrq (s : Session) (bus : Byte) : Prop :=
  s.Samples bus ∧ s.1.lines.irqPin = true ∧ flag s.1.p flagI = 0

/-- The run has a tick that samples an asserted IRQ pin with I clear, and neither this tick nor
a later one of the run fetches an opcode. -/
def SampledIrq (s : Session) (inputs : List Input) : Prop :=
  ∃ (before : List Input) (bus : Byte) (after : List Input) (s₁ : Session) (ss : List Session),
    inputs = before ++ .tick bus :: after ∧ StepMachine.final step s before = some s₁ ∧
      s₁.SamplesIrq bus ∧ StepMachine.states step s₁ (.tick bus :: after) = some ss ∧
      ∀ s ∈ ss, s.2.fetching = false

/-- A step that does not fetch keeps the sampling tick in the instruction. -/
theorem SampledIrq.snoc {s s' s'' : Session} {inputs : List Input} {i : Input}
    (h : s.SampledIrq inputs) (hfinal : StepMachine.final step s inputs = some s')
    (hstep : s'.step i = some s'') (hf : s''.2.fetching = false) :
    s.SampledIrq (inputs ++ [i]) := by
  obtain ⟨before, bus, after, s₁, ss, rfl, hbefore, hsamples, hss, hnot⟩ := h
  rw [StepMachine.final_append, hbefore, Option.bind_some] at hfinal
  refine ⟨before, bus, after ++ [i], s₁, ss ++ [s''], by simp, hbefore, hsamples,
    StepMachine.states_snoc hss hfinal hstep, ?_⟩
  intro s₂ hmem
  rcases List.mem_append.mp hmem with hmem | hmem
  · exact hnot s₂ hmem
  · rw [List.mem_singleton.mp hmem]
    exact hf

/-- A tick that takes the IRQ samples it; one that does not must have found it taken. -/
theorem irqTaken_step {s s' : Session} (hr : s.Reachable) {bus : Byte}
    (hstep : s.step (.tick bus) = some s') (ht : s'.1.lines.irqTaken = true) :
    (s.1.lines.irqTaken = true ∨ s.SamplesIrq bus) ∧ s'.2.fetching = false := by
  obtain ⟨slot, cycle, h, cpu₀, hx⟩ := (reachable_placed hr).executes bus
  have hr' := reachable_tick hr hstep
  obtain rfl := Option.some.inj ((tick_of_executes hx).symm.trans hstep)
  obtain ⟨hp, hi, _, _⟩ := hx.interrupts_eq
  have hlines : cpu₀.lines = s.1.lines := congrArg Lines.of hi
  have hoff := (reachable_takenWaits hr).off.executes hx
  refine ⟨?_, (reachable_takenWaits hr').waits (by rw [Lines.taken, ht, Bool.or_true])⟩
  rw [execute_lines] at ht
  rcases Lines.irqTaken_tick hoff.lines_idle hoff.lines_quiet ht with htaken | ⟨hs, hclear, hpin⟩
  · exact Or.inl (hlines ▸ htaken)
  · refine Or.inr ⟨(samples_iff hx).mpr hs, hlines ▸ hpin, ?_⟩
    rw [hp] at hclear
    exact of_decide_eq_true hclear

/-- While an IRQ is taken, the instruction at hand has sampled it. -/
theorem sampledIrq_of_taken {s : Session} (hr : s.Reachable)
    (hs : s.1.lines.irqTaken = false) {inputs : List Input} {s' : Session}
    (hfinal : StepMachine.final step s inputs = some s') (ht : s'.1.lines.irqTaken = true) :
    s.SampledIrq inputs := by
  induction inputs using List.reverseRecOn generalizing s' with
  | nil =>
    cases hfinal
    exact absurd (hs.symm.trans ht) Bool.false_ne_true
  | append_singleton inputs i ih =>
    rw [StepMachine.final_append, Option.bind_eq_some_iff] at hfinal
    obtain ⟨s₁, hfinal, hlast⟩ := hfinal
    have hstep : s₁.step i = some s' := by simpa [StepMachine.final] using hlast
    have hr₁ := reachable_inputs hr hfinal
    cases i with
    | tick bus =>
      obtain ⟨hsource, hf⟩ := irqTaken_step hr₁ hstep ht
      rcases hsource with htaken | hsamples
      · exact (ih hfinal htaken).snoc hfinal hstep hf
      · refine ⟨inputs, bus, [], s₁, [s'], rfl, hfinal, hsamples, ?_, ?_⟩
        · simp [StepMachine.states, hstep]
        · intro s₂ hmem
          rw [List.mem_singleton.mp hmem]
          exact hf
    | pin p =>
      cases hstep
      have hlines : (p.apply s₁.1).lines = s₁.1.lines.pinned p := by
        rw [PinCall.apply_eq]
        exact of_pinned _ _
      have htaken : s₁.1.lines.irqTaken = true := by
        rw [hlines] at ht
        cases p <;> exact ht
      exact (ih hfinal htaken).snoc hfinal rfl
        ((reachable_takenWaits hr₁).waits (by rw [Lines.taken, htaken, Bool.or_true]))

/-- Cycle 0 of the IRQ slot is entered from an opcode fetch with an IRQ taken. -/
theorem irq_entry {s s' : Session} (hr : s.Reachable) {bus : Byte}
    (hstep : s.step (.tick bus) = some s') (hat : s'.1.At 263 0) :
    s'.2.fetching = true ∧ s.1.lines.irqTaken = true := by
  obtain ⟨slot, cycle, h, cpu₀, hx⟩ := (reachable_placed hr).executes bus
  obtain rfl := Option.some.inj ((tick_of_executes hx).symm.trans hstep)
  obtain ⟨_, hi, _, _⟩ := hx.interrupts_eq
  have hlines : cpu₀.lines = s.1.lines := congrArg Lines.of hi
  have hoff := (reachable_takenWaits hr).off.executes hx
  obtain ⟨e, slot', cycle', hleads⟩ := execute_place hx
  obtain ⟨hmodel, hs', hc'⟩ := bounds_of_callable hleads.callable
  have hexec : (execute h cpu₀ bus).1.model = cpu₀.model := execute_model
  have heq := hleads.place.symm.trans hat
  rw [hexec] at heq
  obtain ⟨rfl, rfl⟩ := position_inj hmodel hs' hc' (by omega) (by omega) heq
  cases hentered : (unitTick h cpu₀ bus).2 with
  | none =>
    obtain ⟨hts, htc⟩ := hleads.of_none hentered
    obtain ⟨_, _, hall⟩ := forall_entries irq_entered hx.entry.2
    have he := List.all_eq_true.mp hall e hleads.mem
    have htarget : e.move.target slot cycle = (263, 0) := Prod.ext hts.symm htc.symm
    rw [hleads.noService, htarget] at he
    cases he
  | some entered =>
    obtain ⟨service, k⟩ := entered
    obtain ⟨hservice, rfl⟩ := hleads.of_entered hentered
    have hirq : service = .irq := by
      cases service <;> first | rfl | exact absurd hservice (by decide)
    rw [hirq] at hentered
    obtain ⟨hf, ht⟩ := Lines.irqTaken_of_entered hoff.lines_quiet hentered
    exact ⟨hf, hlines ▸ ht⟩

end Session

/-- **No spurious and no duplicated interrupts**, in every run from restart: there are no more
NMI services than assertions of the NMI pin, and every entry into the IRQ slot comes at an
opcode fetch after a tick of the same instruction that sampled an asserted IRQ pin with I
clear. -/
theorem no_spurious_interrupts {cpu : Cpu} (hm : cpu.model.toNat < supportedModelsCount)
    (inputs : List Input) :
    Session.nmiServices (restart cpu) inputs ≤ Session.nmiAssertions (restart cpu) inputs ∧
    ∀ (s s' : Session) (bus : Byte),
      StepMachine.final Session.step (restart cpu) inputs = some s →
      s.step (.tick bus) = some s' → s'.1.At 263 0 →
      s'.2.fetching = true ∧ Session.SampledIrq (restart cpu) inputs := by
  have hr : Session.Reachable (restart cpu) := .init ⟨cpu, hm, rfl⟩
  constructor
  · have hle := Session.services_le (Session.reachable_placed hr) inputs
    rw [Session.restart_owed hm] at hle
    omega
  · intro s s' bus hfinal hstep hat
    obtain ⟨hf, ht⟩ := Session.irq_entry (Session.reachable_inputs hr hfinal) hstep hat
    have hnot : (restart cpu).1.lines.irqTaken = false := by
      show (Lines.of 0).irqTaken = false
      decide
    exact ⟨hf, Session.sampledIrq_of_taken hr hnot hfinal ht⟩

/-- Two NMIs and then an IRQ, in a run of CLIs. -/
def nmisThenIrq : List Input :=
  List.replicate 18 (.tick 0x58) ++ [.pin (.nmi 1)] ++ List.replicate 12 (.tick 0x58) ++
    [.pin (.nmi 0), .tick 0x58, .pin (.nmi 1)] ++ List.replicate 12 (.tick 0x58) ++
    [.pin (.irq 1), .tick 0x58]

/-- Both assertions are served, and the next tick enters the IRQ slot. -/
theorem no_spurious_interrupts_served :
    Session.nmiServices (restart blankCpu) nmisThenIrq = 2 ∧
      Session.nmiServices (restart blankCpu) nmisThenIrq ≤
        Session.nmiAssertions (restart blankCpu) nmisThenIrq ∧
      ∃ s, StepMachine.final Session.step (restart blankCpu) nmisThenIrq = some s ∧
        ∃ s', s.step (.tick 0x58) = some s' ∧ s'.1.At 263 0 ∧
          s'.2.fetching = true ∧ Session.SampledIrq (restart blankCpu) nmisThenIrq := by
  obtain ⟨s, hs, s', hs', hat⟩ : ∃ s,
      StepMachine.final Session.step (restart blankCpu) nmisThenIrq = some s ∧
        ∃ s', s.step (.tick 0x58) = some s' ∧ s'.1.At 263 0 := by
    decide +kernel
  have hserved : Session.nmiServices (restart blankCpu) nmisThenIrq = 2 := by decide +kernel
  obtain ⟨hle, hirq⟩ :=
    no_spurious_interrupts (by decide : blankCpu.model.toNat < 5) nmisThenIrq
  exact ⟨hserved, hle, s, hs, s', hs', hat, hirq s s' _ hs hs' hat⟩

end Qe6502
