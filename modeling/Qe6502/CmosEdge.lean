import Qe6502.CmosLines
import Qe6502.IFlag

/-!
# NMI edges during BRK and IRQ entry on the CMOS models

An NMI edge that arrives during a BRK sequence of a CMOS model stays latched until the first
sampling tick, and the fetch after that enters the NMI slot.  During an IRQ sequence this holds
of the last cycle only: `mc_cmos_irq_c5_vec_hi` shares the vector helper of the NMI sequence,
which clears the latch (`nmi_edge_survives`, `nmi_edge_dropped`).

The argument has two phases.  While the edge is latched nothing has been sampled; once it is
taken, I is set or nothing more is sampled in the instruction, so no IRQ can replace it.
-/

namespace Qe6502

/-! ### Checks of the tables -/

/-- The cycles of a BRK, NMI or IRQ sequence that follow the setting of I. -/
def afterSetI (slot cycle : Nat) : Bool := (slot == 0 || slot == 262 || slot == 263) && 6 ≤ cycle

def afterSetIKept (_model slot : Nat) (_entries : Slot) (cycle : Nat) : Entry → Bool
  | .handler h => h.exits.all fun e => e.move.isService ||
      !afterSetI (e.move.target slot cycle).1 (e.move.target slot cycle).2 || h.setsI ||
      afterSetI slot cycle && !h.changesI
  | _ => true

/-- The cycles of a BRK sequence before I is set. -/
def inBrk (slot cycle : Nat) : Bool := slot == 0 && cycle ≤ 5

/-- The cycles of an NMI or IRQ sequence up to the one that may clear the latched edge. -/
def clearsEdge (slot cycle : Nat) : Bool := (slot == 262 || slot == 263) && cycle ≤ 5

/-- The cycle of PLP that pulls P. -/
def Entry.isPull : Entry → Bool
  | .handler .opPlpStackPullReadyNonePendingDataFetch => true
  | _ => false

/-- The cycle of RTI that samples, after P has been pulled. -/
def Entry.isRtiSample : Entry → Bool
  | .handler .mcLatchPclStackReadPrefetch => true
  | _ => false

/-- One step of a CMOS model while nothing has been sampled. -/
def unsampledStep (model slot : Nat) (entries : Slot) (cycle : Nat) : Entry → Bool
  | .handler h => model < 2 || clearsEdge slot cycle || (Entry.handler h).isPull ||
      !h.isService && h.exits.all fun e =>
        let target := e.move.target slot cycle
        let next := entryAfter model slot entries cycle e.move
        e.move.isService ||
          if e.samples then !inBrk slot cycle && !afterSetI slot cycle
          else !clearsEdge target.1 target.2 && !next.any Entry.isPull &&
            (h.setsI ||
              if inBrk slot cycle then inBrk target.1 target.2
              else !h.changesI || next.any Entry.isRtiSample)
  | .mcDispatch => !inBrk slot cycle
  | .interruptResolver => true

/-- Nothing is sampled from this cycle of the slot on. -/
def noMoreSamples (entries : Slot) (cycle : Nat) : Bool :=
  (entries.drop cycle).all fun e => !e.maySample

/-- One step after a sample: an IRQ can be let through only where nothing more is sampled. -/
def sampledStep (_model slot : Nat) (entries : Slot) (cycle : Nat) : Entry → Bool
  | .handler h => h.exits.all fun e =>
      let target := e.move.target slot cycle
      e.status &&& statusOpcodeFetch != 0 || e.move.isService ||
        !(e.samples || sampledBefore slot entries cycle) ||
        target.1 == slot && (noMoreSamples entries target.2 ||
          (!h.changesI || h.setsI) && !noMoreSamples entries cycle &&
            !(Entry.handler h).isRtiSample)
  | _ => true

/-- What the control store is checked for, in one evaluation. -/
theorem edge_tables : entriesAll afterSetIKept = true ∧ entriesAll unsampledStep = true ∧
    entriesAll sampledStep = true ∧
    entriesAll (fun _ slot _ cycle e =>
      cycle != 0 && slot != 0 && slot < 256 || !e.isPull) = true ∧
    entriesAll (fun model slot entries cycle _ =>
      model < 2 || slot != 0 || !sampledBefore slot entries cycle) = true := by
  decide +kernel

theorem afterSetI_kept : entriesAll afterSetIKept = true := edge_tables.1

theorem unsampled_step : entriesAll unsampledStep = true := edge_tables.2.1

theorem sampled_step : entriesAll sampledStep = true := edge_tables.2.2.1

/-- The cycle of PLP that pulls P is not the first of its slot, and not one of BRK or of a
service slot. -/
theorem starts_unpulled : entriesAll (fun _ slot _ cycle e =>
    cycle != 0 && slot != 0 && slot < 256 || !e.isPull) = true := edge_tables.2.2.2.1

/-- A BRK sequence of a CMOS model does not sample. -/
theorem brk_unsampled : entriesAll (fun model slot entries cycle _ =>
    model < 2 || slot != 0 || !sampledBefore slot entries cycle) = true := edge_tables.2.2.2.2

/-! ### I after the vector -/

/-- I is set in the last cycles of a BRK, NMI or IRQ sequence. -/
def Cpu.EndsWithI (cpu : Cpu) : Prop :=
  ∀ slot cycle, slot < 264 → cycle < 8 → cpu.At slot cycle → afterSetI slot cycle = true →
    iClear cpu.p = false

theorem not_afterSetI_zero (slot : Nat) : afterSetI slot 0 = false := by
  simp [afterSetI]

theorem Cpu.EndsWithI.executes {cpu cpu₀ : Cpu} {bus : Byte} {slot cycle : Nat} {h : Handler}
    (hi : cpu.EndsWithI) (hx : Executes cpu bus slot cycle h cpu₀)
    (hs : afterSetI slot cycle = true) : iClear cpu₀.p = false := by
  cases hx with
  | direct hat he =>
    obtain ⟨_, hslot, hcycle⟩ := entryAt_bounds he
    exact hi slot cycle hslot hcycle hat hs
  | dispatch =>
    rw [not_afterSetI_zero] at hs
    cases hs

theorem Cpu.EndsWithI.next {cpu cpu₀ : Cpu} {bus : Byte} {slot cycle : Nat} {h : Handler}
    (hi : cpu.EndsWithI) (hx : Executes cpu bus slot cycle h cpu₀) :
    (execute h cpu₀ bus).1.EndsWithI := by
  intro slot₁ cycle₁ hslot₁ hcycle₁ hat₁ hafter
  obtain ⟨e, slot', cycle', hleads⟩ := execute_place hx
  obtain ⟨hm, hs', hc'⟩ := bounds_of_callable hleads.callable
  have hmodel : (execute h cpu₀ bus).1.model = cpu₀.model := execute_model
  have heq := hleads.place.symm.trans hat₁
  rw [hmodel] at heq
  obtain ⟨rfl, rfl⟩ := position_inj hm hs' hc' hslot₁ hcycle₁ heq
  cases hentered : (unitTick h cpu₀ bus).2 with
  | some entered =>
    obtain ⟨service, k⟩ := entered
    obtain ⟨rfl, rfl⟩ := hleads.of_entered hentered
    rcases Lines.tick_entered hentered with ⟨hzero, _⟩ | ⟨hfour, _⟩
    · simp [afterSetI, hzero] at hafter
    · simp [afterSetI, hfour] at hafter
  | none =>
    obtain ⟨hts, htc⟩ := hleads.of_none hentered
    obtain ⟨_, _, hall⟩ := forall_entries afterSetI_kept hx.entry.2
    have he := List.all_eq_true.mp hall e hleads.mem
    rw [hleads.noService, ← hts, ← htc, hafter] at he
    simp only [Bool.not_true, Bool.or_false, Bool.false_or, Bool.or_eq_true, Bool.and_eq_true,
      Bool.not_eq_true'] at he
    rcases he with hset | ⟨hafter₀, hkeep⟩
    · exact execute_setsI hset cpu₀ bus
    · rw [execute_iClear hkeep]
      exact hi.executes hx hafter₀

theorem Cpu.EndsWithI.of_at {cpu : Cpu} (slot cycle : Nat) (hm : cpu.model.toNat < 5)
    (hs : slot < 264) (hc : cycle < 8) (hat : cpu.At slot cycle)
    (hafter : afterSetI slot cycle = false) : cpu.EndsWithI := by
  intro slot' cycle' hs' hc' hat' hafter'
  obtain ⟨rfl, rfl⟩ := position_inj hm hs hc hs' hc' (hat.symm.trans hat')
  exact absurd (hafter.symm.trans hafter') (by decide)

theorem reachable_endsWithI {s : Session} (h : s.Reachable) : s.1.EndsWithI := by
  have hrestart : ∀ cpu : Cpu, cpu.model.toNat < 5 → (restart cpu).1.EndsWithI := by
    intro cpu hm
    exact .of_at 258 0 hm (by omega) (by omega)
      (idx_eq_position hm .internalReset (by omega : 0 < 8)) rfl
  refine Session.reachable_invariant (fun s => s.1.EndsWithI) hrestart ?_ h
  intro s c s' hp hinv heffect
  cases heffect with
  | tick hx => exact hinv.next hx
  | pin p => exact hinv
  | goto address =>
    have hm := hp.supported
    have hredirected : (redirected s.1 address).EndsWithI :=
      .of_at 261 0 hm (by omega) (by omega)
        (idx_eq_position hm .goto (by omega : 0 < 8)) rfl
    exact hredirected.next (redirected_executes hm address)
  | restart => exact hrestart s.1 hp.supported

/-! ### While the edge is latched -/

/-- Nothing has been sampled yet: the context stands where the latched edge is safe, and I is
set unless a BRK sequence or RTI is at work. -/
structure Unsampled (slot cycle : Nat) (e : Entry) (clear : Bool) : Prop where
  safe : clearsEdge slot cycle = false
  unpulled : e.isPull = false
  interrupts : inBrk slot cycle = true ∨ clear = false ∨ e.isRtiSample = true

/-- The lines while the edge is latched. -/
structure Lines.Latched (l : Lines) : Prop where
  edge : l.nmiEdge = true
  untaken : l.taken = false

/-- The session stands on a place where nothing has been sampled. -/
def Cpu.UnsampledAt (cpu : Cpu) : Prop :=
  ∃ slot cycle e, cpu.At slot cycle ∧ entryAt cpu.model.toNat slot cycle = some e ∧
    Unsampled slot cycle e (iClear cpu.p)

theorem Cpu.UnsampledAt.executes {cpu cpu₀ : Cpu} {bus : Byte} {slot cycle : Nat} {h : Handler}
    (hu : cpu.UnsampledAt) (hc : cpu.cmos) (hx : Executes cpu bus slot cycle h cpu₀) :
    Unsampled slot cycle (.handler h) (iClear cpu₀.p) := by
  obtain ⟨slot₁, cycle₁, e, hat₁, he₁, hun⟩ := hu
  obtain ⟨hm, hs₁, hc₁⟩ := entryAt_bounds he₁
  have hmodel : ¬cpu.model.toNat < 2 := Nat.not_lt.mpr hc
  cases hx with
  | direct hat he =>
    obtain ⟨_, hs, hcyc⟩ := entryAt_bounds he
    obtain ⟨rfl, rfl⟩ := position_inj hm hs hcyc hs₁ hc₁ (hat.symm.trans hat₁)
    rw [he, Option.some.injEq] at he₁
    exact he₁ ▸ hun
  | dispatch hat he hop =>
    obtain ⟨_, hs, hcyc⟩ := entryAt_bounds he
    obtain ⟨hseq, hceq⟩ := position_inj hm hs hcyc hs₁ hc₁ (hat.symm.trans hat₁)
    rw [hseq, hceq, he₁, Option.some.injEq] at he
    subst he
    obtain ⟨_, _, hall⟩ := forall_entries unsampled_step he₁
    obtain ⟨_, _, hstart⟩ := forall_entries starts_unpulled hop
    have hbrk : inBrk slot₁ cycle₁ = false := by simpa [unsampledStep] using hall
    have hlt : bus.toNat < 256 := bus.isLt
    refine ⟨?_, by simpa using hstart, Or.inr (Or.inl ?_)⟩
    · have h262 : bus.toNat ≠ 262 := by omega
      have h263 : bus.toNat ≠ 263 := by omega
      simp [clearsEdge, h262, h263]
    · rcases hun.interrupts with hin | hclear | hrti
      · exact absurd (hbrk.symm.trans hin) (by decide)
      · exact hclear
      · cases hrti

section latched

variable {cpu cpu₀ : Cpu} {bus : Byte} {slot cycle : Nat} {h : Handler}

/-- Where a tick that does not sample leads while nothing has been sampled. -/
theorem execute_unsampled (hx : Executes cpu bus slot cycle h cpu₀) (hc : cpu₀.cmos)
    (hu : Unsampled slot cycle (.handler h) (iClear cpu₀.p)) (hs : h.signal cpu₀ = .none)
    (hnone : (unitTick h cpu₀ bus).2 = none) : (execute h cpu₀ bus).1.UnsampledAt := by
  obtain ⟨e, slot', cycle', hleads⟩ := execute_place hx
  obtain ⟨hts, htc⟩ := hleads.of_none hnone
  obtain ⟨entries, hslot, hall⟩ := forall_entries unsampled_step hx.entry.2
  have hmodel : ¬cpu₀.model.toNat < 2 := Nat.not_lt.mpr hc
  simp only [unsampledStep, hmodel, decide_false, hu.safe, hu.unpulled, Bool.false_or,
    Bool.and_eq_true] at hall
  have he := List.all_eq_true.mp hall.2 e hleads.mem
  have hplain : e.samples = false := by
    rw [hleads.samples, hs]
    rfl
  obtain ⟨entry, hentry, _⟩ :
      ∃ entry, entryAt cpu₀.model.toNat slot' cycle' = some entry ∧ True := by
    cases hentry : entryAt cpu₀.model.toNat slot' cycle' with
    | none =>
      have hcall := hleads.callable
      rw [hentry] at hcall
      cases hcall
    | some entry => exact ⟨entry, rfl, trivial⟩
  rw [entryAfter_eq hslot, ← hts, ← htc, hentry] at he
  simp only [hleads.noService, hplain, Bool.false_or, Bool.false_eq_true, ↓reduceIte,
    Option.any_some, Bool.and_eq_true, Bool.not_eq_true', Bool.or_eq_true] at he
  obtain ⟨⟨hsafe, hpull⟩, hi⟩ := he
  have hmodel' : (execute h cpu₀ bus).1.model = cpu₀.model := execute_model
  refine ⟨slot', cycle', entry, hleads.place, by rw [hmodel', hentry], hsafe, hpull, ?_⟩
  rcases hi with hset | hi
  · exact Or.inr (Or.inl (execute_setsI hset cpu₀ bus))
  · split at hi
    · exact Or.inl hi
    next hbrk =>
      rw [Bool.or_eq_true, Bool.not_eq_true'] at hi
      rcases hi with hkeep | hrti
      · rcases hu.interrupts with hin | hclear | hrti
        · exact absurd hin hbrk
        · exact Or.inr (Or.inl ((execute_iClear hkeep cpu₀ bus).trans hclear))
        · cases h <;> first | exact Bool.noConfusion hrti | exact Signal.noConfusion hs
      · exact Or.inr (Or.inr hrti)

theorem Unsampled.signal (hx : Executes cpu bus slot cycle h cpu₀) (hc : cpu₀.cmos)
    (hu : Unsampled slot cycle (.handler h) (iClear cpu₀.p)) :
    h.signal cpu₀ = .none ∨ h.signal cpu₀ = .sample := by
  obtain ⟨entries, _, hall⟩ := forall_entries unsampled_step hx.entry.2
  have hmodel : ¬cpu₀.model.toNat < 2 := Nat.not_lt.mpr hc
  simp only [unsampledStep, hmodel, decide_false, hu.safe, hu.unpulled, Bool.false_or,
    Bool.and_eq_true, Bool.not_eq_true'] at hall
  exact signal_plain hall.1 cpu₀

/-- **One tick while the edge is latched**: it stays latched, or the tick samples and takes
the NMI. -/
theorem execute_latched (hx : Executes cpu bus slot cycle h cpu₀) (hc : cpu₀.cmos)
    (hoff : ResolverOff cpu₀) (hu : Unsampled slot cycle (.handler h) (iClear cpu₀.p))
    (hedge : cpu₀.lines.detect.nmiEdge = true) (hun : cpu₀.lines.taken = false)
    (hon : cpu₀.resolving = true) :
    (h.signal cpu₀ = .none ∧ (execute h cpu₀ bus).1.lines.Latched ∧
      (execute h cpu₀ bus).1.UnsampledAt) ∨
    (h.signal cpu₀ = .sample ∧ (execute h cpu₀ bus).1.lines.nmiTaken = true) := by
  rcases hu.signal hx hc with hsignal | hsignal
  · have huntaken : cpu₀.lines.detect.taken = false := (Lines.taken_detect _).trans hun
    obtain ⟨hnmi, hirq⟩ := Bool.or_eq_false_iff.mp huntaken
    have htick := unitTick_other hoff hon (by rw [hsignal]; decide) bus
    rw [hsignal] at htick
    dsimp only [Lines.apply, Lines.jump] at htick
    rw [hnmi, hirq, Bool.and_false, if_neg Bool.false_ne_true, if_neg Bool.false_ne_true] at htick
    refine Or.inl ⟨hsignal, ?_, execute_unsampled hx hc hu hsignal (congrArg Prod.snd htick)⟩
    rw [execute_lines, htick]
    exact ⟨hedge, huntaken⟩
  · refine Or.inr ⟨hsignal, ?_⟩
    rw [execute_lines, unitTick_sample hoff hon hsignal, Lines.arbitrate_of_edge hedge]

end latched

end Qe6502
