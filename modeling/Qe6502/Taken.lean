import Qe6502.InterruptUnit

/-!
# Taken interrupts

An interrupt that has been taken waits for the opcode fetch that ends the instruction.  While
one is taken the session stands in an opcode slot, after a cycle that may have sampled and
before the next fetch (`reachable_takenWaits`).
-/

namespace Qe6502

namespace Lines

def taken (l : Lines) : Bool := l.nmiTaken || l.irqTaken

theorem not_taken_of_idle {l : Lines} (hidle : l.idle) : l.taken = false := by
  simp only [idle, Bool.and_eq_true, Bool.not_eq_true'] at hidle
  rw [taken, hidle.1.2, hidle.2]
  rfl

theorem taken_apply {iClear : Bool} {s : Signal} {l : Lines}
    (h : (l.apply iClear s).taken = true) : l.taken = true := by
  cases s with
  | cmosNmiPush =>
    have hirq : l.irqTaken = true := by simpa [apply, taken] using h
    simp [taken, hirq]
  | cmosIrqPush =>
    have hnmi : l.nmiTaken = true := by simpa [apply, taken] using h
    simp [taken, hnmi]
  | brkPush | nmiPush | irqPush => simp [apply, taken] at h
  | _ => exact h

theorem taken_detect (l : Lines) : l.detect.taken = l.taken := by
  obtain ⟨edge, last, hdetect⟩ := l.detect_frame
  rw [hdetect]
  rfl

/-- Something is taken after a tick only if it was before or the tick samples, and never after
a fetch that does not sample. -/
theorem taken_tick {on iClear fetching : Bool} {s : Signal} {l : Lines}
    (hidle : on = false → l.idle) (hquiet : on = true → l.sampling = false)
    (h : (l.tick on iClear fetching s).1.taken = true) :
    (l.taken = true ∨ s = .sample) ∧ (fetching = true → s = .sample) := by
  cases on with
  | false =>
    have hnot := not_taken_of_idle (idle_apply (hidle rfl) iClear s)
    exact absurd h (by simpa [tick] using hnot)
  | true =>
    by_cases hs : s = .sample
    · exact ⟨Or.inr hs, fun _ => hs⟩
    · rw [tick_other (hquiet rfl) iClear fetching hs] at h
      split at h
      · exact absurd h (by simp [clearTaken, taken])
      next hn =>
        split at h
        · exact absurd h (by simp [clearTaken, taken])
        next hi =>
          have hl := taken_apply h
          rw [taken_detect] at hl
          refine ⟨Or.inl hl, fun hf => ?_⟩
          simp only [hf, Bool.true_and] at hn hi
          simp [taken, hn, hi] at h

theorem taken_push (iClear : Bool) {s : Signal} (hs : s = .brkPush ∨ s = .irqPush) (l : Lines) :
    (l.apply iClear s).taken = false := by
  rcases hs with rfl | rfl <;> rfl

/-- Nothing is taken after a tick that enters a service slot. -/
theorem not_taken_of_entered {on iClear fetching : Bool} {s : Signal} {l : Lines}
    (hquiet : on = true → l.sampling = false) {entered : ServiceSlot × Nat}
    (h : (l.tick on iClear fetching s).2 = some entered) :
    (l.tick on iClear fetching s).1.taken = false := by
  have hpush : ∀ l : Lines, (l.jump iClear s).map (·, 4) = some entered →
      s = .brkPush ∨ s = .irqPush := by
    intro l hl
    obtain ⟨slot, hj, _⟩ := Option.map_eq_some_iff.mp hl
    exact (jump_entered hj).imp And.left And.left
  cases on with
  | false =>
    exact taken_push iClear (hpush _ h) l
  | true =>
    by_cases hs : s = .sample
    · rw [hs, tick_sample (hquiet rfl)] at h
      cases h
    · rw [tick_other (hquiet rfl) iClear fetching hs] at h ⊢
      split at h
      next hn =>
        rw [if_pos hn]
        rfl
      next hn =>
        rw [if_neg hn]
        split at h
        next hi =>
          rw [if_pos hi]
          rfl
        next hi =>
          rw [if_neg hi]
          exact taken_push iClear (hpush _ h) _

end Lines

/-! ### Sampled instructions -/

def Entry.maySample : Entry → Bool
  | .handler h => h.exits.any Exit.samples
  | _ => false

def Entry.isDispatch : Entry → Bool
  | .mcDispatch => true
  | _ => false

/-- Before this cycle of an opcode slot interrupts may have been sampled, and no fetch has
followed yet. -/
def sampledBefore (slot : Nat) (entries : Slot) (cycle : Nat) : Bool :=
  slot < 256 && !(entries[cycle]?.any Entry.isDispatch) && (entries.take cycle).any Entry.maySample

/-- A fetch does not sample, and what has sampled without a fetch stays in its slot. -/
def samplesKept (_model slot : Nat) (entries : Slot) (cycle : Nat) : Entry → Bool
  | .handler h => h.exits.all fun e =>
    if e.status &&& statusOpcodeFetch ≠ 0 then !e.samples
    else !(e.samples || sampledBefore slot entries cycle) ||
      ((e.move.target slot cycle).1 = slot &&
        sampledBefore slot entries (e.move.target slot cycle).2)
  | _ => true

theorem samples_kept : entriesAll samplesKept = true := by decide +kernel

/-- What is taken has been sampled in the instruction at hand. -/
def TakenPlaced (cpu : Cpu) : Prop :=
  cpu.lines.taken = true → ∃ slot cycle entries, cpu.At slot cycle ∧ cycle < 8 ∧
    slotAt cpu.model.toNat slot = some entries ∧ sampledBefore slot entries cycle = true

theorem sampledBefore_zero (slot : Nat) (entries : Slot) :
    sampledBefore slot entries 0 = false := by
  simp [sampledBefore]

/-- At the handler of a tick, what is taken has been sampled in its slot. -/
theorem TakenPlaced.executes {cpu cpu₀ : Cpu} {bus : Byte} {slot cycle : Nat} {h : Handler}
    (hp : TakenPlaced cpu) (hx : Executes cpu bus slot cycle h cpu₀)
    (ht : cpu₀.lines.taken = true) :
    ∃ entries, slotAt cpu₀.model.toNat slot = some entries ∧
      sampledBefore slot entries cycle = true := by
  obtain ⟨_, hi, _, _⟩ := hx.interrupts_eq
  rw [Cpu.lines, hi] at ht
  obtain ⟨slot₁, cycle₁, entries, hat₁, hc₁, hs₁, hbefore⟩ := hp ht
  have hslot₁ : slot₁ < 256 := by
    simp only [sampledBefore, Bool.and_eq_true, decide_eq_true_eq] at hbefore
    exact hbefore.1.1
  cases hx with
  | direct hat he =>
    obtain ⟨hm, hs, hc⟩ := entryAt_bounds he
    obtain ⟨rfl, rfl⟩ := position_inj hm hs hc (by omega) hc₁ (hat.symm.trans hat₁)
    exact ⟨entries, hs₁, hbefore⟩
  | dispatch hat he hop =>
    obtain ⟨hm, hs, hc⟩ := entryAt_bounds he
    obtain ⟨hslot, hcycle⟩ := position_inj hm hs hc (by omega) hc₁ (hat.symm.trans hat₁)
    have hget : entries[cycle₁]? = some Entry.mcDispatch := by
      rw [hslot, hcycle, entryAt, hs₁] at he
      exact he
    simp [sampledBefore, hget, Entry.isDispatch] at hbefore

theorem sampledBefore_bound {slot cycle : Nat} {entries : Slot}
    (h : sampledBefore slot entries cycle = true) : slot < 256 := by
  simp only [sampledBefore, Bool.and_eq_true, decide_eq_true_eq] at h
  exact h.1.1

theorem TakenPlaced.next {cpu cpu₀ : Cpu} {bus : Byte} {slot cycle : Nat} {h : Handler}
    (hp : TakenPlaced cpu) (hoff : ResolverOff cpu) (hx : Executes cpu bus slot cycle h cpu₀)
    (ht : (execute h cpu₀ bus).1.lines.taken = true) :
    TakenPlaced (execute h cpu₀ bus).1 ∧ (execute h cpu₀ bus).2.fetching = false := by
  obtain ⟨e, slot', cycle', hleads⟩ := execute_place hx
  obtain ⟨entries, hslot, hall⟩ := forall_entries samples_kept hx.entry.2
  have he := List.all_eq_true.mp hall e hleads.mem
  have hoff₀ := hoff.executes hx
  rw [execute_lines] at ht
  obtain ⟨hsource, hfetch⟩ := Lines.taken_tick hoff₀.lines_idle hoff₀.lines_quiet ht
  have hnone : (unitTick h cpu₀ bus).2 = none := by
    cases hentered : (unitTick h cpu₀ bus).2 with
    | none => rfl
    | some entered =>
      have hnot := Lines.not_taken_of_entered hoff₀.lines_quiet hentered
      rw [unitTick, hnot] at ht
      cases ht
  have hfetching := hleads.fetching
  by_cases hf : e.status &&& statusOpcodeFetch ≠ 0
  · rw [if_pos hf, hleads.samples, Bool.not_eq_true', decide_eq_false_iff_not] at he
    exact absurd (hfetch (hfetching.trans (decide_eq_true hf))) he
  · refine ⟨fun _ => ?_, hfetching.trans (decide_eq_false hf)⟩
    have hbefore : (e.samples || sampledBefore slot entries cycle) = true := by
      rcases hsource with htaken | hsample
      · obtain ⟨entries', hslot', hbefore⟩ := hp.executes hx htaken
        rw [hslot, Option.some.injEq] at hslot'
        rw [hslot', hbefore, Bool.or_true]
      · rw [hleads.samples, decide_eq_true hsample, Bool.true_or]
    rw [if_neg hf, hbefore, Bool.not_true, Bool.false_or, Bool.and_eq_true,
      decide_eq_true_eq] at he
    obtain ⟨hs', hc'⟩ := hleads.of_none hnone
    rw [← hs', ← hc'] at he
    have hmodel : (Qe6502.execute h cpu₀ bus).1.model = cpu₀.model := execute_model
    obtain ⟨_, _, hc⟩ := bounds_of_callable hleads.callable
    refine ⟨slot', cycle', entries, hleads.place, hc, ?_, ?_⟩
    · rw [hmodel, he.1, hslot]
    · rw [he.1]
      exact he.2

theorem Lines.taken_pinned (c : PinCall) (l : Lines) : (l.pinned c).taken = l.taken := by
  cases c <;> rfl

theorem not_taken_of_goto {cpu : Cpu} (hoff : ResolverOff cpu) (address : Word) :
    (execute .mcFetch (redirected cpu address) 0).1.lines.taken = false := by
  have hoff' : ResolverOff (redirected cpu address) := ⟨hoff.request, hoff.idle⟩
  have hfetching : (execute .mcFetch (redirected cpu address) 0).2.fetching = true := by
    rw [execute_tick, Tick.fetching, Handler.run, mcFetch, fetch_status]
    rfl
  by_contra ht
  rw [Bool.not_eq_false, execute_lines] at ht
  obtain ⟨_, hfetch⟩ := Lines.taken_tick hoff'.lines_idle hoff'.lines_quiet ht
  exact Signal.noConfusion (hfetch hfetching)

/-- What is taken has been sampled in the instruction at hand, and its fetch is still to
come. -/
structure TakenWaits (s : Session) : Prop where
  off : ResolverOff s.1
  placed : TakenPlaced s.1
  waits : s.1.lines.taken = true → s.2.fetching = false

theorem TakenWaits.of_not_taken {s : Session} (hoff : ResolverOff s.1)
    (hnot : s.1.lines.taken = false) : TakenWaits s :=
  ⟨hoff, fun ht => absurd (hnot.symm.trans ht) Bool.false_ne_true,
    fun ht => absurd (hnot.symm.trans ht) Bool.false_ne_true⟩

theorem TakenWaits.of_restart (cpu : Cpu) : TakenWaits (restart cpu) :=
  .of_not_taken (restart_resolverOff cpu) (by show (Lines.of 0).taken = false; decide)

/-- **What is taken waits for the fetch**, in every reachable session. -/
theorem reachable_takenWaits {s : Session} (h : s.Reachable) : TakenWaits s := by
  refine Session.reachable_invariant TakenWaits ?_ ?_ h
  · exact fun cpu _ => .of_restart cpu
  · intro s c s' _ hinv heffect
    cases heffect with
    | tick hx =>
      exact ⟨(hinv.off.executes hx).execute _ _, fun ht => (hinv.placed.next hinv.off hx ht).1 ht,
        fun ht => (hinv.placed.next hinv.off hx ht).2⟩
    | pin p =>
      have hlines : (Lines.of (p.pinned s.1.interrupts)).taken = s.1.lines.taken := by
        rw [of_pinned, Lines.taken_pinned]
        rfl
      exact ⟨hinv.off.pin p, fun ht => hinv.placed (hlines.symm.trans ht),
        fun ht => hinv.waits (hlines.symm.trans ht)⟩
    | goto address =>
      have hredirected : ResolverOff (redirected s.1 address) := ⟨hinv.off.request, hinv.off.idle⟩
      exact .of_not_taken (hredirected.execute _ _) (not_taken_of_goto hinv.off address)
    | restart => exact .of_restart s.1

end Qe6502
