import Qe6502.Taken

/-!
# A taken NMI

Once `find_active_interrupt` has taken an NMI, `nmi_taken` waits for the fetch that enters the
NMI slot, or a push-status cycle goes on at cycle 4 of it (`taken_nmi_enters`).  This needs that
no later sampling tick of the instruction finds the IRQ pin asserted and I clear without a new
edge: the IRQ branch of `find_active_interrupt` then clears `nmi_taken`
(`taken_nmi_lost`).
-/

namespace Qe6502

namespace Signal

/-- The signals whose tick calls `find_active_interrupt`. -/
def arbitrates : Signal → Bool
  | sample | brkPush | nmiPush | irqPush => true
  | _ => false

end Signal

namespace Session

/-- The handler of the tick calls `prefetch`. -/
def Samples (s : Session) (bus : Byte) : Prop :=
  ∃ r, s.1.handler bus = some r ∧ r.1.signal r.2 = .sample

instance (s : Session) (bus : Byte) : Decidable (s.Samples bus) :=
  inferInstanceAs (Decidable (∃ r, _ = some r ∧ _))

theorem samples_iff {s : Session} {bus : Byte} {slot cycle : Nat} {h : Handler} {cpu₀ : Cpu}
    (hx : Executes s.1 bus slot cycle h cpu₀) : s.Samples bus ↔ h.signal cpu₀ = .sample := by
  rw [Samples, handler_of_executes hx]
  constructor
  · rintro ⟨r, hr, hsample⟩
    cases hr
    exact hsample
  · exact fun hsample => ⟨(h, cpu₀), rfl, hsample⟩

/-- `find_active_interrupt` consumes a latched NMI edge in this tick. -/
def TakesNmi (s : Session) (bus : Byte) : Prop :=
  s.1.resolving = true ∧ s.1.lines.detect.nmiEdge = true ∧
    ∃ r, s.1.handler bus = some r ∧ (r.1.signal r.2).arbitrates = true

/-- The tick samples an asserted IRQ pin with I clear while an NMI is taken and no new edge
has been latched. -/
def LosesToIrq (s : Session) : Input → Prop
  | .tick bus => s.1.lines.nmiTaken = true ∧ s.1.lines.detect.nmiEdge = false ∧
      s.1.lines.irqPin = true ∧ flag s.1.p flagI = 0 ∧ s.Samples bus
  | .pin _ => False

/-- The taken NMI is held, and the fetch is still to come. -/
def HoldsNmi (s : Session) : Prop := s.1.lines.nmiTaken = true ∧ s.2.fetching = false

/-- An opcode fetch enters the NMI slot. -/
def FetchesNmi (s' : Session) : Input → Prop
  | .tick _ => s'.2.fetching = true ∧ s'.1.At 262 0
  | .pin _ => False

instance (s' : Session) : (i : Input) → Decidable (s'.FetchesNmi i)
  | .tick _ => inferInstanceAs (Decidable (_ ∧ _))
  | .pin _ => isFalse id

/-- A tick enters the NMI slot: its first cycle from an opcode fetch, or its cycle 4 from a
push-status cycle. -/
def EntersNmi (s' : Session) : Input → Prop
  | .tick _ => s'.2.fetching = true ∧ s'.1.At 262 0 ∨ s'.2.fetching = false ∧ s'.1.At 262 4
  | .pin _ => False

instance (s : Session) : Decidable s.HoldsNmi := inferInstanceAs (Decidable (_ ∧ _))

instance (s' : Session) : (i : Input) → Decidable (s'.EntersNmi i)
  | .tick _ => inferInstanceAs (Decidable (_ ∧ _ ∨ _ ∧ _))
  | .pin _ => isFalse id

theorem FetchesNmi.enters {s' : Session} {i : Input} (h : s'.FetchesNmi i) : s'.EntersNmi i := by
  cases i with
  | tick _ => exact Or.inl h
  | pin _ => exact h

/-- The NMI taken in the tick is held until it enters the NMI slot. -/
def NmiSurvives (s : Session) (bus : Byte) (inputs : List Input) : Prop :=
  ∃ s', s.step (.tick bus) = some s' ∧ (s'.EntersNmi (.tick bus) ∨
    StepMachine.Until Session.step Session.HoldsNmi (fun _ i s' _ => s'.EntersNmi i) s' inputs)

instance (s : Session) (bus : Byte) (inputs : List Input) : Decidable (s.NmiSurvives bus inputs) :=
  inferInstanceAs (Decidable (∃ s', _ = some s' ∧ (_ ∨ _)))

end Session

/-! ### On the lines -/

namespace Lines

theorem nmiTaken_detect (l : Lines) : l.detect.nmiTaken = l.nmiTaken := by
  obtain ⟨edge, last, hdetect⟩ := l.detect_frame
  rw [hdetect]

theorem irqPin_detect (l : Lines) : l.detect.irqPin = l.irqPin := by
  obtain ⟨edge, last, hdetect⟩ := l.detect_frame
  rw [hdetect]

/-- A tick does not move the IRQ pin. -/
theorem tick_irqPin (l : Lines) (on iClear fetching : Bool) (s : Signal) :
    (l.tick on iClear fetching s).1.irqPin = l.irqPin := by
  have harbitrate : ∀ l : Lines, (l.arbitrate iClear).irqPin = l.irqPin := by
    intro l
    unfold arbitrate
    split_ifs <;> rfl
  have happly : ∀ l : Lines, (l.apply iClear s).irqPin = l.irqPin := by
    intro l
    cases s <;> first | rfl | exact harbitrate l
  cases on with
  | false => exact happly l
  | true =>
    rw [← l.irqPin_detect, ← happly l.detect]
    show ((l.detect.apply iClear s).settle iClear fetching).1.irqPin = _
    unfold settle
    split_ifs <;> first | rfl | exact harbitrate _

theorem arbitrate_of_edge {l : Lines} (hedge : l.nmiEdge = true) (iClear : Bool) :
    l.arbitrate iClear = { l with nmiEdge := false, nmiTaken := true, irqTaken := false } :=
  if_pos hedge

/-- Arbitration keeps a taken NMI unless it takes an IRQ. -/
theorem nmiTaken_arbitrate {l : Lines} {iClear : Bool} (ht : l.nmiTaken = true)
    (hlost : ¬(l.nmiEdge = false ∧ iClear = true ∧ l.irqPin = true)) :
    (l.arbitrate iClear).nmiTaken = true := by
  unfold arbitrate
  split
  · rfl
  next hedge =>
    split
    next hirq =>
      rw [Bool.and_eq_true] at hirq
      exact absurd ⟨by simpa using hedge, hirq⟩ hlost
    next => exact ht

theorem resolving_of_taken {on : Bool} {l : Lines} (hidle : on = false → l.idle = true)
    (ht : l.taken = true) : on = true := by
  cases on with
  | true => rfl
  | false => exact absurd ht (by simp [not_taken_of_idle (hidle rfl)])

end Lines

/-! ### Handlers with a signal of their own -/

/-- The handlers whose signal is neither a sample nor nothing. -/
def Handler.isService : Handler → Bool
  | .mcStackPushStatusB | .mcNmiC3PushP | .mcIrqC3PushP | .mcCmosNmiC3PushP | .mcCmosIrqC3PushP
  | .mcBrkC5VecHi | .mcNmosIrqC5VecHi | .mcNmosNmiC5VecHi | .mcCmosNmiC5VecHi
  | .mcCmosIrqC5VecHi => true
  | _ => false

theorem signal_plain {h : Handler} (hservice : h.isService = false) (cpu : Cpu) :
    h.signal cpu = .none ∨ h.signal cpu = .sample := by
  cases h <;> first
    | exact Bool.noConfusion hservice
    | exact Or.inl rfl
    | exact Or.inr rfl
    | (dsimp only [Handler.signal]; split <;> simp)

/-- No handler with a signal of its own runs after a sample of its instruction, and after the
NMI push-status cycle comes cycle 4. -/
def serviceUnsampled (_model slot : Nat) (entries : Slot) (cycle : Nat) : Entry → Bool
  | .handler h => (!sampledBefore slot entries cycle || !h.isService) &&
      (h != .mcNmiC3PushP || slot == 262 && cycle == 3)
  | _ => true

theorem service_unsampled : entriesAll serviceUnsampled = true := by decide +kernel

/-! ### Holding -/

section tick

variable {cpu cpu₀ : Cpu} {bus : Byte} {slot cycle : Nat} {h : Handler}

/-- What runs while something is taken has no signal of its own. -/
theorem TakenPlaced.signal (hp : TakenPlaced cpu) (hx : Executes cpu bus slot cycle h cpu₀)
    (ht : cpu₀.lines.taken = true) : h.signal cpu₀ = .none ∨ h.signal cpu₀ = .sample := by
  obtain ⟨entries, hslot, hbefore⟩ := hp.executes hx ht
  obtain ⟨entries', hslot', hall⟩ := forall_entries service_unsampled hx.entry.2
  rw [hslot, Option.some.injEq] at hslot'
  subst hslot'
  simp only [serviceUnsampled, hbefore, Bool.not_true, Bool.false_or, Bool.and_eq_true,
    Bool.not_eq_true'] at hall
  exact signal_plain hall.1 cpu₀

/-- One tick while an NMI is taken. -/
theorem execute_held (hp : TakenPlaced cpu) (hoff : ResolverOff cpu)
    (hx : Executes cpu bus slot cycle h cpu₀) (ht : cpu.lines.nmiTaken = true)
    (hlost : ¬(cpu.lines.detect.nmiEdge = false ∧ iClear cpu.p = true ∧
      cpu.lines.irqPin = true ∧ h.signal cpu₀ = .sample)) :
    Session.FetchesNmi (execute h cpu₀ bus) (.tick bus) ∨
      Session.HoldsNmi (execute h cpu₀ bus) := by
  obtain ⟨hpeq, hi, _, _⟩ := hx.interrupts_eq
  have hlines : cpu₀.lines = cpu.lines := congrArg Lines.of hi
  have hoff₀ := hoff.executes hx
  have ht₀ : cpu₀.lines.nmiTaken = true := by rw [hlines, ht]
  have htaken : cpu₀.lines.taken = true := by rw [Lines.taken, ht₀, Bool.true_or]
  have hon := Lines.resolving_of_taken hoff₀.lines_idle htaken
  obtain ⟨e, slot', cycle', hleads⟩ := execute_place hx
  have hheld : ∀ hn : (unitTick h cpu₀ bus).1.nmiTaken = true,
      Session.HoldsNmi (execute h cpu₀ bus) := by
    intro hn
    rw [← execute_lines] at hn
    exact ⟨hn, (hp.next hoff hx (by rw [Lines.taken, hn, Bool.true_or])).2⟩
  rcases hp.signal hx htaken with hsignal | hsignal
  · have htick := unitTick_other hoff₀ hon (by rw [hsignal]; decide) bus
    rw [hsignal] at htick
    dsimp only at htick
    have hn : (cpu₀.lines.detect.apply (iClear cpu₀.p) .none).nmiTaken = true :=
      (Lines.nmiTaken_detect _).trans ht₀
    cases hf : (execute h cpu₀ bus).2.fetching with
    | true =>
      rw [hf, hn, Bool.and_self, if_pos rfl] at htick
      obtain ⟨hs', hc'⟩ := hleads.of_entered (congrArg Prod.snd htick)
      have hplace := hleads.place
      rw [hs', hc'] at hplace
      exact Or.inl ⟨hf, hplace⟩
    | false =>
      rw [hf, Bool.false_and, Bool.false_and] at htick
      exact Or.inr (hheld (by rw [htick]; exact hn))
  · refine Or.inr (hheld ?_)
    rw [unitTick_sample hoff₀ hon hsignal]
    refine Lines.nmiTaken_arbitrate ((Lines.nmiTaken_detect _).trans ht₀) ?_
    rintro ⟨hedge, hclear, hirq⟩
    rw [Lines.irqPin_detect] at hirq
    rw [hlines] at hedge hirq
    rw [hpeq] at hclear
    exact hlost ⟨hedge, hclear, hirq, hsignal⟩

end tick

theorem held_next {s : Session} (hr : s.Reachable) (hheld : s.HoldsNmi) {i : Input}
    (hok : ¬s.LosesToIrq i) :
    ∃ s', s.step i = some s' ∧ (s'.FetchesNmi i ∨ s'.HoldsNmi) := by
  cases i with
  | tick bus =>
    obtain ⟨slot, cycle, h, cpu₀, hx⟩ := (Session.reachable_placed hr).executes bus
    have hinv := reachable_takenWaits hr
    refine ⟨_, tick_of_executes hx, execute_held hinv.placed hinv.off hx hheld.1 ?_⟩
    rintro ⟨hedge, hclear, hirq, hsample⟩
    exact hok ⟨hheld.1, hedge, hirq, of_decide_eq_true hclear, (h, cpu₀),
      handler_of_executes hx, hsample⟩
  | pin p =>
    refine ⟨_, rfl, Or.inr ⟨?_, hheld.2⟩⟩
    rw [PinCall.apply_eq]
    show (Lines.of (p.pinned s.1.interrupts)).nmiTaken = true
    rw [of_pinned]
    cases p <;> exact hheld.1

/-! ### Taking -/

theorem push_not_fetching {h : Handler} (hpush : h.isPush = true) (cpu : Cpu) (bus : Byte) :
    (execute h cpu bus).2.fetching = false := by
  rw [execute_tick, Tick.fetching, (push_forget hpush cpu bus).2.2]
  rfl

/-- A push-status tick with an NMI edge goes on at cycle 4 of the NMI slot. -/
theorem execute_pushed {cpu cpu₀ : Cpu} {bus : Byte} {slot cycle : Nat} {h : Handler}
    (hoff : ResolverOff cpu₀) (hx : Executes cpu bus slot cycle h cpu₀)
    (hon : cpu₀.resolving = true) (hpush : h.isPush = true)
    (hjump : cpu₀.lines.detect.jump (iClear cpu₀.p) (h.signal cpu₀) = some .nmi) :
    Session.EntersNmi (execute h cpu₀ bus) (.tick bus) := by
  obtain ⟨e, slot', cycle', hleads⟩ := execute_place hx
  have hsample : h.signal cpu₀ ≠ .sample := by
    intro hs
    rw [hs] at hjump
    cases hjump
  have hf := push_not_fetching hpush cpu₀ bus
  have htick := unitTick_plain hoff hon hsample hf
  rw [hjump] at htick
  obtain ⟨hs', hc'⟩ := hleads.of_entered (congrArg Prod.snd htick)
  have hplace := hleads.place
  rw [hs', hc'] at hplace
  exact Or.inr ⟨hf, hplace⟩

theorem execute_nmiPushed {cpu cpu₀ : Cpu} {bus : Byte} {slot cycle : Nat}
    (hx : Executes cpu bus slot cycle .mcNmiC3PushP cpu₀) :
    Session.EntersNmi (execute .mcNmiC3PushP cpu₀ bus) (.tick bus) := by
  obtain ⟨e, slot', cycle', hleads⟩ := execute_place hx
  obtain ⟨entries, _, hall⟩ := forall_entries service_unsampled hx.entry.2
  rw [serviceUnsampled, Bool.and_eq_true] at hall
  have hplace : slot = 262 ∧ cycle = 3 := by simpa using hall.2
  have hstatus : (Handler.run .mcNmiC3PushP cpu₀.forget bus).2.status = statusWriting := rfl
  have hf : (execute .mcNmiC3PushP cpu₀ bus).2.fetching = false := by
    rw [execute_tick, Tick.fetching, hstatus]
    rfl
  have hnone : (unitTick .mcNmiC3PushP cpu₀ bus).2 = none := by
    cases hentered : (unitTick .mcNmiC3PushP cpu₀ bus).2 with
    | none => rfl
    | some entered =>
      obtain ⟨service, k⟩ := entered
      rcases entered_cases hentered with hfetch | hpush
      · exact absurd (hf.symm.trans hfetch) (by decide)
      · cases hpush
  have hmem := hleads.mem
  have hexits : Handler.exits .mcNmiC3PushP = [{ status := statusWriting }] := rfl
  rw [hexits, List.mem_singleton] at hmem
  obtain ⟨hs', hc'⟩ := hleads.of_none hnone
  rw [hmem, hplace.1, hplace.2] at hs' hc'
  have hat := hleads.place
  rw [hs', hc'] at hat
  exact Or.inr ⟨hf, hat⟩

theorem takes_next {s : Session} (hr : s.Reachable) {bus : Byte} (htake : s.TakesNmi bus) :
    ∃ s', s.step (.tick bus) = some s' ∧ (s'.EntersNmi (.tick bus) ∨ s'.HoldsNmi) := by
  obtain ⟨hon, hedge, r, hr', harb⟩ := htake
  obtain ⟨slot, cycle, h, cpu₀, hx⟩ := (Session.reachable_placed hr).executes bus
  rw [handler_of_executes hx, Option.some.injEq] at hr'
  rw [← hr'] at harb
  have hinv := reachable_takenWaits hr
  obtain ⟨_, hi, hh, _⟩ := hx.interrupts_eq
  have hlines : cpu₀.lines = s.1.lines := congrArg Lines.of hi
  have hon₀ : cpu₀.resolving = true := by rw [Cpu.resolving, hh]; exact hon
  have hoff₀ := hinv.off.executes hx
  rw [← hlines] at hedge
  refine ⟨_, tick_of_executes hx, ?_⟩
  cases hsignal : h.signal cpu₀ with
  | sample =>
    have hn : (execute h cpu₀ bus).1.lines.nmiTaken = true := by
      rw [execute_lines, unitTick_sample hoff₀ hon₀ hsignal, Lines.arbitrate_of_edge hedge]
    exact Or.inr ⟨hn, (hinv.placed.next hinv.off hx (by rw [Lines.taken, hn, Bool.true_or])).2⟩
  | brkPush =>
    refine Or.inl (execute_pushed hoff₀ hx hon₀ (by rw [handler_of_brkPush hsignal]; rfl) ?_)
    rw [hsignal, Lines.jump, Lines.arbitrate_of_edge hedge]
    rfl
  | irqPush =>
    refine Or.inl (execute_pushed hoff₀ hx hon₀ (by rw [handler_of_irqPush hsignal]; rfl) ?_)
    rw [hsignal, Lines.jump, Lines.arbitrate_of_edge hedge]
    rfl
  | nmiPush =>
    obtain rfl := handler_of_nmiPush hsignal
    exact Or.inl (execute_nmiPushed hx)
  | none | cmosNmiPush | cmosIrqPush | detectOn | nmiVector | cmosVector =>
    rw [hsignal] at harb
    cases harb

/-! ### The NMI slot -/

/-- The entry goes on to the next cycle and does not fetch. -/
def Entry.straight : Entry → Bool
  | .handler h => !h.isPush &&
      h.exits.all fun e => e.move == .next && e.status &&& statusOpcodeFetch == 0
  | _ => false

theorem straight_fetching {cpu cpu₀ : Cpu} {bus : Byte} {slot cycle : Nat} {h : Handler}
    (hx : Executes cpu bus slot cycle h cpu₀) (hs : (Entry.handler h).straight = true) :
    (execute h cpu₀ bus).2.fetching = false := by
  simp only [Entry.straight, Bool.and_eq_true, Bool.not_eq_true', List.all_eq_true,
    beq_iff_eq] at hs
  obtain ⟨e, slot', cycle', hleads⟩ := execute_place hx
  rw [hleads.fetching, (hs.2 e hleads.mem).2]
  rfl

theorem straight_next {cpu cpu₀ : Cpu} {bus : Byte} {slot cycle : Nat} {h : Handler}
    (hx : Executes cpu bus slot cycle h cpu₀) (hs : (Entry.handler h).straight = true)
    (hc : cycle < 7) : (execute h cpu₀ bus).1.At slot (cycle + 1) := by
  simp only [Entry.straight, Bool.and_eq_true, Bool.not_eq_true', List.all_eq_true,
    beq_iff_eq] at hs
  obtain ⟨hpush, hexits⟩ := hs
  obtain ⟨e, slot', cycle', hleads⟩ := execute_place hx
  obtain ⟨hmove, hstatus⟩ := hexits e hleads.mem
  have hnone : (unitTick h cpu₀ bus).2 = none := by
    cases hentered : (unitTick h cpu₀ bus).2 with
    | none => rfl
    | some entered =>
      obtain ⟨service, k⟩ := entered
      rcases entered_cases hentered with hf | hp
      · rw [hleads.fetching, hstatus] at hf
        cases hf
      · exact absurd (hpush.symm.trans hp) (by decide)
  obtain ⟨hs', hc'⟩ := hleads.of_none hnone
  have htarget : Move.target slot cycle .next = (slot, cycle + 1) := if_neg (by
    have h8 : microcodePerSlot = 8 := rfl
    omega)
  rw [hmove, htarget] at hs' hc'
  have hplace := hleads.place
  rwa [hs', hc'] at hplace

/-- Cycles 4 and 5 of the NMI slot read the vector. -/
def nmiCycle (cycle : Nat) : Entry → Bool
  | .handler h => (Entry.handler h).straight && (cycle != 4 || h == .mcNmiC4VecLo) &&
      (cycle != 5 || h == .mcNmosNmiC5VecHi || h == .mcCmosNmiC5VecHi)
  | _ => false

theorem nmi_slot : ∀ model < 5, ∀ cycle < 6,
    (entryAt model 262 cycle).any (nmiCycle cycle) = true := by
  decide

/-- **The NMI slot reads the vector at 0xFFFA and 0xFFFB.** -/
theorem nmi_sequence {s : Session} {cycle : Nat} (hm : s.1.model.toNat < 5)
    (hat : s.1.At 262 cycle) (hc : cycle < 6) (bus : Byte) :
    ∃ s', s.step (.tick bus) = some s' ∧ s'.1.At 262 (cycle + 1) ∧
      (cycle = 4 → s'.2.address = 0xFFFA) ∧ (cycle = 5 → s'.2.address = 0xFFFB) := by
  obtain ⟨entry, hentry, hcycle⟩ := (Option.any_eq_true _ _).mp (nmi_slot _ hm cycle hc)
  cases entry with
  | interruptResolver | mcDispatch => cases hcycle
  | handler h =>
    simp only [nmiCycle, Bool.and_eq_true, Bool.or_eq_true, beq_iff_eq, bne_iff_ne,
      ne_eq] at hcycle
    obtain ⟨⟨hstraight, h4⟩, h5⟩ := hcycle
    have hx : Executes s.1 bus 262 cycle h s.1 := .direct hat hentry
    refine ⟨_, tick_of_executes hx, straight_next hx hstraight (by omega), fun hfour => ?_,
      fun hfive => ?_⟩
    · obtain rfl : h = .mcNmiC4VecLo := h4.resolve_left (not_not.mpr hfour)
      rw [execute_tick]
      rfl
    · rw [execute_tick]
      rcases h5 with (hne | rfl) | rfl
      · exact absurd hfive hne
      · rfl
      · rfl

/-- At a branch: a session redirected to 0x00F0, with the NMI pin just asserted. -/
def branchSession : Session := .after 0 [.goto 0x00F0, .input (.pin (.nmi 1))]

theorem branchSession_reachable : branchSession.Reachable := Session.after_reachable (by decide) _

theorem branchSession_takesNmi : branchSession.TakesNmi 0x90 :=
  ⟨by decide, by decide, by decide⟩

end Qe6502
