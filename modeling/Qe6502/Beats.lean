import Qe6502.Phases
import Qe6502.TakenNmi
import Qe6502.Boundary

/-!
# Instructions as beats

A session shows one beat a tick.  From a dispatch on it shows the beats of the machine of the
opcode's slot, up to the next opcode fetch: `dispatch_trace`.
-/

namespace Qe6502

namespace Session

/-- Pin calls and one tick, with what the tick shows. -/
def beat (s : Session) (c : List PinCall × Byte) : Option (Beat × Session) :=
  (s.cycle c).map fun s' =>
    (⟨s'.2, if (s.pins c.1).Samples c.2 then some s.1.p else none⟩, s')

/-- The tick enters no service slot. -/
def Uninterrupted (s : Session) (c : List PinCall × Byte) : Prop :=
  ∀ r, (s.pins c.1).1.handler c.2 = some r → (unitTick r.1 r.2 c.2).2 = none

/-- The context waits at a dispatch of the next opcode. -/
def Dispatching (s : Session) : Prop :=
  s.1.model.toNat < 5 ∧ ∃ slot cycle, s.1.At slot cycle ∧
    entryAt s.1.model.toNat slot cycle = some .mcDispatch

/-- The session is at a phase of a slot. -/
structure Follows (slot : Nat) (p : Phase) (s : Session) : Prop where
  supported : s.1.model.toNat < 5
  place : s.1.At slot p.cycle
  cpu : s.1.base slot = p.cpu

theorem cycle_of_beat {s s' : Session} {b : Beat} {c : List PinCall × Byte}
    (h : s.beat c = some (b, s')) : s.cycle c = some s' := by
  obtain ⟨s₁, hs₁, heq⟩ := Option.map_eq_some_iff.mp h
  rw [hs₁, (Prod.mk.inj heq).2]

theorem tick_of_beat {s s' : Session} {b : Beat} {c : List PinCall × Byte}
    (h : s.beat c = some (b, s')) : b.tick = s'.2 := by
  obtain ⟨s₁, _, heq⟩ := Option.map_eq_some_iff.mp h
  obtain ⟨rfl, rfl⟩ := Prod.mk.inj heq
  rfl

section follows

variable {slot : Nat} {entries : Slot} {p p' : Phase} {s : Session} {b : Beat}
  {c : List PinCall × Byte}

theorem Follows.pins (hf : Follows slot p s) (calls : List PinCall) :
    Follows slot p (s.pins calls) := by
  obtain ⟨interrupts, hijack, hpins⟩ := pins_eq calls s.1
  obtain ⟨hm, hat, hcpu⟩ := hf
  rw [Session.pins, hpins]
  exact ⟨hm, hat, hcpu⟩

/-- **A tick is a step of the slot's machine.**  It stays with the machine when its handler
stays in the slot and no service slot is entered. -/
theorem Follows.step (hf : Follows slot p s) (hslot : slotAt s.1.model.toNat slot = some entries)
    (hstep : p.step entries c.2 = some (b, p')) :
    ∃ h s', entries[p.cycle]? = some (.handler h) ∧ s.beat c = some (b, s') ∧
      s' = execute h (s.pins c.1).1 c.2 ∧
      (s.pins c.1).1.handler c.2 = some (h, (s.pins c.1).1) ∧
      s'.1.model = s.1.model ∧ s'.1.base slot = p'.cpu ∧
      (h.flows = true → s.Uninterrupted c → Follows slot p' s') := by
  unfold Phase.step at hstep
  split at hstep
  next h hget =>
    have hmodel : (s.pins c.1).1.model = s.1.model := by
      obtain ⟨interrupts, hijack, hpins⟩ := pins_eq c.1 s.1
      rw [Session.pins, hpins]
    have hp : (s.pins c.1).1.p = s.1.p := by
      obtain ⟨interrupts, hijack, hpins⟩ := pins_eq c.1 s.1
      rw [Session.pins, hpins]
    obtain ⟨hm, hat, hcpu⟩ := hf.pins c.1
    have hentry : entryAt (s.pins c.1).1.model.toNat slot p.cycle = some (.handler h) := by
      rw [hmodel, entryAt, hslot]
      exact hget
    obtain ⟨_, hs, hc⟩ := entryAt_bounds hentry
    have hx : Executes (s.pins c.1).1 c.2 slot p.cycle h (s.pins c.1).1 := .direct hat hentry
    obtain ⟨hbeat, hbase⟩ := execute_phase hat hm hs hc h c.2
    rw [hcpu] at hbeat hbase
    obtain ⟨rfl, rfl⟩ := Prod.mk.inj (Option.some.inj hstep)
    refine ⟨h, _, hget, ?_, rfl, handler_of_executes hx, execute_model.trans hmodel, hbase.symm,
      fun hflow hquiet => ⟨?_, ?_, hbase.symm⟩⟩
    · rw [Session.beat, Session.cycle, Session.step, tick_of_executes hx, hbeat, hp]
      rw [Option.map_some, if_congr (samples_iff hx) rfl rfl]
    · rw [execute_model]
      exact hm
    · have hskips := execute_skips hat hm hs hc hflow (hquiet _ (handler_of_executes hx))
      rw [hcpu] at hskips
      exact hskips
  next => cases hstep

/-- A tick that does not fetch is interrupted in a push-status cycle only. -/
theorem uninterrupted_of_plain {h : Handler}
    (hh : (s.pins c.1).1.handler c.2 = some (h, (s.pins c.1).1)) (hpush : h.isPush = false)
    (hbeat : s.beat c = some (b, execute h (s.pins c.1).1 c.2))
    (hf : b.tick.fetching = false) : s.Uninterrupted c := by
  intro r hr
  obtain rfl := Option.some.inj (hh.symm.trans hr)
  rw [tick_of_beat hbeat] at hf
  cases hentered : (unitTick h (s.pins c.1).1 c.2).2 with
  | none => rfl
  | some entered =>
    rcases entered_cases hentered with hfetch | hp
    · exact absurd (hfetch.symm.trans hf) (by decide)
    · exact absurd (hp.symm.trans hpush) (by decide)

end follows

end Session

/-- Every handler of the slot stays in it or fetches. -/
def Slot.stays (entries : Slot) : Bool :=
  entries.all fun e => match e with
    | .handler h => h.flows || h = .mcFetchIllegalExtDispatch
    | _ => true

/-- The slot has a push-status cycle that may enter a service slot. -/
def Slot.pushes (entries : Slot) : Bool :=
  entries.any fun e => match e with
    | .handler h => h.isPush
    | _ => false

theorem flows_of_plain {entries : Slot} (hstays : entries.stays = true) {h : Handler}
    (hmem : Entry.handler h ∈ entries) (cpu : Cpu) (bus : Byte)
    (hf : (h.beat cpu bus).tick.fetching = false) : h.flows = true := by
  have hall := List.all_eq_true.mp hstays _ hmem
  dsimp only at hall
  cases hflow : h.flows with
  | true => rfl
  | false =>
    rw [hflow, Bool.false_or, decide_eq_true_eq] at hall
    subst hall
    have hfetch : (Handler.mcFetchIllegalExtDispatch.beat cpu bus).tick.fetching = true := by
      rw [Tick.fetching]
      exact congrArg (fun status : Byte => decide (status &&& statusOpcodeFetch ≠ 0))
        (fetch_status (nextEnterServiceSlot cpu .illegalExt 0))
    exact absurd (hfetch.symm.trans hf) (by decide)

theorem isPush_of_mem {entries : Slot} (hpush : entries.pushes = false) {h : Handler}
    (hmem : Entry.handler h ∈ entries) : h.isPush = false := by
  cases hp : h.isPush with
  | false => rfl
  | true =>
    have hany : entries.pushes = true := List.any_eq_true.mpr ⟨_, hmem, hp⟩
    exact absurd (hany.symm.trans hpush) (by decide)

theorem beat_of_step {entries : Slot} {p p' : Phase} {bus : Byte} {b : Beat} {h : Handler}
    (hget : entries[p.cycle]? = some (.handler h)) (hstep : p.step entries bus = some (b, p')) :
    b = h.beat p.cpu bus := by
  rw [Phase.step, hget] at hstep
  exact (Prod.mk.inj (Option.some.inj hstep)).1.symm

namespace Session

/-- **A run of the slot's machine is a run of the session**, up to a fetch. -/
theorem Follows.trace {slot : Nat} {entries : Slot} (hstays : entries.stays = true) :
    ∀ {cycles : List (List PinCall × Byte)} {p p' : Phase} {s : Session} {beats : List Beat},
      Follows slot p s → slotAt s.1.model.toNat slot = some entries →
      StepMachine.trace (Phase.step entries) p (cycles.map Prod.snd) = some (beats, p') →
      (∀ b ∈ beats.dropLast, b.tick.fetching = false) →
      (entries.pushes = false ∨ StepMachine.Always Session.cycle Uninterrupted s cycles) →
      ∃ s', StepMachine.trace Session.beat s cycles = some (beats, s') ∧
        s'.1.model = s.1.model ∧ s'.1.base slot = p'.cpu ∧
          ((∀ b ∈ beats, b.tick.fetching = false) → Follows slot p' s') := by
  intro cycles
  induction cycles with
  | nil =>
    intro p p' s beats hf _ htrace _ _
    cases htrace
    exact ⟨s, rfl, rfl, hf.cpu, fun _ => hf⟩
  | cons c cycles ih =>
    intro p p' s beats hf hslot htrace hplain hquiet
    obtain ⟨b, p₁, beats₁, hstep, htail, rfl⟩ := StepMachine.trace_cons_inv htrace
    obtain ⟨h, s₁, hget, hbeat, hs₁, hh, hmodel, hbase, hnext⟩ := hf.step hslot hstep
    have hmem : Entry.handler h ∈ entries := List.mem_of_getElem? hget
    have hkeep : b.tick.fetching = false → Follows slot p₁ s₁ := by
      intro hb
      have hflow : h.flows = true := by
        refine flows_of_plain hstays hmem p.cpu c.2 ?_
        rw [← beat_of_step hget hstep]
        exact hb
      refine hnext hflow ?_
      rcases hquiet with hpush | hquiet
      · exact uninterrupted_of_plain hh (isPush_of_mem hpush hmem) (hs₁ ▸ hbeat) hb
      · exact hquiet.1
    cases cycles with
    | nil =>
      cases htail
      exact ⟨s₁, StepMachine.trace_cons hbeat rfl, hmodel, hbase, fun hall =>
        hkeep (hall b (List.mem_singleton_self b))⟩
    | cons c' cycles =>
      obtain ⟨b', _, beats', _, _, rfl⟩ := StepMachine.trace_cons_inv htail
      rw [List.dropLast_cons_cons] at hplain
      have hb := hplain b List.mem_cons_self
      obtain ⟨s', htrace', hmodel', hbase', hf'⟩ := ih (hkeep hb) (hmodel ▸ hslot) htail
        (fun b'' hmem' => hplain b'' (List.mem_cons_of_mem b hmem'))
        (hquiet.imp id fun hall => hall.2 s₁ (cycle_of_beat hbeat))
      exact ⟨s', StepMachine.trace_cons hbeat htrace', hmodel'.trans hmodel, hbase', fun hall =>
        hf' fun b'' hmem' => hall b'' (List.mem_cons_of_mem b hmem')⟩

/-! ### From a dispatch on -/

theorem pins_dispatched (calls : List PinCall) (cpu : Cpu) (bus : Byte) :
    calls.foldl PinCall.apply (dispatched cpu bus) =
      dispatched (calls.foldl PinCall.apply cpu) bus := by
  induction calls generalizing cpu with
  | nil => rfl
  | cons p calls ih =>
    have hp : p.apply (dispatched cpu bus) = dispatched (p.apply cpu) bus := by
      rw [PinCall.apply_eq, PinCall.apply_eq]
      rfl
    rw [List.foldl_cons, hp]
    exact ih (p.apply cpu)

/-- The session after the dispatcher, before the first handler of the opcode. -/
def dispatched (s : Session) (opcode : Byte) : Session := (Qe6502.dispatched s.1 opcode, s.2)

section dispatch

variable {s : Session} (hd : s.Dispatching)

include hd

theorem Dispatching.pins (calls : List PinCall) : (s.pins calls).Dispatching := by
  obtain ⟨interrupts, hijack, hpins⟩ := pins_eq calls s.1
  rw [Session.pins, hpins]
  exact hd

theorem Dispatching.executes (opcode : Byte) :
    ∃ h, Executes s.1 opcode opcode.toNat 0 h (Qe6502.dispatched s.1 opcode) := by
  obtain ⟨hm, slot, cycle, hat, hentry⟩ := hd
  obtain ⟨h, hop⟩ := opcode_handler hm opcode.isLt
  exact ⟨h, .dispatch hat hentry hop⟩

/-- The dispatching tick executes what a tick of the opcode's slot executes. -/
theorem Dispatching.executes_dispatched (c : List PinCall × Byte) : ∃ h cpu₀,
    Executes (s.pins c.1).1 c.2 c.2.toNat 0 h cpu₀ ∧
      Executes ((s.dispatched c.2).pins c.1).1 c.2 c.2.toNat 0 h cpu₀ := by
  obtain ⟨h, hx⟩ := (hd.pins c.1).executes c.2
  refine ⟨h, _, hx, ?_⟩
  have hpins : ((s.dispatched c.2).pins c.1).1 = Qe6502.dispatched (s.pins c.1).1 c.2 :=
    pins_dispatched c.1 s.1 c.2
  rw [hpins]
  exact .direct hx.entry.1 hx.entry.2

theorem Dispatching.cycle (c : List PinCall × Byte) :
    s.cycle c = (s.dispatched c.2).cycle c := by
  obtain ⟨h, cpu₀, hx, hx'⟩ := hd.executes_dispatched c
  rw [Session.cycle, Session.cycle, step, step, tick_of_executes hx, tick_of_executes hx']

/-- The dispatching tick is a tick of the opcode's slot. -/
theorem Dispatching.beat (c : List PinCall × Byte) : s.beat c = (s.dispatched c.2).beat c := by
  obtain ⟨h, cpu₀, hx, hx'⟩ := hd.executes_dispatched c
  have hsamples := (samples_iff hx).trans (samples_iff hx').symm
  have hp : (s.dispatched c.2).1.p = s.1.p := rfl
  rw [Session.beat, Session.beat, hd.cycle c, if_congr hsamples rfl rfl, hp]

theorem Dispatching.uninterrupted {c : List PinCall × Byte} (hquiet : s.Uninterrupted c) :
    (s.dispatched c.2).Uninterrupted c := by
  obtain ⟨h, cpu₀, hx, hx'⟩ := hd.executes_dispatched c
  intro r hr
  exact hquiet r ((handler_of_executes hx).trans ((handler_of_executes hx').symm.trans hr))

theorem Dispatching.follows (opcode : Byte) : Follows opcode.toNat
    ⟨0, (Qe6502.dispatched s.1 opcode).base opcode.toNat⟩ (s.dispatched opcode) :=
  ⟨hd.1, dispatchIndex_eq_position hd.1 opcode, rfl⟩

end dispatch

end Session

/-- The phase an opcode starts in. -/
def Phase.start (cpu : Cpu) (opcode : Byte) : Phase :=
  ⟨0, (dispatched cpu opcode).base opcode.toNat⟩

/-- **The beats of an instruction** are those of the machine of its slot. -/
theorem dispatch_trace {s : Session} (hd : s.Dispatching) {cycles : List (List PinCall × Byte)}
    {c : List PinCall × Byte} {entries : Slot}
    (hslot : slotAt s.1.model.toNat c.2.toNat = some entries) (hstays : entries.stays = true)
    {p' : Phase} {beats : List Beat}
    (htrace : StepMachine.trace (Phase.step entries) (Phase.start s.1 c.2)
      ((c :: cycles).map Prod.snd) = some (beats, p'))
    (hplain : ∀ b ∈ beats.dropLast, b.tick.fetching = false)
    (hquiet : entries.pushes = false ∨
      StepMachine.Always Session.cycle Session.Uninterrupted (s.dispatched c.2) (c :: cycles)) :
    ∃ s', StepMachine.trace Session.beat s (c :: cycles) = some (beats, s') ∧
      s'.1.model = s.1.model ∧ s'.1.base c.2.toNat = p'.cpu := by
  obtain ⟨s', htrace', hmodel, hbase, _⟩ :=
    (hd.follows c.2).trace hstays hslot htrace hplain hquiet
  refine ⟨s', ?_, hmodel, hbase⟩
  rw [StepMachine.trace_step, hd.beat c]
  exact htrace'

end Qe6502
