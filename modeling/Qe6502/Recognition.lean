import Qe6502.Cadence
import Qe6502.LevelSampled

/-!
# Recognition of interrupts

What a sampling tick takes is served at the fetch that ends the instruction, unless a later
sampling tick takes something else: `Dispatching.serves`.
-/

namespace Qe6502

open StepMachine (trace first final)

namespace Lines

/-- The interrupt that has been taken. -/
def served (l : Lines) : Option ServiceSlot :=
  if l.nmiTaken then some .nmi else if l.irqTaken then some .irq else none

/-- What is taken after a tick that samples the lines under flags, or does not sample. -/
def take (before : Option ServiceSlot) (l : Lines) : Option Byte → Option ServiceSlot
  | none => before
  | some p =>
    if l.nmiEdge then some .nmi else if iClear p && l.irqPin then some .irq else before

theorem served_detect (l : Lines) : l.detect.served = l.served := by
  obtain ⟨edge, last, hdetect⟩ := l.detect_frame
  rw [hdetect]
  rfl

theorem served_arbitrate (l : Lines) (p : Byte) :
    (l.arbitrate (iClear p)).served = take l.served l (some p) := by
  rw [arbitrate, take]
  by_cases hedge : l.nmiEdge = true
  · rw [if_pos hedge, if_pos hedge]
    rfl
  · rw [if_neg hedge, if_neg hedge]
    by_cases hirq : (iClear p && l.irqPin) = true
    · rw [if_pos hirq, if_pos hirq]
      rfl
    · rw [if_neg hirq, if_neg hirq]

theorem served_none {l : Lines} : l.served = none ↔ l.taken = false := by
  unfold served taken
  cases l.nmiTaken <;> cases l.irqTaken <;> simp

/-- Idle lines give nothing to take. -/
theorem take_of_idle {l : Lines} (hidle : l.idle = true) (before : Option ServiceSlot)
    (sample : Option Byte) : take before l.detect sample = before := by
  have hedge : l.detect.nmiEdge = false := by
    unfold detect
    split
    · simp_all [idle]
    · cases hpin : l.nmiPin <;> simp_all [idle]
  have hirq : l.detect.irqPin = false := by
    rw [irqPin_detect]
    simp_all [idle]
  cases sample with
  | none => rfl
  | some p => rw [take, hedge, hirq, Bool.and_false]; rfl

end Lines

/-! ### Ticks -/

section tick

variable {h : Handler} {cpu : Cpu} {bus : Byte} (hoff : ResolverOff cpu)

include hoff

/-- A tick that does not fetch takes what it samples. -/
theorem unitTick_takes (hsignal : h.signal cpu = .none ∨ h.signal cpu = .sample)
    (hf : (execute h cpu bus).2.fetching = false) :
    (unitTick h cpu bus).2 = none ∧ (unitTick h cpu bus).1.served =
      Lines.take cpu.lines.served cpu.lines.detect
        (if h.signal cpu = .sample then some cpu.p else none) := by
  cases hon : cpu.resolving with
  | true =>
    rcases hsignal with hsignal | hsignal
    · rw [unitTick_plain hoff hon (by rw [hsignal]; decide) hf, hsignal]
      exact ⟨rfl, Lines.served_detect _⟩
    · rw [unitTick_sample hoff hon hsignal, hsignal, if_pos rfl, Lines.served_arbitrate,
        Lines.served_detect]
      exact ⟨rfl, rfl⟩
  | false =>
    have hidle := hoff.lines_idle hon
    have hserved : cpu.lines.served = none := Lines.served_none.mpr (Lines.not_taken_of_idle hidle)
    rw [unitTick_off hon, hserved, Lines.take_of_idle hidle]
    have hnot := Lines.not_taken_of_idle (Lines.idle_apply hidle (iClear cpu.p) (h.signal cpu))
    refine ⟨?_, Lines.served_none.mpr hnot⟩
    rcases hsignal with hsignal | hsignal <;> rw [hsignal] <;> rfl

/-- A fetch enters the slot of what has been taken. -/
theorem unitTick_enters (hsignal : h.signal cpu = .none)
    (hf : (execute h cpu bus).2.fetching = true) :
    (unitTick h cpu bus).2 = cpu.lines.served.map (·, 0) := by
  cases hon : cpu.resolving with
  | true =>
    rw [unitTick_other hoff hon (by rw [hsignal]; decide), hf, hsignal, ← Lines.served_detect]
    dsimp only [Lines.served, Lines.apply]
    cases cpu.lines.detect.nmiTaken <;> cases cpu.lines.detect.irqTaken <;> rfl
  | false =>
    have hserved : cpu.lines.served = none :=
      Lines.served_none.mpr (Lines.not_taken_of_idle (hoff.lines_idle hon))
    rw [unitTick_off hon, hserved, hsignal]
    rfl

end tick

/-! ### Sequences -/

/-- An opcode or an entry goes on in its slot up to a fetch, and then to a dispatch. -/
def Exit.staysIn (model slot : Nat) (entries : Slot) (cycle : Nat) (e : Exit) : Bool :=
  e.move.isService ||
    if e.status &&& statusOpcodeFetch ≠ 0 then
      entryAfter model slot entries cycle e.move = some .mcDispatch
    else (e.move.target slot cycle).1 = slot &&
      entryAfter model slot entries cycle e.move ≠ some .mcDispatch

/-- The slots of the opcodes, of NMI and of IRQ. -/
def isSequence (slot : Nat) : Bool := slot < 256 || slot = 262 || slot = 263

theorem sequences_stay : entriesAll (fun model slot entries cycle e =>
    !isSequence slot || match e with
    | .handler h => h.exits.all (Exit.staysIn model slot entries cycle)
    | _ => true) = true := by
  decide +kernel

namespace Session

/-- The context waits at a handler of an opcode or of an entry. -/
def Inside (s : Session) : Prop :=
  s.1.model.toNat < 5 ∧ ∃ slot cycle h, isSequence slot = true ∧ s.1.At slot cycle ∧
    entryAt s.1.model.toNat slot cycle = some (.handler h)

/-- A tick of an opcode or of an entry executes a handler of such a slot. -/
theorem executes_of_waits {s : Session} (hs : s.Dispatching ∨ s.Inside)
    (c : List PinCall × Byte) : ∃ slot cycle h cpu₀,
      isSequence slot = true ∧ Executes (s.pins c.1).1 c.2 slot cycle h cpu₀ := by
  rcases hs with hd | ⟨_, slot, cycle, h, hslot, hat, hentry⟩
  · obtain ⟨h, hx⟩ := (hd.pins c.1).executes c.2
    have hlt : c.2.toNat < 256 := c.2.isLt
    exact ⟨c.2.toNat, 0, h, _, by simp [isSequence, hlt], hx⟩
  · obtain ⟨interrupts, hijack, hpins⟩ := pins_eq c.1 s.1
    refine ⟨slot, cycle, h, (s.pins c.1).1, hslot, ?_⟩
    rw [Session.pins, hpins]
    exact .direct hat hentry

theorem handler_of_callable {e : Option Entry} (hcall : isCallable e = true)
    (hdispatch : e ≠ some .mcDispatch) : ∃ h, e = some (.handler h) := by
  cases e with
  | none => cases hcall
  | some e =>
    cases e with
    | interruptResolver => cases hcall
    | mcDispatch => exact absurd rfl hdispatch
    | handler h => exact ⟨h, rfl⟩

/-- **A tick of a sequence** that enters no service slot goes on in it, or fetches for a
dispatch. -/
theorem executes_goes {cpu cpu₀ : Cpu} {bus : Byte} {slot cycle : Nat} {h : Handler}
    (hx : Executes cpu bus slot cycle h cpu₀) (hslot : isSequence slot = true)
    (hnone : (unitTick h cpu₀ bus).2 = none) :
    if (execute h cpu₀ bus).2.fetching then Dispatching (execute h cpu₀ bus)
    else Inside (execute h cpu₀ bus) := by
  obtain ⟨e, slot', cycle', hleads⟩ := execute_place hx
  obtain ⟨rfl, rfl⟩ := hleads.of_none hnone
  obtain ⟨_, hentry⟩ := hx.entry
  obtain ⟨hm, _, _⟩ := entryAt_bounds hentry
  obtain ⟨entries, hs, hall⟩ := forall_entries sequences_stay hentry
  have hmodel : (execute h cpu₀ bus).1.model = cpu₀.model := execute_model
  rw [hslot, Bool.not_true, Bool.false_or] at hall
  have hexit := List.all_eq_true.mp hall e hleads.mem
  rw [Exit.staysIn, hleads.noService, Bool.false_or, entryAfter_eq hs] at hexit
  rw [hleads.fetching]
  by_cases hf : e.status &&& statusOpcodeFetch ≠ 0
  · rw [if_pos hf, decide_eq_true_eq] at hexit
    rw [decide_eq_true hf]
    exact ⟨hmodel ▸ hm, _, _, hleads.place, hmodel ▸ hexit⟩
  · rw [if_neg hf, Bool.and_eq_true, decide_eq_true_eq, decide_eq_true_eq] at hexit
    rw [decide_eq_false hf]
    obtain ⟨h', hnext⟩ := handler_of_callable hleads.callable hexit.2
    exact ⟨hmodel ▸ hm, _, _, h', by rw [hexit.1]; exact hslot, hleads.place, hmodel ▸ hnext⟩

end Session

/-! ### Runs -/

namespace Session

/-- The lines as a tick senses them, after the pin calls before it. -/
def sensed (s : Session) (c : List PinCall × Byte) : Lines := (s.pins c.1).1.lines.detect

/-- The lines sensed in tick `k`. -/
def sensedAt (s : Session) (input : ℕ → List PinCall × Byte) (k : ℕ) : Option Lines :=
  (final Session.cycle s (first input k)).map fun sₖ => sₖ.sensed (input k)

/-- What has been taken before tick `k`, when nothing was at first. -/
def tally (s : Session) (input : ℕ → List PinCall × Byte) (beats : List Beat) :
    ℕ → Option ServiceSlot
  | 0 => none
  | k + 1 =>
    match s.sensedAt input k with
    | none => s.tally input beats k
    | some l => Lines.take (s.tally input beats k) l (beats[k]?.bind Beat.sample)

/-- The service slot whose first cycle the session waits at. -/
def waitsAt (s : Session) : Option ServiceSlot :=
  if s.1.At 262 0 then some .nmi else if s.1.At 263 0 then some .irq else none

end Session

/-- The slot has no handler with a signal of its own. -/
def Slot.unserving (entries : Slot) : Bool :=
  entries.all fun e => match e with
    | .handler h => !h.isService
    | _ => true

theorem signal_of_unserving {entries : Slot} (hserves : entries.unserving = true) {h : Handler}
    (hmem : Entry.handler h ∈ entries) (cpu : Cpu) :
    h.signal cpu = .none ∨ h.signal cpu = .sample := by
  have hall := List.all_eq_true.mp hserves _ hmem
  exact signal_plain (Bool.not_eq_true' _ |>.mp hall) cpu

namespace Session

section follows

variable {slot : Nat} {entries : Slot} {p p' : Phase} {s : Session} {b : Beat}
  {c : List PinCall × Byte}

theorem Follows.executes (hf : Follows slot p s)
    (hslot : slotAt s.1.model.toNat slot = some entries) {h : Handler}
    (hget : entries[p.cycle]? = some (.handler h)) (calls : List PinCall) (bus : Byte) :
    Executes (s.pins calls).1 bus slot p.cycle h (s.pins calls).1 := by
  obtain ⟨interrupts, hijack, hpins⟩ := pins_eq calls s.1
  have hmodel : (s.pins calls).1.model = s.1.model := by rw [Session.pins, hpins]
  refine .direct (hf.pins calls).place ?_
  rw [hmodel, entryAt, hslot]
  exact hget

theorem pins_served (s : Session) (calls : List PinCall) :
    (s.pins calls).1.lines.served = s.1.lines.served := by
  rw [Session.pins, pins_lines]
  generalize s.1.lines = l
  induction calls generalizing l with
  | nil => rfl
  | cons p calls ih =>
    have hpinned : (l.pinned p).served = l.served := by cases p <;> rfl
    rw [List.foldl_cons, ih, hpinned]

theorem sample_of_beat {h : Handler} {s' : Session} (hbeat : s.beat c = some (b, s'))
    {slot cycle : Nat} {cpu₀ : Cpu} (hx : Executes (s.pins c.1).1 c.2 slot cycle h cpu₀) :
    b.sample = if h.signal cpu₀ = .sample then some s.1.p else none := by
  obtain ⟨s₁, _, heq⟩ := Option.map_eq_some_iff.mp hbeat
  rw [← (Prod.mk.inj heq).1]
  exact if_congr (samples_iff hx) rfl rfl

theorem pins_p (s : Session) (calls : List PinCall) : (s.pins calls).1.p = s.1.p := by
  obtain ⟨interrupts, hijack, hpins⟩ := pins_eq calls s.1
  rw [Session.pins, hpins]

/-- **A tick that does not fetch** goes on in the slot and takes what it samples. -/
theorem Follows.takes (hf : Follows slot p s) (hoff : ResolverOff s.1)
    (hslot : slotAt s.1.model.toNat slot = some entries) (hstays : entries.stays = true)
    (hserves : entries.unserving = true) (hstep : p.step entries c.2 = some (b, p'))
    (hb : b.tick.fetching = false) :
    ∃ s', s.beat c = some (b, s') ∧ Follows slot p' s' ∧ ResolverOff s'.1 ∧
      s'.1.model = s.1.model ∧
        s'.1.lines.served = Lines.take s.1.lines.served (s.sensed c) b.sample := by
  obtain ⟨h, s', hget, hbeat, hs', hh, hmodel, _, hnext⟩ := hf.step hslot hstep
  have hmem : Entry.handler h ∈ entries := List.mem_of_getElem? hget
  have hx := hf.executes hslot hget c.1 c.2
  have hoff' : ResolverOff (s.pins c.1).1 := hoff.pins c.1
  have hfetch : (execute h (s.pins c.1).1 c.2).2.fetching = false := by
    rw [← hs', ← tick_of_beat hbeat]
    exact hb
  have hflow : h.flows = true := by
    refine flows_of_plain hstays hmem p.cpu c.2 ?_
    rw [← beat_of_step hget hstep]
    exact hb
  obtain ⟨hnone, hserved⟩ :=
    unitTick_takes hoff' (signal_of_unserving hserves hmem (s.pins c.1).1) hfetch
  have hquiet : s.Uninterrupted c := by
    intro r hr
    obtain rfl := Option.some.inj (hh.symm.trans hr)
    exact hnone
  refine ⟨s', hbeat, hnext hflow hquiet, ?_, hmodel, ?_⟩
  · rw [hs']
    exact hoff'.execute h c.2
  · rw [hs', execute_lines, hserved, pins_served, pins_p, sample_of_beat hbeat hx]
    rfl

theorem waitsAt_of_at {slot cycle : Nat} (hm : s.1.model.toNat < 5) (hat : s.1.At slot cycle)
    (hs : slot < 264) (hc : cycle < 8) : s.waitsAt =
      if slot = 262 ∧ cycle = 0 then some .nmi
      else if slot = 263 ∧ cycle = 0 then some .irq else none := by
  have hiff : ∀ slot' < 264, s.1.At slot' 0 ↔ slot = slot' ∧ cycle = 0 := by
    intro slot' hslot'
    constructor
    · intro hat'
      exact position_inj hm hs hc hslot' (by omega) (hat.symm.trans hat')
    · rintro ⟨rfl, rfl⟩
      exact hat
  rw [waitsAt, if_congr (hiff 262 (by omega)) rfl rfl, if_congr (hiff 263 (by omega)) rfl rfl]

theorem served_cases {l : Lines} {service : ServiceSlot} (h : l.served = some service) :
    service = .nmi ∨ service = .irq := by
  unfold Lines.served at h
  split at h
  · exact Or.inl (Option.some.inj h).symm
  · split at h
    · exact Or.inr (Option.some.inj h).symm
    · cases h

/-- From an opcode slot no move leads to the NMI or IRQ slot, unless it enters it. -/
theorem target_below {slot : Nat} (hslot : slot < 256) (cycle : Nat) {m : Move}
    (hm : m.isService = false) : (m.target slot cycle).1 ≠ 262 ∧ (m.target slot cycle).1 ≠ 263 := by
  cases m with
  | next =>
    dsimp only [Move.target]
    split <;> exact ⟨by omega, by omega⟩
  | skip n => exact ⟨by change slot ≠ 262; omega, by change slot ≠ 263; omega⟩
  | stay => exact ⟨by change slot ≠ 262; omega, by change slot ≠ 263; omega⟩
  | enter service k =>
    cases service <;> first
      | exact ⟨Nat.ne_of_beq_eq_false rfl, Nat.ne_of_beq_eq_false rfl⟩
      | cases hm

/-- **A tick that fetches** waits at the slot of what has been taken, or at a dispatch. -/
theorem Follows.enters (hf : Follows slot p s) (hoff : ResolverOff s.1)
    (hslot : slotAt s.1.model.toNat slot = some entries) (hopcode : slot < 256)
    (hserves : entries.unserving = true) (hstep : p.step entries c.2 = some (b, p'))
    (hb : b.tick.fetching = true) (hsample : b.sample = none) :
    ∃ s', s.beat c = some (b, s') ∧ s'.waitsAt = s.1.lines.served ∧
      (s.1.lines.served = none → s'.Dispatching) := by
  obtain ⟨h, s', hget, hbeat, hs', hh, hmodel, _, _⟩ := hf.step hslot hstep
  have hmem : Entry.handler h ∈ entries := List.mem_of_getElem? hget
  have hx := hf.executes hslot hget c.1 c.2
  have hoff' : ResolverOff (s.pins c.1).1 := hoff.pins c.1
  have hfetch : (execute h (s.pins c.1).1 c.2).2.fetching = true := by
    rw [← hs', ← tick_of_beat hbeat]
    exact hb
  have hsignal : h.signal (s.pins c.1).1 = .none := by
    rcases signal_of_unserving hserves hmem (s.pins c.1).1 with hsignal | hsignal
    · exact hsignal
    · rw [sample_of_beat hbeat hx, if_pos hsignal] at hsample
      cases hsample
  have hentered := unitTick_enters hoff' hsignal hfetch
  rw [pins_served] at hentered
  refine ⟨s', hbeat, ?_, fun hserved => ?_⟩
  swap
  · have hsequence : isSequence slot = true := by simp [isSequence, hopcode]
    have hgoes := executes_goes hx hsequence (by rw [hentered, hserved]; rfl)
    rw [hfetch, if_pos rfl] at hgoes
    rw [hs']
    exact hgoes
  obtain ⟨e, slot', cycle', hleads⟩ := execute_place hx
  have hplace := hleads.place
  obtain ⟨_, hslot', hcycle'⟩ := bounds_of_callable hleads.callable
  rw [← hs'] at hplace
  rw [waitsAt_of_at (hmodel ▸ hf.supported) hplace hslot' hcycle']
  cases hserved : s.1.lines.served with
  | none =>
    rw [hserved] at hentered
    obtain ⟨hs₁, _⟩ := hleads.of_none hentered
    have hbelow : slot' ≠ 262 ∧ slot' ≠ 263 := by
      rw [hs₁]
      exact target_below hopcode p.cycle hleads.noService
    rw [if_neg (fun h => hbelow.1 h.1), if_neg (fun h => hbelow.2 h.1)]
  | some service =>
    rw [hserved] at hentered
    obtain ⟨hs₁, hc₁⟩ := hleads.of_entered hentered
    rcases served_cases hserved with rfl | rfl
    · exact if_pos ⟨hs₁, hc₁⟩
    · rw [if_neg (fun h => absurd (hs₁.symm.trans h.1) (by decide))]
      exact if_pos ⟨hs₁, hc₁⟩

end follows

theorem final_of_trace : ∀ {cycles : List (List PinCall × Byte)} {s s' : Session}
    {beats : List Beat}, trace Session.beat s cycles = some (beats, s') →
      final Session.cycle s cycles = some s' := by
  intro cycles
  induction cycles with
  | nil =>
    intro s s' beats h
    cases h
    rfl
  | cons c cycles ih =>
    intro s s' beats h
    obtain ⟨b, s₁, beats₁, hbeat, htail, rfl⟩ := StepMachine.trace_cons_inv h
    rw [StepMachine.final_cons, cycle_of_beat hbeat]
    exact ih htail

theorem sensedAt_of_trace {s sₖ : Session} {input : ℕ → List PinCall × Byte} {k : ℕ}
    {beats : List Beat} (h : trace Session.beat s (first input k) = some (beats, sₖ)) :
    s.sensedAt input k = some (sₖ.sensed (input k)) := by
  rw [sensedAt, final_of_trace h]
  rfl

theorem tally_succ {s : Session} {input : ℕ → List PinCall × Byte} {beats : List Beat} {k : ℕ}
    {l : Lines} (hl : s.sensedAt input k = some l) {b : Beat} (hb : beats[k]? = some b) :
    s.tally input beats (k + 1) = Lines.take (s.tally input beats k) l b.sample := by
  rw [tally, hl, hb]
  rfl

section run

variable {slot : Nat} {entries : Slot} {s : Session} {p p' : Phase}
  {input : ℕ → List PinCall × Byte} {beats : List Beat}

/-- **Up to the fetch** a session has taken what the tally says. -/
theorem Follows.serves (hf : Follows slot p s) (hoff : ResolverOff s.1)
    (hslot : slotAt s.1.model.toNat slot = some entries) (hstays : entries.stays = true)
    (hserves : entries.unserving = true) (hnone : s.1.lines.served = none)
    (htrace : StepMachine.trace (Phase.step entries) p (first (onBus input) beats.length) =
      some (beats, p'))
    (hearlier : ∀ b ∈ beats.dropLast, b.tick.fetching = false) :
    ∀ k < beats.length, ∃ pₖ sₖ,
      StepMachine.trace (Phase.step entries) p (first (onBus input) k) = some (beats.take k, pₖ) ∧
      StepMachine.trace Session.beat s (first input k) = some (beats.take k, sₖ) ∧
      Follows slot pₖ sₖ ∧
      ResolverOff sₖ.1 ∧ sₖ.1.model = s.1.model ∧
      sₖ.1.lines.served = s.tally input beats k := by
  intro k
  induction k with
  | zero => exact fun _ => ⟨p, s, rfl, rfl, hf, hoff, rfl, hnone⟩
  | succ k ih =>
    intro hk
    obtain ⟨pₖ, sₖ, hphase, hsession, hfₖ, hoffₖ, hmodel, hserved⟩ := ih (by omega)
    obtain ⟨b, p'', hb, hstep, hphase'⟩ := StepMachine.trace_at htrace (by omega) hphase
    have hplain : b.tick.fetching = false := by
      refine hearlier b (List.mem_of_getElem? (i := k) ?_)
      rw [List.getElem?_dropLast, if_pos (by omega)]
      exact hb
    obtain ⟨s'', hbeat, hf'', hoff'', hmodel'', htaken⟩ :=
      hfₖ.takes hoffₖ (hmodel ▸ hslot) hstays hserves hstep hplain
    refine ⟨p'', s'', hphase', ?_, hf'', hoff'', hmodel''.trans hmodel, ?_⟩
    · have htake : beats.take (k + 1) = beats.take k ++ [b] := by
        rw [List.take_add_one, hb]
        rfl
      rw [StepMachine.first_succ, htake]
      exact StepMachine.trace_append (StepMachine.trace_cons hbeat rfl) hsession
    · rw [htaken, hserved, tally_succ (sensedAt_of_trace hsession) hb]

theorem sensedAt_dispatched (hd : s.Dispatching) (k : ℕ) :
    (s.dispatched (input 0).2).sensedAt input k = s.sensedAt input k := by
  cases k with
  | zero =>
    have hsensed : (s.dispatched (input 0).2).sensed (input 0) = s.sensed (input 0) := by
      rw [sensed, sensed, pins, pins, pins_lines, pins_lines]
      rfl
    exact congrArg some hsensed
  | succ k =>
    rw [sensedAt, sensedAt, StepMachine.first_succ_cons, StepMachine.final_cons,
      StepMachine.final_cons, hd.cycle (input 0)]

theorem tally_dispatched (hd : s.Dispatching) (beats : List Beat) (k : ℕ) :
    (s.dispatched (input 0).2).tally input beats k = s.tally input beats k := by
  induction k with
  | zero => rfl
  | succ k ih => rw [tally, tally, ih, sensedAt_dispatched hd]

/-- **At the fetch that ends an instruction** the session enters the slot of what the tally says,
or waits at a dispatch. -/
theorem Dispatching.serves (hd : s.Dispatching) (hoff : ResolverOff s.1)
    (hnone : s.1.lines.served = none)
    (hslot : slotAt s.1.model.toNat (input 0).2.toNat = some entries)
    (hstays : entries.stays = true) (hserves : entries.unserving = true) {r : Registers}
    (hyields : entries.Yields (s.1.opened (input 0).2) (onBus input) beats r)
    (hends : Ends beats) (hlast : ∀ b ∈ beats.getLast?, b.sample = none) :
    ∃ s', s.Completes input beats s' ∧ s'.waitsAt = s.tally input beats beats.length ∧
      (s'.waitsAt = none → s'.Dispatching) := by
  obtain ⟨p', htrace, _⟩ := hyields
  obtain ⟨n, hn⟩ : ∃ n, beats.length = n + 1 := by
    cases beats with
    | nil => exact hends.ne_nil.elim
    | cons b beats => exact ⟨beats.length, rfl⟩
  obtain ⟨pₙ, sₙ, hphase, hsession, hfₙ, hoffₙ, hmodel, hserved⟩ :=
    (hd.follows (input 0).2).serves ⟨hoff.request, hoff.idle⟩ hslot hstays hserves hnone htrace
      hends.earlier n (by omega)
  obtain ⟨b, p'', hb, hstep, _⟩ := StepMachine.trace_at htrace (by omega) hphase
  have hgetLast : beats.getLast? = some b := by
    rw [List.getLast?_eq_getElem?, hn]
    exact hb
  have hfetching : b.tick.fetching = true := by
    obtain ⟨last, hmem, hfetch⟩ := hends.fetches
    obtain rfl := Option.some.inj (hgetLast.symm.trans hmem)
    exact hfetch
  obtain ⟨s', hbeat, hwaits, hdispatch⟩ :=
    hfₙ.enters hoffₙ (hmodel ▸ hslot) (input 0).2.isLt hserves hstep
    hfetching (hlast b hgetLast)
  refine ⟨s', ⟨?_, hends⟩, ?_, fun hnone => hdispatch (hwaits.symm.trans hnone)⟩
  · have htake : beats.take n ++ [b] = beats := by
      have hadd : beats.take (n + 1) = beats.take n ++ [b] := by
        rw [List.take_add_one, hb]
        rfl
      rw [← hadd, ← hn, List.take_length]
    have hsingle : trace Session.beat sₙ [input n] = some ([b], s') :=
      StepMachine.trace_cons hbeat rfl
    have hrun := StepMachine.trace_append hsingle hsession
    rw [← StepMachine.first_succ, htake, StepMachine.first_succ_cons, StepMachine.trace_step,
      ← hd.beat] at hrun
    rw [hn, StepMachine.first_succ_cons]
    exact hrun
  · rw [hwaits, hserved, tally_dispatched hd, hn, tally_succ (sensedAt_dispatched hd n ▸
      sensedAt_of_trace hsession) hb, hlast b hgetLast]
    rfl

end run

end Session

end Qe6502
