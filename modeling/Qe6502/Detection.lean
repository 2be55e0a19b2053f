import Qe6502.FastPath
import Qe6502.TakenNmi

/-!
# The window without edge detection

A BRK, NMI or IRQ sequence of an NMOS model switches NMI edge detection off in its push-status
cycle and on again two cycles later, so it is off at cycles 4 and 5 only (`detection_window`).
`qe6502_goto` leaves the sequence without switching it on again: `detection_left_off`.
-/

namespace Qe6502

/-! ### The switch on the lines -/

/-- `samplingOff` after the signal. -/
def Signal.switched (off : Bool) : Signal → Bool
  | .brkPush | .nmiPush | .irqPush => true
  | .detectOn | .nmiVector => false
  | _ => off

namespace Lines

theorem samplingOff_detect (l : Lines) : l.detect.samplingOff = l.samplingOff := by
  obtain ⟨edge, last, hdetect⟩ := l.detect_frame
  rw [hdetect]

theorem samplingOff_arbitrate (l : Lines) (iClear : Bool) :
    (l.arbitrate iClear).samplingOff = l.samplingOff := by
  unfold arbitrate
  split
  · rfl
  · split <;> rfl

theorem samplingOff_apply (l : Lines) (iClear : Bool) (s : Signal) :
    (l.apply iClear s).samplingOff = s.switched l.samplingOff := by
  cases s <;> rfl

theorem samplingOff_settle (l : Lines) (iClear fetching : Bool) :
    (l.settle iClear fetching).1.samplingOff = l.samplingOff := by
  unfold settle
  split
  · exact l.quiet.samplingOff_arbitrate iClear
  · split
    · rfl
    · split <;> rfl

/-- **The switch after a tick.** -/
theorem samplingOff_tick (l : Lines) (on iClear fetching : Bool) (s : Signal) :
    (l.tick on iClear fetching s).1.samplingOff = s.switched l.samplingOff := by
  cases on with
  | false => exact l.samplingOff_apply iClear s
  | true =>
    simp only [tick, if_true]
    rw [samplingOff_settle, samplingOff_apply, samplingOff_detect]

/-- The last sampled level is released when the pin is. -/
def inStep (l : Lines) : Prop := l.nmiPin = false → l.nmiLast = false

theorem inStep_arbitrate {l : Lines} (h : l.inStep) (iClear : Bool) :
    (l.arbitrate iClear).inStep := by
  unfold arbitrate
  split
  · exact h
  · split <;> exact h

theorem inStep_settle {l : Lines} (h : l.inStep) (iClear fetching : Bool) :
    (l.settle iClear fetching).1.inStep := by
  unfold settle
  split
  · exact inStep_arbitrate (l := l.quiet) h iClear
  · split
    · exact h
    · split <;> exact h

/-- A tick with detection on leaves the last sampled level in step, unless the resolver is left
out on a stale level. -/
theorem inStep_tick {l : Lines} {on : Bool} (hoff : l.samplingOff = false)
    (hstale : on = false → l.stale = false) (iClear fetching : Bool) {s : Signal}
    (hs : s = .none ∨ s = .sample) : (l.tick on iClear fetching s).1.inStep := by
  have hdetect : l.detect.inStep := by
    intro hpin
    simp only [detect, hoff, Bool.false_eq_true, if_false] at hpin ⊢
    exact hpin
  have hlast : on = false → l.inStep := by
    intro hon hpin
    have h := hstale hon
    simpa [stale, hoff, hpin] using h
  cases on with
  | false => rcases hs with rfl | rfl <;> exact hlast rfl
  | true =>
    simp only [tick, if_true]
    refine inStep_settle ?_ iClear fetching
    rcases hs with rfl | rfl <;> exact hdetect

end Lines

/-! ### The window -/

/-- Cycles 4 and 5 of a BRK, NMI or IRQ sequence. -/
def inWindow (slot cycle : Nat) : Bool :=
  (slot == 0 || slot == 262 || slot == 263) && (cycle == 4 || cycle == 5)

/-- The context stands in the window. -/
def Cpu.InWindow (cpu : Cpu) : Prop :=
  ∃ slot cycle, inWindow slot cycle = true ∧ cpu.At slot cycle

/-- The handlers that switch detection on again. -/
def Handler.switchesOn : Handler → Bool
  | .mcBrkC5VecHi | .mcNmosIrqC5VecHi | .mcNmosNmiC5VecHi => true
  | _ => false

theorem signal_switched (h : Handler) (cpu : Cpu) (off : Bool) :
    (h.signal cpu).switched off = (h.switchesOff || off && !h.switchesOn) := by
  cases hservice : h.isService with
  | false =>
    have hplain : h.switchesOff = false ∧ h.switchesOn = false := by
      cases h <;> first | exact Bool.noConfusion hservice | exact ⟨rfl, rfl⟩
    rw [hplain.1, hplain.2, Bool.false_or, Bool.not_false, Bool.and_true]
    rcases signal_plain hservice cpu with hs | hs <;> rw [hs] <;> rfl
  | true =>
    cases h with
    | mcStackPushStatusB | mcNmiC3PushP | mcIrqC3PushP | mcCmosNmiC3PushP | mcCmosIrqC3PushP
    | mcBrkC5VecHi | mcNmosIrqC5VecHi | mcNmosNmiC5VecHi | mcCmosNmiC5VecHi
    | mcCmosIrqC5VecHi => cases off <;> rfl
    | _ => exact Bool.noConfusion hservice

/-- Detection is switched off in a cycle 3 of an NMOS model.  From there and from within the
window every exit stays in the window, unless detection is switched on. -/
def windowKept (model slot : Nat) (_entries : Slot) (cycle : Nat) : Entry → Bool
  | .handler h => (!h.switchesOff || model < 2) &&
      h.exits.all fun e => e.move.isService ||
        !(h.switchesOff || model < 2 && inWindow slot cycle && !h.switchesOn) ||
        inWindow (e.move.target slot cycle).1 (e.move.target slot cycle).2 &&
          e.status &&& statusOpcodeFetch == 0
  | .mcDispatch => !inWindow slot cycle
  | .interruptResolver => true

theorem window_kept : entriesAll windowKept = true := by decide +kernel

/-- A handler that fetches has no signal of its own. -/
def fetchPlain : Entry → Bool
  | .handler h => !h.isService || h.exits.all fun e => e.status &&& statusOpcodeFetch == 0
  | _ => true

theorem fetch_plain : entriesAll (fun _ _ _ _ e => fetchPlain e) = true := by decide +kernel

/-- Detection is off in the window of an NMOS model only. -/
def Cpu.Windowed (cpu : Cpu) : Prop :=
  cpu.lines.samplingOff = true → cpu.model.toNat < 2 ∧ cpu.InWindow

theorem inWindow_bounds {slot cycle : Nat} (h : inWindow slot cycle = true) :
    slot < 264 ∧ cycle < 8 := by
  simp only [inWindow, Bool.and_eq_true, Bool.or_eq_true, beq_iff_eq] at h
  omega

theorem inWindow_service {slot : ServiceSlot} (h : slot = .nmi ∨ slot = .irq) :
    inWindow slot.code.toNat 4 = true := by
  rcases h with rfl | rfl <;> rfl

/-- What runs in the window is the entry there. -/
theorem Executes.inWindow {cpu cpu₀ : Cpu} {bus : Byte} {slot cycle : Nat} {h : Handler}
    (hx : Executes cpu bus slot cycle h cpu₀) (hw : cpu.InWindow) :
    inWindow slot cycle = true := by
  obtain ⟨slot₁, cycle₁, hin, hat₁⟩ := hw
  obtain ⟨hs₁, hc₁⟩ := inWindow_bounds hin
  cases hx with
  | direct hat he =>
    obtain ⟨hm, hs, hc⟩ := entryAt_bounds he
    obtain ⟨rfl, rfl⟩ := position_inj hm hs hc hs₁ hc₁ (hat.symm.trans hat₁)
    exact hin
  | dispatch hat he hop =>
    obtain ⟨hm, hs, hc⟩ := entryAt_bounds he
    obtain ⟨rfl, rfl⟩ := position_inj hm hs hc hs₁ hc₁ (hat.symm.trans hat₁)
    obtain ⟨_, _, hkept⟩ := forall_entries window_kept he
    simp [windowKept, hin] at hkept

/-- **A tick that leaves detection off** leads into the window and does not fetch. -/
theorem execute_samplingOff {cpu cpu₀ : Cpu} {bus : Byte} {slot cycle : Nat} {h : Handler}
    (hx : Executes cpu bus slot cycle h cpu₀) (hw : cpu.Windowed)
    (hoff : (execute h cpu₀ bus).1.lines.samplingOff = true) :
    (execute h cpu₀ bus).1.model.toNat < 2 ∧ (execute h cpu₀ bus).1.InWindow ∧
      (execute h cpu₀ bus).2.fetching = false := by
  obtain ⟨_, hi, _, hmodel₀⟩ := hx.interrupts_eq
  have hlines : cpu₀.lines = cpu.lines := congrArg Lines.of hi
  have hmodel : (execute h cpu₀ bus).1.model = cpu₀.model := execute_model
  rw [execute_lines, unitTick, Lines.samplingOff_tick, signal_switched, hlines] at hoff
  obtain ⟨_, _, hkept⟩ := forall_entries window_kept hx.entry.2
  simp only [windowKept, Bool.and_eq_true, Bool.or_eq_true, Bool.not_eq_true',
    decide_eq_true_eq] at hkept
  obtain ⟨hnmos, hexits⟩ := hkept
  have hstays : (h.switchesOff || decide (cpu₀.model.toNat < 2) && inWindow slot cycle &&
      !h.switchesOn) = true ∧ cpu₀.model.toNat < 2 := by
    cases hset : h.switchesOff with
    | true => exact ⟨rfl, hnmos.resolve_left (by rw [hset]; decide)⟩
    | false =>
      rw [hset, Bool.false_or, Bool.and_eq_true] at hoff
      obtain ⟨hm, hin⟩ := hw hoff.1
      rw [← hmodel₀] at hm
      rw [hx.inWindow hin, hoff.2, decide_eq_true hm]
      exact ⟨rfl, hm⟩
  obtain ⟨e, slot', cycle', hleads⟩ := execute_place hx
  have he := List.all_eq_true.mp hexits e hleads.mem
  rw [hleads.noService, hstays.1, Bool.false_or, Bool.not_true, Bool.false_or,
    Bool.and_eq_true, beq_iff_eq] at he
  obtain ⟨hin, hstatus⟩ := he
  have hfetching : (execute h cpu₀ bus).2.fetching = false := by
    rw [hleads.fetching, hstatus]
    rfl
  refine ⟨hmodel ▸ hstays.2, ⟨slot', cycle', ?_, hleads.place⟩, hfetching⟩
  cases hentered : (unitTick h cpu₀ bus).2 with
  | none =>
    obtain ⟨rfl, rfl⟩ := hleads.of_none hentered
    exact hin
  | some entered =>
    obtain ⟨service, k⟩ := entered
    obtain ⟨rfl, rfl⟩ := hleads.of_entered hentered
    rcases Lines.tick_entered hentered with ⟨_, hf, _⟩ | ⟨rfl, ⟨_, hslot⟩ | ⟨_, hslot⟩⟩
    · exact absurd (hfetching.symm.trans hf) Bool.false_ne_true
    · exact inWindow_service hslot
    · exact inWindow_service (Or.inl hslot)

/-- **A fetch leaves the last sampled level in step with the pin.** -/
theorem execute_inStep {cpu cpu₀ : Cpu} {bus : Byte} {slot cycle : Nat} {h : Handler}
    (hx : Executes cpu bus slot cycle h cpu₀) (hw : cpu.Windowed)
    (hfresh : ¬(cpu.hijackMicrocode = 0 ∧ Stale cpu.interrupts))
    (hfetch : (execute h cpu₀ bus).2.fetching = true) :
    (execute h cpu₀ bus).1.lines.inStep := by
  obtain ⟨_, hi, hh, _⟩ := hx.interrupts_eq
  have hlines : cpu₀.lines = cpu.lines := congrArg Lines.of hi
  obtain ⟨e, slot', cycle', hleads⟩ := execute_place hx
  obtain ⟨_, _, hplain⟩ := forall_entries fetch_plain hx.entry.2
  have hservice : h.isService = false := by
    by_contra hs
    rw [Bool.not_eq_false] at hs
    rw [fetchPlain, hs, Bool.not_true, Bool.false_or] at hplain
    have hstatus := beq_iff_eq.mp (List.all_eq_true.mp hplain e hleads.mem)
    rw [hleads.fetching, hstatus] at hfetch
    cases hfetch
  have hsignal := signal_plain hservice cpu₀
  have hoff : cpu₀.lines.samplingOff = false := by
    by_contra hs
    rw [Bool.not_eq_false] at hs
    have hafter : (execute h cpu₀ bus).1.lines.samplingOff = true := by
      rw [execute_lines, unitTick, Lines.samplingOff_tick]
      rcases hsignal with hs' | hs' <;> rw [hs'] <;> exact hs
    obtain ⟨_, _, hno⟩ := execute_samplingOff hx hw hafter
    exact absurd (hno.symm.trans hfetch) Bool.false_ne_true
  rw [execute_lines, unitTick]
  refine Lines.inStep_tick hoff (fun hon => ?_) _ _ hsignal
  have hij : cpu.hijackMicrocode = 0 := by
    rw [← hh]
    simpa [Cpu.resolving] using hon
  have hstale := mt (fun h => And.intro hij h) hfresh
  rw [stale_iff, Bool.not_eq_true] at hstale
  rw [hlines]
  exact hstale

/-! ### Pins at a boundary -/

theorem detectNmiEdge_lines (cpu : Cpu) : (detectNmiEdge cpu).lines = cpu.lines.detect := by
  rw [detectNmiEdge_eq]
  exact of_detected _

theorem pin_lines (p : PinCall) (cpu : Cpu) : (p.apply cpu).lines = cpu.lines.pinned p :=
  pins_lines [p] cpu

/-- A pin call keeps the switch and the last sampled level, and one that moves the NMI pin
switches the resolver on. -/
theorem pin_moves (p : PinCall) (cpu : Cpu) :
    (p.apply cpu).lines.samplingOff = cpu.lines.samplingOff ∧
      (p.apply cpu).lines.nmiLast = cpu.lines.nmiLast ∧
      ((p.apply cpu).lines.nmiPin = cpu.lines.nmiPin ∨ (p.apply cpu).resolving = true) ∧
      (cpu.resolving = true → (p.apply cpu).resolving = true) := by
  have hhijack : (p.apply cpu).hijackMicrocode = p.hijack cpu.interrupts cpu.hijackMicrocode := by
    rw [PinCall.apply_eq]
  simp only [Cpu.resolving, hhijack, PinCall.hijack]
  rw [pin_lines]
  by_cases hswitch : p.SwitchesOn cpu.interrupts
  · rw [if_pos hswitch]
    cases p <;> exact ⟨rfl, rfl, Or.inr rfl, fun _ => rfl⟩
  · rw [if_neg hswitch]
    cases p with
    | nmi assertNmi =>
      exact ⟨rfl, rfl, Or.inl (nmiPin_of_not_changes hswitch).symm, id⟩
    | irq assertIrq => exact ⟨rfl, rfl, Or.inl rfl, id⟩

theorem pins_move (calls : List PinCall) (cpu : Cpu) :
    (calls.foldl PinCall.apply cpu).lines.samplingOff = cpu.lines.samplingOff ∧
      (calls.foldl PinCall.apply cpu).lines.nmiLast = cpu.lines.nmiLast ∧
      ((calls.foldl PinCall.apply cpu).lines.nmiPin = cpu.lines.nmiPin ∨
        (calls.foldl PinCall.apply cpu).resolving = true) ∧
      (cpu.resolving = true → (calls.foldl PinCall.apply cpu).resolving = true) := by
  induction calls generalizing cpu with
  | nil => exact ⟨rfl, rfl, Or.inl rfl, id⟩
  | cons p calls ih =>
    obtain ⟨hoff, hlast, hpin, hon⟩ := pin_moves p cpu
    obtain ⟨hoff', hlast', hpin', hon'⟩ := ih (p.apply cpu)
    refine ⟨hoff'.trans hoff, hlast'.trans hlast, ?_, fun h => hon' (hon h)⟩
    rcases hpin with hpin | hpin
    · exact hpin'.imp (fun h => h.trans hpin) id
    · exact Or.inr (hon' hpin)

namespace Session

/-- Edge detection is off only in the window, and never at an opcode fetch. -/
structure Detecting (s : Session) : Prop where
  window : s.1.lines.samplingOff = true → s.1.InWindow
  boundary : s.2.fetching = true → s.1.lines.samplingOff = false

/-- The next tick goes through the resolver, which copies the level of the NMI pin and latches
the edge of an assertion. -/
structure DetectsNext (s : Session) : Prop where
  resolving : s.1.resolving = true
  last : (detectNmiEdge s.1).lines.nmiLast = s.1.lines.nmiPin
  edge : s.1.lines.nmiPin = true → (detectNmiEdge s.1).lines.nmiEdge = true

/-- `qe6502_goto` in a state with detection off, or a tick that leaves the resolver out before
the last sampled level has followed the NMI pin. -/
def Strays (s : Session) : Call → Prop
  | .input i => s.MissesRelease i
  | .goto _ => s.1.lines.samplingOff = true ∨ s.1.hijackMicrocode = 0 ∧ Stale s.1.interrupts
  | .restart => False

instance (s : Session) : (c : Call) → Decidable (s.Strays c)
  | .input i => inferInstanceAs (Decidable (s.MissesRelease i))
  | .goto _ => inferInstanceAs (Decidable (_ ∨ _))
  | .restart => inferInstanceAs (Decidable False)

/-- The call leaves a session with detection on, and where it issues an opcode fetch, any pin
calls that move the NMI pin are detected in the next tick. -/
def KeepsDetection (s : Session) (c : Call) : Prop :=
  ∀ s', s.call c = some s' → s'.Detecting ∧
    ((∀ p, c ≠ .input (.pin p)) → s'.2.fetching = true → ∀ pins : List PinCall,
      (s'.pins pins).1.lines.nmiPin ≠ s'.1.lines.nmiPin → (s'.pins pins).DetectsNext)

theorem detectsNext_of_inStep {s : Session} (hoff : s.1.lines.samplingOff = false)
    (hstep : s.1.lines.inStep) {pins : List PinCall}
    (hmoved : (s.pins pins).1.lines.nmiPin ≠ s.1.lines.nmiPin) : (s.pins pins).DetectsNext := by
  obtain ⟨hoff', hlast, hpin, _⟩ := pins_move pins s.1
  have hdetect : (s.pins pins).1.lines.samplingOff = false := hoff'.trans hoff
  refine ⟨hpin.resolve_left hmoved, ?_, fun hasserted => ?_⟩
  · rw [detectNmiEdge_lines, Lines.detect, hdetect, if_neg Bool.false_ne_true]
  · rw [detectNmiEdge_lines, Lines.detect, hdetect, if_neg Bool.false_ne_true]
    have hreleased : s.1.lines.nmiPin = false := by
      rw [hasserted] at hmoved
      simpa using hmoved.symm
    have hseen : (s.pins pins).1.lines.nmiLast = false := hlast.trans (hstep hreleased)
    simp [hasserted, hseen]

/-- What a run without strays keeps. -/
structure Watched (s : Session) : Prop where
  placed : Placed s.1
  windowed : s.1.Windowed
  boundary : s.2.fetching = true → s.1.lines.samplingOff = false

theorem Watched.detecting {s : Session} (h : s.Watched) : s.Detecting :=
  ⟨fun hoff => (h.windowed hoff).2, h.boundary⟩

theorem not_fetching_restart (cpu : Cpu) : (Qe6502.restart cpu).2.fetching = false := by
  rw [restart_tick]
  rfl

theorem Watched.of_restart {cpu : Cpu} (hm : cpu.model.toNat < 5) :
    Watched (Qe6502.restart cpu) where
  placed := restart_placed hm
  windowed := fun hoff => absurd hoff (by show ¬(Lines.of 0).samplingOff = true; decide)
  boundary := fun hf => absurd ((not_fetching_restart cpu).symm.trans hf) Bool.false_ne_true

theorem Watched.of_executes {cpu cpu₀ : Cpu} {bus : Byte} {slot cycle : Nat} {h : Handler}
    (hx : Executes cpu bus slot cycle h cpu₀) (hw : cpu.Windowed) :
    Watched (Qe6502.execute h cpu₀ bus) where
  placed := hx.placed
  windowed := fun hoff => by
    obtain ⟨hm, hin, _⟩ := execute_samplingOff hx hw hoff
    exact ⟨hm, hin⟩
  boundary := fun hf => by
    by_contra hoff
    obtain ⟨_, _, hno⟩ := execute_samplingOff hx hw (by simpa using hoff)
    exact absurd (hno.symm.trans hf) Bool.false_ne_true

theorem windowed_redirected {cpu : Cpu} (hoff : ¬cpu.lines.samplingOff = true) (address : Word) :
    (redirected cpu address).Windowed := fun h => absurd h hoff

/-- One call that does not stray. -/
theorem Watched.call {s s' : Session} (hs : s.Watched) {c : Call} (hc : ¬s.Strays c)
    (h : s.call c = some s') : s'.Watched := by
  cases effect_of_call hs.placed h with
  | tick hx => exact .of_executes hx hs.windowed
  | pin p =>
    have hlines : (Lines.of (p.pinned s.1.interrupts)).samplingOff = s.1.lines.samplingOff := by
      rw [of_pinned]
      cases p <;> rfl
    exact ⟨placed_pins hs.placed _ _, fun hoff => hs.windowed (hlines.symm.trans hoff),
      fun hf => hlines.trans (hs.boundary hf)⟩
  | goto address =>
    exact .of_executes (redirected_executes hs.placed.supported address)
      (windowed_redirected (fun hoff => hc (Or.inl hoff)) address)
  | restart => exact .of_restart hs.placed.supported

/-- A call that does not stray leaves the last sampled level in step where it fetches. -/
theorem Watched.inStep {s s' : Session} (hs : s.Watched) {c : Call} (hc : ¬s.Strays c)
    (h : s.call c = some s') (hpin : ∀ p, c ≠ .input (.pin p)) (hf : s'.2.fetching = true) :
    s'.1.lines.inStep := by
  cases effect_of_call hs.placed h with
  | tick hx => exact execute_inStep hx hs.windowed hc hf
  | pin p => exact absurd rfl (hpin p)
  | goto address =>
    exact execute_inStep (redirected_executes hs.placed.supported address)
      (windowed_redirected (fun hoff => hc (Or.inl hoff)) address)
      (fun hstale => hc (Or.inr hstale)) hf
  | restart => exact absurd ((not_fetching_restart s.1).symm.trans hf) Bool.false_ne_true

end Session

/-- **The window of edge detection.**  In every run without strays, detection is off only at
cycles 4 and 5 of a BRK, NMI or IRQ sequence and never at an opcode fetch, and a transition of
the NMI pin at an opcode fetch is detected in the next tick. -/
theorem detection_window {cpu : Cpu} (hm : cpu.model.toNat < supportedModelsCount)
    {calls : List Call}
    (h : StepMachine.Always Session.call (fun s c => ¬s.Strays c) (restart cpu) calls) :
    Session.Detecting (restart cpu) ∧
      StepMachine.Always Session.call Session.KeepsDetection (restart cpu) calls := by
  refine ⟨(Session.Watched.of_restart hm).detecting, ?_⟩
  refine StepMachine.always_of_allowed Session.Watched (fun s c s' hs hc => hs.call hc) ?_
    (Session.Watched.of_restart hm) h
  intro s c hs hc s' hcall
  have hs' := hs.call hc hcall
  refine ⟨hs'.detecting, fun hpin hf pins hmoved => ?_⟩
  exact Session.detectsNext_of_inStep (hs'.boundary hf) (hs.inStep hc hcall hpin hf) hmoved

/-- Two BRKs in a memory of zeros: the NMI pin is asserted at the fetch of the second, which the
NMI takes over, and released at the fetch behind it. -/
def brkThenNmi : List Call :=
  List.replicate 24 (.input (.tick 0)) ++ [.input (.pin (.nmi 1))] ++
    List.replicate 7 (.input (.tick 0)) ++ [.input (.pin (.nmi 0)), .input (.tick 0)]

/-- Detection is off for two ticks of each sequence, and the vectors read are those of the reset,
the BRK and the NMI. -/
theorem detection_window_brk :
    (∃ run, StepMachine.states Session.call (restart blankCpu) brkThenNmi = some run ∧
        (run.map fun s => s.1.lines.samplingOff).count true = 4 ∧
        (run.map fun s => s.2.address).filter (0xFFFA ≤ ·) =
          [0xFFFC, 0xFFFD, 0xFFFE, 0xFFFF, 0xFFFA, 0xFFFB]) ∧
      Session.Detecting (restart blankCpu) ∧
      StepMachine.Always Session.call Session.KeepsDetection (restart blankCpu) brkThenNmi := by
  have hfollows : StepMachine.Always Session.call (fun s c => ¬s.Strays c) (restart blankCpu)
      brkThenNmi := by
    decide +kernel
  exact ⟨by decide +kernel, detection_window (by decide : blankCpu.model.toNat < 5) hfollows⟩

/-- `qe6502_goto` at cycle 4 of a BRK sequence of the NMOS model: the opcode is fetched with
detection off, and an NMI asserted there is not seen. -/
theorem detection_left_off :
    ∃ s : Session, s.Reachable ∧ s.2.fetching = true ∧ s.1.lines.samplingOff = true ∧
      (s.pins [.nmi 1]).1.lines.nmiPin ≠ s.1.lines.nmiPin ∧ ¬(s.pins [.nmi 1]).DetectsNext := by
  refine ⟨Session.after 0 (List.replicate 21 (.input (.tick 0)) ++ [.goto 0x0400]),
    Session.after_reachable (by decide) _, by decide, by decide,
    by decide, fun h => ?_⟩
  exact absurd (h.edge (by decide)) (by decide)

end Qe6502
