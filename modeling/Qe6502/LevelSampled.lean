import Qe6502.FastPath
import Qe6502.Taken

/-!
# The IRQ pin is a level

Two runs from one reachable session, over one bus function and with the same releases of the
NMI pin, in which the IRQ pin differs but agrees at every tick that samples it with I clear:
their ticks and registers are the same (`irq_level_sampled`).

The two contexts may differ in the IRQ pin, in the sampling request, in whether the resolver
is on, and in the last sampled NMI level while the NMI pin is released (`Lines.Level`).
-/

namespace Qe6502

/-! ### Lines that differ in the IRQ pin -/

namespace Lines

/-- The same lines but for the IRQ pin, the sampling request and, while the NMI pin is
released, the last sampled level. -/
structure Level (a b : Lines) : Prop where
  nmiPin : a.nmiPin = b.nmiPin
  nmiLast : a.nmiPin = true → a.nmiLast = b.nmiLast
  nmiEdge : a.nmiEdge = b.nmiEdge
  nmiTaken : a.nmiTaken = b.nmiTaken
  irqTaken : a.irqTaken = b.irqTaken
  samplingOff : a.samplingOff = b.samplingOff

theorem Level.refl (l : Lines) : l.Level l := ⟨rfl, fun _ => rfl, rfl, rfl, rfl, rfl⟩

theorem Level.symm {a b : Lines} (h : a.Level b) : b.Level a :=
  ⟨h.nmiPin.symm, fun hpin => (h.nmiLast (h.nmiPin.trans hpin)).symm, h.nmiEdge.symm,
    h.nmiTaken.symm, h.irqTaken.symm, h.samplingOff.symm⟩

theorem Level.trans {a b c : Lines} (h : a.Level b) (h' : b.Level c) : a.Level c :=
  ⟨h.nmiPin.trans h'.nmiPin,
    fun hpin => (h.nmiLast hpin).trans (h'.nmiLast (h.nmiPin.symm.trans hpin)),
    h.nmiEdge.trans h'.nmiEdge, h.nmiTaken.trans h'.nmiTaken, h.irqTaken.trans h'.irqTaken,
    h.samplingOff.trans h'.samplingOff⟩

section level

variable {a b l : Lines} {iClear fetching : Bool} {s : Signal}

theorem Level.detect (h : a.Level b) : a.detect.Level b.detect := by
  have hedge : (a.nmiEdge || (a.nmiPin && !a.nmiLast)) =
      (b.nmiEdge || (b.nmiPin && !b.nmiLast)) := by
    rw [h.nmiEdge, ← h.nmiPin]
    cases hpin : a.nmiPin with
    | false => rfl
    | true => rw [h.nmiLast hpin]
  unfold Lines.detect
  rw [← h.samplingOff]
  split
  · exact h
  · exact ⟨h.nmiPin, fun _ => h.nmiPin, hedge, h.nmiTaken, h.irqTaken, rfl⟩

/-- The two arbitrations agree when the IRQ pins do, or I is set. -/
theorem Level.arbitrate (h : a.Level b) (hirq : iClear = true → a.irqPin = b.irqPin) :
    (a.arbitrate iClear).Level (b.arbitrate iClear) := by
  have hcond : (iClear && a.irqPin) = (iClear && b.irqPin) := by
    cases iClear with
    | false => rfl
    | true => rw [hirq rfl]
  unfold Lines.arbitrate
  rw [hcond, h.nmiEdge]
  split
  · exact ⟨h.nmiPin, h.nmiLast, rfl, rfl, rfl, h.samplingOff⟩
  · split
    · exact ⟨h.nmiPin, h.nmiLast, rfl, rfl, rfl, h.samplingOff⟩
    · exact h

end level

end Lines

/-- The signals whose outcome depends on the IRQ pin. -/
def Signal.samplesIrq : Signal → Bool
  | .sample | .brkPush | .irqPush => true
  | _ => false

namespace Lines

variable {a b l : Lines} {iClear fetching : Bool} {s : Signal}

theorem arbitrate_pins (l : Lines) (iClear : Bool) :
    (l.arbitrate iClear).nmiPin = l.nmiPin ∧ (l.arbitrate iClear).nmiLast = l.nmiLast ∧
      (l.arbitrate iClear).samplingOff = l.samplingOff := by
  unfold arbitrate
  split
  · exact ⟨rfl, rfl, rfl⟩
  · split
    · exact ⟨rfl, rfl, rfl⟩
    · exact ⟨rfl, rfl, rfl⟩

theorem Level.apply (h : a.Level b)
    (hirq : s.samplesIrq = true → iClear = true → a.irqPin = b.irqPin) :
    (a.apply iClear s).Level (b.apply iClear s) := by
  cases s with
  | none => exact h
  | sample => exact ⟨h.nmiPin, h.nmiLast, h.nmiEdge, h.nmiTaken, h.irqTaken, h.samplingOff⟩
  | brkPush | irqPush =>
    have harb := h.arbitrate (hirq rfl)
    exact ⟨harb.nmiPin, harb.nmiLast, harb.nmiEdge, rfl, rfl, rfl⟩
  | nmiPush =>
    obtain ⟨hpin, hlast, _⟩ := a.arbitrate_pins iClear
    obtain ⟨hpin', hlast', _⟩ := b.arbitrate_pins iClear
    refine ⟨?_, ?_, rfl, rfl, rfl, rfl⟩
    · exact hpin.trans (h.nmiPin.trans hpin'.symm)
    · exact fun hp => hlast.trans ((h.nmiLast (hpin.symm.trans hp)).trans hlast'.symm)
  | cmosNmiPush => exact ⟨h.nmiPin, fun _ => h.nmiPin, rfl, rfl, h.irqTaken, h.samplingOff⟩
  | cmosIrqPush => exact ⟨h.nmiPin, h.nmiLast, h.nmiEdge, h.nmiTaken, rfl, h.samplingOff⟩
  | detectOn => exact ⟨h.nmiPin, h.nmiLast, h.nmiEdge, h.nmiTaken, h.irqTaken, rfl⟩
  | nmiVector => exact ⟨h.nmiPin, fun _ => h.nmiPin, h.nmiEdge, h.nmiTaken, h.irqTaken, rfl⟩
  | cmosVector =>
    exact ⟨h.nmiPin, fun _ => h.nmiPin, rfl, h.nmiTaken, h.irqTaken, h.samplingOff⟩

theorem Level.jump (h : a.Level b)
    (hirq : s.samplesIrq = true → iClear = true → a.irqPin = b.irqPin) :
    a.jump iClear s = b.jump iClear s := by
  cases s with
  | brkPush | irqPush =>
    have harb := h.arbitrate (hirq rfl)
    simp only [Lines.jump, harb.nmiTaken, harb.irqTaken]
  | _ => rfl

/-- Two ticks through the resolver. -/
theorem Level.tick_on (h : a.Level b) (ha : a.sampling = false) (hb : b.sampling = false)
    (hirq : s.samplesIrq = true → iClear = true → a.irqPin = b.irqPin) :
    (a.tick true iClear fetching s).1.Level (b.tick true iClear fetching s).1 ∧
      (a.tick true iClear fetching s).2 = (b.tick true iClear fetching s).2 := by
  have hdetect := h.detect
  have hirq' : s.samplesIrq = true → iClear = true → a.detect.irqPin = b.detect.irqPin := by
    intro hs hi
    obtain ⟨_, _, hd⟩ := a.detect_frame
    obtain ⟨_, _, hd'⟩ := b.detect_frame
    rw [hd, hd']
    exact hirq hs hi
  by_cases hs : s = .sample
  · subst hs
    rw [tick_sample ha, tick_sample hb]
    exact ⟨hdetect.arbitrate (hirq' rfl), rfl⟩
  · have happly := hdetect.apply hirq'
    rw [tick_other ha iClear fetching hs, tick_other hb iClear fetching hs, happly.nmiTaken,
      happly.irqTaken, hdetect.jump hirq']
    split
    · exact ⟨⟨happly.nmiPin, happly.nmiLast, happly.nmiEdge, rfl, rfl, happly.samplingOff⟩, rfl⟩
    · split
      · exact ⟨⟨happly.nmiPin, happly.nmiLast, happly.nmiEdge, rfl, rfl, happly.samplingOff⟩, rfl⟩
      · exact ⟨happly, rfl⟩

theorem level_quiet (l : Lines) : l.quiet.Level l := ⟨rfl, fun _ => rfl, rfl, rfl, rfl, rfl⟩

/-- On idle lines a tick through the resolver does what a tick without it does. -/
theorem level_tick_of_idle (hidle : l.idle) (iClear fetching : Bool) (s : Signal) :
    (l.quiet.tick true iClear fetching s).1.Level (l.tick false iClear fetching s).1 ∧
      (l.quiet.tick true iClear fetching s).2 = (l.tick false iClear fetching s).2 := by
  have hsettle : ∀ m : Lines, m.idle → ((m.apply iClear s).settle iClear fetching).1.Level
      (m.apply iClear s) ∧ ((m.apply iClear s).settle iClear fetching).2 = none := by
    intro m hm
    rw [settle_of_idle (idle_apply hm iClear s)]
    exact ⟨level_quiet _, rfl⟩
  have hlevel : l.quiet.detect.Level l := by
    simp only [idle, Bool.and_eq_true, Bool.not_eq_true', Bool.or_eq_true] at hidle
    unfold detect
    split
    · exact l.level_quiet
    · refine ⟨rfl, fun hpin => ?_, ?_, rfl, rfl, rfl⟩
      · have hlast : l.nmiLast = true :=
          hidle.1.1.2.resolve_left (by simp [show l.nmiPin = true from hpin])
        exact hpin.trans hlast.symm
      · simp only [quiet, hidle.1.1.1.1, Bool.false_or]
        rcases hidle.1.1.2 with hp | hl
        · rw [hp, Bool.false_and]
        · rw [hl, Bool.not_true, Bool.and_false]
  have hidle' : l.quiet.detect.idle := by
    have hirq : l.quiet.detect.irqPin = l.irqPin := by
      obtain ⟨_, _, hd⟩ := l.quiet.detect_frame
      rw [hd]
      rfl
    simp only [idle, Bool.and_eq_true, Bool.not_eq_true', Bool.or_eq_true] at hidle ⊢
    rw [hlevel.nmiEdge, hirq, hlevel.nmiTaken, hlevel.irqTaken]
    refine ⟨⟨⟨hidle.1.1.1, ?_⟩, hidle.1.2⟩, hidle.2⟩
    cases hpin : l.quiet.detect.nmiPin with
    | false => exact Or.inl rfl
    | true =>
      have hlast := hlevel.nmiLast hpin
      rw [hlevel.nmiPin] at hpin
      exact Or.inr (hlast.trans (hidle.1.1.2.resolve_left (by simp [hpin])))
  have hirq : s.samplesIrq = true → iClear = true → l.quiet.detect.irqPin = l.irqPin := by
    intro _ _
    obtain ⟨_, _, hd⟩ := l.quiet.detect_frame
    rw [hd]
    rfl
  obtain ⟨hsettled, hnone⟩ := hsettle _ hidle'
  simp only [tick, if_true, Bool.false_eq_true, if_false, hnone, jump_of_idle hidle',
    jump_of_idle hidle]
  exact ⟨hsettled.trans (hlevel.apply hirq), trivial⟩

/-- **Two ticks of lines that differ in the IRQ pin**, each with the resolver on or off. -/
theorem Level.tick {onA onB : Bool} (h : a.Level b)
    (ha : onA = true → a.sampling = false) (hb : onB = true → b.sampling = false)
    (hia : onA = false → a.idle) (hib : onB = false → b.idle)
    (hirq : s.samplesIrq = true → iClear = true → a.irqPin = b.irqPin) :
    (a.tick onA iClear fetching s).1.Level (b.tick onB iClear fetching s).1 ∧
      (a.tick onA iClear fetching s).2 = (b.tick onB iClear fetching s).2 := by
  -- Each tick is like the tick through the resolver, from the lines without the request.
  have hquiet : a.quiet.Level b.quiet := a.level_quiet.trans (h.trans b.level_quiet.symm)
  obtain ⟨hboth, hentered⟩ : (a.quiet.tick true iClear fetching s).1.Level
      (b.quiet.tick true iClear fetching s).1 ∧ (a.quiet.tick true iClear fetching s).2 =
        (b.quiet.tick true iClear fetching s).2 := hquiet.tick_on rfl rfl hirq
  have hleft : (a.tick onA iClear fetching s).1.Level (a.quiet.tick true iClear fetching s).1 ∧
      (a.tick onA iClear fetching s).2 = (a.quiet.tick true iClear fetching s).2 := by
    cases onA with
    | true =>
      rw [quiet_of_not_sampling (ha rfl)]
      exact ⟨.refl _, rfl⟩
    | false =>
      obtain ⟨hl, he⟩ := level_tick_of_idle (hia rfl) iClear fetching s
      exact ⟨hl.symm, he.symm⟩
  have hright : (b.quiet.tick true iClear fetching s).1.Level (b.tick onB iClear fetching s).1 ∧
      (b.quiet.tick true iClear fetching s).2 = (b.tick onB iClear fetching s).2 := by
    cases onB with
    | true =>
      rw [quiet_of_not_sampling (hb rfl)]
      exact ⟨.refl _, rfl⟩
    | false => exact level_tick_of_idle (hib rfl) iClear fetching s
  exact ⟨hleft.1.trans (hboth.trans hright.1), hleft.2.trans (hentered.trans hright.2)⟩

end Lines

/-! ### Pin calls -/

def PinCall.isNmi : PinCall → Bool
  | .nmi _ => true
  | .irq _ => false

/-- The same NMI calls, and none that asserts the pin. -/
structure SameReleases (calls calls' : List PinCall) : Prop where
  same : calls.filter PinCall.isNmi = calls'.filter PinCall.isNmi
  releases : ∀ assertNmi, .nmi assertNmi ∈ calls → assertNmi = 0

namespace Lines

/-- The lines with the NMI pin released, if it is. -/
def released (released : Bool) (l : Lines) : Lines := { l with nmiPin := l.nmiPin && !released }

theorem Level.released {a b : Lines} (h : a.Level b) (r : Bool) :
    (a.released r).Level (b.released r) := by
  refine ⟨congrArg (· && !r) h.nmiPin, fun hpin => ?_, h.nmiEdge, h.nmiTaken, h.irqTaken,
    h.samplingOff⟩
  have hpin' : (a.nmiPin && !r) = true := hpin
  rw [Bool.and_eq_true] at hpin'
  exact h.nmiLast hpin'.1

theorem level_pinned {calls : List PinCall}
    (hreleases : ∀ assertNmi, .nmi assertNmi ∈ calls → assertNmi = 0) (l : Lines) :
    (calls.foldl pinned l).Level (l.released (calls.any PinCall.isNmi)) := by
  induction calls generalizing l with
  | nil =>
    refine ⟨(Bool.and_true _).symm, fun _ => rfl, rfl, rfl, rfl, rfl⟩
  | cons p calls ih =>
    have hrest := ih (fun a ha => hreleases a (List.mem_cons_of_mem _ ha)) (l.pinned p)
    refine hrest.trans ?_
    cases p with
    | nmi assertNmi =>
      obtain rfl := hreleases assertNmi List.mem_cons_self
      exact ⟨(Bool.and_false _).symm, fun _ => rfl, rfl, rfl, rfl, rfl⟩
    | irq assertIrq => exact ⟨rfl, fun _ => rfl, rfl, rfl, rfl, rfl⟩

theorem Level.pins {a b : Lines} (h : a.Level b) {calls calls' : List PinCall}
    (hsame : SameReleases calls calls') :
    (calls.foldl pinned a).Level (calls'.foldl pinned b) := by
  have hany : calls.any PinCall.isNmi = calls'.any PinCall.isNmi := by
    have hfilter : ∀ c : List PinCall, c.any PinCall.isNmi =
        (c.filter PinCall.isNmi).any PinCall.isNmi := by
      intro c
      simp [List.any_filter]
    rw [hfilter calls, hsame.same, ← hfilter calls']
  have hreleases' : ∀ assertNmi, .nmi assertNmi ∈ calls' → assertNmi = 0 := by
    intro assertNmi hmem
    have hfilter : PinCall.nmi assertNmi ∈ calls'.filter PinCall.isNmi :=
      List.mem_filter.mpr ⟨hmem, rfl⟩
    rw [← hsame.same] at hfilter
    exact hsame.releases assertNmi (List.mem_filter.mp hfilter).1
  have hleft := level_pinned hsame.releases a
  rw [hany] at hleft
  exact hleft.trans ((h.released _).trans (level_pinned hreleases' b).symm)

end Lines

/-! ### Two runs -/

theorem ResolverOff.pins {cpu : Cpu} (h : ResolverOff cpu) (calls : List PinCall) :
    ResolverOff (calls.foldl PinCall.apply cpu) := by
  induction calls generalizing cpu with
  | nil => exact h
  | cons p calls ih =>
    refine ih ?_
    rw [PinCall.apply_eq]
    exact h.pin p

namespace Session

/-- The pin calls before a tick, and the tick with the byte that the bus answers to all ticks
so far. -/
def busStep (bus : List Tick → Byte) (m : Session × List Tick) (calls : List PinCall) :
    Option (Session × List Tick) :=
  ((m.1.pins calls).step (.tick (bus m.2))).map fun s => (s, s.2 :: m.2)

/-- The tick samples the IRQ pin with I clear: a `prefetch` tick, or the push-status tick of a
BRK or IRQ sequence of the NMOS models. -/
def SamplesLevel (s : Session) (bus : Byte) : Prop :=
  flag s.1.p flagI = 0 ∧ ∃ r, s.1.handler bus = some r ∧ (r.1.signal r.2).samplesIrq = true

/-- The NMI calls before the tick are the same releases, and the IRQ pins agree if the tick
samples them with I clear. -/
structure AgreesAtSample (bus : List Tick → Byte) (m n : Session × List Tick)
    (calls calls' : List PinCall) : Prop where
  releases : SameReleases calls calls'
  agrees : (m.1.pins calls).SamplesLevel (bus m.2) →
    (m.1.pins calls).1.lines.irqPin = (n.1.pins calls').1.lines.irqPin

/-- Two sessions that differ in the IRQ pin. -/
structure LevelRun (m n : Session × List Tick) : Prop where
  tick : m.1.2 = n.1.2
  ticks : m.2 = n.2
  forget : m.1.1.forget = n.1.1.forget
  lines : m.1.1.lines.Level n.1.1.lines
  left : ResolverOff m.1.1
  right : ResolverOff n.1.1
  placed : Placed m.1.1

theorem LevelRun.observed_eq {m n : Session × List Tick} (h : LevelRun m n) :
    m.1.observed = n.1.observed := by
  rw [observed, observed, h.tick, eq_of_forget h.forget]

theorem pins_forget (s : Session) (calls : List PinCall) :
    (s.pins calls).1.forget = s.1.forget := by
  obtain ⟨interrupts, hijack, hpins⟩ := pins_eq calls s.1
  rw [pins, hpins]
  rfl

theorem pins_placed {s : Session} (hp : Placed s.1) (calls : List PinCall) :
    Placed (s.pins calls).1 := by
  obtain ⟨interrupts, hijack, hpins⟩ := pins_eq calls s.1
  rw [pins, hpins]
  exact placed_pins hp _ _

/-- **One tick of the two runs.** -/
theorem LevelRun.next {bus : List Tick → Byte} {m n : Session × List Tick} (h : LevelRun m n)
    {calls calls' : List PinCall} (hagree : AgreesAtSample bus m n calls calls') :
    Option.Rel LevelRun (busStep bus m calls) (busStep bus n calls') := by
  have hlevel : (m.1.pins calls).1.lines.Level (n.1.pins calls').1.lines := by
    rw [pins, pins, pins_lines, pins_lines]
    exact h.lines.pins hagree.releases
  have hforget : (n.1.pins calls').1.forget = (m.1.pins calls).1.forget := by
    rw [pins_forget, pins_forget, h.forget]
  obtain ⟨slot, cycle, h₀, a, hx⟩ := (pins_placed h.placed calls).executes (bus m.2)
  obtain ⟨b, hx', hforget', hi', hh'⟩ := hx.of_forget hforget
  obtain ⟨hp, hi, hh, _⟩ := hx.interrupts_eq
  have ha : a.lines = (m.1.pins calls).1.lines := congrArg Lines.of hi
  have hb : b.lines = (n.1.pins calls').1.lines := congrArg Lines.of hi'
  have hoffA : ResolverOff a := (h.left.pins calls).executes hx
  have hoffB : ResolverOff b := (h.right.pins calls').executes hx'
  have hsignal : h₀.signal b = h₀.signal a := by rw [← signal_forget, hforget', signal_forget]
  have hpab : b.p = a.p := by rw [← forget_p, hforget', forget_p]
  have htick : (execute h₀ b (bus m.2)).2 = (execute h₀ a (bus m.2)).2 := by
    rw [execute_tick, execute_tick, hforget']
  have hirq : (h₀.signal a).samplesIrq = true → iClear a.p = true →
      a.lines.irqPin = b.lines.irqPin := by
    intro hs hclear
    rw [hp] at hclear
    rw [ha, hb]
    exact hagree.agrees ⟨of_decide_eq_true hclear, _, handler_of_executes hx, hs⟩
  rw [ha, hb] at hirq
  have hunit : (unitTick h₀ a (bus m.2)).1.Level (unitTick h₀ b (bus m.2)).1 ∧
      (unitTick h₀ a (bus m.2)).2 = (unitTick h₀ b (bus m.2)).2 := by
    rw [unitTick, unitTick, hsignal, hpab, htick]
    refine Lines.Level.tick ?_ hoffA.lines_quiet hoffB.lines_quiet hoffA.lines_idle
      hoffB.lines_idle ?_
    · rw [ha, hb]
      exact hlevel
    · rw [ha, hb]
      exact hirq
  have hmicro : (execute h₀ a (bus m.2)).1.microcode = (execute h₀ b (bus m.2)).1.microcode := by
    have hmodel : b.model = a.model := by rw [eq_of_forget hforget']
    rw [execute_microcode, execute_microcode, hunit.2, hforget', hmodel]
  rw [busStep, busStep, ← h.ticks, step, step, tick_of_executes hx, tick_of_executes hx']
  refine .some ⟨htick.symm, congrArg (· :: m.2) htick.symm, ?_, ?_, hoffA.execute h₀ _,
    hoffB.execute h₀ _,
    hx.placed⟩
  · rw [execute_forget, execute_forget, hforget', hmicro]
  · rw [execute_lines, execute_lines]
    exact hunit.1

end Session

/-- **The IRQ pin is a level.**  Two runs from one reachable session over one bus function, with
the same releases of the NMI pin and no assertion of it, whose IRQ pins agree at every tick that
samples them with I clear, issue the same ticks and have the same registers. -/
theorem irq_level_sampled {s : Session} (hr : s.Reachable) {bus : List Tick → Byte}
    {schedule schedule' : List (List PinCall)}
    (hagree : StepMachine.Together (Session.busStep bus) (Session.busStep bus)
      (Session.AgreesAtSample bus) (s, [s.2]) (s, [s.2]) schedule schedule') :
    (StepMachine.states (Session.busStep bus) (s, [s.2]) schedule).map
        (List.map fun m => m.1.observed) =
      (StepMachine.states (Session.busStep bus) (s, [s.2]) schedule').map
        (List.map fun m => m.1.observed) := by
  have hoff := reachable_resolverOff hr
  have hrun : Session.LevelRun (s, [s.2]) (s, [s.2]) :=
    ⟨rfl, rfl, rfl, .refl _, hoff, hoff, Session.reachable_placed hr⟩
  exact StepMachine.states_observe_eq (fun _ _ h => h.observed_eq)
    (fun _ _ _ _ h hagree => h.next hagree) hrun hagree

/-- A pulse that is over before the tick leaves no trace. -/
theorem irq_level_sampled_pulse :
    (StepMachine.states (Session.busStep fun _ => 0xEA)
        (.after 0 [.goto 0x1000], [(Session.after 0 [.goto 0x1000]).2])
        [[.irq 1, .irq 0]]).map (List.map fun m => m.1.observed) =
      (StepMachine.states (Session.busStep fun _ => 0xEA)
        (.after 0 [.goto 0x1000], [(Session.after 0 [.goto 0x1000]).2])
        [[]]).map (List.map fun m => m.1.observed) := by
  refine irq_level_sampled (Session.after_reachable (by decide) _)
    ⟨⟨⟨rfl, ?_⟩, fun _ => ?_⟩, fun _ _ _ _ => trivial⟩
  · intro assertNmi hmem
    simp at hmem
  · decide

end Qe6502
