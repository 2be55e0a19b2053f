import Qe6502.Lib.Timer
import Qe6502.HostReset
import Qe6502.CmosLines

/-!
# The schedule of the adapter

`assert_irq_for` and `assert_nmi_for` put a line at its level and set the count of instructions
at which `step_instruction` takes it off again.  Each line is a timer on the instruction counter
(`stepInstruction_timer`, `assertFor_changes`), and the counter has 64 bits: `line_scheduling` says
exactly when a line is at the level that the interface promises.
-/

namespace Qe6502

open TimerEvent

/-! ### The calls -/

/-- `qe6502_is_nmi_asserted`. -/
def isNmiAsserted (cpu : Cpu) : Bool := flag cpu.interrupts interruptNmiInvPin ≠ 0

/-- `qe6502_is_irq_asserted`. -/
def isIrqAsserted (cpu : Cpu) : Bool := flag cpu.interrupts interruptIrqInvPin ≠ 0

namespace InstructionAdapter

/-- `assert_irq_for`. -/
def assertIrqFor (m : InstructionAdapter) (instructionCount : BitVec 32) : InstructionAdapter :=
  if instructionCount.toInt ≤ 0 then
    let m := { m with cpu := irqAssert m.cpu 0 }
    m.clearScheduledIrqDeassert
  else
    let m := { m with cpu := irqAssert m.cpu 1 }
    let m := { m with irqDeassertAt := m.instructionCount + instructionCount.signExtend 64 }
    { m with hasIrqDeassertAt := true }

/-- `assert_nmi_for`. -/
def assertNmiFor (m : InstructionAdapter) (instructionCount : BitVec 32) : InstructionAdapter :=
  if instructionCount.toInt ≤ 0 then
    let m := { m with cpu := nmiAssert m.cpu 0 }
    m.clearScheduledNmiDeassert
  else
    let m := { m with cpu := nmiAssert m.cpu 1 }
    let m := { m with nmiDeassertAt := m.instructionCount + instructionCount.signExtend 64 }
    { m with hasNmiDeassertAt := true }

/-- `apply_scheduled_interrupt_deasserts`. -/
def applyScheduledInterruptDeasserts (m : InstructionAdapter) : InstructionAdapter :=
  let m :=
    if m.hasIrqDeassertAt ∧ m.irqDeassertAt ≤ m.instructionCount then
      let m := { m with cpu := irqAssert m.cpu 0 }
      m.clearScheduledIrqDeassert
    else m
  if m.hasNmiDeassertAt ∧ m.nmiDeassertAt ≤ m.instructionCount then
    let m := { m with cpu := nmiAssert m.cpu 0 }
    m.clearScheduledNmiDeassert
  else m

/-- The bus cycles of `step_instruction`. -/
def stepCycles (m : InstructionCpu) : Option InstructionCpu :=
  let fetched :=
    if m.tick.status &&& statusOpcodeFetch = 0 then m.stepUntilOpcodeFetch else some m
  fetched.bind fun m => m.stepCycle.bind InstructionCpu.stepUntilOpcodeFetch

/-- `step_instruction`. -/
def stepInstruction (m : InstructionAdapter) : Option InstructionAdapter :=
  (stepCycles m.toInstructionCpu).map fun cycled =>
    let m := { m with toInstructionCpu := cycled }
    let m := { m with instructionCount := m.instructionCount + 1 }
    m.applyScheduledInterruptDeasserts

end InstructionAdapter

/-- An input line of the adapter. -/
inductive Line
  | irq | nmi
deriving DecidableEq

/-- A call of the adapter's host. -/
inductive AdapterCall
  | assertFor (line : Line) (instructionCount : BitVec 32)
  | stepInstruction
deriving DecidableEq

namespace InstructionAdapter

def assertFor (m : InstructionAdapter) : Line → BitVec 32 → InstructionAdapter
  | .irq => m.assertIrqFor
  | .nmi => m.assertNmiFor

def call (m : InstructionAdapter) : AdapterCall → Option InstructionAdapter
  | .assertFor line instructionCount => some (m.assertFor line instructionCount)
  | .stepInstruction => m.stepInstruction

/-- The calls of a host, one after the other. -/
def run : InstructionAdapter → List AdapterCall → Option InstructionAdapter :=
  StepMachine.final call

/-- The level of a line at the CPU. -/
def asserted (m : InstructionAdapter) : Line → Bool
  | .irq => isIrqAsserted m.cpu
  | .nmi => isNmiAsserted m.cpu

/-- The timer of a line. -/
def timer (m : InstructionAdapter) : Line → Timer 64
  | .irq => ⟨m.instructionCount, m.irqDeassertAt, m.hasIrqDeassertAt⟩
  | .nmi => ⟨m.instructionCount, m.nmiDeassertAt, m.hasNmiDeassertAt⟩

end InstructionAdapter

/-! ### The pins -/

theorem isNmiAsserted_eq (cpu : Cpu) : isNmiAsserted cpu = cpu.lines.nmiPin := by
  have hpin := flag_nmiPin (i := cpu.interrupts)
  rw [isNmiAsserted, Cpu.lines]
  cases h : (Lines.of cpu.interrupts).nmiPin with
  | true => exact decide_eq_true fun h' => by rw [hpin.mp h'] at h; cases h
  | false => exact decide_eq_false (not_not_intro (hpin.mpr h))

theorem isIrqAsserted_eq (cpu : Cpu) : isIrqAsserted cpu = cpu.lines.irqPin := by
  have hpin := flag_irqPin (i := cpu.interrupts)
  rw [isIrqAsserted, Cpu.lines]
  cases h : (Lines.of cpu.interrupts).irqPin with
  | true => exact decide_eq_true fun h' => by rw [hpin.mp h'] at h; cases h
  | false => exact decide_eq_false (not_not_intro (hpin.mpr h))

theorem asserted_nmiAssert (cpu : Cpu) (level : Byte) :
    isNmiAsserted (nmiAssert cpu level) = decide (level ≠ 0) ∧
      isIrqAsserted (nmiAssert cpu level) = isIrqAsserted cpu := by
  have hlines : (nmiAssert cpu level).lines = cpu.lines.pinned (.nmi level) :=
    pins_lines [.nmi level] cpu
  simp only [isNmiAsserted_eq, isIrqAsserted_eq, hlines]
  exact ⟨rfl, rfl⟩

theorem asserted_irqAssert (cpu : Cpu) (level : Byte) :
    isIrqAsserted (irqAssert cpu level) = decide (level ≠ 0) ∧
      isNmiAsserted (irqAssert cpu level) = isNmiAsserted cpu := by
  have hlines : (irqAssert cpu level).lines = cpu.lines.pinned (.irq level) :=
    pins_lines [.irq level] cpu
  simp only [isNmiAsserted_eq, isIrqAsserted_eq, hlines]
  exact ⟨rfl, rfl⟩

/-! ### The cycles -/

namespace InstructionCpu

/-- The cycles to `m'` have left a session and its pins alone. -/
structure Cycled (m m' : InstructionCpu) : Prop where
  reachable : m'.session.Reachable
  irq : isIrqAsserted m'.cpu = isIrqAsserted m.cpu
  nmi : isNmiAsserted m'.cpu = isNmiAsserted m.cpu

theorem Cycled.trans {m m' m'' : InstructionCpu} (h : m.Cycled m') (h' : m'.Cycled m'') :
    m.Cycled m'' :=
  ⟨h'.reachable, h'.irq.trans h.irq, h'.nmi.trans h.nmi⟩

variable {m : InstructionCpu} (h : m.session.Reachable)

include h

theorem Cycled.refl : m.Cycled m := ⟨h, rfl, rfl⟩

theorem stepCycle_cycled : ∃ m', m.stepCycle = some m' ∧ m.Cycled m' := by
  obtain ⟨slot, cycle, hd, cpu₀, hx⟩ :=
    (Session.reachable_placed h).executes (m.memory m.tick.address)
  have htick : Qe6502.tick m.cpu (m.memory m.tick.address) =
    some (execute hd cpu₀ (m.memory m.tick.address)) := tick_of_executes hx
  obtain ⟨m', hm', hsession⟩ : ∃ m', m.stepCycle = some m' ∧
      m'.session = execute hd cpu₀ (m.memory m.tick.address) :=
    ⟨_, by rw [stepCycle, htick]; rfl, rfl⟩
  have hlines : m'.cpu.lines = (unitTick hd cpu₀ (m.memory m.tick.address)).1 := by
    rw [← execute_lines, ← hsession]
    rfl
  refine ⟨m', hm', hsession ▸ Session.reachable_tick h htick, ?_, ?_⟩
  · rw [isIrqAsserted_eq, isIrqAsserted_eq, hlines]
    exact (Lines.tick_irqPin _ _ _ _ _).trans (congrArg Lines.irqPin hx.lines)
  · rw [isNmiAsserted_eq, isNmiAsserted_eq, hlines]
    exact (Lines.tick_nmiPin _ _ _ _ _).trans (congrArg Lines.nmiPin hx.lines)

theorem stepUntil_cycled (cycles : Nat) : ∃ m', m.stepUntil cycles = some m' ∧ m.Cycled m' := by
  induction cycles generalizing m with
  | zero => exact ⟨m, rfl, .refl h⟩
  | succ cycles ih =>
    rw [stepUntil]
    split
    · exact ⟨m, rfl, .refl h⟩
    · split
      · exact ⟨m, rfl, .refl h⟩
      · obtain ⟨m', hm', hcycled⟩ := stepCycle_cycled h
        obtain ⟨m'', hm'', hcycled'⟩ := ih hcycled.reachable
        exact ⟨m'', by rw [hm', Option.bind_some, hm''], hcycled.trans hcycled'⟩

theorem fetchLoop_cycled (start : Word) (limit : Nat) : ∀ steps, ∃ steps' m',
    m.fetchLoop start limit steps = some (steps', m') ∧ m.Cycled m' := by
  induction limit generalizing m with
  | zero => exact fun steps => ⟨steps, m, rfl, .refl h⟩
  | succ limit ih =>
    intro steps
    rw [fetchLoop]
    split
    · exact ⟨steps, m, rfl, .refl h⟩
    · obtain ⟨m', hm', hcycled⟩ := stepCycle_cycled h
      obtain ⟨steps', m'', hm'', hcycled'⟩ := ih hcycled.reachable (steps + 1)
      exact ⟨steps', m'', by rw [hm', Option.bind_some, hm''], hcycled.trans hcycled'⟩

theorem stepCycles_cycled :
    ∃ m', InstructionAdapter.stepCycles m = some m' ∧ m.Cycled m' := by
  have hfetched : ∃ m₁, (if m.tick.status &&& statusOpcodeFetch = 0 then m.stepUntilOpcodeFetch
      else some m) = some m₁ ∧ m.Cycled m₁ := by
    split
    · exact stepUntil_cycled h 32
    · exact ⟨m, rfl, .refl h⟩
  obtain ⟨m₁, hm₁, h₁⟩ := hfetched
  obtain ⟨m₂, hm₂, h₂⟩ := stepCycle_cycled h₁.reachable
  obtain ⟨m₃, hm₃, h₃⟩ := stepUntil_cycled h₂.reachable 32
  refine ⟨m₃, ?_, (h₁.trans h₂).trans h₃⟩
  rw [InstructionAdapter.stepCycles, hm₁, Option.bind_some, hm₂, Option.bind_some]
  exact hm₃

end InstructionCpu

/-! ### The timers -/

/-- The count of an assert call, as its timer is loaded. -/
def loadedCount (instructionCount : BitVec 32) : ℕ := instructionCount.toInt.toNat

theorem loadedCount_lt (instructionCount : BitVec 32) : loadedCount instructionCount < 2 ^ 31 := by
  have hlt := instructionCount.toInt_lt
  unfold loadedCount
  omega

theorem loadedCount_eq_zero {instructionCount : BitVec 32} :
    loadedCount instructionCount = 0 ↔ instructionCount.toInt ≤ 0 := Int.toNat_eq_zero

theorem signExtend_of_pos {instructionCount : BitVec 32} (hpos : ¬instructionCount.toInt ≤ 0) :
    instructionCount.signExtend 64 = BitVec.ofNat 64 (loadedCount instructionCount) := by
  have hcount : (loadedCount instructionCount : ℤ) = instructionCount.toInt :=
    Int.toNat_of_nonneg (by omega)
  rw [BitVec.signExtend, ← hcount, BitVec.ofInt_natCast]

namespace InstructionAdapter

/-- A change of one line: its timer changes, the level goes with the timer, and the other line
stays as it is. -/
structure Changes (line : Line) (change : Timer 64 → Timer 64) (m m' : InstructionAdapter) :
    Prop where
  timer : m'.timer line = change (m.timer line)
  level : m.asserted line = (m.timer line).armed → m'.asserted line = (m'.timer line).armed
  others : ∀ other, other ≠ line →
    m'.timer other = m.timer other ∧ m'.asserted other = m.asserted other
  reachable : m.session.Reachable → m'.session.Reachable

/-- The session is reachable, and each line is asserted as long as its timer is armed. -/
structure Tied (m : InstructionAdapter) : Prop where
  reachable : m.session.Reachable
  level : ∀ line, m.asserted line = (m.timer line).armed

theorem Changes.tied {line : Line} {change : Timer 64 → Timer 64} {m m' : InstructionAdapter}
    (h : Changes line change m m') (hm : m.Tied) : m'.Tied := by
  refine ⟨h.reachable hm.reachable, fun other => ?_⟩
  by_cases hother : other = line
  · rw [hother]
    exact h.level (hm.level line)
  · obtain ⟨htimer, hlevel⟩ := h.others other hother
    rw [htimer, hlevel, hm.level]

section lines

variable (m : InstructionAdapter)

theorem changes_irq {m' : InstructionAdapter} {change : Timer 64 → Timer 64} (level : Byte)
    (hcpu : m'.cpu = irqAssert m.cpu level) (htick : m'.tick = m.tick)
    (htimer : m'.timer .irq = change (m.timer .irq))
    (harmed : (m'.timer .irq).armed = decide (level ≠ 0))
    (hnmi : m'.timer .nmi = m.timer .nmi) : Changes .irq change m m' := by
  obtain ⟨hirqLevel, hnmiLevel⟩ := asserted_irqAssert m.cpu level
  refine ⟨htimer, fun _ => ?_, fun other hne => ?_, fun h => ?_⟩
  · rw [harmed, asserted, hcpu]
    exact hirqLevel
  · cases other with
    | irq => exact absurd rfl hne
    | nmi =>
      refine ⟨hnmi, ?_⟩
      rw [asserted, hcpu]
      exact hnmiLevel
  · rw [InstructionCpu.session, hcpu, htick]
    exact Session.reachable_pins h [.irq level]

theorem changes_nmi {m' : InstructionAdapter} {change : Timer 64 → Timer 64} (level : Byte)
    (hcpu : m'.cpu = nmiAssert m.cpu level) (htick : m'.tick = m.tick)
    (htimer : m'.timer .nmi = change (m.timer .nmi))
    (harmed : (m'.timer .nmi).armed = decide (level ≠ 0))
    (hirq : m'.timer .irq = m.timer .irq) : Changes .nmi change m m' := by
  obtain ⟨hnmiLevel, hirqLevel⟩ := asserted_nmiAssert m.cpu level
  refine ⟨htimer, fun _ => ?_, fun other hne => ?_, fun h => ?_⟩
  · rw [harmed, asserted, hcpu]
    exact hnmiLevel
  · cases other with
    | irq =>
      refine ⟨hirq, ?_⟩
      rw [asserted, hcpu]
      exact hirqLevel
    | nmi => exact absurd rfl hne
  · rw [InstructionCpu.session, hcpu, htick]
    exact Session.reachable_pins h [.nmi level]

/-- **An assert call** loads the timer of its line. -/
theorem assertFor_changes (line : Line) (instructionCount : BitVec 32) :
    Changes line (Timer.load · (loadedCount instructionCount)) m
      (m.assertFor line instructionCount) := by
  by_cases hpos : instructionCount.toInt ≤ 0
  · have hzero := loadedCount_eq_zero.mpr hpos
    cases line with
    | irq =>
      rw [assertFor, assertIrqFor, if_pos hpos, hzero]
      exact changes_irq m 0 rfl rfl rfl rfl rfl
    | nmi =>
      rw [assertFor, assertNmiFor, if_pos hpos, hzero]
      exact changes_nmi m 0 rfl rfl rfl rfl rfl
  · have hcount : loadedCount instructionCount ≠ 0 := fun h => hpos (loadedCount_eq_zero.mp h)
    cases line with
    | irq =>
      rw [assertFor, assertIrqFor, if_neg hpos, signExtend_of_pos hpos]
      exact changes_irq m 1 rfl rfl (if_neg hcount).symm rfl rfl
    | nmi =>
      rw [assertFor, assertNmiFor, if_neg hpos, signExtend_of_pos hpos]
      exact changes_nmi m 1 rfl rfl (if_neg hcount).symm rfl rfl

/-- The first half of `apply_scheduled_interrupt_deasserts`. -/
def expireIrq : InstructionAdapter :=
  if m.hasIrqDeassertAt ∧ m.irqDeassertAt ≤ m.instructionCount then
    { m with cpu := irqAssert m.cpu 0 }.clearScheduledIrqDeassert
  else m

/-- The second half. -/
def expireNmi : InstructionAdapter :=
  if m.hasNmiDeassertAt ∧ m.nmiDeassertAt ≤ m.instructionCount then
    { m with cpu := nmiAssert m.cpu 0 }.clearScheduledNmiDeassert
  else m

theorem Changes.of_id {line : Line} {change : Timer 64 → Timer 64}
    (h : m.timer line = change (m.timer line)) : Changes line change m m :=
  ⟨h, id, fun _ _ => ⟨rfl, rfl⟩, id⟩

theorem expireIrq_changes : Changes .irq Timer.expire m m.expireIrq := by
  unfold expireIrq
  split
  case isTrue h => exact changes_irq m 0 rfl rfl (if_pos h).symm rfl rfl
  case isFalse h => exact .of_id m (if_neg h).symm

theorem expireNmi_changes : Changes .nmi Timer.expire m m.expireNmi := by
  unfold expireNmi
  split
  case isTrue h => exact changes_nmi m 0 rfl rfl (if_pos h).symm rfl rfl
  case isFalse h => exact .of_id m (if_neg h).symm

end lines

/-- **An instruction** steps both timers. -/
theorem stepInstruction_timer {m : InstructionAdapter} (hm : m.Tied) :
    ∃ m', m.stepInstruction = some m' ∧ m'.Tied ∧
      ∀ line, m'.timer line = (m.timer line).step := by
  obtain ⟨cycled, hcycled, hkept⟩ := InstructionCpu.stepCycles_cycled hm.reachable
  let m₁ : InstructionAdapter :=
    { m with toInstructionCpu := cycled, instructionCount := m.instructionCount + 1 }
  have hclock : ∀ line,
      m₁.timer line = { m.timer line with clock := (m.timer line).clock + 1 } := by
    intro line
    cases line <;> rfl
  have h₁ : m₁.Tied := by
    refine ⟨hkept.reachable, fun line => ?_⟩
    rw [hclock, ← hm.level line]
    cases line with
    | irq => exact hkept.irq
    | nmi => exact hkept.nmi
  have hirq := m₁.expireIrq_changes
  have hnmi := m₁.expireIrq.expireNmi_changes
  refine ⟨m₁.expireIrq.expireNmi, ?_, hnmi.tied (hirq.tied h₁), fun line => ?_⟩
  · rw [stepInstruction, hcycled]
    rfl
  · rw [Timer.step, ← hclock]
    cases line with
    | irq => exact ((hnmi.others .irq (by decide)).1).trans hirq.timer
    | nmi => exact hnmi.timer.trans (congrArg Timer.expire (hirq.others .nmi (by decide)).1)

end InstructionAdapter

/-! ### Runs -/

/-- What a call is to the timer of a line. -/
def AdapterCall.event (line : Line) : AdapterCall → Option TimerEvent
  | .assertFor other instructionCount =>
    if other = line then some (.load (loadedCount instructionCount)) else none
  | .stepInstruction => some .step

def Line.events (line : Line) (calls : List AdapterCall) : List TimerEvent :=
  calls.filterMap (AdapterCall.event line)

/-- The calls end with those after the most recent assert call of a line. -/
structure Line.Latest (line : Line) (calls before : List AdapterCall)
    (instructionCount : BitVec 32) (after : List AdapterCall) : Prop where
  split : calls = before ++ .assertFor line instructionCount :: after
  latest : ∀ n, .assertFor line n ∉ after

/-- The most recent assert call of the line had a positive count, and fewer instructions have been
completed since. -/
def Line.Due (line : Line) (calls : List AdapterCall) : Prop :=
  ∃ before instructionCount after, line.Latest calls before instructionCount after ∧
    0 < instructionCount.toInt ∧ (after.count .stepInstruction : ℤ) < instructionCount.toInt

/-- Where the most recent assert call of the line is still due after an instruction, its deadline
had not wrapped around. -/
def Line.OnTime (line : Line) (calls : List AdapterCall) : Prop :=
  ∀ before instructionCount after, line.Latest calls before instructionCount after →
    0 < after.count .stepInstruction →
    (after.count .stepInstruction : ℤ) < instructionCount.toInt →
      Fits 64 (before.count .stepInstruction) instructionCount.toInt.toNat

section latest

variable {line : Line} {calls before after : List AdapterCall} {instructionCount : BitVec 32}

theorem events_snoc (line : Line) (calls : List AdapterCall) (c : AdapterCall) :
    line.events (calls ++ [c]) = line.events calls ++ (c.event line).toList := by
  rw [Line.events, List.filterMap_append]
  cases h : c.event line <;> simp [h, Line.events]

theorem steps_events (line : Line) (calls : List AdapterCall) :
    steps (line.events calls) = calls.count .stepInstruction := by
  induction calls using List.reverseRecOn with
  | nil => rfl
  | append_singleton calls c ih =>
    rw [events_snoc, steps, List.count_append, List.count_append]
    rw [steps] at ih
    rw [ih]
    cases c with
    | stepInstruction => rfl
    | assertFor other n =>
      rw [AdapterCall.event]
      split <;> rfl

theorem Line.Latest.snoc (h : line.Latest calls before instructionCount after) {c : AdapterCall}
    (hc : ∀ n, c ≠ .assertFor line n) :
    line.Latest (calls ++ [c]) before instructionCount (after ++ [c]) := by
  refine ⟨by rw [h.split, List.append_assoc, List.cons_append], fun n hn => ?_⟩
  rcases List.mem_append.mp hn with hn | hn
  · exact h.latest n hn
  · exact hc n (List.mem_singleton.mp hn).symm

/-- The most recent assert call is the most recent load of the line's timer. -/
theorem latest_events (h : line.Latest calls before instructionCount after) :
    latest (line.events calls) =
      some (loadedCount instructionCount, after.count .stepInstruction) := by
  obtain ⟨rfl, hnone⟩ := h
  induction after using List.reverseRecOn with
  | nil =>
    rw [events_snoc, AdapterCall.event, if_pos rfl]
    exact latest_snoc _ _
  | append_singleton after c ih =>
    have hlatest := ih fun n hn => hnone n (List.mem_append_left _ hn)
    rw [← List.cons_append, ← List.append_assoc, events_snoc]
    cases c with
    | stepInstruction =>
      rw [AdapterCall.event, Option.toList_some, latest_snoc, hlatest, List.count_append]
      rfl
    | assertFor other n =>
      have hother : other ≠ line := by
        rintro rfl
        exact hnone n (List.mem_append_right _ (List.mem_singleton_self _))
      rw [AdapterCall.event, if_neg hother, Option.toList_none, List.append_nil, hlatest,
        List.count_append]
      rfl

theorem exists_latest {count since : ℕ} (h : latest (line.events calls) = some (count, since)) :
    ∃ before instructionCount after, line.Latest calls before instructionCount after := by
  induction calls using List.reverseRecOn generalizing since with
  | nil => cases h
  | append_singleton calls c ih =>
    by_cases hc : ∃ n, c = .assertFor line n
    · obtain ⟨n, rfl⟩ := hc
      exact ⟨calls, n, [], rfl, fun _ hn => nomatch hn⟩
    · have hnot : ∀ n, c ≠ .assertFor line n := fun n hn => hc ⟨n, hn⟩
      have hprevious : ∃ since', latest (line.events calls) = some (count, since') := by
        rw [events_snoc] at h
        cases c with
        | stepInstruction =>
          rw [AdapterCall.event, Option.toList_some, latest_snoc] at h
          obtain ⟨⟨n, k⟩, hlatest, heq⟩ := Option.map_eq_some_iff.mp h
          cases heq
          exact ⟨k, hlatest⟩
        | assertFor other n =>
          have hother : other ≠ line := fun hline => hnot n (by rw [hline])
          rw [AdapterCall.event, if_neg hother, Option.toList_none, List.append_nil] at h
          exact ⟨since, h⟩
      obtain ⟨since', hlatest⟩ := hprevious
      obtain ⟨before, n, after, h'⟩ := ih hlatest
      exact ⟨before, n, after ++ [c], h'.snoc hnot⟩

theorem Line.Latest.count (h : line.Latest calls before instructionCount after) :
    calls.count .stepInstruction - after.count .stepInstruction =
      before.count .stepInstruction := by
  have hne : AdapterCall.assertFor line instructionCount ≠ .stepInstruction := nofun
  have hcons : (.assertFor line instructionCount :: after).count .stepInstruction =
    after.count .stepInstruction := List.count_cons_of_ne hne
  rw [h.split, List.count_append, hcons, Nat.add_sub_cancel]

/-- The line's timer is to be armed while an assert call of the line is due. -/
theorem raised_iff : raised (line.events calls) = true ↔ line.Due calls := by
  constructor
  · intro h
    obtain ⟨⟨count, since⟩, hlatest, hlt⟩ := (Option.any_eq_true _ _).mp h
    obtain ⟨before, n, after, h'⟩ := exists_latest hlatest
    obtain ⟨rfl, rfl⟩ := Prod.mk.inj (Option.some.inj (hlatest.symm.trans (latest_events h')))
    have hcount := of_decide_eq_true hlt
    unfold loadedCount at hcount
    exact ⟨before, n, after, h', by omega, by omega⟩
  · rintro ⟨before, n, after, h', hpos, hlt⟩
    rw [raised, latest_events h']
    refine decide_eq_true ?_
    unfold loadedCount
    omega

theorem timely_iff : Timely 64 (line.events calls) ↔ line.OnTime calls := by
  constructor
  · intro h before n after h' hpos hlt
    have hfits := h _ _ (latest_events h') hpos (by unfold loadedCount; omega)
    rw [steps_events, h'.count] at hfits
    exact hfits
  · intro h count since hlatest hpos hlt
    obtain ⟨before, n, after, h'⟩ := exists_latest hlatest
    obtain ⟨rfl, rfl⟩ := Prod.mk.inj (Option.some.inj (hlatest.symm.trans (latest_events h')))
    rw [steps_events, h'.count]
    unfold loadedCount at hlt
    exact h before n after h' hpos (by omega)

theorem load_events {n : ℕ} (h : .load n ∈ line.events calls) : n < 2 ^ 31 := by
  obtain ⟨c, _, hc⟩ := List.mem_filterMap.mp h
  cases c with
  | stepInstruction => cases hc
  | assertFor other count =>
    rw [AdapterCall.event] at hc
    split at hc
    · cases hc
      exact loadedCount_lt count
    · cases hc

/-- In the first `2 ^ 64 - 2 ^ 31` instructions no deadline wraps around. -/
theorem onTime_of_few (hfew : calls.count .stepInstruction + 2 ^ 31 ≤ 2 ^ 64) :
    line.OnTime calls := by
  rw [← timely_iff]
  have hcounts : ∀ n, TimerEvent.load n ∈ line.events calls → n ≤ 2 ^ 31 :=
    fun n hn => (load_events hn).le
  refine timely_of_few hcounts ?_
  rw [steps_events]
  exact hfew

end latest

namespace InstructionAdapter

/-- **A run of the adapter** is a run of its timers. -/
theorem run_timer {m : InstructionAdapter} (hm : m.Tied)
    (hstart : ∀ line, m.timer line = Timer.start 64) (calls : List AdapterCall) :
    ∃ m', m.run calls = some m' ∧ m'.Tied ∧
      ∀ line, m'.timer line = Timer.run 64 (line.events calls) := by
  induction calls using List.reverseRecOn with
  | nil => exact ⟨m, rfl, hm, hstart⟩
  | append_singleton calls c ih =>
    obtain ⟨m₁, hrun, h₁, htimer⟩ := ih
    have hsnoc : ∀ m', m₁.call c = some m' → m.run (calls ++ [c]) = some m' := by
      intro m' hcall
      have hfinal : StepMachine.final call m calls = some m₁ := hrun
      rw [run, StepMachine.final_append, hfinal, Option.bind_some, StepMachine.final, hcall]
      rfl
    cases c with
    | stepInstruction =>
      obtain ⟨m', hstep, h', htimer'⟩ := stepInstruction_timer h₁
      refine ⟨m', hsnoc m' hstep, h', fun line => ?_⟩
      rw [htimer', htimer, events_snoc, AdapterCall.event, Option.toList_some, Timer.run_snoc]
      rfl
    | assertFor other n =>
      have hchanges := m₁.assertFor_changes other n
      refine ⟨_, hsnoc _ rfl, hchanges.tied h₁, fun line => ?_⟩
      rw [events_snoc, AdapterCall.event]
      by_cases hother : other = line
      · subst hother
        rw [if_pos rfl, Option.toList_some, Timer.run_snoc, hchanges.timer, htimer]
        rfl
      · rw [if_neg hother, Option.toList_none, List.append_nil,
          (hchanges.others line (Ne.symm hother)).1, htimer]

/-- A reset starts both timers. -/
theorem reset_tied (m : InstructionAdapter) (hm : m.cpu.model.toNat < supportedModelsCount) :
    ∃ m', m.reset = some m' ∧ m'.Tied ∧ ∀ line, m'.timer line = Timer.start 64 := by
  have hmodel : (nmiAssert (irqAssert m.cpu 0) 0).model = m.cpu.model := by
    rw [nmiAssert_eq, irqAssert_eq]
  have hreachable : m.restarted.session.Reachable :=
    .init ⟨nmiAssert (irqAssert m.cpu 0) 0, by rw [hmodel]; exact hm, rfl⟩
  obtain ⟨steps, after, hloop, hcycled⟩ :=
    InstructionCpu.fetchLoop_cycled hreachable (startAddress m.memory) maxResetCycles 0
  refine ⟨{ m.restarted with toInstructionCpu := after }, ?_, ⟨hcycled.reachable, ?_⟩, ?_⟩
  · rw [reset]
    dsimp only
    rw [hloop]
    rfl
  · intro line
    have hzero : m.restarted.cpu.interrupts = 0 := rfl
    cases line with
    | irq =>
      refine hcycled.irq.trans ?_
      rw [isIrqAsserted, hzero]
      rfl
    | nmi =>
      refine hcycled.nmi.trans ?_
      rw [isNmiAsserted, hzero]
      rfl
  · intro line
    cases line <;> rfl

/-- Once the timers run from their start, a line is right exactly while its deadline is. -/
theorem level_iff {m : InstructionAdapter} (hm : m.Tied) {line : Line} {calls : List AdapterCall}
    (htimer : m.timer line = Timer.run 64 (line.events calls)) :
    (m.asserted line = true ↔ line.Due calls) ↔ line.OnTime calls := by
  rw [← timely_iff, ← raised_iff, ← Bool.eq_iff_iff, hm.level, htimer]
  exact Timer.armed_iff fun n hn => (load_events hn).trans (by decide)

end InstructionAdapter

/-- **Line scheduling.** -/
theorem line_scheduling (m₀ : InstructionAdapter)
    (hm : m₀.cpu.model.toNat < supportedModelsCount) : ∃ m, m₀.reset = some m ∧
      ∀ calls, ∃ m', m.run calls = some m' ∧ ∀ line,
        ((m'.asserted line = true ↔ line.Due calls) ↔ line.OnTime calls) ∧
        (calls.count .stepInstruction + 2 ^ 31 ≤ 2 ^ 64 → line.OnTime calls) ∧
        (∀ n other, other ≠ line → (m'.assertFor line n).timer other = m'.timer other ∧
          (m'.assertFor line n).asserted other = m'.asserted other) ∧
        ∀ n' n, ((m'.assertFor line n').assertFor line n).timer line =
            (m'.assertFor line n).timer line ∧
          ((m'.assertFor line n').assertFor line n).asserted line =
            (m'.assertFor line n).asserted line := by
  obtain ⟨m, hreset, htied, hstart⟩ := m₀.reset_tied hm
  refine ⟨m, hreset, fun calls => ?_⟩
  obtain ⟨m', hrun, htied', htimer⟩ := InstructionAdapter.run_timer htied hstart calls
  refine ⟨m', hrun, fun line => ⟨InstructionAdapter.level_iff htied' (htimer line), onTime_of_few,
    fun n other hother => (m'.assertFor_changes line n).others other hother, fun n' n => ?_⟩⟩
  have hfirst := m'.assertFor_changes line n'
  have hsecond := (m'.assertFor line n').assertFor_changes line n
  have honly := m'.assertFor_changes line n
  have htimers : ((m'.assertFor line n').assertFor line n).timer line =
      (m'.assertFor line n).timer line := by
    rw [hsecond.timer, hfirst.timer, honly.timer, Timer.load_load]
  refine ⟨htimers, ?_⟩
  rw [(hsecond.tied (hfirst.tied htied')).level, (honly.tied htied').level, htimers]

theorem line_scheduling_irq : ∃ m m', (blankAdapter fun _ => 0).reset = some m ∧
    m.run [.assertFor .irq 2, .stepInstruction] = some m' ∧ m'.asserted .irq = true ∧
      m'.asserted .nmi = false := by
  obtain ⟨m, hreset, hruns⟩ := line_scheduling (blankAdapter fun _ => 0) (by decide)
  obtain ⟨m', hrun, hlines⟩ := hruns [.assertFor .irq 2, .stepInstruction]
  obtain ⟨hirq, hfewIrq, _⟩ := hlines .irq
  obtain ⟨hnmi, hfewNmi, _⟩ := hlines .nmi
  refine ⟨m, m', hreset, hrun, ?_, ?_⟩
  · refine (hirq.mpr (hfewIrq (by decide))).mpr
      ⟨[], 2, [.stepInstruction], ⟨rfl, fun n => ?_⟩, by decide, by decide⟩
    simp
  · rw [← Bool.not_eq_true, hnmi.mpr (hfewNmi (by decide))]
    rintro ⟨before, n, after, ⟨hsplit, _⟩, _⟩
    have hmem : AdapterCall.assertFor .nmi n ∈ [.assertFor .irq 2, .stepInstruction] := by
      rw [hsplit]
      exact List.mem_append_right _ List.mem_cons_self
    simp at hmem

/-- An IRQ for two instructions, two before the instruction counter wraps around, is off after
the first. -/
theorem deadline_wraps : ∃ m m', (blankAdapter fun _ => 0).reset = some m ∧
    m.run (List.replicate (2 ^ 64 - 2) .stepInstruction ++
      [.assertFor .irq 2, .stepInstruction]) = some m' ∧
    Line.irq.Due (List.replicate (2 ^ 64 - 2) .stepInstruction ++
      [.assertFor .irq 2, .stepInstruction]) ∧ m'.asserted .irq = false := by
  obtain ⟨m, hreset, htied, hstart⟩ := (blankAdapter fun _ => 0).reset_tied (by decide)
  generalize hN : 2 ^ 64 - 2 = N
  have hlatest : Line.irq.Latest
      (List.replicate N .stepInstruction ++ [.assertFor .irq 2, .stepInstruction])
      (List.replicate N .stepInstruction) 2 [.stepInstruction] := ⟨rfl, fun n => by simp⟩
  have hdue : Line.irq.Due
      (List.replicate N .stepInstruction ++ [.assertFor .irq 2, .stepInstruction]) :=
    ⟨_, _, _, hlatest, by decide, by decide⟩
  obtain ⟨m', hrun, htied', htimer⟩ := InstructionAdapter.run_timer htied hstart
    (List.replicate N .stepInstruction ++ [.assertFor .irq 2, .stepInstruction])
  refine ⟨m, m', hreset, hrun, hdue, ?_⟩
  rw [← Bool.not_eq_true]
  intro hasserted
  have hfits := (InstructionAdapter.level_iff htied' (htimer .irq)).mp
    (iff_of_true hasserted hdue) _ _ _ hlatest (by decide) (by decide)
  rw [List.count_replicate_self, ← hN] at hfits
  exact absurd hfits (by unfold Fits; decide)

end Qe6502
