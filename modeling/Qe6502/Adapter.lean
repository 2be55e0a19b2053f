import Qe6502.Precise
import Qe6502.Progress
import Qe6502.Schedule

/-!
# The instruction adapter

`step_instruction` of `Qe6502InstructionCpu` is one step of the interpreter or one entry, whatever
its host has done to the lines and to the memory before: `adapter_steps`.
-/

namespace Qe6502

open StepMachine (final first)

/-! ### The memory of the adapter -/

namespace InstructionAdapter

/-- `clear_memory`. -/
def clearMemory (m : InstructionAdapter) (fill : Byte) : InstructionAdapter :=
  { m with memory := fun _ => fill }

/-- `write`. -/
def write (m : InstructionAdapter) (address : Word) (value : Byte) : InstructionAdapter :=
  { m with memory := poke m.memory address value }

/-- `load`. -/
def load (m : InstructionAdapter) (program : List (Word × Byte)) : InstructionAdapter :=
  program.foldl (fun m cell => m.write cell.1 cell.2) m

/-- `visible_pc`. -/
def visiblePc (m : InstructionAdapter) : Word :=
  if m.tick.status &&& statusOpcodeFetch ≠ 0 then m.tick.address else m.cpu.pc

/-- `state`. -/
def state (m : InstructionAdapter) : Registers := { m.cpu.registers with pc := m.visiblePc }

/-- What `state` and `read` show. -/
def shown (m : InstructionAdapter) : Isa.State := (m.state, m.memory)

end InstructionAdapter

/-- A call of the adapter's host. -/
inductive HostCall
  | adapter (call : AdapterCall)
  | clearMemory (fill : Byte)
  | load (program : List (Word × Byte))
  | write (address : Word) (value : Byte)
deriving DecidableEq

def InstructionAdapter.host (m : InstructionAdapter) : HostCall → Option InstructionAdapter
  | .adapter call => m.call call
  | .clearMemory fill => some (m.clearMemory fill)
  | .load program => some (m.load program)
  | .write address value => some (m.write address value)

/-! ### Cycles of a waiting session -/

/-- A reported jam comes from the handler that jams. -/
theorem Session.waits_jammed {s s' : Session} (hs : s.Dispatching ∨ s.Inside)
    {c : List PinCall × Byte} (h : s.cycle c = some s')
    (hjam : s'.2.status &&& statusCpuJammed ≠ 0) :
    Jammed s'.1 ∧ s'.2 = jamTick := by
  obtain ⟨slot, cycle, hd, cpu₀, _, hx⟩ := executes_of_waits hs c
  obtain rfl := Option.some.inj ((tick_of_executes hx).symm.trans h)
  obtain ⟨e, hmem, he⟩ := exit_of_run hd cpu₀.forget c.2
  rw [execute_tick, he.status] at hjam
  obtain ⟨hjammed, htick, _⟩ := Jammed.execute hx (jam_handler hmem hjam)
  exact ⟨hjammed, htick⟩

/-- The next boundary is within eight ticks. -/
theorem Session.waits_boundary {s : Session} (hs : s.Dispatching ∨ s.Inside) :
    s.BoundaryWithin 8 := by
  rcases hs with ⟨hm, slot, cycle, hat, hentry⟩ | ⟨hm, slot, cycle, h, hslot, hat, hentry⟩
  · exact boundaryWithin_of_dispatch ⟨hm, slot, cycle, hat, by rw [hentry]; rfl⟩ hat hentry
  · rcases boundaryIn_of_entry hentry with ⟨rfl, _⟩ | ⟨entries, hget, hcheck⟩
    · cases hslot
    · exact boundaryWithin_of_table entries hget hat hcheck

namespace InstructionCpu

variable {m m' m₁ : InstructionCpu} {n : ℕ}

/-- The loop of `step_until_opcode_fetch` runs up to a boundary. -/
theorem stepUntil_iterate {cycles : ℕ} : ∀ {m : InstructionCpu}, m.stepUntil cycles = some m' →
    ∃ n, Simulation.iterate stepCycle n m = some m' ∧
      ∀ k < n, ∀ m'', Simulation.iterate stepCycle k m = some m'' → m''.tick.boundary = false := by
  induction cycles with
  | zero => exact fun h => ⟨0, h, fun k hk => absurd hk (by omega)⟩
  | succ cycles ih =>
    intro m h
    cases hboundary : m.tick.boundary with
    | true =>
      rw [stepUntil_of_boundary hboundary] at h
      exact ⟨0, h, fun k hk => absurd hk (by omega)⟩
    | false =>
      have hplain := hboundary
      simp only [Tick.boundary, Tick.fetching, Bool.or_eq_false_iff, decide_eq_false_iff_not]
        at hplain
      rw [stepUntil, if_neg hplain.1, if_neg hplain.2] at h
      obtain ⟨m₁, h₁, h⟩ := Option.bind_eq_some_iff.mp h
      obtain ⟨n, hrun, hearlier⟩ := ih h
      refine ⟨n + 1, ?_, fun k hk m'' hm'' => ?_⟩
      · rw [Simulation.iterate_succ_of_some h₁]
        exact hrun
      · cases k with
        | zero =>
          obtain rfl := Option.some.inj hm''
          exact hboundary
        | succ k =>
          rw [Simulation.iterate_succ_of_some h₁] at hm''
          exact hearlier k (by omega) m'' hm''

/-- The machine comes to the next boundary after `n` cycles. -/
structure Bounds (m : InstructionCpu) (n : ℕ) (m' : InstructionCpu) : Prop where
  later : 0 < n
  run : Simulation.iterate stepCycle n m = some m'
  boundary : m'.tick.boundary = true
  earlier : ∀ k < n, 0 < k → ∀ m'', Simulation.iterate stepCycle k m = some m'' →
    m''.tick.boundary = false

/-- **The cycles of `step_instruction`** from an opcode fetch. -/
theorem stepCycles_bounds (hf : m.session.Fetching) :
    ∃ n m', InstructionAdapter.stepCycles m = some m' ∧ m.Bounds n m' := by
  obtain ⟨s', hs', hnext⟩ := Session.waits_boundary hf.waits [] (m.memory m.tick.address)
  obtain ⟨m₁, hm₁, rfl⟩ : ∃ m₁, m.stepCycle = some m₁ ∧ m₁.session = s' := by
    have htick : Qe6502.tick m.cpu (m.memory m.tick.address) = some s' := hs'
    exact ⟨_, by rw [stepCycle, htick]; rfl, rfl⟩
  obtain ⟨m', hm', hboundary⟩ : ∃ m', m₁.stepUntilOpcodeFetch = some m' ∧
      m'.tick.boundary = true := by
    rcases hnext with hboundary | hwithin
    · exact ⟨m₁, stepUntil_of_boundary hboundary 32, hboundary⟩
    · obtain ⟨m', hm', _, hboundary⟩ :=
        @stepUntil_of_boundaryWithin 7 m₁ hwithin 32 (by omega)
      exact ⟨m', hm', hboundary⟩
  obtain ⟨n, hrun, hearlier⟩ := stepUntil_iterate hm'
  have htick : m.tick = fetchAt m.cpu.pc := hf.tick
  have hfetching : ¬m.tick.status &&& statusOpcodeFetch = 0 := by
    rw [htick]
    exact (by decide : ¬statusOpcodeFetch &&& statusOpcodeFetch = 0)
  refine ⟨n + 1, m', ?_, Nat.succ_pos n, ?_, hboundary, fun k hk hpos m'' hm'' => ?_⟩
  · rw [InstructionAdapter.stepCycles, if_neg hfetching, Option.bind_some, hm₁]
    exact hm'
  · rw [Simulation.iterate_succ_of_some hm₁]
    exact hrun
  · obtain ⟨j, rfl⟩ := Nat.exists_eq_succ_of_ne_zero hpos.ne'
    rw [Simulation.iterate_succ_of_some hm₁] at hm''
    exact hearlier j (by omega) m'' hm''

theorem iterate_stepCycle (n : ℕ) (m : InstructionCpu) : Simulation.iterate stepCycle n m =
    hostRun adapterAnswer (first (fun _ => []) n) m := by
  have hcycle : stepCycle = hostCycle adapterAnswer := funext stepCycle_eq_hostCycle
  rw [first_still, hostRun_iterate, ← hcycle]

/-- A jam that a run of opcodes and entries reports. -/
theorem waits_run {answer : Tick → (Word → Byte) → Byte} {schedule : List (List PinCall)} :
    ∀ {m m' : InstructionCpu}, m.session.Dispatching ∨ m.session.Inside → schedule ≠ [] →
      InstructionCpu.hostRun answer schedule m = some m' →
        m'.tick.status &&& statusCpuJammed ≠ 0 → Jammed m'.cpu ∧ m'.tick = jamTick := by
  induction schedule with
  | nil => exact fun _ hne => absurd rfl hne
  | cons calls schedule ih =>
    intro m m' hm _ hrun hjam
    obtain ⟨m₁, hm₁, hcycle⟩ := @hostStep_cycle answer m hm calls
    have hrun : (m.hostStep answer calls).bind (InstructionCpu.hostRun answer schedule) =
      some m' := hrun
    rw [hm₁, Option.bind_some] at hrun
    by_cases hlast : schedule = []
    · subst hlast
      obtain rfl := Option.some.inj hrun
      exact Session.waits_jammed hm hcycle hjam
    · exact ih (Session.waits_cycle hm hcycle).1 hlast hrun hjam

/-- **The next boundary after a fetch** is a fetch, or the jam of a KIL. -/
theorem Bounds.next (hf : m.session.Fetching) (h : m.Bounds n m') :
    m'.session.Fetching ∧ m'.cpu.model = m.cpu.model ∧ Isa.Next m.cpu.model.toNat m.isa m'.isa ∨
      Jammed m'.cpu ∧ m'.tick = jamTick ∧ Isa.step m.cpu.model.toNat m.isa = none ∧
        m'.isa = ({ m.cpu.registers with pc := m.cpu.pc + 1 }, m.memory) := by
  have hrun := h.run
  rw [iterate_stepCycle] at hrun
  have hne : first (fun _ => ([] : List PinCall)) n ≠ [] :=
    List.ne_nil_of_length_pos (by simpa [first] using h.later)
  have hjammed : m'.tick.fetching = false → Jammed m'.cpu ∧ m'.tick = jamTick := by
    intro hfetching
    have hboundary := h.boundary
    rw [Tick.boundary, hfetching, Bool.false_or, decide_eq_true_eq] at hboundary
    exact waits_run hf.waits hne hrun hboundary
  rcases @fetches_next adapterAnswer m hf fun _ => [] with
    ⟨k, m₁, hfetches, hf₁, hmodel, hnext⟩ | ⟨hd, hslot, hnone⟩
  · rcases lt_trichotomy k n with hlt | rfl | hlt
    · have hnot := h.earlier k hlt hfetches.later m₁ (by rw [iterate_stepCycle]; exact hfetches.run)
      rw [Tick.boundary_of_fetching hfetches.fetching] at hnot
      cases hnot
    · obtain rfl := Option.some.inj (hfetches.run.symm.trans hrun)
      exact .inl ⟨hf₁, hmodel, hnext⟩
    · obtain ⟨hj, htick⟩ := hjammed (hfetches.earlier n hlt h.later m' hrun)
      obtain ⟨m'', hrun'', hjam, _⟩ := @jammed_run adapterAnswer m'
        (List.replicate (k - n) []) hj (by rw [htick]; decide)
      have hall := hfetches.run
      rw [← Nat.add_sub_cancel' hlt.le, first_still, List.replicate_add, hostRun_append,
        ← first_still, hrun, Option.bind_some, hrun''] at hall
      obtain rfl := Option.some.inj hall
      have hfetching := hfetches.fetching
      rw [hjam (List.ne_nil_of_length_pos (by rw [List.length_replicate]; omega))] at hfetching
      cases hfetching
  · obtain ⟨m'', hrun'', hfetching, hmemory, hlow, hhigh⟩ :=
      @kil_run adapterAnswer m (fun _ => []) n hd hf.tick hslot h.later
    obtain rfl := Option.some.inj (hrun''.symm.trans hrun)
    obtain ⟨hj, htick⟩ := hjammed hfetching
    refine .inr ⟨hj, htick, hnone, Prod.ext (hhigh ?_).2 hmemory⟩
    by_contra hle
    have hstatus := hlow (by omega)
    rw [htick] at hstatus
    cases hstatus

end InstructionCpu

/-! ### Calls of the host -/

theorem Session.Fetching.pins {s : Session} (h : s.Fetching) (calls : List PinCall) :
    (s.pins calls).Fetching := by
  obtain ⟨interrupts, hijack, hpins⟩ := pins_eq calls s.1
  rw [Session.pins, hpins]
  exact ⟨h.supported, h.place, h.tick⟩

namespace InstructionAdapter

variable {m m' m'' : InstructionAdapter}

/-- The adapter of a model is at an opcode fetch, or it has jammed. -/
def Steady (model : ℕ) (m : InstructionAdapter) : Prop :=
  m.session.Fetching ∧ m.cpu.model.toNat = model ∨ Jammed m.cpu ∧ m.tick = jamTick

theorem Steady.shown {model : ℕ} (h : m.Steady model) : m.shown = m.isa := by
  have hpc : m.visiblePc = m.cpu.pc := by
    rcases h with ⟨hf, _⟩ | ⟨_, htick⟩
    · have htick : m.tick = fetchAt m.cpu.pc := hf.tick
      rw [visiblePc, htick]
      exact if_pos (by decide : ¬statusOpcodeFetch &&& statusOpcodeFetch = 0)
    · rw [visiblePc, htick]
      exact if_neg (by decide)
  rw [InstructionAdapter.shown, state, hpc]
  rfl

/-- Only the pins and the schedule have changed. -/
structure Pinned (m m' : InstructionAdapter) : Prop where
  cpu : ∃ calls : List PinCall, m'.cpu = calls.foldl PinCall.apply m.cpu
  tick : m'.tick = m.tick
  memory : m'.memory = m.memory
  count : m'.instructionCount = m.instructionCount

theorem Pinned.refl (m : InstructionAdapter) : m.Pinned m := ⟨⟨[], rfl⟩, rfl, rfl, rfl⟩

theorem Pinned.trans (h : m.Pinned m') (h' : m'.Pinned m'') : m.Pinned m'' := by
  obtain ⟨calls, hcpu⟩ := h.cpu
  obtain ⟨calls', hcpu'⟩ := h'.cpu
  refine ⟨⟨calls ++ calls', ?_⟩, h'.tick.trans h.tick, h'.memory.trans h.memory,
    h'.count.trans h.count⟩
  rw [List.foldl_append, ← hcpu, hcpu']

theorem Pinned.fetching (h : m.Pinned m') (hf : m.session.Fetching) : m'.session.Fetching := by
  obtain ⟨calls, hcpu⟩ := h.cpu
  have hsession : m'.session = m.session.pins calls := Prod.ext hcpu h.tick
  rw [hsession]
  exact hf.pins calls

theorem Pinned.jammed (h : m.Pinned m') (hj : Jammed m.cpu) : Jammed m'.cpu := by
  obtain ⟨calls, hcpu⟩ := h.cpu
  rw [hcpu]
  exact (hj.pins calls).1

theorem Pinned.frame (h : m.Pinned m') : m'.isa = m.isa ∧ m'.cpu.model = m.cpu.model := by
  obtain ⟨calls, hcpu⟩ := h.cpu
  obtain ⟨interrupts, hijack, hpins⟩ := pins_eq calls m.cpu
  rw [hpins] at hcpu
  have hregisters := congrArg Cpu.registers hcpu
  have hmodel := congrArg Cpu.model hcpu
  exact ⟨Prod.ext hregisters h.memory, hmodel⟩

theorem Pinned.steady {model : ℕ} (h : m.Pinned m') (hm : m.Steady model) : m'.Steady model := by
  rcases hm with ⟨hf, hmodel⟩ | ⟨hj, htick⟩
  · exact .inl ⟨h.fetching hf, h.frame.2 ▸ hmodel⟩
  · exact .inr ⟨h.jammed hj, h.tick.trans htick⟩

theorem assertFor_pinned (line : Line) (instructionCount : BitVec 32) :
    m.Pinned (m.assertFor line instructionCount) := by
  cases line with
  | irq =>
    rw [assertFor, assertIrqFor]
    split
    · exact ⟨⟨[.irq 0], rfl⟩, rfl, rfl, rfl⟩
    · exact ⟨⟨[.irq 1], rfl⟩, rfl, rfl, rfl⟩
  | nmi =>
    rw [assertFor, assertNmiFor]
    split
    · exact ⟨⟨[.nmi 0], rfl⟩, rfl, rfl, rfl⟩
    · exact ⟨⟨[.nmi 1], rfl⟩, rfl, rfl, rfl⟩

theorem applyScheduled_pinned : m.Pinned m.applyScheduledInterruptDeasserts := by
  have hirq : ∀ m : InstructionAdapter, m.Pinned m.expireIrq := by
    intro m
    unfold expireIrq
    split
    · exact ⟨⟨[.irq 0], rfl⟩, rfl, rfl, rfl⟩
    · exact .refl m
  have hnmi : ∀ m : InstructionAdapter, m.Pinned m.expireNmi := by
    intro m
    unfold expireNmi
    split
    · exact ⟨⟨[.nmi 0], rfl⟩, rfl, rfl, rfl⟩
    · exact .refl m
  exact (hirq m).trans (hnmi _)

/-- **What an instruction of the adapter does.** -/
inductive Stepped (model : ℕ) (m m' : InstructionAdapter) : Prop
  | next : m.tick.fetching = true → m'.tick.fetching = true → Isa.Next model m.shown m'.shown →
      Stepped model m m'
  | jams : m.tick.fetching = true → m'.tick = jamTick → Isa.step model m.shown = none →
      m'.shown = ({ m.state with pc := m.state.pc + 1 }, m.memory) → Stepped model m m'
  | jammed : m.tick = jamTick → m'.tick = jamTick → m'.shown = m.shown → Stepped model m m'

/-- A jammed adapter only counts. -/
theorem stepCycles_jammed (hj : Jammed m.cpu) (htick : m.tick = jamTick) :
    ∃ cycled, stepCycles m.toInstructionCpu = some cycled ∧ Jammed cycled.cpu ∧
      cycled.tick = jamTick ∧ cycled.isa = m.isa := by
  have hboundary : ∀ cycled : InstructionCpu, cycled.tick = jamTick →
      cycled.stepUntilOpcodeFetch = some cycled := by
    intro cycled hcycled
    refine InstructionCpu.stepUntil_of_boundary ?_ 32
    rw [hcycled]
    decide
  obtain ⟨cycled, hrun, hjam, hj', hmemory, hregisters⟩ :=
    @InstructionCpu.jammed_run InstructionCpu.adapterAnswer m.toInstructionCpu [[]] hj
      (by rw [htick]; decide)
  have hcycle : m.toInstructionCpu.stepCycle = some cycled := by
    obtain ⟨m₁, hm₁, hlast⟩ := Option.bind_eq_some_iff.mp hrun
    obtain rfl := Option.some.inj hlast
    rw [InstructionCpu.stepCycle_eq_hostCycle]
    exact hm₁
  have hjam := hjam (List.cons_ne_nil _ _)
  refine ⟨cycled, ?_, hj', hjam, Prod.ext hregisters hmemory⟩
  rw [stepCycles, htick, if_pos (by decide), hboundary _ htick, Option.bind_some, hcycle,
    Option.bind_some, hboundary _ hjam]

/-- **`step_instruction`.** -/
theorem Steady.stepInstruction {model : ℕ} (hm : m.Steady model) :
    ∃ m', m.stepInstruction = some m' ∧ m'.Steady model ∧
      m'.instructionCount = m.instructionCount + 1 ∧ Stepped model m m' := by
  have hafter : ∀ cycled, stepCycles m.toInstructionCpu = some cycled →
      ∃ m', m.stepInstruction = some m' ∧ m'.instructionCount = m.instructionCount + 1 ∧
        Pinned { m with toInstructionCpu := cycled, instructionCount := m.instructionCount + 1 }
          m' := by
    intro cycled hcycled
    refine ⟨_, ?_, ?_, applyScheduled_pinned⟩
    · rw [InstructionAdapter.stepInstruction, hcycled]
      rfl
    · exact applyScheduled_pinned.count
  rcases hm with ⟨hf, rfl⟩ | ⟨hj, htick⟩
  · obtain ⟨n, cycled, hcycled, hbounds⟩ := InstructionCpu.stepCycles_bounds hf
    obtain ⟨m', hm', hcount, hpinned⟩ := hafter cycled hcycled
    have hm : m.Steady m.cpu.model.toNat := .inl ⟨hf, rfl⟩
    have hfetching : m.tick.fetching = true := by
      have htick : m.tick = fetchAt m.cpu.pc := hf.tick
      rw [htick]
      exact fetchAt_fetching _
    rcases hbounds.next hf with ⟨hf', hmodel, hnext⟩ | ⟨hj, htick, hnone, hisa⟩
    · have hsteady : m'.Steady m.cpu.model.toNat :=
        hpinned.steady (.inl ⟨hf', congrArg BitVec.toNat hmodel⟩)
      have htick : m'.tick = fetchAt cycled.cpu.pc := hpinned.tick.trans hf'.tick
      refine ⟨m', hm', hsteady, hcount, .next hfetching ?_ ?_⟩
      · rw [htick]
        exact fetchAt_fetching _
      · rw [hm.shown, hsteady.shown, hpinned.frame.1]
        exact hnext
    · have hsteady : m'.Steady m.cpu.model.toNat := hpinned.steady (.inr ⟨hj, htick⟩)
      refine ⟨m', hm', hsteady, hcount, .jams hfetching (hpinned.tick.trans htick) ?_ ?_⟩
      · rw [hm.shown]
        exact hnone
      · have hstate : m.state = m.cpu.registers := congrArg Prod.fst hm.shown
        rw [hsteady.shown, hpinned.frame.1, hstate]
        exact hisa
  · obtain ⟨cycled, hcycled, hj', htick', hisa⟩ := stepCycles_jammed hj htick
    obtain ⟨m', hm', hcount, hpinned⟩ := hafter cycled hcycled
    have hsteady : m'.Steady model := hpinned.steady (.inr ⟨hj', htick'⟩)
    refine ⟨m', hm', hsteady, hcount, .jammed htick (hpinned.tick.trans htick') ?_⟩
    have hm : m.Steady model := .inr ⟨hj, htick⟩
    exact hsteady.shown.trans (hpinned.frame.1.trans (hisa.trans hm.shown.symm))

/-- A memory call leaves the CPU alone. -/
theorem Steady.host {model : ℕ} (hm : m.Steady model) (call : HostCall) :
    ∃ m', m.host call = some m' ∧ m'.Steady model := by
  cases call with
  | adapter call =>
    cases call with
    | assertFor line instructionCount =>
      exact ⟨_, rfl, (assertFor_pinned line instructionCount).steady hm⟩
    | stepInstruction =>
      obtain ⟨m', hm', hsteady, _⟩ := hm.stepInstruction
      exact ⟨m', hm', hsteady⟩
  | clearMemory fill => exact ⟨_, rfl, hm⟩
  | load program =>
    refine ⟨_, rfl, ?_⟩
    induction program generalizing m with
    | nil => exact hm
    | cons cell program ih =>
      have hwrite : (m.write cell.1 cell.2).Steady model := hm
      exact ih hwrite
  | write address value => exact ⟨_, rfl, hm⟩

end InstructionAdapter

/-- **The adapter steps the interpreter.**  From an opcode fetch on, any sequence of calls of
`assert_irq_for`, `assert_nmi_for`, `step_instruction`, `clear_memory`, `load` and `write` runs, and
every `step_instruction` in it counts one and takes what `state` and `read` show by one instruction
of the interpreter or by one entry; at a KIL it jams, and then nothing that they show changes. -/
theorem adapter_steps {m : InstructionAdapter} (hf : m.session.Fetching) (calls : List HostCall) :
    ∃ m₁ m₂, final InstructionAdapter.host m calls = some m₁ ∧ m₁.stepInstruction = some m₂ ∧
      m₂.instructionCount = m₁.instructionCount + 1 ∧
        InstructionAdapter.Stepped m.cpu.model.toNat m₁ m₂ := by
  obtain ⟨m₁, hm₁, hsteady⟩ : ∃ m₁, final InstructionAdapter.host m calls = some m₁ ∧
      m₁.Steady m.cpu.model.toNat :=
    StepMachine.final_isSome (fun _ call hm => hm.host call) calls (.inl ⟨hf, rfl⟩)
  obtain ⟨m₂, hm₂, _, hcount, hstepped⟩ := hsteady.stepInstruction
  exact ⟨m₁, m₂, hm₁, hm₂, hcount, hstepped⟩

/-- An IRQ behind a no-operation: the fetch at 0x0201 is discarded. -/
theorem adapter_steps_irq : ∃ m m₁ m₂ : InstructionAdapter,
    final InstructionAdapter.host m [.load [(0xFFFE, 0x34), (0xFFFF, 0x12)],
      .adapter (.assertFor .irq 9), .adapter .stepInstruction] = some m₁ ∧
        m₁.visiblePc = 0x0201 ∧ m₁.stepInstruction = some m₂ ∧ m₂.visiblePc = 0x1234 ∧
          InstructionAdapter.Stepped 0 m₁ m₂ := by
  let m : InstructionAdapter := { blankAdapter fun _ => 0xEA with
    cpu := (Session.after 0 [.goto 0x0200]).1, tick := (Session.after 0 [.goto 0x0200]).2 }
  let calls : List HostCall := [.load [(0xFFFE, 0x34), (0xFFFF, 0x12)],
    .adapter (.assertFor .irq 9), .adapter .stepInstruction]
  have hf : m.session.Fetching :=
    ⟨by decide, .inl ⟨by decide, 261, 1, by decide, by decide⟩, by decide⟩
  obtain ⟨m₁, m₂, hm₁, hm₂, _, hstepped⟩ := adapter_steps hf calls
  have hpcs : (final InstructionAdapter.host m calls).map InstructionAdapter.visiblePc =
      some 0x0201 ∧ ((final InstructionAdapter.host m calls).bind
        InstructionAdapter.stepInstruction).map InstructionAdapter.visiblePc = some 0x1234 := by
    decide +kernel
  rw [hm₁, Option.bind_some, hm₂] at hpcs
  exact ⟨m, m₁, m₂, hm₁, Option.some.inj hpcs.1, hm₂, Option.some.inj hpcs.2, hstepped⟩

end Qe6502
