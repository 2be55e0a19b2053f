import Qe6502.Metadata

/-!
# The single-step harness

The harness runs one instruction of a fresh CPU from the state of a recorded case and compares
what it did with the record: `singlestep_verdicts`.
-/

namespace Qe6502

/-! ### A jump -/

theorem goto_entries : (∀ e ∈ Handler.exits .mcFetch, e.move.target 261 0 = (261, 1)) ∧
    ∀ model < 5, entryAt model 261 1 = some .mcDispatch := by
  decide

namespace InstructionCpu

/-- **After `qe6502_goto`** a CPU with no interrupt pending is ready at the address. -/
theorem goto_stands {cpu : Cpu} (hm : cpu.model.toNat < 5) (hidle : cpu.lines.idle = true)
    (address : Word) (memory : Word → Byte) : ∃ r, goto cpu address = some r ∧
      (⟨r.1, r.2, memory⟩ : InstructionCpu).Stands cpu.model { cpu.registers with pc := address }
        memory := by
  have hx := redirected_executes hm address
  obtain ⟨hidle', hnone⟩ := @unitTick_of_idle (redirected cpu address) hidle .mcFetch 0
  have hfetching : (execute .mcFetch (redirected cpu address) 0).2.fetching = true := by
    rw [execute_tick, Tick.fetching, Handler.run, mcFetch, fetch_status]
    rfl
  have hmodel : (execute .mcFetch (redirected cpu address) 0).1.model = cpu.model := execute_model
  obtain ⟨e, _, _, hleads⟩ := @execute_place _ _ 0 _ _ _ hx
  obtain ⟨rfl, rfl⟩ := hleads.of_none hnone
  have hplace := hleads.place
  rw [goto_entries.1 e hleads.mem] at hplace
  have hentry := goto_entries.2 _ hm
  refine ⟨_, goto_eq hm address, ⟨⟨⟨?_, 261, 1, hplace, ?_⟩, hidle', ?_⟩, hmodel, ?_, rfl⟩⟩
  · exact hmodel ▸ hm
  · exact hmodel ▸ hentry
  · exact execute_fetching hfetching
  · obtain ⟨_, _, _, hframe⟩ := execute_frame .mcFetch (redirected cpu address) 0
    show Cpu.registers (execute .mcFetch (redirected cpu address) 0).1 = _
    rw [hframe]
    rfl

end InstructionCpu

/-! ### A bound on the ticks -/

theorem Instruction.cycles_le (model : Nat) (i : Instruction) : i.cycles model ≤ 8 := by
  obtain ⟨m, mode⟩ := i
  have hread : mode.readCycles ≤ 8 := by cases mode <;> decide
  have hwrite : mode.writeCycles ≤ 8 := by cases mode <;> decide
  have hmodify : ∀ short : Bool, (if short then 6 else mode.modifyCycles) ≤ 8 := by
    cases mode <;> decide
  cases m <;> first
    | exact Nat.le_of_ble_eq_true rfl
    | exact hread
    | exact hwrite
    | exact hmodify _

theorem turnTicks_le (taken : Bool) (next target : Word) : turnTicks taken next target ≤ 4 := by
  unfold turnTicks
  split_ifs <;> omega

theorem Isa.ticks_le (model : Nat) (s : Isa.State) : Isa.ticks model s ≤ 10 := by
  rw [Isa.ticks]
  cases instructionAt model (s.2 s.1.pc) with
  | none => exact Nat.zero_le 10
  | some i =>
    rw [Option.map_some, Option.getD_some]
    generalize ({ s.1 with pc := s.1.pc + 1 } : Registers) = r
    have hplain : i.plainTicks model r s.2 ≤ 10 := by
      have hcycles := i.cycles_le model
      unfold Instruction.plainTicks
      split
      · omega
      · omega
      · omega
      · omega
      · omega
      · split_ifs <;> omega
    unfold Instruction.ticks
    split
    · exact (turnTicks_le _ _ _).trans (by omega)
    · exact (Nat.add_le_add_left (turnTicks_le _ _ _) 3).trans (by omega)
    · split_ifs <;> omega
    · omega
    · exact hplain

/-! ### The harness -/

namespace Singlestep

/-- `singlestep_memory_operation`. -/
inductive MemoryOperation
  | read | write
deriving DecidableEq

/-- `singlestep_memory_cell`. -/
structure MemoryCell where
  address : Word
  value : Byte

/-- `singlestep_cycle`. -/
structure Cycle where
  address : Word
  value : Byte
  operation : MemoryOperation
deriving DecidableEq

/-- `singlestep_cpu_state`. -/
structure CpuState where
  pc : Word
  s : Byte
  a : Byte
  x : Byte
  y : Byte
  p : Byte
  ram : List MemoryCell

/-- `singlestep_case`, without its name. -/
structure Case where
  initial : CpuState
  final : CpuState
  cycles : List Cycle

/-- `case_result`. -/
structure CaseResult where
  instructionOk : Bool
  cycleCountOk : Bool
  busTraceOk : Bool
deriving DecidableEq

def loadRam (memory : Word → Byte) (ram : List MemoryCell) : Word → Byte :=
  ram.foldl (fun memory cell => poke memory cell.address cell.value) memory

def setInitialState (cpu : Cpu) (state : CpuState) : Option (Cpu × Tick) :=
  let cpu := { cpu with
    pc := state.pc, s := state.s, a := state.a, x := state.x, y := state.y, p := state.p }
  goto cpu cpu.pc

/-- The cases of `is_nmos_kil_opcode`. -/
def kilOpcodes : List Byte :=
  [0x02, 0x12, 0x22, 0x32, 0x42, 0x52, 0x62, 0x72, 0x92, 0xB2, 0xD2, 0xF2]

def isNmosKilOpcode (opcode : Byte) : Bool := kilOpcodes.contains opcode

def compareFinalState (cpu : Cpu) (memory : Word → Byte) (expected : CpuState) : Bool :=
  if cpu.pc ≠ expected.pc ∨ cpu.s ≠ expected.s ∨ cpu.a ≠ expected.a ∨ cpu.x ≠ expected.x ∨
      cpu.y ≠ expected.y ∨ cpu.p ≠ expected.p then
    false
  else expected.ram.all fun cell => memory cell.address = cell.value

def compareCycle (actual expected : Cycle) : Bool :=
  actual.address = expected.address && actual.value = expected.value &&
    actual.operation = expected.operation

def isWdcStopOpcode (cpuModel opcode : Byte) : Bool :=
  cpuModel = modelWdc && (opcode = 0xCB || opcode = 0xDB)

/-- The entry that a cycle of the loop records. -/
def busCycle (m : InstructionCpu) : Cycle where
  address := m.tick.address
  value := if m.isWrite then m.tick.bus else m.memory m.tick.address
  operation := if m.isWrite then .write else .read

/-- The loop of `run_case`, for a given number of cycles at most. -/
def caseLoop (stops : Bool) (expectedCycleCount : ℕ) :
    ℕ → List Cycle → InstructionCpu → Option (List Cycle × InstructionCpu)
  | 0, actualCycles, m => some (actualCycles, m)
  | cycles + 1, actualCycles, m =>
    let actualCycles := actualCycles ++ [busCycle m]
    (m.hostCycle InstructionCpu.singlestepAnswer).bind fun m =>
      if stops && expectedCycleCount ≤ actualCycles.length then some (actualCycles, m)
      else if !stops && m.tick.fetching then some (actualCycles, m)
      else caseLoop stops expectedCycleCount cycles actualCycles m

/-- A KIL or a WDC stop, which the harness does not follow to an opcode fetch. -/
def stops (cpuModel opcode : Byte) : Bool :=
  cpuModel = modelNmos && isNmosKilOpcode opcode || isWdcStopOpcode cpuModel opcode

def expectedCycleCount (test : Case) (opcode cpuModel : Byte) : ℕ :=
  if cpuModel = modelNmos && isNmosKilOpcode opcode && 2 < test.cycles.length then 2
  else test.cycles.length

def runCase (test : Case) (opcode cpuModel : Byte) : Option CaseResult := do
  let memory := loadRam (fun _ => 0) test.initial.ram
  let (cpu, tick) ← setInitialState { blankCpu with model := cpuModel } test.initial
  let expected := expectedCycleCount test opcode cpuModel
  let (actualCycles, m) ←
    caseLoop (stops cpuModel opcode) expected (expected + 64) [] ⟨cpu, tick, memory⟩
  let cycleCountOk : Bool := actualCycles.length = expected
  return {
    instructionOk := compareFinalState m.cpu m.memory test.final
    cycleCountOk := cycleCountOk
    -- the comparisons end with the actual cycles, which are as many as expected here
    busTraceOk := cycleCountOk &&
      (actualCycles.zip test.cycles).all fun c => compareCycle c.1 c.2 }

/-- `singlestep_opcode_level_result`. -/
structure LevelResult where
  supported : Bool
  failed : Bool
  failedCases : ℕ

def LevelResult.record (level : LevelResult) (ok : Bool) : LevelResult :=
  if ok then level else { level with failed := true, failedCases := level.failedCases + 1 }

/-- `singlestep_opcode_result`. -/
structure OpcodeResult where
  opcode : Byte
  casesRun : ℕ
  instruction : LevelResult
  cycleCount : LevelResult
  busTrace : LevelResult

/-- An iteration of the loop over the cases of an opcode. -/
def OpcodeResult.record (result : OpcodeResult) (single : CaseResult) : OpcodeResult :=
  { result with
    instruction := result.instruction.record single.instructionOk
    cycleCount := result.cycleCount.record single.cycleCountOk
    busTrace := result.busTrace.record single.busTraceOk }

def runOpcode (cpuModel opcode : Byte) (cases : List Case) : Option OpcodeResult :=
  let level : LevelResult := ⟨true, false, 0⟩
  cases.foldlM (fun result test => (runCase test opcode cpuModel).map result.record)
    ⟨opcode, cases.length, level, level, level⟩

/-- `run_singlestep_nmos` and `run_singlestep_65c02_model`. -/
def runSinglestep (cpuModel : Byte) (corpus : Byte → List Case) : Option (List OpcodeResult) :=
  ((List.range 256).map (BitVec.ofNat 8)).mapM fun opcode =>
    runOpcode cpuModel opcode (corpus opcode)

/-! ### The loop -/

/-- The cycles of `n` iterations of the host. -/
def busLog : ℕ → InstructionCpu → List Cycle
  | 0, _ => []
  | n + 1, m =>
    busCycle m :: ((m.hostCycle InstructionCpu.singlestepAnswer).map (busLog n)).getD []

/-- The loop leaves after a cycle. -/
def leaves (stops : Bool) (expected size : ℕ) (m : InstructionCpu) : Bool :=
  stops && expected ≤ size || !stops && m.tick.fetching

theorem caseLoop_succ (stops : Bool) (expected cycles : ℕ) (actual : List Cycle)
    (m : InstructionCpu) : caseLoop stops expected (cycles + 1) actual m =
      (m.hostCycle InstructionCpu.singlestepAnswer).bind fun m' =>
        if leaves stops expected (actual.length + 1) m' then some (actual ++ [busCycle m], m')
        else caseLoop stops expected cycles (actual ++ [busCycle m]) m' := by
  rw [caseLoop]
  refine congrArg _ (funext fun m' => ?_)
  rw [List.length_append, List.length_singleton, leaves]
  cases stops <;> simp

/-- **The loop of a case**: it goes on to the first cycle at which it leaves. -/
theorem caseLoop_eq {stops : Bool} {expected : ℕ} : ∀ {n limit : ℕ} {actual : List Cycle}
    {m m' : InstructionCpu},
    Simulation.iterate (InstructionCpu.hostCycle InstructionCpu.singlestepAnswer) n m = some m' →
    n ≤ limit → (∀ k < n, 0 < k → ∀ m'', Simulation.iterate
      (InstructionCpu.hostCycle InstructionCpu.singlestepAnswer) k m = some m'' →
        leaves stops expected (actual.length + k) m'' = false) →
    (n = limit ∨ 0 < n ∧ leaves stops expected (actual.length + n) m' = true) →
    caseLoop stops expected limit actual m = some (actual ++ busLog n m, m') := by
  intro n
  induction n with
  | zero =>
    intro limit actual m m' hrun _ _ hend
    obtain rfl := Option.some.inj hrun
    obtain rfl := hend.resolve_right fun h => absurd h.1 (Nat.lt_irrefl 0)
    rw [caseLoop, busLog, List.append_nil]
  | succ n ih =>
    intro limit actual m m' hrun hle hstays hend
    obtain ⟨limit, rfl⟩ := Nat.exists_eq_succ_of_ne_zero (show limit ≠ 0 by omega)
    rw [Simulation.iterate] at hrun
    obtain ⟨m₁, hm₁, hrest⟩ := Option.bind_eq_some_iff.mp hrun
    have hlog : busLog (n + 1) m = busCycle m :: busLog n m₁ := by
      rw [busLog, hm₁]
      rfl
    rw [caseLoop_succ, hm₁, Option.bind_some, hlog]
    have hfirst : n ≠ 0 → leaves stops expected (actual.length + 1) m₁ = false := by
      intro hn
      exact hstays 1 (by omega) Nat.one_pos m₁ (by rw [Simulation.iterate, hm₁]; rfl)
    by_cases hleaves : leaves stops expected (actual.length + 1) m₁ = true
    · have hn : n = 0 := by
        by_contra hn
        exact Bool.false_ne_true ((hfirst hn).symm.trans hleaves)
      subst hn
      obtain rfl := Option.some.inj hrest
      rw [if_pos hleaves]
      rfl
    · rw [if_neg hleaves, ih hrest (by omega)]
      · rw [List.append_assoc]
        rfl
      · intro k hk hpos m'' hm''
        rw [List.length_append, List.length_singleton, Nat.add_assoc, Nat.add_comm 1]
        refine hstays (k + 1) (by omega) (Nat.succ_pos k) m'' ?_
        rw [Simulation.iterate, hm₁]
        exact hm''
      · rcases hend with hend | ⟨_, hend⟩
        · exact .inl (by omega)
        · refine (Nat.eq_zero_or_pos n).elim (fun hn => ?_) fun hn => .inr ⟨hn, ?_⟩
          · subst hn
            obtain rfl := Option.some.inj hrest
            exact absurd hend hleaves
          · rw [List.length_append, List.length_singleton, Nat.add_assoc, Nat.add_comm 1]
            exact hend

theorem busLog_length : ∀ {n : ℕ} {m m' : InstructionCpu}, Simulation.iterate
    (InstructionCpu.hostCycle InstructionCpu.singlestepAnswer) n m = some m' →
      (busLog n m).length = n := by
  intro n
  induction n with
  | zero => exact fun {_ _} _ => rfl
  | succ n ih =>
    intro m m' hrun
    rw [Simulation.iterate] at hrun
    obtain ⟨m₁, hm₁, hrest⟩ := Option.bind_eq_some_iff.mp hrun
    rw [busLog, hm₁, Option.map_some, Option.getD_some, List.length_cons, ih hrest]

/-- **The memory** after some cycles is the memory before them with the writes of the log. -/
theorem busLog_memory : ∀ {n : ℕ} {m m' : InstructionCpu}, Simulation.iterate
    (InstructionCpu.hostCycle InstructionCpu.singlestepAnswer) n m = some m' →
      m'.memory = (busLog n m).foldl (fun memory c =>
        if c.operation = .write then poke memory c.address c.value else memory) m.memory := by
  intro n
  induction n with
  | zero =>
    intro m m' hrun
    obtain rfl := Option.some.inj hrun
    rfl
  | succ n ih =>
    intro m m' hrun
    rw [Simulation.iterate] at hrun
    obtain ⟨m₁, hm₁, hrest⟩ := Option.bind_eq_some_iff.mp hrun
    obtain ⟨r, _, rfl⟩ := Option.map_eq_some_iff.mp hm₁
    rw [ih hrest, busLog, hm₁, Option.map_some, Option.getD_some, List.foldl_cons]
    congr 1
    cases hw : m.isWrite <;> simp [busCycle, hw]

/-! ### Verdicts -/

def CpuState.registers (state : CpuState) : Registers :=
  ⟨state.pc, state.s, state.a, state.x, state.y, state.p⟩

/-- The registers and the recorded cells are as expected. -/
def CpuState.Agrees (expected : CpuState) (s : Isa.State) : Prop :=
  s.1 = expected.registers ∧ ∀ cell ∈ expected.ram, s.2 cell.address = cell.value

instance (expected : CpuState) (s : Isa.State) : Decidable (expected.Agrees s) :=
  inferInstanceAs (Decidable (_ ∧ _))

theorem compareFinalState_eq (cpu : Cpu) (memory : Word → Byte) (expected : CpuState) :
    compareFinalState cpu memory expected = decide (expected.Agrees (cpu.registers, memory)) := by
  have hregisters : cpu.registers = expected.registers ↔ ¬(cpu.pc ≠ expected.pc ∨
      cpu.s ≠ expected.s ∨ cpu.a ≠ expected.a ∨ cpu.x ≠ expected.x ∨ cpu.y ≠ expected.y ∨
      cpu.p ≠ expected.p) := by
    rw [Cpu.registers, CpuState.registers, Registers.mk.injEq]
    tauto
  rw [compareFinalState]
  split_ifs with hne
  · exact (decide_eq_false fun h => hregisters.mp h.1 hne).symm
  · rw [Bool.eq_iff_iff, List.all_eq_true, decide_eq_true_eq]
    simp only [decide_eq_true_eq]
    exact ⟨fun h => ⟨hregisters.mpr hne, h⟩, And.right⟩

theorem compareCycle_eq (actual expected : Cycle) :
    compareCycle actual expected = decide (actual = expected) := by
  obtain ⟨address, value, operation⟩ := actual
  obtain ⟨address', value', operation'⟩ := expected
  rw [Bool.eq_iff_iff, compareCycle]
  simp [and_assoc]

/-- Logs of one length are the same if all their cycles are. -/
theorem zip_compareCycle : ∀ {log cycles : List Cycle}, log.length = cycles.length →
    (log.zip cycles).all (fun c => compareCycle c.1 c.2) = decide (cycles = log) := by
  intro log
  induction log with
  | nil =>
    intro cycles h
    rw [List.length_eq_zero_iff.mp h.symm]
    rfl
  | cons c log ih =>
    intro cycles h
    cases cycles with
    | nil => cases h
    | cons c' cycles =>
      rw [List.zip_cons_cons, List.all_cons, ih (Nat.succ_injective h), compareCycle_eq,
        Bool.eq_iff_iff, Bool.and_eq_true, decide_eq_true_eq, decide_eq_true_eq,
        decide_eq_true_eq, List.cons.injEq]
      exact and_congr_left fun _ => eq_comm

/-- The state that a case starts from. -/
def Case.start (test : Case) : Isa.State :=
  (test.initial.registers, loadRam (fun _ => 0) test.initial.ram)

/-- The fresh CPU in that state. -/
def Case.machine (test : Case) (cpuModel : Byte) : Option InstructionCpu :=
  (setInitialState { blankCpu with model := cpuModel } test.initial).map fun r =>
    ⟨r.1, r.2, loadRam (fun _ => 0) test.initial.ram⟩

theorem Case.machine_stands (test : Case) {cpuModel : Byte} (hm : cpuModel.toNat < 5) :
    ∃ m, test.machine cpuModel = some m ∧ m.Stands cpuModel test.start.1 test.start.2 := by
  obtain ⟨r, hr, hstands⟩ := @InstructionCpu.goto_stands { blankCpu with
      model := cpuModel, pc := test.initial.pc, s := test.initial.s, a := test.initial.a
      x := test.initial.x, y := test.initial.y, p := test.initial.p } hm
    (show (Lines.of 0).idle = true by decide) test.initial.pc test.start.2
  exact ⟨_, by rw [machine, setInitialState, hr]; rfl, hstands⟩

/-- The state after an instruction; a jam is only behind its opcode. -/
def outcome (model : Nat) (s : Isa.State) : Isa.State :=
  (Isa.step model s).getD ({ s.1 with pc := s.1.pc + 1 }, s.2)

/-- The bus cycles of the instruction of a case. -/
def Case.log (test : Case) (cpuModel : Byte) : List Cycle :=
  ((test.machine cpuModel).map (busLog (Isa.ticks cpuModel.toNat test.start))).getD []

/-- What the interpreter and the bus say about a record. -/
def Case.verdict (test : Case) (cpuModel : Byte) : CaseResult :=
  let done := (Isa.step cpuModel.toNat test.start).isSome
  { instructionOk := test.final.Agrees (outcome cpuModel.toNat test.start)
    cycleCountOk := done && test.cycles.length = Isa.ticks cpuModel.toNat test.start
    busTraceOk := done && test.cycles = test.log cpuModel }

section runCase

variable {test : Case} {opcode cpuModel : Byte} {m m' : InstructionCpu} {log : List Cycle}

theorem runCase_eq (hmachine : test.machine cpuModel = some m)
    (hloop : caseLoop (stops cpuModel opcode) (expectedCycleCount test opcode cpuModel)
      (expectedCycleCount test opcode cpuModel + 64) [] m = some (log, m')) :
    runCase test opcode cpuModel = some
      { instructionOk := compareFinalState m'.cpu m'.memory test.final
        cycleCountOk := log.length = expectedCycleCount test opcode cpuModel
        busTraceOk := log.length = expectedCycleCount test opcode cpuModel &&
          (log.zip test.cycles).all fun c => compareCycle c.1 c.2 } := by
  obtain ⟨r, hr, rfl⟩ := Option.map_eq_some_iff.mp hmachine
  rw [runCase, hr]
  simp only [Option.bind_eq_bind, Option.bind_some, hloop]
  rfl

theorem expectedCycleCount_of_not_stops (hstops : stops cpuModel opcode = false) :
    expectedCycleCount test opcode cpuModel = test.cycles.length := by
  rw [stops, Bool.or_eq_false_iff] at hstops
  rw [expectedCycleCount, hstops.1, Bool.false_and, if_neg Bool.false_ne_true]

/-- **A case** that the harness follows to an opcode fetch. -/
theorem runCase_verdict (hm : cpuModel.toNat < 5) (hstops : stops cpuModel opcode = false)
    (test : Case) : runCase test opcode cpuModel = some (test.verdict cpuModel) := by
  obtain ⟨m, hmachine, hstands⟩ := test.machine_stands hm
  have hexpected : expectedCycleCount test opcode cpuModel = test.cycles.length :=
    expectedCycleCount_of_not_stops hstops
  have hleaves : ∀ size m'', leaves (stops cpuModel opcode) test.cycles.length size m'' =
      m''.tick.fetching := by
    intro size m''
    rw [leaves, hstops]
    rfl
  cases hstep : Isa.step cpuModel.toNat test.start with
  | some s' =>
    obtain ⟨m', hfetches, hafter⟩ :=
      @InstructionCpu.Stands.steps InstructionCpu.singlestepAnswer _ _ _ _ hstands _ hstep
    have hrun := hfetches.run
    rw [InstructionCpu.hostRun_iterate] at hrun
    have hloop : caseLoop (stops cpuModel opcode) test.cycles.length (test.cycles.length + 64)
        [] m = some ([] ++ busLog (Isa.ticks cpuModel.toNat test.start) m, m') := by
      refine caseLoop_eq hrun ?_ (fun k hk hpos m'' hm'' => ?_) (.inr ⟨hfetches.later, ?_⟩)
      · exact (Isa.ticks_le _ _).trans (by omega)
      · rw [hleaves]
        exact hfetches.earlier k hk hpos m'' (by rw [InstructionCpu.hostRun_iterate]; exact hm'')
      · rw [hleaves]
        exact hfetches.fetching
    have hlength : (busLog (Isa.ticks cpuModel.toNat test.start) m).length =
        Isa.ticks cpuModel.toNat test.start := busLog_length hrun
    rw [runCase_eq hmachine (by rw [hexpected]; exact hloop), hexpected, List.nil_append, hlength,
      compareFinalState_eq, hafter.registers, hafter.memory, Case.verdict, Case.log, hmachine,
      outcome, hstep]
    simp only [Option.some.injEq, CaseResult.mk.injEq, Option.getD_some, Option.isSome_some,
      Option.map_some, Bool.true_and]
    refine ⟨trivial, ?_, ?_⟩
    · exact decide_eq_decide.mpr eq_comm
    · by_cases hcount : Isa.ticks cpuModel.toNat test.start = test.cycles.length
      · rw [decide_eq_true hcount, Bool.true_and]
        exact zip_compareCycle (hlength.trans hcount)
      · rw [decide_eq_false hcount, Bool.false_and, eq_comm, decide_eq_false_iff_not]
        rintro heq
        rw [heq, hlength] at hcount
        exact hcount rfl
  | none =>
    have hlater : 0 < test.cycles.length + 64 := Nat.succ_pos _
    obtain ⟨m', hrun, _, hmemory, hjam⟩ :=
      @InstructionCpu.Stands.jams InstructionCpu.singlestepAnswer _ _ _ _ _ hstands hstep hlater
    obtain ⟨_, hregisters⟩ := hjam (by omega)
    have hloop := @caseLoop_eq (stops cpuModel opcode) test.cycles.length _ _ [] _ _ hrun
      (le_refl _) (fun k _ hpos m'' hm'' => by
        obtain ⟨m₁, hm₁, hfetching, _⟩ := @InstructionCpu.Stands.jams
          InstructionCpu.singlestepAnswer _ _ _ _ _ hstands hstep hpos
        obtain rfl := Option.some.inj (hm''.symm.trans hm₁)
        rw [hleaves]
        exact hfetching) (.inl rfl)
    have hcount : ¬(busLog (test.cycles.length + 64) m).length = test.cycles.length := by
      rw [busLog_length hrun]
      omega
    rw [runCase_eq hmachine (by rw [hexpected]; exact hloop), hexpected, List.nil_append,
      decide_eq_false hcount, compareFinalState_eq, hregisters, hmemory, Case.verdict, outcome,
      hstep]
    rfl

/-- **A case that stops**: only the count of its first two cycles is looked at. -/
theorem runCase_stops (hm : cpuModel.toNat < 5) (hstops : stops cpuModel opcode = true)
    (test : Case) : ∃ single, runCase test opcode cpuModel = some single ∧
      single.cycleCountOk = !test.cycles.isEmpty := by
  obtain ⟨m, hmachine, hstands⟩ := test.machine_stands hm
  generalize hexpected : expectedCycleCount test opcode cpuModel = expected
  have hempty : expected = 0 ↔ test.cycles = [] := by
    rw [← hexpected, expectedCycleCount, ← List.length_eq_zero_iff]
    split_ifs with hkil
    · have hlong := of_decide_eq_true (Bool.and_eq_true_iff.mp hkil).2
      exact ⟨False.elim, fun h => absurd h (by omega)⟩
    · exact Iff.rfl
  obtain ⟨m', hrun⟩ := (InstructionCpu.simulates InstructionCpu.singlestepAnswer cpuModel).total
    (t := test.start) hstands (max 1 expected)
  have hloop := @caseLoop_eq true expected _ _ [] _ _ hrun
    (show max 1 expected ≤ expected + 64 by omega)
    (fun k hk hpos m'' _ => by simp [leaves]; omega) (.inr ⟨by omega, by simp [leaves]⟩)
  refine ⟨_, runCase_eq hmachine (by rw [hexpected, hstops]; exact hloop), ?_⟩
  rw [hexpected, List.nil_append, busLog_length hrun, Bool.eq_iff_iff, decide_eq_true_eq,
    Bool.not_eq_true', List.isEmpty_eq_false_iff, ne_eq, ← hempty]
  omega

/-- The result of a case of an opcode. -/
def verdictAt (cpuModel opcode : Byte) (test : Case) : CaseResult :=
  if stops cpuModel opcode then (runCase test opcode cpuModel).getD ⟨false, false, false⟩
  else test.verdict cpuModel

theorem runCase_verdictAt (hm : cpuModel.toNat < 5) (opcode : Byte) (test : Case) :
    runCase test opcode cpuModel = some (verdictAt cpuModel opcode test) := by
  cases hstops : stops cpuModel opcode with
  | false => rw [verdictAt, hstops, if_neg Bool.false_ne_true, runCase_verdict hm hstops]
  | true =>
    obtain ⟨single, hsingle, _⟩ := runCase_stops hm hstops test
    rw [verdictAt, hstops, if_pos rfl, hsingle, Option.getD_some]

theorem verdictAt_stops (hm : cpuModel.toNat < 5) (hstops : stops cpuModel opcode = true)
    (test : Case) : (verdictAt cpuModel opcode test).cycleCountOk = !test.cycles.isEmpty := by
  obtain ⟨single, hsingle, hok⟩ := runCase_stops hm hstops test
  rw [verdictAt, hstops, if_pos rfl, hsingle, Option.getD_some, hok]

end runCase

/-! ### The corpus -/

/-- The result of a level whose good cases are those of `ok`. -/
def LevelResult.tally (ok : Case → Bool) (cases : List Case) : LevelResult :=
  ⟨true, cases.any fun test => !ok test, cases.countP fun test => !ok test⟩

theorem LevelResult.record_tally (ok : Case → Bool) (cases : List Case) (test : Case) :
    (tally ok cases).record (ok test) = tally ok (cases ++ [test]) := by
  rw [record, tally, tally, List.any_append, List.countP_append]
  cases hok : ok test <;> simp [hok]

/-- The result of an opcode after some of its cases. -/
def OpcodeResult.tally (opcode : Byte) (casesRun : ℕ) (f : Case → CaseResult)
    (cases : List Case) : OpcodeResult where
  opcode := opcode
  casesRun := casesRun
  instruction := .tally (fun test => (f test).instructionOk) cases
  cycleCount := .tally (fun test => (f test).cycleCountOk) cases
  busTrace := .tally (fun test => (f test).busTraceOk) cases

theorem OpcodeResult.record_tally (opcode : Byte) (casesRun : ℕ) (f : Case → CaseResult)
    (cases : List Case) (test : Case) : (tally opcode casesRun f cases).record (f test) =
      tally opcode casesRun f (cases ++ [test]) := by
  rw [record, tally, tally]
  simp only [← LevelResult.record_tally]

/-- **The loop over the cases of an opcode** counts the cases that fail. -/
theorem runOpcode_eq {cpuModel opcode : Byte} {cases : List Case} {f : Case → CaseResult}
    (hf : ∀ test, runCase test opcode cpuModel = some (f test)) :
    runOpcode cpuModel opcode cases = some (.tally opcode cases.length f cases) := by
  have hloop : ∀ rest done : List Case,
      rest.foldlM (fun result test => (runCase test opcode cpuModel).map result.record)
        (OpcodeResult.tally opcode cases.length f done) =
      some (.tally opcode cases.length f (done ++ rest)) := by
    intro rest
    induction rest with
    | nil => exact fun done => by rw [List.append_nil]; rfl
    | cons test rest ih =>
      intro done
      rw [List.foldlM_cons, hf test, Option.map_some, OpcodeResult.record_tally]
      exact (ih (done ++ [test])).trans (by rw [List.append_assoc]; rfl)
  exact hloop cases []

/-- **The bus cycles of an instruction**: as many as its ticks, the opcode fetch first, and the
writes among them make the memory. -/
theorem Case.log_spec (test : Case) {cpuModel : Byte} (hm : cpuModel.toNat < 5) {s' : Isa.State}
    (hstep : Isa.step cpuModel.toNat test.start = some s') :
    (test.log cpuModel).length = Isa.ticks cpuModel.toNat test.start ∧
      (test.log cpuModel).head? =
        some ⟨test.start.1.pc, test.start.2 test.start.1.pc, .read⟩ ∧
      s'.2 = (test.log cpuModel).foldl (fun memory c =>
        if c.operation = .write then poke memory c.address c.value else memory) test.start.2 := by
  obtain ⟨m, hmachine, hstands⟩ := test.machine_stands hm
  obtain ⟨m', hfetches, hafter⟩ :=
    @InstructionCpu.Stands.steps InstructionCpu.singlestepAnswer _ _ _ _ hstands _ hstep
  have hrun := hfetches.run
  rw [InstructionCpu.hostRun_iterate] at hrun
  have hlog : test.log cpuModel = busLog (Isa.ticks cpuModel.toNat test.start) m := by
    rw [log, hmachine]
    rfl
  rw [hlog]
  refine ⟨busLog_length hrun, ?_, ?_⟩
  · obtain ⟨n, hn⟩ := Nat.exists_eq_succ_of_ne_zero hfetches.later.ne'
    have hread : m.isWrite = false := by
      rw [InstructionCpu.isWrite, hstands.tick]
      show decide (statusOpcodeFetch &&& statusWriting ≠ 0) = false
      decide
    rw [hn, busLog, List.head?_cons, busCycle, hread, hstands.tick, hstands.memory]
    rfl
  · rw [← hafter.memory, busLog_memory hrun, hstands.memory]

/-- **The loop over the opcodes.** -/
theorem runSinglestep_tally {cpuModel : Byte} (hm : cpuModel.toNat < 5)
    (corpus : Byte → List Case) : runSinglestep cpuModel corpus =
      some (((List.range 256).map (BitVec.ofNat 8)).map fun opcode =>
        .tally opcode (corpus opcode).length (verdictAt cpuModel opcode) (corpus opcode)) := by
  rw [runSinglestep, funext fun opcode => runOpcode_eq (runCase_verdictAt hm opcode)]
  exact List.mapM_pure

end Singlestep

open Singlestep

/-- **The single-step harness.**  On every model and every corpus the run ends with a result for
each of the 256 opcodes.  Except for the opcodes at which it stops, its three counts are exactly
the cases whose final state, number of cycles and bus cycles are not those of the interpreter and
of the bus; these bus cycles are as many as the ticks, begin with the opcode fetch and carry all
the writes of the instruction, and an undocumented jam fails the last two whatever is recorded.
For the opcodes at which it stops the number of cycles is not looked at: every record with a
cycle passes. -/
theorem singlestep_verdicts {cpuModel : Byte} (hm : cpuModel.toNat < 5)
    (corpus : Byte → List Case) : ∃ results, runSinglestep cpuModel corpus = some results ∧
      results.length = 256 ∧
      (∀ opcode : Byte, ∃ result, results[opcode.toNat]? = some result ∧
        result.opcode = opcode ∧ result.casesRun = (corpus opcode).length ∧
        (stops cpuModel opcode = false →
          result.instruction = .tally (fun test => decide
            (test.final.Agrees (outcome cpuModel.toNat test.start))) (corpus opcode) ∧
          result.cycleCount = .tally (fun test => (Isa.step cpuModel.toNat test.start).isSome &&
            test.cycles.length = Isa.ticks cpuModel.toNat test.start) (corpus opcode) ∧
          result.busTrace = .tally (fun test => (Isa.step cpuModel.toNat test.start).isSome &&
            test.cycles = test.log cpuModel) (corpus opcode)) ∧
        (stops cpuModel opcode = true →
          result.cycleCount = .tally (fun test => !test.cycles.isEmpty) (corpus opcode))) ∧
      ∀ (test : Case) s', Isa.step cpuModel.toNat test.start = some s' →
        (test.log cpuModel).length = Isa.ticks cpuModel.toNat test.start ∧
        (test.log cpuModel).head? =
          some ⟨test.start.1.pc, test.start.2 test.start.1.pc, .read⟩ ∧
        s'.2 = (test.log cpuModel).foldl (fun memory c =>
          if c.operation = .write then poke memory c.address c.value else memory)
            test.start.2 := by
  refine ⟨_, runSinglestep_tally hm corpus, by simp, fun opcode =>
    ⟨.tally opcode (corpus opcode).length (verdictAt cpuModel opcode) (corpus opcode), ?_, rfl, rfl,
      fun hstops => ?_, fun hstops => ?_⟩, fun test s' hstep => test.log_spec hm hstep⟩
  · simp only [List.map_map, List.getElem?_map]
    rw [List.getElem?_range opcode.isLt]
    simp only [Option.map_some, Function.comp_apply, BitVec.ofNat_toNat, BitVec.setWidth_eq]
  · simp only [OpcodeResult.tally, verdictAt, hstops, Bool.false_eq_true, if_false, Case.verdict,
      and_self]
  · simp only [OpcodeResult.tally, verdictAt_stops hm hstops]

/-- A load of 7F at 0200, recorded with one cycle. -/
def shortRecord : Case where
  initial := ⟨0x0200, 0xFD, 0, 0, 0, 0x24, [⟨0x0200, 0xA9⟩, ⟨0x0201, 0x7F⟩]⟩
  final := ⟨0x0202, 0xFD, 0x7F, 0, 0, 0x24, [⟨0x0200, 0xA9⟩]⟩
  cycles := [⟨0x0200, 0xA9, .read⟩]

/-- Where it belongs its length is wrong, as the record of a jam it is not. -/
theorem singlestep_verdicts_short : ∃ results, runSinglestep 0 (fun _ => [shortRecord]) =
      some results ∧ (∃ load, results[0xA9]? = some load ∧ load.instruction.failedCases = 0 ∧
        load.cycleCount.failedCases = 1 ∧ load.busTrace.failedCases = 1) ∧
      ∃ jam, results[0x02]? = some jam ∧ jam.cycleCount.failedCases = 0 := by
  obtain ⟨results, hrun, _, hresults, _⟩ :=
    singlestep_verdicts (show (0 : Byte).toNat < 5 by decide) fun _ => [shortRecord]
  obtain ⟨load, hload, _, _, hverdicts, _⟩ := hresults 0xA9
  obtain ⟨jam, hjam, _, _, _, hstops⟩ := hresults 0x02
  obtain ⟨hinstruction, hcycleCount, hbusTrace⟩ := hverdicts (by decide)
  refine ⟨results, hrun, ⟨load, hload, ?_, ?_, ?_⟩, jam, hjam, ?_⟩
  · rw [hinstruction]
    decide
  · rw [hcycleCount]
    decide
  · rw [hbusTrace]
    decide
  · rw [hstops (by decide)]
    rfl

end Qe6502
