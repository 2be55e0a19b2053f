import Qe6502.Bootstrap

/-!
# The lockstep runner

`LockstepRunner` steps two CPU backends side by side and compares what they show before each
step.  `LockstepScenarioRunner::restart_run` sets both up for a testcase and executes a list of
commands.  A backend is any deterministic machine with the interface `ICpu`.
-/

namespace Qe6502

namespace Tools6502

/-! ### The data -/

/-- The loop of `ICpu::restart_to_start_fetch`, with the steps made so far. -/
def startFetchLoop {σ : Type} (step : σ → σ) (atStart : σ → Bool) : ℕ → ℕ → σ → ℕ × σ
  | 0, steps, s => (steps, s)
  | limit + 1, steps, s =>
    if atStart s then (steps, s) else startFetchLoop step atStart limit (steps + 1) (step s)

/-- `ICpu`, over the states of a backend.  `setMemory` is what the host does through the pointer
that `memory()` returns.  `restartToStartFetch` is virtual with a body, which a backend may
override; it returns the steps made too. -/
structure ICpu (σ : Type) where
  restart : σ → σ
  irq : Bool → σ → σ
  isIrqAsserted : σ → Bool
  nmi : Bool → σ → σ
  isNmiAsserted : σ → Bool
  step : σ → σ
  busAddress : σ → Word
  busData : σ → Byte
  memory : σ → Word → Byte
  setMemory : (Word → Byte) → σ → σ
  isWrite : σ → Bool
  isOpcodeFetch : σ → Bool
  pc : σ → Word
  s : σ → Byte
  a : σ → Byte
  x : σ → Byte
  y : σ → Byte
  p : σ → Byte
  restartToStartFetch : ℕ → σ → ℕ × σ := fun maxSteps s =>
    let start := startAddress (memory s)
    startFetchLoop step (fun s => isOpcodeFetch s && !isWrite s && busAddress s = start) maxSteps 0
      (restart s)

abbrev MemoryImage := Word → Byte

abbrev MemorySetup := List (Word × Byte)

/-- `MemoryInit`.  The callback may be empty. -/
inductive MemoryInit
  | unchanged
  | fill (value : Byte)
  | random (seed : BitVec 32)
  | callback (apply : Option (MemoryImage → MemoryImage))

structure CompareOptions where
  address : Bool := true
  data : Bool := true
  readWrite : Bool := true
  opcodeFetch : Bool := true
  registersOnFetch : Bool := false
deriving DecidableEq

structure LockstepConfig where
  memory : MemoryInit := .fill 0xEA
  compare : CompareOptions := {}

structure VectorSet where
  reset : Word := 0x0200
  brkIrq : Word := 0x9100
  nmi : Word := 0x9000

structure Testcase where
  startAt : Word := 0x0400
  vectors : VectorSet := {}
  A : Byte := 0x00
  X : Byte := 0x00
  Y : Byte := 0x00
  P : Byte := 0x24
  S : Byte := 0xFD
  memSetup : MemorySetup := []
  program : MemorySetup := []

structure CpuTraceEntry where
  cycle : BitVec 64
  address : Word
  data : Byte
  write : Bool
  opcodeFetch : Bool
  irqAsserted : Bool
  nmiAsserted : Bool
  pc : Word
  a : Byte
  x : Byte
  y : Byte
  s : Byte
  p : Byte
deriving DecidableEq

structure LockstepRunResult where
  passed : Bool := true
  leftTrace : List CpuTraceEntry := []
  rightTrace : List CpuTraceEntry := []
  firstMismatch : Option ℕ := none
deriving DecidableEq

inductive LockstepCommand
  | step
  | stepCycles (count : ℕ)
  | stepToFetch (maxSteps : ℕ)
  | stepToFetchAt (address : Word) (maxSteps : ℕ)
  | nmiAssert
  | nmiDeassert
  | irqAssert
  | irqDeassert
deriving DecidableEq

structure LockstepScenarioConfig where
  stopOnFailure : Bool := true

structure LockstepScenarioResult where
  passed : Bool := true
  results : List LockstepRunResult := []
  firstFailedCommand : Option ℕ := none
deriving DecidableEq

/-- What goes wrong with an exception, or does not end, has no value. -/
abbrev Outcome := ExceptT String Option

/-! ### One backend -/

def setupRestartMaxSteps : ℕ := 256

def setupFetchMaxSteps : ℕ := 32

def setupBootstrapMaxSteps : ℕ := 4096

def safeRestartAddress : Word := 0x0400

def internalBootstrapAddress : Word := 0xFE00

def opcodeNop : Byte := 0xEA

/-- `asm6502::bootstrap_program` for a testcase. -/
def makeBootstrap (passes : ℕ) (test : Testcase) : Outcome MemorySetup :=
  ExceptT.mk (Asm6502.bootstrapProgram test.A test.X test.Y test.P test.S test.startAt
    test.vectors.reset test.vectors.brkIrq test.vectors.nmi passes)

def makeTemporaryBootstrapTestcase (test : Testcase) : Testcase :=
  { test with vectors :=
    { reset := internalBootstrapAddress
      brkIrq := internalBootstrapAddress
      nmi := internalBootstrapAddress } }

/-- `SavedMemoryPatch`. -/
structure SavedMemoryPatch where
  values : List Byte
  active : Bool

def SavedMemoryPatch.addresses : List Word :=
  [safeRestartAddress + 0, safeRestartAddress + 1, safeRestartAddress + 2, 0xFFFC, 0xFFFD]

namespace ICpu

variable {σ : Type} (cpu : ICpu σ)

/-- `memory()[address] = value`. -/
def poke (address : Word) (value : Byte) (s : σ) : σ :=
  cpu.setMemory (Qe6502.poke (cpu.memory s) address value) s

def applyMemValues (setup : MemorySetup) (s : σ) : σ :=
  setup.foldl (fun s v => cpu.poke v.1 v.2 s) s

def writeVector (vectorAddress target : Word) (s : σ) : σ :=
  let s := cpu.poke vectorAddress (u16GetByte target 0) s
  cpu.poke (vectorAddress + 1) (u16GetByte target 1) s

def installSafeRestartStub (s : σ) : σ :=
  let s := cpu.poke (safeRestartAddress + 0) opcodeNop s
  let s := cpu.poke (safeRestartAddress + 1) opcodeNop s
  let s := cpu.poke (safeRestartAddress + 2) opcodeNop s
  cpu.writeVector 0xFFFC safeRestartAddress s

/-- `cpu_at_fetch_at`. -/
def atFetchAt (address : Word) (s : σ) : Bool :=
  cpu.isOpcodeFetch s && !cpu.isWrite s && cpu.busAddress s = address

/-- `step_to_next_fetch_without_compare`. -/
def stepToNextFetch : ℕ → σ → Bool × σ
  | 0, s => (false, s)
  | steps + 1, s =>
    let s := cpu.step s
    if cpu.isOpcodeFetch s && !cpu.isWrite s then (true, s) else stepToNextFetch steps s

/-- `step_to_fetch_at_without_compare`. -/
def stepToFetchAt (address : Word) : ℕ → σ → Bool × σ
  | 0, s => (cpu.atFetchAt address s, s)
  | steps + 1, s =>
    if cpu.atFetchAt address s then (true, s) else stepToFetchAt address steps (cpu.step s)

/-- `SavedMemoryPatch::save`. -/
def savePatch (s : σ) : SavedMemoryPatch :=
  ⟨SavedMemoryPatch.addresses.map (cpu.memory s), true⟩

/-- `SavedMemoryPatch::restore`. -/
def restorePatch (patch : SavedMemoryPatch) (s : σ) : SavedMemoryPatch × σ :=
  if !patch.active then (patch, s)
  else ({ patch with active := false },
    cpu.applyMemValues (SavedMemoryPatch.addresses.zip patch.values) s)

/-- `hard_restart_to_safe_fetch`. -/
def hardRestartToSafeFetch (s : σ) : Bool × SavedMemoryPatch × σ :=
  let s := cpu.irq false s
  let s := cpu.nmi false s
  let patch := cpu.savePatch s
  let s := cpu.installSafeRestartStub s
  let (_, s) := cpu.restartToStartFetch setupRestartMaxSteps s
  (cpu.atFetchAt safeRestartAddress s, patch, s)

/-- `install_user_testcase`. -/
def installUserTestcase (test : Testcase) (s : σ) : σ :=
  let s := cpu.applyMemValues test.memSetup s
  let s := cpu.applyMemValues test.program s
  let s := cpu.writeVector 0xFFFC test.vectors.reset s
  let s := cpu.writeVector 0xFFFA test.vectors.nmi s
  cpu.writeVector 0xFFFE test.vectors.brkIrq s

/-- `try_soft_setup_and_run`. -/
def trySoftSetupAndRun (passes : ℕ) (test : Testcase) (patch : Option SavedMemoryPatch) (s : σ) :
    Outcome (Bool × Option SavedMemoryPatch × σ) := do
  let temporaryBootstrap ← makeBootstrap passes (makeTemporaryBootstrapTestcase test)
  let s := cpu.applyMemValues temporaryBootstrap s
  let s := cpu.nmi false s
  let s := cpu.irq false s
  let (fetched, s) := cpu.stepToNextFetch setupFetchMaxSteps s
  if !fetched then
    return (false, patch, s)
  let s := cpu.nmi true s
  let (entered, s) := cpu.stepToFetchAt internalBootstrapAddress setupFetchMaxSteps s
  let s := cpu.nmi false s
  if !entered then
    return (false, patch, s)
  let (patch, s) :=
    match patch with
    | none => (none, s)
    | some patch =>
      let (patch, s) := cpu.restorePatch patch s
      (some patch, s)
  let s := cpu.installUserTestcase test s
  let (completed, s) := cpu.stepToFetchAt test.startAt setupBootstrapMaxSteps s
  return (completed, patch, s)

/-- `setup_and_run_one_backend`. -/
def setupAndRunOneBackend (passes : ℕ) (test : Testcase) (s : σ) : Outcome (Bool × σ) := do
  let (completed, _, s) ← cpu.trySoftSetupAndRun passes test none s
  if completed then
    return (true, s)
  let (safe, patch, s) := cpu.hardRestartToSafeFetch s
  if !safe then
    return (false, (cpu.restorePatch patch s).2)
  let (completed, patch, s) ← cpu.trySoftSetupAndRun passes test (some patch) s
  match patch with
  | none => return (completed, s)
  | some patch => return (completed, (cpu.restorePatch patch s).2)

/-- `capture_trace`. -/
def captureTrace (s : σ) (cycle : BitVec 64) : CpuTraceEntry where
  cycle := cycle
  address := cpu.busAddress s
  data := cpu.busData s
  write := cpu.isWrite s
  opcodeFetch := cpu.isOpcodeFetch s
  irqAsserted := cpu.isIrqAsserted s
  nmiAsserted := cpu.isNmiAsserted s
  pc := cpu.pc s
  a := cpu.a s
  x := cpu.x s
  y := cpu.y s
  s := cpu.s s
  p := cpu.p s

end ICpu

/-! ### Comparing and collecting -/

/-- `traces_match`. -/
def tracesMatch (left right : CpuTraceEntry) (options : CompareOptions) : Bool :=
  if options.address ∧ left.address ≠ right.address then false
  else if options.data ∧ left.data ≠ right.data then false
  else if options.readWrite ∧ left.write ≠ right.write then false
  else if options.opcodeFetch ∧ left.opcodeFetch ≠ right.opcodeFetch then false
  else if options.registersOnFetch ∧ left.opcodeFetch ∧ right.opcodeFetch then
    left.pc = right.pc && left.a = right.a && left.x = right.x && left.y = right.y &&
      left.s = right.s && left.p = right.p
  else true

/-- `append_result`. -/
def appendResult (destination source : LockstepRunResult) : LockstepRunResult :=
  let oldSize := destination.leftTrace.length
  let destination :=
    { destination with leftTrace := destination.leftTrace ++ source.leftTrace }
  let destination :=
    { destination with rightTrace := destination.rightTrace ++ source.rightTrace }
  let destination := if !source.passed then { destination with passed := false } else destination
  match destination.firstMismatch, source.firstMismatch with
  | none, some mismatch => { destination with firstMismatch := some (oldSize + mismatch) }
  | _, _ => destination

/-! ### Two backends -/

/-- `LockstepRunner`. -/
structure LockstepRunner (σ τ : Type) where
  left : σ
  right : τ
  compare : CompareOptions
  cycle : BitVec 64

/-- What an initialization makes of a fresh memory image. -/
def MemoryInit.image (random : BitVec 32 → MemoryImage) : MemoryInit → MemoryImage
  | .unchanged => fun _ => 0
  | .fill value => fun _ => value
  | .random seed => random seed
  | .callback apply =>
    match apply with
    | none => fun _ => 0
    | some apply => apply fun _ => 0

/-- `initializes_full_memory`. -/
def MemoryInit.initializesFullMemory : MemoryInit → Bool
  | .unchanged => false
  | _ => true

namespace LockstepRunner

variable {σ τ : Type} (left : ICpu σ) (right : ICpu τ)

/-- `initialize_cpu_pair_memory`. -/
def initializeMemory (random : BitVec 32 → MemoryImage) (init : MemoryInit)
    (runner : LockstepRunner σ τ) : LockstepRunner σ τ :=
  if !init.initializesFullMemory then runner
  else
    let image := init.image random
    { runner with
      left := left.setMemory image runner.left
      right := right.setMemory image runner.right }

/-- `setup_and_run` for a testcase. -/
def setupAndRun (random : BitVec 32 → MemoryImage) (passes : ℕ) (test : Testcase)
    (config : LockstepConfig) (runner : LockstepRunner σ τ) :
    Outcome (Bool × LockstepRunner σ τ) := do
  let runner := { runner with compare := config.compare }
  let runner := { runner with cycle := 0 }
  let runner := runner.initializeMemory left right random config.memory
  let (completed, s) ← left.setupAndRunOneBackend passes test runner.left
  let runner := { runner with left := s }
  if !completed then
    return (false, runner)
  let (completed, s) ← right.setupAndRunOneBackend passes test runner.right
  let runner := { runner with right := s }
  if !completed then
    return (false, runner)
  return (true, runner)

def step (runner : LockstepRunner σ τ) : LockstepRunResult × LockstepRunner σ τ :=
  let leftEntry := left.captureTrace runner.left runner.cycle
  let rightEntry := right.captureTrace runner.right runner.cycle
  let result : LockstepRunResult := { leftTrace := [leftEntry], rightTrace := [rightEntry] }
  if !tracesMatch leftEntry rightEntry runner.compare then
    ({ result with passed := false, firstMismatch := some 0 }, runner)
  else
    (result, { runner with
      left := left.step runner.left
      right := right.step runner.right
      cycle := runner.cycle + 1 })

/-- The loop of `step_cycles`. -/
def cyclesLoop : ℕ → LockstepRunResult → LockstepRunner σ τ →
    LockstepRunResult × LockstepRunner σ τ
  | 0, result, runner => (result, runner)
  | count + 1, result, runner =>
    let (one, runner) := runner.step left right
    let result := appendResult result one
    if !one.passed then (result, runner) else cyclesLoop count result runner

def stepCycles (count : ℕ) (runner : LockstepRunner σ τ) :
    LockstepRunResult × LockstepRunner σ τ :=
  runner.cyclesLoop left right count {}

/-- The loop of `step_to_fetch` and `step_to_fetch_at`, with the condition to reach. -/
def fetchLoop (condition : LockstepRunner σ τ → Bool) : ℕ → Bool → LockstepRunResult →
    LockstepRunner σ τ → LockstepRunResult × LockstepRunner σ τ
  | 0, reached, result, runner =>
    (if !reached then { result with passed := false } else result, runner)
  | steps + 1, _, result, runner =>
    let (one, runner) := runner.step left right
    let result := appendResult result one
    if !one.passed then (result, runner)
    else
      let reached := condition runner
      if reached then (result, runner) else fetchLoop condition steps reached result runner

/-- Both backends fetch an opcode. -/
def fetching (runner : LockstepRunner σ τ) : Bool :=
  left.isOpcodeFetch runner.left && right.isOpcodeFetch runner.right

/-- Both backends fetch an opcode at an address. -/
def fetchingAt (address : Word) (runner : LockstepRunner σ τ) : Bool :=
  left.atFetchAt address runner.left && right.atFetchAt address runner.right

def stepToFetch (maxSteps : ℕ) (runner : LockstepRunner σ τ) :
    LockstepRunResult × LockstepRunner σ τ :=
  let reached := runner.fetching left right
  runner.fetchLoop left right (fetching left right) maxSteps reached {}

def stepToFetchAt (address : Word) (maxSteps : ℕ) (runner : LockstepRunner σ τ) :
    LockstepRunResult × LockstepRunner σ τ :=
  let reached := runner.fetchingAt left right address
  runner.fetchLoop left right (fetchingAt left right address) maxSteps reached {}

def irq (asserted : Bool) (runner : LockstepRunner σ τ) :
    LockstepRunResult × LockstepRunner σ τ :=
  ({}, { runner with
    left := left.irq asserted runner.left
    right := right.irq asserted runner.right })

def nmi (asserted : Bool) (runner : LockstepRunner σ τ) :
    LockstepRunResult × LockstepRunner σ τ :=
  ({}, { runner with
    left := left.nmi asserted runner.left
    right := right.nmi asserted runner.right })

/-- The visitor of `restart_run`. -/
def execute (runner : LockstepRunner σ τ) :
    LockstepCommand → LockstepRunResult × LockstepRunner σ τ
  | .step => runner.step left right
  | .stepCycles count => runner.stepCycles left right count
  | .stepToFetch maxSteps => runner.stepToFetch left right maxSteps
  | .stepToFetchAt address maxSteps => runner.stepToFetchAt left right address maxSteps
  | .nmiAssert => runner.nmi left right true
  | .nmiDeassert => runner.nmi left right false
  | .irqAssert => runner.irq left right true
  | .irqDeassert => runner.irq left right false

/-- The loop of `restart_run` over the commands from `index` on. -/
def commandLoop (config : LockstepScenarioConfig) : ℕ → List LockstepCommand →
    LockstepScenarioResult → LockstepRunner σ τ → LockstepScenarioResult × LockstepRunner σ τ
  | _, [], result, runner => (result, runner)
  | index, command :: commands, result, runner =>
    let (commandResult, runner) := runner.execute left right command
    let result :=
      if !commandResult.passed && result.firstFailedCommand.isNone then
        { result with passed := false, firstFailedCommand := some index }
      else result
    let result := { result with results := result.results ++ [commandResult] }
    if !result.passed && config.stopOnFailure then (result, runner)
    else commandLoop config (index + 1) commands result runner

end LockstepRunner

/-- `LockstepScenarioRunner`. -/
structure LockstepScenarioRunner (σ τ : Type) where
  lockstep : LockstepRunner σ τ
  test : Testcase
  lockstepConfig : LockstepConfig
  hasSetup : Bool

namespace LockstepScenarioRunner

variable {σ τ : Type} (left : ICpu σ) (right : ICpu τ)

def setup (test : Testcase) (lockstepConfig : LockstepConfig)
    (scenario : LockstepScenarioRunner σ τ) : Bool × LockstepScenarioRunner σ τ :=
  (true, { scenario with test := test, lockstepConfig := lockstepConfig, hasSetup := true })

def restartRun (random : BitVec 32 → MemoryImage) (passes : ℕ) (commands : List LockstepCommand)
    (config : LockstepScenarioConfig) (scenario : LockstepScenarioRunner σ τ) :
    Outcome (LockstepScenarioResult × LockstepScenarioRunner σ τ) := do
  if !scenario.hasSetup then
    return ({ passed := false }, scenario)
  let (completed, lockstep) ← scenario.lockstep.setupAndRun left right random passes
    scenario.test scenario.lockstepConfig
  if !completed then
    return ({ passed := false }, { scenario with lockstep := lockstep })
  let (result, lockstep) := lockstep.commandLoop left right config 0 commands {}
  return (result, { scenario with lockstep := lockstep })

end LockstepScenarioRunner

end Tools6502

end Qe6502
