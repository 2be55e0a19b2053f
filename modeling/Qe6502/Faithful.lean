import Qe6502.Lockstep

/-!
# Faithful runs

A command records the moments at which the two backends are compared (`Executed`).  A comparison
that fails is the last one and stops both backends alike, so they have always had the same calls
(`InStep`).  `lockstep_faithful` puts this together for a run of a scenario.
-/

namespace Qe6502

namespace Tools6502

/-! ### The moments of a runner -/

namespace LockstepRunner

variable {σ τ : Type} (left : ICpu σ) (right : ICpu τ)

/-- The entries that a runner compares next match. -/
def agrees (runner : LockstepRunner σ τ) : Bool :=
  tracesMatch (left.captureTrace runner.left runner.cycle)
    (right.captureTrace runner.right runner.cycle) runner.compare

/-- The runner after `step`. -/
def next (runner : LockstepRunner σ τ) : LockstepRunner σ τ := (runner.step left right).2

/-- The runner after a number of calls of `step`. -/
def moment (runner : LockstepRunner σ τ) : ℕ → LockstepRunner σ τ
  | 0 => runner
  | k + 1 => (runner.moment k).next left right

variable {left right} {runner : LockstepRunner σ τ}

theorem step_of_agrees (h : runner.agrees left right = true) : runner.step left right =
    ({ leftTrace := [left.captureTrace runner.left runner.cycle]
       rightTrace := [right.captureTrace runner.right runner.cycle] },
      { runner with
        left := left.step runner.left
        right := right.step runner.right
        cycle := runner.cycle + 1 }) :=
  if_neg (by rw [agrees] at h; rw [h]; decide)

/-- A comparison that fails stops both backends. -/
theorem step_of_mismatch (h : runner.agrees left right = false) : runner.step left right =
    ({ passed := false
       leftTrace := [left.captureTrace runner.left runner.cycle]
       rightTrace := [right.captureTrace runner.right runner.cycle]
       firstMismatch := some 0 }, runner) :=
  if_pos (by rw [agrees] at h; rw [h]; rfl)

theorem compare_moment (k : ℕ) : (runner.moment left right k).compare = runner.compare := by
  induction k with
  | zero => rfl
  | succ k ih =>
    rw [moment, next]
    cases h : (runner.moment left right k).agrees left right with
    | true =>
      rw [step_of_agrees h]
      exact ih
    | false =>
      rw [step_of_mismatch h]
      exact ih

/-! ### Records -/

/-- Where a record of a number of comparisons has its mismatch. -/
inductive Stops (left : ICpu σ) (right : ICpu τ) (runner : LockstepRunner σ τ) :
    ℕ → Option ℕ → Prop
  | clean {n : ℕ} : (∀ k < n, (runner.moment left right k).agrees left right = true) →
      Stops left right runner n none
  | mismatch {n : ℕ} : (∀ k < n, (runner.moment left right k).agrees left right = true) →
      (runner.moment left right n).agrees left right = false →
      Stops left right runner (n + 1) (some n)

/-- The traces are those of the first comparisons. -/
structure Recorded (left : ICpu σ) (right : ICpu τ) (runner : LockstepRunner σ τ) (n : ℕ)
    (result : LockstepRunResult) : Prop where
  leftTrace : result.leftTrace = (List.range n).map fun k =>
    left.captureTrace (runner.moment left right k).left (runner.moment left right k).cycle
  rightTrace : result.rightTrace = (List.range n).map fun k =>
    right.captureTrace (runner.moment left right k).right (runner.moment left right k).cycle
  stops : Stops left right runner n result.firstMismatch

theorem recorded_nil : Recorded left right runner 0 {} :=
  ⟨rfl, rfl, .clean fun _ hk => absurd hk (Nat.not_lt_zero _)⟩

theorem Recorded.agrees {n : ℕ} {result : LockstepRunResult}
    (h : Recorded left right runner n result) (hclean : result.firstMismatch = none) :
    ∀ k < n, (runner.moment left right k).agrees left right = true := by
  have hstops := h.stops
  rw [hclean] at hstops
  cases hstops with
  | clean hall => exact hall

/-- **One more comparison.** -/
theorem Recorded.append {n : ℕ} {result : LockstepRunResult}
    (h : Recorded left right runner n result) (hclean : result.firstMismatch = none)
    (hpassed : result.passed = true) :
    let one := ((runner.moment left right n).step left right).1
    Recorded left right runner (n + 1) (appendResult result one) ∧
      (appendResult result one).passed = one.passed ∧
      (one.passed = true ↔ (appendResult result one).firstMismatch = none) := by
  have hall := h.agrees hclean
  have hleft := h.leftTrace
  have hright := h.rightTrace
  obtain ⟨passed, leftTrace, rightTrace, firstMismatch⟩ := result
  obtain rfl : firstMismatch = none := hclean
  obtain rfl : passed = true := hpassed
  obtain rfl : leftTrace = _ := hleft
  obtain rfl : rightTrace = _ := hright
  cases hagrees : (runner.moment left right n).agrees left right with
  | true =>
    rw [step_of_agrees hagrees]
    refine ⟨⟨?_, ?_, .clean fun k hk => ?_⟩, rfl, iff_of_true rfl rfl⟩
    · rw [List.range_succ, List.map_append]
      rfl
    · rw [List.range_succ, List.map_append]
      rfl
    · rcases Nat.lt_succ_iff_lt_or_eq.mp hk with hlt | rfl
      · exact hall k hlt
      · exact hagrees
  | false =>
    rw [step_of_mismatch hagrees]
    refine ⟨⟨?_, ?_, ?_⟩, rfl, iff_of_false Bool.false_ne_true nofun⟩
    · rw [List.range_succ, List.map_append]
      rfl
    · rw [List.range_succ, List.map_append]
      rfl
    · show Stops left right runner (n + 1) (some (List.length _ + 0))
      rw [List.length_map, List.length_range]
      exact .mismatch hall hagrees

/-- What a command that compares returns: a record, and the runner where it ends. -/
def Executed (left : ICpu σ) (right : ICpu τ) (runner : LockstepRunner σ τ)
    (reached : LockstepRunner σ τ → Prop) (out : LockstepRunResult × LockstepRunner σ τ) : Prop :=
  ∃ n, Recorded left right runner n out.1 ∧ out.2 = runner.moment left right n ∧
    (out.1.passed = true ↔ out.1.firstMismatch = none ∧ reached out.2)

theorem step_executed : Executed left right runner (fun _ => True) (runner.step left right) := by
  have hnil : Recorded left right runner 0 {} := recorded_nil
  obtain ⟨hrecorded, hpassed, hclean⟩ := hnil.append rfl rfl
  have hresult : appendResult {} (runner.step left right).1 = (runner.step left right).1 := by
    cases hagrees : runner.agrees left right with
    | true => rw [step_of_agrees hagrees]; rfl
    | false => rw [step_of_mismatch hagrees]; rfl
  have hone : (runner.moment left right 0).step left right = runner.step left right := rfl
  rw [hone, hresult] at hrecorded hclean
  exact ⟨1, hrecorded, rfl, by rw [hclean, and_true]⟩

theorem cyclesLoop_of_passed {count : ℕ} {result : LockstepRunResult}
    (h : (runner.step left right).1.passed = true) :
    runner.cyclesLoop left right (count + 1) result =
      (runner.next left right).cyclesLoop left right count
        (appendResult result (runner.step left right).1) :=
  if_neg (c := (!(runner.step left right).1.passed) = true) (by rw [h]; decide)

theorem cyclesLoop_of_failed {count : ℕ} {result : LockstepRunResult}
    (h : (runner.step left right).1.passed = false) :
    runner.cyclesLoop left right (count + 1) result =
      (appendResult result (runner.step left right).1, runner.next left right) :=
  if_pos (c := (!(runner.step left right).1.passed) = true) (by rw [h]; rfl)

/-- **The loop of `step_cycles` records what it compares.** -/
theorem cyclesLoop_executed (count : ℕ) {n : ℕ} {result : LockstepRunResult}
    (h : Recorded left right runner n result) (hclean : result.firstMismatch = none)
    (hpassed : result.passed = true) : Executed left right runner (fun _ => True)
      ((runner.moment left right n).cyclesLoop left right count result) := by
  induction count generalizing n result with
  | zero => exact ⟨n, h, rfl, iff_of_true hpassed ⟨hclean, trivial⟩⟩
  | succ count ih =>
    obtain ⟨hrecorded, hsame, hone⟩ := h.append hclean hpassed
    cases hgood : ((runner.moment left right n).step left right).1.passed with
    | true =>
      rw [cyclesLoop_of_passed hgood]
      exact ih hrecorded (hone.mp hgood) (hsame.trans hgood)
    | false =>
      rw [cyclesLoop_of_failed hgood]
      refine ⟨n + 1, hrecorded, rfl, ?_⟩
      rw [hsame, hone, and_true]

variable {condition : LockstepRunner σ τ → Bool}

theorem fetchLoop_of_failed {steps : ℕ} {flag : Bool} {result : LockstepRunResult}
    (h : (runner.step left right).1.passed = false) :
    runner.fetchLoop left right condition (steps + 1) flag result =
      (appendResult result (runner.step left right).1, runner.next left right) :=
  if_pos (c := (!(runner.step left right).1.passed) = true) (by rw [h]; rfl)

theorem fetchLoop_of_passed {steps : ℕ} {flag : Bool} {result : LockstepRunResult}
    (h : (runner.step left right).1.passed = true) :
    runner.fetchLoop left right condition (steps + 1) flag result =
      if condition (runner.next left right) then
        (appendResult result (runner.step left right).1, runner.next left right)
      else (runner.next left right).fetchLoop left right condition steps
        (condition (runner.next left right)) (appendResult result (runner.step left right).1) :=
  if_neg (c := (!(runner.step left right).1.passed) = true) (by rw [h]; decide)

/-- **The loops that step to a fetch record what they compare.** -/
theorem fetchLoop_executed (steps : ℕ) {n : ℕ} {result : LockstepRunResult}
    (h : Recorded left right runner n result) (hclean : result.firstMismatch = none)
    (hpassed : result.passed = true) : Executed left right runner (condition · = true)
      ((runner.moment left right n).fetchLoop left right condition steps
        (condition (runner.moment left right n)) result) := by
  induction steps generalizing n result with
  | zero =>
    rw [fetchLoop]
    cases hreached : condition (runner.moment left right n) with
    | true => exact ⟨n, h, rfl, iff_of_true hpassed ⟨hclean, hreached⟩⟩
    | false =>
      refine ⟨n, ⟨h.leftTrace, h.rightTrace, h.stops⟩, rfl, iff_of_false Bool.false_ne_true ?_⟩
      rintro ⟨-, hat⟩
      exact Bool.false_ne_true (hreached.symm.trans hat)
  | succ steps ih =>
    obtain ⟨hrecorded, hsame, hone⟩ := h.append hclean hpassed
    cases hgood : ((runner.moment left right n).step left right).1.passed with
    | true =>
      rw [fetchLoop_of_passed hgood]
      by_cases hreached : condition ((runner.moment left right n).next left right) = true
      · rw [if_pos hreached]
        exact ⟨n + 1, hrecorded, rfl, iff_of_true (hsame.trans hgood) ⟨hone.mp hgood, hreached⟩⟩
      · rw [if_neg hreached]
        exact ih hrecorded (hone.mp hgood) (hsame.trans hgood)
    | false =>
      rw [fetchLoop_of_failed hgood]
      refine ⟨n + 1, hrecorded, rfl, iff_of_false ?_ ?_⟩
      · rw [hsame, hgood]
        exact Bool.false_ne_true
      · rintro ⟨hnone, -⟩
        exact Bool.false_ne_true (hgood.symm.trans (hone.mpr hnone))

end LockstepRunner

/-! ### In step -/

/-- What a runner does to a backend. -/
inductive BackendCall
  | step
  | irq (asserted : Bool)
  | nmi (asserted : Bool)
deriving DecidableEq

/-- A backend after a call. -/
def ICpu.call {σ : Type} (cpu : ICpu σ) (s : σ) : BackendCall → σ
  | .step => cpu.step s
  | .irq asserted => cpu.irq asserted s
  | .nmi asserted => cpu.nmi asserted s

/-- A backend after a list of calls. -/
def ICpu.after {σ : Type} (cpu : ICpu σ) (calls : List BackendCall) (s : σ) : σ :=
  calls.foldl cpu.call s

namespace LockstepRunner

variable {σ τ : Type} (left : ICpu σ) (right : ICpu τ)

/-- Both backends have had the same calls since a runner, and the cycle counter counts those that
are steps. -/
def InStep (start runner : LockstepRunner σ τ) : Prop :=
  ∃ calls, runner.left = left.after calls start.left ∧
    runner.right = right.after calls start.right ∧
    runner.cycle = start.cycle + BitVec.ofNat 64 (calls.count .step)

variable {left right} {start middle runner : LockstepRunner σ τ}

theorem inStep_refl : InStep left right start start := ⟨[], rfl, rfl, (BitVec.add_zero _).symm⟩

theorem InStep.trans (h : InStep left right start middle) (g : InStep left right middle runner) :
    InStep left right start runner := by
  obtain ⟨calls, hleft, hright, hcycle⟩ := h
  obtain ⟨more, gleft, gright, gcycle⟩ := g
  refine ⟨calls ++ more, ?_, ?_, ?_⟩
  · rw [gleft, hleft, ICpu.after, ICpu.after, ICpu.after, List.foldl_append]
  · rw [gright, hright, ICpu.after, ICpu.after, ICpu.after, List.foldl_append]
  · rw [gcycle, hcycle, List.count_append, BitVec.ofNat_add, BitVec.add_assoc]

/-- A step is taken by both backends or by none. -/
theorem inStep_next : InStep left right runner (runner.next left right) := by
  rw [next]
  cases hagrees : runner.agrees left right with
  | true =>
    rw [step_of_agrees hagrees]
    exact ⟨[.step], rfl, rfl, rfl⟩
  | false =>
    rw [step_of_mismatch hagrees]
    exact inStep_refl

theorem inStep_moment (k : ℕ) : InStep left right runner (runner.moment left right k) := by
  induction k with
  | zero => exact inStep_refl
  | succ k ih => exact ih.trans inStep_next

theorem inStep_irq (asserted : Bool) :
    InStep left right runner (runner.irq left right asserted).2 :=
  ⟨[.irq asserted], rfl, rfl, (BitVec.add_zero _).symm⟩

theorem inStep_nmi (asserted : Bool) :
    InStep left right runner (runner.nmi left right asserted).2 :=
  ⟨[.nmi asserted], rfl, rfl, (BitVec.add_zero _).symm⟩

end LockstepRunner

/-! ### One command -/

/-- The pairs of entries that a result holds. -/
def LockstepRunResult.pairs (result : LockstepRunResult) : List (CpuTraceEntry × CpuTraceEntry) :=
  result.leftTrace.zip result.rightTrace

namespace LockstepRunner

variable {σ τ : Type} (left : ICpu σ) (right : ICpu τ)

/-- What both backends must have reached for a command to pass. -/
def Reached (runner : LockstepRunner σ τ) : LockstepCommand → Prop
  | .stepToFetch _ => runner.fetching left right = true
  | .stepToFetchAt address _ => runner.fetchingAt left right address = true
  | _ => True

/-- The entries of both backends at a moment of a command. -/
def shown (runner : LockstepRunner σ τ) : CpuTraceEntry × CpuTraceEntry :=
  (left.captureTrace runner.left runner.cycle, right.captureTrace runner.right runner.cycle)

/-- The result of a command says what happened. -/
structure Faithful (options : CompareOptions) (start runner : LockstepRunner σ τ)
    (command : LockstepCommand) (out : LockstepRunResult × LockstepRunner σ τ) : Prop where
  lengths : out.1.leftTrace.length = out.1.rightTrace.length
  shows : ∀ k pair, out.1.pairs[k]? = some pair →
    pair = (runner.moment left right k).shown left right
  matched : ∀ k pair, out.1.pairs[k]? = some pair → (∀ m, out.1.firstMismatch = some m → k < m) →
    tracesMatch pair.1 pair.2 options = true
  mismatch : ∀ m, out.1.firstMismatch = some m → out.1.pairs.length = m + 1 ∧
    ∃ pair, out.1.pairs[m]? = some pair ∧ tracesMatch pair.1 pair.2 options = false
  passed : out.1.passed = true ↔
    (∀ pair ∈ out.1.pairs, tracesMatch pair.1 pair.2 options = true) ∧
      out.2.Reached left right command
  inStep : ∀ k, InStep left right start (runner.moment left right k)
  after : InStep left right start out.2

variable {left right} {start runner : LockstepRunner σ τ} {command : LockstepCommand}
  {options : CompareOptions}

theorem Recorded.pairs {n : ℕ} {result : LockstepRunResult}
    (h : Recorded left right runner n result) :
    result.pairs = (List.range n).map fun k => (runner.moment left right k).shown left right := by
  rw [LockstepRunResult.pairs, h.leftTrace, h.rightTrace, List.zip_map']
  rfl

theorem Recorded.pair {n k : ℕ} {result : LockstepRunResult}
    (h : Recorded left right runner n result) {pair : CpuTraceEntry × CpuTraceEntry} :
    result.pairs[k]? = some pair ↔
      k < n ∧ pair = (runner.moment left right k).shown left right := by
  rw [h.pairs, List.getElem?_map]
  by_cases hk : k < n
  · rw [List.getElem?_range hk, Option.map_some, Option.some_inj, eq_comm]
    exact (and_iff_right hk).symm
  · rw [List.getElem?_eq_none (by rw [List.length_range]; exact Nat.not_lt.mp hk), Option.map_none]
    exact iff_of_false nofun fun h => hk h.1

theorem match_moment (hoptions : runner.compare = options) (k : ℕ) :
    tracesMatch ((runner.moment left right k).shown left right).1
        ((runner.moment left right k).shown left right).2 options =
      (runner.moment left right k).agrees left right := by
  rw [agrees, compare_moment, hoptions]
  rfl

/-- **A record is faithful.** -/
theorem Executed.faithful {out : LockstepRunResult × LockstepRunner σ τ}
    {reached : LockstepRunner σ τ → Prop} (h : Executed left right runner reached out)
    (hreached : reached out.2 ↔ out.2.Reached left right command)
    (hoptions : runner.compare = options) (hstart : InStep left right start runner) :
    Faithful left right options start runner command out := by
  obtain ⟨n, hrecorded, hafter, hpassed⟩ := h
  refine ⟨?_, ?_, ?_, ?_, ?_, fun k => hstart.trans (inStep_moment k), ?_⟩
  · rw [hrecorded.leftTrace, hrecorded.rightTrace, List.length_map, List.length_map]
  · intro k pair hpair
    exact (hrecorded.pair.mp hpair).2
  · intro k pair hpair hbefore
    obtain ⟨hk, rfl⟩ := hrecorded.pair.mp hpair
    rw [match_moment hoptions]
    have hstops := hrecorded.stops
    generalize out.1.firstMismatch = firstMismatch at hstops hbefore
    cases hstops with
    | clean hall => exact hall k hk
    | mismatch hall hlast => exact hall k (hbefore _ rfl)
  · intro m hm
    have hstops := hrecorded.stops
    rw [hm] at hstops
    cases hstops with
    | mismatch hall hlast =>
      refine ⟨?_, _, hrecorded.pair.mpr ⟨Nat.lt_succ_self m, rfl⟩, ?_⟩
      · rw [hrecorded.pairs, List.length_map, List.length_range]
      · rw [match_moment hoptions, hlast]
  · rw [hpassed, hreached]
    refine and_congr_left fun _ => ⟨fun hnone => ?_, fun hall => ?_⟩
    · intro pair hpair
      obtain ⟨k, hk⟩ := List.mem_iff_getElem?.mp hpair
      obtain ⟨hlt, rfl⟩ := hrecorded.pair.mp hk
      rw [match_moment hoptions]
      exact hrecorded.agrees hnone k hlt
    · have hstops := hrecorded.stops
      generalize out.1.firstMismatch = firstMismatch at hstops
      cases hstops with
      | clean => rfl
      | @mismatch m _ hlast =>
        have hpair := hrecorded.pair.mpr ⟨Nat.lt_succ_self m, rfl⟩
        have hmatch := hall _ (List.mem_of_getElem? hpair)
        rw [match_moment hoptions, hlast] at hmatch
        exact absurd hmatch Bool.false_ne_true
  · rw [hafter]
    exact hstart.trans (inStep_moment n)

/-- A command for the interrupt pins compares nothing. -/
theorem faithful_pins {after : LockstepRunner σ τ} (hcommand : after.Reached left right command)
    (hstart : InStep left right start runner) (hafter : InStep left right runner after) :
    Faithful left right options start runner command ({}, after) := by
  have hpairs : ∀ pair ∈ LockstepRunResult.pairs {}, False := fun pair => List.not_mem_nil
  refine ⟨rfl, fun k pair hk => ?_, fun k pair hk _ => ?_, nofun, ?_, fun k => ?_, ?_⟩
  · exact (hpairs pair (List.mem_of_getElem? hk)).elim
  · exact (hpairs pair (List.mem_of_getElem? hk)).elim
  · exact iff_of_true rfl ⟨fun pair hpair => (hpairs pair hpair).elim, hcommand⟩
  · exact hstart.trans (inStep_moment k)
  · exact hstart.trans hafter

/-- **The result of a command is faithful.** -/
theorem execute_faithful (hoptions : runner.compare = options)
    (hstart : InStep left right start runner) (command : LockstepCommand) :
    Faithful left right options start runner command (runner.execute left right command) := by
  cases command with
  | step => exact step_executed.faithful Iff.rfl hoptions hstart
  | stepCycles count =>
    exact (cyclesLoop_executed count recorded_nil rfl rfl).faithful Iff.rfl hoptions hstart
  | stepToFetch maxSteps =>
    exact (fetchLoop_executed maxSteps recorded_nil rfl rfl).faithful Iff.rfl hoptions hstart
  | stepToFetchAt address maxSteps =>
    exact (fetchLoop_executed maxSteps recorded_nil rfl rfl).faithful Iff.rfl hoptions hstart
  | nmiAssert => exact faithful_pins trivial hstart (inStep_nmi true)
  | nmiDeassert => exact faithful_pins trivial hstart (inStep_nmi false)
  | irqAssert => exact faithful_pins trivial hstart (inStep_irq true)
  | irqDeassert => exact faithful_pins trivial hstart (inStep_irq false)

/-! ### All commands -/

/-- The runner before a command of a list is executed. -/
def before (left : ICpu σ) (right : ICpu τ) (commands : List LockstepCommand) (i : ℕ)
    (runner : LockstepRunner σ τ) : LockstepRunner σ τ :=
  (commands.take i).foldl (fun runner command => (runner.execute left right command).2) runner

variable {commands : List LockstepCommand}

theorem before_succ {i : ℕ} (h : commands[i]? = some command) :
    runner.before left right commands (i + 1) =
      ((runner.before left right commands i).execute left right command).2 := by
  rw [before, List.take_add_one, List.foldl_append, h]
  rfl

theorem before_succ_of_none {i : ℕ} (h : commands[i]? = none) :
    runner.before left right commands (i + 1) = runner.before left right commands i := by
  rw [before, List.take_add_one, h, Option.toList_none, List.append_nil]
  rfl

theorem inStep_execute (command : LockstepCommand) :
    InStep left right runner (runner.execute left right command).2 :=
  (execute_faithful rfl inStep_refl command).after

theorem inStep_before (i : ℕ) : InStep left right runner (runner.before left right commands i) := by
  induction i with
  | zero => exact inStep_refl
  | succ i ih =>
    cases hcommand : commands[i]? with
    | some command =>
      rw [before_succ hcommand]
      exact ih.trans (inStep_execute command)
    | none =>
      rw [before_succ_of_none hcommand]
      exact ih

theorem Executed.compare {reached : LockstepRunner σ τ → Prop}
    {out : LockstepRunResult × LockstepRunner σ τ} (h : Executed left right runner reached out) :
    out.2.compare = runner.compare := by
  obtain ⟨n, -, hafter, -⟩ := h
  rw [hafter, compare_moment]

theorem compare_execute (command : LockstepCommand) :
    (runner.execute left right command).2.compare = runner.compare := by
  cases command with
  | step => exact step_executed.compare
  | stepCycles count => exact (cyclesLoop_executed count recorded_nil rfl rfl).compare
  | stepToFetch maxSteps => exact (fetchLoop_executed maxSteps recorded_nil rfl rfl).compare
  | stepToFetchAt address maxSteps =>
    exact (fetchLoop_executed maxSteps recorded_nil rfl rfl).compare
  | nmiAssert => rfl
  | nmiDeassert => rfl
  | irqAssert => rfl
  | irqDeassert => rfl

theorem compare_before (i : ℕ) :
    (runner.before left right commands i).compare = runner.compare := by
  induction i with
  | zero => rfl
  | succ i ih =>
    cases hcommand : commands[i]? with
    | some command => rw [before_succ hcommand, compare_execute, ih]
    | none => rw [before_succ_of_none hcommand, ih]

/-- What the loop over the commands has made after a number of them. -/
structure Progress (left : ICpu σ) (right : ICpu τ) (commands : List LockstepCommand)
    (start : LockstepRunner σ τ) (i : ℕ) (result : LockstepScenarioResult)
    (runner : LockstepRunner σ τ) : Prop where
  le : i ≤ commands.length
  length : result.results.length = i
  results : ∀ j one, result.results[j]? = some one → ∃ command, commands[j]? = some command ∧
    one = ((start.before left right commands j).execute left right command).1
  first : result.firstFailedCommand = result.results.findIdx? (!·.passed)
  passed : result.passed = result.firstFailedCommand.isNone
  runner : runner = start.before left right commands i

theorem progress_nil : Progress left right commands start 0 {} start :=
  ⟨Nat.zero_le _, rfl, nofun, rfl, rfl, rfl⟩

/-- The scenario's result with that of one more command. -/
def collect (i : ℕ) (result : LockstepScenarioResult) (one : LockstepRunResult) :
    LockstepScenarioResult :=
  let result :=
    if !one.passed && result.firstFailedCommand.isNone then
      { result with passed := false, firstFailedCommand := some i }
    else result
  { result with results := result.results ++ [one] }

theorem commandLoop_cons {config : LockstepScenarioConfig} {i : ℕ} {rest : List LockstepCommand}
    {result : LockstepScenarioResult} :
    runner.commandLoop left right config i (command :: rest) result =
      let result := collect i result (runner.execute left right command).1
      if !result.passed && config.stopOnFailure then
        (result, (runner.execute left right command).2)
      else
        (runner.execute left right command).2.commandLoop left right config (i + 1) rest result :=
  rfl

theorem results_collect (i : ℕ) (result : LockstepScenarioResult) (one : LockstepRunResult) :
    (collect i result one).results = result.results ++ [one] := by
  rw [collect]
  split <;> rfl

theorem firstFailedCommand_collect (i : ℕ) (result : LockstepScenarioResult)
    (one : LockstepRunResult) : (collect i result one).firstFailedCommand =
      result.firstFailedCommand.or (if one.passed then none else some i) := by
  obtain ⟨passed, results, firstFailedCommand⟩ := result
  rw [collect]
  cases one.passed <;> cases firstFailedCommand <;> rfl

theorem passed_collect {i : ℕ} {result : LockstepScenarioResult} {one : LockstepRunResult}
    (h : result.passed = result.firstFailedCommand.isNone) :
    (collect i result one).passed = (collect i result one).firstFailedCommand.isNone := by
  rw [collect]
  split
  · rfl
  · exact h

/-- **One more command.** -/
theorem Progress.step {i : ℕ} {result : LockstepScenarioResult}
    (h : Progress left right commands start i result runner)
    (hcommand : commands[i]? = some command) :
    Progress left right commands start (i + 1)
      (collect i result (runner.execute left right command).1)
      (runner.execute left right command).2 := by
  refine ⟨?_, ?_, fun j one hone => ?_, ?_, passed_collect h.passed, ?_⟩
  · exact (List.getElem?_eq_some_iff.mp hcommand).1
  · rw [results_collect, List.length_append, h.length]
    rfl
  · rw [results_collect] at hone
    rcases Nat.lt_or_ge j result.results.length with hlt | hge
    · rw [List.getElem?_append_left hlt] at hone
      exact h.results j one hone
    · rw [List.getElem?_append_right hge] at hone
      obtain ⟨hj, rfl⟩ := List.getElem?_eq_some_iff.mp hone
      have hj : j = i := by
        rw [List.length_singleton, h.length] at hj
        rw [h.length] at hge
        omega
      subst hj
      refine ⟨command, hcommand, ?_⟩
      rw [List.getElem_singleton, h.runner]
  · rw [firstFailedCommand_collect, results_collect, List.findIdx?_append, h.first, h.length,
      List.findIdx?_cons, List.findIdx?_nil]
    cases (runner.execute left right command).1.passed with
    | true => rfl
    | false => rw [Bool.not_false, if_pos rfl, Option.map_some, Nat.zero_add]; rfl
  · rw [before_succ hcommand, h.runner]

/-- **The loop over the commands.** -/
theorem commandLoop_progress (config : LockstepScenarioConfig) (rest : List LockstepCommand) {i : ℕ}
    {result : LockstepScenarioResult} (h : Progress left right commands start i result runner)
    (hrest : commands.drop i = rest) (hgoing : config.stopOnFailure = true → result.passed = true) :
    ∃ n, Progress left right commands start n
        (runner.commandLoop left right config i rest result).1
        (runner.commandLoop left right config i rest result).2 ∧
      (∀ j, config.stopOnFailure = true →
        (runner.commandLoop left right config i rest result).1.firstFailedCommand = some j →
          n = j + 1) ∧
      (n < commands.length → config.stopOnFailure = true ∧
        (runner.commandLoop left right config i rest result).1.firstFailedCommand ≠ none) := by
  induction rest generalizing i result runner with
  | nil =>
    refine ⟨i, h, fun j hconfig hj => ?_, fun hi => ?_⟩
    · have hpassed : result.passed = false := h.passed.trans (congrArg Option.isNone hj)
      exact absurd (hgoing hconfig) (by rw [hpassed]; exact Bool.false_ne_true)
    · exact absurd hi (Nat.not_lt.mpr (List.drop_eq_nil_iff.mp hrest))
  | cons command rest ih =>
    have hcommand : commands[i]? = some command := by
      rw [← Nat.add_zero i, ← List.getElem?_drop, hrest]
      rfl
    have hdrop : commands.drop (i + 1) = rest := by
      rw [← List.drop_drop, hrest]
      rfl
    have hstep := h.step hcommand
    rw [commandLoop_cons]
    dsimp only
    split
    · rename_i hstop
      obtain ⟨hfailed, hconfig⟩ := Bool.and_eq_true_iff.mp hstop
      have hnone : result.firstFailedCommand = none := by
        rw [← Option.isNone_iff_eq_none, ← h.passed]
        exact hgoing hconfig
      rw [hstep.passed, firstFailedCommand_collect, hnone, Option.none_or] at hfailed
      refine ⟨i + 1, hstep, ?_⟩
      rw [firstFailedCommand_collect, hnone, Option.none_or]
      split at hfailed
      · exact absurd hfailed Bool.false_ne_true
      · rename_i hone
        rw [if_neg hone]
        exact ⟨fun j _ hj => congrArg (· + 1) (Option.some_inj.mp hj), fun _ => ⟨hconfig, nofun⟩⟩
    · rename_i hgo
      refine ih hstep hdrop fun hconfig => ?_
      rw [hconfig, Bool.and_true] at hgo
      simpa using hgo

end LockstepRunner

theorem of_bind_eq_pure {α β : Type} {x : Outcome α} {f : α → Outcome β} {b : β}
    (h : x >>= f = pure b) : ∃ a, x = pure a ∧ f a = pure b := by
  rcases x with _ | _ | a
  · exact nomatch h
  · exact nomatch h
  · exact ⟨a, rfl, h⟩

theorem pure_inj {α : Type} {a b : α} (h : (pure a : Outcome α) = pure b) : a = b :=
  Except.ok.inj (Option.some.inj h)

/-- A setup sets what is compared. -/
theorem compare_setupAndRun {σ τ : Type} {left : ICpu σ} {right : ICpu τ}
    {random : BitVec 32 → MemoryImage} {passes : ℕ} {test : Testcase} {config : LockstepConfig}
    {runner start : LockstepRunner σ τ}
    (h : runner.setupAndRun left right random passes test config = pure (true, start)) :
    start.compare = config.compare := by
  obtain ⟨⟨completed, leftAfter⟩, -, h⟩ := of_bind_eq_pure h
  cases completed with
  | false => exact absurd (congrArg Prod.fst (pure_inj h)) Bool.false_ne_true
  | true =>
    obtain ⟨⟨completed, rightAfter⟩, -, h⟩ := of_bind_eq_pure h
    cases completed with
    | false => exact absurd (congrArg Prod.fst (pure_inj h)) Bool.false_ne_true
    | true =>
      have hstart : _ = start := congrArg Prod.snd (pure_inj h)
      rw [← hstart]
      show (LockstepRunner.initializeMemory left right random config.memory _).compare = _
      rw [LockstepRunner.initializeMemory]
      split <;> rfl

open LockstepRunner in
/-- **The result of a run is faithful.** -/
theorem lockstep_faithful {σ τ : Type} (left : ICpu σ) (right : ICpu τ)
    (random : BitVec 32 → MemoryImage) (passes : ℕ) (commands : List LockstepCommand)
    (config : LockstepScenarioConfig) (scenario : LockstepScenarioRunner σ τ)
    (hsetup : scenario.hasSetup = true) {start : LockstepRunner σ τ}
    (hstart : scenario.lockstep.setupAndRun left right random passes scenario.test
      scenario.lockstepConfig = pure (true, start)) :
    ∃ result after,
      scenario.restartRun left right random passes commands config =
        pure (result, { scenario with lockstep := after }) ∧
      (∀ i one, result.results[i]? = some one → ∃ command, commands[i]? = some command ∧
        one = ((start.before left right commands i).execute left right command).1 ∧
        Faithful left right scenario.lockstepConfig.compare start
          (start.before left right commands i) command
          ((start.before left right commands i).execute left right command)) ∧
      result.firstFailedCommand = result.results.findIdx? (!·.passed) ∧
      (result.passed = true ↔ ∀ one ∈ result.results, one.passed = true) ∧
      after = start.before left right commands result.results.length ∧
      (∀ i, config.stopOnFailure = true → result.firstFailedCommand = some i →
        result.results.length = i + 1) ∧
      (config.stopOnFailure = false ∨ result.firstFailedCommand = none →
        result.results.length = commands.length) := by
  have hcompare := compare_setupAndRun hstart
  have hnil : Progress left right commands start 0 {} start := progress_nil
  obtain ⟨n, hprogress, hstop, hall⟩ := commandLoop_progress config commands hnil rfl fun _ => rfl
  have hrun : scenario.restartRun left right random passes commands config =
      pure ((start.commandLoop left right config 0 commands {}).1,
        { scenario with lockstep := (start.commandLoop left right config 0 commands {}).2 }) := by
    rw [LockstepScenarioRunner.restartRun, hsetup, hstart]
    rfl
  refine ⟨_, _, hrun, fun i one hone => ?_, hprogress.first, ?_, ?_, ?_, ?_⟩
  · obtain ⟨command, hcommand, rfl⟩ := hprogress.results i one hone
    refine ⟨command, hcommand, rfl, execute_faithful ?_ (inStep_before i) command⟩
    rw [compare_before, hcompare]
  · rw [hprogress.passed, hprogress.first, Option.isNone_iff_eq_none, List.findIdx?_eq_none_iff]
    refine forall₂_congr fun one _ => ?_
    rw [Bool.not_eq_false_eq_eq_true]
  · rw [hprogress.length, hprogress.runner]
  · intro i hconfig hfirst
    rw [hprogress.length]
    exact hstop i hconfig hfirst
  · intro hgoing
    rw [hprogress.length]
    refine le_antisymm hprogress.le (Nat.not_lt.mp fun hlt => ?_)
    obtain ⟨hconfig, hfirst⟩ := hall hlt
    rcases hgoing with hfalse | hnone
    · exact Bool.false_ne_true (hfalse.symm.trans hconfig)
    · exact hfirst hnone

/-! ### A backend that sweeps its addresses -/

/-- A backend that fetches an opcode in every cycle, at one address after the other. -/
def sweep (data : Word → Byte) : ICpu Word where
  restart _ := 0
  irq _ s := s
  isIrqAsserted _ := false
  nmi _ s := s
  isNmiAsserted _ := false
  step s := s + 1
  busAddress s := s
  busData := data
  memory _ _ := 0xEA
  setMemory _ s := s
  isWrite _ := false
  isOpcodeFetch _ := true
  pc s := s
  s _ := 0
  a _ := 0
  x _ := 0
  y _ := 0
  p _ := 0

theorem applyMemValues_sweep (data : Word → Byte) (setup : MemorySetup) (s : Word) :
    (sweep data).applyMemValues setup s = s := by
  rw [ICpu.applyMemValues]
  induction setup with
  | nil => rfl
  | cons _ _ ih => exact ih

theorem setup_sweep (data : Word → Byte) :
    (sweep data).setupAndRunOneBackend 3 { startAt := 0xFE00 } 0xFDFF = pure (true, 0xFE00) := by
  obtain ⟨setup, hsetup⟩ : ∃ setup,
      makeBootstrap 3 (makeTemporaryBootstrapTestcase { startAt := 0xFE00 }) = pure setup :=
    ⟨_, rfl⟩
  rw [ICpu.setupAndRunOneBackend, ICpu.trySoftSetupAndRun, hsetup]
  simp only [pure_bind, applyMemValues_sweep]
  rfl

theorem setupAndRun_sweep (data : Word → Byte) :
    LockstepRunner.setupAndRun (sweep fun _ => 0) (sweep data) (fun _ _ => 0) 3
      { startAt := 0xFE00 } { memory := .unchanged } ⟨0xFDFF, 0xFDFF, {}, 0⟩ =
        pure (true, ⟨0xFE00, 0xFE00, {}, 0⟩) := by
  have hkept : (!MemoryInit.unchanged.initializesFullMemory) = true := rfl
  rw [LockstepRunner.setupAndRun, LockstepRunner.initializeMemory, if_pos hkept]
  simp only [setup_sweep, pure_bind]
  rfl

/-- Two sweeps that differ in what they read at 0xFE02. -/
theorem lockstep_faithful_sweep : ∃ result after,
    LockstepScenarioRunner.restartRun (sweep fun _ => 0)
      (sweep fun a => if a = 0xFE02 then 1 else 0) (fun _ _ => 0) 3
      [.step, .stepCycles 5, .irqAssert] {}
      ⟨⟨0xFDFF, 0xFDFF, {}, 0⟩, { startAt := 0xFE00 }, { memory := .unchanged }, true⟩ =
        pure (result, ⟨after, { startAt := 0xFE00 }, { memory := .unchanged }, true⟩) ∧
    result.firstFailedCommand = result.results.findIdx? (!·.passed) ∧
    (result.passed = true ↔ ∀ one ∈ result.results, one.passed = true) ∧
    ∀ i, result.firstFailedCommand = some i → result.results.length = i + 1 := by
  obtain ⟨result, after, hrun, -, hfirst, hpassed, -, hstop, -⟩ :=
    lockstep_faithful (sweep fun _ => 0) (sweep fun a => if a = 0xFE02 then 1 else 0)
      (fun _ _ => 0) 3 [.step, .stepCycles 5, .irqAssert] {}
      ⟨⟨0xFDFF, 0xFDFF, {}, 0⟩, { startAt := 0xFE00 }, { memory := .unchanged }, true⟩ rfl
      (setupAndRun_sweep _)
  exact ⟨result, after, hrun, hfirst, hpassed, fun i => hstop i rfl⟩

end Tools6502

end Qe6502
