import Qe6502.Restart

/-!
# Host resets

`Qe6502InstructionCpu::reset` and `ICpu::restart_to_start_fetch` on the qe6502 backend run the
restart sequence until an opcode fetch at the reset vector is on the bus.  The fetch in the
middle of the sequence can have that address too, and then they stop there: `reset_completes`
says exactly when they reach the end of the sequence.
-/

namespace Qe6502

/-- `Qe6502InstructionCpu` with its counters. -/
structure InstructionAdapter extends InstructionCpu where
  instructionCount : BitVec 64
  irqDeassertAt : BitVec 64
  nmiDeassertAt : BitVec 64
  hasIrqDeassertAt : Bool
  hasNmiDeassertAt : Bool

namespace InstructionCpu

/-- The loop of both resets, for a given number of steps at most, with the steps made so far. -/
def fetchLoop (start : Word) : Nat → Nat → InstructionCpu → Option (Nat × InstructionCpu)
  | 0, steps, m => some (steps, m)
  | limit + 1, steps, m =>
    if m.tick.fetching ∧ ¬m.isWrite ∧ m.tick.address = start then some (steps, m)
    else m.stepCycle.bind (fetchLoop start limit (steps + 1))

end InstructionCpu

/-- An NMOS adapter with a memory, before its first reset. -/
def blankAdapter (memory : Word → Byte) : InstructionAdapter where
  cpu := blankCpu
  tick := ⟨0, 0, 0⟩
  memory := memory
  instructionCount := 0
  irqDeassertAt := 0
  nmiDeassertAt := 0
  hasIrqDeassertAt := false
  hasNmiDeassertAt := false

namespace InstructionAdapter

def clearScheduledIrqDeassert (m : InstructionAdapter) : InstructionAdapter :=
  { m with hasIrqDeassertAt := false, irqDeassertAt := 0 }

def clearScheduledNmiDeassert (m : InstructionAdapter) : InstructionAdapter :=
  { m with hasNmiDeassertAt := false, nmiDeassertAt := 0 }

def maxResetCycles : Nat := 64

/-- `reset` up to its loop. -/
def restarted (m : InstructionAdapter) : InstructionAdapter :=
  let m := { m with instructionCount := 0 }
  let m := m.clearScheduledIrqDeassert
  let m := m.clearScheduledNmiDeassert
  let m := { m with cpu := irqAssert m.cpu 0 }
  let m := { m with cpu := nmiAssert m.cpu 0 }
  let r := restart m.cpu
  { m with cpu := r.1, tick := r.2 }

/-- `Qe6502InstructionCpu::reset`. -/
def reset (m : InstructionAdapter) : Option InstructionAdapter :=
  let start := startAddress m.memory
  let m := m.restarted
  (m.fetchLoop start maxResetCycles 0).map fun r => { m with toInstructionCpu := r.2 }

end InstructionAdapter

/-! ### The bridge -/

namespace InstructionCpu

/-- The loop of `Qe6502Cpu::restart`, with a bound on the steps that only counts. -/
def leaveReset : Nat → InstructionCpu → Option InstructionCpu
  | 0, _ => none
  | fuel + 1, m =>
    if m.tick.status &&& statusInternalReset ≠ 0 then m.stepCycle.bind (leaveReset fuel)
    else some m

/-- `Qe6502Cpu::restart`. -/
def bridgeRestart (fuel : Nat) (m : InstructionCpu) : Option InstructionCpu :=
  let r := restart m.cpu
  { m with cpu := r.1, tick := r.2 }.leaveReset fuel

/-- `ICpu::restart_to_start_fetch`: the steps it returns and the CPU. -/
def restartToStartFetch (fuel maxSteps : Nat) (m : InstructionCpu) :
    Option (Nat × InstructionCpu) :=
  let start := startAddress m.memory
  (m.bridgeRestart fuel).bind (fetchLoop start maxSteps 0)

end InstructionCpu

/-! ### Where the loops stop -/

/-- The address of the fetch in the middle of the restart sequence. -/
def fakeFetchAddress (memory : Word → Byte) : Word := restartPc memory 10

/-- The CPU is at the opcode fetch that ends the restart sequence, and the next step executes
the instruction there. -/
structure InstructionCpu.AtReset (memory : Word → Byte) (m : InstructionCpu) : Prop where
  stack : m.cpu.s = 0xBD
  iSet : flag m.cpu.p flagI ≠ 0
  fetching : m.tick.fetching = true
  address : m.tick.address = startAddress memory
  dispatches : ∃ h, Executes m.cpu (memory (startAddress memory))
    (memory (startAddress memory)).toNat 0 h (dispatched m.cpu (memory (startAddress memory)))

section loops

variable {model : Byte} (hm : model.toNat < 5) {memory : Word → Byte} {k : Nat}
  {m : InstructionCpu}

include hm

theorem RestartAt.stepCycle (h : RestartAt model memory k m) (hk : k < 17) :
    ∃ m', m.stepCycle = some m' ∧ RestartAt model memory (k + 1) m' := by
  obtain ⟨m', hm', h'⟩ := h.step hm hk InstructionCpu.adapterAnswer []
  refine ⟨m', ?_, h'⟩
  rw [InstructionCpu.stepCycle_eq_hostCycle]
  exact hm'

theorem leaveReset_restart {fuel : Nat} : ∀ {k : Nat} {m : InstructionCpu},
    RestartAt model memory k m → k ≤ 8 → 8 < k + fuel →
      ∃ m', m.leaveReset fuel = some m' ∧ RestartAt model memory 8 m' := by
  have hall : ∀ k ≤ 8, restartStatus k &&& statusInternalReset ≠ 0 ↔ k < 8 := by decide
  induction fuel with
  | zero => intro k m _ hk hfuel; omega
  | succ fuel ih =>
    intro k m h hk hfuel
    rw [InstructionCpu.leaveReset, h.status (by omega)]
    rcases Nat.lt_or_ge k 8 with hlt | hge
    · obtain ⟨m', hm', h'⟩ := h.stepCycle hm (by omega)
      rw [if_pos ((hall k hk).mpr hlt), hm']
      exact ih h' (by omega) (by omega)
    · obtain rfl : k = 8 := by omega
      rw [if_neg (by decide)]
      exact ⟨m, rfl, h⟩

/-- **Where the loop stops.** -/
theorem fetchLoop_restart (limit : Nat) : ∀ (steps : Nat) {k : Nat} {m : InstructionCpu},
    RestartAt model memory k m → k ≤ 17 → 17 < k + limit →
      ∃ steps' m', m.fetchLoop (startAddress memory) limit steps = some (steps', m') ∧
        RestartAt model memory
          (if k ≤ 10 ∧ fakeFetchAddress memory = startAddress memory then 10 else 17) m' := by
  induction limit with
  | zero => intro steps k m _ hk hlimit; omega
  | succ limit ih =>
    intro steps k m h hk hlimit
    have haddress : m.tick.address = startAddress memory ↔
        (restartTick (restartPc memory k) k).address = startAddress memory := by rw [h.tick]
    by_cases hstop : k = 17 ∨ k = 10 ∧ fakeFetchAddress memory = startAddress memory
    · have hcond : m.tick.fetching ∧ ¬m.isWrite ∧ m.tick.address = startAddress memory := by
        refine ⟨(h.fetching hk).mpr (by omega), by rw [h.isWrite hk]; decide, haddress.mpr ?_⟩
        rcases hstop with rfl | ⟨rfl, hfake⟩
        · exact restartPc_start memory
        · exact hfake
      have hend : (if k ≤ 10 ∧ fakeFetchAddress memory = startAddress memory then 10 else 17) =
          k := by
        rcases hstop with rfl | ⟨rfl, hfake⟩
        · rfl
        · exact if_pos ⟨Nat.le_refl _, hfake⟩
      rw [InstructionCpu.fetchLoop, if_pos hcond, hend]
      exact ⟨steps, m, rfl, h⟩
    · obtain ⟨m', hm', h'⟩ := h.stepCycle hm (by omega)
      have hcond : ¬(m.tick.fetching ∧ ¬m.isWrite ∧ m.tick.address = startAddress memory) := by
        rintro ⟨hf, _, hat⟩
        rcases (h.fetching hk).mp hf with rfl | rfl
        · exact hstop (Or.inr ⟨rfl, haddress.mp hat⟩)
        · exact hstop (Or.inl rfl)
      have hsame : (k + 1 ≤ 10 ∧ fakeFetchAddress memory = startAddress memory) ↔
          (k ≤ 10 ∧ fakeFetchAddress memory = startAddress memory) := by
        constructor
        · exact fun h => ⟨by omega, h.2⟩
        · intro h
          have hne : k ≠ 10 := fun hk => hstop (Or.inr ⟨hk, h.2⟩)
          exact ⟨by omega, h.2⟩
      rw [InstructionCpu.fetchLoop, if_neg hcond, hm', Option.bind_some]
      have htail := ih (steps + 1) h' (by omega) (by omega)
      simpa only [hsame] using htail

end loops

theorem RestartAt.atReset_iff {model : Byte} (hm : model.toNat < 5) {memory : Word → Byte} {k : Nat}
    {m : InstructionCpu} (h : RestartAt model memory k m) (hk : k = 10 ∨ k = 17) :
    m.AtReset memory ↔ k = 17 := by
  constructor
  · intro hreset
    rcases hk with rfl | rfl
    · have hs : m.cpu.s = 0xC0 := congrArg Cpu.s h.core
      exact absurd (hs.symm.trans hreset.stack) (by decide)
    · rfl
  · rintro rfl
    have hp : m.cpu.p = flagOn flagZ (flagB ||| flagI) := congrArg Cpu.p h.core
    exact ⟨congrArg Cpu.s h.core, by rw [hp]; decide, (h.fetching (by omega)).mpr (by omega),
      (congrArg Tick.address h.tick).trans (restartPc_start memory), h.dispatches hm []⟩

theorem RestartAt.atReset_end {model : Byte} (hm : model.toNat < 5) {memory : Word → Byte}
    {m : InstructionCpu} {k : Nat} (hk : k ≤ 10) (h : RestartAt model memory
      (if k ≤ 10 ∧ fakeFetchAddress memory = startAddress memory then 10 else 17) m) :
    m.AtReset memory ↔ fakeFetchAddress memory ≠ startAddress memory := by
  by_cases hfake : fakeFetchAddress memory = startAddress memory
  · rw [if_pos ⟨hk, hfake⟩] at h
    rw [h.atReset_iff hm (Or.inl rfl)]
    exact iff_of_false (by decide) (not_not_intro hfake)
  · rw [if_neg fun h => hfake h.2] at h
    exact iff_of_true ((h.atReset_iff hm (Or.inr rfl)).mpr rfl) hfake

theorem adapter_reset (m : InstructionAdapter) (hm : m.cpu.model.toNat < 5) :
    ∃ m', m.reset = some m' ∧
      (m'.AtReset m.memory ↔ fakeFetchAddress m.memory ≠ startAddress m.memory) := by
  have hmodel : (nmiAssert (irqAssert m.cpu 0) 0).model = m.cpu.model := by
    rw [nmiAssert_eq, irqAssert_eq]
  have hstart : RestartAt m.cpu.model m.memory 0 _ := restart_at hm _ hmodel
  obtain ⟨steps, after, hloop, hafter⟩ :=
    fetchLoop_restart hm InstructionAdapter.maxResetCycles 0 hstart (by omega) (by decide)
  refine ⟨{ m.restarted with toInstructionCpu := after }, ?_, hafter.atReset_end hm (by omega)⟩
  have hrestarted : m.restarted.toInstructionCpu =
      ⟨(restart (nmiAssert (irqAssert m.cpu 0) 0)).1, (restart (nmiAssert (irqAssert m.cpu 0) 0)).2,
        m.memory⟩ := rfl
  dsimp only [InstructionAdapter.reset]
  rw [hrestarted, hloop]
  rfl

theorem bridge_restart (b : InstructionCpu) (hb : b.cpu.model.toNat < 5) {fuel maxSteps : Nat}
    (hfuel : 9 ≤ fuel) (hsteps : 17 ≤ maxSteps) :
    ∃ steps b', b.restartToStartFetch fuel maxSteps = some (steps, b') ∧
      (b'.AtReset b.memory ↔ fakeFetchAddress b.memory ≠ startAddress b.memory) := by
  have hstart : RestartAt b.cpu.model b.memory 0 _ := restart_at hb b.cpu rfl
  obtain ⟨b₁, hleave, h₁⟩ := leaveReset_restart hb hstart (by omega) (by omega : 8 < 0 + fuel)
  obtain ⟨steps, b', hloop, h'⟩ := fetchLoop_restart hb maxSteps 0 h₁ (by omega) (by omega)
  refine ⟨steps, b', ?_, h'.atReset_end hb (by omega)⟩
  show Option.bind (InstructionCpu.leaveReset fuel _) _ = _
  rw [hleave]
  exact hloop

/-- **When the resets complete.**  For every memory and every prior state the reset of the
instruction adapter, and `restart_to_start_fetch` of the bridge with a limit of at least 17
steps, return, and the CPU is at the opcode fetch that ends the restart sequence if and only if
the fetch in the middle of the sequence has another address than the reset vector. -/
theorem reset_completes (m : InstructionAdapter) (b : InstructionCpu)
    (hm : m.cpu.model.toNat < supportedModelsCount)
    (hb : b.cpu.model.toNat < supportedModelsCount) :
    (∃ m', m.reset = some m' ∧
      (m'.AtReset m.memory ↔ fakeFetchAddress m.memory ≠ startAddress m.memory)) ∧
    ∀ fuel maxSteps, 9 ≤ fuel → 17 ≤ maxSteps →
      ∃ steps b', b.restartToStartFetch fuel maxSteps = some (steps, b') ∧
        (b'.AtReset b.memory ↔ fakeFetchAddress b.memory ≠ startAddress b.memory) := by
  exact ⟨adapter_reset m hm, fun fuel maxSteps hfuel hsteps => bridge_restart b hb hfuel hsteps⟩

/-- Both resets from the blank state over a memory of zeros. -/
theorem reset_completes_zeros :
    (∃ m', (blankAdapter fun _ => 0).reset = some m' ∧ m'.AtReset fun _ => 0) ∧
      ∃ steps b', (blankAdapter fun _ => 0).toInstructionCpu.restartToStartFetch 9 64 =
        some (steps, b') ∧ b'.AtReset fun _ => 0 := by
  have hfake : fakeFetchAddress (fun _ => 0) ≠ startAddress fun _ => 0 := by decide
  obtain ⟨⟨m', hm', hreset⟩, hbridge⟩ := reset_completes (blankAdapter fun _ => 0)
    (blankAdapter fun _ => 0).toInstructionCpu (by decide) (by decide)
  obtain ⟨steps, b', hb', hstart⟩ := hbridge 9 64 (by omega) (by omega)
  exact ⟨⟨m', hm', hreset.mpr hfake⟩, steps, b', hb', hstart.mpr hfake⟩

/-- With `$00FF` at the reset vector and zeros elsewhere the fetch in the middle of the sequence
has the address of the reset vector, and both resets stop there with S still `$C0`. -/
theorem reset_stops_early :
    let memory : Word → Byte := fun a => if a = 0xFFFC then 0xFF else 0
    (∃ m', (blankAdapter memory).reset = some m' ∧ ¬m'.AtReset memory) ∧
      ∃ steps b', (blankAdapter memory).toInstructionCpu.restartToStartFetch 9 64 =
        some (steps, b') ∧ ¬b'.AtReset memory := by
  intro memory
  have hadapter : ((blankAdapter memory).reset.map fun m => m.cpu.s) = some 0xC0 := by
    decide +kernel
  have hbridge : (((blankAdapter memory).toInstructionCpu.restartToStartFetch 9 64).map
      fun r => r.2.cpu.s) = some 0xC0 := by
    decide
  obtain ⟨m', hm', hs⟩ := Option.map_eq_some_iff.mp hadapter
  obtain ⟨⟨steps, b'⟩, hb', hs'⟩ := Option.map_eq_some_iff.mp hbridge
  exact ⟨⟨m', hm', fun h => absurd (hs.symm.trans h.stack) (by decide)⟩, steps, b', hb',
    fun h => absurd (hs'.symm.trans h.stack) (by decide)⟩

end Qe6502
