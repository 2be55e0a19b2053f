import Qe6502.Core
import Qe6502.Words

/-!
# The restart sequence

Seventeen ticks lead from `qe6502_restart` to the opcode fetch at the reset vector.  The first
ten walk a chain of dummy addresses that depends on the memory and end in a fetch whose opcode
is ignored; no tick samples interrupts, so no pin call can disturb the sequence.
`restartCpu` and `restartTick` are the context and the request after each tick, and
`restart_sequence` says that every host run passes through them.
-/

namespace Qe6502

/-! ### The sequence -/

/-- The word at the reset vector. -/
def startAddress (memory : Word → Byte) : Word := ofBytes (memory 0xFFFC) (memory 0xFFFD)

/-- The handler of each tick. -/
def restartHandler : Nat → Handler
  | 8 => .mcRestartReadHhff
  | 9 => .mcRestartReadZzhhFetch
  | 10 => .mcRestartReadZzhh
  | 11 | 12 | 13 => .mcResetStackRead
  | 14 => .mcResetVecLo
  | 15 => .mcResetVecHi
  | 16 => .mcLatchPchResetFetch
  | _ => .mcInternalReset

/-- What the tick at `k` makes of the program counter. -/
def restartStep (k : Nat) (pc : Word) (bus : Byte) : Word :=
  match k with
  | 10 | 11 | 12 | 13 | 14 => pc
  | 15 => u16SetByte pc 0 bus
  | 16 => u16SetByte pc 1 bus
  | _ => calculateResetPc pc bus

/-- The request after `k` ticks. -/
def restartTick (pc : Word) : Nat → Tick
  | 0 => ⟨0x00FF, 0, statusInternalReset⟩
  | 10 | 17 => ⟨pc, 0, statusOpcodeFetch⟩
  | 12 => read (stackAddress 0xC0)
  | 13 => read (stackAddress 0xBF)
  | 14 => read (stackAddress 0xBE)
  | 15 => read 0xFFFC
  | 16 => read 0xFFFD
  | k => ⟨pc, 0, if k < 8 then statusInternalReset else 0⟩

def restartStatus (k : Nat) : Byte :=
  if k < 8 then statusInternalReset else if k = 10 ∨ k = 17 then statusOpcodeFetch else 0

/-- The program counter after `k` ticks. -/
def restartPc (memory : Word → Byte) : Nat → Word
  | 0 => 0x01FF
  | k + 1 =>
    restartStep k (restartPc memory k) (memory (restartTick (restartPc memory k) k).address)

def restartSlot (k : Nat) : Nat := if k < 8 then 258 else if k < 16 then 259 else 260

def restartCycle (k : Nat) : Nat := if k < 8 then 0 else if k < 16 then k - 8 else k - 16

/-- The context after `k` ticks. -/
def restartCpu (model : Byte) (pc : Word) (k : Nat) : Cpu where
  model := model
  reservedExtension := 0
  microcode := position model.toNat (restartSlot k) (restartCycle k)
  latchAddr := 0
  latchData := BitVec.ofNat 8 (min k 8)
  hijackMicrocode := 0
  pc := pc
  s := BitVec.ofNat 8 (0xC0 - (min k 14 - 11))
  a := 0
  x := 0xC0
  y := 0
  p := if k ≤ 15 then flagZ else flagOn flagZ (flagB ||| flagI)
  interrupts := 0

theorem fetch_eq (cpu : Cpu) : fetch cpu = ⟨cpu.pc, 0, statusOpcodeFetch⟩ :=
  congrArg (Tick.mk cpu.pc 0) BitVec.zero_or

theorem internalReset_core {cpu : Cpu} {bus : Byte} (hn : cpu.latchData + 1 ≠ 8) :
    Handler.mcInternalReset.core cpu bus =
      ({ cpu.forget with latchData := cpu.latchData + 1, pc := calculateResetPc cpu.pc bus },
        ⟨calculateResetPc cpu.pc bus, 0, statusInternalReset⟩) := by
  have hforget : ¬(cpu.forget.latchData + 1 = 8) := hn
  dsimp only [Handler.core, Handler.run, mcInternalReset]
  rw [if_neg hforget]
  have hstatus : flagOn (read (calculateResetPc cpu.pc bus)).status statusInternalReset =
    statusInternalReset := BitVec.zero_or
  dsimp only [loopHere, advanceMicrocode, Cpu.forget]
  rw [BitVec.sub_add_cancel, hstatus]
  rfl

theorem internalReset_core_last {cpu : Cpu} {bus : Byte} (hn : cpu.latchData + 1 = 8) :
    Handler.mcInternalReset.core cpu bus =
      ({ cpu.forget with
          latchData := cpu.latchData + 1
          pc := calculateResetPc cpu.pc bus
          microcode := idx cpu.model ServiceSlot.reset0.code 0 },
        read (calculateResetPc cpu.pc bus)) := by
  have hforget : cpu.forget.latchData + 1 = 8 := hn
  dsimp only [Handler.core, Handler.run, mcInternalReset]
  rw [if_pos hforget]
  dsimp only [nextEnterServiceSlot, enterServiceSlot, advanceMicrocode, Cpu.forget]
  rw [BitVec.sub_add_cancel]

/-- **One tick of the sequence.** -/
theorem restart_core {model : Byte} (hm : model.toNat < 5) (pc : Word) (bus : Byte) {k : Nat}
    (hk : k < 17) :
    (restartHandler k).core (restartCpu model pc k) bus =
      (restartCpu model (restartStep k pc bus) (k + 1),
        restartTick (restartStep k pc bus) (k + 1)) := by
  rcases Nat.lt_or_ge k 7 with h | h
  · have hall : ∀ k < 7, BitVec.ofNat 8 (min k 8) + 1 ≠ 8#8 := by decide
    have hh : restartHandler k = .mcInternalReset := by interval_cases k <;> rfl
    have hlatch : (restartCpu model pc k).latchData + 1 ≠ 8 := hall k h
    rw [hh, internalReset_core hlatch]
    interval_cases k <;> rfl
  · have hindex : idx model ServiceSlot.reset0.code 0 = position model.toNat 259 0 :=
      idx_eq_position hm .reset0 (by omega : 0 < 8)
    have hlatch : (restartCpu model pc 7).latchData + 1 = 8 := rfl
    have hnext : ∀ (cpu : Cpu) {slot cycle : Nat} {tick tick' : Tick},
        cpu.microcode = position model.toNat slot (cycle + 1) → tick = tick' →
          (({ cpu with microcode := position model.toNat slot cycle + 1 } : Cpu), tick) =
            (cpu, tick') := by
      intro cpu slot cycle tick tick' hindex htick
      rw [position_succ, ← hindex, htick]
    have hstack : ∀ (s : Byte) {cpu : Cpu}, cpu.s = s → Handler.mcResetStackRead.core cpu bus =
        ({ cpu.forget with s := s - 1, microcode := cpu.microcode + 1 },
          read (stackAddress s)) := by
      rintro _ cpu rfl
      rfl
    interval_cases k
    case «7» =>
      show Handler.mcInternalReset.core _ _ = _
      rw [internalReset_core_last hlatch]
      show (({ (restartCpu model (calculateResetPc pc bus) 8) with
        microcode := idx model ServiceSlot.reset0.code 0 } : Cpu), _) = _
      rw [hindex]
      rfl
    case «8» => exact hnext (restartCpu model (calculateResetPc pc bus) 9) rfl rfl
    case «9» => exact hnext (restartCpu model (calculateResetPc pc bus) 10) rfl (fetch_eq _)
    case «10» => exact hnext (restartCpu model pc 11) rfl rfl
    case «11» =>
      show Handler.mcResetStackRead.core _ _ = _
      rw [hstack 0xC0 rfl]
      exact hnext (restartCpu model pc 12) rfl rfl
    case «12» =>
      show Handler.mcResetStackRead.core _ _ = _
      rw [hstack 0xBF rfl]
      exact hnext (restartCpu model pc 13) rfl rfl
    case «13» =>
      show Handler.mcResetStackRead.core _ _ = _
      rw [hstack 0xBE rfl]
      exact hnext (restartCpu model pc 14) rfl rfl
    case «14» => exact hnext (restartCpu model pc 15) rfl rfl
    case «15» =>
      exact hnext (restartCpu model (u16SetByte pc 0 bus) 16) (position_overflow _ _).symm rfl
    case «16» => exact hnext (restartCpu model (u16SetByte pc 1 bus) 17) rfl (fetch_eq _)

theorem restart_entries : ∀ model < 5, ∀ k < 17,
    entryAt model (restartSlot k) (restartCycle k) = some (.handler (restartHandler k)) := by
  decide

theorem restart_dispatch : ∀ model < 5, entryAt model 260 1 = some .mcDispatch := by decide

theorem restartHandler_signal (k : Nat) (cpu : Cpu) : (restartHandler k).signal cpu = .none := by
  unfold restartHandler
  split <;> rfl

theorem restart_zero (cpu : Cpu) (hm : cpu.model.toNat < 5) :
    restart cpu = (restartCpu cpu.model 0x01FF 0, restartTick 0x01FF 0) := by
  have hindex : idx cpu.model ServiceSlot.internalReset.code 0 = position cpu.model.toNat 258 0 :=
    idx_eq_position hm .internalReset (by omega : 0 < 8)
  refine Prod.ext ?_ (restart_tick cpu)
  show ({ restartCpu cpu.model 0x01FF 0 with
    microcode := idx cpu.model ServiceSlot.internalReset.code 0 } : Cpu) = _
  rw [hindex]
  rfl

/-! ### Host runs -/

/-- A host that moves the pins and then answers the request. -/
def InstructionCpu.pinnedCycle (answer : Tick → (Word → Byte) → Byte) (m : InstructionCpu)
    (calls : List PinCall) : Option InstructionCpu :=
  { m with cpu := calls.foldl PinCall.apply m.cpu }.hostCycle answer

/-- The CPU after `k` ticks of the sequence, whatever the pins did. -/
structure RestartAt (model : Byte) (memory : Word → Byte) (k : Nat) (m : InstructionCpu) :
    Prop where
  core : m.cpu.forget = restartCpu model (restartPc memory k) k
  tick : m.tick = restartTick (restartPc memory k) k
  lines : m.cpu.lines.Untaken
  memory : m.memory = memory

/-- The CPU is in an NMI or IRQ sequence. -/
def Cpu.InService (cpu : Cpu) : Prop := ∃ cycle < 8, cpu.At 262 cycle ∨ cpu.At 263 cycle

section run

variable {model : Byte} (hm : model.toNat < 5) {memory : Word → Byte} {k : Nat}
  {m : InstructionCpu}

theorem RestartAt.status (h : RestartAt model memory k m) (hk : k ≤ 17) :
    m.tick.status = restartStatus k := by
  have hstatus : ∀ pc, (restartTick pc k).status = restartStatus k := by
    intro pc
    interval_cases k <;> rfl
  rw [h.tick, hstatus]

theorem RestartAt.isWrite (h : RestartAt model memory k m) (hk : k ≤ 17) : m.isWrite = false := by
  have hall : ∀ k ≤ 17, decide (restartStatus k &&& statusWriting ≠ 0) = false := by decide
  rw [InstructionCpu.isWrite, h.status hk, hall k hk]

theorem RestartAt.fetching (h : RestartAt model memory k m) (hk : k ≤ 17) :
    m.tick.fetching = true ↔ k = 10 ∨ k = 17 := by
  have hall : ∀ k ≤ 17, decide (restartStatus k &&& statusOpcodeFetch ≠ 0) =
    decide (k = 10 ∨ k = 17) := by decide
  rw [Tick.fetching, h.status hk, hall k hk, decide_eq_true_eq]

theorem RestartAt.at (h : RestartAt model memory k m) (calls : List PinCall) :
    (calls.foldl PinCall.apply m.cpu).model = model ∧
      (calls.foldl PinCall.apply m.cpu).At (restartSlot k) (restartCycle k) ∧
        (calls.foldl PinCall.apply m.cpu).forget = restartCpu model (restartPc memory k) k := by
  obtain ⟨interrupts, hijack, hpins⟩ := pins_eq calls m.cpu
  have hforget : (calls.foldl PinCall.apply m.cpu).forget = m.cpu.forget := by
    rw [hpins]
    rfl
  rw [h.core] at hforget
  have hmodel : (calls.foldl PinCall.apply m.cpu).model = model := congrArg Cpu.model hforget
  refine ⟨hmodel, ?_, hforget⟩
  rw [Cpu.At, hmodel]
  exact congrArg Cpu.microcode hforget

theorem restart_noService {cpu : Cpu} (hm : cpu.model.toNat < 5) {k : Nat} (hk : k ≤ 17)
    (hat : cpu.At (restartSlot k) (restartCycle k)) {cycle : Nat} (hcycle : cycle < 8) :
    ¬(cpu.At 262 cycle ∨ cpu.At 263 cycle) := by
  have hplace : ∀ k ≤ 17, restartSlot k < 262 ∧ restartCycle k < 8 := by decide
  obtain ⟨hs, hc⟩ := hplace k hk
  rintro (hservice | hservice)
  · have heq := position_inj hm (by omega) hc (by omega) hcycle (hat.symm.trans hservice)
    omega
  · have heq := position_inj hm (by omega) hc (by omega) hcycle (hat.symm.trans hservice)
    omega

include hm

theorem RestartAt.step (h : RestartAt model memory k m) (hk : k < 17)
    (answer : Tick → (Word → Byte) → Byte) (calls : List PinCall) :
    ∃ m', m.pinnedCycle answer calls = some m' ∧ RestartAt model memory (k + 1) m' := by
  obtain ⟨hmodel, hat, hforget⟩ := h.at calls
  have hlines := untaken_pins h.lines calls
  generalize hcpu : calls.foldl PinCall.apply m.cpu = cpu at hmodel hat hforget hlines
  have hentry : entryAt cpu.model.toNat (restartSlot k) (restartCycle k) =
      some (.handler (restartHandler k)) := by
    rw [hmodel]
    exact restart_entries _ hm _ hk
  have hx : Executes cpu (memory (restartTick (restartPc memory k) k).address) _ _ _ cpu :=
    .direct hat hentry
  obtain ⟨huntaken, hcore⟩ := execute_untaken hlines (restartHandler_signal k cpu)
  rw [← core_forget, hforget, restart_core hm _ _ hk, Prod.mk.injEq] at hcore
  refine ⟨⟨_, _, memory⟩, ?_, hcore.1, hcore.2, huntaken, rfl⟩
  have hwrite : ({ m with cpu := cpu } : InstructionCpu).isWrite = false := h.isWrite (by omega)
  rw [InstructionCpu.pinnedCycle, hcpu, InstructionCpu.hostCycle, hwrite, if_neg (by decide),
    if_neg (by decide), h.memory, h.tick, tick_of_executes hx]
  rfl

theorem restart_at (cpu : Cpu) (hcpu : cpu.model = model) :
    RestartAt model memory 0 ⟨(restart cpu).1, (restart cpu).2, memory⟩ := by
  subst hcpu
  have hlines : (Lines.of 0).Untaken := ⟨by decide, by decide, by decide⟩
  rw [restart_zero cpu hm]
  exact ⟨rfl, rfl, hlines, rfl⟩

/-- **A host run of the sequence**, from any tick of it. -/
theorem RestartAt.states (answer : Tick → (Word → Byte) → Byte) {schedule : List (List PinCall)} :
    ∀ {k : Nat} {m : InstructionCpu}, RestartAt model memory k m → k + schedule.length ≤ 17 →
      ∃ ms, StepMachine.states (InstructionCpu.pinnedCycle answer) m schedule = some ms ∧
        ms.length = schedule.length ∧
          ∀ i m', ms[i]? = some m' → RestartAt model memory (k + 1 + i) m' := by
  induction schedule with
  | nil => exact fun _ _ => ⟨[], rfl, rfl, fun i m' h => nomatch h⟩
  | cons calls schedule ih =>
    intro k m h hk
    rw [List.length_cons] at hk
    obtain ⟨m', hm', h'⟩ := h.step hm (by omega) answer calls
    obtain ⟨ms, hms, hlen, hall⟩ := ih h' (by omega)
    refine ⟨m' :: ms, ?_, congrArg (· + 1) hlen, ?_⟩
    · rw [StepMachine.states_cons, hm', Option.bind_some, hms]
      rfl
    · intro i m'' hget
      cases i with
      | zero => exact Option.some.inj hget ▸ h'
      | succ i =>
        have htail := hall i m'' hget
        rwa [Nat.add_right_comm _ 1 i] at htail

/-- The tick after the sequence dispatches the instruction at the reset vector. -/
theorem RestartAt.dispatches (h : RestartAt model memory 17 m) (calls : List PinCall) :
    ∃ handler, Executes (calls.foldl PinCall.apply m.cpu) (memory (startAddress memory))
      (memory (startAddress memory)).toNat 0 handler
      (dispatched (calls.foldl PinCall.apply m.cpu) (memory (startAddress memory))) := by
  obtain ⟨hmodel, hplace, _⟩ := h.at calls
  obtain ⟨handler, hop⟩ := opcode_handler hm (memory (startAddress memory)).isLt
  refine ⟨handler, .dispatch hplace ?_ ?_⟩
  · rw [hmodel]
    exact restart_dispatch _ hm
  · rw [hmodel, hop]

end run

theorem restartPc_start (memory : Word → Byte) : restartPc memory 17 = startAddress memory :=
  setByte_one_setByte_zero (restartPc memory 10) _ _

/-- **The restart sequence.**  From any contents of the context, on any memory and with any pin
calls before each tick: no tick of the sequence writes, the opcode is fetched at the reset
vector by the seventeenth tick, with the registers of the reset, the only fetch before it is
the tenth, and no NMI or IRQ sequence starts before the instruction at the reset vector is
dispatched. -/
theorem restart_sequence {cpu : Cpu} (hm : cpu.model.toNat < supportedModelsCount)
    (memory : Word → Byte) (answer : Tick → (Word → Byte) → Byte)
    {schedule : List (List PinCall)} (hlen : schedule.length = 17) :
    ∃ ms, StepMachine.states (InstructionCpu.pinnedCycle answer)
        ⟨(restart cpu).1, (restart cpu).2, memory⟩ schedule = some ms ∧
      (∀ i m, ms[i]? = some m →
        m.isWrite = false ∧ m.memory = memory ∧ (m.tick.fetching = true ↔ i = 9 ∨ i = 16) ∧
          ¬m.cpu.InService) ∧
      ∃ m, ms[16]? = some m ∧ m.tick.address = startAddress memory ∧
        (m.cpu.s = 0xBD ∧ m.cpu.x = 0xC0 ∧ m.cpu.a = 0 ∧ m.cpu.y = 0 ∧
          m.cpu.p = flagZ ||| flagB ||| flagI) ∧
        ∀ calls : List PinCall,
          ∃ h, Executes (calls.foldl PinCall.apply m.cpu) (memory (startAddress memory))
          (memory (startAddress memory)).toNat 0 h
          (dispatched (calls.foldl PinCall.apply m.cpu) (memory (startAddress memory))) := by
  have hstart : RestartAt cpu.model memory 0 _ := restart_at hm cpu rfl
  obtain ⟨ms, hms, hmslen, hall⟩ := hstart.states hm answer (by omega : 0 + schedule.length ≤ 17)
  refine ⟨ms, hms, ?_, ?_⟩
  · intro i m hi
    have hlt : i < 17 := by
      have hget := (List.getElem?_eq_some_iff.mp hi).1
      omega
    have hat := hall i m hi
    refine ⟨hat.isWrite (by omega), hat.memory, ?_, ?_⟩
    · rw [hat.fetching (by omega)]
      omega
    · rintro ⟨cycle, hcycle, hservice⟩
      obtain ⟨hmodel, hplace, _⟩ := hat.at []
      exact restart_noService (hmodel ▸ hm) (by omega) hplace hcycle hservice
  · obtain ⟨m, hget⟩ : ∃ m, ms[16]? = some m := ⟨_, List.getElem?_eq_getElem (by omega)⟩
    have hat := hall 16 m hget
    have hcore : m.cpu.forget = restartCpu cpu.model (restartPc memory 17) 17 := hat.core
    refine ⟨m, hget, ?_, ?_, ?_⟩
    · rw [hat.tick]
      exact restartPc_start memory
    · exact ⟨congrArg Cpu.s hcore, congrArg Cpu.x hcore, congrArg Cpu.a hcore,
        congrArg Cpu.y hcore, congrArg Cpu.p hcore⟩
    · exact hat.dispatches hm

/-- Both pins asserted all the way on the NMOS model. -/
theorem restart_sequence_asserted :
    let memory : Word → Byte := fun a => if a = 0xFFFD then 0x04 else 0
    ∃ ms m, StepMachine.states (InstructionCpu.pinnedCycle InstructionCpu.adapterAnswer)
        ⟨(restart blankCpu).1, (restart blankCpu).2, memory⟩
        (List.replicate 17 [.irq 1, .nmi 1]) = some ms ∧
      ms[16]? = some m ∧ m.tick.address = 0x0400 ∧ m.cpu.s = 0xBD := by
  intro memory
  obtain ⟨ms, hms, _, m, hm, haddress, hregisters, _⟩ :=
    restart_sequence (by decide : blankCpu.model.toNat < 5) memory InstructionCpu.adapterAnswer
      (List.length_replicate : (List.replicate 17 [PinCall.irq 1, .nmi 1]).length = 17)
  have hstart : startAddress (fun a => if a = 0xFFFD then 0x04 else 0) = 0x0400 := by decide
  exact ⟨ms, m, hms, hm, haddress.trans hstart, hregisters.1⟩

end Qe6502
