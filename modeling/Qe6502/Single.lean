import Qe6502.Calls

/-!
# Single instructions in plain memory

What a ready machine does with an instruction that loads an immediate operand, that works on the
registers, that pushes, pulls or jumps, and where it stands after `qe6502_restart`.
-/

namespace Qe6502

namespace InstructionCpu

variable {answer : Tick → (Word → Byte) → Byte} {m m' m'' : InstructionCpu}

/-- The host comes from `m` to `m'`. -/
def Leads (answer : Tick → (Word → Byte) → Byte) (m m' : InstructionCpu) : Prop :=
  ∃ n, hostRun answer (List.replicate n []) m = some m'

theorem hostRun_append {schedule schedule' : List (List PinCall)} : ∀ {m : InstructionCpu},
    hostRun answer (schedule ++ schedule') m =
      (hostRun answer schedule m).bind (hostRun answer schedule') := by
  induction schedule with
  | nil => exact fun {_} => rfl
  | cons calls schedule ih =>
    intro m
    rw [List.cons_append, hostRun, hostRun]
    cases ({ m with cpu := calls.foldl PinCall.apply m.cpu } : InstructionCpu).hostCycle answer with
    | none => rfl
    | some m' => exact ih

theorem Leads.trans (h : m.Leads answer m') (h' : m'.Leads answer m'') : m.Leads answer m'' := by
  obtain ⟨n, hn⟩ := h
  obtain ⟨k, hk⟩ := h'
  refine ⟨n + k, ?_⟩
  rw [List.replicate_add, hostRun_append, hn]
  exact hk

theorem Fetches.leads {n : ℕ} (h : m.Fetches answer n m') : m.Leads answer m' := ⟨n, h.run⟩

/-- A ready machine with these registers and this memory. -/
structure Stands (m : InstructionCpu) (model : Byte) (r : Registers) (memory : Word → Byte) :
    Prop where
  ready : m.Ready
  model : m.cpu.model = model
  registers : m.cpu.registers = r
  memory : m.memory = memory

namespace Stands

variable {model : Byte} {r : Registers} {memory : Word → Byte}

theorem supported (h : m.Stands model r memory) : model.toNat < 5 := h.model ▸ h.ready.supported

theorem pc (h : m.Stands model r memory) : m.cpu.pc = r.pc := congrArg Registers.pc h.registers

theorem opcode (h : m.Stands model r memory) : m.opcode = memory r.pc := by
  rw [InstructionCpu.opcode, h.pc, h.memory]

theorem opened (h : m.Stands model r memory) (opcode : Byte) :
    (m.cpu.opened opcode).registers = { r with pc := r.pc + 1 } := by
  have hopened : (m.cpu.opened opcode).registers =
    { m.cpu.registers with pc := m.cpu.registers.pc + 1 } := rfl
  rw [hopened, h.registers]

theorem tick (h : m.Stands model r memory) : m.tick = fetchAt r.pc := h.pc ▸ h.ready.tick

section

variable (answer) (h : m.Stands model r memory)

include h

theorem course {entries : Slot} (hslot : slotAt model.toNat (memory r.pc).toNat = some entries)
    (hstays : entries.stays = true) {c : Course} {r' : Registers}
    (hyields : entries.Yields (m.cpu.opened m.opcode) (onBus (m.inputs answer)) c.beats r')
    (hplain : c.plain = true) : ∃ m', m.Fetches answer (c.requests.length + 2) m' ∧
      m'.Stands model r'
        (written memory (c.requests.filterMap Tick.written ++ c.last.written.toList)) ∧
      Fed answer memory (fetchAt r.pc :: (c.requests ++ [c.last])) (onBus (m.inputs answer)) := by
  obtain ⟨m', hfetches, hready, hmodel, hregisters, hmemory, hfed⟩ :=
    h.ready.course answer (by rw [h.model, h.opcode]; exact hslot) hstays hyields hplain
  rw [h.memory] at hmemory hfed
  rw [h.pc] at hfed
  exact ⟨m', hfetches, ⟨hready, hmodel.trans h.model, hregisters, hmemory⟩, hfed⟩

/-- An immediate operand. -/
theorem immediate (op : Load)
    (hslot : slotAt model.toNat (memory r.pc).toNat = some (rImm op.handler))
    (hstays : (rImm op.handler).stays = true) : ∃ m', m.Fetches answer 2 m' ∧ m'.Stands model
      (op.effect { r with pc := r.pc + 1 + 1 } (memory (r.pc + 1))) memory := by
  have hyields : (rImm op.handler).Yields (m.cpu.opened m.opcode) (onBus (m.inputs answer))
      (Course.beats ⟨[], read (m.cpu.opened m.opcode).pc, (m.cpu.opened m.opcode).p,
        (m.cpu.opened m.opcode).pc + 1⟩)
      (op.effect { (m.cpu.opened m.opcode).registers with
        pc := (m.cpu.opened m.opcode).pc + 1 } (onBus (m.inputs answer) 1)) :=
    @read_yields false .imm _ (m.cpu.opened m.opcode) _ op rfl
  have hpc : (m.cpu.opened m.opcode).pc = r.pc + 1 := congrArg Registers.pc (h.opened m.opcode)
  obtain ⟨m', hfetches, hstands, hfed⟩ := h.course answer hslot hstays hyields
    (by simp [Course.plain])
  rw [hpc] at hfed
  have hdata : onBus (m.inputs answer) 1 = memory (r.pc + 1) := by
    simp only [List.nil_append, fed_fetchAt, fed_read] at hfed
    exact hfed.2.1
  refine ⟨m', hfetches, ?_⟩
  rw [hdata, hpc, h.opened] at hstands
  simpa [written] using hstands

/-- An operation on the registers. -/
theorem implied (op : Implied)
    (hslot : slotAt model.toNat (memory r.pc).toNat = some (imp op.handler))
    (hstays : (imp op.handler).stays = true) : ∃ m', m.Fetches answer 2 m' ∧
      m'.Stands model (op.effect { r with pc := r.pc + 1 }) memory := by
  obtain ⟨m', hfetches, hstands, _⟩ := h.course answer hslot hstays (implied_yields _ _ op)
    (by simp [Course.plain])
  refine ⟨m', hfetches, ?_⟩
  rw [h.opened] at hstands
  simpa [written] using hstands

/-- A push. -/
theorem push (op : Push)
    (hslot : slotAt model.toNat (memory r.pc).toNat = some (stackPush op.handler))
    (hstays : (stackPush op.handler).stays = true) : ∃ m', m.Fetches answer 3 m' ∧
      m'.Stands model { r with pc := r.pc + 1, s := r.s - 1 }
        (poke memory (stackAddress r.s) (op.value { r with pc := r.pc + 1 })) := by
  obtain ⟨m', hfetches, hstands, _⟩ := h.course answer hslot hstays (push_yields _ _ op)
    (by simp [Course.plain])
  refine ⟨m', hfetches, ?_⟩
  have hs : (m.cpu.opened m.opcode).s = r.s := congrArg Registers.s (h.opened m.opcode)
  rw [hs, h.opened] at hstands
  simpa [written] using hstands

/-- A pull. -/
theorem pull (op : Load)
    (hslot : slotAt model.toNat (memory r.pc).toNat = some (stackPull op.handler))
    (hstays : (stackPull op.handler).stays = true) : ∃ m', m.Fetches answer 4 m' ∧
      m'.Stands model (op.effect { r with pc := r.pc + 1, s := r.s + 1 }
        (memory (stackAddress (r.s + 1)))) memory := by
  obtain ⟨m', hfetches, hstands, hfed⟩ := h.course answer hslot hstays (pull_yields _ _ op)
    (by simp [Course.plain])
  have hs : (m.cpu.opened m.opcode).s = r.s := congrArg Registers.s (h.opened m.opcode)
  rw [hs] at hfed hstands
  have hdata : onBus (m.inputs answer) 3 = memory (stackAddress (r.s + 1)) := by
    simp only [List.cons_append, List.nil_append, fed_fetchAt, fed_read] at hfed
    exact hfed.2.2.2.1
  refine ⟨m', hfetches, ?_⟩
  rw [hdata, h.opened] at hstands
  simpa [written] using hstands

/-- A jump to an absolute address. -/
theorem jump (hslot : slotAt model.toNat (memory r.pc).toNat = some jmpAbs) :
    ∃ m', m.Fetches answer 3 m' ∧ m'.Stands model
      { r with pc := ofBytes (memory (r.pc + 1)) (memory (r.pc + 1 + 1)) } memory := by
  obtain ⟨m', hfetches, hstands, hfed⟩ := h.course answer hslot (by decide)
    (jump_yields _ _) (by simp [Course.plain])
  have hpc : (m.cpu.opened m.opcode).pc = r.pc + 1 := congrArg Registers.pc (h.opened m.opcode)
  rw [hpc] at hfed
  have hlow : onBus (m.inputs answer) 1 = memory (r.pc + 1) := by
    simp only [List.cons_append, List.nil_append, fed_fetchAt, fed_read] at hfed
    exact hfed.2.1
  have hhigh : onBus (m.inputs answer) 2 = memory (r.pc + 1 + 1) := by
    simp only [List.cons_append, List.nil_append, fed_fetchAt, fed_read] at hfed
    exact hfed.2.2.1
  refine ⟨m', hfetches, ?_⟩
  rw [hlow, hhigh, h.opened] at hstands
  simpa [written] using hstands

end

end Stands

/-! ### After a restart -/

/-- A tick of the restart sequence leaves idle lines idle. -/
theorem idle_of_hostCycle {k : ℕ} {model : Byte} (hm : model.toNat < 5) {memory : Word → Byte}
    (h : RestartAt model memory k m) (hk : k < 17) (hidle : m.cpu.lines.idle = true)
    (hcycle : m.hostCycle answer = some m') : m'.cpu.lines.idle = true := by
  obtain ⟨hmodel, hat, _⟩ := h.at []
  have hentry : entryAt m.cpu.model.toNat (restartSlot k) (restartCycle k) =
      some (.handler (restartHandler k)) := by
    have hsame : m.cpu.model = model := hmodel
    rw [hsame]
    exact restart_entries _ hm _ hk
  have hplace : m.cpu.At (restartSlot k) (restartCycle k) := hat
  rw [hostCycle, tick_of_executes (.direct hplace hentry), Option.map_some] at hcycle
  obtain rfl := Option.some.inj hcycle
  exact (unitTick_of_idle hidle _ _).1

variable (answer) in
/-- **After a restart** a machine is ready at the reset vector. -/
theorem restart_stands {cpu : Cpu} (hm : cpu.model.toNat < 5) (memory : Word → Byte) :
    ∃ m, Leads answer ⟨(restart cpu).1, (restart cpu).2, memory⟩ m ∧
      m.Stands cpu.model ⟨startAddress memory, 0xBD, 0, 0xC0, 0, flagZ ||| flagB ||| flagI⟩
        memory := by
  have hrun : ∀ k ≤ 17, ∃ m, hostRun answer (List.replicate k [])
      ⟨(restart cpu).1, (restart cpu).2, memory⟩ = some m ∧ RestartAt cpu.model memory k m ∧
        m.cpu.lines.idle = true := by
    intro k
    induction k with
    | zero =>
      intro _
      have hlines : (restart cpu).1.lines = Lines.of 0 := rfl
      refine ⟨_, rfl, restart_at hm cpu rfl, ?_⟩
      rw [hlines]
      decide
    | succ k ih =>
      intro hk
      obtain ⟨m, hm', hat, hidle⟩ := ih (by omega)
      obtain ⟨m', hcycle, hat'⟩ := hat.step hm (by omega) answer []
      refine ⟨m', ?_, hat', idle_of_hostCycle hm hat (by omega) hidle hcycle⟩
      rw [List.replicate_succ', hostRun_append, hm', Option.bind_some, hostRun]
      exact congrArg (Option.bind · _) hcycle
  obtain ⟨m, hm', hat, hidle⟩ := hrun 17 (le_refl _)
  obtain ⟨hmodel, hplace, _⟩ := hat.at []
  have hpc : m.cpu.pc = startAddress memory :=
    (congrArg Cpu.pc hat.core).trans (restartPc_start memory)
  have hdispatch : entryAt cpu.model.toNat 260 1 = some .mcDispatch := restart_dispatch _ hm
  have hmodel' : m.cpu.model = cpu.model := hmodel
  refine ⟨m, ⟨17, hm'⟩, ⟨⟨⟨?_, 260, 1, hplace, ?_⟩, hidle, ?_⟩, hmodel, ?_, hat.memory⟩⟩
  · exact hmodel' ▸ hm
  · exact hmodel' ▸ hdispatch
  · have htick : m.tick = fetchAt (restartPc memory 17) := hat.tick
    rw [restartPc_start, ← hpc] at htick
    exact htick
  · have hregisters : m.cpu.registers = m.cpu.forget.registers := rfl
    rw [hregisters, hat.core, ← restartPc_start]
    rfl

end InstructionCpu

end Qe6502
