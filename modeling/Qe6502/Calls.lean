import Qe6502.Ram

/-!
# Calls

JSR pushes the address of its own last byte and reads that byte after the pushes; RTS adds the
one that is missing: `call_return`.
-/

namespace Qe6502

theorem call_slots : ∀ model < 5,
    slotAt model 0x20 = some jsrAbs ∧ slotAt model 0x60 = some rts := by
  decide

theorem stackAddress_inj {s t : Byte} (h : stackAddress s = stackAddress t) : s = t := by
  rw [stackAddress_eq, stackAddress_eq, BitVec.add_right_inj] at h
  have hlow := congrArg (fun w => u16GetByte w 0) h
  simpa only [getByte_zero_zeroPage] using hlow

/-- The cells that a pushed word takes. -/
def stackCells (s : Byte) : List Word := [stackAddress s, stackAddress (s - 1)]

section pushed

variable (memory : Word → Byte) (s : Byte) (pc : Word)

theorem written_pushedWord_high :
    written memory (pushedWord s pc) (stackAddress s) = u16GetByte pc 1 := by
  have hne : stackAddress s ≠ stackAddress (s - 1) := by
    intro h
    have hs := stackAddress_inj h
    bv_omega
  show poke _ _ _ _ = _
  rw [poke, if_neg hne]
  exact if_pos rfl

theorem written_pushedWord_low :
    written memory (pushedWord s pc) (stackAddress (s - 1)) = u16GetByte pc 0 := if_pos rfl

theorem written_pushedWord_frame {a : Word} (ha : a ∉ stackCells s) :
    written memory (pushedWord s pc) a = memory a := by
  simp only [stackCells, List.mem_cons, List.not_mem_nil, or_false, not_or] at ha
  exact (if_neg ha.2).trans (if_neg ha.1)

end pushed

namespace InstructionCpu

variable (answer : Tick → (Word → Byte) → Byte) {m : InstructionCpu}

theorem Ready.supported (hready : m.Ready) : m.cpu.model.toNat < 5 := hready.dispatching.1

/-- **JSR.**  The high byte of the target is read from the memory after the pushes. -/
theorem Ready.jsr (hready : m.Ready) (hop : m.opcode = 0x20) : ∃ m', m.Fetches answer 6 m' ∧
    m'.Ready ∧ m'.cpu.model = m.cpu.model ∧
      m'.memory = written m.memory (pushedWord m.cpu.s (m.cpu.pc + 2)) ∧
        m'.cpu.registers = { m.cpu.registers with
          pc := ofBytes (m.memory (m.cpu.pc + 1)) (m'.memory (m.cpu.pc + 2))
          s := m.cpu.s - 1 - 1 } := by
  have hslot : slotAt m.cpu.model.toNat m.opcode.toNat = some jsrAbs := by
    rw [hop]
    exact (call_slots _ hready.supported).1
  obtain ⟨m', hfetches, hready', hmodel, hregisters, hmemory, hfed⟩ :=
    hready.course answer hslot rfl (call_yields _ _)
      (by simp [Course.plain])
  have hpc : m.cpu.pc + 1 + 1 = m.cpu.pc + 2 := BitVec.add_assoc _ _ _
  have hpushed : m'.memory = written m.memory (pushedWord m.cpu.s (m.cpu.pc + 2)) := by
    simp only [List.filterMap_cons, List.filterMap_nil, read_written, write_written,
      Option.toList_none, List.append_nil] at hmemory
    rw [← hpc]
    exact hmemory
  have hlow : onBus (m.inputs answer) 1 = m.memory (m.cpu.pc + 1) := by
    simp only [List.cons_append, List.nil_append, fed_fetchAt, fed_read] at hfed
    exact hfed.2.1
  have hhigh : onBus (m.inputs answer) 5 = m'.memory (m.cpu.pc + 2) := by
    simp only [List.cons_append, List.nil_append, fed_fetchAt, fed_read, fed_write] at hfed
    rw [hpushed, ← hpc]
    exact hfed.2.2.2.2.2.1
  refine ⟨m', hfetches, hready', hmodel, hpushed, ?_⟩
  rw [hregisters, ← hlow, ← hhigh]
  rfl

/-- **RTS.** -/
theorem Ready.rts (hready : m.Ready) (hop : m.opcode = 0x60) : ∃ m', m.Fetches answer 6 m' ∧
    m'.Ready ∧ m'.cpu.model = m.cpu.model ∧ m'.memory = m.memory ∧
      m'.cpu.registers = { m.cpu.registers with
        pc := ofBytes (m.memory (stackAddress (m.cpu.s + 1)))
          (m.memory (stackAddress (m.cpu.s + 1 + 1))) + 1
        s := m.cpu.s + 1 + 1 } := by
  have hslot : slotAt m.cpu.model.toNat m.opcode.toNat = some Qe6502.rts := by
    rw [hop]
    exact (call_slots _ hready.supported).2
  obtain ⟨m', hfetches, hready', hmodel, hregisters, hmemory, hfed⟩ :=
    hready.course answer hslot rfl (ret_yields _ _)
      (by simp [Course.plain])
  simp only [List.cons_append, List.nil_append, fed_fetchAt, fed_read] at hfed
  have hlow : onBus (m.inputs answer) 3 = m.memory (stackAddress (m.cpu.s + 1)) := hfed.2.2.2.1
  have hhigh : onBus (m.inputs answer) 4 = m.memory (stackAddress (m.cpu.s + 1 + 1)) :=
    hfed.2.2.2.2.1
  refine ⟨m', hfetches, hready', hmodel, by simpa [written] using hmemory, ?_⟩
  rw [hregisters, ← hlow, ← hhigh]
  rfl

end InstructionCpu

/-- **JSR and RTS.**  The opcode fetch after a JSR is at the target, whose high byte is the one
in the memory after the pushes.  With an RTS there, and the two stack cells clear of the code,
the fetch after that is behind the JSR, with every register as before, and the memory differs
in the two cells only. -/
theorem call_return {answer : Tick → (Word → Byte) → Byte} {m : InstructionCpu} (hready : m.Ready)
    (hjsr : m.memory m.cpu.pc = 0x20) : ∃ m₁, m.Fetches answer 6 m₁ ∧ m₁.tick = fetchAt m₁.cpu.pc ∧
      m₁.memory = written m.memory (pushedWord m.cpu.s (m.cpu.pc + 2)) ∧
      m₁.cpu.pc = ofBytes (m.memory (m.cpu.pc + 1)) (m₁.memory (m.cpu.pc + 2)) ∧
      (∀ target, target = ofBytes (m.memory (m.cpu.pc + 1)) (m.memory (m.cpu.pc + 2)) →
        m.memory target = 0x60 →
        (∀ a ∈ [m.cpu.pc, m.cpu.pc + 1, m.cpu.pc + 2, target], a ∉ stackCells m.cpu.s) →
        m₁.cpu.pc = target ∧ ∃ m', m₁.Fetches answer 6 m' ∧ m'.tick = fetchAt (m.cpu.pc + 3) ∧
          m'.cpu.registers = { m.cpu.registers with pc := m.cpu.pc + 3 } ∧
          m'.memory (stackAddress m.cpu.s) = u16GetByte (m.cpu.pc + 2) 1 ∧
          m'.memory (stackAddress (m.cpu.s - 1)) = u16GetByte (m.cpu.pc + 2) 0 ∧
          ∀ a, a ∉ stackCells m.cpu.s → m'.memory a = m.memory a) := by
  obtain ⟨m₁, hfetches, hready₁, hmodel, hmemory, hregisters⟩ := hready.jsr answer hjsr
  have hpc : m₁.cpu.pc = ofBytes (m.memory (m.cpu.pc + 1)) (m₁.memory (m.cpu.pc + 2)) :=
    congrArg Registers.pc hregisters
  refine ⟨m₁, hfetches, hready₁.tick, hmemory, hpc, fun target htarget hrts hclear => ?_⟩
  have hframe : ∀ a, a ∉ stackCells m.cpu.s → m₁.memory a = m.memory a := by
    intro a ha
    rw [hmemory]
    exact written_pushedWord_frame _ _ _ ha
  have hpc₁ : m₁.cpu.pc = target := by
    rw [hpc, htarget, hframe _ (hclear _ (by simp))]
  have hop : m₁.opcode = 0x60 := by
    rw [InstructionCpu.opcode, hpc₁, hframe _ (hclear _ (by simp)), hrts]
  obtain ⟨m', hfetches', hready', _, hmemory', hregisters'⟩ := hready₁.rts answer hop
  have hs : m₁.cpu.s = m.cpu.s - 1 - 1 := congrArg Registers.s hregisters
  have hlow : m₁.memory (stackAddress (m₁.cpu.s + 1)) = u16GetByte (m.cpu.pc + 2) 0 := by
    rw [hs, BitVec.sub_add_cancel, hmemory]
    exact written_pushedWord_low _ _ _
  have hhigh : m₁.memory (stackAddress (m₁.cpu.s + 1 + 1)) = u16GetByte (m.cpu.pc + 2) 1 := by
    rw [hs, BitVec.sub_add_cancel, BitVec.sub_add_cancel, hmemory]
    exact written_pushedWord_high _ _ _
  rw [hlow, hhigh, ofBytes_getByte, hregisters] at hregisters'
  have hdone : m'.cpu.registers = { m.cpu.registers with pc := m.cpu.pc + 3 } := by
    rw [hregisters']
    have hnext : m.cpu.pc + 2 + 1 = m.cpu.pc + 3 := BitVec.add_assoc _ _ _
    have hstack : m₁.cpu.s + 1 + 1 = m.cpu.s := by
      rw [hs, BitVec.sub_add_cancel, BitVec.sub_add_cancel]
    rw [hnext, hstack]
    rfl
  have hdonePc : m'.cpu.pc = m.cpu.pc + 3 := congrArg Registers.pc hdone
  refine ⟨hpc₁, m', hfetches', ?_, hdone, ?_, ?_, ?_⟩
  · rw [← hdonePc]
    exact hready'.tick
  · rw [hmemory', hmemory]
    exact written_pushedWord_high _ _ _
  · rw [hmemory', hmemory]
    exact written_pushedWord_low _ _ _
  · intro a ha
    rw [hmemory']
    exact hframe a ha

theorem goto_ready : (Session.after 2 [.goto 0x0200]).Ready :=
  ⟨goto_dispatching, by decide, by decide⟩

/-- After `qe6502_goto` a machine is ready at the address. -/
theorem exists_ready (memory : Word → Byte) : ∃ m : InstructionCpu, m.session.Reachable ∧ m.Ready ∧
    m.cpu.registers = ⟨0x0200, 0xC0, 0, 0xC0, 0, flagZ⟩ ∧ m.memory = memory := by
  have hreachable : (Session.after 2 [.goto 0x0200]).Reachable :=
    Session.after_reachable (by decide) _
  have hregisters : (Session.after 2 [.goto 0x0200]).1.registers =
    ⟨0x0200, 0xC0, 0, 0xC0, 0, flagZ⟩ := by decide
  have hready := goto_ready
  generalize Session.after 2 [.goto 0x0200] = s at hreachable hregisters hready
  exact ⟨⟨s.1, s.2, memory⟩, hreachable, hready, hregisters, rfl⟩

/-- A JSR at 0x0200 to an RTS at 0x0300. -/
def callMemory : Word → Byte :=
  poke (poke (poke (fun _ => 0) 0x0200 0x20) 0x0202 0x03) 0x0300 0x60

theorem call_return_goto : ∃ m m₁ m' : InstructionCpu, m.session.Reachable ∧
    m.memory = callMemory ∧ m.Fetches InstructionCpu.readmeAnswer 6 m₁ ∧
      m₁.Fetches InstructionCpu.readmeAnswer 6 m' ∧ m'.tick = fetchAt 0x0203 := by
  obtain ⟨m, hreachable, hready, hregisters, hmemory⟩ := exists_ready callMemory
  have hpc : m.cpu.pc = 0x0200 := congrArg Registers.pc hregisters
  have hs : m.cpu.s = 0xC0 := congrArg Registers.s hregisters
  have hjsr : m.memory m.cpu.pc = 0x20 := by
    rw [hpc, hmemory]
    rfl
  obtain ⟨m₁, hfetches, _, _, _, hreturn⟩ := call_return hready hjsr
  rw [hpc, hs, hmemory] at hreturn
  obtain ⟨_, m', hfetches', htick, _⟩ := hreturn 0x0300 (by decide) (by decide)
    (by simp [stackCells, stackAddress])
  exact ⟨m, m₁, m', hreachable, hmemory, hfetches, hfetches', htick⟩

end Qe6502
