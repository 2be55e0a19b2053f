import Qe6502.Computes
import Qe6502.Agree

/-!
# Slots interpret instructions

Fed from a memory, the slot of an opcode leaves the registers and the memory that the interpreter
does, in decimal mode and for the undocumented opcodes too: `Instruction.slot_does`.
-/

namespace Qe6502

/-! ### Addresses -/

section fed

variable {answer : Tick → (Word → Byte) → Byte} {memory : Word → Byte} {ts : List Tick}
  {bus : ℕ → Byte} {mode : Mode} {r : Registers} {cmos fixes : Bool}

/-- The base of an index is the one in memory. -/
theorem Fed.base
    (h : Fed answer memory ((mode.path r bus cmos fixes).map read ++ ts) fun k => bus (k + 1)) :
    mode.base r bus = mode.based r memory := by
  have haddress := h.address
  obtain ⟨hreads, _⟩ := h.reads
  cases mode with
  | abx | aby =>
    have hlow : bus 1 = memory r.pc := hreads 0 _ rfl
    have hhigh : bus 2 = memory (r.pc + 1) := hreads 1 _ rfl
    exact congrArg₂ ofBytes hlow hhigh
  | izy =>
    have hpointer : bus 1 = memory r.pc := hreads 0 _ rfl
    have hlow : bus 2 = memory (zeroPage (bus 1)) := hreads 1 _ rfl
    have hhigh : bus 3 = memory (zeroPage (bus 1 + 1)) := hreads 2 _ rfl
    rw [hpointer] at hlow hhigh
    exact congrArg₂ ofBytes hlow hhigh
  | _ => exact haddress

theorem Fed.crosses
    (h : Fed answer memory ((mode.path r bus cmos fixes).map read ++ ts) fun k => bus (k + 1)) :
    mode.crosses r bus = mode.crossed r memory := by
  rw [Mode.crosses, Mode.crossed, h.address, h.base]

end fed

/-! ### Where shapes stand -/

/-- The addressing modes of the shapes, and the mnemonics of those that have only one; the other
shapes are not control flow.  The CMOS models have no rotate with a sum and no increment with
one. -/
def Shape.placed (model : Nat) (i : Instruction) : Shape → Bool
  | .implied _ => (i.mode = .imp || i.mode = .acc) && !i.mnemonic.controlFlow
  | .push _ | .pull _ | .nopFetch => i.mode = .imp && !i.mnemonic.controlFlow
  | .ret => i.mode = .imp && i.mnemonic = .rts
  | .rti => i.mode = .imp && i.mnemonic = .rti
  | .brk | .brkCmos => i.mode = .imp && i.mnemonic = .brk
  | .jam => i.mnemonic = .kil
  | .branch _ => i.mode = .rel
  | .branchBit => i.mode = .zpRel
  | .jump => i.mode = .abs && i.mnemonic = .jmp
  | .call => i.mode = .abs && i.mnemonic = .jsr
  | .jumpInd => i.mode = .ind && !isCmos model
  | .jumpIndCmos => i.mode = .ind && isCmos model
  | .jumpIndX => i.mode = .indX
  | .nopAbs => i.mode = .abs && i.mnemonic = .nopAbs
  | .stNopAbs => i.mode = .abs && i.mnemonic = .stNopAbs
  | .stNopAbsHigh => i.mode = .abs && i.mnemonic = .stNopAbsHigh
  | .modify .. | .modifyShort _ =>
    (!isCmos model || i.mnemonic ≠ .rra && i.mnemonic ≠ .isc) && !i.mnemonic.controlFlow
  | _ => !i.mnemonic.controlFlow

theorem Instruction.eq_mk {i : Instruction} {mode : Mode} {m : Mnemonic} (hmode : i.mode = mode)
    (hm : i.mnemonic = m) : i = ⟨m, mode⟩ := by
  obtain ⟨⟩ := i
  cases hmode
  cases hm
  rfl

/-- A shape with one mode and one mnemonic is that of one instruction. -/
theorem Instruction.eq_of_placed {i : Instruction} {mode : Mode} {m : Mnemonic}
    (h : (decide (i.mode = mode) && decide (i.mnemonic = m)) = true) : i = ⟨m, mode⟩ := by
  obtain ⟨hmode, hm⟩ := Bool.and_eq_true_iff.mp h
  exact eq_mk (of_decide_eq_true hmode) (of_decide_eq_true hm)

/-- A shape with one mode. -/
theorem Instruction.mode_of_placed {i : Instruction} {mode : Mode} {rest : Bool}
    (h : (decide (i.mode = mode) && rest) = true) : i.mode = mode :=
  of_decide_eq_true (Bool.and_eq_true_iff.mp h).1

/-- KIL has no operand. -/
def Instruction.placed (model : Nat) (i : Instruction) : Bool :=
  (i.mnemonic ≠ .kil || i.mode = .imp) && (i.shape model).all (Shape.placed model i)

theorem instructions_placed : ∀ model < 5,
    instructionTables[model]?.all (List.all · (Instruction.placed model)) = true := by
  decide +kernel

/-- The shape of an instruction of a model is placed. -/
theorem shape_placed {model : Nat} (hm : model < 5) {opcode : Byte} {i : Instruction}
    (hi : instructionAt model opcode = some i) {shape : Shape}
    (hshape : i.shape model = some shape) :
    shape.placed model i = true := by
  have hplaced : i.placed model = true := instruction_rule instructions_placed hm hi
  rw [Instruction.placed, hshape, Option.all_some] at hplaced
  exact (Bool.and_eq_true_iff.mp hplaced).2

/-- A jam has no next state. -/
theorem execute_kil {model : Nat} (hm : model < 5) {opcode : Byte} {i : Instruction}
    (hi : instructionAt model opcode = some i) (hkil : i.mnemonic = .kil) (r : Registers)
    (memory : Word → Byte) : i.execute model opcode r memory = none := by
  have hplaced : i.placed model = true := instruction_rule instructions_placed hm hi
  have hmode : i.mode = .imp := by
    have himp := (Bool.and_eq_true_iff.mp hplaced).1
    simpa [hkil] using himp
  obtain rfl := Instruction.eq_mk hmode hkil
  rfl

/-- The modes that `Mnemonic.operand` takes. -/
def Mode.hasOperand : Mode → Bool
  | .imp | .acc | .rel | .zpRel | .ind | .indX => false
  | _ => true

theorem execute_operand {model : Nat} {i : Instruction} (h : i.mode.hasOperand = true)
    (opcode : Byte) (r : Registers) (memory : Word → Byte) :
    i.execute model opcode r memory =
      some (i.mnemonic.operand model i.mode opcode r memory) := by
  obtain ⟨m, mode⟩ := i
  cases mode <;> first | rfl | cases h

/-! ### Operands -/

/-- The mode of a shape that accesses memory. -/
def Shape.mode : Shape → Option Mode
  | .read _ mode _ | .readDecimal mode _ | .write _ mode _ | .unstable mode _
  | .modify _ mode _ => some mode
  | _ => none

theorem Shape.hasOperand {shape : Shape} {entries : Slot} (hslot : shape.slot = some entries)
    {mode : Mode} (hmode : shape.mode = some mode) : mode.hasOperand = true := by
  cases shape <;> cases hmode <;> cases mode <;> first | rfl | cases hslot

namespace Mnemonic

variable {m : Mnemonic} (model : Nat) (mode : Mode) (opcode : Byte) (r : Registers)
  (memory : Word → Byte)

/-- The instruction reads its operand and writes nothing. -/
def readsOperand (m : Mnemonic) : Bool := (m.load false).isSome

theorem operand_of_readsOperand (h : m.readsOperand = true) :
    m.operand model mode opcode r memory =
      (m.reads model mode (mode.behind r) (memory (mode.effective r memory)), memory) := by
  cases m <;> first | rfl | cases h

theorem readsOperand_of_load {nes : Bool} {handler : Handler}
    (h : (m.load nes).map Load.handler = some handler) : m.readsOperand = true := by
  cases m <;> first | rfl | cases h

theorem readsOperand_of_sum {handler : Handler} {mode : Mode}
    (h : (m.sum model mode).map Sum.handler = some handler) : m.readsOperand = true := by
  cases m <;> first | rfl | cases h

theorem operand_of_source {source : Source} (h : m.source = some source) :
    m.operand model mode opcode r memory =
      (mode.behind r, poke memory (mode.effective r memory) (m.stored r)) := by
  cases m <;> first | rfl | cases h

theorem operand_of_unstable {handler : Handler}
    (h : m.unstable.map Unstable.handler = some handler) :
    m.operand model mode opcode r memory = m.misstores mode r memory := by
  cases m <;> first | rfl | cases h

theorem operand_of_modify {nes : Bool} {handler : Handler}
    (h : (m.modify nes).map Modify.handler = some handler) :
    m.operand model mode opcode r memory =
      (m.modifies model (mode.behind r) (memory (mode.effective r memory)),
        poke memory (mode.effective r memory)
          (m.result opcode (mode.behind r) (memory (mode.effective r memory)))) := by
  cases m <;> first | rfl | cases h

end Mnemonic

/-- The instructions without an operand do what their shapes do. -/
theorem Mnemonic.implied_shape {m : Mnemonic} {cmos : Bool} {shape : Shape}
    (h : m.shape cmos = some shape) (hkil : m ≠ .kil) (r : Registers) (memory : Word → Byte) :
    m.implied cmos r memory = some (shape.does r memory) := by
  by_cases hbrk : m = .brk
  · subst hbrk
    cases cmos <;> cases h <;> rfl
  · have hworks : ∀ op, shape = .implied op → m.works r = op.effect r :=
      fun op heq => (op.effect_works (heq ▸ h) r).symm
    have hpushed : ∀ op, shape = .push op → m.pushed r = op.value r :=
      fun op heq => (op.value_pushed (heq ▸ h) r).symm
    have hpulls : ∀ op, shape = .pull op → ∀ r data, m.pulls r data = op.effect r data :=
      fun op heq r data => (op.effect_pulls (heq ▸ h) r data).symm
    cases m <;> first
      | exact absurd rfl hbrk
      | exact absurd rfl hkil
      | obtain rfl := Option.some.inj h
      | cases h
    case nopFetch | rti | rts => rfl
    case pha | php | phx | phy =>
      exact congrArg (fun v => some (({ r with s := r.s - 1 } : Registers),
        poke memory (stackAddress r.s) v)) (hpushed _ rfl)
    case pla | plp | plx | ply =>
      exact congrArg (fun r => some (r, memory)) (hpulls _ rfl _ _)
    all_goals exact congrArg (fun r => some (r, memory)) (hworks _ rfl)

section does

variable {answer : Tick → (Word → Byte) → Byte} {memory : Word → Byte} {model : Nat}
  {i : Instruction} {entries : Slot} {cpu : Cpu}

/-- A read and its siblings in the other families. -/
theorem execute_read {cmos : Bool} {mode : Mode} {op : Load}
    (hoperates : Shape.operates model i (.read cmos mode op) = true)
    (hslot : Shape.slot (.read cmos mode op) = some entries) (opcode : Byte) (r : Registers) :
    i.execute model opcode r memory = some (op.does r memory mode) := by
  simp only [Shape.operates, Shape.fits, Bool.and_eq_true, decide_eq_true_eq,
    Bool.not_eq_true'] at hoperates
  obtain ⟨⟨⟨⟨⟨⟨⟨rfl, _⟩, _⟩, _⟩, _⟩, hadds⟩, _⟩, hop⟩ := hoperates
  rw [execute_operand (Shape.hasOperand hslot rfl), Load.does]
  split at hop
  case isTrue h =>
    obtain ⟨⟨hcmos, himm⟩, hbit⟩ := h
    rw [Mnemonic.operand_of_readsOperand _ _ _ _ _ (by rw [hbit]; rfl), hbit,
      bitImmediate_reads (of_decide_eq_true hop) hcmos, himm]
  case isFalse h =>
    have hop := of_decide_eq_true hop
    have hsums : ¬(isCmos model = true ∧ (i.mnemonic = .adc ∨ i.mnemonic = .sbc)) := by
      simpa [Instruction.adds] using hadds
    have hbit : ¬(isCmos model = true ∧ i.mode = .imm ∧ i.mnemonic = .bit) :=
      fun hb => h ⟨⟨hb.1, hb.2.1⟩, hb.2.2⟩
    rw [Mnemonic.operand_of_readsOperand _ _ _ _ _ (Mnemonic.readsOperand_of_load hop),
      Load.effect_reads hop hbit hsums]

/-- A sum of a CMOS model takes another course in decimal mode. -/
theorem sum_does {mode : Mode} {op : Sum}
    (hoperates : Shape.operates model i (.readDecimal mode op) = true)
    (hslot : Shape.slot (.readDecimal mode op) = some entries) (opcode : Byte) :
    ∃ does, i.execute model opcode cpu.registers memory = some does ∧
      entries.Does answer memory cpu does := by
  simp only [Shape.operates, Shape.fits, Bool.and_eq_true, decide_eq_true_eq] at hoperates
  obtain ⟨⟨⟨⟨⟨⟨⟨rfl, hcmos⟩, _⟩, _⟩, _⟩, _⟩, _⟩, hop⟩ := hoperates
  have hreads := Mnemonic.operand_of_readsOperand model i.mode opcode cpu.registers memory
    (Mnemonic.readsOperand_of_sum model hop)
  refine ⟨_, execute_operand (Shape.hasOperand hslot rfl) _ _ _, ?_⟩
  rw [hreads, ← op.effect_reads hop hcmos]
  cases hd : decimalClear cpu with
  | true =>
    have hclear : (i.mode.behind cpu.registers).p &&& flagD = 0 := of_decide_eq_true hd
    rw [if_pos hclear]
    exact read_does op.load fun bus => sum_yields_clear cpu bus op hslot hd
  | false =>
    have hset : ¬(i.mode.behind cpu.registers).p &&& flagD = 0 := of_decide_eq_false hd
    rw [if_neg hset]
    intro bus
    obtain ⟨dummy, hyields⟩ := sum_yields_set cpu bus op hslot hd
    refine ⟨_, _, hyields, Course.ends (decimalCourse_plain _ _ _ _ _), fun hfed => ⟨?_, ?_⟩⟩
    · rw [Course.ticks, List.dropLast_concat, decimalCourse, List.append_assoc] at hfed
      rw [Fed.operand hfed]
      rfl
    · rw [Course.writes_beats, decimalCourse, List.filterMap_append, reads_written]
      simp [written]

/-- An unstable store. -/
theorem unstable_does {mode : Mode} {op : Unstable}
    (hoperates : Shape.operates model i (.unstable mode op) = true)
    (hslot : Shape.slot (.unstable mode op) = some entries) (opcode : Byte) :
    ∃ does, i.execute model opcode cpu.registers memory = some does ∧
      entries.Does answer memory cpu does := by
  simp only [Shape.operates, Shape.fits, Bool.and_eq_true, decide_eq_true_eq] at hoperates
  obtain ⟨⟨⟨⟨⟨rfl, _⟩, _⟩, _⟩, _⟩, hop⟩ := hoperates
  refine ⟨_, execute_operand (Shape.hasOperand hslot rfl) _ _ _, ?_⟩
  rw [Mnemonic.operand_of_unstable _ _ _ _ _ hop]
  refine .of_course _ _ (fun bus => unstable_yields op hslot cpu bus)
    (fun bus => unstableCourse_plain _ _ _ _) fun bus hfed => ⟨op.effect_tas hop _, ?_⟩
  rw [unstableValue_next hslot]
  have hvalue : unstableValue op i.mode cpu.registers bus = i.mnemonic.masked cpu.registers &&&
      (u16GetByte (i.mode.based cpu.registers memory) 1 + 1) := by
    rw [unstableValue, Unstable.value, unstable_masked hop, Fed.base hfed]
  have haddress : ∀ value, i.mode.unstable cpu.registers bus value =
      i.mode.misplaced cpu.registers memory value := by
    intro value
    rw [Mode.unstable, Mode.misplaced, Fed.crosses hfed, Fed.address hfed]
  rw [unstableCourse, reads_written, haddress, hvalue]
  simp [written, Mnemonic.misstores]

/-- A modification of either family, with its byte taken from the mnemonic. -/
theorem modify_interprets {op : Modify} {nes : Bool} (fixes : (ℕ → Byte) → Bool) {cmos : Bool}
    (hop : (i.mnemonic.modify nes).map Modify.handler = some op.handler)
    (heffect : ∀ r data, op.effect r data = i.mnemonic.modifies model r data)
    (hyields : ∀ bus, entries.Yields cpu bus
      (modifyCourse cmos (fixes bus) i.mode (modified op cmos (fixes bus) i.mode cpu bus) cpu
        bus).beats
      (op.effect { cpu.registers with pc := i.mode.next cpu.pc }
        (bus (readTick cmos (fixes bus) i.mode cpu bus)))) :
    entries.Does answer memory cpu
      (i.mnemonic.operand model i.mode (currentOpcodeSlot cpu) cpu.registers memory) := by
  rw [Mnemonic.operand_of_modify _ _ _ _ _ hop]
  refine .of_course _ _ hyields (fun bus => modifyCourse_plain _ _ _ _ _ _) fun bus hfed => ?_
  rw [modifyCourse, List.append_assoc] at hfed
  have hdata := Fed.operand hfed
  have haddress := Fed.address hfed
  have hvalue : modified op cmos (fixes bus) i.mode cpu bus =
      i.mnemonic.result (currentOpcodeSlot cpu) (i.mode.behind cpu.registers)
        (memory (i.mode.effective cpu.registers memory)) := by
    rw [modified, modify_result hop, ← hdata]
    rfl
  refine ⟨?_, ?_⟩
  · rw [hdata, heffect]
    rfl
  · rw [modifyCourse_writes, hvalue, haddress]
    cases cmos with
    | true => rfl
    | false => exact poke_poke _ _ _

/-- A branch on a bit reads the byte of the bit twice, and then its offset. -/
theorem branchBit_fed {bus : ℕ → Byte} {pc : Word} {dummy : Word} {p : Byte} {turn : Turn}
    (hfed : Fed answer memory ((([quiet (read pc), quiet (read (zeroPage (bus 1))),
      quiet (read (zeroPage (bus 1)))] ++ turn.beats (pc + 1) dummy (bus 4) p).map
        Beat.tick).dropLast) fun k => bus (k + 1)) :
    bus 3 = memory (zeroPage (memory pc)) ∧ bus 4 = memory (pc + 1) := by
  obtain ⟨b, rest, hbeats⟩ := turn.beats_cons (pc + 1) dummy (bus 4) p
  rw [hbeats] at hfed
  obtain ⟨hzp, _, hdata, hoffset, _⟩ : bus 1 = memory pc ∧ bus 2 = memory (zeroPage (bus 1)) ∧
      bus 3 = memory (zeroPage (bus 1)) ∧ bus 4 = memory (pc + 1) ∧ _ := by
    simpa only [List.cons_append, List.nil_append, List.map_cons, List.dropLast_cons_cons, quiet,
      sampled, fed_read] using hfed
  rw [hzp] at hdata
  exact ⟨hdata, hoffset⟩

theorem branchBit_does (opcode : Byte)
    (htaken : ∀ data, bbrBbsTaken data cpu = bitTaken opcode data) (hmode : i.mode = .zpRel) :
    ∃ does, i.execute model opcode cpu.registers memory = some does ∧
      bbrBbsZpRel.Does answer memory cpu does := by
  obtain ⟨m, mode⟩ := i
  obtain rfl : mode = .zpRel := hmode
  refine ⟨_, rfl, fun bus => ?_⟩
  obtain ⟨dummy, hyields⟩ := branchBit_yields cpu bus (htaken (bus 3))
  have hreqs : ∀ t ∈ [read cpu.pc, read (zeroPage (bus 1)), read (zeroPage (bus 1))],
      t.fetching = false := by simp
  refine ⟨_, _, hyields, Turn.beats_ends hreqs _ _ _ _ _, fun hfed => ⟨?_, ?_⟩⟩
  · obtain ⟨hdata, hoffset⟩ := branchBit_fed hfed
    rw [Turn.next_of, hoffset, hdata]
    rfl
  · rw [writes_append, Turn.writes_beats]
    simp [writes, written, quiet]

theorem jumpIndX_does (hmode : i.mode = .indX) (opcode : Byte) :
    ∃ does, i.execute model opcode cpu.registers memory = some does ∧
      jmpIndXWdc.Does answer memory cpu does := by
  obtain ⟨m, mode⟩ := i
  obtain rfl : mode = .indX := hmode
  refine ⟨_, rfl, ?_⟩
  refine .of_course _ _ (fun bus => jumpIndX_yields cpu bus) (fun bus => by simp [Course.plain])
    fun bus hfed => ⟨?_, by simp [written]⟩
  simp only [List.cons_append, List.nil_append, fed_read] at hfed
  obtain ⟨hlow, hhigh, -, htarget, hnext, -⟩ := hfed
  have hpointer : ofBytes (bus 1) (bus 2) = wordAt memory cpu.pc := congrArg₂ ofBytes hlow hhigh
  have htarget : bus 4 = memory (ofBytes (bus 1) (bus 2) + zeroPage cpu.x) := htarget
  have hnext : bus 5 = memory (ofBytes (bus 1) (bus 2) + zeroPage cpu.x + 1) := hnext
  rw [hpointer] at htarget hnext
  rw [htarget, hnext]
  rfl

/-! ### Slots -/

theorem implied_does (op : Implied) (cpu : Cpu) :
    (imp op.handler).Does answer memory cpu ((Shape.implied op).does cpu.registers memory) :=
  .of_course _ _ (fun bus => implied_yields cpu bus op) (fun bus => by simp [Course.plain])
    fun bus _ => ⟨rfl, by simp [written]; rfl⟩

theorem push_does (op : Push) (cpu : Cpu) :
    (stackPush op.handler).Does answer memory cpu ((Shape.push op).does cpu.registers memory) :=
  .of_course _ _ (fun bus => push_yields cpu bus op) (fun bus => by simp [Course.plain])
    fun bus _ => ⟨rfl, by simp [written]; rfl⟩

theorem pull_does (op : Load) (cpu : Cpu) :
    (stackPull op.handler).Does answer memory cpu ((Shape.pull op).does cpu.registers memory) := by
  refine .of_course _ _ (fun bus => pull_yields cpu bus op) (fun bus => by simp [Course.plain])
    fun bus hfed => ⟨?_, by simp [written]; rfl⟩
  simp only [List.cons_append, List.nil_append, fed_read] at hfed
  have hdata : bus 3 = memory (stackAddress (cpu.s + 1)) := hfed.2.2.1
  rw [hdata]
  rfl

theorem nopFetch_does (cpu : Cpu) :
    nop1b1c.Does answer memory cpu (Shape.nopFetch.does cpu.registers memory) := by
  intro bus
  have hends : Ends ([] ++ [quiet (fetchAt cpu.pc)]) := Ends.snoc (by simp) cpu.pc
  refine ⟨_, _, nopFetch_yields cpu bus, hends, fun _ => ⟨rfl, ?_⟩⟩
  simp [writes, written, quiet]
  rfl

theorem jump_does (cpu : Cpu) :
    jmpAbs.Does answer memory cpu (Shape.jump.does cpu.registers memory) := by
  refine .of_course _ _ (fun bus => jump_yields cpu bus) (fun bus => by simp [Course.plain])
    fun bus hfed => ⟨?_, by simp [written]; rfl⟩
  simp only [List.cons_append, List.nil_append, fed_read] at hfed
  have hlow : bus 1 = memory cpu.pc := hfed.1
  have hhigh : bus 2 = memory (cpu.pc + 1) := hfed.2.1
  rw [hlow, hhigh]
  rfl

/-- The no-operations that pass an operand of two bytes. -/
theorem pass_does {c : (ℕ → Byte) → Course} {entries : Slot} {cpu : Cpu}
    (hyields : ∀ bus, entries.Yields cpu bus (c bus).beats
      { cpu.registers with pc := Mode.abs.next cpu.pc })
    (hplain : ∀ bus, (c bus).plain = true)
    (hreads : ∀ bus, (c bus).requests.filterMap Tick.written ++
      (c bus).last.written.toList = []) :
    entries.Does answer memory cpu (Mode.abs.behind cpu.registers, memory) :=
  .of_course c _ hyields hplain fun bus _ => ⟨rfl, by rw [hreads]; rfl⟩

theorem execute_implied {shape : Shape} (hmode : i.mode = .imp) (hkil : i.mnemonic ≠ .kil)
    (hshape : i.shape model = some shape) (opcode : Byte) (r : Registers) :
    i.execute model opcode r memory = some (shape.does r memory) := by
  obtain ⟨m, mode⟩ := i
  obtain rfl : mode = .imp := hmode
  exact m.implied_shape hshape hkil r memory

theorem execute_accumulator {op : Implied} (hmode : i.mode = .acc)
    (hshape : i.shape model = some (.implied op)) (opcode : Byte) (r : Registers) :
    i.execute model opcode r memory = some ((Shape.implied op).does r memory) := by
  obtain ⟨m, mode⟩ := i
  obtain rfl : mode = .acc := hmode
  obtain ⟨op', hop, heq⟩ := Option.map_eq_some_iff.mp hshape
  obtain rfl := Shape.implied.inj heq
  exact congrArg (fun r => some (r, memory)) (op'.effect_modifies hop model opcode r).symm

theorem execute_branch {op : Branch} (hmode : i.mode = .rel)
    (hshape : i.shape model = some (.branch op)) (opcode : Byte) (r : Registers) :
    i.execute model opcode r memory = some ((Shape.branch op).does r memory) := by
  obtain ⟨m, mode⟩ := i
  obtain rfl : mode = .rel := hmode
  obtain ⟨op', hop, heq⟩ := Option.map_eq_some_iff.mp hshape
  obtain rfl := Shape.branch.inj heq
  let target := branchTarget (r.pc + 1) (memory r.pc)
  exact congrArg (fun taken : Bool => some (({ r with pc := if taken then target else r.pc + 1 } :
    Registers), memory)) (Mnemonic.branch_taken hop r.p).symm

theorem execute_jump {cmos : Bool} (hmode : i.mode = .ind) (hcmos : isCmos model = cmos)
    (opcode : Byte) (r : Registers) : i.execute model opcode r memory =
      some ((if cmos then Shape.jumpIndCmos else .jumpInd).does r memory) := by
  obtain ⟨m, mode⟩ := i
  obtain rfl : mode = .ind := hmode
  subst hcmos
  rfl

theorem cmos_not_nes (hcmos : isCmos model = true) : model ≠ 1 := by
  rintro rfl
  cases hcmos

theorem modify_sums (hplaced : (!isCmos model || decide (i.mnemonic ≠ .rra) &&
    decide (i.mnemonic ≠ .isc)) = true) (hm : i.mnemonic = .rra ∨ i.mnemonic = .isc) :
    isCmos model = false := by
  cases hcmos : isCmos model with
  | false => rfl
  | true => rcases hm with hm | hm <;> simp [hcmos, hm] at hplaced

/-- **The slot of an instruction** does what the interpreter does. -/
theorem Shape.slot_interprets {shape : Shape} (hshape : i.shape model = some shape)
    (hoperates : shape.operates model i = true) (hplaced : shape.placed model i = true)
    (hslot : shape.slot = some entries) (hkil : i.mnemonic ≠ .kil) {opcode : Byte}
    (hopcode : currentOpcodeSlot cpu = opcode)
    (htaken : ∀ data, bbrBbsTaken data cpu = bitTaken opcode data) :
    ∃ does, i.execute model opcode cpu.registers memory = some does ∧
      entries.Does answer memory cpu does := by
  cases shape with
  | read cmos mode op =>
    exact ⟨_, execute_read hoperates hslot _ _,
      read_does op fun bus => read_yields cpu bus op hslot⟩
  | readDecimal mode op => exact sum_does hoperates hslot opcode
  | write cmos mode source =>
    simp only [operates, fits, Bool.and_eq_true, decide_eq_true_eq] at hoperates
    obtain ⟨⟨⟨⟨⟨⟨rfl, _⟩, _⟩, _⟩, _⟩, _⟩, hsource⟩ := hoperates
    refine ⟨_, execute_operand (hasOperand hslot rfl) _ _ _, ?_⟩
    have hdoes := @write_does answer memory entries cmos i.mode source hslot cpu
    rw [source_stored hsource] at hdoes
    rw [Mnemonic.operand_of_source _ _ _ _ _ hsource]
    exact hdoes
  | unstable mode op => exact unstable_does hoperates hslot opcode
  | modify cmos mode op =>
    simp only [operates, fits, Bool.and_eq_true, decide_eq_true_eq] at hoperates
    obtain ⟨⟨⟨⟨⟨⟨⟨rfl, _⟩, _⟩, _⟩, _⟩, _⟩, _⟩, hop⟩ := hoperates
    refine ⟨_, execute_operand (hasOperand hslot rfl) _ _ _, ?_⟩
    rw [← hopcode]
    have hsums : i.mnemonic = .rra ∨ i.mnemonic = .isc → isCmos model = false :=
      modify_sums (Bool.and_eq_true_iff.mp hplaced).1
    exact modify_interprets _ hop (op.effect_modifies hop hsums) fun bus =>
      modify_yields op hslot cpu bus
  | modifyShort op =>
    simp only [operates, fits, Bool.and_eq_true, decide_eq_true_eq] at hoperates
    obtain ⟨⟨⟨⟨⟨⟨⟨hmode, hcmos⟩, _⟩, _⟩, _⟩, _⟩, _⟩, hop⟩ := hoperates
    refine ⟨_, execute_operand (by rw [hmode]; rfl) _ _ _, ?_⟩
    cases hslot
    rw [← hopcode]
    have hsums : i.mnemonic = .rra ∨ i.mnemonic = .isc → isCmos model = false :=
      modify_sums (Bool.and_eq_true_iff.mp hplaced).1
    have hop' : (i.mnemonic.modify (model = 1)).map Modify.handler = some op.handler := by
      rw [decide_eq_false (cmos_not_nes hcmos)]
      exact hop
    refine modify_interprets (fun bus => Mode.abx.crosses cpu.registers bus) hop
      (op.effect_modifies hop' hsums) (show ∀ bus, Slot.Yields _ _ bus
        (modifyCourse true _ _ _ _ bus).beats _ from ?_)
    rw [hmode]
    exact modifyShort_yields op cpu
  | implied op =>
    cases hslot
    simp only [placed, Bool.and_eq_true, Bool.or_eq_true, decide_eq_true_eq] at hplaced
    refine ⟨_, ?_, implied_does op cpu⟩
    rcases hplaced.1 with hmode | hmode
    · exact execute_implied hmode hkil hshape _ _
    · exact execute_accumulator hmode hshape _ _
  | push op =>
    cases hslot
    have hmode := Instruction.mode_of_placed hplaced
    exact ⟨_, execute_implied hmode hkil hshape _ _, push_does op cpu⟩
  | pull op =>
    cases hslot
    have hmode := Instruction.mode_of_placed hplaced
    exact ⟨_, execute_implied hmode hkil hshape _ _, pull_does op cpu⟩
  | nopFetch =>
    cases hslot
    have hmode := Instruction.mode_of_placed hplaced
    exact ⟨_, execute_implied hmode hkil hshape _ _, nopFetch_does cpu⟩
  | ret =>
    cases hslot
    have hmode := Instruction.mode_of_placed hplaced
    exact ⟨_, execute_implied hmode hkil hshape _ _, ret_does cpu⟩
  | rti =>
    cases hslot
    have hmode := Instruction.mode_of_placed hplaced
    exact ⟨_, execute_implied hmode hkil hshape _ _, rti_does cpu⟩
  | brk =>
    cases hslot
    have hmode := Instruction.mode_of_placed hplaced
    exact ⟨_, execute_implied hmode hkil hshape _ _, brk_does (brk_yields cpu)⟩
  | brkCmos =>
    cases hslot
    have hmode := Instruction.mode_of_placed hplaced
    exact ⟨_, execute_implied hmode hkil hshape _ _, brk_does (brkCmos_yields cpu)⟩
  | branch op =>
    cases hslot
    exact ⟨_, execute_branch (of_decide_eq_true hplaced) hshape _ _, branch_does op cpu⟩
  | branchBit =>
    cases hslot
    exact branchBit_does opcode htaken (of_decide_eq_true hplaced)
  | jump =>
    cases hslot
    obtain rfl := Instruction.eq_of_placed hplaced
    exact ⟨_, rfl, jump_does cpu⟩
  | call =>
    cases hslot
    obtain rfl := Instruction.eq_of_placed hplaced
    exact ⟨_, rfl, call_does cpu⟩
  | jumpInd =>
    cases hslot
    obtain ⟨hmode, hcmos⟩ := Bool.and_eq_true_iff.mp hplaced
    have hnmos := (Bool.not_eq_true' _).mp hcmos
    exact ⟨_, execute_jump (of_decide_eq_true hmode) hnmos _ _, jumpInd_does cpu⟩
  | jumpIndCmos =>
    cases hslot
    obtain ⟨hmode, hcmos⟩ := Bool.and_eq_true_iff.mp hplaced
    exact ⟨_, execute_jump (of_decide_eq_true hmode) hcmos _ _, jumpIndCmos_does cpu⟩
  | jumpIndX =>
    cases hslot
    exact jumpIndX_does (of_decide_eq_true hplaced) opcode
  | nopAbs =>
    cases hslot
    obtain rfl := Instruction.eq_of_placed hplaced
    exact ⟨_, rfl,
      pass_does (nopAbs_yields cpu) (fun bus => by simp [Course.plain]) fun bus => by simp⟩
  | stNopAbs =>
    cases hslot
    obtain rfl := Instruction.eq_of_placed hplaced
    exact ⟨_, rfl,
      pass_does (stNopAbs_yields cpu) (fun bus => by simp [Course.plain]) fun bus => by simp⟩
  | stNopAbsHigh =>
    cases hslot
    obtain rfl := Instruction.eq_of_placed hplaced
    exact ⟨_, rfl,
      pass_does (stNopAbsHigh_yields cpu) (fun bus => by simp [Course.plain]) fun bus => by simp⟩
  | jam => exact absurd (of_decide_eq_true hoperates) hkil

end does

/-- **The slot of an opcode** does what the interpreter does. -/
theorem Instruction.slot_does {model : Nat} (hm : model < 5) {opcode : Byte} {i : Instruction}
    (hi : instructionAt model opcode = some i) (hkil : i.mnemonic ≠ .kil)
    (answer : Tick → (Word → Byte) → Byte) (memory : Word → Byte) (cpu : Cpu) :
    ∃ entries does, slotAt model opcode.toNat = some entries ∧ entries.stays = true ∧
      i.execute model opcode cpu.decoded memory = some does ∧
        entries.Does answer memory (cpu.opened opcode) does := by
  obtain ⟨shape, entries, hshape, hslot, hat, hstays, _⟩ := slot_of_instruction hm hi
  have hoperates := instruction_rule instructions_operate hm hi
  have hplaced := shape_placed hm hi hshape
  rw [hshape, Option.any_some] at hoperates
  obtain ⟨does, hexecute, hdoes⟩ := @Shape.slot_interprets answer memory model i entries
    (cpu.opened opcode) shape hshape hoperates hplaced hslot hkil opcode
    (currentOpcodeSlot_opened cpu opcode) (bbrBbsTaken_opened cpu opcode)
  exact ⟨entries, does, hat, hstays hkil, hexecute, hdoes⟩

end Qe6502
