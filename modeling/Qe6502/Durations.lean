import Qe6502.Interprets

/-!
# Slots take the ticks of instructions

Fed from a memory, the slot of an opcode takes the ticks that the interpreter counts, with page
crossings and decimal mode: `Instruction.slot_takes`.
-/

namespace Qe6502

/-- Fed from a memory, the slot takes `n` ticks. -/
def Slot.Takes (answer : Tick → (Word → Byte) → Byte) (memory : Word → Byte) (entries : Slot)
    (cpu : Cpu) (n : ℕ) : Prop :=
  ∀ bus : ℕ → Byte, ∃ beats r, entries.Yields cpu bus beats r ∧ Ends beats ∧
    (Fed answer memory (beats.map Beat.tick).dropLast (fun k => bus (k + 1)) → beats.length = n)

section takes

variable {answer : Tick → (Word → Byte) → Byte} {memory : Word → Byte} {entries : Slot}
  {cpu : Cpu} {cmos : Bool} {mode : Mode} {n : ℕ}

theorem Slot.Takes.of_course (c : (ℕ → Byte) → Course) (r : (ℕ → Byte) → Registers)
    (hyields : ∀ bus, entries.Yields cpu bus (c bus).beats (r bus))
    (hplain : ∀ bus, (c bus).plain = true)
    (hn : ∀ bus, Fed answer memory ((c bus).requests ++ [(c bus).last]) (fun k => bus (k + 1)) →
      (c bus).requests.length + 2 = n) : entries.Takes answer memory cpu n := by
  intro bus
  refine ⟨_, _, hyields bus, Course.ends (hplain bus), fun hfed => ?_⟩
  rw [(c bus).ticks, List.dropLast_concat] at hfed
  rw [← hn bus hfed]
  simp [Course.beats]

/-- A slot that lasts the same on every bus. -/
theorem Slot.Takes.of_lasts (h : ∀ bus, entries.Lasts cpu bus mode n) :
    entries.Takes answer memory cpu n := by
  intro bus
  obtain ⟨beats, r, hyields, hends, hlength, _⟩ := h bus
  exact ⟨beats, r, hyields, hends, fun _ => hlength⟩

/-- A read waits for the carry if it crosses a page. -/
theorem read_takes (r : (ℕ → Byte) → Registers)
    (hyields : ∀ bus, entries.Yields cpu bus
      (readCourse cmos (mode.crosses cpu.registers bus) mode cpu bus).beats (r bus)) :
    entries.Takes answer memory cpu
      (mode.readCycles + if mode.crossed cpu.registers memory then 1 else 0) := by
  refine .of_course _ _ hyields (fun bus => readCourse_plain _ _ _ _ _) fun bus hfed => ?_
  rw [← Fed.crosses hfed, readCourse, List.length_map, path_length]

/-- A sum in decimal mode takes a tick more. -/
theorem sum_takes (op : Sum) (hslot : readDecimalSlot op.handler op.decimal mode = some entries) :
    entries.Takes answer memory cpu
      (mode.readCycles + (if mode.crossed cpu.registers memory then 1 else 0) +
        if decimalClear cpu then 0 else 1) := by
  cases hd : decimalClear cpu with
  | true => exact read_takes _ fun bus => sum_yields_clear cpu bus op hslot hd
  | false =>
    intro bus
    obtain ⟨dummy, hyields⟩ := sum_yields_set cpu bus op hslot hd
    refine ⟨_, _, hyields, Course.ends (decimalCourse_plain _ _ _ _ _), fun hfed => ?_⟩
    rw [Course.ticks, List.dropLast_concat, decimalCourse, List.append_assoc] at hfed
    rw [← Fed.crosses hfed, ← path_length mode cpu.registers bus true]
    simp [Course.beats, decimalCourse]

/-- A shortened modification waits for the carry if it crosses a page. -/
theorem modifyShort_takes (op : Modify) : (rwAbxShort op.handler).Takes answer memory cpu
    (6 + if Mode.abx.crossed cpu.registers memory then 1 else 0) := by
  refine .of_course _ _ (modifyShort_yields op cpu) (fun bus => modifyCourse_plain _ _ _ _ _ _)
    fun bus hfed => ?_
  rw [modifyCourse, List.append_assoc] at hfed
  rw [← Fed.crosses hfed, modifyCourse, List.length_append, List.length_map]
  cases Mode.abx.crosses cpu.registers bus <;> rfl

theorem Turn.beats_length (pc dummy : Word) (offset p : Byte) (taken : Bool) :
    ((Turn.of taken (pc + 1) offset).beats pc dummy offset p).length =
      turnTicks taken (pc + 1) (branchTarget (pc + 1) offset) := by
  cases taken with
  | false => rfl
  | true =>
    by_cases hsame : u16GetByte (pc + 1) 1 = u16GetByte (branchTarget (pc + 1) offset) 1
    · rw [Turn.of, if_pos rfl, if_pos hsame, turnTicks, if_pos rfl, if_pos hsame]
      rfl
    · rw [Turn.of, if_pos rfl, if_neg hsame, turnTicks, if_pos rfl, if_neg hsame]
      rfl

/-- A branch shows its turn behind the requests before its offset. -/
theorem branch_takes (op : Branch) (cpu : Cpu) : (branchRel op.handler).Takes answer memory cpu
    (turnTicks (op.taken cpu.p) (cpu.pc + 1) (branchTarget (cpu.pc + 1) (memory cpu.pc))) := by
  intro bus
  obtain ⟨dummy, hyields⟩ := branch_yields cpu bus op
  have hends := @Turn.beats_ends [] (by simp) cpu.pc dummy (bus 1) cpu.p
  refine ⟨_, _, hyields, hends _, fun hfed => ?_⟩
  obtain ⟨b, rest, hbeats⟩ := Turn.beats_cons cpu.pc dummy (bus 1) cpu.p
    (Turn.of (op.taken cpu.p) (cpu.pc + 1) (bus 1))
  rw [hbeats, List.map_cons, List.map_cons, List.dropLast_cons_cons] at hfed
  have hoffset : bus 1 = memory cpu.pc := ((fed_read _).mp hfed).1
  rw [Turn.beats_length, hoffset]

theorem branchBit_takes {opcode : Byte} (cpu : Cpu)
    (htaken : ∀ data, bbrBbsTaken data cpu = bitTaken opcode data) :
    bbrBbsZpRel.Takes answer memory cpu
      (3 + turnTicks (bitTaken opcode (memory (zeroPage (memory cpu.pc)))) (cpu.pc + 1 + 1)
        (branchTarget (cpu.pc + 1 + 1) (memory (cpu.pc + 1)))) := by
  intro bus
  obtain ⟨dummy, hyields⟩ := branchBit_yields cpu bus (htaken (bus 3))
  have hreqs : ∀ t ∈ [read cpu.pc, read (zeroPage (bus 1)), read (zeroPage (bus 1))],
      t.fetching = false := by simp
  refine ⟨_, _, hyields, Turn.beats_ends hreqs _ _ _ _ _, fun hfed => ?_⟩
  obtain ⟨hdata, hoffset⟩ := branchBit_fed hfed
  rw [List.length_append, Turn.beats_length, hoffset, hdata]
  rfl

theorem brk_takes {r : (ℕ → Byte) → Registers} (hyields : ∀ bus, entries.Yields cpu bus
      (quiet (read cpu.pc) :: entryBeats cpu bus (cpu.pc + 1) 0xFFFE flagB) (r bus)) :
    entries.Takes answer memory cpu 7 :=
  fun bus => ⟨_, _, hyields bus, entryBeats_ends _ _ _ _, fun _ => rfl⟩

/-! ### Instructions -/

variable {model : Nat} {i : Instruction}

/-- The modes of branches and of indirect jumps. -/
def Mode.turns : Mode → Bool
  | .rel | .zpRel | .ind | .indX => true
  | _ => false

theorem ticks_of_plain (hmode : i.mode.turns = false) (opcode : Byte) (r : Registers) :
    i.ticks model opcode r memory = i.plainTicks model r memory := by
  obtain ⟨m, mode⟩ := i
  cases mode <;> first | rfl | cases hmode

theorem ticks_of_straight (hflow : i.mnemonic.controlFlow = false) (hmode : i.mode.turns = false)
    (opcode : Byte) (r : Registers) : i.ticks model opcode r memory =
      i.cycles model + (if i.waits model && i.mode.crossed r memory then 1 else 0) +
        if i.adds model && r.p &&& flagD ≠ 0 then 1 else 0 := by
  rw [ticks_of_plain hmode]
  obtain ⟨m, mode⟩ := i
  cases m <;> first | rfl | cases hflow

theorem ticks_of_fixed (hflow : i.mnemonic.controlFlow = false) (hmode : i.mode.turns = false)
    (hwaits : i.waits model = false) (hadds : i.adds model = false) (opcode : Byte)
    (r : Registers) : i.ticks model opcode r memory = i.cycles model := by
  rw [ticks_of_straight hflow hmode, hwaits, hadds]
  rfl

theorem ticks_of_jump {cmos : Bool} (hmode : i.mode = .ind) (hcmos : isCmos model = cmos)
    (opcode : Byte) (r : Registers) :
    i.ticks model opcode r memory = if cmos then 6 else 5 := by
  obtain ⟨m, mode⟩ := i
  obtain rfl : mode = .ind := hmode
  subst hcmos
  rfl

theorem crossed_indexed (mode : Mode) (r : Registers) :
    (mode.indexed && mode.crossed r memory) = mode.crossed r memory := by
  rw [Mode.crossed]
  cases mode.indexed <;> rfl

theorem Mode.hasOperand_turns (h : mode.hasOperand = true) : mode.turns = false := by
  cases mode <;> first | rfl | cases h

/-- A slot with as many ticks on every bus. -/
theorem fixed_takes {shape : Shape} (hfits : shape.fits model i = true)
    (hslot : shape.slot = some entries) (hflow : i.mnemonic.controlFlow = false)
    (hmode : i.mode.turns = false) (hfixed : (!i.waits model && !i.adds model) = true)
    (opcode : Byte) :
    entries.Takes answer memory cpu (i.ticks model opcode cpu.registers memory) := by
  simp only [Bool.and_eq_true, Bool.not_eq_true'] at hfixed
  rw [ticks_of_fixed hflow hmode hfixed.1 hfixed.2]
  have hlasts : ∀ bus, entries.Lasts cpu bus i.mode (i.cycles model) := by
    intro bus
    have hextra := shape.lasts hfits hslot cpu bus
    rw [extra_of_fixed hfixed.1 hfixed.2] at hextra
    exact hextra
  exact .of_lasts hlasts

/-- The shapes of control flow. -/
def Shape.turns : Shape → Bool
  | .branch _ | .branchBit | .jump | .jumpInd | .jumpIndCmos | .jumpIndX | .call | .ret | .rti
  | .brk | .brkCmos | .jam => true
  | _ => false

theorem straight_of_placed {shape : Shape} (hplaced : shape.placed model i = true)
    (hturns : shape.turns = false) : i.mnemonic.controlFlow = false := by
  cases shape with
  | branch | branchBit | jump | jumpInd | jumpIndCmos | jumpIndX | call | ret | rti | brk | brkCmos
  | jam => cases hturns
  | nopAbs | stNopAbs | stNopAbsHigh =>
    obtain rfl := Instruction.eq_of_placed hplaced
    rfl
  | read | readDecimal | write | unstable => exact (Bool.not_eq_true' _).mp hplaced
  | _ => simpa using (Bool.and_eq_true_iff.mp hplaced).2

/-- The shapes whose ticks depend on the operand. -/
def Shape.waiting : Shape → Bool
  | .read .. | .readDecimal .. | .modifyShort _ => true
  | _ => false

/-- The other shapes that are not control flow take as many ticks on every bus. -/
theorem Shape.fixed {shape : Shape} (hfits : shape.fits model i = true)
    (hslot : shape.slot = some entries) (hwaiting : shape.waiting = false) :
    i.mode.turns = false ∧ (!i.waits model && !i.adds model) = true := by
  cases shape with
  | read | readDecimal | modifyShort => cases hwaiting
  | branch | branchBit | jump | jumpInd | jumpIndCmos | jumpIndX | call | ret | rti | brk | brkCmos
  | jam => cases hfits
  | write cmos mode source =>
    simp only [fits, Bool.and_eq_true, decide_eq_true_eq] at hfits
    obtain ⟨⟨⟨⟨⟨rfl, _⟩, _⟩, _⟩, hwaits⟩, hadds⟩ := hfits
    exact ⟨Mode.hasOperand_turns (hasOperand hslot rfl), by rw [hwaits, hadds]; rfl⟩
  | unstable mode op =>
    simp only [fits, Bool.and_eq_true, decide_eq_true_eq] at hfits
    obtain ⟨⟨⟨⟨rfl, _⟩, _⟩, hwaits⟩, hadds⟩ := hfits
    exact ⟨Mode.hasOperand_turns (hasOperand hslot rfl), by rw [hwaits, hadds]; rfl⟩
  | modify cmos mode op =>
    simp only [fits, Bool.and_eq_true, decide_eq_true_eq] at hfits
    obtain ⟨⟨⟨⟨⟨rfl, _⟩, _⟩, _⟩, hwaits⟩, hadds⟩ := hfits
    exact ⟨Mode.hasOperand_turns (hasOperand hslot rfl), by rw [hwaits, hadds]; rfl⟩
  | implied op =>
    simp only [fits, Bool.and_eq_true, decide_eq_true_eq] at hfits
    obtain ⟨⟨⟨hoperands, _⟩, hwaits⟩, hadds⟩ := hfits
    refine ⟨?_, by rw [hwaits, hadds]; rfl⟩
    cases hmode : i.mode <;> rw [hmode] at hoperands <;> first | rfl | cases hoperands
  | push | pull | nopFetch | nopAbs | stNopAbs | stNopAbsHigh =>
    simp only [fits, Bool.and_eq_true, decide_eq_true_eq] at hfits
    obtain ⟨⟨⟨hmode, _⟩, hwaits⟩, hadds⟩ := hfits
    exact ⟨by rw [hmode]; rfl, by rw [hwaits, hadds]; rfl⟩

/-- **The slot of an instruction** takes the ticks that the interpreter counts. -/
theorem Shape.slot_takes {shape : Shape} (hshape : i.shape model = some shape)
    (hfits : (i.mnemonic.controlFlow || shape.fits model i) = true)
    (hplaced : shape.placed model i = true) (hslot : shape.slot = some entries)
    (hkil : i.mnemonic ≠ .kil) {opcode : Byte}
    (htaken : ∀ data, bbrBbsTaken data cpu = bitTaken opcode data) :
    entries.Takes answer memory cpu (i.ticks model opcode cpu.registers memory) := by
  cases shape with
  | branch op =>
    cases hslot
    obtain ⟨m, mode⟩ := i
    obtain rfl : mode = .rel := of_decide_eq_true hplaced
    obtain ⟨op', hop, heq⟩ := Option.map_eq_some_iff.mp hshape
    obtain rfl := Shape.branch.inj heq
    have htakes := @branch_takes answer memory op' cpu
    rw [Mnemonic.branch_taken hop] at htakes
    exact htakes
  | branchBit =>
    cases hslot
    obtain ⟨m, mode⟩ := i
    obtain rfl : mode = .zpRel := of_decide_eq_true hplaced
    exact branchBit_takes cpu htaken
  | jump =>
    cases hslot
    obtain rfl := Instruction.eq_of_placed hplaced
    exact .of_course _ _ (fun bus => jump_yields cpu bus) (fun bus => by simp [Course.plain])
      fun bus _ => rfl
  | call =>
    cases hslot
    obtain rfl := Instruction.eq_of_placed hplaced
    exact .of_course _ _ (fun bus => call_yields cpu bus) (fun bus => by simp [Course.plain])
      fun bus _ => rfl
  | ret =>
    cases hslot
    obtain rfl := Instruction.eq_of_placed hplaced
    exact .of_course _ _ (fun bus => ret_yields cpu bus) (fun bus => by simp [Course.plain])
      fun bus _ => rfl
  | rti =>
    cases hslot
    obtain rfl := Instruction.eq_of_placed hplaced
    exact .of_course _ _ (fun bus => rti_yields cpu bus) (fun bus => by simp [Course.plain])
      fun bus _ => rfl
  | brk =>
    cases hslot
    obtain rfl := Instruction.eq_of_placed hplaced
    exact brk_takes (brk_yields cpu)
  | brkCmos =>
    cases hslot
    obtain rfl := Instruction.eq_of_placed hplaced
    exact brk_takes (brkCmos_yields cpu)
  | jumpInd =>
    cases hslot
    obtain ⟨hmode, hcmos⟩ := Bool.and_eq_true_iff.mp hplaced
    rw [ticks_of_jump (of_decide_eq_true hmode) ((Bool.not_eq_true' _).mp hcmos)]
    exact .of_course _ _ (fun bus => jumpInd_yields cpu bus) (fun bus => by simp [Course.plain])
      fun bus _ => rfl
  | jumpIndCmos =>
    cases hslot
    obtain ⟨hmode, hcmos⟩ := Bool.and_eq_true_iff.mp hplaced
    rw [ticks_of_jump (of_decide_eq_true hmode) hcmos]
    exact .of_course _ _ (fun bus => jumpIndCmos_yields cpu bus)
      (fun bus => by simp [Course.plain]) fun bus _ => rfl
  | jumpIndX =>
    cases hslot
    obtain ⟨m, mode⟩ := i
    obtain rfl : mode = .indX := of_decide_eq_true hplaced
    exact .of_course _ _ (fun bus => jumpIndX_yields cpu bus) (fun bus => by simp [Course.plain])
      fun bus _ => rfl
  | jam => exact absurd (of_decide_eq_true hplaced) hkil
  | read cmos mode op =>
    have hflow : i.mnemonic.controlFlow = false := straight_of_placed hplaced rfl
    rw [hflow, Bool.false_or] at hfits
    simp only [fits, Bool.and_eq_true, decide_eq_true_eq, Bool.not_eq_true'] at hfits
    obtain ⟨⟨⟨⟨⟨rfl, _⟩, _⟩, hcycles⟩, hwaits⟩, hadds⟩ := hfits
    rw [ticks_of_straight hflow (Mode.hasOperand_turns (hasOperand hslot rfl)), hcycles, hwaits,
      hadds, crossed_indexed]
    exact read_takes _ fun bus => read_yields cpu bus op hslot
  | readDecimal mode op =>
    have hflow : i.mnemonic.controlFlow = false := straight_of_placed hplaced rfl
    rw [hflow, Bool.false_or] at hfits
    simp only [fits, Bool.and_eq_true, decide_eq_true_eq] at hfits
    obtain ⟨⟨⟨⟨⟨rfl, _⟩, _⟩, hcycles⟩, hwaits⟩, hadds⟩ := hfits
    rw [ticks_of_straight hflow (Mode.hasOperand_turns (hasOperand hslot rfl)), hcycles, hwaits,
      hadds, crossed_indexed, Bool.true_and]
    have htakes := @sum_takes answer memory entries cpu i.mode op hslot
    have hdecimal : (if decimalClear cpu then 0 else 1) =
        if decide (cpu.registers.p &&& flagD ≠ 0) then 1 else 0 := by
      have hclear : decimalClear cpu = decide (cpu.registers.p &&& flagD = 0) := rfl
      rw [hclear, decide_not]
      cases decide (cpu.registers.p &&& flagD = 0) <;> rfl
    rw [hdecimal] at htakes
    exact htakes
  | modifyShort op =>
    have hflow : i.mnemonic.controlFlow = false := straight_of_placed hplaced rfl
    rw [hflow, Bool.false_or] at hfits
    simp only [fits, Bool.and_eq_true, decide_eq_true_eq, Bool.not_eq_true'] at hfits
    obtain ⟨⟨⟨⟨⟨hmode, _⟩, _⟩, hcycles⟩, hwaits⟩, hadds⟩ := hfits
    cases hslot
    rw [ticks_of_straight hflow (by rw [hmode]; rfl), hcycles, hwaits, hadds, hmode,
      Bool.true_and]
    exact modifyShort_takes op
  | _ =>
    have hflow : i.mnemonic.controlFlow = false := straight_of_placed hplaced rfl
    rw [hflow, Bool.false_or] at hfits
    obtain ⟨hmode, hfixed⟩ := Shape.fixed hfits hslot rfl
    exact fixed_takes hfits hslot hflow hmode hfixed opcode

end takes

/-- **The slot of an opcode** takes the ticks that the interpreter counts. -/
theorem Instruction.slot_takes {model : Nat} (hm : model < 5) {opcode : Byte} {i : Instruction}
    (hi : instructionAt model opcode = some i) (hkil : i.mnemonic ≠ .kil) {entries : Slot}
    (hat : slotAt model opcode.toNat = some entries) (answer : Tick → (Word → Byte) → Byte)
    (memory : Word → Byte) (cpu : Cpu) :
    entries.Takes answer memory (cpu.opened opcode) (i.ticks model opcode cpu.decoded memory) := by
  obtain ⟨shape, entries', hshape, hslot, hat', _⟩ := slot_of_instruction hm hi
  obtain rfl := Option.some.inj (hat'.symm.trans hat)
  have hfits := instruction_rule instructions_fit hm hi
  rw [hshape, Option.all_some] at hfits
  exact shape.slot_takes hshape hfits (shape_placed hm hi hshape) hslot hkil
    (bbrBbsTaken_opened cpu opcode)

end Qe6502
