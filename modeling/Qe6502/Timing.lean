import Qe6502.Completion

/-!
# Length and cycles

The base cycles of an instruction depend on its addressing mode and on how it accesses memory.
An instruction that is not control flow goes to the address after its operand, in its base
cycles with one more for a crossed page and one more for decimal mode (`length_and_cycles`).
-/

namespace Qe6502

/-! ### Base cycles -/

/-- How an instruction accesses its operand. -/
inductive Access
  | read | write | modify
deriving DecidableEq

def Mnemonic.access : Mnemonic → Access
  | ahx | sax | shx | shy | sta | stx | sty | stz | tas => .write
  | asl | dcp | dec | inc | isc | lsr | rla | rmb | rol | ror | rra | slo | smb | sre | trb
  | tsb => .modify
  | _ => .read

/-- Jumps, calls, returns, branches, BRK and KIL. -/
def Mnemonic.controlFlow : Mnemonic → Bool
  | bbr | bbs | bcc | bcs | beq | bmi | bne | bpl | bra | brk | bvc | bvs | jmp | jsr | kil | rti
  | rts => true
  | _ => false

namespace Mode

def readCycles : Mode → ℕ
  | .zp => 3
  | .zpx | .zpy | .abs | .abx | .aby => 4
  | .izy | .izp => 5
  | .izx => 6
  | _ => 2

def writeCycles : Mode → ℕ
  | .abx | .aby => 5
  | .izy => 6
  | mode => mode.readCycles

def modifyCycles : Mode → ℕ
  | .imp | .acc => 2
  | mode => mode.writeCycles + 2

end Mode

namespace Instruction

variable (model : Nat) (i : Instruction)

/-- The shifts and rotates that the CMOS models shorten. -/
def short : Bool := isCmos model && i.mode = .abx && i.mnemonic.shifts

/-- The instruction takes a cycle more if it crosses a page. -/
def waits : Bool := i.mode.indexed && (i.mnemonic.access = .read || i.short model)

/-- The instruction takes a cycle more in decimal mode. -/
def adds : Bool := isCmos model && (i.mnemonic = .adc || i.mnemonic = .sbc)

def cycles : ℕ :=
  match i.mnemonic with
  | .nopFetch => 1
  | .pha | .php | .phx | .phy | .stNopAbs => 3
  | .pla | .plp | .plx | .ply | .nopAbs | .stNopAbsHigh => 4
  | m =>
    match m.access with
    | .read => i.mode.readCycles
    | .write => i.mode.writeCycles
    | .modify => if i.short model then 6 else i.mode.modifyCycles

end Instruction

/-! ### Cycles of the shapes -/

/-- The instruction has the mode and the access of its shape, and the cycles the shape has. -/
def Shape.fits (model : Nat) (i : Instruction) : Shape → Bool
  | .read cmos mode _ => mode = i.mode && cmos = isCmos model && i.mnemonic.access = .read &&
      i.cycles model = mode.readCycles && i.waits model = mode.indexed && !i.adds model
  | .readDecimal mode _ => mode = i.mode && isCmos model && i.mnemonic.access = .read &&
      i.cycles model = mode.readCycles && i.waits model = mode.indexed && i.adds model
  | .write cmos mode _ => mode = i.mode && cmos = isCmos model && i.mnemonic.access = .write &&
      i.cycles model = mode.writeCycles && !i.waits model && !i.adds model
  | .unstable mode _ => mode = i.mode && i.mnemonic.unstable.isSome &&
      i.cycles model = mode.writeCycles && !i.waits model && !i.adds model
  | .modify cmos mode _ => mode = i.mode && cmos = isCmos model && i.mnemonic.access = .modify &&
      i.cycles model = mode.modifyCycles && !i.waits model && !i.adds model
  | .modifyShort _ => i.mode = .abx && isCmos model && i.mnemonic.access = .modify &&
      i.cycles model = 6 && i.waits model && !i.adds model
  | .implied _ => i.mode.operands = 0 && i.cycles model = 2 && !i.waits model && !i.adds model
  | .push _ => i.mode = .imp && i.cycles model = 3 && !i.waits model && !i.adds model
  | .pull _ => i.mode = .imp && i.cycles model = 4 && !i.waits model && !i.adds model
  | .nopFetch => i.mode = .imp && i.cycles model = 1 && !i.waits model && !i.adds model
  | .stNopAbs => i.mode = .abs && i.cycles model = 3 && !i.waits model && !i.adds model
  | .nopAbs | .stNopAbsHigh =>
    i.mode = .abs && i.cycles model = 4 && !i.waits model && !i.adds model
  | _ => false

theorem instructions_fit : ∀ model < 5, instructionTables[model]?.all (List.all · fun i =>
    i.mnemonic.controlFlow || (i.shape model).all (Shape.fits model i)) = true := by
  decide +kernel

/-- The slot takes `n` ticks and goes to the address after the operand. -/
def Slot.Lasts (entries : Slot) (cpu : Cpu) (bus : ℕ → Byte) (mode : Mode) (n : ℕ) : Prop :=
  ∃ beats r, entries.Yields cpu bus beats r ∧ Ends beats ∧ beats.length = n ∧
    beats.getLast? = some (quiet (fetchAt (mode.next cpu.pc))) ∧ r.pc = mode.next cpu.pc

variable {entries : Slot} {cpu : Cpu} {bus : ℕ → Byte} {mode : Mode} {n : ℕ}

theorem Slot.Lasts.of_course {course : Course} {r : Registers}
    (h : entries.Yields cpu bus course.beats r) (hplain : course.plain = true)
    (hnext : course.next = mode.next cpu.pc) (hr : r.pc = mode.next cpu.pc)
    (hn : course.requests.length + 2 = n) : entries.Lasts cpu bus mode n := by
  refine ⟨course.beats, r, h, course.ends hplain, ?_, ?_, hr⟩
  · simp [Course.beats, hn]
  · rw [Course.beats, List.getLast?_concat, hnext]

theorem path_length (mode : Mode) (r : Registers) (bus : ℕ → Byte) (cmos fixes : Bool) :
    (mode.path r bus cmos fixes).length + 2 = mode.readCycles + if fixes then 1 else 0 := by
  cases mode <;> cases fixes <;> rfl

theorem writePath_length (r : Registers) (bus : ℕ → Byte) (cmos : Bool) :
    (mode.path r bus cmos mode.indexed).length + 2 = mode.writeCycles := by
  cases mode <;> rfl

/-- The cycles beyond the base cycles. -/
def Instruction.extra (model : Nat) (i : Instruction) (cpu : Cpu) (bus : ℕ → Byte) : ℕ :=
  (if i.waits model && i.mode.crosses cpu.registers bus then 1 else 0) +
    if i.adds model && !decimalClear cpu then 1 else 0

theorem crosses_of_not_indexed {r : Registers} (h : mode.indexed = false) :
    mode.crosses r bus = false := by
  rw [Mode.crosses, h]
  rfl

section extra

variable {model : Nat} {i : Instruction}

theorem extra_of_fixed (hwaits : i.waits model = false) (hadds : i.adds model = false) :
    i.extra model cpu bus = 0 := by
  rw [Instruction.extra, hwaits, hadds]
  rfl

theorem extra_of_read (hwaits : i.waits model = i.mode.indexed) :
    i.extra model cpu bus = (if i.mode.crosses cpu.registers bus then 1 else 0) +
      if i.adds model && !decimalClear cpu then 1 else 0 := by
  rw [Instruction.extra, hwaits]
  cases hi : i.mode.indexed with
  | true => rfl
  | false => rw [crosses_of_not_indexed hi]; rfl

theorem lasts_of_fixed (hfits : (i.mode = mode && i.cycles model = n && !i.waits model &&
    !i.adds model) = true) (h : entries.Lasts cpu bus mode n) :
    entries.Lasts cpu bus i.mode (i.cycles model + i.extra model cpu bus) := by
  simp only [Bool.and_eq_true, decide_eq_true_eq, Bool.not_eq_true'] at hfits
  obtain ⟨⟨⟨hmode, hcycles⟩, hwaits⟩, hadds⟩ := hfits
  rw [hmode, hcycles, extra_of_fixed hwaits hadds]
  exact h

/-- **The cycles of a shape.** -/
theorem Shape.lasts {shape : Shape} (hfits : shape.fits model i = true)
    (hslot : shape.slot = some entries) (cpu : Cpu) (bus : ℕ → Byte) :
    entries.Lasts cpu bus i.mode (i.cycles model + i.extra model cpu bus) := by
  cases shape with
  | read cmos mode op =>
    simp only [Shape.fits, Bool.and_eq_true, decide_eq_true_eq, Bool.not_eq_true'] at hfits
    obtain ⟨⟨⟨⟨⟨rfl, rfl⟩, _⟩, hcycles⟩, hwaits⟩, hadds⟩ := hfits
    refine .of_course (read_yields cpu bus op hslot) (readCourse_plain _ _ _ _ _) rfl
      (op.effect_pc _ _) ?_
    rw [readCourse, List.length_map, path_length, extra_of_read hwaits, hcycles, hadds]
    rfl
  | readDecimal mode op =>
    simp only [Shape.fits, Bool.and_eq_true, decide_eq_true_eq] at hfits
    obtain ⟨⟨⟨⟨⟨rfl, _⟩, _⟩, hcycles⟩, hwaits⟩, hadds⟩ := hfits
    have hpath := path_length i.mode cpu.registers bus true (i.mode.crosses cpu.registers bus)
    cases hd : decimalClear cpu with
    | true =>
      refine .of_course (sum_yields_clear cpu bus op hslot hd) (readCourse_plain _ _ _ _ _) rfl
        (op.load.effect_pc _ _) ?_
      rw [readCourse, List.length_map, hpath, extra_of_read hwaits, hcycles, hadds, hd]
      rfl
    | false =>
      obtain ⟨dummy, hyields⟩ := sum_yields_set cpu bus op hslot hd
      refine .of_course hyields (decimalCourse_plain _ _ _ _ _) rfl (op.effect_pc _ _) ?_
      rw [decimalCourse, List.length_append, List.length_map, extra_of_read hwaits, hcycles, hadds,
        hd, ← Nat.add_assoc, ← hpath]
      rfl
  | write cmos mode source =>
    simp only [Shape.fits, Bool.and_eq_true, decide_eq_true_eq, Bool.not_eq_true'] at hfits
    obtain ⟨⟨⟨⟨⟨rfl, _⟩, _⟩, hcycles⟩, hwaits⟩, hadds⟩ := hfits
    refine .of_course (write_yields source hslot cpu bus) (writeCourse_plain _ _ _ _ _) rfl rfl ?_
    rw [writeCourse, List.length_map, writePath_length, extra_of_fixed hwaits hadds, hcycles]
    rfl
  | unstable mode op =>
    simp only [Shape.fits, Bool.and_eq_true, decide_eq_true_eq, Bool.not_eq_true'] at hfits
    obtain ⟨⟨⟨⟨rfl, _⟩, hcycles⟩, hwaits⟩, hadds⟩ := hfits
    have hindexed : i.mode.indexed = true := by
      cases hmode : i.mode <;> rw [hmode] at hslot <;> first | rfl | cases hslot
    refine .of_course (unstable_yields op hslot cpu bus) (unstableCourse_plain _ _ _ _) rfl
      (op.effect_pc _) ?_
    rw [unstableCourse, List.length_map, extra_of_fixed hwaits hadds, hcycles,
      ← writePath_length cpu.registers bus false, hindexed]
  | modify cmos mode op =>
    simp only [Shape.fits, Bool.and_eq_true, decide_eq_true_eq, Bool.not_eq_true'] at hfits
    obtain ⟨⟨⟨⟨⟨rfl, _⟩, _⟩, hcycles⟩, hwaits⟩, hadds⟩ := hfits
    refine .of_course (modify_yields op hslot cpu bus) (modifyCourse_plain _ _ _ _ _ _) rfl
      (op.effect_pc _ _) ?_
    have hwrites : i.mode.modifyCycles = i.mode.writeCycles + 2 := by
      cases hmode : i.mode <;> rw [hmode] at hslot <;> first | rfl | cases hslot
    rw [modifyCourse, List.length_append, List.length_map, extra_of_fixed hwaits hadds, hcycles,
      hwrites, ← writePath_length cpu.registers bus cmos]
    rfl
  | modifyShort op =>
    simp only [Shape.fits, Bool.and_eq_true, decide_eq_true_eq, Bool.not_eq_true'] at hfits
    obtain ⟨⟨⟨⟨⟨hmode, _⟩, _⟩, hcycles⟩, hwaits⟩, hadds⟩ := hfits
    cases hslot
    rw [hmode]
    refine .of_course (modifyShort_yields op cpu bus) (modifyCourse_plain _ _ _ _ _ _) rfl
      (op.effect_pc _ _) ?_
    rw [modifyCourse, List.length_append, List.length_map, Instruction.extra, hcycles, hwaits,
      hadds, hmode]
    cases Mode.abx.crosses cpu.registers bus <;> rfl
  | implied op =>
    simp only [Shape.fits, Bool.and_eq_true, decide_eq_true_eq, Bool.not_eq_true'] at hfits
    obtain ⟨⟨⟨hoperands, hcycles⟩, hwaits⟩, hadds⟩ := hfits
    cases hslot
    have hnext : i.mode.next cpu.pc = cpu.pc := by rw [Mode.next, hoperands]; rfl
    refine .of_course (implied_yields cpu bus op) (by simp [Course.plain]) hnext.symm
      ((op.effect_pc _).trans hnext.symm) ?_
    rw [extra_of_fixed hwaits hadds, hcycles]
    rfl
  | push op =>
    cases hslot
    exact lasts_of_fixed hfits
      (.of_course (push_yields cpu bus op) (by simp [Course.plain]) rfl rfl rfl)
  | pull op =>
    cases hslot
    exact lasts_of_fixed hfits
      (.of_course (pull_yields cpu bus op) (by simp [Course.plain]) rfl (op.effect_pc _ _) rfl)
  | nopFetch =>
    cases hslot
    have hends : Ends ([] ++ [quiet (fetchAt cpu.pc)]) := Ends.snoc (by simp) cpu.pc
    exact lasts_of_fixed hfits ⟨_, _, nopFetch_yields cpu bus, hends, rfl, rfl, rfl⟩
  | nopAbs =>
    cases hslot
    exact lasts_of_fixed hfits
      (.of_course (nopAbs_yields cpu bus) (by simp [Course.plain]) rfl rfl rfl)
  | stNopAbs =>
    cases hslot
    exact lasts_of_fixed hfits
      (.of_course (stNopAbs_yields cpu bus) (by simp [Course.plain]) rfl rfl rfl)
  | stNopAbsHigh =>
    cases hslot
    exact lasts_of_fixed hfits
      (.of_course (stNopAbsHigh_yields cpu bus) (by simp [Course.plain]) rfl rfl rfl)
  | branch | branchBit | jump | jumpInd | jumpIndCmos | jumpIndX | call | ret | rti | brk | brkCmos
  | jam => cases hfits

end extra

theorem crosses_decoded (cpu : Cpu) :
    mode.crosses cpu.decoded bus = mode.crosses cpu.registers bus := by
  cases mode <;> rfl

/-- The slot of an instruction that is not control flow. -/
theorem slot_of_straight {model : Nat} (hm : model < 5) {opcode : Byte} {i : Instruction}
    (hi : instructionAt model opcode = some i) (hflow : i.mnemonic.controlFlow = false) :
    ∃ shape entries, i.shape model = some shape ∧ shape.slot = some entries ∧
      shape.fits model i = true ∧ slotAt model opcode.toNat = some entries ∧
        entries.stays = true ∧ entries.pushes = false := by
  obtain ⟨shape, entries, hshape, hslot, hat, hstays, hpushes⟩ := slot_of_instruction hm hi
  have hfits := instruction_rule instructions_fit hm hi
  rw [hflow, Bool.false_or, hshape] at hfits
  have hkil : i.mnemonic ≠ .kil := by
    rintro h
    rw [h] at hflow
    cases hflow
  have hbrk : i.mnemonic ≠ .brk := by
    rintro h
    rw [h] at hflow
    cases hflow
  exact ⟨shape, entries, hshape, hslot, hfits, hat, hstays hkil, hpushes hbrk⟩

/-- **Length and cycle count.**  From its own fetch an instruction that is not control flow goes
to the address after its operand, on every path.  It takes its base cycles, one more if an
indexed read or a CMOS shift of an `abs,X` operand crosses a page, and one more if a CMOS model
adds or subtracts with D set. -/
theorem length_and_cycles {s : Session} (hd : s.Dispatching) (input : ℕ → List PinCall × Byte)
    {i : Instruction} (hi : instructionAt s.1.model.toNat (input 0).2 = some i)
    (hflow : i.mnemonic.controlFlow = false) :
    ∃ beats s', s.Completes input beats s' ∧
      beats.getLast? = some (quiet (fetchAt (s.1.pc + BitVec.ofNat 16 i.mode.length))) ∧
      s'.1.pc = s.1.pc + BitVec.ofNat 16 i.mode.length ∧
      beats.length = i.cycles s.1.model.toNat +
        (if i.waits s.1.model.toNat && i.mode.crosses s.1.registers (onBus input)
          then 1 else 0) +
        if i.adds s.1.model.toNat && s.1.p &&& flagD ≠ 0 then 1 else 0 := by
  obtain ⟨shape, entries, _, hslot, hfits, hat, hstays, hpushes⟩ := slot_of_straight hd.1 hi hflow
  obtain ⟨beats, r, hyields, hends, hlength, hlast, hpc⟩ :=
    shape.lasts hfits hslot (s.1.opened (input 0).2) (onBus input)
  obtain ⟨s', hs', _, hr⟩ := hd.completes hat hstays (.inl hpushes) hyields hends
  have hnext : i.mode.next (s.1.pc + 1) = s.1.pc + BitVec.ofNat 16 i.mode.length := by
    rw [Mode.next_eq, Mode.length, BitVec.ofNat_add, BitVec.add_assoc]
    rfl
  refine ⟨beats, s', hs', ?_, ?_, ?_⟩
  · rw [← hnext]
    exact hlast
  · have hs'pc : s'.1.pc = r.pc := congrArg Registers.pc hr
    rw [hs'pc, hpc, ← hnext]
    rfl
  · have hdecimal : (!decimalClear (s.1.opened (input 0).2)) = decide (s.1.p &&& flagD ≠ 0) :=
      decide_not.symm
    rw [hlength, Instruction.extra, opened_registers, crosses_decoded, hdecimal, Nat.add_assoc]

theorem length_and_cycles_lda : ∃ beats s',
    (Session.after 2 [.goto 0x0200]).Completes (fun _ => ([], 0xBD)) beats s' ∧
      s'.1.pc = 0x0203 := by
  obtain ⟨beats, s', hs', _, hpc, _⟩ := length_and_cycles goto_dispatching (fun _ => ([], 0xBD))
    (i := ⟨.lda, .abx⟩) (by decide) rfl
  exact ⟨beats, s', hs', hpc.trans (by decide)⟩

end Qe6502
