import Qe6502.Completion

/-!
# Sampling cadence

Which ticks of an instruction sample interrupts, and under which flags: one in the tick before
the next fetch, but for branches that are taken.
-/

namespace Qe6502

/-! ### What a shape shows -/

/-- The requests, then the tick that samples first, then those a taken branch adds, then the
fetch. -/
def Turn.shows (requests : List Tick) (first step dummy : Tick) (flags : Byte) (next : Word) :
    Turn → List Beat
  | straight => requests.map quiet ++ [sampled first flags] ++ [quiet (fetchAt next)]
  | near => requests.map quiet ++ [sampled first flags, quiet step] ++ [quiet (fetchAt next)]
  | far => requests.map quiet ++ [sampled first flags, quiet step, sampled dummy flags] ++
      [quiet (fetchAt next)]

namespace Shape

/-- The turn of a branch; every other shape goes straight. -/
def turn (cpu : Cpu) (bus : ℕ → Byte) : Shape → Turn
  | branch op => Turn.of (op.taken cpu.p) (cpu.pc + 1) (bus 1)
  | branchBit => Turn.of (bbrBbsTaken (bus 3) cpu) (cpu.pc + 1 + 1) (bus 4)
  | _ => .straight

/-- The flags under which a shape samples interrupts. -/
def flags (cpu : Cpu) (bus : ℕ → Byte) : Shape → Byte
  | rti => pulledFlags (bus 3)
  | _ => cpu.p

/-- The tick in which a branch reads its offset, and its request. -/
def offset (cpu : Cpu) : Shape → Option (ℕ × Tick)
  | branch _ => some (0, Qe6502.read cpu.pc)
  | branchBit => some (3, Qe6502.read (cpu.pc + 1))
  | _ => none

/-- The shapes that sample interrupts. -/
def samples : Shape → Bool
  | nopFetch | brk | brkCmos | jam => false
  | _ => true

end Shape

/-- The slot shows a turn, and a branch samples first in the tick that reads its offset. -/
def Slot.Shows (entries : Slot) (cpu : Cpu) (bus : ℕ → Byte) (turn : Turn) (flags : Byte)
    (offset : Option (ℕ × Tick)) : Prop :=
  ∃ reqs first step dummy next r,
    entries.Yields cpu bus (turn.shows reqs first step dummy flags next) r ∧
      Ends (turn.shows reqs first step dummy flags next) ∧
        ∀ p ∈ offset, p = (reqs.length, first)

theorem Turn.ends {reqs : List Tick} {first step dummy : Tick} {flags : Byte} {next : Word}
    (hreqs : ∀ t ∈ reqs, t.fetching = false) (hfirst : first.fetching = false)
    (hstep : step.fetching = false) (hdummy : dummy.fetching = false) (turn : Turn) :
    Ends (turn.shows reqs first step dummy flags next) := by
  have hquiet : ∀ b ∈ reqs.map quiet, b.tick.fetching = false := by
    intro b hb
    obtain ⟨t, ht, rfl⟩ := List.mem_map.mp hb
    exact hreqs t ht
  have hall : ∀ tail : List Beat, (∀ b ∈ tail, b.tick.fetching = false) →
      ∀ b ∈ reqs.map quiet ++ tail, b.tick.fetching = false := by
    intro tail htail b hb
    rcases List.mem_append.mp hb with hb | hb
    · exact hquiet b hb
    · exact htail b hb
  cases turn with
  | straight => exact Ends.snoc (hall _ (by simp [sampled, hfirst])) next
  | near => exact Ends.snoc (hall _ (by simp [sampled, quiet, hfirst, hstep])) next
  | far => exact Ends.snoc (hall _ (by simp [sampled, quiet, hfirst, hstep, hdummy])) next

variable {entries : Slot} {cpu : Cpu} {bus : ℕ → Byte}

theorem Slot.Shows.of_course {course : Course} {r : Registers}
    (h : entries.Yields cpu bus course.beats r) (hplain : course.plain = true) :
    entries.Shows cpu bus .straight course.flags none :=
  ⟨course.requests, course.last, course.last, course.last, course.next, r, h,
    course.ends hplain, fun _ h => nomatch h⟩

theorem Turn.shows_beats (reqs : List Tick) (pc dummy : Word) (offset p : Byte) (turn : Turn) :
    reqs.map quiet ++ turn.beats pc dummy offset p =
      turn.shows reqs (read pc) (read (pc + 1)) (read dummy) p (turn.next pc offset) := by
  cases turn <;> simp [Turn.beats, Turn.shows, Turn.next]

theorem Turn.beats_ends {reqs : List Tick} (hreqs : ∀ t ∈ reqs, t.fetching = false)
    (pc dummy : Word) (offset p : Byte) (turn : Turn) :
    Ends (reqs.map quiet ++ turn.beats pc dummy offset p) := by
  rw [Turn.shows_beats]
  exact Turn.ends hreqs (read_fetching _) (read_fetching _) (read_fetching _) turn

theorem Slot.Shows.of_turn {reqs : List Tick} {pc dummy : Word} {offset p : Byte} {turn : Turn}
    {r : Registers}
    (h : entries.Yields cpu bus (reqs.map quiet ++ turn.beats pc dummy offset p) r)
    (hreqs : ∀ t ∈ reqs, t.fetching = false) :
    entries.Shows cpu bus turn p (some (reqs.length, read pc)) := by
  have hends := Turn.beats_ends hreqs pc dummy offset p turn
  rw [Turn.shows_beats] at h hends
  exact ⟨reqs, read pc, read (pc + 1), read dummy, turn.next pc offset, r, h, hends,
    fun _ hp => (Option.mem_some_iff.mp hp).symm⟩

/-- **What a shape shows.** -/
theorem Shape.shows {shape : Shape} (hsamples : shape.samples = true)
    (hslot : shape.slot = some entries) (cpu : Cpu) (bus : ℕ → Byte) :
    entries.Shows cpu bus (shape.turn cpu bus) (shape.flags cpu bus) (shape.offset cpu) := by
  cases shape with
  | read cmos mode op =>
    exact .of_course (read_yields cpu bus op hslot) (readCourse_plain _ _ _ _ _)
  | readDecimal mode op =>
    cases hd : decimalClear cpu with
    | true => exact .of_course (sum_yields_clear cpu bus op hslot hd) (readCourse_plain _ _ _ _ _)
    | false =>
      obtain ⟨dummy, hyields⟩ := sum_yields_set cpu bus op hslot hd
      exact .of_course hyields (decimalCourse_plain _ _ _ _ _)
  | write cmos mode source =>
    exact .of_course (write_yields source hslot cpu bus) (writeCourse_plain _ _ _ _ _)
  | unstable mode op =>
    exact .of_course (unstable_yields op hslot cpu bus) (unstableCourse_plain _ _ _ _)
  | modify cmos mode op =>
    exact .of_course (modify_yields op hslot cpu bus) (modifyCourse_plain _ _ _ _ _ _)
  | modifyShort op =>
    cases hslot
    exact .of_course (modifyShort_yields op cpu bus) (modifyCourse_plain _ _ _ _ _ _)
  | implied op =>
    cases hslot
    exact .of_course (implied_yields cpu bus op) (by simp [Course.plain])
  | push op =>
    cases hslot
    exact .of_course (push_yields cpu bus op) (by simp [Course.plain])
  | pull op =>
    cases hslot
    exact .of_course (pull_yields cpu bus op) (by simp [Course.plain])
  | nopAbs =>
    cases hslot
    exact .of_course (nopAbs_yields cpu bus) (by simp [Course.plain])
  | stNopAbs =>
    cases hslot
    exact .of_course (stNopAbs_yields cpu bus) (by simp [Course.plain])
  | stNopAbsHigh =>
    cases hslot
    exact .of_course (stNopAbsHigh_yields cpu bus) (by simp [Course.plain])
  | jump =>
    cases hslot
    exact .of_course (jump_yields cpu bus) (by simp [Course.plain])
  | jumpInd =>
    cases hslot
    exact .of_course (jumpInd_yields cpu bus) (by simp [Course.plain])
  | jumpIndCmos =>
    cases hslot
    exact .of_course (jumpIndCmos_yields cpu bus) (by simp [Course.plain])
  | jumpIndX =>
    cases hslot
    exact .of_course (jumpIndX_yields cpu bus) (by simp [Course.plain])
  | call =>
    cases hslot
    exact .of_course (call_yields cpu bus) (by simp [Course.plain])
  | ret =>
    cases hslot
    exact .of_course (ret_yields cpu bus) (by simp [Course.plain])
  | rti =>
    cases hslot
    exact .of_course (rti_yields cpu bus) (by simp [Course.plain])
  | branch op =>
    cases hslot
    obtain ⟨dummy, hyields⟩ := branch_yields cpu bus op
    have hreqs : ∀ t ∈ ([] : List Tick), t.fetching = false := by simp
    exact .of_turn hyields hreqs
  | branchBit =>
    cases hslot
    obtain ⟨dummy, hyields⟩ := branchBit_yields cpu bus rfl
    have hreqs : ∀ t ∈ [Qe6502.read cpu.pc, Qe6502.read (zeroPage (bus 1)),
        Qe6502.read (zeroPage (bus 1))], t.fetching = false := by simp
    exact .of_turn hyields hreqs
  | nopFetch | brk | brkCmos | jam => cases hsamples

/-! ### What an instruction shows -/

/-- The condition of a branch on the flags. -/
def Mnemonic.taken (p : Byte) : Mnemonic → Bool
  | bcc => p &&& flagC = 0
  | bcs => p &&& flagC ≠ 0
  | beq => p &&& flagZ ≠ 0
  | bmi => p &&& flagN ≠ 0
  | bne => p &&& flagZ = 0
  | bpl => p &&& flagN = 0
  | bvc => p &&& flagV = 0
  | bvs => p &&& flagV ≠ 0
  | _ => true

/-- BBR branches on a clear bit and BBS on a set one; the opcode has the number of the bit in its
high nibble, and BBS are the upper half. -/
def bitTaken (opcode data : Byte) : Bool :=
  data.getLsbD (opcode.toNat / 16 % 8) = decide (128 ≤ opcode.toNat)

namespace Instruction

variable (i : Instruction) (opcode : Byte) (r : Registers) (bus : ℕ → Byte)

/-- The turn of an instruction, from the registers after the opcode. -/
def turn : Turn :=
  match i.mode with
  | .rel => Turn.of (i.mnemonic.taken r.p) (r.pc + 1) (bus 1)
  | .zpRel => Turn.of (bitTaken opcode (bus 3)) (r.pc + 1 + 1) (bus 4)
  | _ => .straight

/-- The flags under which an instruction samples interrupts: RTI has pulled them. -/
def flags : Byte := if i.mnemonic = .rti then pulledFlags (bus 3) else r.p

/-- The tick in which a branch reads its offset, and the address of the offset. -/
def offset : Option (ℕ × Word) :=
  match i.mode with
  | .rel => some (0, r.pc)
  | .zpRel => some (3, r.pc + 1)
  | _ => none

/-- BRK, KIL and the CMOS no-operations of one cycle do not sample. -/
def samples : Bool := i.mnemonic ≠ .brk && i.mnemonic ≠ .kil && i.mnemonic ≠ .nopFetch

end Instruction

/-- The shape samples as the instruction does. -/
def Shape.samplesAs (i : Instruction) : Shape → Bool
  | .branch op => i.mode = .rel && i.mnemonic.branch.any (·.handler = op.handler) &&
      i.mnemonic ≠ .rti
  | .branchBit => i.mode = .zpRel && i.mnemonic ≠ .rti
  | .rti => i.mnemonic = .rti && i.mode = .imp
  | .nopFetch | .brk | .brkCmos | .jam => !i.samples
  | _ => i.mode ≠ .rel && i.mode ≠ .zpRel && i.mnemonic ≠ .rti

theorem instructions_sample : ∀ model < 5, instructionTables[model]?.all (List.all · fun i =>
    (i.shape model).any (Shape.samplesAs i)) = true := by
  decide +kernel

theorem Mnemonic.branch_taken {m : Mnemonic} {op : Branch} (h : m.branch = some op) (p : Byte) :
    op.taken p = m.taken p := by
  cases m <;> cases h <;> rfl

/-- The number of the bit in the opcode of a bit instruction. -/
theorem opcode_bit : ∀ opcode : Byte,
    if 128 ≤ opcode.toNat then
      ¬opcode >>> 4 < 8#8 ∧ opcode >>> 4 - 8 = BitVec.ofNat 8 (opcode.toNat / 16 % 8)
    else opcode >>> 4 < 8#8 ∧ opcode >>> 4 = BitVec.ofNat 8 (opcode.toNat / 16 % 8) := by
  decide

theorem and_bitMask : ∀ n < 8, ∀ data : Byte,
    data &&& bitMask (BitVec.ofNat 8 n) = 0 ↔ data.getLsbD n = false := by
  decide

theorem currentOpcodeSlot_opened (cpu : Cpu) (opcode : Byte) :
    currentOpcodeSlot (cpu.opened opcode) = opcode := by
  have hat : (cpu.opened opcode).At opcode.toNat 0 := rfl
  have hopcode : opcode.toNat < 256 := opcode.isLt
  rw [currentOpcodeSlot_at hat (by decide : (0 : Byte).toNat < 5) (by omega) (by omega)]
  exact BitVec.eq_of_toNat_eq (Nat.mod_eq_of_lt opcode.isLt)

theorem bbrBbsTaken_opened (cpu : Cpu) (opcode data : Byte) :
    bbrBbsTaken data (cpu.opened opcode) = bitTaken opcode data := by
  have hmask := and_bitMask (opcode.toNat / 16 % 8) (by omega) data
  have hbit := opcode_bit opcode
  rw [bbrBbsTaken, currentOpcodeSlot_opened, bitTaken]
  by_cases hupper : 128 ≤ opcode.toNat
  · rw [if_pos hupper] at hbit
    rw [if_neg hbit.1, hbit.2, decide_eq_true hupper]
    cases hdata : data.getLsbD (opcode.toNat / 16 % 8) with
    | true => exact decide_eq_true (fun hz => Bool.noConfusion (hdata.symm.trans (hmask.mp hz)))
    | false => exact decide_eq_false (not_not.mpr (hmask.mpr hdata))
  · rw [if_neg hupper] at hbit
    rw [if_pos hbit.1, hbit.2, decide_eq_false hupper]
    cases hdata : data.getLsbD (opcode.toNat / 16 % 8) with
    | true => exact decide_eq_false (fun hz => Bool.noConfusion (hdata.symm.trans (hmask.mp hz)))
    | false => exact decide_eq_true (hmask.mpr hdata)

section samplesAs

variable {i : Instruction}

theorem turn_straight (hrel : i.mode ≠ .rel) (hbit : i.mode ≠ .zpRel) (opcode : Byte)
    (r : Registers) (bus : ℕ → Byte) : i.turn opcode r bus = .straight ∧ i.offset r = none := by
  rw [Instruction.turn, Instruction.offset]
  cases hmode : i.mode <;> first
    | exact ⟨rfl, rfl⟩
    | exact absurd hmode hrel
    | exact absurd hmode hbit

theorem flags_plain (hrti : i.mnemonic ≠ .rti) (r : Registers) (bus : ℕ → Byte) :
    i.flags r bus = r.p := if_neg hrti

theorem branch_of_any {op : Branch} (h : i.mnemonic.branch.any (·.handler = op.handler) = true)
    (p : Byte) : op.taken p = i.mnemonic.taken p := by
  cases hbranch : i.mnemonic.branch with
  | none => rw [hbranch] at h; cases h
  | some op' =>
    rw [hbranch, Option.any_some, decide_eq_true_eq] at h
    rw [← Mnemonic.branch_taken hbranch p, Branch.taken, Branch.taken, h]

/-- The turn, the flags and the offset of the shape are those of the instruction. -/
theorem Shape.eq_of_samplesAs {shape : Shape} (hrule : shape.samplesAs i = true)
    (hsamples : i.samples = true) (cpu : Cpu) (opcode : Byte) (bus : ℕ → Byte) :
    shape.samples = true ∧ shape.turn (cpu.opened opcode) bus = i.turn opcode cpu.decoded bus ∧
      shape.flags (cpu.opened opcode) bus = i.flags cpu.decoded bus ∧
        shape.offset (cpu.opened opcode) =
          (i.offset cpu.decoded).map fun p => (p.1, Qe6502.read p.2) := by
  cases shape with
  | branch op =>
    simp only [samplesAs, Bool.and_eq_true, decide_eq_true_eq] at hrule
    obtain ⟨⟨hmode, hbranch⟩, hrti⟩ := hrule
    have hturn : i.turn opcode cpu.decoded bus =
        Turn.of (i.mnemonic.taken cpu.p) (cpu.pc + 1 + 1) (bus 1) := by
      rw [Instruction.turn, hmode]
      rfl
    rw [hturn, ← branch_of_any hbranch, flags_plain hrti, Instruction.offset, hmode]
    exact ⟨rfl, rfl, rfl, rfl⟩
  | branchBit =>
    simp only [samplesAs, Bool.and_eq_true, decide_eq_true_eq] at hrule
    obtain ⟨hmode, hrti⟩ := hrule
    have hturn : i.turn opcode cpu.decoded bus =
        Turn.of (bitTaken opcode (bus 3)) (cpu.pc + 1 + 1 + 1) (bus 4) := by
      rw [Instruction.turn, hmode]
      rfl
    rw [hturn, ← bbrBbsTaken_opened cpu, flags_plain hrti, Instruction.offset, hmode]
    exact ⟨rfl, rfl, rfl, rfl⟩
  | rti =>
    simp only [samplesAs, Bool.and_eq_true, decide_eq_true_eq] at hrule
    rw [Instruction.turn, Instruction.flags, Instruction.offset, hrule.1, hrule.2]
    exact ⟨rfl, rfl, rfl, rfl⟩
  | nopFetch | brk | brkCmos | jam =>
    rw [samplesAs, hsamples] at hrule
    cases hrule
  | _ =>
    simp only [samplesAs, Bool.and_eq_true, decide_eq_true_eq] at hrule
    obtain ⟨⟨hrel, hbit⟩, hrti⟩ := hrule
    obtain ⟨hturn, hoffset⟩ := turn_straight hrel hbit opcode cpu.decoded bus
    rw [hturn, hoffset, flags_plain hrti]
    exact ⟨rfl, rfl, rfl, rfl⟩

end samplesAs

section instruction

variable {model : Nat} (hm : model < 5) {opcode : Byte} {i : Instruction}
  (hi : instructionAt model opcode = some i)

include hm hi

/-- **What an instruction shows** is what its shape does. -/
theorem Instruction.shows (hsamples : i.samples = true) (cpu : Cpu) (bus : ℕ → Byte) :
    ∃ entries, slotAt model opcode.toNat = some entries ∧ entries.stays = true ∧
      entries.pushes = false ∧
        entries.Shows (cpu.opened opcode) bus (i.turn opcode cpu.decoded bus)
          (i.flags cpu.decoded bus) ((i.offset cpu.decoded).map fun p => (p.1, read p.2)) := by
  obtain ⟨shape, entries, hshape, hslot, hat, hstays, hpushes⟩ := slot_of_instruction hm hi
  have hrule := instruction_rule instructions_sample hm hi
  rw [hshape, Option.any_some] at hrule
  have hnot : i.mnemonic ≠ .brk ∧ i.mnemonic ≠ .kil := by
    simp only [Instruction.samples, Bool.and_eq_true, decide_eq_true_eq] at hsamples
    exact hsamples.1
  refine ⟨entries, hat, hstays hnot.2, hpushes hnot.1, ?_⟩
  obtain ⟨hsampled, hturn, hflags, hoffset⟩ := Shape.eq_of_samplesAs hrule hsamples cpu opcode bus
  rw [← hturn, ← hflags, ← hoffset]
  exact Shape.shows hsampled hslot (cpu.opened opcode) bus

end instruction

end Qe6502
