import Qe6502.Timing

/-!
# Effective addresses

Loads, stores and modifications of one addressing mode access their data at one address, that of
`Mode.address` (`effective_address`).
-/

namespace Qe6502

/-- The instruction accesses data at its effective address.  The unstable stores make up an
address of their own. -/
def Instruction.accesses (i : Instruction) : Bool :=
  !i.mnemonic.controlFlow && i.mnemonic.unstable.isNone &&
    match i.mode, i.mnemonic with
    | _, .nopAbs | _, .stNopAbs | _, .stNopAbsHigh => false
    | .zp, _ | .zpx, _ | .zpy, _ | .abs, _ | .abx, _ | .aby, _ | .izx, _ | .izy, _ | .izp, _ => true
    | _, _ => false

/-- The instruction takes the tick that adds the carry: stores and modifications of an indexed
mode always do, reads and the short shifts if a page is crossed. -/
def Instruction.fixes (model : Nat) (i : Instruction) (r : Registers) (bus : ℕ → Byte) : Bool :=
  if i.waits model then i.mode.crosses r bus else i.mode.indexed && i.mnemonic.access ≠ .read

/-- The ticks that access the data, and the registers after the operation on it.  The operand is
the byte that answers the read. -/
inductive DataAccess (address : Word) (operand : Byte) (before : Registers) :
    Access → List Tick → Registers → Prop
  | read (op : Load) :
      DataAccess address operand before .read [read address] (op.effect before operand)
  | decimal (op : Sum) (dummy : Word) :
      DataAccess address operand before .read [read address, read dummy] (op.effect before operand)
  | write (value : Byte) :
      DataAccess address operand before .write [write address value] before
  | modify (op : Modify) (value : Byte) :
      DataAccess address operand before .modify
        [read address, write address operand, write address value] (op.effect before operand)
  | modifyCmos (op : Modify) (value : Byte) :
      DataAccess address operand before .modify
        [read address, read address, write address value] (op.effect before operand)

theorem DataAccess.pc {address : Word} {operand : Byte} {before r : Registers} {access : Access}
    {ticks : List Tick} (h : DataAccess address operand before access ticks r) :
    r.pc = before.pc := by
  cases h with
  | read op => exact op.effect_pc _ _
  | decimal op => exact op.effect_pc _ _
  | write => rfl
  | modify op => exact op.effect_pc _ _
  | modifyCmos op => exact op.effect_pc _ _

theorem instructions_access : ∀ model < 5, instructionTables[model]?.all (List.all · fun i =>
    !i.accesses || (i.shape model).any fun shape => match shape with
      | .read .. | .readDecimal .. | .write .. | .modify .. | .modifyShort .. => true
      | _ => false) = true := by
  decide +kernel

/-- The slot requests the operand and its pointers, accesses the data and fetches. -/
def Slot.Accesses (entries : Slot) (cpu : Cpu) (bus : ℕ → Byte) (mode : Mode) (cmos fixes : Bool)
    (access : Access) : Prop :=
  ∃ beats r ticks, entries.Yields cpu bus beats r ∧ Ends beats ∧
    beats.map Beat.tick = (mode.path cpu.registers bus cmos fixes).map read ++ ticks ++
      [fetchAt (mode.next cpu.pc)] ∧
    DataAccess (mode.address cpu.registers bus) (bus (readTick cmos fixes mode cpu bus))
      { cpu.registers with pc := mode.next cpu.pc } access ticks r

variable {entries : Slot} {cpu : Cpu} {bus : ℕ → Byte} {mode : Mode} {cmos fixes : Bool}
  {access : Access}

theorem Course.ticks (c : Course) :
    c.beats.map Beat.tick = c.requests ++ [c.last] ++ [fetchAt c.next] := by
  rw [Course.beats, List.map_append, List.map_append, List.map_map]
  have hquiet : Beat.tick ∘ quiet = id := rfl
  rw [hquiet, List.map_id]
  rfl

theorem Slot.Accesses.of_course {c : Course} {r : Registers} {ticks : List Tick}
    (h : entries.Yields cpu bus c.beats r) (hplain : c.plain = true)
    (hticks : c.requests ++ [c.last] =
      (mode.path cpu.registers bus cmos fixes).map Qe6502.read ++ ticks)
    (hnext : c.next = mode.next cpu.pc)
    (haccess : DataAccess (mode.address cpu.registers bus) (bus (readTick cmos fixes mode cpu bus))
      { cpu.registers with pc := mode.next cpu.pc } access ticks r) :
    entries.Accesses cpu bus mode cmos fixes access :=
  ⟨c.beats, r, ticks, h, c.ends hplain, by rw [c.ticks, hticks, hnext], haccess⟩

section fixes

variable {model : Nat} {i : Instruction}

theorem fixes_of_read (hwaits : i.waits model = i.mode.indexed)
    (haccess : i.mnemonic.access = .read) (r : Registers) (bus : ℕ → Byte) :
    i.fixes model r bus = i.mode.crosses r bus := by
  rw [Instruction.fixes, hwaits, haccess]
  cases hi : i.mode.indexed with
  | true => rfl
  | false => rw [crosses_of_not_indexed hi]; rfl

theorem fixes_of_write (hwaits : i.waits model = false) (haccess : i.mnemonic.access ≠ .read)
    (r : Registers) (bus : ℕ → Byte) : i.fixes model r bus = i.mode.indexed := by
  rw [Instruction.fixes, hwaits, decide_eq_true haccess, Bool.and_true]
  rfl

theorem fixes_of_short (hwaits : i.waits model = true) (r : Registers) (bus : ℕ → Byte) :
    i.fixes model r bus = i.mode.crosses r bus := by
  rw [Instruction.fixes, hwaits]
  rfl

/-- **The accesses of a shape.** -/
theorem Shape.accesses {shape : Shape} (hfits : shape.fits model i = true)
    (haccess : i.accesses = true) (hm : model < 5) {opcode : Byte}
    (hi : instructionAt model opcode = some i) (hshape : i.shape model = some shape)
    (hslot : shape.slot = some entries) (cpu : Cpu) (bus : ℕ → Byte) :
    entries.Accesses cpu bus i.mode (isCmos model) (i.fixes model cpu.registers bus)
      i.mnemonic.access := by
  have hkind := instruction_rule instructions_access hm hi
  rw [haccess, hshape] at hkind
  cases shape with
  | read cmos mode op =>
    simp only [Shape.fits, Bool.and_eq_true, decide_eq_true_eq, Bool.not_eq_true'] at hfits
    obtain ⟨⟨⟨⟨⟨rfl, rfl⟩, hread⟩, _⟩, hwaits⟩, _⟩ := hfits
    rw [fixes_of_read hwaits hread, hread]
    exact .of_course (read_yields cpu bus op hslot) (readCourse_plain _ _ _ _ _) rfl rfl (.read op)
  | readDecimal mode op =>
    simp only [Shape.fits, Bool.and_eq_true, decide_eq_true_eq] at hfits
    obtain ⟨⟨⟨⟨⟨rfl, hcmos⟩, hread⟩, _⟩, hwaits⟩, _⟩ := hfits
    rw [fixes_of_read hwaits hread, hread, hcmos]
    cases hd : decimalClear cpu with
    | true =>
      exact .of_course (sum_yields_clear cpu bus op hslot hd) (readCourse_plain _ _ _ _ _) rfl rfl
        (.read op.load)
    | false =>
      obtain ⟨dummy, hyields⟩ := sum_yields_set cpu bus op hslot hd
      exact .of_course hyields (decimalCourse_plain _ _ _ _ _) (List.append_assoc _ _ _) rfl
        (.decimal op dummy)
  | write cmos mode source =>
    simp only [Shape.fits, Bool.and_eq_true, decide_eq_true_eq, Bool.not_eq_true'] at hfits
    obtain ⟨⟨⟨⟨⟨rfl, rfl⟩, hwrite⟩, _⟩, hwaits⟩, _⟩ := hfits
    have hnot : i.mnemonic.access ≠ .read := by rw [hwrite]; exact Access.noConfusion
    rw [fixes_of_write hwaits hnot, hwrite]
    exact .of_course (write_yields source hslot cpu bus) (writeCourse_plain _ _ _ _ _) rfl rfl
      (.write _)
  | modify cmos mode op =>
    simp only [Shape.fits, Bool.and_eq_true, decide_eq_true_eq, Bool.not_eq_true'] at hfits
    obtain ⟨⟨⟨⟨⟨rfl, rfl⟩, hmodify⟩, _⟩, hwaits⟩, _⟩ := hfits
    have hnot : i.mnemonic.access ≠ .read := by rw [hmodify]; exact Access.noConfusion
    rw [fixes_of_write hwaits hnot, hmodify]
    have hyields := modify_yields op hslot cpu bus
    cases hcmos : isCmos model with
    | true =>
      rw [hcmos] at hyields
      exact .of_course hyields (modifyCourse_plain _ _ _ _ _ _) (List.append_assoc _ _ _) rfl
        (.modifyCmos op _)
    | false =>
      rw [hcmos] at hyields
      exact .of_course hyields (modifyCourse_plain _ _ _ _ _ _) (List.append_assoc _ _ _) rfl
        (.modify op _)
  | modifyShort op =>
    simp only [Shape.fits, Bool.and_eq_true, decide_eq_true_eq, Bool.not_eq_true'] at hfits
    obtain ⟨⟨⟨⟨⟨hmode, hcmos⟩, hmodify⟩, _⟩, hwaits⟩, _⟩ := hfits
    cases hslot
    rw [fixes_of_short hwaits, hmode, hmodify, hcmos]
    exact .of_course (modifyShort_yields op cpu bus) (modifyCourse_plain _ _ _ _ _ _)
      (List.append_assoc _ _ _) rfl (.modifyCmos op _)
  | _ => cases hkind

end fixes

/-- **Effective addresses.**  After the requests of its operand and pointers, and of the tick
that adds the carry if it takes one, an instruction accesses its data at the effective address of
its mode, and then fetches.  The context before it is any one that waits for the opcode, whatever
its latches hold. -/
theorem effective_address {s : Session} (hd : s.Dispatching) (input : ℕ → List PinCall × Byte)
    {i : Instruction} (hi : instructionAt s.1.model.toNat (input 0).2 = some i)
    (haccess : i.accesses = true) :
    ∃ (beats : List Beat) (s' : Session) (requests : List Word) (ticks : List Tick),
      s.Completes input beats s' ∧
      requests = i.mode.path s.1.decoded (onBus input) (isCmos s.1.model.toNat)
        (i.fixes s.1.model.toNat s.1.decoded (onBus input)) ∧
      beats.map Beat.tick = requests.map read ++ ticks ++ [fetchAt s'.1.pc] ∧
      DataAccess (i.mode.address s.1.decoded (onBus input)) (onBus input (requests.length + 1))
        { s.1.decoded with pc := i.mode.next s.1.decoded.pc } i.mnemonic.access ticks
        s'.1.registers := by
  have hflow : i.mnemonic.controlFlow = false := by
    simp only [Instruction.accesses, Bool.and_eq_true, Bool.not_eq_true'] at haccess
    exact haccess.1.1
  obtain ⟨shape, entries, hshape, hslot, hfits, hat, hstays, hpushes⟩ :=
    slot_of_straight hd.1 hi hflow
  obtain ⟨beats, r, ticks, hyields, hends, hticks, hdata⟩ := shape.accesses hfits haccess hd.1 hi
    hshape hslot (s.1.opened (input 0).2) (onBus input)
  obtain ⟨s', hs', _, hr⟩ := hd.completes hat hstays (.inl hpushes) hyields hends
  subst hr
  have hpc : s'.1.pc = i.mode.next s.1.decoded.pc := hdata.pc
  refine ⟨beats, s', _, ticks, hs', rfl, ?_, hdata⟩
  rw [hpc]
  exact hticks

theorem effective_address_lda : ∃ (beats : List Beat) (s' : Session) (requests : List Word)
    (ticks : List Tick),
    (Session.after 2 [.goto 0x0200]).Completes (fun _ => ([], 0xB1)) beats s' ∧
      beats.map Beat.tick = requests.map read ++ ticks ++ [fetchAt s'.1.pc] ∧
      DataAccess 0xB1B1 (onBus (fun _ => ([], 0xB1)) (requests.length + 1))
        { (Session.after 2 [.goto 0x0200]).1.decoded with pc := 0x0202 } .read ticks
        s'.1.registers := by
  obtain ⟨beats, s', requests, ticks, hs', _, hticks, hdata⟩ :=
    effective_address goto_dispatching (fun _ => ([], 0xB1)) (i := ⟨.lda, .izy⟩) (by decide) rfl
  have haddress : Mode.izy.address (Session.after 2 [.goto 0x0200]).1.decoded
      (onBus fun _ => ([], 0xB1)) = 0xB1B1 := by decide
  have hpc : Mode.izy.next (Session.after 2 [.goto 0x0200]).1.decoded.pc = 0x0202 := by decide
  rw [haddress, hpc] at hdata
  exact ⟨beats, s', requests, ticks, hs', hticks, hdata⟩

end Qe6502
