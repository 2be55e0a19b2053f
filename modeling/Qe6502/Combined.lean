import Qe6502.Writes
import Qe6502.Host

/-!
# Combined opcodes

An undocumented opcode that combines two official instructions has their effects, one after the
other, at one address: `combined_halves`.
-/

namespace Qe6502

/-- The memory after writes. -/
def written (memory : Word → Byte) (ws : List (Word × Byte)) : Word → Byte :=
  ws.foldl (fun memory w => poke memory w.1 w.2) memory

/-- The registers that hold data. -/
def Registers.data (r : Registers) : Registers := { r with pc := 0 }

/-- The official instructions that an opcode combines. -/
def Mnemonic.halves : Mnemonic → Option (Mnemonic × Mnemonic)
  | slo => some (asl, ora)
  | rla => some (rol, and)
  | sre => some (lsr, eor)
  | rra => some (ror, adc)
  | dcp => some (dec, cmp)
  | isc => some (inc, sbc)
  | lax => some (lda, ldx)
  | _ => none

/-! ### Effects -/

theorem adcValue_at (cpu : Cpu) (pc : Word) (value : Byte) :
    (adcValue { cpu with pc := pc } value).registers =
      { (adcValue cpu value).registers with pc := pc } := by
  rw [adcValue, adcValue]
  split <;> rfl

theorem sbcValue_at (cpu : Cpu) (pc : Word) (value : Byte) :
    (sbcValue { cpu with pc := pc } value).registers =
      { (sbcValue cpu value).registers with pc := pc } := by
  rw [sbcValue, sbcValue]
  split <;> rfl

theorem arrValue_at (cpu : Cpu) (pc : Word) (value : Byte) :
    (arrValue { cpu with pc := pc } value).registers =
      { (arrValue cpu value).registers with pc := pc } := by
  have hp : ({ cpu with pc := pc } : Cpu).p = cpu.p := rfl
  rw [arrValue, arrValue, hp]
  by_cases hd : cpu.p &&& flagD = 0
  · rw [if_pos hd, if_pos hd]
    rfl
  · rw [if_neg hd, if_neg hd]
    dsimp only [arrDecimalNmosValue]
    split <;> rfl

/-- A modification leaves the program counter alone. -/
theorem Modify.effect_at (op : Modify) (r : Registers) (pc : Word) (data : Byte) :
    op.effect { r with pc := pc } data = { op.effect r data with pc := pc } := by
  obtain ⟨h, hh⟩ := op
  cases h <;> cases hh
  case opIscRwReadyAddrDataPendingNoneWrPrefetch =>
    exact sbcValue_at (prefetch (r.cpu data)) pc (data + 1)
  case opRraRwReadyAddrDataPendingNoneWrPrefetch =>
    exact adcValue_at (rorValue (prefetch (r.cpu data)) data).1 pc
      (rorValue (prefetch (r.cpu data)) data).2
  all_goals rfl

/-- A load leaves the program counter alone. -/
theorem Load.effect_at (op : Load) (r : Registers) (pc : Word) (data : Byte) :
    op.effect { r with pc := pc } data = { op.effect r data with pc := pc } := by
  obtain ⟨h, hh⟩ := op
  cases h <;> cases hh
  case opAdcRReadyNonePendingDataFetch => exact adcValue_at (r.cpu 0) pc data
  case opSbcRReadyNonePendingDataFetch => exact sbcValue_at (r.cpu 0) pc data
  case opArrRReadyNonePendingDataFetch => exact arrValue_at (r.cpu 0) pc (r.a &&& data)
  all_goals rfl

theorem Modify.effect_data (op : Modify) {r₁ r₂ : Registers} (h : r₁.data = r₂.data)
    (data : Byte) : (op.effect r₁ data).data = (op.effect r₂ data).data := by
  have h₁ := op.effect_at r₁ 0 data
  have h₂ := op.effect_at r₂ 0 data
  rw [← Registers.data, ← Registers.data] at h₁ h₂
  rw [← h₁, ← h₂, h]

theorem Load.effect_data (op : Load) {r₁ r₂ : Registers} (h : r₁.data = r₂.data)
    (data : Byte) : (op.effect r₁ data).data = (op.effect r₂ data).data := by
  have h₁ := op.effect_at r₁ 0 data
  have h₂ := op.effect_at r₂ 0 data
  rw [← Registers.data, ← Registers.data] at h₁ h₂
  rw [← h₁, ← h₂, h]

/-! A first half leaves N and Z behind, which the second half overwrites and does not read. -/

theorem nz_other (v : Byte) :
    (flagZIf (v = 0) ||| (v &&& flagN)) &&& ~~~(flagZ ||| flagN) = 0#8 := by
  revert v
  decide

theorem updateFlagsNz_and {k : Byte} (hk : ~~~(flagZ ||| flagN) &&& k = k) (cpu : Cpu) (v : Byte) :
    (updateFlagsNz cpu v).p &&& k = cpu.p &&& k := by
  have hp : (updateFlagsNz cpu v).p =
      (cpu.p &&& ~~~(flagZ ||| flagN)) ||| (flagZIf (v = 0) ||| (v &&& flagN)) := rfl
  have hnz : (flagZIf (v = 0) ||| (v &&& flagN)) &&& k = 0#8 := by
    rw [← hk, ← BitVec.and_assoc, nz_other, BitVec.zero_and]
  rw [hp, BitVec.and_comm, BitVec.and_or_distrib_left, BitVec.and_comm k, BitVec.and_comm k, hnz,
    BitVec.or_zero, BitVec.and_assoc, hk]

theorem compare_updateFlagsNz (cpu : Cpu) (reg value v : Byte) :
    (compareRegisterWithValue (updateFlagsNz cpu v) reg value).registers =
      (compareRegisterWithValue cpu reg value).registers := by
  have hmask := updateFlagsNz_and (k := ~~~(flagC ||| flagZ ||| flagN)) (by decide) cpu v
  dsimp only [compareRegisterWithValue, updateFlagsNzc, Cpu.registers]
  rw [hmask]
  rfl

theorem carryIn_updateFlagsNz (cpu : Cpu) (v : Byte) :
    carryIn (updateFlagsNz cpu v) = carryIn cpu := by
  rw [carryIn, carryIn, updateFlagsNz_and (k := flagC) (by decide)]

theorem adcBinary_updateFlagsNz (cpu : Cpu) (value v : Byte) :
    (adcBinary (updateFlagsNz cpu v) value).registers = (adcBinary cpu value).registers := by
  have hmask := updateFlagsNz_and (k := ~~~(flagC ||| flagZ ||| flagV ||| flagN)) (by decide) cpu v
  dsimp only [adcBinary, updateFlagsCvzn, Cpu.registers]
  rw [carryIn_updateFlagsNz, hmask]
  rfl

theorem sbcValue_updateFlagsNz (cpu : Cpu) (value v : Byte) :
    (sbcValue (updateFlagsNz cpu v) value).registers = (sbcValue cpu value).registers := by
  have hmask := updateFlagsNz_and (k := ~~~(flagC ||| flagZ ||| flagV ||| flagN)) (by decide) cpu v
  have hd := updateFlagsNz_and (k := flagD) (by decide) cpu v
  have ha : (updateFlagsNz cpu v).a = cpu.a := rfl
  rw [sbcValue, sbcValue, hd]
  refine registers_ite (adcBinary_updateFlagsNz cpu (value ^^^ 0xFF) v) ?_
  rw [sbcDecimalNmos, sbcDecimalNmos, carryIn_updateFlagsNz, ha]
  dsimp only [updateFlagsCvzn, Cpu.registers]
  rw [hmask]
  rfl

/-- **The effect of a combined modification** is that of its halves. -/
theorem modify_halves {m m₁ m₂ : Mnemonic} (h : m.halves = some (m₁, m₂)) {nes : Bool}
    {op op₁ : Modify} {op₂ : Load} (hop : (m.modify nes).map Modify.handler = some op.handler)
    (hop₁ : (m₁.modify nes).map Modify.handler = some op₁.handler)
    (hop₂ : (m₂.load nes).map Load.handler = some op₂.handler) (r : Registers) (data : Byte) :
    op.effect r data = op₂.effect (op₁.effect r data) (m₁.result 0 r data) := by
  obtain ⟨handler, hh⟩ := op
  obtain ⟨handler₁, hh₁⟩ := op₁
  obtain ⟨handler₂, hh₂⟩ := op₂
  cases m <;> cases h <;> cases nes <;> cases hop <;> cases hop₁ <;> cases hop₂
  case dcp.refl.false.refl.refl.refl | dcp.refl.true.refl.refl.refl =>
    exact (compare_updateFlagsNz (r.cpu data) r.a (data - 1) (data - 1)).symm
  case isc.refl.false.refl.refl.refl =>
    have hsame : (sbcValue (prefetch (r.cpu data)) (data + 1)).registers =
        (sbcValue (r.cpu 0) (data + 1)).registers := registers_ite rfl rfl
    exact hsame.trans (sbcValue_updateFlagsNz (r.cpu 0) (data + 1) (data + 1)).symm
  case isc.refl.true.refl.refl.refl =>
    exact (adcBinary_updateFlagsNz (r.cpu 0) ((data + 1) ^^^ 0xFF) (data + 1)).symm
  case rra.refl.false.refl.refl.refl =>
    exact registers_ite (c := (rorValue (r.cpu 0) data).1.p &&& flagD = 0) rfl rfl
  all_goals rfl

theorem load_halves {m m₁ m₂ : Mnemonic} (h : m.halves = some (m₁, m₂)) {nes : Bool}
    {op op₁ op₂ : Load} (hop : (m.load nes).map Load.handler = some op.handler)
    (hop₁ : (m₁.load nes).map Load.handler = some op₁.handler)
    (hop₂ : (m₂.load nes).map Load.handler = some op₂.handler) (r : Registers) (data : Byte) :
    op.effect r data = op₂.effect (op₁.effect r data) data := by
  have hmask := updateFlagsNz_and (k := ~~~(flagZ ||| flagN)) (by decide) (r.cpu 0) data
  obtain ⟨handler, hh⟩ := op
  obtain ⟨handler₁, hh₁⟩ := op₁
  obtain ⟨handler₂, hh₂⟩ := op₂
  cases m <;> cases h <;> cases hop
  cases hop₁
  cases hop₂
  exact congrArg (fun p => Registers.mk r.pc r.s data data r.y
    (p ||| (flagZIf (data = 0) ||| (data &&& flagN)))) hmask.symm

/-! ### Instructions that access data -/

/-- What an instruction of an NMOS model makes of the registers with the byte at its effective
address. -/
inductive Outcome (model : Nat) (i : Instruction) (r : Registers) (data : Byte) : Registers → Prop
  | load (op : Load) (hop : (i.mnemonic.load (model = 1)).map Load.handler = some op.handler) :
      Outcome model i r data (op.effect { r with pc := i.mode.next r.pc } data)
  | store (source : Source) (hsource : i.mnemonic.source = some source) :
      Outcome model i r data { r with pc := i.mode.next r.pc }
  | modify (op : Modify)
      (hop : (i.mnemonic.modify (model = 1)).map Modify.handler = some op.handler) :
      Outcome model i r data (op.effect { r with pc := i.mode.next r.pc } data)

theorem Shape.outcome {model : Nat} (hm : model < 2) {opcode : Byte} {i : Instruction}
    (hi : instructionAt model opcode = some i) (haccess : i.accesses = true) {shape : Shape}
    {entries : Slot} (hshape : i.shape model = some shape) (hslot : shape.slot = some entries)
    (cpu : Cpu) (bus : ℕ → Byte) : ∃ beats r, entries.Yields cpu bus beats r ∧ Ends beats ∧
      Outcome model i cpu.registers (i.operand model cpu.registers bus) r := by
  have hm5 : model < 5 := by omega
  have hcmos : isCmos model = false := decide_eq_false (by omega)
  have hkind := instruction_rule instructions_access hm5 hi
  have hrule := instruction_rule instructions_operate hm5 hi
  rw [haccess, hshape] at hkind
  rw [hshape, Option.any_some] at hrule
  rw [Instruction.operand]
  cases shape with
  | read cmos mode op =>
    simp only [operates, Shape.fits, hcmos, Bool.false_and, Bool.and_eq_true, decide_eq_true_eq,
      Bool.not_eq_true', Bool.false_eq_true, if_false] at hrule
    obtain ⟨⟨⟨⟨⟨⟨⟨rfl, rfl⟩, hread⟩, _⟩, hwaits⟩, _⟩, _⟩, hop⟩ := hrule
    rw [fixes_of_read hwaits hread, hcmos]
    exact ⟨_, _, read_yields cpu bus op hslot, Course.ends (readCourse_plain _ _ _ _ _),
      .load op hop⟩
  | readDecimal mode op =>
    simp only [operates, Shape.fits, hcmos, Bool.and_false, Bool.false_and] at hrule
    cases hrule
  | write cmos mode source =>
    simp only [operates, Shape.fits, Bool.and_eq_true, decide_eq_true_eq] at hrule
    obtain ⟨⟨⟨⟨⟨⟨rfl, _⟩, _⟩, _⟩, _⟩, _⟩, hsource⟩ := hrule
    exact ⟨_, _, write_yields source hslot cpu bus, Course.ends (writeCourse_plain _ _ _ _ _),
      .store source hsource⟩
  | modify cmos mode op =>
    simp only [operates, Shape.fits, hcmos, Bool.and_eq_true, decide_eq_true_eq,
      Bool.not_eq_true'] at hrule
    obtain ⟨⟨⟨⟨⟨⟨⟨rfl, rfl⟩, hmodify⟩, _⟩, hwaits⟩, _⟩, _⟩, hop⟩ := hrule
    have hnot : i.mnemonic.access ≠ .read := by rw [hmodify]; exact Access.noConfusion
    rw [fixes_of_write hwaits hnot, hcmos]
    exact ⟨_, _, modify_yields op hslot cpu bus, Course.ends (modifyCourse_plain _ _ _ _ _ _),
      .modify op hop⟩
  | modifyShort op =>
    simp only [operates, Shape.fits, hcmos, Bool.and_false, Bool.false_and] at hrule
    cases hrule
  | _ => cases hkind

section outcome

variable {model : Nat} {i : Instruction} {r r' : Registers} {data : Byte}

theorem load_access {m : Mnemonic} {nes : Bool} {h : Handler}
    (hop : (m.load nes).map Load.handler = some h) : m.access = .read := by
  cases m <;> first | rfl | cases hop

theorem modify_access {m : Mnemonic} {nes : Bool} {h : Handler}
    (hop : (m.modify nes).map Modify.handler = some h) : m.access = .modify := by
  cases m <;> first | rfl | cases hop

theorem source_access {m : Mnemonic} {source : Source} (h : m.source = some source) :
    m.access = .write := by
  cases m <;> first | rfl | cases h

theorem Outcome.reads (h : Outcome model i r data r') (haccess : i.mnemonic.access = .read) :
    ∃ op : Load, (i.mnemonic.load (model = 1)).map Load.handler = some op.handler ∧
      r' = op.effect { r with pc := i.mode.next r.pc } data := by
  cases h with
  | load op hop => exact ⟨op, hop, rfl⟩
  | store source hsource => exact absurd ((source_access hsource).symm.trans haccess) (by decide)
  | modify op hop => exact absurd ((modify_access hop).symm.trans haccess) (by decide)

theorem Outcome.modifies (h : Outcome model i r data r') (haccess : i.mnemonic.access = .modify) :
    ∃ op : Modify, (i.mnemonic.modify (model = 1)).map Modify.handler = some op.handler ∧
      r' = op.effect { r with pc := i.mode.next r.pc } data := by
  cases h with
  | load op hop => exact absurd ((load_access hop).symm.trans haccess) (by decide)
  | store source hsource => exact absurd ((source_access hsource).symm.trans haccess) (by decide)
  | modify op hop => exact ⟨op, hop, rfl⟩

end outcome

namespace Session

theorem Dispatching.outcome {s : Session} (hd : s.Dispatching) (hnmos : s.1.model.toNat < 2)
    {input : ℕ → List PinCall × Byte} {i : Instruction}
    (hi : instructionAt s.1.model.toNat (input 0).2 = some i) (haccess : i.accesses = true) :
    ∃ beats s', s.Completes input beats s' ∧
      writes beats = i.writes s.1.model.toNat (input 0).2 s.1.decoded (onBus input) ∧
      Outcome s.1.model.toNat i s.1.decoded
        (i.operand s.1.model.toNat s.1.decoded (onBus input)) s'.1.registers := by
  have hflow : i.mnemonic.controlFlow = false := by
    simp only [Instruction.accesses, Bool.and_eq_true, Bool.not_eq_true'] at haccess
    exact haccess.1.1
  obtain ⟨shape, entries, hshape, hslot, _, hat, hstays, hpushes⟩ := slot_of_straight hd.1 hi hflow
  have hrule := instruction_rule instructions_operate hd.1 hi
  rw [hshape, Option.any_some] at hrule
  have hkil : i.mnemonic ≠ .kil := by
    rintro h
    rw [h] at hflow
    cases hflow
  have hbrk : i.mnemonic ≠ .brk := by
    rintro h
    rw [h] at hflow
    cases hflow
  obtain ⟨beats, r, hyields, hends, houtcome⟩ := shape.outcome hnmos hi haccess hshape hslot
    (s.1.opened (input 0).2) (onBus input)
  obtain ⟨beats', _, hyields', hends', hwrites⟩ :=
    shape.issues hrule hslot hkil hbrk (s.1.opened (input 0).2) (onBus input)
  obtain ⟨s', hs', _, hr⟩ := hd.completes hat hstays (.inl hpushes) hyields hends
  obtain ⟨s'', hs'', _, _⟩ := hd.completes hat hstays (.inl hpushes) hyields' hends'
  obtain ⟨rfl, rfl⟩ := hs'.unique hs''
  rw [currentOpcodeSlot_opened] at hwrites
  subst hr
  exact ⟨beats, s', hs', hwrites, houtcome⟩

/-- From a dispatch an instruction that accesses the byte at an address of a memory runs to the
next opcode fetch, with some writes. -/
def Applies (s : Session) (m : Mnemonic) (e : Word) (memory : Word → Byte) (s' : Session)
    (ws : List (Word × Byte)) : Prop :=
  ∃ input i beats, s.Dispatching ∧ instructionAt s.1.model.toNat (input 0).2 = some i ∧
    i.mnemonic = m ∧ i.accesses = true ∧ i.mode.address s.1.decoded (onBus input) = e ∧
    i.operand s.1.model.toNat s.1.decoded (onBus input) = memory e ∧
    s.Completes input beats s' ∧ writes beats = ws

end Session

section writes

variable {model : Nat} {i : Instruction} (opcode : Byte) (r : Registers) (bus : ℕ → Byte)

theorem accesses_mode (h : i.accesses = true) : i.mode ≠ .acc := by
  obtain ⟨m, mode⟩ := i
  rintro rfl
  cases m <;> cases h

theorem writes_of_modify (hnmos : model < 2) (haccess : i.accesses = true)
    (hmodify : i.mnemonic.access = .modify) : i.writes model opcode r bus =
      [(i.mode.address r bus, i.operand model r bus),
        (i.mode.address r bus, i.mnemonic.result opcode r (i.operand model r bus))] := by
  have hmode : decide (i.mode ≠ .acc) = true := decide_eq_true (accesses_mode haccess)
  have hcmos : isCmos model = false := decide_eq_false (by omega)
  obtain ⟨m, mode⟩ := i
  cases m <;> cases hmodify <;>
    · dsimp only [Instruction.writes]
      rw [hmode, hcmos]
      rfl

theorem writes_of_load {nes : Bool} {h : Handler}
    (hop : (i.mnemonic.load nes).map Load.handler = some h) : i.writes model opcode r bus = [] := by
  refine silent_writes ?_ model opcode r bus
  obtain ⟨m, mode⟩ := i
  cases m <;> first | rfl | cases hop

theorem result_data {r₁ r₂ : Registers} (h : r₁.data = r₂.data) (m : Mnemonic) (data : Byte) :
    m.result opcode r₁ data = m.result opcode r₂ data := by
  have ha : r₁.data.a = r₂.data.a := congrArg Registers.a h
  have hp : r₁.data.p = r₂.data.p := congrArg Registers.p h
  change r₁.a = r₂.a at ha
  change r₁.p = r₂.p at hp
  cases m <;> simp only [Mnemonic.result, ha, hp]

end writes

theorem Session.Applies.outcome {s s' : Session} {m : Mnemonic} {e : Word}
    {memory : Word → Byte} {ws : List (Word × Byte)} (h : s.Applies m e memory s' ws)
    (hnmos : s.1.model.toNat < 2) : ∃ i opcode bus, i.mnemonic = m ∧ i.accesses = true ∧
      i.mode.address s.1.decoded bus = e ∧ i.operand s.1.model.toNat s.1.decoded bus = memory e ∧
      ws = i.writes s.1.model.toNat opcode s.1.decoded bus ∧
      Outcome s.1.model.toNat i s.1.decoded (memory e) s'.1.registers := by
  obtain ⟨input, i, beats, hd, hi, hm, haccess, haddress, hoperand, hs', hws⟩ := h
  obtain ⟨beats', s'', hs'', hwrites, houtcome⟩ := hd.outcome hnmos hi haccess
  obtain ⟨rfl, rfl⟩ := hs'.unique hs''
  rw [hoperand] at houtcome
  exact ⟨i, _, _, hm, haccess, haddress, hoperand, hws.symm.trans hwrites, houtcome⟩

section applies

variable {s s' : Session} {m : Mnemonic} {e : Word} {memory : Word → Byte}
  {ws : List (Word × Byte)} (h : s.Applies m e memory s' ws) (hnmos : s.1.model.toNat < 2)

include h hnmos

/-- A modification writes the operand and the result. -/
theorem Session.Applies.modifies (haccess : m.access = .modify) : ∃ (op : Modify) (opcode : Byte)
    (pc : Word), (m.modify (s.1.model.toNat = 1)).map Modify.handler = some op.handler ∧
      s'.1.registers = op.effect { s.1.registers with pc := pc } (memory e) ∧
      ws = [(e, memory e), (e, m.result opcode s.1.registers (memory e))] := by
  obtain ⟨i, opcode, bus, rfl, haccesses, haddress, hoperand, hws, houtcome⟩ := h.outcome hnmos
  obtain ⟨op, hop, hr⟩ := houtcome.modifies haccess
  refine ⟨op, opcode, _, hop, hr, hws.trans ?_⟩
  rw [writes_of_modify opcode s.1.decoded bus hnmos haccesses haccess, haddress, hoperand]
  exact congrArg (fun b => [(e, memory e), (e, b)])
    (result_data opcode (rfl : s.1.decoded.data = s.1.registers.data) i.mnemonic (memory e))

/-- A load writes nothing. -/
theorem Session.Applies.loads (haccess : m.access = .read) : ∃ (op : Load) (pc : Word),
    (m.load (s.1.model.toNat = 1)).map Load.handler = some op.handler ∧
      s'.1.registers = op.effect { s.1.registers with pc := pc } (memory e) ∧ ws = [] := by
  obtain ⟨i, opcode, bus, rfl, _, _, _, hws, houtcome⟩ := h.outcome hnmos
  obtain ⟨op, hop, hr⟩ := houtcome.reads haccess
  exact ⟨op, _, hop, hr, hws.trans (writes_of_load opcode s.1.decoded bus hop)⟩

end applies

theorem halves_access {m m₁ m₂ : Mnemonic} (h : m.halves = some (m₁, m₂)) :
    m₁.access = m.access ∧ m₂.access = .read ∧
      (m.access = .read ∧ m = .lax ∨ m.access = .modify ∧ m ≠ .lax) := by
  cases m <;> cases h <;> decide

theorem halves_result {m m₁ m₂ : Mnemonic} (h : m.halves = some (m₁, m₂)) (opcode opcode₁ : Byte)
    (r : Registers) (data : Byte) : m.result opcode r data = m₁.result opcode₁ r data := by
  cases m <;> cases h <;> rfl

theorem written_pair (memory : Word → Byte) (e : Word) (a b : Byte) :
    written memory [(e, a), (e, b)] e = b := by
  simp [written, poke]

/-- **Combined opcodes.**  An instruction of an NMOS model that accesses the byte at an address
runs to the next fetch.  A combined one leaves the registers and the memory as its two official
halves do one after the other, from the same registers and at the same address, and a combined
modification writes the old byte and the result of its first half.  SAX stores A and X, and changes
nothing else. -/
theorem combined_halves :
    (∀ (s : Session) (input : ℕ → List PinCall × Byte) (i : Instruction) (memory : Word → Byte),
      s.Dispatching → s.1.model.toNat < 2 →
      instructionAt s.1.model.toNat (input 0).2 = some i → i.accesses = true →
      i.operand s.1.model.toNat s.1.decoded (onBus input) =
        memory (i.mode.address s.1.decoded (onBus input)) →
      ∃ s' ws, s.Applies i.mnemonic (i.mode.address s.1.decoded (onBus input)) memory s' ws) ∧
    (∀ (m m₁ m₂ : Mnemonic) (e : Word) (memory : Word → Byte) (s s' s₁ s₁' s₂ s₂' : Session)
      (ws ws₁ ws₂ : List (Word × Byte)), m.halves = some (m₁, m₂) → s.1.model.toNat < 2 →
      s₁.1.model = s.1.model → s₂.1.model = s.1.model →
      s.Applies m e memory s' ws → s₁.Applies m₁ e memory s₁' ws₁ →
      s₂.Applies m₂ e (written memory ws₁) s₂' ws₂ →
      s₁.1.registers.data = s.1.registers.data → s₂.1.registers.data = s₁'.1.registers.data →
      s'.1.registers.data = s₂'.1.registers.data ∧
        written memory ws = written (written memory ws₁) ws₂ ∧
        (m ≠ .lax → ws = [(e, memory e), (e, written memory ws₁ e)])) ∧
    ∀ (e : Word) (memory : Word → Byte) (s s' : Session) (ws : List (Word × Byte)),
      s.1.model.toNat < 2 → s.Applies .sax e memory s' ws →
      s'.1.registers.data = s.1.registers.data ∧ ws = [(e, s.1.a &&& s.1.x)] := by
  refine ⟨?_, ?_, ?_⟩
  · intro s input i memory hd hnmos hi haccess hoperand
    obtain ⟨beats, s', hs', _, _⟩ := hd.outcome hnmos hi haccess
    exact ⟨s', _, input, i, beats, hd, hi, rfl, haccess, rfl, hoperand, hs', rfl⟩
  · intro m m₁ m₂ e memory s s' s₁ s₁' s₂ s₂' ws ws₁ ws₂ h hnmos hmodel₁ hmodel₂ happ happ₁ happ₂
      hdata₁ hdata₂
    obtain ⟨haccess₁, haccess₂, ⟨haccess, hlax⟩ | ⟨haccess, hlax⟩⟩ := halves_access h
    · obtain ⟨op, pc, hop, hr, rfl⟩ := happ.loads hnmos haccess
      obtain ⟨op₁, pc₁, hop₁, hr₁, rfl⟩ :=
        happ₁.loads (hmodel₁ ▸ hnmos) (haccess₁.trans haccess)
      obtain ⟨op₂, pc₂, hop₂, hr₂, rfl⟩ := happ₂.loads (hmodel₂ ▸ hnmos) haccess₂
      rw [hmodel₁] at hop₁
      rw [hmodel₂] at hop₂
      refine ⟨?_, rfl, fun hne => absurd hlax hne⟩
      rw [hr, load_halves h hop hop₁ hop₂, hr₂]
      have hfirst := @Load.effect_data op₁ { s.1.registers with pc := pc }
        { s₁.1.registers with pc := pc₁ } hdata₁.symm (memory e)
      rw [← hr₁, ← hdata₂] at hfirst
      exact @Load.effect_data op₂ _ { s₂.1.registers with pc := pc₂ } hfirst (memory e)
    · obtain ⟨op, opcode, pc, hop, hr, rfl⟩ := happ.modifies hnmos haccess
      obtain ⟨op₁, opcode₁, pc₁, hop₁, hr₁, rfl⟩ :=
        happ₁.modifies (hmodel₁ ▸ hnmos) (haccess₁.trans haccess)
      obtain ⟨op₂, pc₂, hop₂, hr₂, rfl⟩ := happ₂.loads (hmodel₂ ▸ hnmos) haccess₂
      rw [hmodel₁] at hop₁
      rw [hmodel₂] at hop₂
      have hresult : m.result opcode s.1.registers (memory e) =
          m₁.result opcode₁ s₁.1.registers (memory e) :=
        (halves_result h opcode opcode₁ _ _).trans (result_data opcode₁ hdata₁.symm m₁ _)
      have hfirst := @Modify.effect_data op₁ { s.1.registers with pc := pc }
        { s₁.1.registers with pc := pc₁ } hdata₁.symm (memory e)
      rw [← hr₁, ← hdata₂] at hfirst
      rw [written_pair, ← hresult] at hr₂ ⊢
      refine ⟨?_, rfl, fun _ => rfl⟩
      have hpc := @result_data opcode { s.1.registers with pc := pc } s.1.registers rfl m (memory e)
      rw [hr, modify_halves h hop hop₁ hop₂, hr₂, ← halves_result h opcode 0, hpc]
      exact @Load.effect_data op₂ _ { s₂.1.registers with pc := pc₂ } hfirst _
  · intro e memory s s' ws hnmos happ
    obtain ⟨i, opcode, bus, hm, _, haddress, _, hws, houtcome⟩ := happ.outcome hnmos
    refine ⟨?_, ?_⟩
    · generalize s'.1.registers = r at houtcome ⊢
      cases houtcome with
      | load op hop =>
        rw [hm] at hop
        cases hop
      | store source hsource => rfl
      | modify op hop =>
        rw [hm] at hop
        cases hop
    · rw [hws, Instruction.writes, hm, haddress]
      rfl

theorem combined_halves_slo : (∃ (s' s₁' s₂' : Session) (ws ws₁ ws₂ : List (Word × Byte)),
    (Session.after 0 [.goto 0x0200]).Applies .slo 0x0007 (fun _ => 0x07) s' ws ∧
      (Session.after 0 [.goto 0x0200]).Applies .asl 0x0007 (fun _ => 0x07) s₁' ws₁ ∧
      s'.1.registers.data = s₂'.1.registers.data ∧
      written (fun _ => 0x07) ws = written (written (fun _ => 0x07) ws₁) ws₂) ∧
    ∃ (s' : Session) (ws : List (Word × Byte)),
      (Session.after 0 [.goto 0x0200]).Applies .sax 0x0087 (fun _ => 0x87) s' ws ∧
        s'.1.registers.data = (Session.after 0 [.goto 0x0200]).1.registers.data := by
  have hd : (Session.after 0 [.goto 0x0200]).Dispatching :=
    ⟨by decide, 261, 1, by decide, by decide⟩
  have hm : (Session.after 0 [.goto 0x0200]).1.model.toNat < 2 := by decide
  constructor
  · obtain ⟨s', ws, happ⟩ := combined_halves.1 _ (fun _ => ([], 0x07)) ⟨.slo, .zp⟩ (fun _ => 0x07)
      hd hm (by decide) rfl rfl
    obtain ⟨s₁', ws₁, happ₁⟩ := combined_halves.1 _
      (fun k => ([], if k = 0 then 0x06 else 0x07)) ⟨.asl, .zp⟩ (fun _ => 0x07) hd hm (by decide)
      rfl rfl
    let s₂ : Session := ({ (Session.after 0 [.goto 0x0200]).1 with
      s := s₁'.1.s, a := s₁'.1.a, x := s₁'.1.x, y := s₁'.1.y, p := s₁'.1.p }, fetchAt 0x0200)
    have hd₂ : s₂.Dispatching := hd
    have hora : instructionAt 0 0x05 = some ⟨.ora, .zp⟩ := by decide
    obtain ⟨s₂', ws₂, happ₂⟩ := combined_halves.1 s₂
      (fun k => ([], if k = 0 then 0x05 else if k = 1 then 0x07
        else written (fun _ => 0x07) ws₁ 0x0007))
      ⟨.ora, .zp⟩ (written (fun _ => 0x07) ws₁) hd₂ hm hora rfl rfl
    obtain ⟨hdata, hmemory, _⟩ := combined_halves.2.1 .slo .asl .ora 0x0007 (fun _ => 0x07) _ s' _
      s₁' s₂ s₂' ws ws₁ ws₂ rfl hm rfl rfl happ happ₁ happ₂ rfl rfl
    exact ⟨s', s₁', s₂', ws, ws₁, ws₂, happ, happ₁, hdata, hmemory⟩
  · obtain ⟨s', ws, happ⟩ := combined_halves.1 _ (fun _ => ([], 0x87)) ⟨.sax, .zp⟩ (fun _ => 0x87)
      hd hm (by decide) rfl rfl
    exact ⟨s', ws, happ, (combined_halves.2.2 0x0087 _ _ s' ws hm happ).1⟩

end Qe6502
