import Qe6502.Architecture
import Qe6502.Single

/-!
# The models agree

The models have different chains for the same documented instruction, but their shapes are the
same up to the family, and shapes that are the same up to the family do the same while D is clear.
The exception is the indirect jump through a pointer at the end of a page: `models_agree`.
-/

namespace Qe6502

/-! ### A machine and its architecture -/

namespace InstructionCpu

variable {answer : Tick → (Word → Byte) → Byte} {m : InstructionCpu} {model : Byte}
  {r : Registers} {memory : Word → Byte}

/-- **A ready machine does what its slot does.** -/
theorem Stands.does (h : m.Stands model r memory) {entries : Slot}
    (hslot : slotAt model.toNat (memory r.pc).toNat = some entries)
    (hstays : entries.stays = true) {does : Registers × (Word → Byte)}
    (hdoes : entries.Does answer memory (m.cpu.opened m.opcode) does) :
    ∃ n m', m.Fetches answer n m' ∧ m'.Stands model does.1 does.2 := by
  obtain ⟨beats, r', hyields, hends, hfed⟩ := hdoes (onBus (m.inputs answer))
  obtain ⟨m', hfetches, hready, hmodel, hregisters, hmemory, hrequests⟩ :=
    h.ready.instruction answer (by rw [h.model, h.opcode]; exact hslot) hstays hyields hends
  rw [requests, fed_fetchAt, h.memory] at hrequests
  obtain ⟨hr, hwritten⟩ := hfed hrequests.2
  refine ⟨_, m', hfetches, hready, hmodel.trans h.model, hregisters.trans hr, ?_⟩
  rw [hmemory, h.memory, hwritten]

end InstructionCpu

/-! ### Documented instructions -/

/-- The mnemonics of the documented NMOS instructions. -/
def Mnemonic.documented : Mnemonic → Bool
  | adc | and | asl | bcc | bcs | beq | bit | bmi | bne | bpl | brk | bvc | bvs | clc | cld | cli
  | clv | cmp | cpx | cpy | dec | dex | dey | eor | inc | inx | iny | jmp | jsr | lda | ldx | ldy
  | lsr | nop | ora | pha | php | pla | plp | rol | ror | rti | rts | sbc | sec | sed | sei | sta
  | stx | sty | tax | tay | tsx | txa | txs | tya => true
  | _ => false

/-- The 151 official NMOS opcodes.  NOP has one of them, and SBC has another immediate opcode that
is not one. -/
def official (opcode : Byte) : Bool :=
  (instructionAt 0 opcode).any fun i =>
    i.mnemonic.documented && (i.mnemonic ≠ .nop || opcode = 0xEA) && opcode ≠ 0xEB

/-- The shape of the instruction of an opcode. -/
def shapeAt (model : Nat) (opcode : Byte) : Option Shape :=
  (instructionAt model opcode).bind (Instruction.shape model)

/-! ### Families -/

deriving instance DecidableEq for Load, Modify, Implied, Push, Branch, Unstable, Sum, Shape

/-- The shape without its family, but for the indirect jump. -/
def Shape.plain : Shape → Shape
  | .read _ mode op => .read false mode op.binary
  | .readDecimal mode op => .read false mode op.load
  | .write _ mode source => .write false mode source
  | .modify _ mode op => .modify false mode op
  | .modifyShort op => .modify false .abx op
  | .brkCmos => .brk
  | shape => shape

/-- What the instruction of an official opcode shares with that of the NMOS model. -/
def Instruction.shares (model : Nat) (opcode : Byte) (nmos i : Instruction) : Bool :=
  !(nmos.mnemonic.documented && (nmos.mnemonic ≠ .nop || opcode = 0xEA) && opcode ≠ 0xEB) ||
    (i.mnemonic ≠ .kil && (i.shape model).any Shape.documented &&
      (opcode = 0x6C || (i.shape model).map Shape.plain = (nmos.shape 0).map Shape.plain))

theorem instructions_share : ∀ model < 5, instructionTables[model]?.all (fun table =>
    (nmosInstructions.zip table).zipIdx.all fun e =>
      Instruction.shares model (BitVec.ofNat 8 e.2) e.1.1 e.1.2) = true := by
  decide +kernel

/-- **The models have the same documented shapes** up to the family. -/
theorem official_shapes {opcode : Byte} (hofficial : official opcode = true) {model : Nat}
    (hm : model < 5) : (instructionAt model opcode).any (fun i => i.mnemonic ≠ .kil) = true ∧
      (shapeAt model opcode).any Shape.documented = true ∧
      (opcode = 0x6C ∨ (shapeAt model opcode).map Shape.plain =
        (shapeAt 0 opcode).map Shape.plain) := by
  obtain ⟨nmos, hnmos, hofficial⟩ := (Option.any_eq_true _ _).mp hofficial
  obtain ⟨i, _, _, hi, _⟩ := slotAt_shape hm opcode
  obtain ⟨table, htable, hget⟩ := Option.bind_eq_some_iff.mp hi
  have hmem : ((nmos, i), opcode.toNat) ∈ (nmosInstructions.zip table).zipIdx :=
    List.mk_mem_zipIdx_iff_getElem?.mpr (List.getElem?_zip_eq_some.mpr ⟨hnmos, hget⟩)
  have htables := instructions_share model hm
  rw [htable, Option.all_some, List.all_eq_true] at htables
  have hshares := htables _ hmem
  rw [BitVec.ofNat_toNat, BitVec.setWidth_eq, Instruction.shares, hofficial, Bool.not_true,
    Bool.false_or, Bool.and_eq_true, Bool.and_eq_true, Bool.or_eq_true, decide_eq_true_eq,
    decide_eq_true_eq] at hshares
  obtain ⟨⟨hkil, hdocumented⟩, hplain⟩ := hshares
  rw [shapeAt, shapeAt, hi, hnmos]
  exact ⟨decide_eq_true hkil, hdocumented, hplain.imp_right of_decide_eq_true⟩

theorem shapeAt_jumpInd : ∀ model < 5, shapeAt model 0x6C =
    some (if isCmos model then .jumpIndCmos else .jumpInd) := by
  decide

section plain

variable {r : Registers} (hd : r.p &&& flagD = 0) (memory : Word → Byte)

include hd

theorem Load.binary_effect (op : Load) (data : Byte) :
    op.binary.effect r data = op.effect r data := by
  have hclear : (r.cpu 0).p &&& flagD = 0 := hd
  obtain ⟨handler, hop⟩ := op
  cases handler <;> cases hop
  case opAdcRReadyNonePendingDataFetch =>
    have hvalue : adcValue (r.cpu 0) data = adcBinary (r.cpu 0) data := if_pos hclear
    exact congrArg Cpu.registers hvalue.symm
  case opSbcRReadyNonePendingDataFetch =>
    have hvalue : sbcValue (r.cpu 0) data = adcBinary (r.cpu 0) (data ^^^ 0xFF) := if_pos hclear
    exact congrArg Cpu.registers hvalue.symm
  all_goals rfl

theorem entryFlags_clear (cmos : Bool) : entryFlags cmos r.p = r.p ||| flagI := by
  have hall : ∀ p : Byte, p &&& flagD = 0 → (p ||| flagI) &&& ~~~flagD = p ||| flagI := by
    decide
  cases cmos with
  | false => rfl
  | true => exact hall r.p hd

/-- **Shapes that are the same up to the family** do the same while D is clear. -/
theorem Shape.plain_does (shape : Shape) : shape.plain.does r memory = shape.does r memory := by
  cases shape with
  | read cmos mode op =>
    have hbehind : (mode.behind r).p &&& flagD = 0 := hd
    exact congrArg (·, memory) (op.binary_effect hbehind _)
  | brkCmos =>
    show enters r memory false _ _ _ = enters r memory true _ _ _
    rw [enters, enters, entryFlags_clear hd, entryFlags_clear hd]
  | _ => rfl

end plain

theorem pointer_next {pointer : Word} (h : u16GetByte pointer 0 ≠ 0xFF) :
    ofBytes (u16GetByte pointer 0 + 1) (u16GetByte pointer 1) = pointer + 1 := by
  have hnext := ofBytes_add_index (u16GetByte pointer 0) (u16GetByte pointer 1) 1
  have hcarry : carry (u16GetByte pointer 0) 1 = 0 := by
    rcases carry_one (u16GetByte pointer 0) with ⟨hzero, _⟩ | ⟨_, hzero⟩
    · exact absurd (by bv_omega) h
    · exact hzero
  rw [hcarry, ofBytes_getByte] at hnext
  exact (congrArg (ofBytes _) (BitVec.add_zero _).symm).trans hnext

/-! ### Agreement -/

/-- The pointer of an indirect jump. -/
def InstructionCpu.pointer (m : InstructionCpu) : Word := wordAt m.memory (m.cpu.pc + 1)

/-- **An official instruction of a ready machine.** -/
theorem InstructionCpu.Ready.official (answer : Tick → (Word → Byte) → Byte) {m : InstructionCpu}
    (hready : m.Ready) (hofficial : official m.opcode = true) (hd : m.cpu.p &&& flagD = 0) :
    ∃ shape n m', shapeAt m.cpu.model.toNat m.opcode = some shape ∧ m.Fetches answer n m' ∧
      m'.Ready ∧ m'.cpu.registers =
        (shape.does { m.cpu.registers with pc := m.cpu.pc + 1 } m.memory).1 ∧
      m'.memory = (shape.does { m.cpu.registers with pc := m.cpu.pc + 1 } m.memory).2 := by
  have hm := hready.supported
  obtain ⟨hkil, hdocumented, _⟩ := official_shapes hofficial hm
  obtain ⟨i, hi, hkil⟩ := (Option.any_eq_true _ _).mp hkil
  obtain ⟨shape, entries, hshape, hslot, hat, hstays, _⟩ := slot_of_instruction hm hi
  rw [shapeAt, hi, Option.bind_some, hshape, Option.any_some] at hdocumented
  have hstands : m.Stands m.cpu.model m.cpu.registers m.memory := ⟨hready, rfl, rfl, rfl⟩
  have hclear : decimalClear (m.cpu.opened m.opcode) = true := decide_eq_true hd
  have hdoes : entries.Does answer m.memory (m.cpu.opened m.opcode) _ :=
    Shape.slot_does hslot hdocumented hclear
  obtain ⟨n, m', hfetches, hafter⟩ := hstands.does hat (hstays (of_decide_eq_true hkil)) hdoes
  refine ⟨shape, n, m', ?_, hfetches, hafter.ready, hafter.registers, hafter.memory⟩
  rw [shapeAt, hi]
  exact hshape

theorem shapes_agree {model model' : Nat} (hm : model < 5) (hm' : model' < 5) {opcode : Byte}
    (hofficial : official opcode = true) {shape shape' : Shape}
    (hshape : shapeAt model opcode = some shape) (hshape' : shapeAt model' opcode = some shape')
    {r : Registers} (hd : r.p &&& flagD = 0) (memory : Word → Byte)
    (hpage : opcode = 0x6C → u16GetByte (wordAt memory r.pc) 0 ≠ 0xFF) :
    shape'.does r memory = shape.does r memory := by
  by_cases hop : opcode = 0x6C
  · subst hop
    have hnext := pointer_next (hpage rfl)
    have hind : ∀ cmos : Bool, (if cmos then Shape.jumpIndCmos else .jumpInd).does r memory =
        Shape.jumpIndCmos.does r memory := by
      intro cmos
      cases cmos with
      | true => rfl
      | false => exact congrArg (jumpThrough r memory) hnext
    rw [shapeAt_jumpInd _ hm] at hshape
    rw [shapeAt_jumpInd _ hm'] at hshape'
    rw [← Option.some.inj hshape, ← Option.some.inj hshape', hind, hind]
  · have hplain := ((official_shapes hofficial hm').2.2.resolve_left hop).trans
      ((official_shapes hofficial hm).2.2.resolve_left hop).symm
    rw [hshape, hshape', Option.map_some, Option.map_some, Option.some_inj] at hplain
    rw [← shape'.plain_does hd, ← shape.plain_does hd, hplain]

/-- **The models agree.**  An official instruction runs on every model to the next opcode fetch.
While D is clear, two machines with the same registers and the same memory come to the same fetch,
registers and memory, whatever their models, unless the instruction is an indirect jump through a
pointer at the end of a page.  There the NMOS models take the high byte of the target from the
start of the page, and the CMOS models from behind the pointer. -/
theorem models_agree {answer answer' : Tick → (Word → Byte) → Byte} {m m' : InstructionCpu}
    (hready : m.Ready) (hready' : m'.Ready) (hregisters : m'.cpu.registers = m.cpu.registers)
    (hmemory : m'.memory = m.memory) (hofficial : official m.opcode = true)
    (hdecimal : m.cpu.p &&& flagD = 0) :
    ∃ n next n' next', m.Fetches answer n next ∧ m'.Fetches answer' n' next' ∧
      ((m.opcode = 0x6C → u16GetByte m.pointer 0 ≠ 0xFF) → next'.tick = next.tick ∧
        next'.cpu.registers = next.cpu.registers ∧ next'.memory = next.memory) ∧
      (m.opcode = 0x6C → u16GetByte m.pointer 0 = 0xFF → next.tick = fetchAt next.cpu.pc ∧
        next.memory = m.memory ∧ next.cpu.registers = { m.cpu.registers with
          pc := ofBytes (m.memory m.pointer) (m.memory
            (if isCmos m.cpu.model.toNat then m.pointer + 1
              else ofBytes 0x00 (u16GetByte m.pointer 1))) }) := by
  have hpc : m'.cpu.pc = m.cpu.pc := congrArg Registers.pc hregisters
  have hop : m'.opcode = m.opcode := by
    rw [InstructionCpu.opcode, InstructionCpu.opcode, hmemory, hpc]
  have hp : m'.cpu.p = m.cpu.p := congrArg Registers.p hregisters
  obtain ⟨shape, n, next, hshape, hfetches, hnext, hr, hwritten⟩ :=
    hready.official answer hofficial hdecimal
  obtain ⟨shape', n', next', hshape', hfetches', hnext', hr', hwritten'⟩ :=
    hready'.official answer' (by rw [hop]; exact hofficial) (by rw [hp]; exact hdecimal)
  rw [hop] at hshape'
  rw [hregisters, hpc, hmemory] at hr' hwritten'
  refine ⟨n, next, n', next', hfetches, hfetches', fun hpage => ?_, fun hind hlow => ?_⟩
  · have hdoes := shapes_agree hready.supported hready'.supported hofficial hshape hshape'
      (r := { m.cpu.registers with pc := m.cpu.pc + 1 }) hdecimal m.memory hpage
    rw [hdoes] at hr' hwritten'
    have hsame := hr'.trans hr.symm
    have hsamePc : next'.cpu.pc = next.cpu.pc := congrArg Registers.pc hsame
    have htick : next.tick = fetchAt next.cpu.pc := hnext.tick
    have htick' : next'.tick = fetchAt next'.cpu.pc := hnext'.tick
    refine ⟨?_, hsame, hwritten'.trans hwritten.symm⟩
    rw [htick', htick, hsamePc]
  · rw [hind, shapeAt_jumpInd _ hready.supported, Option.some_inj] at hshape
    subst hshape
    cases hcmos : isCmos m.cpu.model.toNat with
    | true =>
      rw [hcmos] at hr hwritten
      exact ⟨hnext.tick, hwritten, hr⟩
    | false =>
      rw [hcmos] at hr hwritten
      refine ⟨hnext.tick, hwritten, hr.trans ?_⟩
      have hzero : u16GetByte m.pointer 0 + 1 = 0x00 := by
        rw [hlow]
        rfl
      rw [← hzero]
      rfl

/-- An immediate ADC on the NMOS model and on the ST model. -/
theorem models_agree_adc : ∃ (m m' next next' : InstructionCpu) (n n' : ℕ),
    m.cpu.model = 0 ∧ m'.cpu.model = 4 ∧ m.opcode = 0x69 ∧
      m.Fetches InstructionCpu.readmeAnswer n next ∧
      m'.Fetches InstructionCpu.readmeAnswer n' next' ∧ next'.tick = next.tick ∧
      next'.cpu.registers = next.cpu.registers ∧ next'.memory = next.memory := by
  have hready : (Session.after 0 [.goto 0x0200]).Ready :=
    ⟨⟨by decide, 261, 1, by decide, by decide⟩, by decide, by decide⟩
  have hready' : (Session.after 4 [.goto 0x0200]).Ready :=
    ⟨⟨by decide, 261, 1, by decide, by decide⟩, by decide, by decide⟩
  have hregisters : (Session.after 4 [.goto 0x0200]).1.registers =
      (Session.after 0 [.goto 0x0200]).1.registers := by decide
  have hdecimal : (Session.after 0 [.goto 0x0200]).1.p &&& flagD = 0 := by decide
  let m : InstructionCpu := ⟨(Session.after 0 [.goto 0x0200]).1, (Session.after 0 [.goto 0x0200]).2,
    fun _ => 0x69⟩
  let m' : InstructionCpu := ⟨(Session.after 4 [.goto 0x0200]).1,
    (Session.after 4 [.goto 0x0200]).2, fun _ => 0x69⟩
  obtain ⟨n, next, n', next', hfetches, hfetches', hsame, _⟩ :=
    @models_agree InstructionCpu.readmeAnswer InstructionCpu.readmeAnswer m m' hready hready'
      hregisters rfl (by decide) hdecimal
  obtain ⟨htick, hsame, hmemory⟩ := hsame (fun h => absurd h (by decide))
  exact ⟨m, m', next, next', n, n', by decide, by decide, rfl, hfetches, hfetches', htick, hsame,
    hmemory⟩

end Qe6502
