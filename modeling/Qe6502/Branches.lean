import Qe6502.Calls
import Qe6502.Writes
import Qe6502.Resolution
import Qe6502.Emit

/-!
# Branches in assembled code

The assembler emits the distance of a branch target as a byte, and throws if it does not fit.  A
branch adds the byte to the low byte of the program counter first and repairs the high byte in a
tick of its own.  The two agree: `branch_round_trip`.
-/

namespace Qe6502

/-- The low byte of a distance that fits into a byte is the distance. -/
theorem signExtend_getByte {d : Word} (h : -128 ≤ d.toInt ∧ d.toInt ≤ 127) :
    (u16GetByte d 0).signExtend 16 = d := by
  apply BitVec.eq_of_toInt_eq
  rw [BitVec.toInt_signExtend_of_le (by decide : 8 ≤ 16), u16GetByte, Nat.zero_mul,
    BitVec.ushiftRight_zero, BitVec.toInt_setWidth]
  have hcond := BitVec.toInt_eq_toNat_cond d
  have hlt := d.isLt
  rw [Int.bmod]
  split at hcond <;> split <;> omega

/-- A branch with the distance of its target leads there. -/
theorem branchTarget_distance {target base : Word} (h : Asm6502.InRange target base) :
    branchTarget base (u16GetByte (target - base) 0) = target := by
  rw [branchTarget, signExtend_getByte h]
  bv_omega

theorem Turn.next_of (taken : Bool) (pc pc' : Word) (offset : Byte) :
    (Turn.of taken pc' offset).next pc offset =
      if taken then branchTarget (pc + 1) offset else pc + 1 := by
  cases taken with
  | false => rfl
  | true =>
    rw [Turn.of, if_pos rfl, if_pos rfl]
    split <;> rfl

/-- A branch reads its offset first. -/
theorem Turn.beats_cons (pc dummy : Word) (offset p : Byte) (turn : Turn) :
    ∃ b rest, turn.beats pc dummy offset p = sampled (read pc) p :: b :: rest := by
  cases turn <;> exact ⟨_, _, rfl⟩

namespace InstructionCpu

variable (answer : Tick → (Word → Byte) → Byte) {m : InstructionCpu}

/-- **A branch of a ready machine** changes the program counter only. -/
theorem Ready.branch (hready : m.Ready) {i : Instruction}
    (hi : instructionAt m.cpu.model.toNat m.opcode = some i) (hrel : i.mode = .rel)
    {op : Branch} (hop : i.mnemonic.branch = some op) : ∃ n m', m.Fetches answer n m' ∧
      m'.Ready ∧ m'.cpu.model = m.cpu.model ∧ m'.memory = m.memory ∧
        m'.cpu.registers = { m.cpu.registers with
          pc := if i.mnemonic.taken m.cpu.p then
            branchTarget (m.cpu.pc + 2) (m.memory (m.cpu.pc + 1)) else m.cpu.pc + 2 } := by
  obtain ⟨shape, entries, hshape, hslot, hat, hstays, _⟩ :=
    slot_of_instruction hready.supported hi
  have hnot : i.mnemonic ≠ .kil ∧ i.samples = true := by
    rw [Instruction.samples]
    cases hm : i.mnemonic <;> rw [hm] at hop <;> cases hop <;> decide
  have hrule := instruction_rule instructions_sample hready.supported hi
  rw [hshape, Option.any_some] at hrule
  have hpc : m.cpu.pc + 1 + 1 = m.cpu.pc + 2 := BitVec.add_assoc _ _ _
  cases shape with
  | branch op' =>
    cases hslot
    simp only [Shape.samplesAs, Bool.and_eq_true] at hrule
    have htaken : op'.taken m.cpu.p = i.mnemonic.taken m.cpu.p := branch_of_any hrule.1.2 _
    obtain ⟨dummy, hyields⟩ := branch_yields (m.cpu.opened m.opcode) (onBus (m.inputs answer)) op'
    have hends := @Turn.beats_ends [] (by simp) (m.cpu.opened m.opcode).pc dummy
      (onBus (m.inputs answer) 1) (m.cpu.opened m.opcode).p
    obtain ⟨m', hfetches, hready', hmodel, hregisters, hmemory, hfed⟩ :=
      hready.instruction answer hat (hstays hnot.1) hyields (hends _)
    have hoffset : onBus (m.inputs answer) 1 = m.memory (m.cpu.pc + 1) := by
      obtain ⟨b, rest, hbeats⟩ := Turn.beats_cons (m.cpu.opened m.opcode).pc dummy
        (onBus (m.inputs answer) 1) (m.cpu.opened m.opcode).p
        (Turn.of (op'.taken (m.cpu.opened m.opcode).p) ((m.cpu.opened m.opcode).pc + 1)
          (onBus (m.inputs answer) 1))
      rw [hbeats, requests, List.map_cons, List.map_cons, List.dropLast_cons_cons,
        fed_fetchAt] at hfed
      exact ((fed_read _).mp hfed.2).1
    refine ⟨_, m', hfetches, hready', hmodel, ?_, ?_⟩
    · rw [hmemory, Turn.writes_beats]
      rfl
    · rw [hregisters, Turn.next_of, hoffset, ← htaken, ← hpc]
      rfl
  | branchBit => simp [Shape.samplesAs, hrel] at hrule
  | rti => simp [Shape.samplesAs, hrel] at hrule
  | nopFetch | brk | brkCmos | jam => simp [Shape.samplesAs, hnot.2] at hrule
  | _ => simp [Shape.samplesAs, hrel] at hrule

end InstructionCpu

namespace Asm6502

/-- The methods that emit branches. -/
def branchMethods : List (Mnemonic × (String → Int → List Command)) :=
  [(.bcc, bcc), (.bcs, bcs), (.beq, beq), (.bmi, bmi), (.bne, bne), (.bpl, bpl), (.bvc, bvc),
    (.bvs, bvs)]

/-- A branch method emits the opcode of its branch on all models. -/
theorem branchMethods_opcode {mnemonic : Mnemonic} {method : String → Int → List Command}
    (h : (mnemonic, method) ∈ branchMethods) : ∃ opcode op, method = emitBranch opcode ∧
      mnemonic.branch = some op ∧
        ∀ model < 5, instructionAt model opcode = some ⟨mnemonic, .rel⟩ := by
  simp only [branchMethods, List.mem_cons, List.not_mem_nil, or_false, Prod.mk.injEq] at h
  rcases h with ⟨rfl, rfl⟩ | ⟨rfl, rfl⟩ | ⟨rfl, rfl⟩ | ⟨rfl, rfl⟩ | ⟨rfl, rfl⟩ | ⟨rfl, rfl⟩ |
    ⟨rfl, rfl⟩ | ⟨rfl, rfl⟩ <;> exact ⟨_, _, rfl, rfl, by decide⟩

/-- **`add_relative`** throws if the target is out of range, and else puts its distance. -/
theorem place_addRelative {ctx : Context} {t : LinkTarget} {target : Word}
    (htarget : resolveTarget ctx.symbols t = .ok target) :
    Command.place ctx (.addRelative t) =
      if InRange target (ctx.pc + 1) then
        ctx.put ctx.pc (u16GetByte (target - (ctx.pc + 1)) 0)
      else .error .relativeOutOfRange := by
  have hrange : InRange target (ctx.pc + 1) ↔ ¬((target - (ctx.pc + 1)).toInt < -128 ∨
      (target - (ctx.pc + 1)).toInt > 127) := by
    unfold InRange
    omega
  rw [Command.place, htarget]
  dsimp only [bind, Except.bind]
  rw [relativeTo_eq, ofInt_toInt, if_congr hrange rfl rfl, ite_not]

theorem put_ne_relativeOutOfRange (ctx : Context) (address : Word) (value : Byte) :
    ctx.put address value ≠ .error .relativeOutOfRange := by
  rw [Context.put]
  cases ctx.output address <;> exact fun h => by cases h

/-- The bytes of a branch that is placed. -/
theorem placePass_emitBranch {opcode : Byte} {label : String} {displacement : Int}
    {ctx placed : Context} {target : Word}
    (htarget : resolveTarget ctx.symbols (.symbol label displacement) = .ok target)
    (h : placePass (emitBranch opcode label displacement) ctx = .ok placed) :
    InRange target (ctx.pc + 2) ∧ placed.output ctx.pc = some opcode ∧
      placed.output (ctx.pc + 1) = some (u16GetByte (target - (ctx.pc + 2)) 0) := by
  have hpc : ctx.pc + 1 + 1 = ctx.pc + 2 := BitVec.add_assoc _ _ _
  have hvalue : LinkTarget.value ctx.symbols (.symbol label displacement) = some target := by
    rw [← resolveTarget_toOption, htarget]
    rfl
  have hpass := @placePass_toOption (emitBranch opcode label displacement) ctx
  rw [toOption_eq_some.mpr h, Option.map_some] at hpass
  obtain ⟨cells, hcells, hinsert⟩ := Option.bind_eq_some_iff.mp hpass.symm
  have hemitted : (layout ctx.symbols ctx.pc (emitBranch opcode label displacement)).bind
      (emitted ctx.symbols) = if InRange target (ctx.pc + 2) then
        some [(ctx.pc, opcode), (ctx.pc + 1, u16GetByte (target - (ctx.pc + 2)) 0)] else none := by
    simp only [emitBranch, layout, Command.next, emitted, Command.cells, hvalue, hpc,
      Option.bind_some, Option.map_some]
    split <;> rfl
  rw [hemitted] at hcells
  by_cases hrange : InRange target (ctx.pc + 2)
  · rw [if_pos hrange] at hcells
    cases hcells
    obtain ⟨_, _, houtput⟩ := Table.insertAll_eq_some hinsert
    exact ⟨hrange, (houtput _ _).mpr (Or.inr (by simp)), (houtput _ _).mpr (Or.inr (by simp))⟩
  · rw [if_neg hrange] at hcells
    cases hcells

/-- **A branch and its encoding.**  For a branch at the program counter, `add_relative` throws just
if the distance of the target from the address after the branch does not fit into a byte.  The two
bytes that are placed lead to the target if the condition holds, and else to the address after
the branch; no other register and no memory changes. -/
theorem branch_round_trip {mnemonic : Mnemonic} {method : String → Int → List Command}
    (hmethod : (mnemonic, method) ∈ branchMethods) {ctx : Context} {label : String}
    {displacement : Int} {target : Word}
    (htarget : resolveTarget ctx.symbols (.symbol label displacement) = .ok target) :
    (Command.place { ctx with pc := ctx.pc + 1 } (.addRelative (.symbol label displacement)) =
      .error .relativeOutOfRange ↔ ¬InRange target (ctx.pc + 2)) ∧
    (InRange target (ctx.pc + 2) → ctx.output (ctx.pc + 1) = none → ∃ ctx',
      Command.place { ctx with pc := ctx.pc + 1 } (.addRelative (.symbol label displacement)) =
        .ok ctx') ∧
    ∀ placed, placePass (method label displacement) ctx = .ok placed →
      ∀ (answer : Tick → (Word → Byte) → Byte) (m : InstructionCpu), m.Ready → m.cpu.pc = ctx.pc →
        placed.output ctx.pc = some (m.memory ctx.pc) →
        placed.output (ctx.pc + 1) = some (m.memory (ctx.pc + 1)) →
          ∃ n m', m.Fetches answer n m' ∧
            m'.tick = fetchAt (if mnemonic.taken m.cpu.p then target else ctx.pc + 2) ∧
            m'.cpu.registers = { m.cpu.registers with
              pc := if mnemonic.taken m.cpu.p then target else ctx.pc + 2 } ∧
            m'.memory = m.memory := by
  have hpc : ctx.pc + 1 + 1 = ctx.pc + 2 := BitVec.add_assoc _ _ _
  have hplace := @place_addRelative { ctx with pc := ctx.pc + 1 } _ _ htarget
  dsimp only at hplace
  rw [hpc] at hplace
  refine ⟨?_, ?_, ?_⟩
  · rw [hplace]
    split
    case isTrue hrange => exact iff_of_false (put_ne_relativeOutOfRange _ _ _) (not_not.mpr hrange)
    case isFalse hrange => exact iff_of_true rfl hrange
  · intro hrange hfree
    rw [hplace, if_pos hrange, Context.put]
    dsimp only
    rw [hfree]
    exact ⟨_, rfl⟩
  · intro placed hplaced answer m hready hm hopcode hoffset
    obtain ⟨opcode, op, rfl, hop, hinstruction⟩ := branchMethods_opcode hmethod
    obtain ⟨hrange, hfirst, hsecond⟩ := placePass_emitBranch htarget hplaced
    have hfetched : m.opcode = opcode := by
      rw [InstructionCpu.opcode, hm]
      exact Option.some.inj (hopcode.symm.trans hfirst)
    have hdistance : m.memory (ctx.pc + 1) = u16GetByte (target - (ctx.pc + 2)) 0 :=
      Option.some.inj (hoffset.symm.trans hsecond)
    obtain ⟨n, m', hfetches, hready', _, hmemory, hregisters⟩ := hready.branch answer
      (by rw [hfetched]; exact hinstruction _ hready.supported) rfl hop
    rw [hm, hdistance, branchTarget_distance hrange] at hregisters
    have hpc' : m'.cpu.pc = if mnemonic.taken m.cpu.p then target else ctx.pc + 2 :=
      congrArg Registers.pc hregisters
    exact ⟨n, m', hfetches, hpc' ▸ hready'.tick, hregisters, hmemory⟩

/-- The context of a branch at 0x0200 back to 0x01F0. -/
def backContext : Context := { symbols := (∅ : SymbolTable).insert "back" 0x01F0, pc := 0x0200 }

theorem branch_round_trip_back : ∃ (m m' : InstructionCpu) (n : ℕ), m.session.Reachable ∧
    m.cpu.pc = 0x0200 ∧ m.Fetches InstructionCpu.readmeAnswer n m' ∧ m'.tick = fetchAt 0x01F0 := by
  obtain ⟨m, hreachable, hready, hregisters, hmemory⟩ :=
    exists_ready (poke (poke (fun _ => 0) 0x0200 0xF0) 0x0201 0xEE)
  have hpc : m.cpu.pc = 0x0200 := congrArg Registers.pc hregisters
  have hp : m.cpu.p = flagZ := congrArg Registers.p hregisters
  have htarget : resolveTarget backContext.symbols (.symbol "back" 0) = .ok 0x01F0 := by
    decide
  obtain ⟨_, _, hruns⟩ := @branch_round_trip .beq beq (by simp [branchMethods]) backContext _ _ _
    htarget
  obtain ⟨n, m', hfetches, htick, _⟩ := hruns
    { backContext with output := ((∅ : MemoryModifiers).insert 0x0200 0xF0).insert 0x0201 0xEE,
                       pc := 0x0202 } rfl InstructionCpu.readmeAnswer m hready hpc
    (by rw [hmemory]; decide) (by rw [hmemory]; decide)
  refine ⟨m, m', n, hreachable, hpc, hfetches, ?_⟩
  rw [htick, hp]
  rfl

end Asm6502

end Qe6502
