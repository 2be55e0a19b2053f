import Qe6502.Bootstrap

/-!
# Straight-line code

The assembler's tables and the control store know the length of an instruction independently.  For
every instruction that is not control flow they agree (`Straight.encodes`), so that a machine
fetches each opcode of straight-line code where the assembler has put it: `fetches_places`.
-/

namespace Qe6502

namespace Asm6502

/-! ### The methods -/

/-- The methods without operands, but for BRK, RTI and RTS. -/
def impliedMethods : List (List Command) :=
  [asl, lsr, rol, ror, clc, cld, cli, clv, dex, dey, inx, iny, nop, pha, php, pla, plp, sec, sed,
    sei, tax, tay, tsx, txa, txs, tya]

/-- The methods with addressing modes and fixed opcodes, but for JMP. -/
def addressedMethods : List (AddressMode → LinkTarget → Emission) :=
  [ahxImpl, alrImpl, arrImpl, axsImpl, dcpImpl, iscImpl, lasImpl, laxImpl, lxaImpl, nopImpl,
    rlaImpl, rraImpl, saxImpl, sbcUnofficialImpl, shxImpl, shyImpl, sloImpl, sreImpl, tasImpl,
    xaaImpl, adcImpl, andImpl, bitImpl, cmpImpl, cpxImpl, cpyImpl, decImpl, eorImpl, incImpl,
    ldaImpl, ldxImpl, ldyImpl, oraImpl, sbcImpl, staImpl, stxImpl, styImpl, aslMode, lsrMode,
    rolMode, rorMode]

/-- The commands of one instruction that is not a jump, call, return, branch, BRK or KIL. -/
inductive Straight : List Command → Prop
  | implied {c : List Command} (hc : c ∈ impliedMethods) : Straight c
  | addressed {method : AddressMode → LinkTarget → Emission} {mode : AddressMode}
      {target : LinkTarget} {c : List Command} (hmethod : method ∈ addressedMethods)
      (hc : method mode target = .ok c) : Straight c
  | nopOpcode {opcode : Byte} {c : List Command} (hc : nopOpcode opcode = .ok c) : Straight c
  | nopOperand {opcode : Byte} {target : LinkTarget} {c : List Command}
      (hc : nopOpcodeImpl opcode target = .ok c) : Straight c
  | anc {opcode : Byte} {mode : AddressMode} {target : LinkTarget} {c : List Command}
      (hc : ancImpl opcode mode target = .ok c) : Straight c
  | sbcOpcode {opcode : Byte} {mode : AddressMode} {target : LinkTarget} {c : List Command}
      (hc : sbcOpcodeImpl opcode mode target = .ok c) : Straight c

/-! ### Lengths -/

/-- The bytes that a command emits at the program counter. -/
def Command.width : Command → ℕ
  | addByte _ | addLow _ | addRelative _ => 1
  | addWord _ => 2
  | _ => 0

def width (commands : List Command) : ℕ := (commands.map Command.width).sum

theorem width_append (commands commands' : List Command) :
    width (commands ++ commands') = width commands + width commands' := by
  rw [width, List.map_append, List.sum_append]
  rfl

/-- The instruction of an opcode on the NMOS model is straight and has so many operand bytes. -/
def fits (opcode : Byte) (operands : ℕ) : Bool :=
  (instructionAt 0 opcode).any fun i => !i.mnemonic.controlFlow && i.mode.operands = operands

/-- The commands are an opcode and its operand, as the NMOS model reads them. -/
def Encodes (opcode : Byte) (c : List Command) : Prop :=
  ∃ operand, c = .addByte opcode :: operand ∧ fits opcode (width operand) = true ∧
    (operand = [] ∨ ∃ wordOperand target, operand = [addOperand wordOperand target])

theorem Encodes.instruction {opcode : Byte} {c : List Command} (h : Encodes opcode c) :
    ∃ i, instructionAt 0 opcode = some i ∧ i.mnemonic.controlFlow = false ∧
      width c = i.mode.length := by
  obtain ⟨operand, rfl, hfits, _⟩ := h
  rw [fits, Option.any_eq_true] at hfits
  obtain ⟨i, hi, hfits⟩ := hfits
  rw [Bool.and_eq_true, Bool.not_eq_true', decide_eq_true_eq] at hfits
  refine ⟨i, hi, hfits.1, ?_⟩
  rw [Mode.length, hfits.2]
  exact width_append [.addByte opcode] operand

theorem width_addOperand (wordOperand : Bool) (target : LinkTarget) :
    width [addOperand wordOperand target] = if wordOperand then 2 else 1 := by
  cases wordOperand <;> rfl

theorem emitAddressed_ok {mnemonic : String} {mode : AddressMode} {target : LinkTarget}
    {table : List ModeOpcode} {c : List Command}
    (h : emitAddressed mnemonic mode target table = .ok c) :
    ∃ e ∈ table, c = [.addByte e.opcode, addOperand e.wordOperand target] := by
  rw [emitAddressed] at h
  cases hfind : table.find? (·.mode = mode) with
  | none => rw [hfind] at h; cases h
  | some e =>
    rw [hfind] at h
    exact ⟨e, List.mem_of_find?_eq_some hfind, (Except.ok.inj h).symm⟩

/-- All entries of a table fit. -/
def tableFits (table : List ModeOpcode) : Bool :=
  table.all fun e => fits e.opcode (if e.wordOperand then 2 else 1)

theorem encodes_of_table {mnemonic : String} {mode : AddressMode} {target : LinkTarget}
    {table : List ModeOpcode} {c : List Command} (htable : tableFits table = true)
    (h : emitAddressed mnemonic mode target table = .ok c) : ∃ opcode, Encodes opcode c := by
  obtain ⟨e, he, rfl⟩ := emitAddressed_ok h
  refine ⟨e.opcode, _, rfl, ?_, Or.inr ⟨_, _, rfl⟩⟩
  rw [width_addOperand]
  exact List.all_eq_true.mp htable e he

theorem addressedMethods_table : ∀ method ∈ addressedMethods, ∃ mnemonic table,
    (∀ mode target, method mode target = emitAddressed mnemonic mode target table) ∧
      tableFits table = true := by
  simp only [addressedMethods, List.mem_cons, List.not_mem_nil, or_false, forall_eq_or_imp,
    forall_eq]
  and_intros <;> exact ⟨_, _, fun _ _ => rfl, by decide +kernel⟩

theorem impliedMethods_fit : ∀ c ∈ impliedMethods, ∃ opcode, c = [.addByte opcode] ∧
    fits opcode 0 = true := by
  simp only [impliedMethods, List.mem_cons, List.not_mem_nil, or_false, forall_eq_or_imp,
    forall_eq]
  and_intros <;> exact ⟨_, rfl, by decide⟩

theorem nopOpcodes_fit : ∀ opcode : Byte,
    (isNopImpliedOpcode opcode = true → fits opcode 0 = true) ∧
      (isNopByteOperandOpcode opcode = true → fits opcode 1 = true) ∧
        (isNopWordOperandOpcode opcode = true → fits opcode 2 = true) := by
  decide

/-- **The assembler and the CPU agree on the length** of every straight instruction. -/
theorem Straight.encodes {c : List Command} (h : Straight c) : ∃ opcode, Encodes opcode c := by
  cases h with
  | implied hc =>
    obtain ⟨opcode, rfl, hfits⟩ := impliedMethods_fit c hc
    exact ⟨opcode, [], rfl, hfits, Or.inl rfl⟩
  | addressed hmethod hc =>
    obtain ⟨mnemonic, table, heq, hfits⟩ := addressedMethods_table _ hmethod
    rw [heq] at hc
    exact encodes_of_table hfits hc
  | @nopOpcode opcode c hc =>
    rw [Asm6502.nopOpcode] at hc
    split at hc
    case isTrue himplied =>
      obtain rfl := Except.ok.inj hc
      exact ⟨opcode, [], rfl, (nopOpcodes_fit opcode).1 himplied, Or.inl rfl⟩
    case isFalse => split at hc <;> cases hc
  | @nopOperand opcode target c hc =>
    rw [nopOpcodeImpl] at hc
    split at hc
    case isTrue hbyte =>
      obtain rfl := Except.ok.inj hc
      exact ⟨opcode, _, rfl, (nopOpcodes_fit opcode).2.1 hbyte, Or.inr ⟨false, target, rfl⟩⟩
    case isFalse =>
      split at hc
      case isTrue hword =>
        obtain rfl := Except.ok.inj hc
        exact ⟨opcode, _, rfl, (nopOpcodes_fit opcode).2.2 hword, Or.inr ⟨true, target, rfl⟩⟩
      case isFalse => split at hc <;> cases hc
  | @anc opcode mode target c hc =>
    rw [ancImpl] at hc
    split at hc
    case isTrue => cases hc
    case isFalse hopcode =>
      refine encodes_of_table ?_ hc
      obtain rfl | rfl : opcode = 0x0B ∨ opcode = 0x2B := by tauto
      · decide
      · decide
  | @sbcOpcode opcode mode target c hc =>
    rw [sbcOpcodeImpl] at hc
    split at hc
    case isTrue => cases hc
    case isFalse hopcode =>
      refine encodes_of_table ?_ hc
      obtain rfl | rfl : opcode = 0xE9 ∨ opcode = 0xEB := by tauto
      · decide
      · decide

/-! ### Placing an instruction -/

theorem place_frame {cmd : Command} {ctx ctx' : Context} (h : cmd.place ctx = .ok ctx') :
    ctx'.symbols = ctx.symbols ∧ ctx'.pc = ctx.pc ∧ ctx.output ≤ ctx'.output := by
  have hplace := (cmd.place_toOption ctx).symm.trans (toOption_eq_some.mpr h)
  obtain ⟨cells, _, hplace⟩ := Option.bind_eq_some_iff.mp hplace
  obtain ⟨output, hinsert, rfl⟩ := Option.map_eq_some_iff.mp hplace
  refine ⟨rfl, rfl, fun k a hk => ?_⟩
  exact ((Table.insertAll_eq_some hinsert).2.2 k a).mpr (Or.inl hk)

theorem placePass_cons {cmd : Command} {commands : List Command} {ctx ctx' : Context}
    (h : placePass (cmd :: commands) ctx = .ok ctx') : ∃ ctx₁ ctx₂, cmd.place ctx = .ok ctx₁ ∧
      cmd.updatePc ctx₁ = .ok ctx₂ ∧ placePass commands ctx₂ = .ok ctx' := by
  have h' := toOption_eq_some.mpr h
  rw [placePass, toOption_bind] at h'
  obtain ⟨ctx₁, hplace, h'⟩ := Option.bind_eq_some_iff.mp h'
  rw [toOption_bind] at h'
  obtain ⟨ctx₂, hupdate, h'⟩ := Option.bind_eq_some_iff.mp h'
  exact ⟨ctx₁, ctx₂, toOption_eq_some.mp hplace, toOption_eq_some.mp hupdate,
    toOption_eq_some.mp h'⟩

theorem updatePc_frame {cmd : Command} {ctx ctx' : Context} (h : cmd.updatePc ctx = .ok ctx') :
    ctx'.symbols = ctx.symbols ∧ ctx'.output = ctx.output ∧
      cmd.next ctx.symbols ctx.pc = some ctx'.pc := by
  have hupdate := (cmd.updatePc_toOption ctx).symm.trans (toOption_eq_some.mpr h)
  obtain ⟨pc', hpc', rfl⟩ := Option.map_eq_some_iff.mp hupdate
  exact ⟨rfl, rfl, hpc'⟩

/-- **The placement pass only adds bytes.** -/
theorem placePass_le {commands : List Command} : ∀ {ctx ctx' : Context},
    placePass commands ctx = .ok ctx' → ctx.output ≤ ctx'.output := by
  induction commands with
  | nil =>
    intro ctx ctx' h
    cases h
    exact le_refl _
  | cons cmd commands ih =>
    intro ctx ctx' h
    obtain ⟨ctx₁, ctx₂, hplace, hupdate, htail⟩ := placePass_cons h
    obtain ⟨_, _, hle⟩ := place_frame hplace
    obtain ⟨_, houtput, _⟩ := updatePc_frame hupdate
    exact hle.trans (houtput ▸ ih htail)

/-- **Placing an instruction** puts its opcode at the program counter, which goes on by the
length. -/
theorem placePass_encodes {opcode : Byte} {c : List Command} (hc : Encodes opcode c)
    {ctx ctx' : Context} (h : placePass c ctx = .ok ctx') :
    ctx'.output ctx.pc = some opcode ∧ ctx'.pc = ctx.pc + BitVec.ofNat 16 (width c) := by
  obtain ⟨operand, rfl, _, hoperand⟩ := hc
  obtain ⟨ctx₁, ctx₂, hplace, hupdate, htail⟩ := placePass_cons h
  obtain ⟨_, houtput₂, hpc₂⟩ := updatePc_frame hupdate
  obtain ⟨_, hpc₁, _⟩ := place_frame hplace
  have hfirst : ctx₂.output ctx.pc = some opcode := by
    rw [houtput₂]
    rw [Command.place, Context.put] at hplace
    cases hfree : ctx.output ctx.pc with
    | some old => rw [hfree] at hplace; cases hplace
    | none =>
      rw [hfree] at hplace
      obtain rfl := Except.ok.inj hplace
      exact Table.insert_self _ _ _
  refine ⟨placePass_le htail _ _ hfirst, ?_⟩
  have hnext : ctx₂.pc = ctx.pc + 1 := by
    rw [← hpc₁]
    exact (Option.some.inj hpc₂).symm
  rcases hoperand with rfl | ⟨wordOperand, target, rfl⟩
  · cases htail
    rw [hnext]
    rfl
  · obtain ⟨ctx₃, ctx₄, hplace', hupdate', hdone⟩ := placePass_cons htail
    cases hdone
    obtain ⟨_, hpc₃, _⟩ := place_frame hplace'
    obtain ⟨_, _, hpc₄⟩ := updatePc_frame hupdate'
    rw [hpc₃, hnext] at hpc₄
    cases wordOperand with
    | false =>
      rw [← Option.some.inj hpc₄, BitVec.add_assoc]
      rfl
    | true =>
      rw [← Option.some.inj hpc₄, BitVec.add_assoc]
      rfl

/-- Straight-line code moves the program counter by its length. -/
theorem placePass_straight {code : List (List Command)} : ∀ {ctx ctx' : Context},
    (∀ c ∈ code, Straight c) → placePass code.flatten ctx = .ok ctx' →
      ctx'.pc = ctx.pc + BitVec.ofNat 16 (width code.flatten) := by
  induction code with
  | nil =>
    intro ctx ctx' _ h
    cases h
    exact (BitVec.add_zero _).symm
  | cons c code ih =>
    intro ctx ctx' hstraight h
    rw [List.flatten_cons, placePass_append] at h
    cases hc : placePass c ctx with
    | error e => rw [hc] at h; cases h
    | ok ctx₁ =>
      rw [hc] at h
      obtain ⟨opcode, hencodes⟩ := (hstraight c List.mem_cons_self).encodes
      rw [ih (fun c' hc' => hstraight c' (List.mem_cons_of_mem c hc')) h,
        (placePass_encodes hencodes hc).2, List.flatten_cons, width_append, BitVec.ofNat_add,
        BitVec.add_assoc]

end Asm6502

namespace InstructionCpu

variable {answer : Tick → (Word → Byte) → Byte} {m m' : InstructionCpu}

/-! ### Counting fetches -/

variable (answer) in
/-- The number of opcode fetches in so many cycles. -/
def fetchCount : ℕ → InstructionCpu → ℕ
  | 0, _ => 0
  | n + 1, m =>
    match m.hostCycle answer with
    | none => 0
    | some m' => (if m'.tick.fetching then 1 else 0) + fetchCount n m'

theorem hostRun_succ (n : ℕ) (m : InstructionCpu) :
    hostRun answer (List.replicate (n + 1) []) m =
      (m.hostCycle answer).bind (hostRun answer (List.replicate n [])) := rfl

theorem fetchCount_add {k : ℕ} : ∀ {n : ℕ} {m : InstructionCpu},
    hostRun answer (List.replicate n []) m = some m' →
      fetchCount answer (n + k) m = fetchCount answer n m + fetchCount answer k m' := by
  intro n
  induction n with
  | zero =>
    intro m h
    cases h
    rw [Nat.zero_add, fetchCount, Nat.zero_add]
  | succ n ih =>
    intro m h
    rw [hostRun_succ] at h
    obtain ⟨m₁, hcycle, hrun⟩ := Option.bind_eq_some_iff.mp h
    rw [Nat.add_right_comm, fetchCount, fetchCount, hcycle]
    dsimp only
    rw [ih hrun, Nat.add_assoc]

theorem fetchCount_eq_zero : ∀ {n : ℕ} {m : InstructionCpu},
    (∀ k ≤ n, 0 < k → ∀ m', hostRun answer (List.replicate k []) m = some m' →
      m'.tick.fetching = false) → fetchCount answer n m = 0 := by
  intro n
  induction n with
  | zero => exact fun _ => rfl
  | succ n ih =>
    intro m h
    rw [fetchCount]
    cases hcycle : m.hostCycle answer with
    | none => rfl
    | some m₁ =>
      have hfirst : m₁.tick.fetching = false := by
        refine h 1 (Nat.succ_le_succ (Nat.zero_le n)) Nat.one_pos m₁ ?_
        rw [hostRun_succ, hcycle]
        rfl
      have hrest := ih (m := m₁) fun k hk hpos m' hrun => by
        refine h (k + 1) (Nat.succ_le_succ hk) (Nat.succ_pos k) m' ?_
        rw [hostRun_succ, hcycle]
        exact hrun
      dsimp only
      rw [hfirst, hrest]
      rfl

/-- The cycles up to the next fetch count none, and those up to it and on count it. -/
theorem Fetches.count {n : ℕ} (h : m.Fetches answer n m') :
    (∀ j < n, fetchCount answer j m = 0) ∧
      ∀ k, fetchCount answer (n + k) m = fetchCount answer k m' + 1 := by
  have hzero : ∀ j < n, fetchCount answer j m = 0 := fun j hj =>
    fetchCount_eq_zero fun k hk hpos m'' hrun =>
      h.earlier k (Nat.lt_of_le_of_lt hk hj) hpos m'' hrun
  refine ⟨hzero, fun k => ?_⟩
  obtain ⟨p, rfl⟩ : ∃ p, n = p + 1 := ⟨n - 1, by have := h.later; omega⟩
  have hrun := h.run
  rw [List.replicate_succ', hostRun_append] at hrun
  obtain ⟨m₁, hm₁, hlast⟩ := Option.bind_eq_some_iff.mp hrun
  obtain ⟨m₂, hcycle, hdone⟩ := Option.bind_eq_some_iff.mp hlast
  obtain rfl := Option.some.inj hdone
  have hcycle' : m₁.hostCycle answer = some m₂ := hcycle
  rw [Nat.add_assoc, fetchCount_add hm₁, hzero p (Nat.lt_succ_self p), Nat.add_comm 1 k,
    fetchCount, hcycle']
  dsimp only
  rw [h.fetching]
  exact (Nat.zero_add _).trans (Nat.add_comm _ _)

/-! ### Memory that is not written -/

theorem hostCycle_memory {m' : InstructionCpu} (h : m.hostCycle answer = some m') {a : Word}
    (ha : m.isWrite = true → m.tick.address ≠ a) : m'.memory a = m.memory a := by
  rw [hostCycle] at h
  obtain ⟨r, _, rfl⟩ := Option.map_eq_some_iff.mp h
  dsimp only
  split
  case isTrue hwrite => exact if_neg fun heq => ha hwrite heq.symm
  case isFalse => rfl

/-- A byte that no cycle writes stays. -/
theorem hostRun_memory {a : Word} : ∀ {n : ℕ} {m m' : InstructionCpu},
    hostRun answer (List.replicate n []) m = some m' →
      (∀ k < n, ∀ m'', hostRun answer (List.replicate k []) m = some m'' →
        m''.isWrite = true → m''.tick.address ≠ a) → m'.memory a = m.memory a := by
  intro n
  induction n with
  | zero =>
    intro m m' h _
    cases h
    rfl
  | succ n ih =>
    intro m m' h hclear
    rw [hostRun_succ] at h
    obtain ⟨m₁, hcycle, hrun⟩ := Option.bind_eq_some_iff.mp h
    rw [ih hrun fun k hk m'' hm'' => hclear (k + 1) (Nat.succ_lt_succ hk) m'' (by
      rw [hostRun_succ, hcycle]
      exact hm'')]
    exact hostCycle_memory hcycle (hclear 0 (Nat.succ_pos n) m rfl)

/-! ### Straight-line code -/

variable (answer) in
/-- **A straight instruction** goes on by its length. -/
theorem Ready.straight (hready : m.Ready) {i : Instruction}
    (hi : instructionAt m.cpu.model.toNat m.opcode = some i)
    (hflow : i.mnemonic.controlFlow = false) : ∃ n m', m.Fetches answer n m' ∧ m'.Ready ∧
      m'.cpu.model = m.cpu.model ∧ m'.cpu.pc = m.cpu.pc + BitVec.ofNat 16 i.mode.length := by
  obtain ⟨shape, entries, _, hslot, hfits, hat, hstays, _⟩ :=
    slot_of_straight hready.supported hi hflow
  obtain ⟨beats, r, hyields, hends, _, _, hpc⟩ :=
    shape.lasts hfits hslot (m.cpu.opened m.opcode) (onBus (m.inputs answer))
  obtain ⟨m', hfetches, hready', hmodel, hregisters, _, _⟩ :=
    hready.instruction answer hat hstays hyields hends
  refine ⟨_, m', hfetches, hready', hmodel, ?_⟩
  have hpc' : m'.cpu.pc = r.pc := congrArg Registers.pc hregisters
  rw [hpc', hpc, Mode.next_eq, Mode.length, BitVec.ofNat_add, ← BitVec.add_assoc]
  rfl

/-- **The fetches of straight-line code**, from the place of its first instruction. -/
theorem fetches_code {own : Word → Prop} {image : Word → Byte}
    {output : Asm6502.MemoryModifiers} (himage : ∀ a b, output a = some b → image a = b)
    {code : List (List Asm6502.Command)} : ∀ {ctx last : Asm6502.Context} {m : InstructionCpu},
      (∀ c ∈ code, Asm6502.Straight c) → Asm6502.placePass code.flatten ctx = .ok last →
        last.output ≤ output → m.Ready → m.cpu.model = modelNmos → m.cpu.pc = ctx.pc →
          (∀ a, own a → m.memory a = image a) →
            (∀ j < Asm6502.width code.flatten, own (ctx.pc + BitVec.ofNat 16 j)) →
              (∀ n m', hostRun answer (List.replicate n []) m = some m' →
                fetchCount answer n m < code.length → m'.isWrite = true →
                  ¬own m'.tick.address) →
                ∀ front rest, code = front ++ rest → ∃ mid n m',
                  Asm6502.placePass front.flatten ctx = .ok mid ∧
                    hostRun answer (List.replicate n []) m = some m' ∧
                      fetchCount answer n m = front.length ∧ m'.tick = fetchAt mid.pc := by
  induction code with
  | nil =>
    intro ctx last m _ _ _ hready _ hpc _ _ _ front rest hcode
    obtain ⟨rfl, rfl⟩ := List.append_eq_nil_iff.mp hcode.symm
    exact ⟨ctx, 0, m, rfl, rfl, rfl, hpc ▸ hready.tick⟩
  | cons c code ih =>
    intro ctx last m hstraight hplaced hle hready hmodel hpc hmemory hown hclear front rest hcode
    cases front with
    | nil => exact ⟨ctx, 0, m, rfl, rfl, rfl, hpc ▸ hready.tick⟩
    | cons c' front =>
      obtain ⟨rfl, rfl⟩ := List.cons.inj hcode
      rw [List.flatten_cons, Asm6502.placePass_append] at hplaced
      cases hplaceC : Asm6502.placePass c ctx with
      | error e => rw [hplaceC] at hplaced; cases hplaced
      | ok ctx₁ =>
        rw [hplaceC] at hplaced
        have hplaced' : Asm6502.placePass (front ++ rest).flatten ctx₁ = .ok last := hplaced
        obtain ⟨opcode, hencodes⟩ := (hstraight c List.mem_cons_self).encodes
        obtain ⟨hopcode, hpc₁⟩ := Asm6502.placePass_encodes hencodes hplaceC
        obtain ⟨i, hi, hflow, hwidth⟩ := hencodes.instruction
        have hwidths : Asm6502.width (c :: (front ++ rest)).flatten =
            Asm6502.width c + Asm6502.width (front ++ rest).flatten :=
          Asm6502.width_append _ _
        -- The opcode is still in the memory, and the instruction goes on by its length.
        have hfirst : own ctx.pc := by
          have hpos : 0 < Asm6502.width (c :: (front ++ rest)).flatten := by
            rw [hwidths, hwidth, Mode.length]
            omega
          have hzero := hown 0 hpos
          rwa [BitVec.add_zero] at hzero
        have hfetched : m.opcode = opcode := by
          rw [InstructionCpu.opcode, hpc, hmemory _ hfirst]
          exact himage _ _ (hle _ _ (Asm6502.placePass_le hplaced' _ _ hopcode))
        obtain ⟨n, m₁, hfetches, hready₁, hmodel₁, hpc'⟩ := hready.straight answer
          (by rw [hmodel, hfetched]; exact hi) hflow
        obtain ⟨hbefore, hafter⟩ := hfetches.count
        have hmemory₁ : ∀ a, own a → m₁.memory a = image a := by
          intro a ha
          rw [← hmemory a ha]
          refine hostRun_memory hfetches.run fun k hk m'' hrun hwrite heq => ?_
          refine hclear k m'' hrun ?_ hwrite (heq ▸ ha)
          rw [hbefore k hk]
          exact Nat.succ_pos _
        have hpcs : m₁.cpu.pc = ctx₁.pc := by rw [hpc', hpc₁, hpc, hwidth]
        have hown₁ : ∀ j < Asm6502.width (front ++ rest).flatten,
            own (ctx₁.pc + BitVec.ofNat 16 j) := by
          intro j hj
          rw [hpc₁, BitVec.add_assoc, ← BitVec.ofNat_add]
          have hlt : Asm6502.width c + j < Asm6502.width (c :: (front ++ rest)).flatten := by
            rw [hwidths]
            omega
          exact hown _ hlt
        obtain ⟨mid, k, m', hmid, hrun, hcount, htick⟩ := ih
          (fun c' hc' => hstraight c' (List.mem_cons_of_mem c hc')) hplaced' hle hready₁
          (hmodel₁.trans hmodel) hpcs hmemory₁ hown₁ (fun k m' hrun hlt => by
            refine hclear (n + k) m' ?_ ?_
            · rw [List.replicate_add, hostRun_append, hfetches.run]
              exact hrun
            · rw [hafter]
              exact Nat.succ_lt_succ hlt) front rest rfl
        refine ⟨mid, n + k, m', ?_, ?_, ?_, htick⟩
        · rw [List.flatten_cons, Asm6502.placePass_append, hplaceC]
          exact hmid
        · rw [List.replicate_add, hostRun_append, hfetches.run]
          exact hrun
        · rw [hafter, hcount]
          rfl

end InstructionCpu

namespace Asm6502

/-- **Straight-line code.**  The code is assembled at an origin, in a program that compiles, and
loaded; a machine of the NMOS model fetches at the origin, and up to the end of the code it does
not write to the bytes of the code.  Then it fetches the opcode of each instruction where the
assembler places it, the first at the origin and each one with the fetch after that of the
instruction before. -/
theorem fetches_places {code : List (List Command)} (hstraight : ∀ c ∈ code, Straight c)
    {before after : List Command} {origin : Word} {passes : ℕ} {output : MemoryModifiers}
    (hcompile : compileToMap passes (before ++ .org origin :: (code.flatten ++ after)) =
      some (.ok output)) (answer : Tick → (Word → Byte) → Byte) {m : InstructionCpu}
    (hready : m.Ready) (hmodel : m.cpu.model = modelNmos) (hpc : m.cpu.pc = origin)
    (hloaded : ∀ a b, output a = some b → m.memory a = b)
    (hclear : ∀ n m', InstructionCpu.hostRun answer (List.replicate n []) m = some m' →
      InstructionCpu.fetchCount answer n m < code.length → m'.isWrite = true →
        ∀ j < width code.flatten, m'.tick.address ≠ origin + BitVec.ofNat 16 j) :
    ∃ symbols, FinalTable (before ++ .org origin :: (code.flatten ++ after)) symbols ∧
      ∀ front rest, code = front ++ rest → ∃ mid n m',
        placePass (before ++ .org origin :: front.flatten) { symbols := symbols } = .ok mid ∧
          InstructionCpu.hostRun answer (List.replicate n []) m = some m' ∧
            InstructionCpu.fetchCount answer n m = front.length ∧ m'.tick = fetchAt mid.pc := by
  obtain ⟨symbols, hfinal⟩ := finalTable_of_ok hcompile
  refine ⟨symbols, hfinal, ?_⟩
  have hresult := hfinal.result hcompile
  cases hpass : placePass (before ++ .org origin :: (code.flatten ++ after))
      { symbols := symbols } with
  | error e => rw [hpass] at hresult; cases hresult
  | ok placed =>
    rw [hpass] at hresult
    have houtput : output = placed.output := Except.ok.inj hresult
    rw [placePass_append] at hpass
    cases hbefore : placePass before { symbols := symbols } with
    | error e => rw [hbefore] at hpass; cases hpass
    | ok ctx =>
      rw [hbefore] at hpass
      have horg : placePass (code.flatten ++ after) { ctx with pc := origin } = .ok placed := hpass
      rw [placePass_append] at horg
      cases hcode : placePass code.flatten { ctx with pc := origin } with
      | error e => rw [hcode] at horg; cases horg
      | ok last =>
        rw [hcode] at horg
        have hle : last.output ≤ output := houtput ▸ placePass_le horg
        intro front rest hsplit
        obtain ⟨mid, n, m', hmid, hrun, hcount, htick⟩ := @InstructionCpu.fetches_code answer
          (fun a => ∃ j < width code.flatten, a = origin + BitVec.ofNat 16 j) m.memory output
          hloaded code { ctx with pc := origin } last m hstraight hcode hle hready hmodel hpc
          (fun _ _ => rfl) (fun j hj => ⟨j, hj, rfl⟩)
          (fun n m' hrun hlt hwrite ⟨j, hj, heq⟩ => hclear n m' hrun hlt hwrite j hj heq)
          front rest hsplit
        refine ⟨mid, n, m', ?_, hrun, hcount, htick⟩
        rw [placePass_append, hbefore]
        exact hmid

/-- A NOP and an LDA that goes on at 0x0000. -/
def wrapCode : List (List Command) := [nop, [.addByte 0xA9, .addLow (.word 5)]]

theorem wrapCode_straight : ∀ c ∈ wrapCode, Straight c := by
  simp only [wrapCode, List.mem_cons, List.not_mem_nil, or_false, forall_eq_or_imp, forall_eq]
  refine ⟨.implied (by simp [impliedMethods]), ?_⟩
  exact @Straight.addressed ldaImpl .imm (.word 5) _ (by simp [addressedMethods]) rfl

/-- The bytes of the code from 0xFFFE on. -/
def wrapOutput : MemoryModifiers :=
  (((∅ : MemoryModifiers).insert 0xFFFE 0xEA).insert 0xFFFF 0xA9).insert 0x0000 5

/-- The NMOS model at 0xFFFE with the code. -/
def wrapMachine : InstructionCpu where
  cpu := (Session.after 0 [.goto 0xFFFE]).1
  tick := (Session.after 0 [.goto 0xFFFE]).2
  memory := poke (poke (poke (fun _ => 0) 0xFFFE 0xEA) 0xFFFF 0xA9) 0x0000 5

theorem wrapMachine_ready : wrapMachine.Ready :=
  ⟨⟨by decide, 261, 1, by decide, by decide⟩, by decide, by decide⟩

theorem wrapMachine_quiet : (∀ n < 4,
    (InstructionCpu.hostRun InstructionCpu.readmeAnswer (List.replicate n []) wrapMachine).all
      (!·.isWrite) = true) ∧
    (InstructionCpu.hostRun InstructionCpu.readmeAnswer (List.replicate 4 [])
      wrapMachine).isSome = true ∧
    InstructionCpu.fetchCount InstructionCpu.readmeAnswer 4 wrapMachine = 2 := by
  decide

theorem fetches_places_wrap : ∃ n m', InstructionCpu.hostRun InstructionCpu.readmeAnswer
    (List.replicate n []) wrapMachine = some m' ∧
      InstructionCpu.fetchCount InstructionCpu.readmeAnswer n wrapMachine = 2 ∧
        m'.tick = fetchAt 0x0001 := by
  have hclear : ∀ n m', InstructionCpu.hostRun InstructionCpu.readmeAnswer (List.replicate n [])
      wrapMachine = some m' →
        InstructionCpu.fetchCount InstructionCpu.readmeAnswer n wrapMachine < wrapCode.length →
          m'.isWrite = false := by
    intro n m' hrun hlt
    obtain ⟨hquiet, hsome, hcount⟩ := wrapMachine_quiet
    rcases Nat.lt_or_ge n 4 with hn | hn
    · have hwrite := hquiet n hn
      rw [hrun, Option.all_some, Bool.not_eq_true'] at hwrite
      exact hwrite
    · obtain ⟨k, rfl⟩ := Nat.exists_eq_add_of_le hn
      obtain ⟨m₄, hm₄⟩ := Option.isSome_iff_exists.mp hsome
      rw [InstructionCpu.fetchCount_add hm₄, hcount] at hlt
      exact absurd hlt (Nat.not_lt.mpr (Nat.le_add_right 2 _))
  have hcompile : compileToMap 2 ([] ++ .org 0xFFFE :: (wrapCode.flatten ++ [])) =
      some (.ok wrapOutput) := rfl
  have hloaded : ∀ a b, wrapOutput a = some b → wrapMachine.memory a = b := by
    intro a b hab
    rcases (Table.insert_eq_some (by decide)).mp hab with hab | ⟨rfl, rfl⟩
    · rcases (Table.insert_eq_some (by decide)).mp hab with hab | ⟨rfl, rfl⟩
      · rcases (Table.insert_eq_some (by decide)).mp hab with hab | ⟨rfl, rfl⟩
        · cases hab
        · decide
      · decide
    · decide
  obtain ⟨symbols, _, hplaces⟩ := fetches_places wrapCode_straight hcompile
    InstructionCpu.readmeAnswer wrapMachine_ready (by decide) (by decide)
    hloaded (fun n m' hrun hlt hwrite => absurd hwrite (by rw [hclear n m' hrun hlt]; decide))
  obtain ⟨mid, n, m', hmid, hrun, hcount, htick⟩ := hplaces wrapCode [] rfl
  have hcode : placePass wrapCode.flatten { symbols := symbols, pc := 0xFFFE } = .ok mid := hmid
  have hwidth : 0xFFFE + BitVec.ofNat 16 (width wrapCode.flatten) = 0x0001#16 := by decide
  have hpc : mid.pc = 0x0001 := (placePass_straight wrapCode_straight hcode).trans hwidth
  exact ⟨n, m', hrun, hcount, hpc ▸ htick⟩

end Asm6502

end Qe6502
