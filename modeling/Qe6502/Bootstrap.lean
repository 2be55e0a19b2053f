import Qe6502.Single
import Qe6502.Ordering
import Qe6502.Emit

/-!
# The bootstrap program

`bootstrap_program` assembles sixteen bytes that set the registers and jump, and the vectors.  The
flags go through the stack.  `bootstrap_state` says what a machine that restarts into them does.
-/

namespace Qe6502

namespace Asm6502

section bootstrap

variable (A X Y P S : Byte) (startAt resetVector brkIrqVector nmiVector : Word)

/-- The commands of `bootstrap_program`. -/
def bootstrapCommands : Emission := do
  let ldxS ← ldxImpl .imm (.word (S.setWidth 16))
  let ldaP ← ldaImpl .imm (.word (P.setWidth 16))
  let ldaA ← ldaImpl .imm (.word (A.setWidth 16))
  let ldxX ← ldxImpl .imm (.word (X.setWidth 16))
  let ldyY ← ldyImpl .imm (.word (Y.setWidth 16))
  let jmpStart ← jmpImpl .abs (.word startAt)
  return Asm6502.resetVector (.word resetVector) ++ Asm6502.nmiVector (.word nmiVector) ++
    Asm6502.brkIrqVector (.word brkIrqVector) ++ org resetVector "bootstrap" ++
    ldxS ++ txs ++ ldaP ++ pha ++ ldaA ++ ldxX ++ ldyY ++ plp ++ jmpStart

/-- `bootstrap_program`, with a bound on the passes and the messages of the exceptions. -/
def bootstrapProgram (passes : Nat) : Option (Except String (List (Word × Byte))) :=
  match bootstrapCommands A X Y P S startAt resetVector brkIrqVector nmiVector with
  | .error e => some (.error e)
  | .ok commands => (compile passes commands).map (·.mapError Error.what)

/-- The code of the bootstrap. -/
def bootstrapCode : List Byte :=
  [0xA2, S, 0x9A, 0xA9, P, 0x48, 0xA9, A, 0xA2, X, 0xA0, Y, 0x28, 0x4C, u16GetByte startAt 0,
    u16GetByte startAt 1]

end bootstrap

/-! ### Loading the bytes -/

theorem apply_entry {changes : List (Word × Byte)} {a : Word} {b : Byte}
    (hmem : (a, b) ∈ changes) (hall : ∀ b', (a, b') ∈ changes → b' = b) :
    ∀ {memory : Word → Byte}, apply changes memory a = b := by
  have hkept : ∀ {changes : List (Word × Byte)}, (∀ b', (a, b') ∈ changes → b' = b) →
      ∀ {memory : Word → Byte}, memory a = b → apply changes memory a = b := by
    intro changes
    induction changes with
    | nil => exact fun _ _ h => h
    | cons c changes ih =>
      intro hall memory hmemory
      refine ih (fun b' hb' => hall b' (List.mem_cons_of_mem c hb')) ?_
      show (if a = c.1 then c.2 else memory a) = b
      split
      case isTrue ha => exact hall c.2 (by rw [ha]; exact List.mem_cons_self)
      case isFalse => exact hmemory
  induction changes with
  | nil => cases hmem
  | cons c changes ih =>
    intro memory
    have htail : ∀ b', (a, b') ∈ changes → b' = b :=
      fun b' hb' => hall b' (List.mem_cons_of_mem c hb')
    rcases List.mem_cons.mp hmem with rfl | hmem
    · exact hkept htail (if_pos rfl)
    · exact ih hmem htail

theorem mem_entries {map : MemoryModifiers} {a : Word} {b : Byte} :
    (a, b) ∈ map.entries ↔ map a = some b := by
  rw [MemoryModifiers.entries, List.mem_filterMap]
  constructor
  · rintro ⟨n, _, h⟩
    obtain ⟨b', hb', heq⟩ := Option.map_eq_some_iff.mp h
    cases heq
    exact hb'
  · intro h
    refine ⟨a.toNat, List.mem_range.mpr a.isLt, ?_⟩
    rw [BitVec.ofNat_toNat, BitVec.setWidth_eq, h]
    rfl

/-- **Loading a compilation** puts its bytes at their addresses. -/
theorem apply_entries {map : MemoryModifiers} {a : Word} {b : Byte} (h : map a = some b)
    (memory : Word → Byte) : apply map.entries memory a = b :=
  apply_entry (mem_entries.mpr h) fun _ hb' => Option.some.inj ((mem_entries.mp hb').symm.trans h)

/-! ### The bytes of the bootstrap -/

section output

variable {A X Y P S : Byte} {startAt resetVector brkIrqVector nmiVector : Word}

/-- The cells of the code. -/
def codeCells (start : Word) : List Byte → List (Word × Byte)
  | [] => []
  | b :: code => (start, b) :: codeCells (start + 1) code

theorem mem_codeCells {code : List Byte} : ∀ {start : Word} {i : ℕ} {b : Byte},
    code[i]? = some b → (start + BitVec.ofNat 16 i, b) ∈ codeCells start code := by
  induction code with
  | nil => exact fun h => nomatch h
  | cons b' code ih =>
    intro start i b h
    cases i with
    | zero =>
      obtain rfl := Option.some.inj h
      rw [codeCells, BitVec.ofNat_eq_ofNat, BitVec.add_zero]
      exact List.mem_cons_self
    | succ i =>
      have hstart : start + BitVec.ofNat 16 (i + 1) = start + 1 + BitVec.ofNat 16 i := by
        rw [BitVec.add_assoc, Nat.add_comm i 1, BitVec.ofNat_add]
        rfl
      rw [hstart]
      exact List.mem_cons_of_mem _ (ih h)

/-- The commands of the bootstrap, one by one. -/
theorem bootstrapCommands_eq :
    bootstrapCommands A X Y P S startAt resetVector brkIrqVector nmiVector = .ok
      [.addFixedWord 0xFFFC (.word resetVector), .addFixedWord 0xFFFA (.word nmiVector),
        .addFixedWord 0xFFFE (.word brkIrqVector), .org resetVector, .label "bootstrap",
        .addByte 0xA2, .addLow (.word (S.setWidth 16)), .addByte 0x9A,
        .addByte 0xA9, .addLow (.word (P.setWidth 16)), .addByte 0x48,
        .addByte 0xA9, .addLow (.word (A.setWidth 16)),
        .addByte 0xA2, .addLow (.word (X.setWidth 16)),
        .addByte 0xA0, .addLow (.word (Y.setWidth 16)), .addByte 0x28,
        .addByte 0x4C, .addWord (.word startAt)] := rfl

/-- **The cells of the bootstrap.** -/
theorem bootstrap_emitted {commands : List Command}
    (h : bootstrapCommands A X Y P S startAt resetVector brkIrqVector nmiVector = .ok commands)
    (symbols : SymbolTable) : (layout symbols 0 commands).bind (emitted symbols) =
      some (Command.wordCells 0xFFFC resetVector ++ Command.wordCells 0xFFFA nmiVector ++
        Command.wordCells 0xFFFE brkIrqVector ++
          codeCells resetVector (bootstrapCode A X Y P S startAt)) := by
  have hlow : ∀ b : Byte, u16GetByte (b.setWidth 16) 0 = b := getByte_zero_zeroPage
  rw [bootstrapCommands_eq] at h
  obtain rfl := Except.ok.inj h
  simp only [layout, Command.next, emitted, Command.cells, LinkTarget.value, Option.bind_some,
    Option.map_some, hlow]
  rfl

/-- **The bytes of the bootstrap.** -/
theorem bootstrap_output {passes : ℕ} {changes : List (Word × Byte)}
    (h : bootstrapProgram A X Y P S startAt resetVector brkIrqVector nmiVector passes =
      some (.ok changes)) (image : Word → Byte) :
    (∀ i b, (bootstrapCode A X Y P S startAt)[i]? = some b →
      apply changes image (resetVector + BitVec.ofNat 16 i) = b) ∧
      apply changes image 0xFFFC = u16GetByte resetVector 0 ∧
      apply changes image 0xFFFD = u16GetByte resetVector 1 := by
  obtain ⟨commands, hcommands⟩ : ∃ commands,
      bootstrapCommands A X Y P S startAt resetVector brkIrqVector nmiVector = .ok commands :=
    ⟨_, bootstrapCommands_eq⟩
  rw [bootstrapProgram, hcommands] at h
  obtain ⟨compiled, hcompile, h⟩ := Option.map_eq_some_iff.mp h
  obtain ⟨result, hresult, rfl⟩ := Option.map_eq_some_iff.mp hcompile
  cases result with
  | error e => cases h
  | ok output =>
    obtain rfl : output.entries = changes := Except.ok.inj h
    obtain ⟨symbols, hfinal⟩ := finalTable_of_ok hresult
    obtain ⟨places, hlayout, _⟩ := hfinal.layout
    obtain ⟨cells, hcells, hinsert⟩ := hfinal.ok hlayout hresult
    have hemitted := bootstrap_emitted hcommands symbols
    rw [hlayout, Option.bind_some, hcells] at hemitted
    obtain rfl := Option.some.inj hemitted
    obtain ⟨_, _, houtput⟩ := Table.insertAll_eq_some hinsert
    refine ⟨fun i b hi => apply_entries ?_ image, apply_entries ?_ image, apply_entries ?_ image⟩
    · exact (houtput _ _).mpr (Or.inr (List.mem_append_right _ (mem_codeCells hi)))
    · exact (houtput _ _).mpr (Or.inr (by simp [Command.wordCells]))
    · exact (houtput _ _).mpr (Or.inr (by simp [Command.wordCells]))

end output

end Asm6502

/-! ### Running the bootstrap -/

theorem add_ofNat_succ (start : Word) (i : ℕ) :
    start + BitVec.ofNat 16 i + 1 = start + BitVec.ofNat 16 (i + 1) := by
  rw [BitVec.add_assoc, BitVec.ofNat_add]
  rfl

theorem bootstrap_slots : ∀ model < 5,
    slotAt model 0xA2 = some (rImm .mcLoadXUpdateNzFetch) ∧
    slotAt model 0xA9 = some (rImm .mcLoadAUpdateNzFetch) ∧
    slotAt model 0xA0 = some (rImm .mcLoadYUpdateNzFetch) ∧
    slotAt model 0x9A = some (imp .opTxsImpReadyNonePendingNoneDummyPrefetch) ∧
    slotAt model 0x48 = some (stackPush .opPhaStackPushReadyNonePendingNoneWrPrefetch) ∧
    slotAt model 0x28 = some (stackPull .opPlpStackPullReadyNonePendingDataFetch) ∧
    slotAt model 0x4C = some jmpAbs := by
  decide

namespace InstructionCpu

namespace Stands

variable {answer : Tick → (Word → Byte) → Byte} {m : InstructionCpu} {model : Byte}
  {memory : Word → Byte} {start : Word} {i : ℕ} {s a x y p : Byte}
  (h : m.Stands model ⟨start + BitVec.ofNat 16 i, s, a, x, y, p⟩ memory)

include h

theorem ldx (hop : memory (start + BitVec.ofNat 16 i) = 0xA2) {data : Byte}
    (hdata : memory (start + BitVec.ofNat 16 (i + 1)) = data) : ∃ m' p', m.Leads answer m' ∧
      m'.Stands model ⟨start + BitVec.ofNat 16 (i + 2), s, a, data, y, p'⟩ memory := by
  have hslot : slotAt model.toNat (memory (start + BitVec.ofNat 16 i)).toNat =
      some (rImm .mcLoadXUpdateNzFetch) := by
    rw [hop]
    exact (bootstrap_slots _ h.supported).1
  obtain ⟨m', hfetches, hstands⟩ := h.immediate answer ⟨.mcLoadXUpdateNzFetch, rfl⟩
    hslot rfl
  dsimp only at hstands
  rw [add_ofNat_succ, add_ofNat_succ, hdata] at hstands
  exact ⟨m', _, hfetches.leads, hstands⟩

theorem lda (hop : memory (start + BitVec.ofNat 16 i) = 0xA9) {data : Byte}
    (hdata : memory (start + BitVec.ofNat 16 (i + 1)) = data) : ∃ m' p', m.Leads answer m' ∧
      m'.Stands model ⟨start + BitVec.ofNat 16 (i + 2), s, data, x, y, p'⟩ memory := by
  have hslot : slotAt model.toNat (memory (start + BitVec.ofNat 16 i)).toNat =
      some (rImm .mcLoadAUpdateNzFetch) := by
    rw [hop]
    exact (bootstrap_slots _ h.supported).2.1
  obtain ⟨m', hfetches, hstands⟩ := h.immediate answer ⟨.mcLoadAUpdateNzFetch, rfl⟩
    hslot rfl
  dsimp only at hstands
  rw [add_ofNat_succ, add_ofNat_succ, hdata] at hstands
  exact ⟨m', _, hfetches.leads, hstands⟩

theorem ldy (hop : memory (start + BitVec.ofNat 16 i) = 0xA0) {data : Byte}
    (hdata : memory (start + BitVec.ofNat 16 (i + 1)) = data) : ∃ m' p', m.Leads answer m' ∧
      m'.Stands model ⟨start + BitVec.ofNat 16 (i + 2), s, a, x, data, p'⟩ memory := by
  have hslot : slotAt model.toNat (memory (start + BitVec.ofNat 16 i)).toNat =
      some (rImm .mcLoadYUpdateNzFetch) := by
    rw [hop]
    exact (bootstrap_slots _ h.supported).2.2.1
  obtain ⟨m', hfetches, hstands⟩ := h.immediate answer ⟨.mcLoadYUpdateNzFetch, rfl⟩
    hslot rfl
  dsimp only at hstands
  rw [add_ofNat_succ, add_ofNat_succ, hdata] at hstands
  exact ⟨m', _, hfetches.leads, hstands⟩

theorem txs (hop : memory (start + BitVec.ofNat 16 i) = 0x9A) : ∃ m', m.Leads answer m' ∧
    m'.Stands model ⟨start + BitVec.ofNat 16 (i + 1), x, a, x, y, p⟩ memory := by
  have hslot : slotAt model.toNat (memory (start + BitVec.ofNat 16 i)).toNat =
      some (imp .opTxsImpReadyNonePendingNoneDummyPrefetch) := by
    rw [hop]
    exact (bootstrap_slots _ h.supported).2.2.2.1
  obtain ⟨m', hfetches, hstands⟩ := h.implied answer
    ⟨.opTxsImpReadyNonePendingNoneDummyPrefetch, rfl⟩ hslot rfl
  dsimp only at hstands
  rw [add_ofNat_succ] at hstands
  exact ⟨m', hfetches.leads, hstands⟩

theorem pha (hop : memory (start + BitVec.ofNat 16 i) = 0x48) : ∃ m', m.Leads answer m' ∧
    m'.Stands model ⟨start + BitVec.ofNat 16 (i + 1), s - 1, a, x, y, p⟩
      (poke memory (stackAddress s) a) := by
  have hslot : slotAt model.toNat (memory (start + BitVec.ofNat 16 i)).toNat =
      some (stackPush .opPhaStackPushReadyNonePendingNoneWrPrefetch) := by
    rw [hop]
    exact (bootstrap_slots _ h.supported).2.2.2.2.1
  obtain ⟨m', hfetches, hstands⟩ := h.push answer
    ⟨.opPhaStackPushReadyNonePendingNoneWrPrefetch, rfl⟩ hslot rfl
  dsimp only at hstands
  rw [add_ofNat_succ] at hstands
  exact ⟨m', hfetches.leads, hstands⟩

theorem plp (hop : memory (start + BitVec.ofNat 16 i) = 0x28) : ∃ m', m.Leads answer m' ∧
    m'.Stands model ⟨start + BitVec.ofNat 16 (i + 1), s + 1, a, x, y,
      pulledFlags (memory (stackAddress (s + 1)))⟩ memory := by
  have hslot : slotAt model.toNat (memory (start + BitVec.ofNat 16 i)).toNat =
      some (stackPull .opPlpStackPullReadyNonePendingDataFetch) := by
    rw [hop]
    exact (bootstrap_slots _ h.supported).2.2.2.2.2.1
  obtain ⟨m', hfetches, hstands⟩ := h.pull answer
    ⟨.opPlpStackPullReadyNonePendingDataFetch, rfl⟩ hslot rfl
  dsimp only at hstands
  rw [add_ofNat_succ] at hstands
  exact ⟨m', hfetches.leads, hstands⟩

theorem jmp (hop : memory (start + BitVec.ofNat 16 i) = 0x4C) {target : Word}
    (hlow : memory (start + BitVec.ofNat 16 (i + 1)) = u16GetByte target 0)
    (hhigh : memory (start + BitVec.ofNat 16 (i + 2)) = u16GetByte target 1) :
    ∃ m', m.Fetches answer 3 m' ∧ m'.Stands model ⟨target, s, a, x, y, p⟩ memory := by
  have hslot : slotAt model.toNat (memory (start + BitVec.ofNat 16 i)).toNat = some jmpAbs := by
    rw [hop]
    exact (bootstrap_slots _ h.supported).2.2.2.2.2.2
  obtain ⟨m', hfetches, hstands⟩ := h.jump answer hslot
  dsimp only at hstands
  rw [add_ofNat_succ, add_ofNat_succ, hlow, hhigh, ofBytes_getByte] at hstands
  exact ⟨m', hfetches, hstands⟩

end Stands

/-- **The bootstrap code** sets the registers and jumps. -/
theorem bootstrap_runs {answer : Tick → (Word → Byte) → Byte} {m : InstructionCpu} {model : Byte}
    {memory : Word → Byte} {start startAt : Word} {s₀ a₀ x₀ y₀ p₀ A X Y P S : Byte}
    (h : m.Stands model ⟨start, s₀, a₀, x₀, y₀, p₀⟩ memory)
    (hcode : ∀ i b, (Asm6502.bootstrapCode A X Y P S startAt)[i]? = some b →
      memory (start + BitVec.ofNat 16 i) = b)
    (hstack : ∀ i < 16, stackAddress S ≠ start + BitVec.ofNat 16 i) :
    ∃ m₁ m', m.Leads answer m₁ ∧ m₁.tick = fetchAt (start + 13) ∧ m₁.opcode = 0x4C ∧
      m₁.Fetches answer 3 m' ∧ m'.Stands model ⟨startAt, S, A, X, Y, pulledFlags P⟩
        (poke memory (stackAddress S) P) := by
  have hkept : ∀ i b, (Asm6502.bootstrapCode A X Y P S startAt)[i]? = some b →
      poke memory (stackAddress S) P (start + BitVec.ofNat 16 i) = b := by
    intro i b hi
    have hlt : i < 16 := (List.getElem?_eq_some_iff.mp hi).1
    rw [poke, if_neg (hstack i hlt).symm]
    exact hcode i b hi
  have hpushed : poke memory (stackAddress S) P (stackAddress S) = P := if_pos rfl
  have h₀ : m.Stands model ⟨start + BitVec.ofNat 16 0, s₀, a₀, x₀, y₀, p₀⟩ memory := by
    rw [BitVec.add_zero]
    exact h
  obtain ⟨m₁, p₁, hleads₁, h₁⟩ := h₀.ldx (hcode 0 _ rfl) (hcode 1 _ rfl)
  obtain ⟨m₂, hleads₂, h₂⟩ := h₁.txs (hcode 2 _ rfl)
  obtain ⟨m₃, p₃, hleads₃, h₃⟩ := h₂.lda (hcode 3 _ rfl) (hcode 4 _ rfl)
  obtain ⟨m₄, hleads₄, h₄⟩ := h₃.pha (hcode 5 _ rfl)
  obtain ⟨m₅, p₅, hleads₅, h₅⟩ := h₄.lda (hkept 6 _ rfl) (hkept 7 _ rfl)
  obtain ⟨m₆, p₆, hleads₆, h₆⟩ := h₅.ldx (hkept 8 _ rfl) (hkept 9 _ rfl)
  obtain ⟨m₇, p₇, hleads₇, h₇⟩ := h₆.ldy (hkept 10 _ rfl) (hkept 11 _ rfl)
  obtain ⟨m₈, hleads₈, h₈⟩ := h₇.plp (hkept 12 _ rfl)
  rw [BitVec.sub_add_cancel, hpushed] at h₈
  obtain ⟨m₉, hfetches, h₉⟩ := h₈.jmp (hkept 13 _ rfl) (hkept 14 _ rfl) (hkept 15 _ rfl)
  have hleads : m.Leads answer m₈ := ((((((hleads₁.trans hleads₂).trans hleads₃).trans
    hleads₄).trans hleads₅).trans hleads₆).trans hleads₇).trans hleads₈
  exact ⟨m₈, m₉, hleads, h₈.tick, h₈.opcode.trans (hkept 13 _ rfl), hfetches, h₉⟩

end InstructionCpu

namespace Asm6502

/-- **The bootstrap program.**  Whenever it compiles and its code leaves the stack cell free, a
machine of any model that restarts into its bytes fetches at the start address after the JMP, with
the registers as given, the flags as PLP makes them, and no other byte changed than the stack
cell. -/
theorem bootstrap_state {A X Y P S : Byte} {startAt resetVector brkIrqVector nmiVector : Word}
    {passes : ℕ} {changes : List (Word × Byte)}
    (h : bootstrapProgram A X Y P S startAt resetVector brkIrqVector nmiVector passes =
      some (.ok changes))
    (hstack : ∀ i < 16, 0x0100 + S.setWidth 16 ≠ resetVector + BitVec.ofNat 16 i)
    (image : Word → Byte) {cpu : Cpu} (hm : cpu.model.toNat < supportedModelsCount)
    (answer : Tick → (Word → Byte) → Byte) : ∃ m₁ m',
      InstructionCpu.Leads answer
        ⟨(restart cpu).1, (restart cpu).2, apply changes image⟩ m₁ ∧
      m₁.tick = fetchAt (resetVector + 13) ∧ m₁.opcode = 0x4C ∧ m₁.Fetches answer 3 m' ∧
      m'.tick = fetchAt startAt ∧
      m'.cpu.registers = ⟨startAt, S, A, X, Y, (P ||| 0x20) &&& ~~~0x10⟩ ∧
      ∀ a, a ≠ 0x0100 + S.setWidth 16 → m'.memory a = apply changes image a := by
  obtain ⟨hcode, hlow, hhigh⟩ := bootstrap_output h image
  have haddress : stackAddress S = 0x0100 + S.setWidth 16 := stackAddress_eq S
  have hstart : startAddress (apply changes image) = resetVector := by
    rw [startAddress, hlow, hhigh, ofBytes_getByte]
  obtain ⟨m, hleads, hstands⟩ := InstructionCpu.restart_stands answer hm
    (apply changes image)
  rw [hstart] at hstands
  obtain ⟨m₁, m', hleads₁, htick, hop, hfetches, hstands'⟩ :=
    InstructionCpu.bootstrap_runs hstands hcode (haddress ▸ hstack)
  refine ⟨m₁, m', hleads.trans hleads₁, htick, hop, hfetches, hstands'.tick,
    hstands'.registers, fun a ha => ?_⟩
  rw [hstands'.memory, poke, if_neg (haddress ▸ ha)]

/-- A bootstrap at 0x0300 with the stack pointer at 0xFD. -/
theorem bootstrap_state_0300 : ∃ (changes : List (Word × Byte)) (m' : InstructionCpu),
    bootstrapProgram 1 2 3 0xC3 0xFD 0x0400 0x0300 0x0500 0x0600 3 = some (.ok changes) ∧
    InstructionCpu.Leads InstructionCpu.readmeAnswer
      ⟨(restart blankCpu).1, (restart blankCpu).2, apply changes fun _ => 0xEA⟩ m' ∧
    m'.tick = fetchAt 0x0400 ∧ m'.cpu.registers = ⟨0x0400, 0xFD, 1, 2, 3, 0xE3⟩ := by
  obtain ⟨changes, hchanges⟩ : ∃ changes,
      bootstrapProgram 1 2 3 0xC3 0xFD 0x0400 0x0300 0x0500 0x0600 3 = some (.ok changes) :=
    ⟨_, rfl⟩
  obtain ⟨m₁, m', hleads, _, _, hfetches, htick, hregisters, _⟩ :=
    bootstrap_state hchanges (by decide) (fun _ => 0xEA) (by decide : blankCpu.model.toNat < 5)
      InstructionCpu.readmeAnswer
  exact ⟨changes, m', hchanges, hleads.trans hfetches.leads, htick, hregisters⟩

end Asm6502

end Qe6502
