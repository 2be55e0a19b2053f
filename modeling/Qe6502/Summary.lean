import Qe6502.Singlestep

/-!
# The summary of the single-step harness

The summary counts the opcodes of a run in groups: `singlestep_summary`.  On the 65C02 models the
groups tell the opcodes that the core skips from the rest: `nop_opcodes_skip`.
-/

namespace Qe6502

/-- `singlestep_model`. -/
inductive SinglestepModel
  | nmos6502 | wdc65c02 | rockwell65c02 | synertek65c02
deriving DecidableEq

/-- The model that `run_singlestep_nmos` and its siblings run. -/
def SinglestepModel.cpuModel : SinglestepModel → Byte
  | nmos6502 => modelNmos
  | wdc65c02 => modelWdc
  | rockwell65c02 => modelRw
  | synertek65c02 => modelSt

namespace Singlestep

/-! ### Groups of opcodes -/

def is65c02Model (model : SinglestepModel) : Bool :=
  model = .wdc65c02 || model = .rockwell65c02 || model = .synertek65c02

/-- The cases of `is_common_65c02_nop_opcode`. -/
def common65c02NopOpcodes : List Byte :=
  [0x02, 0x22, 0x42, 0x62, 0x82, 0xC2, 0xE2, 0x03, 0x13, 0x23, 0x33, 0x43, 0x53, 0x63, 0x73, 0x83,
    0x93, 0xA3, 0xB3, 0xC3, 0xD3, 0xE3, 0xF3, 0x0B, 0x1B, 0x2B, 0x3B, 0x4B, 0x5B, 0x6B, 0x7B,
    0x8B, 0x9B, 0xAB, 0xBB, 0xCB, 0xDB, 0xEB, 0xFB, 0x44, 0x54, 0x5C, 0xD4, 0xDC, 0xF4, 0xFC,
    0xEA]

def isCommon65c02NopOpcode (opcode : Byte) : Bool := common65c02NopOpcodes.contains opcode

/-- The cases of `is_defined_65c02_nop_opcode` for the Synertek model. -/
def synertekNopOpcodes : List Byte :=
  [0x07, 0x17, 0x27, 0x37, 0x47, 0x57, 0x67, 0x77, 0x87, 0x97, 0xA7, 0xB7, 0xC7, 0xD7, 0xE7, 0xF7,
    0x0F, 0x1F, 0x2F, 0x3F, 0x4F, 0x5F, 0x6F, 0x7F, 0x8F, 0x9F, 0xAF, 0xBF, 0xCF, 0xDF, 0xEF,
    0xFF]

def isDefined65c02NopOpcode (model : SinglestepModel) (opcode : Byte) : Bool :=
  if isCommon65c02NopOpcode opcode then true
  else if model = .synertek65c02 then synertekNopOpcodes.contains opcode
  else false

end Singlestep

/-! ### Instructions that do nothing -/

/-- The no-operations. -/
def Instruction.idle (i : Instruction) : Bool :=
  (i.mnemonic = .nop || i.mnemonic = .nopFetch || i.mnemonic = .nopAbs ||
    i.mnemonic = .stNopAbs || i.mnemonic = .stNopAbsHigh) && !i.mode.turns && i.mode ≠ .acc

/-- The opcode only goes on behind its operand, whatever the registers and the memory are. -/
def Isa.Skips (model : Nat) (opcode : Byte) : Prop :=
  ∃ i, instructionAt model opcode = some i ∧ ∀ (r : Registers) (memory : Word → Byte),
    memory r.pc = opcode → Isa.step model (r, memory) =
      some ({ r with pc := r.pc + BitVec.ofNat 16 i.mode.length }, memory)

theorem idle_execute {i : Instruction} (h : i.idle = true) (model : Nat) (opcode : Byte)
    (r : Registers) (memory : Word → Byte) :
    i.execute model opcode r memory = some ({ r with pc := i.mode.next r.pc }, memory) := by
  obtain ⟨m, mode⟩ := i
  simp only [Instruction.idle, Bool.and_eq_true, Bool.or_eq_true, decide_eq_true_eq,
    Bool.not_eq_true'] at h
  obtain ⟨⟨hnop, hturns⟩, hacc⟩ := h
  rcases hnop with (((rfl | rfl) | rfl) | rfl) | rfl
  all_goals
    cases mode
    case rel | zpRel | ind | indX => cases hturns
    case acc => exact absurd rfl hacc
    all_goals rfl

/-- Registers and a memory to tell an instruction from a no-operation. -/
def Isa.sample (opcode p fill : Byte) : Isa.State :=
  (⟨0x0200, 0xF0, 0x13, 0x22, 0x33, p⟩, fun a => if a = 0x0200 then opcode else fill)

/-- What the instruction does to the sample is not nothing. -/
def Instruction.acts (i : Instruction) (model : Nat) (opcode p fill : Byte) : Bool :=
  let s := Isa.sample opcode p fill
  let r := { s.1 with pc := s.1.pc + 1 }
  (i.execute model opcode r s.2).all fun s' =>
    s'.1 ≠ { s.1 with pc := s.1.pc + BitVec.ofNat 16 i.mode.length } ||
      s'.2 (i.mode.effective r s.2) ≠ s.2 (i.mode.effective r s.2) ||
      s'.2 (stackAddress s.1.s) ≠ s.2 (stackAddress s.1.s)

theorem instructions_act : ∀ model < 5, instructionTables[model]?.all (fun table =>
    table.zipIdx.all fun e => e.1.idle || e.1.acts model (BitVec.ofNat 8 e.2) 0x3C 0x55 ||
      e.1.acts model (BitVec.ofNat 8 e.2) 0xC3 0xAA) = true := by
  decide +kernel

/-- What holds of all opcodes and instructions of a table holds of an opcode and its own. -/
theorem opcode_rule {P : Instruction → Byte → Bool} {model : Nat}
    (hall : instructionTables[model]?.all (fun table =>
      table.zipIdx.all fun e => P e.1 (BitVec.ofNat 8 e.2)) = true)
    {opcode : Byte} {i : Instruction} (hi : instructionAt model opcode = some i) :
    P i opcode = true := by
  obtain ⟨table, htable, hget⟩ := Option.bind_eq_some_iff.mp hi
  rw [htable, Option.all_some, List.all_eq_true] at hall
  have hrow := hall (i, opcode.toNat) (List.mk_mem_zipIdx_iff_getElem?.mpr hget)
  rwa [BitVec.ofNat_toNat, BitVec.setWidth_eq] at hrow

/-- An instruction that acts on a sample is not skipped. -/
theorem not_skips_of_acts {i : Instruction} {model : Nat} {opcode p fill : Byte}
    (h : i.acts model opcode p fill = true) (hi : instructionAt model opcode = some i)
    (hskips : Isa.Skips model opcode) : False := by
  obtain ⟨i', hi', hstep⟩ := hskips
  obtain rfl := Option.some.inj (hi.symm.trans hi')
  have hmemory : (Isa.sample opcode p fill).2 (Isa.sample opcode p fill).1.pc = opcode := rfl
  have hexecute := hstep (Isa.sample opcode p fill).1 (Isa.sample opcode p fill).2 hmemory
  rw [Isa.step] at hexecute
  simp only [hmemory, hi, Option.bind_some] at hexecute
  rw [Instruction.acts] at h
  simp only [hexecute, Option.all_some] at h
  simp at h

/-- **The opcodes that are skipped** are those of the no-operations. -/
theorem skips_iff {model : Nat} (hm : model < 5) {opcode : Byte} {i : Instruction}
    (hi : instructionAt model opcode = some i) : Isa.Skips model opcode ↔ i.idle = true := by
  constructor
  · intro hskips
    have hrule := opcode_rule (P := fun i opcode => i.idle || i.acts model opcode 0x3C 0x55 ||
      i.acts model opcode 0xC3 0xAA) (instructions_act model hm) hi
    simp only [Bool.or_eq_true] at hrule
    rcases hrule with (hidle | hacts) | hacts
    · exact hidle
    · exact (not_skips_of_acts hacts hi hskips).elim
    · exact (not_skips_of_acts hacts hi hskips).elim
  · intro hidle
    refine ⟨i, hi, fun r memory hmemory => ?_⟩
    rw [Isa.step]
    simp only [hmemory, hi, Option.bind_some]
    rw [idle_execute hidle, Mode.next_eq, Mode.length, BitVec.ofNat_add, ← BitVec.add_assoc]
    rfl

open Singlestep

/-- The opcodes of the no-operations in a table. -/
def idleOpcodes (table : List Instruction) : List Byte :=
  (table.zipIdx.filter fun e => e.1.idle).map fun e => BitVec.ofNat 8 e.2

theorem idleOpcodes_perm :
    (idleOpcodes wdcInstructions).isPerm common65c02NopOpcodes = true ∧
      (idleOpcodes stInstructions).isPerm (common65c02NopOpcodes ++ synertekNopOpcodes) = true := by
  decide +kernel

theorem mem_idleOpcodes {model : Nat} (hm : model < 5) {table : List Instruction}
    (htable : instructionTables[model]? = some table) (opcode : Byte) :
    opcode ∈ idleOpcodes table ↔ Isa.Skips model opcode := by
  obtain ⟨i, _, _, hi, _⟩ := slotAt_shape hm opcode
  have hget : table[opcode.toNat]? = some i := by
    rw [instructionAt, htable] at hi
    exact hi
  have hlength : table.length = 256 := by
    have htables := instruction_tables model hm
    rw [htable] at htables
    exact Option.some.inj htables
  rw [skips_iff hm hi]
  simp only [idleOpcodes, List.mem_map, List.mem_filter]
  constructor
  · rintro ⟨⟨i', n⟩, ⟨hmem, hidle⟩, hopcode⟩
    have hn := List.mk_mem_zipIdx_iff_getElem?.mp hmem
    have hlt := (List.getElem?_eq_some_iff.mp hn).1
    have htoNat : opcode.toNat = n := by
      rw [← hopcode, BitVec.toNat_ofNat]
      exact Nat.mod_eq_of_lt (by omega)
    rw [htoNat, hn, Option.some.injEq] at hget
    rwa [← hget]
  · intro hidle
    refine ⟨(i, opcode.toNat), ⟨List.mk_mem_zipIdx_iff_getElem?.mpr hget, hidle⟩, ?_⟩
    rw [BitVec.ofNat_toNat, BitVec.setWidth_eq]

/-- **The NOP opcodes of the harness** are the opcodes that the core skips. -/
theorem nop_opcodes_skip {model : SinglestepModel} (hmodel : is65c02Model model = true)
    (opcode : Byte) : isDefined65c02NopOpcode model opcode = true ↔
      Isa.Skips model.cpuModel.toNat opcode := by
  obtain ⟨hwdc, hst⟩ := idleOpcodes_perm
  have hcommon : opcode ∈ idleOpcodes wdcInstructions ↔ isCommon65c02NopOpcode opcode = true := by
    rw [(List.isPerm_iff.mp hwdc).mem_iff, isCommon65c02NopOpcode, List.contains_iff_mem]
  cases model
  case nmos6502 => cases hmodel
  case wdc65c02 =>
    rw [← @mem_idleOpcodes _ (by decide) wdcInstructions rfl, hcommon,
      isDefined65c02NopOpcode]
    simp
  case rockwell65c02 =>
    rw [← @mem_idleOpcodes _ (by decide) wdcInstructions rfl, hcommon,
      isDefined65c02NopOpcode]
    simp
  case synertek65c02 =>
    rw [← @mem_idleOpcodes _ (by decide) stInstructions rfl,
      (List.isPerm_iff.mp hst).mem_iff, List.mem_append, isDefined65c02NopOpcode,
      isCommon65c02NopOpcode]
    simp

/-! ### The summary -/

namespace Singlestep

/-- `singlestep_level_summary`. -/
structure LevelSummary where
  supported : Bool
  opcodesTotal : ℕ
  opcodesFailed : ℕ
  legalTotal : ℕ
  legalFailed : ℕ
  illegalTotal : ℕ
  illegalFailed : ℕ
  functionalTotal : ℕ
  functionalFailed : ℕ
  nopTotal : ℕ
  nopFailed : ℕ

def recordLevel (summary : LevelSummary) (model : SinglestepModel) (opcode : OpcodeResult)
    (level : LevelResult) : LevelSummary :=
  if level.supported = false ∨ opcode.casesRun = 0 then summary
  else
    let failed := if level.failed then 1 else 0
    let summary := { summary with
      supported := true
      opcodesTotal := summary.opcodesTotal + 1
      opcodesFailed := summary.opcodesFailed + failed }
    if is65c02Model model then
      if isDefined65c02NopOpcode model opcode.opcode then
        { summary with
          nopTotal := summary.nopTotal + 1, nopFailed := summary.nopFailed + failed }
      else
        { summary with
          functionalTotal := summary.functionalTotal + 1
          functionalFailed := summary.functionalFailed + failed }
    else if isLegalNmosOpcode opcode.opcode then
      { summary with
        legalTotal := summary.legalTotal + 1, legalFailed := summary.legalFailed + failed }
    else
      { summary with
        illegalTotal := summary.illegalTotal + 1
        illegalFailed := summary.illegalFailed + failed }

/-- `singlestep_summary`. -/
structure Summary where
  instruction : LevelSummary
  cycleCount : LevelSummary
  busTrace : LevelSummary

/-- `summarize_singlestep_result`. -/
def summarizeSinglestepResult (corpusModel : SinglestepModel) (opcodes : List OpcodeResult) :
    Summary :=
  let level : LevelSummary := ⟨false, 0, 0, 0, 0, 0, 0, 0, 0, 0, 0⟩
  opcodes.foldl (fun summary opcode =>
    { instruction := recordLevel summary.instruction corpusModel opcode opcode.instruction
      cycleCount := recordLevel summary.cycleCount corpusModel opcode opcode.cycleCount
      busTrace := recordLevel summary.busTrace corpusModel opcode opcode.busTrace })
    ⟨level, level, level⟩

/-- The opcodes of a group, among those that have cases and among those that fail. -/
def LevelSummary.count (model : SinglestepModel) (ran failed : Byte → Bool)
    (opcodes : List Byte) : LevelSummary where
  supported := opcodes.any ran
  opcodesTotal := opcodes.countP ran
  opcodesFailed := opcodes.countP fun opcode => ran opcode && failed opcode
  legalTotal := opcodes.countP fun opcode =>
    ran opcode && !is65c02Model model && official opcode
  legalFailed := opcodes.countP fun opcode =>
    ran opcode && failed opcode && !is65c02Model model && official opcode
  illegalTotal := opcodes.countP fun opcode =>
    ran opcode && !is65c02Model model && !official opcode
  illegalFailed := opcodes.countP fun opcode =>
    ran opcode && failed opcode && !is65c02Model model && !official opcode
  functionalTotal := opcodes.countP fun opcode =>
    ran opcode && is65c02Model model && !isDefined65c02NopOpcode model opcode
  functionalFailed := opcodes.countP fun opcode =>
    ran opcode && failed opcode && is65c02Model model && !isDefined65c02NopOpcode model opcode
  nopTotal := opcodes.countP fun opcode =>
    ran opcode && is65c02Model model && isDefined65c02NopOpcode model opcode
  nopFailed := opcodes.countP fun opcode =>
    ran opcode && failed opcode && is65c02Model model && isDefined65c02NopOpcode model opcode

/-- **One opcode more** in the count of a level. -/
theorem recordLevel_count {model : SinglestepModel} {ran failed : Byte → Bool}
    {opcodes : List Byte} {result : OpcodeResult} {level : LevelResult}
    (hsupported : level.supported = true) (hran : ran result.opcode = decide (result.casesRun ≠ 0))
    (hfailed : failed result.opcode = level.failed) :
    recordLevel (.count model ran failed opcodes) model result level =
      .count model ran failed (opcodes ++ [result.opcode]) := by
  have hlegal := (nmosOpcodeMetadata_describes result.opcode).2.1
  rw [recordLevel, hsupported, LevelSummary.count, LevelSummary.count]
  simp only [List.any_append, List.countP_append, List.any_cons, List.any_nil, List.countP_cons,
    List.countP_nil, hran, hfailed, hlegal]
  by_cases hzero : result.casesRun = 0
  · simp [hzero]
  · cases level.failed <;> cases is65c02Model model <;>
      cases isDefined65c02NopOpcode model result.opcode <;> cases official result.opcode <;>
        simp [hzero]

theorem countP_split {α : Type} (p q : α → Bool) (l : List α) :
    l.countP (fun a => p a && q a) + l.countP (fun a => p a && !q a) = l.countP p := by
  induction l with
  | nil => rfl
  | cons a l ih =>
    simp only [List.countP_cons]
    cases p a <;> cases q a <;>
      simp only [Bool.and_true, Bool.and_false, Bool.not_true, Bool.not_false, if_true, if_false,
        Bool.false_eq_true] <;> omega

/-- The groups part the opcodes. -/
theorem LevelSummary.count_total (model : SinglestepModel) (ran failed : Byte → Bool)
    (opcodes : List Byte) :
    (count model ran failed opcodes).legalTotal + (count model ran failed opcodes).illegalTotal +
      (count model ran failed opcodes).functionalTotal +
        (count model ran failed opcodes).nopTotal =
          (count model ran failed opcodes).opcodesTotal := by
  have hlegal := countP_split ran official opcodes
  have hnop := countP_split ran (isDefined65c02NopOpcode model) opcodes
  simp only [count]
  cases is65c02Model model with
  | false => simpa using hlegal
  | true => simpa [add_comm] using hnop

def allOpcodes : List Byte := (List.range 256).map (BitVec.ofNat 8)

theorem mem_allOpcodes (opcode : Byte) : opcode ∈ allOpcodes := by
  refine List.mem_map.mpr ⟨opcode.toNat, List.mem_range.mpr opcode.isLt, ?_⟩
  rw [BitVec.ofNat_toNat, BitVec.setWidth_eq]

/-- The harness stops at no official opcode of the NMOS model. -/
theorem official_not_stops {opcode : Byte} (h : official opcode = true) :
    stops modelNmos opcode = false := by
  have hall : ∀ opcode ∈ kilOpcodes, official opcode = false := by decide
  rw [stops, isWdcStopOpcode, Bool.or_eq_false_iff]
  refine ⟨?_, rfl⟩
  rw [Bool.and_eq_false_iff, isNmosKilOpcode]
  refine .inr (Bool.eq_false_iff.mpr fun hmem => ?_)
  rw [hall opcode (List.contains_iff_mem.mp hmem)] at h
  cases h

/-- On a 65C02 model it stops at no-operations only. -/
theorem not_stops_of_not_nop {model : SinglestepModel} (hmodel : is65c02Model model = true)
    {opcode : Byte} (h : isDefined65c02NopOpcode model opcode = false) :
    stops model.cpuModel opcode = false := by
  by_contra hstops
  rw [Bool.not_eq_false, stops, isWdcStopOpcode] at hstops
  have hnmos : decide (model.cpuModel = modelNmos) = false := by
    cases model
    case nmos6502 => cases hmodel
    all_goals decide
  simp only [hnmos, Bool.false_and, Bool.false_or, Bool.and_eq_true, Bool.or_eq_true,
    decide_eq_true_eq] at hstops
  have hnop : isCommon65c02NopOpcode opcode = true := by
    rcases hstops.2 with rfl | rfl <;> decide
  rw [isDefined65c02NopOpcode, if_pos hnop] at h
  cases h

/-- An opcode fails at a level if one of its cases does. -/
def fails (cpuModel : Byte) (corpus : Byte → List Case) (ok : CaseResult → Bool)
    (opcode : Byte) : Bool :=
  (corpus opcode).any fun test => !ok (verdictAt cpuModel opcode test)

/-- The summary of a level after some opcodes. -/
def LevelSummary.ofCorpus (model : SinglestepModel) (corpus : Byte → List Case)
    (opcodes : List Byte) (ok : CaseResult → Bool) : LevelSummary :=
  .count model (fun opcode => decide ((corpus opcode).length ≠ 0))
    (fails model.cpuModel corpus ok) opcodes

def Summary.ofCorpus (model : SinglestepModel) (corpus : Byte → List Case)
    (opcodes : List Byte) : Summary where
  instruction := .ofCorpus model corpus opcodes CaseResult.instructionOk
  cycleCount := .ofCorpus model corpus opcodes CaseResult.cycleCountOk
  busTrace := .ofCorpus model corpus opcodes CaseResult.busTraceOk

/-- **The loop of the summary** over the results of a run. -/
theorem summarize_tally (model : SinglestepModel) (corpus : Byte → List Case) :
    summarizeSinglestepResult model (allOpcodes.map fun opcode => .tally opcode
      (corpus opcode).length (verdictAt model.cpuModel opcode) (corpus opcode)) =
      .ofCorpus model corpus allOpcodes := by
  have hloop : ∀ rest done : List Byte, (rest.map fun opcode => OpcodeResult.tally opcode
      (corpus opcode).length (verdictAt model.cpuModel opcode) (corpus opcode)).foldl
        (fun (summary : Summary) opcode =>
          { instruction := recordLevel summary.instruction model opcode opcode.instruction
            cycleCount := recordLevel summary.cycleCount model opcode opcode.cycleCount
            busTrace := recordLevel summary.busTrace model opcode opcode.busTrace })
        (.ofCorpus model corpus done) = .ofCorpus model corpus (done ++ rest) := by
    intro rest
    induction rest with
    | nil => exact fun done => by rw [List.append_nil]; rfl
    | cons opcode rest ih =>
      intro done
      have hstep : ∀ ok : CaseResult → Bool, recordLevel (.ofCorpus model corpus done ok) model
          (.tally opcode (corpus opcode).length (verdictAt model.cpuModel opcode)
            (corpus opcode))
          (.tally (fun test => ok (verdictAt model.cpuModel opcode test)) (corpus opcode)) =
            .ofCorpus model corpus (done ++ [opcode]) ok :=
        fun ok => recordLevel_count rfl rfl rfl
      rw [List.map_cons, List.foldl_cons]
      refine Eq.trans ?_ ((ih (done ++ [opcode])).trans (by rw [List.append_assoc]; rfl))
      congr 1
      exact congr (congr (congrArg Summary.mk (hstep _)) (hstep _)) (hstep _)
  exact hloop allOpcodes []

/-- **A group with no failed opcode** has no failed case. -/
theorem ok_of_count {cpuModel : Byte} {corpus : Byte → List Case} {ok : CaseResult → Bool}
    {group : Byte → Bool} (hnone : allOpcodes.countP (fun opcode =>
      decide ((corpus opcode).length ≠ 0) && fails cpuModel corpus ok opcode && group opcode) = 0)
    {opcode : Byte} (hgroup : group opcode = true) (hstops : stops cpuModel opcode = false)
    {test : Case} (htest : test ∈ corpus opcode) : ok (test.verdict cpuModel) = true := by
  have hopcode := List.countP_eq_zero.mp hnone opcode (mem_allOpcodes opcode)
  have hcases : decide ((corpus opcode).length ≠ 0) = true :=
    decide_eq_true (List.length_pos_of_mem htest).ne'
  rw [hcases, hgroup, Bool.true_and, Bool.and_true, fails, List.any_eq_true] at hopcode
  by_contra hbad
  refine hopcode ⟨test, htest, ?_⟩
  rw [verdictAt, hstops, if_neg Bool.false_ne_true, Bool.eq_false_iff.mpr hbad]
  rfl

end Singlestep

/-- **The summary of a run.**  On every corpus the summary of a run counts, at each level, the
opcodes with cases and those of them with a case that fails, in groups that part the opcodes: the
official opcodes and the others on the NMOS model, and those that the core does not skip and those
that it skips on the 65C02 models.  The no-operations of the harness are exactly the opcodes that
from every state only go on behind the operand.  If no official opcode failed at a level, or no
opcode that is not skipped, then at that level every record of every such opcode agrees with the
interpreter and the bus. -/
theorem singlestep_summary (model : SinglestepModel) (corpus : Byte → List Case) :
    ∃ results, runSinglestep model.cpuModel corpus = some results ∧
      summarizeSinglestepResult model results = .ofCorpus model corpus allOpcodes ∧
      (is65c02Model model = true → ∀ opcode, isDefined65c02NopOpcode model opcode = true ↔
        Isa.Skips model.cpuModel.toNat opcode) ∧
      ∀ (ok : CaseResult → Bool) (level : LevelSummary),
        level = .ofCorpus model corpus allOpcodes ok →
        level.legalTotal + level.illegalTotal + level.functionalTotal + level.nopTotal =
          level.opcodesTotal ∧
        level.legalFailed + level.illegalFailed + level.functionalFailed + level.nopFailed =
          level.opcodesFailed ∧
        (is65c02Model model = false → level.legalFailed = 0 → ∀ opcode test,
          official opcode = true → test ∈ corpus opcode →
            ok (test.verdict model.cpuModel) = true) ∧
        (is65c02Model model = true → level.functionalFailed = 0 → ∀ opcode test,
          ¬Isa.Skips model.cpuModel.toNat opcode → test ∈ corpus opcode →
            ok (test.verdict model.cpuModel) = true) := by
  have hm : model.cpuModel.toNat < 5 := by cases model <;> decide
  refine ⟨_, runSinglestep_tally hm corpus, summarize_tally model corpus, nop_opcodes_skip, ?_⟩
  rintro ok level rfl
  refine ⟨LevelSummary.count_total _ _ _ _, ?_, ?_, ?_⟩
  · exact LevelSummary.count_total model (fun opcode => _ && _) (fun _ => true) allOpcodes
  · intro hmodel hnone opcode test hofficial htest
    have hstops : stops model.cpuModel opcode = false := by
      cases model
      case nmos6502 => exact official_not_stops hofficial
      all_goals cases hmodel
    refine @ok_of_count _ _ _ official ?_ _ hofficial hstops _ htest
    refine Eq.trans ?_ hnone
    simp [LevelSummary.ofCorpus, LevelSummary.count, hmodel]
  · intro hmodel hnone opcode test hskips htest
    have hnop : isDefined65c02NopOpcode model opcode = false :=
      Bool.eq_false_iff.mpr fun h => hskips ((nop_opcodes_skip hmodel opcode).mp h)
    refine @ok_of_count _ _ _ (fun opcode => !isDefined65c02NopOpcode model opcode) ?_ _ ?_
      (not_stops_of_not_nop hmodel hnop) _ htest
    · refine Eq.trans ?_ hnone
      simp [LevelSummary.ofCorpus, LevelSummary.count, hmodel]
    · rw [hnop]
      rfl

end Qe6502
