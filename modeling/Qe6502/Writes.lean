import Qe6502.Operates
import Qe6502.Jam
import Qe6502.Recognition

/-!
# Writes

What an instruction writes between two opcode fetches depends on its mnemonic: `write_discipline`.
-/

namespace Qe6502

open StepMachine (trace first)

/-! ### Writes of beats -/

/-- The address and the byte of a write request. -/
def Tick.written (t : Tick) : Option (Word × Byte) :=
  if t.status &&& statusWriting ≠ 0 then some (t.address, t.bus) else none

/-- The writes of beats, in their order. -/
def writes (beats : List Beat) : List (Word × Byte) := beats.filterMap fun b => b.tick.written

@[simp] theorem read_written (a : Word) : (read a).written = none :=
  if_neg (by decide : ¬(0 : Byte) &&& statusWriting ≠ 0)

@[simp] theorem write_written (a : Word) (b : Byte) : (write a b).written = some (a, b) :=
  if_pos (by decide : statusWriting &&& statusWriting ≠ 0)

@[simp] theorem fetchAt_written (pc : Word) : (fetchAt pc).written = none :=
  if_neg (by decide : ¬statusOpcodeFetch &&& statusWriting ≠ 0)

theorem writes_append (xs ys : List Beat) : writes (xs ++ ys) = writes xs ++ writes ys :=
  List.filterMap_append

theorem writes_cons (b : Beat) (beats : List Beat) :
    writes (b :: beats) = b.tick.written.toList ++ writes beats := by
  cases h : b.tick.written <;> simp [writes, h]

theorem writes_ticks (beats : List Beat) :
    writes beats = (beats.map Beat.tick).filterMap Tick.written := by
  rw [List.filterMap_map]
  rfl

theorem reads_written (addresses : List Word) :
    (addresses.map read).filterMap Tick.written = [] := by
  rw [List.filterMap_eq_nil_iff]
  intro t ht
  obtain ⟨a, _, rfl⟩ := List.mem_map.mp ht
  exact read_written a

theorem Course.writes_beats (c : Course) : writes c.beats =
    c.requests.filterMap Tick.written ++ c.last.written.toList := by
  rw [writes_ticks, c.ticks, List.filterMap_append, List.filterMap_append]
  have hnext : [fetchAt c.next].filterMap Tick.written = [] := by simp
  have hlast : [c.last].filterMap Tick.written = c.last.written.toList := by
    cases h : c.last.written <;> simp [h]
  rw [hnext, hlast, List.append_nil]

/-! ### What an instruction writes -/

/-- A word is pushed with its high byte first. -/
def pushedWord (s : Byte) (pc : Word) : List (Word × Byte) :=
  [(stackAddress s, u16GetByte pc 1), (stackAddress (s - 1), u16GetByte pc 0)]

/-- An entry pushes the program counter and the status. -/
def pushedEntry (r : Registers) (pc : Word) (brk : Byte) : List (Word × Byte) :=
  pushedWord r.s pc ++ [(stackAddress (r.s - 1 - 1), stackStatus r.p brk)]

namespace Instruction

variable (model : Nat) (i : Instruction) (opcode : Byte) (r : Registers) (bus : ℕ → Byte)

/-- The byte that answers the read at the effective address. -/
def operand : Byte := bus ((i.mode.path r bus (isCmos model) (i.fixes model r bus)).length + 1)

/-- The writes of an instruction, with the registers after the opcode was read. -/
def writes : List (Word × Byte) :=
  match i.mnemonic with
  | .sta | .stx | .sty | .stz | .sax => [(i.mode.address r bus, i.mnemonic.stored r)]
  | .ahx | .shx | .shy | .tas =>
    let value := i.mnemonic.masked r &&& (u16GetByte (i.mode.base r bus) 1 + 1)
    [(i.mode.unstable r bus value, value)]
  | .pha | .php | .phx | .phy => [(stackAddress r.s, i.mnemonic.pushed r)]
  | .jsr => pushedWord r.s (r.pc + 1)
  | .brk => pushedEntry r (r.pc + 1) flagB
  | m =>
    if m.access = .modify && i.mode ≠ .acc then
      let address := i.mode.address r bus
      let operand := i.operand model r bus
      let result := m.result opcode r operand
      if isCmos model then [(address, result)] else [(address, operand), (address, result)]
    else []

end Instruction

theorem silent_writes {i : Instruction} (h : i.silent = true) (model : Nat) (opcode : Byte)
    (r : Registers) (bus : ℕ → Byte) : i.writes model opcode r bus = [] := by
  obtain ⟨m, mode⟩ := i
  cases m <;> first
    | rfl
    | exact absurd h Bool.false_ne_true
    | exact if_neg (by simpa [Instruction.silent, Mnemonic.access] using h)

/-! ### Shapes -/

/-- The slot writes, and ends at a fetch. -/
def Slot.Issues (entries : Slot) (cpu : Cpu) (bus : ℕ → Byte) (ws : List (Word × Byte)) : Prop :=
  ∃ beats r, entries.Yields cpu bus beats r ∧ Ends beats ∧ writes beats = ws

variable {entries : Slot} {cpu : Cpu} {bus : ℕ → Byte} {ws : List (Word × Byte)}

theorem Slot.Issues.of_course {c : Course} {r : Registers}
    (h : entries.Yields cpu bus c.beats r) (hplain : c.plain = true)
    (hws : c.requests.filterMap Tick.written ++ c.last.written.toList = ws) :
    entries.Issues cpu bus ws :=
  ⟨c.beats, r, h, c.ends hplain, c.writes_beats.trans hws⟩

section issues

variable {model : Nat} {i : Instruction}

theorem source_writes {source : Source} (h : i.mnemonic.source = some source) (opcode : Byte)
    (cpu : Cpu) (bus : ℕ → Byte) : i.writes model opcode cpu.registers bus =
      [(i.mode.address cpu.registers bus, source.value cpu)] := by
  rw [source_stored h]
  obtain ⟨m, mode⟩ := i
  cases m <;> cases h <;> rfl

theorem unstable_writes {op : Unstable}
    (h : i.mnemonic.unstable.map Unstable.handler = some op.handler) (opcode : Byte)
    (r : Registers) (bus : ℕ → Byte) : i.writes model opcode r bus =
      [(i.mode.unstable r bus (unstableValue op i.mode r bus), unstableValue op i.mode r bus)] := by
  rw [unstableValue, Unstable.value, unstable_masked h]
  obtain ⟨m, mode⟩ := i
  obtain ⟨handler, hop⟩ := op
  cases m <;> cases h <;> rfl

theorem push_writes {op : Push} (h : i.mnemonic.push = some op.handler) (opcode : Byte)
    (r : Registers) (bus : ℕ → Byte) :
    i.writes model opcode r bus = [(stackAddress r.s, op.value r)] := by
  rw [push_pushed h]
  obtain ⟨m, mode⟩ := i
  obtain ⟨handler, hop⟩ := op
  cases m <;> cases h <;> rfl

theorem modify_writes {op : Modify} {nes : Bool}
    (h : (i.mnemonic.modify nes).map Modify.handler = some op.handler) (hmode : i.mode ≠ .acc)
    (cpu : Cpu) (bus : ℕ → Byte) : i.writes model (currentOpcodeSlot cpu) cpu.registers bus =
      (if isCmos model then []
        else [(i.mode.address cpu.registers bus, i.operand model cpu.registers bus)]) ++
        [(i.mode.address cpu.registers bus,
          modified op (isCmos model) (i.fixes model cpu.registers bus) i.mode cpu bus)] := by
  rw [modified, modify_result h]
  obtain ⟨m, mode⟩ := i
  obtain ⟨handler, hop⟩ := op
  have hacc : decide (mode ≠ .acc) = true := decide_eq_true hmode
  cases m <;> cases h <;>
    · dsimp only [Instruction.writes, Mnemonic.access, Instruction.operand]
      rw [hacc]
      cases isCmos model <;> rfl

/-- The byte of an unstable store is known before its operand has been passed. -/
theorem unstableValue_next {op : Unstable} {mode : Mode}
    (hslot : unstableSlot op.handler mode = some entries) (r : Registers) (pc : Word)
    (bus : ℕ → Byte) : unstableValue op mode { r with pc := pc } bus =
      unstableValue op mode r bus := by
  obtain ⟨handler, hop⟩ := op
  cases mode <;> first
    | cases hslot; done
    | cases handler <;> cases hop <;> rfl

theorem Turn.writes_beats (pc dummy : Word) (offset p : Byte) (turn : Turn) :
    writes (turn.beats pc dummy offset p) = [] := by
  cases turn <;> simp [writes, Turn.beats, sampled, quiet]

theorem modifyCourse_writes (cmos fixes : Bool) (mode : Mode) (value : Byte) (cpu : Cpu)
    (bus : ℕ → Byte) :
    (modifyCourse cmos fixes mode value cpu bus).requests.filterMap Tick.written ++
        (modifyCourse cmos fixes mode value cpu bus).last.written.toList =
      (if cmos then []
        else [(mode.address cpu.registers bus, bus (readTick cmos fixes mode cpu bus))]) ++
        [(mode.address cpu.registers bus, value)] := by
  dsimp only [modifyCourse]
  rw [List.filterMap_append, reads_written]
  cases cmos <;> simp

/-- **The writes of a shape.** -/
theorem Shape.issues {shape : Shape} (hoperates : shape.operates model i = true)
    (hslot : shape.slot = some entries) (hjam : i.mnemonic ≠ .kil) (hbrk : i.mnemonic ≠ .brk)
    (cpu : Cpu) (bus : ℕ → Byte) : entries.Issues cpu bus
      (i.writes model (currentOpcodeSlot cpu) cpu.registers bus) := by
  cases shape with
  | read cmos mode op =>
    simp only [operates, Bool.and_eq_true] at hoperates
    rw [silent_writes hoperates.1.2]
    refine .of_course (read_yields cpu bus op hslot) (readCourse_plain _ _ _ _ _) ?_
    rw [readCourse, reads_written]
    simp
  | readDecimal mode op =>
    simp only [operates, Bool.and_eq_true] at hoperates
    rw [silent_writes hoperates.1.2]
    cases hd : decimalClear cpu with
    | true =>
      refine .of_course (sum_yields_clear cpu bus op hslot hd) (readCourse_plain _ _ _ _ _) ?_
      rw [readCourse, reads_written]
      simp
    | false =>
      obtain ⟨dummy, hyields⟩ := sum_yields_set cpu bus op hslot hd
      refine .of_course hyields (decimalCourse_plain _ _ _ _ _) ?_
      rw [decimalCourse, List.filterMap_append, reads_written]
      simp
  | write cmos mode source =>
    simp only [operates, Shape.fits, Bool.and_eq_true, decide_eq_true_eq] at hoperates
    obtain ⟨⟨⟨⟨⟨⟨rfl, _⟩, _⟩, _⟩, _⟩, _⟩, hsource⟩ := hoperates
    rw [source_writes hsource]
    refine .of_course (write_yields source hslot cpu bus) (writeCourse_plain _ _ _ _ _) ?_
    rw [writeCourse, reads_written]
    simp
  | unstable mode op =>
    simp only [operates, Shape.fits, Bool.and_eq_true, decide_eq_true_eq] at hoperates
    obtain ⟨⟨⟨⟨⟨rfl, _⟩, _⟩, _⟩, _⟩, hop⟩ := hoperates
    rw [unstable_writes hop]
    refine .of_course (unstable_yields op hslot cpu bus) (unstableCourse_plain _ _ _ _) ?_
    rw [unstableCourse, reads_written, unstableValue_next hslot]
    simp
  | modify cmos mode op =>
    simp only [operates, Shape.fits, Bool.and_eq_true, decide_eq_true_eq,
      Bool.not_eq_true'] at hoperates
    obtain ⟨⟨⟨⟨⟨⟨⟨rfl, rfl⟩, hmodify⟩, _⟩, hwaits⟩, _⟩, hacc⟩, hop⟩ := hoperates
    have hnot : i.mnemonic.access ≠ .read := by rw [hmodify]; exact Access.noConfusion
    refine .of_course (modify_yields op hslot cpu bus) (modifyCourse_plain _ _ _ _ _ _) ?_
    rw [modifyCourse_writes, modify_writes hop hacc, Instruction.operand,
      fixes_of_write hwaits hnot]
    rfl
  | modifyShort op =>
    simp only [operates, Shape.fits, Bool.and_eq_true, decide_eq_true_eq,
      Bool.not_eq_true'] at hoperates
    obtain ⟨⟨⟨⟨⟨⟨⟨hmode, hcmos⟩, hmodify⟩, _⟩, hwaits⟩, _⟩, hacc⟩, hop⟩ := hoperates
    cases hslot
    refine .of_course (modifyShort_yields op cpu bus) (modifyCourse_plain _ _ _ _ _ _) ?_
    rw [modifyCourse_writes, modify_writes hop hacc, Instruction.operand, fixes_of_short hwaits,
      hmode, hcmos]
    rfl
  | implied op =>
    cases hslot
    rw [silent_writes hoperates]
    exact .of_course (implied_yields cpu bus op) (by simp [Course.plain]) (by simp)
  | push op =>
    simp only [operates, decide_eq_true_eq] at hoperates
    cases hslot
    rw [push_writes hoperates]
    exact .of_course (push_yields cpu bus op) (by simp [Course.plain]) (by simp [Cpu.registers])
  | pull op =>
    cases hslot
    rw [silent_writes hoperates]
    exact .of_course (pull_yields cpu bus op) (by simp [Course.plain]) (by simp)
  | nopFetch =>
    cases hslot
    rw [silent_writes hoperates]
    have hends : Ends ([] ++ [quiet (fetchAt cpu.pc)]) := Ends.snoc (by simp) cpu.pc
    exact ⟨_, _, nopFetch_yields cpu bus, hends, by simp [writes, quiet]⟩
  | nopAbs =>
    cases hslot
    rw [silent_writes hoperates]
    exact .of_course (nopAbs_yields cpu bus) (by simp [Course.plain]) (by simp)
  | stNopAbs =>
    cases hslot
    rw [silent_writes hoperates]
    exact .of_course (stNopAbs_yields cpu bus) (by simp [Course.plain]) (by simp)
  | stNopAbsHigh =>
    cases hslot
    rw [silent_writes hoperates]
    exact .of_course (stNopAbsHigh_yields cpu bus) (by simp [Course.plain]) (by simp)
  | branch op =>
    cases hslot
    rw [silent_writes hoperates]
    obtain ⟨dummy, hyields⟩ := branch_yields cpu bus op
    have hends := @Turn.beats_ends [] (by simp) cpu.pc dummy (bus 1) cpu.p
    exact ⟨_, _, hyields, hends _, Turn.writes_beats _ _ _ _ _⟩
  | branchBit =>
    cases hslot
    rw [silent_writes hoperates]
    obtain ⟨dummy, hyields⟩ := branchBit_yields cpu bus rfl
    have hends := @Turn.beats_ends [Qe6502.read cpu.pc, Qe6502.read (zeroPage (bus 1)),
      Qe6502.read (zeroPage (bus 1))] (by simp) (cpu.pc + 1) dummy (bus 4) cpu.p
    refine ⟨_, _, hyields, hends _, ?_⟩
    rw [writes_append, Turn.writes_beats]
    simp [writes, quiet]
  | jump =>
    cases hslot
    rw [silent_writes hoperates]
    exact .of_course (jump_yields cpu bus) (by simp [Course.plain]) (by simp)
  | jumpInd =>
    cases hslot
    rw [silent_writes hoperates]
    exact .of_course (jumpInd_yields cpu bus) (by simp [Course.plain]) (by simp)
  | jumpIndCmos =>
    cases hslot
    rw [silent_writes hoperates]
    exact .of_course (jumpIndCmos_yields cpu bus) (by simp [Course.plain]) (by simp)
  | jumpIndX =>
    cases hslot
    rw [silent_writes hoperates]
    exact .of_course (jumpIndX_yields cpu bus) (by simp [Course.plain]) (by simp)
  | call =>
    simp only [operates, decide_eq_true_eq] at hoperates
    cases hslot
    have hwrites : i.writes model (currentOpcodeSlot cpu) cpu.registers bus =
        pushedWord cpu.s (cpu.pc + 1) := by
      rw [Instruction.writes, hoperates]
      rfl
    rw [hwrites]
    exact .of_course (call_yields cpu bus) (by simp [Course.plain]) (by simp [pushedWord])
  | ret =>
    cases hslot
    rw [silent_writes hoperates]
    exact .of_course (ret_yields cpu bus) (by simp [Course.plain]) (by simp)
  | rti =>
    cases hslot
    rw [silent_writes hoperates]
    exact .of_course (rti_yields cpu bus) (by simp [Course.plain]) (by simp)
  | brk | brkCmos =>
    simp only [operates, Bool.and_eq_true, decide_eq_true_eq] at hoperates
    exact absurd hoperates.2 hbrk
  | jam => exact absurd (of_decide_eq_true hoperates) hjam

end issues

/-! ### Interrupt sequences

BRK, NMI and IRQ push in the same cycles.  The push of the status may enter the slot of another
sequence, which goes on with its vector. -/

/-- The pushes of the sequence of a slot. -/
def interruptWrites (slot : Nat) (r : Registers) : List (Word × Byte) :=
  if slot = 0 then pushedEntry r (r.pc + 1) flagB else pushedEntry r r.pc 0

/-- The slot of a sequence with a first handler and with B as it is pushed. -/
def Slot.isInterrupt (first : Handler) (flag : Byte) : Slot → Bool
  | .handler start :: .handler .mcStackPushPcHigh :: .handler .mcStackPushPcLow :: .handler push ::
      .handler low :: .handler high :: .handler last :: _ =>
    start = first && push.statusFlag = some flag && low.vectorLow.isSome &&
      high.vectorHigh.isSome && last.latchesPch
  | _ => false

theorem interrupt_slots : ∀ model < 5,
    (slotAt model 0).any (Slot.isInterrupt .mcReadPcInc flagB) = true ∧
      (slotAt model 262).any (Slot.isInterrupt .mcReadPc 0) = true ∧
        (slotAt model 263).any (Slot.isInterrupt .mcReadPc 0) = true := by
  decide

/-- The handlers of a sequence, apart from its first. -/
structure Slot.Interrupts (entries : Slot) (first : Handler) (flag : Byte)
    (push low high last : Handler) (rest : Slot) : Prop where
  handlers : entries = .handler first :: .handler .mcStackPushPcHigh ::
    .handler .mcStackPushPcLow :: .handler push :: .handler low :: .handler high ::
      .handler last :: rest
  status : push.statusFlag = some flag
  vectorLow : low.vectorLow.isSome = true
  vectorHigh : high.vectorHigh.isSome = true
  latches : last.latchesPch = true

theorem Slot.interrupts_of_any {o : Option Slot} {first : Handler} {flag : Byte}
    (h : o.any (Slot.isInterrupt first flag) = true) : ∃ entries push low high last rest,
      o = some entries ∧ entries.Interrupts first flag push low high last rest := by
  obtain ⟨entries, rfl, hentries⟩ := (Option.any_eq_true _ _).mp h
  unfold Slot.isInterrupt at hentries
  split at hentries
  · simp only [Bool.and_eq_true, decide_eq_true_eq] at hentries
    obtain ⟨⟨⟨⟨rfl, hstatus⟩, hlow⟩, hhigh⟩, hlast⟩ := hentries
    exact ⟨_, _, _, _, _, _, rfl, rfl, hstatus, hlow, hhigh, hlast⟩
  · cases hentries

theorem interrupt_slot {model : Nat} (hm : model < 5) {slot : Nat}
    (hslot : slot = 0 ∨ slot = 262 ∨ slot = 263) : ∃ entries push low high last rest,
      slotAt model slot = some entries ∧
        entries.Interrupts (if slot = 0 then .mcReadPcInc else .mcReadPc)
          (if slot = 0 then flagB else 0) push low high last rest := by
  obtain ⟨hbrk, hnmi, hirq⟩ := interrupt_slots model hm
  rcases hslot with rfl | rfl | rfl
  · exact Slot.interrupts_of_any hbrk
  · exact Slot.interrupts_of_any hnmi
  · exact Slot.interrupts_of_any hirq

theorem status_run {h : Handler} {brk : Byte} (hstatus : h.statusFlag = some brk) (cpu : Cpu)
    (bus : Byte) :
    (h.run cpu bus).2 = write (stackAddress cpu.s) (stackStatus cpu.p brk) := by
  have hs : cpu.s - 1 + 1 = cpu.s := BitVec.sub_add_cancel cpu.s 1
  cases h <;> cases hstatus
  case mcStackPushStatusB =>
    have htick := congrArg (fun s => write (stackAddress s) (stackStatus cpu.p flagB)) hs
    rw [Handler.run, mcStackPushStatusB_split]
    dsimp only
    split_ifs <;> exact htick
  case mcIrqC3PushP =>
    have htick := congrArg (fun s => write (stackAddress s) (stackStatus cpu.p 0)) hs
    rw [Handler.run, mcIrqC3PushP_split]
    dsimp only
    split_ifs <;> exact htick
  case mcCmosNmiC3PushP =>
    rw [Handler.run, mcCmosNmiC3PushP, updateNmiLastSampled_eq]
    rfl
  all_goals rfl

/-- A push of the status goes on in its slot, or in that of NMI or IRQ. -/
theorem status_exit {h : Handler} {brk : Byte} (hstatus : h.statusFlag = some brk) {e : Exit}
    (hmem : e ∈ h.exits) (hservice : e.move.isService = false) : e.move = .next := by
  have hall : h.exits.all fun e => e.move.isService || e.move = .next := by
    cases h <;> cases hstatus <;> rfl
  have he := List.all_eq_true.mp hall e hmem
  rwa [hservice, Bool.false_or, decide_eq_true_eq] at he

theorem vectorLow_run {h : Handler} (hv : h.vectorLow.isSome = true) (cpu : Cpu) (bus : Byte) :
    h.flows = true ∧ h.isPush = false ∧ h.skips cpu bus = 0 ∧
      ∃ address, (h.run cpu bus).2 = read address := by
  cases h <;> first | exact ⟨rfl, rfl, rfl, _, rfl⟩ | cases hv

theorem vectorHigh_run {h : Handler} (hv : h.vectorHigh.isSome = true) (cpu : Cpu) (bus : Byte) :
    h.flows = true ∧ h.isPush = false ∧ h.skips cpu bus = 0 ∧
      ∃ address, (h.run cpu bus).2 = read address := by
  cases h <;> first | exact ⟨rfl, rfl, rfl, _, rfl⟩ | cases hv

theorem latchesPch_run {h : Handler} (hv : h.latchesPch = true) (cpu : Cpu) (bus : Byte) :
    ∃ pc, (h.run cpu bus).2 = fetchAt pc := by
  cases h <;> cases hv <;> exact ⟨_, fetch_eq_fetchAt _⟩

theorem Phase.step_of_get {entries : Slot} {p : Phase} {h : Handler}
    (hget : entries[p.cycle]? = some (.handler h)) (bus : Byte) : p.step entries bus =
      some (h.beat p.cpu bus, ⟨p.cycle + 1 + h.skips p.cpu bus,
        (h.run p.cpu bus).1.forget.seat p.cpu.model p.cpu.microcode⟩) := by
  rw [Phase.step, hget]

namespace Session

theorem trace_nil (s : Session) : trace Session.beat s [] = some ([], s) := rfl

/-- After `n` ticks the session is in the last cycle of an interrupt sequence, and one tick
later at `s'`. -/
def EndsSequence (s : Session) (input : ℕ → List PinCall × Byte) (n : ℕ) (s' : Session) : Prop :=
  ∃ beats s₀ b slot cpu, StepMachine.trace Session.beat s (first input n) = some (beats, s₀) ∧
    s₀.beat (input n) = some (b, s') ∧ (slot = 0 ∨ slot = 262 ∨ slot = 263) ∧
      Follows slot ⟨6, cpu⟩ s₀

theorem EndsSequence.cons {s s₁ s' : Session} {input : ℕ → List PinCall × Byte} {n : ℕ} {b : Beat}
    (hbeat : s.beat (input 0) = some (b, s₁))
    (h : s₁.EndsSequence (fun k => input (k + 1)) n s') : s.EndsSequence input (n + 1) s' := by
  obtain ⟨beats, s₀, b₀, slot, cpu, htrace, hlast, hslot, hf⟩ := h
  refine ⟨b :: beats, s₀, b₀, slot, cpu, ?_, hlast, hslot, hf⟩
  rw [StepMachine.first_succ_cons]
  exact StepMachine.trace_cons hbeat htrace

section follows

variable {slot : Nat} {cpu : Cpu} {s : Session} {start push low high last : Handler} {rest : Slot}

/-- A tick that reads and goes on. -/
theorem Follows.reads {entries : Slot} {k : ℕ} (hf : Follows slot ⟨k, cpu⟩ s)
    (hslot : slotAt s.1.model.toNat slot = some entries) {h : Handler}
    (hget : entries[k]? = some (.handler h)) {c : List PinCall × Byte} (hflow : h.flows = true)
    (hpush : h.isPush = false) (hskip : h.skips cpu c.2 = 0) {a : Word}
    (hread : (h.run cpu c.2).2 = read a) :
    ∃ b s' cpu', s.beat c = some (b, s') ∧ b.tick = read a ∧ Follows slot ⟨k + 1, cpu'⟩ s' ∧
      s'.1.model = s.1.model := by
  have hstep := Phase.step_of_get (p := ⟨k, cpu⟩) hget c.2
  rw [hskip] at hstep
  have hquiet : (h.beat cpu c.2).tick.fetching = false := by
    rw [Handler.beat, hread]
    exact read_fetching a
  obtain ⟨s', hbeat, hf', hmodel⟩ := hf.plain hslot hget hflow hpush hstep hquiet
  exact ⟨_, s', _, hbeat, hread, hf', hmodel⟩

/-- The end of a sequence reads its vector and fetches. -/
theorem Follows.vectors (hf : Follows slot ⟨4, cpu⟩ s) {e₀ e₁ e₂ e₃ : Entry}
    (hslot : slotAt s.1.model.toNat slot = some
      (e₀ :: e₁ :: e₂ :: e₃ :: .handler low :: .handler high :: .handler last :: rest))
    (hlow : low.vectorLow.isSome = true) (hhigh : high.vectorHigh.isSome = true)
    (hlast : last.latchesPch = true) (hslots : slot = 0 ∨ slot = 262 ∨ slot = 263)
    (input : ℕ → List PinCall × Byte) :
    ∃ beats s', StepMachine.trace Session.beat s (first input 3) = some (beats, s') ∧ Ends beats ∧
      writes beats = [] ∧ s.EndsSequence input 2 s' := by
  obtain ⟨hflow₁, hpush₁, hskip₁, a₁, hread₁⟩ := vectorLow_run hlow cpu (input 0).2
  obtain ⟨b₁, s₁, cpu₁, hbeat₁, htick₁, hf₁, hm₁⟩ :=
    hf.reads hslot rfl hflow₁ hpush₁ hskip₁ hread₁
  obtain ⟨hflow₂, hpush₂, hskip₂, a₂, hread₂⟩ := vectorHigh_run hhigh cpu₁ (input 1).2
  obtain ⟨b₂, s₂, cpu₂, hbeat₂, htick₂, hf₂, hm₂⟩ :=
    hf₁.reads (hm₁ ▸ hslot) rfl hflow₂ hpush₂ hskip₂ hread₂
  obtain ⟨pc, hfetch⟩ := latchesPch_run hlast cpu₂ (input 2).2
  have hstep : Phase.step (e₀ :: e₁ :: e₂ :: e₃ :: .handler low :: .handler high ::
      .handler last :: rest) ⟨6, cpu₂⟩ (input 2).2 = _ :=
    Phase.step_of_get (h := last) rfl (input 2).2
  obtain ⟨_, s₃, _, hbeat₃, _⟩ := hf₂.step (c := input 2) (hm₂ ▸ hm₁ ▸ hslot) hstep
  have htick₃ : (last.beat cpu₂ (input 2).2).tick = fetchAt pc := hfetch
  refine ⟨_, s₃, StepMachine.trace_cons hbeat₁ (StepMachine.trace_cons hbeat₂
    (StepMachine.trace_cons hbeat₃ (trace_nil s₃))), ⟨?_, ?_⟩, ?_, ?_⟩
  · simp [htick₁, htick₂]
  · simp [htick₃, fetchAt_fetching]
  · simp [writes, htick₁, htick₂, htick₃]
  · exact .cons hbeat₁ (.cons hbeat₂ ⟨[], s₂, _, slot, cpu₂, rfl, hbeat₃, hslots, hf₂⟩)

/-- The push of the status goes on in its slot, or in that of NMI or IRQ. -/
theorem Follows.status (hf : Follows slot ⟨3, cpu⟩ s) {entries : Slot}
    (hslot : slotAt s.1.model.toNat slot = some entries)
    (hget : entries[3]? = some (.handler push)) {brk : Byte} (hstatus : push.statusFlag = some brk)
    (c : List PinCall × Byte) :
    ∃ b s' slot', s.beat c = some (b, s') ∧
      b.tick = write (stackAddress cpu.s) (stackStatus cpu.p brk) ∧ s'.1.model = s.1.model ∧
        (slot' = slot ∨ slot' = 262 ∨ slot' = 263) ∧ Follows slot' ⟨4, s'.1.base slot'⟩ s' := by
  have htick := status_run hstatus cpu c.2
  obtain ⟨h, s', hget', hbeat, hs', hh, hmodel, _, _⟩ :=
    hf.step hslot (Phase.step_of_get (p := ⟨3, cpu⟩) hget c.2)
  obtain rfl : push = h := Entry.handler.inj (Option.some.inj (hget.symm.trans hget'))
  obtain ⟨e, slot', cycle', hleads⟩ := execute_place (hf.executes hslot hget c.1 c.2)
  have hplace := hleads.place
  rw [← hs'] at hplace
  have hwhere : cycle' = 4 ∧ (slot' = slot ∨ slot' = 262 ∨ slot' = 263) := by
    cases hentered : (unitTick push (s.pins c.1).1 c.2).2 with
    | none =>
      obtain ⟨rfl, rfl⟩ := hleads.of_none hentered
      rw [status_exit hstatus hleads.mem hleads.noService]
      exact ⟨rfl, .inl rfl⟩
    | some entered =>
      obtain ⟨service, k⟩ := entered
      obtain ⟨rfl, rfl⟩ := hleads.of_entered hentered
      have hfetch : (execute push (s.pins c.1).1 c.2).2.fetching = false := by
        rw [← hs', ← tick_of_beat hbeat, Handler.beat, htick]
        exact write_fetching _ _
      rcases Lines.tick_entered hentered with ⟨_, hf, _⟩ | ⟨rfl, ⟨_, rfl | rfl⟩ | ⟨_, rfl⟩⟩
      · exact absurd (hf.symm.trans hfetch) (by decide)
      · exact ⟨rfl, .inr (.inl rfl)⟩
      · exact ⟨rfl, .inr (.inr rfl)⟩
      · exact ⟨rfl, .inr (.inl rfl)⟩
  obtain ⟨rfl, hslots⟩ := hwhere
  exact ⟨_, s', slot', hbeat, htick, hmodel, hslots, hmodel ▸ hf.supported, hplace, rfl⟩

/-- The first tick of a sequence reads, and BRK passes a byte. -/
theorem Follows.begins {entries : Slot} (hf : Follows slot ⟨0, cpu⟩ s)
    (hslot : slotAt s.1.model.toNat slot = some entries)
    (hget : entries[0]? = some (.handler (if slot = 0 then .mcReadPcInc else .mcReadPc)))
    (c : List PinCall × Byte) : ∃ b s' cpu', s.beat c = some (b, s') ∧ b.tick = read cpu.pc ∧
      Follows slot ⟨1, cpu'⟩ s' ∧ s'.1.model = s.1.model ∧
        cpu'.registers = { cpu.registers with pc := if slot = 0 then cpu.pc + 1 else cpu.pc } := by
  by_cases hbrk : slot = 0
  · rw [if_pos hbrk] at hget ⊢
    obtain ⟨s', hbeat, hf', hmodel⟩ := hf.plain (c := c) hslot hget rfl rfl
      (Phase.step_of_get (p := ⟨0, cpu⟩) hget c.2) (read_fetching _)
    exact ⟨_, s', _, hbeat, rfl, hf', hmodel, rfl⟩
  · rw [if_neg hbrk] at hget ⊢
    obtain ⟨s', hbeat, hf', hmodel⟩ := hf.plain (c := c) hslot hget rfl rfl
      (Phase.step_of_get (p := ⟨0, cpu⟩) hget c.2) (read_fetching _)
    exact ⟨_, s', _, hbeat, rfl, hf', hmodel, rfl⟩

/-- The ticks that push the program counter. -/
theorem Follows.pushes {entries : Slot} {k n : ℕ} {h : Handler} (hf : Follows slot ⟨k, cpu⟩ s)
    (hslot : slotAt s.1.model.toNat slot = some entries) (hget : entries[k]? = some (.handler h))
    (hh : h = .mcStackPushPcHigh ∧ n = 1 ∨ h = .mcStackPushPcLow ∧ n = 0)
    (c : List PinCall × Byte) : ∃ b s' cpu', s.beat c = some (b, s') ∧
      b.tick = write (stackAddress cpu.s) (u16GetByte cpu.pc n) ∧ Follows slot ⟨k + 1, cpu'⟩ s' ∧
        s'.1.model = s.1.model ∧ cpu'.registers = { cpu.registers with s := cpu.s - 1 } := by
  rcases hh with ⟨rfl, rfl⟩ | ⟨rfl, rfl⟩
  · obtain ⟨s', hbeat, hf', hmodel⟩ := hf.plain (c := c) hslot hget rfl rfl
      (Phase.step_of_get (p := ⟨k, cpu⟩) hget c.2) (write_fetching _ _)
    exact ⟨_, s', _, hbeat, rfl, hf', hmodel, rfl⟩
  · obtain ⟨s', hbeat, hf', hmodel⟩ := hf.plain (c := c) hslot hget rfl rfl
      (Phase.step_of_get (p := ⟨k, cpu⟩) hget c.2) (write_fetching _ _)
    exact ⟨_, s', _, hbeat, rfl, hf', hmodel, rfl⟩

/-- **An interrupt sequence** writes its three pushes, whatever the pins do. -/
theorem Follows.interrupt (hf : Follows slot ⟨0, cpu⟩ s)
    (hslot : slot = 0 ∨ slot = 262 ∨ slot = 263) (input : ℕ → List PinCall × Byte) :
    ∃ beats s', StepMachine.trace Session.beat s (first input 7) = some (beats, s') ∧
      beats.length = 7 ∧ Ends beats ∧ writes beats = interruptWrites slot cpu.registers ∧
        s.EndsSequence input 6 s' := by
  obtain ⟨entries, push, low, high, last, rest, hat, rfl, hstatus, _⟩ :=
    interrupt_slot hf.supported hslot
  obtain ⟨b₀, s₁, cpu₁, hbeat₀, htick₀, hf₁, hm₁, hr₁⟩ := hf.begins hat rfl (input 0)
  have hat₁ := hm₁ ▸ hat
  obtain ⟨b₁, s₂, cpu₂, hbeat₁, htick₁, hf₂, hm₂, hr₂⟩ :=
    hf₁.pushes hat₁ rfl (.inl ⟨rfl, rfl⟩) (input 1)
  have hat₂ := hm₂ ▸ hat₁
  obtain ⟨b₂, s₃, cpu₃, hbeat₂, htick₂, hf₃, hm₃, hr₃⟩ :=
    hf₂.pushes hat₂ rfl (.inr ⟨rfl, rfl⟩) (input 2)
  have hat₃ := hm₃ ▸ hat₂
  obtain ⟨b₃, s₄, slot', hbeat₃, htick₃, hm₄, hslot', hf₄⟩ := hf₃.status hat₃ rfl hstatus (input 3)
  have hslots : slot' = 0 ∨ slot' = 262 ∨ slot' = 263 := by
    rcases hslot' with rfl | h
    · exact hslot
    · exact .inr h
  obtain ⟨_, _, _, _, _, _, hat₄, rfl, _, hlow, hhigh, hlast⟩ :=
    interrupt_slot hf₄.supported hslots
  obtain ⟨beats, s', htrace, hends, hwrites, hsequence⟩ :=
    hf₄.vectors hat₄ hlow hhigh hlast hslots fun k => input (k + 4)
  have hall := StepMachine.trace_cons hbeat₀ (StepMachine.trace_cons hbeat₁
    (StepMachine.trace_cons hbeat₂ (StepMachine.trace_cons hbeat₃ htrace)))
  refine ⟨_, s', hall, StepMachine.trace_length hall, ?_, ?_, .cons hbeat₀ (.cons hbeat₁
    (.cons hbeat₂ (.cons hbeat₃ hsequence)))⟩
  · refine .cons ?_ (.cons ?_ (.cons ?_ (.cons ?_ hends)))
    · rw [htick₀]
      exact read_fetching _
    · rw [htick₁]
      exact write_fetching _ _
    · rw [htick₂]
      exact write_fetching _ _
    · rw [htick₃]
      exact write_fetching _ _
  · have hs₁ : cpu₁.s = cpu.s := congrArg Registers.s hr₁
    have hs₂ : cpu₂.s = cpu₁.s - 1 := congrArg Registers.s hr₂
    have hs₃ : cpu₃.s = cpu₂.s - 1 := congrArg Registers.s hr₃
    have hp₁ : cpu₁.p = cpu.p := congrArg Registers.p hr₁
    have hp₂ : cpu₂.p = cpu₁.p := congrArg Registers.p hr₂
    have hp₃ : cpu₃.p = cpu₂.p := congrArg Registers.p hr₃
    have hpc₁ : cpu₁.pc = if slot = 0 then cpu.pc + 1 else cpu.pc := congrArg Registers.pc hr₁
    have hpc₂ : cpu₂.pc = cpu₁.pc := congrArg Registers.pc hr₂
    rw [writes_cons, writes_cons, writes_cons, writes_cons, hwrites, htick₀, htick₁, htick₂, htick₃,
      read_written, write_written, write_written, write_written, interruptWrites, hp₃, hp₂, hp₁,
      hpc₂, hpc₁, hs₃, hs₂, hs₁]
    by_cases hbrk : slot = 0
    · rw [if_pos hbrk, if_pos hbrk, if_pos hbrk]
      rfl
    · rw [if_neg hbrk, if_neg hbrk, if_neg hbrk]
      rfl

end follows

end Session

theorem brk_first : ∀ model < 5, instructionTables[model]?.all
    (fun table => table.tail.all fun i => i.mnemonic ≠ .brk) = true := by
  decide +kernel

/-- BRK has the opcode 0. -/
theorem brk_opcode {model : Nat} (hm : model < 5) {opcode : Byte} {i : Instruction}
    (hi : instructionAt model opcode = some i) (hbrk : i.mnemonic = .brk) : opcode = 0 := by
  rw [instructionAt] at hi
  obtain ⟨table, htable, hget⟩ := Option.bind_eq_some_iff.mp hi
  have hfirst := brk_first model hm
  rw [htable, Option.all_some, List.all_eq_true] at hfirst
  by_contra hne
  have hpos : opcode.toNat ≠ 0 := fun h => hne (BitVec.eq_of_toNat_eq h)
  have hmem : i ∈ table.tail := by
    obtain ⟨n, hn⟩ := Nat.exists_eq_succ_of_ne_zero hpos
    rw [hn] at hget
    refine List.mem_of_getElem? (i := n) ?_
    rw [List.getElem?_tail]
    exact hget
  exact of_decide_eq_true (hfirst i hmem) hbrk

/-- **BRK** writes its three pushes. -/
theorem Session.Dispatching.breaks {s : Session} (hd : s.Dispatching)
    (input : ℕ → List PinCall × Byte) (hopcode : (input 0).2 = 0) :
    ∃ beats s', s.Completes input beats s' ∧
      writes beats = pushedEntry s.1.decoded (s.1.decoded.pc + 1) flagB ∧
        s.EndsSequence input 6 s' := by
  have hf := hd.follows (input 0).2
  rw [hopcode] at hf
  obtain ⟨beats, s', htrace, hlength, hends, hwrites, _, s₀, b, slot, cpu, hstart, hlast⟩ :=
    hf.interrupt (.inl rfl) input
  rw [StepMachine.first_succ_cons, StepMachine.trace_step, ← hopcode, ← hd.beat (input 0)] at hstart
  refine ⟨beats, s', ⟨?_, hends⟩, hwrites, _, s₀, b, slot, cpu, hstart, hlast⟩
  rw [hlength, StepMachine.first_succ_cons, StepMachine.trace_step, hd.beat (input 0), hopcode]
  exact htrace

theorem stackAddress_eq : ∀ s : Byte, stackAddress s = 0x0100 + zeroPage s := by
  decide

/-- **Write discipline.**  Between two opcode fetches an instruction writes what
`Instruction.writes` says: nothing, a store one byte at its effective address, a modification the
operand and the result on the NMOS models and the result only on the CMOS models, and pushes, JSR
and BRK one, two and three bytes of the stack.  The entry of an interrupt writes three. -/
theorem write_discipline (s : Session) (input : ℕ → List PinCall × Byte) :
    (∀ i : Instruction, s.Dispatching → instructionAt s.1.model.toNat (input 0).2 = some i →
      i.mnemonic ≠ .kil → ∃ beats s', s.Completes input beats s' ∧
        writes beats = i.writes s.1.model.toNat (input 0).2 s.1.decoded (onBus input)) ∧
    (∀ slot, slot = 262 ∨ slot = 263 → s.1.model.toNat < 5 → s.1.At slot 0 →
      ∃ beats s', s.Completes input beats s' ∧
        writes beats = pushedEntry s.1.registers s.1.pc 0) ∧
    ∀ k, stackAddress k = 0x0100 + zeroPage k := by
  refine ⟨?_, ?_, stackAddress_eq⟩
  · intro i hd hi hkil
    by_cases hbrk : i.mnemonic = .brk
    · obtain ⟨beats, s', hs', hwrites, _⟩ := hd.breaks input (brk_opcode hd.1 hi hbrk)
      refine ⟨beats, s', hs', hwrites.trans ?_⟩
      rw [Instruction.writes, hbrk]
    · obtain ⟨shape, entries, hshape, hslot, hat, hstays, hpushes⟩ := slot_of_instruction hd.1 hi
      have hrule := instruction_rule instructions_operate hd.1 hi
      rw [hshape, Option.any_some] at hrule
      obtain ⟨beats, r, hyields, hends, hwrites⟩ :=
        shape.issues hrule hslot hkil hbrk (s.1.opened (input 0).2) (onBus input)
      obtain ⟨s', hs', _, _⟩ := hd.completes hat (hstays hkil) (.inl (hpushes hbrk)) hyields hends
      rw [currentOpcodeSlot_opened] at hwrites
      exact ⟨beats, s', hs', hwrites⟩
  · intro slot hslot hm hat
    have hf : Session.Follows slot ⟨0, s.1.base slot⟩ s := ⟨hm, hat, rfl⟩
    obtain ⟨beats, s', htrace, hlength, hends, hwrites, _⟩ := hf.interrupt (.inr hslot) input
    refine ⟨beats, s', ⟨hlength ▸ htrace, hends⟩, hwrites.trans ?_⟩
    have hbrk : slot ≠ 0 := by omega
    rw [interruptWrites, if_neg hbrk]
    rfl

theorem write_discipline_asl : (∃ beats s',
    (Session.after 0 [.goto 0x0200]).Completes (fun _ => ([], 0x06)) beats s' ∧
      writes beats = [(0x0006, 0x06), (0x0006, 0x0C)]) ∧
    ∃ beats s', (Session.after 0 [.goto 0x0200, .input (.pin (.nmi 1)), .input (.tick 0xEA),
      .input (.tick 0xEA)]).Completes (fun _ => ([], 0x06)) beats s' ∧
        writes beats = [(0x01C0, 0x02), (0x01BF, 0x01), (0x01BE, 0x22)] := by
  constructor
  · obtain ⟨beats, s', hs', hwrites⟩ := (write_discipline (Session.after 0 [.goto 0x0200])
      (fun _ => ([], 0x06))).1 ⟨.asl, .zp⟩ ⟨by decide, 261, 1, by decide, by decide⟩ (by decide)
      (by decide)
    exact ⟨beats, s', hs', hwrites.trans (by decide)⟩
  · obtain ⟨beats, s', hs', hwrites⟩ := (write_discipline (Session.after 0 [.goto 0x0200,
      .input (.pin (.nmi 1)), .input (.tick 0xEA), .input (.tick 0xEA)])
      (fun _ => ([], 0x06))).2.1 262 (.inl rfl) (by decide) (by decide)
    exact ⟨beats, s', hs', hwrites.trans (by decide)⟩

end Qe6502
