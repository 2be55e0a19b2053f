import Qe6502.Calls

/-!
# Entries and their return

BRK, NMI and IRQ push the context and go through a vector; an RTI there pulls it again:
`interrupt_return`.
-/

namespace Qe6502

open StepMachine (first)

/-! ### The sequences of a slot -/

/-- The slot of an entry that pushes B as `flag` and goes through `vector`. -/
def Slot.enters (cmos : Bool) (start : Handler) (flag : Byte) (vector : Word) (entries : Slot) :
    Bool :=
  entries.stays && match entries with
  | .handler h :: .handler .mcStackPushPcHigh :: .handler .mcStackPushPcLow :: .handler push ::
      .handler low :: .handler high :: .handler last :: _ =>
    h = start && push.statusFlag = some flag && low.vectorLow = some vector &&
      high.vectorHigh = some (cmos, vector + 1) && last.latchesPch
  | _ => false

theorem entry_slots : ∀ model < 5,
    (slotAt model 0).any (Slot.enters (isCmos model) .mcReadPcInc flagB 0xFFFE) = true ∧
      (slotAt model 262).any (Slot.enters (isCmos model) .mcReadPc 0 0xFFFA) = true ∧
        (slotAt model 263).any (Slot.enters (isCmos model) .mcReadPc 0 0xFFFE) = true := by
  decide

/-- The registers after an entry. -/
def Registers.entered (r : Registers) (cmos : Bool) (pc : Word) : Registers :=
  { r with pc := pc, s := r.s - 1 - 1 - 1, p := entryFlags cmos r.p }

section slot

variable {cmos : Bool} {flag : Byte} {vector : Word} {entries : Slot}

theorem Slot.yields_brk (h : entries.enters cmos .mcReadPcInc flag vector = true) (cpu : Cpu)
    (bus : ℕ → Byte) :
    entries.Yields cpu bus (quiet (read cpu.pc) :: entryBeats cpu bus (cpu.pc + 1) vector flag)
      (cpu.registers.entered cmos (ofBytes (bus 5) (bus 6))) := by
  simp only [enters, Bool.and_eq_true] at h
  obtain ⟨_, hentries⟩ := h
  split at hentries
  · simp only [Bool.and_eq_true, decide_eq_true_eq] at hentries
    obtain ⟨⟨⟨⟨rfl, hpush⟩, hlow⟩, hhigh⟩, hlast⟩ := hentries
    exact (Reaches.start.readPcInc rfl).entry cpu rfl rfl rfl hpush rfl hlow rfl hhigh rfl hlast
  · cases hentries

theorem Slot.yields_service (h : entries.enters cmos .mcReadPc flag vector = true) (cpu : Cpu)
    (bus : ℕ → Byte) :
    entries.Yields cpu bus (quiet (read cpu.pc) :: entryBeats cpu bus cpu.pc vector flag)
      (cpu.registers.entered cmos (ofBytes (bus 5) (bus 6))) := by
  simp only [enters, Bool.and_eq_true] at h
  obtain ⟨_, hentries⟩ := h
  split at hentries
  · simp only [Bool.and_eq_true, decide_eq_true_eq] at hentries
    obtain ⟨⟨⟨⟨rfl, hpush⟩, hlow⟩, hhigh⟩, hlast⟩ := hentries
    exact (Reaches.start.readPc rfl).entry cpu rfl rfl rfl hpush rfl hlow rfl hhigh rfl hlast
  · cases hentries

theorem Slot.stays_of_enters {start : Handler} (h : entries.enters cmos start flag vector = true) :
    entries.stays = true := by
  simp only [enters, Bool.and_eq_true] at h
  exact h.1

theorem entryBeats_ends (cpu : Cpu) (bus : ℕ → Byte) (start pc : Word) :
    Ends (quiet (read start) :: entryBeats cpu bus pc vector flag) := by
  have hsnoc : quiet (read start) :: entryBeats cpu bus pc vector flag =
      (quiet (read start) :: (entryBeats cpu bus pc vector flag).dropLast) ++
        [quiet (fetchAt (ofBytes (bus 5) (bus 6)))] := rfl
  rw [hsnoc]
  refine Ends.snoc ?_ _
  simp [entryBeats, quiet]

end slot

/-! ### Entries of a session -/

namespace Session

variable {s : Session}

theorem Dispatching.always (hd : s.Dispatching) {c : List PinCall × Byte}
    {cycles : List (List PinCall × Byte)}
    (h : StepMachine.Always Session.cycle Uninterrupted s (c :: cycles)) :
    StepMachine.Always Session.cycle Uninterrupted (s.dispatched c.2) (c :: cycles) :=
  ⟨hd.uninterrupted h.1, fun s' hs' => h.2 s' ((hd.cycle c).trans hs')⟩

/-- **From the first cycle of a slot on** a session shows what the slot yields. -/
theorem Follows.completes {slot : Nat} (hf : Follows slot ⟨0, s.1.base slot⟩ s)
    {input : ℕ → List PinCall × Byte} {entries : Slot}
    (hslot : slotAt s.1.model.toNat slot = some entries) (hstays : entries.stays = true)
    {beats : List Beat} {r : Registers}
    (hquiet : StepMachine.Always Session.cycle Uninterrupted s (first input beats.length))
    (hyields : entries.Yields (s.1.base slot) (onBus input) beats r) (hends : Ends beats) :
    ∃ s', s.Completes input beats s' ∧ s'.1.model = s.1.model ∧ s'.1.registers = r := by
  obtain ⟨p, hreach, rfl⟩ := hyields
  have htrace : StepMachine.trace (Phase.step entries) ⟨0, s.1.base slot⟩
      ((first input beats.length).map Prod.snd) = some (beats, p) := by
    rw [first, List.map_map]
    exact hreach
  obtain ⟨s', hs', hmodel, hbase, _⟩ := hf.trace hstays hslot htrace hends.earlier (.inr hquiet)
  refine ⟨s', ⟨hs', hends⟩, hmodel, ?_⟩
  rw [← hbase]
  rfl

/-- The session is about to enter: it reads BRK, or it waits at the slot of NMI or of IRQ.  The
entry pushes B as `flag`, goes through `vector` and returns to `back`. -/
inductive Enters (s : Session) (opcode : Byte) : (flag : Byte) → (vector back : Word) → Prop
  | brk : s.Dispatching → opcode = 0 → Enters s opcode flagB 0xFFFE (s.1.pc + 2)
  | nmi : s.1.model.toNat < 5 → s.1.At 262 0 → Enters s opcode 0 0xFFFA s.1.pc
  | irq : s.1.model.toNat < 5 → s.1.At 263 0 → Enters s opcode 0 0xFFFE s.1.pc

variable {input : ℕ → List PinCall × Byte} {flag : Byte} {vector back : Word}

theorem brk_completes (hd : s.Dispatching) (hopcode : (input 0).2 = 0)
    (hquiet : StepMachine.Always Session.cycle Uninterrupted s (first input 7)) :
    ∃ start s', s.Completes input
        (quiet (read start) :: entryBeats s.1 (onBus input) (s.1.pc + 2) 0xFFFE flagB) s' ∧
      s'.1.model = s.1.model ∧ s'.1.registers =
        s.1.registers.entered (isCmos s.1.model.toNat)
          (ofBytes (onBus input 5) (onBus input 6)) := by
  obtain ⟨entries, hget, henters⟩ := (Option.any_eq_true _ _).mp (entry_slots _ hd.1).1
  have hyields := Slot.yields_brk henters (s.1.opened (input 0).2) (onBus input)
  have hpc : s.1.pc + 1 + 1 = s.1.pc + 2 := BitVec.add_assoc _ _ _
  have hbeats : entryBeats (s.1.opened (input 0).2) (onBus input)
      ((s.1.opened (input 0).2).pc + 1) 0xFFFE flagB =
        entryBeats s.1 (onBus input) (s.1.pc + 2) 0xFFFE flagB :=
    congrArg (fun pc => entryBeats s.1 (onBus input) pc 0xFFFE flagB) hpc
  rw [hbeats] at hyields
  rw [StepMachine.first_succ_cons] at hquiet
  have hdispatched := hd.always hquiet
  rw [← StepMachine.first_succ_cons] at hdispatched
  obtain ⟨s', hs', hmodel, hr⟩ := hd.completes (by rw [hopcode]; exact hget)
    (Slot.stays_of_enters henters) (.inr hdispatched) hyields (entryBeats_ends _ _ _ _)
  exact ⟨_, s', hs', hmodel, hr⟩

theorem service_completes {slot : Nat} (hm : s.1.model.toNat < 5) (hat : s.1.At slot 0)
    (hentries : (slotAt s.1.model.toNat slot).any
      (Slot.enters (isCmos s.1.model.toNat) .mcReadPc flag vector) = true)
    (hquiet : StepMachine.Always Session.cycle Uninterrupted s (first input 7)) :
    ∃ start s', s.Completes input
        (quiet (read start) :: entryBeats s.1 (onBus input) s.1.pc vector flag) s' ∧
      s'.1.model = s.1.model ∧ s'.1.registers =
        s.1.registers.entered (isCmos s.1.model.toNat)
          (ofBytes (onBus input 5) (onBus input 6)) := by
  obtain ⟨entries, hget, henters⟩ := (Option.any_eq_true _ _).mp hentries
  have hyields := Slot.yields_service henters (s.1.base slot) (onBus input)
  have hf : s.Follows slot ⟨0, s.1.base slot⟩ := ⟨hm, hat, rfl⟩
  obtain ⟨s', hs', hmodel, hr⟩ := hf.completes hget (Slot.stays_of_enters henters) hquiet hyields
    (entryBeats_ends _ _ _ _)
  exact ⟨_, s', hs', hmodel, hr⟩

theorem Enters.waits (h : s.Enters (input 0).2 flag vector back) : s.Dispatching ∨ s.Inside := by
  have hinside : ∀ slot, slot = 262 ∨ slot = 263 → s.1.model.toNat < 5 → s.1.At slot 0 →
      s.Inside := by
    intro slot hslot hm hat
    obtain ⟨entries, push, low, high, last, rest, hget, hentries⟩ := interrupt_slot hm (.inr hslot)
    refine ⟨hm, slot, 0, if slot = 0 then .mcReadPcInc else .mcReadPc, ?_, hat, ?_⟩
    · rcases hslot with rfl | rfl <;> rfl
    · rw [entryAt, hget, hentries.handlers]
      rfl
  cases h with
  | brk hd _ => exact .inl hd
  | nmi hm hat => exact .inr (hinside 262 (.inl rfl) hm hat)
  | irq hm hat => exact .inr (hinside 263 (.inr rfl) hm hat)

/-- **An entry** that no service slot breaks. -/
theorem Enters.completes (h : s.Enters (input 0).2 flag vector back)
    (hquiet : StepMachine.Always Session.cycle Uninterrupted s (first input 7)) :
    ∃ start s', s.Completes input
        (quiet (read start) :: entryBeats s.1 (onBus input) back vector flag) s' ∧
      s'.Dispatching ∧ s'.2 = fetchAt s'.1.pc ∧ s'.1.model = s.1.model ∧ s'.1.registers =
        s.1.registers.entered (isCmos s.1.model.toNat)
          (ofBytes (onBus input 5) (onBus input 6)) := by
  have hwaits := h.waits
  have hcompletes : ∃ start s', s.Completes input
        (quiet (read start) :: entryBeats s.1 (onBus input) back vector flag) s' ∧
      s'.1.model = s.1.model ∧ s'.1.registers =
        s.1.registers.entered (isCmos s.1.model.toNat)
          (ofBytes (onBus input 5) (onBus input 6)) := by
    cases h with
    | brk hd hopcode => exact brk_completes hd hopcode hquiet
    | nmi hm hat => exact service_completes hm hat (entry_slots _ hm).2.1 hquiet
    | irq hm hat => exact service_completes hm hat (entry_slots _ hm).2.2 hquiet
  obtain ⟨start, s', hs', hmodel, hr⟩ := hcompletes
  obtain ⟨hdispatch, hfetch⟩ := trace_goes hwaits hquiet hs'.trace hs'.ends
  exact ⟨start, s', hs', hdispatch, hfetch, hmodel, hr⟩

end Session

/-! ### The three cells -/

/-- The cells that an entry takes. -/
def entryCells (s : Byte) : List Word :=
  [stackAddress s, stackAddress (s - 1), stackAddress (s - 1 - 1)]

theorem vector_clear : ∀ s : Byte, stackAddress s ≠ 0xFFFA ∧ stackAddress s ≠ 0xFFFB ∧
    stackAddress s ≠ 0xFFFE ∧ stackAddress s ≠ 0xFFFF := by
  decide

section pushed

variable (memory : Word → Byte) (r : Registers) (pc : Word) (flag : Byte)

theorem written_pushedEntry_status :
    written memory (pushedEntry r pc flag) (stackAddress (r.s - 1 - 1)) =
      stackStatus r.p flag := if_pos rfl

theorem written_pushedEntry_frame {a : Word} (ha : a ∉ entryCells r.s) :
    written memory (pushedEntry r pc flag) a = memory a := by
  simp only [entryCells, List.mem_cons, List.not_mem_nil, or_false, not_or] at ha
  exact (if_neg ha.2.2).trans ((if_neg ha.2.1).trans (if_neg ha.1))

theorem entry_cells_ne (s : Byte) : stackAddress s ≠ stackAddress (s - 1) ∧
    stackAddress s ≠ stackAddress (s - 1 - 1) ∧
      stackAddress (s - 1) ≠ stackAddress (s - 1 - 1) := by
  refine ⟨fun h => ?_, fun h => ?_, fun h => ?_⟩ <;> have hs := stackAddress_inj h <;> bv_omega

theorem written_pushedEntry_high :
    written memory (pushedEntry r pc flag) (stackAddress r.s) = u16GetByte pc 1 := by
  obtain ⟨h₁, h₂, _⟩ := entry_cells_ne r.s
  exact (if_neg h₂).trans ((if_neg h₁).trans (if_pos rfl))

theorem written_pushedEntry_low :
    written memory (pushedEntry r pc flag) (stackAddress (r.s - 1)) = u16GetByte pc 0 := by
  obtain ⟨_, _, h₃⟩ := entry_cells_ne r.s
  exact (if_neg h₃).trans (if_pos rfl)

end pushed

theorem writes_entryBeats (cpu : Cpu) (bus : ℕ → Byte) (start pc vector : Word) (flag : Byte) :
    writes (quiet (read start) :: entryBeats cpu bus pc vector flag) =
      pushedEntry cpu.registers pc flag := by
  simp only [entryBeats, writes_cons, quiet, read_written, write_written, fetchAt_written]
  rfl

/-! ### Entries of the host -/

theorem rti_slots : ∀ model < 5, slotAt model 0x40 = some rti := by
  decide

namespace InstructionCpu

variable {answer : Tick → (Word → Byte) → Byte} {m : InstructionCpu} {pins : ℕ → List PinCall}
  {flag : Byte} {vector back : Word}

/-- The word that a vector holds. -/
def vectored (m : InstructionCpu) (vector : Word) : Word :=
  ofBytes (m.memory vector) (m.memory (vector + 1))

/-- The machine fetches, and is about to enter. -/
structure Entering (m : InstructionCpu) (flag : Byte) (vector back : Word) : Prop where
  enters : m.session.Enters m.opcode flag vector back
  tick : m.tick = fetchAt m.cpu.pc

theorem Entering.clear (h : m.Entering flag vector back) :
    vector ∉ entryCells m.cpu.s ∧ vector + 1 ∉ entryCells m.cpu.s := by
  have hcells : ∀ a : Word, (∀ s, stackAddress s ≠ a) → a ∉ entryCells m.cpu.s := by
    intro a ha
    simp only [entryCells, List.mem_cons, List.not_mem_nil, or_false, not_or]
    exact ⟨(ha _).symm, (ha _).symm, (ha _).symm⟩
  cases h.enters with
  | brk _ _ =>
    exact ⟨hcells _ fun s => (vector_clear s).2.2.1, hcells _ fun s => (vector_clear s).2.2.2⟩
  | nmi _ _ =>
    exact ⟨hcells _ fun s => (vector_clear s).1, hcells _ fun s => (vector_clear s).2.1⟩
  | irq _ _ =>
    exact ⟨hcells _ fun s => (vector_clear s).2.2.1, hcells _ fun s => (vector_clear s).2.2.2⟩

theorem fed_entry {start : Word} {bus : ℕ → Byte} (hfed : Fed answer m.memory
      (m.requests (quiet (read start) :: entryBeats m.cpu bus back vector flag)) bus) :
    bus 5 = written m.memory (pushedEntry m.cpu.registers back flag) vector ∧
      bus 6 = written m.memory (pushedEntry m.cpu.registers back flag) (vector + 1) := by
  have hrequests : m.requests (quiet (read start) :: entryBeats m.cpu bus back vector flag) =
      [fetchAt m.cpu.pc, read start, write (stackAddress m.cpu.s) (u16GetByte back 1),
        write (stackAddress (m.cpu.s - 1)) (u16GetByte back 0),
        write (stackAddress (m.cpu.s - 1 - 1)) (stackStatus m.cpu.p flag), read vector,
        read (vector + 1)] := rfl
  rw [hrequests] at hfed
  simp only [fed_fetchAt, fed_read, fed_write] at hfed
  exact ⟨hfed.2.2.2.2.2.1, hfed.2.2.2.2.2.2.1⟩

/-- **An entry.** -/
theorem Entering.fetches (h : m.Entering flag vector back)
    (hquiet : StepMachine.Always Session.cycle Session.Uninterrupted m.session
      (first (m.inputsOn answer pins) 7)) :
    ∃ m₁, m.FetchesOn answer pins 7 m₁ ∧ m₁.session.Dispatching ∧ m₁.tick = fetchAt m₁.cpu.pc ∧
      m₁.cpu.model = m.cpu.model ∧
      m₁.memory = written m.memory (pushedEntry m.cpu.registers back flag) ∧
      m₁.cpu.registers =
        m.cpu.registers.entered (isCmos m.cpu.model.toNat) (m.vectored vector) := by
  have henters := h.enters
  have hinput : (m.inputsOn answer pins 0).2 = m.opcode := input_opcode h.tick
  rw [← hinput] at henters
  obtain ⟨start, s', hs', hdispatch, hfetch, hmodel, hr⟩ := henters.completes hquiet
  obtain ⟨m₁, hfetches, rfl, hmemory, hfed⟩ := fetches_of_completes hs' h.tick hfetch
  rw [writes_entryBeats] at hmemory
  refine ⟨m₁, hfetches, hdispatch, hfetch, hmodel, hmemory, ?_⟩
  obtain ⟨hlow, hhigh⟩ := fed_entry hfed
  obtain ⟨hclear, hclear'⟩ := h.clear
  rw [written_pushedEntry_frame _ _ _ _ hclear] at hlow
  rw [written_pushedEntry_frame _ _ _ _ hclear'] at hhigh
  rw [vectored, ← hlow, ← hhigh]
  exact hr

/-- **RTI.** -/
theorem rti_fetches (hd : m.session.Dispatching) (htick : m.tick = fetchAt m.cpu.pc)
    (hop : m.opcode = 0x40) : ∃ m', m.FetchesOn answer pins 6 m' ∧ m'.memory = m.memory ∧
      m'.tick = fetchAt (ofBytes (m.memory (stackAddress (m.cpu.s + 1 + 1)))
        (m.memory (stackAddress (m.cpu.s + 1 + 1 + 1)))) ∧
      m'.cpu.registers = { m.cpu.registers with
        pc := ofBytes (m.memory (stackAddress (m.cpu.s + 1 + 1)))
          (m.memory (stackAddress (m.cpu.s + 1 + 1 + 1)))
        s := m.cpu.s + 1 + 1 + 1
        p := pulledFlags (m.memory (stackAddress (m.cpu.s + 1))) } := by
  have hinput : (m.inputsOn answer pins 0).2 = m.opcode := input_opcode htick
  have hslot : slotAt m.session.1.model.toNat (m.inputsOn answer pins 0).2.toNat = some rti := by
    rw [hinput, hop]
    exact rti_slots _ hd.1
  obtain ⟨s', hs', _, hr⟩ := hd.completes hslot rfl (.inl rfl)
    (rti_yields _ _) (Course.ends (by simp [Course.plain]))
  have hlast := Session.last_tick hs'.trace _ rfl
  have hfetch : s'.2 = fetchAt s'.1.pc := by
    rw [← hlast]
    exact congrArg (fun r => fetchAt r.pc) hr.symm
  obtain ⟨m', hfetches, rfl, hmemory, hfed⟩ := fetches_of_completes hs' htick hfetch
  rw [length_course] at hfetches
  rw [Course.writes_beats] at hmemory
  rw [requests_course] at hfed
  simp only [List.cons_append, List.nil_append, fed_fetchAt, fed_read] at hfed
  have hp : onBus (m.inputsOn answer pins) 3 = m.memory (stackAddress (m.cpu.s + 1)) := hfed.2.2.2.1
  have hlow : onBus (m.inputsOn answer pins) 4 = m.memory (stackAddress (m.cpu.s + 1 + 1)) :=
    hfed.2.2.2.2.1
  have hhigh : onBus (m.inputsOn answer pins) 5 = m.memory (stackAddress (m.cpu.s + 1 + 1 + 1)) :=
    hfed.2.2.2.2.2.1
  have hr' : m'.cpu.registers = { m.cpu.registers with
      pc := ofBytes (m.memory (stackAddress (m.cpu.s + 1 + 1)))
        (m.memory (stackAddress (m.cpu.s + 1 + 1 + 1)))
      s := m.cpu.s + 1 + 1 + 1
      p := pulledFlags (m.memory (stackAddress (m.cpu.s + 1))) } := by
    rw [← hp, ← hlow, ← hhigh]
    exact hr
  refine ⟨m', hfetches, hmemory.trans (by simp [written]), ?_, hr'⟩
  exact hfetch.trans (congrArg (fun r => fetchAt r.pc) hr')

end InstructionCpu

theorem stackStatus_un (p : Byte) {flag : Byte} (hflag : flag = flagB ∨ flag = 0) :
    stackStatus p flag &&& flagUN = flagUN := by
  obtain rfl | rfl := hflag
  all_goals
    ext i hi
    simp only [stackStatus, flagB, flagUN]
    interval_cases i <;> simp

theorem stackStatus_b (p : Byte) {flag : Byte} (hflag : flag = flagB ∨ flag = 0) :
    stackStatus p flag &&& flagB = flag := by
  obtain rfl | rfl := hflag
  all_goals
    ext i hi
    simp only [stackStatus, flagB, flagUN]
    interval_cases i <;> simp

theorem pulled_stackStatus (p : Byte) {flag : Byte} (hflag : flag = flagB ∨ flag = 0) :
    pulledFlags (stackStatus p flag) = (p ||| flagUN) &&& ~~~flagB := by
  obtain rfl | rfl := hflag
  all_goals
    ext i hi
    simp only [stackStatus, pulledFlags, flagB, flagUN]
    interval_cases i <;> simp

theorem entryFlags_d (p : Byte) : entryFlags true p &&& flagD = 0 := by
  ext i hi
  simp only [entryFlags, flagD, flagI]
  interval_cases i <;> simp

/-- **Entries and RTI.**  BRK, NMI and IRQ push the return address and the status, with bit 5 set
and with bit 4 set for BRK only; the CMOS models clear D.  With an RTI at the vector's target,
clear of the three stack cells, and no service slot entered on the way, the fetch after the RTI
is at the return address, two behind BRK, with the registers and the flags as before, apart from
B, which is clear, and UN, which is set.  The memory differs in the three cells only. -/
theorem interrupt_return {answer : Tick → (Word → Byte) → Byte} {pins : ℕ → List PinCall}
    {m : InstructionCpu} {flag : Byte} {vector back : Word} (h : m.Entering flag vector back)
    (hquiet : StepMachine.Always Session.cycle Session.Uninterrupted m.session
      (first (m.inputsOn answer pins) 7))
    (hrti : m.memory (m.vectored vector) = 0x40) (hclear : m.vectored vector ∉ entryCells m.cpu.s) :
    ∃ m₁ m', m.FetchesOn answer pins 7 m₁ ∧ m₁.tick = fetchAt (m.vectored vector) ∧
      m₁.cpu.registers =
        m.cpu.registers.entered (isCmos m.cpu.model.toNat) (m.vectored vector) ∧
      (isCmos m.cpu.model.toNat = true → m₁.cpu.p &&& flagD = 0) ∧
      m₁.FetchesOn answer (fun k => pins (k + 7)) 6 m' ∧ m'.tick = fetchAt back ∧
      m'.cpu.registers =
        { m.cpu.registers with pc := back, p := (m.cpu.p ||| flagUN) &&& ~~~flagB } ∧
      (∀ a, a ∉ entryCells m.cpu.s → m'.memory a = m.memory a) ∧
      m'.memory (stackAddress m.cpu.s) = u16GetByte back 1 ∧
      m'.memory (stackAddress (m.cpu.s - 1)) = u16GetByte back 0 ∧
      m'.memory (stackAddress (m.cpu.s - 1 - 1)) &&& flagUN = flagUN ∧
      m'.memory (stackAddress (m.cpu.s - 1 - 1)) &&& flagB = flag := by
  obtain ⟨m₁, hfetches, hd, htick, hmodel, hmemory, hr⟩ := h.fetches hquiet
  have hpc : m₁.cpu.pc = m.vectored vector := congrArg Registers.pc hr
  have hs : m₁.cpu.s = m.cpu.s - 1 - 1 - 1 := congrArg Registers.s hr
  have hp : m₁.cpu.p = entryFlags (isCmos m.cpu.model.toNat) m.cpu.p := congrArg Registers.p hr
  have hop : m₁.opcode = 0x40 := by
    rw [InstructionCpu.opcode, hpc, hmemory, written_pushedEntry_frame _ _ _ _ hclear, hrti]
  obtain ⟨m', hfetches', hmemory', htick', hr'⟩ :=
    @InstructionCpu.rti_fetches answer _ (fun k => pins (k + 7)) hd htick hop
  have hstatus : m₁.memory (stackAddress (m₁.cpu.s + 1)) = stackStatus m.cpu.p flag := by
    rw [hs, BitVec.sub_add_cancel, hmemory]
    exact written_pushedEntry_status _ _ _ _
  have hlow : m₁.memory (stackAddress (m₁.cpu.s + 1 + 1)) = u16GetByte back 0 := by
    rw [hs, BitVec.sub_add_cancel, BitVec.sub_add_cancel, hmemory]
    exact written_pushedEntry_low _ _ _ _
  have hhigh : m₁.memory (stackAddress (m₁.cpu.s + 1 + 1 + 1)) = u16GetByte back 1 := by
    rw [hs, BitVec.sub_add_cancel, BitVec.sub_add_cancel, BitVec.sub_add_cancel, hmemory]
    exact written_pushedEntry_high _ _ _ _
  have hstack : m₁.cpu.s + 1 + 1 + 1 = m.cpu.s := by
    rw [hs, BitVec.sub_add_cancel, BitVec.sub_add_cancel, BitVec.sub_add_cancel]
  have hflag : flag = flagB ∨ flag = 0 := by
    cases h.enters <;> simp
  rw [hlow, hhigh, ofBytes_getByte] at htick' hr'
  rw [hstatus, hstack, pulled_stackStatus _ hflag, hr] at hr'
  have hpushed : m'.memory (stackAddress (m.cpu.s - 1 - 1)) = stackStatus m.cpu.p flag := by
    rw [hmemory', hmemory]
    exact written_pushedEntry_status _ _ _ _
  refine ⟨m₁, m', hfetches, hpc ▸ htick, hr, fun hcmos => ?_, hfetches', htick', hr', ?_, ?_, ?_,
    ?_, ?_⟩
  · rw [hp, hcmos]
    exact entryFlags_d _
  · intro a ha
    rw [hmemory', hmemory]
    exact written_pushedEntry_frame _ _ _ _ ha
  · rw [hmemory', hmemory]
    exact written_pushedEntry_high _ _ _ _
  · rw [hmemory', hmemory]
    exact written_pushedEntry_low _ _ _ _
  · rw [hpushed]
    exact stackStatus_un _ hflag
  · rw [hpushed]
    exact stackStatus_b _ hflag

theorem still_quiet {m : InstructionCpu} (hruns : m.session.Runs) (n : ℕ) :
    StepMachine.Always Session.cycle Session.Uninterrupted m.session
      (first (m.inputs InstructionCpu.readmeAnswer) n) := by
  refine hruns.always fun c hc => ?_
  obtain ⟨k, _, rfl⟩ := List.mem_map.mp hc
  exact InstructionCpu.inputsOn_fst m _

/-- BRK at 0x0200, and RTI at 0x0300 for it and for NMI. -/
def entryMemory : Word → Byte :=
  poke (poke (poke (fun _ => 0) 0x0300 0x40) 0xFFFB 0x03) 0xFFFF 0x03

theorem interrupt_return_brk : (∃ m m₁ m' : InstructionCpu, m.session.Reachable ∧
    m.memory = entryMemory ∧ m.FetchesOn InstructionCpu.readmeAnswer (fun _ => []) 7 m₁ ∧
      m₁.FetchesOn InstructionCpu.readmeAnswer (fun _ => []) 6 m' ∧ m'.tick = fetchAt 0x0202) ∧
    ∃ m m₁ m' : InstructionCpu, m.session.Reachable ∧ m.cpu.At 262 0 ∧
      m.memory = entryMemory ∧ m.FetchesOn InstructionCpu.readmeAnswer (fun _ => []) 7 m₁ ∧
        m₁.FetchesOn InstructionCpu.readmeAnswer (fun _ => []) 6 m' ∧
          m'.tick = fetchAt 0x0201 := by
  constructor
  · obtain ⟨m, hreachable, hready, hregisters, hmemory⟩ := exists_ready entryMemory
    have hpc : m.cpu.pc = 0x0200 := congrArg Registers.pc hregisters
    have hs : m.cpu.s = 0xC0 := congrArg Registers.s hregisters
    have hop : m.opcode = 0 := by
      rw [InstructionCpu.opcode, hpc, hmemory]
      rfl
    have hvector : m.vectored 0xFFFE = 0x0300 := by
      rw [InstructionCpu.vectored, hmemory]
      rfl
    have henters : m.Entering flagB 0xFFFE (m.cpu.pc + 2) :=
      ⟨.brk hready.dispatching hop, hready.tick⟩
    obtain ⟨m₁, m', hfetches, _, _, _, hfetches', htick, _⟩ :=
      interrupt_return henters (still_quiet hready.runs 7)
        (by rw [hvector, hmemory]; decide)
        (by rw [hvector, hs]; simp [entryCells, stackAddress])
    rw [hpc] at htick
    exact ⟨m, m₁, m', hreachable, hmemory, hfetches, hfetches', htick⟩
  · obtain ⟨s, hreachable, hm, hat, htick, hidle, hpc, hs⟩ : ∃ s : Session, s.Reachable ∧
        s.1.model.toNat < 5 ∧ s.1.At 262 0 ∧ s.2 = fetchAt s.1.pc ∧ s.1.lines.idle = true ∧
          s.1.pc = 0x0201 ∧ s.1.s = 0xC0 :=
      ⟨Session.after 0 [.goto 0x0200, .input (.pin (.nmi 1)), .input (.tick 0xEA),
        .input (.tick 0xEA)], Session.after_reachable (by decide) _, by decide, by decide,
        by decide, by decide, by decide, by decide⟩
    let m : InstructionCpu := ⟨s.1, s.2, entryMemory⟩
    have hvector : ofBytes (entryMemory 0xFFFA) (entryMemory (0xFFFA + 1)) = 0x0300 ∧
        entryMemory 0x0300 = 0x40 := by decide
    have hvectored : m.vectored 0xFFFA = 0x0300 := hvector.1
    have henters : m.Entering 0 0xFFFA m.cpu.pc := ⟨.nmi hm hat, htick⟩
    have hruns : m.session.Runs :=
      ⟨@Session.Enters.waits _ (fun _ => ([], m.opcode)) _ _ _ henters.enters, hidle⟩
    have hcells : (0x0300 : Word) ∉ entryCells m.cpu.s := by
      have hstack : m.cpu.s = 0xC0 := hs
      rw [hstack]
      simp [entryCells, stackAddress]
    obtain ⟨m₁, m', hfetches, _, _, _, hfetches', htick', _⟩ :=
      interrupt_return henters (still_quiet hruns 7) (by rw [hvectored]; exact hvector.2)
        (by rw [hvectored]; exact hcells)
    have hback : m.cpu.pc = 0x0201 := hpc
    rw [hback] at htick'
    exact ⟨m, m₁, m', hreachable, hat, rfl, hfetches, hfetches', htick'⟩

end Qe6502
