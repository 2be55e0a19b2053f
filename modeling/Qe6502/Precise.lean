import Qe6502.Refines

/-!
# Interrupts are precise

A machine that fetches comes to its next fetch by a whole instruction of the interpreter or by a
whole entry, whatever its pins do: `interrupts_precise`.
-/

namespace Qe6502

open StepMachine (trace first final)

/-! ### Opcode fetches -/

namespace Session

/-- The first cycle of an entry and the one after its pushes. -/
theorem inside_service {s : Session} (hm : s.1.model.toNat < 5) {slot cycle : ℕ}
    (hslot : slot = 262 ∨ slot = 263) (hcycle : cycle = 0 ∨ cycle = 4) (hat : s.1.At slot cycle) :
    s.Inside := by
  obtain ⟨entries, push, low, high, last, rest, hget, hentries⟩ := interrupt_slot hm (.inr hslot)
  have hsequence : isSequence slot = true := by rcases hslot with rfl | rfl <;> rfl
  rcases hcycle with rfl | rfl
  · refine ⟨hm, slot, 0, if slot = 0 then .mcReadPcInc else .mcReadPc, hsequence, hat, ?_⟩
    rw [entryAt, hget, hentries.handlers]
    rfl
  · refine ⟨hm, slot, 4, low, hsequence, hat, ?_⟩
    rw [entryAt, hget, hentries.handlers]
    rfl

/-- The session fetches an opcode, which an entry may discard. -/
structure Fetching (s : Session) : Prop where
  supported : s.1.model.toNat < 5
  place : s.Dispatching ∨ s.1.At 262 0 ∨ s.1.At 263 0
  tick : s.2 = fetchAt s.1.pc

theorem Fetching.waits {s : Session} (h : s.Fetching) : s.Dispatching ∨ s.Inside := by
  rcases h.place with hd | hat | hat
  · exact .inl hd
  · exact .inr (inside_service h.supported (.inl rfl) (.inl rfl) hat)
  · exact .inr (inside_service h.supported (.inr rfl) (.inl rfl) hat)

/-- A tick of an opcode or of an entry goes on in one, whatever it enters. -/
theorem waits_cycle {s s' : Session} (hs : s.Dispatching ∨ s.Inside) {c : List PinCall × Byte}
    (h : s.cycle c = some s') :
    (s'.Dispatching ∨ s'.Inside) ∧ (s'.2.fetching = true → s'.Fetching) := by
  obtain ⟨slot, cycle, hd, cpu₀, hslot, hx⟩ := executes_of_waits hs c
  obtain rfl := Option.some.inj ((tick_of_executes hx).symm.trans h)
  cases hentered : (unitTick hd cpu₀ c.2).2 with
  | none =>
    have hgoes := executes_goes hx hslot hentered
    cases hf : (execute hd cpu₀ c.2).2.fetching with
    | true =>
      rw [hf, if_pos rfl] at hgoes
      exact ⟨.inl hgoes, fun _ => ⟨hgoes.1, .inl hgoes, execute_fetching hf⟩⟩
    | false =>
      rw [hf, if_neg Bool.false_ne_true] at hgoes
      exact ⟨.inr hgoes, fun hf' => absurd hf' Bool.false_ne_true⟩
  | some entered =>
    obtain ⟨service, k⟩ := entered
    obtain ⟨e, slot', cycle', hleads⟩ := execute_place hx
    obtain ⟨hslot', hcycle'⟩ := hleads.of_entered hentered
    obtain ⟨_, hentry⟩ := hx.entry
    obtain ⟨hm, _, _⟩ := entryAt_bounds hentry
    have hmodel : (execute hd cpu₀ c.2).1.model = cpu₀.model := execute_model
    have hm' : (execute hd cpu₀ c.2).1.model.toNat < 5 := hmodel ▸ hm
    have hat : (execute hd cpu₀ c.2).1.At service.code.toNat k := by
      rw [← hslot', ← hcycle']
      exact hleads.place
    have hcode : service = .nmi ∨ service = .irq →
        service.code.toNat = 262 ∨ service.code.toNat = 263 := by
      rintro (rfl | rfl)
      · exact .inl rfl
      · exact .inr rfl
    rcases Lines.tick_entered hentered with ⟨rfl, hf, hslots⟩ | ⟨rfl, hpush⟩
    · have hwaits : (execute hd cpu₀ c.2).1.At 262 0 ∨ (execute hd cpu₀ c.2).1.At 263 0 := by
        rcases hcode hslots with hcode | hcode <;> rw [hcode] at hat
        · exact .inl hat
        · exact .inr hat
      refine ⟨.inr ?_, fun _ => ⟨hm', .inr hwaits, execute_fetching hf⟩⟩
      rcases hwaits with hwaits | hwaits
      · exact inside_service hm' (.inl rfl) (.inl rfl) hwaits
      · exact inside_service hm' (.inr rfl) (.inl rfl) hwaits
    · have hstatus : hd.statusFlag.isSome = true := by
        rcases hpush with ⟨hsignal, _⟩ | ⟨hsignal, _⟩
        · rw [handler_of_brkPush hsignal]
          rfl
        · rw [handler_of_irqPush hsignal]
          rfl
      obtain ⟨brk, hbrk⟩ := Option.isSome_iff_exists.mp hstatus
      have hplain : (execute hd cpu₀ c.2).2.fetching = false := by
        rw [execute_tick, status_run hbrk]
        exact write_fetching _ _
      refine ⟨.inr ?_, fun hf => absurd (hf.symm.trans hplain) (by decide)⟩
      have hslots : service = .nmi ∨ service = .irq := by
        rcases hpush with ⟨_, h⟩ | ⟨_, h⟩
        · exact h
        · exact .inl h
      exact inside_service hm' (hcode hslots) (.inr rfl) hat

/-- **A run** of opcodes and entries, up to a fetch. -/
theorem waits_trace {beats : List Beat} : ∀ {s s' : Session} {cycles : List (List PinCall × Byte)},
    s.Dispatching ∨ s.Inside → StepMachine.trace Session.beat s cycles = some (beats, s') →
      Ends beats → s'.Fetching := by
  induction beats with
  | nil => exact fun _ _ hends => hends.ne_nil.elim
  | cons b beats ih =>
    intro s s' cycles hs htrace hends
    cases cycles with
    | nil => cases htrace
    | cons c cycles =>
      obtain ⟨_, s₁, _, hbeat, htail, heq⟩ := StepMachine.trace_cons_inv htrace
      obtain ⟨rfl, rfl⟩ := List.cons.inj heq
      obtain ⟨hwaits, hfetching⟩ := waits_cycle hs (cycle_of_beat hbeat)
      cases beats with
      | nil =>
        obtain rfl := List.eq_nil_of_length_eq_zero (StepMachine.trace_length htail).symm
        cases htail
        exact hfetching (tick_of_beat hbeat ▸ hends.single)
      | cons b' beats => exact ih hwaits htail hends.tail

end Session

/-! ### Entries -/

section handlers

variable {h : Handler} (cpu : Cpu) (bus : Byte)

theorem statusFlag_registers (hstatus : h.statusFlag.isSome = true) :
    (h.run cpu bus).1.registers = { cpu.registers with s := cpu.s - 1 } := by
  cases h <;> first | rfl | cases hstatus
  case mcStackPushStatusB =>
    rw [Handler.run, mcStackPushStatusB_split]
    dsimp only
    split_ifs <;> rfl
  case mcIrqC3PushP =>
    rw [Handler.run, mcIrqC3PushP_split]
    dsimp only
    split_ifs <;> rfl
  case mcCmosNmiC3PushP =>
    rw [Handler.run, mcCmosNmiC3PushP, updateNmiLastSampled_eq]
    rfl

theorem statusFlag_flows (hstatus : h.statusFlag.isSome = true) :
    h.flows = true ∧ h.skips cpu bus = 0 := by
  cases h <;> first | exact ⟨rfl, rfl⟩ | cases hstatus

theorem vectorLow_registers {vector : Word} (hvector : h.vectorLow = some vector) :
    (h.run cpu bus).2 = read vector ∧ (h.run cpu bus).1.registers = cpu.registers := by
  cases h <;> cases hvector <;> exact ⟨rfl, rfl⟩

theorem vectorHigh_registers {cmos : Bool} {vector : Word}
    (hvector : h.vectorHigh = some (cmos, vector)) :
    (h.run cpu bus).2 = read vector ∧ (h.run cpu bus).1.registers =
      { cpu.registers with pc := u16SetByte cpu.pc 0 bus, p := entryFlags cmos cpu.p } := by
  refine ⟨?_, ?_⟩
  · cases h <;> cases hvector <;> rfl
  · cases h <;> cases hvector <;> first
      | rfl
      | rw [Handler.run, mcNmosNmiC5VecHi, updateNmiLastSampled_eq]
        rfl
      | rw [Handler.run, mcCmosNmiC5VecHi, cmosInterruptVectorLow, updateNmiLastSampled_eq]
        rfl
      | rw [Handler.run, mcCmosIrqC5VecHi, cmosInterruptVectorLow, updateNmiLastSampled_eq]
        rfl

theorem latchesPch_registers (hlatch : h.latchesPch = true) :
    (h.run cpu bus).2 = fetchAt (u16SetByte cpu.pc 1 bus) ∧ (h.run cpu bus).1.registers =
      { cpu.registers with pc := u16SetByte cpu.pc 1 bus } := by
  cases h <;> cases hlatch <;> exact ⟨fetch_eq_fetchAt _, rfl⟩

end handlers

/-- The vector of the slot of an entry. -/
def slotVector (slot : ℕ) : Word := if slot = 262 then 0xFFFA else 0xFFFE

/-- The slot has the pushes and the vector of an entry, and only on the NMOS models a push that
another slot may break, in BRK or in IRQ. -/
def Slot.serves (model slot : ℕ) : Slot → Bool
  | .handler start :: .handler .mcStackPushPcHigh :: .handler .mcStackPushPcLow ::
      .handler push :: .handler low :: .handler high :: .handler last :: _ =>
    start = (if slot = 0 then .mcReadPcInc else .mcReadPc) &&
      push.statusFlag = some (if slot = 0 then flagB else 0) &&
      low.vectorLow = some (slotVector slot) &&
      high.vectorHigh = some (isCmos model, slotVector slot + 1) && last.latchesPch &&
      (!push.isPush || !isCmos model && slot ≠ 262)
  | _ => false

theorem serving_slots : ∀ model < 5, ∀ slot ∈ [0, 262, 263],
    (slotAt model slot).any (Slot.serves model slot) = true := by
  decide

/-- The handlers of an entry. -/
structure Slot.Serves (entries : Slot) (model slot : ℕ) (push low high last : Handler) : Prop where
  start : entries[0]? = some (.handler (if slot = 0 then .mcReadPcInc else .mcReadPc))
  pushesHigh : entries[1]? = some (.handler .mcStackPushPcHigh)
  pushesLow : entries[2]? = some (.handler .mcStackPushPcLow)
  pushesStatus : entries[3]? = some (.handler push)
  readsLow : entries[4]? = some (.handler low)
  readsHigh : entries[5]? = some (.handler high)
  fetches : entries[6]? = some (.handler last)
  status : push.statusFlag = some (if slot = 0 then flagB else 0)
  vectorLow : low.vectorLow = some (slotVector slot)
  vectorHigh : high.vectorHigh = some (isCmos model, slotVector slot + 1)
  latches : last.latchesPch = true
  broken : push.isPush = true → isCmos model = false ∧ slot ≠ 262

theorem serving_slot {model slot : ℕ} (hm : model < 5)
    (hslot : slot = 0 ∨ slot = 262 ∨ slot = 263) :
    ∃ entries push low high last, slotAt model slot = some entries ∧
      entries.Serves model slot push low high last := by
  obtain ⟨entries, hget, hentries⟩ :=
    (Option.any_eq_true _ _).mp (serving_slots model hm slot (by simpa using hslot))
  unfold Slot.serves at hentries
  split at hentries
  · simp only [Bool.and_eq_true, Bool.or_eq_true, Bool.not_eq_true', decide_eq_true_eq] at hentries
    obtain ⟨⟨⟨⟨⟨rfl, hstatus⟩, hlow⟩, hhigh⟩, hlast⟩, hbroken⟩ := hentries
    refine ⟨_, _, _, _, _, hget, rfl, rfl, rfl, rfl, rfl, rfl, rfl, hstatus, hlow, hhigh, hlast,
      fun hpush => hbroken.resolve_left ?_⟩
    rw [hpush]
    exact Bool.noConfusion
  · cases hentries

namespace Session

variable {slot : ℕ} {cpu : Cpu} {s : Session}

/-- A tick of a handler that goes to the next. -/
theorem Follows.moves {entries : Slot} {k : ℕ} (hf : Follows slot ⟨k, cpu⟩ s)
    (hat : slotAt s.1.model.toNat slot = some entries) {h : Handler}
    (hget : entries[k]? = some (.handler h)) (hpush : h.isPush = false) {c : List PinCall × Byte}
    (hflow : h.flows = true ∧ h.skips cpu c.2 = 0) (hplain : (h.run cpu c.2).2.fetching = false) :
    ∃ b s' cpu', s.beat c = some (b, s') ∧ b.tick = (h.run cpu c.2).2 ∧
      Follows slot ⟨k + 1, cpu'⟩ s' ∧ s'.1.model = s.1.model ∧
        cpu'.registers = (h.run cpu c.2).1.registers := by
  have hstep := Phase.step_of_get (p := ⟨k, cpu⟩) hget c.2
  obtain ⟨s', hbeat, hf', hmodel⟩ := hf.plain hat hget hflow.1 hpush hstep hplain
  rw [hflow.2] at hf'
  exact ⟨_, s', _, hbeat, rfl, hf', hmodel, rfl⟩

/-- The push of the status, after which another slot may go on with its vector. -/
theorem Follows.pushes_status (hf : Follows slot ⟨3, cpu⟩ s)
    (hslot : slot = 0 ∨ slot = 262 ∨ slot = 263) {entries : Slot}
    (hat : slotAt s.1.model.toNat slot = some entries) {push low high last : Handler}
    (hserves : entries.Serves s.1.model.toNat slot push low high last)
    (c : List PinCall × Byte) : ∃ b s' slot' cpu', s.beat c = some (b, s') ∧
      b.tick = write (stackAddress cpu.s) (stackStatus cpu.p (if slot = 0 then flagB else 0)) ∧
        s'.1.model = s.1.model ∧ Follows slot' ⟨4, cpu'⟩ s' ∧
          cpu'.registers = { cpu.registers with s := cpu.s - 1 } ∧
            (slot' = 0 ∨ slot' = 262 ∨ slot' = 263) ∧ (slotVector slot' = slotVector slot ∨
              isCmos s.1.model.toNat = false ∧ slot ≠ 262 ∧ slotVector slot' = 0xFFFA) := by
  have hstatus : push.statusFlag.isSome = true := by
    rw [hserves.status]
    rfl
  have hwrite := status_run hserves.status cpu c.2
  have hregisters := statusFlag_registers cpu c.2 hstatus
  cases hpush : push.isPush with
  | false =>
    obtain ⟨b, s', cpu', hbeat, htick, hf', hmodel, hr⟩ := hf.moves hat hserves.pushesStatus hpush
      (statusFlag_flows cpu c.2 hstatus) (by rw [hwrite]; exact write_fetching _ _)
    exact ⟨b, s', slot, cpu', hbeat, htick.trans hwrite, hmodel, hf', hr.trans hregisters, hslot,
      .inl rfl⟩
  | true =>
    obtain ⟨hcmos, hne⟩ := hserves.broken hpush
    obtain ⟨b, s', slot', hbeat, htick, hmodel, hslot', hf'⟩ :=
      hf.status hat hserves.pushesStatus hserves.status c
    obtain ⟨_, s'', _, hbeat', _, _, _, hbase, _⟩ :=
      hf.step hat (Phase.step_of_get (p := ⟨3, cpu⟩) hserves.pushesStatus c.2)
    obtain ⟨_, rfl⟩ := Prod.mk.inj (Option.some.inj (hbeat.symm.trans hbeat'))
    have hr := congrArg Cpu.registers hbase
    refine ⟨b, s', slot', _, hbeat, htick, hmodel, hf', hr.trans hregisters, ?_, ?_⟩
    · rcases hslot' with rfl | h
      · exact hslot
      · exact .inr h
    · rcases hslot' with rfl | rfl | rfl
      · exact .inl rfl
      · exact .inr ⟨hcmos, hne, rfl⟩
      · refine .inl ?_
        rw [slotVector, slotVector, if_neg hne]
        rfl

/-- The end of an entry: its vector and the fetch at the address there. -/
theorem Follows.goes_through (hf : Follows slot ⟨4, cpu⟩ s)
    (hslot : slot = 0 ∨ slot = 262 ∨ slot = 263) (input : ℕ → List PinCall × Byte) :
    ∃ beats s', StepMachine.trace Session.beat s (first input 3) = some (beats, s') ∧
      beats.map Beat.tick = [read (slotVector slot), read (slotVector slot + 1),
        fetchAt (ofBytes (input 1).2 (input 2).2)] ∧ s'.1.model = s.1.model ∧
      s'.1.registers = { cpu.registers with
        pc := ofBytes (input 1).2 (input 2).2
        p := entryFlags (isCmos s.1.model.toNat) cpu.p } := by
  obtain ⟨entries, push, low, high, last, hat, hserves⟩ := serving_slot hf.supported hslot
  obtain ⟨hread₁, hrun₁⟩ := vectorLow_registers cpu (input 0).2 hserves.vectorLow
  obtain ⟨hflow₁, hpush₁, hskip₁, _⟩ :=
    vectorLow_run (by rw [hserves.vectorLow]; rfl) cpu (input 0).2
  obtain ⟨b₁, s₁, cpu₁, hbeat₁, htick₁, hf₁, hm₁, hr₁⟩ := hf.moves hat hserves.readsLow hpush₁
    ⟨hflow₁, hskip₁⟩ (by rw [hread₁]; exact read_fetching _)
  obtain ⟨hread₂, hrun₂⟩ := vectorHigh_registers cpu₁ (input 1).2 hserves.vectorHigh
  obtain ⟨hflow₂, hpush₂, hskip₂, _⟩ :=
    vectorHigh_run (by rw [hserves.vectorHigh]; rfl) cpu₁ (input 1).2
  obtain ⟨b₂, s₂, cpu₂, hbeat₂, htick₂, hf₂, hm₂, hr₂⟩ := hf₁.moves (hm₁ ▸ hat)
    hserves.readsHigh hpush₂ ⟨hflow₂, hskip₂⟩ (by rw [hread₂]; exact read_fetching _)
  obtain ⟨hfetch, hrun₃⟩ := latchesPch_registers cpu₂ (input 2).2 hserves.latches
  obtain ⟨_, s₃, _, hbeat₃, _, _, hm₃, hbase, _⟩ := hf₂.step (hm₂ ▸ hm₁ ▸ hat)
    (Phase.step_of_get (p := ⟨6, cpu₂⟩) hserves.fetches (input 2).2)
  have hpc₂ : cpu₂.pc = u16SetByte cpu₁.pc 0 (input 1).2 :=
    congrArg Registers.pc (hr₂.trans hrun₂)
  have hpc : u16SetByte cpu₂.pc 1 (input 2).2 = ofBytes (input 1).2 (input 2).2 := by
    rw [hpc₂]
    exact setByte_one_low (getByte_zero_setByte_zero _ _) _
  refine ⟨_, s₃, StepMachine.trace_cons hbeat₁ (StepMachine.trace_cons hbeat₂
    (StepMachine.trace_cons hbeat₃ (trace_nil s₃))), ?_, hm₃.trans (hm₂.trans hm₁), ?_⟩
  · rw [List.map_cons, List.map_cons, htick₁, htick₂, hread₁, hread₂, ← hpc, ← hfetch]
    rfl
  · have hr₃ := congrArg Cpu.registers hbase
    have hp₁ : cpu₁.p = cpu.p := congrArg Registers.p (hr₁.trans hrun₁)
    calc s₃.1.registers = (last.run cpu₂ (input 2).2).1.registers := hr₃
      _ = _ := by rw [hrun₃, hpc, hr₂.trans hrun₂, hr₁.trans hrun₁, hp₁]

/-- What an entry pushes as the program counter, and as B. -/
def entryBack (slot : ℕ) (pc : Word) : Word := if slot = 0 then pc + 1 else pc
def entryFlag (slot : ℕ) : Byte := if slot = 0 then flagB else 0

/-- **An entry**, whatever the pins do: on the NMOS models an NMI may take the vector of BRK or
of IRQ. -/
theorem Follows.entry (hf : Follows slot ⟨0, cpu⟩ s) (hslot : slot = 0 ∨ slot = 262 ∨ slot = 263)
    (input : ℕ → List PinCall × Byte) :
    ∃ beats s' vector, StepMachine.trace Session.beat s (first input 7) = some (beats, s') ∧
      beats.map Beat.tick = (quiet (read cpu.pc) :: entryBeats cpu (onBus input)
        (entryBack slot cpu.pc) vector (entryFlag slot)).map Beat.tick ∧
      s'.1.model = s.1.model ∧ s'.1.registers = cpu.registers.entered (isCmos s.1.model.toNat)
        (ofBytes (onBus input 5) (onBus input 6)) ∧ (vector = slotVector slot ∨
          isCmos s.1.model.toNat = false ∧ slot ≠ 262 ∧ vector = 0xFFFA) := by
  obtain ⟨entries, push, low, high, last, hat, hserves⟩ := serving_slot hf.supported hslot
  obtain ⟨b₀, s₁, cpu₁, hbeat₀, htick₀, hf₁, hm₁, hr₁⟩ := hf.begins hat hserves.start (input 0)
  obtain ⟨b₁, s₂, cpu₂, hbeat₁, htick₁, hf₂, hm₂, hr₂⟩ :=
    hf₁.pushes (hm₁ ▸ hat) hserves.pushesHigh (.inl ⟨rfl, rfl⟩) (input 1)
  have hm₂ := hm₂.trans hm₁
  obtain ⟨b₂, s₃, cpu₃, hbeat₂, htick₂, hf₃, hm₃, hr₃⟩ :=
    hf₂.pushes (hm₂ ▸ hat) hserves.pushesLow (.inr ⟨rfl, rfl⟩) (input 2)
  have hm₃ := hm₃.trans hm₂
  obtain ⟨b₃, s₄, slot', cpu₄, hbeat₃, htick₃, hm₄, hf₄, hr₄, hslot', hvector⟩ :=
    hf₃.pushes_status hslot (hm₃ ▸ hat) (hm₃ ▸ hserves) (input 3)
  have hm₄ := hm₄.trans hm₃
  obtain ⟨beats, s', htrace, hticks, hm', hr'⟩ :=
    hf₄.goes_through hslot' fun k => input (k + 4)
  have hs₁ : cpu₁.s = cpu.s := congrArg Registers.s hr₁
  have hs₂ : cpu₂.s = cpu₁.s - 1 := congrArg Registers.s hr₂
  have hs₃ : cpu₃.s = cpu₂.s - 1 := congrArg Registers.s hr₃
  have hpc₁ : cpu₁.pc = if slot = 0 then cpu.pc + 1 else cpu.pc := congrArg Registers.pc hr₁
  have hpc₂ : cpu₂.pc = cpu₁.pc := congrArg Registers.pc hr₂
  refine ⟨_, s', slotVector slot', StepMachine.trace_cons hbeat₀ (StepMachine.trace_cons hbeat₁
    (StepMachine.trace_cons hbeat₂ (StepMachine.trace_cons hbeat₃ htrace))), ?_, hm'.trans hm₄,
    ?_, hm₃ ▸ hvector⟩
  · have hp₁ : cpu₁.p = cpu.p := congrArg Registers.p hr₁
    have hp₂ : cpu₂.p = cpu₁.p := congrArg Registers.p hr₂
    have hp₃ : cpu₃.p = cpu₂.p := congrArg Registers.p hr₃
    simp only [List.map_cons, hticks, htick₀, htick₁, htick₂, htick₃, hs₃, hs₂, hs₁, hp₃, hp₂, hp₁,
      hpc₂, hpc₁]
    rfl
  · have hregisters : cpu₄.registers =
        { cpu.registers with pc := cpu₁.pc, s := cpu.s - 1 - 1 - 1 } := by
      rw [hr₄, hs₃, hs₂, hs₁, hr₃, hr₂, hr₁, hpc₁]
    have hp : cpu₄.p = cpu.p := congrArg Registers.p hregisters
    rw [hr', hp, hregisters, hm₄]
    rfl

/-- BRK enters from a dispatch. -/
theorem Dispatching.enters (hd : s.Dispatching) (input : ℕ → List PinCall × Byte)
    (hopcode : (input 0).2 = 0) :
    ∃ beats s' vector, StepMachine.trace Session.beat s (first input 7) = some (beats, s') ∧
      beats.map Beat.tick = (quiet (read (s.1.pc + 1)) :: entryBeats s.1 (onBus input)
        (s.1.pc + 2) vector flagB).map Beat.tick ∧
      s'.1.model = s.1.model ∧ s'.1.registers = s.1.registers.entered (isCmos s.1.model.toNat)
        (ofBytes (onBus input 5) (onBus input 6)) ∧ (vector = 0xFFFE ∨
          isCmos s.1.model.toNat = false ∧ vector = 0xFFFA) := by
  have hf := hd.follows (input 0).2
  rw [hopcode] at hf
  obtain ⟨beats, s', vector, htrace, hticks, hmodel, hregisters, hvector⟩ :=
    hf.entry (.inl rfl) input
  rw [StepMachine.first_succ_cons, StepMachine.trace_step, ← hopcode, ← hd.beat (input 0)] at htrace
  refine ⟨beats, s', vector, htrace, ?_, hmodel, hregisters, ?_⟩
  · have hback : s.1.pc + 1 + 1 = s.1.pc + 2 := BitVec.add_assoc _ _ _
    rw [hticks, ← hback]
    rfl
  · rcases hvector with hvector | ⟨hcmos, _, hvector⟩
    · exact .inl hvector
    · exact .inr ⟨hcmos, hvector⟩

end Session

theorem Ends.of_ticks {beats beats' : List Beat}
    (hticks : beats.map Beat.tick = beats'.map Beat.tick)
    (hends : Ends beats') : Ends beats := by
  constructor
  · intro b hb
    have hmem : b.tick ∈ beats'.dropLast.map Beat.tick := by
      rw [List.map_dropLast, ← hticks, ← List.map_dropLast]
      exact List.mem_map_of_mem hb
    obtain ⟨b', hb', htick⟩ := List.mem_map.mp hmem
    exact htick ▸ hends.earlier b' hb'
  · obtain ⟨b', hb', hfetch⟩ := hends.fetches
    have hlast : beats.getLast?.map Beat.tick = some b'.tick := by
      rw [← List.getLast?_map, hticks, List.getLast?_map, hb']
      rfl
    obtain ⟨b, hb, htick⟩ := Option.map_eq_some_iff.mp hlast
    exact ⟨b, hb, htick ▸ hfetch⟩

/-! ### Machines -/

namespace Isa

/-- **What comes between two fetches**: an instruction, an interrupt, or on the NMOS models a BRK
that an NMI takes over. -/
inductive Next (model : ℕ) (s : State) : State → Prop
  | instruction {s' : State} : step model s = some s' → Next model s s'
  | interrupt {vector : Word} : vector = 0xFFFA ∨ vector = 0xFFFE →
      Next model s (enters s.1 s.2 (isCmos model) s.1.pc vector 0)
  | hijacked : isCmos model = false → s.2 s.1.pc = 0 →
      Next model s (enters s.1 s.2 (isCmos model) (s.1.pc + 2) 0xFFFA flagB)

theorem brk_instructions : ∀ model < 5, instructionAt model 0 = some ⟨.brk, .imp⟩ := by
  decide

theorem step_brk {model : ℕ} (hm : model < 5) {s : State} (hopcode : s.2 s.1.pc = 0) :
    step model s = some (enters s.1 s.2 (isCmos model) (s.1.pc + 2) 0xFFFE flagB) := by
  have hback : s.1.pc + 1 + 1 = s.1.pc + 2 := BitVec.add_assoc _ _ _
  rw [step, hopcode, brk_instructions model hm, ← hback]
  rfl

end Isa

namespace InstructionCpu

variable {answer : Tick → (Word → Byte) → Byte} {m : InstructionCpu} {pins : ℕ → List PinCall}

/-- The state of the interpreter. -/
def isa (m : InstructionCpu) : Isa.State := (m.cpu.registers, m.memory)

/-- An entry of the host. -/
theorem fetches_entry (hf : m.session.Fetching) {beats : List Beat} {s' : Session}
    {start back : Word}
    {vector : Word} {flag : Byte} (htrace : trace Session.beat m.session
      (first (m.inputsOn answer pins) 7) = some (beats, s'))
    (hticks : beats.map Beat.tick = (quiet (read start) :: entryBeats m.cpu
      (onBus (m.inputsOn answer pins)) back vector flag).map Beat.tick)
    (hregisters : s'.1.registers = m.cpu.registers.entered (isCmos m.cpu.model.toNat)
      (ofBytes (onBus (m.inputsOn answer pins) 5) (onBus (m.inputsOn answer pins) 6))) :
    ∃ m', m.FetchesOn answer pins 7 m' ∧ m'.session = s' ∧ m'.session.Fetching ∧ m'.isa =
      enters m.cpu.registers m.memory (isCmos m.cpu.model.toNat) back vector flag := by
  have hends : Ends beats := Ends.of_ticks hticks (entryBeats_ends _ _ _ _)
  have hlength : beats.length = 7 := by
    rw [← List.length_map (f := Beat.tick), hticks]
    rfl
  have hcompletes : m.session.Completes (m.inputsOn answer pins) beats s' :=
    ⟨by rw [hlength]; exact htrace, hends⟩
  have hf' := Session.waits_trace hf.waits htrace hends
  obtain ⟨m', hfetches, hsession, hmemory, hfed⟩ :=
    fetches_of_completes hcompletes hf.tick hf'.tick
  rw [requests, hticks] at hfed
  obtain ⟨hlow, hhigh⟩ := fed_entry hfed
  rw [writes_ticks, hticks, ← writes_ticks, writes_entryBeats] at hmemory
  have hr : m'.cpu.registers = s'.1.registers :=
    congrArg (fun s : Session => s.1.registers) hsession
  refine ⟨m', hlength ▸ hfetches, hsession, hsession ▸ hf', Prod.ext ?_ hmemory⟩
  calc m'.cpu.registers = _ := hr.trans hregisters
    _ = _ := by rw [hlow, hhigh]; rfl

/-- An instruction that no interrupt breaks, whatever the pins do. -/
theorem fetches_plain (hf : m.session.Fetching) (hd : m.session.Dispatching) {i : Instruction}
    (hi : instructionAt m.cpu.model.toNat m.opcode = some i) (hkil : i.mnemonic ≠ .kil)
    (hbrk : i.mnemonic ≠ .brk) : ∃ n m', m.FetchesOn answer pins n m' ∧
      m'.session.Fetching ∧ m'.cpu.model = m.cpu.model ∧
        Isa.step m.cpu.model.toNat m.isa = some m'.isa := by
  obtain ⟨_, entries, _, _, hat, _, hpushes⟩ := slot_of_instruction hd.1 hi
  obtain ⟨entries', does, hat', hstays, hexecute, hdoes⟩ :=
    Instruction.slot_does hd.1 hi hkil answer m.memory m.cpu
  obtain rfl := Option.some.inj (hat.symm.trans hat')
  have hopcode : (m.inputsOn answer pins 0).2 = m.opcode := input_opcode hf.tick
  obtain ⟨beats, r, hyields, hends, hfed⟩ := hdoes (onBus (m.inputsOn answer pins))
  rw [← hopcode] at hat hyields
  obtain ⟨s', hs', hmodel, hregisters⟩ :=
    hd.completes hat hstays (.inl (hpushes hbrk)) hyields hends
  have hf' := Session.waits_trace hf.waits hs'.trace hends
  obtain ⟨m', hfetches, hsession, hmemory, hrequests⟩ :=
    fetches_of_completes hs' hf.tick hf'.tick
  rw [requests, fed_fetchAt] at hrequests
  obtain ⟨hr, hwritten⟩ := hfed hrequests.2
  refine ⟨_, m', hfetches, hsession ▸ hf', ?_, ?_⟩
  · exact (congrArg (fun s : Session => s.1.model) hsession).trans hmodel
  · have hr' : m'.cpu.registers = does.1 :=
      (congrArg (fun s : Session => s.1.registers) hsession).trans (hregisters.trans hr)
    have hisa : m'.isa = does := Prod.ext hr' (hmemory.trans hwritten)
    have hi : instructionAt m.cpu.model.toNat (m.isa.2 m.isa.1.pc) = some i := hi
    rw [hisa, Isa.step, hi]
    exact hexecute

/-- **From one fetch to the next.** -/
theorem fetches_next (hf : m.session.Fetching) (pins : ℕ → List PinCall) :
    (∃ n m', m.FetchesOn answer pins n m' ∧ m'.session.Fetching ∧ m'.cpu.model = m.cpu.model ∧
      Isa.Next m.cpu.model.toNat m.isa m'.isa) ∨
    m.session.Dispatching ∧ slotAt m.cpu.model.toNat m.opcode.toNat = some kilJam ∧
      Isa.step m.cpu.model.toNat m.isa = none := by
  rcases hf.place with hd | hat
  · obtain ⟨i, _, _, hi, _⟩ := slotAt_shape hd.1 m.opcode
    by_cases hkil : i.mnemonic = .kil
    · have hi' : instructionAt m.cpu.model.toNat (m.isa.2 m.isa.1.pc) = some i := hi
      refine .inr ⟨hd, Session.slotAt_kil hd.1 hi hkil, ?_⟩
      rw [Isa.step, hi']
      exact execute_kil hd.1 hi hkil _ _
    by_cases hbrk : i.mnemonic = .brk
    · left
      have hopcode := brk_opcode hd.1 hi hbrk
      obtain ⟨beats, s', vector, htrace, hticks, hmodel, hregisters, hvector⟩ :=
        hd.enters (m.inputsOn answer pins) ((input_opcode hf.tick).trans hopcode)
      obtain ⟨m', hfetches, hsession, hf', hisa⟩ := fetches_entry hf htrace hticks hregisters
      refine ⟨7, m', hfetches, hf',
        (congrArg (fun s : Session => s.1.model) hsession).trans hmodel, ?_⟩
      rw [hisa]
      rcases hvector with rfl | ⟨hcmos, rfl⟩
      · exact .instruction (Isa.step_brk hd.1 hopcode)
      · exact .hijacked hcmos hopcode
    · obtain ⟨n, m', hfetches, hf', hmodel, hstep⟩ :=
        @fetches_plain answer _ pins hf hd _ hi hkil hbrk
      exact .inl ⟨n, m', hfetches, hf', hmodel, .instruction hstep⟩
  · left
    obtain ⟨slot, hslot, hat⟩ : ∃ slot, (slot = 262 ∨ slot = 263) ∧ m.session.1.At slot 0 := by
      rcases hat with hat | hat
      · exact ⟨262, .inl rfl, hat⟩
      · exact ⟨263, .inr rfl, hat⟩
    have hne : slot ≠ 0 := by omega
    have hfollows : m.session.Follows slot ⟨0, m.session.1.base slot⟩ := ⟨hf.supported, hat, rfl⟩
    obtain ⟨beats, s', vector, htrace, hticks, hmodel, hregisters, hvector⟩ :=
      hfollows.entry (.inr hslot) (m.inputsOn answer pins)
    obtain ⟨m', hfetches, hsession, hf', hisa⟩ := fetches_entry hf htrace hticks hregisters
    refine ⟨7, m', hfetches, hf',
        (congrArg (fun s : Session => s.1.model) hsession).trans hmodel, ?_⟩
    rw [hisa, Session.entryBack, Session.entryFlag, if_neg hne, if_neg hne]
    refine .interrupt ?_
    rcases hvector with rfl | ⟨_, _, rfl⟩
    · rcases hslot with rfl | rfl
      · exact .inl rfl
      · exact .inr rfl
    · exact .inl rfl

/-- An iteration of the host, with pin calls before it. -/
def hostStep (answer : Tick → (Word → Byte) → Byte) (m : InstructionCpu) (calls : List PinCall) :
    Option InstructionCpu :=
  ({ m with cpu := calls.foldl PinCall.apply m.cpu } : InstructionCpu).hostCycle answer

/-- An iteration from an opcode or an entry is a cycle of the session. -/
theorem hostStep_cycle (hm : m.session.Dispatching ∨ m.session.Inside) (calls : List PinCall) :
    ∃ m', m.hostStep answer calls = some m' ∧
      m.session.cycle (calls, m.tick.answered answer m.memory) = some m'.session := by
  obtain ⟨slot, cycle, h, cpu, _, hx⟩ :=
    Session.executes_of_waits hm (calls, m.tick.answered answer m.memory)
  have hcycle : m.session.cycle (calls, m.tick.answered answer m.memory) = some _ :=
    tick_of_executes hx
  exact ⟨_, hostCycle_of_cycle hcycle, hcycle⟩

theorem hostStep_waits (hm : m.session.Dispatching ∨ m.session.Inside) (calls : List PinCall) :
    ∃ m', m.hostStep answer calls = some m' ∧ (m'.session.Dispatching ∨ m'.session.Inside) := by
  obtain ⟨m', hm', hcycle⟩ := hostStep_cycle hm calls
  exact ⟨m', hm', (Session.waits_cycle hm hcycle).1⟩

theorem hostRun_final {schedule : List (List PinCall)} :
    hostRun answer schedule m = final (hostStep answer) m schedule := by
  induction schedule generalizing m with
  | nil => rfl
  | cons calls schedule ih =>
    exact congrArg (Option.bind (m.hostStep answer calls)) (funext fun _ => ih)

theorem first_getD {ι : Type*} {is : List ι} {i : ι} {k : ℕ} (hk : k ≤ is.length) :
    first (fun k => is.getD k i) k = is.take k := by
  refine List.ext_getElem (by simp [first, hk]) fun n hn hn' => ?_
  have hlt : n < is.length := by
    rw [List.length_take] at hn'
    omega
  simp [first, hlt]

/-- **A fetch comes from a fetch.** -/
theorem fetches_return (answer : Tick → (Word → Byte) → Byte) (model : Byte) :
    Simulation.Returns (hostStep answer) (fun m => m.tick.fetching = true)
      (fun m => m.session.Fetching ∧ m.cpu.model = model) isa (Isa.Next model.toNat) := by
  rintro m m' schedule ⟨hf, rfl⟩ hne hrun hshows hhidden
  have hpos : 0 < schedule.length := List.length_pos_of_ne_nil hne
  have hrun' :
      hostRun answer (first (fun k => schedule.getD k []) schedule.length) m = some m' := by
    rw [first_getD (le_refl _), List.take_length, hostRun_final]
    exact hrun
  rcases @fetches_next answer m hf fun k => schedule.getD k [] with
    ⟨n, m₁, hfetches, hf', hmodel, hnext⟩ | ⟨hd, hslot, _⟩
  · rcases lt_trichotomy n schedule.length with hlt | rfl | hlt
    · refine absurd hfetches.fetching (hhidden n hfetches.later hlt m₁ ?_)
      rw [← hostRun_final, ← first_getD hlt.le]
      exact hfetches.run
    · obtain rfl := Option.some.inj (hfetches.run.symm.trans hrun')
      exact ⟨⟨hf', hmodel⟩, hnext⟩
    · rw [hfetches.earlier _ hlt hpos m' hrun'] at hshows
      cases hshows
  · obtain ⟨m'', hrun'', hfetching, _⟩ := kil_run hd hf.tick hslot hpos
    obtain rfl := Option.some.inj (hrun''.symm.trans hrun')
    rw [hfetching] at hshows
    cases hshows

end InstructionCpu

/-- **Interrupts are precise.**  Take a machine in plain memory at an opcode fetch, and any pin
calls before any of its cycles.  Between every two opcode fetches in a row the registers and the
memory have changed by one whole instruction of the interpreter, or by one entry into the vector
of NMI or of IRQ with the program counter of the fetch as its return, or on the NMOS models by a BRK
that goes through the vector of NMI; nothing is lost, done twice or half done. -/
theorem interrupts_precise (answer : Tick → (Word → Byte) → Byte) {m : InstructionCpu}
    (hf : m.session.Fetching) (schedule : List (List PinCall)) :
    ∃ ms, StepMachine.states (InstructionCpu.hostStep answer) m schedule = some ms ∧
      (∀ m' ∈ ms, m'.tick.fetching = true → m'.tick = fetchAt m'.cpu.pc) ∧
      List.IsChain (Isa.Next m.cpu.model.toNat)
        (m.isa :: (ms.filter fun m' => m'.tick.fetching).map InstructionCpu.isa) := by
  obtain ⟨ms, hrun⟩ : ∃ ms, StepMachine.states (InstructionCpu.hostStep answer) m schedule =
      some ms := StepMachine.states_isSome
    (fun _ calls hm => InstructionCpu.hostStep_waits hm calls) hf.waits
  obtain ⟨hbounds, hchain⟩ :=
    Simulation.Returns.chain (InstructionCpu.fetches_return answer m.cpu.model) ⟨hf, rfl⟩ hrun
  refine ⟨ms, hrun, fun m' hm' hfetching => (hbounds m' hm' hfetching).1.tick, ?_⟩
  simpa using hchain

/-- An NMI between two no-operations: the fetch at 0x0201 is discarded. -/
theorem interrupts_precise_nmi : ∃ (m : InstructionCpu) (ms : List InstructionCpu),
    m.cpu.pc = 0x0200 ∧ (ms.filter fun m' => m'.tick.fetching).map (fun m' => m'.cpu.pc) =
      [0x0201, 0xEAEA, 0xEAEB] ∧
      List.IsChain (Isa.Next 0)
        (m.isa :: (ms.filter fun m' => m'.tick.fetching).map InstructionCpu.isa) := by
  let m : InstructionCpu :=
    ⟨(Session.after 0 [.goto 0x0200]).1, (Session.after 0 [.goto 0x0200]).2, fun _ => 0xEA⟩
  have hf : m.session.Fetching :=
    ⟨by decide, .inl ⟨by decide, 261, 1, by decide, by decide⟩, by decide⟩
  obtain ⟨ms, hrun, _, hchain⟩ := interrupts_precise InstructionCpu.readmeAnswer hf
    ([.nmi 1] :: List.replicate 10 [])
  refine ⟨m, ms, by decide, ?_, hchain⟩
  have hfetches : (StepMachine.states (InstructionCpu.hostStep InstructionCpu.readmeAnswer) m
      ([.nmi 1] :: List.replicate 10 [])).map (fun ms =>
        (ms.filter fun m' => m'.tick.fetching).map fun m' => m'.cpu.pc) =
          some [0x0201, 0xEAEA, 0xEAEB] := by
    decide +kernel
  rw [hrun] at hfetches
  exact Option.some.inj hfetches

end Qe6502
