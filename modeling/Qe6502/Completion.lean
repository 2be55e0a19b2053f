import Qe6502.Flow

/-!
# Complete instructions

From a dispatch a session runs to the next opcode fetch: `Session.Completes`.  What a slot
yields is what the session shows on the way, and leaves in the registers
(`Dispatching.completes`).
-/

namespace Qe6502

open StepMachine (trace first)

/-- The bytes of a stream of inputs. -/
def onBus (input : ℕ → List PinCall × Byte) (n : ℕ) : Byte := (input n).2

/-- The last beat fetches an opcode, and no other. -/
structure Ends (beats : List Beat) : Prop where
  earlier : ∀ b ∈ beats.dropLast, b.tick.fetching = false
  fetches : ∃ b ∈ beats.getLast?, b.tick.fetching = true

/-- **An instruction**: the beats of a session up to the next opcode fetch, and the session
then.  The first input has the opcode. -/
structure Session.Completes (s : Session) (input : ℕ → List PinCall × Byte) (beats : List Beat)
    (s' : Session) : Prop where
  trace : trace Session.beat s (first input beats.length) = some (beats, s')
  ends : Ends beats

theorem Ends.single {b : Beat} (h : Ends [b]) : b.tick.fetching = true := by
  obtain ⟨last, hlast, hfetch⟩ := h.fetches
  rwa [← Option.some.inj hlast] at hfetch

theorem Ends.head {b b' : Beat} {beats : List Beat} (h : Ends (b :: b' :: beats)) :
    b.tick.fetching = false := by
  refine h.earlier b ?_
  rw [List.dropLast_cons_cons]
  exact List.mem_cons_self

theorem Ends.tail {b b' : Beat} {beats : List Beat} (h : Ends (b :: b' :: beats)) :
    Ends (b' :: beats) := by
  refine ⟨fun b'' hmem => h.earlier b'' ?_, h.fetches⟩
  rw [List.dropLast_cons_cons]
  exact List.mem_cons_of_mem b hmem

theorem Ends.ne_nil (h : Ends []) : False := by
  obtain ⟨last, hlast, _⟩ := h.fetches
  cases hlast

/-- An instruction ends at the first fetch. -/
theorem Session.Completes.unique {beats₁ : List Beat} : ∀ {beats₂ : List Beat}
    {s s₁ s₂ : Session} {input : ℕ → List PinCall × Byte}, s.Completes input beats₁ s₁ →
      s.Completes input beats₂ s₂ → beats₁ = beats₂ ∧ s₁ = s₂ := by
  induction beats₁ with
  | nil => exact fun h₁ _ => h₁.ends.ne_nil.elim
  | cons b₁ beats₁ ih =>
    intro beats₂ s s₁ s₂ input h₁ h₂
    cases beats₂ with
    | nil => exact h₂.ends.ne_nil.elim
    | cons b₂ beats₂ =>
      obtain ⟨htrace₁, hends₁⟩ := h₁
      obtain ⟨htrace₂, hends₂⟩ := h₂
      rw [List.length_cons, StepMachine.first_succ_cons] at htrace₁ htrace₂
      obtain ⟨_, s', _, hstep, htail₁, heq₁⟩ := StepMachine.trace_cons_inv htrace₁
      obtain ⟨_, s'', _, hstep', htail₂, heq₂⟩ := StepMachine.trace_cons_inv htrace₂
      obtain ⟨rfl, rfl⟩ := List.cons.inj heq₁
      obtain ⟨rfl, rfl⟩ := List.cons.inj heq₂
      obtain ⟨rfl, rfl⟩ := Prod.mk.inj (Option.some.inj (hstep.symm.trans hstep'))
      cases beats₁ with
      | nil =>
        cases beats₂ with
        | nil =>
          cases htail₁
          cases htail₂
          exact ⟨rfl, rfl⟩
        | cons b₂ beats₂ => exact absurd (hends₁.single.symm.trans hends₂.head) (by decide)
      | cons b₁' beats₁ =>
        cases beats₂ with
        | nil => exact absurd (hends₂.single.symm.trans hends₁.head) (by decide)
        | cons b₂ beats₂ =>
          obtain ⟨hbeats, hs⟩ := ih ⟨htail₁, hends₁.tail⟩ ⟨htail₂, hends₂.tail⟩
          rw [hbeats]
          exact ⟨rfl, hs⟩

namespace Session

theorem last_tick {beats : List Beat} : ∀ {s s' : Session} {cycles : List (List PinCall × Byte)},
    StepMachine.trace Session.beat s cycles = some (beats, s') →
      ∀ b ∈ beats.getLast?, b.tick = s'.2 := by
  induction beats with
  | nil => exact fun _ _ hb => nomatch hb
  | cons b beats ih =>
    intro s s' cycles htrace last hlast
    cases cycles with
    | nil => cases htrace
    | cons c cycles =>
      obtain ⟨_, s₁, _, hbeat, htail, heq⟩ := StepMachine.trace_cons_inv htrace
      obtain ⟨rfl, rfl⟩ := List.cons.inj heq
      cases beats with
      | nil =>
        have hlength := StepMachine.trace_length htail
        obtain rfl := List.eq_nil_of_length_eq_zero hlength.symm
        cases htail
        rw [← Option.some.inj hlast]
        exact tick_of_beat hbeat
      | cons b' beats =>
        rw [List.getLast?_cons_cons] at hlast
        exact ih htail last hlast

/-- The tick that ends an instruction is the last of its session. -/
theorem Completes.fetching {s s' : Session} {input : ℕ → List PinCall × Byte} {beats : List Beat}
    (h : s.Completes input beats s') : s'.2.fetching = true := by
  obtain ⟨b, hb, hfetch⟩ := h.ends.fetches
  rw [← last_tick h.trace b hb]
  exact hfetch

end Session

theorem fetchAt_fetching (pc : Word) : (fetchAt pc).fetching = true := by
  have hstatus : decide (statusOpcodeFetch &&& statusOpcodeFetch ≠ 0) = true := by decide
  exact hstatus

theorem Ends.snoc {beats : List Beat} (h : ∀ b ∈ beats, b.tick.fetching = false) (pc : Word) :
    Ends (beats ++ [quiet (fetchAt pc)]) := by
  refine ⟨?_, quiet (fetchAt pc), ?_, fetchAt_fetching pc⟩
  · rw [List.dropLast_concat]
    exact h
  · rw [List.getLast?_concat]
    rfl

theorem Ends.cons {b : Beat} {beats : List Beat} (hb : b.tick.fetching = false)
    (h : Ends beats) : Ends (b :: beats) := by
  obtain ⟨hearlier, last, hlast, hfetch⟩ := h
  cases beats with
  | nil => cases hlast
  | cons b' beats =>
    refine ⟨?_, last, hlast, hfetch⟩
    rw [List.dropLast_cons_cons]
    exact List.forall_mem_cons.mpr ⟨hb, hearlier⟩

/-- The requests of the course are reads and writes. -/
def Course.plain (c : Course) : Bool := (c.requests ++ [c.last]).all fun t => !t.fetching

theorem Course.ends {c : Course} (h : c.plain = true) : Ends c.beats := by
  refine Ends.snoc (fun b hb => ?_) c.next
  have hall : ∀ t ∈ c.requests ++ [c.last], t.fetching = false := by
    intro t ht
    simpa using List.all_eq_true.mp h t ht
  rw [List.mem_append, List.mem_map, List.mem_singleton] at hb
  rcases hb with ⟨t, ht, rfl⟩ | rfl
  · exact hall t (List.mem_append_left _ ht)
  · exact hall c.last (List.mem_append_right _ (List.mem_singleton_self _))

@[simp] theorem read_fetching (a : Word) : (read a).fetching = false := by
  have hstatus : decide ((0 : Byte) &&& statusOpcodeFetch ≠ 0) = false := by decide
  exact hstatus

@[simp] theorem write_fetching (a : Word) (b : Byte) : (write a b).fetching = false := by
  have hstatus : decide (statusWriting &&& statusOpcodeFetch ≠ 0) = false := by decide
  exact hstatus

section plain

variable (cmos fixes : Bool) (mode : Mode) (cpu : Cpu) (bus : ℕ → Byte)

theorem readCourse_plain : (readCourse cmos fixes mode cpu bus).plain = true := by
  simp [Course.plain, readCourse]

theorem decimalCourse_plain (dummy : Word) :
    (decimalCourse fixes mode dummy cpu bus).plain = true := by
  simp [Course.plain, decimalCourse]

theorem writeCourse_plain (value : Byte) : (writeCourse cmos mode value cpu bus).plain = true := by
  simp [Course.plain, writeCourse]

theorem unstableCourse_plain (value : Byte) :
    (unstableCourse mode value cpu bus).plain = true := by
  simp [Course.plain, unstableCourse]

theorem modifyCourse_plain (value : Byte) :
    (modifyCourse cmos fixes mode value cpu bus).plain = true := by
  cases cmos <;> simp [Course.plain, modifyCourse]

end plain

/-- The context in which the first handler of an opcode runs. -/
def Cpu.opened (cpu : Cpu) (opcode : Byte) : Cpu := (dispatched cpu opcode).base opcode.toNat

/-- The registers after the opcode has been read. -/
def Cpu.decoded (cpu : Cpu) : Registers := { cpu.registers with pc := cpu.pc + 1 }

theorem opened_registers (cpu : Cpu) (opcode : Byte) :
    (cpu.opened opcode).registers = cpu.decoded := rfl

theorem Session.Dispatching.completes {s : Session} (hd : s.Dispatching)
    {input : ℕ → List PinCall × Byte} {entries : Slot}
    (hslot : slotAt s.1.model.toNat (input 0).2.toNat = some entries)
    (hstays : entries.stays = true)
    {beats : List Beat} {r : Registers}
    (hquiet : entries.pushes = false ∨ StepMachine.Always Session.cycle Session.Uninterrupted
      (s.dispatched (input 0).2) (first input beats.length))
    (hyields : entries.Yields (s.1.opened (input 0).2) (onBus input) beats r)
    (hends : Ends beats) :
    ∃ s', s.Completes input beats s' ∧ s'.1.model = s.1.model ∧ s'.1.registers = r := by
  obtain ⟨p, hreach, rfl⟩ := hyields
  obtain ⟨n, hn⟩ : ∃ n, beats.length = n + 1 := by
    obtain ⟨b, hb, _⟩ := hends.fetches
    cases beats with
    | nil => cases hb
    | cons b' beats => exact ⟨beats.length, rfl⟩
  have htrace : trace (Phase.step entries) (Phase.start s.1 (input 0).2)
      ((input 0 :: first (fun k => input (k + 1)) n).map Prod.snd) = some (beats, p) := by
    rw [← StepMachine.first_succ_cons, ← hn, first, List.map_map]
    exact hreach
  rw [hn, StepMachine.first_succ_cons] at hquiet
  obtain ⟨s', hs', hmodel, hbase⟩ := dispatch_trace hd hslot hstays htrace hends.earlier hquiet
  rw [← StepMachine.first_succ_cons, ← hn] at hs'
  refine ⟨s', ⟨hs', hends⟩, hmodel, ?_⟩
  rw [← hbase]
  rfl

/-- After `qe6502_goto` a session waits for the opcode at the address. -/
theorem goto_dispatching : (Session.after 2 [.goto 0x0200]).Dispatching :=
  ⟨by decide, 261, 1, by decide, by decide⟩

/-! ### The slots of the instructions -/

/-- Apart from a jam every instruction stays in its slot, and apart from BRK none has a
push-status cycle. -/
def Instruction.keeps (model : Nat) (i : Instruction) : Bool :=
  (i.slot model).all fun entries =>
    (i.mnemonic = .kil || entries.stays) && (i.mnemonic = .brk || !entries.pushes)

theorem instructions_keep : ∀ model < 5,
    instructionTables[model]?.all (List.all · (Instruction.keeps model)) = true := by
  decide +kernel

/-- What holds of all instructions of the tables holds of the one of an opcode. -/
theorem instruction_rule {P : Nat → Instruction → Bool}
    (hall : ∀ model < 5, instructionTables[model]?.all (List.all · (P model)) = true) {model : Nat}
    (hm : model < 5) {opcode : Byte} {i : Instruction} (hi : instructionAt model opcode = some i) :
    P model i = true := by
  rw [instructionAt] at hi
  obtain ⟨table, htable, hget⟩ := Option.bind_eq_some_iff.mp hi
  have htables := hall model hm
  rw [htable, Option.all_some, List.all_eq_true] at htables
  exact htables i (List.mem_of_getElem? hget)

/-- **The slot of an opcode** is that of the shape of its instruction. -/
theorem slot_of_instruction {model : Nat} (hm : model < 5) {opcode : Byte} {i : Instruction}
    (hi : instructionAt model opcode = some i) :
    ∃ shape entries, i.shape model = some shape ∧ shape.slot = some entries ∧
      slotAt model opcode.toNat = some entries ∧
        (i.mnemonic ≠ .kil → entries.stays = true) ∧
          (i.mnemonic ≠ .brk → entries.pushes = false) := by
  obtain ⟨i', shape, entries, hi', hshape, hslot, hat⟩ := slotAt_shape hm opcode
  obtain rfl := Option.some.inj (hi.symm.trans hi')
  have hkeeps : i.keeps model = true := instruction_rule instructions_keep hm hi
  have hentries : i.slot model = some entries := by
    rw [Instruction.slot, hshape]
    exact hslot
  rw [Instruction.keeps, hentries, Option.all_some, Bool.and_eq_true, Bool.or_eq_true,
    Bool.or_eq_true, decide_eq_true_eq, decide_eq_true_eq, Bool.not_eq_true'] at hkeeps
  exact ⟨shape, entries, hshape, hslot, hat, hkeeps.1.resolve_left, hkeeps.2.resolve_left⟩

theorem slot_of_at {model : Nat} (hm : model < 5) {opcode : Byte} {i : Instruction}
    (hi : instructionAt model opcode = some i) {entries : Slot}
    (hat : slotAt model opcode.toNat = some entries) : i.slot model = some entries := by
  obtain ⟨shape, entries', hshape, hslot, hat', _⟩ := slot_of_instruction hm hi
  obtain rfl := Option.some.inj (hat'.symm.trans hat)
  rw [Instruction.slot, hshape]
  exact hslot

end Qe6502
