import Qe6502.Completion

/-!
# The jam

The last handler of the KIL slots stays in its place, and its tick neither fetches nor samples, so
that nothing the resolver holds can lead away from it: `jam_absorbing`.
-/

namespace Qe6502

open StepMachine (final trace first)

/-- The tick of a jammed CPU. -/
def jamTick : Tick := ⟨0xFFFF, 0xFF, statusCpuJammed⟩

theorem jamTick_quiet : jamTick.fetching = false ∧ jamTick.status &&& statusWriting = 0 := by
  decide

/-- The context stands on the handler that jams. -/
def Jammed (cpu : Cpu) : Prop :=
  ∃ slot cycle, cpu.At slot cycle ∧
    entryAt cpu.model.toNat slot cycle = some (.handler .opKilJamRFfffPendingDataLoop)

/-- No other handler reports a jam. -/
theorem jam_handler {h : Handler} {e : Exit} (hmem : e ∈ h.exits)
    (hjam : e.status &&& statusCpuJammed ≠ 0) : h = .opKilJamRFfffPendingDataLoop := by
  have hall : ∀ h : Handler, h ≠ .opKilJamRFfffPendingDataLoop →
      ∀ e ∈ h.exits, e.status &&& statusCpuJammed = 0 := by
    intro h
    cases h <;> decide
  by_contra hne
  exact hjam (hall h hne e hmem)

/-- **A jammed tick** leaves the context where it is. -/
theorem Jammed.execute {cpu : Cpu} {bus : Byte} {slot cycle : Nat} {cpu₀ : Cpu} {h : Handler}
    (hx : Executes cpu bus slot cycle h cpu₀) (hh : h = .opKilJamRFfffPendingDataLoop) :
    Jammed (execute h cpu₀ bus).1 ∧ (execute h cpu₀ bus).2 = jamTick ∧
      (execute h cpu₀ bus).1.registers = cpu₀.registers := by
  subst hh
  obtain ⟨hat, hentry⟩ := hx.entry
  have hmodel : (Qe6502.execute .opKilJamRFfffPendingDataLoop cpu₀ bus).1.model = cpu₀.model :=
    execute_model
  obtain ⟨interrupts, hijack, index, hframe⟩ :=
    execute_frame .opKilJamRFfffPendingDataLoop cpu₀ bus
  have htick : (Qe6502.execute .opKilJamRFfffPendingDataLoop cpu₀ bus).2 = jamTick := execute_tick
  obtain ⟨e, slot', cycle', hleads⟩ := execute_place hx
  have he : e.move = .stay := by
    have hmem := hleads.mem
    rw [Handler.exits, List.mem_singleton] at hmem
    rw [hmem]
  have hnone : (unitTick .opKilJamRFfffPendingDataLoop cpu₀ bus).2 = none := by
    cases hentered : (unitTick .opKilJamRFfffPendingDataLoop cpu₀ bus).2 with
    | none => rfl
    | some entered =>
      rcases entered_cases hentered with hfetch | hpush
      · rw [htick] at hfetch
        cases hfetch
      · cases hpush
  obtain ⟨hslot, hcycle⟩ := hleads.of_none hnone
  rw [he] at hslot hcycle
  refine ⟨⟨slot, cycle, ?_, ?_⟩, htick, ?_⟩
  · have hplace := hleads.place
    rw [hslot, hcycle] at hplace
    exact hplace
  · rw [hmodel]
    exact hentry
  · rw [hframe]
    rfl

theorem Jammed.tick {cpu : Cpu} (hj : Jammed cpu) (bus : Byte) : ∃ r, Qe6502.tick cpu bus = some r ∧
    Jammed r.1 ∧ r.2 = jamTick ∧ r.1.registers = cpu.registers := by
  obtain ⟨slot, cycle, hat, hentry⟩ := hj
  have hx : Executes cpu bus slot cycle .opKilJamRFfffPendingDataLoop cpu := .direct hat hentry
  exact ⟨_, tick_of_executes hx, Jammed.execute hx rfl⟩

theorem Jammed.pin {cpu : Cpu} (hj : Jammed cpu) (p : PinCall) :
    Jammed (p.apply cpu) ∧ (p.apply cpu).registers = cpu.registers := by
  rw [PinCall.apply_eq]
  exact ⟨hj, rfl⟩

namespace Session

/-- **A reported jam** comes from the handler that jams. -/
theorem reachable_jammed {s : Session} (h : s.Reachable)
    (hjam : s.2.status &&& statusCpuJammed ≠ 0) : Jammed s.1 ∧ s.2 = jamTick := by
  refine reachable_invariant
    (fun s => s.2.status &&& statusCpuJammed ≠ 0 → Jammed s.1 ∧ s.2 = jamTick) ?_ ?_ h hjam
  · intro cpu _ hjam
    rw [restart_tick] at hjam
    exact absurd rfl hjam
  · intro s c s' hp hinv heffect hjam
    have hexecuted : ∀ {cpu cpu₀ : Cpu} {bus : Byte} {slot cycle : Nat} {h : Handler},
        Executes cpu bus slot cycle h cpu₀ →
        (execute h cpu₀ bus).2.status &&& statusCpuJammed ≠ 0 →
        Jammed (execute h cpu₀ bus).1 ∧ (execute h cpu₀ bus).2 = jamTick := by
      intro cpu cpu₀ bus slot cycle h hx hjam
      obtain ⟨e, hmem, htook⟩ := execute_exit h cpu₀ bus
      rw [htook.status] at hjam
      obtain ⟨hjammed, htick, _⟩ := Jammed.execute hx (jam_handler hmem hjam)
      exact ⟨hjammed, htick⟩
    cases heffect with
    | tick hx => exact hexecuted hx hjam
    | pin p =>
      obtain ⟨hjammed, htick⟩ := hinv hjam
      exact ⟨hjammed, htick⟩
    | goto address => exact hexecuted (redirected_executes hp.supported address) hjam
    | restart =>
      rw [restart_tick] at hjam
      exact absurd rfl hjam

/-- **A jam lasts** over any ticks and pin calls. -/
theorem jammed_run : ∀ {inputs : List Input} {s : Session}, Jammed s.1 → s.2 = jamTick →
    ∃ s', final step s inputs = some s' ∧ s'.2 = jamTick ∧ s'.1.registers = s.1.registers := by
  intro inputs
  induction inputs with
  | nil => exact fun {s} _ htick => ⟨s, rfl, htick, rfl⟩
  | cons i inputs ih =>
    intro s hj htick
    obtain ⟨s₁, hs₁, hj₁, htick₁, hr₁⟩ : ∃ s₁, s.step i = some s₁ ∧ Jammed s₁.1 ∧
        s₁.2 = jamTick ∧ s₁.1.registers = s.1.registers := by
      cases i with
      | tick bus => exact hj.tick bus
      | pin p =>
        obtain ⟨hj', hr⟩ := hj.pin p
        exact ⟨_, rfl, hj', htick, hr⟩
    obtain ⟨s', hs', htick', hr'⟩ := ih hj₁ htick₁
    refine ⟨s', ?_, htick', hr'.trans hr₁⟩
    rw [StepMachine.final_cons, hs₁, Option.bind_some]
    exact hs'

/-! ### The way into the jam -/

section follows

variable {slot : Nat} {entries : Slot} {p p' : Phase} {s : Session} {b : Beat}
  {c : List PinCall × Byte}

/-- A tick of a handler that flows, other than a push of the status or a fetch. -/
theorem Follows.plain (hf : Follows slot p s) (hslot : slotAt s.1.model.toNat slot = some entries)
    {h : Handler} (hget : entries[p.cycle]? = some (.handler h)) (hflow : h.flows = true)
    (hpush : h.isPush = false) (hstep : p.step entries c.2 = some (b, p'))
    (hb : b.tick.fetching = false) :
    ∃ s', s.beat c = some (b, s') ∧ Follows slot p' s' ∧ s'.1.model = s.1.model := by
  obtain ⟨h', s', hget', hbeat, hs', hh, hmodel, _, hnext⟩ := hf.step hslot hstep
  obtain rfl : h = h' := Entry.handler.inj (Option.some.inj (hget.symm.trans hget'))
  exact ⟨s', hbeat, hnext hflow (uninterrupted_of_plain hh hpush (hs' ▸ hbeat) hb), hmodel⟩

end follows

/-- The shape of a KIL opcode. -/
theorem kil_shape : ∀ model < 5, instructionTables[model]?.all (List.all · fun i =>
    i.mnemonic ≠ .kil || i.slot model = some kilJam) = true := by
  decide +kernel

theorem slotAt_kil {model : Nat} (hm : model < 5) {opcode : Byte} {i : Instruction}
    (hi : instructionAt model opcode = some i) (hkil : i.mnemonic = .kil) :
    slotAt model opcode.toNat = some kilJam := by
  obtain ⟨shape, entries, hshape, hslot, hat, _⟩ := slot_of_instruction hm hi
  have hrule := instruction_rule kil_shape hm hi
  have hentries : i.slot model = some entries := by
    rw [Instruction.slot, hshape]
    exact hslot
  rw [decide_eq_false (not_not.mpr hkil), Bool.false_or, decide_eq_true_eq, hentries] at hrule
  rw [hat, hrule]

/-- **A KIL opcode jams** in the fifth tick after its fetch, whatever the pins do. -/
theorem Dispatching.jams {s : Session} (hd : s.Dispatching) (input : ℕ → List PinCall × Byte)
    (hslot : slotAt s.1.model.toNat (input 0).2.toNat = some kilJam) :
    ∃ beats s', trace Session.beat s (first input 5) = some (beats, s') ∧
      beats.map Beat.tick = [read (s.1.pc + 1), read 0xFFFF, read 0xFFFE, read 0xFFFE, jamTick] ∧
      s'.2 = jamTick ∧ s'.1.registers = s.1.decoded := by
  have hf := hd.follows (input 0).2
  obtain ⟨s₁, hb₁, hf₁, hm₁⟩ := hf.plain (c := input 0) hslot (h := .mcReadPc) rfl rfl rfl rfl
    (read_fetching _)
  rw [← hd.beat] at hb₁
  obtain ⟨s₂, hb₂, hf₂, hm₂⟩ := hf₁.plain (c := input 1) (hm₁ ▸ hslot) (h := .mcKilJamReadFfff) rfl
    rfl rfl rfl (read_fetching _)
  obtain ⟨s₃, hb₃, hf₃, hm₃⟩ := hf₂.plain (c := input 2) (hm₂ ▸ hm₁ ▸ hslot) (h := .mcReadFffe) rfl
    rfl rfl rfl (read_fetching _)
  obtain ⟨s₄, hb₄, hf₄, hm₄⟩ := hf₃.plain (c := input 3) (hm₃ ▸ hm₂ ▸ hm₁ ▸ hslot)
    (h := .mcReadFffe) rfl rfl rfl rfl (read_fetching _)
  obtain ⟨h, s₅, hget, hb₅, hs₅, _, _, hbase, _⟩ := hf₄.step (c := input 4)
    (hm₄ ▸ hm₃ ▸ hm₂ ▸ hm₁ ▸ hslot) rfl
  have hend : trace Session.beat s₅ [] = some ([], s₅) := rfl
  have htrace := StepMachine.trace_cons hb₁ (StepMachine.trace_cons hb₂
    (StepMachine.trace_cons hb₃ (StepMachine.trace_cons hb₄ (StepMachine.trace_cons hb₅ hend))))
  refine ⟨_, s₅, htrace, rfl, (tick_of_beat hb₅).symm, ?_⟩
  exact congrArg Cpu.registers hbase

end Session

/-- **The jam is absorbing.**  Once a tick has reported a jam, every later tick of any ticks and
pin calls reports it again, reads nothing new, writes nothing and fetches nothing, and the
registers stay.  A KIL opcode that is dispatched comes to the jam in the fifth tick after its
fetch and not before, whatever the pins do meanwhile. -/
theorem jam_absorbing :
    (∀ s : Session, s.Reachable → s.2.status &&& statusCpuJammed ≠ 0 →
      ∀ inputs : List Input, ∃ s', final Session.step s inputs = some s' ∧
        s'.2 = ⟨0xFFFF, 0xFF, statusCpuJammed⟩ ∧ s'.2.status &&& statusWriting = 0 ∧
          s'.2.fetching = false ∧ s'.1.registers = s.1.registers) ∧
    ∀ (s : Session) (i : Instruction) (input : ℕ → List PinCall × Byte), s.Dispatching →
      instructionAt s.1.model.toNat (input 0).2 = some i → i.mnemonic = .kil →
      ∃ beats s', trace Session.beat s (first input 5) = some (beats, s') ∧
        beats.map Beat.tick =
          [read (s.1.pc + 1), read 0xFFFF, read 0xFFFE, read 0xFFFE, jamTick] ∧
        s'.2 = jamTick ∧ s'.1.registers = s.1.decoded := by
  constructor
  · intro s hs hjam inputs
    obtain ⟨hjammed, htick⟩ := Session.reachable_jammed hs hjam
    obtain ⟨s', hs', htick', hr⟩ := @Session.jammed_run inputs _ hjammed htick
    refine ⟨s', hs', htick', ?_, ?_, hr⟩
    · rw [htick']
      exact jamTick_quiet.2
    · rw [htick']
      exact jamTick_quiet.1
  · intro s i input hd hi hkil
    exact hd.jams input (Session.slotAt_kil hd.1 hi hkil)

theorem jam_absorbing_kil :
    (∀ inputs : List Input, ∃ s', final Session.step
        (Session.after 0 ([.goto 0x0200] ++ List.replicate 5 (.input (.tick 0x02)))) inputs =
          some s' ∧ s'.2 = ⟨0xFFFF, 0xFF, statusCpuJammed⟩) ∧
      ∃ beats s', trace Session.beat (Session.after 0 [.goto 0x0200])
          (first (fun _ => ([.nmi 1], 0x02)) 5) = some (beats, s') ∧ s'.2 = jamTick := by
  constructor
  · intro inputs
    have hm : (0 : Byte).toNat < 5 := by decide
    have hjam : (Session.after 0 ([.goto 0x0200] ++
        List.replicate 5 (.input (.tick 0x02)))).2.status &&& statusCpuJammed ≠ 0 := by decide
    obtain ⟨s', hs', htick, _⟩ := jam_absorbing.1 _ (Session.after_reachable hm _) hjam inputs
    exact ⟨s', hs', htick⟩
  · obtain ⟨beats, s', hs', _, htick, _⟩ := jam_absorbing.2 (Session.after 0 [.goto 0x0200])
      ⟨.kil, .imp⟩ (fun _ => ([.nmi 1], 0x02)) ⟨by decide, 261, 1, by decide, by decide⟩
      (by decide) rfl
    exact ⟨beats, s', hs', htick⟩

end Qe6502
