import Qe6502.Durations

/-!
# The machine refines the interpreter

In plain memory a machine is at its fetches where the interpreter is, after exactly the ticks that
the interpreter counts: `machine_interprets`.
-/

namespace Qe6502

open StepMachine (trace first)

theorem Jammed.pins {cpu : Cpu} (hj : Jammed cpu) (calls : List PinCall) :
    Jammed (calls.foldl PinCall.apply cpu) ∧
      (calls.foldl PinCall.apply cpu).registers = cpu.registers := by
  obtain ⟨interrupts, hijack, hpins⟩ := pins_eq calls cpu
  rw [hpins]
  exact ⟨hj, rfl⟩

namespace InstructionCpu

variable {answer : Tick → (Word → Byte) → Byte} {m m' m'' : InstructionCpu} {n k : ℕ}

/-! ### Runs of the host -/

/-- A host that moves no pin iterates its cycle. -/
theorem hostRun_iterate (n : ℕ) (m : InstructionCpu) :
    hostRun answer (List.replicate n []) m = Simulation.iterate (hostCycle answer) n m := by
  induction n generalizing m with
  | zero => rfl
  | succ n ih => exact congrArg (Option.bind (m.hostCycle answer)) (funext ih)

/-- The next opcode fetch is the first. -/
theorem Fetches.unique (h : m.Fetches answer n m') (h' : m.Fetches answer k m'') :
    n = k ∧ m' = m'' := by
  rcases lt_trichotomy n k with hlt | rfl | hlt
  · have hnot := h'.earlier n hlt h.later m' h.run
    rw [h.fetching] at hnot
    cases hnot
  · exact ⟨rfl, Option.some.inj (h.run.symm.trans h'.run)⟩
  · have hnot := h.earlier k hlt h'.later m'' h'.run
    rw [h'.fetching] at hnot
    cases hnot

/-- A run of the host shows a tick of the session's. -/
theorem shown_of_trace {pins : ℕ → List PinCall} {beats : List Beat} {s' : Session}
    (htrace : trace Session.beat m.session (first (m.inputsOn answer pins) n) = some (beats, s'))
    (hpos : 0 < k) (hk : k ≤ n) (hrun : hostRun answer (first pins k) m = some m') :
    m'.tick ∈ beats.map Beat.tick := by
  obtain ⟨s'', htrace'⟩ := StepMachine.trace_take htrace k
  rw [StepMachine.first_take _ hk] at htrace'
  have hlength : (beats.take k).length = k :=
    (StepMachine.trace_length htrace').trans (by simp [first])
  obtain ⟨m'', hrun', hsession, _⟩ : ∃ m'', hostRun answer (first pins (beats.take k).length) m =
      some m'' ∧ m''.session = s'' ∧ _ := hostRun_of_trace (by rw [hlength]; exact htrace')
  rw [hlength] at hrun'
  obtain rfl := Option.some.inj (hrun.symm.trans hrun')
  obtain ⟨b, hb⟩ := Option.isSome_iff_exists.mp
    (List.getLast?_isSome.mpr (List.ne_nil_of_length_pos (hlength ▸ hpos)))
  have htick : m'.tick = s''.2 := congrArg Prod.snd hsession
  rw [htick, ← Session.last_tick htrace' b hb]
  exact List.mem_map_of_mem (List.mem_of_mem_take (List.mem_of_getLast? hb))

namespace Stands

variable {model : Byte} {r : Registers} {memory : Word → Byte}

/-- A ready machine takes the ticks that its slot does. -/
theorem takes (h : m.Stands model r memory) {entries : Slot}
    (hslot : slotAt model.toNat (memory r.pc).toNat = some entries)
    (hstays : entries.stays = true)
    (htakes : entries.Takes answer memory (m.cpu.opened m.opcode) n) :
    ∃ m', m.Fetches answer n m' := by
  obtain ⟨beats, r', hyields, hends, hfed⟩ := htakes (onBus (m.inputs answer))
  obtain ⟨m', hfetches, _, _, _, _, hrequests⟩ :=
    h.ready.instruction answer (by rw [h.model, h.opcode]; exact hslot) hstays hyields hends
  rw [requests, fed_fetchAt, h.memory] at hrequests
  rw [hfed hrequests.2] at hfetches
  exact ⟨m', hfetches⟩

theorem decoded (h : m.Stands model r memory) : m.cpu.decoded = { r with pc := r.pc + 1 } :=
  congrArg (fun r : Registers => { r with pc := r.pc + 1 }) h.registers

/-- **An instruction of a ready machine** is that of the interpreter. -/
theorem steps (h : m.Stands model r memory) {s' : Isa.State}
    (hstep : Isa.step model.toNat (r, memory) = some s') :
    ∃ m', m.Fetches answer (Isa.ticks model.toNat (r, memory)) m' ∧ m'.Stands model s'.1 s'.2 := by
  obtain ⟨i, hi, hexecute⟩ := Option.bind_eq_some_iff.mp hstep
  have hi : instructionAt model.toNat (memory r.pc) = some i := hi
  have hkil : i.mnemonic ≠ .kil := by
    intro hkil
    rw [execute_kil h.supported hi hkil] at hexecute
    cases hexecute
  obtain ⟨entries, does, hat, hstays, hdoes, hslot⟩ :=
    Instruction.slot_does h.supported hi hkil answer memory m.cpu
  have htakes := Instruction.slot_takes h.supported hi hkil hat answer memory m.cpu
  rw [h.decoded] at hdoes htakes
  obtain rfl := Option.some.inj (hdoes.symm.trans hexecute)
  have hopcode : m.opcode = memory r.pc := h.opcode
  rw [← hopcode] at hslot htakes
  obtain ⟨k, m', hfetches, hafter⟩ := h.does hat hstays hslot
  obtain ⟨m'', hfetches'⟩ := h.takes hat hstays htakes
  obtain ⟨rfl, rfl⟩ := hfetches.unique hfetches'
  refine ⟨m', ?_, hafter⟩
  have hticks : Isa.ticks model.toNat (r, memory) =
      i.ticks model.toNat m.opcode { r with pc := r.pc + 1 } memory := by
    rw [Isa.ticks, hi, hopcode]
    rfl
  rw [hticks]
  exact hfetches

end Stands

/-! ### Jams -/

/-- A jammed machine stays where it is. -/
theorem jammed_run {schedule : List (List PinCall)} (hj : Jammed m.cpu)
    (hwritten : m.tick.written = none) : ∃ m', hostRun answer schedule m = some m' ∧
      (schedule ≠ [] → m'.tick = jamTick) ∧ Jammed m'.cpu ∧ m'.memory = m.memory ∧
        m'.cpu.registers = m.cpu.registers := by
  induction schedule generalizing m with
  | nil => exact ⟨m, rfl, fun h => absurd rfl h, hj, rfl, rfl⟩
  | cons calls schedule ih =>
    obtain ⟨hj₀, hregisters₀⟩ := hj.pins calls
    obtain ⟨r, hr, hj', htick, hregisters⟩ := hj₀.tick (m.tick.answered answer m.memory)
    have hcycle : m.session.cycle (calls, m.tick.answered answer m.memory) = some r := hr
    have hhost := hostCycle_of_cycle hcycle
    rw [hwritten] at hhost
    have hnone : r.2.written = none := by
      rw [htick]
      decide
    obtain ⟨m', hm', htick', hjammed, hmemory, hregisters'⟩ :=
      @ih ⟨r.1, r.2, written m.memory (none : Option (Word × Byte)).toList⟩ hj' hnone
    refine ⟨m', ?_, fun _ => ?_, hjammed, hmemory,
      hregisters'.trans (hregisters.trans hregisters₀)⟩
    · rw [hostRun, hhost]
      exact hm'
    · cases schedule with
      | nil =>
        obtain rfl := Option.some.inj hm'
        exact htick
      | cons calls' schedule => exact htick' (List.cons_ne_nil _ _)

end InstructionCpu

/-- **A KIL opcode** comes to the handler that jams in four ticks. -/
theorem Session.Dispatching.comes_to_jam {s : Session} (hd : s.Dispatching)
    (input : ℕ → List PinCall × Byte)
    (hslot : slotAt s.1.model.toNat (input 0).2.toNat = some kilJam) :
    ∃ beats s', trace Session.beat s (first input 4) = some (beats, s') ∧
      beats.map Beat.tick = [read (s.1.pc + 1), read 0xFFFF, read 0xFFFE, read 0xFFFE] ∧
      Jammed s'.1 ∧ s'.1.registers = s.1.decoded := by
  have hf := hd.follows (input 0).2
  obtain ⟨s₁, hb₁, hf₁, hm₁⟩ := hf.plain (c := input 0) hslot (h := .mcReadPc) rfl rfl rfl rfl
    (read_fetching _)
  rw [← hd.beat] at hb₁
  obtain ⟨s₂, hb₂, hf₂, hm₂⟩ := hf₁.plain (c := input 1) (hm₁ ▸ hslot) (h := .mcKilJamReadFfff) rfl
    rfl rfl rfl (read_fetching _)
  obtain ⟨s₃, hb₃, hf₃, hm₃⟩ := hf₂.plain (c := input 2) (hm₂ ▸ hm₁ ▸ hslot) (h := .mcReadFffe) rfl
    rfl rfl rfl (read_fetching _)
  obtain ⟨s₄, hb₄, hf₄, hm₄⟩ := hf₃.plain (c := input 3) (hm₃ ▸ hm₂ ▸ hm₁ ▸ hslot)
    (h := .mcReadFffe) rfl rfl rfl rfl (read_fetching _)
  have hend : trace Session.beat s₄ [] = some ([], s₄) := rfl
  refine ⟨_, s₄, StepMachine.trace_cons hb₁ (StepMachine.trace_cons hb₂
    (StepMachine.trace_cons hb₃ (StepMachine.trace_cons hb₄ hend))), rfl, ?_, ?_⟩
  · obtain ⟨_, hat, _⟩ := hf₄
    have hmodel : s₄.1.model = s.1.model := hm₄.trans (hm₃.trans (hm₂.trans hm₁))
    refine ⟨_, _, hat, ?_⟩
    rw [hmodel]
    exact congrArg (·.bind (·[4]?)) hslot
  · obtain ⟨_, _, hcpu⟩ := hf₄
    exact congrArg Cpu.registers hcpu

namespace InstructionCpu

variable {answer : Tick → (Word → Byte) → Byte} {m : InstructionCpu} {pins : ℕ → List PinCall}
  {k : ℕ}

/-- **A KIL of the host**, whatever the pins do: nothing is fetched or written any more, and from
the fifth tick on the machine reports the jam. -/
theorem kil_run (hd : m.session.Dispatching) (htick : m.tick = fetchAt m.cpu.pc)
    (hslot : slotAt m.cpu.model.toNat m.opcode.toNat = some kilJam) (hk : 0 < k) :
    ∃ m', hostRun answer (first pins k) m = some m' ∧ m'.tick.fetching = false ∧
      m'.memory = m.memory ∧ (k ≤ 4 → m'.tick.status = 0) ∧
        (4 < k → m'.tick = jamTick ∧ m'.cpu.registers = m.cpu.decoded) := by
  have hopcode : (m.inputsOn answer pins 0).2 = m.opcode := input_opcode htick
  obtain ⟨beats, s', htrace, hticks, hjammed, hregisters⟩ :=
    hd.comes_to_jam (m.inputsOn answer pins) (by rw [hopcode]; exact hslot)
  have hquiet : ∀ t ∈ beats.map Beat.tick, t.status = 0 ∧ t.written = none := by
    have hread : ∀ a : Word, (read a).status = 0 := fun _ => rfl
    rw [hticks]
    simp [hread]
  have hplain : ∀ t : Tick, t.status = 0 → t.fetching = false := by
    intro t ht
    rw [Tick.fetching, ht]
    decide
  have hreads : ∀ j ≤ 4, ∃ m', hostRun answer (first pins j) m = some m' ∧
      m'.memory = m.memory ∧ (j = 4 → m'.session = s') := by
    intro j hj
    obtain ⟨s'', htrace'⟩ := StepMachine.trace_take htrace j
    rw [StepMachine.first_take _ hj] at htrace'
    have hlength : (beats.take j).length = j :=
      (StepMachine.trace_length htrace').trans (by simp [first])
    obtain ⟨m', hrun, hsession, hmemory, _⟩ : ∃ m', hostRun answer (first pins
        (beats.take j).length) m = some m' ∧ m'.session = s'' ∧ m'.memory = written m.memory
          ((m.tick :: (beats.take j).map Beat.tick).dropLast.filterMap Tick.written) ∧ _ :=
      hostRun_of_trace (by rw [hlength]; exact htrace')
    rw [hlength] at hrun
    refine ⟨m', hrun, ?_, ?_⟩
    · have hnone : (m.tick :: (beats.take j).map Beat.tick).dropLast.filterMap Tick.written =
          [] := by
        refine List.filterMap_eq_nil_iff.mpr fun t ht => ?_
        rcases List.mem_cons.mp (List.mem_of_mem_dropLast ht) with rfl | ht
        · rw [htick, fetchAt_written]
        · rw [List.map_take] at ht
          exact (hquiet t (List.mem_of_mem_take ht)).2
      rw [hmemory, hnone]
      rfl
    · rintro rfl
      obtain ⟨_, rfl⟩ := Prod.mk.inj (Option.some.inj (htrace.symm.trans htrace'))
      exact hsession
  by_cases hlow : k ≤ 4
  · obtain ⟨m', hrun, hmemory, _⟩ := hreads k hlow
    have hstatus := (hquiet _ (shown_of_trace htrace hk hlow hrun)).1
    exact ⟨m', hrun, hplain _ hstatus, hmemory, fun _ => hstatus,
      fun hlt => absurd hlow (by omega)⟩
  · obtain ⟨m₄, hrun₄, hmemory₄, hsession⟩ := hreads 4 (le_refl 4)
    have hcpu : m₄.cpu = s'.1 := congrArg Prod.fst (hsession rfl)
    obtain ⟨m', hrun, hjam, _, hmemory, hregisters'⟩ := @jammed_run answer m₄
      ((first pins k).drop 4) (hcpu ▸ hjammed)
      (hquiet _ (shown_of_trace htrace (by omega) (le_refl 4) hrun₄)).2
    have hrest : (first pins k).drop 4 ≠ [] := List.ne_nil_of_length_pos (by simp [first]; omega)
    refine ⟨m', ?_, ?_, hmemory.trans hmemory₄, fun hle => absurd hle hlow,
      fun _ => ⟨hjam hrest, ?_⟩⟩
    · rw [← List.take_append_drop 4 (first pins k), StepMachine.first_take _ (by omega),
        hostRun_append, hrun₄]
      exact hrun
    · rw [hjam hrest]
      exact jamTick_quiet.1
    · rw [hregisters', hcpu]
      exact hregisters

namespace Stands

variable {model : Byte} {r : Registers} {memory : Word → Byte}

/-- Only a jam has no next state. -/
theorem kil_of_none (h : m.Stands model r memory)
    (hnone : Isa.step model.toNat (r, memory) = none) :
    slotAt model.toNat (memory r.pc).toNat = some kilJam := by
  obtain ⟨i, _, _, hi, _⟩ := slotAt_shape h.supported (memory r.pc)
  refine Session.slotAt_kil h.supported hi ?_
  by_contra hkil
  obtain ⟨_, does, _, _, hdoes, _⟩ :=
    Instruction.slot_does h.supported hi hkil (fun _ _ => 0) memory m.cpu
  rw [h.decoded] at hdoes
  have hsome : Isa.step model.toNat (r, memory) = some does := by
    rw [Isa.step, hi]
    exact hdoes
  rw [hnone] at hsome
  cases hsome

/-- **A jam of a ready machine.** -/
theorem jams (h : m.Stands model r memory) (hnone : Isa.step model.toNat (r, memory) = none)
    (hk : 0 < k) : ∃ m', Simulation.iterate (hostCycle answer) k m = some m' ∧
      m'.tick.fetching = false ∧ m'.memory = memory ∧
        (4 < k → m'.tick = jamTick ∧ m'.cpu.registers = { r with pc := r.pc + 1 }) := by
  have hslot : slotAt m.cpu.model.toNat m.opcode.toNat = some kilJam := by
    rw [h.model, h.opcode]
    exact h.kil_of_none hnone
  obtain ⟨m', hrun, hfetching, hmemory, _, hjam⟩ :=
    @kil_run answer m (fun _ => []) k h.ready.dispatching h.ready.tick hslot hk
  rw [first_still, hostRun_iterate] at hrun
  rw [h.memory] at hmemory
  rw [h.decoded] at hjam
  exact ⟨m', hrun, hfetching, hmemory, hjam⟩

end Stands

end InstructionCpu

/-! ### Refinement -/

namespace InstructionCpu

/-- **The machine simulates the interpreter** at its opcode fetches. -/
theorem simulates (answer : Tick → (Word → Byte) → Byte) (model : Byte) :
    Simulation.Simulates (hostCycle answer) (fun m => m.tick.fetching = true)
      (Isa.step model.toNat) (Isa.ticks model.toNat) (fun m s => m.Stands model s.1 s.2) := by
  constructor
  · intro m s s' h hstep
    obtain ⟨m', hfetches, hafter⟩ := @Stands.steps answer _ _ _ _ h _ hstep
    refine ⟨hfetches.later, ⟨m', ?_, hafter⟩, fun k hpos hk m'' hrun => ?_⟩
    · rw [← hostRun_iterate]
      exact hfetches.run
    · rw [← hostRun_iterate] at hrun
      rw [hfetches.earlier k hk hpos m'' hrun]
      exact Bool.false_ne_true
  · intro m s h hnone k hk
    obtain ⟨m', hrun, hfetching, _⟩ := @Stands.jams answer _ _ _ _ _ h hnone hk
    refine ⟨m', hrun, ?_⟩
    rw [hfetching]
    exact Bool.false_ne_true

end InstructionCpu

/-- **The machine refines the interpreter.**  In plain memory and with no interrupt, a machine
that is ready with some registers and some memory fetches an opcode after exactly the ticks, and
with the registers and the memory, that the interpreter of its model has after some number of
instructions, and at every such time; undocumented opcodes and decimal mode are no exception.
When the interpreter stops at a jam, the machine fetches no more, and the memory and all the
registers but the program counter stay. -/
theorem machine_interprets {answer : Tick → (Word → Byte) → Byte} {m : InstructionCpu}
    {model : Byte} {r : Registers} {memory : Word → Byte} (h : m.Stands model r memory) :
    (∀ n s', Isa.run model.toNat n (r, memory) = some s' → ∃ m', InstructionCpu.hostRun answer
        (List.replicate (Isa.time model.toNat n (r, memory)) []) m = some m' ∧
          m'.Stands model s'.1 s'.2) ∧
    (∀ k m', InstructionCpu.hostRun answer (List.replicate k []) m = some m' →
      m'.tick.fetching = true → ∃ n s', Isa.run model.toNat n (r, memory) = some s' ∧
        k = Isa.time model.toNat n (r, memory) ∧ m'.Stands model s'.1 s'.2) ∧
    ∀ n, Isa.run model.toNat n (r, memory) = none → ∃ n' s', n' < n ∧
      Isa.run model.toNat n' (r, memory) = some s' ∧
        ∀ k, Isa.time model.toNat n' (r, memory) + 4 < k → ∃ m',
          InstructionCpu.hostRun answer (List.replicate k []) m = some m' ∧ m'.tick = jamTick ∧
            m'.memory = s'.2 ∧ m'.cpu.registers = { s'.1 with pc := s'.1.pc + 1 } := by
  have hsim := InstructionCpu.simulates answer model
  simp only [InstructionCpu.hostRun_iterate]
  refine ⟨fun n s' hrun => hsim.run (s := m) (t := (r, memory)) h hrun,
    fun k m' hrun hfetching => hsim.shown (s := m) (t := (r, memory)) h hrun hfetching,
    fun n hnone => ?_⟩
  obtain ⟨n', s', _, hn, hrun, hstep, rfl, _⟩ :=
    hsim.stops_showing (s := m) (t := (r, memory)) h hnone
  refine ⟨n', s', hn, hrun, fun k hk => ?_⟩
  obtain ⟨m₁, hm₁, hstands⟩ := hsim.run (s := m) (t := (r, memory)) h hrun
  have hle : Isa.time model.toNat n' (r, memory) ≤ k := by omega
  obtain ⟨j, rfl⟩ := Nat.exists_eq_add_of_le hle
  have hpos : 0 < j := by omega
  obtain ⟨m', hm', _, hmemory, hjam⟩ :=
    @InstructionCpu.Stands.jams answer _ _ _ _ _ hstands hstep hpos
  obtain ⟨htick, hregisters⟩ := hjam (by omega)
  refine ⟨m', ?_, htick, hmemory, hregisters⟩
  have hm₁ : Simulation.iterate (InstructionCpu.hostCycle answer)
      (Isa.time model.toNat n' (r, memory)) m = some m₁ := hm₁
  rw [Simulation.iterate_add, hm₁]
  exact hm'

/-- Two INC $EEEE behind a restart in a memory of 0xEE, which change the first one's opcode. -/
theorem machine_interprets_restart : ∃ m m' : InstructionCpu,
    InstructionCpu.hostRun InstructionCpu.readmeAnswer (List.replicate 12 []) m = some m' ∧
      m.cpu.pc = 0xEEEE ∧ m'.cpu.pc = 0xEEF4 ∧ m'.memory 0xEEEE = 0xF0 := by
  obtain ⟨m, _, hstands⟩ := @InstructionCpu.restart_stands InstructionCpu.readmeAnswer
    (Session.after 0 []).1 (by decide) fun _ => 0xEE
  obtain ⟨hruns, _⟩ := @machine_interprets InstructionCpu.readmeAnswer _ _ _ _ hstands
  obtain ⟨m', hm', hafter⟩ := hruns 2 _ rfl
  refine ⟨m, m', hm', congrArg Registers.pc hstands.registers, ?_, ?_⟩
  · exact (congrArg Registers.pc hafter.registers).trans (by decide)
  · exact (congrFun hafter.memory 0xEEEE).trans (by decide)

end Qe6502
