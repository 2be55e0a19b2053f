import Qe6502.Host

/-!
# Progress

A tick that reports an opcode fetch or a jam is a boundary.  From a boundary the next one comes
within eight ticks, from any reachable session within ten, whatever the host feeds and however
it moves the pins in between (`boundary_within`).  The bound is read off the tables: an entry
is `boundaryIn n` when each of its exits is a boundary or leads to an entry that is
`boundaryIn (n - 1)`.  Only the restart loop counts in `latch_data` and needs its own
invariant.

`stepUntilOpcodeFetch` is the loop of the instruction adapter, with its cap of 32 cycles; it
always ends at a boundary.
-/

namespace Qe6502

/-- The tick reports an opcode fetch or a jam. -/
def Tick.boundary (tick : Tick) : Bool :=
  tick.fetching || tick.status &&& statusCpuJammed ≠ 0

/-- The same of the tick an exit leaves. -/
def Exit.boundary (e : Exit) : Bool :=
  e.status &&& statusOpcodeFetch ≠ 0 || e.status &&& statusCpuJammed ≠ 0

namespace Session

/-- Whatever the host feeds and however it moves the pins before each tick, a boundary comes
within `n` ticks. -/
def BoundaryWithin : Nat → Session → Prop
  | 0, _ => False
  | n + 1, s => ∀ (calls : List PinCall) (bus : Byte),
    ∃ s', (s.pins calls).step (.tick bus) = some s' ∧
      (s'.2.boundary = true ∨ BoundaryWithin n s')

end Session

/-! ### The bound on the tables -/

/-- Every path from the entry reaches a boundary within `n` ticks. -/
def boundaryIn (model : Nat) : Nat → Nat → Slot → Nat → Bool
  | 0, _, _, _ => false
  | n + 1, slot, entries, cycle =>
    match entries[cycle]? with
    | some (.handler h) => h.exits.all fun e =>
        e.boundary ||
          let target := e.move.target slot cycle
          if target.1 = slot then boundaryIn model n slot entries target.2
          else match slotAt model target.1 with
            | some entries' => boundaryIn model n target.1 entries' target.2
            | none => false
    | _ => false

/-- The bound checked of an entry: eight ticks, but for the restart loop. -/
def boundaryInEight (model slot : Nat) (entries : Slot) (cycle : Nat) : Entry → Bool
  | .handler h => (h = .mcInternalReset && slot = 258 && cycle = 0) ||
      boundaryIn model 8 slot entries cycle
  | _ => true

theorem boundary_in_eight : entriesAll boundaryInEight = true := by decide +kernel

/-- No exit leads into the restart loop but its own. -/
def entersLoopOnlyFromLoop (_ slot : Nat) (_ : Slot) (cycle : Nat) : Entry → Bool
  | .handler h => h.exits.all fun e =>
      e.move.target slot cycle != (258, 0) ||
        (h = .mcInternalReset && slot = 258 && cycle = 0 && e.status = statusInternalReset)
  | _ => true

theorem enters_loop_only_from_loop : entriesAll entersLoopOnlyFromLoop = true := by
  decide +kernel

/-- After the loop the restart sequence reaches its first fetch within two ticks. -/
theorem boundary_after_loop : ∀ model < 5,
    (slotAt model 259).any (boundaryIn model 2 259 · 0) = true := by
  decide

theorem Exit.Took.boundary {e : Exit} {h : Handler} {cpu : Cpu} {r : Cpu × Tick}
    (ht : e.Took h cpu r) : r.2.boundary = e.boundary := by
  rw [Tick.boundary, Tick.fetching, Exit.boundary, ht.status]

theorem Tick.boundary_of_fetching {tick : Tick} (h : tick.fetching = true) :
    tick.boundary = true := by
  rw [Tick.boundary, h, Bool.true_or]

namespace Session

theorem BoundaryWithin.succ {n : Nat} : ∀ {s : Session}, BoundaryWithin n s →
    BoundaryWithin (n + 1) s := by
  induction n with
  | zero => intro s h; cases h
  | succ n ih =>
    intro s h calls bus
    obtain ⟨s', hs', hnext⟩ := h calls bus
    exact ⟨s', hs', hnext.imp_right ih⟩

theorem BoundaryWithin.mono {n m : Nat} (hle : n ≤ m) {s : Session} (h : BoundaryWithin n s) :
    BoundaryWithin m s := by
  induction hle with
  | refl => exact h
  | step _ ih => exact ih.succ

/-- Pin calls do not move a session in the control store. -/
theorem pins_at {s : Session} {slot cycle : Nat} (hat : s.1.At slot cycle)
    (calls : List PinCall) : (s.pins calls).1.At slot cycle ∧
      (s.pins calls).1.model = s.1.model ∧ (s.pins calls).1.latchData = s.1.latchData := by
  obtain ⟨interrupts, hijack, hpins⟩ := pins_eq calls s.1
  rw [pins, hpins]
  exact ⟨hat, rfl, rfl⟩

/-- One tick of an entry that is `boundaryIn (n + 1)`. -/
theorem execute_boundaryIn {cpu cpu₀ : Cpu} {bus : Byte} {slot cycle n : Nat} {h : Handler}
    {entries : Slot} (hx : Executes cpu bus slot cycle h cpu₀)
    (hslot : slotAt cpu₀.model.toNat slot = some entries)
    (hcheck : boundaryIn cpu₀.model.toNat (n + 1) slot entries cycle = true) :
    (execute h cpu₀ bus).2.boundary = true ∨ ∃ slot' cycle' entries',
      (execute h cpu₀ bus).1.At slot' cycle' ∧ slotAt cpu₀.model.toNat slot' = some entries' ∧
        boundaryIn cpu₀.model.toNat n slot' entries' cycle' = true := by
  have hentry : entries[cycle]? = some (.handler h) := by
    obtain ⟨_, hentry⟩ := hx.entry
    rwa [entryAt, hslot] at hentry
  rw [boundaryIn, hentry] at hcheck
  obtain ⟨slot', cycle', hleads⟩ := execute_leadsTo hx
  obtain ⟨e, hmem, htook, htarget | ⟨hfetch, _⟩⟩ := hleads.exit
  · have he := List.all_eq_true.mp hcheck e hmem
    rw [Bool.or_eq_true] at he
    rcases he with he | he
    · exact Or.inl (htook.boundary.trans he)
    · refine Or.inr ⟨slot', cycle', ?_⟩
      rw [← htarget] at he
      dsimp only at he
      split at he
      next hstay => exact ⟨entries, hleads.place, by rw [hstay, hslot], by rw [hstay, he]⟩
      next hleave =>
        split at he
        next entries' hslot' => exact ⟨entries', hleads.place, hslot', he⟩
        next => cases he
  · exact Or.inl (Tick.boundary_of_fetching hfetch)

/-- **A bound of the tables is a bound of the ticks.** -/
theorem boundaryWithin_of_table : ∀ {n slot cycle : Nat} (entries : Slot) {s : Session},
    slotAt s.1.model.toNat slot = some entries → s.1.At slot cycle →
      boundaryIn s.1.model.toNat n slot entries cycle = true → BoundaryWithin n s := by
  intro n
  induction n with
  | zero => intro slot cycle entries s _ _ h; cases h
  | succ n ih =>
    intro slot cycle entries s hslot hat hcheck calls bus
    obtain ⟨hat', hmodel, _⟩ := pins_at hat calls
    obtain ⟨h, hentry⟩ : ∃ h, entries[cycle]? = some (.handler h) := by
      rw [boundaryIn] at hcheck
      split at hcheck
      next h hentry => exact ⟨h, hentry⟩
      next => cases hcheck
    have hx : Executes (s.pins calls).1 bus slot cycle h (s.pins calls).1 := by
      refine .direct hat' ?_
      rw [hmodel, entryAt, hslot]
      exact hentry
    refine ⟨_, tick_of_executes hx, ?_⟩
    rw [← hmodel] at hslot hcheck
    refine (execute_boundaryIn hx hslot hcheck).imp_right ?_
    rintro ⟨slot', cycle', entries', hat₁, hslot', hcheck'⟩
    have hmodel₁ : (execute h (s.pins calls).1 bus).1.model = (s.pins calls).1.model :=
      execute_model
    rw [← hmodel₁] at hslot' hcheck'
    exact ih entries' hslot' hat₁ hcheck'

/-! ### The restart loop -/

/-- In the restart loop `latch_data` counts the ticks done, and no fetch is under way. -/
def LoopCounted (s : Session) : Prop :=
  s.1.At 258 0 → s.1.latchData.toNat < 8 ∧ s.2.fetching = false

theorem run_mcInternalReset_latchData (cpu : Cpu) (bus : Byte) :
    (Handler.mcInternalReset.run cpu bus).1.latchData = cpu.latchData + 1 := by
  dsimp only [Handler.run, mcInternalReset]
  split <;> rfl

theorem run_mcInternalReset_status (cpu : Cpu) (bus : Byte) :
    (Handler.mcInternalReset.run cpu bus).2.status =
      if cpu.latchData + 1 = 8 then 0 else statusInternalReset := by
  dsimp only [Handler.run, mcInternalReset]
  split
  · rfl
  · exact internalReset_status _

theorem execute_mcInternalReset (cpu : Cpu) (bus : Byte) :
    (execute .mcInternalReset cpu bus).1.latchData = cpu.latchData + 1 ∧
      (execute .mcInternalReset cpu bus).2.status =
        if cpu.latchData + 1 = 8 then 0 else statusInternalReset := by
  obtain ⟨_, _, _, hframe⟩ := execute_frame .mcInternalReset cpu bus
  rw [hframe, execute_tick, run_mcInternalReset_status]
  exact ⟨run_mcInternalReset_latchData _ _, rfl⟩

theorem loopCounted_execute {cpu cpu₀ : Cpu} {bus : Byte} {slot cycle : Nat} {h : Handler}
    (hx : Executes cpu bus slot cycle h cpu₀) (hcount : cpu.At 258 0 → cpu.latchData.toNat < 8) :
    LoopCounted (execute h cpu₀ bus) := by
  intro hat
  have hleads := leadsTo_of_at hx (by omega) (by omega) hat
  obtain ⟨e, hmem, htook, htarget | ⟨_, hservice, _⟩⟩ := hleads.exit
  · obtain ⟨_, hentry⟩ := hx.entry
    obtain ⟨_, _, hloop⟩ := forall_entries enters_loop_only_from_loop hentry
    have he := List.all_eq_true.mp hloop e hmem
    simp only [← htarget, bne_self_eq_false, Bool.false_or, Bool.and_eq_true,
      decide_eq_true_eq] at he
    obtain ⟨⟨⟨rfl, rfl⟩, rfl⟩, hstatus⟩ := he
    obtain rfl := hx.direct_of_service (by omega)
    have hlt := hcount hx.entry.1
    obtain ⟨hlatch, hstatus'⟩ := execute_mcInternalReset cpu₀ bus
    rw [htook.status, hstatus] at hstatus'
    have hne : cpu₀.latchData + 1 ≠ 8 := by
      intro h8
      rw [if_pos h8] at hstatus'
      exact absurd hstatus' (by decide)
    refine ⟨?_, ?_⟩
    · rw [hlatch]
      have hne' : (cpu₀.latchData + 1).toNat ≠ 8 := fun h => hne (BitVec.eq_of_toNat_eq h)
      rw [BitVec.toNat_add] at hne' ⊢
      have hone : (1 : Byte).toNat = 1 := rfl
      omega
    · rw [Tick.fetching, htook.status, hstatus]
      decide
  · omega

theorem loopCounted_restart (cpu : Cpu) : LoopCounted (Qe6502.restart cpu) := by
  intro _
  refine ⟨by show (0 : Byte).toNat < 8; decide, ?_⟩
  rw [restart_tick]
  decide

theorem reachable_loopCounted {s : Session} (h : Reachable s) : LoopCounted s := by
  refine reachable_invariant LoopCounted ?_ ?_ h
  · intro cpu _
    exact loopCounted_restart cpu
  · intro s c s' hp hcount heffect
    cases heffect with
    | tick hx => exact loopCounted_execute hx fun hat => (hcount hat).1
    | pin p => exact hcount
    | goto address =>
      refine loopCounted_execute (redirected_executes hp.supported address) fun hat => ?_
      have hat' : (redirected s.1 address).At 261 0 :=
        (redirected_executes hp.supported address).entry.1
      obtain ⟨h, _⟩ := position_inj hp.supported (by omega) (by omega) (by omega) (by omega)
        (hat.symm.trans hat')
      omega
    | restart => exact loopCounted_restart s.1

theorem boundaryWithin_reset0 {s : Session} (hp : Placed s.1) (hat : s.1.At 259 0) :
    BoundaryWithin 2 s := by
  obtain ⟨entries, hslot, hcheck⟩ :=
    (Option.any_eq_true _ _).mp (boundary_after_loop _ hp.supported)
  exact boundaryWithin_of_table entries hslot hat hcheck

theorem loop_executes {s : Session} (hp : Placed s.1) (hat : s.1.At 258 0)
    (calls : List PinCall) (bus : Byte) :
    Executes (s.pins calls).1 bus 258 0 .mcInternalReset (s.pins calls).1 := by
  obtain ⟨hat', hmodel, _⟩ := pins_at hat calls
  obtain ⟨_, hreset, _⟩ := services_present _ hp.supported
  exact .direct hat' (by rw [hmodel, hreset])

/-- A tick in the loop counts `latch_data` up, or leaves the loop. -/
theorem loop_tick {s : Session} (hp : Placed s.1) (hat : s.1.At 258 0) (calls : List PinCall)
    (bus : Byte) : ∃ s', (s.pins calls).step (.tick bus) = some s' ∧ Placed s'.1 ∧
      s'.1.model = s.1.model ∧ (s'.1.At 259 0 ∨
        s'.1.At 258 0 ∧ s.1.latchData + 1 ≠ 8 ∧ s'.1.latchData = s.1.latchData + 1) := by
  have hx := loop_executes hp hat calls bus
  obtain ⟨_, hmodel, hlatch⟩ := pins_at hat calls
  refine ⟨_, tick_of_executes hx, hx.placed, execute_model.trans hmodel, ?_⟩
  obtain ⟨slot', cycle', hleads⟩ := execute_leadsTo hx
  obtain ⟨hlatch', hstatus⟩ := execute_mcInternalReset (s.pins calls).1 bus
  rw [hlatch] at hlatch' hstatus
  obtain ⟨e, hmem, htook, htarget⟩ := hleads.exit
  have hfetch : (execute .mcInternalReset (s.pins calls).1 bus).2.fetching = false := by
    rw [Tick.fetching, hstatus]
    split <;> decide
  rcases htarget with htarget | ⟨hfetch', _⟩
  · have hexits : Handler.exits .mcInternalReset =
        [{ move := .enter .reset0 0 }, { move := .stay, status := statusInternalReset }] := rfl
    rw [hexits, List.mem_cons, List.mem_singleton] at hmem
    rcases hmem with rfl | rfl
    · obtain ⟨rfl, rfl⟩ := Prod.mk.inj htarget
      exact Or.inl hleads.place
    · obtain ⟨rfl, rfl⟩ := Prod.mk.inj htarget
      refine Or.inr ⟨hleads.place, ?_, hlatch'⟩
      intro h8
      rw [htook.status, if_pos h8] at hstatus
      exact absurd hstatus (by decide)
  · rw [hfetch] at hfetch'
    cases hfetch'

/-- With `n` rounds of the loop to go, the first fetch of the restart sequence comes within
`n + 2` ticks. -/
theorem boundaryWithin_of_loop : ∀ {n : Nat} {s : Session}, Placed s.1 → s.1.At 258 0 →
    s.1.latchData.toNat + (n + 1) = 8 → BoundaryWithin (n + 3) s := by
  intro n
  induction n with
  | zero =>
    intro s hp hat hn calls bus
    obtain ⟨s', hs', hp', _, hnext⟩ := loop_tick hp hat calls bus
    refine ⟨s', hs', Or.inr ?_⟩
    rcases hnext with hat' | ⟨_, hne, _⟩
    · exact boundaryWithin_reset0 hp' hat'
    · refine absurd (BitVec.eq_of_toNat_eq ?_) hne
      rw [BitVec.toNat_add]
      have hone : (1 : Byte).toNat = 1 := rfl
      have height : (8 : Byte).toNat = 8 := rfl
      omega
  | succ n ih =>
    intro s hp hat hn calls bus
    obtain ⟨s', hs', hp', _, hnext⟩ := loop_tick hp hat calls bus
    refine ⟨s', hs', Or.inr ?_⟩
    rcases hnext with hat' | ⟨hat', _, hlatch⟩
    · exact (boundaryWithin_reset0 hp' hat').mono (by omega)
    · refine ih hp' hat' ?_
      rw [hlatch, BitVec.toNat_add]
      have hone : (1 : Byte).toNat = 1 := rfl
      omega

/-! ### Every session -/

theorem boundaryIn_of_entry {model slot cycle : Nat} {h : Handler}
    (he : entryAt model slot cycle = some (.handler h)) :
    (slot = 258 ∧ cycle = 0) ∨ ∃ entries, slotAt model slot = some entries ∧
      boundaryIn model 8 slot entries cycle = true := by
  obtain ⟨entries, hslot, hcheck⟩ := forall_entries boundary_in_eight he
  simp only [boundaryInEight, Bool.or_eq_true, Bool.and_eq_true, decide_eq_true_eq] at hcheck
  exact hcheck.imp (fun hloop => ⟨hloop.1.2, hloop.2⟩) fun hcheck => ⟨entries, hslot, hcheck⟩

/-- From a dispatch the opcode's own chain has eight ticks at most. -/
theorem boundaryWithin_of_dispatch {s : Session} {slot cycle : Nat} (hp : Placed s.1)
    (hat : s.1.At slot cycle) (he : entryAt s.1.model.toNat slot cycle = some .mcDispatch) :
    BoundaryWithin 8 s := by
  intro calls bus
  obtain ⟨hat', hmodel, _⟩ := pins_at hat calls
  obtain ⟨h, hop⟩ := opcode_handler hp.supported bus.isLt
  have hx : Executes (s.pins calls).1 bus bus.toNat 0 h (dispatched (s.pins calls).1 bus) :=
    .dispatch hat' (by rw [hmodel, he]) (by rw [hmodel, hop])
  have hlt : bus.toNat < 256 := bus.isLt
  obtain ⟨hloop, _⟩ | ⟨entries, hslot, hcheck⟩ := boundaryIn_of_entry hx.entry.2
  · omega
  refine ⟨_, tick_of_executes hx, (execute_boundaryIn hx hslot hcheck).imp_right ?_⟩
  rintro ⟨slot', cycle', entries', hat₁, hslot', hcheck'⟩
  have hmodel₁ : (execute h (dispatched (s.pins calls).1 bus) bus).1.model =
      (dispatched (s.pins calls).1 bus).model := execute_model
  rw [← hmodel₁] at hslot' hcheck'
  exact boundaryWithin_of_table entries' hslot' hat₁ hcheck'

/-- **Progress.**  However the host feeds the bus and moves the pins, a boundary comes within
ten ticks of any reachable session, and within eight of one whose last tick was a fetch. -/
theorem boundary_within {s : Session} (h : Reachable s) :
    BoundaryWithin 10 s ∧ (s.2.fetching = true → BoundaryWithin 8 s) := by
  have hp := reachable_placed h
  have hten : ∀ {s : Session}, BoundaryWithin 8 s →
      BoundaryWithin 10 s ∧ (s.2.fetching = true → BoundaryWithin 8 s) :=
    fun height => ⟨height.mono (by omega), fun _ => height⟩
  obtain ⟨slot, cycle, hat, hcall⟩ := hp.callable
  cases he : entryAt s.1.model.toNat slot cycle with
  | none => rw [he] at hcall; cases hcall
  | some e =>
    cases e with
    | interruptResolver => rw [he] at hcall; cases hcall
    | mcDispatch => exact hten (boundaryWithin_of_dispatch hp hat he)
    | handler h =>
      rcases boundaryIn_of_entry he with ⟨rfl, rfl⟩ | ⟨entries, hslot, hcheck⟩
      · obtain ⟨hlt, hfetch⟩ := reachable_loopCounted ‹_› hat
        obtain ⟨n, hn⟩ : ∃ n, s.1.latchData.toNat + (n + 1) = 8 :=
          ⟨7 - s.1.latchData.toNat, by omega⟩
        refine ⟨(boundaryWithin_of_loop hp hat hn).mono (by omega), fun hfetching => ?_⟩
        rw [hfetch] at hfetching
        cases hfetching
      · exact hten (boundaryWithin_of_table entries hslot hat hcheck)

end Session

/-! ### The instruction adapter -/

namespace InstructionCpu

theorem stepUntil_of_boundary {m : InstructionCpu} (h : m.tick.boundary = true) (cycles : Nat) :
    m.stepUntil cycles = some m := by
  cases cycles with
  | zero => rfl
  | succ cycles =>
    rw [stepUntil]
    simp only [Tick.boundary, Tick.fetching, Bool.or_eq_true, decide_eq_true_eq] at h
    rcases h with h | h
    · rw [if_pos h]
    · rw [if_pos h]
      split <;> rfl

/-- Within the bound the loop ends at a boundary, and a larger cap changes nothing. -/
theorem stepUntil_of_boundaryWithin : ∀ {n : Nat} {m : InstructionCpu},
    m.session.BoundaryWithin n → ∀ {cycles : Nat}, n ≤ cycles →
      ∃ m', m.stepUntil cycles = some m' ∧ m.stepUntil n = some m' ∧
        m'.tick.boundary = true := by
  intro n
  induction n with
  | zero => intro m h; cases h
  | succ n ih =>
    intro m h cycles hle
    by_cases hb : m.tick.boundary = true
    · exact ⟨m, stepUntil_of_boundary hb _, stepUntil_of_boundary hb _, hb⟩
    · obtain ⟨cycles, rfl⟩ : ∃ c, cycles = c + 1 := ⟨cycles - 1, by omega⟩
      obtain ⟨s', hs', hnext⟩ := h [] (m.memory m.tick.address)
      have hcycle : ∃ m', m.stepCycle = some m' ∧ m'.session = s' := by
        have hs' : Qe6502.tick m.cpu (m.memory m.tick.address) = some s' := hs'
        exact ⟨_, by rw [stepCycle, hs']; rfl, rfl⟩
      obtain ⟨m', hm', rfl⟩ := hcycle
      have hnot : ∀ c, m.stepUntil (c + 1) = m'.stepUntil c := by
        intro c
        simp only [Tick.boundary, Tick.fetching, Bool.or_eq_true, decide_eq_true_eq,
          not_or] at hb
        rw [stepUntil, if_neg hb.1, if_neg hb.2, hm']
        rfl
      rw [hnot, hnot]
      rcases hnext with hb' | hwithin
      · exact ⟨m', stepUntil_of_boundary hb' _, stepUntil_of_boundary hb' _, hb'⟩
      · exact ih hwithin (by omega)

end InstructionCpu

/-- **Progress of every reachable session.**  From a fetch the next boundary comes within eight
ticks, from anywhere within ten, and the loop of the instruction adapter ends at a boundary
before its cap. -/
theorem progress {m : InstructionCpu} (h : m.session.Reachable) :
    (m.tick.fetching = true → m.session.BoundaryWithin 8) ∧ m.session.BoundaryWithin 10 ∧
      ∃ m', m.stepUntilOpcodeFetch = some m' ∧ m.stepUntil 10 = some m' ∧
        m'.tick.boundary = true := by
  obtain ⟨hten, height⟩ := Session.boundary_within h
  exact ⟨height, hten, InstructionCpu.stepUntil_of_boundaryWithin hten (by omega)⟩

/-- With an NMI pending, from the fetch that a goto issues and from the middle of the instruction
behind it. -/
theorem progress_goto :
    Session.BoundaryWithin 8 (.after 0 [.input (.pin (.nmi 1)), .goto 0x1000]) ∧
      ∃ m m' : InstructionCpu, m.tick.boundary = false ∧ m.session =
          .after 0 [.input (.pin (.nmi 1)), .goto 0x1000, .input (.tick 0x1E)] ∧
        m.stepUntilOpcodeFetch = some m' ∧ m'.tick.boundary = true := by
  have hreach : ∀ calls : List Call, InstructionCpu.session
      ⟨(Session.after 0 calls).1, (Session.after 0 calls).2, fun _ => 0⟩ |>.Reachable :=
    fun calls => Session.after_reachable (by decide : (0 : Byte).toNat < 5) calls
  obtain ⟨height, _, _⟩ := progress (hreach [.input (.pin (.nmi 1)), .goto 0x1000])
  obtain ⟨_, _, m', hm', _, hb⟩ :=
    progress (hreach [.input (.pin (.nmi 1)), .goto 0x1000, .input (.tick 0x1E)])
  exact ⟨height (by decide), _, m', by decide, rfl, hm', hb⟩

end Qe6502
