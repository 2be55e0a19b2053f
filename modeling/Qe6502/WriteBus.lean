import Qe6502.Host

/-!
# The bus byte after a write

The handler that follows a write never looks at the bus.  So the byte a host feeds after a write
is irrelevant (`tick_after_write`), and hosts that differ in that byte only have the same runs
(`hostRun_answer`).
-/

namespace Qe6502

/-- The handlers that may follow a write. -/
def Handler.ignoresBus : Handler → Bool
  | .mcFetch | .mcFetchIllegalExtDispatch | .mcReadPcPrefetch | .mcReadFffe
  | .mcNmiC4VecLo | .mcIrqC4VecLo | .mcStackPushPcLow
  | .mcStackPushStatusB | .mcCmosStackPushStatusB
  | .mcNmiC3PushP | .mcIrqC3PushP | .mcCmosNmiC3PushP | .mcCmosIrqC3PushP
  | .opAslRwReadyAddrDataPendingNoneWrPrefetch | .opLsrRwReadyAddrDataPendingNoneWrPrefetch
  | .opRolRwReadyAddrDataPendingNoneWrPrefetch | .opRorRwReadyAddrDataPendingNoneWrPrefetch
  | .opIncRwReadyAddrDataPendingNoneWrPrefetch | .opDecRwReadyAddrDataPendingNoneWrPrefetch
  | .opSloRwReadyAddrDataPendingNoneWrPrefetch | .opSreRwReadyAddrDataPendingNoneWrPrefetch
  | .opRlaRwReadyAddrDataPendingNoneWrPrefetch | .opRraRwReadyAddrDataPendingNoneWrPrefetch
  | .opNesRraRwReadyAddrDataPendingNoneWrPrefetch | .opDcpRwReadyAddrDataPendingNoneWrPrefetch
  | .opIscRwReadyAddrDataPendingNoneWrPrefetch
  | .mcNesIscRwReadyAddrDataPendingNoneWrPrefetch => true
  | _ => false

theorem run_ignoresBus {h : Handler} (hi : h.ignoresBus = true) (cpu : Cpu) (b₁ b₂ : Byte) :
    h.run cpu b₁ = h.run cpu b₂ := by
  cases h <;> first | exact Bool.noConfusion hi | rfl

/-- After a write comes a handler that ignores the bus, and a write is no fetch. -/
def writesThenIgnores (model slot : Nat) (entries : Slot) (cycle : Nat) : Entry → Bool
  | .handler h => h.exits.all fun e =>
      e.status &&& statusWriting = 0 || (e.status &&& statusOpcodeFetch = 0 &&
        match entryAfter model slot entries cycle e.move with
        | some (.handler h') => h'.ignoresBus
        | _ => false)
  | _ => true

theorem writes_then_ignores : entriesAll writesThenIgnores = true := by decide +kernel

namespace Session

/-- After a write the session stands on a handler that ignores the bus. -/
def WriteIgnored (s : Session) : Prop :=
  s.2.status &&& statusWriting ≠ 0 → ∃ slot cycle h, s.1.At slot cycle ∧
    entryAt s.1.model.toNat slot cycle = some (.handler h) ∧ h.ignoresBus = true

theorem writeIgnored_execute {cpu cpu₀ : Cpu} {bus : Byte} {slot cycle : Nat} {h : Handler}
    (hx : Executes cpu bus slot cycle h cpu₀) : WriteIgnored (execute h cpu₀ bus) := by
  intro hwrite
  obtain ⟨slot', cycle', hleads⟩ := execute_leadsTo hx
  have hmodel : (execute h cpu₀ bus).1.model = cpu₀.model := execute_model
  obtain ⟨e, hmem, htook, htarget⟩ := hleads.exit
  obtain ⟨entries, hslot, hall⟩ := forall_entries writes_then_ignores hx.entry.2
  have he := List.all_eq_true.mp hall e hmem
  rw [htook.status] at hwrite
  simp only [Bool.or_eq_true, decide_eq_true_eq, hwrite, false_or, Bool.and_eq_true] at he
  obtain ⟨hfetch, he⟩ := he
  rcases htarget with htarget | ⟨hfetch', _⟩
  · rw [entryAfter_eq hslot, ← htarget] at he
    split at he
    next h' hentry => exact ⟨slot', cycle', h', hleads.place, by rw [hmodel]; exact hentry, he⟩
    next => cases he
  · rw [Tick.fetching, htook.status, hfetch] at hfetch'
    cases hfetch'

theorem reachable_writeIgnored {s : Session} (h : Reachable s) : WriteIgnored s := by
  have hrestart : ∀ cpu, WriteIgnored (Qe6502.restart cpu) := by
    intro cpu hwrite
    rw [restart_tick] at hwrite
    exact absurd hwrite (by decide)
  refine reachable_invariant WriteIgnored (fun cpu _ => hrestart cpu) ?_ h
  intro s c s' hp hinv heffect
  cases heffect with
  | tick hx => exact writeIgnored_execute hx
  | pin p => exact hinv
  | goto address => exact writeIgnored_execute (redirected_executes hp.supported address)
  | restart => exact hrestart s.1

end Session

theorem execute_ignoresBus {h : Handler} (hi : h.ignoresBus = true) (cpu : Cpu) (b₁ b₂ : Byte) :
    execute h cpu b₁ = execute h cpu b₂ := by
  have hrun := fun cpu => run_ignoresBus hi cpu b₁ b₂
  simp only [execute, resolved, unresolved, hrun]

/-- The tick and the whole context after a write are the same for any two bytes. -/
theorem tick_after_write {s : Session} (h : s.Reachable)
    (hwrite : s.2.status &&& statusWriting ≠ 0) (b₁ b₂ : Byte) : tick s.1 b₁ = tick s.1 b₂ := by
  obtain ⟨slot, cycle, h, hat, he, hi⟩ := Session.reachable_writeIgnored h hwrite
  rw [tick_of_executes (.direct hat he), tick_of_executes (.direct hat he),
    execute_ignoresBus hi]

/-! ### Hosts -/

namespace InstructionCpu

theorem hostCycle_answer {m : InstructionCpu} (h : m.session.Reachable)
    (answer answer' : Tick → (Word → Byte) → Byte) :
    m.hostCycle answer = m.hostCycle answer' := by
  by_cases hwrite : m.isWrite = true
  · have hstatus : m.session.2.status &&& statusWriting ≠ 0 := of_decide_eq_true hwrite
    have htick : Qe6502.tick m.cpu (answer m.tick m.memory) =
        Qe6502.tick m.cpu (answer' m.tick m.memory) :=
      tick_after_write h hstatus _ _
    simp only [hostCycle, hwrite, ↓reduceIte, htick]
  · simp only [hostCycle, hwrite, ↓reduceIte, Bool.false_eq_true]

theorem reachable_hostCycle {m m' : InstructionCpu} (h : m.session.Reachable)
    {answer : Tick → (Word → Byte) → Byte} (hm : m.hostCycle answer = some m') :
    m'.session.Reachable := by
  obtain ⟨r, hr, rfl⟩ := Option.map_eq_some_iff.mp hm
  exact Session.reachable_tick h hr

theorem hostRun_answer (answer answer' : Tick → (Word → Byte) → Byte)
    (schedule : List (List PinCall)) : ∀ {m : InstructionCpu}, m.session.Reachable →
      m.hostRun answer schedule = m.hostRun answer' schedule := by
  induction schedule with
  | nil => intro m _; rfl
  | cons calls schedule ih =>
    intro m h
    have hpins : (session { m with cpu := calls.foldl PinCall.apply m.cpu }).Reachable :=
      Session.reachable_pins h calls
    rw [hostRun, hostRun, hostCycle_answer hpins answer answer']
    cases hm : hostCycle answer' { m with cpu := calls.foldl PinCall.apply m.cpu } with
    | none => rfl
    | some m' => exact ih (reachable_hostCycle hpins hm)

end InstructionCpu

/-- **The bus byte after a write is irrelevant.**  In every reachable session whose last tick
was a write, any two bytes give the same tick and the same context; and any two hosts that
differ in what they feed after a write only have the same runs. -/
theorem write_bus_irrelevant {m : InstructionCpu} (h : m.session.Reachable) :
    (m.tick.status &&& statusWriting ≠ 0 → ∀ b₁ b₂ : Byte, tick m.cpu b₁ = tick m.cpu b₂) ∧
      ∀ (schedule : List (List PinCall)) (answer answer' : Tick → (Word → Byte) → Byte),
        m.hostRun answer schedule = m.hostRun answer' schedule :=
  ⟨fun hwrite => tick_after_write h hwrite, fun schedule answer answer' =>
    InstructionCpu.hostRun_answer answer answer' schedule h⟩

/-- The three hosts of the repository, on a CPU that has just pushed a byte of its BRK in an empty
memory. -/
theorem write_bus_irrelevant_hosts :
    ∃ m : InstructionCpu, m.session = .after 0 (List.replicate 19 (.input (.tick 0))) ∧
      m.tick.status &&& statusWriting ≠ 0 ∧ tick m.cpu 0 = tick m.cpu 0xFF ∧
      ∀ schedule : List (List PinCall),
        m.hostRun InstructionCpu.readmeAnswer schedule =
          m.hostRun InstructionCpu.singlestepAnswer schedule ∧
        m.hostRun InstructionCpu.singlestepAnswer schedule =
          m.hostRun InstructionCpu.adapterAnswer schedule := by
  have hreach : InstructionCpu.session
      ⟨(Session.after 0 (List.replicate 19 (.input (.tick 0)))).1,
        (Session.after 0 (List.replicate 19 (.input (.tick 0)))).2, fun _ => 0⟩ |>.Reachable :=
    Session.after_reachable (by decide : (0 : Byte).toNat < 5)
      (List.replicate 19 (.input (.tick 0)))
  obtain ⟨hbytes, hhosts⟩ := write_bus_irrelevant hreach
  have hwriting : (Session.after 0 (List.replicate 19 (.input (.tick 0)))).2.status &&&
      statusWriting ≠ 0 := by
    decide
  exact ⟨_, rfl, hwriting, hbytes hwriting _ _, fun schedule => ⟨hhosts schedule _ _,
    hhosts schedule _ _⟩⟩

end Qe6502
