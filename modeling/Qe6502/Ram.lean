import Qe6502.Combined

/-!
# Plain memory

A host that answers every read from its memory and moves no pin.  A machine is ready when it
fetches an opcode and no interrupt is pending.  An instruction takes a ready machine to a ready
one, and what it reads on the way is what the memory holds: `Ready.instruction`.
-/

namespace Qe6502

open StepMachine (trace first)

/-! ### Idle lines -/

namespace Lines

variable {l : Lines}

theorem idle_detect (hidle : l.idle = true) : l.detect.idle = true := by
  unfold detect
  split
  · exact hidle
  · simp only [idle, Bool.and_eq_true, Bool.or_eq_true, Bool.not_eq_true'] at hidle
    obtain ⟨⟨⟨⟨hedge, hirq⟩, hpin⟩, hnmi⟩, hirqTaken⟩ := hidle
    rcases hpin with hpin | hlast
    · simp [idle, hedge, hirq, hpin, hnmi, hirqTaken]
    · simp [idle, hedge, hirq, hlast, hnmi, hirqTaken]

/-- Nothing happens on idle lines. -/
theorem tick_of_idle (hidle : l.idle = true) (on iClear fetching : Bool) (s : Signal) :
    (l.tick on iClear fetching s).1.idle = true ∧ (l.tick on iClear fetching s).2 = none := by
  cases on with
  | true =>
    have hdetect := idle_detect hidle
    rw [tick, if_pos rfl, settle_of_idle (idle_apply hdetect iClear s), jump_of_idle hdetect]
    exact ⟨idle_apply hdetect iClear s, rfl⟩
  | false =>
    rw [tick, if_neg Bool.false_ne_true, jump_of_idle hidle]
    exact ⟨idle_apply hidle iClear s, rfl⟩

end Lines

theorem unitTick_of_idle {cpu : Cpu} (hidle : cpu.lines.idle = true) (h : Handler) (bus : Byte) :
    (execute h cpu bus).1.lines.idle = true ∧ (unitTick h cpu bus).2 = none := by
  rw [execute_lines]
  exact Lines.tick_of_idle hidle _ _ _ _

/-! ### Fetches -/

/-- The handler can fetch. -/
def Handler.fetches (h : Handler) : Bool :=
  h.exits.any fun e => e.status &&& statusOpcodeFetch ≠ 0

theorem fetchOrDecimal_fetching {h : Handler} (operand : Byte → Byte) (dummy : Cpu → Word)
    (hrun : h.run = fetchOrDecimalDummyPrefetchDecimalSet operand dummy) {cpu : Cpu} {bus : Byte}
    (hf : (h.run cpu bus).2.fetching = true) :
    (h.run cpu bus).2 = fetchAt (h.run cpu bus).1.pc := by
  rw [hrun] at hf ⊢
  unfold fetchOrDecimalDummyPrefetchDecimalSet at hf ⊢
  dsimp only at hf ⊢
  split at hf
  next hd =>
    rw [if_pos hd]
    exact fetch_eq_fetchAt _
  next => exact absurd ((read_fetching _).symm.trans hf) Bool.false_ne_true

/-- **An opcode fetch** is at the program counter. -/
theorem run_fetching (h : Handler) (cpu : Cpu) (bus : Byte)
    (hf : (h.run cpu bus).2.fetching = true) :
    (h.run cpu bus).2 = fetchAt (h.run cpu bus).1.pc := by
  obtain ⟨e, hmem, he⟩ := exit_of_run h cpu bus
  have hfetches : h.fetches = true := by
    refine List.any_eq_true.mpr ⟨e, hmem, ?_⟩
    rw [← he.status]
    exact hf
  clear hmem he e
  cases h
  case opCmosAdcRReadyAddrPendingDataFetchOrDecimalDummyPrefetchDecimalSet =>
    exact fetchOrDecimal_fetching id Cpu.latchAddr rfl hf
  case opCmosSbcRReadyAddrPendingDataFetchOrDecimalDummyPrefetchDecimalSet =>
    exact fetchOrDecimal_fetching (· ^^^ 0xFF) Cpu.latchAddr rfl hf
  case opCmosSbcImmReadyNonePendingDataFetchOrDecimalDummyPrefetchDecimalSet =>
    exact fetchOrDecimal_fetching (· ^^^ 0xFF) (fun _ => 0x0000) rfl hf
  case opWdcAdcImmReadyNonePendingDataFetchOrDecimalDummyPrefetchDecimalSet =>
    exact fetchOrDecimal_fetching id (fun _ => 0x007F) rfl hf
  case opRwAdcImmReadyNonePendingDataFetchOrDecimalDummyPrefetchDecimalSet =>
    exact fetchOrDecimal_fetching id (fun _ => 0x0059) rfl hf
  case opStAdcImmReadyNonePendingDataFetchOrDecimalDummyPrefetchDecimalSet =>
    exact fetchOrDecimal_fetching id (fun _ => 0x0056) rfl hf
  all_goals first
    | exact absurd hfetches Bool.false_ne_true
    | exact fetch_eq_fetchAt _

theorem execute_fetching {h : Handler} {cpu : Cpu} {bus : Byte}
    (hf : (execute h cpu bus).2.fetching = true) :
    (execute h cpu bus).2 = fetchAt (execute h cpu bus).1.pc := by
  obtain ⟨interrupts, hijack, index, hframe⟩ := execute_frame h cpu bus
  rw [execute_tick] at hf
  rw [execute_tick, run_fetching h _ bus hf, hframe]

namespace Session

/-- **A run of a sequence** that enters no service slot ends at a dispatch, with a fetch. -/
theorem trace_goes {beats : List Beat} : ∀ {s s' : Session} {cycles : List (List PinCall × Byte)},
    s.Dispatching ∨ s.Inside → StepMachine.Always Session.cycle Uninterrupted s cycles →
      StepMachine.trace Session.beat s cycles = some (beats, s') → Ends beats →
        s'.Dispatching ∧ s'.2 = fetchAt s'.1.pc := by
  induction beats with
  | nil => exact fun _ _ _ hends => hends.ne_nil.elim
  | cons b beats ih =>
    intro s s' cycles hs hquiet htrace hends
    cases cycles with
    | nil => cases htrace
    | cons c cycles =>
      obtain ⟨_, s₁, _, hbeat, htail, heq⟩ := StepMachine.trace_cons_inv htrace
      obtain ⟨rfl, rfl⟩ := List.cons.inj heq
      obtain ⟨slot, cycle, h, cpu₀, hslot, hx⟩ := executes_of_waits hs c
      have hgoes := executes_goes hx hslot (hquiet.1 _ (handler_of_executes hx))
      have hcycle := cycle_of_beat hbeat
      obtain rfl := Option.some.inj ((tick_of_executes hx).symm.trans hcycle)
      have hb := tick_of_beat hbeat
      cases beats with
      | nil =>
        have hfetch := hends.single
        have hlength := StepMachine.trace_length htail
        obtain rfl := List.eq_nil_of_length_eq_zero hlength.symm
        cases htail
        rw [hb] at hfetch
        rw [hfetch, if_pos rfl] at hgoes
        exact ⟨hgoes, execute_fetching hfetch⟩
      | cons b' beats =>
        have hplain := hends.head
        rw [hb] at hplain
        rw [hplain, if_neg Bool.false_ne_true] at hgoes
        exact ih (.inr hgoes) (hquiet.2 _ hcycle) htail hends.tail

/-- The session fetches an opcode, and no interrupt is pending. -/
structure Ready (s : Session) : Prop where
  dispatching : s.Dispatching
  idle : s.1.lines.idle = true
  tick : s.2 = fetchAt s.1.pc

/-- The session is in a sequence that no interrupt breaks. -/
structure Runs (s : Session) : Prop where
  waits : s.Dispatching ∨ s.Inside
  idle : s.1.lines.idle = true

theorem Ready.runs {s : Session} (h : s.Ready) : s.Runs := ⟨Or.inl h.dispatching, h.idle⟩

theorem Runs.executes {s : Session} (hs : s.Runs) (bus : Byte) : ∃ slot cycle h cpu₀,
    isSequence slot = true ∧ Executes s.1 bus slot cycle h cpu₀ :=
  executes_of_waits hs.waits ([], bus)

/-- **A tick of a sequence**: it is ready after a fetch, and else goes on. -/
theorem executes_runs {cpu cpu₀ : Cpu} {bus : Byte} {slot cycle : Nat} {h : Handler}
    (hx : Executes cpu bus slot cycle h cpu₀) (hslot : isSequence slot = true)
    (hidle : cpu.lines.idle = true) : Runs (execute h cpu₀ bus) ∧
      ((execute h cpu₀ bus).2.fetching = true → Ready (execute h cpu₀ bus)) := by
  obtain ⟨hidle', hnone⟩ := unitTick_of_idle (hx.lines ▸ hidle) h bus
  have hgoes := executes_goes hx hslot hnone
  cases hf : (execute h cpu₀ bus).2.fetching with
  | true =>
    rw [hf, if_pos rfl] at hgoes
    exact ⟨⟨Or.inl hgoes, hidle'⟩, fun _ => ⟨hgoes, hidle', execute_fetching hf⟩⟩
  | false =>
    rw [hf, if_neg Bool.false_ne_true] at hgoes
    exact ⟨⟨Or.inr hgoes, hidle'⟩, fun hf' => absurd hf' Bool.false_ne_true⟩

theorem Runs.cycle {s s' : Session} (hs : s.Runs) {bus : Byte} (h : s.cycle ([], bus) = some s') :
    s'.Runs ∧ (s'.2.fetching = true → s'.Ready) := by
  obtain ⟨slot, cycle, hd, cpu₀, hslot, hx⟩ := hs.executes bus
  obtain rfl := Option.some.inj ((tick_of_executes hx).symm.trans h)
  exact executes_runs hx hslot hs.idle

theorem Runs.uninterrupted {s : Session} (hs : s.Runs) (bus : Byte) :
    s.Uninterrupted ([], bus) := by
  intro r hr
  obtain ⟨slot, cycle, h, cpu₀, _, hx⟩ := hs.executes bus
  obtain rfl := Option.some.inj ((handler_of_executes hx).symm.trans hr)
  exact (unitTick_of_idle (hx.lines ▸ hs.idle) h bus).2

theorem Runs.always : ∀ {cycles : List (List PinCall × Byte)} {s : Session}, s.Runs →
    (∀ c ∈ cycles, c.1 = []) → StepMachine.Always Session.cycle Uninterrupted s cycles := by
  intro cycles
  induction cycles with
  | nil => exact fun _ _ => trivial
  | cons c cycles ih =>
    intro s hs hpins
    have hc : c = ([], c.2) := Prod.ext (hpins c List.mem_cons_self) rfl
    rw [hc]
    exact ⟨hs.uninterrupted c.2, fun s' hs' =>
      ih (hs.cycle hs').1 fun c' hmem => hpins c' (List.mem_cons_of_mem c hmem)⟩

theorem Ready.dispatched_runs {s : Session} (h : s.Ready) (opcode : Byte) :
    (s.dispatched opcode).Runs := by
  obtain ⟨hm, _⟩ := h.dispatching
  obtain ⟨hd, hop⟩ := opcode_handler hm opcode.isLt
  have hslot : isSequence opcode.toNat = true := by
    have hlt : opcode.toNat < 256 := opcode.isLt
    simp [isSequence, hlt]
  exact ⟨Or.inr ⟨hm, opcode.toNat, 0, hd, hslot, dispatchIndex_eq_position hm opcode, hop⟩, h.idle⟩

/-- **A run** that ends at a fetch is ready. -/
theorem Runs.ready {beats : List Beat} : ∀ {s s' : Session} {cycles : List (List PinCall × Byte)},
    s.Runs → (∀ c ∈ cycles, c.1 = []) → StepMachine.trace Session.beat s cycles = some (beats, s') →
      Ends beats → s'.Ready := by
  induction beats with
  | nil => exact fun _ _ _ hends => hends.ne_nil.elim
  | cons b beats ih =>
    intro s s' cycles hs hpins htrace hends
    cases cycles with
    | nil => cases htrace
    | cons c cycles =>
      obtain ⟨_, s₁, _, hbeat, htail, heq⟩ := StepMachine.trace_cons_inv htrace
      obtain ⟨rfl, rfl⟩ := List.cons.inj heq
      have hc : c = ([], c.2) := Prod.ext (hpins c List.mem_cons_self) rfl
      have hcycle := cycle_of_beat hbeat
      rw [hc] at hcycle
      obtain ⟨hruns, hready⟩ := hs.cycle hcycle
      cases beats with
      | nil =>
        cases cycles with
        | nil =>
          cases htail
          exact hready (tick_of_beat hbeat ▸ hends.single)
        | cons c' cycles =>
          have hlength := StepMachine.trace_length htail
          cases hlength
      | cons b' beats =>
        exact ih hruns (fun c' hmem => hpins c' (List.mem_cons_of_mem c hmem)) htail hends.tail

end Session

/-! ### The host -/

/-- What a host that feeds `answer` after a write feeds after a tick. -/
def Tick.answered (answer : Tick → (Word → Byte) → Byte) (memory : Word → Byte) (t : Tick) : Byte :=
  if t.status &&& statusWriting ≠ 0 then answer t memory else memory t.address

/-- The bytes that the host feeds after ticks, whose writes it carries out. -/
def Fed (answer : Tick → (Word → Byte) → Byte) :
    (Word → Byte) → List Tick → (ℕ → Byte) → Prop
  | _, [], _ => True
  | memory, t :: ts, bus => bus 0 = t.answered answer memory ∧
      Fed answer (written memory t.written.toList) ts fun k => bus (k + 1)

section fed

variable {answer : Tick → (Word → Byte) → Byte} {memory : Word → Byte} {ts : List Tick}
  {bus : ℕ → Byte}

theorem answered_read (a : Word) : (read a).answered answer memory = memory a :=
  if_neg (by decide : ¬(0 : Byte) &&& statusWriting ≠ 0)

theorem answered_fetchAt (pc : Word) : (fetchAt pc).answered answer memory = memory pc :=
  if_neg (by decide : ¬statusOpcodeFetch &&& statusWriting ≠ 0)

theorem answered_write (a : Word) (b : Byte) :
    (write a b).answered answer memory = answer (write a b) memory :=
  if_pos (by decide : statusWriting &&& statusWriting ≠ 0)

@[simp] theorem fed_nil : Fed answer memory [] bus := trivial

@[simp] theorem fed_read (a : Word) : Fed answer memory (read a :: ts) bus ↔
    bus 0 = memory a ∧ Fed answer memory ts fun k => bus (k + 1) := by
  rw [Fed, read_written, answered_read]
  rfl

@[simp] theorem fed_fetchAt (pc : Word) : Fed answer memory (fetchAt pc :: ts) bus ↔
    bus 0 = memory pc ∧ Fed answer memory ts fun k => bus (k + 1) := by
  rw [Fed, fetchAt_written, answered_fetchAt]
  rfl

@[simp] theorem fed_write (a : Word) (b : Byte) : Fed answer memory (write a b :: ts) bus ↔
    bus 0 = answer (write a b) memory ∧ Fed answer (poke memory a b) ts fun k => bus (k + 1) := by
  rw [Fed, write_written, answered_write]
  rfl

end fed

namespace InstructionCpu

variable (answer : Tick → (Word → Byte) → Byte)

/-- The machine after pin calls and one iteration of the host. -/
def nextOn (m : InstructionCpu) (calls : List PinCall) : InstructionCpu :=
  ({ m with cpu := calls.foldl PinCall.apply m.cpu }.hostCycle answer).getD m

/-- The pin calls of a schedule, with the bytes that the host feeds. -/
def inputsOn : InstructionCpu → (ℕ → List PinCall) → ℕ → List PinCall × Byte
  | m, pins, 0 => (pins 0, m.tick.answered answer m.memory)
  | m, pins, k + 1 => (m.nextOn answer (pins 0)).inputsOn (fun j => pins (j + 1)) k

/-- The bytes that the host feeds while the pins do not move. -/
def inputs (m : InstructionCpu) : ℕ → List PinCall × Byte := m.inputsOn answer fun _ => []

variable {answer}

theorem inputsOn_fst {k : ℕ} : ∀ (m : InstructionCpu) (pins : ℕ → List PinCall),
    (m.inputsOn answer pins k).1 = pins k := by
  induction k with
  | zero => exact fun _ _ => rfl
  | succ k ih => exact fun m pins => ih _ _

theorem isWrite_iff (m : InstructionCpu) :
    m.isWrite = true ↔ m.tick.status &&& statusWriting ≠ 0 := decide_eq_true_iff

theorem stored_eq (m : InstructionCpu) :
    (if m.isWrite then poke m.memory m.tick.address m.tick.bus else m.memory) =
      written m.memory m.tick.written.toList := by
  by_cases hw : m.tick.status &&& statusWriting ≠ 0
  · rw [if_pos (m.isWrite_iff.mpr hw), Tick.written, if_pos hw]
    rfl
  · rw [if_neg (fun h => hw (m.isWrite_iff.mp h)), Tick.written, if_neg hw]
    rfl

theorem hostCycle_of_cycle {m : InstructionCpu} {calls : List PinCall} {s' : Session}
    (h : m.session.cycle (calls, m.tick.answered answer m.memory) = some s') :
    ({ m with cpu := calls.foldl PinCall.apply m.cpu } : InstructionCpu).hostCycle answer =
      some ⟨s'.1, s'.2, written m.memory m.tick.written.toList⟩ := by
  have htick : Qe6502.tick (calls.foldl PinCall.apply m.cpu) (m.tick.answered answer m.memory) =
    some s' := h
  have hinput : (if m.isWrite then answer m.tick m.memory else m.memory m.tick.address) =
      m.tick.answered answer m.memory := if_congr m.isWrite_iff rfl rfl
  have hcycle : ({ m with cpu := calls.foldl PinCall.apply m.cpu } : InstructionCpu).hostCycle
      answer = (Qe6502.tick (calls.foldl PinCall.apply m.cpu)
        (if m.isWrite then answer m.tick m.memory else m.memory m.tick.address)).map fun r =>
          ⟨r.1, r.2, if m.isWrite then poke m.memory m.tick.address m.tick.bus else m.memory⟩ := rfl
  rw [hcycle, hinput, htick, m.stored_eq]
  rfl

/-- **A run of the host** is a run of the session on the bytes that it feeds. -/
theorem hostRun_of_trace {beats : List Beat} : ∀ {m : InstructionCpu} {pins : ℕ → List PinCall}
    {s' : Session},
    trace Session.beat m.session (first (m.inputsOn answer pins) beats.length) = some (beats, s') →
      ∃ m', hostRun answer (first pins beats.length) m = some m' ∧ m'.session = s' ∧
        m'.memory = written m.memory
          ((m.tick :: beats.map Beat.tick).dropLast.filterMap Tick.written) ∧
        Fed answer m.memory (m.tick :: beats.map Beat.tick).dropLast
          (onBus (m.inputsOn answer pins)) := by
  induction beats with
  | nil =>
    intro m pins s' h
    cases h
    exact ⟨m, rfl, rfl, rfl, trivial⟩
  | cons b beats ih =>
    intro m pins s' h
    rw [List.length_cons, StepMachine.first_succ_cons] at h
    obtain ⟨_, s₁, _, hbeat, htail, heq⟩ := StepMachine.trace_cons_inv h
    obtain ⟨rfl, rfl⟩ := List.cons.inj heq
    have hcycle := hostCycle_of_cycle (Session.cycle_of_beat hbeat)
    have hnext : m.nextOn answer (pins 0) =
        ⟨s₁.1, s₁.2, written m.memory m.tick.written.toList⟩ := by
      rw [nextOn, hcycle]
      rfl
    let m₁ : InstructionCpu := ⟨s₁.1, s₁.2, written m.memory m.tick.written.toList⟩
    have hinputs : (fun k => m.inputsOn answer pins (k + 1)) =
        m₁.inputsOn answer fun k => pins (k + 1) := by
      funext k
      rw [inputsOn, hnext]
    rw [hinputs] at htail
    obtain ⟨m', hrun, hsession, hmemory, hfed⟩ := ih (m := m₁) htail
    have hb : b.tick = s₁.2 := Session.tick_of_beat hbeat
    rw [List.map_cons, hb, List.dropLast_cons_cons]
    refine ⟨m', ?_, hsession, ?_, rfl, ?_⟩
    · rw [List.length_cons, StepMachine.first_succ_cons, hostRun, hcycle, Option.bind_some]
      exact hrun
    · rw [hmemory]
      cases hw : m.tick.written <;> simp [hw, written, m₁]
    · have hbus : (fun k => onBus (m.inputsOn answer pins) (k + 1)) =
          onBus (m₁.inputsOn answer fun k => pins (k + 1)) :=
        funext fun k => congrArg Prod.snd (congrFun hinputs k)
      rw [hbus]
      exact hfed

/-- The next opcode fetch after `m` is at `m'`, after `n` cycles, with these pin calls before the
cycles. -/
structure FetchesOn (answer : Tick → (Word → Byte) → Byte) (pins : ℕ → List PinCall)
    (m : InstructionCpu) (n : ℕ) (m' : InstructionCpu) : Prop where
  later : 0 < n
  run : hostRun answer (first pins n) m = some m'
  fetching : m'.tick.fetching = true
  earlier : ∀ k < n, 0 < k → ∀ m'', hostRun answer (first pins k) m = some m'' →
    m''.tick.fetching = false

/-- The next opcode fetch after `m` is at `m'`, after `n` cycles. -/
structure Fetches (answer : Tick → (Word → Byte) → Byte) (m : InstructionCpu) (n : ℕ)
    (m' : InstructionCpu) : Prop where
  later : 0 < n
  run : hostRun answer (List.replicate n []) m = some m'
  fetching : m'.tick.fetching = true
  earlier : ∀ k < n, 0 < k → ∀ m'', hostRun answer (List.replicate k []) m = some m'' →
    m''.tick.fetching = false

theorem first_still (n : ℕ) : first (fun _ => ([] : List PinCall)) n = List.replicate n [] := by
  rw [first, List.map_const', List.length_range]

theorem FetchesOn.still {m m' : InstructionCpu} {n : ℕ}
    (h : m.FetchesOn answer (fun _ => []) n m') : m.Fetches answer n m' := by
  refine ⟨h.later, ?_, h.fetching, fun k hk hpos m'' hrun => h.earlier k hk hpos m'' ?_⟩
  · rw [← first_still]
    exact h.run
  · rw [first_still]
    exact hrun

theorem fetches_of_trace {m m' : InstructionCpu} {pins : ℕ → List PinCall} {beats : List Beat}
    {s' : Session}
    (htrace : trace Session.beat m.session (first (m.inputsOn answer pins) beats.length) =
      some (beats, s')) (hends : Ends beats)
    (hrun : hostRun answer (first pins beats.length) m = some m')
    (hsession : m'.session = s') : m.FetchesOn answer pins beats.length m' := by
  obtain ⟨last, hlast, hfetch⟩ := hends.fetches
  refine ⟨?_, hrun, ?_, ?_⟩
  · cases beats with
    | nil => exact hends.ne_nil.elim
    | cons b beats => exact Nat.succ_pos _
  · rw [← hfetch, Session.last_tick htrace last hlast, ← hsession]
    rfl
  · intro k hk hpos m'' hrun''
    obtain ⟨s'', hs''⟩ := StepMachine.trace_take htrace k
    rw [StepMachine.first_take _ hk.le] at hs''
    have hlength : (beats.take k).length = k := List.length_take_of_le hk.le
    have htake : trace Session.beat m.session
        (first (m.inputsOn answer pins) (beats.take k).length) = some (beats.take k, s'') := by
      rwa [hlength]
    obtain ⟨m₁, hrun₁, rfl, _⟩ := hostRun_of_trace htake
    rw [hlength] at hrun₁
    obtain rfl := Option.some.inj (hrun₁.symm.trans hrun'')
    cases hlast' : (beats.take k).getLast? with
    | none =>
      rw [List.getLast?_eq_none_iff.mp hlast'] at hlength
      exact absurd hlength hpos.ne
    | some b =>
      have htick : b.tick = m₁.tick := Session.last_tick hs'' b hlast'
      rw [← htick]
      refine hends.earlier b ?_
      have hinit : (beats.take (beats.length - 1)).take k = beats.take k := by
        rw [List.take_take, Nat.min_eq_left (by omega)]
      rw [List.dropLast_eq_take]
      exact List.mem_of_mem_take (hinit ▸ List.mem_of_getLast? hlast')

/-- The requests to which a sequence of beats reads the answers. -/
def requests (m : InstructionCpu) (beats : List Beat) : List Tick :=
  fetchAt m.cpu.pc :: (beats.map Beat.tick).dropLast

theorem length_course (c : Course) : c.beats.length = c.requests.length + 2 := by
  rw [← List.length_map (f := Beat.tick), c.ticks]
  simp

theorem requests_course (m : InstructionCpu) (c : Course) :
    m.requests c.beats = fetchAt m.cpu.pc :: (c.requests ++ [c.last]) := by
  rw [requests, c.ticks, List.dropLast_concat]

/-- **A completed run of the session** on the bytes that the host feeds from an opcode fetch on. -/
theorem fetches_of_completes {m : InstructionCpu} {pins : ℕ → List PinCall} {beats : List Beat}
    {s' : Session} (h : m.session.Completes (m.inputsOn answer pins) beats s')
    (htick : m.tick = fetchAt m.cpu.pc) (hfetch : s'.2 = fetchAt s'.1.pc) :
    ∃ m', m.FetchesOn answer pins beats.length m' ∧ m'.session = s' ∧
      m'.memory = written m.memory (writes beats) ∧
        Fed answer m.memory (m.requests beats) (onBus (m.inputsOn answer pins)) := by
  obtain ⟨m', hrun, hsession, hmemory, hfed⟩ := hostRun_of_trace h.trace
  obtain ⟨last, hlast, _⟩ := h.ends.fetches
  have hlastTick : last.tick = fetchAt s'.1.pc :=
    (Session.last_tick h.trace last hlast).trans hfetch
  refine ⟨m', fetches_of_trace h.trace h.ends hrun hsession, hsession, ?_⟩
  obtain ⟨init, rfl⟩ : ∃ init, beats = init ++ [last] :=
    ⟨beats.dropLast, (List.dropLast_append_getLast? last hlast).symm⟩
  rw [htick, List.map_append, List.map_singleton, ← List.cons_append,
    List.dropLast_concat] at hmemory hfed
  constructor
  · rw [hmemory, writes_ticks, List.map_append, List.filterMap_append, List.map_singleton,
      hlastTick]
    simp
  · rw [requests, List.map_append, List.map_singleton, List.dropLast_concat]
    exact hfed

/-- The machine fetches an opcode, and no interrupt is pending. -/
abbrev Ready (m : InstructionCpu) : Prop := m.session.Ready

/-- The opcode that a ready machine reads. -/
def opcode (m : InstructionCpu) : Byte := m.memory m.cpu.pc

theorem input_opcode {m : InstructionCpu} {pins : ℕ → List PinCall}
    (htick : m.tick = fetchAt m.cpu.pc) : (m.inputsOn answer pins 0).2 = m.opcode := by
  have hread : (fetchAt m.cpu.pc).answered answer m.memory = m.memory m.cpu.pc := answered_fetchAt _
  rw [opcode, ← hread, ← htick]
  rfl

variable (answer)

/-- **An instruction of a ready machine.** -/
theorem Ready.instruction {m : InstructionCpu} (hready : m.Ready) {entries : Slot}
    (hslot : slotAt m.cpu.model.toNat m.opcode.toNat = some entries)
    (hstays : entries.stays = true) {beats : List Beat} {r : Registers}
    (hyields : entries.Yields (m.cpu.opened m.opcode) (onBus (m.inputs answer)) beats r)
    (hends : Ends beats) : ∃ m', m.Fetches answer beats.length m' ∧
      m'.Ready ∧ m'.cpu.model = m.cpu.model ∧ m'.cpu.registers = r ∧
        m'.memory = written m.memory (writes beats) ∧
          Fed answer m.memory (m.requests beats) (onBus (m.inputs answer)) := by
  have hinput : (m.inputs answer 0).2 = m.opcode := input_opcode hready.tick
  have hpins : ∀ n, ∀ c ∈ first (m.inputs answer) n, c.1 = [] := by
    intro n c hc
    obtain ⟨k, _, rfl⟩ := List.mem_map.mp hc
    exact inputsOn_fst m _
  have hquiet : StepMachine.Always Session.cycle Session.Uninterrupted
      (m.session.dispatched (m.inputs answer 0).2) (first (m.inputs answer) beats.length) :=
    (hready.dispatched_runs _).always (hpins _)
  obtain ⟨s', hcompletes, hmodel, hregisters⟩ := hready.dispatching.completes
    (by rw [hinput]; exact hslot) hstays (Or.inr hquiet) (by rw [hinput]; exact hyields) hends
  have hready' : s'.Ready := hready.runs.ready (hpins _) hcompletes.trace hends
  obtain ⟨m', hfetches, rfl, hmemory, hfed⟩ :=
    fetches_of_completes hcompletes hready.tick hready'.tick
  exact ⟨m', hfetches.still, hready', hmodel, hregisters, hmemory, hfed⟩

/-- The same of an instruction that shows a course. -/
theorem Ready.course {m : InstructionCpu} (hready : m.Ready) {entries : Slot}
    (hslot : slotAt m.cpu.model.toNat m.opcode.toNat = some entries)
    (hstays : entries.stays = true) {c : Course} {r : Registers}
    (hyields : entries.Yields (m.cpu.opened m.opcode) (onBus (m.inputs answer)) c.beats r)
    (hplain : c.plain = true) : ∃ m', m.Fetches answer (c.requests.length + 2) m' ∧
      m'.Ready ∧ m'.cpu.model = m.cpu.model ∧ m'.cpu.registers = r ∧
        m'.memory = written m.memory
          (c.requests.filterMap Tick.written ++ c.last.written.toList) ∧
          Fed answer m.memory (fetchAt m.cpu.pc :: (c.requests ++ [c.last]))
            (onBus (m.inputs answer)) := by
  obtain ⟨m', hfetches, hready', hmodel, hregisters, hmemory, hfed⟩ :=
    hready.instruction answer hslot hstays hyields (c.ends hplain)
  rw [length_course] at hfetches
  rw [c.writes_beats] at hmemory
  rw [requests_course] at hfed
  exact ⟨m', hfetches, hready', hmodel, hregisters, hmemory, hfed⟩

end InstructionCpu

end Qe6502
