import Qe6502.Lib.Machine
import Qe6502.Execute

/-!
# Sessions

A host restarts a CPU of a supported model and then ticks it, moves its pins, redirects it
with `qe6502_goto` or restarts it again.  The state of a session is the context with the last
tick issued.

Every reachable context stands on a present entry of its own model's block, which is neither
missing nor the resolver: `reachable_placed`.  So every call of a session has a result
(`call_effect`), and `controlStore_closed` is the closure property of the control store.
-/

namespace Qe6502

/-- A call of the host between restarts: one bus phase, or a level on a pin. -/
inductive Input
  | tick (bus : Byte)
  | pin (p : PinCall)
deriving DecidableEq

/-- A call of the host. -/
inductive Call
  | input (i : Input)
  | goto (address : Word)
  | restart

/-- The context and the last tick issued. -/
abbrev Session := Cpu × Tick

namespace Session

def step (s : Session) : Input → Option Session
  | .tick bus => Qe6502.tick s.1 bus
  | .pin p => some (p.apply s.1, s.2)

def call (s : Session) : Call → Option Session
  | .input i => s.step i
  | .goto address => Qe6502.goto s.1 address
  | .restart => some (Qe6502.restart s.1)

/-- The session `qe6502_restart` starts on a supported model. -/
def Started (s : Session) : Prop :=
  ∃ cpu : Cpu, cpu.model.toNat < supportedModelsCount ∧ s = Qe6502.restart cpu

abbrev Reachable : Session → Prop := StepMachine.Reachable Started call

end Session

/-! ### Placed contexts -/

/-- An entry that `qe6502_tick`, the resolver and the dispatcher may call through the
microcode index. -/
def isCallable : Option Entry → Bool
  | some .mcDispatch => true
  | some (.handler _) => true
  | some .interruptResolver => false
  | none => false

/-- The context is of a supported model and stands on a callable entry of its block. -/
structure Placed (cpu : Cpu) : Prop where
  supported : cpu.model.toNat < 5
  callable : ∃ slot cycle, cpu.At slot cycle ∧
    isCallable (entryAt cpu.model.toNat slot cycle) = true

/-- The entry a move leads to, looked up in the slot at hand where the move stays in it. -/
def entryAfter (model slot : Nat) (entries : Slot) (cycle : Nat) (m : Move) : Option Entry :=
  if (m.target slot cycle).1 = slot then entries[(m.target slot cycle).2]?
  else entryAt model (m.target slot cycle).1 (m.target slot cycle).2

theorem entryAfter_eq {model slot : Nat} {entries : Slot} (hs : slotAt model slot = some entries)
    (cycle : Nat) (m : Move) : entryAfter model slot entries cycle m =
      entryAt model (m.target slot cycle).1 (m.target slot cycle).2 := by
  rw [entryAfter]
  split
  next h => rw [entryAt, h, hs]; rfl
  next => rfl

/-- Every exit of an entry leads to a callable entry. -/
def exitsCallable (model slot : Nat) (entries : Slot) (cycle : Nat) : Entry → Bool
  | .handler h => h.exits.all fun e => isCallable (entryAfter model slot entries cycle e.move)
  | _ => true

theorem exits_callable : entriesAll exitsCallable = true := by decide +kernel

/-- Every block has the service slots the source enters. -/
theorem services_present : ∀ model < 5,
    (∀ slot ∈ [262, 263], isCallable (entryAt model slot 0) = true) ∧
      entryAt model 258 0 = some (.handler .mcInternalReset) ∧
      entryAt model 261 0 = some (.handler .mcFetch) := by
  decide

def startsWithHandler (entries : Slot) : Bool :=
  match entries with
  | .handler _ :: _ => true
  | _ => false

theorem opcodes_present :
    tableAll (fun _ slot entries => 256 ≤ slot || startsWithHandler entries) 0
      controlStoreBlocks = true ∧
      ∀ model < 5, (controlStoreBlocks[model]?.map List.length) = some 264 := by
  decide +kernel

/-- Every block has a first handler for every opcode. -/
theorem opcode_handler {model opcode : Nat} (hm : model < 5) (ho : opcode < 256) :
    ∃ h, entryAt model opcode 0 = some (.handler h) := by
  obtain ⟨hstart, hlen⟩ := opcodes_present
  obtain ⟨b, hb, hblen⟩ := Option.map_eq_some_iff.mp (hlen model hm)
  obtain ⟨entries, hget⟩ : ∃ entries, b[opcode]? = some entries :=
    ⟨_, List.getElem?_eq_getElem (by omega)⟩
  have hs : slotAt model opcode = some entries := by
    rw [slotAt, hb]
    exact hget
  have hfirst := forall_slots hstart hs
  have hfalse : decide (256 ≤ opcode) = false := decide_eq_false (by omega)
  rw [hfalse, Bool.false_or] at hfirst
  cases entries with
  | nil => cases hfirst
  | cons e rest =>
    cases e with
    | handler h =>
      refine ⟨h, ?_⟩
      rw [entryAt, hs]
      rfl
    | mcDispatch => cases hfirst
    | interruptResolver => cases hfirst

theorem bounds_of_callable {model slot cycle : Nat}
    (h : isCallable (entryAt model slot cycle) = true) : model < 5 ∧ slot < 264 ∧ cycle < 8 := by
  cases he : entryAt model slot cycle with
  | none => rw [he] at h; cases h
  | some e => exact entryAt_bounds he

theorem position_overflow (model slot : Nat) :
    position model slot 8 = position model (slot + 1) 0 :=
  congrArg (BitVec.ofNat 16) (by omega)

/-- A move to a callable target is a move to the target's position. -/
theorem move_target_at {cpu : Cpu} (hm : cpu.model.toNat < 5) {slot cycle : Nat}
    (hat : cpu.At slot cycle) (m : Move)
    (hcall : isCallable (entryAt cpu.model.toNat (m.target slot cycle).1
      (m.target slot cycle).2) = true) :
    m.index cpu = position cpu.model.toNat (m.target slot cycle).1 (m.target slot cycle).2 := by
  cases m with
  | next =>
    rw [Move.index, Move.target, hat, position_succ]
    by_cases hk : cycle + 1 = microcodePerSlot
    · rw [if_pos hk, hk]
      exact position_overflow _ _
    · rw [if_neg hk]
  | skip n =>
    rw [Move.index, hat, position_add, position_succ]
    rfl
  | stay => exact hat
  | enter s k => exact idx_eq_position hm s (bounds_of_callable hcall).2.2

theorem callable_target {model slot cycle : Nat} {h : Handler} {e : Exit}
    (he : entryAt model slot cycle = some (.handler h)) (hmem : e ∈ h.exits) :
    isCallable (entryAt model (e.move.target slot cycle).1 (e.move.target slot cycle).2) =
      true := by
  obtain ⟨entries, hs, hall⟩ := forall_entries exits_callable he
  rw [← entryAfter_eq hs]
  exact List.all_eq_true.mp hall e hmem

theorem service_callable {model : Nat} (hm : model < 5) {slot : ServiceSlot}
    (hslot : slot = .nmi ∨ slot = .irq) :
    isCallable (entryAt model slot.code.toNat 0) = true := by
  obtain ⟨hservice, _⟩ := services_present model hm
  rcases hslot with rfl | rfl
  · exact hservice 262 (by simp)
  · exact hservice 263 (by simp)

/-! ### Ticks of placed contexts -/

/-- A placed context has a handler to run. -/
theorem Placed.executes {cpu : Cpu} (hp : Placed cpu) (bus : Byte) :
    ∃ slot cycle h cpu₀, Executes cpu bus slot cycle h cpu₀ := by
  obtain ⟨slot, cycle, hat, hcall⟩ := hp.callable
  cases he : entryAt cpu.model.toNat slot cycle with
  | none => rw [he] at hcall; cases hcall
  | some e =>
    cases e with
    | interruptResolver => rw [he] at hcall; cases hcall
    | handler h => exact ⟨slot, cycle, h, cpu, .direct hat he⟩
    | mcDispatch =>
      obtain ⟨h, hop⟩ := opcode_handler hp.supported bus.isLt
      exact ⟨bus.toNat, 0, h, dispatched cpu bus, .dispatch hat he hop⟩

/-- The handler of a tick is the entry its own context stands on. -/
theorem Executes.entry {cpu cpu₀ : Cpu} {bus : Byte} {slot cycle : Nat} {h : Handler}
    (hx : Executes cpu bus slot cycle h cpu₀) :
    cpu₀.At slot cycle ∧ entryAt cpu₀.model.toNat slot cycle = some (.handler h) := by
  cases hx with
  | direct hat he => exact ⟨hat, he⟩
  | dispatch hat he hop =>
    obtain ⟨hm, _, _⟩ := entryAt_bounds he
    exact ⟨dispatchIndex_eq_position hm bus, hop⟩

/-- A handler outside the opcode slots runs without a dispatch. -/
theorem Executes.direct_of_service {cpu cpu₀ : Cpu} {bus : Byte} {slot cycle : Nat} {h : Handler}
    (hx : Executes cpu bus slot cycle h cpu₀) (hs : 256 ≤ slot) : cpu₀ = cpu := by
  cases hx with
  | direct => rfl
  | dispatch =>
    have hlt : bus.toNat < 256 := bus.isLt
    omega

/-- A tick of the handler `h` leads to a place: by one of its exits, or from a fetch to the
first cycle of the NMI or IRQ slot. -/
structure LeadsTo (slot cycle : Nat) (h : Handler) (cpu : Cpu) (r : Cpu × Tick)
    (slot' cycle' : Nat) : Prop where
  exit : ∃ e ∈ h.exits, e.Took h cpu r ∧
    ((slot', cycle') = e.move.target slot cycle ∨
      r.2.fetching = true ∧ (slot' = 262 ∨ slot' = 263) ∧ cycle' = 0)
  place : r.1.At slot' cycle'
  callable : isCallable (entryAt cpu.model.toNat slot' cycle') = true

/-- **Where a tick leads.** -/
theorem execute_leadsTo {cpu cpu₀ : Cpu} {bus : Byte} {slot cycle : Nat} {h : Handler}
    (hx : Executes cpu bus slot cycle h cpu₀) :
    ∃ slot' cycle', LeadsTo slot cycle h cpu₀ (execute h cpu₀ bus) slot' cycle' := by
  obtain ⟨hat, hentry⟩ := hx.entry
  obtain ⟨hm, _, _⟩ := entryAt_bounds hentry
  obtain ⟨e, hmem, htook⟩ := execute_exit h cpu₀ bus
  have hcall := callable_target hentry hmem
  have hmodel : (execute h cpu₀ bus).1.model = cpu₀.model := htook.model
  rcases htook.index with hindex | ⟨hfetch, s, hs, hindex⟩
  · refine ⟨_, _, ⟨e, hmem, htook, Or.inl rfl⟩, ?_, hcall⟩
    rw [Cpu.At, hmodel, hindex]
    exact move_target_at hm hat e.move hcall
  · have hslot : s.code.toNat = 262 ∨ s.code.toNat = 263 :=
      hs.imp (by rintro rfl; rfl) (by rintro rfl; rfl)
    refine ⟨s.code.toNat, 0, ⟨e, hmem, htook, Or.inr ⟨hfetch, hslot, rfl⟩⟩, ?_,
      service_callable hm hs⟩
    rw [Cpu.At, hmodel, hindex]
    exact idx_eq_position hm s (by omega : 0 < 8)

/-- A tick leads to the place it leaves the context at. -/
theorem leadsTo_of_at {cpu cpu₀ : Cpu} {bus : Byte} {slot cycle slot' cycle' : Nat} {h : Handler}
    (hx : Executes cpu bus slot cycle h cpu₀) (hs : slot' < 264) (hc : cycle' < 8)
    (hat : (execute h cpu₀ bus).1.At slot' cycle') :
    LeadsTo slot cycle h cpu₀ (execute h cpu₀ bus) slot' cycle' := by
  obtain ⟨slot₁, cycle₁, hleads⟩ := execute_leadsTo hx
  obtain ⟨hm, hs₁, hc₁⟩ := bounds_of_callable hleads.callable
  have hmodel : (execute h cpu₀ bus).1.model = cpu₀.model := execute_model
  have heq := hleads.place.symm.trans hat
  rw [hmodel] at heq
  obtain ⟨rfl, rfl⟩ := position_inj hm hs₁ hc₁ hs hc heq
  exact hleads

theorem Executes.placed {cpu cpu₀ : Cpu} {bus : Byte} {slot cycle : Nat} {h : Handler}
    (hx : Executes cpu bus slot cycle h cpu₀) : Placed (execute h cpu₀ bus).1 := by
  obtain ⟨slot', cycle', hleads⟩ := execute_leadsTo hx
  have hmodel : (execute h cpu₀ bus).1.model = cpu₀.model := execute_model
  obtain ⟨hm, _, _⟩ := bounds_of_callable hleads.callable
  exact ⟨hmodel ▸ hm, slot', cycle', hleads.place, hmodel ▸ hleads.callable⟩

/-- The context `qe6502_goto` ticks. -/
def redirected (cpu : Cpu) (address : Word) : Cpu :=
  enterServiceSlot { cpu with reservedExtension := 0, pc := address } .goto 0

theorem redirected_executes {cpu : Cpu} (hm : cpu.model.toNat < 5) (address : Word) :
    Executes (redirected cpu address) 0 261 0 .mcFetch (redirected cpu address) := by
  obtain ⟨_, _, hgoto⟩ := services_present _ hm
  exact .direct (idx_eq_position hm .goto (by omega : 0 < 8)) hgoto

theorem goto_eq {cpu : Cpu} (hm : cpu.model.toNat < 5) (address : Word) :
    goto cpu address = some (execute .mcFetch (redirected cpu address) 0) :=
  tick_of_executes (redirected_executes hm address)

theorem restart_placed {cpu : Cpu} (hm : cpu.model.toNat < 5) : Placed (restart cpu).1 := by
  obtain ⟨_, hreset, _⟩ := services_present _ hm
  refine ⟨hm, 258, 0, idx_eq_position hm .internalReset (by omega : 0 < 8), ?_⟩
  show isCallable (entryAt cpu.model.toNat 258 0) = true
  rw [hreset]
  rfl

theorem restart_tick (cpu : Cpu) : (restart cpu).2 = ⟨0x00FF, 0, statusInternalReset⟩ :=
  congrArg (Tick.mk 0x00FF 0) BitVec.zero_or

theorem placed_pins {cpu : Cpu} (hp : Placed cpu) (interrupts hijack : Byte) :
    Placed { cpu with interrupts := interrupts, hijackMicrocode := hijack } :=
  ⟨hp.supported, hp.callable⟩

theorem pins_eq (calls : List PinCall) (cpu : Cpu) : ∃ interrupts hijack,
    calls.foldl PinCall.apply cpu =
      { cpu with interrupts := interrupts, hijackMicrocode := hijack } := by
  induction calls generalizing cpu with
  | nil => exact ⟨_, _, rfl⟩
  | cons p calls ih =>
    obtain ⟨interrupts, hijack, h⟩ := ih (p.apply cpu)
    refine ⟨interrupts, hijack, ?_⟩
    rw [List.foldl_cons, h, PinCall.apply_eq]

/-! ### Every call of a session -/

namespace Session

/-- The session after pin calls. -/
def pins (s : Session) (calls : List PinCall) : Session :=
  (calls.foldl PinCall.apply s.1, s.2)

/-- What a call can do to a placed session. -/
inductive Effect (s : Session) : Call → Session → Prop
  | tick {bus : Byte} {slot cycle : Nat} {h : Handler} {cpu₀ : Cpu} :
      Executes s.1 bus slot cycle h cpu₀ →
      Effect s (.input (.tick bus)) (execute h cpu₀ bus)
  | pin (p : PinCall) : Effect s (.input (.pin p))
      ({ s.1 with
        interrupts := p.pinned s.1.interrupts
        hijackMicrocode := p.hijack s.1.interrupts s.1.hijackMicrocode }, s.2)
  | goto (address : Word) :
      Effect s (.goto address) (execute .mcFetch (redirected s.1 address) 0)
  | restart : Effect s .restart (Qe6502.restart s.1)

theorem call_effect {s : Session} (hp : Placed s.1) (c : Call) :
    ∃ s', s.call c = some s' ∧ Effect s c s' := by
  cases c with
  | input i =>
    cases i with
    | tick bus =>
      obtain ⟨slot, cycle, h, cpu₀, hx⟩ := hp.executes bus
      exact ⟨_, tick_of_executes hx, .tick hx⟩
    | pin p => exact ⟨_, by rw [call, step, PinCall.apply_eq], .pin p⟩
  | goto address => exact ⟨_, goto_eq hp.supported address, .goto address⟩
  | restart => exact ⟨_, rfl, .restart⟩

theorem effect_of_call {s s' : Session} (hp : Placed s.1) {c : Call} (h : s.call c = some s') :
    Effect s c s' := by
  obtain ⟨s₁, h₁, heffect⟩ := call_effect hp c
  rw [h₁, Option.some.injEq] at h
  exact h ▸ heffect

theorem Effect.placed {s s' : Session} {c : Call} (hp : Placed s.1) (h : Effect s c s') :
    Placed s'.1 := by
  cases h with
  | tick hx => exact hx.placed
  | pin p => exact placed_pins hp _ _
  | goto address => exact (redirected_executes hp.supported address).placed
  | restart => exact restart_placed hp.supported

theorem reachable_placed {s : Session} (h : Reachable s) : Placed s.1 := by
  refine h.invariant (fun s => Placed s.1) ?_ ?_
  · rintro _ ⟨cpu, hm, rfl⟩
    exact restart_placed hm
  · intro s c s' hp hs
    exact (effect_of_call hp hs).placed hp

/-- **The invariant rule for sessions**: what restart starts and every effect on a placed
session keeps holds of every reachable session. -/
theorem reachable_invariant (Inv : Session → Prop)
    (hrestart : ∀ cpu : Cpu, cpu.model.toNat < 5 → Inv (Qe6502.restart cpu))
    (heffect : ∀ s c s', Placed s.1 → Inv s → Effect s c s' → Inv s') {s : Session}
    (h : Reachable s) : Inv s := by
  have hboth : Placed s.1 ∧ Inv s := by
    refine h.invariant (fun s => Placed s.1 ∧ Inv s) ?_ ?_
    · rintro _ ⟨cpu, hm, rfl⟩
      exact ⟨restart_placed hm, hrestart cpu hm⟩
    · rintro s c s' ⟨hp, hinv⟩ hs
      have he := effect_of_call hp hs
      exact ⟨he.placed hp, heffect s c s' hp hinv he⟩
  exact hboth.2

theorem reachable_tick {s s' : Session} (h : Reachable s) {bus : Byte}
    (hs : s.step (.tick bus) = some s') : Reachable s' :=
  .step (i := .input (.tick bus)) h hs

theorem reachable_inputs {s s' : Session} (h : Reachable s) {inputs : List Input}
    (hs : StepMachine.final step s inputs = some s') : Reachable s' := by
  induction inputs generalizing s with
  | nil => exact Option.some.inj hs ▸ h
  | cons i inputs ih =>
    rw [StepMachine.final_cons, Option.bind_eq_some_iff] at hs
    obtain ⟨s₁, h₁, hs⟩ := hs
    exact ih (.step (i := .input i) h h₁) hs

theorem reachable_pins {s : Session} (h : Reachable s) (calls : List PinCall) :
    Reachable (s.pins calls) := by
  induction calls generalizing s with
  | nil => exact h
  | cons p calls ih => exact ih (s := (p.apply s.1, s.2)) (.step (i := .input (.pin p)) h rfl)

/-- The session that calls lead to from the restart of a blank context. -/
def after (model : Byte) (calls : List Call) : Session :=
  (StepMachine.final call (Qe6502.restart { blankCpu with model := model }) calls).getD
    (Qe6502.restart { blankCpu with model := model })

theorem after_reachable {model : Byte} (hm : model.toNat < 5) (calls : List Call) :
    (after model calls).Reachable := by
  have hinit : Reachable (Qe6502.restart { blankCpu with model := model }) :=
    .init ⟨{ blankCpu with model := model }, hm, rfl⟩
  rw [after]
  cases hfinal : StepMachine.final call (Qe6502.restart { blankCpu with model := model }) calls with
  | none => exact hinit
  | some s => exact StepMachine.reachable_final hinit hfinal

end Session

/-! ### Closure of the control store -/

/-- The index is below the size of the control store and in the block of the model. -/
def InBlock (model : Byte) (index : Word) : Prop :=
  index.toNat < controlStoreSize ∧
    model.toNat * 4096 ≤ index.toNat ∧ index.toNat < (model.toNat + 1) * 4096

theorem position_inBlock {model : Byte} {slot cycle : Nat} (hm : model.toNat < 5)
    (hs : slot < 264) (hc : cycle < 8) : InBlock model (position model.toNat slot cycle) := by
  have hsize : controlStoreSize = 20480 := rfl
  rw [InBlock, position_toNat hm hs hc, hsize]
  omega

/-- What a session may call: every index below lies in the block of the model at a present entry,
and no call is missing. -/
structure Session.Closed (s : Session) : Prop where
  /-- The index that `qe6502_tick` and the resolver use. -/
  index : InBlock s.1.model s.1.microcode ∧ (controlStore s.1.microcode).isSome
  /-- The index that the dispatcher computes from an opcode. -/
  dispatch : controlStore s.1.microcode = some .mcDispatch → ∀ bus : Byte,
    InBlock s.1.model (dispatchIndex s.1.model bus) ∧
      (controlStore (dispatchIndex s.1.model bus)).isSome
  /-- The index that `qe6502_goto` enters. -/
  redirected : ∀ address : Word, InBlock s.1.model (Qe6502.redirected s.1 address).microcode ∧
    (controlStore (Qe6502.redirected s.1 address).microcode).isSome
  /-- The fixed index of the resolver, which has no block. -/
  resolver : hijackIndex.toNat < controlStoreSize ∧ (controlStore hijackIndex).isSome
  tick : ∀ bus : Byte, (Qe6502.tick s.1 bus).isSome
  goto : ∀ address : Word, (Qe6502.goto s.1 address).isSome

/-- A callable position lies in the block of its model at a present entry. -/
theorem callable_inBlock {model : Byte} {slot cycle : Nat}
    (h : isCallable (entryAt model.toNat slot cycle) = true) :
    InBlock model (position model.toNat slot cycle) ∧
      (controlStore (position model.toNat slot cycle)).isSome := by
  obtain ⟨hm, hs, hc⟩ := bounds_of_callable h
  rw [controlStore_position (by omega) (by omega) hc]
  refine ⟨position_inBlock hm hs hc, ?_⟩
  cases he : entryAt model.toNat slot cycle with
  | none => rw [he] at h; cases h
  | some e => rfl

/-- **Closure of the control store.**  In every reachable session the index that
`qe6502_tick` and the resolver use, the index the dispatcher computes from any opcode and the
index `qe6502_goto` enters lie in the model's own block at a present entry, the fixed index of
the resolver lies in the table, and every tick and every goto has a result. -/
theorem controlStore_closed {s : Session} (h : Session.Reachable s) : s.Closed := by
  have hp := Session.reachable_placed h
  have hm := hp.supported
  constructor
  case index =>
    obtain ⟨slot, cycle, hat, hcall⟩ := hp.callable
    rw [hat]
    exact callable_inBlock hcall
  case dispatch =>
    intro _ bus
    obtain ⟨h, hop⟩ := opcode_handler hm bus.isLt
    rw [dispatchIndex_eq_position hm]
    refine callable_inBlock ?_
    rw [hop]
    rfl
  case redirected =>
    intro address
    obtain ⟨_, _, hgoto⟩ := services_present _ hm
    have hat : (Qe6502.redirected s.1 address).microcode = position s.1.model.toNat 261 0 :=
      idx_eq_position hm .goto (by omega : 0 < 8)
    rw [hat]
    refine callable_inBlock ?_
    rw [hgoto]
    rfl
  case resolver => exact ⟨by decide, rfl⟩
  case tick =>
    intro bus
    obtain ⟨_, htick, _⟩ := Session.call_effect hp (.input (.tick bus))
    exact Option.isSome_of_eq_some htick
  case goto =>
    intro address
    obtain ⟨_, hgoto, _⟩ := Session.call_effect hp (.goto address)
    exact Option.isSome_of_eq_some hgoto

/-- Pins, a goto from the middle of an instruction and the first cycles of the JSR there. -/
def redirectedCalls : List Call :=
  List.replicate 20 (.input (.tick 0xEA)) ++ [.input (.pin (.nmi 1)), .input (.tick 0xEA),
    .input (.pin (.irq 1)), .goto 0x1000, .input (.tick 0x20), .input (.tick 0x34),
    .input (.tick 0)]

theorem controlStore_closed_goto :
    ∃ s, StepMachine.final Session.call (restart { blankCpu with model := 4 }) redirectedCalls =
        some s ∧ s.1.microcode = position 4 0x20 3 ∧ s.Closed := by
  obtain ⟨s, hs, hat⟩ : ∃ s, StepMachine.final Session.call
      (restart { blankCpu with model := 4 }) redirectedCalls = some s ∧
        s.1.microcode = position 4 0x20 3 := by
    decide
  have hinit : Session.Reachable (restart { blankCpu with model := 4 }) :=
    .init ⟨_, by decide, rfl⟩
  exact ⟨s, hs, hat, controlStore_closed (StepMachine.reachable_final hinit hs)⟩

end Qe6502
