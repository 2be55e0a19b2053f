import Qe6502.Interrupts
import Mathlib.Tactic.IntervalCases

/-!
# Positions in the control store

A microcode index is a block, a slot and a cycle.  `position` builds it, and the increments,
jumps and dispatches of the source stay among these.  `forall_entries` turns a check of the
tables into a statement about every entry.

The main result is `tick_of_executes`: a tick runs one handler, directly or after a dispatch,
and `execute` is what the tick makes of it with and without the resolver.
-/

namespace Qe6502

/-- The index of an entry given by block, slot and cycle. -/
def position (model slot cycle : Nat) : Word :=
  BitVec.ofNat 16 (model * 4096 + slot * 8 + cycle)

theorem controlStore_position {model slot cycle : Nat} (hm : model < 16) (hs : slot < 512)
    (hc : cycle < 8) : controlStore (position model slot cycle) = entryAt model slot cycle := by
  have hlt : model * 4096 + slot * 8 + cycle < 65536 := by omega
  have hnat : (position model slot cycle).toNat = model * 4096 + slot * 8 + cycle := by
    rw [position, BitVec.toNat_ofNat, Nat.mod_eq_of_lt hlt]
  have hmodel : (position model slot cycle >>> 12).toNat = model := by
    rw [BitVec.toNat_ushiftRight, hnat, Nat.shiftRight_eq_div_pow]
    omega
  have hslot : ((position model slot cycle >>> 3) &&& 0x1FF).toNat = slot := by
    rw [BitVec.toNat_and, BitVec.toNat_ushiftRight, hnat, Nat.shiftRight_eq_div_pow]
    have hmask : (0x1FF : Word).toNat = 2 ^ 9 - 1 := rfl
    rw [hmask, Nat.and_two_pow_sub_one_eq_mod]
    omega
  have hcycle : (position model slot cycle &&& 7).toNat = cycle := by
    rw [BitVec.toNat_and, hnat]
    have hmask : (7 : Word).toNat = 2 ^ 3 - 1 := rfl
    rw [hmask, Nat.and_two_pow_sub_one_eq_mod]
    omega
  rw [controlStore, hmodel, hslot, hcycle]

theorem position_toNat {model slot cycle : Nat} (hm : model < 5) (hs : slot < 264)
    (hc : cycle < 8) : (position model slot cycle).toNat = model * 4096 + slot * 8 + cycle := by
  rw [position, BitVec.toNat_ofNat, Nat.mod_eq_of_lt (by omega)]

theorem position_add (model slot cycle n : Nat) :
    position model slot cycle + BitVec.ofNat 16 n = position model slot (cycle + n) := by
  rw [position, position, ← BitVec.ofNat_add, Nat.add_assoc]

theorem position_succ (model slot cycle : Nat) :
    position model slot cycle + 1 = position model slot (cycle + 1) :=
  position_add model slot cycle 1

/-- Distinct places of one block have distinct indices. -/
theorem position_inj {model slot cycle slot' cycle' : Nat} (hm : model < 5) (hs : slot < 264)
    (hc : cycle < 8) (hs' : slot' < 264) (hc' : cycle' < 8)
    (h : position model slot cycle = position model slot' cycle') :
    slot = slot' ∧ cycle = cycle' := by
  have hnat := congrArg BitVec.toNat h
  rw [position_toNat hm hs hc, position_toNat hm hs' hc'] at hnat
  omega

/-! ### Jumps and dispatches -/

theorem idx_eq_position {model : Byte} (hm : model.toNat < 5) (slot : ServiceSlot) {cycle : Nat}
    (hc : cycle < 8) :
    idx model slot.code (BitVec.ofNat 16 cycle) = position model.toNat slot.code.toNat cycle := by
  obtain ⟨m, rfl⟩ : ∃ m, model = BitVec.ofNat 8 m := ⟨model.toNat, by simp⟩
  have hm5 : m % 256 < 5 := by simpa using hm
  have hmod : BitVec.ofNat 8 m = BitVec.ofNat 8 (m % 256) := by
    apply BitVec.eq_of_toNat_eq
    simp
  rw [hmod]
  generalize m % 256 = k at hm5
  interval_cases k <;> interval_cases cycle <;> cases slot <;> rfl

/-- The index `mc_dispatch` computes from the opcode on the bus. -/
def dispatchIndex (model bus : Byte) : Word :=
  (model.setWidth 16 <<< 12) ||| (bus.setWidth 16 <<< 3)

theorem dispatchIndex_eq_position {model : Byte} (hm : model.toNat < 5) (bus : Byte) :
    dispatchIndex model bus = position model.toNat bus.toNat 0 := by
  have hall : ∀ m : Fin 5, ∀ b : Fin 256,
      dispatchIndex (BitVec.ofNat 8 m) (BitVec.ofFin b) = position m b.val 0 := by
    decide +kernel
  have hmodel : BitVec.ofNat 8 model.toNat = model := by simp
  have h := hall ⟨model.toNat, hm⟩ bus.toFin
  rw [hmodel] at h
  exact h

/-! ### Checks of the tables -/

/-- `P` of every cycle and entry of a slot from a first cycle on. -/
def slotAll (P : Nat → Entry → Bool) : Nat → Slot → Bool
  | _, [] => true
  | cycle, e :: es => P cycle e && slotAll P (cycle + 1) es

/-- `P` of every slot of a block, with its entries, from a first slot on. -/
def blockAll (P : Nat → Slot → Bool) : Nat → List Slot → Bool
  | _, [] => true
  | slot, s :: ss => P slot s && blockAll P (slot + 1) ss

/-- `P` of every slot of every block from a first block on. -/
def tableAll (P : Nat → Nat → Slot → Bool) : Nat → List (List Slot) → Bool
  | _, [] => true
  | model, b :: bs => blockAll (P model) 0 b && tableAll P (model + 1) bs

theorem slotAll_get {P : Nat → Entry → Bool} :
    ∀ {es : Slot} {first : Nat}, slotAll P first es = true → ∀ {k : Nat} {e : Entry},
      es[k]? = some e → P (first + k) e = true := by
  intro es
  induction es with
  | nil => intro first _ k e hk; simp at hk
  | cons e₀ es ih =>
    intro first h k e hk
    rw [slotAll, Bool.and_eq_true] at h
    cases k with
    | zero =>
      have he : e₀ = e := by simpa using hk
      exact he ▸ h.1
    | succ k =>
      have htail := ih h.2 (k := k) (by simpa using hk)
      rwa [Nat.add_right_comm] at htail

theorem blockAll_get {P : Nat → Slot → Bool} :
    ∀ {ss : List Slot} {first : Nat}, blockAll P first ss = true → ∀ {k : Nat} {s : Slot},
      ss[k]? = some s → P (first + k) s = true := by
  intro ss
  induction ss with
  | nil => intro first _ k s hk; simp at hk
  | cons s₀ ss ih =>
    intro first h k s hk
    rw [blockAll, Bool.and_eq_true] at h
    cases k with
    | zero =>
      have hs : s₀ = s := by simpa using hk
      exact hs ▸ h.1
    | succ k =>
      have htail := ih h.2 (k := k) (by simpa using hk)
      rwa [Nat.add_right_comm] at htail

theorem tableAll_get {P : Nat → Nat → Slot → Bool} :
    ∀ {bs : List (List Slot)} {first : Nat}, tableAll P first bs = true →
      ∀ {k : Nat} {b : List Slot}, bs[k]? = some b → blockAll (P (first + k)) 0 b = true := by
  intro bs
  induction bs with
  | nil => intro first _ k b hk; simp at hk
  | cons b₀ bs ih =>
    intro first h k b hk
    rw [tableAll, Bool.and_eq_true] at h
    cases k with
    | zero =>
      have hb : b₀ = b := by simpa using hk
      exact hb ▸ h.1
    | succ k =>
      have htail := ih h.2 (k := k) (by simpa using hk)
      rwa [Nat.add_right_comm] at htail

/-- **A check of the tables holds of every slot.** -/
theorem forall_slots {P : Nat → Nat → Slot → Bool}
    (h : tableAll P 0 controlStoreBlocks = true) {model slot : Nat} {entries : Slot}
    (hs : slotAt model slot = some entries) : P model slot entries = true := by
  simp only [slotAt, Option.bind_eq_bind, Option.bind_eq_some_iff] at hs
  obtain ⟨b, hb, hs⟩ := hs
  have hP := blockAll_get (tableAll_get h hb) hs
  rwa [Nat.zero_add, Nat.zero_add] at hP

/-- The check of every entry, which may look at the other entries of its slot. -/
def entriesAll (P : Nat → Nat → Slot → Nat → Entry → Bool) : Bool :=
  tableAll (fun model slot entries => slotAll (P model slot entries) 0 entries) 0
    controlStoreBlocks

theorem slot_of_entry {model slot cycle : Nat} {e : Entry}
    (he : entryAt model slot cycle = some e) :
    ∃ entries, slotAt model slot = some entries ∧ entries[cycle]? = some e := by
  simpa only [entryAt, Option.bind_eq_bind, Option.bind_eq_some_iff] using he

/-- **A check of the tables holds of every entry.** -/
theorem forall_entries {P : Nat → Nat → Slot → Nat → Entry → Bool}
    (h : entriesAll P = true) {model slot cycle : Nat} {e : Entry}
    (he : entryAt model slot cycle = some e) :
    ∃ entries, slotAt model slot = some entries ∧ P model slot entries cycle e = true := by
  obtain ⟨entries, hs, hk⟩ := slot_of_entry he
  have hslot := forall_slots h hs
  have hP := slotAll_get hslot hk
  rw [Nat.zero_add] at hP
  exact ⟨entries, hs, hP⟩

theorem entryAt_bounds {model slot cycle : Nat} {e : Entry}
    (he : entryAt model slot cycle = some e) : model < 5 ∧ slot < 264 ∧ cycle < 8 := by
  have h : entriesAll (fun m s _ k _ => m < 5 && s < 264 && k < 8) = true := by decide +kernel
  obtain ⟨_, _, hP⟩ := forall_entries h he
  simpa [and_assoc] using hP

/-! ### The handler of a tick -/

/-- The context `mc_dispatch` hands to the first handler of an opcode. -/
def dispatched (cpu : Cpu) (bus : Byte) : Cpu :=
  { cpu with microcode := dispatchIndex cpu.model bus, pc := cpu.pc + 1 }

/-- The microcode index is that of a place of the model's own block. -/
def Cpu.At (cpu : Cpu) (slot cycle : Nat) : Prop :=
  cpu.microcode = position cpu.model.toNat slot cycle

instance (cpu : Cpu) (slot cycle : Nat) : Decidable (cpu.At slot cycle) := by
  unfold Cpu.At
  infer_instance

/-- A tick runs the handler `h`, found at given slot and cycle, on `cpu₀`: the handler at the
microcode index, or after a dispatch the first handler of the opcode on the bus. -/
inductive Executes (cpu : Cpu) (bus : Byte) : Nat → Nat → Handler → Cpu → Prop
  | direct {slot cycle : Nat} {h : Handler} : cpu.At slot cycle →
      entryAt cpu.model.toNat slot cycle = some (.handler h) → Executes cpu bus slot cycle h cpu
  | dispatch {slot cycle : Nat} {h : Handler} : cpu.At slot cycle →
      entryAt cpu.model.toNat slot cycle = some .mcDispatch →
      entryAt cpu.model.toNat bus.toNat 0 = some (.handler h) →
      Executes cpu bus bus.toNat 0 h (dispatched cpu bus)

/-- The handler of a tick and the context it runs in, as the dispatcher finds them. -/
def Cpu.handler (cpu : Cpu) (bus : Byte) : Option (Handler × Cpu) :=
  match controlStore cpu.microcode with
  | some (.handler h) => some (h, cpu)
  | some .mcDispatch =>
    match controlStore (dispatchIndex cpu.model bus) with
    | some (.handler h) => some (h, dispatched cpu bus)
    | _ => none
  | _ => none

/-- A tick that leaves the resolver out. -/
def unresolved (h : Handler) (cpu : Cpu) (bus : Byte) : Cpu × Tick :=
  (advanceMicrocode (h.run cpu bus).1, (h.run cpu bus).2)

/-- A tick that goes through the resolver. -/
def resolved (h : Handler) (cpu : Cpu) (bus : Byte) : Cpu × Tick :=
  let r := unresolved h (detectNmiEdge cpu) bus
  (resolveTick cpu.p r.2 r.1, r.2)

/-- What a tick makes of the handler it runs. -/
def execute (h : Handler) (cpu : Cpu) (bus : Byte) : Cpu × Tick :=
  if cpu.hijackMicrocode ≠ 0 then resolved h cpu bus else unresolved h cpu bus

theorem controlStore_at {cpu : Cpu} {slot cycle : Nat} {e : Entry} (hat : cpu.At slot cycle)
    (he : entryAt cpu.model.toNat slot cycle = some e) : controlStore cpu.microcode = some e := by
  obtain ⟨hm, hs, hc⟩ := entryAt_bounds he
  rw [hat, controlStore_position (by omega) (by omega) hc, he]

theorem controlStore_hijackIndex : controlStore hijackIndex = some .interruptResolver := rfl

/-- Detection looks at the interrupt byte only. -/
theorem detectNmiEdge_dispatched (cpu : Cpu) (bus : Byte) :
    detectNmiEdge (dispatched cpu bus) = dispatched (detectNmiEdge cpu) bus := by
  rw [detectNmiEdge_eq, detectNmiEdge_eq]
  rfl

theorem dispatchIndex_entry {cpu : Cpu} {bus : Byte} {h : Handler}
    (hop : entryAt cpu.model.toNat bus.toNat 0 = some (.handler h)) :
    controlStore (dispatchIndex cpu.model bus) = some (.handler h) := by
  obtain ⟨hm, hs, hc⟩ := entryAt_bounds hop
  rw [dispatchIndex_eq_position hm, controlStore_position (by omega) (by omega) hc, hop]

theorem handler_of_executes {cpu cpu₀ : Cpu} {bus : Byte} {slot cycle : Nat} {h : Handler}
    (hx : Executes cpu bus slot cycle h cpu₀) : cpu.handler bus = some (h, cpu₀) := by
  cases hx with
  | direct hat he => rw [Cpu.handler, controlStore_at hat he]
  | dispatch hat he hop =>
    rw [Cpu.handler, controlStore_at hat he]
    dsimp only
    rw [dispatchIndex_entry hop]

theorem callEntry_of_executes {cpu cpu₀ : Cpu} {bus : Byte} {slot cycle : Nat} {h : Handler}
    (hx : Executes cpu bus slot cycle h cpu₀) {depth : Nat} :
    callEntry (depth + 2) cpu.microcode cpu bus = some (h.run cpu₀ bus) := by
  cases hx with
  | direct hat he => rw [callEntry, controlStore_at hat he]
  | dispatch hat he hop =>
    rw [callEntry, controlStore_at hat he]
    show callEntry (depth + 1) (dispatchIndex cpu.model bus) (dispatched cpu bus) bus = _
    rw [callEntry, dispatchIndex_entry hop]

theorem Executes.detect {cpu cpu₀ : Cpu} {bus : Byte} {slot cycle : Nat} {h : Handler}
    (hx : Executes cpu bus slot cycle h cpu₀) :
    Executes (detectNmiEdge cpu) bus slot cycle h (detectNmiEdge cpu₀) := by
  have hcpu := detectNmiEdge_eq cpu
  have hmodel : (detectNmiEdge cpu).model = cpu.model := by rw [hcpu]
  have hmicro : (detectNmiEdge cpu).microcode = cpu.microcode := by rw [hcpu]
  cases hx with
  | direct hat he =>
    refine .direct ?_ (by rw [hmodel, he])
    rw [Cpu.At, hmodel, hmicro, hat]
  | dispatch hat he hop =>
    rw [detectNmiEdge_dispatched]
    refine .dispatch ?_ (by rw [hmodel, he]) (by rw [hmodel, hop])
    rw [Cpu.At, hmodel, hmicro, hat]

theorem Executes.interrupts_eq {cpu cpu₀ : Cpu} {bus : Byte} {slot cycle : Nat} {h : Handler}
    (hx : Executes cpu bus slot cycle h cpu₀) :
    cpu₀.p = cpu.p ∧ cpu₀.interrupts = cpu.interrupts ∧
      cpu₀.hijackMicrocode = cpu.hijackMicrocode ∧ cpu₀.model = cpu.model := by
  cases hx <;> exact ⟨rfl, rfl, rfl, rfl⟩

theorem interruptResolver_of_executes {cpu cpu₀ : Cpu} {bus : Byte} {slot cycle : Nat}
    {h : Handler} (hx : Executes cpu bus slot cycle h cpu₀) {depth : Nat} :
    interruptResolver (callEntry (depth + 2)) cpu bus = some (resolved h cpu₀ bus) := by
  have hp : (detectNmiEdge cpu).p = cpu₀.p := by
    rw [detectNmiEdge_eq cpu, hx.interrupts_eq.1]
  simp only [interruptResolver]
  rw [callEntry_of_executes hx.detect, hp]
  rfl

/-- **A tick runs one handler**, on the context the dispatcher leaves it. -/
theorem tick_of_executes {cpu cpu₀ : Cpu} {bus : Byte} {slot cycle : Nat} {h : Handler}
    (hx : Executes cpu bus slot cycle h cpu₀) : tick cpu bus = some (execute h cpu₀ bus) := by
  obtain ⟨_, _, hhijack, _⟩ := hx.interrupts_eq
  rw [tick, execute, hhijack]
  split
  · rw [callDepth, callEntry, controlStore_hijackIndex]
    exact interruptResolver_of_executes hx
  · rw [callDepth, callEntry_of_executes hx]
    rfl

end Qe6502
