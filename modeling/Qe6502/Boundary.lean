import Qe6502.Alike

/-!
# Instruction boundaries

After an opcode fetch the latches hold nothing that a later tick reads.  `walk` follows all
paths of a slot from a cycle and checks that each handler reads only latches that the path has
filled in; `entries_walk` is the check of the tables.  `boundary_complete` is the result for two
sessions that differ in the latches at an opcode fetch.
-/

namespace Qe6502

/-! ### Paths through a slot -/

/-- A place that no latch is carried to: the first cycle of an opcode or a service slot, the
vector cycles that the push of another sequence may enter, and the one after the restart's fake
fetch. -/
def isEntryPoint (slot cycle : Nat) : Bool :=
  (cycle = 0 && slot ≠ 256 && slot ≠ 258) || (cycle = 4 && (slot = 262 || slot = 263)) ||
    (slot = 259 && cycle = 2)

/-- On every path from a cycle of a slot to a dispatch or to another entry point, the handlers
read only what is known at the start or filled in on the path. -/
def walk (slot : Nat) (entries : Slot) : Nat → Nat → Latches → Bool
  | 0, _, _ => false
  | fuel + 1, cycle, known =>
    match entries[cycle]? with
    | some .mcDispatch => true
    | some (.handler h) => decide (h.reads.Le known) && h.exits.all fun e =>
        e.move.isService || e.move = .stay ||
          isEntryPoint (e.move.target slot cycle).1 (e.move.target slot cycle).2 ||
          ((e.move.target slot cycle).1 = slot && walk slot entries fuel
            (e.move.target slot cycle).2 ((h.writes (e.move = .next)).union known))
    | _ => false

def walkDepth : Nat := 9

theorem entries_walk : entriesAll (fun _ slot entries cycle _ =>
    !isEntryPoint slot cycle || walk slot entries walkDepth cycle {}) = true := by
  decide +kernel

/-- A fetch leads to a dispatch or to an entry point. -/
theorem fetches_lead : entriesAll (fun model slot entries cycle e =>
    match e with
    | .handler h => h.exits.all fun e =>
        e.status &&& statusOpcodeFetch = 0 || e.move.isService ||
          isEntryPoint (e.move.target slot cycle).1 (e.move.target slot cycle).2 ||
          entryAfter model slot entries cycle e.move = some .mcDispatch
    | _ => true) = true := by
  decide +kernel

/-! ### Contexts that carry nothing -/

/-- The paths from the context's place read nothing of the latches. -/
def Fresh (cpu : Cpu) : Prop :=
  ∃ slot cycle entries, cpu.At slot cycle ∧ slotAt cpu.model.toNat slot = some entries ∧
    walk slot entries walkDepth cycle {} = true

theorem walk_dispatch {slot cycle : Nat} {entries : Slot}
    (he : entries[cycle]? = some .mcDispatch) (known : Latches) :
    walk slot entries walkDepth cycle known = true := by
  rw [walkDepth, walk, he]

theorem walk_entryPoint {model slot cycle : Nat}
    (hcall : isCallable (entryAt model slot cycle) = true)
    (hpoint : isEntryPoint slot cycle = true) :
    ∃ entries, slotAt model slot = some entries ∧ walk slot entries walkDepth cycle {} = true := by
  cases he : entryAt model slot cycle with
  | none => rw [he] at hcall; cases hcall
  | some e =>
    obtain ⟨entries, hs, hwalk⟩ := forall_entries entries_walk he
    rw [hpoint] at hwalk
    exact ⟨entries, hs, hwalk⟩

theorem entered_entryPoint {h : Handler} {cpu : Cpu} {bus : Byte} {service : ServiceSlot} {k : Nat}
    (hs : (unitTick h cpu bus).2 = some (service, k)) :
    isEntryPoint service.code.toNat k = true := by
  rcases Lines.tick_entered hs with ⟨rfl, _, rfl | rfl⟩ | ⟨rfl, ⟨_, rfl | rfl⟩ | ⟨_, rfl⟩⟩ <;> rfl

theorem fresh_of_fetch {cpu cpu₀ : Cpu} {bus : Byte} {slot cycle : Nat} {h : Handler}
    (hx : Executes cpu bus slot cycle h cpu₀) (hf : (execute h cpu₀ bus).2.fetching = true) :
    Fresh (execute h cpu₀ bus).1 := by
  obtain ⟨e, slot', cycle', hleads⟩ := execute_place hx
  obtain ⟨_, hentry⟩ := hx.entry
  obtain ⟨entries, hs, hall⟩ := forall_entries fetches_lead hentry
  have hmodel : (execute h cpu₀ bus).1.model = cpu₀.model := execute_model
  suffices hfresh : ∃ entries, slotAt cpu₀.model.toNat slot' = some entries ∧
      walk slot' entries walkDepth cycle' {} = true by
    obtain ⟨entries, hs', hwalk⟩ := hfresh
    exact ⟨slot', cycle', entries, hleads.place, hmodel ▸ hs', hwalk⟩
  cases hunit : (unitTick h cpu₀ bus).2 with
  | some entered =>
    obtain ⟨service, k⟩ := entered
    obtain ⟨rfl, rfl⟩ := hleads.of_entered hunit
    exact walk_entryPoint hleads.callable (entered_entryPoint hunit)
  | none =>
    obtain ⟨rfl, rfl⟩ := hleads.of_none hunit
    have hexit := List.all_eq_true.mp hall e hleads.mem
    have hstatus : ¬e.status &&& statusOpcodeFetch = 0 := by
      rw [hleads.fetching] at hf
      exact of_decide_eq_true hf
    simp only [hstatus, hleads.noService, decide_false, Bool.false_or, Bool.or_eq_true,
      decide_eq_true_eq] at hexit
    rcases hexit with hpoint | hdispatch
    · exact walk_entryPoint hleads.callable hpoint
    · rw [entryAfter_eq hs] at hdispatch
      obtain ⟨entries', hs', hk⟩ := slot_of_entry hdispatch
      exact ⟨entries', hs', walk_dispatch hk _⟩

theorem Session.reachable_fresh {s : Session} (h : s.Reachable) (hf : s.2.fetching = true) :
    Fresh s.1 := by
  refine Session.reachable_invariant (fun s => s.2.fetching = true → Fresh s.1) ?_ ?_ h hf
  · intro cpu _ hf
    rw [restart_tick] at hf
    exact absurd hf (by decide)
  · intro s c s' hp hinv heffect hf
    cases heffect with
    | tick hx => exact fresh_of_fetch hx hf
    | pin p => exact hinv hf
    | goto address => exact fresh_of_fetch (redirected_executes hp.supported address) hf
    | restart =>
      rw [restart_tick] at hf
      exact absurd hf (by decide)

/-! ### Two contexts at a boundary -/

/-- The other context's microcode index, given where `cpu` is: the same place with what has been
filled in since the boundary, or another dispatch. -/
inductive Stage (cpu : Cpu) (v : Variation) : Word → Prop
  | inside {slot cycle fuel : Nat} {entries : Slot} {known : Latches} : cpu.At slot cycle →
      slotAt cpu.model.toNat slot = some entries → walk slot entries fuel cycle known = true →
      Known known cpu.carried v → Stage cpu v cpu.microcode
  | boundary {index : Word} : SameFlags cpu.p v.p →
      controlStore cpu.microcode = some .mcDispatch → controlStore index = some .mcDispatch →
      Stage cpu v index

theorem Stage.flags {cpu : Cpu} {v : Variation} {index : Word} (h : Stage cpu v index) :
    SameFlags cpu.p v.p := by
  cases h with
  | inside _ _ _ hk => exact hk.p
  | boundary hp _ _ => exact hp

/-- The contexts differ in the internal flags and in latches that are not read. -/
def Twin (s t : Cpu) : Prop :=
  ∃ v index, t = { s.vary v with microcode := index } ∧ Stage s v index

theorem Twin.pins {s t : Cpu} (h : Twin s t) (calls : List PinCall) :
    Twin (calls.foldl PinCall.apply s) (calls.foldl PinCall.apply t) := by
  induction calls generalizing s t with
  | nil => exact h
  | cons p calls ih =>
    obtain ⟨v, index, rfl, hstage⟩ := h
    refine ih ⟨v, index, ?_, ?_⟩
    · rw [PinCall.apply_eq, PinCall.apply_eq]
      rfl
    · rw [PinCall.apply_eq]
      cases hstage with
      | inside hat hs hwalk hk => exact .inside hat hs hwalk hk
      | boundary hp hd hd' => exact .boundary hp hd hd'

/-- A handler fills in more when it goes on to the next cycle. -/
theorem Handler.writes_le (h : Handler) (goesOn : Bool) :
    (h.writes false).Le (h.writes goesOn) := by
  cases goesOn with
  | false => exact ⟨id, id, id⟩
  | true => cases h <;> decide

/-- **A tick inside a slot.** -/
theorem execute_inside {cpu cpu₀ : Cpu} {bus : Byte} {slot cycle fuel : Nat} {h : Handler}
    (hx : Executes cpu bus slot cycle h cpu₀) {entries : Slot}
    (hs : slotAt cpu₀.model.toNat slot = some entries) {known : Latches}
    (hwalk : walk slot entries fuel cycle known = true) {v : Variation}
    (hk : Known known cpu₀.carried v) :
    ∃ v', execute h (cpu₀.vary v) bus = ((execute h cpu₀ bus).1.vary v', (execute h cpu₀ bus).2) ∧
      Stage (execute h cpu₀ bus).1 v' (execute h cpu₀ bus).1.microcode := by
  obtain ⟨hat, hentry⟩ := hx.entry
  have hget : entries[cycle]? = some (.handler h) := by
    obtain ⟨entries', hs', hget⟩ := slot_of_entry hentry
    rw [hs, Option.some.injEq] at hs'
    exact hs' ▸ hget
  cases fuel with
  | zero => cases hwalk
  | succ fuel =>
    rw [walk, hget] at hwalk
    simp only [Bool.and_eq_true, decide_eq_true_eq, List.all_eq_true] at hwalk
    obtain ⟨hle, hall⟩ := hwalk
    obtain ⟨v', hrun, hk'⟩ := execute_vary bus hk hle
    obtain ⟨e, slot', cycle', hleads⟩ := execute_place hx
    have hmodel : (execute h cpu₀ bus).1.model = cpu₀.model := execute_model
    refine ⟨v', hrun, ?_⟩
    have hpoint : isEntryPoint slot' cycle' = true →
        Stage (execute h cpu₀ bus).1 v' (execute h cpu₀ bus).1.microcode := by
      intro hpoint
      obtain ⟨entries', hs', hwalk'⟩ := walk_entryPoint hleads.callable hpoint
      exact .inside hleads.place (hmodel ▸ hs') hwalk' (hk'.mono (.empty _))
    cases hunit : (unitTick h cpu₀ bus).2 with
    | some entered =>
      obtain ⟨service, k⟩ := entered
      obtain ⟨rfl, rfl⟩ := hleads.of_entered hunit
      exact hpoint (entered_entryPoint hunit)
    | none =>
      obtain ⟨rfl, rfl⟩ := hleads.of_none hunit
      have hexit := hall e hleads.mem
      simp only [hleads.noService, Bool.false_or, Bool.or_eq_true, decide_eq_true_eq,
        Bool.and_eq_true] at hexit
      rcases hexit with (hstay | hentry) | ⟨hslot, hnext⟩
      · have hplace := hleads.place
        rw [hstay] at hplace
        have hself : walk slot entries (fuel + 1) cycle known = true := by
          rw [walk, hget]
          simpa only [Bool.and_eq_true, decide_eq_true_eq, List.all_eq_true] using ⟨hle, hall⟩
        exact .inside hplace (hmodel ▸ hs) hself (hk'.mono (.union_right _ _))
      · exact hpoint hentry
      · have hplace := hleads.place
        rw [hslot] at hplace
        refine .inside hplace (hmodel ▸ hs) hnext (hk'.mono (.union_left ?_ _))
        by_cases hmove : e.move = .next
        · have hindex := hleads.index
          rw [hmove] at hindex
          have hgo : h.goesOn cpu₀ bus = true :=
            beq_iff_eq.mpr ((BitVec.add_left_inj 1).mp hindex)
          rw [hgo, hmove]
          exact ⟨id, id, id⟩
        · rw [decide_eq_false hmove]
          exact h.writes_le _
theorem fresh_opcode {model : Nat} {bus : Byte} {h : Handler}
    (hop : entryAt model bus.toNat 0 = some (.handler h)) :
    ∃ entries, slotAt model bus.toNat = some entries ∧
      walk bus.toNat entries walkDepth 0 {} = true := by
  have hlt : bus.toNat < 256 := bus.isLt
  refine walk_entryPoint (by rw [hop]; rfl) ?_
  have h256 : ¬bus.toNat = 256 := by omega
  have h258 : ¬bus.toNat = 258 := by omega
  simp [isEntryPoint, h256, h258]

theorem walk_entry {model slot cycle fuel : Nat} {entries : Slot} {known : Latches}
    (hs : slotAt model slot = some entries) (hwalk : walk slot entries fuel cycle known = true) :
    ∃ e, entryAt model slot cycle = some e := by
  cases fuel with
  | zero => cases hwalk
  | succ fuel =>
    cases hget : entries[cycle]? with
    | none =>
      rw [walk, hget] at hwalk
      cases hwalk
    | some e => exact ⟨e, by rw [entryAt, hs]; exact hget⟩

/-- **A tick of twins.** -/
theorem Twin.tick {s t : Cpu} (h : Twin s t) (hs : Placed s) (ht : Placed t) (bus : Byte) :
    ∃ r r', Qe6502.tick s bus = some r ∧ Qe6502.tick t bus = some r' ∧ Twin r.1 r'.1 ∧
      r'.2 = r.2 := by
  obtain ⟨v, index, rfl, hstage⟩ := h
  obtain ⟨slot, cycle, h, cpu₀, hx⟩ := hs.executes bus
  suffices hstep : ∃ t₀, Executes { s.vary v with microcode := index } bus slot cycle h t₀ ∧
      ∃ v', execute h t₀ bus = ((execute h cpu₀ bus).1.vary v', (execute h cpu₀ bus).2) ∧
        Stage (execute h cpu₀ bus).1 v' (execute h cpu₀ bus).1.microcode by
    obtain ⟨t₀, hx', v', heq, hnext⟩ := hstep
    refine ⟨_, _, tick_of_executes hx, tick_of_executes hx', ⟨v', _, ?_, hnext⟩, ?_⟩
    · rw [heq]
      rfl
    · rw [heq]
  cases hx with
  | direct hat he =>
    cases hstage with
    | inside hat' hs' hwalk hk =>
      obtain ⟨e', he'⟩ := walk_entry hs' hwalk
      obtain ⟨hm, hslot, hcycle⟩ := entryAt_bounds he
      obtain ⟨_, hslot', hcycle'⟩ := entryAt_bounds he'
      obtain ⟨rfl, rfl⟩ := position_inj hm hslot' hcycle' hslot hcycle (hat'.symm.trans hat)
      exact ⟨s.vary v, .direct hat he, execute_inside (.direct hat he) hs' hwalk hk⟩
    | boundary hp hd hd' =>
      rw [controlStore_at hat he] at hd
      cases hd
  | dispatch hat he hop =>
    have hd : controlStore index = some .mcDispatch := by
      cases hstage with
      | inside => exact controlStore_at hat he
      | boundary _ _ hd' => exact hd'
    obtain ⟨slot', cycle', hat', hcall'⟩ := ht.callable
    have he' : entryAt s.model.toNat slot' cycle' = some .mcDispatch := by
      cases hentry : entryAt s.model.toNat slot' cycle' with
      | none =>
        have hnone : isCallable (entryAt s.model.toNat slot' cycle') = true := hcall'
        rw [hentry] at hnone
        cases hnone
      | some e => exact (controlStore_at hat' hentry).symm.trans hd
    obtain ⟨entries, hslot, hwalk⟩ := fresh_opcode hop
    refine ⟨_, .dispatch hat' he' hop, ?_⟩
    exact execute_inside (.dispatch hat he hop) hslot hwalk (v := v)
      ⟨hstage.flags, nofun, nofun, nofun⟩

/-! ### The boundary result -/

namespace Session

/-- Pin calls and one tick. -/
def cycle (s : Session) (c : List PinCall × Byte) : Option Session :=
  (s.pins c.1).step (.tick c.2)

/-- What the host sees of a session: the tick and the registers, with P up to B and the unused
bit. -/
structure Visible where
  tick : Tick
  pc : Word
  s : Byte
  a : Byte
  x : Byte
  y : Byte
  p : Byte
deriving DecidableEq

def visible (s : Session) : Visible :=
  ⟨s.2, s.1.pc, s.1.s, s.1.a, s.1.x, s.1.y, s.1.p &&& ~~~internalFlags⟩

/-- The contexts are the same but for the latches and the internal flags, at the same microcode
index or both at a dispatch. -/
structure SameBoundary (cpu cpu' : Cpu) : Prop where
  model : cpu.model = cpu'.model
  microcode : cpu.microcode = cpu'.microcode ∨
    controlStore cpu.microcode = some .mcDispatch ∧ controlStore cpu'.microcode = some .mcDispatch
  pc : cpu.pc = cpu'.pc
  s : cpu.s = cpu'.s
  a : cpu.a = cpu'.a
  x : cpu.x = cpu'.x
  y : cpu.y = cpu'.y
  interrupts : cpu.interrupts = cpu'.interrupts
  hijackMicrocode : cpu.hijackMicrocode = cpu'.hijackMicrocode
  p : SameFlags cpu.p cpu'.p

theorem SameBoundary.twin {s t : Cpu} (h : SameBoundary s t) (hfresh : Fresh s) : Twin s t := by
  have ht : t = { s.vary t.carried with microcode := t.microcode } := by
    cases s
    cases t
    obtain ⟨rfl, _, rfl, rfl, rfl, rfl, rfl, rfl, rfl, _⟩ := h
    rfl
  refine ⟨t.carried, t.microcode, ht, ?_⟩
  rcases h.microcode with heq | ⟨hd, hd'⟩
  · obtain ⟨slot, cycle, entries, hat, hs, hwalk⟩ := hfresh
    exact heq ▸ .inside hat hs hwalk ⟨h.p, nofun, nofun, nofun⟩
  · exact .boundary h.p hd hd'

theorem reachable_cycle {s s' : Session} (h : s.Reachable) {c : List PinCall × Byte}
    (hs : s.cycle c = some s') : s'.Reachable :=
  reachable_tick (reachable_pins h c.1) hs

theorem cycle_isSome {s : Session} (h : s.Reachable) (c : List PinCall × Byte) :
    ∃ s', s.cycle c = some s' ∧ s'.Reachable := by
  obtain ⟨slot, cycle, h', cpu₀, hx⟩ := (reachable_placed (reachable_pins h c.1)).executes c.2
  have hs : s.cycle c = some (execute h' cpu₀ c.2) := tick_of_executes hx
  exact ⟨_, hs, reachable_cycle h hs⟩

/-- Reachable twins. -/
structure Twins (s t : Session) : Prop where
  left : s.Reachable
  right : t.Reachable
  twin : Twin s.1 t.1

theorem Twins.cycle {s t : Session} (h : Twins s t) (c : List PinCall × Byte) :
    Option.Rel (fun s' t' => Twins s' t' ∧ s'.visible = t'.visible) (s.cycle c) (t.cycle c) := by
  obtain ⟨r, r', hr, hr', htwin, htick⟩ := (h.twin.pins c.1).tick
    (reachable_placed (reachable_pins h.left c.1))
    (reachable_placed (reachable_pins h.right c.1)) c.2
  have hs : s.cycle c = some r := hr
  have ht : t.cycle c = some r' := hr'
  rw [hs, ht]
  refine .some ⟨⟨reachable_cycle h.left hs, reachable_cycle h.right ht, htwin⟩, ?_⟩
  obtain ⟨v, index, heq, hstage⟩ := htwin
  rw [visible, visible, htick, heq]
  exact congrArg (Visible.mk _ _ _ _ _ _) hstage.flags

end Session

/-- **An instruction boundary is complete.**  Two reachable sessions whose last tick was an
opcode fetch and that differ in the latches and the internal flags alone issue the same ticks and
have the same registers under every schedule of pin calls and bus bytes. -/
theorem boundary_complete {s t : Session} (hs : s.Reachable) (ht : t.Reachable)
    (hfetch : s.2.fetching = true) (hsame : Session.SameBoundary s.1 t.1)
    (cycles : List (List PinCall × Byte)) :
    ∃ ss ts, StepMachine.states Session.cycle s cycles = some ss ∧
      StepMachine.states Session.cycle t cycles = some ts ∧
      ss.map Session.visible = ts.map Session.visible := by
  have htwins : Session.Twins s t := ⟨hs, ht, hsame.twin (Session.reachable_fresh hs hfetch)⟩
  have hrun : ∀ u : Session, u.Reachable →
      ∃ us, StepMachine.states Session.cycle u cycles = some us :=
    fun _ hu => StepMachine.states_isSome (fun _ c h => Session.cycle_isSome h c) hu
  obtain ⟨ss, hss⟩ := hrun s hs
  obtain ⟨ts, hts⟩ := hrun t ht
  have htogether : StepMachine.Together Session.cycle Session.cycle
      (fun _ _ c c' => True ∧ c = c') s t cycles cycles :=
    StepMachine.together_of_always (StepMachine.always_of_forall (fun _ _ => trivial) cycles s)
  have heq : (StepMachine.states Session.cycle s cycles).map (List.map Session.visible) =
      (StepMachine.states Session.cycle t cycles).map (List.map Session.visible) := by
    refine StepMachine.states_observe_eq_of_step ?_ htwins htogether
    rintro s t c _ h ⟨_, rfl⟩
    exact h.cycle c
  rw [hss, hts] at heq
  exact ⟨ss, ts, hss, hts, Option.some.inj heq⟩

/-- The second session has counted one tick of the restart in `latch_data`; then both are sent an
NMI in their first instruction. -/
theorem boundary_complete_goto :
    (Session.after 0 [.goto 0x1000]).1.latchData ≠
        (Session.after 0 [.input (.tick 0), .goto 0x1000]).1.latchData ∧
      ∃ ss ts, StepMachine.states Session.cycle (.after 0 [.goto 0x1000])
          [([], 0xA5), ([.nmi 1], 0x10), ([.irq 1], 0x20), ([.nmi 0], 0xEA), ([], 0xEA)] =
            some ss ∧
        StepMachine.states Session.cycle (.after 0 [.input (.tick 0), .goto 0x1000])
          [([], 0xA5), ([.nmi 1], 0x10), ([.irq 1], 0x20), ([.nmi 0], 0xEA), ([], 0xEA)] =
            some ts ∧
        ss.map Session.visible = ts.map Session.visible := by
  refine ⟨by decide, boundary_complete (Session.after_reachable (by decide) _)
    (Session.after_reachable (by decide) _) (by decide) ?_ _⟩
  constructor <;> decide

end Qe6502
