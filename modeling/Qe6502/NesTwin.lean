import Qe6502.Relocate

/-!
# The NES model without decimal mode

The NES block is the NMOS block with the decimal adders replaced by binary ones.  As long as D
is clear at every tick, an NES session is the NMOS session in the next block: `nes_lockstep`.
-/

namespace Qe6502

/-! ### The two blocks -/

/-- The handler the NES block has in the place of an NMOS handler. -/
def Handler.nes : Handler → Handler
  | .opAdcRReadyNonePendingDataFetch => .opNesAdcRReadyNonePendingDataFetch
  | .opSbcRReadyNonePendingDataFetch => .opNesSbcRReadyNonePendingDataFetch
  | .opArrRReadyNonePendingDataFetch => .opNesArrRReadyNonePendingDataFetch
  | .opRraRwReadyAddrDataPendingNoneWrPrefetch => .opNesRraRwReadyAddrDataPendingNoneWrPrefetch
  | .opIscRwReadyAddrDataPendingNoneWrPrefetch => .mcNesIscRwReadyAddrDataPendingNoneWrPrefetch
  | h => h

def Entry.nes : Entry → Entry
  | .handler h => .handler h.nes
  | e => e

/-- **The tables agree entry by entry.** -/
theorem nesBlock_eq : nesBlock = nmosBlock.map (List.map Entry.nes) := by decide +kernel

theorem entryAt_nes (slot cycle : Nat) :
    entryAt 1 slot cycle = (entryAt 0 slot cycle).map Entry.nes := by
  have hslot : slotAt 1 slot = (slotAt 0 slot).map (List.map Entry.nes) := by
    show nesBlock[slot]? = nmosBlock[slot]?.map (List.map Entry.nes)
    rw [nesBlock_eq, List.getElem?_map]
  rw [entryAt, entryAt, hslot]
  cases slotAt 0 slot with
  | none => rfl
  | some entries => exact List.getElem?_map

section decimal

variable {cpu : Cpu} (hd : decimalClear cpu = true) (value : Byte)

include hd

theorem adcValue_clear : adcValue cpu value = adcBinary cpu value := if_pos (of_decide_eq_true hd)

theorem sbcValue_clear : sbcValue cpu value = adcBinary cpu (value ^^^ 0xFF) :=
  if_pos (of_decide_eq_true hd)

end decimal

theorem decimalClear_eq (cpu : Cpu) : decimalClear cpu = !cpu.p.getLsbD 3 := by
  have hall : ∀ p : Byte, decide (p &&& flagD = 0) = !p.getLsbD 3 := by decide
  exact hall cpu.p

theorem decimalClear_rorValue (cpu : Cpu) (value : Byte) :
    decimalClear (rorValue cpu value).1 = decimalClear cpu := by
  have hz : ∀ cond, (flagZIf cond).getLsbD 3 = false := by decide
  have hc : ∀ b : Byte, (b &&& flagC).getLsbD 3 = false := by simp [flagC]
  have hn : ∀ b : Byte, (b &&& flagN).getLsbD 3 = false := by simp [flagN]
  have hmask : (flagC ||| flagZ ||| flagN).getLsbD 3 = false := rfl
  rw [decimalClear_eq, decimalClear_eq]
  simp only [rorValue, updateFlagsNzc, BitVec.getLsbD_or, BitVec.getLsbD_and, BitVec.getLsbD_not,
    hmask, hz, hc, hn]
  simp

/-- **With D clear the replaced handlers do the same.** -/
theorem run_nes (h : Handler) {cpu : Cpu} (hd : decimalClear cpu = true) (bus : Byte) :
    h.nes.run cpu bus = h.run cpu bus := by
  cases h with
  | opAdcRReadyNonePendingDataFetch =>
    show execFetch adcBinary cpu bus = execFetch adcValue cpu bus
    rw [execFetch, execFetch, adcValue_clear hd]
  | opSbcRReadyNonePendingDataFetch =>
    show execFetch (fun cpu bus => adcBinary cpu (bus ^^^ 0xFF)) cpu bus =
      execFetch sbcValue cpu bus
    rw [execFetch, execFetch, sbcValue_clear hd]
  | opArrRReadyNonePendingDataFetch =>
    have hp : cpu.p &&& flagD = 0 := of_decide_eq_true hd
    show opNesArrRReadyNonePendingDataFetch cpu bus = opArrRReadyNonePendingDataFetch cpu bus
    dsimp only [opNesArrRReadyNonePendingDataFetch, opArrRReadyNonePendingDataFetch, execFetch]
    rw [if_pos hp]
  | opRraRwReadyAddrDataPendingNoneWrPrefetch =>
    have hror : decimalClear (rorValue (prefetch cpu) cpu.latchData).1 = true :=
      (decimalClear_rorValue (prefetch cpu) cpu.latchData).trans hd
    show opNesRraRwReadyAddrDataPendingNoneWrPrefetch cpu bus =
      opRraRwReadyAddrDataPendingNoneWrPrefetch cpu bus
    dsimp only [opNesRraRwReadyAddrDataPendingNoneWrPrefetch,
      opRraRwReadyAddrDataPendingNoneWrPrefetch, modifyWritePrefetch]
    have hlatch : (prefetch cpu).latchData = cpu.latchData := rfl
    rw [hlatch, adcValue_clear hror]
  | opIscRwReadyAddrDataPendingNoneWrPrefetch =>
    have hprefetch : decimalClear (prefetch cpu) = true := hd
    show mcNesIscRwReadyAddrDataPendingNoneWrPrefetch cpu bus =
      opIscRwReadyAddrDataPendingNoneWrPrefetch cpu bus
    dsimp only [mcNesIscRwReadyAddrDataPendingNoneWrPrefetch,
      opIscRwReadyAddrDataPendingNoneWrPrefetch, modifyWritePrefetch]
    rw [sbcValue_clear hprefetch]
  | _ => rfl

/-! ### NesPair -/

/-- The NES context of an NMOS context: the same place of the next block. -/
def Cpu.nes (cpu : Cpu) : Cpu := cpu.seat modelNes (cpu.microcode + 0x1000)

theorem position_nes (slot cycle : Nat) :
    position 1 slot cycle = position 0 slot cycle + 0x1000 := by
  have hbase : (0x1000 : Word) = BitVec.ofNat 16 4096 := rfl
  rw [position, position, hbase, ← BitVec.ofNat_add]
  exact congrArg (BitVec.ofNat 16) (by omega)

theorem idx_nes (slot : ServiceSlot) {cycle : Nat} (hc : cycle < 8) :
    idx modelNes slot.code (BitVec.ofNat 16 cycle) =
      idx modelNmos slot.code (BitVec.ofNat 16 cycle) + 0x1000 := by
  rw [idx_eq_position (by decide) slot hc, idx_eq_position (by decide) slot hc]
  exact position_nes _ _

theorem base_add (index n : Word) : index + 0x1000 + n = index + n + 0x1000 := by
  rw [BitVec.add_assoc, BitVec.add_comm _ n, ← BitVec.add_assoc]

theorem base_sub (index : Word) : index + 0x1000 - 1 = index - 1 + 0x1000 := by
  bv_omega

theorem before_nes {m : Move} (hm : m.Within) (index : Word) :
    m.before modelNes (index + 0x1000) = m.before modelNmos index + 0x1000 := by
  cases m with
  | next => rfl
  | skip n => exact base_add index _
  | stay => exact base_sub index
  | enter slot cycle =>
    rw [Move.before, Move.before, idx_nes slot hm]
    exact base_sub _

theorem jumpIndex_nes {cycle : Nat} (hc : cycle < 8) (index : Word) (slot : Option ServiceSlot) :
    jumpIndex modelNes (BitVec.ofNat 16 cycle) (index + 0x1000) slot =
      jumpIndex modelNmos (BitVec.ofNat 16 cycle) index slot + 0x1000 := by
  cases slot with
  | none => rfl
  | some slot => exact idx_nes slot hc

theorem currentOpcodeSlot_nes (cpu : Cpu) : currentOpcodeSlot cpu.nes = currentOpcodeSlot cpu := by
  have hmask : (0x00FF : Word).toNat = 2 ^ 8 - 1 := rfl
  have hbase : (0x1000 : Word).toNat = 4096 := rfl
  have hnes : cpu.nes.microcode = cpu.microcode + 0x1000 := rfl
  rw [currentOpcodeSlot, currentOpcodeSlot, hnes]
  refine congrArg (BitVec.setWidth 8) (BitVec.eq_of_toNat_eq ?_)
  rw [BitVec.toNat_and, BitVec.toNat_and, BitVec.toNat_ushiftRight, BitVec.toNat_ushiftRight,
    BitVec.toNat_add, hmask, hbase, Nat.and_two_pow_sub_one_eq_mod,
    Nat.and_two_pow_sub_one_eq_mod, Nat.shiftRight_eq_div_pow, Nat.shiftRight_eq_div_pow]
  omega

theorem signal_nes (h : Handler) (cpu : Cpu) : h.nes.signal cpu.nes = h.signal cpu := by
  cases h <;> rfl

/-- **The replaced handler in the NES block does what the handler does in the NMOS block.** -/
theorem run_twin (h : Handler) (cpu : Cpu) (hm : cpu.model = modelNmos)
    (hd : decimalClear cpu = true) (bus : Byte) :
    h.nes.run cpu.nes bus = ((h.run cpu bus).1.nes, (h.run cpu bus).2) := by
  have hnes : decimalClear cpu.nes = true := hd
  obtain ⟨m, hseats⟩ := run_seat h cpu bus
  have hrun := hseats.run modelNes (cpu.microcode + 0x1000) fun _ => currentOpcodeSlot_nes cpu
  have hself := hseats.run modelNmos cpu.microcode fun _ => by rw [← hm]; rfl
  have hseat : cpu.seat modelNmos cpu.microcode = cpu := by rw [← hm]; rfl
  rw [hseat] at hself
  have hindex : (h.run cpu bus).1.microcode = m.before modelNmos cpu.microcode :=
    congrArg (fun r => r.1.microcode) hself
  rw [run_nes h hnes]
  show h.run (cpu.seat modelNes (cpu.microcode + 0x1000)) bus = _
  rw [hrun, before_nes hseats.within, ← hindex]
  rfl

section execute

variable {h : Handler} {cpu : Cpu} (hm : cpu.model = modelNmos) (hd : decimalClear cpu = true)
  (bus : Byte)

include hm hd

theorem unresolved_twin :
    unresolved h.nes cpu.nes bus = ((unresolved h cpu bus).1.nes, (unresolved h cpu bus).2) := by
  have hrun : h.nes.run cpu.nes.forget bus =
      ((h.run cpu.forget bus).1.nes, (h.run cpu.forget bus).2) :=
    run_twin h cpu.forget hm hd bus
  have hindex : (h.run cpu.forget bus).1.nes.microcode + 1 =
      (h.run cpu.forget bus).1.microcode + 1 + 0x1000 := base_add _ 1
  have hjump := jumpIndex_nes (by omega : 4 < 8) ((h.run cpu.forget bus).1.microcode + 1)
    ((h.signal cpu).jump cpu.p cpu.interrupts)
  rw [unresolved_eq, unresolved_eq, hrun, signal_nes, hm, hindex]
  exact congrArg (fun index => (({ (h.run cpu.forget bus).1.nes with
    interrupts := (h.signal cpu).apply cpu.p cpu.interrupts
    hijackMicrocode := cpu.hijackMicrocode
    microcode := index } : Cpu), (h.run cpu.forget bus).2)) hjump

theorem resolved_twin :
    resolved h.nes cpu.nes bus = ((resolved h cpu bus).1.nes, (resolved h cpu bus).2) := by
  have hdetect : detectNmiEdge cpu.nes = (detectNmiEdge cpu).nes := by
    rw [detectNmiEdge_eq, detectNmiEdge_eq]
    rfl
  have hm' : (detectNmiEdge cpu).model = modelNmos := by rw [detectNmiEdge_eq, hm]
  have hd' : decimalClear (detectNmiEdge cpu) = true := by
    rw [detectNmiEdge_eq]
    exact hd
  have hr := unresolved_twin hm' hd' (h := h) bus
  have hmodel : (unresolved h (detectNmiEdge cpu) bus).1.model = modelNmos := run_model.trans hm'
  dsimp only [resolved]
  rw [hdetect, hr]
  dsimp only
  generalize unresolved h (detectNmiEdge cpu) bus = r at hmodel
  rw [resolveTick_eq, resolveTick_eq]
  have hjump := jumpIndex_nes (by omega : 0 < 8) r.1.microcode
    (settled r.1.interrupts cpu.p r.2.fetching).2
  rw [hmodel]
  exact congrArg (fun index => (({ r.1.nes with
    interrupts := (settled r.1.interrupts cpu.p r.2.fetching).1
    hijackMicrocode :=
      settledHijack (settled r.1.interrupts cpu.p r.2.fetching) r.1.hijackMicrocode
    microcode := index } : Cpu), r.2)) hjump

theorem execute_twin :
    execute h.nes cpu.nes bus = ((execute h cpu bus).1.nes, (execute h cpu bus).2) := by
  have hhijack : cpu.nes.hijackMicrocode = cpu.hijackMicrocode := rfl
  rw [execute, execute, hhijack]
  split
  · exact resolved_twin hm hd bus
  · exact unresolved_twin hm hd bus

end execute

theorem dispatchIndex_nes (bus : Byte) :
    dispatchIndex modelNes bus = dispatchIndex modelNmos bus + 0x1000 := by
  rw [dispatchIndex_eq_position (by decide), dispatchIndex_eq_position (by decide)]
  exact position_nes _ _

theorem Executes.nes {cpu cpu₀ : Cpu} (hm : cpu.model = modelNmos) {bus : Byte} {slot cycle : Nat}
    {h : Handler} (hx : Executes cpu bus slot cycle h cpu₀) :
    Executes cpu.nes bus slot cycle h.nes cpu₀.nes := by
  have hat : ∀ {slot cycle : Nat}, cpu.At slot cycle → cpu.nes.At slot cycle := by
    intro slot cycle hat
    rw [Cpu.At, hm] at hat
    show cpu.microcode + 0x1000 = position 1 slot cycle
    rw [position_nes, hat]
    rfl
  have hentry : ∀ {slot cycle : Nat} {e : Entry}, entryAt cpu.model.toNat slot cycle = some e →
      entryAt cpu.nes.model.toNat slot cycle = some e.nes := by
    intro slot cycle e he
    rw [hm] at he
    show entryAt 1 slot cycle = _
    rw [entryAt_nes]
    exact congrArg (Option.map Entry.nes) he
  cases hx with
  | direct h₀ he => exact .direct (hat h₀) (hentry he)
  | dispatch h₀ he hop =>
    have hdispatched : (dispatched cpu bus).nes = dispatched cpu.nes bus := by
      have hindex := dispatchIndex_nes bus
      rw [dispatched, dispatched, hm]
      exact congrArg (fun index => ({ cpu.nes with microcode := index, pc := cpu.pc + 1 } : Cpu))
        hindex.symm
    rw [hdispatched]
    exact .dispatch (hat h₀) (hentry he) (hentry hop)

/-! ### Runs in lockstep -/

/-- The calls that tick, `qe6502_goto` among them. -/
def Call.ticks : Call → Bool
  | .input (.tick _) | .goto _ => true
  | _ => false

namespace Session

def nes (s : Session) : Session := (s.1.nes, s.2)

/-- A tick is executed with D clear. -/
def TicksWithoutD (s : Session) (c : Call) : Prop := c.ticks = true → s.1.p &&& flagD = 0

instance (s : Session) (c : Call) : Decidable (s.TicksWithoutD c) := by
  unfold TicksWithoutD
  infer_instance

theorem enterServiceSlot_nes (cpu : Cpu) (hm : cpu.model = modelNmos) (slot : ServiceSlot) :
    enterServiceSlot cpu.nes slot 0 = (enterServiceSlot cpu slot 0).nes := by
  have hindex := idx_nes slot (by omega : 0 < 8)
  rw [enterServiceSlot, enterServiceSlot, hm]
  exact congrArg (fun index => ({ cpu.nes with microcode := index } : Cpu)) hindex

theorem restart_nes {cpu : Cpu} (hm : cpu.model = modelNmos) :
    Qe6502.restart cpu.nes = ((Qe6502.restart cpu).1.nes, (Qe6502.restart cpu).2) := by
  have hindex := idx_nes .internalReset (by omega : 0 < 8)
  have hrestart : (Qe6502.restart cpu).1.nes.microcode =
      idx modelNmos ServiceSlot.internalReset.code (BitVec.ofNat 16 0) + 0x1000 := by
    rw [← hm]
    rfl
  exact congrArg (fun index => (({ (Qe6502.restart cpu).1.nes with microcode := index } : Cpu),
    (Qe6502.restart cpu).2)) (hindex.trans hrestart.symm)

/-- One call. -/
theorem call_nes {s s' : Session} (hp : Placed s.1) (hm : s.1.model = modelNmos) {c : Call}
    (hd : s.TicksWithoutD c) (hs : s.call c = some s') : s.nes.call c = some s'.nes := by
  have heffect := effect_of_call hp hs
  cases heffect with
  | @tick bus slot cycle h cpu₀ hx =>
    obtain ⟨hpeq, _, _, hmodel⟩ := hx.interrupts_eq
    have hclear : decimalClear cpu₀ = true := by
      rw [decimalClear, hpeq]
      exact decide_eq_true (hd rfl)
    show tick s.1.nes bus = _
    rw [tick_of_executes (hx.nes hm), execute_twin (hmodel.trans hm) hclear]
    rfl
  | pin p =>
    show some (p.apply s.1.nes, s.2) = _
    rw [PinCall.apply_eq]
    rfl
  | goto address =>
    have hredirected : redirected s.1.nes address = (redirected s.1 address).nes :=
      enterServiceSlot_nes { s.1 with reservedExtension := 0, pc := address } hm .goto
    have hclear : decimalClear (redirected s.1 address) = true := decide_eq_true (hd rfl)
    have hmodel : (redirected s.1 address).model = modelNmos := hm
    have htwin := execute_twin (h := .mcFetch) hmodel hclear 0
    show goto s.1.nes address = _
    rw [goto_eq (by decide : (1 : Byte).toNat < 5), hredirected]
    exact congrArg some htwin
  | restart => exact congrArg some (restart_nes hm)

theorem Effect.model {s s' : Session} {c : Call} (h : Effect s c s') : s'.1.model = s.1.model := by
  cases h with
  | tick hx => exact execute_model.trans hx.interrupts_eq.2.2.2
  | pin p => rfl
  | goto address => exact execute_model
  | restart => rfl

/-- A run of calls. -/
theorem states_nes {calls : List Call} : ∀ {s : Session}, Placed s.1 → s.1.model = modelNmos →
    StepMachine.Always call TicksWithoutD s calls →
    ∃ ss, StepMachine.states call s calls = some ss ∧
      StepMachine.states call s.nes calls = some (ss.map nes) := by
  induction calls with
  | nil => exact fun _ _ _ => ⟨[], rfl, rfl⟩
  | cons c calls ih =>
    intro s hp hm hd
    obtain ⟨s', hs', heffect⟩ := call_effect hp c
    obtain ⟨ss, hss, hnes⟩ :=
      ih (heffect.placed hp) (heffect.model.trans hm) (hd.2 s' hs')
    have hcall := call_nes hp hm hd.1 hs'
    refine ⟨s' :: ss, ?_, ?_⟩
    · rw [StepMachine.states_cons, hs', Option.bind_some, hss]
      rfl
    · rw [StepMachine.states_cons, hcall, Option.bind_some, hnes]
      rfl

/-- The NES model and the NMOS model are twins: both contexts differ only in the model and the
block of the microcode index. -/
structure NesPair (s t : Session) : Prop where
  nmos : s.1.model = modelNmos
  nes : t = s.nes

theorem NesPair.placed {s t : Session} (h : s.NesPair t) (hr : s.Reachable ∨ t.Reachable) :
    Placed s.1 := by
  rcases hr with hs | ht
  · exact reachable_placed hs
  · have hp := reachable_placed ht
    obtain ⟨slot, cycle, hat, hcall⟩ := hp.callable
    have hmodel : t.1.model = modelNes := by rw [h.nes]; rfl
    rw [hmodel] at hcall
    refine ⟨by rw [h.nmos]; decide, slot, cycle, ?_, ?_⟩
    · rw [Cpu.At, hmodel, h.nes] at hat
      rw [Cpu.At, h.nmos]
      have hbase := hat.trans (position_nes slot cycle)
      exact (BitVec.add_left_inj _).mp hbase
    · rw [h.nmos]
      have hentry := entryAt_nes slot cycle
      have hcall' : isCallable (entryAt 1 slot cycle) = true := hcall
      rw [hentry] at hcall'
      show isCallable (entryAt 0 slot cycle) = true
      cases he : entryAt 0 slot cycle with
      | none => rw [he] at hcall'; cases hcall'
      | some e =>
        rw [he] at hcall'
        cases e <;> first | rfl | cases hcall'

end Session

open Session in
/-- **The NES model is the NMOS model without decimal mode.**  From every reachable pair of
contexts that differ only in the model and the block of the microcode index, every run of
ticks, pin changes, `qe6502_goto` and `qe6502_restart` calls whose ticks find D clear is the
same run of both models: the same ticks, registers, latches and interrupt bits after each call. -/
theorem nes_lockstep {s t : Session} (htwins : s.NesPair t) (hr : s.Reachable ∨ t.Reachable)
    {calls : List Call} (hd : StepMachine.Always Session.call TicksWithoutD s calls) :
    ∃ ss, StepMachine.states Session.call s calls = some ss ∧
      StepMachine.states Session.call t calls = some (ss.map Session.nes) := by
  have hp := htwins.placed hr
  obtain ⟨hm, rfl⟩ := htwins
  exact states_nes hp hm hd

/-- An NMOS and an NES session run ADC #$01 after a restart and a `qe6502_goto`. -/
theorem nes_lockstep_adc :
    let calls : List Call := [.goto 0x0400, .input (.tick 0x69), .input (.tick 0x01),
      .input (.pin (.irq 1)), .input (.tick 0xEA)]
    ∃ ss, StepMachine.states Session.call (restart blankCpu) calls = some ss ∧
      StepMachine.states Session.call (restart { blankCpu with model := modelNes }) calls =
        some (ss.map Session.nes) := by
  have hd : StepMachine.Always Session.call Session.TicksWithoutD (restart blankCpu)
      [.goto 0x0400, .input (.tick 0x69), .input (.tick 0x01), .input (.pin (.irq 1)),
        .input (.tick 0xEA)] := by
    decide
  exact nes_lockstep ⟨rfl, rfl⟩ (Or.inl (.init ⟨blankCpu, by decide, rfl⟩)) hd

end Qe6502
