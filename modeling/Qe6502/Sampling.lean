import Qe6502.Recognition

/-!
# The sampling cadence of an instruction

Every instruction samples interrupts on each of its paths (`Instruction.cadence`), and what it
samples is recognised at its end, unless the second sample of a branch that crosses a page takes
an IRQ in place of the NMI of the first (`sampling_cadence`).
-/

namespace Qe6502

open StepMachine (first)

/-! ### The ticks that sample -/

/-- Tick `k` samples interrupts. -/
def samplesAt (beats : List Beat) (k : ℕ) : Prop := ∃ flags, beats[k]?.bind Beat.sample = some flags

/-- The ticks in which an instruction of `n` ticks samples; the last of them fetches. -/
def Turn.cadence (n : ℕ) : Turn → List ℕ
  | straight => [n - 2]
  | near => [n - 3]
  | far => [n - 4, n - 2]

/-- **The cadence**: the ticks that sample are those of the turn, and a branch samples first in
the tick that reads its offset. -/
structure Instruction.Cadence (i : Instruction) (opcode : Byte) (r : Registers) (bus : ℕ → Byte)
    (beats : List Beat) : Prop where
  ticks : ∀ k, samplesAt beats k ↔ k ∈ (i.turn opcode r bus).cadence beats.length
  offset : ∀ k address, i.offset r = some (k, address) →
    ((i.turn opcode r bus).cadence beats.length).head? = some k ∧
      beats[k]?.map Beat.tick = some (read address)

namespace Turn

variable {reqs : List Tick} {first step dummy : Tick} {flags : Byte} {next : Word}

theorem shows_requests (turn : Turn) {k : ℕ} (hk : k < reqs.length) :
    (turn.shows reqs first step dummy flags next)[k]?.bind Beat.sample = none := by
  have hquiet : ∀ tail : List Beat, (reqs.map quiet ++ tail)[k]?.bind Beat.sample = none := by
    intro tail
    rw [List.getElem?_append_left (by simpa using hk), List.getElem?_map,
      List.getElem?_eq_getElem hk]
    rfl
  cases turn with
  | straight | near | far =>
    rw [shows, List.append_assoc]
    exact hquiet _

theorem shows_rest (turn : Turn) (j : ℕ) :
    (turn.shows reqs first step dummy flags next)[reqs.length + j]? =
      (turn.shows [] first step dummy flags next)[j]? := by
  cases turn <;> simp [shows, List.getElem?_append_right]

/-- What tick `k` samples. -/
theorem shows_sample (turn : Turn) (k : ℕ) :
    (turn.shows reqs first step dummy flags next)[k]?.bind Beat.sample =
      if k = reqs.length ∨ turn = far ∧ k = reqs.length + 2 then some flags else none := by
  rcases Nat.lt_or_ge k reqs.length with hk | hk
  · rw [shows_requests turn hk, if_neg (by omega)]
  · obtain ⟨j, rfl⟩ := Nat.exists_eq_add_of_le hk
    have hj : (reqs.length + j = reqs.length ∨ turn = far ∧ reqs.length + j = reqs.length + 2) ↔
        (j = 0 ∨ turn = far ∧ j = 2) :=
      or_congr (by omega) (and_congr_right fun _ => by omega)
    rw [shows_rest, if_congr hj rfl rfl]
    cases turn with
    | straight | near | far =>
      rcases j with _ | _ | _ | _ | j <;> simp [shows, sampled, quiet]

theorem shows_length (turn : Turn) : (turn.shows reqs first step dummy flags next).length =
    reqs.length + match turn with
      | straight => 2
      | near => 3
      | far => 4 := by
  cases turn <;> simp [shows]

theorem shows_cadence (turn : Turn) (k : ℕ) :
    samplesAt (turn.shows reqs first step dummy flags next) k ↔
      k ∈ turn.cadence (turn.shows reqs first step dummy flags next).length := by
  rw [samplesAt, shows_sample, shows_length]
  cases turn <;> simp [cadence]

theorem shows_last (turn : Turn) :
    (turn.shows reqs first step dummy flags next).getLast? = some (quiet (fetchAt next)) := by
  cases turn <;> exact List.getLast?_concat ..

end Turn

/-- An instruction that shows a turn has the cadence of it. -/
theorem Instruction.Cadence.of_shows {i : Instruction} {opcode : Byte} {r : Registers}
    {bus : ℕ → Byte} {reqs : List Tick} {first step dummy : Tick} {flags : Byte} {next : Word}
    (hoffset : ∀ p ∈ (i.offset r).map fun p => (p.1, read p.2), p = (reqs.length, first)) :
    i.Cadence opcode r bus ((i.turn opcode r bus).shows reqs first step dummy flags next) := by
  refine ⟨Turn.shows_cadence _, fun k address hk => ?_⟩
  obtain ⟨rfl, rfl⟩ : k = reqs.length ∧ read address = first := by
    simpa [hk] using hoffset
  constructor
  · rw [Turn.shows_length]
    cases i.turn opcode r bus <;> simp [Turn.cadence]
  · have hfirst := @Turn.shows_rest reqs (read address) step dummy flags next
      (i.turn opcode r bus) 0
    rw [Nat.add_zero] at hfirst
    rw [hfirst]
    cases i.turn opcode r bus <;> rfl

/-! ### What is recognised -/

namespace Session

/-- What is sampled is recognised: an NMI edge latched at a tick that samples enters the NMI slot
at the end of the instruction, and without one an IRQ pin held asserted, with I clear whenever it is
sampled, enters the IRQ slot. -/
structure Recognises (s : Session) (input : ℕ → List PinCall × Byte) (beats : List Beat)
    (s' : Session) : Prop where
  nmi : ∀ k l, samplesAt beats k → s.sensedAt input k = some l → l.nmiEdge = true →
    s'.waitsAt = some .nmi
  irq : (∀ k l, samplesAt beats k → s.sensedAt input k = some l → l.nmiEdge = false) →
    (∀ k < beats.length, ∀ l, s.sensedAt input k = some l → l.irqPin = true) →
    (∀ (k : ℕ) (flags : Byte), beats[k]?.bind Beat.sample = some flags → iClear flags = true) →
    s'.waitsAt = some .irq

/-- The second sample of a branch that crosses a page loses an NMI: the edge was latched at the
first one, in the tick that reads the offset, and the second one finds the IRQ pin asserted with I
clear, and no new edge. -/
def LosesNmi (s : Session) (i : Instruction) (input : ℕ → List PinCall × Byte) : Prop :=
  i.turn (input 0).2 s.1.decoded (onBus input) = .far ∧ ∃ k address l l',
    i.offset s.1.decoded = some (k, address) ∧ s.sensedAt input k = some l ∧
      s.sensedAt input (k + 2) = some l' ∧ l.nmiEdge = true ∧ l'.nmiEdge = false ∧
        l'.irqPin = true ∧ iClear (i.flags s.1.decoded (onBus input)) = true

/-- The tally does not change while nothing is sampled. -/
theorem tally_unsampled {s : Session} {input : ℕ → List PinCall × Byte} {beats : List Beat}
    {a b : ℕ} (hab : a ≤ b) (h : ∀ k, a ≤ k → k < b → beats[k]?.bind Beat.sample = none) :
    s.tally input beats b = s.tally input beats a := by
  induction b, hab using Nat.le_induction with
  | base => rfl
  | succ b hb ih =>
    have hrest := ih fun k hk hlt => h k hk (by omega)
    rw [tally, h b hb (by omega)]
    cases s.sensedAt input b with
    | none => exact hrest
    | some l => exact hrest

theorem Completes.sensed {s s' : Session} {input : ℕ → List PinCall × Byte} {beats : List Beat}
    (h : s.Completes input beats s') {k : ℕ} (hk : k ≤ beats.length) :
    ∃ l, s.sensedAt input k = some l := by
  obtain ⟨sₖ, hsₖ⟩ := StepMachine.trace_take h.trace k
  rw [StepMachine.first_take _ hk] at hsₖ
  exact ⟨_, sensedAt_of_trace hsₖ⟩

section shows

variable {s s' : Session} {input : ℕ → List PinCall × Byte} {reqs : List Tick}
  {first step dummy : Tick} {flags : Byte} {next : Word} {turn : Turn} {beats : List Beat}

theorem tally_first (hbeats : beats = turn.shows reqs first step dummy flags next) {l : Lines}
    (hl : s.sensedAt input reqs.length = some l) :
    s.tally input beats (reqs.length + 1) = Lines.take none l (some flags) := by
  have hbefore : s.tally input beats reqs.length = none := by
    refine tally_unsampled (Nat.zero_le _) fun k _ hk => ?_
    rw [hbeats, Turn.shows_requests turn hk]
  have hsample : beats[reqs.length]?.bind Beat.sample = some flags := by
    rw [hbeats, Turn.shows_sample, if_pos (Or.inl rfl)]
  rw [tally, hl, hbefore, hsample]

theorem tally_once (hbeats : beats = turn.shows reqs first step dummy flags next)
    (hturn : turn ≠ .far) {l : Lines} (hl : s.sensedAt input reqs.length = some l) :
    s.tally input beats beats.length = Lines.take none l (some flags) := by
  rw [← tally_first hbeats hl]
  refine tally_unsampled ?_ fun k hk _ => ?_
  · rw [hbeats, Turn.shows_length]
    cases turn <;> simp
  · rw [hbeats, Turn.shows_sample, if_neg (by rintro (h | h); omega; exact hturn h.1)]

theorem tally_twice (hbeats : beats = turn.shows reqs first step dummy flags next)
    (hturn : turn = .far) {l l' : Lines} (hl : s.sensedAt input reqs.length = some l)
    (hl' : s.sensedAt input (reqs.length + 2) = some l') :
    s.tally input beats beats.length =
      Lines.take (Lines.take none l (some flags)) l' (some flags) := by
  have hlength : beats.length = reqs.length + 4 := by rw [hbeats, Turn.shows_length, hturn]
  have hunsampled : ∀ k, k ≠ reqs.length → k ≠ reqs.length + 2 →
      beats[k]?.bind Beat.sample = none := by
    intro k hk hk'
    rw [hbeats, Turn.shows_sample, if_neg (by rintro (h | h); exact hk h; exact hk' h.2)]
  have hsample : beats[reqs.length + 2]?.bind Beat.sample = some flags := by
    rw [hbeats, Turn.shows_sample, if_pos (Or.inr ⟨hturn, rfl⟩)]
  have hbetween : s.tally input beats (reqs.length + 2) = Lines.take none l (some flags) := by
    rw [← tally_first hbeats hl]
    exact tally_unsampled (by omega) fun k hk hk' => hunsampled k (by omega) (by omega)
  rw [hlength, tally_unsampled (a := reqs.length + 3) (by omega) fun k hk hk' =>
    hunsampled k (by omega) (by omega), tally, hl', hsample, hbetween]

theorem samplesAt_shows (hbeats : beats = turn.shows reqs first step dummy flags next) {k : ℕ} :
    samplesAt beats k ↔ k = reqs.length ∨ turn = .far ∧ k = reqs.length + 2 := by
  rw [samplesAt, hbeats, Turn.shows_sample]
  split
  next h => simp [h]
  next h => simp [h]

/-- With one tick that samples everything is recognised. -/
theorem recognises_once (hbeats : beats = turn.shows reqs first step dummy flags next)
    (hturn : turn ≠ .far) (hcompletes : s.Completes input beats s')
    (hwaits : s'.waitsAt = s.tally input beats beats.length) : s.Recognises input beats s' := by
  have hlt : reqs.length < beats.length := by
    rw [hbeats, Turn.shows_length]
    cases turn <;> simp
  obtain ⟨l, hl⟩ := hcompletes.sensed hlt.le
  have hfirst : samplesAt beats reqs.length := (samplesAt_shows hbeats).mpr (Or.inl rfl)
  rw [tally_once hbeats hturn hl] at hwaits
  refine ⟨fun k l' hk hl' hedge => ?_, fun hquiet hheld hclear => ?_⟩
  · obtain rfl : k = reqs.length :=
      ((samplesAt_shows hbeats).mp hk).resolve_right fun h => hturn h.1
    obtain rfl := Option.some.inj (hl.symm.trans hl')
    rw [hwaits, Lines.take, if_pos hedge]
  · have hflags : iClear flags = true := by
      refine hclear reqs.length flags ?_
      rw [hbeats, Turn.shows_sample, if_pos (Or.inl rfl)]
    rw [hwaits, Lines.take, hquiet _ l hfirst hl, hheld _ hlt l hl, hflags]
    rfl

/-- With two the second one may lose the NMI of the first. -/
theorem recognises_twice (hbeats : beats = turn.shows reqs first step dummy flags next)
    (hturn : turn = .far) (hwaits : s'.waitsAt = s.tally input beats beats.length) {l l' : Lines}
    (hl : s.sensedAt input reqs.length = some l)
    (hl' : s.sensedAt input (reqs.length + 2) = some l') :
    s.Recognises input beats s' ↔ ¬(l.nmiEdge = true ∧ l'.nmiEdge = false ∧ l'.irqPin = true ∧
      iClear flags = true) := by
  have hlength : beats.length = reqs.length + 4 := by rw [hbeats, Turn.shows_length, hturn]
  have hfirst : samplesAt beats reqs.length := (samplesAt_shows hbeats).mpr (Or.inl rfl)
  have hsecond : samplesAt beats (reqs.length + 2) :=
    (samplesAt_shows hbeats).mpr (Or.inr ⟨hturn, rfl⟩)
  rw [tally_twice hbeats hturn hl hl'] at hwaits
  constructor
  · rintro ⟨hnmi, _⟩ ⟨hedge, hnone, hirq, hclear⟩
    have hserved := hnmi _ l hfirst hl hedge
    rw [hwaits, Lines.take, hnone, hirq, hclear] at hserved
    cases hserved
  · intro hkept
    refine ⟨fun k l₁ hk hl₁ hedge => ?_, fun hquiet hheld hclear => ?_⟩
    · rw [hwaits, Lines.take]
      rcases (samplesAt_shows hbeats).mp hk with rfl | ⟨_, rfl⟩
      · obtain rfl := Option.some.inj (hl.symm.trans hl₁)
        rw [Lines.take, if_pos hedge]
        cases hnew : l'.nmiEdge with
        | true => rfl
        | false =>
          have hnot : ¬((iClear flags && l'.irqPin) = true) := by
            rw [Bool.and_eq_true]
            exact fun h => hkept ⟨hedge, hnew, h.2, h.1⟩
          rw [if_neg Bool.false_ne_true, if_neg hnot]
      · obtain rfl := Option.some.inj (hl'.symm.trans hl₁)
        rw [if_pos hedge]
    · have hflags : iClear flags = true := by
        refine hclear reqs.length flags ?_
        rw [hbeats, Turn.shows_sample, if_pos (Or.inl rfl)]
      rw [hwaits, Lines.take, hquiet _ l' hsecond hl', hheld _ (by omega) l' hl', hflags]
      rfl

end shows

end Session

/-! ### Every instruction -/

/-- Apart from BRK no instruction has a handler with a signal of its own. -/
def Instruction.unserving (model : Nat) (i : Instruction) : Bool :=
  (i.slot model).all fun entries => i.mnemonic = .brk || entries.unserving

theorem instructions_unserving : ∀ model < 5,
    instructionTables[model]?.all (List.all · (Instruction.unserving model)) = true := by
  decide +kernel

theorem slot_unserving {model : Nat} (hm : model < 5) {opcode : Byte} {i : Instruction}
    (hi : instructionAt model opcode = some i) (hbrk : i.mnemonic ≠ .brk) {entries : Slot}
    (hat : slotAt model opcode.toNat = some entries) : entries.unserving = true := by
  have hunserving : i.unserving model = true := instruction_rule instructions_unserving hm hi
  rw [Instruction.unserving, slot_of_at hm hi hat, Option.all_some, decide_eq_false hbrk,
    Bool.false_or] at hunserving
  exact hunserving

/-- A branch that crosses a page has an offset. -/
theorem Instruction.offset_of_far {i : Instruction} {opcode : Byte} {r : Registers}
    {bus : ℕ → Byte} (h : i.turn opcode r bus = .far) :
    ∃ k address, i.offset r = some (k, address) := by
  rw [turn] at h
  rw [offset]
  cases hmode : i.mode <;> rw [hmode] at h <;> first
    | exact ⟨_, _, rfl⟩
    | cases h

/-- Nothing has been taken at a dispatch. -/
theorem Session.Reachable.untaken {s : Session} (hr : s.Reachable) (hd : s.Dispatching) :
    s.1.lines.served = none := by
  rw [Lines.served_none]
  by_contra htaken
  rw [Bool.not_eq_false] at htaken
  obtain ⟨slot, cycle, entries, hat, hc, hslot, hbefore⟩ := (reachable_takenWaits hr).placed htaken
  obtain ⟨hm, slot', cycle', hat', hentry⟩ := hd
  have hs := sampledBefore_bound hbefore
  obtain ⟨_, hs', hc'⟩ := entryAt_bounds hentry
  obtain ⟨rfl, rfl⟩ := position_inj hm (by omega) hc hs' hc' (hat.symm.trans hat')
  rw [entryAt, hslot] at hentry
  simp [sampledBefore, show entries[cycle]? = some Entry.mcDispatch from hentry,
    Entry.isDispatch] at hbefore

/-- What an instruction samples is recognised unless its second sample loses an NMI. -/
theorem Session.recognises_iff {s s' : Session} {input : ℕ → List PinCall × Byte}
    {i : Instruction} {reqs : List Tick} {first step dummy : Tick} {next : Word}
    {beats : List Beat}
    (hbeats : beats = (i.turn (input 0).2 s.1.decoded (onBus input)).shows reqs first step dummy
      (i.flags s.1.decoded (onBus input)) next)
    (hoffset : ∀ p ∈ (i.offset s.1.decoded).map fun p => (p.1, Qe6502.read p.2),
      p = (reqs.length, first))
    (hcompletes : s.Completes input beats s')
    (hwaits : s'.waitsAt = s.tally input beats beats.length) :
    s.Recognises input beats s' ↔ ¬s.LosesNmi i input := by
  by_cases hturn : i.turn (input 0).2 s.1.decoded (onBus input) = .far
  · obtain ⟨k, address, hk⟩ := Instruction.offset_of_far hturn
    obtain ⟨rfl, rfl⟩ : k = reqs.length ∧ Qe6502.read address = first := by
      simpa [hk] using hoffset
    have hlength : beats.length = reqs.length + 4 := by
      rw [hbeats, Turn.shows_length, hturn]
    obtain ⟨l, hl⟩ := hcompletes.sensed (k := reqs.length) (by omega)
    obtain ⟨l', hl'⟩ := hcompletes.sensed (k := reqs.length + 2) (by omega)
    rw [recognises_twice hbeats hturn hwaits hl hl', not_iff_not]
    constructor
    · rintro ⟨hedge, hnone, hirq, hclear⟩
      exact ⟨hturn, _, _, l, l', hk, hl, hl', hedge, hnone, hirq, hclear⟩
    · rintro ⟨_, k, address', l₁, l₁', hk', hl₁, hl₁', hedge, hnone, hirq, hclear⟩
      obtain ⟨rfl, _⟩ := Prod.mk.inj (Option.some.inj (hk.symm.trans hk'))
      obtain rfl := Option.some.inj (hl.symm.trans hl₁)
      obtain rfl := Option.some.inj (hl'.symm.trans hl₁')
      exact ⟨hedge, hnone, hirq, hclear⟩
  · exact iff_of_true (recognises_once hbeats hturn hcompletes hwaits) fun h => hturn h.1

/-- **Sampling cadence and recognition.**  Every instruction but BRK, KIL and the CMOS no-operations
of one cycle samples interrupts in the tick before the next fetch, in the tick before that one if it
is a branch taken within its page, or in the tick that reads the offset and in the one before the
fetch if it is a branch taken to another page.  In a reachable session what is sampled is recognised
if and only if no second sample loses an NMI. -/
theorem sampling_cadence {s : Session} (hd : s.Dispatching) (input : ℕ → List PinCall × Byte)
    {i : Instruction} (hi : instructionAt s.1.model.toNat (input 0).2 = some i)
    (hsamples : i.samples = true) :
    ∃ beats s', s.Completes input beats s' ∧
      i.Cadence (input 0).2 s.1.decoded (onBus input) beats ∧
        (s.Reachable → (s.Recognises input beats s' ↔ ¬s.LosesNmi i input)) := by
  obtain ⟨entries, hat, hstays, hpushes, reqs, first, step, dummy, next, r, hyields, hends,
    hoffset⟩ := Instruction.shows hd.1 hi hsamples s.1 (onBus input)
  have hbrk : i.mnemonic ≠ .brk := by
    simp only [Instruction.samples, Bool.and_eq_true, decide_eq_true_eq] at hsamples
    exact hsamples.1.1
  obtain ⟨s', hcompletes, _⟩ := hd.completes hat hstays (.inl hpushes) hyields hends
  refine ⟨_, s', hcompletes, .of_shows hoffset, fun hr => ?_⟩
  obtain ⟨s'', hcompletes', hwaits, _⟩ := hd.serves (reachable_takenWaits hr).off (hr.untaken hd)
    hat hstays (slot_unserving hd.1 hi hbrk hat) hyields hends fun b hb => by
      obtain rfl := Option.some.inj ((Turn.shows_last _).symm.trans hb)
      rfl
  obtain ⟨_, rfl⟩ := hcompletes.unique hcompletes'
  exact Session.recognises_iff rfl hoffset hcompletes hwaits

/-- BCC to another page, with the IRQ pin asserted before the second sample. -/
def branchInput (calls : List PinCall) : ℕ → List PinCall × Byte
  | 0 => ([], 0x90)
  | 1 => ([], 0x7F)
  | 2 => (calls, 0)
  | _ => ([], 0xEA)

theorem branchSession_dispatching : branchSession.Dispatching :=
  ⟨by decide, 261, 1, by decide, by decide⟩

theorem sampling_cadence_branch : ∃ beats s', branchSession.Completes (branchInput []) beats s' ∧
    branchSession.Recognises (branchInput []) beats s' := by
  obtain ⟨beats, s', hcompletes, _, hiff⟩ := sampling_cadence branchSession_dispatching
    (branchInput []) (i := ⟨.bcc, .rel⟩) (by decide) rfl
  refine ⟨beats, s', hcompletes, (hiff branchSession_reachable).mpr ?_⟩
  rintro ⟨_, k, address, l, l', hk, _, hl', _, _, hirq, _⟩
  obtain ⟨rfl, _⟩ := Prod.mk.inj (Option.some.inj hk)
  have hpin : (branchSession.sensedAt (branchInput []) 2).map Lines.irqPin = some false := by
    decide
  rw [hl', Option.map_some, hirq] at hpin
  cases hpin

/-- The session enters the IRQ slot although the NMI was latched at the first sample. -/
theorem sampling_loses_nmi : branchSession.Reachable ∧ branchSession.Dispatching ∧
    ¬∃ beats s', branchSession.Completes (branchInput [.irq 1]) beats s' ∧
      Instruction.Cadence ⟨.bcc, .rel⟩ 0x90 branchSession.1.decoded (onBus (branchInput [.irq 1]))
        beats ∧
      branchSession.Recognises (branchInput [.irq 1]) beats s' := by
  refine ⟨branchSession_reachable, branchSession_dispatching, ?_⟩
  rintro ⟨beats, s', hcompletes, hcadence, hrecognises⟩
  have hrun : (StepMachine.trace Session.beat branchSession
      (first (branchInput [.irq 1]) 4)).map (fun r => (r.1.map (·.tick.fetching), r.2.waitsAt)) =
        some ([false, false, false, true], some .irq) := by
    decide
  obtain ⟨⟨beats₀, s₀⟩, htrace, heq⟩ := Option.map_eq_some_iff.mp hrun
  obtain ⟨hfetching, hwaits⟩ := Prod.mk.inj heq
  have hends : Ends beats₀ := by
    have hlast := congrArg List.getLast? hfetching
    rw [List.getLast?_map] at hlast
    obtain ⟨b, hb, hfetch⟩ := Option.map_eq_some_iff.mp hlast
    refine ⟨fun b hb => ?_, b, hb, hfetch⟩
    have hmem := List.mem_map_of_mem (f := fun b : Beat => b.tick.fetching) hb
    rw [List.map_dropLast, hfetching] at hmem
    simpa using hmem
  have hlength : beats₀.length = 4 := by rw [← List.length_map, hfetching]; rfl
  have hcompletes₀ : branchSession.Completes (branchInput [.irq 1]) beats₀ s₀ :=
    ⟨hlength.symm ▸ htrace, hends⟩
  obtain ⟨rfl, rfl⟩ := hcompletes.unique hcompletes₀
  have hsamples : samplesAt beats 0 := (hcadence.ticks 0).mpr (by rw [hlength]; decide)
  have hsensed : (branchSession.sensedAt (branchInput [.irq 1]) 0).map Lines.nmiEdge =
      some true := by
    decide
  obtain ⟨l, hl, hedge⟩ := Option.map_eq_some_iff.mp hsensed
  exact absurd (hwaits.symm.trans (hrecognises.nmi 0 l hsamples hl hedge)) (by decide)

end Qe6502
