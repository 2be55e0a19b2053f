import Qe6502.Session
import Qe6502.Lines

/-!
# The resolver on and off

A resolver that is switched off has an idle byte (`reachable_resolverOff`).  On an idle byte
the resolver has one thing left to do: it follows the NMI pin when that is released.  A byte
where it has not followed is `Stale`, and on every other idle byte a tick through the resolver
and a tick without it differ in the sampling request only (`resolvedByte_of_idle`).
-/

namespace Qe6502

namespace Lines

/-- The NMI pin is released, and the last sampled level is behind. -/
def stale (l : Lines) : Bool := !l.samplingOff && !l.nmiPin && l.nmiLast

variable {l : Lines}

theorem quiet_of_not_sampling (hs : l.sampling = false) : l.quiet = l := by
  rw [quiet, ← hs]

theorem quiet_idle : l.quiet.idle = l.idle := rfl

theorem arbitrate_quiet (iClear : Bool) :
    l.quiet.arbitrate iClear = (l.arbitrate iClear).quiet := by
  unfold arbitrate
  cases he : l.nmiEdge <;> cases hp : l.irqPin <;> cases iClear <;> simp [quiet, he, hp]

theorem pinned_quiet (c : PinCall) : l.quiet.pinned c = l.pinned c := by
  cases c <;> rfl

theorem pinned_sampling (c : PinCall) : (l.pinned c).sampling = false := by
  cases c <;> rfl

theorem detect_of_idle (hidle : l.idle) (hstale : l.stale = false) : l.detect = l := by
  obtain ⟨_, pin, last, _, _, _, _, off⟩ := l
  cases off <;> cases pin <;> cases last <;> simp_all [idle, stale, detect]

theorem arbitrate_of_idle (hidle : l.idle) (iClear : Bool) : l.arbitrate iClear = l := by
  simp only [idle, Bool.and_eq_true, Bool.not_eq_true'] at hidle
  simp [arbitrate, hidle]

theorem idle_apply (hidle : l.idle) (iClear : Bool) (s : Signal) : (l.apply iClear s).idle := by
  have harb := arbitrate_of_idle hidle iClear
  simp only [idle, Bool.and_eq_true, Bool.or_eq_true, Bool.not_eq_true'] at hidle
  cases s <;> simp [apply, idle, harb, hidle]

/-- A sampling request changes nothing else of a signal. -/
theorem apply_quiet (iClear : Bool) (s : Signal) :
    (l.quiet.apply iClear s).quiet = (l.apply iClear s).quiet := by
  cases s with
  | brkPush | nmiPush | irqPush =>
    rw [apply, apply, arbitrate_quiet]
    rfl
  | _ => rfl

theorem jump_of_idle (hidle : l.idle) (iClear : Bool) (s : Signal) : l.jump iClear s = none := by
  have harb := arbitrate_of_idle hidle iClear
  simp only [idle, Bool.and_eq_true, Bool.not_eq_true'] at hidle
  cases s <;> simp [jump, harb, hidle]

theorem settle_of_idle (hidle : l.idle) (iClear fetching : Bool) :
    l.settle iClear fetching = (l.quiet, none) := by
  have harb := arbitrate_of_idle (l := l.quiet) hidle iClear
  simp only [idle, Bool.and_eq_true, Bool.not_eq_true'] at hidle
  obtain ⟨⟨-, hnmi⟩, hirq⟩ := hidle
  rw [settle, harb, hnmi, hirq]
  cases hs : l.sampling with
  | true => rfl
  | false => simp [quiet_of_not_sampling hs]

/-- The resolver leaves no sampling request behind. -/
theorem settle_sampling (l : Lines) (iClear fetching : Bool) :
    (l.settle iClear fetching).1.sampling = false := by
  unfold settle
  cases hs : l.sampling with
  | true =>
    rw [if_pos rfl, arbitrate_quiet]
    rfl
  | false => cases fetching <;> cases hn : l.nmiTaken <;> cases hi : l.irqTaken <;> simp [hs]

end Lines

/-! ### The byte of a tick -/

section bytes

variable (s : Signal) (cpuFlags : Byte) (fetching : Bool) (interrupts : Byte)

theorem of_resolvedByte :
    (Lines.of (resolvedByte s cpuFlags fetching interrupts).1,
      (resolvedByte s cpuFlags fetching interrupts).2) =
    ((Lines.of interrupts).detect.apply (iClear cpuFlags) s).settle (iClear cpuFlags) fetching := by
  rw [resolvedByte, of_settled, of_apply, of_detected]

/-- A tick through the resolver leaves no sampling request behind. -/
theorem resolvedByte_sampling :
    flag (resolvedByte s cpuFlags fetching interrupts).1 interruptSampling = 0 := by
  have h := congrArg Prod.fst (of_resolvedByte s cpuFlags fetching interrupts)
  simp only at h
  rw [show (0 : Byte) = 0#8 from rfl, flag_sampling, h]
  exact Lines.settle_sampling _ _ _

end bytes

/-- The NMI pin is released, and the last sampled level is behind. -/
def Stale (interrupts : Byte) : Prop :=
  flag interrupts interruptSamplingOff = 0 ∧ flag interrupts interruptNmiInvPin = 0 ∧
    flag interrupts interruptNmiInvLastSampledPin ≠ 0

instance (interrupts : Byte) : Decidable (Stale interrupts) := by unfold Stale; infer_instance

theorem stale_iff (i : Byte) : Stale i ↔ (Lines.of i).stale = true := by
  unfold Stale Lines.stale
  simp [and_assoc]

/-- **On an idle byte that is not stale the resolver does nothing**: a tick through it and a
tick without it differ in the sampling request only. -/
theorem resolvedByte_of_idle {interrupts : Byte} (hidle : Idle interrupts)
    (hstale : ¬Stale interrupts) (s : Signal) (cpuFlags : Byte) (fetching : Bool) :
    resolvedByte s cpuFlags fetching interrupts =
      (flagOff (s.apply cpuFlags interrupts) interruptSampling, none) := by
  rw [idle_iff] at hidle
  rw [stale_iff, Bool.not_eq_true] at hstale
  have h := of_resolvedByte s cpuFlags fetching interrupts
  rw [Lines.detect_of_idle hidle hstale,
    Lines.settle_of_idle (Lines.idle_apply hidle _ s)] at h
  obtain ⟨hbyte, hslot⟩ := Prod.mk.inj h
  refine Prod.ext (Lines.of_inj ?_) hslot
  rw [hbyte, of_off_sampling, of_apply]

theorem detected_of_idle {interrupts : Byte} (hidle : Idle interrupts)
    (hstale : ¬Stale interrupts) : detected interrupts = interrupts := by
  rw [idle_iff] at hidle
  rw [stale_iff, Bool.not_eq_true] at hstale
  apply Lines.of_inj
  rw [of_detected, Lines.detect_of_idle hidle hstale]

theorem apply_sampling (s : Signal) (cpuFlags interrupts : Byte) :
    flagOff (s.apply cpuFlags (flagOff interrupts interruptSampling)) interruptSampling =
      flagOff (s.apply cpuFlags interrupts) interruptSampling := by
  apply Lines.of_inj
  rw [of_off_sampling, of_off_sampling, of_apply, of_apply, of_off_sampling, Lines.apply_quiet]

theorem idle_sampling {interrupts : Byte} :
    Idle (flagOff interrupts interruptSampling) ↔ Idle interrupts := by
  rw [idle_iff, idle_iff, of_off_sampling, Lines.quiet_idle]

theorem stale_sampling {interrupts : Byte} :
    Stale (flagOff interrupts interruptSampling) ↔ Stale interrupts := by
  rw [stale_iff, stale_iff, of_off_sampling]
  rfl

theorem flagOff_of_not_sampling {interrupts : Byte}
    (h : flag interrupts interruptSampling = 0) :
    flagOff interrupts interruptSampling = interrupts := by
  apply Lines.of_inj
  rw [of_off_sampling, Lines.quiet_of_not_sampling ((flag_sampling _).mp h)]

theorem pinned_sampling (c : PinCall) (interrupts : Byte) :
    c.pinned (flagOff interrupts interruptSampling) = c.pinned interrupts := by
  apply Lines.of_inj
  rw [of_pinned, of_pinned, of_off_sampling, Lines.pinned_quiet]

theorem idle_apply {interrupts : Byte} (hidle : Idle interrupts) (s : Signal)
    (cpuFlags : Byte) : Idle (s.apply cpuFlags interrupts) := by
  rw [idle_iff] at hidle ⊢
  rw [of_apply]
  exact Lines.idle_apply hidle _ s

theorem jump_of_idle {interrupts : Byte} (hidle : Idle interrupts) (s : Signal)
    (cpuFlags : Byte) : s.jump cpuFlags interrupts = none := by
  rw [idle_iff] at hidle
  rw [jump_of]
  exact Lines.jump_of_idle hidle _ s

theorem sampling_pinned (c : PinCall) (interrupts : Byte) :
    flag (c.pinned interrupts) interruptSampling = 0 := by
  refine (flag_sampling _).mpr ?_
  rw [of_pinned]
  exact Lines.pinned_sampling c

/-! ### The switch -/

theorem nmiPin_of_not_changes {assertNmi interrupts : Byte}
    (hoff : ¬nmiChanges assertNmi interrupts) :
    (Lines.of interrupts).nmiPin = decide (assertNmi ≠ 0) := by
  unfold nmiChanges at hoff
  by_cases ha : assertNmi = 0#8 <;> simp_all

/-- A pin call that does not switch the resolver on changes nothing but the request. -/
theorem pinned_of_not_switchesOn {c : PinCall} {interrupts : Byte} (hidle : Idle interrupts)
    (hoff : ¬c.SwitchesOn interrupts) :
    c.pinned interrupts = flagOff interrupts interruptSampling := by
  apply Lines.of_inj
  rw [of_pinned, of_off_sampling]
  cases c with
  | nmi assertNmi =>
    rw [Lines.pinned, ← nmiPin_of_not_changes hoff]
    rfl
  | irq assertIrq =>
    have ha : assertIrq = 0 := not_not.mp hoff
    have hpin : (Lines.of interrupts).irqPin = decide (assertIrq ≠ 0) := by
      obtain ⟨_, hirq, _⟩ := hidle
      rw [ha]
      exact (flag_irqPin interrupts).mp hirq
    rw [Lines.pinned, ← hpin]
    rfl

theorem idle_of_settledHijack {after : Byte × Option ServiceSlot} {hijack : Byte}
    (hon : hijack ≠ 0) (hoff : settledHijack after hijack = 0) : Idle after.1 ∧ after.2 = none := by
  rw [settledHijack] at hoff
  split at hoff
  next h => exact ⟨h.2, h.1⟩
  next => exact absurd hoff hon

/-- A sampling request is left behind by a resolver that is off only, and a resolver that is
off is idle. -/
structure ResolverOff (cpu : Cpu) : Prop where
  request : flag cpu.interrupts interruptSampling ≠ 0 → cpu.hijackMicrocode = 0
  idle : cpu.hijackMicrocode = 0 → Idle cpu.interrupts

theorem ResolverOff.executes {cpu cpu₀ : Cpu} {bus : Byte} {slot cycle : Nat} {h : Handler}
    (hcpu : ResolverOff cpu) (hx : Executes cpu bus slot cycle h cpu₀) : ResolverOff cpu₀ := by
  obtain ⟨_, hi, hh, _⟩ := hx.interrupts_eq
  exact ⟨by rw [hi, hh]; exact hcpu.request, by rw [hi, hh]; exact hcpu.idle⟩

theorem ResolverOff.execute {cpu : Cpu} (hcpu : ResolverOff cpu) (h : Handler) (bus : Byte) :
    ResolverOff (execute h cpu bus).1 := by
  by_cases hij : cpu.hijackMicrocode = 0
  · rw [execute_off hij, unresolved_eq]
    exact ⟨fun _ => hij, fun _ => idle_apply (hcpu.idle hij) _ _⟩
  · rw [execute_on hij, resolved_eq]
    exact ⟨fun hreq => absurd (resolvedByte_sampling _ _ _ _) hreq,
      fun hoff => (idle_of_settledHijack hij hoff).1⟩

theorem ResolverOff.pin {cpu : Cpu} (hcpu : ResolverOff cpu) (c : PinCall) :
    ResolverOff { cpu with
      interrupts := c.pinned cpu.interrupts
      hijackMicrocode := c.hijack cpu.interrupts cpu.hijackMicrocode } := by
  refine ⟨fun hreq => absurd (sampling_pinned c _) hreq, fun hoff => ?_⟩
  · have hoff : (if c.SwitchesOn cpu.interrupts then 1 else cpu.hijackMicrocode) = 0 := hoff
    split at hoff
    · exact absurd hoff (by decide)
    next hswitch =>
      have hidle := hcpu.idle hoff
      show Idle (c.pinned cpu.interrupts)
      rw [pinned_of_not_switchesOn hidle hswitch]
      exact idle_sampling.mpr hidle

theorem restart_resolverOff (cpu : Cpu) : ResolverOff (restart cpu).1 :=
  ⟨fun _ => rfl, fun _ => by show Idle 0; decide⟩

/-- **A resolver that is off has nothing pending**, in every reachable session. -/
theorem reachable_resolverOff {s : Session} (h : s.Reachable) : ResolverOff s.1 := by
  refine Session.reachable_invariant (fun s => ResolverOff s.1) ?_ ?_ h
  · exact fun cpu _ => restart_resolverOff cpu
  · intro s c s' _ hinv heffect
    cases heffect with
    | tick hx => exact (hinv.executes hx).execute _ _
    | pin p => exact hinv.pin p
    | goto address =>
      have hredirected : ResolverOff (redirected s.1 address) := ⟨hinv.request, hinv.idle⟩
      exact hredirected.execute _ _
    | restart => exact restart_resolverOff s.1

end Qe6502
