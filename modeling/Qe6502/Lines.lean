import Qe6502.Execute

/-!
# Interrupt lines

`Lines` is the interrupt byte taken apart: two pins, the NMI level last sampled, the latched
edge, what has been taken for service, the sampling request and the switch that turns edge
detection off.  On the lines the resolver and the signals of the handlers are record updates.
`Lines.of` reads them off the byte, loses nothing (`Lines.of_inj`), and every byte function of
the resolver is the function on the lines: `of_detected`, `of_apply`, `jump_of`, `of_settled`,
`of_pinned`, `idle_iff`.
-/

namespace Qe6502

structure Lines where
  sampling : Bool
  nmiPin : Bool
  nmiLast : Bool
  nmiEdge : Bool
  nmiTaken : Bool
  irqPin : Bool
  irqTaken : Bool
  samplingOff : Bool
deriving DecidableEq

namespace Lines

/-! ### The functions on the lines -/

/-- The lines without a sampling request. -/
def quiet (l : Lines) : Lines := { l with sampling := false }

/-- The last sampled level follows the NMI pin. -/
def follow (l : Lines) : Lines := { l with nmiLast := l.nmiPin }

def detect (l : Lines) : Lines :=
  if l.samplingOff then l
  else { l with nmiEdge := l.nmiEdge || (l.nmiPin && !l.nmiLast), nmiLast := l.nmiPin }

/-- Takes an NMI edge, or an IRQ level that `iClear` lets through. -/
def arbitrate (iClear : Bool) (l : Lines) : Lines :=
  if l.nmiEdge then { l with nmiEdge := false, nmiTaken := true, irqTaken := false }
  else if iClear && l.irqPin then { l with irqTaken := true, nmiTaken := false }
  else l

def apply (iClear : Bool) : Signal → Lines → Lines
  | .none, l => l
  | .sample, l => { l with sampling := true }
  | .brkPush, l =>
    { l.arbitrate iClear with samplingOff := true, nmiTaken := false, irqTaken := false }
  | .nmiPush, l =>
    { l.arbitrate iClear with
      samplingOff := true, nmiEdge := false, nmiTaken := false, irqTaken := false }
  | .irqPush, l =>
    { l.arbitrate iClear with samplingOff := true, nmiTaken := false, irqTaken := false }
  | .cmosNmiPush, l => { l with nmiEdge := false, nmiTaken := false, nmiLast := l.nmiPin }
  | .cmosIrqPush, l => { l with irqTaken := false }
  | .detectOn, l => { l with samplingOff := false }
  | .nmiVector, l => { l with samplingOff := false, nmiLast := l.nmiPin }
  | .cmosVector, l => { l with nmiEdge := false, nmiLast := l.nmiPin }

def jump (iClear : Bool) : Signal → Lines → Option ServiceSlot
  | .brkPush, l =>
    if (l.arbitrate iClear).nmiTaken then some .nmi
    else if (l.arbitrate iClear).irqTaken then some .irq
    else Option.none
  | .irqPush, l => if (l.arbitrate iClear).nmiTaken then some .nmi else Option.none
  | _, _ => Option.none

def settle (iClear fetching : Bool) (l : Lines) : Lines × Option ServiceSlot :=
  if l.sampling then (l.quiet.arbitrate iClear, none)
  else if fetching && l.nmiTaken then
    ({ l with nmiTaken := false, irqTaken := false }, some .nmi)
  else if fetching && l.irqTaken then
    ({ l with nmiTaken := false, irqTaken := false }, some .irq)
  else (l, none)

/-- Nothing is pending and the NMI level has been seen. -/
def idle (l : Lines) : Bool :=
  !l.nmiEdge && !l.irqPin && (!l.nmiPin || l.nmiLast) && !l.nmiTaken && !l.irqTaken

def pinned (l : Lines) : PinCall → Lines
  | .nmi assertNmi => { l.quiet with nmiPin := assertNmi ≠ 0 }
  | .irq assertIrq => { l.quiet with irqPin := assertIrq ≠ 0 }

/-! ### The lines of a byte -/

def of (interrupts : Byte) : Lines where
  sampling := interrupts.getLsbD 0
  nmiPin := interrupts.getLsbD 1
  nmiLast := interrupts.getLsbD 2
  nmiEdge := interrupts.getLsbD 3
  nmiTaken := interrupts.getLsbD 4
  irqPin := interrupts.getLsbD 5
  irqTaken := interrupts.getLsbD 6
  samplingOff := interrupts.getLsbD 7

theorem of_inj {i j : Byte} (h : of i = of j) : i = j := by
  simp only [of, Lines.mk.injEq] at h
  obtain ⟨h0, h1, h2, h3, h4, h5, h6, h7⟩ := h
  apply BitVec.eq_of_getLsbD_eq
  intro k hk
  match k, hk with
  | 0, _ => exact h0
  | 1, _ => exact h1
  | 2, _ => exact h2
  | 3, _ => exact h3
  | 4, _ => exact h4
  | 5, _ => exact h5
  | 6, _ => exact h6
  | 7, _ => exact h7

end Lines

/-! ### The bits of the byte -/

section bits

variable (i : Byte)

theorem flag_twoPow (k : Nat) (hk : k < 8) :
    flag i (BitVec.twoPow 8 k) = 0#8 ↔ i.getLsbD k = false := by
  have hbit : (BitVec.twoPow 8 k).getLsbD k = true := by simp [hk]
  have hne : BitVec.twoPow 8 k ≠ 0#8 := by
    intro h
    simp [h] at hbit
  rw [flag, BitVec.and_twoPow]
  cases i.getLsbD k <;> simp [hne]

@[simp] theorem flag_sampling : flag i interruptSampling = 0#8 ↔ (Lines.of i).sampling = false :=
  flag_twoPow i 0 (by decide)

@[simp] theorem flag_nmiPin : flag i interruptNmiInvPin = 0#8 ↔ (Lines.of i).nmiPin = false :=
  flag_twoPow i 1 (by decide)

@[simp] theorem flag_nmiLast :
    flag i interruptNmiInvLastSampledPin = 0#8 ↔ (Lines.of i).nmiLast = false :=
  flag_twoPow i 2 (by decide)

@[simp] theorem flag_nmiEdge : flag i interruptNmiEdge = 0#8 ↔ (Lines.of i).nmiEdge = false :=
  flag_twoPow i 3 (by decide)

@[simp] theorem flag_nmiTaken : flag i interruptNmiTaken = 0#8 ↔ (Lines.of i).nmiTaken = false :=
  flag_twoPow i 4 (by decide)

@[simp] theorem flag_irqPin : flag i interruptIrqInvPin = 0#8 ↔ (Lines.of i).irqPin = false :=
  flag_twoPow i 5 (by decide)

@[simp] theorem flag_irqTaken : flag i interruptIrqTaken = 0#8 ↔ (Lines.of i).irqTaken = false :=
  flag_twoPow i 6 (by decide)

@[simp] theorem flag_samplingOff :
    flag i interruptSamplingOff = 0#8 ↔ (Lines.of i).samplingOff = false :=
  flag_twoPow i 7 (by decide)

@[simp] theorem of_on_sampling :
    Lines.of (flagOn i interruptSampling) = { Lines.of i with sampling := true } := by
  simp [Lines.of, flagOn, interruptSampling]

@[simp] theorem of_off_sampling :
    Lines.of (flagOff i interruptSampling) = (Lines.of i).quiet := by
  simp [Lines.of, Lines.quiet, flagOff, interruptSampling]

@[simp] theorem of_on_nmiPin :
    Lines.of (flagOn i interruptNmiInvPin) = { Lines.of i with nmiPin := true } := by
  simp [Lines.of, flagOn, interruptNmiInvPin]

@[simp] theorem of_off_nmiPin :
    Lines.of (flagOff i interruptNmiInvPin) = { Lines.of i with nmiPin := false } := by
  simp [Lines.of, flagOff, interruptNmiInvPin]

@[simp] theorem of_on_nmiLast :
    Lines.of (flagOn i interruptNmiInvLastSampledPin) = { Lines.of i with nmiLast := true } := by
  simp [Lines.of, flagOn, interruptNmiInvLastSampledPin]

@[simp] theorem of_off_nmiLast :
    Lines.of (flagOff i interruptNmiInvLastSampledPin) = { Lines.of i with nmiLast := false } := by
  simp [Lines.of, flagOff, interruptNmiInvLastSampledPin]

@[simp] theorem of_on_nmiEdge :
    Lines.of (flagOn i interruptNmiEdge) = { Lines.of i with nmiEdge := true } := by
  simp [Lines.of, flagOn, interruptNmiEdge]

@[simp] theorem of_off_nmiEdge :
    Lines.of (flagOff i interruptNmiEdge) = { Lines.of i with nmiEdge := false } := by
  simp [Lines.of, flagOff, interruptNmiEdge]

@[simp] theorem of_on_nmiTaken :
    Lines.of (flagOn i interruptNmiTaken) = { Lines.of i with nmiTaken := true } := by
  simp [Lines.of, flagOn, interruptNmiTaken]

@[simp] theorem of_off_nmiTaken :
    Lines.of (flagOff i interruptNmiTaken) = { Lines.of i with nmiTaken := false } := by
  simp [Lines.of, flagOff, interruptNmiTaken]

@[simp] theorem of_on_irqPin :
    Lines.of (flagOn i interruptIrqInvPin) = { Lines.of i with irqPin := true } := by
  simp [Lines.of, flagOn, interruptIrqInvPin]

@[simp] theorem of_off_irqPin :
    Lines.of (flagOff i interruptIrqInvPin) = { Lines.of i with irqPin := false } := by
  simp [Lines.of, flagOff, interruptIrqInvPin]

@[simp] theorem of_on_irqTaken :
    Lines.of (flagOn i interruptIrqTaken) = { Lines.of i with irqTaken := true } := by
  simp [Lines.of, flagOn, interruptIrqTaken]

@[simp] theorem of_off_irqTaken :
    Lines.of (flagOff i interruptIrqTaken) = { Lines.of i with irqTaken := false } := by
  simp [Lines.of, flagOff, interruptIrqTaken]

@[simp] theorem of_on_samplingOff :
    Lines.of (flagOn i interruptSamplingOff) = { Lines.of i with samplingOff := true } := by
  simp [Lines.of, flagOn, interruptSamplingOff]

@[simp] theorem of_off_samplingOff :
    Lines.of (flagOff i interruptSamplingOff) = { Lines.of i with samplingOff := false } := by
  simp [Lines.of, flagOff, interruptSamplingOff]

/-! ### The functions of the resolver -/

@[simp] theorem of_lastSampled : Lines.of (lastSampled i) = (Lines.of i).follow := by
  unfold lastSampled
  split <;> simp_all [Lines.follow]

theorem of_detected : Lines.of (detected i) = (Lines.of i).detect := by
  unfold detected Lines.detect
  cases hoff : (Lines.of i).samplingOff <;> cases hpin : (Lines.of i).nmiPin <;>
    cases hlast : (Lines.of i).nmiLast <;> simp [hoff, hpin, hlast, Lines.follow]

variable (p : Byte)

/-- IRQ is let through by P. -/
def iClear : Bool := decide (flag p flagI = 0#8)

theorem of_findActiveInterrupt :
    Lines.of (findActiveInterrupt i p) = (Lines.of i).arbitrate (iClear p) := by
  unfold findActiveInterrupt Lines.arbitrate iClear
  cases hedge : (Lines.of i).nmiEdge <;> cases hpin : (Lines.of i).irqPin <;>
    by_cases hi : flag p flagI = 0#8 <;> simp [hedge, hpin, hi]

theorem of_pushed : Lines.of (Signal.pushed i p) =
    { (Lines.of i).arbitrate (iClear p) with samplingOff := true } := by
  rw [Signal.pushed, of_on_samplingOff, of_findActiveInterrupt]

theorem of_apply (s : Signal) :
    Lines.of (s.apply p i) = (Lines.of i).apply (iClear p) s := by
  cases s with
  | brkPush =>
    simp only [Signal.apply, Lines.apply]
    split
    next => simp [of_pushed]
    next h =>
      simp [of_pushed] at h
      simp [of_pushed, h]
  | nmiPush => simp [Signal.apply, Lines.apply, of_pushed]
  | irqPush =>
    simp only [Signal.apply, Lines.apply]
    split
    next => simp [of_pushed]
    next h =>
      simp [of_pushed] at h
      simp [of_pushed, h]
  | _ => simp [Signal.apply, Lines.apply, Lines.follow]

theorem jump_of (s : Signal) : s.jump p i = (Lines.of i).jump (iClear p) s := by
  cases s with
  | brkPush | irqPush => simp [Signal.jump, Lines.jump, of_pushed]
  | _ => rfl

theorem of_settled (fetching : Bool) :
    (Lines.of (settled i p fetching).1, (settled i p fetching).2) =
      (Lines.of i).settle (iClear p) fetching := by
  unfold settled Lines.settle
  cases hs : (Lines.of i).sampling <;> cases fetching <;> cases hn : (Lines.of i).nmiTaken <;>
    cases hi : (Lines.of i).irqTaken <;> simp [hs, hn, hi, of_findActiveInterrupt]

theorem idle_iff : Idle i ↔ (Lines.of i).idle = true := by
  unfold Idle Lines.idle
  simp [and_assoc]

theorem of_pinned (c : PinCall) : Lines.of (c.pinned i) = (Lines.of i).pinned c := by
  cases c with
  | nmi assertNmi =>
    by_cases ha : assertNmi = 0#8 <;>
      simp [PinCall.pinned, nmiPinned, Lines.pinned, Lines.quiet, ha]
  | irq assertIrq =>
    by_cases ha : assertIrq = 0#8 <;>
      simp [PinCall.pinned, irqPinned, Lines.pinned, Lines.quiet, ha]

end bits

end Qe6502
