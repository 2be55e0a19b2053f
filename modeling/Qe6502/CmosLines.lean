import Qe6502.TakenNmi

/-!
# The interrupt lines of the CMOS models

The CMOS blocks have no handler that switches edge detection off.  So in every reachable
session of a CMOS model detection is on, and the NMI level last sampled is behind the pin only
while the resolver is on (`reachable_follows`).
-/

namespace Qe6502

/-- A CMOS model: WDC, Rockwell or Synertek. -/
def Cpu.cmos (cpu : Cpu) : Prop := 2 ≤ cpu.model.toNat

def keepsDetection (model _slot : Nat) (_entries : Slot) (_cycle : Nat) : Entry → Bool
  | .handler h => model < 2 || !h.switchesOff
  | _ => true

theorem keeps_detection : entriesAll keepsDetection = true := by decide +kernel

/-- The signals that switch edge detection off. -/
def Signal.switchesOff : Signal → Bool
  | brkPush | nmiPush | irqPush => true
  | _ => false

theorem signal_switchesOff {h : Handler} (hoff : h.switchesOff = false) (cpu : Cpu) :
    (h.signal cpu).switchesOff = false := by
  cases hs : h.signal cpu with
  | brkPush =>
    rw [handler_of_brkPush hs] at hoff
    cases hoff
  | nmiPush =>
    rw [handler_of_nmiPush hs] at hoff
    cases hoff
  | irqPush =>
    rw [handler_of_irqPush hs] at hoff
    cases hoff
  | _ => rfl

namespace Lines

/-- Edge detection is on, and the last sampled level has followed the pin. -/
def followed (l : Lines) : Bool := !l.samplingOff && l.nmiLast == l.nmiPin

theorem detect_followed {l : Lines} (hoff : l.samplingOff = false) : l.detect.followed = true := by
  simp [detect, hoff, followed]

theorem arbitrate_frame (l : Lines) (iClear : Bool) : ∃ edge nmi irq,
    l.arbitrate iClear = { l with nmiEdge := edge, nmiTaken := nmi, irqTaken := irq } := by
  unfold arbitrate
  split
  · exact ⟨_, _, _, rfl⟩
  · split
    · exact ⟨_, _, _, rfl⟩
    · exact ⟨_, _, _, rfl⟩

theorem apply_followed {l : Lines} {s : Signal} (hs : s.switchesOff = false) (iClear : Bool)
    (h : l.followed = true) : (l.apply iClear s).followed = true := by
  simp only [followed, Bool.and_eq_true, Bool.not_eq_true', beq_iff_eq] at h
  cases s with
  | brkPush | nmiPush | irqPush => cases hs
  | _ => simp [apply, followed, h]

theorem apply_nmiPin (l : Lines) (s : Signal) (iClear : Bool) :
    (l.apply iClear s).nmiPin = l.nmiPin := by
  obtain ⟨edge, nmi, irq, harb⟩ := l.arbitrate_frame iClear
  cases s <;> simp [apply, harb]

theorem settle_frame (l : Lines) (iClear fetching : Bool) : ∃ sampling edge nmi irq,
    (l.settle iClear fetching).1 =
      { l with sampling := sampling, nmiEdge := edge, nmiTaken := nmi, irqTaken := irq } := by
  unfold settle
  split
  · obtain ⟨edge, nmi, irq, harb⟩ := l.quiet.arbitrate_frame iClear
    exact ⟨_, _, _, _, harb⟩
  · split
    · exact ⟨_, _, _, _, rfl⟩
    · split
      · exact ⟨_, _, _, _, rfl⟩
      · exact ⟨_, _, _, _, rfl⟩

/-- A tick does not move the NMI pin. -/
theorem tick_nmiPin (l : Lines) (on iClear fetching : Bool) (s : Signal) :
    (l.tick on iClear fetching s).1.nmiPin = l.nmiPin := by
  cases on with
  | false => exact apply_nmiPin l s iClear
  | true =>
    obtain ⟨_, _, _, _, hsettle⟩ := (l.detect.apply iClear s).settle_frame iClear fetching
    obtain ⟨_, _, hdetect⟩ := l.detect_frame
    rw [tick, if_pos rfl, hsettle]
    exact (apply_nmiPin _ s iClear).trans (by rw [hdetect])

/-- After a tick with edge detection on, the last sampled level has followed the pin. -/
theorem tick_followed {l : Lines} {s : Signal} (hs : s.switchesOff = false) {on : Bool}
    (hoff : l.samplingOff = false) (hlast : on = false → l.followed = true)
    (iClear fetching : Bool) : (l.tick on iClear fetching s).1.followed = true := by
  cases on with
  | false => exact apply_followed hs iClear (hlast rfl)
  | true =>
    obtain ⟨_, _, _, _, hsettle⟩ := (l.detect.apply iClear s).settle_frame iClear fetching
    rw [tick, if_pos rfl, hsettle]
    exact apply_followed hs iClear (detect_followed hoff)

end Lines

/-! ### Every reachable session -/

/-- Edge detection is on, and the last sampled level has followed the NMI pin while the
resolver is off. -/
structure Cpu.Follows (cpu : Cpu) : Prop where
  detecting : cpu.lines.samplingOff = false
  followed : cpu.resolving = false → cpu.lines.followed = true

theorem execute_followed {cpu cpu₀ : Cpu} {bus : Byte} {slot cycle : Nat} {h : Handler}
    (hx : Executes cpu bus slot cycle h cpu₀) (hc : cpu.cmos) (hf : cpu.Follows) :
    (execute h cpu₀ bus).1.lines.followed = true := by
  obtain ⟨_, hi, hh, hm⟩ := hx.interrupts_eq
  have hlines : cpu₀.lines = cpu.lines := congrArg Lines.of hi
  have hon : cpu₀.resolving = cpu.resolving := by rw [Cpu.resolving, Cpu.resolving, hh]
  have hc₀ : ¬cpu₀.model.toNat < 2 := by
    rw [hm]
    exact Nat.not_lt.mpr hc
  obtain ⟨_, _, hall⟩ := forall_entries keeps_detection hx.entry.2
  have hoff : h.switchesOff = false := by simpa [keepsDetection, hc₀] using hall
  rw [execute_lines, unitTick, hlines, hon]
  exact Lines.tick_followed (signal_switchesOff hoff cpu₀) hf.detecting hf.followed _ _

theorem Cpu.Follows.of_followed {cpu : Cpu} (h : cpu.lines.followed = true) : cpu.Follows := by
  refine ⟨?_, fun _ => h⟩
  simp only [Lines.followed, Bool.and_eq_true, Bool.not_eq_true'] at h
  exact h.1

theorem Cpu.Follows.pin {cpu : Cpu} (hf : cpu.Follows) (c : PinCall) :
    Cpu.Follows { cpu with
      interrupts := c.pinned cpu.interrupts
      hijackMicrocode := c.hijack cpu.interrupts cpu.hijackMicrocode } := by
  have hlines : Lines.of (c.pinned cpu.interrupts) = cpu.lines.pinned c := of_pinned _ _
  refine ⟨?_, fun hres => ?_⟩
  · show (Lines.of (c.pinned cpu.interrupts)).samplingOff = false
    rw [hlines]
    cases c <;> exact hf.detecting
  · have hhijack : c.hijack cpu.interrupts cpu.hijackMicrocode = 0 := by
      simpa [Cpu.resolving] using hres
    rw [PinCall.hijack] at hhijack
    split at hhijack
    · exact absurd hhijack (by decide)
    next hswitch =>
      have hfollowed := hf.followed (by simp [Cpu.resolving, hhijack])
      show (Lines.of (c.pinned cpu.interrupts)).followed = true
      rw [hlines]
      cases c with
      | nmi assertNmi =>
        rw [Lines.pinned, ← nmiPin_of_not_changes hswitch]
        exact hfollowed
      | irq assertIrq => exact hfollowed

/-- **The CMOS models follow the NMI pin**, in every reachable session. -/
theorem reachable_follows {s : Session} (h : s.Reachable) (hc : s.1.cmos) : s.1.Follows := by
  refine Session.reachable_invariant (fun s => s.1.cmos → s.1.Follows) ?_ ?_ h hc
  · intro cpu _ _
    refine .of_followed ?_
    show (Lines.of 0).followed = true
    decide
  · intro s c s' hp hinv heffect hc
    cases heffect with
    | tick hx =>
      obtain ⟨_, _, _, hm⟩ := hx.interrupts_eq
      have hcmos : s.1.cmos := by
        rw [Cpu.cmos, execute_model, hm] at hc
        exact hc
      exact .of_followed (execute_followed hx hcmos (hinv hcmos))
    | pin p => exact (hinv hc).pin p
    | goto address =>
      have hcmos : s.1.cmos := by
        rw [Cpu.cmos, execute_model] at hc
        exact hc
      have hf := hinv hcmos
      exact .of_followed (execute_followed (redirected_executes hp.supported address) hcmos
        ⟨hf.detecting, hf.followed⟩)
    | restart =>
      refine .of_followed ?_
      show (Lines.of 0).followed = true
      decide

end Qe6502
