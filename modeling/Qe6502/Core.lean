import Qe6502.InterruptUnit
import Qe6502.Host

/-!
# The core of a tick

What a tick does outside the interrupt state is its handler's run in the forgotten context, as
long as the interrupt unit enters no service slot: `execute_core`.  While the lines hold nothing
taken and no sampling request, a tick that does not sample enters none: `execute_untaken`.
-/

namespace Qe6502

/-- One tick without the interrupt state. -/
def Handler.core (h : Handler) (cpu : Cpu) (bus : Byte) : Cpu × Tick :=
  (advanceMicrocode (h.run cpu.forget bus).1.forget, (h.run cpu.forget bus).2)

theorem core_forget (h : Handler) (cpu : Cpu) (bus : Byte) :
    h.core cpu.forget bus = h.core cpu bus := rfl

/-- **A tick that enters no service slot does what its handler does in the core.** -/
theorem execute_core {h : Handler} {cpu : Cpu} {bus : Byte}
    (hnone : (unitTick h cpu bus).2 = none) :
    ((execute h cpu bus).1.forget, (execute h cpu bus).2) = h.core cpu bus := by
  obtain ⟨interrupts, hijack, index, hframe⟩ := execute_frame h cpu bus
  have hmicro := execute_microcode h cpu bus
  rw [hnone, hframe] at hmicro
  dsimp only at hmicro
  rw [execute_tick, hframe, hmicro]
  rfl

/-! ### Nothing taken -/

namespace Lines

/-- No sampling request, and nothing taken. -/
structure Untaken (l : Lines) : Prop where
  sampling : l.sampling = false
  nmiTaken : l.nmiTaken = false
  irqTaken : l.irqTaken = false

variable {l : Lines} (hl : l.Untaken)

include hl

theorem Untaken.pinned (p : PinCall) : (l.pinned p).Untaken := by
  cases p <;> exact ⟨rfl, hl.nmiTaken, hl.irqTaken⟩

theorem Untaken.detect : l.detect.Untaken := by
  obtain ⟨edge, last, hdetect⟩ := l.detect_frame
  rw [hdetect]
  exact ⟨hl.sampling, hl.nmiTaken, hl.irqTaken⟩

/-- A tick that does not signal enters nothing and takes nothing. -/
theorem Untaken.tick (on iClear fetching : Bool) :
    (l.tick on iClear fetching .none).1.Untaken ∧ (l.tick on iClear fetching .none).2 = none := by
  cases on with
  | false => exact ⟨hl, rfl⟩
  | true =>
    have hd := hl.detect
    have htick := tick_other hl.sampling iClear fetching (s := .none) (by decide)
    rw [apply, hd.nmiTaken, hd.irqTaken, Bool.and_false] at htick
    rw [htick]
    exact ⟨hd, rfl⟩

end Lines

theorem untaken_pins {cpu : Cpu} (hl : cpu.lines.Untaken) (calls : List PinCall) :
    (calls.foldl PinCall.apply cpu).lines.Untaken := by
  rw [pins_lines]
  generalize cpu.lines = l at hl
  induction calls generalizing l with
  | nil => exact hl
  | cons p calls ih => exact ih _ (hl.pinned p)

/-- **A tick without a signal enters no service slot while nothing is taken.** -/
theorem execute_untaken {h : Handler} {cpu : Cpu} (hl : cpu.lines.Untaken) {bus : Byte}
    (hs : h.signal cpu = .none) :
    (execute h cpu bus).1.lines.Untaken ∧
      ((execute h cpu bus).1.forget, (execute h cpu bus).2) = h.core cpu bus := by
  have htick := hl.tick cpu.resolving (iClear cpu.p) (execute h cpu bus).2.fetching
  have hunit : unitTick h cpu bus =
      cpu.lines.tick cpu.resolving (iClear cpu.p) (execute h cpu bus).2.fetching .none := by
    rw [unitTick, hs]
  rw [← hunit] at htick
  refine ⟨?_, execute_core htick.2⟩
  rw [execute_lines]
  exact htick.1

end Qe6502
