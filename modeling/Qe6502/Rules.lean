import Qe6502.Operations
import Qe6502.Beats
import Qe6502.Words

/-!
# Rules for handlers

A slot is followed handler by handler.  `Reaches` is the judgement that the slot has shown some
beats and stands at some cycle, and each handler has a rule that extends it.  The handlers of
one addressing mode move the program counter and the latches only, so their rules are about
contexts `c.after pc addr data`.
-/

namespace Qe6502

open StepMachine (trace first)

/-- A tick that does not sample interrupts. -/
def quiet (tick : Tick) : Beat := ⟨tick, none⟩

/-- A tick that samples interrupts under the flags `p`. -/
def sampled (tick : Tick) (p : Byte) : Beat := ⟨tick, some p⟩

/-- A tick that samples interrupts on a condition. -/
def sampledIf (cond : Bool) (tick : Tick) (p : Byte) : Beat := ⟨tick, if cond then some p else none⟩

/-- An address in the zero page. -/
def zeroPage (low : Byte) : Word := low.setWidth 16

/-- The context with another program counter and other latches. -/
def Cpu.after (c : Cpu) (pc addr : Word) (data : Byte) : Cpu :=
  { c.forget with pc := pc, latchAddr := addr, latchData := data }

/-- From its first cycle the slot shows the beats in `n` ticks on the bytes of `bus`, and stands
at the phase. -/
def Slot.Reaches (entries : Slot) (cpu : Cpu) (bus : ℕ → Byte) (n : ℕ) (beats : List Beat)
    (p : Phase) : Prop :=
  trace (Phase.step entries) ⟨0, cpu.forget⟩ (first bus n) = some (beats, p)

/-- The slot shows the beats and leaves the registers. -/
def Slot.Yields (entries : Slot) (cpu : Cpu) (bus : ℕ → Byte) (beats : List Beat)
    (r : Registers) : Prop :=
  ∃ p, entries.Reaches cpu bus beats.length beats p ∧ p.cpu.registers = r

theorem setByte_zero_zeroPage (low b : Byte) : u16SetByte (zeroPage low) 0 b = zeroPage b :=
  setByte_zero_setWidth low b

theorem getByte_zero_zeroPage (low : Byte) : u16GetByte (zeroPage low) 0 = low :=
  getByte_zero_setWidth low

theorem setByte_one_low {addr : Word} {low : Byte} (hlow : u16GetByte addr 0 = low) (high : Byte) :
    u16SetByte addr 1 high = ofBytes low high := by
  rw [← setByte_one_setByte_zero addr]
  exact setByte_one_congr high (hlow.trans (getByte_zero_setByte_zero addr low).symm)

/-! ### Indices -/

/-- The address `base + index` without the carry into the high byte. -/
def uncarried (base index : Word) : Word :=
  ofBytes (u16GetByte (base + index) 0) (u16GetByte base 1)

section index

variable {low high index : Byte}

theorem indexed_eq : ofBytes low high + zeroPage index =
    ofBytes (low + index) (high + carry low index) := (ofBytes_add_index low high index).symm

theorem uncarried_eq :
    uncarried (ofBytes low high) (zeroPage index) = ofBytes (low + index) high := by
  rw [uncarried, indexed_eq, getByte_zero_ofBytes, getByte_one_ofBytes]

theorem indexed_of_same (hc : carry low index = 0) :
    ofBytes low high + zeroPage index = ofBytes (low + index) high := by
  rw [indexed_eq, hc]
  exact congrArg (ofBytes (low + index)) (BitVec.add_zero high)

/-- The address of an unstable store: if a page is crossed, its high byte is the byte written. -/
def unstableAddress (low high index value : Byte) : Word :=
  ofBytes (low + index) (if carry low index = 0 then high else value)

theorem noPageCross_of_carry {c : Cpu} (hc : c.latchData ≠ 0) : ¬noPageCross c = true := by
  rw [noPageCross, decide_eq_true_eq]
  exact hc

end index

namespace Slot

variable {entries : Slot} {cpu c c' : Cpu} {bus : ℕ → Byte} {n k : ℕ} {beats : List Beat}
  {b : Beat} {pc addr : Word} {data : Byte}

theorem Reaches.start :
    entries.Reaches cpu bus 0 [] ⟨0, cpu.after cpu.pc cpu.latchAddr cpu.latchData⟩ := rfl

theorem Reaches.snoc {p p' : Phase} (h : entries.Reaches cpu bus n beats p)
    (hstep : p.step entries (bus n) = some (b, p')) :
    entries.Reaches cpu bus (n + 1) (beats ++ [b]) p' := by
  rw [Reaches, StepMachine.first_succ]
  exact StepMachine.trace_append (StepMachine.trace_cons hstep rfl) h

/-- The rule of a handler, from what it does. -/
theorem Reaches.next (h : entries.Reaches cpu bus n beats ⟨k, c⟩) {hd : Handler} {skip : ℕ}
    (hget : entries[k]? = some (.handler hd)) (hbeat : hd.beat c (bus n) = b)
    (hrun : (hd.run c (bus n)).1.forget.seat c.model c.microcode = c')
    (hskip : hd.skips c (bus n) = skip) :
    entries.Reaches cpu bus (n + 1) (beats ++ [b]) ⟨k + 1 + skip, c'⟩ := by
  refine h.snoc ?_
  rw [Phase.step, hget, ← hbeat, ← hrun, ← hskip]

/-- The same for a handler whose result is known as a whole. -/
theorem Reaches.run (h : entries.Reaches cpu bus n beats ⟨k, c⟩) (cond : Bool) (c' : Cpu)
    {hd : Handler} {skip : ℕ} {tick : Tick} (hget : entries[k]? = some (.handler hd))
    (hrun : hd.run c (bus n) = (c', tick))
    (hsignal : hd.signal c = if cond then .sample else .none)
    (hskip : hd.skips c (bus n) = skip) :
    entries.Reaches cpu bus (n + 1) (beats ++ [sampledIf cond tick c.p])
      ⟨k + 1 + skip, c'.forget.seat c.model c.microcode⟩ := by
  refine h.next hget ?_ (by rw [hrun]) hskip
  rw [Handler.beat, hrun, hsignal]
  cases cond <;> rfl

/-- The same for a handler that samples interrupts on a condition and then runs `f`. -/
theorem Reaches.runIf (h : entries.Reaches cpu bus n beats ⟨k, c⟩) (f : Cpu → Cpu × Tick)
    (c' : Cpu) {hd : Handler} {skip : ℕ} {cond : Bool} {tick : Tick}
    (hget : entries[k]? = some (.handler hd))
    (hrun : hd.run c (bus n) = f (prefetchIf cond c))
    (hf : ∀ i, f { c with interrupts := i } = ({ c' with interrupts := i }, tick))
    (hsignal : hd.signal c = if cond then .sample else .none)
    (hskip : hd.skips c (bus n) = skip) :
    entries.Reaches cpu bus (n + 1) (beats ++ [sampledIf cond tick c.p])
      ⟨k + 1 + skip, c'.forget.seat c.model c.microcode⟩ := by
  obtain ⟨i, hi⟩ : ∃ i, prefetchIf cond c = { c with interrupts := i } := by
    cases cond <;> exact ⟨_, rfl⟩
  rw [hi, hf i] at hrun
  exact h.run cond { c' with interrupts := i } hget hrun hsignal hskip

theorem Reaches.length {p : Phase} (h : entries.Reaches cpu bus n beats p) : beats.length = n := by
  have hlength := StepMachine.trace_length h
  rw [hlength, first, List.length_map, List.length_range]

theorem Reaches.yields {p : Phase} (h : entries.Reaches cpu bus n beats p) :
    entries.Yields cpu bus beats p.cpu.registers :=
  ⟨p, h.length.symm ▸ h, rfl⟩

theorem Reaches.yields_of {p : Phase} (h : entries.Reaches cpu bus n beats p) {r : Registers}
    (hr : p.cpu.registers = r) : entries.Yields cpu bus beats r := hr ▸ h.yields

namespace Reaches

section rules

variable (h : entries.Reaches cpu bus n beats ⟨k, c.after pc addr data⟩)

include h

/-! ### Reads at the program counter -/

theorem readPcInc (hget : entries[k]? = some (.handler .mcReadPcInc)) :
    entries.Reaches cpu bus (n + 1) (beats ++ [quiet (read pc)])
      ⟨k + 1, c.after (pc + 1) addr data⟩ :=
  h.next hget rfl rfl rfl

theorem readPcIncPrefetch (hget : entries[k]? = some (.handler .mcReadPcIncPrefetch)) :
    entries.Reaches cpu bus (n + 1) (beats ++ [sampled (read pc) c.p])
      ⟨k + 1, c.after (pc + 1) addr data⟩ :=
  h.next hget rfl rfl rfl

theorem readPc (hget : entries[k]? = some (.handler .mcReadPc)) :
    entries.Reaches cpu bus (n + 1) (beats ++ [quiet (read pc)]) ⟨k + 1, c.after pc addr data⟩ :=
  h.next hget rfl rfl rfl

theorem clearLatchAddrReadPcInc (hget : entries[k]? = some (.handler .mcClearLatchAddrReadPcInc)) :
    entries.Reaches cpu bus (n + 1) (beats ++ [quiet (read pc)])
      ⟨k + 1, c.after (pc + 1) (zeroPage 0) data⟩ :=
  h.next hget rfl rfl rfl

theorem clearLatchAddrReadPc (hget : entries[k]? = some (.handler .mcClearLatchAddrReadPc)) :
    entries.Reaches cpu bus (n + 1) (beats ++ [quiet (read pc)])
      ⟨k + 1, c.after pc (zeroPage 0) data⟩ :=
  h.next hget rfl rfl rfl

theorem readPcMinusOnePrefetch (hget : entries[k]? = some (.handler .mcReadPcMinusOnePrefetch)) :
    entries.Reaches cpu bus (n + 1) (beats ++ [sampled (read (pc - 1)) c.p])
      ⟨k + 1, c.after pc addr data⟩ :=
  h.next hget rfl rfl rfl

/-! ### Absolute addresses -/

theorem latchAddr0ReadPcInc (hget : entries[k]? = some (.handler .mcLatchAddr0ReadPcInc)) :
    entries.Reaches cpu bus (n + 1) (beats ++ [quiet (read pc)])
      ⟨k + 1, c.after (pc + 1) (u16SetByte addr 0 (bus n)) data⟩ :=
  h.next hget rfl rfl rfl

theorem readAddrWithBusHiPrefetch {low : Byte} (hlow : u16GetByte addr 0 = low)
    (hget : entries[k]? = some (.handler .mcReadAddrWithBusHiPrefetch)) :
    entries.Reaches cpu bus (n + 1) (beats ++ [sampled (read (ofBytes low (bus n))) c.p])
      ⟨k + 1, c.after pc addr data⟩ :=
  h.next hget (congrArg (fun a => sampled (read a) c.p) (setByte_one_low hlow (bus n))) rfl rfl

theorem latchAddr1ReadLatchAddr {low : Byte} (hlow : u16GetByte addr 0 = low)
    (hget : entries[k]? = some (.handler .mcLatchAddr1ReadLatchAddr)) :
    entries.Reaches cpu bus (n + 1) (beats ++ [quiet (read (ofBytes low (bus n)))])
      ⟨k + 1, c.after pc (ofBytes low (bus n)) data⟩ :=
  h.next hget (congrArg (fun a => quiet (read a)) (setByte_one_low hlow (bus n)))
    (congrArg (fun a => c.after pc a data) (setByte_one_low hlow (bus n))) rfl

/-! ### Indexed absolute addresses -/

theorem latchAbxBaseReadPcInc (hget : entries[k]? = some (.handler .mcLatchAbxBaseReadPcInc)) :
    entries.Reaches cpu bus (n + 1) (beats ++ [quiet (read pc)])
      ⟨k + 1, c.after (pc + 1) (zeroPage (bus n + c.x)) (carry (bus n) c.x)⟩ :=
  h.next hget rfl (congrArg (fun a => c.after (pc + 1) a (carry (bus n) c.x))
    (indexed_low (bus n) c.x)) rfl

theorem latchAbyBaseReadPcInc (hget : entries[k]? = some (.handler .mcLatchAbyBaseReadPcInc)) :
    entries.Reaches cpu bus (n + 1) (beats ++ [quiet (read pc)])
      ⟨k + 1, c.after (pc + 1) (zeroPage (bus n + c.y)) (carry (bus n) c.y)⟩ :=
  h.next hget rfl (congrArg (fun a => c.after (pc + 1) a (carry (bus n) c.y))
    (indexed_low (bus n) c.y)) rfl

theorem rwAbxC1Hi (hget : entries[k]? = some (.handler .mcRwAbxC1Hi)) :
    entries.Reaches cpu bus (n + 1) (beats ++ [quiet (read pc)])
      ⟨k + 1, c.after (pc + 1) (zeroPage (bus n + c.x)) (carry (bus n) c.x)⟩ :=
  h.next hget rfl (congrArg (fun a => c.after (pc + 1) a (carry (bus n) c.x))
    (indexed_low (bus n) c.x)) rfl

theorem cmosLatchAbxBaseReadPc (hget : entries[k]? = some (.handler .mcCmosLatchAbxBaseReadPc)) :
    entries.Reaches cpu bus (n + 1) (beats ++ [quiet (read pc)])
      ⟨k + 1, c.after pc (zeroPage (bus n + c.x)) (carry (bus n) c.x)⟩ :=
  h.next hget rfl (congrArg (fun a => c.after pc a (carry (bus n) c.x))
    (indexed_low (bus n) c.x)) rfl

theorem cmosLatchAbyBaseReadPc (hget : entries[k]? = some (.handler .mcCmosLatchAbyBaseReadPc)) :
    entries.Reaches cpu bus (n + 1) (beats ++ [quiet (read pc)])
      ⟨k + 1, c.after pc (zeroPage (bus n + c.y)) (carry (bus n) c.y)⟩ :=
  h.next hget rfl (congrArg (fun a => c.after pc a (carry (bus n) c.y))
    (indexed_low (bus n) c.y)) rfl

/-! ### Zero page and its pointers -/

theorem rZpC1DataPrefetch (hget : entries[k]? = some (.handler .mcRZpC1DataPrefetch)) :
    entries.Reaches cpu bus (n + 1) (beats ++ [sampled (read (zeroPage (bus n))) c.p])
      ⟨k + 1, c.after pc addr data⟩ :=
  h.next hget rfl rfl rfl

theorem latchZpAddrReadLatchAddr
    (hget : entries[k]? = some (.handler .mcLatchZpAddrReadLatchAddr)) :
    entries.Reaches cpu bus (n + 1) (beats ++ [quiet (read (zeroPage (bus n)))])
      ⟨k + 1, c.after pc (zeroPage (bus n)) data⟩ :=
  h.next hget rfl rfl rfl

theorem readZpLatchX (hget : entries[k]? = some (.handler .mcReadZpLatchX)) :
    entries.Reaches cpu bus (n + 1) (beats ++ [quiet (read (zeroPage (bus n)))])
      ⟨k + 1, c.after pc (zeroPage (bus n + c.x)) data⟩ :=
  h.next hget rfl rfl rfl

theorem wZpyC1Idx (hget : entries[k]? = some (.handler .mcWZpyC1Idx)) :
    entries.Reaches cpu bus (n + 1) (beats ++ [quiet (read (zeroPage (bus n)))])
      ⟨k + 1, c.after pc (zeroPage (bus n + c.y)) data⟩ :=
  h.next hget rfl rfl rfl

theorem rIzxC4DataNoLatchPrefetch
    (hget : entries[k]? = some (.handler .mcRIzxC4DataNoLatchPrefetch)) :
    entries.Reaches cpu bus (n + 1) (beats ++ [sampled (read (ofBytes data (bus n))) c.p])
      ⟨k + 1, c.after pc addr data⟩ :=
  h.next hget (congrArg (fun a => sampled (read a) c.p) (setByte_one_setWidth data (bus n))) rfl rfl

theorem rIzxC4Data (hget : entries[k]? = some (.handler .mcRIzxC4Data)) :
    entries.Reaches cpu bus (n + 1) (beats ++ [quiet (read (ofBytes data (bus n)))])
      ⟨k + 1, c.after pc (ofBytes data (bus n)) data⟩ :=
  h.next hget (congrArg (fun a => quiet (read a)) (setByte_one_setWidth data (bus n)))
    (congrArg (fun a => c.after pc a data) (setByte_one_setWidth data (bus n))) rfl

/-! ### Accesses at the latched address -/

theorem readLatchAddr (hget : entries[k]? = some (.handler .mcReadLatchAddr)) :
    entries.Reaches cpu bus (n + 1) (beats ++ [quiet (read addr)])
      ⟨k + 1, c.after pc addr data⟩ :=
  h.next hget rfl rfl rfl

theorem readLatchAddrPrefetch (hget : entries[k]? = some (.handler .mcReadLatchAddrPrefetch)) :
    entries.Reaches cpu bus (n + 1) (beats ++ [sampled (read addr) c.p])
      ⟨k + 1, c.after pc addr data⟩ :=
  h.next hget rfl rfl rfl

theorem latchDataReadLatchAddr (hget : entries[k]? = some (.handler .mcLatchDataReadLatchAddr)) :
    entries.Reaches cpu bus (n + 1) (beats ++ [quiet (read addr)])
      ⟨k + 1, c.after pc addr (bus n)⟩ :=
  h.next hget rfl rfl rfl

theorem latchDataReadLatchAddrPrefetch
    (hget : entries[k]? = some (.handler .mcLatchDataReadLatchAddrPrefetch)) :
    entries.Reaches cpu bus (n + 1) (beats ++ [sampled (read addr) c.p])
      ⟨k + 1, c.after pc addr (bus n)⟩ :=
  h.next hget rfl rfl rfl

theorem latchDataWriteLatchAddr (hget : entries[k]? = some (.handler .mcLatchDataWriteLatchAddr)) :
    entries.Reaches cpu bus (n + 1) (beats ++ [quiet (write addr (bus n))])
      ⟨k + 1, c.after pc addr (bus n)⟩ :=
  h.next hget rfl rfl rfl

/-! ### Reads that sample interrupts while D is clear -/

theorem readPcIncPrefetchDecimalClear
    (hget : entries[k]? = some (.handler .mcReadPcIncPrefetchDecimalClear)) :
    entries.Reaches cpu bus (n + 1) (beats ++ [sampledIf (decimalClear c) (read pc) c.p])
      ⟨k + 1, c.after (pc + 1) addr data⟩ :=
  h.runIf Qe6502.readPcInc (c.after (pc + 1) addr data) hget rfl (fun _ => rfl) rfl rfl

theorem readLatchAddrPrefetchDecimalClear
    (hget : entries[k]? = some (.handler .mcReadLatchAddrPrefetchDecimalClear)) :
    entries.Reaches cpu bus (n + 1) (beats ++ [sampledIf (decimalClear c) (read addr) c.p])
      ⟨k + 1, c.after pc addr data⟩ :=
  h.runIf (fun c => (c, read addr)) (c.after pc addr data) hget rfl (fun _ => rfl) rfl rfl

theorem latchZpAddrReadLatchAddrPrefetchDecimalClear
    (hget : entries[k]? = some (.handler .mcLatchZpAddrReadLatchAddrPrefetchDecimalClear)) :
    entries.Reaches cpu bus (n + 1)
      (beats ++ [sampledIf (decimalClear c) (read (zeroPage (bus n))) c.p])
      ⟨k + 1, c.after pc (zeroPage (bus n)) data⟩ :=
  h.runIf (fun c => mcLatchZpAddrReadLatchAddr c (bus n)) (c.after pc (zeroPage (bus n)) data)
    hget rfl (fun _ => rfl) rfl rfl

theorem latchAddr1ReadLatchAddrPrefetchDecimalClear {low : Byte} (hlow : u16GetByte addr 0 = low)
    (hget : entries[k]? = some (.handler .mcLatchAddr1ReadLatchAddrPrefetchDecimalClear)) :
    entries.Reaches cpu bus (n + 1)
      (beats ++ [sampledIf (decimalClear c) (read (ofBytes low (bus n))) c.p])
      ⟨k + 1, c.after pc (ofBytes low (bus n)) data⟩ := by
  rw [← setByte_one_low hlow]
  exact h.runIf (fun c => mcLatchAddr1ReadLatchAddr c (bus n))
    (c.after pc (u16SetByte addr 1 (bus n)) data) hget rfl (fun _ => rfl) rfl rfl

theorem rIzxC4DataPrefetchDecimalClear
    (hget : entries[k]? = some (.handler .mcRIzxC4DataPrefetchDecimalClear)) :
    entries.Reaches cpu bus (n + 1)
      (beats ++ [sampledIf (decimalClear c) (read (ofBytes data (bus n))) c.p])
      ⟨k + 1, c.after pc (ofBytes data (bus n)) data⟩ := by
  rw [← setByte_one_setWidth]
  exact h.runIf (fun c => mcRIzxC4Data c (bus n))
    (c.after pc (u16SetByte (data.setWidth 16) 1 (bus n)) data) hget rfl (fun _ => rfl) rfl rfl

/-! ### Stores -/

theorem storeAtLatch {source : Source} (hget : entries[k]? = some (.handler source.atLatch)) :
    entries.Reaches cpu bus (n + 1) (beats ++ [sampled (write addr (source.value c)) c.p])
      ⟨k + 1, c.after pc addr data⟩ := by
  cases source <;> exact h.next hget rfl rfl rfl

theorem storeAtHigh {source : Source} {low : Byte} (hlow : u16GetByte addr 0 = low)
    (hget : entries[k]? = some (.handler source.atHigh)) :
    entries.Reaches cpu bus (n + 1)
      (beats ++ [sampled (write (ofBytes low (bus n)) (source.value c)) c.p])
      ⟨k + 1, c.after pc addr data⟩ := by
  rw [← setByte_one_low hlow]
  cases source <;> exact h.next hget rfl rfl rfl

theorem storeAtZeroPage {source : Source}
    (hget : entries[k]? = some (.handler source.atZeroPage)) :
    entries.Reaches cpu bus (n + 1)
      (beats ++ [sampled (write (zeroPage (bus n)) (source.value c)) c.p])
      ⟨k + 1, c.after pc addr data⟩ := by
  cases source <;> exact h.next hget rfl rfl rfl

end rules

section zeroPageRules

variable {low : Byte} (h : entries.Reaches cpu bus n beats ⟨k, c.after pc (zeroPage low) data⟩)

include h

/-! ### With an address in the zero page latched -/

theorem latchAddr0ReadLatchAddr (hget : entries[k]? = some (.handler .mcLatchAddr0ReadLatchAddr)) :
    entries.Reaches cpu bus (n + 1) (beats ++ [quiet (read (zeroPage (bus n)))])
      ⟨k + 1, c.after pc (zeroPage (bus n)) data⟩ := by
  rw [← setByte_zero_zeroPage low]
  exact h.next hget rfl rfl rfl

theorem zpxC1Idx (hget : entries[k]? = some (.handler .mcZpxC1Idx)) :
    entries.Reaches cpu bus (n + 1) (beats ++ [quiet (read (zeroPage (bus n)))])
      ⟨k + 1, c.after pc (zeroPage (bus n + c.x)) data⟩ := by
  rw [← setByte_zero_zeroPage low (bus n), ← setByte_zero_zeroPage low (bus n + c.x)]
  exact h.next hget rfl rfl rfl

theorem rZpyC1Idx (hget : entries[k]? = some (.handler .mcRZpyC1Idx)) :
    entries.Reaches cpu bus (n + 1) (beats ++ [quiet (read (zeroPage (bus n)))])
      ⟨k + 1, c.after pc (zeroPage (bus n + c.y)) data⟩ := by
  rw [← setByte_zero_zeroPage low (bus n), ← setByte_zero_zeroPage low (bus n + c.y)]
  exact h.next hget rfl rfl rfl

theorem rIzxC1Idx (hget : entries[k]? = some (.handler .mcRIzxC1Idx)) :
    entries.Reaches cpu bus (n + 1) (beats ++ [quiet (read (zeroPage (bus n)))])
      ⟨k + 1, c.after pc (zeroPage (bus n + c.x)) data⟩ := by
  rw [← setByte_zero_zeroPage (bus n) (bus n + c.x), ← setByte_zero_zeroPage low (bus n)]
  exact h.next hget rfl rfl rfl

theorem izxReadPtrloIncPtr (hget : entries[k]? = some (.handler .mcIzxReadPtrloIncPtr)) :
    entries.Reaches cpu bus (n + 1) (beats ++ [quiet (read (zeroPage low))])
      ⟨k + 1, c.after pc (zeroPage (low + 1)) data⟩ := by
  have hlow := getByte_zero_zeroPage low
  have hnext : u16SetByte (zeroPage low) 0 (u16GetByte (zeroPage low) 0 + 1) =
      zeroPage (low + 1) := by
    rw [hlow, setByte_zero_zeroPage]
  rw [← hnext]
  exact h.next hget rfl rfl rfl

theorem wIzxC3Ptrhi (hget : entries[k]? = some (.handler .mcWIzxC3Ptrhi)) :
    entries.Reaches cpu bus (n + 1) (beats ++ [quiet (read (zeroPage low))])
      ⟨k + 1, c.after pc (zeroPage (bus n)) data⟩ := by
  rw [← setByte_zero_zeroPage low (bus n)]
  exact h.next hget rfl rfl rfl

theorem izpC2Ptrhi (hget : entries[k]? = some (.handler .mcIzpC2Ptrhi)) :
    entries.Reaches cpu bus (n + 1) (beats ++ [quiet (read (zeroPage (low + 1)))])
      ⟨k + 1, c.after pc (zeroPage (bus n)) data⟩ :=
  h.next hget
    (congrArg (fun ptr : Byte => quiet (read (zeroPage (ptr + 1)))) (getByte_zero_zeroPage low))
    (congrArg (fun a => c.after pc a data) (setByte_zero_zeroPage low (bus n))) rfl

theorem wIzyC2Ptrhi (hget : entries[k]? = some (.handler .mcWIzyC2Ptrhi)) :
    entries.Reaches cpu bus (n + 1) (beats ++ [quiet (read (zeroPage (low + 1)))])
      ⟨k + 1, c.after pc (zeroPage (bus n + c.y)) (carry (bus n) c.y)⟩ :=
  h.next hget
    (congrArg (fun ptr : Byte => quiet (read (zeroPage (ptr + 1)))) (getByte_zero_zeroPage low))
    (congrArg (fun a => c.after pc a (carry (bus n) c.y)) (indexed_low (bus n) c.y)) rfl

theorem rIzyC2Ptrhi (hget : entries[k]? = some (.handler .mcRIzyC2Ptrhi)) :
    entries.Reaches cpu bus (n + 1) (beats ++ [quiet (read (zeroPage (low + 1)))])
      ⟨k + 1, c.after pc (zeroPage (bus n + c.y)) (carry (bus n) c.y)⟩ := by
  have hlow := getByte_zero_zeroPage low
  have hnext : u16SetByte (zeroPage low) 0 (u16GetByte (zeroPage low) 0 + 1) =
      zeroPage (low + 1) := by
    rw [hlow, setByte_zero_zeroPage]
  exact h.next hget (congrArg (fun a => quiet (read a)) hnext)
    (congrArg (fun a => c.after pc a (carry (bus n) c.y)) (indexed_low (bus n) c.y)) rfl

end zeroPageRules

section indexedRules

variable {low index : Byte}
  (h : entries.Reaches cpu bus n beats
    ⟨k, c.after pc (zeroPage (low + index)) (carry low index)⟩)

include h

/-! ### Probes

A probe has the indexed low byte latched, and the carry in `latch_data`.  The high byte is on
the bus. -/

theorem wIndexedProbe (hget : entries[k]? = some (.handler .mcWIndexedProbe)) :
    entries.Reaches cpu bus (n + 1)
      (beats ++ [quiet (read (uncarried (ofBytes low (bus n)) (zeroPage index)))])
      ⟨k + 1, c.after pc (ofBytes low (bus n) + zeroPage index) (carry low index)⟩ := by
  rw [uncarried_eq, indexed_eq, ← setByte_one_low (getByte_zero_zeroPage _),
    ← setByte_one_low (getByte_zero_zeroPage _)]
  exact h.next hget rfl rfl rfl

theorem cmosWIndexedProbe (hget : entries[k]? = some (.handler .mcCmosWIndexedProbe)) :
    entries.Reaches cpu bus (n + 1) (beats ++ [quiet (read pc)])
      ⟨k + 1, c.after (pc + 1) (ofBytes low (bus n) + zeroPage index) (carry low index)⟩ := by
  rw [indexed_eq, ← setByte_one_low (getByte_zero_zeroPage _)]
  exact h.next hget rfl rfl rfl

theorem unstableProbe
    (hget : entries[k]? = some (.handler .mcUnstableStoreIndexedProbePreserveBaseHigh)) :
    entries.Reaches cpu bus (n + 1)
      (beats ++ [quiet (read (uncarried (ofBytes low (bus n)) (zeroPage index)))])
      ⟨k + 1, c.after pc (uncarried (ofBytes low (bus n)) (zeroPage index)) (carry low index)⟩ := by
  rw [uncarried_eq, ← setByte_one_low (getByte_zero_zeroPage _)]
  exact h.next hget rfl rfl rfl

/-! The read probes skip the next entry when no page is crossed. -/

theorem rIndexedProbe_same (hc : carry low index = 0)
    (hget : entries[k]? = some (.handler .mcRIndexedProbeNoLatchPrefetchNoPageCross)) :
    entries.Reaches cpu bus (n + 1)
      (beats ++ [sampled (read (ofBytes low (bus n) + zeroPage index)) c.p])
      ⟨k + 2, c.after pc (zeroPage (low + index)) (carry low index)⟩ := by
  rw [indexed_of_same hc, ← setByte_one_low (getByte_zero_zeroPage _)]
  exact h.run true _ hget (mcRIndexedProbeNoLatch_same hc) (if_pos (decide_eq_true hc))
    (if_pos (decide_eq_true hc))

theorem rIndexedProbe_cross (hc : carry low index ≠ 0)
    (hget : entries[k]? = some (.handler .mcRIndexedProbeNoLatchPrefetchNoPageCross)) :
    entries.Reaches cpu bus (n + 1)
      (beats ++ [quiet (read (uncarried (ofBytes low (bus n)) (zeroPage index)))])
      ⟨k + 1, c.after pc (ofBytes low (bus n) + zeroPage index) (carry low index)⟩ := by
  rw [uncarried_eq, indexed_eq, ← setByte_one_low (getByte_zero_zeroPage _),
    ← setByte_one_low (getByte_zero_zeroPage _)]
  exact h.run false _ hget (mcRIndexedProbeNoLatch_cross hc) (if_neg (noPageCross_of_carry hc))
    (if_neg (noPageCross_of_carry hc))

theorem cmosRIndexedProbe_same (hc : carry low index = 0)
    (hget : entries[k]? = some (.handler .mcCmosRIndexedProbeNoLatchPrefetchNoPageCross)) :
    entries.Reaches cpu bus (n + 1)
      (beats ++ [sampled (read (ofBytes low (bus n) + zeroPage index)) c.p])
      ⟨k + 2, c.after (pc + 1) (zeroPage (low + index)) (carry low index)⟩ := by
  rw [indexed_eq, ← setByte_one_low (getByte_zero_zeroPage _)]
  exact h.run true _ hget (mcCmosRIndexedProbeNoLatch_same hc) (if_pos (decide_eq_true hc))
    (if_pos (decide_eq_true hc))

theorem cmosRIndexedProbe_cross (hc : carry low index ≠ 0)
    (hget : entries[k]? = some (.handler .mcCmosRIndexedProbeNoLatchPrefetchNoPageCross)) :
    entries.Reaches cpu bus (n + 1) (beats ++ [quiet (read pc)])
      ⟨k + 1, c.after (pc + 1) (ofBytes low (bus n) + zeroPage index) (carry low index)⟩ := by
  rw [indexed_eq, ← setByte_one_low (getByte_zero_zeroPage _)]
  exact h.run false _ hget (mcCmosRIndexedProbeNoLatch_cross hc)
    (if_neg (noPageCross_of_carry hc)) (if_neg (noPageCross_of_carry hc))

/-! The probe of the shifts and rotates latches the address and never samples. -/

theorem shortProbe_same (hc : carry low index = 0)
    (hget : entries[k]? = some (.handler .mcCmosRIndexedProbe)) :
    entries.Reaches cpu bus (n + 1)
      (beats ++ [quiet (read (ofBytes low (bus n) + zeroPage index))])
      ⟨k + 2, c.after (pc + 1) (ofBytes low (bus n) + zeroPage index) (carry low index)⟩ := by
  rw [indexed_eq, ← setByte_one_low (getByte_zero_zeroPage _)]
  exact h.run false _ hget (mcCmosRIndexedProbe_same hc) rfl (if_pos (decide_eq_true hc))

theorem shortProbe_cross (hc : carry low index ≠ 0)
    (hget : entries[k]? = some (.handler .mcCmosRIndexedProbe)) :
    entries.Reaches cpu bus (n + 1) (beats ++ [quiet (read pc)])
      ⟨k + 1, c.after (pc + 1) (ofBytes low (bus n) + zeroPage index) (carry low index)⟩ := by
  rw [indexed_eq, ← setByte_one_low (getByte_zero_zeroPage _)]
  exact h.run false _ hget (mcCmosRIndexedProbe_cross hc) rfl (if_neg (noPageCross_of_carry hc))

/-! The probe of the sums latches the address, and samples while D is clear. -/

theorem decimalProbe_same (hc : carry low index = 0)
    (hget : entries[k]? = some (.handler .mcCmosRIndexedProbePrefetchNoPageCrossDecimalClear)) :
    entries.Reaches cpu bus (n + 1)
      (beats ++ [sampledIf (decimalClear c) (read (ofBytes low (bus n) + zeroPage index)) c.p])
      ⟨k + 2, c.after (pc + 1) (ofBytes low (bus n) + zeroPage index) (carry low index)⟩ := by
  have hsame : noPageCross (c.after pc (zeroPage (low + index)) (carry low index)) = true :=
    decide_eq_true hc
  have hcond : (noPageCross (c.after pc (zeroPage (low + index)) (carry low index)) &&
      decimalClear c) = decimalClear c := by rw [hsame, Bool.true_and]
  rw [indexed_eq, ← setByte_one_low (getByte_zero_zeroPage _), ← hcond]
  exact h.runIf (fun c => mcCmosRIndexedProbe c (bus n))
    { c.after (pc + 1) (u16SetByte (zeroPage (low + index)) 1 (bus n + carry low index))
        (carry low index) with microcode := c.microcode + 1 }
    hget rfl (fun _ => mcCmosRIndexedProbe_same hc) rfl (if_pos hsame)

theorem decimalProbe_cross (hc : carry low index ≠ 0)
    (hget : entries[k]? = some (.handler .mcCmosRIndexedProbePrefetchNoPageCrossDecimalClear)) :
    entries.Reaches cpu bus (n + 1) (beats ++ [quiet (read pc)])
      ⟨k + 1, c.after (pc + 1) (ofBytes low (bus n) + zeroPage index) (carry low index)⟩ := by
  have hno : noPageCross (c.after pc (zeroPage (low + index)) (carry low index)) = false :=
    decide_eq_false hc
  have hquiet : quiet (read pc) = sampledIf (noPageCross
      (c.after pc (zeroPage (low + index)) (carry low index)) && decimalClear c) (read pc) c.p := by
    rw [hno, Bool.false_and]
    rfl
  rw [indexed_eq, ← setByte_one_low (getByte_zero_zeroPage _), hquiet]
  exact h.runIf (fun c => mcCmosRIndexedProbe c (bus n))
    (c.after (pc + 1) (u16SetByte (zeroPage (low + index)) 1 (bus n + carry low index))
      (carry low index))
    hget rfl (fun _ => mcCmosRIndexedProbe_cross hc) rfl (if_neg (noPageCross_of_carry hc))

end indexedRules

/-! ### The last ticks -/

/-- The rule of a load, which fetches. -/
theorem load (h : entries.Reaches cpu bus n beats ⟨k, c⟩) (op : Load)
    (hget : entries[k]? = some (.handler op.handler)) :
    entries.Yields cpu bus (beats ++ [quiet (fetchAt c.pc)]) (op.effect c.registers (bus n)) := by
  obtain ⟨htick, hsignal, hregisters, _⟩ := op.run c (bus n)
  have hbeat : op.handler.beat c (bus n) = quiet (fetchAt c.pc) := by
    rw [Handler.beat, htick, hsignal]
    rfl
  rw [← hregisters]
  exact (h.next hget hbeat rfl rfl).yields

/-- The rule of the fetch that ends an instruction. -/
theorem fetch (h : entries.Reaches cpu bus n beats ⟨k, c⟩)
    (hget : entries[k]? = some (.handler .mcFetch)) :
    entries.Yields cpu bus (beats ++ [quiet (fetchAt c.pc)]) c.registers :=
  h.load ⟨.mcFetch, rfl⟩ hget

theorem fetchIllegalExtDispatch (h : entries.Reaches cpu bus n beats ⟨k, c⟩)
    (hget : entries[k]? = some (.handler .mcFetchIllegalExtDispatch)) :
    entries.Yields cpu bus (beats ++ [quiet (fetchAt c.pc)]) c.registers :=
  h.load ⟨.mcFetchIllegalExtDispatch, rfl⟩ hget

theorem fetchWith (h : entries.Reaches cpu bus n beats ⟨k, c⟩)
    (hget : entries[k]? = some (.handler .mcFetch)) {r : Registers} (hr : c.registers = r)
    (hpc : r.pc = pc) : entries.Yields cpu bus (beats ++ [quiet (fetchAt pc)]) r := by
  subst hpc
  subst hr
  exact h.fetch hget

section operation

variable (h : entries.Reaches cpu bus n beats ⟨k, c.after pc addr data⟩)

include h

theorem modify (op : Modify) (hget : entries[k]? = some (.handler op.handler)) :
    ∃ c', entries.Reaches cpu bus (n + 1)
        (beats ++ [sampled (write addr (op.value (c.after pc addr data))) c.p]) ⟨k + 1, c'⟩ ∧
      c'.pc = pc ∧ c'.registers = op.effect { c.registers with pc := pc } data := by
  obtain ⟨hsignal, htick, hregisters, hpc⟩ := op.run (c.after pc addr data) (bus n)
  have hbeat : op.handler.beat (c.after pc addr data) (bus n) =
      sampled (write addr (op.value (c.after pc addr data))) c.p := by
    rw [Handler.beat, htick, hsignal]
    rfl
  exact ⟨_, h.next hget hbeat rfl (op.skips _ _), hpc, hregisters⟩

/-- A modification and the fetch after it. -/
theorem modifyFetch (op : Modify) (hget : entries[k]? = some (.handler op.handler))
    (hlast : entries[k + 1]? = some (.handler .mcFetch) ∨
      entries[k + 1]? = some (.handler .mcFetchIllegalExtDispatch)) :
    entries.Yields cpu bus
      (beats ++ [sampled (write addr (op.value (c.after pc addr data))) c.p] ++
        [quiet (fetchAt pc)])
      (op.effect { c.registers with pc := pc } data) := by
  obtain ⟨c', h', rfl, hregisters⟩ := h.modify op hget
  rw [← hregisters]
  rcases hlast with hlast | hlast
  · exact h'.fetch hlast
  · exact h'.fetchIllegalExtDispatch hlast

theorem impliedFetch (op : Implied) (hget : entries[k]? = some (.handler op.handler))
    (hlast : entries[k + 1]? = some (.handler .mcFetch)) :
    entries.Yields cpu bus (beats ++ [sampled (read pc) c.p] ++ [quiet (fetchAt pc)])
      (op.effect { c.registers with pc := pc }) := by
  obtain ⟨htick, hsignal, hregisters, _⟩ := op.run (c.after pc addr data) (bus n)
  have hbeat : op.handler.beat (c.after pc addr data) (bus n) = sampled (read pc) c.p := by
    rw [Handler.beat, htick, hsignal]
    rfl
  exact (h.next hget hbeat rfl (op.skips _ _)).fetchWith hlast hregisters (op.effect_pc _)

theorem pushFetch (op : Push) (hget : entries[k]? = some (.handler op.handler))
    (hlast : entries[k + 1]? = some (.handler .mcFetch)) :
    entries.Yields cpu bus
      (beats ++ [sampled (write (stackAddress c.s) (op.value { c.registers with pc := pc })) c.p] ++
        [quiet (fetchAt pc)])
      { c.registers with pc := pc, s := c.s - 1 } := by
  obtain ⟨htick, hsignal, hregisters⟩ := op.run (c.after pc addr data) (bus n)
  have hbeat : op.handler.beat (c.after pc addr data) (bus n) =
      sampled (write (stackAddress c.s) (op.value { c.registers with pc := pc })) c.p := by
    rw [Handler.beat, htick, hsignal]
    rfl
  exact (h.next hget hbeat rfl (op.skips _ _)).fetchWith hlast hregisters rfl

theorem unstableFetch (op : Unstable) {low high index : Byte}
    (haddr : addr = uncarried (ofBytes low high) (zeroPage index)) (hdata : data = carry low index)
    (hget : entries[k]? = some (.handler op.handler))
    (hlast : entries[k + 1]? = some (.handler .mcFetch)) :
    entries.Yields cpu bus
      (beats ++ [sampled (write
        (unstableAddress low high index (op.value { c.registers with pc := pc } high))
        (op.value { c.registers with pc := pc } high)) c.p] ++ [quiet (fetchAt pc)])
      (op.effect { c.registers with pc := pc }) := by
  rw [uncarried_eq] at haddr
  subst haddr
  subst hdata
  obtain ⟨hsignal, hskip, _, hregisters, htick⟩ :=
    op.run (c.after pc (ofBytes (low + index) high) (carry low index)) (bus n)
  have hhigh : u16GetByte (c.after pc (ofBytes (low + index) high) (carry low index)).latchAddr 1 =
      high := getByte_one_ofBytes (low + index) high
  rw [hhigh] at htick
  have hbeat : op.handler.beat (c.after pc (ofBytes (low + index) high) (carry low index)) (bus n) =
      sampled (write (unstableAddress low high index (op.value { c.registers with pc := pc } high))
        (op.value { c.registers with pc := pc } high)) c.p := by
    rw [Handler.beat, htick, hsignal]
    exact congrArg (fun a => sampled (write a (op.value { c.registers with pc := pc } high)) c.p)
      (setByte_one_low (getByte_zero_ofBytes (low + index) high) _)
  exact (h.next hget hbeat rfl hskip).fetchWith hlast hregisters (op.effect_pc _)

/-! A sum without decimal mode is a load; in decimal mode it takes one tick more. -/

theorem sumClear (op : Sum) (hd : decimalClear c = true)
    (hget : entries[k]? = some (.handler op.handler)) :
    entries.Yields cpu bus (beats ++ [quiet (fetchAt pc)])
      (op.load.effect { c.registers with pc := pc } (bus n)) := by
  have hd : decimalClear (c.after pc addr data) = true := hd
  obtain ⟨htick, hsignal, hregisters⟩ := op.run_clear hd (bus n)
  have hbeat : op.handler.beat (c.after pc addr data) (bus n) = quiet (fetchAt pc) := by
    rw [Handler.beat, htick, hsignal]
    rfl
  exact (h.next hget hbeat rfl rfl).yields_of hregisters

theorem sumSet (op : Sum) (hd : decimalClear c = false)
    (hget : entries[k]? = some (.handler op.handler))
    (hlast : entries[k + 1]? = some (.handler op.decimal)) :
    ∃ dummy, entries.Yields cpu bus
      (beats ++ [sampled (read dummy) c.p] ++ [quiet (fetchAt pc)])
      (op.effect { c.registers with pc := pc } (bus n)) := by
  have hd : decimalClear (c.after pc addr data) = false := hd
  obtain ⟨hsignal, dummy, hrun⟩ := op.run_set hd (bus n)
  have hskip : op.handler.skips (c.after pc addr data) (bus n) = 0 := by
    rw [op.skips]
    exact if_neg (ne_true_of_eq_false hd)
  have h' : entries.Reaches cpu bus (n + 1) (beats ++ [sampled (read dummy) c.p])
      ⟨k + 1, c.after pc addr (bus n)⟩ := h.run true _ hget hrun hsignal hskip
  obtain ⟨htick, hquiet, hregisters⟩ := op.run_decimal (c.after pc addr (bus n)) (bus (n + 1))
  have hbeat : op.decimal.beat (c.after pc addr (bus n)) (bus (n + 1)) = quiet (fetchAt pc) := by
    rw [Handler.beat, htick, hquiet]
    rfl
  exact ⟨dummy, (h'.next hlast hbeat rfl rfl).yields_of hregisters⟩

end operation

end Reaches

end Slot

end Qe6502
