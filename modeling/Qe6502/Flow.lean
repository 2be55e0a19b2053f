import Qe6502.Access

/-!
# Control flow

The rules of the handlers that move the stack pointer and the program counter, and what the
instructions that access no operand do: `jump_yields`, `call_yields`, `brk_yields`,
`rti_yields`, `branch_yields` and their siblings.
-/

namespace Qe6502

/-- The context after a push. -/
def Cpu.pushed (c : Cpu) : Cpu := { c with s := c.s - 1 }

/-- The context after the stack pointer has moved to the next byte to pull. -/
def Cpu.pulled (c : Cpu) : Cpu := { c with s := c.s + 1 }

/-- The context with other flags. -/
def Cpu.flagged (c : Cpu) (p : Byte) : Cpu := { c with p := p }

/-- The flags that RTI makes of a pulled byte. -/
def pulledFlags (data : Byte) : Byte := (data ||| flagUN) &&& ~~~flagB

/-- The flags after an entry; the CMOS models clear D. -/
def entryFlags (cmos : Bool) (p : Byte) : Byte :=
  if cmos then (p ||| flagI) &&& ~~~flagD else p ||| flagI

namespace Handler

/-- The cycles that push the status, with B as they push it. -/
def statusFlag : Handler → Option Byte
  | mcStackPushStatusB | mcCmosStackPushStatusB => some flagB
  | mcNmiC3PushP | mcIrqC3PushP | mcCmosNmiC3PushP | mcCmosIrqC3PushP => some 0
  | _ => none

/-- The cycles that read the low byte of a vector. -/
def vectorLow : Handler → Option Word
  | mcReadFffe | mcIrqC4VecLo => some 0xFFFE
  | mcNmiC4VecLo => some 0xFFFA
  | _ => none

/-- The cycles that set the flags of an entry and read the high byte of a vector. -/
def vectorHigh : Handler → Option (Bool × Word)
  | mcBrkC5VecHi | mcNmosIrqC5VecHi => some (false, 0xFFFF)
  | mcCmosBrkC5VecHi | mcCmosIrqC5VecHi => some (true, 0xFFFF)
  | mcNmosNmiC5VecHi => some (false, 0xFFFB)
  | mcCmosNmiC5VecHi => some (true, 0xFFFB)
  | _ => none

/-- The fetches that end in a vector or in a pulled address. -/
def latchesPch : Handler → Bool
  | mcLatchPchNmiFetch | mcLatchPchIrqFetch | mcLatchPchBrkFetch | mcLatchPchRtiFetch => true
  | _ => false

end Handler

theorem carry_one (low : Byte) :
    (low + 1 = 0 ∧ carry low 1 = 1) ∨ (low + 1 ≠ 0 ∧ carry low 1 = 0) := by
  revert low
  decide

/-! ### Rules -/

namespace Slot

variable {entries : Slot} {cpu c : Cpu} {bus : ℕ → Byte} {n k : ℕ} {beats : List Beat}
  {pc addr : Word} {data low : Byte}

namespace Reaches

/-- The rule of a handler that does not sample, whatever it leaves in `interrupts`. -/
theorem runQuiet (h : entries.Reaches cpu bus n beats ⟨k, c⟩) {c' : Cpu} {i : Byte}
    {hd : Handler} {tick : Tick} (hget : entries[k]? = some (.handler hd))
    (hrun : hd.run c (bus n) = ({ c' with interrupts := i }, tick))
    (hsignal : hd.signal c ≠ .sample) (hskip : hd.skips c (bus n) = 0) :
    entries.Reaches cpu bus (n + 1) (beats ++ [quiet tick])
      ⟨k + 1, c'.forget.seat c.model c.microcode⟩ := by
  have hbeat : hd.beat c (bus n) = quiet tick := by
    rw [Handler.beat, hrun, if_neg hsignal]
    rfl
  refine h.next hget hbeat ?_ hskip
  rw [hrun]
  rfl

section rules

variable (h : entries.Reaches cpu bus n beats ⟨k, c.after pc addr data⟩)

include h

theorem readPcPrefetch (hget : entries[k]? = some (.handler .mcReadPcPrefetch)) :
    entries.Reaches cpu bus (n + 1) (beats ++ [sampled (read pc) c.p])
      ⟨k + 1, c.after pc addr data⟩ :=
  h.next hget rfl rfl rfl

/-! #### The stack -/

theorem readStackCurrentS (hget : entries[k]? = some (.handler .mcReadStackCurrentS)) :
    entries.Reaches cpu bus (n + 1) (beats ++ [quiet (read (stackAddress c.s))])
      ⟨k + 1, c.after pc addr data⟩ :=
  h.next hget rfl rfl rfl

theorem stackPullRead (hget : entries[k]? = some (.handler .mcStackPullRead)) :
    entries.Reaches cpu bus (n + 1) (beats ++ [quiet (read (stackAddress c.pulled.s))])
      ⟨k + 1, c.pulled.after pc addr data⟩ :=
  h.next hget rfl rfl rfl

theorem stackPullReadPrefetch (hget : entries[k]? = some (.handler .mcStackPullReadPrefetch)) :
    entries.Reaches cpu bus (n + 1) (beats ++ [sampled (read (stackAddress c.pulled.s)) c.p])
      ⟨k + 1, c.pulled.after pc addr data⟩ :=
  h.next hget rfl rfl rfl

theorem rtiC3PullPcl (hget : entries[k]? = some (.handler .mcRtiC3PullPcl)) :
    entries.Reaches cpu bus (n + 1) (beats ++ [quiet (read (stackAddress c.pulled.s))])
      ⟨k + 1, (c.flagged (pulledFlags (bus n))).pulled.after pc addr data⟩ :=
  h.next hget rfl rfl rfl

theorem latchPclStackRead (hget : entries[k]? = some (.handler .mcLatchPclStackRead)) :
    entries.Reaches cpu bus (n + 1) (beats ++ [quiet (read (stackAddress c.pulled.s))])
      ⟨k + 1, c.pulled.after (u16SetByte pc 0 (bus n)) addr data⟩ :=
  h.next hget rfl rfl rfl

theorem latchPclStackReadPrefetch
    (hget : entries[k]? = some (.handler .mcLatchPclStackReadPrefetch)) :
    entries.Reaches cpu bus (n + 1) (beats ++ [sampled (read (stackAddress c.pulled.s)) c.p])
      ⟨k + 1, c.pulled.after (u16SetByte pc 0 (bus n)) addr data⟩ :=
  h.next hget rfl rfl rfl

theorem pushPcHigh (hget : entries[k]? = some (.handler .mcStackPushPcHigh)) :
    entries.Reaches cpu bus (n + 1)
      (beats ++ [quiet (write (stackAddress c.s) (u16GetByte pc 1))])
      ⟨k + 1, c.pushed.after pc addr data⟩ :=
  h.next hget rfl rfl rfl

theorem pushPcLow (hget : entries[k]? = some (.handler .mcStackPushPcLow)) :
    entries.Reaches cpu bus (n + 1)
      (beats ++ [quiet (write (stackAddress c.s) (u16GetByte pc 0))])
      ⟨k + 1, c.pushed.after pc addr data⟩ :=
  h.next hget rfl rfl rfl

theorem jsrAbsC1Dummy (hget : entries[k]? = some (.handler .mcJsrAbsC1Dummy)) :
    entries.Reaches cpu bus (n + 1) (beats ++ [quiet (read (stackAddress c.s))])
      ⟨k + 1, c.after pc (u16SetByte addr 0 (bus n)) data⟩ :=
  h.next hget rfl rfl rfl

theorem rtsC4IncPcDummyPrefetch (hlow : u16GetByte pc 0 = low)
    (hget : entries[k]? = some (.handler .mcRtsC4IncPcDummyPrefetch)) :
    entries.Reaches cpu bus (n + 1) (beats ++ [sampled (read (ofBytes low (bus n))) c.p])
      ⟨k + 1, c.after (ofBytes low (bus n) + 1) addr data⟩ := by
  rw [← setByte_one_low hlow]
  exact h.next hget rfl rfl rfl

/-! #### Jumps -/

theorem latchAddr0ReadPcIncPrefetch
    (hget : entries[k]? = some (.handler .mcLatchAddr0ReadPcIncPrefetch)) :
    entries.Reaches cpu bus (n + 1) (beats ++ [sampled (read pc) c.p])
      ⟨k + 1, c.after (pc + 1) (u16SetByte addr 0 (bus n)) data⟩ :=
  h.next hget rfl rfl rfl

theorem jmpIndC2TargetLo (hlow : u16GetByte addr 0 = low)
    (hget : entries[k]? = some (.handler .mcJmpIndC2TargetLo)) :
    entries.Reaches cpu bus (n + 1) (beats ++ [quiet (read (ofBytes low (bus n)))])
      ⟨k + 1, c.after pc (ofBytes (low + 1) (bus n)) data⟩ := by
  have hpointer := setByte_one_low hlow (bus n)
  refine h.next hget (congrArg (fun a => quiet (read a)) hpointer) ?_ rfl
  have haddr : u16SetByte (u16SetByte addr 1 (bus n)) 0
      (u16GetByte (u16SetByte addr 1 (bus n)) 0 + 1) = ofBytes (low + 1) (bus n) := by
    rw [hpointer, getByte_zero_ofBytes]
    exact word_ext (by rw [getByte_zero_setByte_zero, getByte_zero_ofBytes])
      (by rw [getByte_one_setByte_zero, getByte_one_ofBytes, getByte_one_ofBytes])
  exact congrArg (fun a => c.after pc a data) haddr

theorem cmosJmpIndXC2Dummy (hlow : u16GetByte addr 0 = low)
    (hget : entries[k]? = some (.handler .mcCmosJmpIndXC2Dummy)) :
    entries.Reaches cpu bus (n + 1) (beats ++ [quiet (read (pc - 2))])
      ⟨k + 1, c.after pc (ofBytes low (bus n)) data⟩ :=
  h.next hget rfl (congrArg (fun a => c.after pc a data) (setByte_one_low hlow (bus n))) rfl

theorem cmosJmpIndXC3TargetLo (hget : entries[k]? = some (.handler .mcCmosJmpIndXC3TargetLo)) :
    entries.Reaches cpu bus (n + 1) (beats ++ [quiet (read (addr + zeroPage c.x))])
      ⟨k + 1, c.after pc (addr + zeroPage c.x + 1) data⟩ :=
  h.next hget rfl rfl rfl

/-! #### Entries -/

theorem pushStatus {hd : Handler} {brk : Byte} (hstatus : hd.statusFlag = some brk)
    (hget : entries[k]? = some (.handler hd)) :
    entries.Reaches cpu bus (n + 1)
      (beats ++ [quiet (write (stackAddress c.s) (stackStatus c.p brk))])
      ⟨k + 1, c.pushed.after pc addr data⟩ := by
  have hpushed : Signal.pushed (c.after pc addr data).interrupts (c.after pc addr data).p =
    interruptSamplingOff := pushed_zero c.p
  have hs : c.s - 1 + 1 = c.s := BitVec.sub_add_cancel c.s 1
  have hrun : ∃ i, hd.run (c.after pc addr data) (bus n) =
      ({ c.pushed.after pc addr data with interrupts := i },
        write (stackAddress c.s) (stackStatus c.p brk)) := by
    cases hd <;> cases hstatus
    case mcStackPushStatusB =>
      rw [Handler.run, mcStackPushStatusB_split, hpushed]
      exact ⟨_, congrArg (fun s => (_, write (stackAddress s) (stackStatus c.p flagB))) hs⟩
    case mcIrqC3PushP =>
      rw [Handler.run, mcIrqC3PushP_split, hpushed]
      exact ⟨_, congrArg (fun s => (_, write (stackAddress s) (stackStatus c.p 0))) hs⟩
    case mcCmosNmiC3PushP =>
      rw [Handler.run, mcCmosNmiC3PushP, updateNmiLastSampled_eq]
      exact ⟨_, rfl⟩
    all_goals exact ⟨_, rfl⟩
  obtain ⟨i, hrun⟩ := hrun
  have hplain : hd.signal (c.after pc addr data) ≠ .sample ∧
      hd.skips (c.after pc addr data) (bus n) = 0 := by
    cases hd <;> cases hstatus <;> exact ⟨Signal.noConfusion, rfl⟩
  exact h.runQuiet hget hrun hplain.1 hplain.2

theorem vectorLow {hd : Handler} {vector : Word} (hvector : hd.vectorLow = some vector)
    (hget : entries[k]? = some (.handler hd)) :
    entries.Reaches cpu bus (n + 1) (beats ++ [quiet (read vector)])
      ⟨k + 1, c.after pc addr data⟩ := by
  cases hd <;> cases hvector <;> exact h.next hget rfl rfl rfl

theorem vectorHigh {hd : Handler} {cmos : Bool} {vector : Word}
    (hvector : hd.vectorHigh = some (cmos, vector)) (hget : entries[k]? = some (.handler hd)) :
    entries.Reaches cpu bus (n + 1) (beats ++ [quiet (read vector)])
      ⟨k + 1, (c.flagged (entryFlags cmos c.p)).after (u16SetByte pc 0 (bus n)) addr data⟩ := by
  have hrun : ∃ i, hd.run (c.after pc addr data) (bus n) =
      ({ (c.flagged (entryFlags cmos c.p)).after (u16SetByte pc 0 (bus n)) addr data with
        interrupts := i }, read vector) := by
    cases hd <;> cases hvector
    case mcNmosNmiC5VecHi =>
      rw [Handler.run, mcNmosNmiC5VecHi, updateNmiLastSampled_eq]
      exact ⟨_, rfl⟩
    case mcCmosNmiC5VecHi =>
      rw [Handler.run, mcCmosNmiC5VecHi, cmosInterruptVectorLow, updateNmiLastSampled_eq]
      exact ⟨_, rfl⟩
    case mcCmosIrqC5VecHi =>
      rw [Handler.run, mcCmosIrqC5VecHi, cmosInterruptVectorLow, updateNmiLastSampled_eq]
      exact ⟨_, rfl⟩
    all_goals exact ⟨_, rfl⟩
  obtain ⟨i, hrun⟩ := hrun
  have hplain : hd.signal (c.after pc addr data) ≠ .sample ∧
      hd.skips (c.after pc addr data) (bus n) = 0 := by
    cases hd <;> cases hvector <;> exact ⟨Signal.noConfusion, rfl⟩
  exact h.runQuiet hget hrun hplain.1 hplain.2

end rules

/-! #### Fetches -/

theorem latchPch {hd : Handler} {r : Registers}
    (h : entries.Reaches cpu bus n beats ⟨k, c.after pc addr data⟩) (hlatch : hd.latchesPch = true)
    (hlow : u16GetByte pc 0 = low) (hget : entries[k]? = some (.handler hd))
    (hr : { c.registers with pc := ofBytes low (bus n) } = r) :
    entries.Yields cpu bus (beats ++ [quiet (fetchAt (ofBytes low (bus n)))]) r := by
  have hpc := setByte_one_low hlow (bus n)
  rw [← hr, ← hpc]
  have hfetch := fetch_eq_fetchAt (c.after (u16SetByte pc 1 (bus n)) addr data)
  cases hd <;> cases hlatch <;>
    exact (h.next hget (congrArg quiet hfetch) rfl rfl).yields_of rfl

theorem latchAddr1SetPcFetch {r : Registers}
    (h : entries.Reaches cpu bus n beats ⟨k, c.after pc addr data⟩)
    (hlow : u16GetByte addr 0 = low)
    (hget : entries[k]? = some (.handler .mcLatchAddr1SetPcFetch))
    (hr : { c.registers with pc := ofBytes low (bus n) } = r) :
    entries.Yields cpu bus (beats ++ [quiet (fetchAt (ofBytes low (bus n)))]) r := by
  have hpc := setByte_one_low hlow (bus n)
  rw [← hr, ← hpc]
  have hfetch := fetch_eq_fetchAt
    (c.after (u16SetByte addr 1 (bus n)) (u16SetByte addr 1 (bus n)) data)
  exact (h.next hget (congrArg quiet hfetch) rfl rfl).yields_of rfl

theorem jmpIndC4Fetch {r : Registers}
    (h : entries.Reaches cpu bus n beats ⟨k, c.after pc addr data⟩)
    (hget : entries[k]? = some (.handler .mcJmpIndC4Fetch))
    (hr : { c.registers with pc := ofBytes data (bus n) } = r) :
    entries.Yields cpu bus (beats ++ [quiet (fetchAt (ofBytes data (bus n)))]) r := by
  have hpc := setByte_one_setWidth data (bus n)
  rw [← hr, ← hpc]
  have hfetch := fetch_eq_fetchAt (c.after (u16SetByte (data.setWidth 16) 1 (bus n)) addr data)
  exact (h.next hget (congrArg quiet hfetch) rfl rfl).yields_of rfl

/-- The pointer that has moved on inside its page gets its carry, so that the next address is
read. -/
theorem cmosJmpIndC4Retry {high : Byte}
    (h : entries.Reaches cpu bus n beats ⟨k, c.after pc (ofBytes (low + 1) high) data⟩)
    (hget : entries[k]? = some (.handler .mcCmosJmpIndC4TargetHiRetryPrefetch)) :
    entries.Reaches cpu bus (n + 1) (beats ++ [sampled (read (ofBytes low high + 1)) c.p])
      ⟨k + 1, c.after pc (ofBytes low high + 1) data⟩ := by
  have hnext : ofBytes (low + 1) (high + carry low 1) = ofBytes low high + 1 :=
    ofBytes_add_index low high 1
  have hlow := getByte_zero_ofBytes (low + 1) high
  have hhigh := getByte_one_ofBytes (low + 1) high
  rcases carry_one low with ⟨hzero, hone⟩ | ⟨hzero, hone⟩
  · have haddr : u16SetByte (ofBytes (low + 1) high) 1 (u16GetByte (ofBytes (low + 1) high) 1 + 1) =
        ofBytes low high + 1 := by
      rw [hhigh, setByte_one_low hlow, ← hnext, hone]
    rw [← haddr]
    exact h.run true _ hget (congrArg (fun cpu : Cpu => (cpu, read cpu.latchAddr))
      (if_pos (hlow.trans hzero))) rfl rfl
  · have haddr : ofBytes (low + 1) high = ofBytes low high + 1 := by
      rw [← hnext, hone]
      exact congrArg (ofBytes (low + 1)) (BitVec.add_zero high).symm
    have hne : ¬u16GetByte (ofBytes (low + 1) high) 0 = 0 := fun hz => hzero (hlow.symm.trans hz)
    rw [← haddr]
    exact h.run true _ hget (congrArg (fun cpu : Cpu => (cpu, read cpu.latchAddr)) (if_neg hne))
      rfl rfl

end Reaches

end Slot

/-! ### Instructions without an operand, and no-operations -/

open Slot

section yields

variable (cpu : Cpu) (bus : ℕ → Byte)

theorem implied_yields (op : Implied) :
    (imp op.handler).Yields cpu bus (Course.beats ⟨[], read cpu.pc, cpu.p, cpu.pc⟩)
      (op.effect cpu.registers) :=
  Reaches.start.impliedFetch op rfl rfl

theorem push_yields (op : Push) :
    (stackPush op.handler).Yields cpu bus
      (Course.beats ⟨[read cpu.pc], write (stackAddress cpu.s) (op.value cpu.registers), cpu.p,
        cpu.pc⟩)
      { cpu.registers with s := cpu.s - 1 } :=
  (Reaches.start.readPc rfl).pushFetch op rfl rfl

theorem pull_yields (op : Load) :
    (stackPull op.handler).Yields cpu bus
      (Course.beats ⟨[read cpu.pc, read (stackAddress cpu.s)], read (stackAddress (cpu.s + 1)),
        cpu.p, cpu.pc⟩)
      (op.effect { cpu.registers with s := cpu.s + 1 } (bus 3)) :=
  (((Reaches.start.readPc rfl).readStackCurrentS rfl).stackPullReadPrefetch rfl).load op rfl

/-- The one-cycle no-operation fetches at once and samples nothing. -/
theorem nopFetch_yields : nop1b1c.Yields cpu bus [quiet (fetchAt cpu.pc)] cpu.registers :=
  Reaches.start.fetch rfl

theorem nopAbs_yields :
    nop3b4c.Yields cpu bus
      (Course.beats ⟨[read cpu.pc, read (cpu.pc + 1)], read (cpu.pc + 1), cpu.p,
        Mode.abs.next cpu.pc⟩)
      { cpu.registers with pc := Mode.abs.next cpu.pc } :=
  (((Reaches.start.readPcInc rfl).readPc rfl).readPcIncPrefetch rfl).fetch rfl

theorem stNopAbs_yields :
    stNopAbsRead.Yields cpu bus
      (Course.beats ⟨[read cpu.pc], read (cpu.pc + 1), cpu.p, Mode.abs.next cpu.pc⟩)
      { cpu.registers with pc := Mode.abs.next cpu.pc } :=
  ((Reaches.start.readPcInc rfl).readPcIncPrefetch rfl).fetch rfl

theorem stNopAbsHigh_yields :
    stNopAbsReadHighDummy.Yields cpu bus
      (Course.beats ⟨[read cpu.pc, read (cpu.pc + 1)], read (Mode.abs.next cpu.pc - 1), cpu.p,
        Mode.abs.next cpu.pc⟩)
      { cpu.registers with pc := Mode.abs.next cpu.pc } :=
  (((Reaches.start.readPcInc rfl).readPcInc rfl).readPcMinusOnePrefetch rfl).fetch rfl

/-! ### Jumps -/

theorem jump_yields :
    jmpAbs.Yields cpu bus
      (Course.beats ⟨[read cpu.pc], read (cpu.pc + 1), cpu.p, ofBytes (bus 1) (bus 2)⟩)
      { cpu.registers with pc := ofBytes (bus 1) (bus 2) } :=
  ((Reaches.start.readPcInc rfl).latchAddr0ReadPcIncPrefetch rfl).latchAddr1SetPcFetch
    (getByte_zero_setByte_zero _ _) rfl rfl

/-- The NMOS models read the high byte of the target from the page of the pointer. -/
theorem jumpInd_yields :
    jmpInd.Yields cpu bus
      (Course.beats ⟨[read cpu.pc, read (cpu.pc + 1), read (ofBytes (bus 1) (bus 2))],
        read (ofBytes (bus 1 + 1) (bus 2)), cpu.p, ofBytes (bus 3) (bus 4)⟩)
      { cpu.registers with pc := ofBytes (bus 3) (bus 4) } :=
  ((((Reaches.start.readPcInc rfl).latchAddr0ReadPcInc rfl).jmpIndC2TargetLo
    (getByte_zero_setByte_zero _ _) rfl).latchDataReadLatchAddrPrefetch rfl).jmpIndC4Fetch rfl rfl

/-- The CMOS models do the same and read it again from the next address. -/
theorem jumpIndCmos_yields :
    jmpIndWdc.Yields cpu bus
      (Course.beats ⟨[read cpu.pc, read (cpu.pc + 1), read (ofBytes (bus 1) (bus 2)),
        read (ofBytes (bus 1 + 1) (bus 2))], read (ofBytes (bus 1) (bus 2) + 1), cpu.p,
        ofBytes (bus 3) (bus 5)⟩)
      { cpu.registers with pc := ofBytes (bus 3) (bus 5) } :=
  (((((Reaches.start.readPcInc rfl).latchAddr0ReadPcInc rfl).jmpIndC2TargetLo
    (getByte_zero_setByte_zero _ _) rfl).latchDataReadLatchAddr rfl).cmosJmpIndC4Retry
    rfl).jmpIndC4Fetch rfl rfl

theorem jumpIndX_yields :
    jmpIndXWdc.Yields cpu bus
      (Course.beats ⟨[read cpu.pc, read (cpu.pc + 1), read (Mode.indX.next cpu.pc - 2),
        read (ofBytes (bus 1) (bus 2) + zeroPage cpu.x)],
        read (ofBytes (bus 1) (bus 2) + zeroPage cpu.x + 1), cpu.p, ofBytes (bus 4) (bus 5)⟩)
      { cpu.registers with pc := ofBytes (bus 4) (bus 5) } :=
  (((((Reaches.start.readPcInc rfl).latchAddr0ReadPcInc rfl).cmosJmpIndXC2Dummy
    (getByte_zero_setByte_zero _ _) rfl).cmosJmpIndXC3TargetLo
    rfl).latchDataReadLatchAddrPrefetch rfl).jmpIndC4Fetch rfl rfl

/-! ### Calls and returns -/

theorem call_yields :
    jsrAbs.Yields cpu bus
      (Course.beats ⟨[read cpu.pc, read (stackAddress cpu.s),
        write (stackAddress cpu.s) (u16GetByte (cpu.pc + 1) 1),
        write (stackAddress (cpu.s - 1)) (u16GetByte (cpu.pc + 1) 0)], read (cpu.pc + 1), cpu.p,
        ofBytes (bus 1) (bus 5)⟩)
      { cpu.registers with pc := ofBytes (bus 1) (bus 5), s := cpu.s - 1 - 1 } :=
  (((((Reaches.start.readPcInc rfl).jsrAbsC1Dummy rfl).pushPcHigh rfl).pushPcLow
    rfl).readPcPrefetch rfl).latchAddr1SetPcFetch (getByte_zero_setByte_zero _ _) rfl rfl

theorem ret_yields :
    rts.Yields cpu bus
      (Course.beats ⟨[read cpu.pc, read (stackAddress cpu.s), read (stackAddress (cpu.s + 1)),
        read (stackAddress (cpu.s + 1 + 1))], read (ofBytes (bus 3) (bus 4)), cpu.p,
        ofBytes (bus 3) (bus 4) + 1⟩)
      { cpu.registers with pc := ofBytes (bus 3) (bus 4) + 1, s := cpu.s + 1 + 1 } :=
  (((((Reaches.start.readPc rfl).readStackCurrentS rfl).stackPullRead rfl).latchPclStackRead
    rfl).rtsC4IncPcDummyPrefetch (getByte_zero_setByte_zero _ _) rfl).fetch rfl

/-- RTI samples interrupts under the flags that it has pulled. -/
theorem rti_yields :
    rti.Yields cpu bus
      (Course.beats ⟨[read cpu.pc, read (stackAddress cpu.s), read (stackAddress (cpu.s + 1)),
        read (stackAddress (cpu.s + 1 + 1))], read (stackAddress (cpu.s + 1 + 1 + 1)),
        pulledFlags (bus 3), ofBytes (bus 4) (bus 5)⟩)
      { cpu.registers with
        pc := ofBytes (bus 4) (bus 5), s := cpu.s + 1 + 1 + 1, p := pulledFlags (bus 3) } :=
  (((((Reaches.start.readPc rfl).readStackCurrentS rfl).stackPullRead rfl).rtiC3PullPcl
    rfl).latchPclStackReadPrefetch rfl).latchPch rfl (getByte_zero_setByte_zero _ _) rfl rfl

/-! ### Entries

BRK, NMI and IRQ push the program counter and the status, and go through a vector.  They sample
nothing. -/

/-- What an entry shows after its first tick. -/
def entryBeats (pc vector : Word) (brk : Byte) : List Beat :=
  [quiet (write (stackAddress cpu.s) (u16GetByte pc 1)),
    quiet (write (stackAddress (cpu.s - 1)) (u16GetByte pc 0)),
    quiet (write (stackAddress (cpu.s - 1 - 1)) (stackStatus cpu.p brk)),
    quiet (read vector), quiet (read (vector + 1)),
    quiet (fetchAt (ofBytes (bus 5) (bus 6)))]

theorem Slot.Reaches.entry {entries : Slot} {c : Cpu} {bus : ℕ → Byte} {pc addr : Word}
    {data brk : Byte} {first : List Beat} {cmos : Bool} {vector : Word}
    {push low high last : Handler} (h : entries.Reaches cpu bus 1 first ⟨1, c.after pc addr data⟩)
    (hhigh : entries[1]? = some (.handler .mcStackPushPcHigh))
    (hlow : entries[2]? = some (.handler .mcStackPushPcLow))
    (hpush : entries[3]? = some (.handler push)) (hbrk : push.statusFlag = some brk)
    (hvlow : entries[4]? = some (.handler low)) (hvector : low.vectorLow = some vector)
    (hvhigh : entries[5]? = some (.handler high))
    (hvector' : high.vectorHigh = some (cmos, vector + 1))
    (hlast : entries[6]? = some (.handler last)) (hlatch : last.latchesPch = true) :
    entries.Yields cpu bus (first ++ entryBeats c bus pc vector brk)
      { c.registers with
        pc := ofBytes (bus 5) (bus 6), s := c.s - 1 - 1 - 1, p := entryFlags cmos c.p } := by
  have hyields := (((((h.pushPcHigh hhigh).pushPcLow hlow).pushStatus hbrk hpush).vectorLow
    hvector hvlow).vectorHigh hvector' hvhigh).latchPch hlatch (getByte_zero_setByte_zero _ _)
    hlast rfl
  simp only [List.append_assoc] at hyields
  exact hyields

theorem brk_yields :
    brk.Yields cpu bus (quiet (read cpu.pc) :: entryBeats cpu bus (cpu.pc + 1) 0xFFFE flagB)
      { cpu.registers with
        pc := ofBytes (bus 5) (bus 6), s := cpu.s - 1 - 1 - 1, p := entryFlags false cpu.p } :=
  (Reaches.start.readPcInc rfl).entry cpu rfl rfl rfl rfl rfl rfl rfl rfl rfl rfl

theorem brkCmos_yields :
    brkCmos.Yields cpu bus (quiet (read cpu.pc) :: entryBeats cpu bus (cpu.pc + 1) 0xFFFE flagB)
      { cpu.registers with
        pc := ofBytes (bus 5) (bus 6), s := cpu.s - 1 - 1 - 1, p := entryFlags true cpu.p } :=
  (Reaches.start.readPcInc rfl).entry cpu rfl rfl rfl rfl rfl rfl rfl rfl rfl rfl

end yields

/-! ### Branches -/

/-- What a branch does. -/
inductive Turn
  | straight | near | far
deriving DecidableEq

namespace Turn

/-- A branch that is taken goes `near` inside the page of the next instruction at `pc`. -/
def of (taken : Bool) (pc : Word) (offset : Byte) : Turn :=
  if taken then
    if u16GetByte pc 1 = u16GetByte (branchTarget pc offset) 1 then near else far
  else straight

/-- What a branch shows from the tick on that reads its offset at `pc`, when the tick that adds
the carry reads `dummy`. -/
def beats (pc dummy : Word) (offset p : Byte) : Turn → List Beat
  | straight => [sampled (read pc) p, quiet (fetchAt (pc + 1))]
  | near => [sampled (read pc) p, quiet (read (pc + 1)),
      quiet (fetchAt (branchTarget (pc + 1) offset))]
  | far => [sampled (read pc) p, quiet (read (pc + 1)), sampled (read dummy) p,
      quiet (fetchAt (branchTarget (pc + 1) offset))]

/-- Where a branch with its offset at `pc` leads. -/
def next (pc : Word) (offset : Byte) : Turn → Word
  | straight => pc + 1
  | near | far => branchTarget (pc + 1) offset

end Turn

/-- The condition of a branch on the flags. -/
def Branch.taken (op : Branch) (p : Byte) : Bool :=
  op.handler.taken (Registers.cpu ⟨0, 0, 0, 0, 0, p⟩ 0) 0

theorem Branch.skips (op : Branch) (cpu : Cpu) (bus : Byte) :
    op.handler.skips cpu bus = if op.taken cpu.p then 0 else 2 := by
  obtain ⟨h, hh⟩ := op
  cases h <;> cases hh <;> rfl

theorem branchC0Offset_run (cpu : Cpu) (taken : Bool) : ∃ interrupts index,
    branchC0Offset cpu taken = ({ cpu with
      pc := cpu.pc + 1, interrupts := interrupts, microcode := index }, read cpu.pc) := by
  cases taken <;> exact ⟨_, _, rfl⟩

theorem Branch.run (op : Branch) (cpu : Cpu) (bus : Byte) :
    op.handler.signal cpu = .sample ∧ ∃ interrupts index, op.handler.run cpu bus =
      ({ cpu with pc := cpu.pc + 1, interrupts := interrupts, microcode := index },
        read cpu.pc) := by
  obtain ⟨h, hh⟩ := op
  cases h <;> cases hh
  case opCmosBraBranchC0OffsetPrefetch => exact ⟨rfl, _, _, rfl⟩
  all_goals exact ⟨rfl, branchC0Offset_run cpu _⟩

/-- The handlers that apply an offset. -/
def Handler.appliesOffset : Handler → Bool
  | mcBranchRelC1Apply | mcWdcBbrBbsC4Apply => true
  | _ => false

section apply

variable {h : Handler} (happlies : h.appliesOffset = true) {cpu : Cpu} {bus : Byte}

include happlies

theorem appliesOffset_same
    (hsame : u16GetByte cpu.pc 1 = u16GetByte (branchTarget cpu.pc bus) 1) :
    h.signal cpu = .none ∧ h.skips cpu bus = 1 ∧ ∃ index, h.run cpu bus =
      ({ cpu with pc := branchTarget cpu.pc bus, microcode := index }, read cpu.pc) := by
  have hskip : (if samePage cpu bus then 1 else 0) = 1 := if_pos (decide_eq_true hsame)
  have hpc : u16SetByte cpu.pc 0 (u16GetByte (branchTarget cpu.pc bus) 0) =
      branchTarget cpu.pc bus :=
    word_ext (getByte_zero_setByte_zero _ _) ((getByte_one_setByte_zero _ _).trans hsame)
  cases h <;> cases happlies
  case mcBranchRelC1Apply =>
    refine ⟨rfl, hskip, cpu.microcode + 1, ?_⟩
    rw [Handler.run, mcBranchRelC1Apply, hpc]
    exact if_pos hsame
  case mcWdcBbrBbsC4Apply => exact ⟨rfl, hskip, _, if_pos hsame⟩

theorem appliesOffset_cross
    (hcross : ¬u16GetByte cpu.pc 1 = u16GetByte (branchTarget cpu.pc bus) 1) :
    h.signal cpu = .none ∧ h.skips cpu bus = 0 ∧ ∃ dummy, h.run cpu bus =
      ({ cpu with pc := dummy, latchAddr := branchTarget cpu.pc bus }, read cpu.pc) := by
  have hskip : (if samePage cpu bus then 1 else 0) = 0 := if_neg (by
    rw [samePage, decide_eq_true_eq]
    exact hcross)
  cases h <;> cases happlies <;> exact ⟨rfl, hskip, _, if_neg hcross⟩

end apply

namespace Slot.Reaches

variable {entries : Slot} {cpu c : Cpu} {bus : ℕ → Byte} {n k : ℕ} {beats : List Beat}
  {pc addr : Word} {data : Byte}

theorem branchOffset (h : entries.Reaches cpu bus n beats ⟨k, c.after pc addr data⟩) (op : Branch)
    (hget : entries[k]? = some (.handler op.handler)) :
    entries.Reaches cpu bus (n + 1) (beats ++ [sampled (read pc) c.p])
      ⟨k + 1 + if op.taken c.p then 0 else 2, c.after (pc + 1) addr data⟩ := by
  obtain ⟨hsignal, interrupts, index, hrun⟩ := op.run (c.after pc addr data) (bus n)
  have hbeat : op.handler.beat (c.after pc addr data) (bus n) = sampled (read pc) c.p := by
    rw [Handler.beat, hrun, hsignal]
    rfl
  exact h.next hget hbeat (by rw [hrun]; rfl) (op.skips _ _)

theorem bitOffset (h : entries.Reaches cpu bus n beats ⟨k, c.after pc addr data⟩) {taken : Bool}
    (htaken : bbrBbsTaken (bus n) (c.after pc addr data) = taken)
    (hget : entries[k]? = some (.handler .mcWdcBbrBbsC3OffsetOrSkipPrefetch)) :
    entries.Reaches cpu bus (n + 1) (beats ++ [sampled (read pc) c.p])
      ⟨k + 1 + if taken then 0 else 2, c.after (pc + 1) addr data⟩ := by
  obtain ⟨interrupts, index, hrun⟩ := branchC0Offset_run (c.after pc addr data) taken
  have hhandler : Handler.mcWdcBbrBbsC3OffsetOrSkipPrefetch.run (c.after pc addr data) (bus n) =
      branchC0Offset (c.after pc addr data) taken := by
    rw [← htaken]
    rfl
  rw [hrun] at hhandler
  have hbeat : Handler.mcWdcBbrBbsC3OffsetOrSkipPrefetch.beat (c.after pc addr data) (bus n) =
      sampled (read pc) c.p := by
    rw [Handler.beat, hhandler]
    rfl
  refine h.next hget hbeat (by rw [hhandler]; rfl) ?_
  rw [← htaken]
  rfl

/-- The handlers after the offset apply it, and take the tick that adds the carry only if a page
is crossed. -/
theorem turn {taken : Bool} {apply : Handler}
    (h : entries.Reaches cpu bus n (beats ++ [sampled (read pc) c.p])
      ⟨k + if taken then 0 else 2, c.after (pc + 1) addr data⟩)
    (happlies : apply.appliesOffset = true) (happly : entries[k]? = some (.handler apply))
    (hfix : entries[k + 1]? = some (.handler .mcBranchPgfixPrefetch))
    (hfetch : entries[k + 2]? = some (.handler .mcFetch)) :
    ∃ dummy, entries.Yields cpu bus
      (beats ++ (Turn.of taken (pc + 1) (bus n)).beats pc dummy (bus n) c.p)
      { c.registers with pc := (Turn.of taken (pc + 1) (bus n)).next pc (bus n) } := by
  cases taken with
  | false =>
    have hyields := h.fetch hfetch
    rw [List.append_assoc] at hyields
    exact ⟨0, hyields⟩
  | true =>
    by_cases hsame : u16GetByte (pc + 1) 1 = u16GetByte (branchTarget (pc + 1) (bus n)) 1
    · have hpage : u16GetByte (c.after (pc + 1) addr data).pc 1 =
          u16GetByte (branchTarget (c.after (pc + 1) addr data).pc (bus n)) 1 := hsame
      obtain ⟨hsignal, hskip, index, hrun⟩ := appliesOffset_same happlies hpage
      have hnear := h.run false _ happly hrun hsignal hskip
      have hyields := hnear.fetch hfetch
      rw [List.append_assoc, List.append_assoc] at hyields
      have hturn : Turn.of true (pc + 1) (bus n) = .near := if_pos hsame
      rw [hturn]
      exact ⟨0, hyields⟩
    · have hpage : ¬u16GetByte (c.after (pc + 1) addr data).pc 1 =
          u16GetByte (branchTarget (c.after (pc + 1) addr data).pc (bus n)) 1 := hsame
      obtain ⟨hsignal, hskip, dummy, hrun⟩ := appliesOffset_cross happlies hpage
      have hfar := h.run false _ happly hrun hsignal hskip
      have hfixed : entries.Reaches cpu bus (n + 1 + 1)
          (beats ++ [sampled (read pc) c.p] ++ [quiet (read (pc + 1))] ++
            [sampled (read dummy) c.p])
          ⟨k + 1 + 1,
            c.after (branchTarget (pc + 1) (bus n)) (branchTarget (pc + 1) (bus n)) data⟩ :=
        hfar.next hfix rfl rfl rfl
      have hyields := hfixed.fetch hfetch
      rw [List.append_assoc, List.append_assoc, List.append_assoc] at hyields
      have hturn : Turn.of true (pc + 1) (bus n) = .far := if_neg hsame
      rw [hturn]
      exact ⟨dummy, hyields⟩

end Slot.Reaches

section branch

variable (cpu : Cpu) (bus : ℕ → Byte)

/-- **A branch** turns on the flags and on the offset. -/
theorem branch_yields (op : Branch) : ∃ dummy, (branchRel op.handler).Yields cpu bus
    ((Turn.of (op.taken cpu.p) (cpu.pc + 1) (bus 1)).beats cpu.pc dummy (bus 1) cpu.p)
    { cpu.registers with
      pc := (Turn.of (op.taken cpu.p) (cpu.pc + 1) (bus 1)).next cpu.pc (bus 1) } :=
  (Reaches.start.branchOffset op rfl).turn rfl rfl rfl rfl

/-- **A branch on a bit** turns on a byte of the zero page and on the offset. -/
theorem branchBit_yields {taken : Bool} (htaken : bbrBbsTaken (bus 3) cpu = taken) :
    ∃ dummy, bbrBbsZpRel.Yields cpu bus
      ([quiet (read cpu.pc), quiet (read (zeroPage (bus 1))), quiet (read (zeroPage (bus 1)))] ++
        (Turn.of taken (cpu.pc + 1 + 1) (bus 4)).beats (cpu.pc + 1) dummy (bus 4) cpu.p)
      { cpu.registers with
        pc := (Turn.of taken (cpu.pc + 1 + 1) (bus 4)).next (cpu.pc + 1) (bus 4) } :=
  ((((Reaches.start.readPcInc rfl).latchZpAddrReadLatchAddr rfl).readLatchAddr rfl).bitOffset
    htaken rfl).turn rfl rfl rfl rfl

end branch

end Qe6502
