import Qe6502.Rules

/-!
# Memory accesses of an instruction

The addressing modes as the 6502 defines them, on the bytes that the bus returns, and the
chains of the control store against them: `read_yields`, `sum_yields_clear`, `write_yields` and
`modify_yields`.
-/

namespace Qe6502

/-- The course of an instruction that samples interrupts once, in the tick before the fetch of
the next opcode. -/
structure Course where
  requests : List Tick
  last : Tick
  flags : Byte
  next : Word

def Course.beats (c : Course) : List Beat :=
  c.requests.map quiet ++ [sampled c.last c.flags] ++ [quiet (fetchAt c.next)]

/-! ### Addressing modes

The byte `bus n` is on the bus in the tick `n` after the opcode fetch, so it answers the
request of the tick before; the registers are those after the opcode was read. -/

namespace Mode

/-- The address after the operand. -/
def next (mode : Mode) (pc : Word) : Word := (· + 1)^[mode.operands] pc

theorem next_eq (mode : Mode) (pc : Word) : mode.next pc = pc + BitVec.ofNat 16 mode.operands := by
  rw [next]
  generalize mode.operands = n
  induction n generalizing pc with
  | zero => exact (BitVec.add_zero pc).symm
  | succ n ih =>
    rw [Function.iterate_succ_apply, ih, BitVec.add_assoc, Nat.add_comm n 1, BitVec.ofNat_add]
    rfl

/-- The modes with an index of a 16-bit address. -/
def indexed : Mode → Bool
  | .abx | .aby | .izy => true
  | _ => false

section addresses

variable (r : Registers) (bus : ℕ → Byte)

/-- The requests that fetch the operand and the pointer it names. -/
def pointers : Mode → List Word
  | .zp => [r.pc]
  | .zpx | .zpy => [r.pc, zeroPage (bus 1)]
  | .abs | .abx | .aby => [r.pc, r.pc + 1]
  | .izx => [r.pc, zeroPage (bus 1), zeroPage (bus 1 + r.x), zeroPage (bus 1 + r.x + 1)]
  | .izy | .izp => [r.pc, zeroPage (bus 1), zeroPage (bus 1 + 1)]
  | _ => []

/-- The address before a 16-bit index. -/
def base : Mode → Word
  | .zp => zeroPage (bus 1)
  | .zpx => zeroPage (bus 1 + r.x)
  | .zpy => zeroPage (bus 1 + r.y)
  | .abs | .abx | .aby => ofBytes (bus 1) (bus 2)
  | .izx => ofBytes (bus 3) (bus 4)
  | .izy | .izp => ofBytes (bus 2) (bus 3)
  | _ => r.pc

/-- The index of a 16-bit address. -/
def index : Mode → Byte
  | .abx => r.x
  | .aby | .izy => r.y
  | _ => 0

/-- **The effective address.** -/
def address (mode : Mode) : Word :=
  if mode.indexed then mode.base r bus + zeroPage (mode.index r) else mode.base r bus

/-- The index crosses a page. -/
def crosses (mode : Mode) : Bool :=
  mode.indexed && u16GetByte (mode.address r bus) 1 ≠ u16GetByte (mode.base r bus) 1

/-- The address of the last operand byte. -/
def lastOperand : Mode → Word
  | .abx | .aby => r.pc + 1
  | _ => r.pc

/-- The request of the tick that adds the carry: the CMOS models read the operand again, the
NMOS models read the address without the carry. -/
def fixup (cmos : Bool) (mode : Mode) : Word :=
  if cmos then mode.lastOperand r else uncarried (mode.base r bus) (zeroPage (mode.index r))

/-- The requests before the data access. -/
def path (cmos fixes : Bool) (mode : Mode) : List Word :=
  mode.pointers r bus ++ if fixes then [mode.fixup r bus cmos] else []

end addresses

end Mode

section crosses

variable {mode : Mode} {r : Registers} {bus : ℕ → Byte} {low high : Byte}

theorem crosses_indexed (hindexed : mode.indexed = true)
    (hbase : mode.base r bus = ofBytes low high) :
    mode.crosses r bus = decide (carry low (mode.index r) ≠ 0) := by
  rw [Mode.crosses, Mode.address, hindexed, if_pos rfl, hbase, Bool.true_and]
  exact decide_eq_decide.mpr (not_congr (carry_eq_zero low high (mode.index r)).symm)

theorem crosses_of_same (hindexed : mode.indexed = true)
    (hbase : mode.base r bus = ofBytes low high) (hc : carry low (mode.index r) = 0) :
    mode.crosses r bus = false :=
  (crosses_indexed hindexed hbase).trans (decide_eq_false (not_not.mpr hc))

theorem crosses_of_carry (hindexed : mode.indexed = true)
    (hbase : mode.base r bus = ofBytes low high) (hc : carry low (mode.index r) ≠ 0) :
    mode.crosses r bus = true :=
  (crosses_indexed hindexed hbase).trans (decide_eq_true hc)

end crosses

/-! ### Chains of reads -/

open Slot

/-- The course of a read of a mode. -/
def readCourse (cmos fixes : Bool) (mode : Mode) (cpu : Cpu) (bus : ℕ → Byte) : Course where
  requests := (mode.path cpu.registers bus cmos fixes).map read
  last := read (mode.address cpu.registers bus)
  flags := cpu.p
  next := mode.next cpu.pc

/-- What a chain of reads does, up to the handlers of the operation; the last read samples
interrupts on a condition. -/
def Slot.Prepares (entries : Slot) (cond : Bool) (c : Course) (rest : Slot) (cpu : Cpu)
    (bus : ℕ → Byte) : Prop :=
  ∃ n k addr data, entries.Reaches cpu bus n
      (c.requests.map quiet ++ [sampledIf cond c.last c.flags]) ⟨k, cpu.after c.next addr data⟩ ∧
    entries.drop k = rest

variable {cmos : Bool} {mode : Mode} {entries : Slot} {h hd : Handler} {cpu : Cpu}
  {bus : ℕ → Byte}

section course

variable (cmos : Bool) (mode : Mode) (cpu : Cpu) (bus : ℕ → Byte)

theorem readCourse_same : (readCourse cmos false mode cpu bus).requests.map quiet =
    (mode.pointers cpu.registers bus).map fun a => quiet (read a) := by
  simp [readCourse, Mode.path]

theorem readCourse_cross : (readCourse cmos true mode cpu bus).requests.map quiet =
    ((mode.pointers cpu.registers bus).map fun a => quiet (read a)) ++
      [quiet (read (mode.fixup cpu.registers bus cmos))] := by
  simp [readCourse, Mode.path]

end course

/-! After its pointer requests an indexed mode comes to a probe, and takes the tick after the
probe only if a page is crossed. -/

section probe

variable {k : ℕ} {low : Byte} {pc : Word} {rest : Slot}
  (hindexed : mode.indexed = true)
  (hbase : mode.base cpu.registers bus =
    ofBytes low (bus (mode.pointers cpu.registers bus).length))

include hindexed hbase

theorem address_indexed : mode.address cpu.registers bus =
    ofBytes low (bus (mode.pointers cpu.registers bus).length) +
      zeroPage (mode.index cpu.registers) := by
  rw [Mode.address, hindexed, if_pos rfl, hbase]

variable (hreach : entries.Reaches cpu bus (mode.pointers cpu.registers bus).length
  ((mode.pointers cpu.registers bus).map fun a => quiet (read a))
  ⟨k, cpu.after pc (zeroPage (low + mode.index cpu.registers))
    (carry low (mode.index cpu.registers))⟩)

include hreach

theorem prepares_of_probe (hpc : pc = mode.next cpu.pc)
    (hprobe : entries[k]? = some (.handler .mcRIndexedProbeNoLatchPrefetchNoPageCross))
    (hread : entries[k + 1]? = some (.handler .mcReadLatchAddrPrefetch))
    (hrest : entries.drop (k + 2) = rest) :
    entries.Prepares true (readCourse false (mode.crosses cpu.registers bus) mode cpu bus)
      rest cpu bus := by
  have haddress := address_indexed hindexed hbase
  subst hpc
  by_cases hc : carry low (mode.index cpu.registers) = 0
  · have hlast := hreach.rIndexedProbe_same hc hprobe
    rw [← haddress, ← readCourse_same false] at hlast
    rw [crosses_of_same hindexed hbase hc]
    exact ⟨_, _, _, _, hlast, hrest⟩
  · have hfix : _ = _ ++ [quiet (read (uncarried _ _))] := readCourse_cross false mode cpu bus
    have hlast := (hreach.rIndexedProbe_cross hc hprobe).readLatchAddrPrefetch hread
    rw [← haddress, ← hbase, ← hfix] at hlast
    rw [crosses_of_carry hindexed hbase hc]
    exact ⟨_, _, _, _, hlast, hrest⟩

theorem prepares_of_cmosProbe (hpc : pc + 1 = mode.next cpu.pc)
    (hoperand : mode.lastOperand cpu.registers = pc)
    (hprobe : entries[k]? = some (.handler .mcCmosRIndexedProbeNoLatchPrefetchNoPageCross))
    (hread : entries[k + 1]? = some (.handler .mcReadLatchAddrPrefetch))
    (hrest : entries.drop (k + 2) = rest) :
    entries.Prepares true (readCourse true (mode.crosses cpu.registers bus) mode cpu bus)
      rest cpu bus := by
  have haddress := address_indexed hindexed hbase
  by_cases hc : carry low (mode.index cpu.registers) = 0
  · have hlast := hreach.cmosRIndexedProbe_same hc hprobe
    rw [← haddress, ← readCourse_same true, hpc] at hlast
    rw [crosses_of_same hindexed hbase hc]
    exact ⟨_, _, _, _, hlast, hrest⟩
  · have hfix : _ = _ ++ [quiet (read (mode.lastOperand _))] := readCourse_cross true mode cpu bus
    have hlast := (hreach.cmosRIndexedProbe_cross hc hprobe).readLatchAddrPrefetch hread
    rw [← haddress, hpc, ← hoperand, ← hfix] at hlast
    rw [crosses_of_carry hindexed hbase hc]
    exact ⟨_, _, _, _, hlast, hrest⟩

theorem prepares_of_decimalProbe (hpc : pc + 1 = mode.next cpu.pc)
    (hoperand : mode.lastOperand cpu.registers = pc)
    (hprobe : entries[k]? = some (.handler .mcCmosRIndexedProbePrefetchNoPageCrossDecimalClear))
    (hread : entries[k + 1]? = some (.handler .mcReadLatchAddrPrefetchDecimalClear))
    (hrest : entries.drop (k + 2) = rest) :
    entries.Prepares (decimalClear cpu)
      (readCourse true (mode.crosses cpu.registers bus) mode cpu bus) rest cpu bus := by
  have haddress := address_indexed hindexed hbase
  by_cases hc : carry low (mode.index cpu.registers) = 0
  · have hlast := hreach.decimalProbe_same hc hprobe
    rw [← haddress, ← readCourse_same true, hpc] at hlast
    rw [crosses_of_same hindexed hbase hc]
    exact ⟨_, _, _, _, hlast, hrest⟩
  · have hfix : _ = _ ++ [quiet (read (mode.lastOperand _))] := readCourse_cross true mode cpu bus
    have hlast := (hreach.decimalProbe_cross hc hprobe).readLatchAddrPrefetchDecimalClear hread
    rw [← haddress, hpc, ← hoperand, ← hfix] at hlast
    rw [crosses_of_carry hindexed hbase hc]
    exact ⟨_, _, _, _, hlast, hrest⟩

end probe

/-- **The chains of reads.** -/
theorem read_prepares (hslot : readSlot cmos h mode = some entries) :
    entries.Prepares true (readCourse cmos (mode.crosses cpu.registers bus) mode cpu bus)
      (thenDispatch [h]) cpu bus := by
  cases mode with
  | imm =>
    cases hslot
    exact ⟨_, _, _, _, Reaches.start.readPcIncPrefetch rfl, rfl⟩
  | zp =>
    cases hslot
    exact ⟨_, _, _, _, (Reaches.start.readPcInc rfl).rZpC1DataPrefetch rfl, rfl⟩
  | zpx =>
    cases hslot
    exact ⟨_, _, _, _, ((Reaches.start.clearLatchAddrReadPcInc rfl).zpxC1Idx
      rfl).readLatchAddrPrefetch rfl, rfl⟩
  | zpy =>
    cases hslot
    exact ⟨_, _, _, _, ((Reaches.start.clearLatchAddrReadPcInc rfl).rZpyC1Idx
      rfl).readLatchAddrPrefetch rfl, rfl⟩
  | abs =>
    cases hslot
    exact ⟨_, _, _, _, ((Reaches.start.readPcInc rfl).latchAddr0ReadPcInc
      rfl).readAddrWithBusHiPrefetch (getByte_zero_setByte_zero _ _) rfl, rfl⟩
  | izx =>
    cases hslot
    exact ⟨_, _, _, _, ((((Reaches.start.clearLatchAddrReadPcInc rfl).rIzxC1Idx
      rfl).izxReadPtrloIncPtr rfl).latchDataReadLatchAddr rfl).rIzxC4DataNoLatchPrefetch rfl, rfl⟩
  | izp =>
    cases hslot
    exact ⟨_, _, _, _, (((Reaches.start.readPcInc rfl).latchZpAddrReadLatchAddr rfl).izpC2Ptrhi
      rfl).readAddrWithBusHiPrefetch (getByte_zero_zeroPage _) rfl, rfl⟩
  | abx =>
    cases cmos with
    | false =>
      cases hslot
      have hstart : (rAbx h).Reaches cpu bus 0 [] _ := Reaches.start
      have hreach := (hstart.readPcInc rfl).latchAbxBaseReadPcInc rfl
      exact prepares_of_probe rfl rfl hreach rfl rfl rfl rfl
    | true =>
      cases hslot
      have hstart : (rAbxCmos h).Reaches cpu bus 0 [] _ := Reaches.start
      have hreach := (hstart.readPcInc rfl).cmosLatchAbxBaseReadPc rfl
      exact prepares_of_cmosProbe rfl rfl hreach rfl rfl rfl rfl rfl
  | aby =>
    cases cmos with
    | false =>
      cases hslot
      have hstart : (rAby h).Reaches cpu bus 0 [] _ := Reaches.start
      have hreach := (hstart.readPcInc rfl).latchAbyBaseReadPcInc rfl
      exact prepares_of_probe rfl rfl hreach rfl rfl rfl rfl
    | true =>
      cases hslot
      have hstart : (rAbyCmos h).Reaches cpu bus 0 [] _ := Reaches.start
      have hreach := (hstart.readPcInc rfl).cmosLatchAbyBaseReadPc rfl
      exact prepares_of_cmosProbe rfl rfl hreach rfl rfl rfl rfl rfl
  | izy =>
    cases cmos with
    | false =>
      cases hslot
      have hstart : (rIzy h).Reaches cpu bus 0 [] _ := Reaches.start
      have hreach := ((hstart.clearLatchAddrReadPcInc rfl).latchAddr0ReadLatchAddr
        rfl).rIzyC2Ptrhi rfl
      exact prepares_of_probe rfl rfl hreach rfl rfl rfl rfl
    | true =>
      cases hslot
      have hstart : (rIzyCmos h).Reaches cpu bus 0 [] _ := Reaches.start
      have hreach := ((hstart.clearLatchAddrReadPc rfl).latchAddr0ReadLatchAddr
        rfl).rIzyC2Ptrhi rfl
      exact prepares_of_cmosProbe rfl rfl hreach rfl rfl rfl rfl rfl
  | imp | acc | rel | zpRel | ind | indX => cases hslot

/-- **The chains of sums.** -/
theorem sum_prepares (hslot : readDecimalSlot h hd mode = some entries) :
    entries.Prepares (decimalClear cpu)
      (readCourse true (mode.crosses cpu.registers bus) mode cpu bus) (thenDispatch [h, hd])
      cpu bus := by
  cases mode with
  | imm =>
    cases hslot
    exact ⟨_, _, _, _, Reaches.start.readPcIncPrefetchDecimalClear rfl, rfl⟩
  | zp =>
    cases hslot
    exact ⟨_, _, _, _, (Reaches.start.readPcInc
      rfl).latchZpAddrReadLatchAddrPrefetchDecimalClear rfl, rfl⟩
  | zpx =>
    cases hslot
    exact ⟨_, _, _, _, ((Reaches.start.clearLatchAddrReadPcInc rfl).zpxC1Idx
      rfl).readLatchAddrPrefetchDecimalClear rfl, rfl⟩
  | abs =>
    cases hslot
    exact ⟨_, _, _, _, ((Reaches.start.readPcInc rfl).latchAddr0ReadPcInc
      rfl).latchAddr1ReadLatchAddrPrefetchDecimalClear (getByte_zero_setByte_zero _ _) rfl, rfl⟩
  | izx =>
    cases hslot
    exact ⟨_, _, _, _, ((((Reaches.start.clearLatchAddrReadPcInc rfl).rIzxC1Idx
      rfl).izxReadPtrloIncPtr rfl).latchDataReadLatchAddr rfl).rIzxC4DataPrefetchDecimalClear
      rfl, rfl⟩
  | izp =>
    cases hslot
    exact ⟨_, _, _, _, (((Reaches.start.readPcInc rfl).latchZpAddrReadLatchAddr rfl).izpC2Ptrhi
      rfl).latchAddr1ReadLatchAddrPrefetchDecimalClear (getByte_zero_zeroPage _) rfl, rfl⟩
  | abx =>
    cases hslot
    have hstart : (rAbxCmosDecimal h hd).Reaches cpu bus 0 [] _ := Reaches.start
    have hreach := (hstart.readPcInc rfl).cmosLatchAbxBaseReadPc rfl
    exact prepares_of_decimalProbe rfl rfl hreach rfl rfl rfl rfl rfl
  | aby =>
    cases hslot
    have hstart : (rAbyCmosDecimal h hd).Reaches cpu bus 0 [] _ := Reaches.start
    have hreach := (hstart.readPcInc rfl).cmosLatchAbyBaseReadPc rfl
    exact prepares_of_decimalProbe rfl rfl hreach rfl rfl rfl rfl rfl
  | izy =>
    cases hslot
    have hstart : (rIzyCmosDecimal h hd).Reaches cpu bus 0 [] _ := Reaches.start
    have hreach := ((hstart.clearLatchAddrReadPc rfl).latchAddr0ReadLatchAddr rfl).rIzyC2Ptrhi rfl
    exact prepares_of_decimalProbe rfl rfl hreach rfl rfl rfl rfl rfl
  | imp | acc | zpy | rel | zpRel | ind | indX => cases hslot

/-! ### Reads and sums -/

/-- The tick in which the operand of a read is on the bus. -/
def readTick (cmos fixes : Bool) (mode : Mode) (cpu : Cpu) (bus : ℕ → Byte) : ℕ :=
  (mode.path cpu.registers bus cmos fixes).length + 1

theorem Slot.Prepares.reaches {cond fixes : Bool} {rest : Slot}
    (hp : entries.Prepares cond (readCourse cmos fixes mode cpu bus) rest cpu bus) :
    ∃ k addr data, entries.Reaches cpu bus (readTick cmos fixes mode cpu bus)
        ((readCourse cmos fixes mode cpu bus).requests.map quiet ++
          [sampledIf cond (read (mode.address cpu.registers bus)) cpu.p])
        ⟨k, cpu.after (mode.next cpu.pc) addr data⟩ ∧
      entries[k]? = rest[0]? ∧ entries[k + 1]? = rest[1]? := by
  obtain ⟨n, k, addr, data, hreach, rfl⟩ := hp
  have hn : n = readTick cmos fixes mode cpu bus := by
    rw [← hreach.length]
    simp [readCourse, readTick]
  subst hn
  refine ⟨k, addr, data, hreach, ?_, ?_⟩
  · rw [List.getElem?_drop]
    rfl
  · rw [List.getElem?_drop]

/-- The course of a sum, with its extra tick in decimal mode. -/
def decimalCourse (fixes : Bool) (mode : Mode) (dummy : Word) (cpu : Cpu) (bus : ℕ → Byte) :
    Course where
  requests := (mode.path cpu.registers bus true fixes).map read ++
    [read (mode.address cpu.registers bus)]
  last := read dummy
  flags := cpu.p
  next := mode.next cpu.pc

section yields

variable (cpu bus)

/-- **A read** follows its course and has its effect on the registers. -/
theorem read_yields (op : Load) (hslot : readSlot cmos op.handler mode = some entries) :
    entries.Yields cpu bus
      (readCourse cmos (mode.crosses cpu.registers bus) mode cpu bus).beats
      (op.effect { cpu.registers with pc := mode.next cpu.pc }
        (bus (readTick cmos (mode.crosses cpu.registers bus) mode cpu bus))) := by
  obtain ⟨k, addr, data, hreach, hget, _⟩ := (read_prepares hslot).reaches
  exact hreach.load op hget

/-- **A sum without decimal mode** is a read. -/
theorem sum_yields_clear (op : Sum)
    (hslot : readDecimalSlot op.handler op.decimal mode = some entries)
    (hd : decimalClear cpu = true) :
    entries.Yields cpu bus
      (readCourse true (mode.crosses cpu.registers bus) mode cpu bus).beats
      (op.load.effect { cpu.registers with pc := mode.next cpu.pc }
        (bus (readTick true (mode.crosses cpu.registers bus) mode cpu bus))) := by
  obtain ⟨k, addr, data, hreach, hget, _⟩ := (sum_prepares hslot).reaches
  rw [hd] at hreach
  exact hreach.sumClear op hd hget

/-- **A sum in decimal mode** takes a tick more. -/
theorem sum_yields_set (op : Sum)
    (hslot : readDecimalSlot op.handler op.decimal mode = some entries)
    (hd : decimalClear cpu = false) :
    ∃ dummy, entries.Yields cpu bus
      (decimalCourse (mode.crosses cpu.registers bus) mode dummy cpu bus).beats
      (op.effect { cpu.registers with pc := mode.next cpu.pc }
        (bus (readTick true (mode.crosses cpu.registers bus) mode cpu bus))) := by
  obtain ⟨k, addr, data, hreach, hget, hlast⟩ := (sum_prepares hslot).reaches
  rw [hd] at hreach
  obtain ⟨dummy, hyields⟩ := hreach.sumSet op hd hget hlast
  refine ⟨dummy, ?_⟩
  rw [Course.beats, decimalCourse, List.map_append]
  exact hyields

end yields

/-! ### Stores -/

/-- The course of a store; an indexed one always takes the tick that adds the carry. -/
def writeCourse (cmos : Bool) (mode : Mode) (value : Byte) (cpu : Cpu) (bus : ℕ → Byte) :
    Course where
  requests := (mode.path cpu.registers bus cmos mode.indexed).map read
  last := write (mode.address cpu.registers bus) value
  flags := cpu.p
  next := mode.next cpu.pc

/-- **A store** writes its register at the effective address. -/
theorem write_yields (source : Source) (hslot : writeSlot cmos source mode = some entries)
    (cpu : Cpu) (bus : ℕ → Byte) :
    entries.Yields cpu bus (writeCourse cmos mode (source.value cpu) cpu bus).beats
      { cpu.registers with pc := mode.next cpu.pc } := by
  cases mode with
  | zp =>
    cases hslot
    exact ((Reaches.start.readPcInc rfl).storeAtZeroPage rfl).fetch rfl
  | zpx =>
    cases hslot
    exact (((Reaches.start.readPcInc rfl).readZpLatchX rfl).storeAtLatch rfl).fetch rfl
  | zpy =>
    cases hslot
    exact (((Reaches.start.readPcInc rfl).wZpyC1Idx rfl).storeAtLatch rfl).fetch rfl
  | abs =>
    cases hslot
    exact (((Reaches.start.readPcInc rfl).latchAddr0ReadPcInc rfl).storeAtHigh
      (getByte_zero_setByte_zero _ _) rfl).fetch rfl
  | izx =>
    cases hslot
    exact (((((Reaches.start.readPcInc rfl).readZpLatchX rfl).izxReadPtrloIncPtr rfl).wIzxC3Ptrhi
      rfl).storeAtHigh (getByte_zero_zeroPage _) rfl).fetch rfl
  | izp =>
    cases hslot
    exact ((((Reaches.start.readPcInc rfl).latchZpAddrReadLatchAddr rfl).izpC2Ptrhi
      rfl).storeAtHigh (getByte_zero_zeroPage _) rfl).fetch rfl
  | abx =>
    cases cmos with
    | false =>
      cases hslot
      exact ((((Reaches.start.readPcInc rfl).latchAbxBaseReadPcInc rfl).wIndexedProbe
        rfl).storeAtLatch rfl).fetch rfl
    | true =>
      cases hslot
      exact ((((Reaches.start.readPcInc rfl).cmosLatchAbxBaseReadPc rfl).cmosWIndexedProbe
        rfl).storeAtLatch rfl).fetch rfl
  | aby =>
    cases cmos with
    | false =>
      cases hslot
      exact ((((Reaches.start.readPcInc rfl).latchAbyBaseReadPcInc rfl).wIndexedProbe
        rfl).storeAtLatch rfl).fetch rfl
    | true =>
      cases hslot
      exact ((((Reaches.start.readPcInc rfl).cmosLatchAbyBaseReadPc rfl).cmosWIndexedProbe
        rfl).storeAtLatch rfl).fetch rfl
  | izy =>
    cases cmos with
    | false =>
      cases hslot
      exact (((((Reaches.start.readPcInc rfl).latchZpAddrReadLatchAddr rfl).wIzyC2Ptrhi
        rfl).wIndexedProbe rfl).storeAtLatch rfl).fetch rfl
    | true =>
      cases hslot
      exact (((((Reaches.start.readPc rfl).latchZpAddrReadLatchAddr rfl).wIzyC2Ptrhi
        rfl).cmosWIndexedProbe rfl).storeAtLatch rfl).fetch rfl
  | imm | imp | acc | rel | zpRel | ind | indX => cases hslot

/-- The address of an unstable store: if a page is crossed, its high byte is the byte written. -/
def Mode.unstable (mode : Mode) (r : Registers) (bus : ℕ → Byte) (value : Byte) : Word :=
  if mode.crosses r bus then ofBytes (u16GetByte (mode.address r bus) 0) value
  else mode.address r bus

/-- The course of an unstable store. -/
def unstableCourse (mode : Mode) (value : Byte) (cpu : Cpu) (bus : ℕ → Byte) : Course where
  requests := (mode.path cpu.registers bus false true).map read
  last := write (mode.unstable cpu.registers bus value) value
  flags := cpu.p
  next := mode.next cpu.pc

/-- The byte that an unstable store writes. -/
def unstableValue (op : Unstable) (mode : Mode) (r : Registers) (bus : ℕ → Byte) : Byte :=
  op.value r (u16GetByte (mode.base r bus) 1)

theorem unstable_eq {low high : Byte} {r : Registers} (hindexed : mode.indexed = true)
    (hbase : mode.base r bus = ofBytes low high) (value : Byte) :
    mode.unstable r bus value = unstableAddress low high (mode.index r) value := by
  have haddress : mode.address r bus = ofBytes low high + zeroPage (mode.index r) := by
    rw [Mode.address, hindexed, if_pos rfl, hbase]
  rw [Mode.unstable, unstableAddress, haddress]
  by_cases hc : carry low (mode.index r) = 0
  · rw [crosses_of_same hindexed hbase hc, if_pos hc, indexed_of_same hc]
    rfl
  · rw [crosses_of_carry hindexed hbase hc, if_neg hc, indexed_eq, getByte_zero_ofBytes]
    rfl

/-- **An unstable store** writes at an address it makes up. -/
theorem unstable_yields (op : Unstable) (hslot : unstableSlot op.handler mode = some entries)
    (cpu : Cpu) (bus : ℕ → Byte) :
    entries.Yields cpu bus
      (unstableCourse mode (unstableValue op mode { cpu.registers with pc := mode.next cpu.pc } bus)
        cpu bus).beats
      (op.effect { cpu.registers with pc := mode.next cpu.pc }) := by
  cases mode with
  | abx =>
    cases hslot
    rw [unstableCourse, unstable_eq rfl rfl, unstableValue, Mode.base, getByte_one_ofBytes]
    exact (((Reaches.start.readPcInc rfl).latchAbxBaseReadPcInc rfl).unstableProbe
      rfl).unstableFetch op rfl rfl rfl rfl
  | aby =>
    cases hslot
    rw [unstableCourse, unstable_eq rfl rfl, unstableValue, Mode.base, getByte_one_ofBytes]
    exact (((Reaches.start.readPcInc rfl).latchAbyBaseReadPcInc rfl).unstableProbe
      rfl).unstableFetch op rfl rfl rfl rfl
  | izy =>
    cases hslot
    rw [unstableCourse, unstable_eq rfl rfl, unstableValue, Mode.base, getByte_one_ofBytes]
    exact ((((Reaches.start.readPcInc rfl).latchZpAddrReadLatchAddr rfl).wIzyC2Ptrhi
      rfl).unstableProbe rfl).unstableFetch op rfl rfl rfl rfl
  | imm | zp | zpx | zpy | abs | izx | izp | imp | acc | rel | zpRel | ind | indX => cases hslot

/-! ### Reads with a write back -/

/-- The course of a read with a write back.  Between the two the NMOS models write the operand
back and the CMOS models read it again. -/
def modifyCourse (cmos fixes : Bool) (mode : Mode) (value : Byte) (cpu : Cpu) (bus : ℕ → Byte) :
    Course where
  requests := (mode.path cpu.registers bus cmos fixes).map read ++
    [read (mode.address cpu.registers bus),
      if cmos then read (mode.address cpu.registers bus)
      else write (mode.address cpu.registers bus) (bus (readTick cmos fixes mode cpu bus))]
  last := write (mode.address cpu.registers bus) value
  flags := cpu.p
  next := mode.next cpu.pc

/-- The byte that a modification writes back. -/
def modified (op : Modify) (cmos fixes : Bool) (mode : Mode) (cpu : Cpu) (bus : ℕ → Byte) : Byte :=
  op.value (cpu.after (mode.next cpu.pc) (mode.address cpu.registers bus)
    (bus (readTick cmos fixes mode cpu bus)))

/-- **A modification** reads and writes back at the effective address. -/
theorem modify_yields (op : Modify) (hslot : modifySlot cmos op.handler mode = some entries)
    (cpu : Cpu) (bus : ℕ → Byte) :
    entries.Yields cpu bus
      (modifyCourse cmos mode.indexed mode (modified op cmos mode.indexed mode cpu bus) cpu
        bus).beats
      (op.effect { cpu.registers with pc := mode.next cpu.pc }
        (bus (readTick cmos mode.indexed mode cpu bus))) := by
  cases mode with
  | zp =>
    cases cmos with
    | false =>
      cases hslot
      exact (((Reaches.start.clearLatchAddrReadPcInc rfl).latchAddr0ReadLatchAddr
        rfl).latchDataWriteLatchAddr rfl).modifyFetch op rfl (.inl rfl)
    | true =>
      cases hslot
      exact (((Reaches.start.clearLatchAddrReadPcInc rfl).latchAddr0ReadLatchAddr
        rfl).latchDataReadLatchAddr rfl).modifyFetch op rfl (.inl rfl)
  | zpx =>
    cases cmos with
    | false =>
      cases hslot
      exact ((((Reaches.start.clearLatchAddrReadPcInc rfl).zpxC1Idx rfl).readLatchAddr
        rfl).latchDataWriteLatchAddr rfl).modifyFetch op rfl (.inl rfl)
    | true =>
      cases hslot
      exact ((((Reaches.start.clearLatchAddrReadPcInc rfl).zpxC1Idx rfl).readLatchAddr
        rfl).latchDataReadLatchAddr rfl).modifyFetch op rfl (.inl rfl)
  | abs =>
    cases cmos with
    | false =>
      cases hslot
      exact ((((Reaches.start.readPcInc rfl).latchAddr0ReadPcInc rfl).latchAddr1ReadLatchAddr
        (getByte_zero_setByte_zero _ _) rfl).latchDataWriteLatchAddr rfl).modifyFetch op rfl
        (.inl rfl)
    | true =>
      cases hslot
      exact ((((Reaches.start.readPcInc rfl).latchAddr0ReadPcInc rfl).latchAddr1ReadLatchAddr
        (getByte_zero_setByte_zero _ _) rfl).latchDataReadLatchAddr rfl).modifyFetch op rfl
        (.inl rfl)
  | abx =>
    cases cmos with
    | false =>
      cases hslot
      exact (((((Reaches.start.readPcInc rfl).rwAbxC1Hi rfl).wIndexedProbe rfl).readLatchAddr
        rfl).latchDataWriteLatchAddr rfl).modifyFetch op rfl (.inl rfl)
    | true =>
      cases hslot
      exact (((((Reaches.start.readPcInc rfl).cmosLatchAbxBaseReadPc rfl).cmosWIndexedProbe
        rfl).readLatchAddr rfl).latchDataReadLatchAddr rfl).modifyFetch op rfl (.inl rfl)
  | aby =>
    cases cmos with
    | false =>
      cases hslot
      exact (((((Reaches.start.readPcInc rfl).latchAbyBaseReadPcInc rfl).wIndexedProbe
        rfl).readLatchAddr rfl).latchDataWriteLatchAddr rfl).modifyFetch op rfl (.inl rfl)
    | true => cases hslot
  | izx =>
    cases cmos with
    | false =>
      cases hslot
      exact ((((((Reaches.start.clearLatchAddrReadPcInc rfl).rIzxC1Idx rfl).izxReadPtrloIncPtr
        rfl).latchDataReadLatchAddr rfl).rIzxC4Data rfl).latchDataWriteLatchAddr
        rfl).modifyFetch op rfl (.inr rfl)
    | true => cases hslot
  | izy =>
    cases cmos with
    | false =>
      cases hslot
      exact ((((((Reaches.start.clearLatchAddrReadPcInc rfl).latchAddr0ReadLatchAddr
        rfl).wIzyC2Ptrhi rfl).wIndexedProbe rfl).readLatchAddr rfl).latchDataWriteLatchAddr
        rfl).modifyFetch op rfl (.inr rfl)
    | true => cases hslot
  | imm | zpy | izp | imp | acc | rel | zpRel | ind | indX => cases hslot

/-- **A shortened modification** takes the tick that adds the carry only if a page is crossed. -/
theorem modifyShort_yields (op : Modify) (cpu : Cpu) (bus : ℕ → Byte) :
    (rwAbxShort op.handler).Yields cpu bus
      (modifyCourse true (Mode.abx.crosses cpu.registers bus) .abx
        (modified op true (Mode.abx.crosses cpu.registers bus) .abx cpu bus) cpu bus).beats
      (op.effect { cpu.registers with pc := Mode.abx.next cpu.pc }
        (bus (readTick true (Mode.abx.crosses cpu.registers bus) .abx cpu bus))) := by
  have hstart : (rwAbxShort op.handler).Reaches cpu bus 0 [] _ := Reaches.start
  have hreach := (hstart.readPcInc rfl).cmosLatchAbxBaseReadPc rfl
  by_cases hc : carry (bus 1) cpu.x = 0
  · have hsame : Mode.abx.crosses cpu.registers bus = false := crosses_of_same rfl rfl hc
    rw [hsame]
    exact ((hreach.shortProbe_same hc rfl).latchDataReadLatchAddr rfl).modifyFetch op rfl (.inl rfl)
  · have hcross : Mode.abx.crosses cpu.registers bus = true := crosses_of_carry rfl rfl hc
    rw [hcross]
    exact (((hreach.shortProbe_cross hc rfl).readLatchAddr rfl).latchDataReadLatchAddr
      rfl).modifyFetch op rfl (.inl rfl)

end Qe6502
