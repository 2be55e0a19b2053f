import Qe6502.Lib.Fields
import Qe6502.Session

/-!
# Snapshots

The 64-byte snapshot of `qe6502_save` and `qe6502abi_save`: big-endian magic, version, CPU
context and packed tick, the rest zero.  The functions write into a buffer byte by byte, as in
the source.  `snapshot_roundTrip` says that loading restores what was saved, that saving
reproduces a canonical snapshot, and that both APIs write the same bytes.
-/

open Fields

namespace Qe6502

abbrev DWord := BitVec 32

/-! ### Packed ticks -/

def packTick (tick : Tick) : DWord :=
  (tick.address.setWidth 32 <<< 0) ||| (tick.bus.setWidth 32 <<< 16) |||
    (tick.status.setWidth 32 <<< 24)

def unpackTick (tick : DWord) : Tick where
  address := ((tick >>> 0) &&& 0xFFFF).setWidth 16
  bus := ((tick >>> 16) &&& 0xFF).setWidth 8
  status := ((tick >>> 24) &&& 0xFF).setWidth 8

/-! ### Buffers -/

def snapshotSize : Nat := 64

abbrev Snapshot := Vector Byte 64

def abiContextMagic : Word := 0x6502
def abiContextVersion : Word := 1

section buffers

variable {n : Nat}

/-- `clear_buffer(&bytes[first], count)`. -/
def clearBuffer (bytes : Vector Byte n) (first : Nat) : Nat → Vector Byte n
  | 0 => bytes
  | count + 1 => (clearBuffer bytes first count).setIfInBounds (first + count) 0

def abiWriteU16 (dst : Vector Byte n) (first : Nat) (value : Word) : Vector Byte n :=
  let dst := dst.setIfInBounds first (((value >>> 8) &&& 0xFF).setWidth 8)
  dst.setIfInBounds (first + 1) ((value &&& 0xFF).setWidth 8)

def abiReadU16 (src : Vector Byte n) (first : Nat) : Word :=
  (src[first]!.setWidth 16 <<< 8) ||| src[first + 1]!.setWidth 16

def abiWriteU32 (dst : Vector Byte n) (first : Nat) (value : DWord) : Vector Byte n :=
  let dst := dst.setIfInBounds first (((value >>> 24) &&& 0xFF).setWidth 8)
  let dst := dst.setIfInBounds (first + 1) (((value >>> 16) &&& 0xFF).setWidth 8)
  let dst := dst.setIfInBounds (first + 2) (((value >>> 8) &&& 0xFF).setWidth 8)
  dst.setIfInBounds (first + 3) ((value &&& 0xFF).setWidth 8)

def abiReadU32 (src : Vector Byte n) (first : Nat) : DWord :=
  (src[first]!.setWidth 32 <<< 24) ||| (src[first + 1]!.setWidth 32 <<< 16) |||
    (src[first + 2]!.setWidth 32 <<< 8) ||| src[first + 3]!.setWidth 32

def abiWriteCpu (dst : Vector Byte n) (first : Nat) (cpu : Cpu) : Vector Byte n :=
  let dst := dst.setIfInBounds first cpu.model
  let dst := dst.setIfInBounds (first + 1) cpu.reservedExtension
  let dst := abiWriteU16 dst (first + 2) cpu.microcode
  let dst := abiWriteU16 dst (first + 4) cpu.latchAddr
  let dst := dst.setIfInBounds (first + 6) cpu.latchData
  let dst := dst.setIfInBounds (first + 7) cpu.hijackMicrocode
  let dst := abiWriteU16 dst (first + 8) cpu.pc
  let dst := dst.setIfInBounds (first + 10) cpu.s
  let dst := dst.setIfInBounds (first + 11) cpu.a
  let dst := dst.setIfInBounds (first + 12) cpu.x
  let dst := dst.setIfInBounds (first + 13) cpu.y
  let dst := dst.setIfInBounds (first + 14) cpu.p
  dst.setIfInBounds (first + 15) cpu.interrupts

def abiReadCpu (src : Vector Byte n) (first : Nat) : Cpu where
  model := src[first]!
  reservedExtension := src[first + 1]!
  microcode := abiReadU16 src (first + 2)
  latchAddr := abiReadU16 src (first + 4)
  latchData := src[first + 6]!
  hijackMicrocode := src[first + 7]!
  pc := abiReadU16 src (first + 8)
  s := src[first + 10]!
  a := src[first + 11]!
  x := src[first + 12]!
  y := src[first + 13]!
  p := src[first + 14]!
  interrupts := src[first + 15]!

end buffers

/-! ### The ABI context -/

/-- `qe6502abi_impl_t`. -/
structure AbiContext where
  cpu : Cpu
  magic : Word
  version : Word
  reserve : Vector Byte 44

namespace AbiContext

/-- `qe6502abi_setup`: the old bytes of the context are overwritten. -/
def setup (ctx : AbiContext) (model : DWord) : AbiContext where
  cpu := { blankCpu with model := model.setWidth 8 }
  magic := abiContextMagic
  version := abiContextVersion
  reserve := clearBuffer ctx.reserve 0 44

/-- `qe6502abi_save` writes all bytes of `snapshot`. -/
def save (ctx : AbiContext) (tick : DWord) (snapshot : Snapshot) : Snapshot :=
  let snapshot := abiWriteU16 snapshot 0 ctx.magic
  let snapshot := abiWriteU16 snapshot 2 ctx.version
  let snapshot := abiWriteCpu snapshot 4 ctx.cpu
  let snapshot := abiWriteU32 snapshot 20 tick
  clearBuffer snapshot 24 (snapshotSize - 24)

/-- `qe6502abi_load`. -/
def load (ctx : AbiContext) (snapshot : Snapshot) : AbiContext × DWord :=
  ({  magic := abiReadU16 snapshot 0
      version := abiReadU16 snapshot 2
      cpu := abiReadCpu snapshot 4
      reserve := clearBuffer ctx.reserve 0 44 }, abiReadU32 snapshot 20)

end AbiContext

/-- `qe6502_save`: the context of the call is uninitialised memory but for the fields set. -/
def save (scratch : AbiContext) (cpu : Cpu) (tick : Tick) (snapshot : Snapshot) : Snapshot :=
  let ctx : AbiContext :=
    { cpu := cpu
      magic := abiContextMagic
      version := abiContextVersion
      reserve := clearBuffer scratch.reserve 0 44 }
  ctx.save (packTick tick) snapshot

/-- `qe6502_load`. -/
def load (scratch : AbiContext) (snapshot : Snapshot) : Cpu × Tick :=
  let (ctx, tick) := scratch.load snapshot
  (ctx.cpu, unpackTick tick)

/-! ### Calls through the ABI -/

namespace AbiContext

def restart (ctx : AbiContext) : AbiContext × DWord :=
  let (cpu, tick) := Qe6502.restart ctx.cpu
  ({ ctx with cpu := cpu }, packTick tick)

def tick (ctx : AbiContext) (bus : DWord) : Option (AbiContext × DWord) := do
  let (cpu, tick) ← Qe6502.tick ctx.cpu (bus.setWidth 8)
  return ({ ctx with cpu := cpu }, packTick tick)

def goto (ctx : AbiContext) (address : DWord) : Option (AbiContext × DWord) := do
  let (cpu, tick) ← Qe6502.goto ctx.cpu (address.setWidth 16)
  return ({ ctx with cpu := cpu }, packTick tick)

def nmiAssert (ctx : AbiContext) (assertNmi : Byte) : AbiContext :=
  { ctx with cpu := Qe6502.nmiAssert ctx.cpu assertNmi }

def irqAssert (ctx : AbiContext) (assertIrq : Byte) : AbiContext :=
  { ctx with cpu := Qe6502.irqAssert ctx.cpu assertIrq }

end AbiContext

/-- The registers of the `qe6502abi_set_…` functions. -/
inductive AbiRegister
  | pc
  | s
  | a
  | x
  | y
  | p
  | model

def AbiRegister.set (cpu : Cpu) (value : DWord) : AbiRegister → Cpu
  | .pc => { cpu with pc := value.setWidth 16 }
  | .s => { cpu with s := value.setWidth 8 }
  | .a => { cpu with a := value.setWidth 8 }
  | .x => { cpu with x := value.setWidth 8 }
  | .y => { cpu with y := value.setWidth 8 }
  | .p => { cpu with p := value.setWidth 8 }
  | .model => { cpu with model := value.setWidth 8 }

/-- The calls that work on a context after `qe6502abi_setup`. -/
inductive AbiCall
  | restart
  | tick (bus : DWord)
  | goto (address : DWord)
  | nmiAssert (assertNmi : Byte)
  | irqAssert (assertIrq : Byte)
  | set (register : AbiRegister) (value : DWord)

namespace AbiContext

def call (ctx : AbiContext) : AbiCall → Option AbiContext
  | .restart => some ctx.restart.1
  | .tick bus => (ctx.tick bus).map Prod.fst
  | .goto address => (ctx.goto address).map Prod.fst
  | .nmiAssert assertNmi => some (ctx.nmiAssert assertNmi)
  | .irqAssert assertIrq => some (ctx.irqAssert assertIrq)
  | .set register value => some { ctx with cpu := register.set ctx.cpu value }

/-- What `qe6502abi_setup` gives, for any memory and model. -/
def SetUp (ctx : AbiContext) : Prop := ∃ old model, ctx = setup old model

abbrev Reachable : AbiContext → Prop := StepMachine.Reachable SetUp call

/-- All but the CPU is as `qe6502abi_setup` leaves it. -/
structure Canonical (ctx : AbiContext) : Prop where
  magic : ctx.magic = abiContextMagic
  version : ctx.version = abiContextVersion
  reserve : ctx.reserve = Vector.replicate 44 0

theorem call_header {ctx ctx' : AbiContext} {c : AbiCall} (h : ctx.call c = some ctx') :
    ctx'.magic = ctx.magic ∧ ctx'.version = ctx.version ∧ ctx'.reserve = ctx.reserve := by
  cases c with
  | tick bus =>
    simp only [call, tick, Option.map_eq_some_iff, Option.bind_eq_bind,
      Option.bind_eq_some_iff] at h
    obtain ⟨_, ⟨r, _, hr⟩, rfl⟩ := h
    cases hr
    exact ⟨rfl, rfl, rfl⟩
  | goto address =>
    simp only [call, goto, Option.map_eq_some_iff, Option.bind_eq_bind,
      Option.bind_eq_some_iff] at h
    obtain ⟨_, ⟨r, _, hr⟩, rfl⟩ := h
    cases hr
    exact ⟨rfl, rfl, rfl⟩
  | restart | nmiAssert | irqAssert | set =>
    cases h
    exact ⟨rfl, rfl, rfl⟩

end AbiContext

/-! ### Buffer lemmas -/

section buffers

variable {n m : Nat} {w v : Vector Byte n}

theorem get_clear (v : Vector Byte n) (first count : Nat) {j : Nat} (hj : j < n) :
    (clearBuffer v first count)[j]! = if first ≤ j ∧ j < first + count then 0 else v[j]! := by
  induction count with
  | zero => rw [clearBuffer, if_neg (by omega)]
  | succ count ih =>
    rw [clearBuffer, get_set _ _ _ hj, ih]
    by_cases h : first + count = j
    · rw [if_pos h, if_pos (by omega)]
    · rw [if_neg h]
      exact if_congr (by omega) rfl rfl

theorem clearBuffer_all (v : Vector Byte 44) : clearBuffer v 0 44 = Vector.replicate 44 0 := by
  refine Vector.ext fun j hj => ?_
  have h := get_clear v 0 44 hj
  rw [getElem!_pos (clearBuffer v 0 44) j hj, if_pos (by omega)] at h
  rw [h, Vector.getElem_replicate]

theorem get_writeU16 (v : Vector Byte n) (first : Nat) (value : Word) {j : Nat} (hj : j < n) :
    (abiWriteU16 v first value)[j]! =
      if first + 1 = j then value.extractLsb' 0 8
      else if first = j then value.extractLsb' 8 8 else v[j]! := by
  simp only [abiWriteU16, get_set _ _ _ hj]
  rw [byte_eq (by omega), lowByte_eq (by omega)]

theorem get_writeU32 (v : Vector Byte n) (first : Nat) (value : DWord) {j : Nat} (hj : j < n) :
    (abiWriteU32 v first value)[j]! =
      if first + 3 = j then value.extractLsb' 0 8
      else if first + 2 = j then value.extractLsb' 8 8
      else if first + 1 = j then value.extractLsb' 16 8
      else if first = j then value.extractLsb' 24 8 else v[j]! := by
  simp only [abiWriteU32, get_set _ _ _ hj]
  rw [byte_eq (by omega), byte_eq (by omega), byte_eq (by omega), lowByte_eq (by omega)]

theorem abiReadU16_eq (v : Vector Byte n) (first : Nat) :
    abiReadU16 v first = word v[first]! v[first + 1]! := rfl

theorem abiReadU32_eq (v : Vector Byte n) (first : Nat) :
    abiReadU32 v first = dword v[first]! v[first + 1]! v[first + 2]! v[first + 3]! := rfl

theorem copies_writeU16 (h : Copies w v m) :
    Copies w (abiWriteU16 v m (abiReadU16 w m)) (m + 2) := by
  obtain ⟨h₁, h₀⟩ := split_word w[m]! w[m + 1]!
  rw [abiReadU16_eq, abiWriteU16, byte_eq (by omega), lowByte_eq (by omega), h₁, h₀]
  exact h.set.set

theorem copies_writeU32 (h : Copies w v m) :
    Copies w (abiWriteU32 v m (abiReadU32 w m)) (m + 4) := by
  obtain ⟨h₃, h₂, h₁, h₀⟩ := split_dword w[m]! w[m + 1]! w[m + 2]! w[m + 3]!
  rw [abiReadU32_eq, abiWriteU32, byte_eq (by omega), byte_eq (by omega), byte_eq (by omega),
    lowByte_eq (by omega), h₃, h₂, h₁, h₀]
  exact h.set.set.set.set

theorem copies_writeCpu (h : Copies w v m) :
    Copies w (abiWriteCpu v m (abiReadCpu w m)) (m + 16) := by
  have hlatch := copies_writeU16 (copies_writeU16 h.set.set)
  have hpc := copies_writeU16 hlatch.set.set
  exact hpc.set.set.set.set.set.set

theorem copies_clear (h : Copies w v m) (hz : ∀ j < n, m ≤ j → w[j]! = 0) (count : Nat) :
    Copies w (clearBuffer v m count) (m + count) := by
  intro j hj hlt
  rw [get_clear _ _ _ hj]
  by_cases hm : m ≤ j
  · rw [if_pos ⟨hm, hlt⟩, hz j hj hm]
  · rw [if_neg (by omega)]
    exact h j hj (by omega)

end buffers

/-! ### Round trips -/

namespace AbiContext

theorem reachable_canonical {ctx : AbiContext} (h : Reachable ctx) : ctx.Canonical := by
  refine h.invariant Canonical ?_ ?_
  · rintro _ ⟨old, model, rfl⟩
    exact ⟨rfl, rfl, clearBuffer_all _⟩
  · intro ctx c ctx' hc hcall
    obtain ⟨hmagic, hversion, hreserve⟩ := call_header hcall
    exact ⟨hmagic.trans hc.magic, hversion.trans hc.version, hreserve.trans hc.reserve⟩

theorem load_save (ctx ctx' : AbiContext) (tick : DWord) (snapshot : Snapshot) :
    ctx'.load (ctx.save tick snapshot) = ({ ctx with reserve := Vector.replicate 44 0 }, tick) := by
  simp only [load, save, abiReadCpu, abiReadU16_eq, abiReadU32_eq, abiWriteCpu, snapshotSize,
    get_clear, get_writeU16, get_writeU32, get_set, Nat.reduceLT, Nat.reduceLeDiff, Nat.reduceAdd,
    Nat.reduceEqDiff, false_and, if_true, if_false, join_word, join_dword, clearBuffer_all]

theorem save_load (ctx : AbiContext) (snapshot target : Snapshot)
    (h : ∀ j < 64, 24 ≤ j → snapshot[j]! = 0) :
    (ctx.load snapshot).1.save (ctx.load snapshot).2 target = snapshot := by
  have hcpu := copies_writeCpu (copies_writeU16 (copies_writeU16 (copies_zero snapshot target)))
  exact (copies_clear (copies_writeU32 hcpu) h (snapshotSize - 24)).eq

end AbiContext

theorem packTick_bit (tick : Tick) {i : Nat} (hi : i < 32) :
    (packTick tick).getLsbD i =
      (tick.address.getLsbD i || (decide (16 ≤ i) && tick.bus.getLsbD (i - 16)) ||
        (decide (24 ≤ i) && tick.status.getLsbD (i - 24))) := by
  rw [packTick, BitVec.getLsbD_or, BitVec.getLsbD_or, placed_bit _ _ _ _ hi, placed_bit _ _ _ _ hi,
    placed_bit _ _ _ _ hi]
  rfl

theorem unpackTick_eq (tick : DWord) :
    unpackTick tick = ⟨tick.extractLsb' 0 16, tick.extractLsb' 16 8, tick.extractLsb' 24 8⟩ := by
  have haddress : ((tick >>> 0) &&& 0xFFFF).setWidth 16 = tick.extractLsb' 0 16 :=
    field_eq 16 (by omega) tick 0
  rw [unpackTick, haddress, byte_eq (by omega), byte_eq (by omega)]

theorem unpackTick_packTick (tick : Tick) : unpackTick (packTick tick) = tick := by
  obtain ⟨address, bus, status⟩ := tick
  rw [unpackTick_eq, Tick.mk.injEq]
  refine ⟨?_, ?_, ?_⟩ <;> refine BitVec.eq_of_getLsbD_eq fun i hi => ?_ <;>
    rw [BitVec.getLsbD_extractLsb', packTick_bit _ (by omega)] <;> grind

theorem packTick_unpackTick (tick : DWord) : packTick (unpackTick tick) = tick := by
  refine BitVec.eq_of_getLsbD_eq fun i hi => ?_
  rw [packTick_bit _ hi, unpackTick_eq]
  simp only [BitVec.getLsbD_extractLsb']
  grind

theorem load_save (scratch scratch' : AbiContext) (cpu : Cpu) (tick : Tick) (snapshot : Snapshot) :
    load scratch' (save scratch cpu tick snapshot) = (cpu, tick) := by
  rw [load, save, AbiContext.load_save]
  exact congrArg (cpu, ·) (unpackTick_packTick tick)

/-- The canonical header, and zeros after the tick. -/
structure Snapshot.Canonical (snapshot : Snapshot) : Prop where
  magic : abiReadU16 snapshot 0 = abiContextMagic
  version : abiReadU16 snapshot 2 = abiContextVersion
  rest : ∀ j < 64, 24 ≤ j → snapshot[j]! = 0

theorem save_load {snapshot : Snapshot} (h : snapshot.Canonical) (scratch scratch' : AbiContext)
    (target : Snapshot) :
    save scratch' (load scratch snapshot).1 (load scratch snapshot).2 target = snapshot := by
  have hctx : (scratch.load snapshot).1 =
      { cpu := (load scratch snapshot).1
        magic := abiContextMagic
        version := abiContextVersion
        reserve := clearBuffer scratch'.reserve 0 44 } := by
    rw [clearBuffer_all]
    simp only [AbiContext.load, load, h.magic, h.version, clearBuffer_all]
  have htick : packTick (load scratch snapshot).2 = (scratch.load snapshot).2 :=
    packTick_unpackTick _
  rw [save, ← hctx, htick]
  exact AbiContext.save_load scratch snapshot target h.rest

namespace AbiContext

theorem save_rest (ctx : AbiContext) (tick : DWord) (snapshot : Snapshot) :
    ∀ j < 64, 24 ≤ j → (ctx.save tick snapshot)[j]! = 0 := by
  intro j hj hle
  rw [save, get_clear _ _ _ hj]
  exact if_pos ⟨hle, by simp only [snapshotSize]; omega⟩

/-- What is saved depends neither on the reserve nor on the buffer. -/
theorem save_eq {ctx ctx' : AbiContext} (hcpu : ctx.cpu = ctx'.cpu)
    (hmagic : ctx.magic = ctx'.magic)
    (hversion : ctx.version = ctx'.version) (tick : DWord) (snapshot snapshot' : Snapshot) :
    ctx.save tick snapshot = ctx'.save tick snapshot' := by
  have hround := save_load ctx' (ctx'.save tick snapshot') snapshot (save_rest ctx' tick snapshot')
  rw [load_save] at hround
  rw [← hround]
  simp only [save, hcpu, hmagic, hversion]

end AbiContext

/-- Both APIs write the same bytes. -/
theorem abi_save_eq {ctx : AbiContext} (h : ctx.Canonical) (scratch : AbiContext) (tick : Tick)
    (snapshot snapshot' : Snapshot) :
    ctx.save (packTick tick) snapshot = save scratch ctx.cpu tick snapshot' := by
  rw [save]
  apply AbiContext.save_eq
  · rfl
  · exact h.magic
  · exact h.version

theorem abi_load_save {ctx : AbiContext} (h : ctx.Canonical) (ctx' : AbiContext) (tick : DWord)
    (snapshot : Snapshot) : ctx'.load (ctx.save tick snapshot) = (ctx, tick) := by
  rw [AbiContext.load_save, ← h.reserve]

theorem abi_save_canonical {ctx : AbiContext} (h : ctx.Canonical) (tick : DWord)
    (snapshot : Snapshot) : (ctx.save tick snapshot).Canonical := by
  have hround := AbiContext.load_save ctx ctx tick snapshot
  have hrest := AbiContext.save_rest ctx tick snapshot
  generalize ctx.save tick snapshot = saved at hround hrest
  have hmagic := congrArg (fun r => r.1.magic) hround
  have hversion := congrArg (fun r => r.1.version) hround
  exact ⟨hmagic.trans h.magic, hversion.trans h.version, hrest⟩

/-- **Snapshots.**  Loading what was saved gives back the context and the tick, and so the same
session after any calls.  Saving what was loaded from a canonical snapshot gives back its bytes.
The two APIs write the same bytes, and each loads what the other has saved. -/
theorem snapshot_roundTrip :
    (∀ scratch scratch' cpu tick snapshot,
      load scratch' (save scratch cpu tick snapshot) = (cpu, tick)) ∧
    (∀ scratch scratch' cpu tick snapshot calls,
      StepMachine.states Session.call (load scratch' (save scratch cpu tick snapshot)) calls =
        StepMachine.states Session.call (cpu, tick) calls) ∧
    (∀ scratch scratch' (snapshot target : Snapshot), snapshot.Canonical →
      save scratch' (load scratch snapshot).1 (load scratch snapshot).2 target = snapshot) ∧
    ∀ ctx : AbiContext, AbiContext.Reachable ctx →
      (∀ scratch tick snapshot snapshot',
        ctx.save (packTick tick) snapshot = save scratch ctx.cpu tick snapshot') ∧
      (∀ scratch tick snapshot,
        load scratch (ctx.save (packTick tick) snapshot) = (ctx.cpu, tick)) ∧
      (∀ scratch ctx' tick snapshot,
        AbiContext.load ctx' (save scratch ctx.cpu tick snapshot) = (ctx, packTick tick)) ∧
      ∀ ctx' tick snapshot, AbiContext.load ctx' (ctx.save tick snapshot) = (ctx, tick) := by
  refine ⟨load_save, ?_, ?_, ?_⟩
  · intro scratch scratch' cpu tick snapshot calls
    rw [load_save]
  · intro scratch scratch' snapshot target hsnapshot
    exact save_load hsnapshot scratch scratch' target
  · intro ctx hctx
    have hcanonical := AbiContext.reachable_canonical hctx
    have hsave := abi_save_eq hcanonical
    refine ⟨hsave, ?_, ?_, abi_load_save hcanonical⟩
    · intro scratch tick snapshot
      rw [hsave scratch tick snapshot snapshot, load_save]
    · intro scratch ctx' tick snapshot
      rw [← hsave scratch tick snapshot snapshot, abi_load_save hcanonical]

/-- A context set up over zeroed memory, restarted and ticked once, and its snapshot. -/
theorem snapshot_roundTrip_restarted :
    let zeros : AbiContext := ⟨blankCpu, 0, 0, Vector.replicate 44 0⟩
    let blank : Snapshot := Vector.replicate 64 0
    let ctx := (AbiContext.setup zeros 2).restart.1
    let tick := (AbiContext.setup zeros 2).restart.2
    load zeros (ctx.save tick blank) = (Qe6502.restart { blankCpu with model := 2 }) ∧
      save zeros (load zeros (ctx.save tick blank)).1 (load zeros (ctx.save tick blank)).2 blank =
        ctx.save tick blank := by
  intro zeros blank ctx tick
  have hreach : AbiContext.Reachable ctx :=
    .step (i := .restart) (.init ⟨zeros, 2, rfl⟩) rfl
  obtain ⟨_, _, hconverse, habi⟩ := snapshot_roundTrip
  obtain ⟨_, hload, _, _⟩ := habi ctx hreach
  have hcanonical := abi_save_canonical (AbiContext.reachable_canonical hreach) tick blank
  exact ⟨hload zeros _ blank, hconverse zeros zeros _ blank hcanonical⟩

end Qe6502
