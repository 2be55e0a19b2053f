import Qe6502.Lib.Pool
import Qe6502.Schedule
import Qe6502.Snapshot

/-!
# The JavaScript bindings

`qe6502_js.c` hands out 256 contexts of the linear memory through a stack of free pointers, and
the `Qe6502Cpu` objects of `qe6502.js` work on them; `save` and `load` borrow a context as
scratch space.  `cpus_isolated` says that whatever calls a script makes, the objects answer as CPUs
with contexts of their own, and no context is lost.
-/

namespace Qe6502

/-! ### Contexts in memory -/

namespace AbiContext

/-- The bytes of `qe6502abi_impl_t` before the reserve; WebAssembly puts low bytes first. -/
def header (ctx : AbiContext) : Vector Byte 20 :=
  #v[ctx.cpu.model, ctx.cpu.reservedExtension,
    ctx.cpu.microcode.extractLsb' 0 8, ctx.cpu.microcode.extractLsb' 8 8,
    ctx.cpu.latchAddr.extractLsb' 0 8, ctx.cpu.latchAddr.extractLsb' 8 8,
    ctx.cpu.latchData, ctx.cpu.hijackMicrocode,
    ctx.cpu.pc.extractLsb' 0 8, ctx.cpu.pc.extractLsb' 8 8,
    ctx.cpu.s, ctx.cpu.a, ctx.cpu.x, ctx.cpu.y, ctx.cpu.p, ctx.cpu.interrupts,
    ctx.magic.extractLsb' 0 8, ctx.magic.extractLsb' 8 8,
    ctx.version.extractLsb' 0 8, ctx.version.extractLsb' 8 8]

def image (ctx : AbiContext) : Snapshot :=
  Vector.ofFn fun i => if i.1 < 20 then ctx.header[i.1]! else ctx.reserve[i.1 - 20]!

/-- The context in 64 bytes. -/
def ofImage (bytes : Snapshot) : AbiContext where
  cpu :=
    { model := bytes[0]!
      reservedExtension := bytes[1]!
      microcode := Fields.word bytes[3]! bytes[2]!
      latchAddr := Fields.word bytes[5]! bytes[4]!
      latchData := bytes[6]!
      hijackMicrocode := bytes[7]!
      pc := Fields.word bytes[9]! bytes[8]!
      s := bytes[10]!
      a := bytes[11]!
      x := bytes[12]!
      y := bytes[13]!
      p := bytes[14]!
      interrupts := bytes[15]! }
  magic := Fields.word bytes[17]! bytes[16]!
  version := Fields.word bytes[19]! bytes[18]!
  reserve := Vector.ofFn fun i => bytes[20 + i.1]!

theorem image_get (ctx : AbiContext) {i : Nat} (h : i < 64) :
    ctx.image[i]! = if i < 20 then ctx.header[i]! else ctx.reserve[i - 20]! := by
  rw [getElem!_pos ctx.image i h, image, Vector.getElem_ofFn]

theorem ofImage_image (ctx : AbiContext) : ofImage ctx.image = ctx := by
  have hreserve : (Vector.ofFn fun i : Fin 44 => ctx.image[20 + i.1]!) = ctx.reserve := by
    refine Vector.ext fun i hi => ?_
    rw [Vector.getElem_ofFn, image_get _ (by omega), if_neg (by omega), Nat.add_sub_cancel_left,
      getElem!_pos ctx.reserve i hi]
  have hget : ∀ i < 20, ctx.image[i]! = ctx.header[i]! := fun i hi => by
    rw [image_get _ (by omega), if_pos hi]
  rw [ofImage, hreserve]
  simp only [hget, Nat.reduceLT]
  simp [header, Fields.join_word]

/-- The context of a new CPU. -/
def fresh (model : DWord) : AbiContext where
  cpu := { blankCpu with model := model.setWidth 8 }
  magic := abiContextMagic
  version := abiContextVersion
  reserve := Vector.replicate 44 0

theorem setup_eq (ctx : AbiContext) (model : DWord) : ctx.setup model = fresh model := by
  rw [setup, clearBuffer_all, fresh]

end AbiContext

namespace Js

/-! ### The pool -/

/-- `QE6502JS_CONTEXT_POOL_CAPACITY`. -/
def contextPoolCapacity : Nat := 256

/-- `sizeof(qe6502abi_context_t)`. -/
def contextSize : Nat := 64

/-- The static variables of `qe6502_js.c`; the contexts are bytes of the linear memory. -/
structure ContextPool where
  freeContexts : Vector Nat 256
  isContextFree : Vector Byte 256
  freeContextCount : Nat
  contextPoolReady : Byte

/-- Static storage starts as zeros. -/
def zeroedPool : ContextPool := ⟨Vector.replicate 256 0, Vector.replicate 256 0, 0, 0⟩

section pool

-- the address of `qe6502js_context_pool`
variable (contextPool : Nat)

/-- The first `n` rounds of the loop of `qe6502js_context_pool_reset`. -/
def contextPoolResetLoop (pool : ContextPool) : Nat → ContextPool
  | 0 => pool
  | i + 1 =>
    let pool := contextPoolResetLoop pool i
    { pool with
      freeContexts := pool.freeContexts.setIfInBounds i (contextPool + contextSize * i)
      isContextFree := pool.isContextFree.setIfInBounds i 1 }

def contextPoolReset (pool : ContextPool) : ContextPool :=
  { contextPoolResetLoop contextPool pool contextPoolCapacity with
    freeContextCount := contextPoolCapacity
    contextPoolReady := 1 }

/-- The pool and the context, `0` for none. -/
def contextAlloc (pool : ContextPool) : ContextPool × Nat :=
  let pool := if pool.contextPoolReady = 0 then contextPoolReset contextPool pool else pool
  if pool.freeContextCount = 0 then (pool, 0)
  else
    let count := pool.freeContextCount - 1
    let ctx := pool.freeContexts[count]!
    let poolIndex := (ctx - contextPool) / contextSize
    ({ pool with
        freeContextCount := count
        isContextFree := pool.isContextFree.setIfInBounds poolIndex 0 }, ctx)

def contextFree (pool : ContextPool) (ctx : Nat) : ContextPool :=
  if pool.contextPoolReady = 0 then pool
  else if ctx = 0 then pool
  else if ctx < contextPool ∨ contextPool + contextSize * contextPoolCapacity ≤ ctx then pool
  else if (ctx - contextPool) % contextSize ≠ 0 then pool
  else
    let poolIndex := (ctx - contextPool) / contextSize
    if pool.isContextFree[poolIndex]! ≠ 0 then pool
    else if contextPoolCapacity ≤ pool.freeContextCount then pool
    else
      { pool with
        freeContexts := pool.freeContexts.setIfInBounds pool.freeContextCount ctx
        isContextFree := pool.isContextFree.setIfInBounds poolIndex 1
        freeContextCount := pool.freeContextCount + 1 }

end pool

/-! ### Arguments and answers -/

inductive ErrorClass
  | error
  | typeError
  | rangeError

/-- A thrown error. -/
structure JsError where
  kind : ErrorClass
  message : String

def allocNull : JsError := ⟨.error, "qe6502js_context_alloc returned null"⟩
def disposedError : JsError := ⟨.error, "Qe6502Cpu has been disposed"⟩

inductive Value
  | undefined
  | boolean (value : Bool)
  | number (value : DWord)
  | bytes (value : Snapshot)
  | cpu (index : Nat)

abbrev Answer := Except JsError Value

/-- A model argument: its text, and its number where that is an integer. -/
structure ModelArgument where
  text : String
  integer : Option Int

def normalizeModel (value : ModelArgument) : Except JsError DWord :=
  let invalid := .error ⟨.rangeError, "Invalid qe6502 model: " ++ value.text⟩
  match value.integer with
  | some model => if model < 0 ∨ 4 < model then invalid else .ok (BitVec.ofInt 32 model)
  | none => invalid

def byte (value : DWord) : DWord := value &&& 0xFF

def word (value : DWord) : DWord := value &&& 0xFFFF

/-- `bool`: the argument is `none` where it is not a boolean. -/
def bool : Option Bool → Except JsError Byte
  | some value => .ok (if value then 1 else 0)
  | none => .error ⟨.typeError, "Expected a boolean"⟩

/-- `snapshotBytes` and the size check of `load`: the argument is `none` where it is neither an
`ArrayBuffer` nor a view of one. -/
def snapshotBytes : Option (List Byte) → Except JsError Snapshot
  | none => .error ⟨.typeError, "Snapshot must be an ArrayBuffer or typed array"⟩
  | some source =>
    if source.length ≠ snapshotSize then
      .error ⟨.rangeError, "Snapshot must be exactly 64 bytes"⟩
    else .ok (Vector.ofFn fun i => source[i.1]!)

/-! ### Methods -/

/-- The registers of one byte that have a getter and a setter. -/
inductive ByteRegister
  | s
  | a
  | x
  | y
  | p

def ByteRegister.abi : ByteRegister → AbiRegister
  | .s => .s
  | .a => .a
  | .x => .x
  | .y => .y
  | .p => .p

def ByteRegister.get (cpu : Cpu) : ByteRegister → Byte
  | .s => cpu.s
  | .a => cpu.a
  | .x => cpu.x
  | .y => cpu.y
  | .p => cpu.p

/-- The methods of `Qe6502Cpu` that call the ABI with the object's own context only. -/
inductive Method
  | restart
  | jumpTo (address : DWord)
  | irqAssert (assertIrq : Option Bool)
  | isIrqAsserted
  | nmiAssert (assertNmi : Option Bool)
  | isNmiAsserted
  | tick (input : DWord)
  | busAddress
  | busData
  | busStatus
  | isWrite
  | isOpcodeFetch
  | isInternalReset
  | isJammed
  | cpuModel
  | pc
  | setPc (value : DWord)
  | get (register : ByteRegister)
  | set (register : ByteRegister) (value : DWord)

def busStatus (tick : DWord) : DWord := (tick >>> 24) &&& 0xFF

/-- A bit of `Status`. -/
def statusFlag (tick : DWord) (bit : Nat) : Value :=
  .boolean (busStatus tick &&& (1 <<< bit) != 0)

def assertLine (ctx : AbiContext) (tick : DWord) (drive : Byte → AbiContext)
    (argument : Option Bool) : Answer × AbiContext × DWord :=
  match bool argument with
  | .ok value => (.ok .undefined, drive value, tick)
  | .error error => (.error error, ctx, tick)

/-- The answer of a method, and the context and the last tick it leaves. -/
def Method.act (ctx : AbiContext) (tick : DWord) : Method → Option (Answer × AbiContext × DWord)
  | .restart => some (.ok (.number ctx.restart.2), ctx.restart)
  | .jumpTo address => (ctx.goto (word address)).map fun r => (.ok (.number r.2), r)
  | .irqAssert assertIrq => some (assertLine ctx tick ctx.irqAssert assertIrq)
  | .isIrqAsserted => some (.ok (.boolean (Qe6502.isIrqAsserted ctx.cpu)), ctx, tick)
  | .nmiAssert assertNmi => some (assertLine ctx tick ctx.nmiAssert assertNmi)
  | .isNmiAsserted => some (.ok (.boolean (Qe6502.isNmiAsserted ctx.cpu)), ctx, tick)
  | .tick input => (ctx.tick (byte input)).map fun r => (.ok (.number r.2), r)
  | .busAddress => some (.ok (.number (tick &&& 0xFFFF)), ctx, tick)
  | .busData => some (.ok (.number ((tick >>> 16) &&& 0xFF)), ctx, tick)
  | .busStatus => some (.ok (.number (Js.busStatus tick)), ctx, tick)
  | .isWrite => some (.ok (statusFlag tick 0), ctx, tick)
  | .isOpcodeFetch => some (.ok (statusFlag tick 1), ctx, tick)
  | .isInternalReset => some (.ok (statusFlag tick 6), ctx, tick)
  | .isJammed => some (.ok (statusFlag tick 7), ctx, tick)
  | .cpuModel => some (.ok (.number (byte (ctx.cpu.model.setWidth 32))), ctx, tick)
  | .pc => some (.ok (.number (word (ctx.cpu.pc.setWidth 32))), ctx, tick)
  | .setPc value =>
    some (.ok .undefined, { ctx with cpu := AbiRegister.set ctx.cpu (word value) .pc }, tick)
  | .get register => some (.ok (.number (byte ((register.get ctx.cpu).setWidth 32))), ctx, tick)
  | .set register value =>
    some (.ok .undefined, { ctx with cpu := register.abi.set ctx.cpu (byte value) }, tick)

/-- The calls of a script; an object is named by its place in the order of creation. -/
inductive Call
  | createCpu (cpuModel : ModelArgument)
  | method (cpu : Nat) (method : Method)
  | save (cpu : Nat)
  | load (cpu : Nat) (snapshot : Option (List Byte))
  | dispose (cpu : Nat)

/-! ### The runtime -/

/-- The private fields of a `Qe6502Cpu`. -/
structure Qe6502Cpu where
  ptr : Nat
  tick : DWord
  disposed : Bool

/-- The WebAssembly instance and the objects over it. -/
structure Runtime where
  memory : Nat → Byte
  pool : ContextPool
  cpus : List Qe6502Cpu

def instantiateQe6502 (contextPool : Nat) (memory : Nat → Byte) : Runtime :=
  ⟨memory, contextPoolReset contextPool zeroedPool, []⟩

namespace Runtime

variable (contextPool : Nat) (r : Runtime)

/-- The 64 bytes at an address. -/
def block (address : Nat) : Snapshot := BlockPool.load 64 r.memory address

def writeBlock (address : Nat) (bytes : Snapshot) : Runtime :=
  { r with memory := BlockPool.store r.memory address bytes }

def context (ptr : Nat) : AbiContext := .ofImage (r.block ptr)

def createCpu (cpuModel : ModelArgument) : Answer × Runtime :=
  let alloc := contextAlloc contextPool r.pool
  let r := { r with pool := alloc.1 }
  if alloc.2 = 0 then (.error allocNull, r)
  else
    match normalizeModel cpuModel with
    | .error error => (.error error, { r with pool := contextFree contextPool r.pool alloc.2 })
    | .ok model =>
      (.ok (.cpu r.cpus.length),
        { r.writeBlock alloc.2 ((r.context alloc.2).setup model).image with
          cpus := r.cpus ++ [⟨alloc.2, 0, false⟩] })

def callMethod (i : Nat) (cpu : Qe6502Cpu) (method : Method) : Option (Answer × Runtime) :=
  (method.act (r.context cpu.ptr) cpu.tick).map fun a =>
    (a.1, { r.writeBlock cpu.ptr a.2.1.image with
      cpus := r.cpus.set i { cpu with tick := a.2.2 } })

def save (cpu : Qe6502Cpu) : Answer × Runtime :=
  let scratch := contextAlloc contextPool r.pool
  let r := { r with pool := scratch.1 }
  if scratch.2 = 0 then (.error allocNull, r)
  else
    let r := r.writeBlock scratch.2 ((r.context cpu.ptr).save cpu.tick (r.block scratch.2))
    (.ok (.bytes (r.block scratch.2)),
      { r with pool := contextFree contextPool r.pool scratch.2 })

def load (i : Nat) (cpu : Qe6502Cpu) (snapshot : Option (List Byte)) : Answer × Runtime :=
  match snapshotBytes snapshot with
  | .error error => (.error error, r)
  | .ok source =>
    let scratch := contextAlloc contextPool r.pool
    let r := { r with pool := scratch.1 }
    if scratch.2 = 0 then (.error allocNull, r)
    else
      let r := r.writeBlock scratch.2 source
      let loaded := (r.context cpu.ptr).load (r.block scratch.2)
      (.ok (.number loaded.2),
        { r.writeBlock cpu.ptr loaded.1.image with
          cpus := r.cpus.set i { cpu with tick := loaded.2 }
          pool := contextFree contextPool r.pool scratch.2 })

def dispose (i : Nat) (cpu : Qe6502Cpu) : Answer × Runtime :=
  if cpu.disposed then (.ok .undefined, r)
  else
    (.ok .undefined,
      { r with
        pool := contextFree contextPool r.pool cpu.ptr
        cpus := r.cpus.set i ⟨0, 0, true⟩ })

/-- `#assertAlive` before the rest of a method. -/
def assertAlive (cpu : Qe6502Cpu) (rest : Option (Answer × Runtime)) : Option (Answer × Runtime) :=
  if cpu.disposed then some (.error disposedError, r) else rest

/-- One call; `none` where there is no such object, or no microcode behind the context. -/
def step (r : Runtime) : Call → Option (Answer × Runtime)
  | .createCpu cpuModel => some (r.createCpu contextPool cpuModel)
  | .method i method => r.cpus[i]?.bind fun cpu => r.assertAlive cpu (r.callMethod i cpu method)
  | .save i => r.cpus[i]?.bind fun cpu => r.assertAlive cpu (some (r.save contextPool cpu))
  | .load i snapshot =>
    r.cpus[i]?.bind fun cpu => r.assertAlive cpu (some (r.load contextPool i cpu snapshot))
  | .dispose i => r.cpus[i]?.map (r.dispose contextPool i)

end Runtime

/-! ### CPUs with contexts of their own -/

/-- What a script may take a live object for. -/
structure OwnCpu where
  context : AbiContext
  tick : DWord

/-- The objects in the order of creation, `none` where disposed. -/
abbrev OwnCpus := List (Option OwnCpu)

namespace OwnCpus

def live (cpus : OwnCpus) : Nat := cpus.countP Option.isSome

variable (cpus : OwnCpus)

/-- An action that needs a free context. -/
def unlessFull (act : Answer × OwnCpus) : Answer × OwnCpus :=
  if cpus.live = contextPoolCapacity then (.error allocNull, cpus) else act

def createCpu (cpuModel : ModelArgument) : Answer × OwnCpus :=
  cpus.unlessFull <|
    match normalizeModel cpuModel with
    | .error error => (.error error, cpus)
    | .ok model => (.ok (.cpu cpus.length), cpus ++ [some ⟨.fresh model, 0⟩])

def callMethod (i : Nat) (method : Method) (cpu : OwnCpu) : Option (Answer × OwnCpus) :=
  (method.act cpu.context cpu.tick).map fun a => (a.1, cpus.set i (some ⟨a.2.1, a.2.2⟩))

def save (cpu : OwnCpu) : Answer × OwnCpus :=
  cpus.unlessFull (.ok (.bytes (cpu.context.save cpu.tick (Vector.replicate 64 0))), cpus)

def load (i : Nat) (snapshot : Option (List Byte)) (cpu : OwnCpu) : Answer × OwnCpus :=
  match snapshotBytes snapshot with
  | .error error => (.error error, cpus)
  | .ok source =>
    let loaded := cpu.context.load source
    cpus.unlessFull (.ok (.number loaded.2), cpus.set i (some ⟨loaded.1, loaded.2⟩))

def assertAlive (rest : OwnCpu → Option (Answer × OwnCpus)) : Option OwnCpu →
    Option (Answer × OwnCpus)
  | none => some (.error disposedError, cpus)
  | some cpu => rest cpu

def step (cpus : OwnCpus) : Call → Option (Answer × OwnCpus)
  | .createCpu cpuModel => some (cpus.createCpu cpuModel)
  | .method i method => cpus[i]?.bind (cpus.assertAlive (cpus.callMethod i method))
  | .save i => cpus[i]?.bind (cpus.assertAlive fun cpu => some (cpus.save cpu))
  | .load i snapshot => cpus[i]?.bind (cpus.assertAlive fun cpu => some (cpus.load i snapshot cpu))
  | .dispose i => cpus[i]?.map fun _ => (.ok .undefined, cpus.set i none)

end OwnCpus

/-! ### The pool keeps its contexts -/

section pool

open BlockPool

variable {contextPool ptr : Nat} {pool : ContextPool} {live live' : List Nat}

abbrev contexts (contextPool : Nat) : List Nat := slots contextPool contextSize contextPoolCapacity

/-- Every context is either on the stack or live, and the flags tell which. -/
structure Lends (contextPool : Nat) (pool : ContextPool) (live : List Nat) : Prop where
  ready : pool.contextPoolReady ≠ 0
  bounded : pool.freeContextCount ≤ 256
  shares : (stack pool.freeContexts pool.freeContextCount ++ live).Perm (contexts contextPool)
  flags : ∀ i < 256, pool.isContextFree[i]! = 0 ↔ contextPool + contextSize * i ∈ live

theorem contextPoolResetLoop_spec (pool : ContextPool) :
    ∀ n ≤ contextPoolCapacity,
      stack (contextPoolResetLoop contextPool pool n).freeContexts n =
          slots contextPool contextSize n ∧
        ∀ i < n, (contextPoolResetLoop contextPool pool n).isContextFree[i]! = 1 := by
  intro n
  induction n with
  | zero => exact fun _ => ⟨rfl, fun i hi => absurd hi (Nat.not_lt_zero i)⟩
  | succ n ih =>
    intro hn
    obtain ⟨hstack, hflags⟩ := ih (by omega)
    refine ⟨?_, fun i hi => ?_⟩
    · rw [slots_succ, ← hstack]
      exact stack_set _ hn _
    · refine (Fields.get_set _ n 1 (Nat.lt_of_lt_of_le hi hn)).trans ?_
      by_cases h : n = i
      · rw [if_pos h]
      · rw [if_neg h]
        exact hflags i (by omega)

theorem contextPoolReset_lends (pool : ContextPool) :
    Lends contextPool (contextPoolReset contextPool pool) [] := by
  obtain ⟨hstack, hflags⟩ :=
    @contextPoolResetLoop_spec contextPool pool contextPoolCapacity (Nat.le_refl _)
  refine ⟨(by decide : (1 : Byte) ≠ 0), Nat.le_refl _, ?_, fun i hi => ?_⟩
  · rw [List.append_nil]
    exact .of_eq hstack
  · have hflag : (contextPoolReset contextPool pool).isContextFree[i]! = 1 := hflags i hi
    rw [hflag]
    exact ⟨fun h => absurd h (by decide), fun h => absurd h List.not_mem_nil⟩

namespace Lends

theorem count (h : Lends contextPool pool live) :
    pool.freeContextCount + live.length = contextPoolCapacity := by
  have hlength := h.shares.length_eq
  rwa [List.length_append, length_stack _ h.bounded, length_slots] at hlength

theorem nodup (h : Lends contextPool pool live) : live.Nodup :=
  (h.shares.nodup_iff.mpr (nodup_slots (by decide))).of_append_right

theorem mem (h : Lends contextPool pool live) (hptr : ptr ∈ live) : ptr ∈ contexts contextPool :=
  h.shares.mem_iff.mp (List.mem_append_right _ hptr)

theorem perm (h : Lends contextPool pool live) (hperm : live.Perm live') :
    Lends contextPool pool live' where
  ready := h.ready
  bounded := h.bounded
  shares := (hperm.append_left _).symm.trans h.shares
  flags i hi := (h.flags i hi).trans hperm.mem_iff

theorem alloc_none (h : Lends contextPool pool live) (hfull : live.length = contextPoolCapacity) :
    contextAlloc contextPool pool = (pool, 0) := by
  have hcount := h.count
  rw [contextAlloc, if_neg h.ready, if_pos (by omega)]

theorem alloc (h : Lends contextPool pool live) (hpool : 0 < contextPool)
    (hfull : live.length ≠ contextPoolCapacity) :
    ∃ pool' ptr, contextAlloc contextPool pool = (pool', ptr) ∧ ptr ≠ 0 ∧
      Lends contextPool pool' (ptr :: live) := by
  have hcount := h.count
  obtain ⟨n, hn⟩ := Nat.exists_eq_succ_of_ne_zero (by omega : pool.freeContextCount ≠ 0)
  have hlt : n < 256 := by
    have hbounded := h.bounded
    omega
  have hshares := h.shares
  rw [hn, stack_succ _ hlt, List.append_assoc] at hshares
  obtain ⟨j, hj, hptr⟩ := mem_slots.mp (hshares.mem_iff.mp (by simp) :
    pool.freeContexts[n]! ∈ contexts contextPool)
  have hindex : (pool.freeContexts[n]! - contextPool) / contextSize = j := by
    rw [hptr, Nat.add_sub_cancel_left, Nat.mul_div_cancel_left _ (by decide)]
  refine ⟨_, _, by rw [contextAlloc, if_neg h.ready, if_neg (by omega)], ?_, ?_⟩
  · simp only [hn, Nat.succ_eq_add_one, Nat.add_sub_cancel]
    omega
  · simp only [hn, Nat.succ_eq_add_one, Nat.add_sub_cancel, hindex]
    refine ⟨h.ready, Nat.le_of_lt hlt, hshares, fun i hi => ?_⟩
    simp only [Fields.get_set _ _ _ hi]
    rw [List.mem_cons, hptr]
    by_cases hij : j = i
    · rw [if_pos hij, hij]
      exact ⟨fun _ => .inl rfl, fun _ => rfl⟩
    · rw [if_neg hij, h.flags i hi]
      have hne : contextPool + contextSize * i ≠ contextPool + contextSize * j := by
        simp only [contextSize]
        omega
      exact ⟨.inr, fun hmem => hmem.resolve_left hne⟩

theorem free (h : Lends contextPool pool (ptr :: live)) (hpool : 0 < contextPool) :
    Lends contextPool (contextFree contextPool pool ptr) live := by
  have hcount := h.count
  rw [List.length_cons] at hcount
  have hlt : pool.freeContextCount < 256 := by simp only [contextPoolCapacity] at hcount; omega
  obtain ⟨j, hj, hptr⟩ := mem_slots.mp (h.mem List.mem_cons_self)
  have hindex : (ptr - contextPool) / contextSize = j := by
    rw [hptr, Nat.add_sub_cancel_left, Nat.mul_div_cancel_left _ (by decide)]
  have haligned : (ptr - contextPool) % contextSize = 0 := by
    rw [hptr, Nat.add_sub_cancel_left, Nat.mul_mod_right]
  have hinside : ¬(ptr < contextPool ∨ contextPool + contextSize * contextPoolCapacity ≤ ptr) := by
    simp only [contextSize, contextPoolCapacity] at hj hptr ⊢
    omega
  have hlive : pool.isContextFree[j]! = 0 := (h.flags j hj).mpr (hptr ▸ List.mem_cons_self)
  rw [contextFree, if_neg h.ready, if_neg (by omega), if_neg hinside, if_neg (by simp [haligned])]
  simp only [hindex, hlive, ne_eq, not_true_eq_false, if_false]
  rw [if_neg (by simp only [contextPoolCapacity]; omega)]
  refine ⟨h.ready, hlt, ?_, fun i hi => ?_⟩
  · have hstack := stack_set pool.freeContexts hlt ptr
    simp only [hstack, List.append_assoc]
    exact h.shares
  · simp only [Fields.get_set _ _ _ hi]
    by_cases hij : j = i
    · subst hij
      rw [if_pos rfl, ← hptr]
      exact ⟨fun h₁ => absurd h₁ (by decide),
        fun hmem => absurd hmem (List.nodup_cons.mp h.nodup).1⟩
    · have hne : contextPool + contextSize * i ≠ ptr := by
        rw [hptr]
        simp only [contextSize]
        omega
      rw [if_neg hij, h.flags i hi, List.mem_cons]
      exact ⟨fun hmem => hmem.resolve_left hne, .inr⟩

end Lends

end pool

/-! ### Objects and what they stand for -/

open BlockPool (slots store)

/-- A disposed object stands for nothing, a live one for the context it points to. -/
inductive Mirrors (memory : Nat → Byte) : Qe6502Cpu → Option OwnCpu → Prop
  | disposed {cpu : Qe6502Cpu} : cpu.disposed = true → Mirrors memory cpu none
  | alive {ptr : Nat} {tick : DWord} {context : AbiContext} :
      BlockPool.load 64 memory ptr = context.image →
        Mirrors memory ⟨ptr, tick, false⟩ (some ⟨context, tick⟩)

/-- The objects of a script beside what they stand for. -/
abbrev Cells := List (Qe6502Cpu × Option OwnCpu)

namespace Cells

/-- The pointers of the live objects. -/
def pointers (cells : Cells) : List Nat :=
  cells.filterMap fun cell => cell.2.map fun _ => cell.1.ptr

theorem length_pointers (cells : Cells) :
    cells.pointers.length = OwnCpus.live (cells.map Prod.snd) := by
  rw [pointers, List.length_filterMap_eq_countP, OwnCpus.live, List.countP_map]
  refine List.countP_congr fun cell _ => ?_
  simp only [Option.isSome_map, Function.comp_apply]

end Cells

/-- The pool lends the live objects their contexts, and the memory holds them. -/
structure Owns (contextPool : Nat) (memory : Nat → Byte) (pool : ContextPool) (cells : Cells) :
    Prop where
  lends : Lends contextPool pool cells.pointers
  mirrors : ∀ cell ∈ cells, Mirrors memory cell.1 cell.2

section owns

variable {contextPool ptr : Nat} {memory : Nat → Byte} {pool : ContextPool} {cells rest : Cells}
  {cell cell' : Qe6502Cpu × Option OwnCpu} {tick : DWord} {context : AbiContext}

/-- A write to a context that no live object has. -/
theorem mirrors_write (h : ∀ cell ∈ cells, Mirrors memory cell.1 cell.2)
    (hlends : Lends contextPool pool (ptr :: cells.pointers)) (bytes : Snapshot) :
    ∀ cell ∈ cells, Mirrors (store memory ptr bytes) cell.1 cell.2 := by
  rintro ⟨cpu, own⟩ hcell
  cases h _ hcell with
  | disposed hdisposed => exact .disposed hdisposed
  | @alive ptr' tick context hload =>
    have hmem : ptr' ∈ cells.pointers := List.mem_filterMap.mpr ⟨_, hcell, rfl⟩
    have hne : ptr' ≠ ptr := fun h => (List.nodup_cons.mp hlends.nodup).1 (h ▸ hmem)
    have hapart := BlockPool.apart_of_mem (hlends.mem (List.mem_cons_of_mem _ hmem))
      (hlends.mem List.mem_cons_self) hne
    refine .alive ?_
    rw [← hload]
    exact BlockPool.load_store_apart memory bytes hapart

namespace Owns

theorem perm (h : Owns contextPool memory pool cells) (hperm : cells.Perm rest) :
    Owns contextPool memory pool rest where
  lends := h.lends.perm (hperm.filterMap _)
  mirrors cell hcell := h.mirrors cell (hperm.mem_iff.mpr hcell)

theorem at_index (h : Owns contextPool memory pool cells) {i : Nat} (hi : cells[i]? = some cell) :
    Owns contextPool memory pool (cell :: cells.eraseIdx i) := by
  obtain ⟨hlt, rfl⟩ := List.getElem?_eq_some_iff.mp hi
  exact h.perm (List.getElem_cons_eraseIdx_perm hlt).symm

theorem set_index {i : Nat} (hi : cells[i]? = some cell)
    (h : Owns contextPool memory pool (cell' :: cells.eraseIdx i)) :
    Owns contextPool memory pool (cells.set i cell') := by
  obtain ⟨hlt, _⟩ := List.getElem?_eq_some_iff.mp hi
  exact h.perm (List.set_perm_cons_eraseIdx hlt cell').symm

/-- A method writes the context of its own object. -/
theorem write (h : Owns contextPool memory pool
      ((⟨ptr, tick, false⟩, some ⟨context, tick⟩) :: rest)) (context' : AbiContext)
    (tick' : DWord) :
    Owns contextPool (store memory ptr context'.image) pool
      ((⟨ptr, tick', false⟩, some ⟨context', tick'⟩) :: rest) where
  lends := h.lends
  mirrors := by
    rw [List.forall_mem_cons]
    refine ⟨.alive (BlockPool.load_store _ _ _), mirrors_write (fun cell hcell => ?_) h.lends _⟩
    exact h.mirrors cell (List.mem_cons_of_mem _ hcell)

theorem dispose (h : Owns contextPool memory pool
      ((⟨ptr, tick, false⟩, some ⟨context, tick⟩) :: rest)) (hpool : 0 < contextPool) :
    Owns contextPool memory (contextFree contextPool pool ptr) ((⟨0, 0, true⟩, none) :: rest) where
  lends := h.lends.free hpool
  mirrors := by
    rw [List.forall_mem_cons]
    exact ⟨.disposed rfl, fun cell hcell => h.mirrors cell (List.mem_cons_of_mem _ hcell)⟩

/-- A new object takes the context the pool lends. -/
theorem create (h : Owns contextPool memory pool cells) {pool' : ContextPool}
    (hlends : Lends contextPool pool' (ptr :: cells.pointers)) (context : AbiContext)
    (tick : DWord) :
    Owns contextPool (store memory ptr context.image) pool'
      (cells ++ [(⟨ptr, tick, false⟩, some ⟨context, tick⟩)]) := by
  have hcons : Owns contextPool (store memory ptr context.image) pool'
      ((⟨ptr, tick, false⟩, some ⟨context, tick⟩) :: cells) := by
    refine ⟨hlends, ?_⟩
    rw [List.forall_mem_cons]
    exact ⟨.alive (BlockPool.load_store _ _ _), mirrors_write h.mirrors hlends _⟩
  exact hcons.perm (List.perm_append_singleton _ _).symm

/-- Scratch space is given back, whatever was written to it. -/
theorem scratch (h : Owns contextPool memory pool cells) (hpool : 0 < contextPool)
    {pool' : ContextPool} (hlends : Lends contextPool pool' (ptr :: cells.pointers))
    (bytes : Snapshot) :
    Owns contextPool (store memory ptr bytes) (contextFree contextPool pool' ptr) cells :=
  ⟨hlends.free hpool, mirrors_write h.mirrors hlends bytes⟩

end Owns

end owns

/-! ### Isolation -/

/-- The objects of the runtime stand for the CPUs. -/
def Represents (contextPool : Nat) (r : Runtime) (cpus : OwnCpus) : Prop :=
  ∃ cells : Cells, r.cpus = cells.map Prod.fst ∧ cpus = cells.map Prod.snd ∧
    Owns contextPool r.memory r.pool cells

section isolation

variable {contextPool : Nat} {memory : Nat → Byte} {pool : ContextPool} {cells : Cells}

/-- The runtime over some cells, and the CPUs they stand for. -/
theorem Owns.represents (h : Owns contextPool memory pool cells) :
    Represents contextPool ⟨memory, pool, cells.map Prod.fst⟩ (cells.map Prod.snd) :=
  ⟨cells, rfl, rfl, h⟩

theorem Owns.represents_set {i : Nat} {cell : Qe6502Cpu × Option OwnCpu}
    (h : Owns contextPool memory pool (cells.set i cell)) :
    Represents contextPool ⟨memory, pool, (cells.map Prod.fst).set i cell.1⟩
      ((cells.map Prod.snd).set i cell.2) :=
  ⟨cells.set i cell, by rw [List.map_set], by rw [List.map_set], h⟩

/-- The pool has a context to lend unless 256 objects are live. -/
theorem Owns.alloc (h : Owns contextPool memory pool cells) (hpool : 0 < contextPool) :
    (OwnCpus.live (cells.map Prod.snd) = contextPoolCapacity ∧
      contextAlloc contextPool pool = (pool, 0)) ∨
    (OwnCpus.live (cells.map Prod.snd) ≠ contextPoolCapacity ∧
      ∃ pool' ptr, contextAlloc contextPool pool = (pool', ptr) ∧ ptr ≠ 0 ∧
        Lends contextPool pool' (ptr :: cells.pointers)) := by
  rw [← cells.length_pointers]
  by_cases hfull : cells.pointers.length = contextPoolCapacity
  · exact .inl ⟨hfull, h.lends.alloc_none hfull⟩
  · exact .inr ⟨hfull, h.lends.alloc hpool hfull⟩

/-- Two outcomes of a call that no script can tell apart. -/
abbrev Same (contextPool : Nat) (p : Answer × Runtime) (q : Answer × OwnCpus) : Prop :=
  p.1 = q.1 ∧ Represents contextPool p.2 q.2

theorem createCpu_same (h : Owns contextPool memory pool cells) (hpool : 0 < contextPool)
    (cpuModel : ModelArgument) :
    Same contextPool
      (Runtime.createCpu contextPool ⟨memory, pool, cells.map Prod.fst⟩ cpuModel)
      (OwnCpus.createCpu (cells.map Prod.snd) cpuModel) := by
  rw [Runtime.createCpu, OwnCpus.createCpu, OwnCpus.unlessFull]
  rcases h.alloc hpool with ⟨hfull, halloc⟩ | ⟨hfull, pool', ptr, halloc, hne, hlends⟩
  · rw [if_pos hfull]
    simp only [halloc, if_true]
    exact ⟨rfl, h.represents⟩
  · rw [if_neg hfull]
    simp only [halloc, if_neg hne]
    cases normalizeModel cpuModel with
    | error error => exact ⟨rfl, cells, rfl, rfl, hlends.free hpool, h.mirrors⟩
    | ok model =>
      simp only [AbiContext.setup_eq, List.length_map]
      refine ⟨rfl, _, ?_, ?_, h.create hlends (.fresh model) 0⟩
      · rw [List.map_append]
        rfl
      · rw [List.map_append]
        rfl

variable {i ptr : Nat} {tick : DWord} {context : AbiContext}

theorem context_eq (h : Owns contextPool memory pool cells)
    (hi : cells[i]? = some (⟨ptr, tick, false⟩, some ⟨context, tick⟩)) :
    AbiContext.ofImage (BlockPool.load 64 memory ptr) = context := by
  have hmirrors := h.mirrors _ (List.mem_of_getElem? hi)
  cases hmirrors with
  | alive hload => rw [hload, AbiContext.ofImage_image]

/-- The cell after a call that changes the object's context and its last tick. -/
theorem update_represents (h : Owns contextPool memory pool cells)
    (hi : cells[i]? = some (⟨ptr, tick, false⟩, some ⟨context, tick⟩)) (context' : AbiContext)
    (tick' : DWord) :
    Represents contextPool
      ⟨store memory ptr context'.image, pool, (cells.map Prod.fst).set i ⟨ptr, tick', false⟩⟩
      ((cells.map Prod.snd).set i (some ⟨context', tick'⟩)) :=
  (Owns.set_index hi ((h.at_index hi).write context' tick')).represents_set

theorem callMethod_same (h : Owns contextPool memory pool cells)
    (hi : cells[i]? = some (⟨ptr, tick, false⟩, some ⟨context, tick⟩)) (method : Method) :
    Option.Rel (Same contextPool)
      (Runtime.callMethod ⟨memory, pool, cells.map Prod.fst⟩ i ⟨ptr, tick, false⟩ method)
      (OwnCpus.callMethod (cells.map Prod.snd) i method ⟨context, tick⟩) := by
  rw [Runtime.callMethod, OwnCpus.callMethod, Runtime.context, Runtime.block, context_eq h hi]
  cases method.act context tick with
  | none => exact .none
  | some a => exact .some ⟨rfl, update_represents h hi a.2.1 a.2.2⟩

theorem save_same (h : Owns contextPool memory pool cells) (hpool : 0 < contextPool)
    (hi : cells[i]? = some (⟨ptr, tick, false⟩, some ⟨context, tick⟩)) :
    Same contextPool
      (Runtime.save contextPool ⟨memory, pool, cells.map Prod.fst⟩ ⟨ptr, tick, false⟩)
      (OwnCpus.save (cells.map Prod.snd) ⟨context, tick⟩) := by
  rw [Runtime.save, OwnCpus.save, OwnCpus.unlessFull]
  rcases h.alloc hpool with ⟨hfull, halloc⟩ | ⟨hfull, pool', scratch, halloc, hne, hlends⟩
  · rw [if_pos hfull]
    simp only [halloc, if_true]
    exact ⟨rfl, h.represents⟩
  · rw [if_neg hfull]
    simp only [halloc, if_neg hne]
    refine ⟨?_, (h.scratch hpool hlends _).represents⟩
    simp only [Runtime.writeBlock, Runtime.context, Runtime.block, BlockPool.load_store,
      context_eq h hi]
    rw [AbiContext.save_eq rfl rfl rfl]

theorem load_same (h : Owns contextPool memory pool cells) (hpool : 0 < contextPool)
    (hi : cells[i]? = some (⟨ptr, tick, false⟩, some ⟨context, tick⟩))
    (snapshot : Option (List Byte)) :
    Same contextPool
      (Runtime.load contextPool ⟨memory, pool, cells.map Prod.fst⟩ i ⟨ptr, tick, false⟩ snapshot)
      (OwnCpus.load (cells.map Prod.snd) i snapshot ⟨context, tick⟩) := by
  rw [Runtime.load, OwnCpus.load]
  cases snapshotBytes snapshot with
  | error error => exact ⟨rfl, h.represents⟩
  | ok source =>
    simp only [OwnCpus.unlessFull]
    rcases h.alloc hpool with ⟨hfull, halloc⟩ | ⟨hfull, pool', scratch, halloc, hne, hlends⟩
    · rw [if_pos hfull]
      simp only [halloc, if_true]
      exact ⟨rfl, h.represents⟩
    · rw [if_neg hfull]
      simp only [halloc, if_neg hne]
      have howns := h.scratch hpool hlends source
      simp only [Runtime.writeBlock, Runtime.context, Runtime.block, BlockPool.load_store,
        context_eq howns hi]
      exact ⟨rfl, update_represents howns hi _ _⟩

/-- The call of a method finds the same object on both sides, alive or disposed. -/
theorem assertAlive_same (h : Owns contextPool memory pool cells) (i : Nat)
    {rest : Qe6502Cpu → Option (Answer × Runtime)} {rest' : OwnCpu → Option (Answer × OwnCpus)}
    (hrest : ∀ {ptr tick context},
      cells[i]? = some (⟨ptr, tick, false⟩, some ⟨context, tick⟩) →
        Option.Rel (Same contextPool) (rest ⟨ptr, tick, false⟩) (rest' ⟨context, tick⟩)) :
    Option.Rel (Same contextPool)
      ((cells.map Prod.fst)[i]?.bind fun cpu =>
        Runtime.assertAlive ⟨memory, pool, cells.map Prod.fst⟩ cpu (rest cpu))
      ((cells.map Prod.snd)[i]?.bind (OwnCpus.assertAlive (cells.map Prod.snd) rest')) := by
  simp only [List.getElem?_map]
  cases hi : cells[i]? with
  | none => exact .none
  | some cell =>
    obtain ⟨cpu, own⟩ := cell
    simp only [Option.map_some, Option.bind_some]
    have hmirrors := h.mirrors _ (List.mem_of_getElem? hi)
    cases hmirrors with
    | disposed hdisposed =>
      rw [Runtime.assertAlive, if_pos hdisposed]
      exact .some ⟨rfl, h.represents⟩
    | alive => exact hrest hi

theorem dispose_same (h : Owns contextPool memory pool cells) (hpool : 0 < contextPool) (i : Nat) :
    Option.Rel (Same contextPool)
      ((cells.map Prod.fst)[i]?.map
        (Runtime.dispose contextPool ⟨memory, pool, cells.map Prod.fst⟩ i))
      ((cells.map Prod.snd)[i]?.map fun _ =>
        (.ok .undefined, (cells.map Prod.snd).set i none)) := by
  simp only [List.getElem?_map]
  cases hi : cells[i]? with
  | none => exact .none
  | some cell =>
    obtain ⟨cpu, own⟩ := cell
    simp only [Option.map_some]
    have hmirrors := h.mirrors _ (List.mem_of_getElem? hi)
    cases hmirrors with
    | disposed hdisposed =>
      obtain ⟨hlt, hget⟩ := List.getElem?_eq_some_iff.mp hi
      have hset : cells.set i (cpu, none) = cells := by rw [← hget, List.set_getElem_self]
      rw [Runtime.dispose, if_pos hdisposed]
      refine .some ⟨rfl, cells, rfl, ?_, h⟩
      calc (cells.map Prod.snd).set i none
          = (cells.set i (cpu, none)).map Prod.snd := by rw [List.map_set]
        _ = cells.map Prod.snd := by rw [hset]
    | alive =>
      exact .some ⟨rfl, (Owns.set_index hi ((h.at_index hi).dispose hpool)).represents_set⟩

/-- No call lets one object see another. -/
theorem step_same {r : Runtime} {cpus : OwnCpus} (h : Represents contextPool r cpus)
    (hpool : 0 < contextPool) (call : Call) :
    Option.Rel (Same contextPool) (r.step contextPool call) (cpus.step call) := by
  obtain ⟨memory, pool, objects⟩ := r
  obtain ⟨cells, hobjects, rfl, howns⟩ := h
  obtain rfl : objects = cells.map Prod.fst := hobjects
  cases call with
  | createCpu cpuModel => exact .some (createCpu_same howns hpool cpuModel)
  | method i method => exact assertAlive_same howns i fun hi => callMethod_same howns hi method
  | save i => exact assertAlive_same howns i fun hi => .some (save_same howns hpool hi)
  | load i snapshot =>
    exact assertAlive_same howns i fun hi => .some (load_same howns hpool hi snapshot)
  | dispose i => exact dispose_same howns hpool i

theorem instantiate_represents (contextPool : Nat) (memory : Nat → Byte) :
    Represents contextPool (instantiateQe6502 contextPool memory) [] :=
  ⟨[], rfl, rfl, contextPoolReset_lends zeroedPool, List.forall_mem_nil _⟩

theorem Represents.count {r : Runtime} {cpus : OwnCpus} (h : Represents contextPool r cpus) :
    r.pool.freeContextCount + cpus.live = contextPoolCapacity := by
  obtain ⟨cells, _, rfl, howns⟩ := h
  rw [← cells.length_pointers]
  exact howns.lends.count

/-- Two objects with an accumulator each; the context of the first is lent again. -/
def twoCpus : List Call :=
  [.createCpu ⟨"0", some 0⟩, .createCpu ⟨"1", some 1⟩, .createCpu ⟨"9", some 9⟩,
    .method 0 (.set .a 7), .method 1 (.set .a 8), .method 0 (.get .a), .dispose 0,
    .createCpu ⟨"4", some 4⟩, .method 0 (.get .a), .method 1 (.get .a), .method 2 (.get .a)]

end isolation

end Js

end Qe6502
