import Qe6502.Lib.Tables
import Qe6502.Cpu

/-!
# The assembler

`Asm6502` collects commands and compiles them to bytes at addresses.  A command is three
functions of a context: `resolve` defines symbols, `place` emits bytes and `updatePc` moves the
program counter.  `compileToMap` walks the commands with `resolve` until a pass defines nothing
new, and then once with `place`.

The loop over the passes has no bound in the source.  Here it is counted down from a number of
passes that are allowed, and has no result when these are used up.
-/

namespace Qe6502

namespace Asm6502

/-- `symbol_table`. -/
abbrev SymbolTable := Table String Word

/-- `memory_modifiers`. -/
abbrev MemoryModifiers := Table Word Byte

/-- `link_target`: a word, or a symbol with a displacement. -/
inductive LinkTarget
  | word (value : Word)
  | symbol (name : String) (displacement : Int)
deriving DecidableEq

/-! ### Errors -/

def hexDigit (n : Nat) : Char :=
  ['0', '1', '2', '3', '4', '5', '6', '7', '8', '9', 'A', 'B', 'C', 'D', 'E', 'F'].getD n '0'

def hex8 (value : Byte) : String :=
  String.ofList ['$', hexDigit (value.toNat / 16), hexDigit (value.toNat % 16)]

def hex16 (value : Word) : String :=
  String.ofList ['$', hexDigit (value.toNat / 4096), hexDigit (value.toNat / 256 % 16),
    hexDigit (value.toNat / 16 % 16), hexDigit (value.toNat % 16)]

/-- The exceptions of a compilation. -/
inductive Error
  | memoryOverwrite (address : Word) (old new : Byte)
  | symbolRedefined (name : String) (old new : Word)
  | undefinedSymbol (name : String)
  | undefinedSymbolInOrg (name : String)
  | relativeOutOfRange
deriving DecidableEq

namespace Error

/-- The message of an exception. -/
def what : Error → String
  | memoryOverwrite address old new =>
    "memory overwrite at " ++ hex16 address ++ " old=" ++ hex8 old ++ " new=" ++ hex8 new
  | symbolRedefined name old new =>
    "symbol redefined with different value: " ++ name ++ " old=" ++ hex16 old ++
      " new=" ++ hex16 new
  | undefinedSymbol name => "undefined symbol: " ++ name
  | undefinedSymbolInOrg name => "undefined symbol in org(): " ++ name
  | relativeOutOfRange => "relative branch target out of range"

end Error

/-! ### The context -/

/-- `asm_context`.  In the passes that resolve symbols there is no output, and nothing is put. -/
structure Context where
  symbols : SymbolTable
  pc : Word := 0
  output : MemoryModifiers := ∅

def Context.put (ctx : Context) (address : Word) (value : Byte) : Except Error Context :=
  match ctx.output address with
  | some old => .error (.memoryOverwrite address old value)
  | none => .ok { ctx with output := ctx.output.insert address value }

/-- `define_symbol`; the result says whether the symbol is new. -/
def defineSymbol (symbols : SymbolTable) (name : String) (value : Word) :
    Except Error (Bool × SymbolTable) :=
  match symbols name with
  | none => .ok (true, symbols.insert name value)
  | some old =>
    if old ≠ value then .error (.symbolRedefined name old value) else .ok (false, symbols)

/-- A value moved by a displacement. -/
def displaced (value : Word) (displacement : Int) : Word :=
  BitVec.ofInt 16 (value.toNat + displacement)

def resolveTarget (symbols : SymbolTable) : LinkTarget → Except Error Word
  | .word value => .ok value
  | .symbol name displacement =>
    match symbols name with
    | none => .error (.undefinedSymbol name)
    | some value => .ok (displaced value displacement)

/-- The distance from `base` to an address, as `add_relative` computes it. -/
def relativeTo (target base : Word) : Int :=
  let relative : Int := (target.toNat : Int) - (base.toNat : Int)
  if relative > 32767 then relative - 65536
  else if relative < -32768 then relative + 65536
  else relative

/-! ### Commands -/

/-- `asm_command`, by the method that adds it. -/
inductive Command
  | org (address : Word)
  | orgName (name : String)
  | label (name : String)
  | set (name : String) (value : Word)
  | setBase (name base : String) (displacement : Int)
  | addByte (value : Byte)
  | addLow (target : LinkTarget)
  | addWord (target : LinkTarget)
  | addRelative (target : LinkTarget)
  | addFixedWord (address : Word) (target : LinkTarget)
deriving DecidableEq

namespace Command

/-- Defines a symbol in a context. -/
def define (ctx : Context) (name : String) (value : Word) : Except Error (Bool × Context) := do
  let (added, symbols) ← defineSymbol ctx.symbols name value
  return (added, { ctx with symbols := symbols })

def resolve (ctx : Context) : Command → Except Error (Bool × Context)
  | label name => define ctx name ctx.pc
  | set name value => define ctx name value
  | setBase name base displacement =>
    match ctx.symbols base with
    | none => .ok (false, ctx)
    | some value => define ctx name (displaced value displacement)
  | _ => .ok (false, ctx)

def place (ctx : Context) : Command → Except Error Context
  | addByte value => ctx.put ctx.pc value
  | addLow target => do
    let value ← resolveTarget ctx.symbols target
    ctx.put ctx.pc (u16GetByte value 0)
  | addWord target => do
    let value ← resolveTarget ctx.symbols target
    let ctx ← ctx.put ctx.pc (u16GetByte value 0)
    ctx.put (ctx.pc + 1) (u16GetByte value 1)
  | addRelative target => do
    let targetAddress ← resolveTarget ctx.symbols target
    let relative := relativeTo targetAddress (ctx.pc + 1)
    if relative < -128 ∨ relative > 127 then .error .relativeOutOfRange
    else ctx.put ctx.pc (BitVec.ofInt 8 relative)
  | addFixedWord address target => do
    let value ← resolveTarget ctx.symbols target
    let ctx ← ctx.put address (u16GetByte value 0)
    ctx.put (address + 1) (u16GetByte value 1)
  | _ => .ok ctx

def updatePc (ctx : Context) : Command → Except Error Context
  | org address => .ok { ctx with pc := address }
  | orgName name =>
    match ctx.symbols name with
    | none => .error (.undefinedSymbolInOrg name)
    | some value => .ok { ctx with pc := value }
  | addByte _ | addLow _ | addRelative _ => .ok { ctx with pc := ctx.pc + 1 }
  | addWord _ => .ok { ctx with pc := ctx.pc + 2 }
  | _ => .ok ctx

end Command

/-! ### Directives -/

/-- `org(address, name)`. -/
def org (address : Word) (name : String) : List Command := [.org address, .label name]

def nmiVector (target : LinkTarget) : List Command := [.addFixedWord 0xFFFA target]

def resetVector (target : LinkTarget) : List Command := [.addFixedWord 0xFFFC target]

def brkIrqVector (target : LinkTarget) : List Command := [.addFixedWord 0xFFFE target]

/-! ### Compilation -/

/-- A pass of the commands that resolves symbols; the flag says whether one is new. -/
def resolvePass : List Command → Context → Bool → Except Error (Context × Bool)
  | [], ctx, changed => .ok (ctx, changed)
  | cmd :: commands, ctx, changed => do
    let (added, ctx) ← cmd.resolve ctx
    let ctx ← cmd.updatePc ctx
    resolvePass commands ctx (added || changed)

/-- The passes up to one that defines nothing new. -/
def resolveLoop (commands : List Command) :
    Nat → SymbolTable → Option (Except Error SymbolTable)
  | 0, _ => none
  | passes + 1, symbols =>
    match resolvePass commands { symbols := symbols } false with
    | .error e => some (.error e)
    | .ok (resolved, changed) =>
      if changed then resolveLoop commands passes resolved.symbols
      else some (.ok resolved.symbols)

/-- The pass that places the bytes. -/
def placePass : List Command → Context → Except Error Context
  | [], ctx => .ok ctx
  | cmd :: commands, ctx => do
    let ctx ← cmd.place ctx
    let ctx ← cmd.updatePc ctx
    placePass commands ctx

/-- `compile_to_map`, with a bound on the passes. -/
def compileToMap (passes : Nat) (commands : List Command) :
    Option (Except Error MemoryModifiers) :=
  (resolveLoop commands passes ∅).map fun resolved => do
    let symbols ← resolved
    let placed ← placePass commands { symbols := symbols }
    return placed.output

/-- The entries of a map in the order of the addresses. -/
def MemoryModifiers.entries (map : MemoryModifiers) : List (Word × Byte) :=
  (List.range 65536).filterMap fun n =>
    (map (BitVec.ofNat 16 n)).map (BitVec.ofNat 16 n, ·)

/-- `compile`, with a bound on the passes. -/
def compile (passes : Nat) (commands : List Command) :
    Option (Except Error (List (Word × Byte))) :=
  (compileToMap passes commands).map fun map => map.map MemoryModifiers.entries

/-- `apply`, to a memory. -/
def apply (changes : List (Word × Byte)) (memory : Word → Byte) : Word → Byte :=
  changes.foldl (fun memory c a => if a = c.1 then c.2 else memory a) memory

end Asm6502

end Qe6502
