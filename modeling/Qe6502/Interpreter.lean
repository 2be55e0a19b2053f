import Qe6502.Architecture
import Qe6502.Lib.Simulation

/-!
# The instruction set as an interpreter

One instruction of a model on the registers and a plain memory, from the mnemonic and the
addressing mode alone: `Isa.step` has no microcode, no latches and no cycles.  The sums are over
`ℕ` and `ℤ`.  In decimal mode ADC, SBC and ARR are the functions of their handlers, so that
there the interpreter says nothing new: what the digits are is in `Qe6502.Decimal`.
-/

namespace Qe6502

/-! ### Flags -/

/-- A flag set or cleared. -/
def putFlag (p mask : Byte) (on : Bool) : Byte := if on then p ||| mask else p &&& ~~~mask

/-- Z and N of a value. -/
def putNz (p value : Byte) : Byte := putFlag (putFlag p flagZ (value = 0)) flagN value.msb

namespace Registers

variable (r : Registers)

/-! ### Operations -/

def setA (value : Byte) : Registers := { r with a := value, p := putNz r.p value }
def setX (value : Byte) : Registers := { r with x := value, p := putNz r.p value }
def setY (value : Byte) : Registers := { r with y := value, p := putNz r.p value }

/-- The carry as a number. -/
def carried : ℕ := (r.p.getLsbD 0).toNat

/-- V of a signed sum: it does not fit in a byte. -/
def overflows (sum : ℤ) : Bool := sum < -128 || 127 < sum

/-- A sum in A, with its carry and its overflow. -/
def summed (value : Byte) (carry overflow : Bool) : Registers :=
  { r with a := value, p := putNz (putFlag (putFlag r.p flagC carry) flagV overflow) value }

/-- Binary addition with carry. -/
def adds (data : Byte) : Registers :=
  let sum := r.a.toNat + data.toNat + r.carried
  r.summed (BitVec.ofNat 8 sum) (256 ≤ sum) (overflows (r.a.toInt + data.toInt + r.carried))

/-- Binary subtraction with borrow, which is the carry inverted. -/
def subtracts (data : Byte) : Registers :=
  let borrow : ℤ := 1 - r.carried
  let difference : ℤ := r.a.toNat - data.toNat - borrow
  r.summed (BitVec.ofInt 8 difference) (0 ≤ difference)
    (overflows (r.a.toInt - data.toInt - borrow))

/-- ADC of a model: the NES has no decimal mode. -/
def adc (model : Nat) (data : Byte) : Registers :=
  if model = 1 ∨ r.p &&& flagD = 0 then r.adds data
  else if isCmos model then (adcDecimalCmos (r.cpu 0) data).registers
  else (adcDecimalNmos (r.cpu 0) data).registers

def sbc (model : Nat) (data : Byte) : Registers :=
  if model = 1 ∨ r.p &&& flagD = 0 then r.subtracts data
  else if isCmos model then (sbcDecimalCmos (r.cpu 0) data).registers
  else (sbcDecimalNmos (r.cpu 0) data).registers

/-- A comparison: the carry says that the register is not below the operand. -/
def compares (register data : Byte) : Registers :=
  { r with p := putNz (putFlag r.p flagC (data.toNat ≤ register.toNat)) (register - data) }

/-- Z of A and the operand. -/
def tests (data : Byte) : Registers := { r with p := putFlag r.p flagZ (r.a &&& data = 0) }

/-- BIT, which the CMOS models have with an immediate operand for Z alone. -/
def bit (immediate : Bool) (data : Byte) : Registers :=
  if immediate then r.tests data
  else { r with
    p := putFlag (putFlag (r.tests data).p flagV (data.getLsbD 6)) flagN (data.getLsbD 7) }

/-- A shift or rotate moves a bit of its operand into the carry. -/
def shifts (out : Bool) (result : Byte) : Registers :=
  { r with p := putNz (putFlag r.p flagC out) result }

/-- ARR in binary: AND and ROR, with C from bit 6 of the result and V from its bits 5 and 6. -/
def arr (data : Byte) : Registers :=
  let result := Mnemonic.ror.result 0 r (r.a &&& data)
  r.summed result (result.getLsbD 6) (result.getLsbD 6 ^^ result.getLsbD 5)

end Registers

namespace Mnemonic

/-- The registers after an operation on an operand. -/
def reads (model : Nat) (mode : Mode) (r : Registers) (data : Byte) : Mnemonic → Registers
  | lda => r.setA data
  | ldx => r.setX data
  | ldy => r.setY data
  | lax => { r.setA data with x := data }
  | and => r.setA (r.a &&& data)
  | ora => r.setA (r.a ||| data)
  | eor => r.setA (r.a ^^^ data)
  | adc => r.adc model data
  | sbc => r.sbc model data
  | cmp => r.compares r.a data
  | cpx => r.compares r.x data
  | cpy => r.compares r.y data
  | bit => r.bit (isCmos model && mode = .imm) data
  | anc =>
    let a := r.a &&& data
    { r.setA a with p := putNz (putFlag r.p flagC a.msb) a }
  | alr =>
    let a := r.a &&& data
    { r.shifts (a.getLsbD 0) (a >>> 1) with a := a >>> 1 }
  | arr =>
    if model = 1 ∨ r.p &&& flagD = 0 then r.arr data
    else (arrValue (r.cpu 0) (r.a &&& data)).registers
  | axs =>
    let both := r.a &&& r.x
    { r.compares both data with x := both - data }
  | xaa => r.setA ((r.a ||| 0xEE) &&& r.x &&& data)
  | lxa =>
    let value := (r.a ||| 0xEE) &&& data
    { r.setA value with x := value }
  | las =>
    let value := data &&& r.s
    { r.setA value with x := value, s := value }
  | _ => r

section reads

variable (model : Nat) (mode : Mode) (r : Registers) (data : Byte)

theorem reads_adc : reads model mode r data adc = r.adc model data := rfl
theorem reads_sbc : reads model mode r data sbc = r.sbc model data := rfl

theorem reads_bit :
    reads model mode r data bit = r.bit (isCmos model && decide (mode = .imm)) data := rfl

theorem reads_arr : reads model mode r data arr =
    if model = 1 ∨ r.p &&& flagD = 0 then r.arr data
    else (arrValue (r.cpu 0) (r.a &&& data)).registers := rfl

end reads

/-- The registers after a modification of an operand. -/
def modifies (model : Nat) (r : Registers) (data : Byte) (m : Mnemonic) : Registers :=
  let result := m.result 0 r data
  match m with
  | asl | rol => r.shifts data.msb result
  | lsr | ror => r.shifts (data.getLsbD 0) result
  | inc | dec => { r with p := putNz r.p result }
  | trb | tsb => r.tests data
  | slo => (r.shifts data.msb result).setA (r.a ||| result)
  | rla => (r.shifts data.msb result).setA (r.a &&& result)
  | sre => (r.shifts (data.getLsbD 0) result).setA (r.a ^^^ result)
  | rra => (r.shifts (data.getLsbD 0) result).adc model result
  | dcp => r.compares r.a result
  | isc => r.sbc model result
  | _ => r

/-- The registers after an instruction that works on them alone. -/
def works (r : Registers) : Mnemonic → Registers
  | clc => { r with p := putFlag r.p flagC false }
  | cld => { r with p := putFlag r.p flagD false }
  | cli => { r with p := putFlag r.p flagI false }
  | clv => { r with p := putFlag r.p flagV false }
  | sec => { r with p := putFlag r.p flagC true }
  | sed => { r with p := putFlag r.p flagD true }
  | sei => { r with p := putFlag r.p flagI true }
  | dex => r.setX (r.x - 1)
  | dey => r.setY (r.y - 1)
  | inx => r.setX (r.x + 1)
  | iny => r.setY (r.y + 1)
  | tax => r.setX r.a
  | tay => r.setY r.a
  | tsx => r.setX r.s
  | txa => r.setA r.x
  | txs => { r with s := r.x }
  | tya => r.setA r.y
  | _ => r

/-- The registers after a pull. -/
def pulls (r : Registers) (data : Byte) : Mnemonic → Registers
  | pla => r.setA data
  | plx => r.setX data
  | ply => r.setY data
  | _ => { r with p := pulledFlags data }

end Mnemonic

/-! ### Addresses -/

namespace Mode

variable (r : Registers) (memory : Word → Byte)

/-- The address in memory before a 16-bit index. -/
def based : Mode → Word
  | .abx | .aby => wordAt memory r.pc
  | .izy => zeroWordAt memory (memory r.pc)
  | mode => mode.effective r memory

/-- The index crosses a page. -/
def crossed (mode : Mode) : Bool :=
  mode.indexed && u16GetByte (mode.effective r memory) 1 ≠ u16GetByte (mode.based r memory) 1

/-- Where an unstable store writes: if a page is crossed, the value is the high byte of its own
address. -/
def misplaced (mode : Mode) (value : Byte) : Word :=
  if mode.crossed r memory then ofBytes (u16GetByte (mode.effective r memory) 0) value
  else mode.effective r memory

end Mode

/-! ### Instructions -/

namespace Isa

/-- The registers and the memory. -/
abbrev State := Registers × (Word → Byte)

end Isa

namespace Mnemonic

/-- An instruction without an operand.  A jam has no next state. -/
def implied (cmos : Bool) (r : Registers) (memory : Word → Byte) (m : Mnemonic) :
    Option Isa.State :=
  match m with
  | kil => none
  | brk => some (enters r memory cmos (r.pc + 1) 0xFFFE flagB)
  | rti => some (Shape.rti.does r memory)
  | rts => some (Shape.ret.does r memory)
  | pha | php | phx | phy =>
    some ({ r with s := r.s - 1 }, poke memory (stackAddress r.s) (m.pushed r))
  | pla | plp | plx | ply =>
    some (m.pulls { r with s := r.s + 1 } (memory (stackAddress (r.s + 1))), memory)
  | m => some (m.works r, memory)

/-- An unstable store masks its register with the high byte of the base, and TAS also moves it
to S. -/
def misstores (mode : Mode) (r : Registers) (memory : Word → Byte) (m : Mnemonic) : Isa.State :=
  let value := m.masked r &&& (u16GetByte (mode.based r memory) 1 + 1)
  let behind := mode.behind r
  (if m = tas then { behind with s := r.a &&& r.x } else behind,
    poke memory (mode.misplaced r memory value) value)

/-- An instruction with an operand. -/
def operand (model : Nat) (mode : Mode) (opcode : Byte) (r : Registers) (memory : Word → Byte)
    (m : Mnemonic) : Isa.State :=
  let address := mode.effective r memory
  let data := memory address
  let behind := mode.behind r
  match m with
  | jmp => Shape.jump.does r memory
  | jsr => Shape.call.does r memory
  | nopAbs | stNopAbs | stNopAbsHigh => (behind, memory)
  | sta | stx | sty | stz | sax => (behind, poke memory address (m.stored r))
  | ahx | shx | shy | tas => m.misstores mode r memory
  | m =>
    if m.access = .modify then
      (m.modifies model behind data, poke memory address (m.result opcode behind data))
    else (m.reads model mode behind data, memory)

end Mnemonic

/-- **An instruction**, with the program counter behind its opcode. -/
def Instruction.execute (model : Nat) (i : Instruction) (opcode : Byte) (r : Registers)
    (memory : Word → Byte) : Option Isa.State :=
  match i.mode with
  | .imp => i.mnemonic.implied (isCmos model) r memory
  | .acc => some ({ i.mnemonic.modifies model r r.a with a := i.mnemonic.result opcode r r.a },
      memory)
  | .rel =>
    let target := branchTarget (r.pc + 1) (memory r.pc)
    some ({ r with pc := if i.mnemonic.taken r.p then target else r.pc + 1 }, memory)
  | .zpRel =>
    let next := r.pc + 1 + 1
    let target := branchTarget next (memory (r.pc + 1))
    let taken := bitTaken opcode (memory (zeroPage (memory r.pc)))
    some ({ r with pc := if taken then target else next }, memory)
  | .ind => some ((if isCmos model then Shape.jumpIndCmos else .jumpInd).does r memory)
  | .indX => some ({ r with pc := wordAt memory (wordAt memory r.pc + zeroPage r.x) }, memory)
  | mode => some (i.mnemonic.operand model mode opcode r memory)

/-- The ticks of a branch: one more if it is taken, and another one to another page. -/
def turnTicks (taken : Bool) (next target : Word) : ℕ :=
  if taken then if u16GetByte next 1 = u16GetByte target 1 then 3 else 4 else 2

namespace Instruction

variable (model : Nat) (i : Instruction) (opcode : Byte) (r : Registers) (memory : Word → Byte)

/-- The ticks of an instruction that is neither a branch nor an indirect jump. -/
def plainTicks : ℕ :=
  match i.mnemonic with
  | .jmp => 3
  | .jsr | .rts | .rti => 6
  | .brk => 7
  | _ => i.cycles model + (if i.waits model && i.mode.crossed r memory then 1 else 0) +
      if i.adds model && r.p &&& flagD ≠ 0 then 1 else 0

/-- **The ticks of an instruction.** -/
def ticks : ℕ :=
  match i.mode with
  | .rel =>
    turnTicks (i.mnemonic.taken r.p) (r.pc + 1) (branchTarget (r.pc + 1) (memory r.pc))
  | .zpRel =>
    let next := r.pc + 1 + 1
    3 + turnTicks (bitTaken opcode (memory (zeroPage (memory r.pc)))) next
      (branchTarget next (memory (r.pc + 1)))
  | .ind => if isCmos model then 6 else 5
  | .indX => 6
  | _ => i.plainTicks model r memory

end Instruction

namespace Isa

/-- **One instruction of a model.** -/
def step (model : Nat) (s : State) : Option State :=
  let opcode := s.2 s.1.pc
  (instructionAt model opcode).bind fun i =>
    i.execute model opcode { s.1 with pc := s.1.pc + 1 } s.2

/-- The ticks of that instruction. -/
def ticks (model : Nat) (s : State) : ℕ :=
  let opcode := s.2 s.1.pc
  ((instructionAt model opcode).map fun i =>
    i.ticks model opcode { s.1 with pc := s.1.pc + 1 } s.2).getD 0

/-- `n` instructions. -/
def run (model : Nat) : ℕ → State → Option State := Simulation.iterate (step model)

/-- The ticks of `n` instructions. -/
def time (model : Nat) : ℕ → State → ℕ := Simulation.elapsed (step model) (ticks model)

end Isa

end Qe6502
