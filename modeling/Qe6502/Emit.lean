import Qe6502.Assembler

/-!
# Instruction methods

The methods of `Asm6502` that emit instructions.  Each appends its commands to the program.  A
method with addressing modes looks its opcode up in a table of its own, which also says whether
the operand is a word, and throws if the mode is not there.  The wrappers without a mode pass
`imm`, or `abs` for JMP.
-/

namespace Qe6502

namespace Asm6502

/-- `address_mode_id`. -/
inductive AddressMode
  | acc | imm | zp | zpx | zpy | abs | abx | aby | ind | izx | izy | rel
deriving DecidableEq

/-- `mode_opcode`. -/
structure ModeOpcode where
  mode : AddressMode
  opcode : Byte
  wordOperand : Bool

/-- The commands that a method appends, or the text of its `std::invalid_argument`. -/
abbrev Emission := Except String (List Command)

def emitImplied (opcode : Byte) : List Command := [.addByte opcode]

def emitBranch (opcode : Byte) (label : String) (displacement : Int) : List Command :=
  [.addByte opcode, .addRelative (.symbol label displacement)]

/-- `add_word` or `add_low`. -/
def addOperand (wordOperand : Bool) (target : LinkTarget) : Command :=
  if wordOperand then .addWord target else .addLow target

def emitAddressed (mnemonic : String) (mode : AddressMode) (target : LinkTarget)
    (table : List ModeOpcode) : Emission :=
  match table.find? (·.mode = mode) with
  | some entry => .ok [.addByte entry.opcode, addOperand entry.wordOperand target]
  | none => .error ("unsupported " ++ mnemonic ++ " addressing mode")

/-! ### Opcodes that are chosen by the caller -/

def isKilJamOpcode (opcode : Byte) : Bool :=
  opcode ∈ [0x02#8, 0x12#8, 0x22#8, 0x32#8, 0x42#8, 0x52#8, 0x62#8, 0x72#8, 0x92#8, 0xB2#8,
    0xD2#8, 0xF2#8]

def isNopImpliedOpcode (opcode : Byte) : Bool :=
  opcode ∈ [0x1A#8, 0x3A#8, 0x5A#8, 0x7A#8, 0xDA#8, 0xEA#8, 0xFA#8]

def isNopByteOperandOpcode (opcode : Byte) : Bool :=
  opcode ∈ [0x04#8, 0x14#8, 0x34#8, 0x44#8, 0x54#8, 0x64#8, 0x74#8, 0x80#8, 0x82#8, 0x89#8,
    0xC2#8, 0xD4#8, 0xE2#8, 0xF4#8]

def isNopWordOperandOpcode (opcode : Byte) : Bool :=
  opcode ∈ [0x0C#8, 0x1C#8, 0x3C#8, 0x5C#8, 0x7C#8, 0xDC#8, 0xFC#8]

def kilOpcode (opcode : Byte) : Emission :=
  if isKilJamOpcode opcode then .ok (emitImplied opcode)
  else .error ("unsupported KIL/JAM opcode " ++ hex8 opcode)

def nopOpcode (opcode : Byte) : Emission :=
  if isNopImpliedOpcode opcode then .ok (emitImplied opcode)
  else if isNopByteOperandOpcode opcode || isNopWordOperandOpcode opcode then
    .error ("NOP opcode " ++ hex8 opcode ++ " requires an operand")
  else .error ("unsupported NOP opcode " ++ hex8 opcode)

def nopOpcodeImpl (opcode : Byte) (target : LinkTarget) : Emission :=
  if isNopByteOperandOpcode opcode then .ok [.addByte opcode, .addLow target]
  else if isNopWordOperandOpcode opcode then .ok [.addByte opcode, .addWord target]
  else if isNopImpliedOpcode opcode then
    .error ("NOP opcode " ++ hex8 opcode ++ " does not take an operand")
  else .error ("unsupported NOP opcode " ++ hex8 opcode)

def ancImpl (opcode : Byte) (mode : AddressMode) (target : LinkTarget) : Emission :=
  if opcode ≠ 0x0B ∧ opcode ≠ 0x2B then .error ("unsupported ANC opcode " ++ hex8 opcode)
  else emitAddressed "ANC" mode target [⟨.imm, opcode, false⟩]

def sbcOpcodeImpl (opcode : Byte) (mode : AddressMode) (target : LinkTarget) : Emission :=
  if opcode ≠ 0xE9 ∧ opcode ≠ 0xEB then
    .error ("unsupported SBC immediate opcode " ++ hex8 opcode)
  else emitAddressed "SBC" mode target [⟨.imm, opcode, false⟩]

/-! ### Methods with addressing modes -/

def illegalRmwImpl (mnemonic : String) (mode : AddressMode) (target : LinkTarget)
    (izxOpcode zpOpcode zpxOpcode absOpcode abxOpcode abyOpcode izyOpcode : Byte) : Emission :=
  emitAddressed mnemonic mode target
    [⟨.izx, izxOpcode, false⟩, ⟨.zp, zpOpcode, false⟩, ⟨.zpx, zpxOpcode, false⟩,
      ⟨.abs, absOpcode, true⟩, ⟨.abx, abxOpcode, true⟩, ⟨.aby, abyOpcode, true⟩,
      ⟨.izy, izyOpcode, false⟩]

def rmwImpl (mnemonic : String) (mode : AddressMode) (target : LinkTarget)
    (zpOpcode zpxOpcode absOpcode abxOpcode : Byte) : Emission :=
  emitAddressed mnemonic mode target
    [⟨.zp, zpOpcode, false⟩, ⟨.zpx, zpxOpcode, false⟩, ⟨.abs, absOpcode, true⟩,
      ⟨.abx, abxOpcode, true⟩]

section methods

variable (mode : AddressMode) (target : LinkTarget)

def ahxImpl : Emission := emitAddressed "AHX" mode target [⟨.izy, 0x93, false⟩, ⟨.aby, 0x9F, true⟩]

def alrImpl : Emission := emitAddressed "ALR" mode target [⟨.imm, 0x4B, false⟩]

def arrImpl : Emission := emitAddressed "ARR" mode target [⟨.imm, 0x6B, false⟩]

def axsImpl : Emission := emitAddressed "AXS" mode target [⟨.imm, 0xCB, false⟩]

def dcpImpl : Emission := illegalRmwImpl "DCP" mode target 0xC3 0xC7 0xD7 0xCF 0xDF 0xDB 0xD3

def iscImpl : Emission := illegalRmwImpl "ISC" mode target 0xE3 0xE7 0xF7 0xEF 0xFF 0xFB 0xF3

def lasImpl : Emission := emitAddressed "LAS" mode target [⟨.aby, 0xBB, true⟩]

def laxImpl : Emission :=
  emitAddressed "LAX" mode target
    [⟨.izx, 0xA3, false⟩, ⟨.zp, 0xA7, false⟩, ⟨.zpy, 0xB7, false⟩, ⟨.abs, 0xAF, true⟩,
      ⟨.aby, 0xBF, true⟩, ⟨.izy, 0xB3, false⟩]

def lxaImpl : Emission := emitAddressed "LXA" mode target [⟨.imm, 0xAB, false⟩]

def nopImpl : Emission :=
  emitAddressed "NOP" mode target
    [⟨.imm, 0x80, false⟩, ⟨.zp, 0x04, false⟩, ⟨.zpx, 0x14, false⟩, ⟨.abs, 0x0C, true⟩,
      ⟨.abx, 0x1C, true⟩]

def rlaImpl : Emission := illegalRmwImpl "RLA" mode target 0x23 0x27 0x37 0x2F 0x3F 0x3B 0x33

def rraImpl : Emission := illegalRmwImpl "RRA" mode target 0x63 0x67 0x77 0x6F 0x7F 0x7B 0x73

def saxImpl : Emission :=
  emitAddressed "SAX" mode target
    [⟨.izx, 0x83, false⟩, ⟨.zp, 0x87, false⟩, ⟨.zpy, 0x97, false⟩, ⟨.abs, 0x8F, true⟩]

def sbcUnofficialImpl : Emission := sbcOpcodeImpl 0xEB mode target

def shxImpl : Emission := emitAddressed "SHX" mode target [⟨.aby, 0x9E, true⟩]

def shyImpl : Emission := emitAddressed "SHY" mode target [⟨.abx, 0x9C, true⟩]

def sloImpl : Emission := illegalRmwImpl "SLO" mode target 0x03 0x07 0x17 0x0F 0x1F 0x1B 0x13

def sreImpl : Emission := illegalRmwImpl "SRE" mode target 0x43 0x47 0x57 0x4F 0x5F 0x5B 0x53

def tasImpl : Emission := emitAddressed "TAS" mode target [⟨.aby, 0x9B, true⟩]

def xaaImpl : Emission := emitAddressed "XAA" mode target [⟨.imm, 0x8B, false⟩]

def adcImpl : Emission :=
  emitAddressed "ADC" mode target
    [⟨.imm, 0x69, false⟩, ⟨.zp, 0x65, false⟩, ⟨.zpx, 0x75, false⟩, ⟨.abs, 0x6D, true⟩,
      ⟨.abx, 0x7D, true⟩, ⟨.aby, 0x79, true⟩, ⟨.izx, 0x61, false⟩, ⟨.izy, 0x71, false⟩]

def andImpl : Emission :=
  emitAddressed "AND" mode target
    [⟨.imm, 0x29, false⟩, ⟨.zp, 0x25, false⟩, ⟨.zpx, 0x35, false⟩, ⟨.abs, 0x2D, true⟩,
      ⟨.abx, 0x3D, true⟩, ⟨.aby, 0x39, true⟩, ⟨.izx, 0x21, false⟩, ⟨.izy, 0x31, false⟩]

def bitImpl : Emission := emitAddressed "BIT" mode target [⟨.zp, 0x24, false⟩, ⟨.abs, 0x2C, true⟩]

def cmpImpl : Emission :=
  emitAddressed "CMP" mode target
    [⟨.imm, 0xC9, false⟩, ⟨.zp, 0xC5, false⟩, ⟨.zpx, 0xD5, false⟩, ⟨.abs, 0xCD, true⟩,
      ⟨.abx, 0xDD, true⟩, ⟨.aby, 0xD9, true⟩, ⟨.izx, 0xC1, false⟩, ⟨.izy, 0xD1, false⟩]

def cpxImpl : Emission :=
  emitAddressed "CPX" mode target
    [⟨.imm, 0xE0, false⟩, ⟨.zp, 0xE4, false⟩, ⟨.abs, 0xEC, true⟩]

def cpyImpl : Emission :=
  emitAddressed "CPY" mode target
    [⟨.imm, 0xC0, false⟩, ⟨.zp, 0xC4, false⟩, ⟨.abs, 0xCC, true⟩]

def decImpl : Emission := rmwImpl "DEC" mode target 0xC6 0xD6 0xCE 0xDE

def eorImpl : Emission :=
  emitAddressed "EOR" mode target
    [⟨.imm, 0x49, false⟩, ⟨.zp, 0x45, false⟩, ⟨.zpx, 0x55, false⟩, ⟨.abs, 0x4D, true⟩,
      ⟨.abx, 0x5D, true⟩, ⟨.aby, 0x59, true⟩, ⟨.izx, 0x41, false⟩, ⟨.izy, 0x51, false⟩]

def incImpl : Emission := rmwImpl "INC" mode target 0xE6 0xF6 0xEE 0xFE

def jmpImpl : Emission := emitAddressed "JMP" mode target [⟨.abs, 0x4C, true⟩, ⟨.ind, 0x6C, true⟩]

def ldaImpl : Emission :=
  emitAddressed "LDA" mode target
    [⟨.imm, 0xA9, false⟩, ⟨.zp, 0xA5, false⟩, ⟨.zpx, 0xB5, false⟩, ⟨.abs, 0xAD, true⟩,
      ⟨.abx, 0xBD, true⟩, ⟨.aby, 0xB9, true⟩, ⟨.izx, 0xA1, false⟩, ⟨.izy, 0xB1, false⟩]

def ldxImpl : Emission :=
  emitAddressed "LDX" mode target
    [⟨.imm, 0xA2, false⟩, ⟨.zp, 0xA6, false⟩, ⟨.zpy, 0xB6, false⟩, ⟨.abs, 0xAE, true⟩,
      ⟨.aby, 0xBE, true⟩]

def ldyImpl : Emission :=
  emitAddressed "LDY" mode target
    [⟨.imm, 0xA0, false⟩, ⟨.zp, 0xA4, false⟩, ⟨.zpx, 0xB4, false⟩, ⟨.abs, 0xAC, true⟩,
      ⟨.abx, 0xBC, true⟩]

def oraImpl : Emission :=
  emitAddressed "ORA" mode target
    [⟨.imm, 0x09, false⟩, ⟨.zp, 0x05, false⟩, ⟨.zpx, 0x15, false⟩, ⟨.abs, 0x0D, true⟩,
      ⟨.abx, 0x1D, true⟩, ⟨.aby, 0x19, true⟩, ⟨.izx, 0x01, false⟩, ⟨.izy, 0x11, false⟩]

def sbcImpl : Emission :=
  emitAddressed "SBC" mode target
    [⟨.imm, 0xE9, false⟩, ⟨.zp, 0xE5, false⟩, ⟨.zpx, 0xF5, false⟩, ⟨.abs, 0xED, true⟩,
      ⟨.abx, 0xFD, true⟩, ⟨.aby, 0xF9, true⟩, ⟨.izx, 0xE1, false⟩, ⟨.izy, 0xF1, false⟩]

def staImpl : Emission :=
  emitAddressed "STA" mode target
    [⟨.zp, 0x85, false⟩, ⟨.zpx, 0x95, false⟩, ⟨.abs, 0x8D, true⟩, ⟨.abx, 0x9D, true⟩,
      ⟨.aby, 0x99, true⟩, ⟨.izx, 0x81, false⟩, ⟨.izy, 0x91, false⟩]

def stxImpl : Emission :=
  emitAddressed "STX" mode target
    [⟨.zp, 0x86, false⟩, ⟨.zpy, 0x96, false⟩, ⟨.abs, 0x8E, true⟩]

def styImpl : Emission :=
  emitAddressed "STY" mode target
    [⟨.zp, 0x84, false⟩, ⟨.zpx, 0x94, false⟩, ⟨.abs, 0x8C, true⟩]

def aslMode : Emission := rmwImpl "ASL" mode target 0x06 0x16 0x0E 0x1E

def lsrMode : Emission := rmwImpl "LSR" mode target 0x46 0x56 0x4E 0x5E

def rolMode : Emission := rmwImpl "ROL" mode target 0x26 0x36 0x2E 0x3E

def rorMode : Emission := rmwImpl "ROR" mode target 0x66 0x76 0x6E 0x7E

end methods

def jsr (target : LinkTarget) : List Command := [.addByte 0x20, .addWord target]

/-! ### Branches -/

def bcc : String → Int → List Command := emitBranch 0x90
def bcs : String → Int → List Command := emitBranch 0xB0
def beq : String → Int → List Command := emitBranch 0xF0
def bmi : String → Int → List Command := emitBranch 0x30
def bne : String → Int → List Command := emitBranch 0xD0
def bpl : String → Int → List Command := emitBranch 0x10
def bvc : String → Int → List Command := emitBranch 0x50
def bvs : String → Int → List Command := emitBranch 0x70

/-! ### Implied operands -/

def asl : List Command := emitImplied 0x0A
def lsr : List Command := emitImplied 0x4A
def rol : List Command := emitImplied 0x2A
def ror : List Command := emitImplied 0x6A
def brk : List Command := emitImplied 0x00
def clc : List Command := emitImplied 0x18
def cld : List Command := emitImplied 0xD8
def cli : List Command := emitImplied 0x58
def clv : List Command := emitImplied 0xB8
def dex : List Command := emitImplied 0xCA
def dey : List Command := emitImplied 0x88
def inx : List Command := emitImplied 0xE8
def iny : List Command := emitImplied 0xC8
def nop : List Command := emitImplied 0xEA
def pha : List Command := emitImplied 0x48
def php : List Command := emitImplied 0x08
def pla : List Command := emitImplied 0x68
def plp : List Command := emitImplied 0x28
def rti : List Command := emitImplied 0x40
def rts : List Command := emitImplied 0x60
def sec : List Command := emitImplied 0x38
def sed : List Command := emitImplied 0xF8
def sei : List Command := emitImplied 0x78
def tax : List Command := emitImplied 0xAA
def tay : List Command := emitImplied 0xA8
def tsx : List Command := emitImplied 0xBA
def txa : List Command := emitImplied 0x8A
def txs : List Command := emitImplied 0x9A
def tya : List Command := emitImplied 0x98

end Asm6502

end Qe6502
