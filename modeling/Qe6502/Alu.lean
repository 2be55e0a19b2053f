import Qe6502.Cpu

/-!
# Flags and arithmetic

The flag updates, shifts and the four decimal adders of `qe6502.c`.  The C code works in
`uint8_t` and `uint16_t` after the integer promotions; each cast back to eight or sixteen
bits is the width of the `BitVec` here.
-/

namespace Qe6502

def updateFlagsNz (cpu : Cpu) (value : Byte) : Cpu :=
  let mask := flagZ ||| flagN
  let flags := flagZIf (value = 0) ||| (value &&& flagN)
  { cpu with p := (cpu.p &&& ~~~mask) ||| flags }

def updateFlagsNzc (cpu : Cpu) (value carry : Byte) : Cpu :=
  let mask := flagC ||| flagZ ||| flagN
  let flags := (carry &&& flagC) ||| flagZIf (value = 0) ||| (value &&& flagN)
  { cpu with p := (cpu.p &&& ~~~mask) ||| flags }

def compareRegisterWithValue (cpu : Cpu) (reg value : Byte) : Cpu :=
  let result := reg - value
  updateFlagsNzc cpu result (flagCIf (reg ≥ value))

def aslValue (cpu : Cpu) (value : Byte) : Cpu × Byte :=
  let result := value <<< 1
  (updateFlagsNzc cpu result (flagCIf (value &&& flagN ≠ 0)), result)

def lsrValue (cpu : Cpu) (value : Byte) : Cpu × Byte :=
  let result := value >>> 1
  (updateFlagsNzc cpu result (flagCIf (value &&& 1 ≠ 0)), result)

def rolValue (cpu : Cpu) (value : Byte) : Cpu × Byte :=
  let oldCarry := cpu.p &&& flagC
  let result := (value <<< 1) ||| oldCarry
  (updateFlagsNzc cpu result (flagCIf (value &&& flagN ≠ 0)), result)

def rorValue (cpu : Cpu) (value : Byte) : Cpu × Byte :=
  let oldCarry := cpu.p &&& flagC
  let result := (value >>> 1) ||| (oldCarry <<< 7)
  (updateFlagsNzc cpu result (flagCIf (value &&& 1 ≠ 0)), result)

def updateFlagsCvzn (cpu : Cpu) (flags : Byte) : Cpu :=
  let mask := flagC ||| flagZ ||| flagV ||| flagN
  { cpu with p := (cpu.p &&& ~~~mask) ||| (flags &&& mask) }

def arrBinaryValue (cpu : Cpu) (value : Byte) : Cpu × Byte :=
  let oldCarry := cpu.p &&& flagC
  let result := (value >>> 1) ||| (oldCarry <<< 7)
  let bit5 := result &&& 0x20
  let bit6 := result &&& 0x40
  let flags := flagCIf (bit6 ≠ 0) ||| flagZIf (result = 0) ||| (result &&& flagN) |||
    flagVIf ((bit6 >>> 1) ^^^ bit5 ≠ 0)
  (updateFlagsCvzn cpu flags, result)

def arrDecimalNmosValue (cpu : Cpu) (value : Byte) : Cpu × Byte :=
  let (cpu, result) := arrBinaryValue cpu value
  let adjusted :=
    if (value &&& 0x0F) + (value &&& 0x01) > 5 then
      (result &&& 0xF0) ||| ((result + 0x06) &&& 0x0F)
    else result
  -- the sum is compared after promotion to `int`, so it is taken in sixteen bits
  if (value &&& 0xF0).setWidth 16 + (value &&& 0x10).setWidth 16 > 0x0050#16 then
    ({ cpu with p := cpu.p ||| flagC }, adjusted + 0x60)
  else
    ({ cpu with p := cpu.p &&& ~~~flagC }, adjusted)

/-- The carry flag as a number. -/
def carryIn (cpu : Cpu) : Byte := if cpu.p &&& flagC ≠ 0 then 1 else 0

def adcBinary (cpu : Cpu) (value : Byte) : Cpu :=
  let carry := carryIn cpu
  let result16 : Word := cpu.a.setWidth 16 + value.setWidth 16 + carry.setWidth 16
  let result : Byte := result16.setWidth 8
  let flags := flagCIf (result16 > 0x00FF#16) ||| flagZIf (result = 0) ||| (result &&& flagN) |||
    flagVIf ((~~~(cpu.a ^^^ value) &&& (cpu.a ^^^ result)) &&& flagN ≠ 0)
  let cpu := updateFlagsCvzn cpu flags
  { cpu with a := result }

def adcDecimalNmos (cpu : Cpu) (value : Byte) : Cpu :=
  let carry := carryIn cpu
  let binResult := cpu.a + value + carry
  let low := (cpu.a &&& 0x0F) + (value &&& 0x0F) + carry
  let high := (cpu.a >>> 4) + (value >>> 4)
  let (low, high) := if low > 9 then (low - 10, high + 1) else (low, high)
  let result := (high <<< 4) ||| (low &&& 0x0F)
  let flags := flagZIf (binResult = 0) ||| (result &&& flagN) |||
    flagVIf ((~~~(cpu.a ^^^ value) &&& (cpu.a ^^^ result)) &&& flagN ≠ 0)
  let (result, flags) :=
    if high > 9 then (result - 10 * 16, flags ||| flagC) else (result, flags)
  let cpu := updateFlagsCvzn cpu flags
  { cpu with a := result }

def adcValue (cpu : Cpu) (value : Byte) : Cpu :=
  if cpu.p &&& flagD = 0 then adcBinary cpu value else adcDecimalNmos cpu value

/-- `low` and `high` are `int8_t` in the source: they are compared by their signed value. -/
def sbcDecimalNmos (cpu : Cpu) (value : Byte) : Cpu :=
  let carry := carryIn cpu
  let binResult := cpu.a + (value ^^^ 0xFF) + carry
  let carryInv : Byte := if carry = 0 then 1 else 0
  let low := (cpu.a &&& 0x0F) - (value &&& 0x0F) - carryInv
  let high := (cpu.a >>> 4) - (value >>> 4)
  let (low, high) := if low.toInt < 0 then (low + 10, high - 1) else (low, high)
  let result := (high <<< 4) ||| (low &&& 0x0F)
  let flags := flagC ||| flagZIf (binResult = 0) ||| (result &&& flagN) |||
    flagVIf (((cpu.a ^^^ value) &&& (cpu.a ^^^ result)) &&& flagN ≠ 0)
  let (result, flags) :=
    if high.toInt < 0 then (result + 10 * 16, flags &&& ~~~flagC) else (result, flags)
  let cpu := updateFlagsCvzn cpu flags
  { cpu with a := result }

def sbcValue (cpu : Cpu) (value : Byte) : Cpu :=
  if cpu.p &&& flagD = 0 then adcBinary cpu (value ^^^ 0xFF) else sbcDecimalNmos cpu value

def adcDecimalCmos (cpu : Cpu) (value : Byte) : Cpu :=
  let carry := carryIn cpu
  let result : Word := (cpu.a &&& 0x0F).setWidth 16 + (value &&& 0x0F).setWidth 16 +
    carry.setWidth 16
  let result := if result ≥ 0x000A#16 then 0x0010#16 ||| ((result + 6) &&& 0x000F) else result
  let result := result + (cpu.a &&& 0xF0).setWidth 16 + (value &&& 0xF0).setWidth 16
  let sameSign := (cpu.a ^^^ value) &&& flagN = 0
  let (result, flags) :=
    if result ≥ 0x00A0#16 then
      (result + 0x0060, flagC ||| flagVIf (result < 0x0180#16 ∧ sameSign))
    else
      (result, flagVIf (result ≥ 0x0080#16 ∧ sameSign))
  let result8 : Byte := result.setWidth 8
  let flags := flags ||| flagZIf (result8 = 0) ||| (result8 &&& flagN)
  let cpu := updateFlagsCvzn cpu flags
  { cpu with a := result8 }

def sbcDecimalCmos (cpu : Cpu) (value : Byte) : Cpu :=
  let carry := carryIn cpu
  let low := 0x0F + (cpu.a &&& 0x0F) - (value &&& 0x0F) + carry
  let high : Word := (cpu.a &&& 0xF0).setWidth 16 - (value &&& 0xF0).setWidth 16
  let (low, high) :=
    if low < 0x10#8 then (low - 0x06, high) else (low - 0x10, high + 0x0010)
  let overflowProbe : Byte := (high &&& 0x00F0).setWidth 8 + (low &&& 0x0F) - 0x10
  let flags := flagVIf (((cpu.a ^^^ value) &&& (cpu.a ^^^ overflowProbe)) &&& flagN ≠ 0)
  let high := high + 0x00F0
  let (high, flags) :=
    if high < 0x0100#16 then (high - 0x0060, flags) else (high, flags ||| flagC)
  let result : Byte := (high + low.setWidth 16).setWidth 8
  let flags := flags ||| flagZIf (result = 0) ||| (result &&& flagN)
  let cpu := updateFlagsCvzn cpu flags
  { cpu with a := result }

end Qe6502
