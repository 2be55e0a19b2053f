import Qe6502.Cadence
import Qe6502.Effective

/-!
# The operations of the mnemonics

The operation of a shape is that of the mnemonic (`instructions_operate`), and the bytes that
stores, pushes and modifications write are known from the mnemonic and the registers.
-/

namespace Qe6502

namespace Mnemonic

/-- The register or registers that a store writes. -/
def stored (r : Registers) : Mnemonic → Byte
  | sta => r.a
  | stx => r.x
  | sty => r.y
  | sax => r.a &&& r.x
  | _ => 0

/-- The registers that an unstable store masks. -/
def masked (r : Registers) : Mnemonic → Byte
  | shx => r.x
  | shy => r.y
  | _ => r.a &&& r.x

/-- The handler of a push. -/
def push : Mnemonic → Option Handler
  | pha => some .opPhaStackPushReadyNonePendingNoneWrPrefetch
  | php => some .opPhpStackPushReadyNonePendingNoneWrPrefetch
  | phx => some .opCmosPhxStackPushReadyNonePendingNoneWrPrefetch
  | phy => some .opCmosPhyStackPushReadyNonePendingNoneWrPrefetch
  | _ => none

/-- The byte that is pushed. -/
def pushed (r : Registers) : Mnemonic → Byte
  | pha => r.a
  | phx => r.x
  | phy => r.y
  | _ => stackStatus r.p flagB

/-- RMB clears a bit and SMB sets it; the opcode has the number of the bit in its high nibble, and
SMB are the upper half. -/
def bitResult (opcode operand : Byte) : Byte :=
  let bit := 1#8 <<< (opcode.toNat / 16 % 8)
  if 128 ≤ opcode.toNat then operand ||| bit else operand &&& ~~~bit

/-- The byte that a modification makes of its operand. -/
def result (opcode : Byte) (r : Registers) (operand : Byte) : Mnemonic → Byte
  | asl | slo => operand <<< 1
  | lsr | sre => operand >>> 1
  | rol | rla => operand <<< 1 ||| r.p &&& flagC
  | ror | rra => operand >>> 1 ||| (r.p &&& flagC) <<< 7
  | inc | isc => operand + 1
  | dec | dcp => operand - 1
  | trb => operand &&& ~~~r.a
  | tsb => operand ||| r.a
  | rmb | smb => bitResult opcode operand
  | _ => operand

end Mnemonic

/-- The instruction writes nothing. -/
def Instruction.silent (i : Instruction) : Bool :=
  match i.mnemonic with
  | .sta | .stx | .sty | .stz | .sax | .ahx | .shx | .shy | .tas | .pha | .php | .phx | .phy
  | .jsr | .brk => false
  | m => m.access ≠ .modify || i.mode = .acc

/-- The operation of the shape is that of the mnemonic. -/
def Shape.operates (model : Nat) (i : Instruction) : Shape → Bool
  | .read cmos mode op => Shape.fits model i (.read cmos mode op) && i.silent &&
    if isCmos model && mode = .imm && i.mnemonic = .bit then
      op.handler = .opCmosBitImmReadyNonePendingDataFetch
    else (i.mnemonic.load (model = 1)).map Load.handler = some op.handler
  | .readDecimal mode op => Shape.fits model i (.readDecimal mode op) && i.silent &&
      (i.mnemonic.sum model mode).map Sum.handler = some op.handler
  | .write cmos mode source => Shape.fits model i (.write cmos mode source) &&
      i.mnemonic.source = some source
  | .unstable mode op => Shape.fits model i (.unstable mode op) &&
      i.mnemonic.unstable.map Unstable.handler = some op.handler
  | .modify cmos mode op => Shape.fits model i (.modify cmos mode op) && i.mode ≠ .acc &&
      (i.mnemonic.modify (model = 1)).map Modify.handler = some op.handler
  | .modifyShort op => Shape.fits model i (.modifyShort op) && i.mode ≠ .acc &&
      (i.mnemonic.modify false).map Modify.handler = some op.handler
  | .push op => i.mnemonic.push = some op.handler
  | .call => i.mnemonic = .jsr
  | .brk => !isCmos model && i.mnemonic = .brk
  | .brkCmos => isCmos model && i.mnemonic = .brk
  | .jam => i.mnemonic = .kil
  | _ => i.silent

theorem instructions_operate : ∀ model < 5, instructionTables[model]?.all (List.all · fun i =>
    (i.shape model).any (Shape.operates model i)) = true := by
  decide +kernel

section operates

variable {model : Nat} {i : Instruction}

theorem source_stored {source : Source} (h : i.mnemonic.source = some source) (cpu : Cpu) :
    source.value cpu = i.mnemonic.stored cpu.registers := by
  obtain ⟨m, mode⟩ := i
  cases m <;> cases h <;> rfl

theorem unstable_masked {op : Unstable}
    (h : i.mnemonic.unstable.map Unstable.handler = some op.handler) (r : Registers) :
    op.source r = i.mnemonic.masked r := by
  obtain ⟨m, mode⟩ := i
  obtain ⟨handler, hop⟩ := op
  cases m <;> cases h <;> rfl

theorem push_pushed {op : Push} (h : i.mnemonic.push = some op.handler) (r : Registers) :
    op.value r = i.mnemonic.pushed r := by
  obtain ⟨m, mode⟩ := i
  obtain ⟨handler, hop⟩ := op
  cases m <;> cases h <;> rfl

theorem bitMask_ofNat : ∀ n < 8, bitMask (BitVec.ofNat 8 n) = 1#8 <<< n := by
  decide

theorem rmbSmb_result (cpu : Cpu) :
    (opWdcRmbSmbRwReadyAddrDataPendingNoneWrPrefetch cpu 0).2.bus =
      Mnemonic.bitResult (currentOpcodeSlot cpu) cpu.latchData := by
  have hlt : (currentOpcodeSlot cpu).toNat / 16 % 8 < 8 := by omega
  have hbit := opcode_bit (currentOpcodeSlot cpu)
  have hmask := bitMask_ofNat _ hlt
  have hrun : (opWdcRmbSmbRwReadyAddrDataPendingNoneWrPrefetch cpu 0).2.bus =
      if currentOpcodeSlot cpu >>> 4 < 8#8
        then cpu.latchData &&& ~~~bitMask (currentOpcodeSlot cpu >>> 4)
        else cpu.latchData ||| bitMask (currentOpcodeSlot cpu >>> 4 - 8) := rfl
  rw [hrun, Mnemonic.bitResult]
  by_cases hupper : 128 ≤ (currentOpcodeSlot cpu).toNat
  · rw [if_pos hupper] at hbit ⊢
    rw [if_neg hbit.1, hbit.2, hmask]
  · rw [if_neg hupper] at hbit ⊢
    rw [if_pos hbit.1, hbit.2, hmask]

theorem modify_result {op : Modify} {nes : Bool}
    (h : (i.mnemonic.modify nes).map Modify.handler = some op.handler) (cpu : Cpu) :
    op.value cpu = i.mnemonic.result (currentOpcodeSlot cpu) cpu.registers cpu.latchData := by
  obtain ⟨m, mode⟩ := i
  obtain ⟨handler, hop⟩ := op
  cases m <;> cases h
  case rmb | smb => exact rmbSmb_result cpu
  case isc | rra => cases nes <;> rfl
  all_goals rfl

end operates

end Qe6502
