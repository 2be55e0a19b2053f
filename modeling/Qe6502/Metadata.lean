import Qe6502.Refines

/-!
# Opcode metadata

The toolbox describes the NMOS opcodes by a table of its own.  For the documented opcodes it is
what the core does: `opcode_metadata_sound`.
-/

namespace Qe6502

/-! ### The table -/

/-- `addressing_mode`. -/
inductive AddressingMode
  | illegal | implied | accumulator | immediate | zeroPage | zeroPageX | zeroPageY | relative
  | absolute | absoluteX | absoluteY | indirect | indexedIndirect | indirectIndexed
deriving DecidableEq

/-- `opcode_metadata`, with no mnemonic for "???". -/
structure OpcodeMetadata where
  opcode : Byte
  mnemonic : Option Mnemonic
  mode : AddressingMode
  bytes : ℕ
  cycles : ℕ
  legalNmos : Bool
  pageCrossExtraCycle : Bool
  branchExtraCycle : Bool
deriving DecidableEq

/-- `make_nmos_opcode_metadata_table`. -/
def nmosOpcodeMetadataTable : List OpcodeMetadata := [
  ⟨0x00, some .brk, .implied, 1, 7, true, false, false⟩,
  ⟨0x01, some .ora, .indexedIndirect, 2, 6, true, false, false⟩,
  ⟨0x02, none, .illegal, 1, 0, false, false, false⟩,
  ⟨0x03, none, .illegal, 1, 0, false, false, false⟩,
  ⟨0x04, none, .illegal, 1, 0, false, false, false⟩,
  ⟨0x05, some .ora, .zeroPage, 2, 3, true, false, false⟩,
  ⟨0x06, some .asl, .zeroPage, 2, 5, true, false, false⟩,
  ⟨0x07, none, .illegal, 1, 0, false, false, false⟩,
  ⟨0x08, some .php, .implied, 1, 3, true, false, false⟩,
  ⟨0x09, some .ora, .immediate, 2, 2, true, false, false⟩,
  ⟨0x0A, some .asl, .accumulator, 1, 2, true, false, false⟩,
  ⟨0x0B, none, .illegal, 1, 0, false, false, false⟩,
  ⟨0x0C, none, .illegal, 1, 0, false, false, false⟩,
  ⟨0x0D, some .ora, .absolute, 3, 4, true, false, false⟩,
  ⟨0x0E, some .asl, .absolute, 3, 6, true, false, false⟩,
  ⟨0x0F, none, .illegal, 1, 0, false, false, false⟩,
  ⟨0x10, some .bpl, .relative, 2, 2, true, false, true⟩,
  ⟨0x11, some .ora, .indirectIndexed, 2, 5, true, true, false⟩,
  ⟨0x12, none, .illegal, 1, 0, false, false, false⟩,
  ⟨0x13, none, .illegal, 1, 0, false, false, false⟩,
  ⟨0x14, none, .illegal, 1, 0, false, false, false⟩,
  ⟨0x15, some .ora, .zeroPageX, 2, 4, true, false, false⟩,
  ⟨0x16, some .asl, .zeroPageX, 2, 6, true, false, false⟩,
  ⟨0x17, none, .illegal, 1, 0, false, false, false⟩,
  ⟨0x18, some .clc, .implied, 1, 2, true, false, false⟩,
  ⟨0x19, some .ora, .absoluteY, 3, 4, true, true, false⟩,
  ⟨0x1A, none, .illegal, 1, 0, false, false, false⟩,
  ⟨0x1B, none, .illegal, 1, 0, false, false, false⟩,
  ⟨0x1C, none, .illegal, 1, 0, false, false, false⟩,
  ⟨0x1D, some .ora, .absoluteX, 3, 4, true, true, false⟩,
  ⟨0x1E, some .asl, .absoluteX, 3, 7, true, false, false⟩,
  ⟨0x1F, none, .illegal, 1, 0, false, false, false⟩,
  ⟨0x20, some .jsr, .absolute, 3, 6, true, false, false⟩,
  ⟨0x21, some .and, .indexedIndirect, 2, 6, true, false, false⟩,
  ⟨0x22, none, .illegal, 1, 0, false, false, false⟩,
  ⟨0x23, none, .illegal, 1, 0, false, false, false⟩,
  ⟨0x24, some .bit, .zeroPage, 2, 3, true, false, false⟩,
  ⟨0x25, some .and, .zeroPage, 2, 3, true, false, false⟩,
  ⟨0x26, some .rol, .zeroPage, 2, 5, true, false, false⟩,
  ⟨0x27, none, .illegal, 1, 0, false, false, false⟩,
  ⟨0x28, some .plp, .implied, 1, 4, true, false, false⟩,
  ⟨0x29, some .and, .immediate, 2, 2, true, false, false⟩,
  ⟨0x2A, some .rol, .accumulator, 1, 2, true, false, false⟩,
  ⟨0x2B, none, .illegal, 1, 0, false, false, false⟩,
  ⟨0x2C, some .bit, .absolute, 3, 4, true, false, false⟩,
  ⟨0x2D, some .and, .absolute, 3, 4, true, false, false⟩,
  ⟨0x2E, some .rol, .absolute, 3, 6, true, false, false⟩,
  ⟨0x2F, none, .illegal, 1, 0, false, false, false⟩,
  ⟨0x30, some .bmi, .relative, 2, 2, true, false, true⟩,
  ⟨0x31, some .and, .indirectIndexed, 2, 5, true, true, false⟩,
  ⟨0x32, none, .illegal, 1, 0, false, false, false⟩,
  ⟨0x33, none, .illegal, 1, 0, false, false, false⟩,
  ⟨0x34, none, .illegal, 1, 0, false, false, false⟩,
  ⟨0x35, some .and, .zeroPageX, 2, 4, true, false, false⟩,
  ⟨0x36, some .rol, .zeroPageX, 2, 6, true, false, false⟩,
  ⟨0x37, none, .illegal, 1, 0, false, false, false⟩,
  ⟨0x38, some .sec, .implied, 1, 2, true, false, false⟩,
  ⟨0x39, some .and, .absoluteY, 3, 4, true, true, false⟩,
  ⟨0x3A, none, .illegal, 1, 0, false, false, false⟩,
  ⟨0x3B, none, .illegal, 1, 0, false, false, false⟩,
  ⟨0x3C, none, .illegal, 1, 0, false, false, false⟩,
  ⟨0x3D, some .and, .absoluteX, 3, 4, true, true, false⟩,
  ⟨0x3E, some .rol, .absoluteX, 3, 7, true, false, false⟩,
  ⟨0x3F, none, .illegal, 1, 0, false, false, false⟩,
  ⟨0x40, some .rti, .implied, 1, 6, true, false, false⟩,
  ⟨0x41, some .eor, .indexedIndirect, 2, 6, true, false, false⟩,
  ⟨0x42, none, .illegal, 1, 0, false, false, false⟩,
  ⟨0x43, none, .illegal, 1, 0, false, false, false⟩,
  ⟨0x44, none, .illegal, 1, 0, false, false, false⟩,
  ⟨0x45, some .eor, .zeroPage, 2, 3, true, false, false⟩,
  ⟨0x46, some .lsr, .zeroPage, 2, 5, true, false, false⟩,
  ⟨0x47, none, .illegal, 1, 0, false, false, false⟩,
  ⟨0x48, some .pha, .implied, 1, 3, true, false, false⟩,
  ⟨0x49, some .eor, .immediate, 2, 2, true, false, false⟩,
  ⟨0x4A, some .lsr, .accumulator, 1, 2, true, false, false⟩,
  ⟨0x4B, none, .illegal, 1, 0, false, false, false⟩,
  ⟨0x4C, some .jmp, .absolute, 3, 3, true, false, false⟩,
  ⟨0x4D, some .eor, .absolute, 3, 4, true, false, false⟩,
  ⟨0x4E, some .lsr, .absolute, 3, 6, true, false, false⟩,
  ⟨0x4F, none, .illegal, 1, 0, false, false, false⟩,
  ⟨0x50, some .bvc, .relative, 2, 2, true, false, true⟩,
  ⟨0x51, some .eor, .indirectIndexed, 2, 5, true, true, false⟩,
  ⟨0x52, none, .illegal, 1, 0, false, false, false⟩,
  ⟨0x53, none, .illegal, 1, 0, false, false, false⟩,
  ⟨0x54, none, .illegal, 1, 0, false, false, false⟩,
  ⟨0x55, some .eor, .zeroPageX, 2, 4, true, false, false⟩,
  ⟨0x56, some .lsr, .zeroPageX, 2, 6, true, false, false⟩,
  ⟨0x57, none, .illegal, 1, 0, false, false, false⟩,
  ⟨0x58, some .cli, .implied, 1, 2, true, false, false⟩,
  ⟨0x59, some .eor, .absoluteY, 3, 4, true, true, false⟩,
  ⟨0x5A, none, .illegal, 1, 0, false, false, false⟩,
  ⟨0x5B, none, .illegal, 1, 0, false, false, false⟩,
  ⟨0x5C, none, .illegal, 1, 0, false, false, false⟩,
  ⟨0x5D, some .eor, .absoluteX, 3, 4, true, true, false⟩,
  ⟨0x5E, some .lsr, .absoluteX, 3, 7, true, false, false⟩,
  ⟨0x5F, none, .illegal, 1, 0, false, false, false⟩,
  ⟨0x60, some .rts, .implied, 1, 6, true, false, false⟩,
  ⟨0x61, some .adc, .indexedIndirect, 2, 6, true, false, false⟩,
  ⟨0x62, none, .illegal, 1, 0, false, false, false⟩,
  ⟨0x63, none, .illegal, 1, 0, false, false, false⟩,
  ⟨0x64, none, .illegal, 1, 0, false, false, false⟩,
  ⟨0x65, some .adc, .zeroPage, 2, 3, true, false, false⟩,
  ⟨0x66, some .ror, .zeroPage, 2, 5, true, false, false⟩,
  ⟨0x67, none, .illegal, 1, 0, false, false, false⟩,
  ⟨0x68, some .pla, .implied, 1, 4, true, false, false⟩,
  ⟨0x69, some .adc, .immediate, 2, 2, true, false, false⟩,
  ⟨0x6A, some .ror, .accumulator, 1, 2, true, false, false⟩,
  ⟨0x6B, none, .illegal, 1, 0, false, false, false⟩,
  ⟨0x6C, some .jmp, .indirect, 3, 5, true, false, false⟩,
  ⟨0x6D, some .adc, .absolute, 3, 4, true, false, false⟩,
  ⟨0x6E, some .ror, .absolute, 3, 6, true, false, false⟩,
  ⟨0x6F, none, .illegal, 1, 0, false, false, false⟩,
  ⟨0x70, some .bvs, .relative, 2, 2, true, false, true⟩,
  ⟨0x71, some .adc, .indirectIndexed, 2, 5, true, true, false⟩,
  ⟨0x72, none, .illegal, 1, 0, false, false, false⟩,
  ⟨0x73, none, .illegal, 1, 0, false, false, false⟩,
  ⟨0x74, none, .illegal, 1, 0, false, false, false⟩,
  ⟨0x75, some .adc, .zeroPageX, 2, 4, true, false, false⟩,
  ⟨0x76, some .ror, .zeroPageX, 2, 6, true, false, false⟩,
  ⟨0x77, none, .illegal, 1, 0, false, false, false⟩,
  ⟨0x78, some .sei, .implied, 1, 2, true, false, false⟩,
  ⟨0x79, some .adc, .absoluteY, 3, 4, true, true, false⟩,
  ⟨0x7A, none, .illegal, 1, 0, false, false, false⟩,
  ⟨0x7B, none, .illegal, 1, 0, false, false, false⟩,
  ⟨0x7C, none, .illegal, 1, 0, false, false, false⟩,
  ⟨0x7D, some .adc, .absoluteX, 3, 4, true, true, false⟩,
  ⟨0x7E, some .ror, .absoluteX, 3, 7, true, false, false⟩,
  ⟨0x7F, none, .illegal, 1, 0, false, false, false⟩,
  ⟨0x80, none, .illegal, 1, 0, false, false, false⟩,
  ⟨0x81, some .sta, .indexedIndirect, 2, 6, true, false, false⟩,
  ⟨0x82, none, .illegal, 1, 0, false, false, false⟩,
  ⟨0x83, none, .illegal, 1, 0, false, false, false⟩,
  ⟨0x84, some .sty, .zeroPage, 2, 3, true, false, false⟩,
  ⟨0x85, some .sta, .zeroPage, 2, 3, true, false, false⟩,
  ⟨0x86, some .stx, .zeroPage, 2, 3, true, false, false⟩,
  ⟨0x87, none, .illegal, 1, 0, false, false, false⟩,
  ⟨0x88, some .dey, .implied, 1, 2, true, false, false⟩,
  ⟨0x89, none, .illegal, 1, 0, false, false, false⟩,
  ⟨0x8A, some .txa, .implied, 1, 2, true, false, false⟩,
  ⟨0x8B, none, .illegal, 1, 0, false, false, false⟩,
  ⟨0x8C, some .sty, .absolute, 3, 4, true, false, false⟩,
  ⟨0x8D, some .sta, .absolute, 3, 4, true, false, false⟩,
  ⟨0x8E, some .stx, .absolute, 3, 4, true, false, false⟩,
  ⟨0x8F, none, .illegal, 1, 0, false, false, false⟩,
  ⟨0x90, some .bcc, .relative, 2, 2, true, false, true⟩,
  ⟨0x91, some .sta, .indirectIndexed, 2, 6, true, false, false⟩,
  ⟨0x92, none, .illegal, 1, 0, false, false, false⟩,
  ⟨0x93, none, .illegal, 1, 0, false, false, false⟩,
  ⟨0x94, some .sty, .zeroPageX, 2, 4, true, false, false⟩,
  ⟨0x95, some .sta, .zeroPageX, 2, 4, true, false, false⟩,
  ⟨0x96, some .stx, .zeroPageY, 2, 4, true, false, false⟩,
  ⟨0x97, none, .illegal, 1, 0, false, false, false⟩,
  ⟨0x98, some .tya, .implied, 1, 2, true, false, false⟩,
  ⟨0x99, some .sta, .absoluteY, 3, 5, true, false, false⟩,
  ⟨0x9A, some .txs, .implied, 1, 2, true, false, false⟩,
  ⟨0x9B, none, .illegal, 1, 0, false, false, false⟩,
  ⟨0x9C, none, .illegal, 1, 0, false, false, false⟩,
  ⟨0x9D, some .sta, .absoluteX, 3, 5, true, false, false⟩,
  ⟨0x9E, none, .illegal, 1, 0, false, false, false⟩,
  ⟨0x9F, none, .illegal, 1, 0, false, false, false⟩,
  ⟨0xA0, some .ldy, .immediate, 2, 2, true, false, false⟩,
  ⟨0xA1, some .lda, .indexedIndirect, 2, 6, true, false, false⟩,
  ⟨0xA2, some .ldx, .immediate, 2, 2, true, false, false⟩,
  ⟨0xA3, none, .illegal, 1, 0, false, false, false⟩,
  ⟨0xA4, some .ldy, .zeroPage, 2, 3, true, false, false⟩,
  ⟨0xA5, some .lda, .zeroPage, 2, 3, true, false, false⟩,
  ⟨0xA6, some .ldx, .zeroPage, 2, 3, true, false, false⟩,
  ⟨0xA7, none, .illegal, 1, 0, false, false, false⟩,
  ⟨0xA8, some .tay, .implied, 1, 2, true, false, false⟩,
  ⟨0xA9, some .lda, .immediate, 2, 2, true, false, false⟩,
  ⟨0xAA, some .tax, .implied, 1, 2, true, false, false⟩,
  ⟨0xAB, none, .illegal, 1, 0, false, false, false⟩,
  ⟨0xAC, some .ldy, .absolute, 3, 4, true, false, false⟩,
  ⟨0xAD, some .lda, .absolute, 3, 4, true, false, false⟩,
  ⟨0xAE, some .ldx, .absolute, 3, 4, true, false, false⟩,
  ⟨0xAF, none, .illegal, 1, 0, false, false, false⟩,
  ⟨0xB0, some .bcs, .relative, 2, 2, true, false, true⟩,
  ⟨0xB1, some .lda, .indirectIndexed, 2, 5, true, true, false⟩,
  ⟨0xB2, none, .illegal, 1, 0, false, false, false⟩,
  ⟨0xB3, none, .illegal, 1, 0, false, false, false⟩,
  ⟨0xB4, some .ldy, .zeroPageX, 2, 4, true, false, false⟩,
  ⟨0xB5, some .lda, .zeroPageX, 2, 4, true, false, false⟩,
  ⟨0xB6, some .ldx, .zeroPageY, 2, 4, true, false, false⟩,
  ⟨0xB7, none, .illegal, 1, 0, false, false, false⟩,
  ⟨0xB8, some .clv, .implied, 1, 2, true, false, false⟩,
  ⟨0xB9, some .lda, .absoluteY, 3, 4, true, true, false⟩,
  ⟨0xBA, some .tsx, .implied, 1, 2, true, false, false⟩,
  ⟨0xBB, none, .illegal, 1, 0, false, false, false⟩,
  ⟨0xBC, some .ldy, .absoluteX, 3, 4, true, true, false⟩,
  ⟨0xBD, some .lda, .absoluteX, 3, 4, true, true, false⟩,
  ⟨0xBE, some .ldx, .absoluteY, 3, 4, true, true, false⟩,
  ⟨0xBF, none, .illegal, 1, 0, false, false, false⟩,
  ⟨0xC0, some .cpy, .immediate, 2, 2, true, false, false⟩,
  ⟨0xC1, some .cmp, .indexedIndirect, 2, 6, true, false, false⟩,
  ⟨0xC2, none, .illegal, 1, 0, false, false, false⟩,
  ⟨0xC3, none, .illegal, 1, 0, false, false, false⟩,
  ⟨0xC4, some .cpy, .zeroPage, 2, 3, true, false, false⟩,
  ⟨0xC5, some .cmp, .zeroPage, 2, 3, true, false, false⟩,
  ⟨0xC6, some .dec, .zeroPage, 2, 5, true, false, false⟩,
  ⟨0xC7, none, .illegal, 1, 0, false, false, false⟩,
  ⟨0xC8, some .iny, .implied, 1, 2, true, false, false⟩,
  ⟨0xC9, some .cmp, .immediate, 2, 2, true, false, false⟩,
  ⟨0xCA, some .dex, .implied, 1, 2, true, false, false⟩,
  ⟨0xCB, none, .illegal, 1, 0, false, false, false⟩,
  ⟨0xCC, some .cpy, .absolute, 3, 4, true, false, false⟩,
  ⟨0xCD, some .cmp, .absolute, 3, 4, true, false, false⟩,
  ⟨0xCE, some .dec, .absolute, 3, 6, true, false, false⟩,
  ⟨0xCF, none, .illegal, 1, 0, false, false, false⟩,
  ⟨0xD0, some .bne, .relative, 2, 2, true, false, true⟩,
  ⟨0xD1, some .cmp, .indirectIndexed, 2, 5, true, true, false⟩,
  ⟨0xD2, none, .illegal, 1, 0, false, false, false⟩,
  ⟨0xD3, none, .illegal, 1, 0, false, false, false⟩,
  ⟨0xD4, none, .illegal, 1, 0, false, false, false⟩,
  ⟨0xD5, some .cmp, .zeroPageX, 2, 4, true, false, false⟩,
  ⟨0xD6, some .dec, .zeroPageX, 2, 6, true, false, false⟩,
  ⟨0xD7, none, .illegal, 1, 0, false, false, false⟩,
  ⟨0xD8, some .cld, .implied, 1, 2, true, false, false⟩,
  ⟨0xD9, some .cmp, .absoluteY, 3, 4, true, true, false⟩,
  ⟨0xDA, none, .illegal, 1, 0, false, false, false⟩,
  ⟨0xDB, none, .illegal, 1, 0, false, false, false⟩,
  ⟨0xDC, none, .illegal, 1, 0, false, false, false⟩,
  ⟨0xDD, some .cmp, .absoluteX, 3, 4, true, true, false⟩,
  ⟨0xDE, some .dec, .absoluteX, 3, 7, true, false, false⟩,
  ⟨0xDF, none, .illegal, 1, 0, false, false, false⟩,
  ⟨0xE0, some .cpx, .immediate, 2, 2, true, false, false⟩,
  ⟨0xE1, some .sbc, .indexedIndirect, 2, 6, true, false, false⟩,
  ⟨0xE2, none, .illegal, 1, 0, false, false, false⟩,
  ⟨0xE3, none, .illegal, 1, 0, false, false, false⟩,
  ⟨0xE4, some .cpx, .zeroPage, 2, 3, true, false, false⟩,
  ⟨0xE5, some .sbc, .zeroPage, 2, 3, true, false, false⟩,
  ⟨0xE6, some .inc, .zeroPage, 2, 5, true, false, false⟩,
  ⟨0xE7, none, .illegal, 1, 0, false, false, false⟩,
  ⟨0xE8, some .inx, .implied, 1, 2, true, false, false⟩,
  ⟨0xE9, some .sbc, .immediate, 2, 2, true, false, false⟩,
  ⟨0xEA, some .nop, .implied, 1, 2, true, false, false⟩,
  ⟨0xEB, none, .illegal, 1, 0, false, false, false⟩,
  ⟨0xEC, some .cpx, .absolute, 3, 4, true, false, false⟩,
  ⟨0xED, some .sbc, .absolute, 3, 4, true, false, false⟩,
  ⟨0xEE, some .inc, .absolute, 3, 6, true, false, false⟩,
  ⟨0xEF, none, .illegal, 1, 0, false, false, false⟩,
  ⟨0xF0, some .beq, .relative, 2, 2, true, false, true⟩,
  ⟨0xF1, some .sbc, .indirectIndexed, 2, 5, true, true, false⟩,
  ⟨0xF2, none, .illegal, 1, 0, false, false, false⟩,
  ⟨0xF3, none, .illegal, 1, 0, false, false, false⟩,
  ⟨0xF4, none, .illegal, 1, 0, false, false, false⟩,
  ⟨0xF5, some .sbc, .zeroPageX, 2, 4, true, false, false⟩,
  ⟨0xF6, some .inc, .zeroPageX, 2, 6, true, false, false⟩,
  ⟨0xF7, none, .illegal, 1, 0, false, false, false⟩,
  ⟨0xF8, some .sed, .implied, 1, 2, true, false, false⟩,
  ⟨0xF9, some .sbc, .absoluteY, 3, 4, true, true, false⟩,
  ⟨0xFA, none, .illegal, 1, 0, false, false, false⟩,
  ⟨0xFB, none, .illegal, 1, 0, false, false, false⟩,
  ⟨0xFC, none, .illegal, 1, 0, false, false, false⟩,
  ⟨0xFD, some .sbc, .absoluteX, 3, 4, true, true, false⟩,
  ⟨0xFE, some .inc, .absoluteX, 3, 7, true, false, false⟩,
  ⟨0xFF, none, .illegal, 1, 0, false, false, false⟩]

/-- `nmos_opcode_metadata`, with the defaults of an entry where the table has none. -/
def nmosOpcodeMetadata (opcode : Byte) : OpcodeMetadata :=
  nmosOpcodeMetadataTable[opcode.toNat]?.getD ⟨0, none, .illegal, 1, 0, false, false, false⟩

/-- `is_legal_nmos_opcode`. -/
def isLegalNmosOpcode (opcode : Byte) : Bool := (nmosOpcodeMetadata opcode).legalNmos

/-! ### What the table says -/

/-- The mode of the control-store comments. -/
def AddressingMode.mode : AddressingMode → Option Mode
  | illegal => none
  | implied => some .imp
  | accumulator => some .acc
  | immediate => some .imm
  | zeroPage => some .zp
  | zeroPageX => some .zpx
  | zeroPageY => some .zpy
  | relative => some .rel
  | absolute => some .abs
  | absoluteX => some .abx
  | absoluteY => some .aby
  | indirect => some .ind
  | indexedIndirect => some .izx
  | indirectIndexed => some .izy

/-- The ticks of an instruction that crosses no page and does not branch. -/
def Instruction.base (i : Instruction) : ℕ :=
  match i.mode with
  | .rel => 2
  | .ind => 5
  | _ =>
    match i.mnemonic with
    | .jmp => 3
    | .jsr | .rts | .rti => 6
    | .brk => 7
    | _ => i.cycles 0

/-- The entry describes an instruction. -/
def OpcodeMetadata.describes (row : OpcodeMetadata) (i : Instruction) : Bool :=
  row.mnemonic = some i.mnemonic && row.mode.mode = some i.mode && row.bytes = i.mode.length &&
    row.cycles = i.base && row.branchExtraCycle = decide (i.mode = .rel) &&
      row.pageCrossExtraCycle = i.waits 0 && !(i.mnemonic.controlFlow && i.waits 0) &&
        (i.mnemonic.controlFlow || !i.mode.turns)

theorem metadata_describes : nmosOpcodeMetadataTable.length = 256 ∧
    (nmosOpcodeMetadataTable.zip nmosInstructions).zipIdx.all (fun e =>
      e.1.1.opcode = BitVec.ofNat 8 e.2 && e.1.1.legalNmos = (e.1.2.mnemonic.documented &&
        (e.1.2.mnemonic ≠ .nop || e.1.1.opcode = 0xEA) && e.1.1.opcode ≠ 0xEB) &&
          (!e.1.1.legalNmos || e.1.1.describes e.1.2)) = true := by
  decide +kernel

/-! ### The program counter -/

section pc

variable (model : ℕ) (r : Registers) (data : Byte) (m : Mnemonic)

theorem adc_pc : (r.adc model data).pc = r.pc := by
  unfold Registers.adc
  split_ifs
  · rfl
  · rfl
  · rfl

theorem sbc_pc : (r.sbc model data).pc = r.pc := by
  unfold Registers.sbc
  split_ifs
  · rfl
  · rfl
  · rfl

theorem reads_pc (mode : Mode) : (m.reads model mode r data).pc = r.pc := by
  cases m
  case adc => exact adc_pc model r data
  case sbc => exact sbc_pc model r data
  case arr =>
    rw [Mnemonic.reads_arr]
    split_ifs
    · rfl
    · exact (arrValue_registers (r.cpu 0) (r.a &&& data)).2
  case bit =>
    rw [Mnemonic.reads_bit, Registers.bit]
    split_ifs <;> rfl
  all_goals rfl

theorem modifies_pc : (m.modifies model r data).pc = r.pc := by
  cases m
  case rra => exact adc_pc model _ _
  case isc => exact sbc_pc model _ _
  all_goals rfl

end pc

section execute

variable {model : ℕ} {i : Instruction} {opcode : Byte} {r : Registers} {memory : Word → Byte}
  {s' : Isa.State}

theorem implied_pc {cmos : Bool} {m : Mnemonic} (hflow : m.controlFlow = false)
    (h : m.implied cmos r memory = some s') : s'.1.pc = r.pc := by
  cases m <;> first
    | (obtain rfl := Option.some.inj h; rfl)
    | cases hflow

theorem operand_pc {mode : Mode} {m : Mnemonic} (hflow : m.controlFlow = false) :
    (m.operand model mode opcode r memory).1.pc = mode.next r.pc := by
  cases m <;> first
    | exact reads_pc _ _ _ _ _
    | exact modifies_pc _ _ _ _
    | rfl
    | cases hflow

/-- **An instruction that is not control flow** goes to the address after its operand. -/
theorem execute_pc (hflow : i.mnemonic.controlFlow = false) (hmode : i.mode.turns = false)
    (h : i.execute model opcode r memory = some s') : s'.1.pc = i.mode.next r.pc := by
  obtain ⟨m, mode⟩ := i
  cases mode
  case imp => exact implied_pc hflow h
  case acc =>
    obtain rfl := Option.some.inj h
    exact modifies_pc _ _ _ _
  case rel => cases hmode
  case zpRel => cases hmode
  case ind => cases hmode
  case indX => cases hmode
  all_goals
    obtain rfl := Option.some.inj h
    exact operand_pc hflow

end execute

/-! ### Ticks -/

/-- One tick more for a branch that is taken, and another one to another page. -/
def turnExtra (taken : Bool) (next target : Word) : ℕ :=
  if taken then if u16GetByte next 1 = u16GetByte target 1 then 1 else 2 else 0

theorem turnTicks_eq (taken : Bool) (next target : Word) :
    turnTicks taken next target = 2 + turnExtra taken next target := by
  unfold turnTicks turnExtra
  split_ifs <;> rfl

/-- The ticks that an entry says, with the program counter at the operand. -/
def OpcodeMetadata.ticks (row : OpcodeMetadata) (i : Instruction) (r : Registers)
    (memory : Word → Byte) : ℕ :=
  row.cycles + (if row.pageCrossExtraCycle && i.mode.crossed r memory then 1 else 0) +
    turnExtra (row.branchExtraCycle && i.mnemonic.taken r.p) (r.pc + 1)
      (branchTarget (r.pc + 1) (memory r.pc))

section describes

variable {row : OpcodeMetadata} {i : Instruction}

theorem plainTicks_base (hmode : i.mode.turns = false)
    (hwaits : (i.mnemonic.controlFlow && i.waits 0) = false) (r : Registers)
    (memory : Word → Byte) : i.plainTicks 0 r memory =
      i.base + if i.waits 0 && i.mode.crossed r memory then 1 else 0 := by
  have hbase : i.base = match i.mnemonic with
      | .jmp => 3
      | .jsr | .rts | .rti => 6
      | .brk => 7
      | _ => i.cycles 0 := by
    obtain ⟨m, mode⟩ := i
    cases mode <;> first | rfl | cases hmode
  rw [hbase, Instruction.plainTicks]
  obtain ⟨m, mode⟩ := i
  cases m
  case jmp | jsr | rts | rti | brk =>
    rw [Bool.and_eq_false_iff] at hwaits
    rw [hwaits.resolve_left Bool.noConfusion]
    rfl
  all_goals rfl

/-- **The entry of an instruction** says its ticks. -/
theorem ticks_describes (h : row.describes i = true) (opcode : Byte) (r : Registers)
    (memory : Word → Byte) : i.ticks 0 opcode r memory = row.ticks i r memory := by
  simp only [OpcodeMetadata.describes, Bool.and_eq_true, decide_eq_true_eq, Bool.not_eq_true']
    at h
  obtain ⟨⟨⟨⟨⟨⟨⟨_, hmode⟩, _⟩, hcycles⟩, hbranch⟩, hpage⟩, hwaits⟩, _⟩ := h
  rw [OpcodeMetadata.ticks, hcycles, hbranch, hpage]
  by_cases hrel : i.mode = .rel
  · obtain ⟨m, mode⟩ := i
    cases hrel
    have hcrossed : Mode.rel.crossed r memory = false := rfl
    simp only [hcrossed, Bool.and_false, decide_true, Bool.true_and]
    exact turnTicks_eq _ _ _
  · have hturn : (decide (i.mode = .rel) && i.mnemonic.taken r.p) = false := by simp [hrel]
    rw [hturn]
    by_cases hind : i.mode = .ind
    · obtain ⟨m, mode⟩ := i
      cases hind
      have hcrossed : Mode.ind.crossed r memory = false := rfl
      simp only [hcrossed, Bool.and_false]
      rfl
    · have hturns : i.mode.turns = false := by
        obtain ⟨m, mode⟩ := i
        cases mode
        case rel => exact absurd rfl hrel
        case ind => exact absurd rfl hind
        case zpRel | indX => cases hr : row.mode <;> rw [hr] at hmode <;> cases hmode
        all_goals rfl
      rw [ticks_of_plain hturns, plainTicks_base hturns hwaits]
      rfl

/-- It says the length too. -/
theorem pc_describes (h : row.describes i = true) {opcode : Byte} {r : Registers}
    {memory : Word → Byte} {s' : Isa.State}
    (hstep : i.execute 0 opcode { r with pc := r.pc + 1 } memory = some s')
    (hstraight : i.mnemonic.controlFlow = false ∨ i.mode = .rel ∧ i.mnemonic.taken r.p = false) :
    s'.1.pc = r.pc + BitVec.ofNat 16 row.bytes := by
  simp only [OpcodeMetadata.describes, Bool.and_eq_true, decide_eq_true_eq, Bool.or_eq_true,
    Bool.not_eq_true'] at h
  obtain ⟨⟨⟨⟨⟨⟨⟨_, _⟩, hbytes⟩, _⟩, _⟩, _⟩, _⟩, hturns⟩ := h
  rw [hbytes, Mode.length, BitVec.ofNat_add, ← BitVec.add_assoc]
  rcases hstraight with hflow | ⟨hrel, htaken⟩
  · rw [execute_pc hflow (hturns.resolve_left (by rw [hflow]; exact Bool.false_ne_true)) hstep,
      Mode.next_eq]
    rfl
  · obtain ⟨m, mode⟩ := i
    cases hrel
    obtain rfl := Option.some.inj hstep
    simp only at htaken
    simp only [htaken, Bool.false_eq_true, if_false]
    rfl

end describes

/-! ### The table and the core -/

/-- The entry of an opcode and its instruction. -/
theorem nmosOpcodeMetadata_describes (opcode : Byte) :
    (nmosOpcodeMetadata opcode).opcode = opcode ∧
      isLegalNmosOpcode opcode = official opcode ∧ ∃ i, instructionAt 0 opcode = some i ∧
        (isLegalNmosOpcode opcode = true → (nmosOpcodeMetadata opcode).describes i = true) := by
  have hlength : opcode.toNat < nmosOpcodeMetadataTable.length := by
    rw [metadata_describes.1]
    exact opcode.isLt
  obtain ⟨row, hrow⟩ : ∃ row, nmosOpcodeMetadataTable[opcode.toNat]? = some row :=
    ⟨_, List.getElem?_eq_getElem hlength⟩
  obtain ⟨i, _, _, hi, _⟩ := slotAt_shape (show 0 < 5 by decide) opcode
  have hall := List.all_eq_true.mp metadata_describes.2 ((row, i), opcode.toNat)
    (List.mk_mem_zipIdx_iff_getElem?.mpr (List.getElem?_zip_eq_some.mpr ⟨hrow, hi⟩))
  have hentry : nmosOpcodeMetadata opcode = row := by
    rw [nmosOpcodeMetadata, hrow]
    rfl
  rw [Bool.and_eq_true, Bool.and_eq_true, Bool.or_eq_true, Bool.not_eq_true', decide_eq_true_eq,
    decide_eq_true_eq, BitVec.ofNat_toNat, BitVec.setWidth_eq] at hall
  obtain ⟨⟨hopcode, hlegal⟩, hdescribes⟩ := hall
  have hofficial : official opcode = row.legalNmos := by
    rw [official, hi, Option.any_some, hlegal, hopcode]
  rw [isLegalNmosOpcode, hentry]
  refine ⟨hopcode, hofficial.symm, i, hi, fun h => ?_⟩
  rcases hdescribes with hfalse | hdescribes
  · rw [hfalse] at h
    cases h
  · exact hdescribes

/-- **The opcode metadata describes the core.**  The table has an entry for every opcode, and the
legal ones are the official opcodes.  At a legal opcode a ready NMOS machine executes the mnemonic
and the addressing mode of its entry, whatever the registers and the memory are: the next opcode
fetch comes after exactly the cycles of the entry, with the extra cycles for a page crossed and
for a branch taken, and finds the registers and the memory of the interpreter; unless control goes
elsewhere, it is at the address behind the bytes of the entry. -/
theorem opcode_metadata_sound (answer : Tick → (Word → Byte) → Byte) (opcode : Byte) :
    (nmosOpcodeMetadata opcode).opcode = opcode ∧ isLegalNmosOpcode opcode = official opcode ∧
      (isLegalNmosOpcode opcode = true → ∃ i, instructionAt 0 opcode = some i ∧
        (nmosOpcodeMetadata opcode).mnemonic = some i.mnemonic ∧
        (nmosOpcodeMetadata opcode).mode.mode = some i.mode ∧
        ∀ (m : InstructionCpu) (r : Registers) (memory : Word → Byte), m.Stands 0 r memory →
          memory r.pc = opcode → ∃ s' m', Isa.step 0 (r, memory) = some s' ∧
            m'.Stands 0 s'.1 s'.2 ∧ m.Fetches answer
              ((nmosOpcodeMetadata opcode).ticks i { r with pc := r.pc + 1 } memory) m' ∧
            (i.mnemonic.controlFlow = false ∨ i.mode = .rel ∧ i.mnemonic.taken r.p = false →
              m'.cpu.pc = r.pc + BitVec.ofNat 16 (nmosOpcodeMetadata opcode).bytes)) := by
  obtain ⟨hopcode, hlegal, i, hi, hdescribes⟩ := nmosOpcodeMetadata_describes opcode
  refine ⟨hopcode, hlegal, fun h => ⟨i, hi, ?_⟩⟩
  have hrow := hdescribes h
  have hkil : i.mnemonic ≠ .kil := by
    obtain ⟨hkil, _⟩ := official_shapes (hlegal ▸ h) (show 0 < 5 by decide)
    rw [hi] at hkil
    exact of_decide_eq_true hkil
  have hnames := hrow
  simp only [OpcodeMetadata.describes, Bool.and_eq_true, decide_eq_true_eq] at hnames
  refine ⟨hnames.1.1.1.1.1.1.1, hnames.1.1.1.1.1.1.2, fun m r memory hstands hmemory => ?_⟩
  have hstep : Isa.step 0 (r, memory) = i.execute 0 opcode { r with pc := r.pc + 1 } memory := by
    simp only [Isa.step, hmemory, hi, Option.bind_some]
  have hticks : Isa.ticks 0 (r, memory) =
      (nmosOpcodeMetadata opcode).ticks i { r with pc := r.pc + 1 } memory := by
    simp only [Isa.ticks, hmemory, hi, Option.map_some, Option.getD_some]
    exact ticks_describes hrow opcode _ memory
  obtain ⟨_, s', _, _, hdoes, _⟩ :=
    Instruction.slot_does hstands.supported hi hkil answer memory m.cpu
  rw [hstands.decoded] at hdoes
  have hnext : Isa.step 0 (r, memory) = some s' := hstep.trans hdoes
  obtain ⟨m', hfetches, hafter⟩ := @InstructionCpu.Stands.steps answer _ _ _ _ hstands _ hnext
  rw [show (0 : Byte).toNat = 0 from rfl, hticks] at hfetches
  refine ⟨s', m', hnext, hafter, hfetches, fun hstraight => ?_⟩
  rw [hafter.pc]
  exact pc_describes hrow hdoes hstraight

/-- An increment with an index behind a restart. -/
theorem opcode_metadata_sound_inc : ∃ m m' : InstructionCpu, m.cpu.pc = 0xFEFE ∧
    m.Fetches InstructionCpu.readmeAnswer 7 m' ∧ m'.cpu.pc = 0xFF01 := by
  obtain ⟨m, _, hstands⟩ := @InstructionCpu.restart_stands InstructionCpu.readmeAnswer
    (Session.after 0 []).1 (by decide) fun _ => 0xFE
  obtain ⟨_, _, hcore⟩ := opcode_metadata_sound InstructionCpu.readmeAnswer 0xFE
  obtain ⟨i, hi, _, _, hruns⟩ := hcore (by decide)
  obtain ⟨_, m', _, _, hfetches, hpc⟩ := hruns m _ _ hstands rfl
  obtain rfl : i = ⟨.inc, .abx⟩ := (Option.some.inj hi).symm
  refine ⟨m, m', hstands.pc, hfetches, ?_⟩
  rw [hpc (.inl rfl)]
  decide

end Qe6502
