import Qe6502.ControlStore.Classes

/-!
# Instructions

The comment beside each opcode slot of the control-store blocks names its instruction: a
mnemonic and an addressing mode.  The NMOS and NES blocks have the same comments, and so have
the WDC and RW blocks, so there are three tables.
-/

namespace Qe6502

/-- The mnemonics of the comments.  Those of the bit instructions leave out the number of the
bit.  The no-operations whose slots access no operand have mnemonics of their own: the CMOS
ones of one cycle, the three-byte ones of all CMOS models, and the two kinds that the ST model
has in the place of the bit instructions. -/
inductive Mnemonic
  | adc | ahx | alr | anc | and | arr | asl | axs | bbr | bbs | bcc | bcs | beq | bit | bmi | bne
  | bpl | bra | brk | bvc | bvs | clc | cld | cli | clv | cmp | cpx | cpy | dcp | dec | dex | dey
  | eor | inc | inx | iny | isc | jmp | jsr | kil | las | lax | lda | ldx | ldy | lsr | lxa | nop
  | ora | pha | php | phx | phy | pla | plp | plx | ply | rla | rmb | rol | ror | rra | rti | rts
  | sax | sbc | sec | sed | sei | shx | shy | slo | smb | sre | sta | stx | sty | stz | tas | tax
  | tay | trb | tsb | tsx | txa | txs | tya | xaa | nopFetch | nopAbs | stNopAbs | stNopAbsHigh
deriving DecidableEq

/-- The addressing modes of the comments. -/
inductive Mode
  | imp | acc | imm | zp | zpx | zpy | abs | abx | aby | izx | izy | izp | rel | zpRel | ind | indX
deriving DecidableEq

structure Instruction where
  mnemonic : Mnemonic
  mode : Mode
deriving DecidableEq

/-- The number of operand bytes. -/
def Mode.operands : Mode → Nat
  | .imp | .acc => 0
  | .imm | .zp | .zpx | .zpy | .izx | .izy | .izp | .rel => 1
  | .abs | .abx | .aby | .zpRel | .ind | .indX => 2

/-- The length of an instruction in bytes. -/
def Mode.length (mode : Mode) : Nat := 1 + mode.operands

/-- `nmos_block.inc` and `nes_block.inc`. -/
def nmosInstructions : List Instruction := [
  -- 0x00
  ⟨.brk, .imp⟩, ⟨.ora, .izx⟩, ⟨.kil, .imp⟩, ⟨.slo, .izx⟩, ⟨.nop, .zp⟩, ⟨.ora, .zp⟩, ⟨.asl, .zp⟩,
  ⟨.slo, .zp⟩, ⟨.php, .imp⟩, ⟨.ora, .imm⟩, ⟨.asl, .acc⟩, ⟨.anc, .imm⟩, ⟨.nop, .abs⟩, ⟨.ora, .abs⟩,
  ⟨.asl, .abs⟩, ⟨.slo, .abs⟩,
  -- 0x10
  ⟨.bpl, .rel⟩, ⟨.ora, .izy⟩, ⟨.kil, .imp⟩, ⟨.slo, .izy⟩, ⟨.nop, .zpx⟩, ⟨.ora, .zpx⟩,
  ⟨.asl, .zpx⟩, ⟨.slo, .zpx⟩, ⟨.clc, .imp⟩, ⟨.ora, .aby⟩, ⟨.nop, .imp⟩, ⟨.slo, .aby⟩,
  ⟨.nop, .abx⟩, ⟨.ora, .abx⟩, ⟨.asl, .abx⟩, ⟨.slo, .abx⟩,
  -- 0x20
  ⟨.jsr, .abs⟩, ⟨.and, .izx⟩, ⟨.kil, .imp⟩, ⟨.rla, .izx⟩, ⟨.bit, .zp⟩, ⟨.and, .zp⟩, ⟨.rol, .zp⟩,
  ⟨.rla, .zp⟩, ⟨.plp, .imp⟩, ⟨.and, .imm⟩, ⟨.rol, .acc⟩, ⟨.anc, .imm⟩, ⟨.bit, .abs⟩, ⟨.and, .abs⟩,
  ⟨.rol, .abs⟩, ⟨.rla, .abs⟩,
  -- 0x30
  ⟨.bmi, .rel⟩, ⟨.and, .izy⟩, ⟨.kil, .imp⟩, ⟨.rla, .izy⟩, ⟨.nop, .zpx⟩, ⟨.and, .zpx⟩,
  ⟨.rol, .zpx⟩, ⟨.rla, .zpx⟩, ⟨.sec, .imp⟩, ⟨.and, .aby⟩, ⟨.nop, .imp⟩, ⟨.rla, .aby⟩,
  ⟨.nop, .abx⟩, ⟨.and, .abx⟩, ⟨.rol, .abx⟩, ⟨.rla, .abx⟩,
  -- 0x40
  ⟨.rti, .imp⟩, ⟨.eor, .izx⟩, ⟨.kil, .imp⟩, ⟨.sre, .izx⟩, ⟨.nop, .zp⟩, ⟨.eor, .zp⟩, ⟨.lsr, .zp⟩,
  ⟨.sre, .zp⟩, ⟨.pha, .imp⟩, ⟨.eor, .imm⟩, ⟨.lsr, .acc⟩, ⟨.alr, .imm⟩, ⟨.jmp, .abs⟩, ⟨.eor, .abs⟩,
  ⟨.lsr, .abs⟩, ⟨.sre, .abs⟩,
  -- 0x50
  ⟨.bvc, .rel⟩, ⟨.eor, .izy⟩, ⟨.kil, .imp⟩, ⟨.sre, .izy⟩, ⟨.nop, .zpx⟩, ⟨.eor, .zpx⟩,
  ⟨.lsr, .zpx⟩, ⟨.sre, .zpx⟩, ⟨.cli, .imp⟩, ⟨.eor, .aby⟩, ⟨.nop, .imp⟩, ⟨.sre, .aby⟩,
  ⟨.nop, .abx⟩, ⟨.eor, .abx⟩, ⟨.lsr, .abx⟩, ⟨.sre, .abx⟩,
  -- 0x60
  ⟨.rts, .imp⟩, ⟨.adc, .izx⟩, ⟨.kil, .imp⟩, ⟨.rra, .izx⟩, ⟨.nop, .zp⟩, ⟨.adc, .zp⟩, ⟨.ror, .zp⟩,
  ⟨.rra, .zp⟩, ⟨.pla, .imp⟩, ⟨.adc, .imm⟩, ⟨.ror, .acc⟩, ⟨.arr, .imm⟩, ⟨.jmp, .ind⟩, ⟨.adc, .abs⟩,
  ⟨.ror, .abs⟩, ⟨.rra, .abs⟩,
  -- 0x70
  ⟨.bvs, .rel⟩, ⟨.adc, .izy⟩, ⟨.kil, .imp⟩, ⟨.rra, .izy⟩, ⟨.nop, .zpx⟩, ⟨.adc, .zpx⟩,
  ⟨.ror, .zpx⟩, ⟨.rra, .zpx⟩, ⟨.sei, .imp⟩, ⟨.adc, .aby⟩, ⟨.nop, .imp⟩, ⟨.rra, .aby⟩,
  ⟨.nop, .abx⟩, ⟨.adc, .abx⟩, ⟨.ror, .abx⟩, ⟨.rra, .abx⟩,
  -- 0x80
  ⟨.nop, .imm⟩, ⟨.sta, .izx⟩, ⟨.nop, .imm⟩, ⟨.sax, .izx⟩, ⟨.sty, .zp⟩, ⟨.sta, .zp⟩, ⟨.stx, .zp⟩,
  ⟨.sax, .zp⟩, ⟨.dey, .imp⟩, ⟨.nop, .imm⟩, ⟨.txa, .imp⟩, ⟨.xaa, .imm⟩, ⟨.sty, .abs⟩, ⟨.sta, .abs⟩,
  ⟨.stx, .abs⟩, ⟨.sax, .abs⟩,
  -- 0x90
  ⟨.bcc, .rel⟩, ⟨.sta, .izy⟩, ⟨.kil, .imp⟩, ⟨.ahx, .izy⟩, ⟨.sty, .zpx⟩, ⟨.sta, .zpx⟩,
  ⟨.stx, .zpy⟩, ⟨.sax, .zpy⟩, ⟨.tya, .imp⟩, ⟨.sta, .aby⟩, ⟨.txs, .imp⟩, ⟨.tas, .aby⟩,
  ⟨.shy, .abx⟩, ⟨.sta, .abx⟩, ⟨.shx, .aby⟩, ⟨.ahx, .aby⟩,
  -- 0xA0
  ⟨.ldy, .imm⟩, ⟨.lda, .izx⟩, ⟨.ldx, .imm⟩, ⟨.lax, .izx⟩, ⟨.ldy, .zp⟩, ⟨.lda, .zp⟩, ⟨.ldx, .zp⟩,
  ⟨.lax, .zp⟩, ⟨.tay, .imp⟩, ⟨.lda, .imm⟩, ⟨.tax, .imp⟩, ⟨.lxa, .imm⟩, ⟨.ldy, .abs⟩, ⟨.lda, .abs⟩,
  ⟨.ldx, .abs⟩, ⟨.lax, .abs⟩,
  -- 0xB0
  ⟨.bcs, .rel⟩, ⟨.lda, .izy⟩, ⟨.kil, .imp⟩, ⟨.lax, .izy⟩, ⟨.ldy, .zpx⟩, ⟨.lda, .zpx⟩,
  ⟨.ldx, .zpy⟩, ⟨.lax, .zpy⟩, ⟨.clv, .imp⟩, ⟨.lda, .aby⟩, ⟨.tsx, .imp⟩, ⟨.las, .aby⟩,
  ⟨.ldy, .abx⟩, ⟨.lda, .abx⟩, ⟨.ldx, .aby⟩, ⟨.lax, .aby⟩,
  -- 0xC0
  ⟨.cpy, .imm⟩, ⟨.cmp, .izx⟩, ⟨.nop, .imm⟩, ⟨.dcp, .izx⟩, ⟨.cpy, .zp⟩, ⟨.cmp, .zp⟩, ⟨.dec, .zp⟩,
  ⟨.dcp, .zp⟩, ⟨.iny, .imp⟩, ⟨.cmp, .imm⟩, ⟨.dex, .imp⟩, ⟨.axs, .imm⟩, ⟨.cpy, .abs⟩, ⟨.cmp, .abs⟩,
  ⟨.dec, .abs⟩, ⟨.dcp, .abs⟩,
  -- 0xD0
  ⟨.bne, .rel⟩, ⟨.cmp, .izy⟩, ⟨.kil, .imp⟩, ⟨.dcp, .izy⟩, ⟨.nop, .zpx⟩, ⟨.cmp, .zpx⟩,
  ⟨.dec, .zpx⟩, ⟨.dcp, .zpx⟩, ⟨.cld, .imp⟩, ⟨.cmp, .aby⟩, ⟨.nop, .imp⟩, ⟨.dcp, .aby⟩,
  ⟨.nop, .abx⟩, ⟨.cmp, .abx⟩, ⟨.dec, .abx⟩, ⟨.dcp, .abx⟩,
  -- 0xE0
  ⟨.cpx, .imm⟩, ⟨.sbc, .izx⟩, ⟨.nop, .imm⟩, ⟨.isc, .izx⟩, ⟨.cpx, .zp⟩, ⟨.sbc, .zp⟩, ⟨.inc, .zp⟩,
  ⟨.isc, .zp⟩, ⟨.inx, .imp⟩, ⟨.sbc, .imm⟩, ⟨.nop, .imp⟩, ⟨.sbc, .imm⟩, ⟨.cpx, .abs⟩, ⟨.sbc, .abs⟩,
  ⟨.inc, .abs⟩, ⟨.isc, .abs⟩,
  -- 0xF0
  ⟨.beq, .rel⟩, ⟨.sbc, .izy⟩, ⟨.kil, .imp⟩, ⟨.isc, .izy⟩, ⟨.nop, .zpx⟩, ⟨.sbc, .zpx⟩,
  ⟨.inc, .zpx⟩, ⟨.isc, .zpx⟩, ⟨.sed, .imp⟩, ⟨.sbc, .aby⟩, ⟨.nop, .imp⟩, ⟨.isc, .aby⟩,
  ⟨.nop, .abx⟩, ⟨.sbc, .abx⟩, ⟨.inc, .abx⟩, ⟨.isc, .abx⟩]

/-- `wdc_block.inc` and `rw_block.inc`. -/
def wdcInstructions : List Instruction := [
  -- 0x00
  ⟨.brk, .imp⟩, ⟨.ora, .izx⟩, ⟨.nop, .imm⟩, ⟨.nopFetch, .imp⟩, ⟨.tsb, .zp⟩, ⟨.ora, .zp⟩,
  ⟨.asl, .zp⟩, ⟨.rmb, .zp⟩, ⟨.php, .imp⟩, ⟨.ora, .imm⟩, ⟨.asl, .acc⟩, ⟨.nopFetch, .imp⟩,
  ⟨.tsb, .abs⟩, ⟨.ora, .abs⟩, ⟨.asl, .abs⟩, ⟨.bbr, .zpRel⟩,
  -- 0x10
  ⟨.bpl, .rel⟩, ⟨.ora, .izy⟩, ⟨.ora, .izp⟩, ⟨.nopFetch, .imp⟩, ⟨.trb, .zp⟩, ⟨.ora, .zpx⟩,
  ⟨.asl, .zpx⟩, ⟨.rmb, .zp⟩, ⟨.clc, .imp⟩, ⟨.ora, .aby⟩, ⟨.inc, .acc⟩, ⟨.nopFetch, .imp⟩,
  ⟨.trb, .abs⟩, ⟨.ora, .abx⟩, ⟨.asl, .abx⟩, ⟨.bbr, .zpRel⟩,
  -- 0x20
  ⟨.jsr, .abs⟩, ⟨.and, .izx⟩, ⟨.nop, .imm⟩, ⟨.nopFetch, .imp⟩, ⟨.bit, .zp⟩, ⟨.and, .zp⟩,
  ⟨.rol, .zp⟩, ⟨.rmb, .zp⟩, ⟨.plp, .imp⟩, ⟨.and, .imm⟩, ⟨.rol, .acc⟩, ⟨.nopFetch, .imp⟩,
  ⟨.bit, .abs⟩, ⟨.and, .abs⟩, ⟨.rol, .abs⟩, ⟨.bbr, .zpRel⟩,
  -- 0x30
  ⟨.bmi, .rel⟩, ⟨.and, .izy⟩, ⟨.and, .izp⟩, ⟨.nopFetch, .imp⟩, ⟨.bit, .zpx⟩, ⟨.and, .zpx⟩,
  ⟨.rol, .zpx⟩, ⟨.rmb, .zp⟩, ⟨.sec, .imp⟩, ⟨.and, .aby⟩, ⟨.dec, .acc⟩, ⟨.nopFetch, .imp⟩,
  ⟨.bit, .abx⟩, ⟨.and, .abx⟩, ⟨.rol, .abx⟩, ⟨.bbr, .zpRel⟩,
  -- 0x40
  ⟨.rti, .imp⟩, ⟨.eor, .izx⟩, ⟨.nop, .imm⟩, ⟨.nopFetch, .imp⟩, ⟨.nop, .zp⟩, ⟨.eor, .zp⟩,
  ⟨.lsr, .zp⟩, ⟨.rmb, .zp⟩, ⟨.pha, .imp⟩, ⟨.eor, .imm⟩, ⟨.lsr, .acc⟩, ⟨.nopFetch, .imp⟩,
  ⟨.jmp, .abs⟩, ⟨.eor, .abs⟩, ⟨.lsr, .abs⟩, ⟨.bbr, .zpRel⟩,
  -- 0x50
  ⟨.bvc, .rel⟩, ⟨.eor, .izy⟩, ⟨.eor, .izp⟩, ⟨.nopFetch, .imp⟩, ⟨.nop, .zpx⟩, ⟨.eor, .zpx⟩,
  ⟨.lsr, .zpx⟩, ⟨.rmb, .zp⟩, ⟨.cli, .imp⟩, ⟨.eor, .aby⟩, ⟨.phy, .imp⟩, ⟨.nopFetch, .imp⟩,
  ⟨.nopAbs, .abs⟩, ⟨.eor, .abx⟩, ⟨.lsr, .abx⟩, ⟨.bbr, .zpRel⟩,
  -- 0x60
  ⟨.rts, .imp⟩, ⟨.adc, .izx⟩, ⟨.nop, .imm⟩, ⟨.nopFetch, .imp⟩, ⟨.stz, .zp⟩, ⟨.adc, .zp⟩,
  ⟨.ror, .zp⟩, ⟨.rmb, .zp⟩, ⟨.pla, .imp⟩, ⟨.adc, .imm⟩, ⟨.ror, .acc⟩, ⟨.nopFetch, .imp⟩,
  ⟨.jmp, .ind⟩, ⟨.adc, .abs⟩, ⟨.ror, .abs⟩, ⟨.bbr, .zpRel⟩,
  -- 0x70
  ⟨.bvs, .rel⟩, ⟨.adc, .izy⟩, ⟨.adc, .izp⟩, ⟨.nopFetch, .imp⟩, ⟨.stz, .zpx⟩, ⟨.adc, .zpx⟩,
  ⟨.ror, .zpx⟩, ⟨.rmb, .zp⟩, ⟨.sei, .imp⟩, ⟨.adc, .aby⟩, ⟨.ply, .imp⟩, ⟨.nopFetch, .imp⟩,
  ⟨.jmp, .indX⟩, ⟨.adc, .abx⟩, ⟨.ror, .abx⟩, ⟨.bbr, .zpRel⟩,
  -- 0x80
  ⟨.bra, .rel⟩, ⟨.sta, .izx⟩, ⟨.nop, .imm⟩, ⟨.nopFetch, .imp⟩, ⟨.sty, .zp⟩, ⟨.sta, .zp⟩,
  ⟨.stx, .zp⟩, ⟨.smb, .zp⟩, ⟨.dey, .imp⟩, ⟨.bit, .imm⟩, ⟨.txa, .imp⟩, ⟨.nopFetch, .imp⟩,
  ⟨.sty, .abs⟩, ⟨.sta, .abs⟩, ⟨.stx, .abs⟩, ⟨.bbs, .zpRel⟩,
  -- 0x90
  ⟨.bcc, .rel⟩, ⟨.sta, .izy⟩, ⟨.sta, .izp⟩, ⟨.nopFetch, .imp⟩, ⟨.sty, .zpx⟩, ⟨.sta, .zpx⟩,
  ⟨.stx, .zpy⟩, ⟨.smb, .zp⟩, ⟨.tya, .imp⟩, ⟨.sta, .aby⟩, ⟨.txs, .imp⟩, ⟨.nopFetch, .imp⟩,
  ⟨.stz, .abs⟩, ⟨.sta, .abx⟩, ⟨.stz, .abx⟩, ⟨.bbs, .zpRel⟩,
  -- 0xA0
  ⟨.ldy, .imm⟩, ⟨.lda, .izx⟩, ⟨.ldx, .imm⟩, ⟨.nopFetch, .imp⟩, ⟨.ldy, .zp⟩, ⟨.lda, .zp⟩,
  ⟨.ldx, .zp⟩, ⟨.smb, .zp⟩, ⟨.tay, .imp⟩, ⟨.lda, .imm⟩, ⟨.tax, .imp⟩, ⟨.nopFetch, .imp⟩,
  ⟨.ldy, .abs⟩, ⟨.lda, .abs⟩, ⟨.ldx, .abs⟩, ⟨.bbs, .zpRel⟩,
  -- 0xB0
  ⟨.bcs, .rel⟩, ⟨.lda, .izy⟩, ⟨.lda, .izp⟩, ⟨.nopFetch, .imp⟩, ⟨.ldy, .zpx⟩, ⟨.lda, .zpx⟩,
  ⟨.ldx, .zpy⟩, ⟨.smb, .zp⟩, ⟨.clv, .imp⟩, ⟨.lda, .aby⟩, ⟨.tsx, .imp⟩, ⟨.nopFetch, .imp⟩,
  ⟨.ldy, .abx⟩, ⟨.lda, .abx⟩, ⟨.ldx, .aby⟩, ⟨.bbs, .zpRel⟩,
  -- 0xC0
  ⟨.cpy, .imm⟩, ⟨.cmp, .izx⟩, ⟨.nop, .imm⟩, ⟨.nopFetch, .imp⟩, ⟨.cpy, .zp⟩, ⟨.cmp, .zp⟩,
  ⟨.dec, .zp⟩, ⟨.smb, .zp⟩, ⟨.iny, .imp⟩, ⟨.cmp, .imm⟩, ⟨.dex, .imp⟩, ⟨.nop, .imp⟩, ⟨.cpy, .abs⟩,
  ⟨.cmp, .abs⟩, ⟨.dec, .abs⟩, ⟨.bbs, .zpRel⟩,
  -- 0xD0
  ⟨.bne, .rel⟩, ⟨.cmp, .izy⟩, ⟨.cmp, .izp⟩, ⟨.nopFetch, .imp⟩, ⟨.nop, .zpx⟩, ⟨.cmp, .zpx⟩,
  ⟨.dec, .zpx⟩, ⟨.smb, .zp⟩, ⟨.cld, .imp⟩, ⟨.cmp, .aby⟩, ⟨.phx, .imp⟩, ⟨.nop, .zpx⟩,
  ⟨.nopAbs, .abs⟩, ⟨.cmp, .abx⟩, ⟨.dec, .abx⟩, ⟨.bbs, .zpRel⟩,
  -- 0xE0
  ⟨.cpx, .imm⟩, ⟨.sbc, .izx⟩, ⟨.nop, .imm⟩, ⟨.nopFetch, .imp⟩, ⟨.cpx, .zp⟩, ⟨.sbc, .zp⟩,
  ⟨.inc, .zp⟩, ⟨.smb, .zp⟩, ⟨.inx, .imp⟩, ⟨.sbc, .imm⟩, ⟨.nop, .imp⟩, ⟨.nopFetch, .imp⟩,
  ⟨.cpx, .abs⟩, ⟨.sbc, .abs⟩, ⟨.inc, .abs⟩, ⟨.bbs, .zpRel⟩,
  -- 0xF0
  ⟨.beq, .rel⟩, ⟨.sbc, .izy⟩, ⟨.sbc, .izp⟩, ⟨.nopFetch, .imp⟩, ⟨.nop, .zpx⟩, ⟨.sbc, .zpx⟩,
  ⟨.inc, .zpx⟩, ⟨.smb, .zp⟩, ⟨.sed, .imp⟩, ⟨.sbc, .aby⟩, ⟨.plx, .imp⟩, ⟨.nopFetch, .imp⟩,
  ⟨.nopAbs, .abs⟩, ⟨.sbc, .abx⟩, ⟨.inc, .abx⟩, ⟨.bbs, .zpRel⟩]

/-- `st_block.inc`. -/
def stInstructions : List Instruction := [
  -- 0x00
  ⟨.brk, .imp⟩, ⟨.ora, .izx⟩, ⟨.nop, .imm⟩, ⟨.nopFetch, .imp⟩, ⟨.tsb, .zp⟩, ⟨.ora, .zp⟩,
  ⟨.asl, .zp⟩, ⟨.nop, .zp⟩, ⟨.php, .imp⟩, ⟨.ora, .imm⟩, ⟨.asl, .acc⟩, ⟨.nopFetch, .imp⟩,
  ⟨.tsb, .abs⟩, ⟨.ora, .abs⟩, ⟨.asl, .abs⟩, ⟨.stNopAbs, .abs⟩,
  -- 0x10
  ⟨.bpl, .rel⟩, ⟨.ora, .izy⟩, ⟨.ora, .izp⟩, ⟨.nopFetch, .imp⟩, ⟨.trb, .zp⟩, ⟨.ora, .zpx⟩,
  ⟨.asl, .zpx⟩, ⟨.nop, .zpx⟩, ⟨.clc, .imp⟩, ⟨.ora, .aby⟩, ⟨.inc, .acc⟩, ⟨.nopFetch, .imp⟩,
  ⟨.trb, .abs⟩, ⟨.ora, .abx⟩, ⟨.asl, .abx⟩, ⟨.stNopAbsHigh, .abs⟩,
  -- 0x20
  ⟨.jsr, .abs⟩, ⟨.and, .izx⟩, ⟨.nop, .imm⟩, ⟨.nopFetch, .imp⟩, ⟨.bit, .zp⟩, ⟨.and, .zp⟩,
  ⟨.rol, .zp⟩, ⟨.nop, .zp⟩, ⟨.plp, .imp⟩, ⟨.and, .imm⟩, ⟨.rol, .acc⟩, ⟨.nopFetch, .imp⟩,
  ⟨.bit, .abs⟩, ⟨.and, .abs⟩, ⟨.rol, .abs⟩, ⟨.stNopAbs, .abs⟩,
  -- 0x30
  ⟨.bmi, .rel⟩, ⟨.and, .izy⟩, ⟨.and, .izp⟩, ⟨.nopFetch, .imp⟩, ⟨.bit, .zpx⟩, ⟨.and, .zpx⟩,
  ⟨.rol, .zpx⟩, ⟨.nop, .zpx⟩, ⟨.sec, .imp⟩, ⟨.and, .aby⟩, ⟨.dec, .acc⟩, ⟨.nopFetch, .imp⟩,
  ⟨.bit, .abx⟩, ⟨.and, .abx⟩, ⟨.rol, .abx⟩, ⟨.stNopAbsHigh, .abs⟩,
  -- 0x40
  ⟨.rti, .imp⟩, ⟨.eor, .izx⟩, ⟨.nop, .imm⟩, ⟨.nopFetch, .imp⟩, ⟨.nop, .zp⟩, ⟨.eor, .zp⟩,
  ⟨.lsr, .zp⟩, ⟨.nop, .zp⟩, ⟨.pha, .imp⟩, ⟨.eor, .imm⟩, ⟨.lsr, .acc⟩, ⟨.nopFetch, .imp⟩,
  ⟨.jmp, .abs⟩, ⟨.eor, .abs⟩, ⟨.lsr, .abs⟩, ⟨.stNopAbs, .abs⟩,
  -- 0x50
  ⟨.bvc, .rel⟩, ⟨.eor, .izy⟩, ⟨.eor, .izp⟩, ⟨.nopFetch, .imp⟩, ⟨.nop, .zpx⟩, ⟨.eor, .zpx⟩,
  ⟨.lsr, .zpx⟩, ⟨.nop, .zpx⟩, ⟨.cli, .imp⟩, ⟨.eor, .aby⟩, ⟨.phy, .imp⟩, ⟨.nopFetch, .imp⟩,
  ⟨.nopAbs, .abs⟩, ⟨.eor, .abx⟩, ⟨.lsr, .abx⟩, ⟨.stNopAbsHigh, .abs⟩,
  -- 0x60
  ⟨.rts, .imp⟩, ⟨.adc, .izx⟩, ⟨.nop, .imm⟩, ⟨.nopFetch, .imp⟩, ⟨.stz, .zp⟩, ⟨.adc, .zp⟩,
  ⟨.ror, .zp⟩, ⟨.nop, .zp⟩, ⟨.pla, .imp⟩, ⟨.adc, .imm⟩, ⟨.ror, .acc⟩, ⟨.nopFetch, .imp⟩,
  ⟨.jmp, .ind⟩, ⟨.adc, .abs⟩, ⟨.ror, .abs⟩, ⟨.stNopAbs, .abs⟩,
  -- 0x70
  ⟨.bvs, .rel⟩, ⟨.adc, .izy⟩, ⟨.adc, .izp⟩, ⟨.nopFetch, .imp⟩, ⟨.stz, .zpx⟩, ⟨.adc, .zpx⟩,
  ⟨.ror, .zpx⟩, ⟨.nop, .zpx⟩, ⟨.sei, .imp⟩, ⟨.adc, .aby⟩, ⟨.ply, .imp⟩, ⟨.nopFetch, .imp⟩,
  ⟨.jmp, .indX⟩, ⟨.adc, .abx⟩, ⟨.ror, .abx⟩, ⟨.stNopAbsHigh, .abs⟩,
  -- 0x80
  ⟨.bra, .rel⟩, ⟨.sta, .izx⟩, ⟨.nop, .imm⟩, ⟨.nopFetch, .imp⟩, ⟨.sty, .zp⟩, ⟨.sta, .zp⟩,
  ⟨.stx, .zp⟩, ⟨.nop, .zp⟩, ⟨.dey, .imp⟩, ⟨.bit, .imm⟩, ⟨.txa, .imp⟩, ⟨.nopFetch, .imp⟩,
  ⟨.sty, .abs⟩, ⟨.sta, .abs⟩, ⟨.stx, .abs⟩, ⟨.stNopAbs, .abs⟩,
  -- 0x90
  ⟨.bcc, .rel⟩, ⟨.sta, .izy⟩, ⟨.sta, .izp⟩, ⟨.nopFetch, .imp⟩, ⟨.sty, .zpx⟩, ⟨.sta, .zpx⟩,
  ⟨.stx, .zpy⟩, ⟨.nop, .zpx⟩, ⟨.tya, .imp⟩, ⟨.sta, .aby⟩, ⟨.txs, .imp⟩, ⟨.nopFetch, .imp⟩,
  ⟨.stz, .abs⟩, ⟨.sta, .abx⟩, ⟨.stz, .abx⟩, ⟨.stNopAbsHigh, .abs⟩,
  -- 0xA0
  ⟨.ldy, .imm⟩, ⟨.lda, .izx⟩, ⟨.ldx, .imm⟩, ⟨.nopFetch, .imp⟩, ⟨.ldy, .zp⟩, ⟨.lda, .zp⟩,
  ⟨.ldx, .zp⟩, ⟨.nop, .zp⟩, ⟨.tay, .imp⟩, ⟨.lda, .imm⟩, ⟨.tax, .imp⟩, ⟨.nopFetch, .imp⟩,
  ⟨.ldy, .abs⟩, ⟨.lda, .abs⟩, ⟨.ldx, .abs⟩, ⟨.stNopAbs, .abs⟩,
  -- 0xB0
  ⟨.bcs, .rel⟩, ⟨.lda, .izy⟩, ⟨.lda, .izp⟩, ⟨.nopFetch, .imp⟩, ⟨.ldy, .zpx⟩, ⟨.lda, .zpx⟩,
  ⟨.ldx, .zpy⟩, ⟨.nop, .zpx⟩, ⟨.clv, .imp⟩, ⟨.lda, .aby⟩, ⟨.tsx, .imp⟩, ⟨.nopFetch, .imp⟩,
  ⟨.ldy, .abx⟩, ⟨.lda, .abx⟩, ⟨.ldx, .aby⟩, ⟨.stNopAbsHigh, .abs⟩,
  -- 0xC0
  ⟨.cpy, .imm⟩, ⟨.cmp, .izx⟩, ⟨.nop, .imm⟩, ⟨.nopFetch, .imp⟩, ⟨.cpy, .zp⟩, ⟨.cmp, .zp⟩,
  ⟨.dec, .zp⟩, ⟨.nop, .zp⟩, ⟨.iny, .imp⟩, ⟨.cmp, .imm⟩, ⟨.dex, .imp⟩, ⟨.nop, .imp⟩, ⟨.cpy, .abs⟩,
  ⟨.cmp, .abs⟩, ⟨.dec, .abs⟩, ⟨.stNopAbs, .abs⟩,
  -- 0xD0
  ⟨.bne, .rel⟩, ⟨.cmp, .izy⟩, ⟨.cmp, .izp⟩, ⟨.nopFetch, .imp⟩, ⟨.nop, .zpx⟩, ⟨.cmp, .zpx⟩,
  ⟨.dec, .zpx⟩, ⟨.nop, .zpx⟩, ⟨.cld, .imp⟩, ⟨.cmp, .aby⟩, ⟨.phx, .imp⟩, ⟨.nop, .zpx⟩,
  ⟨.nopAbs, .abs⟩, ⟨.cmp, .abx⟩, ⟨.dec, .abx⟩, ⟨.stNopAbsHigh, .abs⟩,
  -- 0xE0
  ⟨.cpx, .imm⟩, ⟨.sbc, .izx⟩, ⟨.nop, .imm⟩, ⟨.nopFetch, .imp⟩, ⟨.cpx, .zp⟩, ⟨.sbc, .zp⟩,
  ⟨.inc, .zp⟩, ⟨.nop, .zp⟩, ⟨.inx, .imp⟩, ⟨.sbc, .imm⟩, ⟨.nop, .imp⟩, ⟨.nopFetch, .imp⟩,
  ⟨.cpx, .abs⟩, ⟨.sbc, .abs⟩, ⟨.inc, .abs⟩, ⟨.stNopAbs, .abs⟩,
  -- 0xF0
  ⟨.beq, .rel⟩, ⟨.sbc, .izy⟩, ⟨.sbc, .izp⟩, ⟨.nopFetch, .imp⟩, ⟨.nop, .zpx⟩, ⟨.sbc, .zpx⟩,
  ⟨.inc, .zpx⟩, ⟨.nop, .zpx⟩, ⟨.sed, .imp⟩, ⟨.sbc, .aby⟩, ⟨.plx, .imp⟩, ⟨.nopFetch, .imp⟩,
  ⟨.nopAbs, .abs⟩, ⟨.sbc, .abx⟩, ⟨.inc, .abx⟩, ⟨.stNopAbsHigh, .abs⟩]

/-- `wdc`, `rw` and `st` are the CMOS models. -/
def isCmos (model : Nat) : Bool := 2 ≤ model

def instructionTables : List (List Instruction) :=
  [nmosInstructions, nmosInstructions, wdcInstructions, wdcInstructions, stInstructions]

def instructionAt (model : Nat) (opcode : Byte) : Option Instruction := do
  let table ← instructionTables[model]?
  table[opcode.toNat]?

end Qe6502
