import Qe6502.Branches
import Qe6502.Entries

/-!
# The architecture

What the documented instructions do to the registers and to a plain memory, without a word about
cycles.  `Stands.does` says that a ready machine of any model does just that, as long as D is
clear.
-/

namespace Qe6502

/-! ### Addresses in memory -/

/-- The word at an address. -/
def wordAt (memory : Word → Byte) (a : Word) : Word := ofBytes (memory a) (memory (a + 1))

/-- The word at an address of the zero page, which wraps around in it. -/
def zeroWordAt (memory : Word → Byte) (a : Byte) : Word :=
  ofBytes (memory (zeroPage a)) (memory (zeroPage (a + 1)))

/-- The effective address, with the program counter at the operand. -/
def Mode.effective (r : Registers) (memory : Word → Byte) : Mode → Word
  | .zp => zeroPage (memory r.pc)
  | .zpx => zeroPage (memory r.pc + r.x)
  | .zpy => zeroPage (memory r.pc + r.y)
  | .abs => wordAt memory r.pc
  | .abx => wordAt memory r.pc + zeroPage r.x
  | .aby => wordAt memory r.pc + zeroPage r.y
  | .izx => zeroWordAt memory (memory r.pc + r.x)
  | .izy => zeroWordAt memory (memory r.pc) + zeroPage r.y
  | .izp => zeroWordAt memory (memory r.pc)
  | _ => r.pc

/-! ### What a shape does -/

theorem nesAdc_loads : Handler.opNesAdcRReadyNonePendingDataFetch.loads = true := rfl

theorem nesSbc_loads : Handler.opNesSbcRReadyNonePendingDataFetch.loads = true := rfl

/-- A load without decimal mode. -/
def Load.binary (op : Load) : Load :=
  match op.handler with
  | .opAdcRReadyNonePendingDataFetch => ⟨.opNesAdcRReadyNonePendingDataFetch, nesAdc_loads⟩
  | .opSbcRReadyNonePendingDataFetch => ⟨.opNesSbcRReadyNonePendingDataFetch, nesSbc_loads⟩
  | _ => op

/-- The shape belongs to a documented instruction. -/
def Shape.documented : Shape → Bool
  | .read .. | .readDecimal .. | .write .. | .implied _ | .push _ | .pull _ | .branch _ | .jump
  | .jumpInd | .jumpIndCmos | .call | .ret | .rti | .brk | .brkCmos => true
  | .modify _ _ op | .modifyShort op =>
    op.handler ≠ .opWdcRmbSmbRwReadyAddrDataPendingNoneWrPrefetch
  | _ => false

section effects

variable (r : Registers) (memory : Word → Byte)

/-- The registers after the operand bytes. -/
def Mode.behind (mode : Mode) : Registers := { r with pc := mode.next r.pc }

def Load.does (op : Load) (mode : Mode) : Registers × (Word → Byte) :=
  (op.effect (mode.behind r) (memory (mode.effective r memory)), memory)

def Modify.does (op : Modify) (mode : Mode) : Registers × (Word → Byte) :=
  let address := mode.effective r memory
  (op.effect (mode.behind r) (memory address),
    poke memory address (op.value ((mode.behind r).cpu (memory address))))

/-- A jump through a pointer, the high byte of the target being at `high`. -/
def jumpThrough (high : Word) : Registers × (Word → Byte) :=
  ({ r with pc := ofBytes (memory (wordAt memory r.pc)) (memory high) }, memory)

/-- An entry through a vector. -/
def enters (cmos : Bool) (pc vector : Word) (brk : Byte) : Registers × (Word → Byte) :=
  let memory := written memory (pushedEntry r pc brk)
  ({ r with pc := wordAt memory vector, s := r.s - 1 - 1 - 1, p := entryFlags cmos r.p }, memory)

/-- **What a documented shape does**, with the program counter behind the opcode. -/
def Shape.does : Shape → Registers × (Word → Byte)
  | .read _ mode op => op.does r memory mode
  | .readDecimal mode op => op.load.does r memory mode
  | .write _ mode source =>
    (mode.behind r, poke memory (mode.effective r memory) (source.value (r.cpu 0)))
  | .modify _ mode op => op.does r memory mode
  | .modifyShort op => op.does r memory .abx
  | .implied op => (op.effect r, memory)
  | .push op => ({ r with s := r.s - 1 }, poke memory (stackAddress r.s) (op.value r))
  | .pull op => (op.effect { r with s := r.s + 1 } (memory (stackAddress (r.s + 1))), memory)
  | .branch op =>
    let target := branchTarget (r.pc + 1) (memory r.pc)
    ({ r with pc := if op.taken r.p then target else r.pc + 1 }, memory)
  | .jump => ({ r with pc := wordAt memory r.pc }, memory)
  | .jumpInd =>
    let pointer := wordAt memory r.pc
    jumpThrough r memory (ofBytes (u16GetByte pointer 0 + 1) (u16GetByte pointer 1))
  | .jumpIndCmos => jumpThrough r memory (wordAt memory r.pc + 1)
  | .call =>
    let after := written memory (pushedWord r.s (r.pc + 1))
    ({ r with pc := ofBytes (memory r.pc) (after (r.pc + 1)), s := r.s - 1 - 1 }, after)
  | .ret =>
    let target := ofBytes (memory (stackAddress (r.s + 1))) (memory (stackAddress (r.s + 1 + 1)))
    ({ r with pc := target + 1, s := r.s + 1 + 1 }, memory)
  | .rti =>
    ({ r with
        pc := ofBytes (memory (stackAddress (r.s + 1 + 1)))
          (memory (stackAddress (r.s + 1 + 1 + 1)))
        s := r.s + 1 + 1 + 1
        p := pulledFlags (memory (stackAddress (r.s + 1))) }, memory)
  | .brk => enters r memory false (r.pc + 1) 0xFFFE flagB
  | .brkCmos => enters r memory true (r.pc + 1) 0xFFFE flagB
  | _ => (r, memory)

end effects

/-! ### What the host feeds -/

section fed

variable {answer : Tick → (Word → Byte) → Byte} {memory : Word → Byte} {ts : List Tick}
  {bus : ℕ → Byte}

/-- Reads are answered from the memory. -/
theorem Fed.reads {addresses : List Word} (h : Fed answer memory (addresses.map read ++ ts) bus) :
    (∀ k a, addresses[k]? = some a → bus k = memory a) ∧
      Fed answer memory ts fun k => bus (k + addresses.length) := by
  induction addresses generalizing bus with
  | nil => exact ⟨nofun, h⟩
  | cons a addresses ih =>
    obtain ⟨hfirst, hrest⟩ := (fed_read a).mp h
    obtain ⟨hreads, hlast⟩ := ih hrest
    refine ⟨fun k b hk => ?_, ?_⟩
    · cases k with
      | zero => exact hfirst.trans (congrArg memory (Option.some.inj hk))
      | succ k => exact hreads k b hk
    · exact hlast

/-- The operand bytes and the pointers give the effective address. -/
theorem Fed.address {mode : Mode} {r : Registers} {cmos fixes : Bool}
    (h : Fed answer memory ((mode.path r bus cmos fixes).map read ++ ts) fun k => bus (k + 1)) :
    mode.address r bus = mode.effective r memory := by
  obtain ⟨hreads, _⟩ := h.reads
  cases mode with
  | zp =>
    have hlow : bus 1 = memory r.pc := hreads 0 _ rfl
    exact congrArg zeroPage hlow
  | zpx =>
    have hlow : bus 1 = memory r.pc := hreads 0 _ rfl
    exact congrArg (fun b => zeroPage (b + r.x)) hlow
  | zpy =>
    have hlow : bus 1 = memory r.pc := hreads 0 _ rfl
    exact congrArg (fun b => zeroPage (b + r.y)) hlow
  | abs =>
    have hlow : bus 1 = memory r.pc := hreads 0 _ rfl
    have hhigh : bus 2 = memory (r.pc + 1) := hreads 1 _ rfl
    exact congrArg₂ ofBytes hlow hhigh
  | abx =>
    have hlow : bus 1 = memory r.pc := hreads 0 _ rfl
    have hhigh : bus 2 = memory (r.pc + 1) := hreads 1 _ rfl
    exact congrArg₂ (fun low high => ofBytes low high + zeroPage r.x) hlow hhigh
  | aby =>
    have hlow : bus 1 = memory r.pc := hreads 0 _ rfl
    have hhigh : bus 2 = memory (r.pc + 1) := hreads 1 _ rfl
    exact congrArg₂ (fun low high => ofBytes low high + zeroPage r.y) hlow hhigh
  | izx =>
    have hpointer : bus 1 = memory r.pc := hreads 0 _ rfl
    have hlow : bus 3 = memory (zeroPage (bus 1 + r.x)) := hreads 2 _ rfl
    have hhigh : bus 4 = memory (zeroPage (bus 1 + r.x + 1)) := hreads 3 _ rfl
    rw [hpointer] at hlow hhigh
    exact congrArg₂ ofBytes hlow hhigh
  | izy =>
    have hpointer : bus 1 = memory r.pc := hreads 0 _ rfl
    have hlow : bus 2 = memory (zeroPage (bus 1)) := hreads 1 _ rfl
    have hhigh : bus 3 = memory (zeroPage (bus 1 + 1)) := hreads 2 _ rfl
    rw [hpointer] at hlow hhigh
    exact congrArg₂ (fun low high => ofBytes low high + zeroPage r.y) hlow hhigh
  | izp =>
    have hpointer : bus 1 = memory r.pc := hreads 0 _ rfl
    have hlow : bus 2 = memory (zeroPage (bus 1)) := hreads 1 _ rfl
    have hhigh : bus 3 = memory (zeroPage (bus 1 + 1)) := hreads 2 _ rfl
    rw [hpointer] at hlow hhigh
    exact congrArg₂ ofBytes hlow hhigh
  | imp | acc | imm | rel | zpRel | ind | indX => rfl

/-- The tick after the read of the operand has it on the bus. -/
theorem Fed.operand {mode : Mode} {c : Cpu} {cmos fixes : Bool}
    (h : Fed answer memory ((mode.path c.registers bus cmos fixes).map read ++
      read (mode.address c.registers bus) :: ts) fun k => bus (k + 1)) :
    bus (readTick cmos fixes mode c bus) = memory (mode.effective c.registers memory) := by
  obtain ⟨_, hlast⟩ := h.reads
  have hdata := ((fed_read _).mp hlast).1
  rw [h.address, Nat.zero_add] at hdata
  exact hdata

end fed

/-! ### Slots -/

section slots

variable {answer : Tick → (Word → Byte) → Byte} {memory : Word → Byte} {entries : Slot}
  {cpu : Cpu} {does : Registers × (Word → Byte)}

/-- Fed from a memory, the slot leaves these registers and this memory. -/
def Slot.Does (answer : Tick → (Word → Byte) → Byte) (memory : Word → Byte) (entries : Slot)
    (cpu : Cpu) (does : Registers × (Word → Byte)) : Prop :=
  ∀ bus : ℕ → Byte, ∃ beats r, entries.Yields cpu bus beats r ∧ Ends beats ∧
    (Fed answer memory (beats.map Beat.tick).dropLast (fun k => bus (k + 1)) →
      r = does.1 ∧ written memory (writes beats) = does.2)

theorem Slot.Does.of_course (c : (ℕ → Byte) → Course) (r : (ℕ → Byte) → Registers)
    (hyields : ∀ bus, entries.Yields cpu bus (c bus).beats (r bus))
    (hplain : ∀ bus, (c bus).plain = true)
    (hdoes : ∀ bus, Fed answer memory ((c bus).requests ++ [(c bus).last]) (fun k => bus (k + 1)) →
      r bus = does.1 ∧ written memory ((c bus).requests.filterMap Tick.written ++
        (c bus).last.written.toList) = does.2) : entries.Does answer memory cpu does := by
  intro bus
  refine ⟨_, _, hyields bus, Course.ends (hplain bus), fun hfed => ?_⟩
  rw [(c bus).ticks, List.dropLast_concat] at hfed
  rw [(c bus).writes_beats]
  exact hdoes bus hfed

theorem poke_poke (a : Word) (b b' : Byte) : poke (poke memory a b) a b' = poke memory a b' := by
  funext x
  by_cases hx : x = a
  · exact (if_pos hx).trans (if_pos hx).symm
  · exact (if_neg hx).trans ((if_neg hx).trans (if_neg hx).symm)

theorem Source.value_registers (source : Source) (cpu : Cpu) :
    source.value cpu = source.value (cpu.registers.cpu 0) := by
  cases source <;> rfl

/-- What a modification writes depends on the registers and on its operand. -/
theorem Modify.value_registers (op : Modify)
    (h : op.handler ≠ .opWdcRmbSmbRwReadyAddrDataPendingNoneWrPrefetch) (cpu : Cpu) :
    op.value cpu = op.value (cpu.registers.cpu cpu.latchData) := by
  obtain ⟨handler, hop⟩ := op
  cases handler <;> cases hop
  case opWdcRmbSmbRwReadyAddrDataPendingNoneWrPrefetch => exact absurd rfl h
  all_goals rfl

variable {cmos : Bool} {mode : Mode}

/-- A read, which may be a sum without decimal mode. -/
theorem read_does (op : Load)
    (hyields : ∀ bus, entries.Yields cpu bus
      (readCourse cmos (mode.crosses cpu.registers bus) mode cpu bus).beats
      (op.effect { cpu.registers with pc := mode.next cpu.pc }
        (bus (readTick cmos (mode.crosses cpu.registers bus) mode cpu bus)))) :
    entries.Does answer memory cpu (op.does cpu.registers memory mode) := by
  refine .of_course _ _ hyields (fun bus => readCourse_plain _ _ _ _ _) fun bus hfed => ⟨?_, ?_⟩
  · rw [Fed.operand hfed]
    rfl
  · have hlast : (readCourse cmos (mode.crosses cpu.registers bus) mode cpu bus).last.written =
      none := read_written _
    rw [hlast, readCourse, reads_written]
    rfl

theorem write_does (source : Source) (hslot : writeSlot cmos source mode = some entries)
    (cpu : Cpu) : entries.Does answer memory cpu
      (mode.behind cpu.registers, poke memory (mode.effective cpu.registers memory)
        (source.value (cpu.registers.cpu 0))) := by
  refine .of_course _ _ (fun bus => write_yields source hslot cpu bus)
    (fun bus => writeCourse_plain _ _ _ _ _) fun bus hfed => ⟨rfl, ?_⟩
  have haddress := Fed.address hfed
  rw [writeCourse, reads_written, haddress, source.value_registers]
  simp [written]

/-- A modification of either family, with or without the tick that adds the carry. -/
theorem modify_does (op : Modify)
    (hop : op.handler ≠ .opWdcRmbSmbRwReadyAddrDataPendingNoneWrPrefetch)
    (fixes : (ℕ → Byte) → Bool)
    (hyields : ∀ bus, entries.Yields cpu bus
      (modifyCourse cmos (fixes bus) mode (modified op cmos (fixes bus) mode cpu bus) cpu bus).beats
      (op.effect { cpu.registers with pc := mode.next cpu.pc }
        (bus (readTick cmos (fixes bus) mode cpu bus)))) :
    entries.Does answer memory cpu (op.does cpu.registers memory mode) := by
  refine .of_course _ _ hyields (fun bus => modifyCourse_plain _ _ _ _ _ _) fun bus hfed => ?_
  rw [modifyCourse, List.append_assoc] at hfed
  have hdata := Fed.operand hfed
  have haddress := Fed.address hfed
  have hvalue : modified op cmos (fixes bus) mode cpu bus = op.value
      ((mode.behind cpu.registers).cpu (memory (mode.effective cpu.registers memory))) := by
    rw [modified, op.value_registers hop, ← hdata]
    rfl
  refine ⟨?_, ?_⟩
  · rw [hdata]
    rfl
  · rw [modifyCourse_writes, hvalue, haddress]
    cases cmos with
    | true => rfl
    | false => exact poke_poke _ _ _

theorem branch_does (op : Branch) (cpu : Cpu) :
    (branchRel op.handler).Does answer memory cpu
      ((Shape.branch op).does cpu.registers memory) := by
  intro bus
  obtain ⟨dummy, hyields⟩ := branch_yields cpu bus op
  have hends := @Turn.beats_ends [] (by simp) cpu.pc dummy (bus 1) cpu.p
  refine ⟨_, _, hyields, hends _, fun hfed => ⟨?_, ?_⟩⟩
  · obtain ⟨b, rest, hbeats⟩ := Turn.beats_cons cpu.pc dummy (bus 1) cpu.p
      (Turn.of (op.taken cpu.p) (cpu.pc + 1) (bus 1))
    rw [hbeats, List.map_cons, List.map_cons, List.dropLast_cons_cons] at hfed
    have hoffset : bus 1 = memory cpu.pc := ((fed_read _).mp hfed).1
    rw [Turn.next_of, hoffset]
    rfl
  · rw [Turn.writes_beats]
    rfl

theorem jumpInd_does (cpu : Cpu) :
    jmpInd.Does answer memory cpu (Shape.jumpInd.does cpu.registers memory) := by
  refine .of_course _ _ (fun bus => jumpInd_yields cpu bus) (fun bus => by simp [Course.plain])
    fun bus hfed => ⟨?_, by simp [written]; rfl⟩
  simp only [List.cons_append, List.nil_append, fed_read] at hfed
  obtain ⟨hlow, hhigh, htarget, hpage, -⟩ := hfed
  have hpointer : ofBytes (bus 1) (bus 2) = wordAt memory cpu.pc := congrArg₂ ofBytes hlow hhigh
  have hnext : ofBytes (bus 1 + 1) (bus 2) = ofBytes (u16GetByte (wordAt memory cpu.pc) 0 + 1)
      (u16GetByte (wordAt memory cpu.pc) 1) := by
    rw [← hpointer, getByte_zero_ofBytes, getByte_one_ofBytes]
  have htarget : bus 3 = memory (ofBytes (bus 1) (bus 2)) := htarget
  have hpage : bus 4 = memory (ofBytes (bus 1 + 1) (bus 2)) := hpage
  rw [hpointer] at htarget
  rw [hnext] at hpage
  rw [htarget, hpage]
  rfl

theorem jumpIndCmos_does (cpu : Cpu) :
    jmpIndWdc.Does answer memory cpu (Shape.jumpIndCmos.does cpu.registers memory) := by
  refine .of_course _ _ (fun bus => jumpIndCmos_yields cpu bus)
    (fun bus => by simp [Course.plain])
    fun bus hfed => ⟨?_, by simp [written]; rfl⟩
  simp only [List.cons_append, List.nil_append, fed_read] at hfed
  obtain ⟨hlow, hhigh, htarget, -, hnext, -⟩ := hfed
  have hpointer : ofBytes (bus 1) (bus 2) = wordAt memory cpu.pc := congrArg₂ ofBytes hlow hhigh
  have htarget : bus 3 = memory (ofBytes (bus 1) (bus 2)) := htarget
  have hnext : bus 5 = memory (ofBytes (bus 1) (bus 2) + 1) := hnext
  rw [hpointer] at htarget hnext
  rw [htarget, hnext]
  rfl

theorem call_does (cpu : Cpu) :
    jsrAbs.Does answer memory cpu (Shape.call.does cpu.registers memory) := by
  refine .of_course _ _ (fun bus => call_yields cpu bus) (fun bus => by simp [Course.plain])
    fun bus hfed => ⟨?_, by simp [written]; rfl⟩
  simp only [List.cons_append, List.nil_append, fed_read, fed_write] at hfed
  obtain ⟨hlow, -, -, -, hhigh, -⟩ := hfed
  have hlow : bus 1 = memory cpu.pc := hlow
  have hhigh : bus 5 = written memory (pushedWord cpu.s (cpu.pc + 1)) (cpu.pc + 1) := hhigh
  rw [hlow, hhigh]
  rfl

theorem ret_does (cpu : Cpu) :
    rts.Does answer memory cpu (Shape.ret.does cpu.registers memory) := by
  refine .of_course _ _ (fun bus => ret_yields cpu bus) (fun bus => by simp [Course.plain])
    fun bus hfed => ⟨?_, by simp [written]; rfl⟩
  simp only [List.cons_append, List.nil_append, fed_read] at hfed
  obtain ⟨-, -, hlow, hhigh, -⟩ := hfed
  have hlow : bus 3 = memory (stackAddress (cpu.s + 1)) := hlow
  have hhigh : bus 4 = memory (stackAddress (cpu.s + 1 + 1)) := hhigh
  rw [hlow, hhigh]
  rfl

theorem rti_does (cpu : Cpu) :
    rti.Does answer memory cpu (Shape.rti.does cpu.registers memory) := by
  refine .of_course _ _ (fun bus => rti_yields cpu bus) (fun bus => by simp [Course.plain])
    fun bus hfed => ⟨?_, by simp [written]; rfl⟩
  simp only [List.cons_append, List.nil_append, fed_read] at hfed
  obtain ⟨-, -, hflags, hlow, hhigh, -⟩ := hfed
  have hflags : bus 3 = memory (stackAddress (cpu.s + 1)) := hflags
  have hlow : bus 4 = memory (stackAddress (cpu.s + 1 + 1)) := hlow
  have hhigh : bus 5 = memory (stackAddress (cpu.s + 1 + 1 + 1)) := hhigh
  rw [hflags, hlow, hhigh]
  rfl

/-- A BRK, which of the flags clears D or not. -/
theorem brk_does (hyields : ∀ bus, entries.Yields cpu bus
      (quiet (read cpu.pc) :: entryBeats cpu bus (cpu.pc + 1) 0xFFFE flagB)
      { cpu.registers with
        pc := ofBytes (bus 5) (bus 6), s := cpu.s - 1 - 1 - 1, p := entryFlags cmos cpu.p }) :
    entries.Does answer memory cpu
      (enters cpu.registers memory cmos (cpu.pc + 1) 0xFFFE flagB) := by
  intro bus
  refine ⟨_, _, hyields bus, entryBeats_ends _ _ _ _, fun hfed => ⟨?_, ?_⟩⟩
  · have hticks : ((quiet (read cpu.pc) :: entryBeats cpu bus (cpu.pc + 1) 0xFFFE flagB).map
        Beat.tick).dropLast = [read cpu.pc, write (stackAddress cpu.s) (u16GetByte (cpu.pc + 1) 1),
        write (stackAddress (cpu.s - 1)) (u16GetByte (cpu.pc + 1) 0),
        write (stackAddress (cpu.s - 1 - 1)) (stackStatus cpu.p flagB), read 0xFFFE,
        read (0xFFFE + 1)] := rfl
    rw [hticks] at hfed
    simp only [fed_read, fed_write] at hfed
    obtain ⟨-, -, -, -, hlow, hhigh, -⟩ := hfed
    have hlow : bus 5 = written memory (pushedEntry cpu.registers (cpu.pc + 1) flagB) 0xFFFE := hlow
    have hhigh : bus 6 =
      written memory (pushedEntry cpu.registers (cpu.pc + 1) flagB) (0xFFFE + 1) := hhigh
    rw [hlow, hhigh]
    rfl
  · rw [writes_entryBeats]
    rfl

/-- **The slot of a documented shape** does what the shape does. -/
theorem Shape.slot_does {shape : Shape} (hslot : shape.slot = some entries)
    (hdocumented : shape.documented = true) (hd : decimalClear cpu = true) :
    entries.Does answer memory cpu (shape.does cpu.registers memory) := by
  cases shape with
  | read cmos mode op => exact read_does op fun bus => read_yields cpu bus op hslot
  | readDecimal mode op => exact read_does op.load fun bus => sum_yields_clear cpu bus op hslot hd
  | write cmos mode source => exact write_does source hslot cpu
  | modify cmos mode op =>
    exact modify_does op (of_decide_eq_true hdocumented) _ fun bus => modify_yields op hslot cpu bus
  | modifyShort op =>
    cases hslot
    exact modify_does op (of_decide_eq_true hdocumented) _ (modifyShort_yields op cpu)
  | implied op =>
    cases hslot
    exact .of_course _ _ (fun bus => implied_yields cpu bus op) (fun bus => by simp [Course.plain])
      fun bus _ => ⟨rfl, by simp [written]; rfl⟩
  | push op =>
    cases hslot
    exact .of_course _ _ (fun bus => push_yields cpu bus op) (fun bus => by simp [Course.plain])
      fun bus _ => ⟨rfl, by simp [written]; rfl⟩
  | pull op =>
    cases hslot
    refine .of_course _ _ (fun bus => pull_yields cpu bus op) (fun bus => by simp [Course.plain])
      fun bus hfed => ⟨?_, by simp [written]; rfl⟩
    simp only [List.cons_append, List.nil_append, fed_read] at hfed
    have hdata : bus 3 = memory (stackAddress (cpu.s + 1)) := hfed.2.2.1
    rw [hdata]
    rfl
  | branch op =>
    cases hslot
    exact branch_does op cpu
  | jump =>
    cases hslot
    refine .of_course _ _ (fun bus => jump_yields cpu bus) (fun bus => by simp [Course.plain])
      fun bus hfed => ⟨?_, by simp [written]; rfl⟩
    simp only [List.cons_append, List.nil_append, fed_read] at hfed
    have hlow : bus 1 = memory cpu.pc := hfed.1
    have hhigh : bus 2 = memory (cpu.pc + 1) := hfed.2.1
    rw [hlow, hhigh]
    rfl
  | jumpInd => cases hslot; exact jumpInd_does cpu
  | jumpIndCmos => cases hslot; exact jumpIndCmos_does cpu
  | call => cases hslot; exact call_does cpu
  | ret => cases hslot; exact ret_does cpu
  | rti => cases hslot; exact rti_does cpu
  | brk => cases hslot; exact brk_does (brk_yields cpu)
  | brkCmos => cases hslot; exact brk_does (brkCmos_yields cpu)
  | _ => cases hdocumented

end slots

end Qe6502
