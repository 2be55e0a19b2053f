import Qe6502.Assembler
import Qe6502.Words

/-!
# Symbol resolution and placement

Under a table of symbols a program has a layout, the commands with their program counters, and
a layout emits cells, bytes at addresses.  A pass that defines nothing new has checked every
definition of the layout, and the pass that places the bytes adds the cells of the layout:
`placePass_toOption`.  `compile_correct` is the result.
-/

namespace Qe6502

namespace Asm6502

/-! ### What a command means under a table -/

/-- The value of a target. -/
def LinkTarget.value (symbols : SymbolTable) : LinkTarget → Option Word
  | word value => some value
  | symbol name displacement => (symbols name).map (displaced · displacement)

/-- The distance of a branch target from the byte after the branch fits into a byte. -/
def InRange (target base : Word) : Prop :=
  -128 ≤ (target - base).toInt ∧ (target - base).toInt ≤ 127

instance (target base : Word) : Decidable (InRange target base) := by
  unfold InRange
  infer_instance

namespace Command

/-- The name that a command may define. -/
def name : Command → Option String
  | label name | set name _ | setBase name _ _ => some name
  | _ => none

/-- The symbol that a command defines, with its value. -/
def defines (symbols : SymbolTable) (pc : Word) : Command → Option (String × Word)
  | label name => some (name, pc)
  | set name value => some (name, value)
  | setBase name base displacement => (symbols base).map fun v => (name, displaced v displacement)
  | _ => none

/-- The program counter after a command. -/
def next (symbols : SymbolTable) (pc : Word) : Command → Option Word
  | org address => some address
  | orgName name => symbols name
  | addByte _ | addLow _ | addRelative _ => some (pc + 1)
  | addWord _ => some (pc + 2)
  | _ => some pc

/-- The operand that a command emits. -/
def target : Command → Option LinkTarget
  | addLow t | addWord t | addRelative t | addFixedWord _ t => some t
  | _ => none

/-- The bytes of a word at an address. -/
def wordCells (address value : Word) : List (Word × Byte) :=
  [(address, u16GetByte value 0), (address + 1, u16GetByte value 1)]

/-- The cells that a command emits. -/
def cells (symbols : SymbolTable) (pc : Word) : Command → Option (List (Word × Byte))
  | addByte value => some [(pc, value)]
  | addLow t => (t.value symbols).map fun v => [(pc, u16GetByte v 0)]
  | addWord t => (t.value symbols).map (wordCells pc)
  | addRelative t => (t.value symbols).bind fun v =>
      if InRange v (pc + 1) then some [(pc, u16GetByte (v - (pc + 1)) 0)] else none
  | addFixedWord address t => (t.value symbols).map (wordCells address)
  | _ => some []

end Command

/-- The names that a program may define. -/
def definedNames (commands : List Command) : List String :=
  (commands.filterMap Command.name).dedup

/-- The commands with their program counters. -/
def layout (symbols : SymbolTable) : Word → List Command → Option (List (Word × Command))
  | _, [] => some []
  | pc, cmd :: commands =>
    (cmd.next symbols pc).bind fun pc' => (layout symbols pc' commands).map ((pc, cmd) :: ·)

/-- The cells of a layout. -/
def emitted (symbols : SymbolTable) : List (Word × Command) → Option (List (Word × Byte))
  | [] => some []
  | p :: places =>
    (p.2.cells symbols p.1).bind fun cells => (emitted symbols places).map (cells ++ ·)

/-! ### Results without their errors -/

theorem toOption_bind {ε α β : Type} (x : Except ε α) (f : α → Except ε β) :
    (x >>= f).toOption = x.toOption.bind fun a => (f a).toOption := by
  cases x <;> rfl

theorem toOption_eq_some {ε α : Type} {x : Except ε α} {a : α} :
    x.toOption = some a ↔ x = .ok a := by
  cases x <;> simp [Except.toOption]

theorem resolveTarget_toOption (symbols : SymbolTable) (t : LinkTarget) :
    (resolveTarget symbols t).toOption = t.value symbols := by
  cases t with
  | word value => rfl
  | symbol name displacement =>
    rw [resolveTarget, LinkTarget.value]
    cases symbols name <;> rfl

theorem put_toOption (ctx : Context) (address : Word) (value : Byte) :
    (ctx.put address value).toOption =
      (ctx.output.insertAll [(address, value)]).map
        fun output => { ctx with output := output } := by
  rw [Context.put, Table.insertAll]
  cases ctx.output address <;> rfl

/-- The distance is that of the words. -/
theorem relativeTo_eq (target base : Word) : relativeTo target base = (target - base).toInt := by
  rw [relativeTo, BitVec.toInt_eq_toNat_cond, BitVec.toNat_sub]
  have htarget := target.isLt
  have hbase := base.isLt
  split
  · split <;> omega
  · split
    · split <;> omega
    · split <;> omega

theorem ofInt_toInt (w : Word) : BitVec.ofInt 8 w.toInt = u16GetByte w 0 := by
  apply BitVec.eq_of_toNat_eq
  rw [u16GetByte, BitVec.toNat_ofInt, BitVec.toInt_eq_toNat_cond]
  have hw := w.isLt
  simp only [Nat.zero_mul, BitVec.ushiftRight_zero, BitVec.toNat_setWidth]
  split <;> omega

namespace Command

theorem updatePc_toOption (ctx : Context) (cmd : Command) : (cmd.updatePc ctx).toOption =
    (cmd.next ctx.symbols ctx.pc).map fun pc => { ctx with pc := pc } := by
  cases cmd with
  | orgName name =>
    rw [updatePc, next]
    cases ctx.symbols name <;> rfl
  | _ => rfl

theorem putWord_toOption (ctx : Context) (address value : Word) :
    (ctx.put address (u16GetByte value 0) >>= fun ctx =>
      ctx.put (address + 1) (u16GetByte value 1)).toOption =
    (ctx.output.insertAll (wordCells address value)).map fun output =>
      { ctx with output := output } := by
  have hcells : wordCells address value =
    [(address, u16GetByte value 0)] ++ [(address + 1, u16GetByte value 1)] := rfl
  rw [toOption_bind, put_toOption, hcells, Table.insertAll_append]
  cases ctx.output.insertAll [(address, u16GetByte value 0)] with
  | none => rfl
  | some output => exact put_toOption { ctx with output := output } _ _

/-- **Placing a command** adds its cells. -/
theorem place_toOption (ctx : Context) (cmd : Command) : (cmd.place ctx).toOption =
    (cmd.cells ctx.symbols ctx.pc).bind fun cells =>
      (ctx.output.insertAll cells).map fun output => { ctx with output := output } := by
  cases cmd with
  | addByte value => exact put_toOption ctx _ _
  | addLow t =>
    rw [place, cells, toOption_bind, resolveTarget_toOption]
    cases t.value ctx.symbols with
    | none => rfl
    | some v => exact put_toOption ctx _ _
  | addWord t =>
    rw [place, cells, toOption_bind, resolveTarget_toOption]
    cases t.value ctx.symbols with
    | none => rfl
    | some v =>
      have hpc : (ctx.put ctx.pc (u16GetByte v 0) >>= fun ctx =>
          ctx.put (ctx.pc + 1) (u16GetByte v 1)) =
          ctx.put ctx.pc (u16GetByte v 0) >>= fun ctx' =>
            ctx'.put (ctx.pc + 1) (u16GetByte v 1) := by
        rw [Context.put]
        cases ctx.output ctx.pc <;> rfl
      exact (congrArg Except.toOption hpc).trans (putWord_toOption ctx ctx.pc v)
  | addRelative t =>
    rw [place, cells, toOption_bind, resolveTarget_toOption]
    cases t.value ctx.symbols with
    | none => rfl
    | some v =>
      rw [Option.bind_some, Option.bind_some, relativeTo_eq]
      dsimp only
      rw [ofInt_toInt]
      by_cases hrange : InRange v (ctx.pc + 1)
      · have hnot : ¬((v - (ctx.pc + 1)).toInt < -128 ∨ (v - (ctx.pc + 1)).toInt > 127) := by
          have h := hrange
          unfold InRange at h
          omega
        rw [if_pos hrange, if_neg hnot]
        exact put_toOption ctx _ _
      · have hout : (v - (ctx.pc + 1)).toInt < -128 ∨ (v - (ctx.pc + 1)).toInt > 127 := by
          have h := hrange
          unfold InRange at h
          omega
        rw [if_neg hrange, if_pos hout]
        rfl
  | addFixedWord address t =>
    rw [place, cells, toOption_bind, resolveTarget_toOption]
    cases t.value ctx.symbols with
    | none => rfl
    | some v => exact putWord_toOption ctx address v
  | _ => rfl

end Command

/-- The cells of a layout are those of its first command and the others. -/
theorem layout_cons (symbols : SymbolTable) (pc : Word) (cmd : Command) (commands : List Command) :
    (layout symbols pc (cmd :: commands)).bind (emitted symbols) =
      (cmd.cells symbols pc).bind fun cells => (cmd.next symbols pc).bind fun pc' =>
        ((layout symbols pc' commands).bind (emitted symbols)).map (cells ++ ·) := by
  rw [layout]
  cases hcells : cmd.cells symbols pc with
  | none =>
    cases cmd.next symbols pc with
    | none => rfl
    | some pc' =>
      cases hlayout : layout symbols pc' commands with
      | none => simp [hlayout]
      | some places => simp [hlayout, emitted, hcells]
  | some cells =>
    cases cmd.next symbols pc with
    | none => rfl
    | some pc' =>
      cases hlayout : layout symbols pc' commands with
      | none => simp [hlayout]
      | some places => simp [hlayout, emitted, hcells]

/-- **The placement pass** adds the cells of the layout. -/
theorem placePass_toOption {commands : List Command} : ∀ {ctx : Context},
    (placePass commands ctx).toOption.map Context.output =
      ((layout ctx.symbols ctx.pc commands).bind (emitted ctx.symbols)).bind
        ctx.output.insertAll := by
  induction commands with
  | nil => exact fun {_} => rfl
  | cons cmd commands ih =>
    intro ctx
    rw [placePass, toOption_bind, cmd.place_toOption, layout_cons]
    cases cmd.cells ctx.symbols ctx.pc with
    | none => rfl
    | some cells =>
      have happend : ∀ rest, ctx.output.insertAll (cells ++ rest) =
          (ctx.output.insertAll cells).bind (Table.insertAll · rest) :=
        fun rest => Table.insertAll_append
      rw [Option.bind_some, Option.bind_some]
      cases hout : ctx.output.insertAll cells with
      | none =>
        rw [hout] at happend
        cases cmd.next ctx.symbols ctx.pc with
        | none => rfl
        | some pc' =>
          rw [Option.bind_some]
          cases (layout ctx.symbols pc' commands).bind (emitted ctx.symbols) with
          | none => rfl
          | some rest => exact (happend rest).symm
      | some output =>
        rw [hout] at happend
        rw [Option.map_some, Option.bind_some, toOption_bind, cmd.updatePc_toOption]
        cases cmd.next ctx.symbols ctx.pc with
        | none => rfl
        | some pc' =>
          rw [Option.map_some, Option.bind_some, Option.bind_some, ih]
          cases (layout ctx.symbols pc' commands).bind (emitted ctx.symbols) with
          | none => rfl
          | some rest => exact (happend rest).symm

theorem placePass_append {commands commands' : List Command} : ∀ {ctx : Context},
    placePass (commands ++ commands') ctx = placePass commands ctx >>= placePass commands' := by
  induction commands with
  | nil => exact fun {_} => rfl
  | cons cmd commands ih =>
    intro ctx
    rw [List.cons_append, placePass, placePass]
    cases cmd.place ctx with
    | error e => rfl
    | ok ctx₁ =>
      cases hupdate : cmd.updatePc ctx₁ with
      | error e => simp only [Except.bind, bind, hupdate]
      | ok ctx₂ =>
        simp only [Except.bind, bind, hupdate]
        exact ih

/-- The placement pass leaves the symbols, and reaches each command at its program counter. -/
theorem placePass_place {commands : List Command} {cmd : Command} {rest : List Command} :
    ∀ {ctx ctx' : Context} {places : List (Word × Command)},
      placePass commands ctx = .ok ctx' →
        layout ctx.symbols ctx.pc (commands ++ cmd :: rest) = some places →
          (ctx'.pc, cmd) ∈ places := by
  induction commands with
  | nil =>
    intro ctx ctx' places h hlayout
    cases h
    rw [List.nil_append, layout] at hlayout
    obtain ⟨pc', _, hlayout⟩ := Option.bind_eq_some_iff.mp hlayout
    obtain ⟨places', _, rfl⟩ := Option.map_eq_some_iff.mp hlayout
    exact List.mem_cons_self
  | cons cmd' commands ih =>
    intro ctx ctx' places h hlayout
    have h' := toOption_eq_some.mpr h
    rw [placePass, toOption_bind, cmd'.place_toOption] at h'
    obtain ⟨ctx₁, hplace, h'⟩ := Option.bind_eq_some_iff.mp h'
    obtain ⟨cells, _, hplace⟩ := Option.bind_eq_some_iff.mp hplace
    obtain ⟨output, _, rfl⟩ := Option.map_eq_some_iff.mp hplace
    rw [toOption_bind, cmd'.updatePc_toOption] at h'
    obtain ⟨ctx₂, hupdate, h'⟩ := Option.bind_eq_some_iff.mp h'
    obtain ⟨pc', hpc', rfl⟩ := Option.map_eq_some_iff.mp hupdate
    rw [List.cons_append, layout, hpc', Option.bind_some] at hlayout
    obtain ⟨places', hlayout', rfl⟩ := Option.map_eq_some_iff.mp hlayout
    exact List.mem_cons_of_mem _ (ih (toOption_eq_some.mp h') hlayout')

/-! ### Passes that resolve symbols -/

theorem define_toOption (ctx : Context) (name : String) (value : Word) :
    (Command.define ctx name value).toOption =
      (ctx.symbols.define name value).map fun r => (r.1, { ctx with symbols := r.2 }) := by
  rw [Command.define, toOption_bind, defineSymbol, Table.define]
  cases ctx.symbols name with
  | none => rfl
  | some old =>
    by_cases hold : old = value
    · simp [hold, Except.toOption, pure, Except.pure]
    · simp [hold, Except.toOption]

/-- **Resolving a command** defines its symbol, if it has one. -/
theorem Command.resolve_toOption (ctx : Context) (cmd : Command) : (cmd.resolve ctx).toOption =
    match cmd.defines ctx.symbols ctx.pc with
    | none => some (false, ctx)
    | some d => (ctx.symbols.define d.1 d.2).map fun r => (r.1, { ctx with symbols := r.2 }) := by
  cases cmd with
  | label name => exact define_toOption ctx _ _
  | set name value => exact define_toOption ctx _ _
  | setBase name base displacement =>
    rw [resolve, defines]
    cases ctx.symbols base with
    | none => rfl
    | some value => exact define_toOption ctx _ _
  | _ => rfl

theorem Command.defines_name {cmd : Command} {symbols : SymbolTable} {pc : Word}
    {d : String × Word} (h : cmd.defines symbols pc = some d) : cmd.name = some d.1 := by
  cases cmd with
  | setBase name base displacement =>
    obtain ⟨v, _, rfl⟩ := Option.map_eq_some_iff.mp h
    rfl
  | _ => first | (cases h; rfl) | cases h

/-- Under a larger table a command defines the same. -/
theorem Command.defines_mono {cmd : Command} {symbols symbols' : SymbolTable}
    (hle : symbols ≤ symbols') {pc : Word} {d : String × Word}
    (h : cmd.defines symbols pc = some d) : cmd.defines symbols' pc = some d := by
  cases cmd with
  | setBase name base displacement =>
    obtain ⟨v, hv, rfl⟩ := Option.map_eq_some_iff.mp h
    exact Option.map_eq_some_iff.mpr ⟨v, hle base v hv, rfl⟩
  | _ => exact h

theorem Command.next_mono {cmd : Command} {symbols symbols' : SymbolTable}
    (hle : symbols ≤ symbols') {pc pc' : Word} (h : cmd.next symbols pc = some pc') :
    cmd.next symbols' pc = some pc' := by
  cases cmd with
  | orgName name => exact hle name pc' h
  | _ => exact h

/-- What a resolve pass does at a command. -/
structure Steps (cmd : Command) (ctx : Context) (added : Bool) (ctx' : Context) : Prop where
  le : ctx.symbols ≤ ctx'.symbols
  defined : ∀ d, cmd.defines ctx.symbols ctx.pc = some d → ctx'.symbols d.1 = some d.2
  next : cmd.next ctx'.symbols ctx.pc = some ctx'.pc
  added : added = true ↔ ctx.symbols.Grows ctx'.symbols
  name : ∀ name, ctx.symbols name = none → ctx'.symbols name ≠ none → cmd.name = some name

theorem Command.steps {cmd : Command} {ctx ctx₁ ctx' : Context} {added : Bool}
    (hresolve : cmd.resolve ctx = .ok (added, ctx₁)) (hupdate : cmd.updatePc ctx₁ = .ok ctx') :
    Steps cmd ctx added ctx' := by
  have hr := cmd.resolve_toOption ctx
  rw [toOption_eq_some.mpr hresolve] at hr
  have hu := cmd.updatePc_toOption ctx₁
  rw [toOption_eq_some.mpr hupdate] at hu
  obtain ⟨pc', hpc', rfl⟩ := Option.map_eq_some_iff.mp hu.symm
  cases hdefines : cmd.defines ctx.symbols ctx.pc with
  | none =>
    rw [hdefines] at hr
    cases hr
    refine ⟨le_refl _, fun d hd => ?_, hpc', ?_, fun name hname hne => absurd hname hne⟩
    · cases hdefines.symm.trans hd
    · exact ⟨(nomatch ·), fun h => absurd h (Table.not_grows_self _)⟩
  | some d =>
    rw [hdefines] at hr
    obtain ⟨⟨added₁, symbols⟩, hdefine, heq⟩ := Option.map_eq_some_iff.mp hr.symm
    cases heq
    obtain ⟨hle, hvalue, hadded, hname⟩ := Table.define_eq_some hdefine
    refine ⟨hle, ?_, hpc', ?_, ?_⟩
    · intro d' hd'
      obtain rfl := Option.some.inj (hdefines.symm.trans hd')
      exact hvalue
    · rw [hadded]
      constructor
      · intro hnone
        exact ⟨d.1, hnone, by simp [hvalue]⟩
      · rintro ⟨name, hnone, hne⟩
        exact hname name hnone hne ▸ hnone
    · intro name hnone hne
      rw [hname name hnone hne]
      exact defines_name hdefines

theorem resolvePass_cons {cmd : Command} {commands : List Command} {ctx ctx' : Context}
    {changed changed' : Bool}
    (h : resolvePass (cmd :: commands) ctx changed = .ok (ctx', changed')) :
    ∃ added ctx₁ ctx₂, cmd.resolve ctx = .ok (added, ctx₁) ∧ cmd.updatePc ctx₁ = .ok ctx₂ ∧
      resolvePass commands ctx₂ (added || changed) = .ok (ctx', changed') := by
  have h' := toOption_eq_some.mpr h
  rw [resolvePass, toOption_bind] at h'
  obtain ⟨⟨added, ctx₁⟩, hresolve, h'⟩ := Option.bind_eq_some_iff.mp h'
  dsimp only at h'
  rw [toOption_bind] at h'
  obtain ⟨ctx₂, hupdate, h'⟩ := Option.bind_eq_some_iff.mp h'
  exact ⟨added, ctx₁, ctx₂, toOption_eq_some.mp hresolve, toOption_eq_some.mp hupdate,
    toOption_eq_some.mp h'⟩

/-- The definitions that a pass comes upon. -/
def evaluated : List Command → Context → List (String × Word)
  | [], _ => []
  | cmd :: commands, ctx =>
    (cmd.defines ctx.symbols ctx.pc).toList ++
      match cmd.resolve ctx with
      | .error _ => []
      | .ok (_, ctx₁) =>
        match cmd.updatePc ctx₁ with
        | .error _ => []
        | .ok ctx' => evaluated commands ctx'

/-- What a pass that resolves symbols does. -/
structure Passes (commands : List Command) (ctx : Context) (changed : Bool) (ctx' : Context)
    (changed' : Bool) : Prop where
  le : ctx.symbols ≤ ctx'.symbols
  changed : changed' = true ↔ changed = true ∨ ctx.symbols.Grows ctx'.symbols
  name : ∀ name, ctx.symbols name = none → ctx'.symbols name ≠ none →
    name ∈ definedNames commands
  evaluated : ∀ d ∈ evaluated commands ctx, ctx'.symbols d.1 = some d.2

/-- **A pass** only adds symbols, and says whether it has. -/
theorem resolvePass_passes {commands : List Command} : ∀ {ctx ctx' : Context}
    {changed changed' : Bool}, resolvePass commands ctx changed = .ok (ctx', changed') →
      Passes commands ctx changed ctx' changed' := by
  induction commands with
  | nil =>
    intro ctx ctx' changed changed' h
    cases h
    refine ⟨le_refl _, ?_, fun name hnone hne => absurd hnone hne, by simp [Asm6502.evaluated]⟩
    exact ⟨Or.inl, fun h => h.elim id fun h => absurd h (Table.not_grows_self _)⟩
  | cons cmd commands ih =>
    intro ctx ctx' changed changed' h
    obtain ⟨added, ctx₁, ctx₂, hresolve, hupdate, htail⟩ := resolvePass_cons h
    have hsteps := Command.steps hresolve hupdate
    obtain ⟨hle, hchanged, hname, hevaluated⟩ := ih htail
    refine ⟨hsteps.le.trans hle, ?_, ?_, ?_⟩
    · rw [hchanged, Bool.or_eq_true, hsteps.added, Table.Grows.trans_iff hsteps.le hle]
      tauto
    · intro name hnone hne
      rw [definedNames, List.mem_dedup, List.filterMap_cons]
      by_cases hnone' : ctx₂.symbols name = none
      · have htail' := hname name hnone' hne
        rw [definedNames, List.mem_dedup] at htail'
        cases cmd.name with
        | none => exact htail'
        | some n => exact List.mem_cons_of_mem n htail'
      · rw [hsteps.name name hnone hnone']
        exact List.mem_cons_self
    · intro d hd
      rw [Asm6502.evaluated, hresolve, List.mem_append] at hd
      dsimp only at hd
      rw [hupdate] at hd
      rcases hd with hd | hd
      · exact hle _ _ (hsteps.defined d (Option.mem_toList.mp hd))
      · exact hevaluated d hd

/-- The layout has the definitions of the table. -/
def Consistent (symbols : SymbolTable) (places : List (Word × Command)) : Prop :=
  ∀ p ∈ places, ∀ d, p.2.defines symbols p.1 = some d → symbols d.1 = some d.2

/-- **A pass that adds nothing** has walked the layout and checked its definitions. -/
theorem resolvePass_unchanged {commands : List Command} : ∀ {ctx ctx' : Context} {changed : Bool},
    resolvePass commands ctx changed = .ok (ctx', false) → ctx'.symbols = ctx.symbols ∧
      ∃ places, layout ctx.symbols ctx.pc commands = some places ∧
        Consistent ctx.symbols places := by
  induction commands with
  | nil =>
    intro ctx ctx' changed h
    cases h
    exact ⟨rfl, [], rfl, fun p hp => nomatch hp⟩
  | cons cmd commands ih =>
    intro ctx ctx' changed h
    have hpasses := resolvePass_passes h
    obtain ⟨added, ctx₁, ctx₂, hresolve, hupdate, htail⟩ := resolvePass_cons h
    have hsteps := Command.steps hresolve hupdate
    have hnot : ¬ctx.symbols.Grows ctx₂.symbols := by
      intro hgrows
      have hchanged := hpasses.changed.mpr (Or.inr
        ((Table.Grows.trans_iff hsteps.le (resolvePass_passes htail).le).mpr (Or.inl hgrows)))
      exact absurd hchanged Bool.false_ne_true
    have hsame : ctx.symbols = ctx₂.symbols := Table.eq_of_not_grows hsteps.le hnot
    obtain ⟨hsymbols, places, hlayout, hconsistent⟩ := ih htail
    have hnext := hsteps.next
    rw [← hsame] at hsymbols hlayout hconsistent hnext
    refine ⟨hsymbols, (ctx.pc, cmd) :: places, ?_, ?_⟩
    · rw [layout, hnext, Option.bind_some, hlayout]
      rfl
    · intro p hp d hd
      rcases List.mem_cons.mp hp with rfl | hp
      · rw [hsame]
        exact hsteps.defined d hd
      · exact hconsistent p hp d hd

/-! ### The loop over the passes -/

/-- The loop can end with a table of symbols. -/
def FinalTable (commands : List Command) (symbols : SymbolTable) : Prop :=
  ∃ passes, resolveLoop commands passes ∅ = some (.ok symbols)

section loop

variable {commands : List Command}

/-- **Each pass but the last adds a symbol**, so that the loop ends. -/
theorem resolveLoop_isSome : ∀ {passes : Nat} {symbols : SymbolTable},
    (symbols.undefined (definedNames commands)).length < passes →
      ∃ result, resolveLoop commands passes symbols = some result := by
  intro passes
  induction passes with
  | zero => exact fun h => absurd h (Nat.not_lt_zero _)
  | succ passes ih =>
    intro symbols hlt
    rw [resolveLoop]
    cases hpass : resolvePass commands { symbols := symbols } false with
    | error e => exact ⟨.error e, rfl⟩
    | ok r =>
      obtain ⟨ctx, changed⟩ := r
      obtain ⟨hle, hchanged, hname, _⟩ := resolvePass_passes hpass
      cases changed with
      | false => exact ⟨.ok ctx.symbols, rfl⟩
      | true =>
        have hgrows := (hchanged.mp rfl).resolve_left Bool.false_ne_true
        have hless : (ctx.symbols.undefined (definedNames commands)).length <
            (symbols.undefined (definedNames commands)).length :=
          Table.undefined_lt hle hgrows hname
        exact ih (by omega)

theorem resolveLoop_mono : ∀ {passes passes' : Nat} {symbols : SymbolTable}
    {result : Except Error SymbolTable}, resolveLoop commands passes symbols = some result →
      passes ≤ passes' → resolveLoop commands passes' symbols = some result := by
  intro passes
  induction passes with
  | zero => exact fun h => nomatch h
  | succ passes ih =>
    intro passes' symbols result h hle
    obtain ⟨n, rfl⟩ : ∃ n, passes' = n + 1 := ⟨passes' - 1, by omega⟩
    rw [resolveLoop] at h ⊢
    cases hpass : resolvePass commands { symbols := symbols } false with
    | error e => rwa [hpass] at h
    | ok r =>
      obtain ⟨ctx, changed⟩ := r
      rw [hpass] at h
      cases changed with
      | false => exact h
      | true => exact ih h (by omega)

/-- The loop only adds symbols, and ends with a pass that adds none. -/
theorem resolveLoop_ok : ∀ {passes : Nat} {symbols symbols' : SymbolTable},
    resolveLoop commands passes symbols = some (.ok symbols') → symbols ≤ symbols' ∧
      ∃ places, layout symbols' 0 commands = some places ∧ Consistent symbols' places := by
  intro passes
  induction passes with
  | zero => exact fun h => nomatch h
  | succ passes ih =>
    intro symbols symbols' h
    rw [resolveLoop] at h
    cases hpass : resolvePass commands { symbols := symbols } false with
    | error e => rw [hpass] at h; cases h
    | ok r =>
      obtain ⟨ctx, changed⟩ := r
      rw [hpass] at h
      cases changed with
      | false =>
        cases h
        obtain ⟨hsymbols, hlayout⟩ := resolvePass_unchanged hpass
        rw [hsymbols]
        exact ⟨le_refl _, hlayout⟩
      | true =>
        obtain ⟨hle, hlayout⟩ := ih h
        exact ⟨(resolvePass_passes hpass).le.trans hle, hlayout⟩

end loop

/-- The table that a pass starts from. -/
def startTable (commands : List Command) : Nat → Option SymbolTable
  | 0 => some ∅
  | k + 1 => (startTable commands k).bind fun symbols =>
    match resolvePass commands { symbols := symbols } false with
    | .ok (ctx, true) => some ctx.symbols
    | _ => none

/-- Some pass gives a symbol a value. -/
def Gets (commands : List Command) (d : String × Word) : Prop :=
  ∃ k symbols, startTable commands k = some symbols ∧
    d ∈ evaluated commands { symbols := symbols }

/-- A pass goes on in the loop. -/
theorem resolveLoop_startTable {commands : List Command} {final : SymbolTable}
    (hfinal : FinalTable commands final) : ∀ {k : Nat} {symbols : SymbolTable},
      startTable commands k = some symbols →
        ∃ passes, resolveLoop commands passes symbols = some (.ok final) := by
  intro k
  induction k with
  | zero =>
    intro symbols h
    cases h
    exact hfinal
  | succ k ih =>
    intro symbols h
    obtain ⟨before, hbefore, h⟩ := Option.bind_eq_some_iff.mp h
    obtain ⟨passes, hloop⟩ := ih hbefore
    cases passes with
    | zero => cases hloop
    | succ passes =>
      rw [resolveLoop] at hloop
      cases hpass : resolvePass commands { symbols := before } false with
      | error e => rw [hpass] at h; cases h
      | ok r =>
        obtain ⟨ctx, changed⟩ := r
        rw [hpass] at h hloop
        cases changed with
        | false => cases h
        | true =>
          cases h
          exact ⟨passes, hloop⟩

/-- What a symbol gets in some pass is its value in the end. -/
theorem Gets.final {commands : List Command} {d : String × Word} (hgets : Gets commands d)
    {final : SymbolTable} (hfinal : FinalTable commands final) : final d.1 = some d.2 := by
  obtain ⟨k, symbols, hstart, hd⟩ := hgets
  obtain ⟨passes, hloop⟩ := resolveLoop_startTable hfinal hstart
  cases passes with
  | zero => cases hloop
  | succ passes =>
    rw [resolveLoop] at hloop
    cases hpass : resolvePass commands { symbols := symbols } false with
    | error e => rw [hpass] at hloop; cases hloop
    | ok r =>
      obtain ⟨ctx, changed⟩ := r
      rw [hpass] at hloop
      have hvalue := (resolvePass_passes hpass).evaluated d hd
      cases changed with
      | false =>
        cases hloop
        exact hvalue
      | true => exact (resolveLoop_ok hloop).1 _ _ hvalue

/-! ### The compilation -/

section compile

variable {commands : List Command}

/-- **A compilation ends**, with the same result for every bound that is large enough. -/
theorem compileToMap_isSome (commands : List Command) : ∃ result,
    ∀ passes, (definedNames commands).length < passes →
      compileToMap passes commands = some result := by
  have hlt : ((∅ : SymbolTable).undefined (definedNames commands)).length <
      (definedNames commands).length + 1 := Nat.lt_succ_of_le (Table.undefined_length_le _ _)
  obtain ⟨resolved, hloop⟩ := resolveLoop_isSome hlt
  refine ⟨resolved >>= fun symbols => placePass commands { symbols := symbols } >>= fun placed =>
    pure placed.output, fun passes hpasses => ?_⟩
  rw [compileToMap, resolveLoop_mono hloop hpasses]
  rfl

/-- The output of a compilation whose symbols are resolved. -/
theorem placed_toOption (commands : List Command) (symbols : SymbolTable) :
    (placePass commands { symbols := symbols } >>= fun placed =>
      (pure placed.output : Except Error MemoryModifiers)).toOption =
        ((layout symbols 0 commands).bind (emitted symbols)).bind
          (Table.insertAll (∅ : MemoryModifiers)) := by
  rw [toOption_bind, ← @placePass_toOption commands ⟨symbols, 0, ∅⟩, Option.map_eq_bind]
  rfl

/-- **The result under the final table** is that of the placement pass. -/
theorem FinalTable.result {symbols : SymbolTable} (hfinal : FinalTable commands symbols)
    {passes : Nat} {result : Except Error MemoryModifiers}
    (h : compileToMap passes commands = some result) :
    result = placePass commands { symbols := symbols } >>= fun placed => pure placed.output := by
  obtain ⟨passes', hloop'⟩ := hfinal
  obtain ⟨resolved, hloop, h⟩ := Option.map_eq_some_iff.mp h
  have hmax := resolveLoop_mono hloop (Nat.le_max_left passes passes')
  have hmax' := resolveLoop_mono hloop' (Nat.le_max_right passes passes')
  obtain rfl := Option.some.inj (hmax.symm.trans hmax')
  exact h.symm

/-- A compilation that returns has resolved its symbols. -/
theorem finalTable_of_ok {passes : Nat} {output : MemoryModifiers}
    (h : compileToMap passes commands = some (.ok output)) :
    ∃ symbols, FinalTable commands symbols := by
  obtain ⟨resolved, hloop, h⟩ := Option.map_eq_some_iff.mp h
  cases resolved with
  | error e => cases h
  | ok symbols => exact ⟨symbols, passes, hloop⟩

theorem FinalTable.layout {symbols : SymbolTable} (hfinal : FinalTable commands symbols) :
    ∃ places, layout symbols 0 commands = some places ∧ Consistent symbols places := by
  obtain ⟨passes, hloop⟩ := hfinal
  exact (resolveLoop_ok hloop).2

/-- **Every label has the program counter of its place** in the placement pass. -/
theorem label_place {symbols : SymbolTable} {places : List (Word × Command)}
    (hlayout : layout symbols 0 commands = some places) (hconsistent : Consistent symbols places)
    {placed : Context} (hplaced : placePass commands { symbols := symbols } = .ok placed)
    {before after : List Command} {name : String}
    (hcommands : commands = before ++ .label name :: after) :
    ∃ ctx, placePass before { symbols := symbols } = .ok ctx ∧ symbols name = some ctx.pc := by
  subst hcommands
  rw [placePass_append] at hplaced
  cases hbefore : placePass before { symbols := symbols } with
  | error e => rw [hbefore] at hplaced; cases hplaced
  | ok ctx =>
    have hmem := placePass_place hbefore hlayout
    exact ⟨ctx, rfl, hconsistent _ hmem _ rfl⟩

/-- **A compilation that returns** has the cells of the layout. -/
theorem FinalTable.ok {symbols : SymbolTable} (hfinal : FinalTable commands symbols)
    {places : List (Word × Command)} (hlayout : Asm6502.layout symbols 0 commands = some places)
    {passes : Nat} {output : MemoryModifiers}
    (h : compileToMap passes commands = some (.ok output)) :
    ∃ cells, emitted symbols places = some cells ∧
      Table.insertAll (∅ : MemoryModifiers) cells = some output := by
  have hplaced := (placed_toOption commands symbols).symm.trans
    (toOption_eq_some.mpr (hfinal.result h).symm)
  obtain ⟨cells, hcells, hinsert⟩ := Option.bind_eq_some_iff.mp hplaced
  rw [hlayout, Option.bind_some] at hcells
  exact ⟨cells, hcells, hinsert⟩

/-- A layout with a command that cannot be placed emits nothing. -/
theorem emitted_eq_none {symbols : SymbolTable} {places : List (Word × Command)}
    {p : Word × Command} (hp : p ∈ places) (h : p.2.cells symbols p.1 = none) :
    emitted symbols places = none := by
  induction places with
  | nil => cases hp
  | cons q places ih =>
    rw [emitted]
    rcases List.mem_cons.mp hp with rfl | hp
    · rw [h]
      rfl
    · rw [ih hp]
      cases q.2.cells symbols q.1 <;> rfl

theorem Command.cells_eq_none {cmd : Command} {symbols : SymbolTable} {t : LinkTarget}
    (htarget : cmd.target = some t) (hvalue : t.value symbols = none) (pc : Word) :
    cmd.cells symbols pc = none := by
  cases cmd with
  | addLow _ | addWord _ | addRelative _ | addFixedWord _ _ =>
    obtain rfl := Option.some.inj htarget
    rw [cells, hvalue]
    rfl
  | _ => cases htarget

end compile

/-- **Symbol resolution and placement.**  Each pass that goes on adds a symbol, so that the
compilation ends after at most one more pass than there are names.  If it returns, the labels
have the program counters of their places, and the output has just the cells of the layout, each
once.  It throws if a symbol gets two values, if an operand has no value, if a branch target is
out of range and if two cells have one address. -/
theorem compile_correct (commands : List Command) :
    (∀ symbols ctx changed,
      resolvePass commands { symbols := symbols } false = .ok (ctx, changed) →
        symbols ≤ ctx.symbols ∧ (changed = true ↔ symbols.Grows ctx.symbols)) ∧
    ∃ result,
      (∀ passes, (definedNames commands).length < passes →
        compileToMap passes commands = some result) ∧
      (∀ output, result = .ok output → ∃ symbols places cells, FinalTable commands symbols ∧
        layout symbols 0 commands = some places ∧ emitted symbols places = some cells ∧
          (∀ before name after, commands = before ++ .label name :: after →
            ∃ ctx, placePass before { symbols := symbols } = .ok ctx ∧
              symbols name = some ctx.pc) ∧
          (cells.map Prod.fst).Nodup ∧
          ∀ address value, output address = some value ↔ (address, value) ∈ cells) ∧
      (∀ name v w, Gets commands (name, v) → Gets commands (name, w) → v ≠ w →
        ∃ e, result = .error e) ∧
      ∀ symbols places, FinalTable commands symbols → layout symbols 0 commands = some places →
        ((∃ p ∈ places, ∃ t, p.2.target = some t ∧ t.value symbols = none) →
          ∃ e, result = .error e) ∧
        ((∃ p ∈ places, ∃ t v, p.2 = .addRelative t ∧ t.value symbols = some v ∧
          ¬InRange v (p.1 + 1)) → ∃ e, result = .error e) ∧
        ((∃ cells, emitted symbols places = some cells ∧ ¬(cells.map Prod.fst).Nodup) →
          ∃ e, result = .error e) := by
  refine ⟨fun symbols ctx changed h => ?_, ?_⟩
  · obtain ⟨hle, hchanged, _⟩ := resolvePass_passes h
    exact ⟨hle, hchanged.trans ⟨fun h => h.resolve_left Bool.false_ne_true, Or.inr⟩⟩
  obtain ⟨result, hresult⟩ := compileToMap_isSome commands
  have hcompile := hresult _ (Nat.lt_succ_self _)
  have herror : (∀ output, result ≠ .ok output) → ∃ e, result = .error e := by
    intro hne
    cases result with
    | error e => exact ⟨e, rfl⟩
    | ok output => exact absurd rfl (hne output)
  refine ⟨result, hresult, ?_, ?_, ?_⟩
  · rintro output rfl
    obtain ⟨symbols, hfinal⟩ := finalTable_of_ok hcompile
    obtain ⟨places, hlayout, hconsistent⟩ := hfinal.layout
    obtain ⟨cells, hcells, hinsert⟩ := hfinal.ok hlayout hcompile
    obtain ⟨hnodup, _, houtput⟩ := Table.insertAll_eq_some hinsert
    refine ⟨symbols, places, cells, hfinal, hlayout, hcells, ?_, hnodup, ?_⟩
    · intro before name after hcommands
      have hplaced := hfinal.result hcompile
      cases hpass : placePass commands { symbols := symbols } with
      | error e => rw [hpass] at hplaced; cases hplaced
      | ok placed => exact label_place hlayout hconsistent hpass hcommands
    · intro address value
      rw [houtput]
      exact or_iff_right (fun h => by cases h)
  · intro name v w hv hw hvw
    refine herror fun output houtput => hvw ?_
    obtain ⟨symbols, hfinal⟩ := finalTable_of_ok (houtput ▸ hcompile)
    exact Option.some.inj ((hv.final hfinal).symm.trans (hw.final hfinal))
  · intro symbols places hfinal hlayout
    have hcells : ∀ output, result = .ok output → ∃ cells, emitted symbols places = some cells ∧
        Table.insertAll (∅ : MemoryModifiers) cells = some output :=
      fun output houtput => hfinal.ok hlayout (houtput ▸ hcompile)
    refine ⟨?_, ?_, ?_⟩
    · rintro ⟨p, hp, t, htarget, hvalue⟩
      refine herror fun output houtput => ?_
      obtain ⟨cells, hemitted, _⟩ := hcells output houtput
      rw [emitted_eq_none hp (Command.cells_eq_none htarget hvalue p.1)] at hemitted
      cases hemitted
    · rintro ⟨p, hp, t, v, hcmd, hvalue, hrange⟩
      refine herror fun output houtput => ?_
      obtain ⟨cells, hemitted, _⟩ := hcells output houtput
      have hnone : p.2.cells symbols p.1 = none := by
        rw [hcmd, Command.cells, hvalue, Option.bind_some, if_neg hrange]
      rw [emitted_eq_none hp hnone] at hemitted
      cases hemitted
    · rintro ⟨cells, hemitted, hdup⟩
      refine herror fun output houtput => hdup ?_
      obtain ⟨cells', hemitted', hinsert⟩ := hcells output houtput
      obtain rfl := Option.some.inj (hemitted.symm.trans hemitted')
      exact (Table.insertAll_eq_some hinsert).1

end Asm6502

end Qe6502
