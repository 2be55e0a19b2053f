import Qe6502.Resolution

/-!
# The order of directives

A consistent assignment gives a value to every symbol.  Every table of a compilation is below the
assignment, and an acyclic program ends with all the symbols that it refers to, so that a
compilation can fail at an `org(name)` only: `update_pc` throws in the first pass if `name` has
no value yet.  `order_independent` says when this does not happen, and when it does not happen
wherever the `set` directives stand.
-/

namespace Qe6502

namespace Asm6502

/-! ### Programs with an assignment -/

/-- The names that a command refers to. -/
def Command.references : Command → List String
  | orgName name => [name]
  | setBase _ base _ => [base]
  | addLow (.symbol name _) | addWord (.symbol name _) | addRelative (.symbol name _)
  | addFixedWord _ (.symbol name _) => [name]
  | _ => []

/-- The directives `set`. -/
def Command.isSet : Command → Bool
  | set _ _ | setBase _ _ _ => true
  | _ => false

/-- A consistent assignment for a program: every definition holds, every branch is in range, no
address is emitted twice, every symbol that is referred to is defined, and no symbol depends on
itself. -/
structure Assigned (commands : List Command) (symbols : SymbolTable)
    (places : List (Word × Command)) (cells : List (Word × Byte)) : Prop where
  layout : layout symbols 0 commands = some places
  consistent : Consistent symbols places
  emitted : emitted symbols places = some cells
  nodup : (cells.map Prod.fst).Nodup
  defined : ∀ cmd ∈ commands, ∀ name ∈ cmd.references, name ∈ commands.filterMap Command.name
  acyclic : ∃ rank : String → Nat, ∀ name base displacement,
    .setBase name base displacement ∈ commands → rank base < rank name

/-- The compilation succeeds. -/
def Compiles (commands : List Command) (output : MemoryModifiers) : Prop :=
  ∃ passes, compileToMap passes commands = some (.ok output)

/-- The `set` directives stand at other positions. -/
def Moved (commands commands' : List Command) : Prop :=
  commands.filter (!·.isSet) = commands'.filter (!·.isSet) ∧
    (commands.filter Command.isSet).Perm (commands'.filter Command.isSet)

/-- The names that the first pass knows after a command. -/
def Command.learn (known : List String) : Command → List String
  | label name | set name _ => name :: known
  | setBase name base _ => if base ∈ known then name :: known else known
  | _ => known

/-- The names that the first pass knows after some commands. -/
def knownAfter : List String → List Command → List String
  | known, [] => known
  | known, cmd :: commands => knownAfter (cmd.learn known) commands

/-- Each `org(name)` comes when the first pass knows its name. -/
def OrgsReady (known : List String) (commands : List Command) : Prop :=
  ∀ before name after, commands = before ++ .orgName name :: after →
    name ∈ knownAfter known before

/-- Each `org(name)` comes after `label(name)`. -/
def OrgsLabelled (commands : List Command) : Prop :=
  ∀ before name after, commands = before ++ .orgName name :: after → .label name ∈ before

/-! ### The first pass -/

theorem OrgsReady.tail {known : List String} {cmd : Command} {commands : List Command}
    (h : OrgsReady known (cmd :: commands)) : OrgsReady (cmd.learn known) commands := by
  intro before name after hcommands
  exact h (cmd :: before) name after (by rw [hcommands, List.cons_append])

theorem orgsReady_cons {known : List String} {cmd : Command} {commands : List Command} :
    OrgsReady known (cmd :: commands) ↔ (∀ name, cmd = .orgName name → name ∈ known) ∧
      OrgsReady (cmd.learn known) commands := by
  constructor
  · intro h
    refine ⟨?_, h.tail⟩
    rintro name rfl
    exact h [] name commands rfl
  · rintro ⟨hhead, htail⟩ before name after hcommands
    cases before with
    | nil =>
      obtain ⟨rfl, rfl⟩ := List.cons.inj hcommands
      exact hhead name rfl
    | cons cmd' before =>
      obtain ⟨rfl, rfl⟩ := List.cons.inj hcommands
      exact htail before name after rfl

section pass

variable {symbols : SymbolTable}

/-- **A definition of the assignment can be made**, and gives no other value. -/
theorem resolve_below {cmd : Command} {ctx : Context} (hle : ctx.symbols ≤ symbols)
    (hconsistent : ∀ d, cmd.defines symbols ctx.pc = some d → symbols d.1 = some d.2) :
    ∃ added ctx', cmd.resolve ctx = .ok (added, ctx') ∧ ctx'.pc = ctx.pc ∧
      ctx'.symbols ≤ symbols := by
  have hresolve := cmd.resolve_toOption ctx
  cases hdefines : cmd.defines ctx.symbols ctx.pc with
  | none =>
    rw [hdefines] at hresolve
    exact ⟨false, ctx, toOption_eq_some.mp hresolve, rfl, hle⟩
  | some d =>
    obtain ⟨added, defined, hdefine, hbelow⟩ :=
      Table.define_of_le hle (hconsistent d (Command.defines_mono hle hdefines))
    rw [hdefines] at hresolve
    dsimp only at hresolve
    rw [hdefine] at hresolve
    exact ⟨added, _, toOption_eq_some.mp hresolve, rfl, hbelow⟩

/-- The program counter goes on as under the assignment. -/
theorem updatePc_below {cmd : Command} {ctx : Context} (hle : ctx.symbols ≤ symbols)
    {pc' : Word} (hnext : cmd.next symbols ctx.pc = some pc')
    (horg : ∀ name, cmd = .orgName name → ctx.symbols name ≠ none) :
    cmd.updatePc ctx = .ok { ctx with pc := pc' } := by
  have hsame : cmd.next ctx.symbols ctx.pc = some pc' := by
    cases cmd with
    | orgName name =>
      obtain ⟨v, hv⟩ := Option.ne_none_iff_exists'.mp (horg name rfl)
      exact hv.trans ((hle name v hv).symm.trans hnext)
    | _ => exact hnext
  have hupdate := cmd.updatePc_toOption ctx
  rw [hsame] at hupdate
  exact toOption_eq_some.mp hupdate

end pass

/-- The symbols after a command are those before it and the one that it defines. -/
theorem resolve_symbols {cmd : Command} {ctx ctx' : Context} {added : Bool}
    (h : cmd.resolve ctx = .ok (added, ctx')) (name : String) : ctx'.symbols name ≠ none ↔
      ctx.symbols name ≠ none ∨
        (cmd.defines ctx.symbols ctx.pc).map Prod.fst = some name := by
  have hresolve := (cmd.resolve_toOption ctx).symm.trans (toOption_eq_some.mpr h)
  cases hdefines : cmd.defines ctx.symbols ctx.pc with
  | none =>
    rw [hdefines] at hresolve
    cases hresolve
    simp
  | some d =>
    rw [hdefines] at hresolve
    obtain ⟨⟨added', defined⟩, hdefine, heq⟩ := Option.map_eq_some_iff.mp hresolve
    cases heq
    obtain ⟨hle, hvalue, _, hnew⟩ := Table.define_eq_some hdefine
    rw [Option.map_some, Option.some.injEq]
    constructor
    · intro hne
      by_cases hnone : ctx.symbols name = none
      · exact Or.inr (hnew name hnone hne).symm
      · exact Or.inl hnone
    · rintro (hne | rfl)
      · obtain ⟨v, hv⟩ := Option.ne_none_iff_exists'.mp hne
        simp [hle name v hv]
      · simp [hvalue]

section known

variable {known : List String} {symbols : SymbolTable}

/-- What is learnt has a value. -/
theorem value_of_learn (hknown : ∀ name ∈ known, symbols name ≠ none) {cmd : Command} {pc : Word}
    {name : String} (h : name ∈ cmd.learn known) :
    symbols name ≠ none ∨ (cmd.defines symbols pc).map Prod.fst = some name := by
  cases cmd with
  | label name' | set name' _ =>
    rcases List.mem_cons.mp h with rfl | h
    · exact Or.inr rfl
    · exact Or.inl (hknown name h)
  | setBase name' base displacement =>
    rw [Command.learn] at h
    by_cases hbase : base ∈ known
    · rw [if_pos hbase] at h
      rcases List.mem_cons.mp h with rfl | h
      · obtain ⟨v, hv⟩ := Option.ne_none_iff_exists'.mp (hknown base hbase)
        exact Or.inr (by simp [Command.defines, hv])
      · exact Or.inl (hknown name h)
    · rw [if_neg hbase] at h
      exact Or.inl (hknown name h)
  | _ => exact Or.inl (hknown name h)

/-- What has a value is learnt. -/
theorem learn_of_value (hknown : ∀ name, symbols name ≠ none → name ∈ known) {cmd : Command}
    {pc : Word} {name : String}
    (h : symbols name ≠ none ∨ (cmd.defines symbols pc).map Prod.fst = some name) :
    name ∈ cmd.learn known := by
  cases cmd with
  | label name' | set name' _ =>
    rcases h with h | h
    · exact List.mem_cons_of_mem _ (hknown name h)
    · obtain rfl := Option.some.inj h
      exact List.mem_cons_self
  | setBase name' base displacement =>
    rw [Command.learn]
    rcases h with h | h
    · split
      · exact List.mem_cons_of_mem _ (hknown name h)
      · exact hknown name h
    · obtain ⟨d, hd, rfl⟩ := Option.map_eq_some_iff.mp h
      obtain ⟨v, hv, rfl⟩ := Option.map_eq_some_iff.mp hd
      rw [if_pos (hknown base (by simp [hv]))]
      exact List.mem_cons_self
  | _ => exact h.elim (hknown name) fun h => by cases h

end known

/-- **A pass that goes through** has known the name of each `org(name)`. -/
theorem resolvePass_ready {commands : List Command} : ∀ {known : List String}
    {ctx ctx' : Context} {changed changed' : Bool},
      (∀ name, ctx.symbols name ≠ none → name ∈ known) →
        resolvePass commands ctx changed = .ok (ctx', changed') → OrgsReady known commands := by
  induction commands with
  | nil =>
    intro known ctx ctx' changed changed' _ _ before name after hcommands
    exact absurd hcommands.symm (by simp)
  | cons cmd commands ih =>
    intro known ctx ctx' changed changed' hknown h
    obtain ⟨added, ctx₁, ctx₂, hresolve, hupdate, htail⟩ := resolvePass_cons h
    obtain ⟨pc', hpc', hctx₂⟩ := Option.map_eq_some_iff.mp
      ((cmd.updatePc_toOption ctx₁).symm.trans (toOption_eq_some.mpr hupdate))
    have hlearn : ∀ name, ctx₂.symbols name ≠ none → name ∈ cmd.learn known := by
      intro name hne
      rw [← hctx₂] at hne
      exact learn_of_value hknown ((resolve_symbols hresolve name).mp hne)
    refine orgsReady_cons.mpr ⟨?_, ih hlearn htail⟩
    rintro name rfl
    refine hlearn name ?_
    rw [← hctx₂]
    exact Option.ne_none_iff_exists'.mpr ⟨pc', hpc'⟩

section assigned

variable {symbols : SymbolTable}

/-- **A pass below the assignment** goes through, if it knows the name of each `org(name)`. -/
theorem resolvePass_below {commands : List Command} : ∀ {known : List String} {ctx : Context}
    {changed : Bool} {places : List (Word × Command)}, ctx.symbols ≤ symbols →
      layout symbols ctx.pc commands = some places → Consistent symbols places →
        (∀ name ∈ known, ctx.symbols name ≠ none) → OrgsReady known commands →
          ∃ ctx' changed', resolvePass commands ctx changed = .ok (ctx', changed') ∧
            ctx'.symbols ≤ symbols := by
  induction commands with
  | nil => exact fun hle _ _ _ _ => ⟨_, _, rfl, hle⟩
  | cons cmd commands ih =>
    intro known ctx changed places hle hlayout hconsistent hknown hready
    obtain ⟨pc', hnext, hrest⟩ := Option.bind_eq_some_iff.mp hlayout
    obtain ⟨places', hlayout', rfl⟩ := Option.map_eq_some_iff.mp hrest
    obtain ⟨horg, htail⟩ := orgsReady_cons.mp hready
    obtain ⟨added, ctx₁, hresolve, hpc, hle₁⟩ :=
      resolve_below hle (hconsistent (ctx.pc, cmd) List.mem_cons_self)
    have hsymbols := resolve_symbols hresolve
    have hupdate : cmd.updatePc ctx₁ = .ok { ctx₁ with pc := pc' } :=
      updatePc_below hle₁ (hpc ▸ hnext) fun name hcmd =>
        (hsymbols name).mpr (Or.inl (hknown name (horg name hcmd)))
    obtain ⟨ctx', changed', htail', hle'⟩ := @ih _ { ctx₁ with pc := pc' }
      (added || changed) _ hle₁ hlayout'
      (fun p hp => hconsistent p (List.mem_cons_of_mem _ hp))
      (fun name hname => (hsymbols name).mpr (value_of_learn hknown hname)) htail
    refine ⟨ctx', changed', ?_, hle'⟩
    rw [resolvePass, hresolve]
    dsimp only [bind, Except.bind]
    rw [hupdate]
    exact htail'

end assigned

/-! ### The final table of a program with an assignment -/

theorem layout_commands {symbols : SymbolTable} {commands : List Command} : ∀ {pc : Word}
    {places : List (Word × Command)}, layout symbols pc commands = some places →
      places.map Prod.snd = commands := by
  induction commands with
  | nil =>
    intro pc places h
    cases h
    rfl
  | cons cmd commands ih =>
    intro pc places h
    obtain ⟨pc', _, hrest⟩ := Option.bind_eq_some_iff.mp h
    obtain ⟨places', hlayout, rfl⟩ := Option.map_eq_some_iff.mp hrest
    rw [List.map_cons, ih hlayout]

/-- Each command has a place in the layout. -/
theorem exists_place {symbols : SymbolTable} {commands : List Command} {pc : Word}
    {places : List (Word × Command)} (hlayout : layout symbols pc commands = some places)
    {cmd : Command} : cmd ∈ commands ↔ ∃ pc', (pc', cmd) ∈ places := by
  rw [← layout_commands hlayout, List.mem_map]
  constructor
  · rintro ⟨p, hp, rfl⟩
    exact ⟨p.1, hp⟩
  · rintro ⟨pc', hp⟩
    exact ⟨(pc', cmd), hp, rfl⟩

/-- A larger table has the same layout. -/
theorem layout_mono {symbols symbols' : SymbolTable} (hle : symbols ≤ symbols')
    {commands : List Command} : ∀ {pc : Word} {places : List (Word × Command)},
      layout symbols pc commands = some places → layout symbols' pc commands = some places := by
  induction commands with
  | nil => exact fun h => h
  | cons cmd commands ih =>
    intro pc places h
    obtain ⟨pc', hnext, hrest⟩ := Option.bind_eq_some_iff.mp h
    obtain ⟨places', hlayout, rfl⟩ := Option.map_eq_some_iff.mp hrest
    rw [layout, Command.next_mono hle hnext, Option.bind_some, ih hlayout]
    rfl

theorem LinkTarget.value_congr {symbols symbols' : SymbolTable} {t : LinkTarget}
    (h : ∀ name displacement, t = symbol name displacement → symbols name = symbols' name) :
    t.value symbols = t.value symbols' := by
  cases t with
  | word value => rfl
  | symbol name displacement => rw [value, value, h name displacement rfl]

/-- The cells of a command depend on the symbols it refers to. -/
theorem Command.cells_congr {symbols symbols' : SymbolTable} {cmd : Command}
    (h : ∀ name ∈ cmd.references, symbols name = symbols' name) (pc : Word) :
    cmd.cells symbols pc = cmd.cells symbols' pc := by
  cases cmd with
  | addLow t | addWord t | addRelative t | addFixedWord _ t =>
    have hvalue : t.value symbols = t.value symbols' := by
      refine LinkTarget.value_congr ?_
      rintro name displacement rfl
      exact h name List.mem_cons_self
    rw [cells, cells, hvalue]
  | _ => rfl

theorem emitted_congr {symbols symbols' : SymbolTable} {places : List (Word × Command)}
    (h : ∀ p ∈ places, p.2.cells symbols p.1 = p.2.cells symbols' p.1) :
    emitted symbols places = emitted symbols' places := by
  induction places with
  | nil => rfl
  | cons p places ih =>
    rw [emitted, emitted, h p List.mem_cons_self, ih fun q hq => h q (List.mem_cons_of_mem p hq)]

section assigned

variable {commands : List Command} {symbols : SymbolTable} {places : List (Word × Command)}
  {cells : List (Word × Byte)}

/-- **The loop stays below the assignment.** -/
theorem Assigned.resolveLoop (h : Assigned commands symbols places cells)
    (hready : OrgsReady [] commands) : ∀ {passes : Nat} {start : SymbolTable}
      {result : Except Error SymbolTable}, start ≤ symbols →
        resolveLoop commands passes start = some result →
          ∃ final, result = .ok final ∧ final ≤ symbols := by
  intro passes
  induction passes with
  | zero => exact fun _ h => nomatch h
  | succ passes ih =>
    intro start result hle hloop
    obtain ⟨ctx, changed, hpass, hbelow⟩ := @resolvePass_below symbols commands []
      { symbols := start } false places hle h.layout h.consistent (fun _ h => nomatch h) hready
    rw [Asm6502.resolveLoop, hpass] at hloop
    cases changed with
    | false => exact ⟨ctx.symbols, (Option.some.inj hloop).symm, hbelow⟩
    | true => exact ih hbelow hloop

/-- A name that is defined is defined by some command. -/
theorem mem_names {name : String} : name ∈ commands.filterMap Command.name ↔
    ∃ cmd ∈ commands, cmd.name = some name := List.mem_filterMap

/-- **The final table has every symbol that is defined.** -/
theorem Assigned.final_value (h : Assigned commands symbols places cells) {final : SymbolTable}
    (hle : final ≤ symbols) (hfinal : FinalTable commands final) :
    ∀ name ∈ commands.filterMap Command.name, final name = symbols name := by
  obtain ⟨places', hlayout, hconsistent⟩ := hfinal.layout
  obtain ⟨rank, hrank⟩ := h.acyclic
  have hne : ∀ k name, rank name = k → name ∈ commands.filterMap Command.name →
      final name ≠ none := by
    -- A base has a smaller rank than the names that it defines.
    intro k
    induction k using Nat.strongRecOn with
    | _ k ih =>
      rintro name rfl hname
      obtain ⟨cmd, hcmd, hcmdName⟩ := mem_names.mp hname
      obtain ⟨pc, hplace⟩ := (exists_place hlayout).mp hcmd
      have hvalue : ∀ v, cmd.defines final pc = some (name, v) → final name ≠ none := by
        intro v hv
        rw [hconsistent _ hplace (name, v) hv]
        simp
      cases cmd with
      | label name' | set name' _ =>
        obtain rfl := Option.some.inj hcmdName
        exact hvalue _ rfl
      | setBase name' base displacement =>
        obtain rfl := Option.some.inj hcmdName
        have hbase := ih (rank base) (hrank _ _ _ hcmd) base rfl
          (h.defined _ hcmd base List.mem_cons_self)
        obtain ⟨v, hv⟩ := Option.ne_none_iff_exists'.mp hbase
        exact hvalue (displaced v displacement) (by rw [Command.defines, hv]; rfl)
      | _ => cases hcmdName
  intro name hname
  obtain ⟨v, hv⟩ := Option.ne_none_iff_exists'.mp (hne _ name rfl hname)
  rw [hv, hle name v hv]

/-- **A program with an assignment compiles**, if each `org(name)` is ready. -/
theorem Assigned.compiles (h : Assigned commands symbols places cells)
    (hready : OrgsReady [] commands) {output : MemoryModifiers}
    (houtput : Table.insertAll (∅ : MemoryModifiers) cells = some output) :
    Compiles commands output := by
  obtain ⟨resolved, hloop⟩ := @resolveLoop_isSome commands _ ∅
    (Nat.lt_succ_self ((∅ : SymbolTable).undefined (definedNames commands)).length)
  obtain ⟨final, rfl, hle⟩ := h.resolveLoop hready (Table.empty_le symbols) hloop
  have hfinal : FinalTable commands final := ⟨_, hloop⟩
  obtain ⟨places', hlayout, _⟩ := hfinal.layout
  obtain rfl : places' = places := Option.some.inj ((layout_mono hle hlayout).symm.trans h.layout)
  have hcells : Asm6502.emitted final places' = some cells := by
    rw [← h.emitted]
    refine emitted_congr fun p hp => Command.cells_congr (fun name hname => ?_) p.1
    have hcmd : p.2 ∈ commands := (exists_place hlayout).mpr ⟨p.1, hp⟩
    exact h.final_value hle hfinal name (h.defined p.2 hcmd name hname)
  refine ⟨((∅ : SymbolTable).undefined (definedNames commands)).length.succ, ?_⟩
  rw [compileToMap, hloop]
  refine congrArg some (toOption_eq_some.mp ?_)
  refine (placed_toOption commands final).trans ?_
  rw [hlayout, Option.bind_some, hcells]
  exact houtput

end assigned

/-! ### Moving the directives -/

theorem Moved.mem {commands commands' : List Command} (h : Moved commands commands')
    {cmd : Command} : cmd ∈ commands' ↔ cmd ∈ commands := by
  have hsplit : ∀ l : List Command, cmd ∈ l ↔
      cmd ∈ l.filter (!·.isSet) ∨ cmd ∈ l.filter Command.isSet := by
    intro l
    rw [List.mem_filter, List.mem_filter]
    cases cmd.isSet <;> simp
  rw [hsplit commands, hsplit commands', h.1, h.2.mem_iff]

/-- The directives can stand at the end. -/
theorem Moved.last (commands : List Command) :
    Moved commands (commands.filter (!·.isSet) ++ commands.filter Command.isSet) := by
  constructor
  · rw [List.filter_append, List.filter_filter, List.filter_filter]
    simp
  · rw [List.filter_append, List.filter_filter, List.filter_filter]
    simp

/-- A `set` directive keeps the program counter and emits nothing. -/
theorem Command.isSet_next {cmd : Command} (h : cmd.isSet = true) (symbols : SymbolTable)
    (pc : Word) : cmd.next symbols pc = some pc ∧ cmd.cells symbols pc = some [] ∧
      ∀ pc', cmd.defines symbols pc' = cmd.defines symbols pc := by
  cases cmd with
  | set name value => exact ⟨rfl, rfl, fun _ => rfl⟩
  | setBase name base displacement => exact ⟨rfl, rfl, fun _ => rfl⟩
  | _ => cases h

/-- The other commands have the same places without the directives. -/
theorem layout_filter (symbols : SymbolTable) {commands : List Command} : ∀ {pc : Word},
    layout symbols pc (commands.filter (!·.isSet)) =
      (layout symbols pc commands).map fun places => places.filter (!·.2.isSet) := by
  induction commands with
  | nil => exact fun {_} => rfl
  | cons cmd commands ih =>
    intro pc
    cases hset : cmd.isSet with
    | true =>
      rw [List.filter_cons_of_neg (by simp [hset]), ih, layout,
        (Command.isSet_next hset symbols pc).1, Option.bind_some]
      cases layout symbols pc commands with
      | none => rfl
      | some places => simp [hset]
    | false =>
      rw [List.filter_cons_of_pos (by simp [hset]), layout, layout]
      cases cmd.next symbols pc with
      | none => rfl
      | some pc' =>
        rw [Option.bind_some, Option.bind_some, ih]
        cases layout symbols pc' commands with
        | none => rfl
        | some places => simp [hset]

theorem emitted_filter (symbols : SymbolTable) {places : List (Word × Command)} :
    emitted symbols (places.filter (!·.2.isSet)) = emitted symbols places := by
  induction places with
  | nil => rfl
  | cons p places ih =>
    cases hset : p.2.isSet with
    | true =>
      rw [List.filter_cons_of_neg (by simp [hset]), ih, emitted,
        (Command.isSet_next hset symbols p.1).2.1, Option.bind_some]
      cases emitted symbols places <;> rfl
    | false => rw [List.filter_cons_of_pos (by simp [hset]), emitted, emitted, ih]

/-- **The assignment is one for the moved directives**, with the same cells. -/
theorem Assigned.moved {commands commands' : List Command} {symbols : SymbolTable}
    {places : List (Word × Command)} {cells : List (Word × Byte)}
    (h : Assigned commands symbols places cells) (hmoved : Moved commands commands') :
    ∃ places', Assigned commands' symbols places' cells := by
  have hlayout := @layout_filter symbols commands 0
  rw [h.layout, Option.map_some, hmoved.1, layout_filter] at hlayout
  obtain ⟨places', hlayout', hfilter⟩ := Option.map_eq_some_iff.mp hlayout
  refine ⟨places', hlayout', ?_, ?_, h.nodup, ?_, ?_⟩
  · intro p hp d hd
    cases hset : p.2.isSet with
    | true =>
      obtain ⟨pc, hplace⟩ := (exists_place h.layout).mp
        (hmoved.mem.mp ((exists_place hlayout').mpr ⟨p.1, hp⟩))
      refine h.consistent _ hplace d ?_
      exact ((Command.isSet_next hset symbols p.1).2.2 pc).trans hd
    | false =>
      have hmem : p ∈ places'.filter (!·.2.isSet) := List.mem_filter.mpr ⟨hp, by simp [hset]⟩
      rw [hfilter] at hmem
      exact h.consistent p (List.mem_filter.mp hmem).1 d hd
  · rw [← emitted_filter, hfilter, emitted_filter]
    exact h.emitted
  · intro cmd hcmd name hname
    obtain ⟨cmd', hcmd', hdefines⟩ := mem_names.mp (h.defined cmd (hmoved.mem.mp hcmd) name hname)
    exact mem_names.mpr ⟨cmd', hmoved.mem.mpr hcmd', hdefines⟩
  · obtain ⟨rank, hrank⟩ := h.acyclic
    exact ⟨rank, fun name base displacement hmem => hrank _ _ _ (hmoved.mem.mp hmem)⟩

/-! ### Labels before their `org` -/

theorem Command.learn_subset {cmd : Command} {known : List String} {name : String}
    (h : name ∈ known) : name ∈ cmd.learn known := by
  cases cmd with
  | label _ | set _ _ => exact List.mem_cons_of_mem _ h
  | setBase _ base _ =>
    rw [learn]
    split
    · exact List.mem_cons_of_mem _ h
    · exact h
  | _ => exact h

theorem knownAfter_subset {commands : List Command} : ∀ {known : List String} {name : String},
    name ∈ known → name ∈ knownAfter known commands := by
  induction commands with
  | nil => exact fun h => h
  | cons cmd commands ih => exact fun h => ih (Command.learn_subset h)

/-- A label is known after its place. -/
theorem mem_knownAfter {commands : List Command} {name : String}
    (h : .label name ∈ commands) : ∀ {known : List String}, name ∈ knownAfter known commands := by
  induction commands with
  | nil => cases h
  | cons cmd commands ih =>
    intro known
    rcases List.mem_cons.mp h with rfl | h
    · have hlearn : name ∈ (Command.label name).learn known := List.mem_cons_self
      exact @knownAfter_subset commands _ name hlearn
    · exact ih h

/-- Without `set` directives only labels are learnt. -/
theorem label_of_mem_knownAfter {commands : List Command}
    (hset : ∀ cmd ∈ commands, cmd.isSet = false) : ∀ {known : List String} {name : String},
      name ∈ knownAfter known commands → name ∈ known ∨ .label name ∈ commands := by
  induction commands with
  | nil => exact fun h => Or.inl h
  | cons cmd commands ih =>
    intro known name h
    have hcmd := hset cmd List.mem_cons_self
    rcases ih (fun cmd' hcmd' => hset cmd' (List.mem_cons_of_mem cmd hcmd')) h with h | h
    · cases cmd with
      | label name' =>
        rcases List.mem_cons.mp h with rfl | h
        · exact Or.inr List.mem_cons_self
        · exact Or.inl h
      | set _ _ | setBase _ _ _ => cases hcmd
      | _ => exact Or.inl h
    · exact Or.inr (List.mem_cons_of_mem cmd h)

/-- **Labels make each `org(name)` ready**, wherever the directives stand. -/
theorem OrgsLabelled.ready {commands commands' : List Command} (h : OrgsLabelled commands)
    (hmoved : Moved commands commands') : OrgsReady [] commands' := by
  intro before name after hcommands
  have hfilter : commands.filter (!·.isSet) =
      before.filter (!·.isSet) ++ .orgName name :: after.filter (!·.isSet) := by
    rw [hmoved.1, hcommands, List.filter_append, List.filter_cons_of_pos (by rfl)]
  obtain ⟨start, rest, rfl, hstart, hrest⟩ := List.filter_eq_append_iff.mp hfilter
  obtain ⟨skipped, after', rfl, hskipped, _, _⟩ := List.filter_eq_cons_iff.mp hrest
  have hlabel := h (start ++ skipped) name after' (by simp)
  have hbefore : Command.label name ∈ before.filter (!·.isSet) := by
    rw [← hstart]
    refine List.mem_filter.mpr ⟨?_, rfl⟩
    exact (List.mem_append.mp hlabel).resolve_right fun hmem => hskipped _ hmem rfl
  exact mem_knownAfter (List.mem_filter.mp hbefore).1

/-- **Directives at the end** leave only labels for an `org(name)`. -/
theorem labelled_of_ready {commands : List Command}
    (h : ∀ commands', Moved commands commands' → OrgsReady [] commands') :
    OrgsLabelled commands := by
  rintro before name after rfl
  have hready := h _ (Moved.last _) (before.filter (!·.isSet)) name
    (after.filter (!·.isSet) ++ (before ++ .orgName name :: after).filter Command.isSet)
    (by rw [List.filter_append, List.filter_cons_of_pos (by rfl), List.append_assoc,
      List.cons_append])
  have hset : ∀ cmd ∈ before.filter (!·.isSet), cmd.isSet = false := by
    intro cmd hcmd
    simpa using (List.mem_filter.mp hcmd).2
  rcases label_of_mem_knownAfter hset hready with hmem | hmem
  · cases hmem
  · exact (List.mem_filter.mp hmem).1

/-- **The order of the directives.**  A program with a consistent assignment compiles just if each
`org(name)` comes when the first pass knows the name.  It compiles, to one output, wherever its
`set` directives are moved to just if each `org(name)` comes after `label(name)`. -/
theorem order_independent {commands : List Command} {symbols : SymbolTable}
    {places : List (Word × Command)} {cells : List (Word × Byte)}
    (h : Assigned commands symbols places cells) :
    ((∃ output, Compiles commands output) ↔ OrgsReady [] commands) ∧
      ((∃ output, ∀ commands', Moved commands commands' → Compiles commands' output) ↔
        OrgsLabelled commands) := by
  have hready : ∀ {commands' output}, Compiles commands' output → OrgsReady [] commands' := by
    rintro commands' output ⟨passes, hcompile⟩
    obtain ⟨resolved, hloop, hplaced⟩ := Option.map_eq_some_iff.mp hcompile
    cases passes with
    | zero => cases hloop
    | succ passes =>
      rw [resolveLoop] at hloop
      cases hpass : resolvePass commands' { symbols := ∅ } false with
      | error e =>
        rw [hpass] at hloop
        cases hloop
        cases hplaced
      | ok r => exact resolvePass_ready (fun name hne => absurd rfl hne) hpass
  obtain ⟨output, houtput⟩ := Table.insertAll_isSome h.nodup (t := (∅ : MemoryModifiers))
    fun _ _ => rfl
  refine ⟨⟨?_, fun horgs => ⟨output, h.compiles horgs houtput⟩⟩, ?_, ?_⟩
  · rintro ⟨output', hcompile⟩
    exact hready hcompile
  · rintro ⟨output', hcompile⟩
    exact labelled_of_ready fun commands' hmoved => hready (hcompile commands' hmoved)
  · intro hlabelled
    refine ⟨output, fun commands' hmoved => ?_⟩
    obtain ⟨places', hassigned⟩ := h.moved hmoved
    exact hassigned.compiles (hlabelled.ready hmoved) houtput

/-- `org("a")` before the directive that defines `a`. -/
def orgFirst : List Command := [.orgName "a", .addByte 0xEA, .set "a" 0x1000]

/-- **An `org(name)` before the directive that defines the name throws**, though the program has a
consistent assignment and each symbol is defined once. -/
theorem orgFirst_throws :
    (∃ symbols places cells, Assigned orgFirst symbols places cells) ∧
      (orgFirst.filterMap Command.name).Nodup ∧
      (∀ passes, compileToMap (passes + 1) orgFirst =
        some (.error (.undefinedSymbolInOrg "a"))) ∧
      ¬∃ output, Compiles orgFirst output := by
  have hthrows : ∀ passes, compileToMap (passes + 1) orgFirst =
      some (.error (.undefinedSymbolInOrg "a")) := fun _ => rfl
  refine ⟨⟨(∅ : SymbolTable).insert "a" 0x1000, _, _, ⟨rfl, ?_, rfl, by decide, by decide, ?_⟩⟩,
    by decide, hthrows, ?_⟩
  · intro p hp d hd
    simp only [List.mem_cons, List.not_mem_nil, or_false] at hp
    rcases hp with rfl | rfl | rfl
    · cases hd
    · cases hd
    · obtain rfl := Option.some.inj hd
      rfl
  · exact ⟨fun _ => 0, fun name base displacement hmem => by simp [orgFirst] at hmem⟩
  · rintro ⟨output, passes, hcompile⟩
    cases passes with
    | zero => cases hcompile
    | succ passes =>
      rw [hthrows] at hcompile
      cases hcompile

/-- A label, an `org` that goes back to it, and a directive that depends on it. -/
theorem order_independent_label :
    ((∃ output, Compiles [.org 0x1000, .label "a", .orgName "a", .setBase "b" "a" 2,
        .addWord (.symbol "b" 0)] output) ↔
      OrgsReady [] [.org 0x1000, .label "a", .orgName "a", .setBase "b" "a" 2,
        .addWord (.symbol "b" 0)]) ∧
    ((∃ output, ∀ commands', Moved [.org 0x1000, .label "a", .orgName "a", .setBase "b" "a" 2,
        .addWord (.symbol "b" 0)] commands' → Compiles commands' output) ↔
      OrgsLabelled [.org 0x1000, .label "a", .orgName "a", .setBase "b" "a" 2,
        .addWord (.symbol "b" 0)]) := by
  refine @order_independent _ (((∅ : SymbolTable).insert "a" 0x1000).insert "b" 0x1002) _ _
    ⟨rfl, ?_, rfl, by decide, by decide, ?_⟩
  · intro p hp d hd
    simp only [List.mem_cons, List.not_mem_nil, or_false] at hp
    rcases hp with rfl | rfl | rfl | rfl | rfl
    · cases hd
    · obtain rfl := Option.some.inj hd
      rfl
    · cases hd
    · obtain rfl := Option.some.inj hd
      rfl
    · cases hd
  · refine ⟨fun name => if name = "b" then 1 else 0, fun name base displacement hmem => ?_⟩
    simp at hmem
    obtain ⟨rfl, rfl, rfl⟩ := hmem
    decide

end Asm6502

end Qe6502
