import Mathlib.Data.List.Forall2

/-!
# Runs of a state machine

A machine is a partial step function `step : σ → ι → Option σ` from a state and an input.
This file has its reachable states with the invariant rule, the states a list of inputs
passes through, a lockstep rule for two machines, the temporal `Until` on finite runs and a
potential argument for counted events.
-/

namespace StepMachine

variable {σ τ ι κ ο : Type*}

/-! ### Reachable states -/

inductive Reachable (init : σ → Prop) (step : σ → ι → Option σ) : σ → Prop
  | init {s : σ} : init s → Reachable init step s
  | step {s s' : σ} {i : ι} : Reachable init step s → step s i = some s' →
      Reachable init step s'

/-- **The invariant rule.** -/
theorem Reachable.invariant {init : σ → Prop} {step : σ → ι → Option σ} (Inv : σ → Prop)
    (hinit : ∀ s, init s → Inv s)
    (hstep : ∀ s i s', Inv s → step s i = some s' → Inv s') {s : σ}
    (h : Reachable init step s) : Inv s := by
  induction h with
  | init hs => exact hinit _ hs
  | step _ hs ih => exact hstep _ _ _ ih hs

/-! ### Runs -/

/-- The states a run passes through, one after each input; `none` if some step has no
result. -/
def states (step : σ → ι → Option σ) : σ → List ι → Option (List σ)
  | _, [] => some []
  | s, i :: is => (step s i).bind fun s' => (states step s' is).map (s' :: ·)

/-- The state at the end of a run. -/
def final (step : σ → ι → Option σ) : σ → List ι → Option σ
  | s, [] => some s
  | s, i :: is => (step s i).bind fun s' => final step s' is

theorem states_cons (step : σ → ι → Option σ) (s : σ) (i : ι) (is : List ι) :
    states step s (i :: is) = (step s i).bind fun s' => (states step s' is).map (s' :: ·) :=
  rfl

theorem final_cons (step : σ → ι → Option σ) (s : σ) (i : ι) (is : List ι) :
    final step s (i :: is) = (step s i).bind fun s' => final step s' is :=
  rfl

/-- `P` holds of the state and the input of every step of a run. -/
def Always (step : σ → ι → Option σ) (P : σ → ι → Prop) : σ → List ι → Prop
  | _, [] => True
  | s, i :: is => P s i ∧ ∀ s', step s i = some s' → Always step P s' is

instance decidableNextAll {o : Option σ} {P : σ → Prop} [DecidablePred P] :
    Decidable (∀ s', o = some s' → P s') :=
  match o with
  | none => isTrue fun _ h => nomatch h
  | some s => decidable_of_iff (P s) ⟨fun hP _ h => Option.some.inj h ▸ hP, fun h => h s rfl⟩

instance decidableAlways {step : σ → ι → Option σ} {P : σ → ι → Prop} [∀ s i, Decidable (P s i)] :
    ∀ s is, Decidable (Always step P s is)
  | _, [] => isTrue trivial
  | s, i :: is =>
    have (s' : σ) : Decidable (Always step P s' is) := decidableAlways s' is
    inferInstanceAs (Decidable (P s i ∧ ∀ s', step s i = some s' → Always step P s' is))

theorem always_of_forall {step : σ → ι → Option σ} {P : σ → ι → Prop} (hP : ∀ s i, P s i) :
    ∀ (is : List ι) (s : σ), Always step P s is := by
  intro is
  induction is with
  | nil => intro s; trivial
  | cons i is ih => exact fun s => ⟨hP s i, fun s' _ => ih s'⟩

/-- What an invariant and an allowed step give holds of every step of an allowed run, when
allowed steps keep the invariant. -/
theorem always_of_allowed {step : σ → ι → Option σ} (Inv : σ → Prop) {P Q : σ → ι → Prop}
    (hstep : ∀ s i s', Inv s → P s i → step s i = some s' → Inv s')
    (hPQ : ∀ s i, Inv s → P s i → Q s i) :
    ∀ {is : List ι} {s : σ}, Inv s → Always step P s is → Always step Q s is := by
  intro is
  induction is with
  | nil => intro s _ _; trivial
  | cons i is ih =>
    intro s hs hP
    exact ⟨hPQ s i hs hP.1, fun s' hs' => ih (hstep s i s' hs hP.1 hs') (hP.2 s' hs')⟩

/-- The same when every step keeps the invariant. -/
theorem always_of_invariant {step : σ → ι → Option σ} (Inv : σ → Prop) {P Q : σ → ι → Prop}
    (hstep : ∀ s i s', Inv s → step s i = some s' → Inv s')
    (hPQ : ∀ s i, Inv s → P s i → Q s i) {is : List ι} {s : σ} :
    Inv s → Always step P s is → Always step Q s is :=
  always_of_allowed Inv (fun s i s' hs _ => hstep s i s' hs) hPQ

theorem reachable_final {init : σ → Prop} {step : σ → ι → Option σ} :
    ∀ {is : List ι} {s s' : σ}, Reachable init step s → final step s is = some s' →
      Reachable init step s' := by
  intro is
  induction is with
  | nil => intro s s' hs h; cases h; exact hs
  | cons i is ih =>
    intro s s' hs h
    rw [final_cons, Option.bind_eq_some_iff] at h
    obtain ⟨s₁, h₁, h⟩ := h
    exact ih (.step hs h₁) h

theorem final_append {step : σ → ι → Option σ} (is₁ is₂ : List ι) (s : σ) :
    final step s (is₁ ++ is₂) = (final step s is₁).bind fun s' => final step s' is₂ := by
  induction is₁ generalizing s with
  | nil => rfl
  | cons i is₁ ih =>
    rw [List.cons_append, final_cons, final_cons, Option.bind_assoc]
    exact congrArg _ (funext ih)

theorem states_snoc {step : σ → ι → Option σ} {i : ι} :
    ∀ {is : List ι} {s s' s'' : σ} {ss : List σ}, states step s is = some ss →
      final step s is = some s' → step s' i = some s'' →
      states step s (is ++ [i]) = some (ss ++ [s'']) := by
  intro is
  induction is with
  | nil =>
    intro s s' s'' ss hss hs' hs''
    cases hss
    cases hs'
    rw [List.nil_append, states_cons, hs'']
    rfl
  | cons j is ih =>
    intro s s' s'' ss hss hs' hs''
    simp only [states_cons, Option.bind_eq_some_iff, Option.map_eq_some_iff] at hss
    obtain ⟨s₁, h₁, ss₁, hss₁, rfl⟩ := hss
    rw [final_cons, h₁, Option.bind_some] at hs'
    rw [List.cons_append, states_cons, h₁, Option.bind_some, ih hss₁ hs' hs'']
    rfl

/-- A machine with an invariant that keeps every step defined has every run. -/
theorem states_isSome {step : σ → ι → Option σ} {Inv : σ → Prop}
    (hstep : ∀ s i, Inv s → ∃ s', step s i = some s' ∧ Inv s') :
    ∀ {is : List ι} {s : σ}, Inv s → ∃ ss, states step s is = some ss := by
  intro is
  induction is with
  | nil => intro s _; exact ⟨[], rfl⟩
  | cons i is ih =>
    intro s hs
    obtain ⟨s', hs', hinv⟩ := hstep s i hs
    obtain ⟨ss, hss⟩ := ih hinv
    exact ⟨s' :: ss, by rw [states_cons, hs', Option.bind_some, hss]; rfl⟩

theorem final_isSome {step : σ → ι → Option σ} {Inv : σ → Prop}
    (hstep : ∀ s i, Inv s → ∃ s', step s i = some s' ∧ Inv s') :
    ∀ (is : List ι) {s : σ}, Inv s → ∃ s', final step s is = some s' ∧ Inv s' := by
  intro is
  induction is with
  | nil => exact fun hs => ⟨_, rfl, hs⟩
  | cons i is ih =>
    intro s hs
    obtain ⟨s₁, hs₁, hinv⟩ := hstep s i hs
    obtain ⟨s', hs', hinv'⟩ := ih hinv
    exact ⟨s', by rw [final_cons, hs₁, Option.bind_some, hs'], hinv'⟩

/-! ### Outputs -/

/-- The outputs of a run of a machine whose steps have an output, and the state it ends in. -/
def trace (step : σ → ι → Option (ο × σ)) : σ → List ι → Option (List ο × σ)
  | s, [] => some ([], s)
  | s, i :: is => (step s i).bind fun r => (trace step r.2 is).map fun q => (r.1 :: q.1, q.2)

theorem trace_step (step : σ → ι → Option (ο × σ)) (s : σ) (i : ι) (is : List ι) :
    trace step s (i :: is) =
      (step s i).bind fun r => (trace step r.2 is).map fun q => (r.1 :: q.1, q.2) :=
  rfl

theorem trace_cons {step : σ → ι → Option (ο × σ)} {s s₁ s' : σ} {i : ι} {is : List ι} {o : ο}
    {os : List ο} (hs : step s i = some (o, s₁)) (his : trace step s₁ is = some (os, s')) :
    trace step s (i :: is) = some (o :: os, s') := by
  rw [trace_step, hs, Option.bind_some, his]
  rfl

theorem trace_cons_inv {step : σ → ι → Option (ο × σ)} {s s' : σ} {i : ι} {is : List ι}
    {os : List ο} (h : trace step s (i :: is) = some (os, s')) :
    ∃ o s₁ os₁, step s i = some (o, s₁) ∧ trace step s₁ is = some (os₁, s') ∧ os = o :: os₁ := by
  rw [trace_step, Option.bind_eq_some_iff] at h
  obtain ⟨⟨o, s₁⟩, hs, h⟩ := h
  obtain ⟨⟨os₁, s₂⟩, his, heq⟩ := Option.map_eq_some_iff.mp h
  cases heq
  exact ⟨o, s₁, os₁, hs, his, rfl⟩

theorem trace_append {step : σ → ι → Option (ο × σ)} {is₂ : List ι} {s₁ s' : σ} {os₂ : List ο}
    (h₂ : trace step s₁ is₂ = some (os₂, s')) :
    ∀ {is₁ : List ι} {s : σ} {os₁ : List ο}, trace step s is₁ = some (os₁, s₁) →
      trace step s (is₁ ++ is₂) = some (os₁ ++ os₂, s') := by
  intro is₁
  induction is₁ with
  | nil => intro s os₁ h₁; cases h₁; exact h₂
  | cons i is₁ ih =>
    intro s os₁ h₁
    obtain ⟨o, s₀, os₀, hs, his, rfl⟩ := trace_cons_inv h₁
    exact trace_cons hs (ih his)

theorem trace_length {step : σ → ι → Option (ο × σ)} :
    ∀ {is : List ι} {s s' : σ} {os : List ο}, trace step s is = some (os, s') →
      os.length = is.length := by
  intro is
  induction is with
  | nil => intro s s' os h; cases h; rfl
  | cons i is ih =>
    intro s s' os h
    obtain ⟨o, s₁, os₁, _, his, rfl⟩ := trace_cons_inv h
    exact congrArg (· + 1) (ih his)

/-- The first inputs of a stream. -/
def first (input : ℕ → ι) (n : ℕ) : List ι := (List.range n).map input

theorem first_eq (input : ℕ → ι) (n : ℕ) : first input n = (List.range n).map input := rfl

theorem first_succ (input : ℕ → ι) (n : ℕ) : first input (n + 1) = first input n ++ [input n] := by
  rw [first_eq, first_eq, List.range_succ, List.map_append]
  rfl

theorem first_succ_cons (input : ℕ → ι) (n : ℕ) :
    first input (n + 1) = input 0 :: first (fun k => input (k + 1)) n := by
  rw [first_eq, first_eq, List.range_succ_eq_map, List.map_cons, List.map_map]
  rfl

theorem first_take (input : ℕ → ι) {k n : ℕ} (hk : k ≤ n) :
    (first input n).take k = first input k := by
  rw [first_eq, ← List.map_take, List.take_range, Nat.min_eq_left hk, first_eq]

theorem trace_take {step : σ → ι → Option (ο × σ)} : ∀ {is : List ι} {s s' : σ} {os : List ο},
    trace step s is = some (os, s') →
      ∀ k, ∃ s'', trace step s (is.take k) = some (os.take k, s'') := by
  intro is
  induction is with
  | nil =>
    intro s s' os h k
    cases h
    rw [List.take_nil, List.take_nil]
    exact ⟨s, rfl⟩
  | cons i is ih =>
    intro s s' os h k
    obtain ⟨o, s₁, os₁, hs, his, rfl⟩ := trace_cons_inv h
    cases k with
    | zero => exact ⟨s, rfl⟩
    | succ k =>
      obtain ⟨s'', hs''⟩ := ih his k
      exact ⟨s'', trace_cons hs hs''⟩

theorem trace_snoc_inv {step : σ → ι → Option (ο × σ)} {i : ι} :
    ∀ {is : List ι} {s s' : σ} {os : List ο}, trace step s (is ++ [i]) = some (os, s') →
      ∃ os₁ s₁ o, trace step s is = some (os₁, s₁) ∧ step s₁ i = some (o, s') ∧
        os = os₁ ++ [o] := by
  intro is
  induction is with
  | nil =>
    intro s s' os h
    obtain ⟨o, s₁, os₁, hs, his, rfl⟩ := trace_cons_inv h
    cases his
    exact ⟨[], s, o, rfl, hs, rfl⟩
  | cons j is ih =>
    intro s s' os h
    obtain ⟨o, s₁, os₁, hs, his, rfl⟩ := trace_cons_inv h
    obtain ⟨os₂, s₂, o₂, htrace, hlast, rfl⟩ := ih his
    exact ⟨o :: os₂, s₂, o₂, trace_cons hs htrace, hlast, rfl⟩

/-- One step in the middle of a run. -/
theorem trace_at {step : σ → ι → Option (ο × σ)} {input : ℕ → ι} {n k : ℕ} {s s' sₖ : σ}
    {os : List ο} (h : trace step s (first input n) = some (os, s')) (hk : k < n)
    (hₖ : trace step s (first input k) = some (os.take k, sₖ)) :
    ∃ o s'', os[k]? = some o ∧ step sₖ (input k) = some (o, s'') ∧
      trace step s (first input (k + 1)) = some (os.take (k + 1), s'') := by
  obtain ⟨s'', hs''⟩ := trace_take h (k + 1)
  rw [first_take _ hk] at hs''
  have hsnoc := hs''
  rw [first_succ] at hsnoc
  obtain ⟨os₁, s₁, o, htrace, hlast, hos⟩ := trace_snoc_inv hsnoc
  obtain ⟨rfl, rfl⟩ := Prod.mk.inj (Option.some.inj (hₖ.symm.trans htrace))
  refine ⟨o, s'', ?_, hlast, hs''⟩
  have hlength : (os.take k).length = k := (trace_length hₖ).trans (by simp [first_eq])
  rw [← List.getElem?_take_of_lt (Nat.lt_succ_self k), hos,
    List.getElem?_append_right (Nat.le_of_eq hlength), hlength, Nat.sub_self]
  rfl

/-! ### Lockstep -/

theorem map_cons_observe (observe : σ → ο) (s : σ) (o : Option (List σ)) :
    (o.map (s :: ·)).map (List.map observe) =
      (o.map (List.map observe)).map (observe s :: ·) := by
  cases o <;> rfl

/-- `P` holds of every pair of steps of two runs of the same length. -/
def Together (step₁ : σ → ι → Option σ) (step₂ : τ → κ → Option τ)
    (P : σ → τ → ι → κ → Prop) : σ → τ → List ι → List κ → Prop
  | _, _, [], [] => True
  | s, t, i :: is, j :: js => P s t i j ∧
      ∀ s' t', step₁ s i = some s' → step₂ t j = some t' → Together step₁ step₂ P s' t' is js
  | _, _, _, _ => False

theorem together_of_always {step₁ : σ → ι → Option σ} {step₂ : τ → ι → Option τ}
    {P : σ → ι → Prop} :
    ∀ {is : List ι} {s : σ} {t : τ}, Always step₁ P s is →
      Together step₁ step₂ (fun s _ i j => P s i ∧ i = j) s t is is := by
  intro is
  induction is with
  | nil => intro s t _; trivial
  | cons i is ih => exact fun h => ⟨⟨h.1, rfl⟩, fun s' t' hs' _ => ih (h.2 s' hs')⟩

/-- **Two machines in lockstep.**  When related states step to related states that are
observed alike, the two runs are observed alike.  The steps may assume `P` of the two states
and inputs. -/
theorem states_observe_eq_of_step {step₁ : σ → ι → Option σ} {step₂ : τ → κ → Option τ}
    {R : σ → τ → Prop} {P : σ → τ → ι → κ → Prop} {observe₁ : σ → ο} {observe₂ : τ → ο}
    (hstep : ∀ s t i j, R s t → P s t i j →
      Option.Rel (fun s' t' => R s' t' ∧ observe₁ s' = observe₂ t') (step₁ s i) (step₂ t j)) :
    ∀ {is : List ι} {js : List κ} {s : σ} {t : τ}, R s t → Together step₁ step₂ P s t is js →
      (states step₁ s is).map (List.map observe₁) =
        (states step₂ t js).map (List.map observe₂) := by
  intro is
  induction is with
  | nil =>
    intro js s t _ hP
    cases js with
    | nil => rfl
    | cons j js => exact hP.elim
  | cons i is ih =>
    intro js s t hR hP
    cases js with
    | nil => exact hP.elim
    | cons j js =>
      have hrel := hstep s t i j hR hP.1
      rw [states_cons, states_cons]
      cases h₁ : step₁ s i with
      | none =>
        cases h₂ : step₂ t j with
        | none => rfl
        | some t' => rw [h₁, h₂] at hrel; cases hrel
      | some s' =>
        cases h₂ : step₂ t j with
        | none => rw [h₁, h₂] at hrel; cases hrel
        | some t' =>
          rw [h₁, h₂] at hrel
          cases hrel with
          | some hR' =>
            have htail := ih hR'.1 (hP.2 s' t' h₁ h₂)
            simp only [Option.bind_some]
            rw [map_cons_observe, map_cons_observe, htail, hR'.2]

/-- The same when related states are observed alike. -/
theorem states_observe_eq {step₁ : σ → ι → Option σ} {step₂ : τ → κ → Option τ}
    {R : σ → τ → Prop} {P : σ → τ → ι → κ → Prop} {observe₁ : σ → ο} {observe₂ : τ → ο}
    (hobs : ∀ s t, R s t → observe₁ s = observe₂ t)
    (hstep : ∀ s t i j, R s t → P s t i j → Option.Rel R (step₁ s i) (step₂ t j)) {is : List ι}
    {js : List κ} {s : σ} {t : τ} (hR : R s t) (hP : Together step₁ step₂ P s t is js) :
    (states step₁ s is).map (List.map observe₁) =
      (states step₂ t js).map (List.map observe₂) := by
  refine states_observe_eq_of_step (fun s t i j hR hP => ?_) hR hP
  have hrel := hstep s t i j hR hP
  generalize step₁ s i = o₁ at hrel ⊢
  generalize step₂ t j = o₂ at hrel ⊢
  cases hrel with
  | some hR' => exact .some ⟨hR', hobs _ _ hR'⟩
  | none => exact .none

/-- The same for outputs: when related states answer alike, so do the runs. -/
theorem trace_rel {step₁ : σ → ι → Option (ο × σ)} {step₂ : τ → ι → Option (ο × τ)}
    {R : σ → τ → Prop}
    (hstep : ∀ s t i, R s t →
      Option.Rel (fun p q => p.1 = q.1 ∧ R p.2 q.2) (step₁ s i) (step₂ t i)) :
    ∀ {is : List ι} {s : σ} {t : τ}, R s t →
      Option.Rel (fun p q => p.1 = q.1 ∧ R p.2 q.2) (trace step₁ s is) (trace step₂ t is) := by
  intro is
  induction is with
  | nil => exact fun hR => .some ⟨rfl, hR⟩
  | cons i is ih =>
    intro s t hR
    have hrel := hstep s t i hR
    rw [trace_step, trace_step]
    generalize step₁ s i = o₁ at hrel ⊢
    generalize step₂ t i = o₂ at hrel ⊢
    cases hrel with
    | none => exact .none
    | @some p q hpq =>
      obtain ⟨hout, hR'⟩ := hpq
      have htail := ih hR'
      simp only [Option.bind_some]
      generalize trace step₁ p.2 is = o₁ at htail ⊢
      generalize trace step₂ q.2 is = o₂ at htail ⊢
      cases htail with
      | none => exact .none
      | some h => exact .some ⟨congrArg₂ List.cons hout h.1, h.2⟩

/-! ### Until -/

/-- `P` holds from now on until a step `Q`; the run may also end before that step.  `Q` sees
the step and the inputs that are left, so that one phase can hand over to the next. -/
def Until (step : σ → ι → Option σ) (P : σ → Prop) (Q : σ → ι → σ → List ι → Prop) :
    σ → List ι → Prop
  | s, [] => P s
  | s, i :: is => P s ∧ ∃ s', step s i = some s' ∧ (Q s i s' is ∨ Until step P Q s' is)

instance decidableNext {o : Option σ} {P : σ → Prop} [DecidablePred P] :
    Decidable (∃ s', o = some s' ∧ P s') :=
  match o with
  | none => isFalse fun ⟨_, h, _⟩ => nomatch h
  | some s =>
    decidable_of_iff (P s) ⟨fun h => ⟨s, rfl, h⟩, fun ⟨_, h, hP⟩ => Option.some.inj h ▸ hP⟩

instance decidableUntil {step : σ → ι → Option σ} {P : σ → Prop} {Q : σ → ι → σ → List ι → Prop}
    [DecidablePred P] [∀ s i s' is, Decidable (Q s i s' is)] :
    ∀ s is, Decidable (Until step P Q s is)
  | s, [] => inferInstanceAs (Decidable (P s))
  | s, i :: is =>
    have (s' : σ) : Decidable (Until step P Q s' is) := decidableUntil s' is
    inferInstanceAs (Decidable (P s ∧ ∃ s', step s i = some s' ∧
      (Q s i s' is ∨ Until step P Q s' is)))

/-- **The until rule.**  An invariant that gives `P` and that every allowed step keeps,
unless the step is a `Q`, gives `Until`. -/
theorem until_of_invariant {step : σ → ι → Option σ} {P : σ → Prop} (Inv : σ → Prop)
    {Q : σ → ι → σ → List ι → Prop} {Ok : σ → ι → Prop} (hP : ∀ s, Inv s → P s)
    (hstep : ∀ s i is, Inv s → Always step Ok s (i :: is) →
      ∃ s', step s i = some s' ∧ (Q s i s' is ∨ Inv s')) :
    ∀ {is : List ι} {s : σ}, Inv s → Always step Ok s is → Until step P Q s is := by
  intro is
  induction is with
  | nil => intro s hs _; exact hP s hs
  | cons i is ih =>
    intro s hs hok
    obtain ⟨s', hs', hnext⟩ := hstep s i is hs hok
    refine ⟨hP s hs, s', hs', ?_⟩
    rcases hnext with hq | hinv
    · exact Or.inl hq
    · exact Or.inr (ih hinv (hok.2 s' hs'))

/-! ### Counting -/

/-- The sum of a weight over the steps of a run. -/
def total (step : σ → ι → Option σ) (weight : σ → ι → Nat) : σ → List ι → Nat
  | _, [] => 0
  | s, i :: is =>
    weight s i + match step s i with
      | none => 0
      | some s' => total step weight s' is

/-- **A potential bounds what is spent by what is gained.** -/
theorem total_le_of_potential {step : σ → ι → Option σ} (Inv : σ → Prop)
    {spend gain : σ → ι → Nat} {potential : σ → Nat}
    (hstep : ∀ s i, Inv s → ∃ s', step s i = some s' ∧ Inv s' ∧
      potential s' + spend s i ≤ potential s + gain s i) :
    ∀ {is : List ι} {s : σ}, Inv s →
      total step spend s is ≤ potential s + total step gain s is := by
  intro is
  induction is with
  | nil => intro s _; exact Nat.zero_le _
  | cons i is ih =>
    intro s hs
    obtain ⟨s', hs', hinv, hle⟩ := hstep s i hs
    have htail := ih hinv
    simp only [total, hs']
    omega

end StepMachine
