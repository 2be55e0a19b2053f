import Qe6502.Lib.Machine
import Mathlib.Data.List.Chain

/-!
# Simulation at the states that show

A concrete machine passes through states that show and states that do not.  An abstract machine
takes one step from each state that shows to the next, and knows how many concrete steps that
costs.  Then the two runs are the same at the states that show: `Simulates.run`,
`Simulates.shown` and `Simulates.stops_showing`.  With inputs and a relation in place of a step,
`Returns.chain` says the same of the states that show in a run.
-/

namespace Simulation

variable {σ τ : Type*} {next : σ → Option σ} {shows : σ → Prop} {step : τ → Option τ}
  {cost : τ → ℕ} {R : σ → τ → Prop} {s s' : σ} {t t' : τ} {n k : ℕ}

/-- `n` steps. -/
def iterate (step : τ → Option τ) : ℕ → τ → Option τ
  | 0, t => some t
  | n + 1, t => (step t).bind (iterate step n)

/-- What `n` steps cost. -/
def elapsed (step : τ → Option τ) (cost : τ → ℕ) : ℕ → τ → ℕ
  | 0, _ => 0
  | n + 1, t => cost t + match step t with
    | some t' => elapsed step cost n t'
    | none => 0

theorem iterate_add (n k : ℕ) (t : τ) :
    iterate step (n + k) t = (iterate step n t).bind (iterate step k) := by
  induction n generalizing t with
  | zero => rw [Nat.zero_add]; rfl
  | succ n ih =>
    rw [Nat.succ_add, iterate, iterate]
    cases step t with
    | none => rfl
    | some t' => exact ih t'

theorem iterate_succ_of_some (h : step t = some t') (n : ℕ) :
    iterate step (n + 1) t = iterate step n t' := by
  rw [iterate, h]
  rfl

theorem elapsed_succ_of_some (h : step t = some t') (n : ℕ) :
    elapsed step cost (n + 1) t = cost t + elapsed step cost n t' := by
  rw [elapsed, h]

/-- The abstract machine takes related states to related states, at its cost and past no state
that shows; where it stops, the concrete machine goes on but shows nothing more. -/
structure Simulates (next : σ → Option σ) (shows : σ → Prop) (step : τ → Option τ)
    (cost : τ → ℕ) (R : σ → τ → Prop) : Prop where
  advances : ∀ {s t t'}, R s t → step t = some t' → 0 < cost t ∧
    (∃ s', iterate next (cost t) s = some s' ∧ R s' t') ∧
      ∀ k, 0 < k → k < cost t → ∀ s', iterate next k s = some s' → ¬shows s'
  stops : ∀ {s t}, R s t → step t = none → ∀ k, 0 < k →
    ∃ s', iterate next k s = some s' ∧ ¬shows s'

namespace Simulates

variable (h : Simulates next shows step cost R)

include h

/-- **Abstract runs** are concrete ones. -/
theorem run (hR : R s t) (hrun : iterate step n t = some t') :
    ∃ s', iterate next (elapsed step cost n t) s = some s' ∧ R s' t' := by
  induction n generalizing s t with
  | zero =>
    obtain rfl := Option.some.inj hrun
    exact ⟨s, rfl, hR⟩
  | succ n ih =>
    cases hstep : step t with
    | none =>
      rw [iterate, hstep] at hrun
      cases hrun
    | some t₁ =>
      rw [iterate_succ_of_some hstep] at hrun
      obtain ⟨_, ⟨s₁, hs₁, hR₁⟩, _⟩ := h.advances hR hstep
      obtain ⟨s', hs', hR'⟩ := ih hR₁ hrun
      refine ⟨s', ?_, hR'⟩
      rw [elapsed_succ_of_some hstep, iterate_add, hs₁]
      exact hs'

/-- **Concrete states that show** are those of abstract runs. -/
theorem shown (hR : R s t) (hrun : iterate next k s = some s') (hshows : shows s') :
    ∃ n t', iterate step n t = some t' ∧ k = elapsed step cost n t ∧ R s' t' := by
  induction k using Nat.strong_induction_on generalizing s t with
  | _ k ih =>
    by_cases hzero : k = 0
    · subst hzero
      obtain rfl := Option.some.inj hrun
      exact ⟨0, t, rfl, rfl, hR⟩
    · have hpos : 0 < k := by omega
      cases hstep : step t with
      | none =>
        obtain ⟨s'', hs'', hhidden⟩ := h.stops hR hstep k hpos
        obtain rfl := Option.some.inj (hrun.symm.trans hs'')
        exact absurd hshows hhidden
      | some t₁ =>
        obtain ⟨hcost, ⟨s₁, hs₁, hR₁⟩, hhidden⟩ := h.advances hR hstep
        have hle : cost t ≤ k := by
          by_contra hlt
          exact hhidden k hpos (by omega) s' hrun hshows
        obtain ⟨j, rfl⟩ := Nat.exists_eq_add_of_le hle
        rw [iterate_add, hs₁] at hrun
        obtain ⟨n, t', ht', hj, hR'⟩ := ih j (by omega) hR₁ hrun
        refine ⟨n + 1, t', ?_, ?_, hR'⟩
        · rw [iterate_succ_of_some hstep]
          exact ht'
        · rw [elapsed_succ_of_some hstep, hj]

/-- **Where the abstract run stops**, the concrete one goes on for ever, and from some step on it
shows nothing. -/
theorem stops_showing (hR : R s t) (hrun : iterate step n t = none) :
    ∃ n' t' K, n' < n ∧ iterate step n' t = some t' ∧ step t' = none ∧
      K = elapsed step cost n' t ∧ ∀ k, K < k → ∃ s', iterate next k s = some s' ∧ ¬shows s' := by
  induction n generalizing s t with
  | zero => cases hrun
  | succ n ih =>
    cases hstep : step t with
    | none =>
      exact ⟨0, t, 0, by omega, rfl, hstep, rfl, fun k hk => h.stops hR hstep k hk⟩
    | some t₁ =>
      rw [iterate_succ_of_some hstep] at hrun
      obtain ⟨_, ⟨s₁, hs₁, hR₁⟩, _⟩ := h.advances hR hstep
      obtain ⟨n', t', K, hn', ht', hnone, rfl, hlater⟩ := ih hR₁ hrun
      refine ⟨n' + 1, t', _, by omega, ?_, hnone, rfl, fun k hk => ?_⟩
      · rw [iterate_succ_of_some hstep]
        exact ht'
      · rw [elapsed_succ_of_some hstep] at hk
        obtain ⟨j, rfl⟩ := Nat.exists_eq_add_of_le (by omega : cost t ≤ k)
        rw [iterate_add, hs₁]
        exact hlater j (by omega)

/-- The concrete machine never gets stuck. -/
theorem total (hR : R s t) (k : ℕ) : ∃ s', iterate next k s = some s' := by
  induction k using Nat.strong_induction_on generalizing s t with
  | _ k ih =>
    by_cases hzero : k = 0
    · exact ⟨s, by rw [hzero]; rfl⟩
    · cases hstep : step t with
      | none =>
        obtain ⟨s', hs', _⟩ := h.stops hR hstep k (by omega)
        exact ⟨s', hs'⟩
      | some t₁ =>
        obtain ⟨hcost, ⟨s₁, hs₁, hR₁⟩, _⟩ := h.advances hR hstep
        by_cases hlt : k < cost t
        · obtain ⟨j, hj⟩ := Nat.exists_eq_add_of_le (by omega : k ≤ cost t)
          rw [hj, iterate_add] at hs₁
          obtain ⟨s', hs', _⟩ := Option.bind_eq_some_iff.mp hs₁
          exact ⟨s', hs'⟩
        · obtain ⟨j, rfl⟩ := Nat.exists_eq_add_of_le (by omega : cost t ≤ k)
          rw [iterate_add, hs₁]
          exact ih j (by omega) hR₁

end Simulates

/-! ### First returns -/

section returns

open StepMachine (final states)

variable {ι : Type*} {move : σ → ι → Option σ} {bounds : σ → Prop} {view : σ → τ}
  {leads : τ → τ → Prop} [DecidablePred shows]

/-- The first state that shows after a boundary is a boundary, and the relation leads to it. -/
def Returns (move : σ → ι → Option σ) (shows bounds : σ → Prop) (view : σ → τ)
    (leads : τ → τ → Prop) : Prop :=
  ∀ {s s' : σ} {is : List ι}, bounds s → is ≠ [] → final move s is = some s' → shows s' →
    (∀ k, 0 < k → k < is.length → ∀ s'', final move s (is.take k) = some s'' → ¬shows s'') →
      bounds s' ∧ leads (view s) (view s')

/-- **The states that show** in a run from a boundary are boundaries, and the relation leads from
each to the next. -/
theorem Returns.chain (h : Returns move shows bounds view leads) {is : List ι} :
    ∀ {ss : List σ} {s : σ}, bounds s → states move s is = some ss →
      (∀ s' ∈ ss, shows s' → bounds s') ∧
        List.IsChain leads (view s :: (ss.filter (shows ·)).map view) := by
  suffices hpending : ∀ {ss : List σ} {s₀ s : σ} {pre : List ι}, bounds s₀ →
      final move s₀ pre = some s →
      (∀ k, 0 < k → k ≤ pre.length → ∀ s'', final move s₀ (pre.take k) = some s'' →
        ¬shows s'') → states move s is = some ss →
      (∀ s' ∈ ss, shows s' → bounds s') ∧
        List.IsChain leads (view s₀ :: (ss.filter (shows ·)).map view) by
    intro ss s hs hss
    exact @hpending _ _ _ [] hs rfl (fun k hpos hk => absurd hpos (by simpa using hk)) hss
  induction is with
  | nil =>
    intro ss s₀ s pre _ _ _ hss
    obtain rfl := Option.some.inj hss
    exact ⟨by simp, List.isChain_singleton _⟩
  | cons i is ih =>
    intro ss s₀ s pre hbounds hpre hhidden hss
    obtain ⟨s₁, hs₁, hss⟩ := Option.bind_eq_some_iff.mp hss
    obtain ⟨ss₁, hss₁, rfl⟩ := Option.map_eq_some_iff.mp hss
    have hnext : final move s₀ (pre ++ [i]) = some s₁ := by
      rw [StepMachine.final_append, hpre, Option.bind_some, final, hs₁]
      rfl
    have htake : ∀ k ≤ pre.length, (pre ++ [i]).take k = pre.take k := fun k hk =>
      List.take_append_of_le_length hk
    by_cases hshows : shows s₁
    · obtain ⟨hbounds₁, hleads⟩ := h hbounds (by simp) hnext hshows fun k hpos hk => by
        have hle : k ≤ pre.length := by simpa [Nat.lt_succ_iff] using hk
        rw [htake k hle]
        exact hhidden k hpos hle
      obtain ⟨hall, hchain⟩ := @ih _ _ _ [] hbounds₁ rfl
        (fun k hpos hk => absurd hpos (by simpa using hk)) hss₁
      refine ⟨?_, ?_⟩
      · intro s' hs' hshows'
        rcases List.mem_cons.mp hs' with rfl | hs'
        · exact hbounds₁
        · exact hall s' hs' hshows'
      · have hfilter : (s₁ :: ss₁).filter (shows ·) = s₁ :: ss₁.filter (shows ·) :=
          List.filter_cons_of_pos (by simpa using hshows)
        rw [hfilter, List.map_cons]
        exact hchain.cons_cons hleads
    · obtain ⟨hall, hchain⟩ := ih hbounds hnext (fun k hpos hk => by
        rcases Nat.lt_or_ge pre.length k with hlt | hle
        · have hk : k = (pre ++ [i]).length := by
            rw [List.length_append, List.length_singleton] at hk ⊢
            omega
          rw [hk, List.take_length, hnext]
          rintro s'' heq
          obtain rfl := Option.some.inj heq
          exact hshows
        · rw [htake k hle]
          exact hhidden k hpos hle) hss₁
      refine ⟨?_, ?_⟩
      · intro s' hs' hshows'
        rcases List.mem_cons.mp hs' with rfl | hs'
        · exact absurd hshows' hshows
        · exact hall s' hs' hshows'
      · have hfilter : (s₁ :: ss₁).filter (shows ·) = ss₁.filter (shows ·) :=
          List.filter_cons_of_neg (by simpa using hshows)
        rw [hfilter]
        exact hchain

end returns

end Simulation
