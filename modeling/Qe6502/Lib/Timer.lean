import Mathlib.Data.List.Induction
import Mathlib.Data.Nat.ModEq

/-!
# Timers

A timer compares a clock of `w` bits with a deadline.  It is loaded with a count of steps and
is to be armed until that many steps have been made: `raised`.  Clock and deadline wrap around,
and `armed_iff` says exactly when the timer is armed as it is to be.
-/

/-- What happens to a timer: it is loaded with a count, or the clock steps. -/
inductive TimerEvent
  | load (count : ℕ)
  | step
deriving DecidableEq

namespace TimerEvent

/-- The count of the most recent load and the steps since, after one more event. -/
def record (latest : Option (ℕ × ℕ)) : TimerEvent → Option (ℕ × ℕ)
  | load count => some (count, 0)
  | step => latest.map fun l => (l.1, l.2 + 1)

/-- The count of the most recent load and the steps since. -/
def latest (es : List TimerEvent) : Option (ℕ × ℕ) := es.foldl record none

/-- The most recent load had a count that fewer steps have followed. -/
def raised (es : List TimerEvent) : Bool := (latest es).any fun l => l.2 < l.1

def steps (es : List TimerEvent) : ℕ := es.count step

/-- A deadline that is set at `clock` for a count does not wrap around, or the clock does so with
the next step. -/
def Fits (w clock count : ℕ) : Prop :=
  clock % 2 ^ w + count < 2 ^ w ∨ clock % 2 ^ w + 1 = 2 ^ w

/-- A load that steps have followed, and whose count is not over yet, was made at a clock where
its deadline fits. -/
def Timely (w : ℕ) (es : List TimerEvent) : Prop :=
  ∀ count since, latest es = some (count, since) → 0 < since → since < count →
    Fits w (steps es - since) count

variable {es : List TimerEvent} {count since : ℕ}

theorem latest_snoc (es : List TimerEvent) (e : TimerEvent) :
    latest (es ++ [e]) = record (latest es) e := by
  rw [latest, List.foldl_append]
  rfl

theorem steps_load (es : List TimerEvent) (count : ℕ) : steps (es ++ [load count]) = steps es := by
  rw [steps, List.count_append]
  rfl

theorem steps_step (es : List TimerEvent) : steps (es ++ [step]) = steps es + 1 := by
  rw [steps, List.count_append]
  rfl

theorem since_le_steps : latest es = some (count, since) → since ≤ steps es := by
  induction es using List.reverseRecOn generalizing since with
  | nil => exact fun h => nomatch h
  | append_singleton es e ih =>
    intro h
    rw [latest_snoc] at h
    cases e with
    | load n =>
      cases h
      exact Nat.zero_le _
    | step =>
      obtain ⟨⟨n, k⟩, hlatest, heq⟩ := Option.map_eq_some_iff.mp h
      cases heq
      rw [steps_step]
      exact Nat.succ_le_succ (ih hlatest)

theorem load_of_latest : latest es = some (count, since) → load count ∈ es := by
  induction es using List.reverseRecOn generalizing since with
  | nil => exact fun h => nomatch h
  | append_singleton es e ih =>
    intro h
    rw [latest_snoc] at h
    cases e with
    | load n =>
      cases h
      exact List.mem_append_right es (List.mem_singleton_self _)
    | step =>
      obtain ⟨⟨n, k⟩, hlatest, heq⟩ := Option.map_eq_some_iff.mp h
      cases heq
      exact List.mem_append_left _ (ih hlatest)

/-- While the clock stays below `2 ^ w` every deadline fits. -/
theorem timely_of_few {w bound : ℕ} (hcounts : ∀ n, load n ∈ es → n ≤ bound)
    (hfew : steps es + bound ≤ 2 ^ w) : Timely w es := by
  intro count since hlatest hsince _
  have hcount := hcounts count (load_of_latest hlatest)
  have hsteps := since_le_steps hlatest
  have hmod := Nat.mod_le (steps es - since) (2 ^ w)
  exact Or.inl (by omega)

end TimerEvent

/-! ### The timer -/

structure Timer (w : ℕ) where
  clock : BitVec w
  deadline : BitVec w
  armed : Bool

namespace Timer

open TimerEvent

variable {w : ℕ}

def load (t : Timer w) (count : ℕ) : Timer w :=
  if count = 0 then { t with armed := false, deadline := 0 }
  else { t with armed := true, deadline := t.clock + BitVec.ofNat w count }

/-- A timer whose deadline has come is no longer armed. -/
def expire (t : Timer w) : Timer w :=
  if t.armed ∧ t.deadline ≤ t.clock then { t with armed := false, deadline := 0 } else t

def step (t : Timer w) : Timer w := { t with clock := t.clock + 1 }.expire

def event (t : Timer w) : TimerEvent → Timer w
  | .load count => t.load count
  | .step => t.step

/-- A timer that has just been started. -/
def start (w : ℕ) : Timer w := ⟨0, 0, false⟩

def run (w : ℕ) (es : List TimerEvent) : Timer w := es.foldl event (start w)

theorem run_snoc (es : List TimerEvent) (e : TimerEvent) :
    run w (es ++ [e]) = (run w es).event e := by
  rw [run, List.foldl_append]
  rfl

/-- A second load replaces the first. -/
theorem load_load (t : Timer w) (first second : ℕ) :
    (t.load first).load second = t.load second := by
  unfold load
  split <;> split <;> rfl

theorem clock_step (t : Timer w) : t.step.clock = t.clock + 1 := by
  rw [step, expire]
  split <;> rfl

theorem clock_load (t : Timer w) (count : ℕ) : (t.load count).clock = t.clock := by
  rw [load]
  split <;> rfl

theorem clock_run (es : List TimerEvent) : (run w es).clock = BitVec.ofNat w (steps es) := by
  induction es using List.reverseRecOn with
  | nil => rfl
  | append_singleton es e ih =>
    rw [run_snoc]
    cases e with
    | load count => rw [event, clock_load, ih, steps_load]
    | step =>
      rw [event, clock_step, ih, steps_step, BitVec.ofNat_add]
      rfl

/-- What is known of a timer that was loaded with a count some steps ago. -/
structure Loaded (t : Timer w) (clock count since : ℕ) : Prop where
  armed : t.armed = true ↔ since < count ∧ (since = 0 ∨ Fits w clock count)
  deadline : t.armed = true → t.deadline = BitVec.ofNat w (clock + count)
  clock : t.clock = BitVec.ofNat w (clock + since)

theorem loaded_load (t : Timer w) {clock : ℕ} (hclock : t.clock = BitVec.ofNat w clock)
    (count : ℕ) : (t.load count).Loaded clock count 0 := by
  unfold load
  split
  case isTrue hzero =>
    refine ⟨⟨(nomatch ·), fun h => absurd h.1 (by omega)⟩, (nomatch ·), hclock⟩
  case isFalse hpos =>
    refine ⟨⟨fun _ => ⟨Nat.pos_of_ne_zero hpos, .inl rfl⟩, fun _ => rfl⟩, fun _ => ?_, hclock⟩
    show t.clock + _ = _
    rw [hclock, BitVec.ofNat_add]

/-- When the deadline of a timer has come. -/
theorem expired_iff {clock count since : ℕ} (hcount : count < 2 ^ w) (hsince : since < count)
    (harmed : since = 0 ∨ Fits w clock count) :
    BitVec.ofNat w (clock + count) ≤ BitVec.ofNat w (clock + (since + 1)) ↔
      ¬(since + 1 < count ∧ Fits w clock count) := by
  rw [BitVec.le_def, BitVec.toNat_ofNat, BitVec.toNat_ofNat, Nat.add_mod clock, Nat.add_mod clock,
    Nat.mod_eq_of_lt hcount, Nat.mod_eq_of_lt (by omega : since + 1 < 2 ^ w)]
  have hlt : clock % 2 ^ w < 2 ^ w := Nat.mod_lt _ (by omega)
  unfold Fits at harmed ⊢
  generalize clock % 2 ^ w = c at harmed hlt ⊢
  generalize 2 ^ w = m at harmed hlt hcount ⊢
  have hmod : ∀ n, n ≤ m → (c + n) % m = if c + n < m then c + n else c + n - m := by
    intro n hn
    split
    case isTrue h => exact Nat.mod_eq_of_lt h
    case isFalse h =>
      rw [Nat.mod_eq_sub_mod (by omega), Nat.mod_eq_of_lt (by omega)]
  rw [hmod count (by omega), hmod (since + 1) (by omega)]
  split <;> split <;> omega

theorem armed_step (t : Timer w) :
    t.step.armed = true ↔ t.armed = true ∧ ¬t.deadline ≤ t.clock + 1 := by
  unfold step expire
  split
  case isTrue h => exact ⟨(nomatch ·), fun h' => absurd h.2 h'.2⟩
  case isFalse h => exact ⟨fun ha => ⟨ha, fun hle => h ⟨ha, hle⟩⟩, And.left⟩

theorem deadline_step {t : Timer w} (h : t.step.armed = true) : t.step.deadline = t.deadline := by
  unfold step expire at h ⊢
  split at h
  case isTrue => exact absurd h Bool.false_ne_true
  case isFalse hnot => rw [if_neg hnot]

theorem Loaded.step {t : Timer w} {clock count since : ℕ} (h : t.Loaded clock count since)
    (hcount : count < 2 ^ w) : t.step.Loaded clock count (since + 1) := by
  have hclock : t.clock + 1 = BitVec.ofNat w (clock + (since + 1)) := by
    rw [h.clock, ← Nat.add_assoc, BitVec.ofNat_add (clock + since)]
    rfl
  refine ⟨?_, fun harmed => ?_, (clock_step t).trans hclock⟩
  · rw [armed_step]
    constructor
    · rintro ⟨harmed, hlate⟩
      obtain ⟨hsince, hfits⟩ := h.armed.mp harmed
      rw [h.deadline harmed, hclock, expired_iff hcount hsince hfits, not_not] at hlate
      exact ⟨hlate.1, .inr hlate.2⟩
    · rintro ⟨hsince, hfits⟩
      have hfit := hfits.resolve_left (Nat.succ_ne_zero since)
      have harmed := h.armed.mpr ⟨by omega, .inr hfit⟩
      refine ⟨harmed, ?_⟩
      rw [h.deadline harmed, hclock, expired_iff hcount (by omega) (.inr hfit), not_not]
      exact ⟨hsince, hfit⟩
  · rw [deadline_step harmed]
    exact h.deadline ((armed_step t).mp harmed).1

/-- What a run makes of a timer. -/
theorem run_latest {es : List TimerEvent} (hcounts : ∀ n, .load n ∈ es → n < 2 ^ w) :
    (latest es = none → (run w es).armed = false) ∧ ∀ count since,
      latest es = some (count, since) → (run w es).Loaded (steps es - since) count since := by
  induction es using List.reverseRecOn with
  | nil => exact ⟨fun _ => rfl, fun _ _ h => nomatch h⟩
  | append_singleton es e ih =>
    obtain ⟨hnone, hsome⟩ := ih fun n hn => hcounts n (List.mem_append_left _ hn)
    rw [latest_snoc, run_snoc]
    cases e with
    | load n =>
      refine ⟨(nomatch ·), fun count since h => ?_⟩
      cases h
      rw [steps_load]
      exact loaded_load _ (clock_run es) n
    | step =>
      refine ⟨fun h => ?_, fun count since h => ?_⟩
      · have hidle := hnone (Option.map_eq_none_iff.mp h)
        rw [← Bool.not_eq_true, event, armed_step, hidle]
        exact fun h => Bool.false_ne_true h.1
      · obtain ⟨⟨n, k⟩, hlatest, heq⟩ := Option.map_eq_some_iff.mp h
        cases heq
        rw [steps_step, Nat.add_sub_add_right]
        exact (hsome n k hlatest).step (hcounts n (List.mem_append_left _ (load_of_latest hlatest)))

/-- **When a timer is armed as it is to be.** -/
theorem armed_iff {es : List TimerEvent} (hcounts : ∀ n, .load n ∈ es → n < 2 ^ w) :
    (run w es).armed = raised es ↔ Timely w es := by
  obtain ⟨hnone, hsome⟩ := run_latest hcounts
  unfold raised Timely
  cases hlatest : latest es with
  | none => exact iff_of_true (hnone hlatest) fun _ _ h => nomatch h
  | some l =>
    obtain ⟨count, since⟩ := l
    have hloaded := hsome count since hlatest
    rw [Option.any_some, Bool.eq_iff_iff, hloaded.armed, decide_eq_true_eq]
    constructor
    · rintro hagree count' since' heq hpos hsince
      cases heq
      exact (hagree.mpr hsince).2.resolve_left (Nat.ne_of_gt hpos)
    · intro htimely
      refine ⟨And.left, fun hsince => ⟨hsince, ?_⟩⟩
      rcases Nat.eq_zero_or_pos since with hzero | hpos
      · exact .inl hzero
      · exact .inr (htimely count since rfl hpos hsince)

end Timer
