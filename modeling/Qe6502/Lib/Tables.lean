import Mathlib.Order.Basic
import Mathlib.Data.List.Dedup

/-!
# Tables

A table is a partial map.  Entries are only ever added, so tables are ordered by extension:
what a smaller table defines, a larger one defines alike.  `insertAll` adds cells at keys that
have none, and `undefined` counts the keys of a list that are still without a value.
-/

/-- A partial map from keys to values. -/
def Table (κ α : Type*) := κ → Option α

namespace Table

variable {κ α : Type*}

instance : EmptyCollection (Table κ α) := ⟨fun _ => none⟩

@[ext] theorem ext {s t : Table κ α} (h : ∀ k, s k = t k) : s = t := funext h

/-! ### Extension -/

instance : PartialOrder (Table κ α) where
  le s t := ∀ k a, s k = some a → t k = some a
  le_refl s k a h := h
  le_trans s t u hst htu k a h := htu k a (hst k a h)
  le_antisymm s t hst hts := by
    funext k
    cases hs : s k with
    | some a => exact (hst k a hs).symm
    | none =>
      cases ht : t k with
      | none => rfl
      | some a => exact absurd ((hts k a ht).symm.trans hs) (by simp)

theorem empty_le (t : Table κ α) : (∅ : Table κ α) ≤ t := fun _ _ h => nomatch h

/-- A larger table that has values at no other keys is the same. -/
theorem eq_of_le {s t : Table κ α} (hle : s ≤ t) (h : ∀ k, s k = none → t k = none) : s = t := by
  funext k
  cases hs : s k with
  | none => exact (h k hs).symm
  | some a => exact (hle k a hs).symm

/-- The larger table has a new key. -/
def Grows (s t : Table κ α) : Prop := ∃ k, s k = none ∧ t k ≠ none

theorem not_grows_self (t : Table κ α) : ¬t.Grows t := fun ⟨_, hnone, hne⟩ => hne hnone

theorem Grows.trans_iff {s t u : Table κ α} (hst : s ≤ t) (htu : t ≤ u) :
    s.Grows u ↔ s.Grows t ∨ t.Grows u := by
  constructor
  · rintro ⟨k, hs, hu⟩
    by_cases ht : t k = none
    · exact Or.inr ⟨k, ht, hu⟩
    · exact Or.inl ⟨k, hs, ht⟩
  · rintro (⟨k, hs, ht⟩ | ⟨k, ht, hu⟩)
    · obtain ⟨a, ha⟩ := Option.ne_none_iff_exists'.mp ht
      exact ⟨k, hs, by simp [htu k a ha]⟩
    · refine ⟨k, ?_, hu⟩
      by_contra hs
      obtain ⟨a, ha⟩ := Option.ne_none_iff_exists'.mp hs
      exact absurd ((hst k a ha).symm.trans ht) (by simp)

/-- A larger table without a new key is the same. -/
theorem eq_of_not_grows {s t : Table κ α} (hle : s ≤ t) (h : ¬s.Grows t) : s = t :=
  eq_of_le hle fun k hk => by_contra fun hne => h ⟨k, hk, hne⟩

section insert

variable [DecidableEq κ]

def insert (t : Table κ α) (k : κ) (a : α) : Table κ α := fun k' => if k' = k then some a else t k'

@[simp] theorem insert_self (t : Table κ α) (k : κ) (a : α) : t.insert k a k = some a := if_pos rfl

theorem insert_of_ne (t : Table κ α) {k k' : κ} (h : k' ≠ k) (a : α) : t.insert k a k' = t k' :=
  if_neg h

theorem insert_eq_some {t : Table κ α} {k : κ} (hk : t k = none) {a b : α} {k' : κ} :
    t.insert k a k' = some b ↔ t k' = some b ∨ k' = k ∧ b = a := by
  by_cases h : k' = k
  · subst h
    rw [insert_self, hk]
    constructor
    · intro hab
      exact Or.inr ⟨rfl, (Option.some.inj hab).symm⟩
    · rintro (h | ⟨_, rfl⟩)
      · cases h
      · rfl
  · rw [insert_of_ne t h]
    exact ⟨Or.inl, fun h' => h'.elim id fun h'' => absurd h''.1 h⟩

theorem le_insert {t : Table κ α} {k : κ} (hk : t k = none) (a : α) : t ≤ t.insert k a :=
  fun _ _ h => (insert_eq_some hk).mpr (Or.inl h)

theorem insert_le {s t : Table κ α} {k : κ} {a : α} (hle : s ≤ t) (hk : t k = some a) :
    s.insert k a ≤ t := by
  intro k' b h
  by_cases hk' : k' = k
  · subst hk'
    rw [insert_self] at h
    rw [hk, h]
  · rw [insert_of_ne s hk'] at h
    exact hle k' b h

/-! ### Defining a key -/

/-- Defines a key, unless it has another value; the flag says whether it had none. -/
def define [DecidableEq α] (t : Table κ α) (k : κ) (a : α) : Option (Bool × Table κ α) :=
  match t k with
  | none => some (true, t.insert k a)
  | some b => if b = a then some (false, t) else none

section define

variable [DecidableEq α] {t t' : Table κ α} {k : κ} {a : α} {added : Bool}

/-- **What defining a key gives.** -/
theorem define_eq_some (h : t.define k a = some (added, t')) :
    t ≤ t' ∧ t' k = some a ∧ (added = true ↔ t k = none) ∧
      ∀ k', t k' = none → t' k' ≠ none → k' = k := by
  rw [define] at h
  cases hk : t k with
  | none =>
    rw [hk] at h
    cases h
    refine ⟨le_insert hk a, insert_self t k a, by simp, fun k' hk' hne => ?_⟩
    by_contra hkk'
    exact hne ((insert_of_ne t hkk' a).trans hk')
  | some b =>
    rw [hk] at h
    by_cases hb : b = a
    · simp only [hb, if_true, Option.some.injEq, Prod.mk.injEq] at h
      obtain ⟨rfl, rfl⟩ := h
      exact ⟨le_refl _, hb ▸ hk, by simp, fun k' hk' hne => absurd hk' hne⟩
    · simp [hb] at h

/-- A definition that a larger table has can be made. -/
theorem define_of_le {u : Table κ α} (hle : t ≤ u) (hk : u k = some a) :
    ∃ added t', t.define k a = some (added, t') ∧ t' ≤ u := by
  rw [define]
  cases ht : t k with
  | none => exact ⟨true, _, rfl, insert_le hle hk⟩
  | some b =>
    obtain rfl : b = a := Option.some.inj ((hle k b ht).symm.trans hk)
    exact ⟨false, t, if_pos rfl, hle⟩

end define

/-! ### Adding cells -/

/-- Adds cells one after the other, unless a key has a value already. -/
def insertAll : Table κ α → List (κ × α) → Option (Table κ α)
  | t, [] => some t
  | t, c :: cells =>
    match t c.1 with
    | some _ => none
    | none => insertAll (t.insert c.1 c.2) cells

theorem insertAll_cons_none {t : Table κ α} {c : κ × α} (hc : t c.1 = none)
    (cells : List (κ × α)) : t.insertAll (c :: cells) = (t.insert c.1 c.2).insertAll cells := by
  rw [insertAll, hc]

theorem insertAll_cons_some {t : Table κ α} {c : κ × α} {a : α} (hc : t c.1 = some a)
    (cells : List (κ × α)) : t.insertAll (c :: cells) = none := by
  rw [insertAll, hc]

theorem insertAll_append {cells cells' : List (κ × α)} : ∀ {t : Table κ α},
    t.insertAll (cells ++ cells') = (t.insertAll cells).bind (insertAll · cells') := by
  induction cells with
  | nil => intro t; rfl
  | cons c cells ih =>
    intro t
    rw [List.cons_append]
    cases hc : t c.1 with
    | some a =>
      rw [insertAll_cons_some hc, insertAll_cons_some hc]
      rfl
    | none =>
      rw [insertAll_cons_none hc, insertAll_cons_none hc]
      exact ih

/-- **What adding cells gives.**  The keys are distinct and without a value before, and the
cells are the new entries. -/
theorem insertAll_eq_some {cells : List (κ × α)} : ∀ {t t' : Table κ α},
    t.insertAll cells = some t' → (cells.map Prod.fst).Nodup ∧ (∀ c ∈ cells, t c.1 = none) ∧
      ∀ k a, t' k = some a ↔ t k = some a ∨ (k, a) ∈ cells := by
  induction cells with
  | nil =>
    intro t t' h
    cases h
    simp
  | cons c cells ih =>
    intro t t' h
    cases hc : t c.1 with
    | some a =>
      rw [insertAll_cons_some hc] at h
      cases h
    | none =>
      rw [insertAll_cons_none hc] at h
      obtain ⟨hnodup, hfree, hiff⟩ := ih h
      have hne : ∀ c' ∈ cells, c'.1 ≠ c.1 := by
        intro c' hmem heq
        have hnone := hfree c' hmem
        rw [heq, insert_self] at hnone
        cases hnone
      refine ⟨?_, ?_, fun k a => ?_⟩
      · rw [List.map_cons, List.nodup_cons]
        refine ⟨fun hmem => ?_, hnodup⟩
        obtain ⟨c', hmem', heq⟩ := List.mem_map.mp hmem
        exact hne c' hmem' heq
      · intro c' hmem
        rcases List.mem_cons.mp hmem with rfl | hmem
        · exact hc
        · rw [← insert_of_ne t (hne c' hmem) c.2]
          exact hfree c' hmem
      · rw [hiff, insert_eq_some hc, or_assoc, List.mem_cons, Prod.ext_iff]

/-- Cells at distinct keys without a value can be added. -/
theorem insertAll_isSome {cells : List (κ × α)} : ∀ {t : Table κ α},
    (cells.map Prod.fst).Nodup → (∀ c ∈ cells, t c.1 = none) →
      ∃ t', t.insertAll cells = some t' := by
  induction cells with
  | nil => exact fun _ _ => ⟨_, rfl⟩
  | cons c cells ih =>
    intro t hnodup hfree
    rw [List.map_cons, List.nodup_cons] at hnodup
    rw [insertAll_cons_none (hfree c List.mem_cons_self)]
    refine ih hnodup.2 fun c' hmem => ?_
    have hne : c'.1 ≠ c.1 := fun heq => hnodup.1 (heq ▸ List.mem_map_of_mem hmem)
    rw [insert_of_ne t hne]
    exact hfree c' (List.mem_cons_of_mem c hmem)

end insert

/-! ### Keys without a value -/

/-- The keys of a list that have no value. -/
def undefined (t : Table κ α) (keys : List κ) : List κ := keys.filter fun k => (t k).isNone

theorem undefined_length_le (t : Table κ α) (keys : List κ) :
    (t.undefined keys).length ≤ keys.length := List.length_filter_le _ _

/-- A table with a new value leaves fewer keys without one. -/
theorem undefined_lt {s t : Table κ α} (hle : s ≤ t) (hgrows : s.Grows t) {keys : List κ}
    (hkeys : ∀ k, s k = none → t k ≠ none → k ∈ keys) :
    (t.undefined keys).length < (s.undefined keys).length := by
  obtain ⟨k, hs, ht⟩ := hgrows
  have hsub : t.undefined keys = (s.undefined keys).filter fun k => (t k).isNone := by
    rw [undefined, undefined, List.filter_filter]
    refine List.filter_congr fun k' _ => ?_
    cases hk : s k' with
    | none => simp
    | some a => simp [hle k' a hk]
  rw [hsub]
  refine List.length_filter_lt_length_iff_exists.mpr ⟨k, ?_, ?_⟩
  · exact List.mem_filter.mpr ⟨hkeys k hs ht, by simp [hs]⟩
  · simpa using ht

end Table
