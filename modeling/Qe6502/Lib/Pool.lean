import Mathlib.Data.List.Nodup
import Mathlib.Data.List.Range
import Mathlib.Data.Vector.Basic

/-!
# Pools of equal blocks

Blocks of `n` cells in a linear memory: a stored block is loaded back, and blocks apart from it
stay.  The slots of a pool lie end to end, so different slots are apart.  A stack kept in an
array grows and shrinks at its top.
-/

namespace BlockPool

variable {β : Type*} [Inhabited β] {n : Nat}

/-! ### Blocks -/

def load (n : Nat) (memory : Nat → β) (address : Nat) : Vector β n :=
  Vector.ofFn fun i => memory (address + i.1)

def store (memory : Nat → β) (address : Nat) (block : Vector β n) : Nat → β := fun a =>
  if address ≤ a ∧ a < address + n then block[a - address]! else memory a

theorem load_store (memory : Nat → β) (address : Nat) (block : Vector β n) :
    load n (store memory address block) address = block := by
  refine Vector.ext fun i hi => ?_
  rw [load, Vector.getElem_ofFn, store, if_pos (by omega), Nat.add_sub_cancel_left,
    getElem!_pos block i hi]

/-- Blocks that do not overlap. -/
def Apart (n a b : Nat) : Prop := a + n ≤ b ∨ b + n ≤ a

theorem load_store_apart (memory : Nat → β) (block : Vector β n) {a b : Nat} (h : Apart n a b) :
    load n (store memory b block) a = load n memory a := by
  refine Vector.ext fun i hi => ?_
  rw [load, load, Vector.getElem_ofFn, Vector.getElem_ofFn, store, if_neg]
  rcases h with h | h <;> omega

/-! ### Slots -/

/-- The addresses of `k` slots of `n` cells from `base` on. -/
def slots (base n k : Nat) : List Nat := (List.range k).map fun i => base + n * i

variable {base k a b : Nat}

theorem mem_slots : a ∈ slots base n k ↔ ∃ i < k, a = base + n * i := by
  simp only [slots, List.mem_map, List.mem_range, eq_comm]

theorem length_slots (base n k : Nat) : (slots base n k).length = k := by
  rw [slots, List.length_map, List.length_range]

theorem slots_succ (base n k : Nat) : slots base n (k + 1) = slots base n k ++ [base + n * k] := by
  rw [slots, List.range_succ, List.map_append, slots]
  rfl

theorem nodup_slots (hn : 0 < n) : (slots base n k).Nodup := by
  refine List.nodup_range.map fun i j h => ?_
  exact Nat.eq_of_mul_eq_mul_left hn (Nat.add_left_cancel h)

theorem apart_of_mem (ha : a ∈ slots base n k) (hb : b ∈ slots base n k) (hne : a ≠ b) :
    Apart n a b := by
  obtain ⟨i, _, rfl⟩ := mem_slots.mp ha
  obtain ⟨j, _, rfl⟩ := mem_slots.mp hb
  rcases Nat.lt_trichotomy i j with h | rfl | h
  · have hstep : n * (i + 1) ≤ n * j := Nat.mul_le_mul_left n h
    rw [Nat.mul_succ] at hstep
    exact .inl (by omega)
  · exact absurd rfl hne
  · have hstep : n * (j + 1) ≤ n * i := Nat.mul_le_mul_left n h
    rw [Nat.mul_succ] at hstep
    exact .inr (by omega)

/-! ### Stacks -/

section arrays

variable {α : Type*} {count : Nat}

/-- The stack of the first `count` entries of an array. -/
def stack (entries : Vector α n) (count : Nat) : List α := entries.toList.take count

theorem stack_succ [Inhabited α] (entries : Vector α n) (h : count < n) :
    stack entries (count + 1) = stack entries count ++ [entries[count]!] := by
  have hlength : count < entries.toList.length := by rwa [Vector.length_toList]
  rw [stack, stack, List.take_succ_eq_append_getElem hlength, getElem!_pos entries count h,
    Vector.getElem_toList]

theorem stack_set [Inhabited α] (entries : Vector α n) (h : count < n) (x : α) :
    stack (entries.setIfInBounds count x) (count + 1) = stack entries count ++ [x] := by
  rw [stack_succ _ h, getElem!_pos _ count h, Vector.getElem_setIfInBounds_self, stack, stack,
    Vector.toList_setIfInBounds, List.take_set_of_le (Nat.le_refl count)]

theorem length_stack (entries : Vector α n) (h : count ≤ n) :
    (stack entries count).length = count := by
  rw [stack, List.length_take, Vector.length_toList, Nat.min_eq_left h]

end arrays

end BlockPool
