import Mathlib.Algebra.Order.BigOperators.Group.List
import Mathlib.Algebra.Order.Ring.Nat
import Roman.Numeral.Basic
/-!
# Quantities and tiers

The program never turns a numeral into a number. The proofs do: a letter has a value, a word has the
sum of the values of its letters, and what the operations do to words is said in terms of that sum.
Only the ladder of the letters is evaluated here; the rest of the proofs reach it through tiers.
-/

namespace Roman

namespace Symbol

/-- The number that a letter stands for. -/
def value : Symbol → Nat
  | .I => 1
  | .V => 5
  | .X => 10
  | .L => 50
  | .C => 100
  | .D => 500
  | .M => 1000

theorem value_pos (s : Symbol) : 0 < s.value := by
  cases s <;> decide

theorem tier_injective {s t : Symbol} (h : s.tier = t.tier) : s = t := by
  cases s <;> cases t <;> first | rfl | cases h

theorem tier_lt_seven (s : Symbol) : s.tier < 7 := by
  cases s <;> decide

theorem mem_above {s x : Symbol} : x ∈ s.above ↔ s.tier < x.tier := by
  cases s <;> cases x <;> decide

theorem mem_subtractives {s x : Symbol} : x ∈ s.subtractives ↔ x.tier < s.tier ∧ s.tier ≤ x.tier + 2 := by
  cases s <;> cases x <;> decide

theorem self_notMem_subtractives (s : Symbol) : s ∉ s.subtractives := fun h =>
  Nat.lt_irrefl _ (mem_subtractives.mp h).1

/-- A letter breaks into letters of the next lower tier, and nothing is gained or lost. -/
theorem value_of_expansion? {s lower : Symbol} {count : Nat} (h : s.expansion? = some (lower, count)) :
    s.tier = lower.tier + 1 ∧ s.value = count * lower.value := by
  cases s <;> simp only [expansion?, Option.some.injEq, Prod.mk.injEq, reduceCtorEq] at h <;>
    obtain ⟨rfl, rfl⟩ := h <;> decide

theorem expansion?_isSome {s x : Symbol} (h : s.tier < x.tier) :
    ∃ lower count, x.expansion? = some (lower, count) := by
  cases x with
  | I => exact absurd h (Nat.not_lt_zero _)
  | V => exact ⟨.I, 5, rfl⟩
  | X => exact ⟨.V, 2, rfl⟩
  | L => exact ⟨.X, 5, rfl⟩
  | C => exact ⟨.L, 2, rfl⟩
  | D => exact ⟨.C, 5, rfl⟩
  | M => exact ⟨.D, 2, rfl⟩

theorem value_le_of_tier_le {s t : Symbol} (h : s.tier ≤ t.tier) : s.value ≤ t.value := by
  revert h
  cases s <;> cases t <;> decide

theorem tier_le_of_value_le {s t : Symbol} (h : s.value ≤ t.value) : s.tier ≤ t.tier := by
  revert h
  cases s <;> cases t <;> decide

end Symbol

namespace Numeral

/-- The sum of the values of the letters. -/
def value (w : Numeral) : Nat := (w.map Symbol.value).sum

@[simp] theorem value_nil : value [] = 0 := rfl

@[simp] theorem value_cons (s : Symbol) (w : Numeral) : value (s :: w) = s.value + value w := by
  simp only [value, List.map_cons, List.sum_cons]

@[simp] theorem value_append (v w : Numeral) : value (v ++ w) = value v + value w := by
  simp only [value, List.map_append, List.sum_append]

@[simp] theorem value_replicate (n : Nat) (s : Symbol) : value (List.replicate n s) = n * s.value := by
  simp only [value, List.map_replicate, List.sum_replicate_nat]

@[simp] theorem value_reverse (w : Numeral) : value w.reverse = value w := by
  simp only [value, List.map_reverse, List.sum_reverse]

/-- The value is a sum over the seven letters, so the order of a word does not matter. -/
theorem value_eq_counts (w : Numeral) :
    value w = w.count .I + 5 * w.count .V + 10 * w.count .X + 50 * w.count .L + 100 * w.count .C
      + 500 * w.count .D + 1000 * w.count .M := by
  induction w with
  | nil => rfl
  | cons s w ih =>
    rw [value_cons, ih]
    cases s <;> simp [Symbol.value] <;> omega

theorem value_eq_of_count_eq {v w : Numeral} (h : ∀ s, v.count s = w.count s) : value v = value w := by
  simp only [value_eq_counts, h]

theorem value_eq_of_perm {v w : Numeral} (h : v.Perm w) : value v = value w := value_eq_of_count_eq h.count_eq

theorem value_le_of_mem {s : Symbol} {w : Numeral} (h : s ∈ w) : s.value ≤ value w :=
  List.le_sum_of_mem (List.mem_map_of_mem h)

theorem value_eq_zero {w : Numeral} : value w = 0 ↔ w = [] := by
  constructor
  · intro h
    cases w with
    | nil => rfl
    | cons s w =>
      rw [value_cons] at h
      have := s.value_pos
      omega
  · intro heq
    subst heq
    rfl

end Numeral

end Roman
