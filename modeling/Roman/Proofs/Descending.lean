import Roman.Proofs.Quantity
/-!
# Descending and collapsed words

A word in descending order is known by how often each letter occurs in it, and a collapsed one, in
which no letter occurs often enough to make up the next, is known by its value alone. That is what
lets the proofs compare the outcomes of operations that have nothing in common.
-/

namespace Roman

/-- The most copies of a letter that do not make up the letter above it; the highest has no limit. -/
def Symbol.limit? : Symbol → Option Nat
  | .I => some 4
  | .V => some 1
  | .X => some 4
  | .L => some 1
  | .C => some 4
  | .D => some 1
  | .M => none

theorem Symbol.limit?_of_expansion? {s lower : Symbol} {count : Nat}
    (h : s.expansion? = some (lower, count)) : lower.limit? = some (count - 1) ∧ 0 < count := by
  cases s <;> simp only [expansion?, Option.some.injEq, Prod.mk.injEq, reduceCtorEq] at h <;>
    obtain ⟨rfl, rfl⟩ := h <;> decide

theorem Symbol.one_le_of_limit? {s : Symbol} {limit : Nat} (h : s.limit? = some limit) : 1 ≤ limit := by
  cases s <;> cases h <;> decide

namespace Numeral

def Descending (w : Numeral) : Prop := w.Pairwise fun s t => t.tier ≤ s.tier

instance (w : Numeral) : Decidable (Descending w) :=
  inferInstanceAs (Decidable (w.Pairwise fun s t => t.tier ≤ s.tier))

theorem descending_replicate (n : Nat) (s : Symbol) : Descending (List.replicate n s) :=
  List.pairwise_replicate.mpr (.inr (Nat.le_refl _))

/-- The descending word with given numbers of letters. -/
def ofCounts (f : Symbol → Nat) : Numeral :=
  Symbol.descending.flatMap fun s => List.replicate (f s) s

/-- The word itself, spelled out from the highest letter. -/
theorem ofCounts_eq (f : Symbol → Nat) :
    ofCounts f = List.replicate (f .M) .M ++ (List.replicate (f .D) .D ++ (List.replicate (f .C) .C ++
      (List.replicate (f .L) .L ++ (List.replicate (f .X) .X ++ (List.replicate (f .V) .V ++
        List.replicate (f .I) .I))))) := by
  simp [ofCounts, Symbol.descending, Symbol.alphabet]

theorem gather_eq_ofCounts (w : Numeral) : gather w = ofCounts w.count := rfl

@[simp] theorem count_ofCounts (f : Symbol → Nat) (s : Symbol) : (ofCounts f).count s = f s := by
  rw [ofCounts_eq]
  cases s <;> simp [List.count_append, List.count_replicate]

@[simp] theorem count_gather (w : Numeral) (s : Symbol) : (gather w).count s = w.count s :=
  count_ofCounts w.count s

@[simp] theorem value_gather (w : Numeral) : value (gather w) = value w :=
  value_eq_of_count_eq (count_gather w)

theorem gather_perm (w : Numeral) : (gather w).Perm w := List.perm_iff_count.mpr (count_gather w)

theorem mem_gather {w : Numeral} {s : Symbol} : s ∈ gather w ↔ s ∈ w := by
  rw [← List.count_pos_iff, ← List.count_pos_iff, count_gather]

theorem descending_ofCounts (f : Symbol → Nat) : Descending (ofCounts f) := by
  unfold Descending ofCounts
  rw [List.pairwise_flatMap]
  constructor
  · intro s _
    exact List.pairwise_replicate.mpr (.inr (Nat.le_refl _))
  · have hladder : Symbol.descending.Pairwise fun s t => t.tier < s.tier := by decide
    refine hladder.imp fun {s t} hlt x hx y hy => ?_
    rw [List.eq_of_mem_replicate hx, List.eq_of_mem_replicate hy]
    exact Nat.le_of_lt hlt

theorem descending_gather (w : Numeral) : Descending (gather w) := descending_ofCounts w.count

/-- Descending words that hold the same letters are the same. -/
theorem Descending.eq_of_count_eq {v w : Numeral} (hv : Descending v) (hw : Descending w)
    (h : ∀ s, v.count s = w.count s) : v = w := by
  refine List.Perm.eq_of_pairwise ?_ hv hw (List.perm_iff_count.mpr h)
  intro s t _ _ hts hst
  exact Symbol.tier_injective (Nat.le_antisymm hst hts)

theorem Descending.gather_eq {w : Numeral} (hw : Descending w) : gather w = w :=
  (descending_gather w).eq_of_count_eq hw (count_gather w)

/-- No letter occurs as often as it takes to make up the next one, except for the highest letter. -/
structure Collapsed (w : Numeral) : Prop where
  descending : Descending w
  count_le : ∀ s limit, s.limit? = some limit → w.count s ≤ limit

/-- The numbers of letters are the digits of the value, in the bases five and two by turns. -/
theorem Collapsed.count_eq {w : Numeral} (hw : Collapsed w) (s : Symbol) :
    w.count s = match s.limit? with
      | some limit => value w / s.value % (limit + 1)
      | none => value w / s.value := by
  have hI := hw.count_le .I 4 rfl
  have hV := hw.count_le .V 1 rfl
  have hX := hw.count_le .X 4 rfl
  have hL := hw.count_le .L 1 rfl
  have hC := hw.count_le .C 4 rfl
  have hD := hw.count_le .D 1 rfl
  rw [value_eq_counts]
  cases s <;> simp only [Symbol.limit?, Symbol.value] <;> omega

/-- **A collapsed word is known by its value.** -/
theorem Collapsed.eq_of_value_eq {v w : Numeral} (hv : Collapsed v) (hw : Collapsed w)
    (h : value v = value w) : v = w := by
  apply hv.descending.eq_of_count_eq hw.descending
  intro s
  rw [hv.count_eq, hw.count_eq, h]

/-- A letter on its own makes up no other. -/
theorem collapsed_singleton (s : Symbol) : Collapsed [s] := by
  constructor
  · exact List.pairwise_singleton _ _
  · intro t limit hlimit
    exact Nat.le_trans List.count_le_length (Symbol.one_le_of_limit? hlimit)

end Numeral

end Roman
