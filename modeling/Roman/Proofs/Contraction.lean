import Roman.Numeral.Arithmetic
import Roman.Proofs.Descending
/-!
# Contracting in the middle of a word

Letters in front that do not begin a run, and letters behind that do not occur in it, take no part in
a contraction. So a contraction may be carried out on the letters it is about and the outcome put
back in its place, and the passes over a descending word are computed one tier at a time.
-/

namespace Roman.Contraction

theorem exhaust_of_none {c : Contraction} {w : Numeral} (h : c.once? w = none) : c.exhaust w = w := by
  unfold exhaust
  split
  next hsome => rw [h] at hsome; cases hsome
  next => rfl

theorem exhaust_of_some {c : Contraction} {w contracted : Numeral} (h : c.once? w = some contracted) :
    c.exhaust w = c.exhaust contracted := by
  rw [exhaust]
  split
  next hsome =>
    rw [h] at hsome
    cases hsome
    rfl
  next hnone => rw [h] at hnone; cases hnone

theorem run_ne_nil (c : Contraction) : c.run ≠ [] := by
  intro hnil
  have hshorter := c.shorter
  rw [hnil] at hshorter
  exact absurd hshorter (Nat.not_lt_zero _)

variable {c : Contraction} {high low : Numeral}

theorem once?_append_left {x : Symbol} (hhead : c.run.head? = some x) (hx : x ∉ high) (w : Numeral) :
    c.once? (high ++ w) = (c.once? w).map (high ++ ·) := by
  obtain ⟨run, hrun⟩ := List.head?_eq_some_iff.mp hhead
  induction high with
  | nil => simp
  | cons y high ih =>
    have hy : x ≠ y := fun he => hx (he ▸ List.mem_cons_self)
    have hmem : x ∉ high := fun hin => hx (List.mem_cons_of_mem y hin)
    have hnot : c.run.isPrefixOf (y :: (high ++ w)) = false := by
      rw [hrun]
      simp [List.isPrefixOf, hy]
    rw [List.cons_append, once?, hnot, ih hmem, Option.map_map]
    rfl

/-- Nothing is contracted among letters that the run does not hold. -/
theorem once?_eq_none (hlow : ∀ x ∈ c.run, x ∉ low) : c.once? low = none := by
  induction low with
  | nil => rfl
  | cons y low ih =>
    have hnot : c.run.isPrefixOf (y :: low) = false := by
      rw [Bool.eq_false_iff]
      intro hprefix
      obtain ⟨x, run, hrun⟩ := List.exists_cons_of_ne_nil c.run_ne_nil
      have hx : x ∈ c.run := by rw [hrun]; exact List.mem_cons_self
      exact hlow x hx ((List.isPrefixOf_iff_prefix.mp hprefix).subset hx)
    rw [once?, hnot, ih fun x hx hin => hlow x hx (List.mem_cons_of_mem y hin)]
    rfl

/-- A run cannot reach into letters that it does not hold. -/
theorem isPrefixOf_append (hlow : ∀ x ∈ c.run, x ∉ low) (w : Numeral) :
    c.run.isPrefixOf (w ++ low) = c.run.isPrefixOf w := by
  rw [Bool.eq_iff_iff, List.isPrefixOf_iff_prefix, List.isPrefixOf_iff_prefix]
  constructor
  · intro hrun
    rcases List.prefix_or_prefix_of_prefix hrun (List.prefix_append w low) with h | ⟨rest, hrest⟩
    · exact h
    · rw [← hrest, List.prefix_append_right_inj] at hrun
      cases rest with
      | nil => exact ⟨[], by rw [List.append_nil, ← hrest, List.append_nil]⟩
      | cons x rest =>
        have hx : x ∈ c.run := by rw [← hrest]; simp
        exact absurd (hrun.subset List.mem_cons_self) (hlow x hx)
  · exact fun hrun => List.prefix_append_of_prefix hrun

theorem once?_append_right (hlow : ∀ x ∈ c.run, x ∉ low) (w : Numeral) :
    c.once? (w ++ low) = (c.once? w).map (· ++ low) := by
  induction w with
  | nil => exact once?_eq_none hlow
  | cons x w ih =>
    rw [List.cons_append, once?, once?, ← List.cons_append, isPrefixOf_append hlow]
    by_cases hrun : c.run.isPrefixOf (x :: w)
    · have hle := (List.isPrefixOf_iff_prefix.mp hrun).length_le
      rw [if_pos hrun, if_pos hrun, List.drop_append_of_le_length hle, ← List.append_assoc]
      rfl
    · rw [if_neg hrun, if_neg hrun, ih, Option.map_map, Option.map_map]
      rfl

/-- **Contracting in the middle.** Only the letters between `high` and `low` are contracted. -/
theorem exhaust_middle {x : Symbol} (hhead : c.run.head? = some x) (hhigh : x ∉ high)
    (hlow : ∀ x ∈ c.run, x ∉ low) (w : Numeral) :
    c.exhaust (high ++ (w ++ low)) = high ++ (c.exhaust w ++ low) := by
  induction w using exhaust.induct c with
  | case1 w contracted hsome ih =>
    have hmiddle : c.once? (high ++ (w ++ low)) = some (high ++ (contracted ++ low)) := by
      rw [once?_append_left hhead hhigh, once?_append_right hlow, hsome]
      rfl
    rw [exhaust_of_some hmiddle, exhaust_of_some hsome, ih]
  | case2 w hnone =>
    have hmiddle : c.once? (high ++ (w ++ low)) = none := by
      rw [once?_append_left hhead hhigh, once?_append_right hlow, hnone]
      rfl
    rw [exhaust_of_none hmiddle, exhaust_of_none hnone]

end Roman.Contraction
