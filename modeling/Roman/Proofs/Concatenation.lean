import Roman.Proofs.Shortage
/-!
# Words written one after the other

The tiers of two words that meet in one tier at most are kept apart by it. The stages below that tier
find nothing in the first word, those above it find nothing in the second, and its own letters do not
subtract from one another. So no run reaches over the seam, whatever either word is made of, and the
two are resolved as if each stood alone: to write them one after the other is to add them.
-/

namespace Roman.Numeral

variable {u w : Numeral}

theorem exists_tier_between (h : ∀ x ∈ u, ∀ y ∈ w, y.tier ≤ x.tier) :
    ∃ t, (∀ x ∈ u, t ≤ x.tier) ∧ ∀ y ∈ w, y.tier ≤ t := by
  induction w with
  | nil => exact ⟨0, fun x _ => Nat.zero_le x.tier, List.forall_mem_nil _⟩
  | cons y w ih =>
    obtain ⟨t, hu, hw⟩ := ih fun x hx y hy => h x hx y (List.mem_cons_of_mem _ hy)
    refine ⟨max t y.tier, fun x hx => Nat.max_le.mpr ⟨hu x hx, h x hx y List.mem_cons_self⟩, ?_⟩
    refine List.forall_mem_cons.mpr ⟨Nat.le_max_right _ _, fun z hz => ?_⟩
    exact (hw z hz).trans (Nat.le_max_left _ _)

theorem descending_of_additive {a : Numeral} (h : additive w = .ok a) : Descending a := by
  obtain ⟨r, _, ha⟩ := except_bind_eq_ok h
  cases ha
  exact descending_gather r

theorem tier_le_of_additive {t : Nat} {a : Numeral} (h : additive w = .ok a) (hw : ∀ x ∈ w, x.tier ≤ t) :
    ∀ x ∈ a, x.tier ≤ t := by
  obtain ⟨r, hr, ha⟩ := except_bind_eq_ok h
  cases ha
  exact fun x hx => tier_le_of_resolve hr hw x (mem_gather.mp hx)

/-- The sum of words that are kept apart by a tier has the letters of the first in front. -/
theorem plus_eq_append {t : Nat} (hu : ∀ x ∈ u, t ≤ x.tier) (hw : ∀ y ∈ w, y.tier ≤ t) :
    plus u w = (do
      let a ← additive u
      let b ← additive w
      .ok (a ++ b)) := by
  rw [plus]
  cases ha : additive u with
  | error e => rfl
  | ok a =>
    cases hb : additive w with
    | error e => rfl
    | ok b =>
      have hcross : ∀ x ∈ a, ∀ y ∈ b, y.tier ≤ x.tier := fun x hx y hy =>
        (tier_le_of_additive hb hw y hy).trans (le_tier_of_additive ha hu x hx)
      simp only [except_bind_ok]
      rw [gather_append hcross, (descending_of_additive ha).gather_eq, (descending_of_additive hb).gather_eq]

/-- **Written one after the other**, words of falling tiers are added: the additive form of the whole is
the sum, it is there just if both words have one, and then it is theirs one after the other. -/
theorem additive_append_eq_plus (u w : Numeral) (h : ∀ x ∈ u, ∀ y ∈ w, y.tier ≤ x.tier) :
    additive (u ++ w) = plus u w ∧
      ShortIff (additive (u ++ w)) (¬ Convertible u ∨ ¬ Convertible w) ∧
      ∀ a b, additive u = .ok a → additive w = .ok b → additive (u ++ w) = .ok (a ++ b) := by
  obtain ⟨t, hu, hw⟩ := exists_tier_between h
  have happend := additive_append hu hw
  have hplus : additive (u ++ w) = plus u w := happend.trans (plus_eq_append hu hw).symm
  refine ⟨hplus, hplus ▸ shortIff_plus u w, fun a b ha hb => ?_⟩
  rw [happend, ha, hb]
  rfl

/-- Both words subtract, twice with the same letter, and they meet in the letter of ten. -/
theorem additive_append_eq_plus_seam : (∀ x ∈ [Symbol.X, .C, .X, .C], ∀ y ∈ [Symbol.I, .X, .V, .X], y.tier ≤ x.tier) ∧
    additive [.X, .C, .X, .C, .I, .X, .V, .X] = plus [.X, .C, .X, .C] [.I, .X, .V, .X] := by
  have hfall : ∀ x ∈ [Symbol.X, .C, .X, .C], ∀ y ∈ [Symbol.I, .X, .V, .X], y.tier ≤ x.tier := by decide
  exact ⟨hfall, (additive_append_eq_plus _ _ hfall).1⟩

end Roman.Numeral
