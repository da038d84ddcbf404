import Roman.Proofs.Standard
/-!
# Sums and differences of quantities

Addition adds quantities and never fails on words that have one. Subtraction is subtraction of
quantities, fails exactly when it would go below zero, and leaves the one collapsed word of the
difference.
-/

namespace Roman.Numeral

variable {v w : Numeral} {p q : Nat}

theorem plus_eq_ok (hv : Denotes v p) (hw : Denotes w q) : ∃ r, plus v w = .ok r ∧ Denotes r (p + q) := by
  obtain ⟨a, ha, rfl⟩ := hv
  obtain ⟨b, hb, rfl⟩ := hw
  refine ⟨gather (a ++ b), ?_, ?_⟩
  · rw [plus, ha, hb]
    rfl
  · have hsum := (descending_gather (a ++ b)).denotes
    rwa [value_gather, value_append] at hsum

theorem add_eq_ok (hv : Denotes v p) (hw : Denotes w q) : add v w = .ok (standard (p + q)) := by
  obtain ⟨r, hplus, hr⟩ := plus_eq_ok hv hw
  rw [add, hplus, except_bind_ok, hr.canonical_eq]

theorem Denotes.collapse_eq (hv : Denotes v p) : ∃ r, collapse v = .ok r ∧ Collapsed r ∧ value r = p := by
  obtain ⟨a, ha, rfl⟩ := hv
  exact collapse_eq_ok ha

theorem minus_eq_ok (hv : Denotes v p) (hw : Denotes w q) (hle : q ≤ p) :
    ∃ r, minus v w = .ok r ∧ Collapsed r ∧ value r = p - q := by
  obtain ⟨c, hcollapse, hc, rfl⟩ := hv.collapse_eq
  obtain ⟨b, hb, rfl⟩ := hw
  obtain ⟨r, hwithdraw, hr, hvalue⟩ := withdraw_eq_ok hc hle
  refine ⟨r, ?_, hr, by omega⟩
  rw [minus, hcollapse, hb]
  exact hwithdraw

theorem minus_eq_error (hv : Denotes v p) (hw : Denotes w q) (hlt : p < q) :
    minus v w = .error .insufficientMagnitude := by
  obtain ⟨c, hcollapse, hc, rfl⟩ := hv.collapse_eq
  obtain ⟨b, hb, rfl⟩ := hw
  rw [minus, hcollapse, hb]
  exact withdraw_eq_error hc hlt

theorem sub_eq_ok (hv : Denotes v p) (hw : Denotes w q) (hle : q ≤ p) :
    sub v w = .ok (standard (p - q)) := by
  obtain ⟨r, hminus, hr, hvalue⟩ := minus_eq_ok hv hw hle
  rw [sub, hminus, except_bind_ok, ← hvalue]
  exact hr.descending.denotes.canonical_eq

theorem sub_eq_error (hv : Denotes v p) (hw : Denotes w q) (hlt : p < q) :
    sub v w = .error .insufficientMagnitude := by
  rw [sub, minus_eq_error hv hw hlt, except_bind_error]

/-- **Subtraction** succeeds exactly when there is enough, its result is the one collapsed word of the
difference, and `sub` writes that difference as a standard numeral. -/
theorem minus_and_sub (hv : Denotes v p) (hw : Denotes w q) :
    ((∃ m, minus v w = .ok m) ↔ q ≤ p) ∧
      (q ≤ p → (∀ m, minus v w = .ok m ↔ Collapsed m ∧ value m = p - q) ∧
        sub v w = .ok (standard (p - q))) ∧
      (p < q → minus v w = .error .insufficientMagnitude ∧ sub v w = .error .insufficientMagnitude) := by
  refine ⟨⟨?_, ?_⟩, fun hle => ⟨fun m => ⟨?_, ?_⟩, sub_eq_ok hv hw hle⟩, fun hlt =>
    ⟨minus_eq_error hv hw hlt, sub_eq_error hv hw hlt⟩⟩
  · intro hsome
    obtain ⟨m, hm⟩ := hsome
    by_contra hnot
    rw [minus_eq_error hv hw (Nat.lt_of_not_le hnot)] at hm
    cases hm
  · intro hle
    obtain ⟨r, hr, _⟩ := minus_eq_ok hv hw hle
    exact ⟨r, hr⟩
  · intro hm
    obtain ⟨r, hr, hcollapsed, hvalue⟩ := minus_eq_ok hv hw hle
    rw [hm] at hr
    cases hr
    exact ⟨hcollapsed, hvalue⟩
  · intro hm
    obtain ⟨hcollapsed, hvalue⟩ := hm
    obtain ⟨r, hr, hcollapsed', hvalue'⟩ := minus_eq_ok hv hw hle
    rw [hr, hcollapsed.eq_of_value_eq hcollapsed' (hvalue.trans hvalue'.symm)]

theorem minus_and_sub_thousand :
    Denotes [.M] 1000 ∧ Denotes [.I] 1 ∧ (∃ m, minus [.M] [.I] = .ok m) ∧
      sub [.M] [.I] = .ok (standard 999) ∧ sub [.I] [.M] = .error .insufficientMagnitude := by
  have hlarge : Denotes [.M] 1000 := denotes_standard 1000
  have hsmall : Denotes [.I] 1 := denotes_standard 1
  obtain ⟨hsome, hdifference, _⟩ := minus_and_sub hlarge hsmall
  obtain ⟨_, _, hshort⟩ := minus_and_sub hsmall hlarge
  exact ⟨hlarge, hsmall, hsome.mpr (by decide), (hdifference (by decide)).2, (hshort (by decide)).2⟩

end Roman.Numeral
