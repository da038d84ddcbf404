import Roman.Proofs.Canonical
import Roman.Proofs.Resolution
/-!
# Standard numerals

The standard numeral of a number is read back as that number, digit by digit: the digits of different
places keep apart, and within a digit there is at most one letter that subtracts. So standard numerals
tell numbers apart, and two words have the same canonical form only if they have the same quantity.
-/

namespace Roman.Numeral

/-- Three letters in which a decimal digit is written. -/
structure Place (one five ten : Symbol) : Prop where
  tier_five : five.tier = one.tier + 1
  tier_ten : ten.tier = one.tier + 2
  value_five : five.value = 5 * one.value
  value_ten : ten.value = 10 * one.value

section Place

variable {one five ten : Symbol} (hplace : Place one five ten)

include hplace

theorem Place.tier_le {k : Nat} : ∀ x ∈ digit one five ten k, one.tier ≤ x.tier ∧ x.tier ≤ ten.tier := by
  intro x hx
  have hfive := hplace.tier_five
  have hten := hplace.tier_ten
  rcases mem_digit hx with rfl | rfl | rfl
  · exact ⟨Nat.le_refl _, by omega⟩
  · exact ⟨by omega, by omega⟩
  · exact ⟨by omega, Nat.le_refl _⟩

theorem Place.denotes_pair {x : Symbol} (hlt : one.tier < x.tier) (hle : x.tier ≤ ten.tier)
    (hvalue : one.value ≤ x.value) : Denotes [one, x] (x.value - one.value) := by
  have hten := hplace.tier_ten
  have hrun : ∀ y ∈ [one], y ∈ x.subtractives := by
    intro y hy
    rw [List.mem_singleton.mp hy, Symbol.mem_subtractives]
    omega
  have hgroup := denotes_group (List.cons_ne_nil one []) hrun (List.pairwise_singleton _ _)
  rw [value_cons, value_nil, Nat.add_zero] at hgroup
  exact hgroup hvalue

theorem Place.descending_digit {k : Nat} (hfour : k ≠ 4) (hnine : k ≠ 9) :
    Descending (digit one five ten k) := by
  have hfive := hplace.tier_five
  unfold digit
  split <;> simp_all [Descending]

theorem Place.value_digit {k : Nat} (hk : k < 10) (hfour : k ≠ 4) (hnine : k ≠ 9) :
    value (digit one five ten k) = k * one.value := by
  have hfive := hplace.value_five
  unfold digit
  split <;> simp_all <;> omega

theorem Place.denotes_digit {k : Nat} (hk : k < 10) : Denotes (digit one five ten k) (k * one.value) := by
  have htierFive := hplace.tier_five
  have htierTen := hplace.tier_ten
  have hvalueFive := hplace.value_five
  have hvalueTen := hplace.value_ten
  by_cases hfour : k = 4
  · subst hfour
    have hpair := hplace.denotes_pair (x := five) (by omega) (by omega) (by omega)
    rwa [show five.value - one.value = 4 * one.value by omega] at hpair
  by_cases hnine : k = 9
  · subst hnine
    have hpair := hplace.denotes_pair (x := ten) (by omega) (by omega) (by omega)
    rwa [show ten.value - one.value = 9 * one.value by omega] at hpair
  have hdigit := (hplace.descending_digit hfour hnine).denotes
  rwa [hplace.value_digit hk hfour hnine] at hdigit

end Place

theorem place_units : Place .I .V .X := ⟨rfl, rfl, rfl, rfl⟩

theorem place_tens : Place .X .L .C := ⟨rfl, rfl, rfl, rfl⟩

theorem place_hundreds : Place .C .D .M := ⟨rfl, rfl, rfl, rfl⟩

/-- **A standard numeral is read back** as the number it was written for. -/
theorem denotes_standard (q : Nat) : Denotes (standard q) q := by
  have hunits := place_units.denotes_digit (show q % 10 < 10 by omega)
  have htens := place_tens.denotes_digit (show q / 10 % 10 < 10 by omega)
  have hhundreds := place_hundreds.denotes_digit (show q / 100 % 10 < 10 by omega)
  have hthousands : Denotes (List.replicate (q / 1000) Symbol.M) (q / 1000 * 1000) := by
    have hdenotes := (descending_replicate (q / 1000) Symbol.M).denotes
    rwa [value_replicate] at hdenotes
  have hbelowTens : ∀ x ∈ digit .I .V .X (q % 10), x.tier ≤ Symbol.X.tier := fun x hx =>
    (place_units.tier_le x hx).2
  have hbelowHundreds : ∀ x ∈ digit .X .L .C (q / 10 % 10) ++ digit .I .V .X (q % 10),
      x.tier ≤ Symbol.C.tier := by
    rw [List.forall_mem_append]
    exact ⟨fun x hx => (place_tens.tier_le x hx).2, fun x hx => (hbelowTens x hx).trans (by decide)⟩
  have hbelowThousands : ∀ x ∈ digit .C .D .M (q / 100 % 10) ++ (digit .X .L .C (q / 10 % 10) ++
      digit .I .V .X (q % 10)), x.tier ≤ Symbol.M.tier := fun x _ => Nat.le_of_lt_succ x.tier_lt_seven
  have hlow := htens.append hunits (fun x hx => (place_tens.tier_le x hx).1) hbelowTens
  have hmiddle := hhundreds.append hlow (fun x hx => (place_hundreds.tier_le x hx).1) hbelowHundreds
  have hall := hthousands.append hmiddle
    (fun x hx => Nat.le_of_eq (congrArg Symbol.tier (List.eq_of_mem_replicate hx)).symm) hbelowThousands
  have hdigits : q / 1000 * 1000 + (q / 100 % 10 * Symbol.C.value + (q / 10 % 10 * Symbol.X.value +
      q % 10 * Symbol.I.value)) = q := by
    show q / 1000 * 1000 + (q / 100 % 10 * 100 + (q / 10 % 10 * 10 + q % 10 * 1)) = q
    omega
  rwa [hdigits] at hall

theorem standard_injective {p q : Nat} (h : standard p = standard q) : p = q :=
  (denotes_standard p).unique (h ▸ denotes_standard q)

theorem Denotes.additive_eq {w : Numeral} {q : Nat} (hw : Denotes w q) :
    ∃ a, additive w = .ok a ∧ Descending a ∧ value a = q := by
  obtain ⟨a, ha, hvalue⟩ := hw
  refine ⟨a, ha, ?_, hvalue⟩
  rw [additive_eq_ofCounts ha]
  exact descending_ofCounts _

theorem Denotes.canonical_eq {w : Numeral} {q : Nat} (hw : Denotes w q) :
    canonical w = .ok (standard q) := by
  obtain ⟨a, ha, rfl⟩ := hw
  exact canonical_eq_ok ha

theorem Denotes.equivalent_eq {v w : Numeral} {p q : Nat} (hv : Denotes v p) (hw : Denotes w q) :
    equivalent v w = .ok (decide (p = q)) := by
  rw [equivalent, hv.canonical_eq, hw.canonical_eq, except_bind_ok, except_bind_ok, beq_eq_decide]
  exact congrArg Except.ok (decide_eq_decide.mpr ⟨fun h => standard_injective h, congrArg standard⟩)

/-- **Canonical form.** A word of quantity `p` has the standard numeral of `p` as its canonical form, so
words are equivalent when their quantities are equal, however they are spelled. -/
theorem canonical_and_equivalent {v w : Numeral} {p q : Nat} (hv : Denotes v p) (hw : Denotes w q) :
    canonical v = .ok (standard p) ∧ equivalent v w = .ok (decide (p = q)) :=
  ⟨hv.canonical_eq, hv.equivalent_eq hw⟩

theorem canonical_and_equivalent_nine :
    Denotes [.I, .X] 9 ∧ Denotes [.V, .I, .I, .I, .I] 9 ∧ canonical [.I, .X] = .ok (standard 9) ∧
      equivalent [.I, .X] [.V, .I, .I, .I, .I] = .ok true := by
  have hpair : Denotes [.I, .X] 9 := denotes_standard 9
  have hrun : Denotes [.V, .I, .I, .I, .I] 9 := Descending.denotes (by decide)
  exact ⟨hpair, hrun, canonical_and_equivalent hpair hrun⟩

end Roman.Numeral
