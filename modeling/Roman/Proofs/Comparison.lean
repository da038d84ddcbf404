import Roman.Proofs.Difference
/-!
# Comparing letter by letter

Collapsed words are ordered like their values by the highest letter that they do not hold equally often:
whatever is below it comes to less than one more copy of it. So a comparison of every letter, read from
the highest down, says at its first difference which of two subtractions fails, and if it has no
difference that the words are equivalent.
-/

namespace Roman.Numeral

variable {v w : Numeral} {s : Symbol} {p q : Nat}

/-- The comparisons of every letter, from the lowest to the highest. -/
def comparisons (v w : Numeral) : List (Symbol × Ordering) :=
  Symbol.alphabet.map fun s => (s, compare (v.count s) (w.count s))

/-- The first comparison that is not equal, from the highest letter down. -/
def deciding? (entries : List (Symbol × Ordering)) : Option (Symbol × Ordering) :=
  entries.reverse.find? fun entry => entry.2 != .eq

theorem tierComparison_of_descending (hv : Descending v) (hw : Descending w) :
    tierComparison v w = .ok (comparisons v w) := by
  rw [tierComparison, additive_of_descending hv, additive_of_descending hw]
  rfl

/-! ### The first difference -/

theorem mem_descending_cases {high low : List Symbol} (h : Symbol.descending = high ++ s :: low) (x : Symbol) :
    x ∈ high ∨ x.tier ≤ s.tier := by
  have hpairwise := pairwise_descending
  rw [h, List.pairwise_append] at hpairwise
  have hx : x ∈ high ++ s :: low := h ▸ List.mem_reverse.mpr x.mem_alphabet
  rcases List.mem_append.mp hx with hhigh | hx
  · exact .inl hhigh
  · rcases List.mem_cons.mp hx with rfl | hlow
    · exact .inr (Nat.le_refl _)
    · exact .inr (Nat.le_of_lt ((List.pairwise_cons.mp hpairwise.2.1).1 x hlow))

theorem reverse_comparisons (v w : Numeral) :
    (comparisons v w).reverse = Symbol.descending.map fun s => (s, compare (v.count s) (w.count s)) :=
  List.map_reverse.symm

/-- Words are compared alike everywhere, or there is a highest letter that tells them apart. -/
theorem deciding?_cases (v w : Numeral) :
    (deciding? (comparisons v w) = none ∧ ∀ s, v.count s = w.count s) ∨
      ∃ s, deciding? (comparisons v w) = some (s, compare (v.count s) (w.count s)) ∧
        v.count s ≠ w.count s ∧ ∀ x, s.tier < x.tier → v.count x = w.count x := by
  rw [deciding?, reverse_comparisons, List.find?_map]
  cases h : Symbol.descending.find? _ with
  | none =>
    refine .inl ⟨rfl, fun s => ?_⟩
    have hs := List.find?_eq_none.mp h s (List.mem_reverse.mpr s.mem_alphabet)
    simpa using hs
  | some s =>
    obtain ⟨hs, high, low, hdescending, hhigh⟩ := List.find?_eq_some_iff_append.mp h
    refine .inr ⟨s, rfl, by simpa using hs, fun x hx => ?_⟩
    rcases mem_descending_cases hdescending x with hmem | hle
    · simpa using hhigh x hmem
    · exact absurd hx (Nat.not_lt.mpr hle)

/-- **The highest difference decides** between the values. -/
theorem Collapsed.value_lt_of_count_lt (hv : Collapsed v) (hlt : v.count s < w.count s)
    (habove : ∀ x, s.tier < x.tier → v.count x = w.count x) : value v < value w := by
  refine Numeral.value_lt_of_count_lt (fun x limit _ hlimit => ?_) hlt fun x hx => ?_
  · exact (hv.count_le x limit hlimit).trans (Nat.le_add_left _ _)
  · exact Nat.le_of_eq (habove x hx)

theorem Collapsed.compare_count_eq (hv : Collapsed v) (hw : Collapsed w) (hne : v.count s ≠ w.count s)
    (habove : ∀ x, s.tier < x.tier → v.count x = w.count x) :
    compare (v.count s) (w.count s) = compare (value v) (value w) := by
  rcases Nat.lt_or_gt_of_ne hne with hlt | hgt
  · rw [Nat.compare_eq_lt.mpr hlt, Nat.compare_eq_lt.mpr (hv.value_lt_of_count_lt hlt habove)]
  · have hbelow := hw.value_lt_of_count_lt hgt fun x hx => (habove x hx).symm
    rw [Nat.compare_eq_gt.mpr hgt, Nat.compare_eq_gt.mpr hbelow]

theorem Collapsed.exists_deciding?_iff {o : Ordering} (hv : Collapsed v) (hw : Collapsed w) (ho : o ≠ .eq) :
    (∃ s, deciding? (comparisons v w) = some (s, o)) ↔ compare (value v) (value w) = o := by
  rcases deciding?_cases v w with ⟨hnone, hcount⟩ | ⟨s, hsome, hne, habove⟩
  · rw [hnone, value_eq_of_count_eq hcount, Nat.compare_eq_eq.mpr rfl]
    exact iff_of_false nofun ho.symm
  · rw [hsome, hv.compare_count_eq hw hne habove]
    exact ⟨fun ⟨_, h⟩ => (Prod.mk.inj (Option.some.inj h)).2, fun h => ⟨s, by rw [h]⟩⟩

theorem Collapsed.forall_mem_comparisons_iff (hv : Collapsed v) (hw : Collapsed w) :
    (∀ entry ∈ comparisons v w, entry.2 = .eq) ↔ value v = value w := by
  rw [comparisons, List.forall_mem_map]
  constructor
  · exact fun h => value_eq_of_count_eq fun s => Nat.compare_eq_eq.mp (h s s.mem_alphabet)
  · intro hvalue s _
    rw [hv.eq_of_value_eq hw hvalue]
    exact Nat.compare_eq_eq.mpr rfl

/-! ### Words of any spelling -/

theorem exists_error_sub_iff (hv : Denotes v p) (hw : Denotes w q) : (∃ e, sub v w = .error e) ↔ p < q := by
  by_cases hle : q ≤ p
  · rw [sub_eq_ok hv hw hle]
    exact iff_of_false nofun (Nat.not_lt.mpr hle)
  · have hlt := Nat.lt_of_not_le hle
    exact iff_of_true ⟨_, sub_eq_error hv hw hlt⟩ hlt

/-- **The comparison of two collapsed words**, read from the highest letter down. The first difference is
`lt` just if the second word cannot be taken away from the first, and `gt` just if the first cannot be
taken away from the second. There is no difference just if the words are equivalent. -/
theorem tierComparison_decides (hv : Convertible v) (hw : Convertible w) :
    ∃ c d entries, collapse v = .ok c ∧ collapse w = .ok d ∧ tierComparison c d = .ok entries ∧
      entries.map Prod.fst = Symbol.alphabet ∧
      ((∃ s, deciding? entries = some (s, .lt)) ↔ ∃ e, sub v w = .error e) ∧
      ((∃ s, deciding? entries = some (s, .gt)) ↔ ∃ e, sub w v = .error e) ∧
      ((∀ entry ∈ entries, entry.2 = .eq) ↔ equivalent v w = .ok true) := by
  obtain ⟨p, hp⟩ := hv
  obtain ⟨q, hq⟩ := hw
  obtain ⟨c, hc, hcollapsed, rfl⟩ := hp.collapse_eq
  obtain ⟨d, hd, hcollapsed', rfl⟩ := hq.collapse_eq
  refine ⟨c, d, comparisons c d, hc, hd,
    tierComparison_of_descending hcollapsed.descending hcollapsed'.descending, ?_, ?_, ?_, ?_⟩
  · rw [comparisons, List.map_map]
    exact List.map_id Symbol.alphabet
  · rw [hcollapsed.exists_deciding?_iff hcollapsed' (o := .lt) nofun, exists_error_sub_iff hp hq, Nat.compare_eq_lt]
  · rw [hcollapsed.exists_deciding?_iff hcollapsed' (o := .gt) nofun, exists_error_sub_iff hq hp, Nat.compare_eq_gt]
  · rw [hcollapsed.forall_mem_comparisons_iff hcollapsed', hp.equivalent_eq hq, Except.ok.injEq, decide_eq_true_iff]

/-- Nine has fewer tens than ten, which is what counts, however many ones it has more. -/
theorem tierComparison_decides_nine : Convertible [.I, .X] ∧ Convertible [.X] ∧
    ∃ c d entries, collapse [.I, .X] = .ok c ∧ collapse [.X] = .ok d ∧ tierComparison c d = .ok entries ∧
      ∃ s, deciding? entries = some (s, .lt) := by
  have hnine : Denotes [.I, .X] 9 := denotes_standard 9
  have hten : Denotes [.X] 10 := denotes_standard 10
  obtain ⟨c, d, entries, hc, hd, hentries, _, hlt, _⟩ := tierComparison_decides ⟨9, hnine⟩ ⟨10, hten⟩
  have herror := sub_eq_error hnine hten (by decide)
  exact ⟨⟨9, hnine⟩, ⟨10, hten⟩, c, d, entries, hc, hd, hentries, hlt.mpr ⟨_, herror⟩⟩

end Roman.Numeral
