import Roman.Proofs.Difference
/-!
# Collapsed words are the shortest

A contraction puts a briefer run in the place of a run, so a list of them leaves a word as it is or makes
it shorter. A descending word is its own additive form, so what collapsing does to it is to contract it, and
what comes out is the collapsed word of its value. Of all descending words of one value, all but the
collapsed one are therefore made shorter on the way to it, and no letter has to be counted.
-/

namespace Roman

namespace Contraction

theorem exhaust_eq_or_length_lt (c : Contraction) (w : Numeral) :
    c.exhaust w = w ∨ (c.exhaust w).length < w.length := by
  induction w using exhaust.induct c with
  | case1 w contracted hsome ih =>
    have hlt := length_lt_of_once? hsome
    rw [exhaust_of_some hsome]
    rcases ih with heq | hless
    · rw [heq]
      exact .inr hlt
    · exact .inr (hless.trans hlt)
  | case2 w hnone => exact .inl (exhaust_of_none hnone)

theorem exhaustAll_eq_or_length_lt (cs : List Contraction) (w : Numeral) :
    exhaustAll cs w = w ∨ (exhaustAll cs w).length < w.length := by
  induction cs generalizing w with
  | nil => exact .inl rfl
  | cons c cs ih =>
    show exhaustAll cs (c.exhaust w) = w ∨ (exhaustAll cs (c.exhaust w)).length < w.length
    rcases c.exhaust_eq_or_length_lt w with heq | hlt
    · rw [heq]
      exact ih w
    · rcases ih (c.exhaust w) with heq | hless
      · rw [heq]
        exact .inr hlt
      · exact .inr (hless.trans hlt)

end Contraction

namespace Numeral

variable {n r w : Numeral} {q : Nat}

/-- A run that makes up a letter has one copy more than a collapsed word has of any letter. -/
theorem Collapsed.not_isInfix {s lower : Symbol} {count : Nat} (hr : Collapsed r)
    (h : s.expansion? = some (lower, count)) : ¬ List.replicate count lower <:+: r := by
  intro hrun
  obtain ⟨hlimit, hpos⟩ := Symbol.limit?_of_expansion? h
  have hle := hr.count_le lower (count - 1) hlimit
  have hcount := hrun.sublist.count_le lower
  rw [List.count_replicate_self] at hcount
  omega

theorem collapse_of_descending (hw : Descending w) :
    collapse w = .ok (Contraction.exhaustAll (Symbol.alphabet.filterMap Contraction.collapsing?) w) := by
  rw [collapse, additive_of_descending hw, except_bind_ok]

/-- **A collapsed word** is shorter than every other descending word of its value. -/
theorem Collapsed.eq_or_length_lt (hr : Collapsed r) (hw : Descending w) (hvalue : value w = value r) :
    w = r ∨ r.length < w.length := by
  obtain ⟨r', hr', hcollapsed, hvalue'⟩ := hw.denotes.collapse_eq
  have heq : r' = r := hcollapsed.eq_of_value_eq hr (hvalue'.trans hvalue)
  subst heq
  rw [collapse_of_descending hw] at hr'
  cases hr'
  exact (Contraction.exhaustAll_eq_or_length_lt _ w).imp_left Eq.symm

/-- **Collapsing** gives a descending word of the same quantity in which no run makes up a letter. There is
no shorter way to write the quantity in descending order, and no other that is as short. -/
theorem collapse_shortest (hn : Denotes n q) :
    ∃ r, collapse n = .ok r ∧ Descending r ∧ value r = q ∧
      (∀ s lower count, Symbol.expansion? s = some (lower, count) → ¬ List.replicate count lower <:+: r) ∧
      ∀ w, Descending w → value w = q → w = r ∨ r.length < w.length := by
  obtain ⟨r, hr, hcollapsed, rfl⟩ := hn.collapse_eq
  exact ⟨r, hr, hcollapsed.descending, rfl, fun _ _ _ => hcollapsed.not_isInfix,
    fun _ => hcollapsed.eq_or_length_lt⟩

/-- Nine is written by subtraction. Nine ones are longer than what it collapses to, because five of them
make up a letter. -/
theorem collapse_shortest_nine : Denotes [.I, .X] 9 ∧
    ∃ r, collapse [.I, .X] = .ok r ∧ value r = 9 ∧ r.length < (List.replicate 9 Symbol.I).length := by
  have hnine : Denotes [.I, .X] 9 := denotes_standard 9
  obtain ⟨r, hr, _, hvalue, hruns, hshortest⟩ := collapse_shortest hnine
  refine ⟨hnine, r, hr, hvalue, ?_⟩
  rcases hshortest (List.replicate 9 .I) (descending_replicate 9 .I) (value_replicate 9 .I) with heq | hlt
  · exact absurd (heq ▸ ⟨[], List.replicate 4 .I, rfl⟩) (hruns .V .I 5 rfl)
  · exact hlt

end Numeral

end Roman
