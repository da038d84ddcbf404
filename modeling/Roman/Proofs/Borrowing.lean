import Mathlib.Data.List.TakeWhile
import Roman.Numeral.Borrow
import Roman.Proofs.Descending
/-!
# Breaking letters

What one breaking does to a word is said once, in `Breaks`: which letter is broken, that none nearer
was there, and what takes its place. Every fact about the loops is an invariant of that step.

The limits of a collapsed word do not survive a breaking. A letter broken several tiers up leaves one
copy too many of the next letter, and that copy is broken in turn, until the letters arrive where they
are needed. `Cascading` allows for exactly this one excess, and only while letters are still short.
-/

namespace Roman.Numeral

theorem exists_replaceLast? {x : Symbol} {w : Numeral} (hx : x ∈ w) (r : Numeral) :
    ∃ broken, replaceLast? x r w = some broken := by
  unfold replaceLast?
  split
  next hnil =>
    rw [List.dropWhile_eq_nil_iff] at hnil
    have := hnil x (List.mem_reverse.mpr hx)
    simp at this
  next before _ => exact ⟨_, rfl⟩

/-- The rightmost copy of `higher`, the letter nearest above `s` that occurs in `w`, gives way to what
it breaks into. -/
structure Breaks (s higher lower : Symbol) (count : Nat) (w broken : Numeral) : Prop where
  above : s.tier < higher.tier
  nearest : ∀ x, s.tier < x.tier → x.tier < higher.tier → w.count x = 0
  expansion : higher.expansion? = some (lower, count)
  split : ∃ before after, w = before ++ higher :: after ∧ higher ∉ after ∧
    broken = before ++ List.replicate count lower ++ after

section Step

variable {s : Symbol} {w broken : Numeral}

theorem pairwise_above (s : Symbol) : s.above.Pairwise fun x y => x.tier < y.tier := by
  cases s <;> decide

theorem borrow_eq_ok (h : borrow s w = .ok broken) :
    ∃ higher lower count, Breaks s higher lower count w broken := by
  unfold borrow at h
  split at h
  · cases h
  next higher hfind =>
    split at h
    · cases h
    next lower count hexpansion =>
      split at h
      · cases h
      next hreplace =>
        cases h
        obtain ⟨_, nearer, farther, habove, hnearer⟩ := List.find?_eq_some_iff_append.mp hfind
        have hmem : higher ∈ s.above := List.mem_of_find?_eq_some hfind
        refine ⟨higher, lower, count, Symbol.mem_above.mp hmem, ?_, hexpansion, ?_⟩
        · intro x hsx hxh
          have hx : x ∈ nearer ++ higher :: farther := habove ▸ Symbol.mem_above.mpr hsx
          have hpairwise := habove ▸ pairwise_above s
          rw [List.pairwise_append, List.pairwise_cons] at hpairwise
          rcases List.mem_append.mp hx with hx | hx
          · exact List.count_eq_zero.mpr (by simpa using hnearer x hx)
          · rcases List.mem_cons.mp hx with rfl | hx
            · omega
            · have := hpairwise.2.1.1 x hx
              omega
        · obtain ⟨before, after, hw, hafter, hbroken⟩ := replaceLast?_eq_some hreplace
          exact ⟨before, after, hw, hafter, hbroken⟩

theorem borrow_eq_error {e : NumeralError} (h : borrow s w = .error e) :
    e = .insufficientMagnitude ∧ ∀ x, s.tier < x.tier → w.count x = 0 := by
  unfold borrow at h
  split at h
  next hfind =>
    cases h
    refine ⟨rfl, fun x hx => ?_⟩
    have := List.find?_eq_none.mp hfind x (Symbol.mem_above.mpr hx)
    exact List.count_eq_zero.mpr (by simpa using this)
  next higher hfind =>
    have hmem : higher ∈ w := by simpa using List.find?_some hfind
    have habove := Symbol.mem_above.mp (List.mem_of_find?_eq_some hfind)
    obtain ⟨lower, count, hexpansion⟩ := Symbol.expansion?_isSome habove
    obtain ⟨broken, hbroken⟩ := exists_replaceLast? hmem (List.replicate count lower)
    rw [hexpansion] at h
    simp only [hbroken] at h
    cases h

variable {higher lower : Symbol} {count : Nat} (hbreaks : Breaks s higher lower count w broken)
include hbreaks

theorem Breaks.tier_lower : higher.tier = lower.tier + 1 :=
  (Symbol.value_of_expansion? hbreaks.expansion).1

theorem Breaks.ne : higher ≠ lower := by
  intro heq
  subst heq
  have := hbreaks.tier_lower
  omega

theorem Breaks.value_eq : value broken = value w := by
  obtain ⟨before, after, rfl, _, rfl⟩ := hbreaks.split
  have := (Symbol.value_of_expansion? hbreaks.expansion).2
  simp only [value_append, value_cons, value_replicate]
  omega

theorem Breaks.count_higher : broken.count higher + 1 = w.count higher := by
  obtain ⟨before, after, rfl, _, rfl⟩ := hbreaks.split
  have hne := hbreaks.ne
  simp only [List.count_append, List.count_cons_self, List.count_replicate, beq_iff_eq, hne.symm,
    if_false]
  omega

theorem Breaks.count_lower : broken.count lower = w.count lower + count := by
  obtain ⟨before, after, rfl, _, rfl⟩ := hbreaks.split
  have hne := hbreaks.ne
  simp only [List.count_append, List.count_cons, List.count_replicate_self, beq_iff_eq, hne, if_false]
  omega

theorem Breaks.count_other {x : Symbol} (hhigher : x ≠ higher) (hlower : x ≠ lower) :
    broken.count x = w.count x := by
  obtain ⟨before, after, rfl, _, rfl⟩ := hbreaks.split
  simp only [List.count_append, List.count_cons, List.count_replicate, beq_iff_eq, hhigher.symm,
    hlower.symm, if_false]
  omega

theorem Breaks.descending (hw : Descending w) : Descending broken := by
  obtain ⟨before, after, rfl, hafter, rfl⟩ := hbreaks.split
  have htier := hbreaks.tier_lower
  unfold Descending at hw ⊢
  rw [List.pairwise_append, List.pairwise_cons] at hw
  obtain ⟨hbefore, ⟨hfirst, hrest⟩, hcross⟩ := hw
  have hlow : ∀ x ∈ after, x.tier ≤ lower.tier := by
    intro x hx
    have hne : x.tier ≠ higher.tier := fun he => hafter (Symbol.tier_injective he ▸ hx)
    have hle := hfirst x hx
    omega
  have hhigh : ∀ x ∈ before, lower.tier ≤ x.tier := by
    intro x hx
    have := hcross x hx higher List.mem_cons_self
    omega
  rw [List.append_assoc, List.pairwise_append, List.pairwise_append]
  refine ⟨hbefore, ⟨List.pairwise_replicate.mpr (.inr (Nat.le_refl _)), hrest, ?_⟩, ?_⟩
  · intro x hx y hy
    rw [List.eq_of_mem_replicate hx]
    exact hlow y hy
  · intro x hx y hy
    rcases List.mem_append.mp hy with hy | hy
    · rw [List.eq_of_mem_replicate hy]
      exact hhigh x hx
    · exact Nat.le_trans (hlow y hy) (hhigh x hx)

end Step

/-! ### The loop at one tier -/

section Loop

variable {s : Symbol} {need : Nat} {w : Numeral}

theorem borrowUntil_of_ok {broken : Numeral} (hlt : w.count s < need) (hborrow : borrow s w = .ok broken) :
    borrowUntil s need w = borrowUntil s need broken := by
  rw [borrowUntil, if_pos hlt]
  split
  next hok => rw [hborrow] at hok; cases hok; rfl
  next herror => rw [hborrow] at herror; cases herror

theorem borrowUntil_of_error {e : NumeralError} (hlt : w.count s < need) (hborrow : borrow s w = .error e) :
    borrowUntil s need w = .error e := by
  rw [borrowUntil, if_pos hlt]
  split
  next hok => rw [hborrow] at hok; cases hok
  next herror => rw [hborrow] at herror; exact herror.symm

theorem borrowUntil_of_le (h : need ≤ w.count s) : borrowUntil s need w = .ok w := by
  rw [borrowUntil, if_neg (by omega)]

/-- Every letter above `s` is within its limit, but for one that may have a copy too many while `s` is
still short; that one is the next to be broken. -/
def Cascading (s : Symbol) (need : Nat) (w : Numeral) : Prop :=
  ∀ x limit, s.tier < x.tier → x.limit? = some limit → w.count x ≤ limit ∨
    (w.count x = limit + 1 ∧ w.count s < need ∧ ∀ y, s.tier < y.tier → y.tier < x.tier → w.count y = 0)

theorem Breaks.cascading {higher lower : Symbol} {count : Nat} {broken : Numeral}
    (hbreaks : Breaks s higher lower count w broken) (hlt : w.count s < need)
    (hw : Cascading s need w) : Cascading s need broken := by
  intro x limit habove hlimit
  have htier := hbreaks.tier_lower
  by_cases hhigher : x = higher
  · -- The excess, if there was one, has just been broken.
    subst hhigher
    left
    have hcount := hbreaks.count_higher
    rcases hw x limit habove hlimit with hle | ⟨heq, _⟩ <;> omega
  by_cases hlower : x = lower
  · -- No copy was here, since the letter broken is the nearest; now there is one too many.
    subst hlower
    right
    obtain ⟨hlower, hpos⟩ := Symbol.limit?_of_expansion? hbreaks.expansion
    rw [hlimit] at hlower
    cases hlower
    have hzero : w.count x = 0 := hbreaks.nearest x habove (by omega)
    have hcount := hbreaks.count_lower
    have hshort : broken.count s = w.count s := by
      refine hbreaks.count_other ?_ ?_
      · intro heq
        subst heq
        have := hbreaks.above
        omega
      · intro heq
        subst heq
        omega
    refine ⟨by omega, by omega, fun y hsy hyx => ?_⟩
    rw [hbreaks.count_other (x := y)]
    · exact hbreaks.nearest y hsy (by omega)
    · intro heq
      subst heq
      omega
    · intro heq
      subst heq
      omega
  · -- Another letter with an excess would be nearer than the one broken, or behind it.
    left
    rw [hbreaks.count_other hhigher hlower]
    rcases hw x limit habove hlimit with hle | ⟨heq, _, hnone⟩
    · exact hle
    · have hpresent := hbreaks.count_higher
      have hne : x.tier ≠ higher.tier := fun he => hhigher (Symbol.tier_injective he)
      rcases Nat.lt_or_gt_of_ne hne with hx | hx
      · have := hbreaks.nearest x habove hx
        omega
      · have := hnone higher hbreaks.above hx
        omega

/-- A breaking that reaches `s` brings no more than one letter's worth of it. -/
theorem Breaks.count_le {higher lower : Symbol} {count bound limit : Nat} {broken : Numeral}
    (hbreaks : Breaks s higher lower count w broken) (hlt : w.count s < need)
    (hlimit : s.limit? = some limit) (hw : w.count s ≤ max bound (need + limit)) :
    broken.count s ≤ max bound (need + limit) := by
  by_cases hlower : s = lower
  · subst hlower
    obtain ⟨hexpansion, hpos⟩ := Symbol.limit?_of_expansion? hbreaks.expansion
    rw [hlimit] at hexpansion
    cases hexpansion
    have := hbreaks.count_lower
    omega
  · have habove := hbreaks.above
    rw [hbreaks.count_other (by rintro rfl; omega) hlower]
    exact hw

end Loop

end Roman.Numeral
