import Roman.Proofs.Borrowing
/-!
# Cascades

The loop at one tier breaks letter after letter until enough copies of `s` are there. Most of what it breaks
brings none of them: a letter far up gives way to letters of the next tier, the word grows longer, and the
count that the loop waits for stays as it is. What falls at every breaking is the weight, so a cascade has
as many breakings as it has taken off the weight, and no cascade goes on without end.

What is broken moves down to `s` and no further, so the letters from `s` up keep their value to the last.
That value decides how the cascade ends. If it is stuck, nothing but `s` is left of these letters, and there
is too little of it; and if there is enough, the letters were worth as much from the start.
-/

namespace Roman.Numeral

variable {s x : Symbol} {need m n : Nat} {u v w broken : Numeral}

/-- The letters of a word from `s` up. -/
def lettersFrom (s : Symbol) (w : Numeral) : Numeral := w.filter fun x => s.tier ≤ x.tier

/-- The letters of a word below `s`. -/
def lettersBelow (s : Symbol) (w : Numeral) : Numeral := w.filter fun x => x.tier < s.tier

theorem value_lettersFrom_add (s : Symbol) (w : Numeral) :
    value (lettersFrom s w) + value (lettersBelow s w) = value w := by
  have hbelow : lettersBelow s w = w.filter fun x => !decide (s.tier ≤ x.tier) := by
    refine List.filter_congr fun x _ => ?_
    rw [← decide_not]
    exact decide_eq_decide.mpr Nat.not_le.symm
  rw [hbelow, lettersFrom, ← value_append]
  exact value_eq_of_perm (List.filter_append_perm _ w)

theorem count_lettersFrom (hx : s.tier ≤ x.tier) : (lettersFrom s w).count x = w.count x :=
  List.count_filter (decide_eq_true hx)

theorem count_lettersBelow (hx : x.tier < s.tier) : (lettersBelow s w).count x = w.count x :=
  List.count_filter (decide_eq_true hx)

theorem count_mul_value_le (s : Symbol) (w : Numeral) : w.count s * s.value ≤ value (lettersFrom s w) := by
  have hcopies : (List.replicate (w.count s) s).Sublist (lettersFrom s w) :=
    List.replicate_sublist_iff.mpr (count_lettersFrom (Nat.le_refl _)).ge
  rw [← value_replicate]
  exact (hcopies.map Symbol.value).sum_le_sum fun _ _ => Nat.zero_le _

/-- Where no letter above `s` is left, the letters from `s` up are the copies of `s`. -/
theorem lettersFrom_eq_replicate (h : ∀ x, s.tier < x.tier → w.count x = 0) :
    lettersFrom s w = List.replicate (w.count s) s := by
  rw [← List.filter_eq]
  refine List.filter_congr fun x hx => decide_eq_decide.mpr ⟨fun hle => ?_, ?_⟩
  · rcases Nat.eq_or_lt_of_le hle with heq | hlt
    · exact (Symbol.tier_injective heq).symm
    · exact absurd hx (List.count_eq_zero.mp (h x hlt))
  · rintro rfl
    exact Nat.le_refl _

/-! ### What a breaking keeps -/

/-- Between `w` and `v` nothing has been gained or lost, nothing has been done below `s`, and the letters
have not been put out of order. -/
structure Kept (s : Symbol) (w v : Numeral) : Prop where
  value_eq : value v = value w
  below_eq : lettersBelow s v = lettersBelow s w
  descending : Descending w → Descending v

theorem Kept.refl (s : Symbol) (w : Numeral) : Kept s w w := ⟨rfl, rfl, id⟩

theorem Kept.trans (h : Kept s w u) (h' : Kept s u v) : Kept s w v where
  value_eq := h'.value_eq.trans h.value_eq
  below_eq := h'.below_eq.trans h.below_eq
  descending hw := h'.descending (h.descending hw)

theorem Kept.count_eq (h : Kept s w v) (hx : x.tier < s.tier) : v.count x = w.count x := by
  rw [← count_lettersBelow hx, h.below_eq, count_lettersBelow hx]

theorem Kept.value_lettersFrom_eq (h : Kept s w v) : value (lettersFrom s v) = value (lettersFrom s w) := by
  have hv := value_lettersFrom_add s v
  have hw := value_lettersFrom_add s w
  rw [h.below_eq, h.value_eq] at hv
  omega

theorem Breaks.lettersBelow_eq {higher lower : Symbol} {count : Nat}
    (hbreaks : Breaks s higher lower count w broken) : lettersBelow s broken = lettersBelow s w := by
  have habove := hbreaks.above
  have htier := hbreaks.tier_lower
  obtain ⟨before, after, rfl, _, rfl⟩ := hbreaks.split
  have hhigher : ¬ higher.tier < s.tier := by omega
  have hlower : ¬ lower.tier < s.tier := by omega
  simp [lettersBelow, hhigher, hlower]

theorem kept_of_borrow (h : borrow s w = .ok broken) : Kept s w broken := by
  obtain ⟨higher, lower, count, hbreaks⟩ := borrow_eq_ok h
  exact ⟨hbreaks.value_eq, hbreaks.lettersBelow_eq, hbreaks.descending⟩

/-! ### The loop as a cascade -/

/-- The loop at `s` comes from `w` to `v` in `n` breakings, each of them because `s` is short. -/
inductive Cascade (s : Symbol) (need : Nat) : Numeral → Nat → Numeral → Prop
  | refl (w : Numeral) : Cascade s need w 0 w
  | step {w broken : Numeral} {n : Nat} {v : Numeral} (hshort : w.count s < need)
      (hborrow : borrow s w = .ok broken) (hrest : Cascade s need broken n v) : Cascade s need w (n + 1) v

/-- **The loop is a cascade**, and what it ends in is either enough or nothing left to break. -/
theorem exists_cascade (s : Symbol) (need : Nat) (w : Numeral) :
    ∃ n v, Cascade s need w n v ∧
      (need ≤ v.count s ∧ borrowUntil s need w = .ok v ∨
        v.count s < need ∧ borrow s v = .error .insufficientMagnitude ∧
          borrowUntil s need w = .error .insufficientMagnitude) := by
  induction w using borrowUntil.induct s need with
  | case1 w hshort broken hborrow ih =>
    obtain ⟨n, v, hcascade, hend⟩ := ih
    refine ⟨n + 1, v, .step hshort hborrow hcascade, ?_⟩
    rwa [borrowUntil_of_ok hshort hborrow]
  | case2 w hshort e hborrow =>
    obtain ⟨rfl, _⟩ := borrow_eq_error hborrow
    exact ⟨0, w, .refl w, .inr ⟨hshort, hborrow, borrowUntil_of_error hshort hborrow⟩⟩
  | case3 w henough =>
    have hle : need ≤ w.count s := Nat.le_of_not_lt henough
    exact ⟨0, w, .refl w, .inl ⟨hle, borrowUntil_of_le hle⟩⟩

theorem exists_cascade_of_ok (h : borrowUntil s need w = .ok v) :
    need ≤ v.count s ∧ ∃ n, Cascade s need w n v := by
  obtain ⟨n, v', hcascade, ⟨henough, hok⟩ | ⟨_, _, herror⟩⟩ := exists_cascade s need w
  · rw [h] at hok
    cases hok
    exact ⟨henough, n, hcascade⟩
  · rw [h] at herror
    cases herror

theorem Cascade.weight_add (h : Cascade s need w n v) : weight v + n = weight w := by
  induction h with
  | refl w => rfl
  | step _ hborrow _ ih =>
    have := weight_borrow hborrow
    omega

/-- A cascade that can go no further is as long as any. -/
theorem Cascade.le_of_end (h : Cascade s need w m u) (h' : Cascade s need w n v)
    (hend : ∀ broken, v.count s < need → borrow s v ≠ .ok broken) : m ≤ n := by
  -- The word says which letter is broken, so the two cascades agree for as long as both go on.
  induction h generalizing n with
  | refl w => exact Nat.zero_le n
  | step hshort hborrow _ ih =>
    cases h' with
    | refl => exact absurd hborrow (hend _ hshort)
    | step _ hborrow' hrest =>
      rw [hborrow] at hborrow'
      cases hborrow'
      exact Nat.succ_le_succ (ih hrest)

theorem Cascade.kept (h : Cascade s need w n v) : Kept s w v := by
  induction h with
  | refl w => exact Kept.refl s w
  | step _ hborrow _ ih => exact (kept_of_borrow hborrow).trans ih

/-! ### The limits -/

theorem Cascade.cascading (h : Cascade s need w n v) (hw : Cascading s need w) : Cascading s need v := by
  induction h with
  | refl w => exact hw
  | step hshort hborrow _ ih =>
    obtain ⟨higher, lower, count, hbreaks⟩ := borrow_eq_ok hborrow
    exact ih (hbreaks.cascading hshort hw)

/-- An excess is broken before the loop has enough, so once it has, there is none. -/
theorem Cascade.count_le_of_enough (h : Cascade s need w n v) (henough : need ≤ v.count s)
    (hw : ∀ x limit, s.tier < x.tier → x.limit? = some limit → w.count x ≤ limit) :
    ∀ x limit, s.tier < x.tier → x.limit? = some limit → v.count x ≤ limit := by
  intro x limit habove hlimit
  have hcascading := h.cascading fun y bound hy hbound => .inl (hw y bound hy hbound)
  rcases hcascading x limit habove hlimit with hle | ⟨_, hshort, _⟩
  · exact hle
  · omega

theorem Cascade.count_le_max {limit bound : Nat} (h : Cascade s need w n v) (hlimit : s.limit? = some limit)
    (hw : w.count s ≤ max bound (need + limit)) : v.count s ≤ max bound (need + limit) := by
  induction h with
  | refl w => exact hw
  | step hshort hborrow _ ih =>
    obtain ⟨higher, lower, count, hbreaks⟩ := borrow_eq_ok hborrow
    exact ih (hbreaks.count_le hshort hlimit hw)

/-! ### The end of the loop -/

/-- The loop fails exactly where the letters from `s` up are worth too little. -/
theorem borrowUntil_eq_error_iff (s : Symbol) (need : Nat) (w : Numeral) (e : NumeralError) :
    borrowUntil s need w = .error e ↔
      value (lettersFrom s w) < need * s.value ∧ e = .insufficientMagnitude := by
  obtain ⟨n, v, hcascade, hend⟩ := exists_cascade s need w
  -- From here on it is the last word of the cascade that is weighed, and no longer the first.
  rw [← hcascade.kept.value_lettersFrom_eq]
  rcases hend with ⟨henough, hok⟩ | ⟨hshort, hborrow, herror⟩
  · have hle : need * s.value ≤ value (lettersFrom s v) :=
      (Nat.mul_le_mul_right s.value henough).trans (count_mul_value_le s v)
    have hnot : ¬ value (lettersFrom s v) < need * s.value := Nat.not_lt.mpr hle
    simp [hok, hnot]
  · have hlt : value (lettersFrom s v) < need * s.value := by
      rw [lettersFrom_eq_replicate (borrow_eq_error hborrow).2, value_replicate]
      exact Nat.mul_lt_mul_of_pos_right hshort s.value_pos
    simp [herror, hlt, eq_comm]

/-- **The loop at one tier ends**: after as many breakings as it has taken off the weight, and no cascade
from the word is longer. Each breaking keeps the value, the letters below `s` and the order. The loop fails
if and only if the letters from `s` up are worth less than the copies of `s` that are needed. And if it
succeeds on a word whose letters are all within their limits, then all letters above `s` are so again, and
the copies of `s` are no more than what is needed and the limit together, unless there were more before. -/
theorem borrowUntil_ends (s : Symbol) (need : Nat) (w : Numeral) :
    (∃ n v, Cascade s need w n v ∧ weight v + n = weight w ∧ (∀ m u, Cascade s need w m u → m ≤ n) ∧
        (need ≤ v.count s ∧ borrowUntil s need w = .ok v ∨
          v.count s < need ∧ borrow s v = .error .insufficientMagnitude ∧
            borrowUntil s need w = .error .insufficientMagnitude)) ∧
      (∀ v broken, borrow s v = .ok broken → Kept s v broken) ∧
      (∀ e, borrowUntil s need w = .error e ↔
        value (lettersFrom s w) < need * s.value ∧ e = .insufficientMagnitude) ∧
      ((∀ x limit, x.limit? = some limit → w.count x ≤ limit) →
        ∀ limit r, s.limit? = some limit → borrowUntil s need w = .ok r →
          (∀ x bound, s.tier < x.tier → x.limit? = some bound → r.count x ≤ bound) ∧
            r.count s ≤ max (w.count s) (need + limit)) := by
  refine ⟨?_, fun _ _ => kept_of_borrow, borrowUntil_eq_error_iff s need w, fun hw limit r hlimit hr => ?_⟩
  · obtain ⟨n, v, hcascade, hend⟩ := exists_cascade s need w
    refine ⟨n, v, hcascade, hcascade.weight_add, fun m u hu => ?_, hend⟩
    refine hu.le_of_end hcascade fun broken hshort hborrow => ?_
    rcases hend with ⟨henough, _⟩ | ⟨_, herror, _⟩
    · omega
    · rw [hborrow] at herror
      cases herror
  · obtain ⟨henough, n, hcascade⟩ := exists_cascade_of_ok hr
    refine ⟨hcascade.count_le_of_enough henough fun x bound _ => hw x bound, ?_⟩
    exact hcascade.count_le_max hlimit (Nat.le_max_left _ _)

/-- To make two tens of a thousand, letters of four tiers are broken, and nothing happens to the nine that
stands behind it. Of the letters that were left behind on the way none is above its limit. -/
theorem borrowUntil_ends_thousand_nine :
    (∀ x limit, Symbol.limit? x = some limit → List.count x [Symbol.M, .V, .I, .I, .I, .I] ≤ limit) ∧
      ∃ n r, Cascade .X 2 [.M, .V, .I, .I, .I, .I] n r ∧ 4 ≤ n ∧
        borrowUntil .X 2 [.M, .V, .I, .I, .I, .I] = .ok r ∧ value r = 1009 ∧
        (∀ x bound, 2 < x.tier → x.limit? = some bound → r.count x ≤ bound) ∧ r.count .X ≤ 6 := by
  have hlimits : ∀ x limit, Symbol.limit? x = some limit →
      List.count x [Symbol.M, .V, .I, .I, .I, .I] ≤ limit := by
    intro x limit h
    cases x <;> cases h <;> decide
  have hfour : Cascade .X 2 [.M, .V, .I, .I, .I, .I] 4
      [.D, .C, .C, .C, .C, .L, .X, .X, .X, .X, .X, .V, .I, .I, .I, .I] :=
    .step (by decide) rfl (.step (by decide) rfl (.step (by decide) rfl (.step (by decide) rfl (.refl _))))
  obtain ⟨⟨n, r, hcascade, _, hlongest, hend⟩, _, hfails, hlimited⟩ :=
    borrowUntil_ends .X 2 [.M, .V, .I, .I, .I, .I]
  have hok : borrowUntil .X 2 [.M, .V, .I, .I, .I, .I] = .ok r := by
    rcases hend with ⟨_, hok⟩ | ⟨_, _, herror⟩
    · exact hok
    · exact absurd ((hfails _).mp herror).1 (by decide)
  obtain ⟨habove, hcount⟩ := hlimited hlimits 4 r rfl hok
  exact ⟨hlimits, n, r, hcascade, hlongest 4 _ hfour, hok, hcascade.kept.value_eq, habove, hcount⟩

end Roman.Numeral
