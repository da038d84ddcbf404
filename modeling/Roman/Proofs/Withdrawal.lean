import Roman.Proofs.Cascade
import Roman.Proofs.Outcome
/-!
# Taking letters away from a collapsed word

The tiers are filled from the lowest up. A tier that has been filled keeps at most its limit more than
is to be taken from it, and those surpluses together are worth less than one letter of the next tier.
So when a tier cannot be filled, the whole word is worth less than what is to be taken: low letters in
excess never hide a shortage higher up, and a shortage of one letter is never one of the whole word.
-/

namespace Roman.Numeral

/-- The tiers below `k` hold what is to be taken, and the rest is as a collapsed word has it. -/
structure Filled (w taken : Numeral) (k : Nat) (v : Numeral) : Prop where
  value_eq : value v = value w
  descending : Descending v
  enough : ∀ x, x.tier < k → taken.count x ≤ v.count x
  surplus_le : ∀ x limit, x.tier < k → x.limit? = some limit → v.count x ≤ taken.count x + limit
  count_le : ∀ x limit, k ≤ x.tier → x.limit? = some limit → v.count x ≤ limit

theorem Collapsed.filled {w : Numeral} (hw : Collapsed w) (taken : Numeral) : Filled w taken 0 w where
  value_eq := rfl
  descending := hw.descending
  enough _ hx := absurd hx (Nat.not_lt_zero _)
  surplus_le _ _ hx _ := absurd hx (Nat.not_lt_zero _)
  count_le x limit _ hlimit := hw.count_le x limit hlimit

/-- A word with nothing in excess above `s`, too few `s`, and small surpluses below is worth too little. -/
theorem value_lt_of_count_lt {s : Symbol} {v taken : Numeral}
    (hsurplus : ∀ x limit, x.tier < s.tier → x.limit? = some limit → v.count x ≤ taken.count x + limit)
    (hshort : v.count s < taken.count s) (habove : ∀ x, s.tier < x.tier → v.count x ≤ taken.count x) :
    value v < value taken := by
  have hI := hsurplus .I 4
  have hV := hsurplus .V 1
  have hX := hsurplus .X 4
  have hL := hsurplus .L 1
  have hC := hsurplus .C 4
  have hD := hsurplus .D 1
  have hV' := habove .V
  have hX' := habove .X
  have hL' := habove .L
  have hC' := habove .C
  have hD' := habove .D
  have hM' := habove .M
  rw [value_eq_counts, value_eq_counts]
  cases s <;> simp [Symbol.tier, Symbol.limit?] at hI hV hX hL hC hD hV' hX' hL' hC' hD' hM' <;> omega

theorem eq_or_tier_lt {x s : Symbol} (h : x.tier < s.tier + 1) : x = s ∨ x.tier < s.tier := by
  rcases Nat.eq_or_lt_of_le (Nat.le_of_lt_succ h) with heq | hlt
  · exact .inl (Symbol.tier_injective heq)
  · exact .inr hlt

/-- **Filling one tier.** It fails only if the whole word is worth less than what is to be taken. -/
theorem Filled.step {w taken v : Numeral} {s : Symbol} (hv : Filled w taken s.tier v) :
    (∃ r, borrowUntil s (taken.count s) v = .ok r ∧ Filled w taken (s.tier + 1) r) ∨
      (borrowUntil s (taken.count s) v = .error .insufficientMagnitude ∧ value w < value taken) := by
  obtain ⟨_, u, hcascade, ⟨henough, hok⟩ | ⟨hshort, hborrow, herror⟩⟩ := exists_cascade s (taken.count s) v
  · have hkept := hcascade.kept
    refine .inl ⟨u, hok, hkept.value_eq.trans hv.value_eq, hkept.descending hv.descending, fun x hx => ?_,
      fun x limit hx hlimit => ?_, ?_⟩
    · rcases eq_or_tier_lt hx with rfl | hlt
      · exact henough
      · rw [hkept.count_eq hlt]
        exact hv.enough x hlt
    · rcases eq_or_tier_lt hx with rfl | hlt
      · have hbound := hcascade.count_le_max hlimit (Nat.le_max_left _ _)
        have hbefore := hv.count_le x limit (Nat.le_refl _) hlimit
        omega
      · rw [hkept.count_eq hlt]
        exact hv.surplus_le x limit hlt hlimit
    · exact hcascade.count_le_of_enough henough fun x limit hx => hv.count_le x limit (Nat.le_of_lt hx)
  · have hkept := hcascade.kept
    refine .inr ⟨herror, ?_⟩
    rw [← hv.value_eq, ← hkept.value_eq]
    refine value_lt_of_count_lt (fun x limit hx hlimit => ?_) hshort fun x hx => ?_
    · rw [hkept.count_eq hx]
      exact hv.surplus_le x limit hx hlimit
    · rw [(borrow_eq_error hborrow).2 x hx]
      exact Nat.zero_le _

theorem tier_of_getElem? {k : Nat} {s : Symbol} (h : Symbol.alphabet[k]? = some s) : s.tier = k := by
  obtain ⟨hk, rfl⟩ := List.getElem?_eq_some_iff.mp h
  revert k
  decide

/-- The first letter from a tier on, and the letters behind it. -/
theorem tier_of_cons_eq_drop {k : Nat} {s : Symbol} {l : List Symbol}
    (h : s :: l = Symbol.alphabet.drop k) : s.tier = k ∧ l = Symbol.alphabet.drop (k + 1) := by
  constructor
  · apply tier_of_getElem?
    rw [← List.head?_drop, ← h]
    rfl
  · rw [← List.tail_drop, ← h]
    rfl

theorem Filled.run {w taken : Numeral} (l : List Symbol) (k : Nat) (v : Numeral)
    (hl : l = Symbol.alphabet.drop k) (hv : Filled w taken k v) :
    (∃ r, l.foldlM (fun v s => borrowUntil s (taken.count s) v) v = .ok r ∧ Filled w taken 7 r) ∨
      (l.foldlM (fun v s => borrowUntil s (taken.count s) v) v = .error .insufficientMagnitude ∧
        value w < value taken) := by
  induction l generalizing k v with
  | nil =>
    have hk : 7 ≤ k := List.drop_eq_nil_iff.mp hl.symm
    refine .inl ⟨v, rfl, hv.value_eq, hv.descending, fun x hx => ?_, fun x limit hx => ?_,
      fun x limit hx => ?_⟩
    · exact hv.enough x (by omega)
    · exact hv.surplus_le x limit (by omega)
    · exact absurd x.tier_lt_seven (by omega)
  | cons s l ih =>
    obtain ⟨rfl, hrest⟩ := tier_of_cons_eq_drop hl
    rw [List.foldlM_cons]
    rcases hv.step with ⟨r, hok, hr⟩ | ⟨herror, hlt⟩
    · rw [hok]
      exact ih (s.tier + 1) r hrest hr
    · rw [herror]
      exact .inr ⟨rfl, hlt⟩

theorem strike_eq_ok {w : Numeral} {s : Symbol} (hs : s ∈ w) :
    ∃ r, strike w s = .ok r ∧ r.Sublist w ∧ ∀ x, r.count x + [s].count x = w.count x := by
  obtain ⟨r, hr⟩ := exists_replaceLast? hs []
  refine ⟨r, by rw [strike, hr], ?_⟩
  obtain ⟨before, after, rfl, _, rfl⟩ := replaceLast?_eq_some hr
  rw [List.append_nil]
  constructor
  · exact List.Sublist.append_left (List.sublist_cons_self s after) before
  · intro x
    simp only [List.count_append, List.count_cons, List.count_nil]
    omega

theorem foldlM_strike {taken w : Numeral} (h : ∀ x, taken.count x ≤ w.count x) :
    ∃ r, taken.foldlM strike w = .ok r ∧ r.Sublist w ∧ ∀ x, r.count x + taken.count x = w.count x := by
  induction taken generalizing w with
  | nil => exact ⟨w, rfl, List.Sublist.refl w, fun x => by simp⟩
  | cons s taken ih =>
    have hs : s ∈ w := by
      have := h s
      rw [List.count_cons_self] at this
      exact List.count_pos_iff.mp (by omega)
    obtain ⟨struck, hstrike, hsub, hcount⟩ := strike_eq_ok hs
    have hrest : ∀ x, taken.count x ≤ struck.count x := by
      intro x
      have hx := h x
      have := hcount x
      simp only [List.count_cons, List.count_nil] at hx this
      omega
    obtain ⟨r, hr, hsub', hcount'⟩ := ih hrest
    refine ⟨r, ?_, hsub'.trans hsub, fun x => ?_⟩
    · rw [List.foldlM_cons, hstrike]
      exact hr
    · have hx := hcount x
      have hx' := hcount' x
      simp only [List.count_cons, List.count_nil] at hx ⊢
      omega

/-- **Withdrawal from a collapsed word** is subtraction of values, and leaves a collapsed word. -/
theorem withdraw_cases {w : Numeral} (hw : Collapsed w) (taken : Numeral) :
    (∃ r, withdraw w taken = .ok r ∧ Collapsed r ∧ value r + value taken = value w) ∨
      (withdraw w taken = .error .insufficientMagnitude ∧ value w < value taken) := by
  unfold withdraw
  rcases (hw.filled taken).run Symbol.alphabet 0 w rfl with ⟨v, hok, hv⟩ | ⟨herror, hlt⟩
  · left
    rw [hok]
    obtain ⟨r, hr, hsub, hcount⟩ := foldlM_strike fun x => hv.enough x x.tier_lt_seven
    refine ⟨r, hr, ⟨hv.descending.sublist hsub, fun s limit hlimit => ?_⟩, ?_⟩
    · have := hv.surplus_le s limit s.tier_lt_seven hlimit
      have := hcount s
      omega
    · rw [← hv.value_eq, value_eq_counts r, value_eq_counts taken, value_eq_counts v]
      simp only [← hcount]
      omega
  · right
    rw [herror]
    exact ⟨rfl, hlt⟩

theorem withdraw_eq_ok {w taken : Numeral} (hw : Collapsed w) (hle : value taken ≤ value w) :
    ∃ r, withdraw w taken = .ok r ∧ Collapsed r ∧ value r + value taken = value w := by
  rcases withdraw_cases hw taken with h | ⟨_, hlt⟩
  · exact h
  · omega

theorem withdraw_eq_error {w taken : Numeral} (hw : Collapsed w) (hlt : value w < value taken) :
    withdraw w taken = .error .insufficientMagnitude := by
  rcases withdraw_cases hw taken with ⟨r, _, _, hvalue⟩ | ⟨herror, _⟩
  · omega
  · exact herror

/-! ### Words that are not collapsed -/

theorem atMostShort_borrowUntil (s : Symbol) (need : Nat) (w : Numeral) :
    AtMostShort (borrowUntil s need w) := by
  intro e he
  exact ((borrowUntil_eq_error_iff s need w e).mp he).2

theorem atMostShort_strike (w : Numeral) (s : Symbol) : AtMostShort (strike w s) := by
  intro e he
  unfold strike at he
  split at he <;> cases he
  rfl

theorem atMostShort_withdraw (w taken : Numeral) : AtMostShort (withdraw w taken) :=
  (AtMostShort.foldlM (fun v s => atMostShort_borrowUntil s (taken.count s) v) Symbol.alphabet w).bind
    fun v => AtMostShort.foldlM atMostShort_strike taken v

/-- Letters below everything that is taken away are neither broken nor made. -/
theorem count_eq_of_withdraw {w taken r : Numeral} {t : Nat} (h : withdraw w taken = .ok r)
    (htaken : ∀ x ∈ taken, t ≤ x.tier) {x : Symbol} (hx : x.tier < t) : r.count x = w.count x := by
  obtain ⟨v, hborrow, hstrike⟩ := except_bind_eq_ok h
  have hv : v.count x = w.count x := by
    refine foldlM_invariant (P := fun u => u.count x = w.count x) ?_ hborrow rfl
    intro s _ u u' hstep hu
    by_cases hs : t ≤ s.tier
    · obtain ⟨_, _, hcascade⟩ := exists_cascade_of_ok hstep
      rw [hcascade.kept.count_eq (by omega), hu]
    · have hnone : taken.count s = 0 := List.count_eq_zero.mpr fun hmem => hs (htaken s hmem)
      rw [hnone, borrowUntil_of_le (Nat.zero_le _)] at hstep
      cases hstep
      exact hu
  rw [← hv]
  refine foldlM_invariant (P := fun u => u.count x = v.count x) ?_ hstrike rfl
  intro s hs u u' hstep hu
  have hne : s ≠ x := by
    intro heq
    subst heq
    have := htaken s hs
    omega
  unfold strike at hstep
  split at hstep <;> cases hstep
  next hreplace =>
    obtain ⟨before, after, rfl, _, rfl⟩ := replaceLast?_eq_some hreplace
    rw [← hu]
    simp only [List.count_append, List.count_cons, List.count_nil, beq_iff_eq, hne, if_false]
    omega

end Roman.Numeral
