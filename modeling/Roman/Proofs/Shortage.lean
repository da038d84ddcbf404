import Roman.Proofs.Difference
/-!
# When arithmetic fails

Every operation makes its operands additive first, and a subtraction then takes one of them away from
the other. These are the only places where anything can be short, however deep they lie: what the
operations hand on to one another is always in order and has a quantity. So an operation fails exactly
if an operand is not convertible or, in a subtraction, if the minuend is worth less.

Of the failures that are written down inside a subtraction, two never occur. Every letter that is found
above another one breaks, and a tier that has been filled up stays so while the tiers above it are
filled, so that every letter to be taken away is there.
-/

namespace Roman

variable {α β : Type} {x : Except NumeralError α} {p q : Prop}

/-- The outcome is a failure if and only if `p` holds, and there is one way to fail. -/
def ShortIff (x : Except NumeralError α) (p : Prop) : Prop :=
  ∀ e, x = .error e ↔ p ∧ e = .insufficientMagnitude

theorem ShortIff.ok (a : α) : ShortIff (.ok a) False := by
  intro e
  simp

theorem ShortIff.congr (hx : ShortIff x p) (h : p ↔ q) : ShortIff x q := by
  intro e
  rw [hx e, h]

theorem ShortIff.bind {f : α → Except NumeralError β} (hx : ShortIff x p)
    (hf : ∀ a, x = .ok a → ShortIff (f a) q) : ShortIff (x >>= f) (p ∨ q) := by
  intro e
  cases h : x with
  | error e' =>
    obtain ⟨hp, rfl⟩ := (hx e').mp h
    simp [hp, eq_comm]
  | ok a =>
    have hp : ¬ p := by
      intro hp
      have herror := (hx .insufficientMagnitude).mpr ⟨hp, rfl⟩
      rw [h] at herror
      cases herror
    rw [except_bind_ok, hf a h e]
    simp [hp]

/-- A step that cannot fail behind one that can. -/
theorem ShortIff.bind_of_ok {f : α → Except NumeralError β} (hx : ShortIff x p)
    (hf : ∀ a, x = .ok a → ShortIff (f a) False) : ShortIff (x >>= f) p :=
  (hx.bind hf).congr (or_false p).to_iff

theorem ShortIff.map (hx : ShortIff x p) (f : α → β) : ShortIff (x >>= fun a => .ok (f a)) p :=
  hx.bind_of_ok fun a _ => .ok (f a)

namespace Numeral

variable {v w taken : Numeral}

/-! ### The operations -/

theorem shortIff_additive (w : Numeral) : ShortIff (additive w) (¬ Convertible w) := by
  intro e
  rcases denotes_or_short w with ⟨q, a, ha, hvalue⟩ | hshort
  · have hw : Convertible w := ⟨q, a, ha, hvalue⟩
    simp [ha, hw]
  · have hw : ¬ Convertible w := fun ⟨q, hq⟩ => not_denotes_of_error hshort q hq
    simp [hshort, hw, eq_comm]

theorem shortIff_collapse (w : Numeral) : ShortIff (collapse w) (¬ Convertible w) :=
  (shortIff_additive w).map _

theorem shortIff_canonical (w : Numeral) : ShortIff (canonical w) (¬ Convertible w) :=
  (shortIff_collapse w).map _

theorem shortIff_canonical_of_descending (hw : Descending w) : ShortIff (canonical w) False := by
  have hconvertible : Convertible w := ⟨value w, hw.denotes⟩
  exact (shortIff_canonical w).congr (by simp [hconvertible])

theorem shortIff_equivalent (v w : Numeral) :
    ShortIff (equivalent v w) (¬ Convertible v ∨ ¬ Convertible w) :=
  (shortIff_canonical v).bind fun _ _ => (shortIff_canonical w).map _

theorem shortIff_compareTier (v w : Numeral) (s : Symbol) :
    ShortIff (compareTier v w s) (¬ Convertible v ∨ ¬ Convertible w) :=
  (shortIff_additive v).bind fun _ _ => (shortIff_additive w).map _

theorem shortIff_tierComparison (v w : Numeral) :
    ShortIff (tierComparison v w) (¬ Convertible v ∨ ¬ Convertible w) :=
  (shortIff_additive v).bind fun _ _ => (shortIff_additive w).map _

theorem shortIff_plus (v w : Numeral) : ShortIff (plus v w) (¬ Convertible v ∨ ¬ Convertible w) :=
  (shortIff_additive v).bind fun _ _ => (shortIff_additive w).map _

theorem descending_of_plus {r : Numeral} (h : plus v w = .ok r) : Descending r := by
  obtain ⟨a, _, h⟩ := except_bind_eq_ok h
  obtain ⟨b, _, h⟩ := except_bind_eq_ok h
  cases h
  exact descending_gather (a ++ b)

theorem shortIff_add (v w : Numeral) : ShortIff (add v w) (¬ Convertible v ∨ ¬ Convertible w) :=
  (shortIff_plus v w).bind_of_ok fun _ hr => shortIff_canonical_of_descending (descending_of_plus hr)

theorem shortIff_withdraw (hw : Collapsed w) (taken : Numeral) :
    ShortIff (withdraw w taken) (value w < value taken) := by
  intro e
  rcases withdraw_cases hw taken with ⟨r, hok, _, hvalue⟩ | ⟨hshort, hlt⟩
  · have hle : ¬ value w < value taken := by omega
    simp [hok, hle]
  · simp [hshort, hlt, eq_comm]

theorem collapsed_of_collapse {r : Numeral} (h : collapse w = .ok r) :
    Collapsed r ∧ value r = quantity w := by
  obtain ⟨a, ha, _⟩ := except_bind_eq_ok h
  obtain ⟨r', hr', hcollapsed, hvalue⟩ := collapse_eq_ok ha
  rw [h] at hr'
  cases hr'
  have hdenotes : Denotes w (value a) := ⟨a, ha, rfl⟩
  exact ⟨hcollapsed, hvalue.trans hdenotes.quantity_eq.symm⟩

theorem shortIff_minus (v w : Numeral) :
    ShortIff (minus v w) (¬ Convertible v ∨ ¬ Convertible w ∨ quantity v < quantity w) := by
  refine (shortIff_collapse v).bind fun c hc => (shortIff_additive w).bind fun b hb => ?_
  obtain ⟨hcollapsed, hvalue⟩ := collapsed_of_collapse hc
  have hdenotes : Denotes w (value b) := ⟨b, hb, rfl⟩
  rw [← hvalue, hdenotes.quantity_eq]
  exact shortIff_withdraw hcollapsed b

theorem descending_of_minus {r : Numeral} (h : minus v w = .ok r) : Descending r := by
  obtain ⟨c, hc, h⟩ := except_bind_eq_ok h
  obtain ⟨b, _, h⟩ := except_bind_eq_ok h
  obtain ⟨r', hr', hcollapsed, _⟩ | ⟨hshort, _⟩ := withdraw_cases (collapsed_of_collapse hc).1 b
  · rw [h] at hr'
    cases hr'
    exact hcollapsed.descending
  · rw [h] at hshort
    cases hshort

theorem shortIff_sub (v w : Numeral) :
    ShortIff (sub v w) (¬ Convertible v ∨ ¬ Convertible w ∨ quantity v < quantity w) :=
  (shortIff_minus v w).bind_of_ok fun _ hr => shortIff_canonical_of_descending (descending_of_minus hr)

/-! ### Inside a subtraction -/

theorem borrow_ne_unknownSymbol (s : Symbol) (w : Numeral) (c : Char) :
    borrow s w ≠ .error (.unknownSymbol c) := by
  intro h
  cases (borrow_eq_error h).1

/-- The first half of a withdrawal: every tier is filled up with as many letters as are to be taken. -/
def refill (w taken : Numeral) : Except NumeralError Numeral :=
  Symbol.alphabet.foldlM (fun w s => borrowUntil s (taken.count s) w) w

theorem withdraw_eq_refill (w taken : Numeral) :
    withdraw w taken = refill w taken >>= taken.foldlM strike :=
  rfl

theorem borrowUntil_eq_ok {s : Symbol} {need : Nat} {r : Numeral} (h : borrowUntil s need w = .ok r) :
    need ≤ r.count s ∧ ∀ x : Symbol, x.tier < s.tier → r.count x = w.count x := by
  obtain ⟨henough, _, hcascade⟩ := exists_cascade_of_ok h
  exact ⟨henough, fun x hx => hcascade.kept.count_eq hx⟩

/-- The tiers below `k` are filled up, and what is done to the tiers from `k` on leaves them so. -/
theorem count_le_of_foldlM_borrowUntil (l : List Symbol) (k : Nat) {w r : Numeral}
    (hl : l = Symbol.alphabet.drop k) (hw : ∀ x : Symbol, x.tier < k → taken.count x ≤ w.count x)
    (h : l.foldlM (fun w s => borrowUntil s (taken.count s) w) w = .ok r) (x : Symbol) :
    taken.count x ≤ r.count x := by
  induction l generalizing k w with
  | nil =>
    have hk : 7 ≤ k := List.drop_eq_nil_iff.mp hl.symm
    cases h
    exact hw x (x.tier_lt_seven.trans_le hk)
  | cons s l ih =>
    obtain ⟨rfl, hrest⟩ := tier_of_cons_eq_drop hl
    rw [List.foldlM_cons] at h
    obtain ⟨w', hfirst, h⟩ := except_bind_eq_ok h
    obtain ⟨henough, hbelow⟩ := borrowUntil_eq_ok hfirst
    refine ih (s.tier + 1) hrest (fun y hy => ?_) h
    rcases eq_or_tier_lt hy with rfl | hlt
    · exact henough
    · rw [hbelow y hlt]
      exact hw y hlt

/-- **What has been filled up can be taken away.** -/
theorem exists_strike_of_refill {filled : Numeral} (h : refill w taken = .ok filled) :
    ∃ r, taken.foldlM strike filled = .ok r := by
  have henough := count_le_of_foldlM_borrowUntil Symbol.alphabet 0 rfl
    (fun _ hx => absurd hx (Nat.not_lt_zero _)) h
  obtain ⟨r, hr, _⟩ := foldlM_strike henough
  exact ⟨r, hr⟩

/-- **Arithmetic fails in one way**, and exactly where an operand is not convertible or a minuend is
worth less than its subtrahend. No letter is ever found that does not break, and no letter is ever
missing where it is to be struck out. -/
theorem arithmetic_shortIff (v w : Numeral) :
    (ShortIff (additive v) (¬ Convertible v) ∧ ShortIff (collapse v) (¬ Convertible v) ∧
        ShortIff (canonical v) (¬ Convertible v)) ∧
      (ShortIff (equivalent v w) (¬ Convertible v ∨ ¬ Convertible w) ∧
        (∀ s, ShortIff (compareTier v w s) (¬ Convertible v ∨ ¬ Convertible w)) ∧
        ShortIff (tierComparison v w) (¬ Convertible v ∨ ¬ Convertible w) ∧
        ShortIff (plus v w) (¬ Convertible v ∨ ¬ Convertible w) ∧
        ShortIff (add v w) (¬ Convertible v ∨ ¬ Convertible w)) ∧
      (ShortIff (minus v w) (¬ Convertible v ∨ ¬ Convertible w ∨ quantity v < quantity w) ∧
        ShortIff (sub v w) (¬ Convertible v ∨ ¬ Convertible w ∨ quantity v < quantity w)) ∧
      (∀ s u c, borrow s u ≠ .error (.unknownSymbol c)) ∧
      ∀ u taken, withdraw u taken = refill u taken >>= taken.foldlM strike ∧
        ∀ filled, refill u taken = .ok filled → ∃ r, taken.foldlM strike filled = .ok r := by
  refine ⟨⟨shortIff_additive v, shortIff_collapse v, shortIff_canonical v⟩,
    ⟨shortIff_equivalent v w, shortIff_compareTier v w, shortIff_tierComparison v w,
      shortIff_plus v w, shortIff_add v w⟩,
    ⟨shortIff_minus v w, shortIff_sub v w⟩, borrow_ne_unknownSymbol, fun u taken => ?_⟩
  refine ⟨withdraw_eq_refill u taken, fun filled h => ?_⟩
  exact exists_strike_of_refill h

/-- To take one away from a thousand, letters of every higher tier are broken, and then there is one to
strike out. -/
theorem arithmetic_shortIff_thousand :
    ∃ filled r, refill [.M] [.I] = .ok filled ∧ [Symbol.I].foldlM strike filled = .ok r := by
  have henough : ¬ value [.M] < value [.I] := by decide
  obtain ⟨r, hr, _⟩ | ⟨_, hlt⟩ := withdraw_cases (collapsed_singleton .M) [.I]
  · obtain ⟨_, _, _, _, hinside⟩ := arithmetic_shortIff [.M] [.I]
    obtain ⟨heq, hstruck⟩ := hinside [.M] [.I]
    rw [heq] at hr
    obtain ⟨filled, hfilled, _⟩ := except_bind_eq_ok hr
    obtain ⟨r, hr⟩ := hstruck filled hfilled
    exact ⟨filled, r, hfilled, hr⟩
  · exact absurd hlt henough

end Numeral

end Roman
