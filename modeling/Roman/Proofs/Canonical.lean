import Roman.Proofs.Contraction
/-!
# The canonical form is the standard numeral

Collapsing carries, as on an abacus: what a letter has too many of moves up one tier, and the tiers are
visited from the lowest up, so that nothing is left to carry. Writing fours and nines by subtraction
then deals with one decimal digit at a time. Both steps are computed on the numbers of the letters,
and neither depends on how the additive word was come by.
-/

namespace Roman

namespace Contraction

theorem once?_run_append {c : Contraction} (w : Numeral) : c.once? (c.run ++ w) = some (c.brief ++ w) := by
  obtain ⟨x, run, hrun⟩ := List.exists_cons_of_ne_nil c.run_ne_nil
  have hprefix : c.run.isPrefixOf (x :: (run ++ w)) = true := by
    rw [List.isPrefixOf_iff_prefix, ← List.cons_append, ← hrun]
    exact List.prefix_append _ _
  have hdrop : (x :: (run ++ w)).drop c.run.length = w := by
    rw [← List.cons_append, ← hrun, List.drop_left]
  conv_lhs => rw [hrun, List.cons_append]
  rw [once?, if_pos hprefix, hdrop]

theorem once?_of_length_lt {c : Contraction} {w : Numeral} (h : w.length < c.run.length) :
    c.once? w = none := by
  induction w with
  | nil => rfl
  | cons x w ih =>
    have hnot : c.run.isPrefixOf (x :: w) = false := by
      rw [Bool.eq_false_iff]
      intro hprefix
      have hle := (List.isPrefixOf_iff_prefix.mp hprefix).length_le
      omega
    rw [once?, hnot, ih (Nat.lt_of_succ_lt h)]
    rfl

/-- Equal letters are contracted as long as there are enough of them. -/
theorem exhaust_replicate {c : Contraction} {s lower : Symbol} {count : Nat}
    (hrun : c.run = List.replicate count lower) (hbrief : c.brief = [s]) (hne : lower ≠ s) (n : Nat) :
    c.exhaust (List.replicate n lower)
      = List.replicate (n / count) s ++ List.replicate (n % count) lower := by
  have hcount : 1 < count := by simpa [hrun, hbrief] using c.shorter
  induction n using Nat.strong_induction_on with
  | _ n ih =>
    by_cases hn : n < count
    · rw [exhaust_of_none (once?_of_length_lt (by simpa [hrun] using hn)), Nat.div_eq_of_lt hn,
        Nat.mod_eq_of_lt hn]
      rfl
    · have hsplit : List.replicate n lower = c.run ++ List.replicate (n - count) lower := by
        rw [hrun, ← List.replicate_add]
        congr 1
        omega
      have hhead : c.run.head? = some lower := by
        rw [hrun, List.head?_replicate, if_neg (by omega)]
      have hmiddle := exhaust_middle hhead (show lower ∉ [s] by simpa using hne)
        (show ∀ x ∈ c.run, x ∉ ([] : Numeral) by simp) (List.replicate (n - count) lower)
      have hquotient : n / count = (n - count) / count + 1 := by
        rw [Nat.div_eq_sub_div (by omega) (by omega)]
      have hremainder : n % count = (n - count) % count := Nat.mod_eq_sub_mod (by omega)
      simp only [List.append_nil] at hmiddle
      rw [hsplit, exhaust_of_some (once?_run_append _), hbrief, hmiddle, ih (n - count) (by omega),
        hquotient, hremainder, List.replicate_succ]
      rfl

end Contraction

namespace Numeral

/-- What is too much of the lower letter moves up as copies of the higher. -/
def carry (s lower : Symbol) (count : Nat) (f : Symbol → Nat) : Symbol → Nat := fun x =>
  if x = lower then f lower % count else if x = s then f s + f lower / count else f x

theorem descending_around {s lower : Symbol} {count : Nat} (h : s.expansion? = some (lower, count)) :
    ∃ high low : List Symbol, Symbol.descending = high ++ ([s] ++ ([lower] ++ low)) ∧
      (∀ x ∈ high, x ≠ s ∧ x ≠ lower) ∧ (∀ x ∈ low, x ≠ s ∧ x ≠ lower) := by
  refine ⟨s.above.reverse, (Symbol.alphabet.take lower.tier).reverse, ?_⟩
  cases s <;> simp only [Symbol.expansion?, Option.some.injEq, Prod.mk.injEq, reduceCtorEq] at h <;>
    obtain ⟨rfl, rfl⟩ := h <;> decide

theorem flatMap_carry {s lower : Symbol} {count : Nat} {l : List Symbol} (f : Symbol → Nat)
    (hl : ∀ x ∈ l, x ≠ s ∧ x ≠ lower) :
    (l.flatMap fun x => List.replicate (carry s lower count f x) x)
      = l.flatMap fun x => List.replicate (f x) x := by
  refine List.flatMap_congr fun x hx => ?_
  rw [carry, if_neg (hl x hx).2, if_neg (hl x hx).1]

/-- **One tier of collapsing is one carry.** -/
theorem exhaust_ofCounts {c : Contraction} {s lower : Symbol} {count : Nat}
    (hexpansion : s.expansion? = some (lower, count)) (hrun : c.run = List.replicate count lower)
    (hbrief : c.brief = [s]) (f : Symbol → Nat) :
    c.exhaust (ofCounts f) = ofCounts (carry s lower count f) := by
  obtain ⟨high, low, hdescending, hhigh, hlow⟩ := descending_around hexpansion
  have hne : lower ≠ s := by
    intro heq
    subst heq
    have := (Symbol.value_of_expansion? hexpansion).1
    omega
  have hcount : 1 < count := Symbol.one_lt_of_expansion? hexpansion
  have hhead : c.run.head? = some lower := by
    rw [hrun, List.head?_replicate, if_neg (by omega)]
  have hleft : lower ∉ (high.flatMap fun x => List.replicate (f x) x) ++ List.replicate (f s) s := by
    simp only [List.mem_append, List.mem_flatMap, List.mem_replicate, not_or, not_exists, not_and]
    exact ⟨fun x hx _ he => (hhigh x hx).2 he.symm, fun _ he => hne he⟩
  have hright : ∀ x ∈ c.run, x ∉ low.flatMap fun x => List.replicate (f x) x := by
    intro x hx
    rw [hrun] at hx
    rw [List.eq_of_mem_replicate hx]
    simp only [List.mem_flatMap, List.mem_replicate, not_exists, not_and]
    exact fun y hy _ he => (hlow y hy).2 he.symm
  have hmiddle := Contraction.exhaust_middle hhead hleft hright (List.replicate (f lower) lower)
  rw [Contraction.exhaust_replicate hrun hbrief hne] at hmiddle
  have hs : carry s lower count f s = f s + f lower / count := by
    rw [carry, if_neg hne.symm, if_pos rfl]
  have hlower : carry s lower count f lower = f lower % count := by
    rw [carry, if_pos rfl]
  simp only [ofCounts, hdescending, List.flatMap_append, List.flatMap_singleton, flatMap_carry f hhigh,
    flatMap_carry f hlow, hs, hlower, List.replicate_add, List.append_assoc] at hmiddle ⊢
  exact hmiddle

theorem value_carry {s lower : Symbol} {count : Nat} (h : s.expansion? = some (lower, count))
    (f : Symbol → Nat) : value (ofCounts (carry s lower count f)) = value (ofCounts f) := by
  simp only [value_eq_counts, count_ofCounts]
  cases s <;> simp only [Symbol.expansion?, Option.some.injEq, Prod.mk.injEq, reduceCtorEq] at h <;>
    obtain ⟨rfl, rfl⟩ := h <;> simp only [carry, reduceIte, reduceCtorEq] <;> omega

theorem additive_eq_ofCounts {w a : Numeral} (h : additive w = .ok a) : a = ofCounts a.count := by
  unfold additive at h
  cases hresolve : resolve Symbol.descending w with
  | error e => rw [hresolve] at h; cases h
  | ok resolved =>
    rw [hresolve] at h
    cases h
    exact ((descending_gather resolved).gather_eq).symm

/-- The numbers of letters once every tier has been carried, from the lowest up. -/
def carryAll (f : Symbol → Nat) : Symbol → Nat :=
  carry .M .D 2 (carry .D .C 5 (carry .C .L 2 (carry .L .X 5 (carry .X .V 2 (carry .V .I 5 f)))))

theorem exhaustAll_collapsing (f : Symbol → Nat) :
    Contraction.exhaustAll (Symbol.alphabet.filterMap Contraction.collapsing?) (ofCounts f)
      = ofCounts (carryAll f) := by
  simp only [Contraction.exhaustAll, Symbol.alphabet, List.filterMap_cons, List.filterMap_nil,
    Contraction.collapsing?, Symbol.expansion?, List.foldl_cons, List.foldl_nil]
  rw [exhaust_ofCounts (s := .V) rfl rfl rfl, exhaust_ofCounts (s := .X) rfl rfl rfl,
    exhaust_ofCounts (s := .L) rfl rfl rfl, exhaust_ofCounts (s := .C) rfl rfl rfl,
    exhaust_ofCounts (s := .D) rfl rfl rfl, exhaust_ofCounts (s := .M) rfl rfl rfl]
  rfl

theorem value_carryAll (f : Symbol → Nat) : value (ofCounts (carryAll f)) = value (ofCounts f) := by
  rw [carryAll, value_carry (s := .M) rfl, value_carry (s := .D) rfl, value_carry (s := .C) rfl,
    value_carry (s := .L) rfl, value_carry (s := .X) rfl, value_carry (s := .V) rfl]

theorem collapsed_carryAll (f : Symbol → Nat) : Collapsed (ofCounts (carryAll f)) := by
  constructor
  · exact descending_ofCounts _
  · intro s limit hlimit
    rw [count_ofCounts]
    cases s <;> cases hlimit <;> simp only [carryAll, carry, reduceIte, reduceCtorEq] <;> omega

/-- **Collapsing** keeps the value, and nothing is left that makes up a higher letter. -/
theorem collapse_eq_ok {w a : Numeral} (h : additive w = .ok a) :
    ∃ r, collapse w = .ok r ∧ Collapsed r ∧ value r = value a := by
  refine ⟨ofCounts (carryAll a.count), ?_, collapsed_carryAll _, ?_⟩
  · rw [collapse, h, ← exhaustAll_collapsing, ← additive_eq_ofCounts h]
    rfl
  · rw [value_carryAll, ← additive_eq_ofCounts h]

/-! ### Decimal digits -/

/-- A decimal digit in the letters for one, five and ten. -/
def digit (one five ten : Symbol) : Nat → Numeral
  | 1 => [one]
  | 2 => [one, one]
  | 3 => [one, one, one]
  | 4 => [one, five]
  | 5 => [five]
  | 6 => [five, one]
  | 7 => [five, one, one]
  | 8 => [five, one, one, one]
  | 9 => [one, ten]
  | _ => []

/-- The standard numeral of a quantity: the thousands, and then one group of letters for each of the
three lower decimal digits. -/
def standard (q : Nat) : Numeral :=
  List.replicate (q / 1000) .M ++ (digit .C .D .M (q / 100 % 10) ++
    (digit .X .L .C (q / 10 % 10) ++ digit .I .V .X (q % 10)))

theorem mem_digit {one five ten x : Symbol} {k : Nat} (h : x ∈ digit one five ten k) :
    x = one ∨ x = five ∨ x = ten := by
  unfold digit at h
  split at h <;> simp at h <;> tauto

/-- The two contractions of a tier write one digit. -/
theorem exhaust_digit {nine four : Contraction} {one five ten : Symbol} {f o : Nat}
    (hnine : nine.run = [five, one, one, one, one]) (hten : nine.brief = [one, ten])
    (hfour : four.run = [one, one, one, one]) (hfive : four.brief = [one, five])
    (hne : one ≠ five) (hf : f ≤ 1) (ho : o ≤ 4) :
    four.exhaust (nine.exhaust (List.replicate f five ++ List.replicate o one))
      = digit one five ten (5 * f + o) := by
  have hfourNone : ∀ w : Numeral, w.length < 4 → four.exhaust w = w := fun w hw =>
    Contraction.exhaust_of_none (Contraction.once?_of_length_lt (by simpa [hfour] using hw))
  have hnineNone : ∀ w : Numeral, w.length < 5 → nine.exhaust w = w := fun w hw =>
    Contraction.exhaust_of_none (Contraction.once?_of_length_lt (by simpa [hnine] using hw))
  by_cases hfourOnes : o = 4
  · subst hfourOnes
    obtain rfl | rfl : f = 0 ∨ f = 1 := by omega
    · have hrun : List.replicate 0 five ++ List.replicate 4 one = four.run ++ [] := by
        rw [hfour]
        rfl
      rw [hnineNone _ (by simp), hrun, Contraction.exhaust_of_some (Contraction.once?_run_append _),
        hfive, hfourNone _ (by simp)]
      rfl
    · have hrun : List.replicate 1 five ++ List.replicate 4 one = nine.run ++ [] := by
        rw [hnine]
        rfl
      rw [hrun, Contraction.exhaust_of_some (Contraction.once?_run_append _), hten,
        hnineNone _ (by simp), hfourNone _ (by simp)]
      rfl
  · have hhead : four.run.head? = some one := by rw [hfour]; rfl
    have hmiddle := Contraction.exhaust_middle hhead
      (show one ∉ List.replicate f five from fun hmem => hne (List.eq_of_mem_replicate hmem))
      (show ∀ x ∈ four.run, x ∉ ([] : Numeral) by simp) (List.replicate o one)
    simp only [List.append_nil] at hmiddle
    rw [hnineNone _ (by simp; omega), hmiddle, hfourNone _ (by simp; omega)]
    obtain rfl | rfl : f = 0 ∨ f = 1 := by omega
    all_goals
      obtain rfl | rfl | rfl | rfl : o = 0 ∨ o = 1 ∨ o = 2 ∨ o = 3 := by omega
      all_goals rfl

theorem exhaustAll_subtracting {one five ten : Symbol} {high low : Numeral} {f o : Nat}
    (hquintuple : one.isQuintuple = true) (hfive : one.higher? = some five)
    (hten : five.higher? = some ten) (hhigh : ∀ x ∈ high, x ≠ one ∧ x ≠ five)
    (hlow : ∀ x ∈ low, x ≠ one ∧ x ≠ five) (hf : f ≤ 1) (ho : o ≤ 4) :
    Contraction.exhaustAll (Contraction.subtracting one)
        (high ++ (List.replicate f five ++ List.replicate o one ++ low))
      = high ++ (digit one five ten (5 * f + o) ++ low) := by
  have hne : one ≠ five := by
    intro heq
    subst heq
    cases one <;> cases hfive
  have hlowNine : ∀ x ∈ [five, one, one, one, one], x ∉ low := by
    intro x hx hmem
    have := hlow x hmem
    simp only [List.mem_cons, List.not_mem_nil, or_false] at hx
    tauto
  have hlowFour : ∀ x ∈ [one, one, one, one], x ∉ low := fun x hx =>
    hlowNine x (List.mem_cons_of_mem five hx)
  have hhighNine : five ∉ high := fun hmem => (hhigh five hmem).2 rfl
  have hhighFour : one ∉ high := fun hmem => (hhigh one hmem).1 rfl
  rw [Contraction.subtracting, hquintuple, hfive]
  simp only [hten, Contraction.exhaustAll, List.foldl_cons, List.foldl_nil]
  rw [Contraction.exhaust_middle rfl hhighNine hlowNine,
    Contraction.exhaust_middle rfl hhighFour hlowFour, exhaust_digit rfl rfl rfl rfl hne hf ho]

/-- The three passes, the hundreds first. What is written for one digit is not touched again. -/
theorem exhaustAll_digits {m d c l x v i : Nat} (hd : d ≤ 1) (hc : c ≤ 4) (hl : l ≤ 1) (hx : x ≤ 4)
    (hv : v ≤ 1) (hi : i ≤ 4) :
    Contraction.exhaustAll (Symbol.descending.flatMap Contraction.subtracting)
        (List.replicate m Symbol.M ++ (List.replicate d Symbol.D ++ List.replicate c Symbol.C ++
          (List.replicate l Symbol.L ++ List.replicate x Symbol.X ++
            (List.replicate v Symbol.V ++ List.replicate i Symbol.I ++ []))))
      = List.replicate m Symbol.M ++ (digit .C .D .M (5 * d + c) ++
          (digit .X .L .C (5 * l + x) ++ digit .I .V .X (5 * v + i))) := by
  have hpasses : Symbol.descending.flatMap Contraction.subtracting
      = Contraction.subtracting .C ++ (Contraction.subtracting .X ++ Contraction.subtracting .I) := rfl
  have happend : ∀ (cs ds : List Contraction) (w : Numeral), Contraction.exhaustAll (cs ++ ds) w
      = Contraction.exhaustAll ds (Contraction.exhaustAll cs w) := fun _ _ _ => List.foldl_append
  rw [hpasses, happend, happend,
    exhaustAll_subtracting rfl rfl (show Symbol.higher? .D = some .M from rfl) ?_ ?_ hd hc,
    ← List.append_assoc,
    exhaustAll_subtracting rfl rfl (show Symbol.higher? .L = some .C from rfl) ?_ ?_ hl hx,
    ← List.append_assoc,
    exhaustAll_subtracting rfl rfl (show Symbol.higher? .V = some .X from rfl) ?_ ?_ hv hi]
  · simp only [List.append_assoc, List.append_nil]
  all_goals
    intro y hy
    grind [mem_digit]

/-- **The canonical word** of a collapsed one is the standard numeral of its value. -/
theorem exhaustAll_eq_standard {r : Numeral} (hr : Collapsed r) :
    Contraction.exhaustAll (Symbol.descending.flatMap Contraction.subtracting) r = standard (value r) := by
  have hI := hr.count_le .I 4 rfl
  have hV := hr.count_le .V 1 rfl
  have hX := hr.count_le .X 4 rfl
  have hL := hr.count_le .L 1 rfl
  have hC := hr.count_le .C 4 rfl
  have hD := hr.count_le .D 1 rfl
  have hvalue := value_eq_counts r
  have hthousands : value r / 1000 = r.count .M := by omega
  have hhundreds : value r / 100 % 10 = 5 * r.count .D + r.count .C := by omega
  have htens : value r / 10 % 10 = 5 * r.count .L + r.count .X := by omega
  have hunits : value r % 10 = 5 * r.count .V + r.count .I := by omega
  rw [standard, hthousands, hhundreds, htens, hunits, ← exhaustAll_digits hD hC hL hX hV hI]
  congr 1
  conv_lhs => rw [← hr.descending.gather_eq, gather_eq_ofCounts, ofCounts_eq]
  simp only [List.append_assoc, List.append_nil]

/-- Where there is an additive form, the canonical form is the standard numeral of its value. -/
theorem canonical_eq_ok {w a : Numeral} (h : additive w = .ok a) :
    canonical w = .ok (standard (value a)) := by
  obtain ⟨r, hcollapse, hr, hvalue⟩ := collapse_eq_ok h
  rw [canonical, hcollapse, ← hvalue, ← exhaustAll_eq_standard hr]
  rfl

end Numeral

end Roman
