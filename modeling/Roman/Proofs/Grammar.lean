import Mathlib.Computability.RegularExpressions
import Roman.Proofs.Standard
/-!
# The grammar of standard numerals

The standard numerals are the words of a regular expression: any number of thousands, and for each of
the lower decimal places a nine, a four, or at most one five and at most three ones. Each group of that
form is one decimal digit. So the words that are their own canonical form can be told by their letters
alone, and making a word canonical twice is the same as doing it once.
-/

namespace Roman.Numeral

open RegularExpression (char star)

/-- At most one letter. -/
def optional (s : Symbol) : RegularExpression Symbol := 1 + char s

/-- A decimal digit, written as a nine, as a four, or with a five and up to three ones. -/
def digitGrammar (one five ten : Symbol) : RegularExpression Symbol :=
  char one * char ten + char one * char five + optional five * optional one ^ 3

def grammar : RegularExpression Symbol :=
  star (char .M) * (digitGrammar .C .D .M * (digitGrammar .X .L .C * digitGrammar .I .V .X))

variable {s one five ten : Symbol} {w : Numeral}

theorem mem_char : w ∈ (char s).matches' ↔ w = [s] := Iff.rfl

theorem mem_pair : w ∈ (char one * char ten).matches' ↔ w = [one, ten] := by
  rw [RegularExpression.matches'_mul, Language.mem_mul]
  constructor
  · intro hw
    obtain ⟨u, hu, v, hv, rfl⟩ := hw
    rw [mem_char.mp hu, mem_char.mp hv]
    rfl
  · intro hw
    exact ⟨[one], mem_char.mpr rfl, [ten], mem_char.mpr rfl, hw.symm⟩

theorem mem_optional : w ∈ (optional s).matches' ↔ ∃ k ≤ 1, w = List.replicate k s := by
  rw [optional, RegularExpression.matches'_add, Language.mem_add, mem_char,
    RegularExpression.matches'_epsilon, Language.mem_one]
  constructor
  · rintro (rfl | rfl)
    · exact ⟨0, Nat.zero_le 1, rfl⟩
    · exact ⟨1, Nat.le_refl 1, rfl⟩
  · intro hw
    obtain ⟨k, hk, rfl⟩ := hw
    obtain rfl | rfl : k = 0 ∨ k = 1 := by omega
    · exact .inl rfl
    · exact .inr rfl

theorem mem_optional_pow (n : Nat) :
    w ∈ (optional s ^ n).matches' ↔ ∃ k ≤ n, w = List.replicate k s := by
  rw [RegularExpression.matches'_pow]
  induction n generalizing w with
  | zero =>
    rw [pow_zero, Language.mem_one]
    constructor
    · intro hw
      exact ⟨0, Nat.le_refl 0, hw⟩
    · intro hw
      obtain ⟨k, hk, rfl⟩ := hw
      rw [Nat.le_zero.mp hk]
      rfl
  | succ n ih =>
    rw [pow_succ, Language.mem_mul]
    constructor
    · intro hw
      obtain ⟨u, hu, v, hv, rfl⟩ := hw
      obtain ⟨k, hk, rfl⟩ := ih.mp hu
      obtain ⟨j, hj, rfl⟩ := mem_optional.mp hv
      exact ⟨k + j, by omega, List.replicate_append_replicate⟩
    · intro hw
      obtain ⟨k, hk, rfl⟩ := hw
      -- The last factor takes the copy beyond `n`, if there is one.
      have hk' : min k n + (k - n) = k := by omega
      refine ⟨List.replicate (min k n) s, ih.mpr ⟨_, Nat.min_le_right k n, rfl⟩,
        List.replicate (k - n) s, mem_optional.mpr ⟨_, by omega, rfl⟩, ?_⟩
      rw [List.replicate_append_replicate, hk']

theorem mem_star_char : w ∈ (star (char s)).matches' ↔ ∃ n, w = List.replicate n s := by
  rw [RegularExpression.matches'_star, Language.mem_kstar]
  constructor
  · intro hw
    obtain ⟨parts, rfl, hparts⟩ := hw
    have hsingle : parts = List.replicate parts.length [s] :=
      List.eq_replicate_of_mem fun part hpart => mem_char.mp (hparts part hpart)
    refine ⟨parts.length, ?_⟩
    rw [hsingle]
    simp
  · intro hw
    obtain ⟨n, rfl⟩ := hw
    refine ⟨List.replicate n [s], by simp, fun part hpart => ?_⟩
    exact mem_char.mpr (List.eq_of_mem_replicate hpart)

/-- The words for a digit are the ten digits. -/
theorem mem_digitGrammar :
    w ∈ (digitGrammar one five ten).matches' ↔ ∃ k < 10, w = digit one five ten k := by
  rw [digitGrammar, RegularExpression.matches'_add, RegularExpression.matches'_add, Language.mem_add,
    Language.mem_add, mem_pair, mem_pair, RegularExpression.matches'_mul, Language.mem_mul]
  constructor
  · rintro ((rfl | rfl) | ⟨u, hu, v, hv, rfl⟩)
    · exact ⟨9, by decide, rfl⟩
    · exact ⟨4, by decide, rfl⟩
    · obtain ⟨f, hf, rfl⟩ := mem_optional.mp hu
      obtain ⟨o, ho, rfl⟩ := (mem_optional_pow 3).mp hv
      refine ⟨5 * f + o, by omega, ?_⟩
      obtain rfl | rfl : f = 0 ∨ f = 1 := by omega
      all_goals
        obtain rfl | rfl | rfl | rfl : o = 0 ∨ o = 1 ∨ o = 2 ∨ o = 3 := by omega
        all_goals rfl
  · intro hw
    obtain ⟨k, hk, rfl⟩ := hw
    by_cases hnine : k = 9
    · exact .inl (.inl (by rw [hnine]; rfl))
    by_cases hfour : k = 4
    · exact .inl (.inr (by rw [hfour]; rfl))
    · refine .inr ⟨List.replicate (k / 5) five, mem_optional.mpr ⟨_, by omega, rfl⟩,
        List.replicate (k % 5) one, (mem_optional_pow 3).mpr ⟨_, by omega, rfl⟩, ?_⟩
      obtain rfl | rfl | rfl | rfl | rfl | rfl | rfl | rfl :
          k = 0 ∨ k = 1 ∨ k = 2 ∨ k = 3 ∨ k = 5 ∨ k = 6 ∨ k = 7 ∨ k = 8 := by omega
      all_goals rfl

/-- A standard numeral is written digit by digit. -/
theorem standard_of_digits (m : Nat) {c x i : Nat} (hc : c < 10) (hx : x < 10) (hi : i < 10) :
    standard (1000 * m + 100 * c + 10 * x + i) = List.replicate m .M ++ (digit .C .D .M c ++
      (digit .X .L .C x ++ digit .I .V .X i)) := by
  have hthousands : (1000 * m + 100 * c + 10 * x + i) / 1000 = m := by omega
  have hhundreds : (1000 * m + 100 * c + 10 * x + i) / 100 % 10 = c := by omega
  have htens : (1000 * m + 100 * c + 10 * x + i) / 10 % 10 = x := by omega
  have hunits : (1000 * m + 100 * c + 10 * x + i) % 10 = i := by omega
  rw [standard, hthousands, hhundreds, htens, hunits]

/-- **The grammar** gives the standard numerals and nothing else. -/
theorem mem_grammar : w ∈ grammar.matches' ↔ ∃ q, w = standard q := by
  rw [grammar, RegularExpression.matches'_mul, Language.mem_mul]
  simp only [RegularExpression.matches'_mul, Language.mem_mul, mem_star_char, mem_digitGrammar]
  constructor
  · rintro ⟨_, ⟨m, rfl⟩, _, ⟨_, ⟨c, hc, rfl⟩, _, ⟨_, ⟨x, hx, rfl⟩, _, ⟨i, hi, rfl⟩, rfl⟩, rfl⟩, rfl⟩
    exact ⟨_, (standard_of_digits m hc hx hi).symm⟩
  · intro hw
    obtain ⟨q, rfl⟩ := hw
    exact ⟨_, ⟨q / 1000, rfl⟩, _, ⟨_, ⟨q / 100 % 10, Nat.mod_lt _ (by decide), rfl⟩, _,
      ⟨_, ⟨q / 10 % 10, Nat.mod_lt _ (by decide), rfl⟩, _,
        ⟨q % 10, Nat.mod_lt _ (by decide), rfl⟩, rfl⟩, rfl⟩, rfl⟩

theorem canonical_standard (q : Nat) : canonical (standard q) = .ok (standard q) :=
  (denotes_standard q).canonical_eq

/-- There is a canonical form of convertible words only, and it is a standard numeral. -/
theorem exists_of_canonical {r : Numeral} (h : canonical w = .ok r) : ∃ q, Denotes w q ∧ r = standard q := by
  rcases denotes_or_short w with ⟨q, hq⟩ | hshort
  · rw [hq.canonical_eq] at h
    cases h
    exact ⟨q, hq, rfl⟩
  · rw [canonical, collapse, hshort] at h
    cases h

theorem canonical_eq_self_iff : canonical w = .ok w ↔ ∃ q, w = standard q := by
  constructor
  · intro h
    obtain ⟨q, _, hw⟩ := exists_of_canonical h
    exact ⟨q, hw⟩
  · intro hw
    obtain ⟨q, rfl⟩ := hw
    exact canonical_standard q

/-- **Standard numerals** are read back as their numbers. They are the words of the grammar and the
fixed points of the canonical form, the additive form leads back to them, and no two are equivalent. -/
theorem standard_iff_fixed_point :
    (∀ q, ∃ a, additive (standard q) = .ok a ∧ value a = q) ∧
      (∀ w, canonical w = .ok w ↔ w ∈ grammar.matches') ∧
      (∀ w ∈ grammar.matches', (do canonical (← additive w)) = .ok w) ∧
      (∀ v ∈ grammar.matches', ∀ w ∈ grammar.matches', v ≠ w → equivalent v w = .ok false) ∧
      ∀ w r, canonical w = .ok r → canonical r = .ok r := by
  refine ⟨denotes_standard, fun w => ?_, fun w hw => ?_, fun v hv w hw hne => ?_, fun w r h => ?_⟩
  · rw [canonical_eq_self_iff, mem_grammar]
  · obtain ⟨q, rfl⟩ := mem_grammar.mp hw
    obtain ⟨a, ha, hdescending, hvalue⟩ := (denotes_standard q).additive_eq
    rw [ha, except_bind_ok, hdescending.denotes.canonical_eq, hvalue]
  · obtain ⟨p, rfl⟩ := mem_grammar.mp hv
    obtain ⟨q, rfl⟩ := mem_grammar.mp hw
    rw [equivalent, canonical_standard, canonical_standard, except_bind_ok, except_bind_ok,
      beq_eq_false_iff_ne.mpr hne]
  · obtain ⟨q, _, rfl⟩ := exists_of_canonical h
    exact canonical_standard q

theorem standard_iff_fixed_point_year :
    [.M, .C, .M, .X, .C, .I, .V] ∈ grammar.matches' ∧
      (do canonical (← additive [.M, .C, .M, .X, .C, .I, .V])) = .ok [.M, .C, .M, .X, .C, .I, .V] ∧
      equivalent [.M, .C, .M, .X, .C, .I, .V] [.I, .X] = .ok false ∧
      canonical [.V, .I, .I, .I, .I] = .ok [.I, .X] ∧ canonical [.I, .X] = .ok [.I, .X] := by
  obtain ⟨_, _, hback, happart, hagain⟩ := standard_iff_fixed_point
  have hyear : [.M, .C, .M, .X, .C, .I, .V] ∈ grammar.matches' := mem_grammar.mpr ⟨1994, rfl⟩
  have hnine : [.I, .X] ∈ grammar.matches' := mem_grammar.mpr ⟨9, rfl⟩
  have hrun : canonical [.V, .I, .I, .I, .I] = .ok [.I, .X] :=
    (Descending.denotes (by decide)).canonical_eq
  exact ⟨hyear, hback _ hyear, happart _ hyear _ hnine (by decide), hrun, hagain _ _ hrun⟩

end Roman.Numeral
