import Roman.Proofs.ChainText
import Roman.Proofs.Difference
/-!
# Evaluation of a chain

A chain is evaluated from the left on words, and each word stands for a running total. Nothing but the
quantities of the operands counts: as long as every operand has one and no total is below zero, the
result is the standard numeral of the last total, and otherwise there is one failure, wherever it is.
-/

namespace Roman

/-- What an operator adds to a total. -/
def Operator.change : Operator → Nat → Int
  | .add, q => q
  | .subtract, q => -q

open Numeral

namespace Operator

variable {v w : Numeral} {p : Nat}

theorem apply_error_left (o : Operator) {e : NumeralError} (h : additive v = .error e) (w : Numeral) :
    o.apply v w = .error e := by
  cases o with
  | add => rw [apply, Numeral.add, plus, h, except_bind_error, except_bind_error]
  | subtract => rw [apply, sub, minus, collapse, h]; rfl

theorem apply_error_right (o : Operator) {e : NumeralError} (hv : Denotes v p)
    (h : additive w = .error e) : o.apply v w = .error e := by
  cases o with
  | add =>
    obtain ⟨a, ha, _⟩ := hv
    rw [apply, Numeral.add, plus, ha, h]
    rfl
  | subtract =>
    obtain ⟨c, hc, _⟩ := hv.collapse_eq
    rw [apply, sub, minus, hc, h]
    rfl

/-- **One step** from a total: it gives the next total, or that one would be below zero. -/
theorem apply_cases (o : Operator) (hv : Denotes v p) (w : Numeral) :
    (∃ q, Denotes w q ∧ 0 ≤ (p : Int) + o.change q ∧
        o.apply v w = .ok (standard ((p : Int) + o.change q).toNat)) ∨
      ((∀ q, Denotes w q → (p : Int) + o.change q < 0) ∧ o.apply v w = .error .insufficientMagnitude) := by
  rcases denotes_or_short w with ⟨q, hq⟩ | hshort
  · cases o with
    | add =>
      refine .inl ⟨q, hq, ?_, ?_⟩
      · show 0 ≤ (p : Int) + q
        omega
      · rw [show ((p : Int) + change .add q).toNat = p + q by show ((p : Int) + q).toNat = p + q; omega]
        exact add_eq_ok hv hq
    | subtract =>
      by_cases hle : q ≤ p
      · refine .inl ⟨q, hq, ?_, ?_⟩
        · show 0 ≤ (p : Int) + -q
          omega
        · rw [show ((p : Int) + change .subtract q).toNat = p - q by
            show ((p : Int) + -q).toNat = p - q; omega]
          exact sub_eq_ok hv hq hle
      · refine .inr ⟨fun q' hq' => ?_, sub_eq_error hv hq (Nat.lt_of_not_le hle)⟩
        rw [hq'.unique hq]
        show (p : Int) + -q < 0
        omega
  · exact .inr ⟨fun q hq => absurd hq (not_denotes_of_error hshort q), apply_error_right o hv hshort⟩

theorem apply_congr (o : Operator) {v' : Numeral} (hv : Denotes v p) (hv' : Denotes v' p) (w : Numeral) :
    o.apply v w = o.apply v' w := by
  rcases o.apply_cases hv w with ⟨q, hq, hle, hok⟩ | ⟨hneg, herror⟩
  · rcases o.apply_cases hv' w with ⟨q', hq', _, hok'⟩ | ⟨hneg', _⟩
    · rw [hok, hok', hq.unique hq']
    · exact absurd hle (Int.not_le.mpr (hneg' q hq))
  · rcases o.apply_cases hv' w with ⟨q', hq', hle', _⟩ | ⟨_, herror'⟩
    · exact absurd hle' (Int.not_le.mpr (hneg q' hq'))
    · rw [herror, herror']

end Operator

namespace Chain

/-- What the steps add to a total one by one. -/
def changes (steps : List (Operator × Numeral)) : List Int :=
  steps.map fun step => step.1.change (quantity step.2)

/-- The totals before, between and after the steps. -/
def totals (p : Int) (steps : List (Operator × Numeral)) : List Int := (changes steps).scanl (· + ·) p

/-- The total after all steps. -/
def finalTotal (p : Int) (steps : List (Operator × Numeral)) : Int := (changes steps).foldl (· + ·) p

/-- The operands are convertible, and no total is below zero. -/
def Solvent (p : Int) (steps : List (Operator × Numeral)) : Prop :=
  (∀ step ∈ steps, Convertible step.2) ∧ ∀ total ∈ totals p steps, 0 ≤ total

theorem solvent_nil {p : Int} : Solvent p [] ↔ 0 ≤ p := by
  simp [Solvent, totals, changes]

theorem solvent_cons {p : Int} {step : Operator × Numeral} {steps : List (Operator × Numeral)} :
    Solvent p (step :: steps) ↔
      0 ≤ p ∧ Convertible step.2 ∧ Solvent (p + step.1.change (quantity step.2)) steps := by
  have htotals : totals p (step :: steps) = p :: totals (p + step.1.change (quantity step.2)) steps := by
    rw [totals, changes, List.map_cons, List.scanl_cons]
    rfl
  rw [Solvent, Solvent, htotals, List.forall_mem_cons, List.forall_mem_cons]
  tauto

theorem Solvent.nonneg {p : Int} {steps : List (Operator × Numeral)} (h : Solvent p steps) : 0 ≤ p := by
  cases steps with
  | nil => exact solvent_nil.mp h
  | cons step steps => exact (solvent_cons.mp h).1

/-- **A run of steps** from a standard numeral. -/
theorem total_cases (p : Nat) (steps : List (Operator × Numeral)) :
    (Solvent p steps ∧ total steps (standard p) = .ok (standard (finalTotal p steps).toNat)) ∨
      (¬ Solvent p steps ∧ total steps (standard p) = .error .insufficientMagnitude) := by
  induction steps generalizing p with
  | nil =>
    refine .inl ⟨solvent_nil.mpr (Int.natCast_nonneg p), ?_⟩
    rw [show finalTotal p [] = (p : Int) from rfl, Int.toNat_natCast]
    rfl
  | cons step steps ih =>
    rcases step.1.apply_cases (denotes_standard p) step.2 with ⟨q, hq, hnonneg, hok⟩ | ⟨hneg, herror⟩
    · -- The rest runs from the next total, which is a natural number again.
      have hnext : (((p : Int) + step.1.change q).toNat : Int) = p + step.1.change q :=
        Int.toNat_of_nonneg hnonneg
      have hstep : total (step :: steps) (standard p)
          = total steps (standard ((p : Int) + step.1.change q).toNat) := by
        rw [total, List.foldlM_cons, hok]
        rfl
      have hfinal : finalTotal p (step :: steps) = finalTotal (p + step.1.change q) steps := by
        rw [finalTotal, changes, List.map_cons, List.foldl_cons, hq.quantity_eq]
        rfl
      have hsolvent : Solvent p (step :: steps) ↔ Solvent (p + step.1.change q) steps := by
        rw [solvent_cons, hq.quantity_eq]
        exact ⟨fun h => h.2.2, fun h => ⟨Int.natCast_nonneg p, ⟨q, hq⟩, h⟩⟩
      have hrest := ih ((p : Int) + step.1.change q).toNat
      rw [hnext] at hrest
      rw [hstep, hfinal, hsolvent]
      exact hrest
    · refine .inr ⟨fun h => ?_, ?_⟩
      · obtain ⟨_, ⟨q, hq⟩, hrest⟩ := solvent_cons.mp h
        rw [hq.quantity_eq] at hrest
        exact absurd hrest.nonneg (Int.not_le.mpr (hneg q hq))
      · rw [total, List.foldlM_cons, herror, except_bind_error]

/-- A chain begins with the canonical form of its first operand, even if no step follows. -/
theorem evaluate_eq_total {chain : Chain} {p : Nat} (hfirst : Denotes chain.first p) :
    chain.evaluate = total chain.steps (standard p) := by
  obtain ⟨first, steps⟩ := chain
  cases steps with
  | nil => exact hfirst.canonical_eq
  | cons step steps =>
    show total (step :: steps) first = total (step :: steps) (standard p)
    rw [total, total, List.foldlM_cons, List.foldlM_cons,
      step.1.apply_congr hfirst (denotes_standard p)]

theorem evaluate_error {chain : Chain} {e : NumeralError} (hfirst : additive chain.first = .error e) :
    chain.evaluate = .error e := by
  obtain ⟨first, steps⟩ := chain
  cases steps with
  | nil =>
    show canonical first = .error e
    rw [canonical, collapse, show additive first = .error e from hfirst]
    rfl
  | cons step steps =>
    show total (step :: steps) first = .error e
    rw [total, List.foldlM_cons, step.1.apply_error_left hfirst, except_bind_error]

/-- There is one failure that the evaluation of a chain can end in. -/
theorem atMostShort_evaluate (chain : Chain) : AtMostShort chain.evaluate := by
  rcases denotes_or_short chain.first with ⟨p, hp⟩ | hshort
  · rw [evaluate_eq_total hp]
    rcases total_cases p chain.steps with ⟨_, hok⟩ | ⟨_, herror⟩
    · rw [hok]
      exact .ok _
    · rw [herror]
      exact .short
  · rw [evaluate_error hshort]
    exact .short

end Chain

namespace Expression

/-- **Evaluation.** The text of a chain evaluates to the standard numeral of the last total, if the
operands are convertible and no total on the way is below zero, and fails in one way otherwise. -/
theorem evaluateStrict_eq {text : String} {chain : Chain} (hchain : chain.Complete)
    (htext : text.toList.filter (!isWhite ·) = chain.tokens.map Token.glyph) :
    (Convertible chain.first ∧ Chain.Solvent (quantity chain.first) chain.steps →
        evaluateStrict text
          = .ok (standard (Chain.finalTotal (quantity chain.first) chain.steps).toNat)) ∧
      (¬ (Convertible chain.first ∧ Chain.Solvent (quantity chain.first) chain.steps) →
        evaluateStrict text = .error .insufficientMagnitude) := by
  rw [evaluateStrict_text hchain htext]
  rcases denotes_or_short chain.first with ⟨p, hp⟩ | hshort
  · rw [Chain.evaluate_eq_total hp, hp.quantity_eq]
    rcases Chain.total_cases p chain.steps with ⟨hsolvent, hok⟩ | ⟨hnot, herror⟩
    · exact ⟨fun _ => hok, fun hnot => absurd ⟨⟨p, hp⟩, hsolvent⟩ hnot⟩
    · exact ⟨fun h => absurd h.2 hnot, fun _ => herror⟩
  · rw [Chain.evaluate_error hshort]
    refine ⟨?_, fun _ => rfl⟩
    intro hconvertible
    obtain ⟨⟨q, hq⟩, _⟩ := hconvertible
    exact absurd hq (not_denotes_of_error hshort q)

theorem evaluateStrict_eq_nineteen :
    evaluateStrict (String.ofList [' ', 'X', 'X', '+', '\t', 'I', ' ', 'V', '-', 'V'])
      = .ok [.X, .I, .X] := by
  have htwenty : Denotes [.X, .X] 20 := denotes_standard 20
  have hfour : Denotes [.I, .V] 4 := denotes_standard 4
  have hfive : Denotes [.V] 5 := denotes_standard 5
  have hchain : (⟨[.X, .X], [(.add, [.I, .V]), (.subtract, [.V])]⟩ : Chain).Complete := by decide
  have htext : (String.ofList [' ', 'X', 'X', '+', '\t', 'I', ' ', 'V', '-', 'V']).toList.filter
      (!isWhite ·) = (⟨[.X, .X], [(.add, [.I, .V]), (.subtract, [.V])]⟩ : Chain).tokens.map Token.glyph := by
    rw [String.toList_ofList]
    decide
  have hsolvent : Chain.Solvent (quantity [.X, .X]) [(.add, [.I, .V]), (.subtract, [.V])] := by
    rw [Chain.solvent_cons, Chain.solvent_cons, Chain.solvent_nil, htwenty.quantity_eq,
      hfour.quantity_eq, hfive.quantity_eq]
    exact ⟨by decide, ⟨4, hfour⟩, by decide, ⟨5, hfive⟩, by decide⟩
  have hfinal : Chain.finalTotal (quantity [.X, .X]) [(.add, [.I, .V]), (.subtract, [.V])] = 19 := by
    simp [Chain.finalTotal, Chain.changes, htwenty.quantity_eq, hfour.quantity_eq, hfive.quantity_eq,
      Operator.change]
  obtain ⟨hok, _⟩ := evaluateStrict_eq hchain htext
  rw [hok ⟨⟨20, htwenty⟩, hsolvent⟩, hfinal]
  rfl

end Expression

end Roman
