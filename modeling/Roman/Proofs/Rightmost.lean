import Mathlib.Data.List.Induction
import Roman.Proofs.Evaluation
/-!
# Splitting at the rightmost operator

The grammar of expressions is left recursive: what stands in front of the last operator is an expression
again, and it is evaluated first. Read in this way an expression is cut at its rightmost operator until
none is left, and every part in front is made canonical on the way. A chain runs from the left instead
and starts with its first operand as it is written. The two agree, because an operation looks at its
left operand only through what it denotes, and because both fail if that operand denotes nothing.
-/

namespace Roman

open Numeral

namespace Chain

/-- The last step is applied to the value of the chain in front of it. -/
theorem evaluate_append_step (first : Numeral) (steps : List (Operator × Numeral)) (o : Operator)
    (w : Numeral) : (⟨first, steps ++ [(o, w)]⟩ : Chain).evaluate = (do
      let v ← (⟨first, steps⟩ : Chain).evaluate
      o.apply v w) := by
  rcases denotes_or_short first with ⟨p, hp⟩ | hshort
  · have hlong : (⟨first, steps ++ [(o, w)]⟩ : Chain).evaluate
        = total (steps ++ [(o, w)]) (standard p) := evaluate_eq_total hp
    have hfront : (⟨first, steps⟩ : Chain).evaluate = total steps (standard p) := evaluate_eq_total hp
    rw [hlong, hfront, total, total, List.foldlM_append]
    refine congrArg _ (funext fun v => ?_)
    rw [List.foldlM_cons]
    exact bind_pure (o.apply v w)
  · have hlong : (⟨first, steps ++ [(o, w)]⟩ : Chain).evaluate = .error .insufficientMagnitude :=
      evaluate_error hshort
    have hfront : (⟨first, steps⟩ : Chain).evaluate = .error .insufficientMagnitude :=
      evaluate_error hshort
    rw [hlong, hfront, except_bind_error]

theorem tokens_append_step (first : Numeral) (steps : List (Operator × Numeral)) (o : Operator)
    (w : Numeral) : (⟨first, steps ++ [(o, w)]⟩ : Chain).tokens
      = (⟨first, steps⟩ : Chain).tokens ++ .operator o :: w.map .symbol := by
  simp [tokens]

end Chain

namespace Expression

/-- The text in front of the rightmost operator, that operator, and the text behind it. -/
def splitRightmost? : List Char → Option (List Char × Operator × List Char)
  | [] => none
  | c :: cs =>
    match splitRightmost? cs with
    | some (left, o, right) => some (c :: left, o, right)
    | none => (Operator.ofChar? c).map fun o => ([], o, cs)

theorem splitRightmost?_eq_none_iff {cs : List Char} :
    splitRightmost? cs = none ↔ ∀ c ∈ cs, Operator.ofChar? c = none := by
  induction cs with
  | nil => simp [splitRightmost?]
  | cons c cs ih =>
    rw [List.forall_mem_cons, ← ih, splitRightmost?]
    cases splitRightmost? cs <;> simp

theorem splitRightmost?_append (left : List Char) (o : Operator) {right : List Char}
    (hright : ∀ c ∈ right, Operator.ofChar? c = none) :
    splitRightmost? (left ++ o.glyph :: right) = some (left, o, right) := by
  induction left with
  | nil =>
    rw [List.nil_append, splitRightmost?, splitRightmost?_eq_none_iff.mpr hright,
      Operator.ofChar?_glyph]
    rfl
  | cons c left ih => rw [List.cons_append, splitRightmost?, ih]

theorem splitRightmost?_eq_some_iff {cs left right : List Char} {o : Operator} :
    splitRightmost? cs = some (left, o, right) ↔
      cs = left ++ o.glyph :: right ∧ ∀ c ∈ right, Operator.ofChar? c = none := by
  constructor
  · intro h
    induction cs generalizing left with
    | nil => cases h
    | cons c cs ih =>
      rw [splitRightmost?] at h
      split at h
      next left' o' right' hsplit =>
        cases h
        obtain ⟨rfl, hright⟩ := ih hsplit
        exact ⟨rfl, hright⟩
      next hnone =>
        obtain ⟨o', ho', heq⟩ := Option.map_eq_some_iff.mp h
        cases heq
        rw [Operator.glyph_of_ofChar? ho']
        exact ⟨rfl, splitRightmost?_eq_none_iff.mp hnone⟩
  · intro h
    obtain ⟨rfl, hright⟩ := h
    exact splitRightmost?_append left o hright

/-- Evaluates a text: without an operator it is one numeral, and else the part in front of the rightmost
operator is evaluated first. -/
def evaluateRightmost (cs : List Char) : Except NumeralError Numeral :=
  match _h : splitRightmost? cs with
  | none => do canonical (← parse (String.ofList cs))
  | some (left, o, right) => do
    let v ← evaluateRightmost left
    let w ← parse (String.ofList right)
    o.apply v w
termination_by cs.length
decreasing_by
  obtain ⟨rfl, _⟩ := splitRightmost?_eq_some_iff.mp _h
  simp

theorem parse_glyphs (w : Numeral) : parse (String.ofList ((w.map Token.symbol).map Token.glyph)) = .ok w := by
  rw [List.map_map]
  exact parse_text w

theorem ofChar?_of_mem_glyphs (w : Numeral) :
    ∀ c ∈ (w.map Token.symbol).map Token.glyph, Operator.ofChar? c = none := by
  rw [List.map_map, List.forall_mem_map]
  intro s _
  cases s <;> rfl

theorem evaluateRightmost_glyphs (w : Numeral) :
    evaluateRightmost ((w.map Token.symbol).map Token.glyph) = canonical w := by
  have hnone := splitRightmost?_eq_none_iff.mpr (ofChar?_of_mem_glyphs w)
  rw [evaluateRightmost]
  split
  next => rw [parse_glyphs, except_bind_ok]
  next hsome => rw [hnone] at hsome; cases hsome

theorem evaluateRightmost_append (left : List Char) (o : Operator) (w : Numeral) :
    evaluateRightmost (left ++ o.glyph :: (w.map Token.symbol).map Token.glyph) = (do
      let v ← evaluateRightmost left
      o.apply v w) := by
  have hsplit := splitRightmost?_append left o (ofChar?_of_mem_glyphs w)
  rw [evaluateRightmost]
  split
  next hnone => rw [hsplit] at hnone; cases hnone
  next hsome =>
    rw [hsplit] at hsome
    cases hsome
    rw [parse_glyphs]
    rfl

/-- A chain is evaluated like its text. -/
theorem evaluateRightmost_tokens (chain : Chain) :
    evaluateRightmost (chain.tokens.map Token.glyph) = chain.evaluate := by
  obtain ⟨first, steps⟩ := chain
  induction steps using List.reverseRecOn with
  | nil =>
    rw [Chain.tokens_nil, evaluateRightmost_glyphs]
    rfl
  | append_singleton steps step ih =>
    obtain ⟨o, w⟩ := step
    rw [Chain.tokens_append_step, Chain.evaluate_append_step, List.map_append, List.map_cons, ← ih]
    exact evaluateRightmost_append _ o w

/-- **Left to right is rightmost last.** An expression has the value of its text, cut at the rightmost
operator again and again. -/
theorem evaluate_eq_rightmost (mode : Mode) (text : String) :
    evaluate mode text = (do
      let ts ← read mode text
      evaluateRightmost (Token.text ts).toList) := by
  show (do (Chain.ofTokens (← read mode text)).evaluate) = _
  refine congrArg _ (funext fun ts => ?_)
  rw [Token.text, String.toList_ofList, ← evaluateRightmost_tokens, Chain.tokens_ofTokens]

end Expression

end Roman
