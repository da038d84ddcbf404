import Roman.Challenge.Basic
import Roman.Proofs.Evaluation
/-!
# Working out a challenge

A question can be worked out if and only if both operands are convertible. There is one failure for a
subtraction of more from less and for an operand that is worth nothing definite, and it is answered by
turning the subtraction round: that helps in the first case and fails in the same way in the second. So
the operands are exchanged exactly when the left one is worth less, and the question that is asked
evaluates to the answer that is kept.
-/

namespace Roman

open Numeral

variable {left right : Numeral} {p q : Nat}

theorem Operator.apply_error (o : Operator) (h : ¬ (Convertible left ∧ Convertible right)) :
    o.apply left right = .error .insufficientMagnitude := by
  rcases denotes_or_short left with ⟨p, hp⟩ | hshort
  · rcases denotes_or_short right with hq | hshort
    · exact absurd ⟨⟨p, hp⟩, hq⟩ h
    · exact o.apply_error_right hp hshort
  · exact o.apply_error_left hshort right

namespace Challenge

/-! ### Solving a question as it is given -/

theorem solve_of_ok {o : Operator} {r : Numeral} (h : o.apply left right = .ok r) :
    solve left right o = .ok ⟨left, right, o, r, h⟩ := by
  unfold solve
  split
  next r' hr' =>
    cases h.symm.trans hr'
    rfl
  next e he => cases h.symm.trans he

theorem solve_of_error {o : Operator} {e : NumeralError} (h : o.apply left right = .error e) :
    solve left right o = .error e := by
  unfold solve
  split
  next r hr => cases h.symm.trans hr
  next e' he' => rw [Except.error.inj (h.symm.trans he')]

theorem ofNumerals_of_ok {o : Operator} {r : Numeral} (h : o.apply left right = .ok r) :
    ofNumerals left right o = .ok ⟨left, right, o, r, h⟩ := by
  unfold ofNumerals
  rw [solve_of_ok h]

/-! ### The three outcomes -/

theorem ofNumerals_add (hleft : Denotes left p) (hright : Denotes right q) :
    ofNumerals left right .add
      = .ok ⟨left, right, .add, standard (p + q), add_eq_ok hleft hright⟩ :=
  ofNumerals_of_ok _

theorem ofNumerals_subtract_of_le (hleft : Denotes left p) (hright : Denotes right q) (hle : q ≤ p) :
    ofNumerals left right .subtract
      = .ok ⟨left, right, .subtract, standard (p - q), sub_eq_ok hleft hright hle⟩ :=
  ofNumerals_of_ok _

theorem ofNumerals_subtract_of_lt (hleft : Denotes left p) (hright : Denotes right q) (hlt : p < q) :
    ofNumerals left right .subtract
      = .ok ⟨right, left, .subtract, standard (q - p), sub_eq_ok hright hleft (Nat.le_of_lt hlt)⟩ := by
  have herror : Operator.subtract.apply left right = .error .insufficientMagnitude :=
    sub_eq_error hleft hright hlt
  have hturned : Operator.subtract.apply right left = .ok (standard (q - p)) :=
    sub_eq_ok hright hleft (Nat.le_of_lt hlt)
  unfold ofNumerals
  rw [solve_of_error herror]
  simp only [solve_of_ok hturned]
  rfl

/-- If an operand is not convertible, turning the question round does not help. -/
theorem ofNumerals_error (o : Operator) (h : ¬ (Convertible left ∧ Convertible right)) :
    ofNumerals left right o = .error (.numeral .insufficientMagnitude) := by
  have hturned : ¬ (Convertible right ∧ Convertible left) := fun hboth => h hboth.symm
  unfold ofNumerals
  rw [solve_of_error (o.apply_error h)]
  cases o with
  | add => rfl
  | subtract =>
    simp only [solve_of_error (Operator.subtract.apply_error hturned)]
    rfl

theorem exists_ofNumerals_iff {o : Operator} :
    (∃ c, ofNumerals left right o = .ok c) ↔ Convertible left ∧ Convertible right := by
  constructor
  · rintro ⟨c, hc⟩
    by_contra hnot
    rw [ofNumerals_error o hnot] at hc
    cases hc
  · rintro ⟨⟨p, hp⟩, ⟨q, hq⟩⟩
    cases o with
    | add => exact ⟨_, ofNumerals_add hp hq⟩
    | subtract =>
      rcases Nat.lt_or_ge p q with hlt | hle
      · exact ⟨_, ofNumerals_subtract_of_lt hp hq hlt⟩
      · exact ⟨_, ofNumerals_subtract_of_le hp hq hle⟩

/-- The operands of a challenge are those of the question, in one order or the other. -/
theorem operands_of_ofNumerals {o : Operator} {c : Challenge} (h : ofNumerals left right o = .ok c) :
    (c.left = left ∧ c.right = right) ∨ (c.left = right ∧ c.right = left) := by
  obtain ⟨⟨p, hp⟩, ⟨q, hq⟩⟩ := exists_ofNumerals_iff.mp ⟨c, h⟩
  cases o with
  | add =>
    cases (ofNumerals_add hp hq).symm.trans h
    exact .inl ⟨rfl, rfl⟩
  | subtract =>
    rcases Nat.lt_or_ge p q with hlt | hle
    · cases (ofNumerals_subtract_of_lt hp hq hlt).symm.trans h
      exact .inr ⟨rfl, rfl⟩
    · cases (ofNumerals_subtract_of_le hp hq hle).symm.trans h
      exact .inl ⟨rfl, rfl⟩

theorem operator_of_ofNumerals {o : Operator} {c : Challenge} (h : ofNumerals left right o = .ok c) :
    c.operator = o := by
  obtain ⟨⟨p, hp⟩, ⟨q, hq⟩⟩ := exists_ofNumerals_iff.mp ⟨c, h⟩
  cases o with
  | add =>
    cases (ofNumerals_add hp hq).symm.trans h
    rfl
  | subtract =>
    rcases Nat.lt_or_ge p q with hlt | hle
    · cases (ofNumerals_subtract_of_lt hp hq hlt).symm.trans h
      rfl
    · cases (ofNumerals_subtract_of_le hp hq hle).symm.trans h
      rfl

/-! ### The question and its answer -/

/-- The question as a chain of one step. -/
def chain (c : Challenge) : Chain := ⟨c.left, [(c.operator, c.right)]⟩

theorem evaluate_chain (c : Challenge) : c.chain.evaluate = .ok c.expected := by
  show Chain.total [(c.operator, c.right)] c.left = .ok c.expected
  rw [Chain.total, List.foldlM_cons, c.solved]
  rfl

theorem tokens_chain (c : Challenge) :
    c.chain.tokens = c.left.map .symbol ++ .operator c.operator :: c.right.map .symbol := by
  rw [chain, Chain.tokens_cons, Chain.tokens_nil]

theorem toList_prompt (c : Challenge) : c.prompt.toList
    = (c.left.map Token.symbol).map Token.glyph ++ ' ' :: (Token.operator c.operator).glyph :: ' '
      :: (c.right.map Token.symbol).map Token.glyph := by
  have hspace : " ".toList = [' '] := rfl
  have hoperator : (toString c.operator).toList = [c.operator.glyph] := String.toList_singleton _
  simp only [prompt, Numeral.text, String.toList_append, String.toList_ofList, hspace, hoperator, List.map_map]
  simp [Token.glyph, Function.comp_def]

/-- Apart from the two spaces, the question is written like the chain. -/
theorem filter_prompt (c : Challenge) :
    c.prompt.toList.filter (!isWhite ·) = c.chain.tokens.map Token.glyph := by
  have hspace : isWhite ' ' = true := by decide
  simp only [toList_prompt, List.filter_append, List.filter_cons, hspace, Expression.isWhite_glyph,
    Expression.filter_glyphs, Bool.not_true, Bool.not_false, Bool.false_eq_true, if_false, if_true]
  rw [tokens_chain, List.map_append, List.map_cons]

theorem readStrict_prompt {c : Challenge} (hleft : c.left ≠ []) (hright : c.right ≠ []) :
    Expression.readStrict c.prompt = .ok c.chain.tokens := by
  have hcomplete : c.chain.Complete := ⟨hleft, by simpa [chain] using hright⟩
  exact Expression.readStrict_eq_ok_iff.mpr ⟨Expression.separated_tokens hcomplete, c.filter_prompt⟩

theorem evaluateStrict_prompt {c : Challenge} (hleft : c.left ≠ []) (hright : c.right ≠ []) :
    Expression.evaluateStrict c.prompt = .ok c.expected := by
  rw [Expression.evaluateStrict_of_readStrict (readStrict_prompt hleft hright), Chain.ofTokens_tokens,
    evaluate_chain]

/-- **Challenges** are worked out for convertible operands and for no others. A sum keeps its operands in
order, a difference is asked the other way round exactly when the left operand is worth less, and the
question with two operands that are written out evaluates to the answer. -/
theorem ofNumerals_and_prompt (left right : Numeral) :
    (∀ o, (∃ c, ofNumerals left right o = .ok c) ↔ Convertible left ∧ Convertible right) ∧
      (∀ p q, Denotes left p → Denotes right q →
        (∃ c, ofNumerals left right .add = .ok c ∧ c.left = left ∧ c.right = right ∧
          c.operator = .add ∧ c.expected = standard (p + q)) ∧
        ∃ c, ofNumerals left right .subtract = .ok c ∧
          (c.left, c.right) = (if p < q then (right, left) else (left, right)) ∧
          c.operator = .subtract ∧ c.expected = standard ((p : Int) - q).natAbs ∧
          quantity c.right ≤ quantity c.left) ∧
      (∀ o, ¬ (Convertible left ∧ Convertible right) →
        ofNumerals left right o = .error (.numeral .insufficientMagnitude)) ∧
      ∀ o c, ofNumerals left right o = .ok c → left ≠ [] → right ≠ [] →
        Expression.evaluateStrict c.prompt = .ok c.expected := by
  refine ⟨fun o => exists_ofNumerals_iff, fun p q hp hq => ⟨⟨_, ofNumerals_add hp hq, rfl, rfl, rfl, rfl⟩, ?_⟩,
    fun o => ofNumerals_error o, fun o c hc hleft hright => ?_⟩
  · rcases Nat.lt_or_ge p q with hlt | hle
    · refine ⟨_, ofNumerals_subtract_of_lt hp hq hlt, ?_, rfl, ?_, ?_⟩
      · rw [if_pos hlt]
      · rw [show ((p : Int) - q).natAbs = q - p by omega]
      · rw [hp.quantity_eq, hq.quantity_eq]
        exact Nat.le_of_lt hlt
    · refine ⟨_, ofNumerals_subtract_of_le hp hq hle, ?_, rfl, ?_, ?_⟩
      · rw [if_neg (Nat.not_lt_of_le hle)]
      · rw [show ((p : Int) - q).natAbs = p - q by omega]
      · rw [hp.quantity_eq, hq.quantity_eq]
        exact hle
  · rcases operands_of_ofNumerals hc with ⟨rfl, rfl⟩ | ⟨rfl, rfl⟩
    · exact evaluateStrict_prompt hleft hright
    · exact evaluateStrict_prompt hright hleft

theorem ofNumerals_and_prompt_thirty_six :
    (∃ c, ofNumerals [.I, .V] [.X, .L] .subtract = .ok c ∧ c.left = [.X, .L] ∧ c.right = [.I, .V] ∧
        c.expected = [.X, .X, .X, .V, .I] ∧
        Expression.evaluateStrict c.prompt = .ok [.X, .X, .X, .V, .I]) ∧
      (∃ c, ofNumerals [.I, .V] [.X, .L] .add = .ok c) ∧
      ofNumerals [.V, .V, .I, .X] [.X] .subtract = .error (.numeral .insufficientMagnitude) := by
  have hfour : Denotes [.I, .V] 4 := denotes_standard 4
  have hforty : Denotes [.X, .L] 40 := denotes_standard 40
  have heavy : ¬ Convertible ([.V, .V, .I] ++ [.X]) :=
    not_convertible_group (by decide) (by decide) (by decide) (by decide)
  obtain ⟨hsome, hvalues, _, hprompt⟩ := ofNumerals_and_prompt [.I, .V] [.X, .L]
  obtain ⟨_, c, hc, hoperands, _, hexpected, _⟩ := hvalues 4 40 hfour hforty
  obtain ⟨_, _, herror, _⟩ := ofNumerals_and_prompt [.V, .V, .I, .X] [.X]
  have hturned : (c.left, c.right) = ([.X, .L], [.I, .V]) := hoperands
  have hanswer : c.expected = [.X, .X, .X, .V, .I] := hexpected
  refine ⟨⟨c, hc, congrArg Prod.fst hturned, congrArg Prod.snd hturned, hanswer, ?_⟩,
    (hsome .add).mpr ⟨⟨4, hfour⟩, ⟨40, hforty⟩⟩, herror .subtract fun h => heavy h.1⟩
  rw [hprompt .subtract c hc (by decide) (by decide), hanswer]

end Challenge

end Roman
