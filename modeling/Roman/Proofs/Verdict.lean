import Roman.Proofs.Challenge
import Roman.Proofs.Grammar
import Roman.Proofs.Lenient
/-!
# Verdicts

Whatever an answer says, it comes to a standard numeral if it comes to anything, and the expected answer
of a challenge is a standard numeral as well. So the comparison of their spellings is one of quantities,
it never fails, and an answer passes for what it is worth. A challenge passes on its own question even
where an operand is empty and the lenient reading drops the operator: such an operand is zero, and what
is left of the question has the same value without it.
-/

namespace Roman

open Numeral

/-! ### Results are standard -/

theorem Operator.exists_standard {o : Operator} {v w r : Numeral} (h : o.apply v w = .ok r) :
    ∃ q, r = standard q := by
  have hcanonical : ∃ u, canonical u = .ok r := by
    cases o with
    | add =>
      obtain ⟨u, _, hu⟩ := except_bind_eq_ok h
      exact ⟨u, hu⟩
    | subtract =>
      obtain ⟨u, _, hu⟩ := except_bind_eq_ok h
      exact ⟨u, hu⟩
  obtain ⟨u, hu⟩ := hcanonical
  obtain ⟨q, _, hq⟩ := exists_of_canonical hu
  exact ⟨q, hq⟩

theorem Chain.exists_standard {chain : Chain} {r : Numeral} (h : chain.evaluate = .ok r) :
    ∃ q, r = standard q := by
  rcases denotes_or_short chain.first with ⟨p, hp⟩ | hshort
  · rw [evaluate_eq_total hp] at h
    rcases total_cases p chain.steps with ⟨_, hok⟩ | ⟨_, herror⟩
    · exact ⟨_, Except.ok.inj (h.symm.trans hok)⟩
    · cases h.symm.trans herror
  · cases h.symm.trans (evaluate_error hshort)

theorem Numeral.equivalent_standard (p q : Nat) :
    equivalent (standard p) (standard q) = .ok (decide (p = q)) :=
  (denotes_standard p).equivalent_eq (denotes_standard q)

theorem Numeral.canonical_of_equivalent {w : Numeral} {q : Nat}
    (h : equivalent w (standard q) = .ok true) : canonical w = .ok (standard q) := by
  obtain ⟨r, hr, hcompare⟩ := except_bind_eq_ok h
  rw [canonical_standard, except_bind_ok, Except.ok.injEq, beq_iff_eq] at hcompare
  rw [hr, hcompare]

/-! ### Zero on one side of an operator -/

namespace Operator

variable {o : Operator} {v w r : Numeral}

theorem canonical_of_apply_nil_left (h : o.apply [] w = .ok r) : canonical w = .ok r := by
  have hzero : Denotes [] 0 := denotes_standard 0
  rcases o.apply_cases hzero w with ⟨q, hq, hnonneg, hok⟩ | ⟨_, herror⟩
  · -- A difference from zero is zero, and a sum with it is the other operand.
    have hsame : (((0 : Nat) : Int) + o.change q).toNat = q := by
      cases o <;> simp only [change] at hnonneg ⊢ <;> omega
    rw [← h, hok, hsame]
    exact hq.canonical_eq
  · cases h.symm.trans herror

theorem canonical_of_apply_nil_right (h : o.apply v [] = .ok r) : canonical v = .ok r := by
  rcases denotes_or_short v with ⟨p, hp⟩ | hshort
  · rw [← h, o.apply_congr hp (denotes_standard p), o.apply_nil p]
    exact hp.canonical_eq
  · cases h.symm.trans (o.apply_error_left hshort [])

end Operator

/-! ### Answers -/

namespace Expression

/-- The characters of a text that are tokens, without the operators at both ends. -/
def kept (text : String) : List Char :=
  trimEnds isOperatorChar (text.toList.filter fun c => (Token.ofChar? c).isSome)

theorem map_glyph_filterMap (cs : List Char) :
    (cs.filterMap Token.ofChar?).map Token.glyph = cs.filter fun c => (Token.ofChar? c).isSome := by
  induction cs with
  | nil => rfl
  | cons c cs ih =>
    cases hc : Token.ofChar? c with
    | none => simp [hc, ih]
    | some t => simp [hc, ih, Token.glyph_of_ofChar? hc]

theorem map_glyph_readLenient (text : String) : (readLenient text).map Token.glyph = kept text := by
  have hoperator : isOperatorChar ∘ Token.glyph = Token.isOperator := funext isOperatorChar_glyph
  rw [kept, ← map_glyph_filterMap, trimEnds_map, hoperator, readLenient]

/-- A lenient evaluation looks at nothing else. -/
theorem evaluateLenient_congr {a b : String} (h : kept a = kept b) :
    evaluateLenient a = evaluateLenient b := by
  rw [← map_glyph_readLenient, ← map_glyph_readLenient] at h
  have htokens : readLenient a = readLenient b := by
    rw [← filterMap_glyph (readLenient a), h, filterMap_glyph]
  rw [evaluateLenient_eq, evaluateLenient_eq, htokens]

theorem trimEnds_symbols (w : Numeral) :
    trimEnds Token.isOperator (w.map Token.symbol) = w.map Token.symbol := by
  apply trimEnds_eq_self
  · simp [Token.isOperator]
  · simp [Token.isOperator]

theorem evaluate_symbols (w : Numeral) :
    (Chain.ofTokens (w.map Token.symbol)).evaluate = canonical w := by
  rw [← Chain.tokens_nil, Chain.ofTokens_tokens]
  rfl

theorem evaluateLenient_text (w : Numeral) : evaluateLenient w.text = canonical w := by
  have htext : w.text.toList = (w.map Token.symbol).map Token.glyph := by
    rw [Numeral.text, String.toList_ofList, List.map_map]
    rfl
  rw [evaluateLenient_eq, readLenient, htext, filterMap_glyph, trimEnds_symbols, evaluate_symbols]

end Expression

namespace Challenge

open Expression

theorem readLenient_prompt (c : Challenge) :
    readLenient c.prompt = trimEnds Token.isOperator c.chain.tokens := by
  rw [readLenient, ← filterMap_ofChar?_filter, filter_prompt, filterMap_glyph]

/-- The question is worth its answer in the lenient mode too, whether operands are empty or not. -/
theorem evaluateLenient_prompt (c : Challenge) : evaluateLenient c.prompt = .ok c.expected := by
  have hsolved := c.solved
  by_cases hleft : c.left = []
  · rw [hleft] at hsolved
    rw [evaluateLenient_eq, readLenient_prompt, tokens_chain, hleft, List.map_nil, List.nil_append,
      trimEnds_cons rfl, trimEnds_symbols, evaluate_symbols]
    exact Operator.canonical_of_apply_nil_left hsolved
  by_cases hright : c.right = []
  · rw [hright] at hsolved
    rw [evaluateLenient_eq, readLenient_prompt, tokens_chain, hright, List.map_nil, trimEnds_concat rfl,
      trimEnds_symbols, evaluate_symbols]
    exact Operator.canonical_of_apply_nil_right hsolved
  · rw [evaluateLenient_eq, readLenient_of_readStrict (readStrict_prompt hleft hright),
      Chain.ofTokens_tokens, evaluate_chain]

theorem exists_expected (c : Challenge) : ∃ q, c.expected = standard q :=
  Operator.exists_standard c.solved

/-! ### Judging -/

variable {c : Challenge} {answer : String} {p q : Nat}

theorem judge_of_error {e : NumeralError} (h : evaluateLenient answer = .error e) :
    c.judge answer = .fail c.expected none := by
  rw [judge, h]

theorem judge_of_ok (h : evaluateLenient answer = .ok (standard p)) (hc : c.expected = standard q) :
    c.judge answer = if p = q then .pass else .fail c.expected (some (standard p)) := by
  simp only [judge, h, hc, equivalent_standard]
  by_cases heq : p = q
  · simp [heq]
  · simp [heq]

/-- An answer fails to evaluate, or it is a standard numeral that is compared with the expected one. -/
theorem judge_cases (c : Challenge) (answer : String) :
    (∃ e, evaluateLenient answer = .error e ∧ c.judge answer = .fail c.expected none) ∨
      ∃ p q, evaluateLenient answer = .ok (standard p) ∧ c.expected = standard q ∧
        c.judge answer = if p = q then .pass else .fail c.expected (some (standard p)) := by
  cases h : evaluateLenient answer with
  | error e => exact .inl ⟨e, rfl, judge_of_error h⟩
  | ok w =>
    obtain ⟨p, rfl⟩ := Chain.exists_standard h
    obtain ⟨q, hq⟩ := c.exists_expected
    exact .inr ⟨p, q, rfl, hq, judge_of_ok h hq⟩

theorem eq_expected_of_judge {expected : Numeral} {given : Option Numeral}
    (h : c.judge answer = .fail expected given) : expected = c.expected := by
  rcases judge_cases c answer with ⟨_, _, hverdict⟩ | ⟨p, q, _, _, hverdict⟩
  · cases hverdict.symm.trans h
    rfl
  · rw [hverdict] at h
    split at h
    · cases h
    · cases h
      rfl

theorem judge_of_expected (h : evaluateLenient answer = .ok c.expected) : c.judge answer = .pass := by
  obtain ⟨q, hq⟩ := c.exists_expected
  rw [judge_of_ok (hq ▸ h) hq, if_pos rfl]

theorem judge_standard (h : c.expected = standard q) (p : Nat) :
    c.judge (standard p).text = if p = q then .pass else .fail c.expected (some (standard p)) := by
  apply judge_of_ok _ h
  rw [evaluateLenient_text, canonical_standard]

theorem judge_eq_pass_iff : c.judge answer = .pass ↔
    ∃ given q, evaluateLenient answer = .ok given ∧ Denotes given q ∧ Denotes c.expected q := by
  rcases judge_cases c answer with ⟨e, herror, hverdict⟩ | ⟨p, q, hok, hq, hverdict⟩
  · rw [hverdict, herror]
    exact iff_of_false nofun nofun
  · rw [hverdict, hok, hq]
    constructor
    · intro hpass
      by_cases heq : p = q
      · exact ⟨standard p, p, rfl, denotes_standard p, heq ▸ denotes_standard p⟩
      · rw [if_neg heq] at hpass
        cases hpass
    · rintro ⟨given, n, hgiven, hn, hn'⟩
      cases hgiven
      rw [if_pos ((denotes_standard p).unique hn |>.trans (hn'.unique (denotes_standard q)))]

/-- **Verdicts.** An answer passes if and only if it evaluates to the quantity of the expected answer, and
otherwise the verdict says what it came to. Only the tokens between the outermost letters count, and a
challenge passes on its question, on its answer and on whatever is equivalent to that. -/
theorem judge_by_quantity (c : Challenge) :
    (∀ answer,
      (c.judge answer = .pass ↔
        ∃ w q, evaluateLenient answer = .ok w ∧ Denotes w q ∧ Denotes c.expected q) ∧
      (c.judge answer ≠ .pass → ∃ given, c.judge answer = .fail c.expected given ∧
        (given = none ↔ ∃ e, evaluateLenient answer = .error e) ∧
        ∀ w, given = some w →
          evaluateLenient answer = .ok w ∧ canonical w = .ok w ∧ w ≠ c.expected) ∧
      ∀ w, evaluateLenient answer = .ok w → ∃ b, equivalent w c.expected = .ok b) ∧
    (∀ a b, kept a = kept b → c.judge a = c.judge b) ∧
    c.judge c.prompt = .pass ∧ c.judge c.expected.text = .pass ∧
      ∀ w, equivalent w c.expected = .ok true → c.judge w.text = .pass := by
  refine ⟨fun answer => ⟨judge_eq_pass_iff, fun hfail => ?_, fun w hw => ?_⟩, fun a b h => ?_,
    judge_of_expected c.evaluateLenient_prompt, ?_, fun w hw => judge_of_expected ?_⟩
  · rcases judge_cases c answer with ⟨e, herror, hverdict⟩ | ⟨p, q, hok, hq, hverdict⟩
    · exact ⟨none, hverdict, iff_of_true rfl ⟨e, herror⟩, nofun⟩
    · by_cases heq : p = q
      · rw [hverdict, if_pos heq] at hfail
        exact absurd rfl hfail
      · rw [if_neg heq] at hverdict
        refine ⟨_, hverdict, iff_of_false nofun ?_, ?_⟩
        · rintro ⟨e, herror⟩
          cases hok.symm.trans herror
        · intro w hw
          rw [← Option.some.inj hw, hq]
          exact ⟨hok, canonical_standard p, fun hsame => heq (standard_injective hsame)⟩
  · obtain ⟨p, rfl⟩ := Chain.exists_standard hw
    obtain ⟨q, hq⟩ := c.exists_expected
    exact ⟨_, by rw [hq, equivalent_standard]⟩
  · rw [judge, judge, evaluateLenient_congr h]
  · obtain ⟨q, hq⟩ := c.exists_expected
    rw [hq, judge_standard hq, if_pos rfl]
  · obtain ⟨q, hq⟩ := c.exists_expected
    rw [hq] at hw ⊢
    rw [evaluateLenient_text, canonical_of_equivalent hw]

theorem judge_by_quantity_nine : ∃ c : Challenge, c.left = [] ∧ c.right = [.I, .X] ∧
    c.judge c.prompt = .pass ∧ c.judge (Numeral.text [.V, .I, .I, .I, .I]) = .pass ∧
      c.judge (Numeral.text [.V]) = .fail [.I, .X] (some [.V]) ∧
        c.judge (String.ofList ['V', '?', '-']) = c.judge (String.ofList [' ', 'V']) := by
  have hzero : Denotes [] 0 := denotes_standard 0
  have hfive : Denotes [.V] 5 := denotes_standard 5
  have hnine : Denotes [.I, .X] 9 := denotes_standard 9
  have hrun : canonical [.V, .I, .I, .I, .I] = .ok [.I, .X] :=
    (Descending.denotes (by decide)).canonical_eq
  have hsame : equivalent [.V, .I, .I, .I, .I] [.I, .X] = .ok true := by
    rw [equivalent, hrun, hnine.canonical_eq]
    rfl
  have hevaluate : evaluateLenient (Numeral.text [.V]) = .ok [.V] := by
    rw [evaluateLenient_text, hfive.canonical_eq]
    rfl
  have hkept : kept (String.ofList ['V', '?', '-']) = kept (String.ofList [' ', 'V']) := by
    rw [kept, kept, String.toList_ofList, String.toList_ofList]
    decide
  obtain ⟨hanswer, hagree, hprompt, _, hequivalent⟩ := judge_by_quantity
    ⟨[], [.I, .X], .add, standard 9, add_eq_ok hzero hnine⟩
  obtain ⟨hpass, hfail, _⟩ := hanswer (Numeral.text [.V])
  refine ⟨⟨[], [.I, .X], .add, standard 9, add_eq_ok hzero hnine⟩, rfl, rfl, hprompt, hequivalent _ hsame, ?_,
    hagree _ _ hkept⟩
  have hwrong : ¬ ∃ w q, evaluateLenient (Numeral.text [.V]) = .ok w ∧ Denotes w q ∧
      Denotes (standard 9) q := by
    rintro ⟨w, q, hw, hq, hq'⟩
    rw [hevaluate, Except.ok.injEq] at hw
    have hfive' := (hw ▸ hq).unique hfive
    have hnine' := hq'.unique hnine
    omega
  obtain ⟨given, hverdict, hnone, hsome⟩ := hfail fun h => hwrong (hpass.mp h)
  cases given with
  | none =>
    obtain ⟨e, he⟩ := hnone.mp rfl
    cases hevaluate.symm.trans he
  | some w =>
    cases hevaluate.symm.trans (hsome w rfl).1
    exact hverdict

end Challenge

end Roman
