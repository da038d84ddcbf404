import Roman.Proofs.Evaluation
/-!
# Lenient reading

A lenient reading leaves a text of operands and runs of operators. An operator that another one follows
stands in front of an empty operand, which is zero, so it does no more than make the total canonical,
and that happens anyway: of every run of operators only the last one counts. What is left without the
others is a text that the strict mode accepts and evaluates to the same outcome. A text that is strict
to begin with is read in both modes alike.
-/

namespace Roman

open Numeral

/-! ### Steps without an operand -/

theorem Operator.apply_nil (o : Operator) (p : Nat) : o.apply (standard p) [] = .ok (standard p) := by
  have hzero : Denotes [] 0 := denotes_standard 0
  cases o with
  | add => exact add_eq_ok (denotes_standard p) hzero
  | subtract => exact sub_eq_ok (denotes_standard p) hzero (Nat.zero_le p)

namespace Chain

/-- The chain without the steps that have an empty operand. -/
def compact (chain : Chain) : Chain := ⟨chain.first, chain.steps.filter fun step => !step.2.isEmpty⟩

theorem total_compact (p : Nat) (steps : List (Operator × Numeral)) :
    total (steps.filter fun step => !step.2.isEmpty) (standard p) = total steps (standard p) := by
  induction steps generalizing p with
  | nil => rfl
  | cons step steps ih =>
    obtain ⟨o, w⟩ := step
    cases w with
    | nil =>
      -- Zero is added to a total that is canonical already, or taken away from it.
      have hskip : total ((o, []) :: steps) (standard p) = total steps (standard p) := by
        rw [total, List.foldlM_cons, o.apply_nil p]
        rfl
      rw [hskip, ← ih]
      rfl
    | cons s w =>
      show total ((o, s :: w) :: steps.filter fun step => !step.2.isEmpty) (standard p) = _
      rw [total, total, List.foldlM_cons, List.foldlM_cons]
      rcases o.apply_cases (denotes_standard p) (s :: w) with ⟨q, _, _, hok⟩ | ⟨_, herror⟩
      · rw [hok]
        exact ih _
      · rw [herror, except_bind_error, except_bind_error]

theorem evaluate_compact (chain : Chain) : chain.compact.evaluate = chain.evaluate := by
  rcases denotes_or_short chain.first with ⟨p, hp⟩ | hshort
  · have hcompact : Denotes chain.compact.first p := hp
    rw [evaluate_eq_total hp, evaluate_eq_total hcompact]
    exact total_compact p chain.steps
  · have hcompact : additive chain.compact.first = .error .insufficientMagnitude := hshort
    rw [evaluate_error hshort, evaluate_error hcompact]

theorem complete_compact {chain : Chain} (hfirst : chain.first ≠ []) : chain.compact.Complete := by
  refine ⟨hfirst, fun step hstep => ?_⟩
  have hkept := (List.mem_filter.mp hstep).2
  intro hnil
  rw [hnil] at hkept
  cases hkept

end Chain

namespace Expression

/-- Of operators in a row only the last is kept. -/
def condense : List Token → List Token
  | [] => []
  | [t] => [t]
  | t :: t' :: ts =>
    if t.isOperator && t'.isOperator then condense (t' :: ts) else t :: condense (t' :: ts)

/-- Unless an operator is at the end, what is kept is the chain without its empty operands. -/
theorem ofTokens_condense {ts : List Token} (hlast : ∀ t ∈ ts.getLast?, t.isOperator = false) :
    Chain.ofTokens (condense ts) = (Chain.ofTokens ts).compact := by
  induction ts using condense.induct with
  | case1 => rfl
  | case2 t =>
    cases t with
    | symbol s => rfl
    | operator o => cases hlast _ rfl
  | case3 t t' ts hboth ih =>
    -- The operand between two operators is empty, and its step is not in the compact chain.
    rw [condense, if_pos hboth, ih hlast]
    cases t with
    | symbol s => cases hboth
    | operator o =>
      cases t' with
      | symbol s => cases hboth
      | operator o' => rfl
  | case4 t t' ts hnot ih =>
    rw [condense, if_neg hnot]
    cases t with
    | symbol s =>
      rw [Chain.ofTokens, ih hlast]
      rfl
    | operator o =>
      -- The operand behind a single operator begins with the next token.
      rw [Chain.ofTokens, ih hlast]
      cases t' with
      | symbol s => rfl
      | operator o' => exact absurd rfl hnot

theorem tokens_compact {ts : List Token} (hlast : ∀ t ∈ ts.getLast?, t.isOperator = false) :
    (Chain.ofTokens ts).compact.tokens = condense ts := by
  rw [← ofTokens_condense hlast, Chain.tokens_ofTokens]

theorem first_ofTokens_ne_nil {ts : List Token} (hne : ts ≠ [])
    (hhead : ∀ t ∈ ts.head?, t.isOperator = false) : (Chain.ofTokens ts).first ≠ [] := by
  cases ts with
  | nil => exact absurd rfl hne
  | cons t ts =>
    cases t with
    | symbol s => exact List.cons_ne_nil _ _
    | operator o => cases hhead _ rfl

/-! ### Both modes -/

theorem head?_readLenient (text : String) : ∀ t ∈ (readLenient text).head?, t.isOperator = false :=
  head?_trimEnds _

theorem getLast?_readLenient (text : String) : ∀ t ∈ (readLenient text).getLast?, t.isOperator = false :=
  getLast?_trimEnds _

/-- A lenient reading begins and ends with a letter, so without the idle operators it is separated. -/
theorem separated_condense {text : String} (hne : readLenient text ≠ []) :
    Separated (condense (readLenient text)) := by
  rw [← tokens_compact (getLast?_readLenient text)]
  exact separated_tokens (Chain.complete_compact (first_ofTokens_ne_nil hne (head?_readLenient text)))

theorem evaluateLenient_eq (text : String) :
    evaluateLenient text = (Chain.ofTokens (readLenient text)).evaluate := rfl

theorem evaluate_condense (text : String) :
    (Chain.ofTokens (condense (readLenient text))).evaluate = evaluateLenient text := by
  rw [ofTokens_condense (getLast?_readLenient text), Chain.evaluate_compact, evaluateLenient_eq]

theorem filterMap_ofChar?_filter (cs : List Char) :
    (cs.filter (!isWhite ·)).filterMap Token.ofChar? = cs.filterMap Token.ofChar? := by
  rw [List.filterMap_filter]
  refine List.filterMap_congr fun c _ => ?_
  cases hc : Token.ofChar? c with
  | none => simp
  | some t =>
    rw [← Token.glyph_of_ofChar? hc, isWhite_glyph]
    rfl

/-- What the strict mode accepts is left as it is by the lenient one. -/
theorem readLenient_of_readStrict {text : String} {ts : List Token} (h : readStrict text = .ok ts) :
    readLenient text = ts := by
  obtain ⟨hts, htext⟩ := readStrict_eq_ok_iff.mp h
  have hkept : text.toList.filterMap Token.ofChar? = ts := by
    rw [← filterMap_ofChar?_filter, htext, filterMap_glyph]
  obtain ⟨s, hs⟩ := hts.head
  obtain ⟨s', hs'⟩ := hts.last
  rw [readLenient, hkept]
  apply trimEnds_eq_self
  · rw [hs]
    simp [Token.isOperator]
  · rw [hs']
    simp [Token.isOperator]

/-- **Lenient evaluation** fails for no reason but a shortage, and it is the strict evaluation of what is
read when only the last of adjacent operators is kept. A text that is strict means the same in both
modes. -/
theorem lenient_eq_strict_condense (text : String) :
    ∃ ts, read .lenient text = .ok ts ∧
      (∀ e, evaluateLenient text = .error e → e.isInputError = false) ∧
      (ts = [] → evaluateLenient text = .ok []) ∧
      (ts ≠ [] → readStrict (Token.text (condense ts)) = .ok (condense ts) ∧
        evaluateLenient text = evaluateStrict (Token.text (condense ts))) ∧
      ∀ ts', read .strict text = .ok ts' → ts' = ts ∧ evaluateStrict text = evaluateLenient text := by
  refine ⟨readLenient text, rfl, fun e he => ?_, fun hnil => ?_, fun hne => ?_, fun ts' h => ?_⟩
  · rw [Chain.atMostShort_evaluate _ e he]
    rfl
  · rw [evaluateLenient_eq, hnil]
    exact (denotes_standard 0).canonical_eq
  · have hread := readStrict_text (separated_condense hne)
    exact ⟨hread, by rw [evaluateStrict_of_readStrict hread, evaluate_condense]⟩
  · have hread := readLenient_of_readStrict h
    exact ⟨hread.symm, by rw [evaluateStrict_of_readStrict h, evaluateLenient_eq, hread]⟩

theorem lenient_eq_strict_condense_short :
    evaluateLenient (String.ofList ['V', '?', '+', '-', 'X', '-'])
        = evaluateStrict (Token.text [.symbol .V, .operator .subtract, .symbol .X]) ∧
      evaluateLenient (String.ofList ['V', '?', '+', '-', 'X', '-']) = .error .insufficientMagnitude ∧
      NumeralError.insufficientMagnitude.isInputError = false ∧
      evaluateLenient (String.ofList ['?']) = .ok [] ∧
      evaluateStrict (String.ofList ['V', ' ', '-', 'X'])
        = evaluateLenient (String.ofList ['V', ' ', '-', 'X']) := by
  have hnoise : readLenient (String.ofList ['V', '?', '+', '-', 'X', '-'])
      = [.symbol .V, .operator .add, .operator .subtract, .symbol .X] := by
    rw [readLenient, String.toList_ofList]
    decide
  have hblank : readLenient (String.ofList ['?']) = [] := by
    rw [readLenient, String.toList_ofList]
    decide
  have hstrict : read .strict (String.ofList ['V', ' ', '-', 'X'])
      = .ok [.symbol .V, .operator .subtract, .symbol .X] := by
    rw [read, readStrict, String.toList_ofList]
    decide
  have hshort : evaluateLenient (String.ofList ['V', '?', '+', '-', 'X', '-'])
      = .error .insufficientMagnitude := by
    have hfive : Denotes [.V] 5 := denotes_standard 5
    have hten : Denotes [.X] 10 := denotes_standard 10
    rw [evaluateLenient_eq, ← Chain.evaluate_compact, hnoise]
    show Chain.total [(.subtract, [.X])] [.V] = _
    rw [Chain.total, List.foldlM_cons, Operator.apply, sub_eq_error hfive hten (by decide),
      except_bind_error]
  obtain ⟨ts, hread, herror, _, hcondense, _⟩ :=
    lenient_eq_strict_condense (String.ofList ['V', '?', '+', '-', 'X', '-'])
  obtain ⟨ts', hread', _, hempty, _⟩ := lenient_eq_strict_condense (String.ofList ['?'])
  obtain ⟨_, _, _, _, _, hboth⟩ := lenient_eq_strict_condense (String.ofList ['V', ' ', '-', 'X'])
  have hts : ts = [.symbol .V, .operator .add, .operator .subtract, .symbol .X] :=
    (Except.ok.inj hread).symm.trans hnoise
  have hts' : ts' = [] := (Except.ok.inj hread').symm.trans hblank
  have hkept := (hcondense (hts ▸ List.cons_ne_nil _ _)).2
  rw [hts] at hkept
  exact ⟨hkept, hshort, herror _ hshort, hempty hts', (hboth _ hstrict).2⟩

end Expression

end Roman
