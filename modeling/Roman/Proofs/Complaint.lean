import Roman.Proofs.ExpressionGrammar
/-!
# What a complaint says

A text that the strict mode refuses is refused for the first of five reasons, and three of them point at
a character. The positions are those of the text as it was given: white space is skipped by the checks
but counted in the positions. Each reason is stated here on the text itself, and the checks on the
remaining characters with their positions are shown to say the same.
-/

namespace Roman.Expression

/-! ### The reasons -/

/-- Nothing but white space stands at a position, if anything does. -/
def BlankAt (cs : List Char) (i : Nat) : Prop := ∀ c ∈ cs[i]?, isWhite c = true

def OperatorAt (cs : List Char) (i : Nat) : Prop := ∃ o : Operator, cs[i]? = some o.glyph

/-- A character that is neither white space nor a token. -/
def ForeignAt (cs : List Char) (i : Nat) (c : Char) : Prop :=
  cs[i]? = some c ∧ isWhite c = false ∧ ∀ t : Token, c ≠ t.glyph

/-- Two operators with only white space between them. -/
structure AdjacentAt (cs : List Char) (i j : Nat) : Prop where
  left : OperatorAt cs i
  right : OperatorAt cs j
  lt : i < j
  blank : ∀ k, i < k → k < j → BlankAt cs k

/-- When there is a reason to complain about a text in a certain way. Of several foreign characters and
of several pairs of adjacent operators, the leftmost is meant. -/
def Applies (cs : List Char) : NumeralError → Prop
  | .malformedExpression .empty => ∀ i, BlankAt cs i
  | .malformedExpression .leadingOperator => ∃ i, OperatorAt cs i ∧ ∀ j < i, BlankAt cs j
  | .malformedExpression .trailingOperator => ∃ i, OperatorAt cs i ∧ ∀ j, i < j → BlankAt cs j
  | .invalidCharacter i c => ForeignAt cs i c ∧ ∀ j < i, ∀ d, ¬ ForeignAt cs j d
  | .malformedExpression (.emptyOperand j) =>
    ∃ i, AdjacentAt cs i j ∧ ∀ i' j', AdjacentAt cs i' j' → i ≤ i'
  | .insufficientMagnitude | .unknownSymbol _ => False

/-- The order in which the reasons are considered. -/
def precedence : NumeralError → Nat
  | .malformedExpression .empty => 0
  | .malformedExpression .leadingOperator => 1
  | .malformedExpression .trailingOperator => 2
  | .invalidCharacter .. => 3
  | .malformedExpression (.emptyOperand _) => 4
  | .insufficientMagnitude | .unknownSymbol _ => 5

structure FirstComplaint (cs : List Char) (e : NumeralError) : Prop where
  applies : Applies cs e
  first : ∀ e', Applies cs e' → precedence e ≤ precedence e'

variable {cs : List Char} {ps : List (Char × Nat)} {p q : Char × Nat}

/-! ### Characters with their positions -/

theorem mem_placed : p ∈ placed cs ↔ cs[p.2]? = some p.1 ∧ isWhite p.1 = false := by
  rw [placed, List.mem_filter, List.mem_zipIdx_iff_getElem?, Bool.not_eq_true']

theorem blankAt_iff {i : Nat} : BlankAt cs i ↔ ∀ p ∈ placed cs, p.2 ≠ i := by
  constructor
  · intro hblank p hp hi
    obtain ⟨hc, hwhite⟩ := mem_placed.mp hp
    rw [hi] at hc
    rw [hblank p.1 hc] at hwhite
    cases hwhite
  · intro hnone c hc
    by_contra hwhite
    exact hnone (c, i) (mem_placed.mpr ⟨hc, Bool.eq_false_iff.mpr hwhite⟩) rfl

theorem isOperatorChar_iff {c : Char} : isOperatorChar c = true ↔ ∃ o : Operator, c = o.glyph := by
  rw [isOperatorChar, Option.isSome_iff_exists]
  constructor
  · intro hc
    obtain ⟨o, ho⟩ := hc
    exact ⟨o, (Operator.glyph_of_ofChar? ho).symm⟩
  · intro hc
    obtain ⟨o, rfl⟩ := hc
    exact ⟨o, Operator.ofChar?_glyph o⟩

theorem operatorAt_iff {i : Nat} :
    OperatorAt cs i ↔ ∃ p ∈ placed cs, isOperatorChar p.1 = true ∧ p.2 = i := by
  constructor
  · intro hi
    obtain ⟨o, ho⟩ := hi
    have hwhite : isWhite o.glyph = false := isWhite_glyph (.operator o)
    exact ⟨(o.glyph, i), mem_placed.mpr ⟨ho, hwhite⟩, isOperatorChar_iff.mpr ⟨o, rfl⟩, rfl⟩
  · intro hi
    obtain ⟨p, hp, hoperator, rfl⟩ := hi
    obtain ⟨o, ho⟩ := isOperatorChar_iff.mp hoperator
    exact ⟨o, ho ▸ (mem_placed.mp hp).1⟩

theorem ofChar?_eq_none_iff {c : Char} : Token.ofChar? c = none ↔ ∀ t : Token, c ≠ t.glyph := by
  constructor
  · intro hnone t hc
    rw [hc, Token.ofChar?_glyph] at hnone
    cases hnone
  · intro hforeign
    cases h : Token.ofChar? c with
    | none => rfl
    | some t => exact absurd (Token.glyph_of_ofChar? h).symm (hforeign t)

theorem foreignAt_iff {i : Nat} {c : Char} :
    ForeignAt cs i c ↔ (c, i) ∈ placed cs ∧ (Token.ofChar? c).isNone = true := by
  rw [mem_placed, Option.isNone_iff_eq_none, ofChar?_eq_none_iff, and_assoc]
  rfl

/-- Positions rise from one character to the next. -/
def Rising (ps : List (Char × Nat)) : Prop := ps.Pairwise fun p q => p.2 < q.2

theorem rising_placed (cs : List Char) : Rising (placed cs) := by
  have hpositions : (cs.zipIdx.map Prod.snd).Pairwise (· < ·) := by
    rw [List.zipIdx_map_snd]
    exact List.pairwise_lt_range'
  exact (List.pairwise_map.mp hpositions).filter _

theorem head?_eq_some_iff_of_pairwise {α : Type} {R : α → α → Prop} (hR : ∀ a b, R a b → ¬ R b a)
    {l : List α} (hl : l.Pairwise R) {a : α} : l.head? = some a ↔ a ∈ l ∧ ∀ b ∈ l, ¬ R b a := by
  cases l with
  | nil => simp
  | cons x l =>
    have hx := (List.pairwise_cons.mp hl).1
    rw [List.head?_cons, Option.some_inj, List.mem_cons, List.forall_mem_cons]
    refine ⟨?_, ?_⟩
    · rintro rfl
      exact ⟨.inl rfl, fun h => hR _ _ h h, fun b hb => hR _ _ (hx b hb)⟩
    · rintro ⟨rfl | ha, hfirst, _⟩
      · rfl
      · exact absurd (hx a ha) hfirst

theorem Rising.head?_eq_some_iff (hps : Rising ps) :
    ps.head? = some p ↔ p ∈ ps ∧ ∀ q ∈ ps, p.2 ≤ q.2 := by
  simpa using head?_eq_some_iff_of_pairwise (fun _ _ => Nat.lt_asymm) hps

theorem Rising.getLast?_eq_some_iff (hps : Rising ps) :
    ps.getLast? = some p ↔ p ∈ ps ∧ ∀ q ∈ ps, q.2 ≤ p.2 := by
  rw [← List.head?_reverse]
  simpa using head?_eq_some_iff_of_pairwise (fun _ _ => Nat.lt_asymm) (List.pairwise_reverse.mpr hps)

theorem Rising.find?_eq_some_iff (hps : Rising ps) {P : Char × Nat → Bool} :
    ps.find? P = some p ↔ p ∈ ps ∧ P p = true ∧ ∀ q ∈ ps, P q = true → p.2 ≤ q.2 := by
  rw [← List.head?_filter, head?_eq_some_iff (hps.filter P)]
  simp [and_assoc]

/-! ### The checks -/

theorem applies_empty_iff : Applies cs (.malformedExpression .empty) ↔ placed cs = [] := by
  simp only [Applies, blankAt_iff, List.eq_nil_iff_forall_not_mem]
  exact ⟨fun h p hp => h p.2 p hp rfl, fun h i p hp => absurd hp (h p)⟩

theorem applies_leadingOperator_iff : Applies cs (.malformedExpression .leadingOperator) ↔
    ∃ p, (placed cs).head? = some p ∧ isOperatorChar p.1 = true := by
  simp only [Applies, operatorAt_iff, blankAt_iff, (rising_placed cs).head?_eq_some_iff]
  constructor
  · rintro ⟨_, ⟨p, hp, hoperator, rfl⟩, hbefore⟩
    exact ⟨p, ⟨hp, fun q hq => Nat.le_of_not_lt fun hlt => hbefore _ hlt q hq rfl⟩, hoperator⟩
  · rintro ⟨p, ⟨hp, hfirst⟩, hoperator⟩
    refine ⟨p.2, ⟨p, hp, hoperator, rfl⟩, fun j hj q hq hqj => ?_⟩
    exact Nat.lt_irrefl _ (Nat.lt_of_lt_of_le (hqj ▸ hj) (hfirst q hq))

theorem applies_trailingOperator_iff : Applies cs (.malformedExpression .trailingOperator) ↔
    ∃ p, (placed cs).getLast? = some p ∧ isOperatorChar p.1 = true := by
  simp only [Applies, operatorAt_iff, blankAt_iff, (rising_placed cs).getLast?_eq_some_iff]
  constructor
  · rintro ⟨_, ⟨p, hp, hoperator, rfl⟩, hafter⟩
    exact ⟨p, ⟨hp, fun q hq => Nat.le_of_not_lt fun hlt => hafter _ hlt q hq rfl⟩, hoperator⟩
  · rintro ⟨p, ⟨hp, hlast⟩, hoperator⟩
    refine ⟨p.2, ⟨p, hp, hoperator, rfl⟩, fun j hj q hq hqj => ?_⟩
    exact Nat.lt_irrefl _ (Nat.lt_of_lt_of_le (hqj ▸ hj) (hlast q hq))

theorem applies_invalidCharacter_iff {i : Nat} {c : Char} : Applies cs (.invalidCharacter i c) ↔
    (placed cs).find? (fun p => (Token.ofChar? p.1).isNone) = some (c, i) := by
  simp only [Applies, foreignAt_iff, (rising_placed cs).find?_eq_some_iff, and_assoc]
  refine and_congr_right fun _ => and_congr_right fun _ => ⟨fun h q hq hforeign => ?_, fun h j hj d hd => ?_⟩
  · exact Nat.le_of_not_lt fun hlt => h q.2 hlt q.1 ⟨hq, hforeign⟩
  · exact Nat.not_le_of_lt hj (h (d, j) hd.1 hd.2)

/-- Two operators without a token between them. -/
structure Adjacent (ps : List (Char × Nat)) (p q : Char × Nat) : Prop where
  left_mem : p ∈ ps
  left : isOperatorChar p.1 = true
  right_mem : q ∈ ps
  right : isOperatorChar q.1 = true
  lt : p.2 < q.2
  next : ∀ r ∈ ps, p.2 < r.2 → q.2 ≤ r.2

theorem adjacentAt_iff {i j : Nat} :
    AdjacentAt cs i j ↔ ∃ p q, Adjacent (placed cs) p q ∧ p.2 = i ∧ q.2 = j := by
  constructor
  · intro h
    obtain ⟨p, hp, hleft, rfl⟩ := operatorAt_iff.mp h.left
    obtain ⟨q, hq, hright, rfl⟩ := operatorAt_iff.mp h.right
    refine ⟨p, q, ⟨hp, hleft, hq, hright, h.lt, fun r hr hlt => ?_⟩, rfl, rfl⟩
    exact Nat.le_of_not_lt fun hbetween => blankAt_iff.mp (h.blank r.2 hlt hbetween) r hr rfl
  · rintro ⟨p, q, h, rfl, rfl⟩
    refine ⟨operatorAt_iff.mpr ⟨p, h.left_mem, h.left, rfl⟩, operatorAt_iff.mpr ⟨q, h.right_mem, h.right, rfl⟩,
      h.lt, fun k hpk hkq => blankAt_iff.mpr ?_⟩
    rintro r hr rfl
    exact Nat.not_le_of_lt hkq (h.next r hr hpk)

/-- The first token of a text is adjacent to the second one or to none. -/
theorem adjacent_cons_cons {x y : Char × Nat} (hps : Rising (x :: y :: ps)) :
    Adjacent (x :: y :: ps) p q ↔
      (p = x ∧ q = y ∧ isOperatorChar x.1 = true ∧ isOperatorChar y.1 = true) ∨
        Adjacent (y :: ps) p q := by
  obtain ⟨hx, hrest⟩ := List.pairwise_cons.mp hps
  have hxy := hx y List.mem_cons_self
  constructor
  · intro h
    rcases List.mem_cons.mp h.left_mem with rfl | hp
    · have hq : q ∈ y :: ps := (List.mem_cons.mp h.right_mem).resolve_left fun heq =>
        Nat.lt_irrefl _ (heq ▸ h.lt)
      have hle := h.next y (List.mem_cons_of_mem _ List.mem_cons_self) hxy
      rcases List.mem_cons.mp hq with rfl | hq
      · exact .inl ⟨rfl, rfl, h.left, h.right⟩
      · exact absurd ((List.pairwise_cons.mp hrest).1 q hq) (Nat.not_lt_of_le hle)
    · refine .inr ⟨hp, h.left, (List.mem_cons.mp h.right_mem).resolve_left fun heq => ?_, h.right, h.lt,
        fun r hr => h.next r (List.mem_cons_of_mem _ hr)⟩
      exact Nat.lt_asymm (hx p hp) (heq ▸ h.lt)
  · rintro (⟨rfl, rfl, hleft, hright⟩ | h)
    · refine ⟨List.mem_cons_self, hleft, List.mem_cons_of_mem _ List.mem_cons_self, hright, hxy, ?_⟩
      intro r hr hlt
      rcases List.mem_cons.mp hr with rfl | hr
      · exact absurd hlt (Nat.lt_irrefl _)
      · rcases List.mem_cons.mp hr with rfl | hr
        · exact Nat.le_refl _
        · exact Nat.le_of_lt ((List.pairwise_cons.mp hrest).1 r hr)
    · refine ⟨List.mem_cons_of_mem _ h.left_mem, h.left, List.mem_cons_of_mem _ h.right_mem, h.right, h.lt, ?_⟩
      intro r hr hlt
      rcases List.mem_cons.mp hr with rfl | hr
      · exact absurd hlt (Nat.lt_asymm (hx p h.left_mem))
      · exact h.next r hr hlt

theorem emptyOperand?_eq_some_iff (hps : Rising ps) {j : Nat} : emptyOperand? ps = some j ↔
    ∃ p q, Adjacent ps p q ∧ q.2 = j ∧ ∀ p' q', Adjacent ps p' q' → p.2 ≤ p'.2 := by
  induction ps with
  | nil => exact ⟨nofun, fun ⟨_, _, h, _⟩ => nomatch h.left_mem⟩
  | cons x ps ih =>
    cases ps with
    | nil =>
      refine ⟨nofun, fun ⟨p, q, h, _⟩ => ?_⟩
      have hlt := h.lt
      rw [List.mem_singleton.mp h.left_mem, List.mem_singleton.mp h.right_mem] at hlt
      exact absurd hlt (Nat.lt_irrefl _)
    | cons y ps =>
      obtain ⟨hx, hrest⟩ := List.pairwise_cons.mp hps
      rw [emptyOperand?]
      split
      next hboth =>
        rw [Bool.and_eq_true] at hboth
        have hfirst : Adjacent (x :: y :: ps) x y :=
          (adjacent_cons_cons hps).mpr (.inl ⟨rfl, rfl, hboth⟩)
        rw [Option.some_inj]
        constructor
        · rintro rfl
          refine ⟨x, y, hfirst, rfl, fun p' q' h => ?_⟩
          rcases List.mem_cons.mp h.left_mem with rfl | hmem
          · exact Nat.le_refl _
          · exact Nat.le_of_lt (hx p' hmem)
        · rintro ⟨p, q, h, rfl, hleast⟩
          rcases (adjacent_cons_cons hps).mp h with ⟨_, rfl, _⟩ | hlater
          · rfl
          · exact absurd (hx p hlater.left_mem) (Nat.not_lt_of_le (hleast x y hfirst))
      next hnot =>
        have hsame : ∀ p q, Adjacent (x :: y :: ps) p q ↔ Adjacent (y :: ps) p q := fun p q =>
          (adjacent_cons_cons hps).trans (or_iff_right fun h => hnot (by simp [h.2.2]))
        simp only [hsame]
        exact ih hrest

theorem applies_emptyOperand_iff {j : Nat} : Applies cs (.malformedExpression (.emptyOperand j)) ↔
    emptyOperand? (placed cs) = some j := by
  simp only [Applies, adjacentAt_iff, emptyOperand?_eq_some_iff (rising_placed cs)]
  constructor
  · rintro ⟨_, ⟨p, q, h, rfl, rfl⟩, hleast⟩
    exact ⟨p, q, h, rfl, fun p' q' h' => hleast p'.2 q'.2 ⟨p', q', h', rfl, rfl⟩⟩
  · rintro ⟨p, q, h, rfl, hleast⟩
    refine ⟨p.2, ⟨p, q, h, rfl, rfl⟩, ?_⟩
    rintro _ _ ⟨p', q', h', rfl, rfl⟩
    exact hleast p' q' h'

/-! ### The first complaint -/

theorem applies_of_complaint? {e : NumeralError} (h : complaint? (placed cs) = some e) : Applies cs e := by
  unfold complaint? at h
  split at h
  next first last hhead hlast =>
    split at h
    next hfirst =>
      cases h
      exact applies_leadingOperator_iff.mpr ⟨first, hhead, hfirst⟩
    split at h
    next hend =>
      cases h
      exact applies_trailingOperator_iff.mpr ⟨last, hlast, hend⟩
    split at h
    next c i hforeign =>
      cases h
      exact applies_invalidCharacter_iff.mpr hforeign
    next =>
      obtain ⟨j, hj, rfl⟩ := Option.map_eq_some_iff.mp h
      exact applies_emptyOperand_iff.mpr hj
  next hnone =>
    cases h
    rw [applies_empty_iff]
    by_contra hne
    exact hnone _ _ (List.head?_eq_some_head hne) (List.getLast?_eq_some_getLast hne)

/-- Where a reason applies, there is a complaint, for that reason or one before it. -/
theorem exists_complaint_of_applies {e : NumeralError} (h : Applies cs e) :
    ∃ e', complaint? (placed cs) = some e' ∧ precedence e' ≤ precedence e := by
  by_cases hne : placed cs = []
  · rw [hne]
    exact ⟨_, rfl, Nat.zero_le _⟩
  have hhead := List.head?_eq_some_head hne
  have hlast := List.getLast?_eq_some_getLast hne
  simp only [complaint?, hhead, hlast]
  cases e with
  | malformedExpression reason =>
    cases reason with
    | empty => exact absurd (applies_empty_iff.mp h) hne
    | leadingOperator =>
      obtain ⟨p, hp, hoperator⟩ := applies_leadingOperator_iff.mp h
      rw [hhead, Option.some_inj] at hp
      rw [hp, if_pos hoperator]
      exact ⟨_, rfl, Nat.le_refl _⟩
    | trailingOperator =>
      obtain ⟨p, hp, hoperator⟩ := applies_trailingOperator_iff.mp h
      rw [hlast, Option.some_inj] at hp
      rw [hp, if_pos hoperator]
      split
      · exact ⟨_, rfl, by decide⟩
      · exact ⟨_, rfl, Nat.le_refl _⟩
    | emptyOperand j =>
      rw [applies_emptyOperand_iff.mp h]
      split
      · exact ⟨_, rfl, by simp [precedence]⟩
      split
      · exact ⟨_, rfl, by simp [precedence]⟩
      split
      · exact ⟨_, rfl, by simp [precedence]⟩
      · exact ⟨_, rfl, Nat.le_refl _⟩
  | invalidCharacter i c =>
    rw [applies_invalidCharacter_iff.mp h]
    split
    · exact ⟨_, rfl, by simp [precedence]⟩
    split
    · exact ⟨_, rfl, by simp [precedence]⟩
    · exact ⟨_, rfl, Nat.le_refl _⟩
  | insufficientMagnitude => exact h.elim
  | unknownSymbol c => exact h.elim

/-- A reason points at one character at most. -/
theorem Applies.eq_of_precedence_eq {e e' : NumeralError} (h : Applies cs e) (h' : Applies cs e')
    (heq : precedence e = precedence e') : e = e' := by
  rcases e with ⟨i, c⟩ | (_ | _ | _ | j) | _ | _ <;> rcases e' with ⟨i', c'⟩ | (_ | _ | _ | j') | _ | _ <;>
    simp only [precedence, reduceCtorEq, Nat.reduceEqDiff] at heq <;> try rfl
  · rw [applies_invalidCharacter_iff] at h h'
    cases h.symm.trans h'
    rfl
  · rw [applies_emptyOperand_iff] at h h'
    cases h.symm.trans h'
    rfl
  all_goals exact h.elim

theorem complaint?_eq_some_iff {e : NumeralError} :
    complaint? (placed cs) = some e ↔ FirstComplaint cs e := by
  constructor
  · intro h
    refine ⟨applies_of_complaint? h, fun e' h' => ?_⟩
    obtain ⟨e'', hcomplaint, hle⟩ := exists_complaint_of_applies h'
    rw [h, Option.some_inj] at hcomplaint
    exact hcomplaint ▸ hle
  · intro h
    obtain ⟨e', hcomplaint, hle⟩ := exists_complaint_of_applies h.applies
    have happlies := applies_of_complaint? hcomplaint
    rw [hcomplaint, happlies.eq_of_precedence_eq h.applies (Nat.le_antisymm hle (h.first e' happlies))]

theorem isInputError_of_applies {e : NumeralError} (h : Applies cs e) : e.isInputError = true := by
  cases e with
  | invalidCharacter i c => rfl
  | malformedExpression reason => rfl
  | insufficientMagnitude => exact h.elim
  | unknownSymbol c => exact h.elim

/-! ### Strict reading -/

theorem readStrict_eq_error_iff {text : String} {e : NumeralError} :
    readStrict text = .error e ↔ FirstComplaint text.toList e := by
  rw [← complaint?_eq_some_iff]
  simp only [readStrict]
  split
  next e' he' => rw [he', Except.error.injEq, Option.some_inj]
  next hnone => simp [hnone]

/-- What the strict mode accepts is a text of the grammar, once the white space is left out. -/
theorem exists_readStrict_iff_mem_grammar {text : String} :
    (∃ ts, readStrict text = .ok ts) ↔ text.toList.filter (!isWhite ·) ∈ grammar.matches' := by
  simp only [readStrict_eq_ok_iff, mem_grammar]
  constructor
  · rintro ⟨ts, hts, htext⟩
    exact ⟨Chain.ofTokens ts, separated_iff_complete.mp hts, by rw [Chain.tokens_ofTokens, htext]⟩
  · rintro ⟨chain, hchain, htext⟩
    exact ⟨chain.tokens, separated_tokens hchain, htext⟩

theorem evaluateStrict_inputError_iff {text : String} :
    (∃ e, evaluateStrict text = .error e ∧ e.isInputError = true) ↔ ∃ e, readStrict text = .error e := by
  cases hread : readStrict text with
  | error e =>
    have hinput := isInputError_of_applies (readStrict_eq_error_iff.mp hread).applies
    exact iff_of_true ⟨e, evaluateStrict_of_complaint hread, hinput⟩ ⟨e, rfl⟩
  | ok ts =>
    -- A chain that has been read fails at most for want of something to take away.
    refine iff_of_false ?_ nofun
    rintro ⟨e, herror, hinput⟩
    rw [evaluateStrict_of_readStrict hread] at herror
    rw [Chain.atMostShort_evaluate _ e herror] at hinput
    cases hinput

/-- **Strict reading** accepts the grammar and cuts its words into operands that are read back; about
any other text it makes the first complaint that applies, and evaluation makes no further one. -/
theorem readStrict_grammar_or_complaint (text : String) :
    ((∃ ts, read .strict text = .ok ts) ↔ text.toList.filter (!isWhite ·) ∈ grammar.matches') ∧
      (∀ ts, read .strict text = .ok ts →
        (Token.text ts).toList = text.toList.filter (!isWhite ·) ∧
          List.Forall₂ (fun piece w => piece ≠ [] ∧ Numeral.parse (String.ofList piece) = .ok w)
            (pieces isOperatorChar (Token.text ts).toList) (Chain.ofTokens ts).operands) ∧
      (∀ e, read .strict text = .error e ↔ FirstComplaint text.toList e) ∧
      ((∃ e, evaluateStrict text = .error e ∧ e.isInputError = true) ↔
        ∃ e, read .strict text = .error e) := by
  refine ⟨exists_readStrict_iff_mem_grammar, fun ts hts => ?_, fun e => readStrict_eq_error_iff,
    evaluateStrict_inputError_iff⟩
  obtain ⟨hseparated, htext⟩ := readStrict_eq_ok_iff.mp hts
  have hpieces := parse_pieces (separated_iff_complete.mp hseparated)
  rw [Chain.tokens_ofTokens] at hpieces
  rw [Token.text, String.toList_ofList]
  exact ⟨htext.symm, hpieces⟩

theorem readStrict_grammar_or_complaint_adjacent :
    (['X', '+', 'I', 'V'] ∈ grammar.matches' ∧
      read .strict (String.ofList ['X', ' ', '+', '\t', 'I', 'V'])
        = .ok [.symbol .X, .operator .add, .symbol .I, .symbol .V] ∧
      List.Forall₂ (fun piece w => piece ≠ [] ∧ Numeral.parse (String.ofList piece) = .ok w)
        [['X'], ['I', 'V']] [[.X], [.I, .V]]) ∧
    FirstComplaint ['X', ' ', '+', '\u2003', '-', 'V'] (.malformedExpression (.emptyOperand 4)) ∧
      FirstComplaint ['é', '+', ' ', '-', 'V'] (.invalidCharacter 0 'é') := by
  have hsum : read .strict (String.ofList ['X', ' ', '+', '\t', 'I', 'V'])
      = .ok [.symbol .X, .operator .add, .symbol .I, .symbol .V] := by
    rw [read, readStrict, String.toList_ofList]
    decide
  have hadjacent : read .strict (String.ofList ['X', ' ', '+', '\u2003', '-', 'V'])
      = .error (.malformedExpression (.emptyOperand 4)) := by
    rw [read, readStrict, String.toList_ofList]
    decide
  have hforeign : read .strict (String.ofList ['é', '+', ' ', '-', 'V'])
      = .error (.invalidCharacter 0 'é') := by
    rw [read, readStrict, String.toList_ofList]
    decide
  obtain ⟨hgrammar, hoperands, _, _⟩ :=
    readStrict_grammar_or_complaint (String.ofList ['X', ' ', '+', '\t', 'I', 'V'])
  obtain ⟨_, _, hfirst, _⟩ :=
    readStrict_grammar_or_complaint (String.ofList ['X', ' ', '+', '\u2003', '-', 'V'])
  obtain ⟨_, _, hfirst', _⟩ := readStrict_grammar_or_complaint (String.ofList ['é', '+', ' ', '-', 'V'])
  have hword := hgrammar.mp ⟨_, hsum⟩
  have hpieces := (hoperands _ hsum).2
  have hcomplaint := (hfirst _).mp hadjacent
  have hcomplaint' := (hfirst' _).mp hforeign
  rw [String.toList_ofList] at hword hcomplaint hcomplaint'
  rw [Token.text, String.toList_ofList] at hpieces
  exact ⟨⟨hword, hsum, hpieces⟩, hcomplaint, hcomplaint'⟩

end Roman.Expression
