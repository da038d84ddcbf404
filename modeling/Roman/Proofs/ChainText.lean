import Mathlib.Data.List.Chain
import Roman.Expression.Chain
import Roman.Proofs.Outcome
/-!
# A chain and its text

A chain is written as its operands with the operators between them. With white space put in anywhere,
that text has nothing to complain about if no operand is empty, and what is read from it is the chain.
-/

namespace Roman

/-- The operands and operators one after the other. -/
def Chain.tokens (chain : Chain) : List Token :=
  chain.first.map .symbol ++ chain.steps.flatMap fun step => .operator step.1 :: step.2.map .symbol

theorem Chain.tokens_nil (first : Numeral) : (⟨first, []⟩ : Chain).tokens = first.map .symbol :=
  List.append_nil _

theorem Chain.tokens_cons (first : Numeral) (step : Operator × Numeral) (steps : List (Operator × Numeral)) :
    (⟨first, step :: steps⟩ : Chain).tokens
      = first.map .symbol ++ .operator step.1 :: (⟨step.2, steps⟩ : Chain).tokens := by
  simp [tokens]

namespace Chain

theorem ofTokens_symbols (w : Numeral) (ts : List Token) :
    ofTokens (w.map .symbol ++ ts) = ⟨w ++ (ofTokens ts).first, (ofTokens ts).steps⟩ := by
  induction w with
  | nil => rfl
  | cons s w ih => rw [List.map_cons, List.cons_append, ofTokens, ih, List.cons_append]

/-- The tokens of a chain fall into its operands. -/
theorem ofTokens_tokens (chain : Chain) : ofTokens chain.tokens = chain := by
  obtain ⟨first, steps⟩ := chain
  induction steps generalizing first with
  | nil =>
    have hsymbols := ofTokens_symbols first []
    rw [List.append_nil] at hsymbols
    rw [tokens_nil, hsymbols, ofTokens, List.append_nil]
  | cons step steps ih => rw [tokens_cons, ofTokens_symbols, ofTokens, ih step.2, List.append_nil]

theorem tokens_ofTokens (ts : List Token) : (ofTokens ts).tokens = ts := by
  induction ts with
  | nil => rfl
  | cons t ts ih =>
    cases t with
    | symbol s => rw [ofTokens, tokens, List.map_cons, List.cons_append, ← tokens, ih]
    | operator o => rw [ofTokens, tokens_cons, List.map_nil, List.nil_append, ih]

/-- No operand is empty. -/
def Complete (chain : Chain) : Prop := chain.first ≠ [] ∧ ∀ step ∈ chain.steps, step.2 ≠ []

instance (chain : Chain) : Decidable chain.Complete := inferInstanceAs (Decidable (_ ∧ _))

end Chain

namespace Expression

/-- Operators stand between operands only. -/
structure Separated (ts : List Token) : Prop where
  head : ∃ s, ts.head? = some (.symbol s)
  last : ∃ s, ts.getLast? = some (.symbol s)
  apart : ts.IsChain fun t t' => t.isOperator = true → t'.isOperator = false

theorem separated_symbols {w : Numeral} (hw : w ≠ []) : Separated (w.map .symbol) where
  head := by
    obtain ⟨s, w, rfl⟩ := List.exists_cons_of_ne_nil hw
    exact ⟨s, rfl⟩
  last := by
    obtain ⟨w, s, rfl⟩ := (List.eq_nil_or_concat' w).resolve_left hw
    exact ⟨s, by simp⟩
  apart := by
    rw [List.isChain_map]
    exact (List.pairwise_of_forall fun _ _ hoperator => nomatch hoperator).isChain

theorem separated_tokens {chain : Chain} (hchain : chain.Complete) : Separated chain.tokens := by
  obtain ⟨first, steps⟩ := chain
  induction steps generalizing first with
  | nil =>
    rw [Chain.tokens_nil]
    exact separated_symbols hchain.1
  | cons step steps ih =>
    obtain ⟨hfirst, hsteps⟩ := hchain
    have hstep := separated_symbols hfirst
    have hrest := ih step.2 ⟨hsteps step List.mem_cons_self, fun x hx =>
      hsteps x (List.mem_cons_of_mem step hx)⟩
    rw [Chain.tokens_cons]
    refine ⟨?_, ?_, ?_⟩
    · obtain ⟨s, hs⟩ := hstep.head
      exact ⟨s, by rw [List.head?_append, hs]; rfl⟩
    · obtain ⟨s, hs⟩ := hrest.last
      exact ⟨s, by rw [List.getLast?_append, List.getLast?_cons, hs]; rfl⟩
    · refine List.isChain_append.mpr ⟨hstep.apart, List.isChain_cons.mpr ⟨?_, hrest.apart⟩, ?_⟩
      · obtain ⟨s, hs⟩ := hrest.head
        intro t ht _
        rw [hs, Option.mem_some_iff] at ht
        rw [← ht]
        rfl
      · obtain ⟨s, hs⟩ := hstep.last
        intro t ht _ _ hoperator
        rw [hs, Option.mem_some_iff] at ht
        rw [← ht] at hoperator
        cases hoperator

/-! ### Reading -/

theorem isOperatorChar_glyph (t : Token) : isOperatorChar t.glyph = t.isOperator := by
  rcases t with s | o
  · cases s <;> rfl
  · cases o <;> rfl

theorem map_fst_placed (cs : List Char) : (placed cs).map Prod.fst = cs.filter (!isWhite ·) := by
  have hfilter := List.filter_map (f := Prod.fst) (p := (!isWhite ·)) (l := cs.zipIdx)
  rw [List.zipIdx_map_fst] at hfilter
  exact hfilter.symm

theorem filterMap_placed (cs : List Char) : (placed cs).filterMap (fun p => Token.ofChar? p.1)
    = (cs.filter (!isWhite ·)).filterMap Token.ofChar? := by
  rw [← map_fst_placed, List.filterMap_map]
  rfl

theorem emptyOperand?_eq_none_iff {ps : List (Char × Nat)} : emptyOperand? ps = none ↔
    ps.IsChain fun p q => isOperatorChar p.1 = true → isOperatorChar q.1 = false := by
  induction ps with
  | nil => simp [emptyOperand?]
  | cons p ps ih =>
    cases ps with
    | nil => simp [emptyOperand?]
    | cons q rest =>
      rw [List.isChain_cons_cons, ← ih, emptyOperand?]
      cases isOperatorChar p.1 <;> cases isOperatorChar q.1 <;> simp

theorem complaint?_eq_none_iff {ps : List (Char × Nat)} : complaint? ps = none ↔
    (∃ p, ps.head? = some p ∧ isOperatorChar p.1 = false) ∧
      (∃ p, ps.getLast? = some p ∧ isOperatorChar p.1 = false) ∧
      (∀ p ∈ ps, Token.ofChar? p.1 ≠ none) ∧ emptyOperand? ps = none := by
  have hknown : ps.find? (fun p => (Token.ofChar? p.1).isNone) = none ↔
      ∀ p ∈ ps, Token.ofChar? p.1 ≠ none := by
    simp [List.find?_eq_none, Option.isNone_iff_eq_none]
  rw [← hknown]
  unfold complaint?
  split
  next first last hfirst hlast =>
    rw [hfirst, hlast]
    cases hhead : isOperatorChar first.1 <;> cases hend : isOperatorChar last.1 <;>
      cases ps.find? (fun p => (Token.ofChar? p.1).isNone) <;> simp [hhead, hend]
  next hnone =>
    constructor
    · intro h
      cases h
    · intro h
      obtain ⟨⟨first, hfirst, _⟩, ⟨last, hlast, _⟩, _⟩ := h
      exact absurd hlast (hnone first last hfirst)

theorem exists_symbol_iff {x : Option (Char × Nat)} {y : Option Token}
    (h : x.map Prod.fst = y.map Token.glyph) :
    (∃ p, x = some p ∧ isOperatorChar p.1 = false) ↔ ∃ s, y = some (.symbol s) := by
  cases x with
  | none =>
    cases y with
    | none => simp
    | some t => cases h
  | some p =>
    cases y with
    | none => cases h
    | some t =>
      have hp : p.1 = t.glyph := Option.some.inj h
      simp only [Option.some.injEq, exists_eq_left', hp, isOperatorChar_glyph]
      cases t <;> simp [Token.isOperator]

/-- There is a reason to complain about a text of tokens unless its operands are separated. -/
theorem complaint?_eq_none_iff_separated {ps : List (Char × Nat)} {ts : List Token}
    (hps : ps.map Prod.fst = ts.map Token.glyph) : complaint? ps = none ↔ Separated ts := by
  have hhead : ps.head?.map Prod.fst = ts.head?.map Token.glyph := by
    rw [← List.head?_map, hps, List.head?_map]
  have hlast : ps.getLast?.map Prod.fst = ts.getLast?.map Token.glyph := by
    rw [← List.getLast?_map, hps, List.getLast?_map]
  have hknown : ∀ p ∈ ps, Token.ofChar? p.1 ≠ none := by
    intro p hp
    have hmem : p.1 ∈ ts.map Token.glyph := hps ▸ List.mem_map_of_mem hp
    obtain ⟨t, _, ht⟩ := List.mem_map.mp hmem
    rw [← ht, Token.ofChar?_glyph]
    simp
  have hapart : emptyOperand? ps = none ↔
      ts.IsChain fun t t' => t.isOperator = true → t'.isOperator = false := by
    rw [emptyOperand?_eq_none_iff, ← List.isChain_map Prod.fst (R := fun c c' =>
      isOperatorChar c = true → isOperatorChar c' = false), hps, List.isChain_map]
    simp only [isOperatorChar_glyph]
  rw [complaint?_eq_none_iff, exists_symbol_iff hhead, exists_symbol_iff hlast, hapart]
  exact ⟨fun h => ⟨h.1, h.2.1, h.2.2.2⟩, fun h => ⟨h.head, h.last, hknown, h.apart⟩⟩

theorem exists_tokens {cs : List Char} (h : ∀ c ∈ cs, Token.ofChar? c ≠ none) :
    ∃ ts : List Token, cs = ts.map Token.glyph := by
  induction cs with
  | nil => exact ⟨[], rfl⟩
  | cons c cs ih =>
    obtain ⟨hc, hcs⟩ := List.forall_mem_cons.mp h
    obtain ⟨t, ht⟩ := Option.ne_none_iff_exists'.mp hc
    obtain ⟨ts, rfl⟩ := ih hcs
    exact ⟨t :: ts, by rw [List.map_cons, Token.glyph_of_ofChar? ht]⟩

theorem filterMap_glyph (ts : List Token) : (ts.map Token.glyph).filterMap Token.ofChar? = ts := by
  have hglyphs : Token.ofChar? ∘ Token.glyph = some := funext Token.ofChar?_glyph
  rw [List.filterMap_map, hglyphs, List.filterMap_some]

/-- **Strict reading** accepts the texts of separated operands, with white space anywhere. -/
theorem readStrict_eq_ok_iff {text : String} {ts : List Token} : readStrict text = .ok ts ↔
    Separated ts ∧ text.toList.filter (!isWhite ·) = ts.map Token.glyph := by
  simp only [readStrict, filterMap_placed, ← map_fst_placed]
  constructor
  · intro h
    split at h
    · cases h
    next hnone =>
      have hknown : ∀ c ∈ (placed text.toList).map Prod.fst, Token.ofChar? c ≠ none := by
        rw [List.forall_mem_map]
        exact (complaint?_eq_none_iff.mp hnone).2.2.1
      obtain ⟨ts', hts'⟩ := exists_tokens hknown
      rw [hts', filterMap_glyph] at h
      cases h
      exact ⟨(complaint?_eq_none_iff_separated hts').mp hnone, hts'⟩
  · intro h
    obtain ⟨hseparated, htext⟩ := h
    simp only [(complaint?_eq_none_iff_separated htext).mpr hseparated, htext, filterMap_glyph]

theorem isWhite_glyph (t : Token) : isWhite t.glyph = false := by
  rcases t with s | o
  · cases s <;> decide
  · cases o <;> decide

theorem filter_glyphs (ts : List Token) : (ts.map Token.glyph).filter (!isWhite ·) = ts.map Token.glyph := by
  rw [List.filter_eq_self, List.forall_mem_map]
  intro t _
  rw [isWhite_glyph]
  rfl

theorem readStrict_text {ts : List Token} (hts : Separated ts) : readStrict (Token.text ts) = .ok ts := by
  refine readStrict_eq_ok_iff.mpr ⟨hts, ?_⟩
  rw [Token.text, String.toList_ofList, filter_glyphs]

theorem evaluateStrict_of_readStrict {text : String} {ts : List Token} (h : readStrict text = .ok ts) :
    evaluateStrict text = (Chain.ofTokens ts).evaluate := by
  show (do (Chain.ofTokens (← readStrict text)).evaluate) = _
  rw [h, except_bind_ok]

theorem evaluateStrict_of_complaint {text : String} {e : NumeralError} (h : readStrict text = .error e) :
    evaluateStrict text = .error e := by
  show (do (Chain.ofTokens (← readStrict text)).evaluate) = _
  rw [h, except_bind_error]

/-- A chain is read back from its text, whatever white space is in it. -/
theorem evaluateStrict_text {text : String} {chain : Chain} (hchain : chain.Complete)
    (htext : text.toList.filter (!isWhite ·) = chain.tokens.map Token.glyph) :
    evaluateStrict text = chain.evaluate := by
  rw [evaluateStrict_of_readStrict (readStrict_eq_ok_iff.mpr ⟨separated_tokens hchain, htext⟩),
    Chain.ofTokens_tokens]

end Expression

end Roman
