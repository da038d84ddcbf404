import Mathlib.Computability.RegularExpressions
import Roman.Proofs.Lenient
/-!
# The grammar of strict expressions

The strict mode looks at the first token, at the last one and at neighbouring ones, and these local
checks amount to a regular language: a numeral of at least one letter, and any number of further such
numerals with an operator in front of each. A word of the language is cut at its operators into the
operands of the chain that it is read as.
-/

namespace Roman

open RegularExpression (char star)

namespace Chain

/-- The numerals between the operators. -/
def operands (chain : Chain) : List Numeral := chain.first :: chain.steps.map Prod.snd

theorem Complete.operands_ne_nil {chain : Chain} (hchain : chain.Complete) :
    ∀ w ∈ chain.operands, w ≠ [] := by
  obtain ⟨hfirst, hsteps⟩ := hchain
  rw [operands, List.forall_mem_cons, List.forall_mem_map]
  exact ⟨hfirst, hsteps⟩

end Chain

namespace Expression

/-- One character of a list. -/
def oneOf (cs : List Char) : RegularExpression Char := cs.foldr (fun c r => char c + r) 0

def letter : RegularExpression Char := oneOf ['I', 'V', 'X', 'L', 'C', 'D', 'M']

def sign : RegularExpression Char := oneOf ['+', '-']

/-- At least one letter. -/
def numeral : RegularExpression Char := letter * star letter

def grammar : RegularExpression Char := numeral * star (sign * numeral)

variable {w : List Char}

/-! ### The words of the grammar -/

theorem mem_oneOf {cs : List Char} : w ∈ (oneOf cs).matches' ↔ ∃ c ∈ cs, w = [c] := by
  induction cs with
  | nil => simp [oneOf, Language.notMem_zero]
  | cons c cs ih =>
    rw [oneOf, List.foldr_cons, ← oneOf, RegularExpression.matches'_add, Language.mem_add, ih,
      List.exists_mem_cons_iff]
    rfl

theorem mem_letter : w ∈ letter.matches' ↔ ∃ s : Symbol, w = [s.glyph] := by
  have hletters : ['I', 'V', 'X', 'L', 'C', 'D', 'M'] = Symbol.alphabet.map Symbol.glyph := rfl
  rw [letter, mem_oneOf, hletters]
  simp [Symbol.mem_alphabet]

theorem mem_sign : w ∈ sign.matches' ↔ ∃ o : Operator, w = [o.glyph] := by
  rw [sign, mem_oneOf]
  constructor
  · simp only [List.mem_cons, List.not_mem_nil, or_false, exists_eq_or_imp, exists_eq_left]
    rintro (rfl | rfl)
    exacts [⟨.add, rfl⟩, ⟨.subtract, rfl⟩]
  · intro hw
    obtain ⟨o, rfl⟩ := hw
    cases o <;> simp [Operator.glyph]

/-- What a star repeats is written one after the other. -/
theorem mem_star_iff {β : Type} {r : RegularExpression Char} {P : β → Prop} {g : β → List Char}
    (hr : ∀ w, w ∈ r.matches' ↔ ∃ b, P b ∧ w = g b) :
    w ∈ (star r).matches' ↔ ∃ bs : List β, (∀ b ∈ bs, P b) ∧ w = bs.flatMap g := by
  rw [RegularExpression.matches'_star, Language.mem_kstar]
  constructor
  · intro hw
    obtain ⟨parts, rfl, hparts⟩ := hw
    induction parts with
    | nil => exact ⟨[], List.forall_mem_nil _, rfl⟩
    | cons part parts ih =>
      obtain ⟨hpart, hrest⟩ := List.forall_mem_cons.mp hparts
      obtain ⟨b, hb, rfl⟩ := (hr part).mp hpart
      obtain ⟨bs, hbs, heq⟩ := ih hrest
      refine ⟨b :: bs, List.forall_mem_cons.mpr ⟨hb, hbs⟩, ?_⟩
      rw [List.flatten_cons, List.flatMap_cons, heq]
  · intro hw
    obtain ⟨bs, hbs, rfl⟩ := hw
    refine ⟨bs.map g, List.flatMap_def .., ?_⟩
    rw [List.forall_mem_map]
    exact fun b hb => (hr (g b)).mpr ⟨b, hbs b hb, rfl⟩

theorem mem_numeral : w ∈ numeral.matches' ↔ ∃ v : Numeral, v ≠ [] ∧ w = v.map Symbol.glyph := by
  have hletter : ∀ w, w ∈ letter.matches' ↔ ∃ s : Symbol, True ∧ w = [s.glyph] := by
    simp [mem_letter]
  rw [numeral, RegularExpression.matches'_mul, Language.mem_mul]
  constructor
  · intro hw
    obtain ⟨_, hhead, _, hrest, rfl⟩ := hw
    obtain ⟨s, rfl⟩ := mem_letter.mp hhead
    obtain ⟨v, _, rfl⟩ := (mem_star_iff hletter).mp hrest
    exact ⟨s :: v, List.cons_ne_nil s v, by rw [← List.map_eq_flatMap]; rfl⟩
  · intro hw
    obtain ⟨v, hne, rfl⟩ := hw
    obtain ⟨s, v, rfl⟩ := List.exists_cons_of_ne_nil hne
    refine ⟨[s.glyph], mem_letter.mpr ⟨s, rfl⟩, v.map Symbol.glyph, ?_, rfl⟩
    exact (mem_star_iff hletter).mpr ⟨v, fun _ _ => trivial, List.map_eq_flatMap⟩

theorem mem_step : w ∈ (sign * numeral).matches' ↔
    ∃ step : Operator × Numeral, step.2 ≠ [] ∧ w = step.1.glyph :: step.2.map Symbol.glyph := by
  rw [RegularExpression.matches'_mul, Language.mem_mul]
  constructor
  · intro hw
    obtain ⟨_, hsign, _, hnumeral, rfl⟩ := hw
    obtain ⟨o, rfl⟩ := mem_sign.mp hsign
    obtain ⟨v, hne, rfl⟩ := mem_numeral.mp hnumeral
    exact ⟨(o, v), hne, rfl⟩
  · intro hw
    obtain ⟨step, hne, rfl⟩ := hw
    exact ⟨[step.1.glyph], mem_sign.mpr ⟨step.1, rfl⟩, _, mem_numeral.mpr ⟨step.2, hne, rfl⟩, rfl⟩

theorem map_glyph_tokens (chain : Chain) : chain.tokens.map Token.glyph
    = chain.first.map Symbol.glyph
      ++ chain.steps.flatMap fun step => step.1.glyph :: step.2.map Symbol.glyph := by
  simp [Chain.tokens, List.map_flatMap, Function.comp_def, Token.glyph]

/-- **The grammar** is that of the chains in which no operand is empty. -/
theorem mem_grammar : w ∈ grammar.matches' ↔
    ∃ chain : Chain, chain.Complete ∧ w = chain.tokens.map Token.glyph := by
  rw [grammar, RegularExpression.matches'_mul, Language.mem_mul]
  constructor
  · intro hw
    obtain ⟨_, hfirst, _, hrest, rfl⟩ := hw
    obtain ⟨v, hne, rfl⟩ := mem_numeral.mp hfirst
    obtain ⟨steps, hsteps, rfl⟩ := (mem_star_iff fun _ => mem_step).mp hrest
    exact ⟨⟨v, steps⟩, ⟨hne, hsteps⟩, (map_glyph_tokens ⟨v, steps⟩).symm⟩
  · intro hw
    obtain ⟨chain, ⟨hfirst, hsteps⟩, rfl⟩ := hw
    refine ⟨_, mem_numeral.mpr ⟨chain.first, hfirst, rfl⟩, _, ?_, (map_glyph_tokens chain).symm⟩
    exact (mem_star_iff fun _ => mem_step).mpr ⟨chain.steps, hsteps, rfl⟩

/-! ### Separated tokens -/

theorem condense_of_apart {ts : List Token}
    (hts : ts.IsChain fun t t' => t.isOperator = true → t'.isOperator = false) : condense ts = ts := by
  induction ts using condense.induct with
  | case1 => rfl
  | case2 t => rfl
  | case3 t t' ts hboth ih =>
    simp only [Bool.and_eq_true] at hboth
    rw [List.isChain_cons_cons] at hts
    rw [hts.1 hboth.1] at hboth
    cases hboth.2
  | case4 t t' ts hnot ih =>
    rw [List.isChain_cons_cons] at hts
    rw [condense, if_neg hnot, ih hts.2]

/-- Tokens are separated if and only if no operand between them is empty. -/
theorem separated_iff_complete {ts : List Token} : Separated ts ↔ (Chain.ofTokens ts).Complete := by
  constructor
  · intro hts
    obtain ⟨s, hs⟩ := hts.head
    obtain ⟨s', hs'⟩ := hts.last
    have hlast : ∀ t ∈ ts.getLast?, t.isOperator = false := by
      rw [hs']
      simp [Token.isOperator]
    have hhead : ∀ t ∈ ts.head?, t.isOperator = false := by
      rw [hs]
      simp [Token.isOperator]
    have hne : ts ≠ [] := by
      intro hnil
      rw [hnil] at hs
      cases hs
    -- Nothing is left out when tokens that stand apart are condensed, so the chain is compact.
    rw [← condense_of_apart hts.apart, ofTokens_condense hlast]
    exact Chain.complete_compact (first_ofTokens_ne_nil hne hhead)
  · intro hchain
    rw [← Chain.tokens_ofTokens ts]
    exact separated_tokens hchain

/-! ### Cutting at the operators -/

theorem isOperatorChar_of_mem_glyphs (w : Numeral) :
    ∀ c ∈ w.map Symbol.glyph, isOperatorChar c = false := by
  rw [List.forall_mem_map]
  exact fun s _ => isOperatorChar_glyph (.symbol s)

/-- The text of a chain is cut at its operators into the texts of the operands. -/
theorem pieces_tokens (chain : Chain) : pieces isOperatorChar (chain.tokens.map Token.glyph)
    = chain.operands.map fun w => w.map Symbol.glyph := by
  obtain ⟨first, steps⟩ := chain
  induction steps generalizing first with
  | nil =>
    rw [map_glyph_tokens, List.flatMap_nil, List.append_nil]
    exact pieces_of_none (isOperatorChar_of_mem_glyphs first)
  | cons step steps ih =>
    have hoperator : isOperatorChar step.1.glyph = true := isOperatorChar_glyph (.operator step.1)
    have hrest := ih step.2
    rw [map_glyph_tokens] at hrest
    rw [map_glyph_tokens, List.flatMap_cons, List.cons_append,
      pieces_append_cons (isOperatorChar_of_mem_glyphs first) hoperator, hrest]
    rfl

/-- Every piece is the text of an operand, from which the operand is read. -/
theorem parse_pieces {chain : Chain} (hchain : chain.Complete) :
    List.Forall₂ (fun piece w => piece ≠ [] ∧ Numeral.parse (String.ofList piece) = .ok w)
      (pieces isOperatorChar (chain.tokens.map Token.glyph)) chain.operands := by
  rw [pieces_tokens, List.forall₂_map_left_iff, List.forall₂_same]
  intro w hw
  exact ⟨by simpa using hchain.operands_ne_nil w hw, Numeral.parse_text w⟩

end Expression

end Roman
