import Roman.Operator

/-!
# Tokens

A chain of numerals and operators is written with nine characters: the seven letters and the two
operators. A token is one of them, so a list of tokens is a text in which nothing else occurs.
-/

namespace Roman

inductive Token
  | symbol (s : Symbol)
  | operator (o : Operator)
  deriving DecidableEq

namespace Token

def glyph : Token → Char
  | .symbol s => s.glyph
  | .operator o => o.glyph

def ofChar? (c : Char) : Option Token :=
  match Symbol.ofGlyph? c with
  | some s => some (.symbol s)
  | none => (Operator.ofChar? c).map .operator

def isOperator : Token → Bool
  | .symbol _ => false
  | .operator _ => true

/-- The tokens as a text. -/
def text (ts : List Token) : String := String.ofList (ts.map glyph)

theorem ofChar?_glyph (t : Token) : ofChar? t.glyph = some t := by
  rcases t with s | o
  · simp [ofChar?, glyph, Symbol.ofGlyph?_glyph]
  · cases o <;> decide

theorem glyph_of_ofChar? {c : Char} {t : Token} (h : ofChar? c = some t) : t.glyph = c := by
  unfold ofChar? at h
  split at h
  next s hs =>
    cases h
    exact Symbol.glyph_of_ofGlyph? hs
  next =>
    obtain ⟨o, ho, rfl⟩ := Option.map_eq_some_iff.mp h
    exact Operator.glyph_of_ofChar? ho

end Token

end Roman
