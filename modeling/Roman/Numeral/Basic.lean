import Roman.Error
import Roman.Symbol

/-!
# Numerals

A numeral is a word over the letters, and the empty word is zero. No form is preferred: a word may
subtract, repeat and misorder as it likes, and what it denotes is the business of
`Roman.Numeral.Additive`. Equality of numerals is equality of words.
-/

namespace Roman

abbrev Numeral := List Symbol

namespace Numeral

/-- Reads characters of which the first stands at `position` of the literal. -/
def readFrom (position : Nat) : List Char → Except NumeralError Numeral
  | [] => .ok []
  | c :: rest =>
    match Symbol.ofGlyph? c with
    | some s => (readFrom (position + 1) rest).map (s :: ·)
    | none => .error (.invalidCharacter position c)

/-- Reads a literal; the leftmost character that is no letter of the alphabet is the error. -/
def parse (literal : String) : Except NumeralError Numeral := readFrom 0 literal.toList

def text (w : Numeral) : String := String.ofList (w.map Symbol.glyph)

/-- The same letters from the highest to the lowest. -/
def gather (w : Numeral) : Numeral :=
  Symbol.descending.flatMap fun s => List.replicate (w.count s) s

theorem readFrom_glyphs (position : Nat) (w : Numeral) :
    readFrom position (w.map Symbol.glyph) = .ok w := by
  induction w generalizing position with
  | nil => rfl
  | cons s w ih => simp [readFrom, Symbol.ofGlyph?_glyph, ih, Except.map]

theorem parse_text (w : Numeral) : parse w.text = .ok w := by
  simp [parse, text, readFrom_glyphs]

end Numeral

end Roman
