import Roman.Numeral.Arithmetic
import Roman.Text.Pieces

/-!
# Operators

The two operators between numerals. Applying one gives a canonical numeral.
-/

namespace Roman

inductive Operator
  | add
  | subtract
  deriving DecidableEq

/-- A text that names no operator, without the white space around it. -/
structure UnknownOperator where
  text : String

namespace UnknownOperator

def message (e : UnknownOperator) : String := "Unknown operator: " ++ Quoted.text e.text

end UnknownOperator

namespace Operator

def glyph : Operator → Char
  | .add => '+'
  | .subtract => '-'

def ofChar? : Char → Option Operator
  | '+' => some .add
  | '-' => some .subtract
  | _ => none

instance : ToString Operator := ⟨fun o => o.glyph.toString⟩

/-- Reads an operator with white space around it. -/
def parse (text : String) : Except UnknownOperator Operator :=
  let trimmed := trimEnds isWhite text.toList
  let operator? := match trimmed with
    | [c] => ofChar? c
    | _ => none
  match operator? with
  | some o => .ok o
  | none => .error ⟨String.ofList trimmed⟩

def apply : Operator → Numeral → Numeral → Except NumeralError Numeral
  | .add => Numeral.add
  | .subtract => Numeral.sub

theorem ofChar?_glyph (o : Operator) : ofChar? o.glyph = some o := by
  cases o <;> rfl

theorem glyph_of_ofChar? {c : Char} {o : Operator} (h : ofChar? c = some o) : o.glyph = c := by
  unfold ofChar? at h
  split at h <;> cases h <;> rfl

end Operator

end Roman
