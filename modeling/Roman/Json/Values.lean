import Roman.Challenge.Pool
import Roman.Json.Reader
import Roman.Json.Writer

/-!
# Numerals, operators and pools as JSON

A letter, an operator and a reading mode are written by name, a numeral as its text, and a pool as a
record in which each of the two lists may be left out.
-/

namespace Roman.Json

/-- The name of a mode. -/
def modeName : Expression.Mode → String
  | .strict => "strict"
  | .lenient => "lenient"

/-- What is said to be the name of a value, among all values of its kind. -/
def named? (values : List α) (nameOf : α → String) (name : String) : Option α :=
  values.find? fun a => nameOf a = name

/-- A pool of which some fields have been read. -/
structure PartialPool where
  numerals : Option (List Numeral)
  operators : Option (List Operator)

namespace PartialPool

def empty : PartialPool := ⟨none, none⟩

/-- Gives every list that has not been read the value for a list that is left out. -/
def complete (p : PartialPool) : Pool where
  numerals := p.numerals.getD Pool.defaultNumerals
  operators := p.operators.getD Pool.defaultOperators

end PartialPool

namespace Reader

def symbol : Reader Symbol := variant (named? Symbol.alphabet toString)

def operator : Reader Operator := variant (named? [.add, .subtract] toString)

def mode : Reader Expression.Mode := variant (named? [.strict, .lenient] modeName)

def numeral : Reader Numeral := do
  let literal ← string
  fun ts =>
    match Numeral.parse literal with
    | .ok w => .ok (w, ts)
    | .error e => .error (.numeral e)

def poolFields : List (Field PartialPool) :=
  [.once "numerals" PartialPool.numerals (fun p ws => { p with numerals := some ws }) (list numeral),
    .once "operators" PartialPool.operators (fun p os => { p with operators := some os })
      (list operator)]

def pool : Reader Pool := do return (← record poolFields PartialPool.empty).complete

end Reader

namespace Writer

def symbol (s : Symbol) : List Char := string (toString s)

def operator (o : Operator) : List Char := string (toString o)

def mode (m : Expression.Mode) : List Char := string (modeName m)

def numeral (w : Numeral) : List Char := string w.text

def poolMembers (p : Pool) : List (String × List Char) :=
  [("numerals", list (p.numerals.map numeral)), ("operators", list (p.operators.map operator))]

def pool (p : Pool) : List Char := object (poolMembers p)

end Writer

end Roman.Json
