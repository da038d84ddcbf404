import Roman.Challenge.Basic
import Roman.Challenge.Draw

/-!
# Pools of challenges

A pool lists the numerals and the operators that challenges are made from. Only a pool with two
numerals and an operator can make one, and a generator is such a pool.
-/

namespace Roman

@[ext]
structure Pool where
  numerals : List Numeral
  operators : List Operator
  deriving DecidableEq

namespace Pool

def defaultNumerals : List Numeral :=
  ["XII", "VII", "XIX", "IV", "XL", "IX", "MCMLXXXVIII", "MLXVI"].filterMap fun literal =>
    (Numeral.parse literal).toOption

def defaultOperators : List Operator := [.add, .subtract]

/-- The pool that is used where none is given. -/
def standard : Pool := ⟨defaultNumerals, defaultOperators⟩

end Pool

/-- A pool from which two numerals at different positions and an operator can be picked. -/
structure Generator extends Pool where
  two_le_numerals : 2 ≤ numerals.length
  operators_pos : 0 < operators.length

namespace Generator

/-- Too few numerals are noticed before missing operators. -/
def ofPool (pool : Pool) : Except ChallengeError Generator :=
  if hn : 2 ≤ pool.numerals.length then
    if ho : 0 < pool.operators.length then .ok ⟨pool, hn, ho⟩
    else .error .noOperators
  else .error (.poolTooSmall pool.numerals.length)

/-- Picks the operands and then the operator. -/
def pick (g : Generator) : Draw (Numeral × Numeral × Operator) := do
  let (first, second) ← Draw.twoPositions g.two_le_numerals
  let o ← Draw.below g.operators.length g.operators_pos
  return (g.numerals.get first, g.numerals.get second, g.operators.get o)

def generate (g : Generator) : Draw (Except ChallengeError Challenge) := do
  let (left, right, operator) ← g.pick
  return Challenge.ofNumerals left right operator

end Generator

end Roman
