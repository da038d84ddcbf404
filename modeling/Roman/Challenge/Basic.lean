import Roman.Expression.Chain

/-!
# Challenges

A challenge is a question of two operands and one operator together with its answer. Its answer is a
field that comes with the computation it is the result of, so every challenge has been worked out. A
subtraction that cannot be carried out is asked the other way round.

An answer is read leniently and passes if it is equivalent to the expected one.
-/

namespace Roman

inductive ChallengeError
  | numeral (cause : NumeralError)
  /-- Two different numerals cannot be picked from `size`. -/
  | poolTooSmall (size : Nat)
  | noOperators
  deriving DecidableEq

namespace ChallengeError

def message : ChallengeError → String
  | .numeral cause => "Numeral error: " ++ cause.message
  | .poolTooSmall size => s!"Challenge pool needs at least two numerals, got {size}"
  | .noOperators => "No operators configured for challenges"

end ChallengeError

inductive Verdict
  | pass
  /-- The answer given is missing if it could not be evaluated. -/
  | fail (expected : Numeral) (given : Option Numeral)
  deriving DecidableEq

namespace Verdict

def isPass : Verdict → Bool
  | .pass => true
  | .fail .. => false

def text : Verdict → String
  | .pass => "PASS"
  | .fail expected (some given) => "FAIL (expected " ++ expected.text ++ ", got " ++ given.text ++ ")"
  | .fail expected none => "FAIL (expected " ++ expected.text ++ ", got no numeral)"

end Verdict

structure Challenge where
  left : Numeral
  right : Numeral
  operator : Operator
  expected : Numeral
  solved : operator.apply left right = .ok expected

namespace Challenge

/-- Works out a question in the order in which it is given. -/
def solve (left right : Numeral) (operator : Operator) : Except NumeralError Challenge :=
  match h : operator.apply left right with
  | .ok expected => .ok ⟨left, right, operator, expected, h⟩
  | .error e => .error e

/-- Works out a question; a subtraction of more from less is turned round. -/
def ofNumerals (left right : Numeral) (operator : Operator) : Except ChallengeError Challenge :=
  match solve left right operator with
  | .ok challenge => .ok challenge
  | .error .insufficientMagnitude =>
    match operator with
    | .subtract => (solve right left .subtract).mapError .numeral
    | .add => .error (.numeral .insufficientMagnitude)
  | .error e => .error (.numeral e)

/-- Reads both operands, the left one first. -/
def parse (left right : String) (operator : Operator) : Except ChallengeError Challenge := do
  let left ← (Numeral.parse left).mapError .numeral
  let right ← (Numeral.parse right).mapError .numeral
  ofNumerals left right operator

/-- The question as it is asked. -/
def prompt (c : Challenge) : String :=
  c.left.text ++ " " ++ toString c.operator ++ " " ++ c.right.text

/-- The question with its answer. -/
def text (c : Challenge) : String := c.prompt ++ " = " ++ c.expected.text

def judge (c : Challenge) (answer : String) : Verdict :=
  match Expression.evaluateLenient answer with
  | .error _ => .fail c.expected none
  | .ok given =>
    match Numeral.equivalent given c.expected with
    | .ok true => .pass
    | .ok false | .error _ => .fail c.expected (some given)

end Challenge

end Roman
