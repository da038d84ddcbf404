import Roman.Text.Quoted

/-!
# What can go wrong with a numeral

Reading can fail, and so can a subtraction. Each cause is a constructor that carries what its message
needs, and the wording is in `message` alone.
-/

namespace Roman

/-- Why a chain of numerals and operators is not one. Positions count the characters of the text. -/
inductive Malformation
  | empty
  | leadingOperator
  | trailingOperator
  /-- No numeral stands before the operator at `position`. -/
  | emptyOperand (position : Nat)
  deriving DecidableEq

namespace Malformation

def message : Malformation → String
  | .empty => "expression is empty"
  | .leadingOperator => "expression starts with an operator"
  | .trailingOperator => "expression ends with an operator"
  | .emptyOperand position => s!"missing numeral before operator at position {position}"

end Malformation

inductive NumeralError
  | invalidCharacter (position : Nat) (character : Char)
  | malformedExpression (reason : Malformation)
  /-- More is to be taken away than there is. -/
  | insufficientMagnitude
  | unknownSymbol (character : Char)
  deriving DecidableEq

namespace NumeralError

def message : NumeralError → String
  | .invalidCharacter position character =>
    s!"Invalid character '{character}' at position {position}"
  | .malformedExpression reason => "Malformed expression: " ++ reason.message
  | .insufficientMagnitude => "Insufficient magnitude: minuend is smaller than subtrahend"
  | .unknownSymbol character => "Unknown symbol: " ++ Quoted.char character

/-- Whether the text itself is at fault, so that a more tolerant reading might accept it. -/
def isInputError : NumeralError → Bool
  | .invalidCharacter .. | .malformedExpression _ => true
  | .insufficientMagnitude | .unknownSymbol _ => false

end NumeralError

end Roman
