import Roman.Expression.Token
import Roman.Text.LetterCase

/-!
# Reading a text as an expression

A text is read in one of two modes. The strict mode drops white space and accepts numerals that are
separated by single operators; what it refuses it reports by the first of five complaints that
applies, and positions count the characters of the text as it was given. The lenient mode keeps the
characters that are tokens, drops the operators at both ends, and refuses nothing.
-/

namespace Roman.Expression

inductive Mode
  | strict
  | lenient
  deriving DecidableEq

/-- The mode of a name in any letter case; a name that is not known stands for the strict mode. -/
def Mode.ofName (name : String) : Mode :=
  let folded := String.ofList (name.toList.flatMap lowercase)
  if folded = "lenient" ∨ folded = "forgiving" then .lenient else .strict

def isOperatorChar (c : Char) : Bool := (Operator.ofChar? c).isSome

/-- The characters that are not white space, each with its position. -/
def placed (cs : List Char) : List (Char × Nat) := cs.zipIdx.filter fun p => !isWhite p.1

/-- The position of the second of the first two operators with nothing between them. -/
def emptyOperand? : List (Char × Nat) → Option Nat
  | p :: q :: rest =>
    if isOperatorChar p.1 && isOperatorChar q.1 then some q.2 else emptyOperand? (q :: rest)
  | _ => none

/-- The first complaint about a text, if there is any. -/
def complaint? (ps : List (Char × Nat)) : Option NumeralError :=
  match ps.head?, ps.getLast? with
  | some first, some last =>
    if isOperatorChar first.1 then some (.malformedExpression .leadingOperator)
    else if isOperatorChar last.1 then some (.malformedExpression .trailingOperator)
    else
      match ps.find? fun p => (Token.ofChar? p.1).isNone with
      | some (c, position) => some (.invalidCharacter position c)
      | none =>
        (emptyOperand? ps).map fun position => .malformedExpression (.emptyOperand position)
  | _, _ => some (.malformedExpression .empty)

def readStrict (text : String) : Except NumeralError (List Token) :=
  let ps := placed text.toList
  match complaint? ps with
  | some e => .error e
  | none => .ok (ps.filterMap fun p => Token.ofChar? p.1)

def readLenient (text : String) : List Token :=
  trimEnds Token.isOperator (text.toList.filterMap Token.ofChar?)

def read : Mode → String → Except NumeralError (List Token)
  | .strict, text => readStrict text
  | .lenient, text => .ok (readLenient text)

end Roman.Expression
