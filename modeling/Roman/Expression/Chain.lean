import Roman.Expression.Reading

/-!
# Evaluating a chain

The tokens fall into operands at the operators. A chain is evaluated from the left: each operator is
applied to the total so far and the operand behind it, and an operand without letters is zero. A
chain without operators is its one operand in canonical form.
-/

namespace Roman

/-- A first operand, and every further one with the operator in front of it. -/
structure Chain where
  first : Numeral
  steps : List (Operator × Numeral)

namespace Chain

def ofTokens : List Token → Chain
  | [] => ⟨[], []⟩
  | .symbol s :: ts => ⟨s :: (ofTokens ts).first, (ofTokens ts).steps⟩
  | .operator o :: ts => ⟨[], (o, (ofTokens ts).first) :: (ofTokens ts).steps⟩

/-- Applies the steps to a total, the first one first. -/
def total (steps : List (Operator × Numeral)) (first : Numeral) : Except NumeralError Numeral :=
  steps.foldlM (fun w step => step.1.apply w step.2) first

def evaluate (chain : Chain) : Except NumeralError Numeral :=
  if chain.steps.isEmpty then Numeral.canonical chain.first else total chain.steps chain.first

end Chain

namespace Expression

def evaluate (mode : Mode) (text : String) : Except NumeralError Numeral := do
  (Chain.ofTokens (← read mode text)).evaluate

def evaluateStrict (text : String) : Except NumeralError Numeral := evaluate .strict text

def evaluateLenient (text : String) : Except NumeralError Numeral := evaluate .lenient text

end Expression

end Roman
