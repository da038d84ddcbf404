import Roman.Numeral.Arithmetic

/-!
# A register of numerals

A register holds one numeral, and operations replace it: by an addition or a subtraction with a given
numeral, or by another form of itself. An operation that fails leaves the register as it is.
-/

namespace Roman

inductive RegisterOperation
  | set (w : Numeral)
  | plus (w : Numeral)
  | minus (w : Numeral)
  | add (w : Numeral)
  | sub (w : Numeral)
  /-- Takes the register away from `w`. -/
  | subFrom (w : Numeral)
  | additive
  | collapse
  | canonical

namespace RegisterOperation

/-- What an operation makes of the register. -/
def result : RegisterOperation → Numeral → Except NumeralError Numeral
  | .set w, _ => .ok w
  | .plus w, register => Numeral.plus register w
  | .minus w, register => Numeral.minus register w
  | .add w, register => Numeral.add register w
  | .sub w, register => Numeral.sub register w
  | .subFrom w, register => Numeral.sub w register
  | .additive, register => Numeral.additive register
  | .collapse, register => Numeral.collapse register
  | .canonical, register => Numeral.canonical register

/-- The register behind an operation. -/
def next (op : RegisterOperation) (register : Numeral) : Numeral :=
  match op.result register with
  | .ok w => w
  | .error _ => register

/-- The register behind a sequence of operations. -/
def run (ops : List RegisterOperation) (register : Numeral) : Numeral :=
  ops.foldl (fun register op => op.next register) register

end RegisterOperation

end Roman
