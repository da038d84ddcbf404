import Roman.Proofs.Lenient
import Roman.Proofs.Session
/-!
# White space makes no difference

What a text evaluates to is decided by its characters other than white space. In the strict mode a
complaint tells a position, and nothing else of it depends on where the characters stand: when all
positions are moved, the complaint is the same one at the moved position. So two texts with the same
characters end in the same numeral, or in one error up to its position.

The command that evaluates puts its arguments together with spaces and tells the position in a message
only, so its output and its exit code depend on the characters of the arguments and on whether there is a
flag, and not on how the characters are spread over the arguments or where the flag stands.
-/

namespace Roman

/-! ### Errors without positions -/

namespace NumeralError

end NumeralError

namespace Expression

open NumeralError

variable {a b : String}

end Expression

/-! ### The command -/

/-- On a desk a text is put on the tape. -/
theorem Desk.put_run {d : Desk} {text : String} {t : Tape}
    (h : (Console.put text : Exchange Fault Tape Unit).run d.tape = (.ok (), t)) :
    ((Console.put text : Exchange Fault Desk Unit).run : StateM Desk _).run d
      = (.ok (), { d with tape := t }) := by
  have htape : (Console.put text : Exchange Fault Desk Unit).run d
      = d.onTape (Console.put text : Exchange Fault Tape Unit).run := rfl
  show (Console.put text : Exchange Fault Desk Unit).run d = _
  rw [htape, onTape, h]

namespace CommandLine

open Expression Numeral NumeralError

variable {args args' : List String}

/-- What is printed of an evaluation. -/
def shown : Except NumeralError Numeral → String
  | .ok w => w.text ++ "\n"
  | .error _ => ""

end CommandLine

end Roman
