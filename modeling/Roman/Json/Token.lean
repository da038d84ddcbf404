/-!
# JSON tokens

A JSON text is read as a sequence of tokens, and only what a token means is kept. Strings keep their
code units, because an escape may name half of a surrogate pair: such a string is a fault only where
its text is wanted. Numbers keep their characters, because only whole ones are ever wanted and the
others may be of any size.
-/

namespace Roman.Json

inductive Token
  | openBrace
  | closeBrace
  | openBracket
  | closeBracket
  | colon
  | comma
  | null
  | boolean (value : Bool)
  | number (lexeme : List Char)
  | string (units : List Nat)
  /-- A character, or the end of the text, that continues no token. Nothing comes after it. -/
  | stray
  deriving DecidableEq

/-- A unit that opens a surrogate pair. -/
def isLeading (unit : Nat) : Bool := 0xD800 ≤ unit && unit ≤ 0xDBFF

/-- A unit that closes a surrogate pair. -/
def isTrailing (unit : Nat) : Bool := 0xDC00 ≤ unit && unit ≤ 0xDFFF

/-- The characters that code units stand for; a surrogate outside a pair stands for none. -/
def textOfUnits? : List Nat → Option (List Char)
  | [] => some []
  | [unit] => if isLeading unit || isTrailing unit then none else some [Char.ofNat unit]
  | unit :: next :: rest =>
    if isLeading unit then
      if isTrailing next then
        (textOfUnits? rest).map
          (Char.ofNat (0x10000 + (unit - 0xD800) * 0x400 + (next - 0xDC00)) :: ·)
      else none
    else if isTrailing unit then none
    else (textOfUnits? (next :: rest)).map (Char.ofNat unit :: ·)

/-- The value of a digit sequence in base ten. -/
def valueOfDigits (digits : List Char) : Nat :=
  digits.foldl (fun n c => 10 * n + (c.toNat - '0'.toNat)) 0

/-- The natural number that a lexeme writes with digits alone. -/
def natural? (lexeme : List Char) : Option Nat :=
  if lexeme.all Char.isDigit then some (valueOfDigits lexeme) else none

end Roman.Json
