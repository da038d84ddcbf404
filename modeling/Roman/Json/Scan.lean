import Roman.Json.Token

/-!
# Scanning JSON

The scanner reads one character at a time and is always in one of a few situations: between tokens,
or inside a word, a number or a string. Every character gives the tokens that it completes and the
next situation, so scanning is a recursion over the characters alone. After the first character that
fits nothing, the scanner reports it and is lost.

White space is the four characters of the JSON grammar. Numbers and strings follow the grammar
strictly: no leading zeros, no bare point, no raw control characters.
-/

namespace Roman.Json

/-- How far a number has been read. -/
inductive NumberPart
  | sign
  | zero
  | whole
  | point
  | fraction
  | exponentMark
  | exponentSign
  | exponent

namespace NumberPart

/-- The part that a first character begins. -/
def first? (c : Char) : Option NumberPart :=
  if c = '-' then some .sign
  else if c = '0' then some .zero
  else if c.isDigit then some .whole
  else none

/-- What may come behind the whole digits of a number. -/
def afterWhole? (c : Char) : Option NumberPart :=
  if c = '.' then some .point
  else if c = 'e' ∨ c = 'E' then some .exponentMark
  else none

/-- The part that a further character belongs to. -/
def next? (part : NumberPart) (c : Char) : Option NumberPart :=
  match part with
  | .sign => if c = '0' then some .zero else if c.isDigit then some .whole else none
  | .zero => afterWhole? c
  | .whole => if c.isDigit then some .whole else afterWhole? c
  | .point => if c.isDigit then some .fraction else none
  | .fraction =>
    if c.isDigit then some .fraction
    else if c = 'e' ∨ c = 'E' then some .exponentMark
    else none
  | .exponentMark =>
    if c.isDigit then some .exponent
    else if c = '+' ∨ c = '-' then some .exponentSign
    else none
  | .exponentSign => if c.isDigit then some .exponent else none
  | .exponent => if c.isDigit then some .exponent else none

/-- Whether a number may end here. -/
def isComplete : NumberPart → Bool
  | .zero | .whole | .fraction | .exponent => true
  | .sign | .point | .exponentMark | .exponentSign => false

end NumberPart

/-- Where the scanner stands; what it has read of a token is kept in reverse. -/
inductive Scan
  | between
  /-- Inside a word of which `next` and `rest` are missing. -/
  | word (next : Char) (rest : List Char) (token : Token)
  | number (part : NumberPart) (read : List Char)
  | string (read : List Nat)
  /-- Behind a backslash. -/
  | escape (read : List Nat)
  /-- Inside a code unit, with `missing` more digits behind the next one. -/
  | codeUnit (read : List Nat) (missing value : Nat)
  | lost

namespace Scan

def isBlank (c : Char) : Bool := c = ' ' || c = '\t' || c = '\n' || c = '\r'

/-- The value of a hexadecimal digit in either case. -/
def hexDigit? (c : Char) : Option Nat :=
  if '0' ≤ c ∧ c ≤ '9' then some (c.toNat - '0'.toNat)
  else if 'a' ≤ c ∧ c ≤ 'f' then some (c.toNat - 'a'.toNat + 10)
  else if 'A' ≤ c ∧ c ≤ 'F' then some (c.toNat - 'A'.toNat + 10)
  else none

/-- The code unit that a single character behind a backslash stands for. -/
def shortEscape? : Char → Option Nat
  | '\x22' => some 0x22
  | '\\' => some 0x5C
  | '/' => some 0x2F
  | 'b' => some 0x08
  | 'f' => some 0x0C
  | 'n' => some 0x0A
  | 'r' => some 0x0D
  | 't' => some 0x09
  | _ => none

def astray : List Token × Scan := ([.stray], .lost)

/-- A character between tokens. -/
def start (c : Char) : List Token × Scan :=
  if isBlank c then ([], .between)
  else
    match c with
    | '{' => ([.openBrace], .between)
    | '}' => ([.closeBrace], .between)
    | '[' => ([.openBracket], .between)
    | ']' => ([.closeBracket], .between)
    | ':' => ([.colon], .between)
    | ',' => ([.comma], .between)
    | 'n' => ([], .word 'u' ['l', 'l'] .null)
    | 't' => ([], .word 'r' ['u', 'e'] (.boolean true))
    | 'f' => ([], .word 'a' ['l', 's', 'e'] (.boolean false))
    | '\x22' => ([], .string [])
    | _ =>
      match NumberPart.first? c with
      | some part => ([], .number part [c])
      | none => astray

/-- The tokens that a character completes, and where it leads. -/
def step : Scan → Char → List Token × Scan
  | .between, c => start c
  | .word next rest token, c =>
    if c = next then
      match rest with
      | [] => ([token], .between)
      | next :: rest => ([], .word next rest token)
    else astray
  | .number part read, c =>
    match part.next? c with
    | some part => ([], .number part (c :: read))
    | none =>
      if part.isComplete then (.number read.reverse :: (start c).1, (start c).2) else astray
  | .string read, c =>
    if c = '\x22' then ([.string read.reverse], .between)
    else if c = '\\' then ([], .escape read)
    else if c.toNat < 0x20 then astray
    else ([], .string (c.toNat :: read))
  | .escape read, c =>
    if c = 'u' then ([], .codeUnit read 3 0)
    else
      match shortEscape? c with
      | some unit => ([], .string (unit :: read))
      | none => astray
  | .codeUnit read missing value, c =>
    match hexDigit? c, missing with
    | some digit, 0 => ([], .string ((16 * value + digit) :: read))
    | some digit, missing + 1 => ([], .codeUnit read missing (16 * value + digit))
    | none, _ => astray
  | .lost, _ => ([], .lost)

/-- The tokens that the end of the text completes. -/
def finish : Scan → List Token
  | .between | .lost => []
  | .number part read => if part.isComplete then [.number read.reverse] else [.stray]
  | .word .. | .string _ | .escape _ | .codeUnit .. => [.stray]

def run (scan : Scan) : List Char → List Token
  | [] => scan.finish
  | c :: cs => (scan.step c).1 ++ run (scan.step c).2 cs

end Scan

/-- The tokens of a text. -/
def tokens (text : String) : List Token := Scan.between.run text.toList

end Roman.Json
