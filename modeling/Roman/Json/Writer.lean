/-!
# Writing JSON values

Values are written without white space. In a string the quote, the backslash and the control
characters are escaped, the latter by a letter where JSON has one, and everything else stands as it
is.
-/

namespace Roman.Json.Writer

/-- A hexadecimal digit in lower case. -/
def hexDigit (n : Nat) : Char := Nat.digitChar n

def escape (c : Char) : List Char :=
  if c = '\x22' then ['\\', '\x22']
  else if c = '\\' then ['\\', '\\']
  else if c = '\x08' then ['\\', 'b']
  else if c = '\x0c' then ['\\', 'f']
  else if c = '\n' then ['\\', 'n']
  else if c = '\r' then ['\\', 'r']
  else if c = '\t' then ['\\', 't']
  else if c.toNat < 0x20 then
    ['\\', 'u', '0', '0', hexDigit (c.toNat / 16), hexDigit (c.toNat % 16)]
  else [c]

def string (s : String) : List Char := '\x22' :: s.toList.flatMap escape ++ ['\x22']

def natural (n : Nat) : List Char := Nat.toDigits 10 n

def null : List Char := ['n', 'u', 'l', 'l']

def list (items : List (List Char)) : List Char := '[' :: [','].intercalate items ++ [']']

def member (m : String × List Char) : List Char := string m.1 ++ ':' :: m.2

def object (members : List (String × List Char)) : List Char :=
  '{' :: [','].intercalate (members.map member) ++ ['}']

end Roman.Json.Writer
