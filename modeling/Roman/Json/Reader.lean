import Roman.Error
import Roman.Json.Scan

/-!
# Reading JSON values

A reader takes the tokens of one value from the front of a list. Tokens are looked at in order and
never again, so of several faults the one that stands first in the text is reported, and a fault in a
value that nobody wants is no fault unless it breaks the grammar.

A record is written as an object or as a list of its fields in order. In an object the fields may come
in any order, each at most once, and unknown members are passed over; in a list, fields may be
missing from the end.
-/

namespace Roman.Json

inductive ReadError
  /-- The text breaks the grammar or holds a value of another kind than the one wanted. -/
  | unreadable
  /-- A string that should be a numeral is none. -/
  | numeral (cause : NumeralError)
  deriving DecidableEq

namespace ReadError

def message : ReadError → String
  | .unreadable => "not a text of the expected form"
  | .numeral cause => cause.message

end ReadError

abbrev Reader := StateT (List Token) (Except ReadError)

namespace Reader

def unreadable : Reader α := fun _ => .error .unreadable

def next : Reader Token
  | [] => .error .unreadable
  | t :: rest => .ok (t, rest)

def expect (wanted : Token) : Reader Unit := do
  if (← next) = wanted then return () else unreadable

def string : Reader String := do
  match ← next with
  | .string units =>
    match textOfUnits? units with
    | some cs => return String.ofList cs
    | none => unreadable
  | _ => unreadable

/-- A natural number below `bound`, written with digits alone. -/
def natural (bound : Nat) : Reader Nat := do
  match ← next with
  | .number lexeme =>
    match natural? lexeme with
    | some n => if n < bound then return n else unreadable
    | none => unreadable
  | _ => unreadable

/-- One of a few values that are written by name, or as an object with the name as its only key and
null as its value. -/
def variant (ofName? : String → Option α) : Reader α := do
  let named (name : String) : Reader α :=
    match ofName? name with
    | some a => return a
    | none => unreadable
  match ← next with
  | .string units =>
    match textOfUnits? units with
    | some cs => named (String.ofList cs)
    | none => unreadable
  | .openBrace =>
    let a ← named (← string)
    expect .colon
    expect .null
    expect .closeBrace
    return a
  | _ => unreadable

/-- Either null or a value. -/
def optional (value : Reader α) : Reader (Option α)
  | .null :: rest => .ok (none, rest)
  | ts => (some <$> value) ts

/-! ### Parts between separators -/

/-- One or more parts with commas between them, up to `close`. Each part updates what the parts before
it have given. -/
def parts (close : Token) (part : α → Reader α) (a : α) (ts : List Token) :
    Except ReadError (α × List Token) :=
  match part a ts with
  | .error e => .error e
  | .ok (_, []) => .error .unreadable
  | .ok (a, t :: rest) =>
    if t = close then .ok (a, rest)
    else if _h : t = .comma ∧ rest.length < ts.length then parts close part a rest
    else .error .unreadable
termination_by ts.length
decreasing_by exact _h.2

/-- Any number of parts, up to `close`. -/
def enclosed (close : Token) (part : α → Reader α) (a : α) : Reader α
  | [] => .error .unreadable
  | t :: rest => if t = close then .ok (a, rest) else parts close part a (t :: rest)

def list (item : Reader α) : Reader (List α) := do
  expect .openBracket
  let read ← enclosed .closeBracket (fun read => do return (← item) :: read) []
  return read.reverse

/-! ### Values that nobody wants -/

/-- What an open value is. -/
inductive Nest
  | list
  | object

/-- What has to come next inside a value. -/
inductive Wanted
  | value
  | firstItem
  | firstKey
  | key
  | colon
  | separator

/-- What is wanted behind a token, and the values that are open there, the innermost first. -/
def pass (wanted : Wanted) (nests : List Nest) (t : Token) : Option (Wanted × List Nest) :=
  match wanted, t, nests with
  | .value, .openBrace, _ | .firstItem, .openBrace, _ => some (.firstKey, .object :: nests)
  | .value, .openBracket, _ | .firstItem, .openBracket, _ => some (.firstItem, .list :: nests)
  | .value, .null, _ | .firstItem, .null, _ => some (.separator, nests)
  | .value, .boolean _, _ | .firstItem, .boolean _, _ => some (.separator, nests)
  | .value, .number _, _ | .firstItem, .number _, _ => some (.separator, nests)
  | .value, .string _, _ | .firstItem, .string _, _ => some (.separator, nests)
  | .firstItem, .closeBracket, _ :: outer => some (.separator, outer)
  | .firstKey, .closeBrace, _ :: outer => some (.separator, outer)
  | .firstKey, .string _, _ | .key, .string _, _ => some (.colon, nests)
  | .colon, .colon, _ => some (.value, nests)
  | .separator, .comma, .list :: _ => some (.value, nests)
  | .separator, .comma, .object :: _ => some (.key, nests)
  | .separator, .closeBracket, .list :: outer => some (.separator, outer)
  | .separator, .closeBrace, .object :: outer => some (.separator, outer)
  | _, _, _ => none

/-- Drops tokens until no value is open any more. -/
def passAll (wanted : Wanted) (nests : List Nest) : List Token → Except ReadError (List Token)
  | [] => .error .unreadable
  | t :: rest =>
    match pass wanted nests t with
    | none => .error .unreadable
    | some (.separator, []) => .ok rest
    | some (wanted, nests) => passAll wanted nests rest

/-- A value of any kind, which is dropped. -/
def anyValue : Reader Unit := fun ts => (passAll .value [] ts).map fun rest => ((), rest)

/-! ### Records -/

/-- A field of a record that is being read: its name, and how its value is added to the record. -/
structure Field (α : Type) where
  name : String
  add : α → Reader α

/-- A field that is set once. -/
def Field.once (name : String) (get : α → Option β) (set : α → β → α) (value : Reader β) : Field α where
  name := name
  add a := do
    if (get a).isSome then unreadable
    else return set a (← value)

/-- One member of an object. -/
def member (fields : List (Field α)) (a : α) : Reader α := do
  let key ← string
  expect .colon
  match fields.find? fun field => field.name = key with
  | some field => field.add a
  | none =>
    anyValue
    return a

/-- The fields behind the first one of a list. -/
def furtherFields : List (Field α) → α → Reader α
  | [], a => do
    expect .closeBracket
    return a
  | field :: fields, a => do
    match ← next with
    | .closeBracket => return a
    | .comma => furtherFields fields (← field.add a)
    | _ => unreadable

/-- The fields of a list. -/
def listedFields (fields : List (Field α)) (a : α) : Reader α
  | .closeBracket :: rest => .ok (a, rest)
  | ts =>
    match fields with
    | [] => .error .unreadable
    | field :: fields => (do furtherFields fields (← field.add a) : Reader α) ts

def record (fields : List (Field α)) (a : α) : Reader α := do
  match ← next with
  | .openBrace => enclosed .closeBrace (member fields) a
  | .openBracket => listedFields fields a
  | _ => unreadable

/-- Reads a text that holds one value and nothing else. -/
def run (reader : Reader α) (text : String) : Except ReadError α :=
  match reader (tokens text) with
  | .ok (a, []) => .ok a
  | .ok (_, _ :: _) => .error .unreadable
  | .error e => .error e

end Reader

end Roman.Json
