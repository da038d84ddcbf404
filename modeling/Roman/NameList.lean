import Roman.Name
import Roman.Text.Lines
import Std.Data.ExtTreeSet

/-!
# Lists of known names

A name list is a set of normal forms. Two lists are equal when they hold the same names, so the order
and the repetition of names never matter.

A text is searched from its first word on. Where a stored name begins, the longest one is taken and
the search goes on behind it; elsewhere it goes on with the next word. Only as many words are tried
at a time as some name has.
-/

namespace Roman

/-- A name list that could not be read. -/
structure NameListError where
  path : String
  fault : Fault
  deriving DecidableEq

namespace NameListError

def message (e : NameListError) : String :=
  "Failed to read name list '" ++ e.path ++ "': " ++ e.fault.reason

end NameListError

/-- The names in normal form; the empty one is never among them. -/
structure NameList where
  names : Std.ExtTreeSet String
  deriving DecidableEq

namespace NameList

def empty : NameList := ⟨∅⟩

/-- The list of the names that have a word. -/
def ofList (names : List String) : NameList :=
  ⟨.ofList ((names.map Name.normalize).filter fun name => !name.isEmpty)⟩

def merge (l m : NameList) : NameList := ⟨l.names ∪ m.names⟩

def size (l : NameList) : Nat := l.names.size

def isEmpty (l : NameList) : Bool := l.names.isEmpty

def contains (l : NameList) (name : String) : Bool := l.names.contains (Name.normalize name)

/-! ### Reading -/

/-- Whether a line holds a name: it is neither blank nor a comment. -/
def isEntry (line : String) : Bool :=
  match trimEnds isWhite line.toList with
  | [] => false
  | c :: _ => c != '#'

/-- Reads a list with a name on each line. The first line that is no text is the error. -/
def ofBytes (content : Bytes) : Except Fault NameList := do
  let lines ← (Lines.all content).mapM decode
  .ok (ofList (lines.filter isEntry))

/-- Reads a list from what the file `path` gave. -/
def ofFile (path : String) (content : Except Fault Bytes) : Except NameListError NameList :=
  (content >>= ofBytes).mapError fun fault => ⟨path, fault⟩

/-! ### Searching -/

/-- The numbers of words that stored names have, the largest first. -/
def widths (l : NameList) : List Nat :=
  let counts := l.names.toList.map fun name => (Name.parts name).length
  (List.range (counts.foldl max 0 + 1)).reverse.filter fun n => counts.contains n

/-- The first of some widths at which the words begin with a stored name. -/
def width? (l : NameList) (widths : List Nat) (ws : List (List Char)) : Option Nat :=
  widths.find? fun n => n ≤ ws.length && l.names.contains (Name.ofTokens (ws.take n))

/-- The names of some widths in a sequence of words, in order and as often as they occur. -/
def scan (l : NameList) (widths : List Nat) : List (List Char) → List String
  | [] => []
  | w :: ws =>
    match l.width? widths (w :: ws) with
    | some n => Name.ofTokens ((w :: ws).take n) :: scan l widths (ws.drop (n - 1))
    | none => scan l widths ws
termination_by ws => ws.length
decreasing_by
  · simp only [List.length_drop, List.length_cons]
    omega
  · simp

/-- The names in a text, each once, in the order of their first occurrence. -/
def matchedNames (l : NameList) (text : String) : List String :=
  (l.scan l.widths (Name.tokens text)).eraseDups

def isMatch (l : NameList) (text : String) : Bool := !(l.matchedNames text).isEmpty

end NameList

end Roman
