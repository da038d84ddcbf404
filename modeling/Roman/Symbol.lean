/-!
# The seven letters

Every letter above `I` is worth a fixed number of copies of the letter directly below it, five and
two in turn. Nothing else about the letters is ever used: a tier, the letter next to it on either
side, and what one letter breaks into are all read off this one ladder.
-/

namespace Roman

/-- A letter of the numeral alphabet, in ascending order. -/
inductive Symbol
  | I | V | X | L | C | D | M
  deriving DecidableEq

namespace Symbol

/-- The letters from the lowest to the highest. -/
def alphabet : List Symbol := [.I, .V, .X, .L, .C, .D, .M]

/-- The letters from the highest to the lowest. -/
def descending : List Symbol := alphabet.reverse

/-- How many letters stand below this one. -/
def tier : Symbol → Nat
  | .I => 0
  | .V => 1
  | .X => 2
  | .L => 3
  | .C => 4
  | .D => 5
  | .M => 6

def glyph : Symbol → Char
  | .I => 'I'
  | .V => 'V'
  | .X => 'X'
  | .L => 'L'
  | .C => 'C'
  | .D => 'D'
  | .M => 'M'

/-- The letter that a character shows; lower case shows none. -/
def ofGlyph? (c : Char) : Option Symbol := alphabet.find? fun s => s.glyph = c

def lower? : Symbol → Option Symbol
  | .I => none
  | .V => some .I
  | .X => some .V
  | .L => some .X
  | .C => some .L
  | .D => some .C
  | .M => some .D

def higher? : Symbol → Option Symbol
  | .I => some .V
  | .V => some .X
  | .X => some .L
  | .L => some .C
  | .C => some .D
  | .D => some .M
  | .M => none

/-- What a letter breaks into: the letter below it, and how many of those make it up. -/
def expansion? : Symbol → Option (Symbol × Nat)
  | .I => none
  | .V => some (.I, 5)
  | .X => some (.V, 2)
  | .L => some (.X, 5)
  | .C => some (.L, 2)
  | .D => some (.C, 5)
  | .M => some (.D, 2)

/-- The letters that subtract when they stand before `s`: those one and two tiers below it. -/
def subtractives (s : Symbol) : List Symbol := (alphabet.take s.tier).drop (s.tier - 2)

/-- The letters above `s`, nearest first. -/
def above (s : Symbol) : List Symbol := alphabet.drop (s.tier + 1)

/-- Whether five copies of `s` make up the letter above it. -/
def isQuintuple (s : Symbol) : Bool :=
  match s.higher?.bind expansion? with
  | some (_, count) => count == 5
  | none => false

instance : ToString Symbol := ⟨fun s => s.glyph.toString⟩

theorem mem_alphabet (s : Symbol) : s ∈ alphabet := by
  cases s <;> decide

theorem ofGlyph?_glyph (s : Symbol) : ofGlyph? s.glyph = some s := by
  cases s <;> decide

theorem glyph_of_ofGlyph? {c : Char} {s : Symbol} (h : ofGlyph? c = some s) : s.glyph = c := by
  simpa using List.find?_some h

theorem one_lt_of_expansion? {s lower : Symbol} {count : Nat}
    (h : s.expansion? = some (lower, count)) : 1 < count := by
  cases s <;> simp_all [expansion?] <;> omega

end Symbol

end Roman
