/-!
# Drawing numbers from random words

A source gives 32-bit words: a finite list of them and then zeros for ever. A number below `n` is the
upper half of the product of a word with `n`. Words whose product has a lower half above the zone are
passed over, which leaves equally many words for every number; zero is never passed over, so a draw
always ends.

All of this is for at most 2^32 - 1 numbers to draw from. More than that are drawn from wider words, and
pairs of positions in another way, which is not followed here.
-/

namespace Roman

/-- The words still to come before the zeros, and how many words have been taken. -/
structure WordSource where
  words : List UInt32
  taken : Nat

abbrev Draw := StateM WordSource

namespace Draw

/-- The largest lower half that is accepted, for `n` up to 2^32 - 1: one less than `n` shifted to the top
of a word. -/
def zone (n : Nat) : Nat := (n <<< (31 - n.log2)) - 1

/-- The upper half of the product of a word with `n`. -/
def upperHalf {n : Nat} (h : 0 < n) (w : UInt32) : Fin n :=
  ⟨w.toNat * n / UInt32.size,
    Nat.div_lt_of_lt_mul (Nat.mul_lt_mul_of_pos_right (UInt32.toNat_lt_size w) h)⟩

/-- Draws from a list of words, of which `taken` have been taken before. -/
def fromWords {n : Nat} (h : 0 < n) (taken : Nat) : List UInt32 → Fin n × WordSource
  | [] => (upperHalf h 0, ⟨[], taken + 1⟩)
  | w :: rest =>
    if w.toNat * n % UInt32.size ≤ zone n then (upperHalf h w, ⟨rest, taken + 1⟩)
    else fromWords h (taken + 1) rest

/-- A number below `n`, for `n` up to 2^32 - 1. -/
def below (n : Nat) (h : 0 < n) : Draw (Fin n) := fun source =>
  fromWords h source.taken source.words

/-- Two different positions among `n`, for `n` up to 2^32 - 1: the first is drawn from all but the last
position, the second from all of them, and if it is the first again, the last position comes before it. -/
def twoPositions {n : Nat} (h : 2 ≤ n) : Draw (Fin n × Fin n) := do
  let a ← below (n - 1) (by omega)
  let b ← below n (by omega)
  let first : Fin n := ⟨a, by omega⟩
  if b = first then return (⟨n - 1, by omega⟩, first) else return (first, b)

end Draw

end Roman
