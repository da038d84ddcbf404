import Roman.Numeral.Additive

/-!
# Canonical form and arithmetic

Two lists of contractions lead from the additive form to the canonical numeral. The first, from the
lowest tier up, puts a letter for every run that makes it up, which leaves as few letters as addition
can. The second, from the highest tier down, writes four equal letters by subtraction, together with
the letter of five in front of them if there is one.

Both operands of an addition are made additive and their letters thrown together. A subtraction
takes the additive letters of the subtrahend away from the collapsed minuend. Neither result is
canonical by itself; `add` and `sub` are the same operations with a canonical result.
-/

namespace Roman

/-! ### Contractions -/

/-- A run of letters and a briefer one to be put in its place. -/
structure Contraction where
  run : Numeral
  brief : Numeral
  shorter : brief.length < run.length := by simp

namespace Contraction

/-- Contracts the leftmost occurrence of the run. -/
def once? (c : Contraction) : Numeral → Option Numeral
  | [] => none
  | x :: w =>
    if c.run.isPrefixOf (x :: w) then some (c.brief ++ (x :: w).drop c.run.length)
    else (once? c w).map (x :: ·)

theorem length_lt_of_once? {c : Contraction} {w contracted : Numeral}
    (h : c.once? w = some contracted) : contracted.length < w.length := by
  induction w generalizing contracted with
  | nil => simp [once?] at h
  | cons x w ih =>
    unfold once? at h
    split at h
    next hrun =>
      have hle := (List.isPrefixOf_iff_prefix.mp hrun).length_le
      have hlt := c.shorter
      cases h
      simp only [List.length_append, List.length_drop]
      omega
    next =>
      obtain ⟨v, hv, rfl⟩ := Option.map_eq_some_iff.mp h
      have := ih hv
      simp only [List.length_cons]
      omega

/-- Contracts the leftmost occurrence until none is left. -/
def exhaust (c : Contraction) (w : Numeral) : Numeral :=
  match _h : c.once? w with
  | some contracted => exhaust c contracted
  | none => w
termination_by w.length
decreasing_by exact length_lt_of_once? _h

/-- Exhausts one contraction after another. -/
def exhaustAll (cs : List Contraction) (w : Numeral) : Numeral :=
  cs.foldl (fun w c => c.exhaust w) w

/-- A letter for the run that makes it up. -/
def collapsing? (s : Symbol) : Option Contraction :=
  match h : s.expansion? with
  | none => none
  | some (lower, count) =>
    some ⟨List.replicate count lower, [s], by simpa using Symbol.one_lt_of_expansion? h⟩

/-- Four copies of `s` by subtraction, first behind the letter above `s` and then alone. -/
def subtracting (s : Symbol) : List Contraction :=
  match s.isQuintuple, s.higher? with
  | true, some five =>
    match five.higher? with
    | some ten => [⟨[five, s, s, s, s], [s, ten], by simp⟩, ⟨[s, s, s, s], [s, five], by simp⟩]
    | none => [⟨[s, s, s, s], [s, five], by simp⟩]
  | _, _ => []

end Contraction

/-! ### Collapsed and canonical form -/

namespace Numeral

/-- The additive form with the fewest letters. -/
def collapse (w : Numeral) : Except NumeralError Numeral := do
  .ok (Contraction.exhaustAll (Symbol.alphabet.filterMap Contraction.collapsing?) (← additive w))

/-- The standard numeral: at most three equal letters in a row below the highest. -/
def canonical (w : Numeral) : Except NumeralError Numeral := do
  .ok (Contraction.exhaustAll (Symbol.descending.flatMap Contraction.subtracting) (← collapse w))

/-- Whether two words have the same canonical form. -/
def equivalent (v w : Numeral) : Except NumeralError Bool := do
  let v ← canonical v
  let w ← canonical w
  .ok (v == w)

/-! ### Addition, subtraction and comparison -/

def plus (v w : Numeral) : Except NumeralError Numeral := do
  let v ← additive v
  let w ← additive w
  .ok (gather (v ++ w))

def minus (v w : Numeral) : Except NumeralError Numeral := do
  let v ← collapse v
  let w ← additive w
  withdraw v w

def add (v w : Numeral) : Except NumeralError Numeral := do canonical (← plus v w)

def sub (v w : Numeral) : Except NumeralError Numeral := do canonical (← minus v w)

/-- Compares how often `s` occurs in the additive forms. -/
def compareTier (v w : Numeral) (s : Symbol) : Except NumeralError Ordering := do
  let v ← additive v
  let w ← additive w
  .ok (compare (v.count s) (w.count s))

/-- The comparison of every letter, from the lowest to the highest. -/
def tierComparison (v w : Numeral) : Except NumeralError (List (Symbol × Ordering)) := do
  let v ← additive v
  let w ← additive w
  .ok (Symbol.alphabet.map fun s => (s, compare (v.count s) (w.count s)))

end Numeral

end Roman
