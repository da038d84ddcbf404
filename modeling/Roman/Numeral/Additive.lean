import Roman.Numeral.Borrow

/-!
# The additive form

A letter that stands behind letters one or two tiers below it stands for itself less the run of them.
The runs are resolved tier by tier from the lowest letter up, and within a tier from the left: the run
and its letter are replaced by what is left when the run's own additive form is taken away from the
letter. What is left holds only letters that subtract from the letter, never the letter itself, so one
pass over the word settles a tier.

When no run is left, the order of the letters no longer matters and they are gathered in descending
order. The only failure is a run that is worth more than the letter behind it.
-/

namespace Roman.Numeral

/-- Reads one more letter; `read` holds the letters before it, the nearest first. A run in front of
`s` is replaced, together with `s`, by what `deduct` leaves of `s`. -/
def settleNext (deduct : Numeral → Except NumeralError Numeral) (s : Symbol) (read : Numeral)
    (x : Symbol) : Except NumeralError Numeral :=
  if x = s then
    match read.takeWhile (· ∈ s.subtractives) with
    | [] => .ok (s :: read)
    | run => do
      let left ← deduct run.reverse
      .ok (left.reverse ++ read.dropWhile (· ∈ s.subtractives))
  else .ok (x :: read)

/-- Settles every `s` of the word, from the left. -/
def settle (deduct : Numeral → Except NumeralError Numeral) (s : Symbol) (w : Numeral) :
    Except NumeralError Numeral := do
  let read ← w.foldlM (settleNext deduct s) []
  .ok read.reverse

/-- Settles the letters of a descending list, the last one first. -/
def resolve : List Symbol → Numeral → Except NumeralError Numeral
  | [], w => .ok w
  | s :: lower, w => do
    let settled ← resolve lower w
    settle (fun run => do withdraw [s] (gather (← resolve lower run))) s settled

/-- The word without subtraction, in descending order. -/
def additive (w : Numeral) : Except NumeralError Numeral := do
  .ok (gather (← resolve Symbol.descending w))

end Roman.Numeral
