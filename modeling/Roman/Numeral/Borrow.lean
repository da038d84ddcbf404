import Roman.Numeral.Basic

/-!
# Borrowing and taking away

To take letters away from a word, enough of each must be there. A letter that is short is made by
breaking the nearest higher one, over and over, from the lowest tier up; then every letter to be
taken is struck out. Breaking and striking act on the rightmost copy, so a word in descending order
stays in descending order.

Breaking makes a word longer, so the loop ends by another measure: a letter weighs one more than the
letters it breaks into, and every breaking takes one off the weight of the word.
-/

namespace Roman.Numeral

/-- Puts `r` in the place of the rightmost `x`. -/
def replaceLast? (x : Symbol) (r w : Numeral) : Option Numeral :=
  match w.reverse.dropWhile (· != x) with
  | [] => none
  | _ :: before => some (before.reverse ++ r ++ (w.reverse.takeWhile (· != x)).reverse)

/-- Breaks the nearest letter above `s`, which need not yield an `s` yet. -/
def borrow (s : Symbol) (w : Numeral) : Except NumeralError Numeral :=
  match s.above.find? (· ∈ w) with
  | none => .error .insufficientMagnitude
  | some higher =>
    match higher.expansion? with
    | none => .error (.unknownSymbol higher.glyph)
    | some (lower, count) =>
      match replaceLast? higher (List.replicate count lower) w with
      | none => .error .insufficientMagnitude
      | some broken => .ok broken

/-- The number of letters that are ever made from a letter by breaking, that one included. -/
def letterWeight : Symbol → Nat
  | .I => 1
  | .V => 6
  | .X => 13
  | .L => 66
  | .C => 133
  | .D => 666
  | .M => 1333

def weight : Numeral → Nat
  | [] => 0
  | s :: w => letterWeight s + weight w

theorem replaceLast?_eq_some {x : Symbol} {r w broken : Numeral}
    (h : replaceLast? x r w = some broken) :
    ∃ before after, w = before ++ x :: after ∧ x ∉ after ∧ broken = before ++ r ++ after := by
  unfold replaceLast? at h
  split at h
  · simp at h
  next y before heq =>
    have hy : y = x := by
      have hne : w.reverse.dropWhile (· != x) ≠ [] := by simp [heq]
      have hhead := List.head_dropWhile_not (· != x) hne
      simpa [heq] using hhead
    subst hy
    refine ⟨before.reverse, (w.reverse.takeWhile (· != y)).reverse, ?_, ?_, ?_⟩
    · have hsplit := List.takeWhile_append_dropWhile (p := (· != y)) (l := w.reverse)
      rw [heq] at hsplit
      have := congrArg List.reverse hsplit
      simpa using this.symm
    · intro hmem
      have hall := List.all_takeWhile (p := (· != y)) (l := w.reverse)
      have := List.all_eq_true.mp hall y (List.mem_reverse.mp hmem)
      simp at this
    · simpa using h.symm

theorem weight_append (v w : Numeral) : weight (v ++ w) = weight v + weight w := by
  induction v with
  | nil => simp [weight]
  | cons s v ih =>
    simp only [List.cons_append, weight, ih]
    omega

theorem weight_expansion {s lower : Symbol} {count : Nat}
    (h : s.expansion? = some (lower, count)) :
    weight (List.replicate count lower) + 1 = weight [s] := by
  cases s <;> simp [Symbol.expansion?] at h <;> obtain ⟨rfl, rfl⟩ := h <;> rfl

theorem weight_borrow {s : Symbol} {w broken : Numeral} (h : borrow s w = .ok broken) :
    weight broken + 1 = weight w := by
  unfold borrow at h
  split at h
  · cases h
  split at h
  · cases h
  next lower count hexp =>
    split at h
    · cases h
    next hreplace =>
      cases h
      obtain ⟨before, after, rfl, _, rfl⟩ := replaceLast?_eq_some hreplace
      have hone := weight_expansion hexp
      rw [← List.singleton_append]
      simp only [weight_append]
      omega

/-- Breaks letters until at least `need` copies of `s` are there. -/
def borrowUntil (s : Symbol) (need : Nat) (w : Numeral) : Except NumeralError Numeral :=
  if w.count s < need then
    match _h : borrow s w with
    | .ok broken => borrowUntil s need broken
    | .error e => .error e
  else .ok w
termination_by weight w
decreasing_by
  have := weight_borrow _h
  omega

/-- Strikes out the rightmost `s`. -/
def strike (w : Numeral) (s : Symbol) : Except NumeralError Numeral :=
  match replaceLast? s [] w with
  | some struck => .ok struck
  | none => .error .insufficientMagnitude

/-- Takes the letters of `taken` away from `w`, letter by letter. -/
def withdraw (w taken : Numeral) : Except NumeralError Numeral := do
  let broken ← Symbol.alphabet.foldlM (fun w s => borrowUntil s (taken.count s) w) w
  taken.foldlM strike broken

end Roman.Numeral
