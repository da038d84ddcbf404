import Roman.Proofs.Shortage
/-!
# The laws of addition and subtraction

Addition throws letters together, and subtraction breaks them and strikes them out, but neither tells
apart words that read as the same number. A word reads as a number or as the one failure; sums and
differences are written from what their operands read as, and what has been written reads as what it was
written from.

So the laws of the operations are laws of readings. These are the laws of numbers as long as nothing
fails, and they hold of failures too: there is one failure only, so that it cannot be told which operand
it has come from, and a number that is too small for one subtraction is too small for two.
-/

namespace Roman

/-- A number, or the failure to be one. -/
abbrev Reading := Except NumeralError Nat

namespace Reading

variable {p q r : Nat} {x y z : Reading}

def sum (x y : Reading) : Reading := do .ok ((← x) + (← y))

def difference (x y : Reading) : Reading := do
  let p ← x
  let q ← y
  if q ≤ p then .ok (p - q) else .error .insufficientMagnitude

/-- The standard numeral of a number. -/
def written (x : Reading) : Except NumeralError Numeral := do .ok (Numeral.standard (← x))

theorem written_bind {x : Except NumeralError Numeral} {f : Numeral → Reading} :
    (x >>= fun w => written (f w)) = written (x >>= f) := by
  cases x with
  | error e => rfl
  | ok w => rfl

theorem difference_of_le (h : q ≤ p) : difference (.ok p) (.ok q) = .ok (p - q) := if_pos h

theorem difference_of_lt (h : p < q) : difference (.ok p) (.ok q) = .error .insufficientMagnitude :=
  if_neg (Nat.not_le.mpr h)

theorem sum_short (hx : AtMostShort x) : sum x (.error .insufficientMagnitude) = .error .insufficientMagnitude :=
  hx.bind_short

theorem difference_short (hx : AtMostShort x) :
    difference x (.error .insufficientMagnitude) = .error .insufficientMagnitude :=
  hx.bind_short

theorem atMostShort_difference (hx : AtMostShort x) (hy : AtMostShort y) : AtMostShort (difference x y) := by
  refine hx.bind fun p => hy.bind fun q => ?_
  split
  · exact .ok _
  · exact .short

/-! ### The laws of readings -/

theorem sum_comm (hx : AtMostShort x) (hy : AtMostShort y) : sum x y = sum y x := by
  obtain ⟨p, rfl⟩ | rfl := hx.ok_or_short
  · obtain ⟨q, rfl⟩ | rfl := hy.ok_or_short
    · exact congrArg Except.ok (Nat.add_comm p q)
    · rfl
  · exact (sum_short hy).symm

theorem sum_assoc (x y z : Reading) : sum (sum x y) z = sum x (sum y z) := by
  cases x with
  | error e => rfl
  | ok p =>
    cases y with
    | error e => rfl
    | ok q =>
      cases z with
      | error e => rfl
      | ok r => exact congrArg Except.ok (Nat.add_assoc p q r)

theorem sum_zero (x : Reading) : sum x (.ok 0) = x := by
  cases x with
  | error e => rfl
  | ok p => rfl

/-- To take away one after the other is to take away the sum. -/
theorem difference_difference (hx : AtMostShort x) (hy : AtMostShort y) (hz : AtMostShort z) :
    difference (difference x y) z = difference x (sum y z) := by
  obtain ⟨r, rfl⟩ | rfl := hz.ok_or_short
  · obtain ⟨p, rfl⟩ | rfl := hx.ok_or_short
    · obtain ⟨q, rfl⟩ | rfl := hy.ok_or_short
      · show difference (difference (.ok p) (.ok q)) (.ok r) = difference (.ok p) (.ok (q + r))
        by_cases hq : q ≤ p
        · rw [difference_of_le hq]
          by_cases hr : r ≤ p - q
          · rw [difference_of_le hr, difference_of_le (by omega), Nat.sub_sub]
          · rw [difference_of_lt (by omega), difference_of_lt (by omega)]
        · rw [difference_of_lt (Nat.lt_of_not_le hq), difference_of_lt (by omega)]
          rfl
      · rfl
    · rfl
  · -- The first difference may have fallen short as well.
    rw [sum_short hy, difference_short hx, difference_short (atMostShort_difference hx hy)]

theorem difference_sum (x : Reading) (q : Nat) : difference (sum x (.ok q)) (.ok q) = x := by
  cases x with
  | error e => rfl
  | ok p =>
    show difference (.ok (p + q)) (.ok q) = .ok p
    rw [difference_of_le (Nat.le_add_left q p), Nat.add_sub_cancel]

theorem sum_of_difference (h : difference x y = .ok r) : sum (.ok r) y = x := by
  obtain ⟨p, hp, h⟩ := except_bind_eq_ok h
  obtain ⟨q, hq, h⟩ := except_bind_eq_ok h
  rw [hp, hq]
  split at h
  next hle =>
    cases h
    exact congrArg Except.ok (Nat.sub_add_cancel hle)
  next => cases h

end Reading

namespace Numeral

variable {v w : Numeral} {q : Nat}

/-! ### What words read as -/

/-- The value of the additive form, or that there is none. -/
def reading (w : Numeral) : Reading := do .ok (value (← additive w))

theorem Denotes.reading_eq (hw : Denotes w q) : reading w = .ok q := by
  obtain ⟨a, ha, rfl⟩ := hw
  rw [reading, ha, except_bind_ok]

theorem reading_of_error (hw : additive w = .error .insufficientMagnitude) :
    reading w = .error .insufficientMagnitude := by
  rw [reading, hw, except_bind_error]

theorem reading_standard (q : Nat) : reading (standard q) = .ok q := (denotes_standard q).reading_eq

theorem atMostShort_reading (w : Numeral) : AtMostShort (reading w) :=
  (atMostShort_additive w).bind fun _ => .ok _

theorem canonical_eq_written (w : Numeral) : canonical w = Reading.written (reading w) := by
  rcases denotes_or_short w with ⟨q, hq⟩ | hw
  · rw [hq.canonical_eq, hq.reading_eq]
    rfl
  · rw [canonical, collapse, hw, reading_of_error hw]
    rfl

theorem plus_bind_reading (v w : Numeral) : (plus v w >>= reading) = Reading.sum (reading v) (reading w) := by
  rcases denotes_or_short v with ⟨p, hp⟩ | hv
  · rcases denotes_or_short w with ⟨q, hq⟩ | hw
    · obtain ⟨r, hr, hdenotes⟩ := plus_eq_ok hp hq
      rw [hr, except_bind_ok, hdenotes.reading_eq, hp.reading_eq, hq.reading_eq]
      rfl
    · obtain ⟨a, ha, _⟩ := hp
      rw [plus, ha, hw, reading_of_error hw, Reading.sum_short (atMostShort_reading v)]
      rfl
  · rw [plus, hv, reading_of_error hv]
    rfl

theorem minus_bind_reading (v w : Numeral) :
    (minus v w >>= reading) = Reading.difference (reading v) (reading w) := by
  rcases denotes_or_short v with ⟨p, hp⟩ | hv
  · rcases denotes_or_short w with ⟨q, hq⟩ | hw
    · rw [hp.reading_eq, hq.reading_eq]
      by_cases hle : q ≤ p
      · obtain ⟨r, hr, hcollapsed, hvalue⟩ := minus_eq_ok hp hq hle
        rw [hr, except_bind_ok, hcollapsed.descending.denotes.reading_eq, hvalue, Reading.difference_of_le hle]
      · have hlt : p < q := Nat.lt_of_not_le hle
        rw [minus_eq_error hp hq hlt, except_bind_error, Reading.difference_of_lt hlt]
    · obtain ⟨c, hc, _⟩ := hp.collapse_eq
      rw [minus, hc, hw, reading_of_error hw, Reading.difference_short (atMostShort_reading v)]
      rfl
  · rw [minus, collapse, hv, reading_of_error hv]
    rfl

theorem add_eq_written (v w : Numeral) : add v w = Reading.written (Reading.sum (reading v) (reading w)) := by
  rw [add, funext canonical_eq_written, Reading.written_bind, plus_bind_reading]

theorem sub_eq_written (v w : Numeral) :
    sub v w = Reading.written (Reading.difference (reading v) (reading w)) := by
  rw [sub, funext canonical_eq_written, Reading.written_bind, minus_bind_reading]

theorem written_bind_reading (x : Reading) : (Reading.written x >>= reading) = x := by
  cases x with
  | error e => rfl
  | ok q => exact reading_standard q

theorem add_bind_reading (v w : Numeral) : (add v w >>= reading) = Reading.sum (reading v) (reading w) := by
  rw [add_eq_written, written_bind_reading]

theorem sub_bind_reading (v w : Numeral) :
    (sub v w >>= reading) = Reading.difference (reading v) (reading w) := by
  rw [sub_eq_written, written_bind_reading]

/-! ### Operands that are outcomes themselves -/

theorem bind_add (x : Except NumeralError Numeral) (w : Numeral) :
    (x >>= fun v => add v w) = Reading.written (Reading.sum (x >>= reading) (reading w)) := by
  cases x with
  | error e => rfl
  | ok v => exact add_eq_written v w

theorem bind_sub (x : Except NumeralError Numeral) (w : Numeral) :
    (x >>= fun v => sub v w) = Reading.written (Reading.difference (x >>= reading) (reading w)) := by
  cases x with
  | error e => rfl
  | ok v => exact sub_eq_written v w

/-! A second operand that fails is hidden by a first that fails, so there may be no more than one failure. -/

theorem bind_add_to {x : Except NumeralError Numeral} (hx : AtMostShort x) (v : Numeral) :
    (x >>= fun w => add v w) = Reading.written (Reading.sum (reading v) (x >>= reading)) := by
  obtain ⟨w, rfl⟩ | rfl := hx.ok_or_short
  · exact add_eq_written v w
  · rw [except_bind_error, except_bind_error, Reading.sum_short (atMostShort_reading v)]
    rfl

theorem bind_sub_from {x : Except NumeralError Numeral} (hx : AtMostShort x) (v : Numeral) :
    (x >>= fun w => sub v w) = Reading.written (Reading.difference (reading v) (x >>= reading)) := by
  obtain ⟨w, rfl⟩ | rfl := hx.ok_or_short
  · exact sub_eq_written v w
  · rw [except_bind_error, except_bind_error, Reading.difference_short (atMostShort_reading v)]
    rfl

theorem atMostShort_add (v w : Numeral) : AtMostShort (add v w) := fun e h =>
  ((shortIff_add v w e).mp h).2

/-! ### The laws -/

protected theorem add_comm (v w : Numeral) : add v w = add w v := by
  rw [add_eq_written, add_eq_written, Reading.sum_comm (atMostShort_reading v) (atMostShort_reading w)]

protected theorem add_assoc (u v w : Numeral) :
    (add u v >>= fun sum => add sum w) = (add v w >>= fun sum => add u sum) := by
  rw [bind_add, bind_add_to (atMostShort_add v w), add_bind_reading, add_bind_reading, Reading.sum_assoc]

theorem add_nil (w : Numeral) : add w [] = canonical w := by
  have hnil : reading [] = .ok 0 := reading_standard 0
  rw [add_eq_written, hnil, Reading.sum_zero, canonical_eq_written]

protected theorem sub_sub (u v w : Numeral) :
    (sub u v >>= fun rest => sub rest w) = (add v w >>= fun sum => sub u sum) := by
  rw [bind_sub, bind_sub_from (atMostShort_add v w), sub_bind_reading, add_bind_reading,
    Reading.difference_difference (atMostShort_reading u) (atMostShort_reading v) (atMostShort_reading w)]

/-- What has been added can be taken away from any outcome that reads as the sum. -/
theorem bind_sub_of_sum {x : Except NumeralError Numeral} (hw : Convertible w)
    (hx : (x >>= reading) = Reading.sum (reading v) (reading w)) :
    (x >>= fun sum => sub sum w) = canonical v := by
  obtain ⟨q, hq⟩ := hw
  rw [bind_sub, hx, hq.reading_eq, Reading.difference_sum, canonical_eq_written]

theorem add_of_sub {d : Numeral} (h : sub v w = .ok d) : add d w = canonical v := by
  rw [sub_eq_written] at h
  obtain ⟨r, hr, hd⟩ := except_bind_eq_ok h
  cases hd
  rw [add_eq_written, reading_standard, Reading.sum_of_difference hr, canonical_eq_written]

/-- **The laws hold of outcomes**, failures among them: a sum does not depend on the order or the grouping
of its terms, nothing added is the canonical form, two subtractions are one of the sum, and addition and
subtraction undo each other. -/
theorem add_and_sub_laws (u v w : Numeral) :
    (add u v = add v u ∧ (add u v >>= fun sum => add sum w) = (add v w >>= fun sum => add u sum) ∧
        add u [] = canonical u) ∧
      (sub u v >>= fun rest => sub rest w) = (add v w >>= fun sum => sub u sum) ∧
      (Convertible v → (add u v >>= fun sum => sub sum v) = canonical u ∧
        (plus u v >>= fun sum => sub sum v) = canonical u) ∧
      ∀ d, sub u v = .ok d → add d v = canonical u :=
  ⟨⟨Numeral.add_comm u v, Numeral.add_assoc u v w, add_nil u⟩, Numeral.sub_sub u v w,
    fun hv => ⟨bind_sub_of_sum hv (add_bind_reading u v), bind_sub_of_sum hv (plus_bind_reading u v)⟩,
    fun _ hd => add_of_sub hd⟩

/-- Four is spelled by subtraction, and the plain sum of ten and four is not. -/
theorem add_and_sub_laws_four : Convertible [.I, .V] ∧ sub [.X] [.I, .V] = .ok (standard 6) ∧
    (plus [.X] [.I, .V] >>= fun sum => sub sum [.I, .V]) = canonical [.X] ∧
      add (standard 6) [.I, .V] = canonical [.X] := by
  have hfour : Denotes [.I, .V] 4 := denotes_standard 4
  have hten : Denotes [.X] 10 := denotes_standard 10
  have hsub : sub [.X] [.I, .V] = .ok (standard 6) := sub_eq_ok hten hfour (by decide)
  obtain ⟨_, _, hsum, hdifference⟩ := add_and_sub_laws [.X] [.I, .V] []
  exact ⟨⟨4, hfour⟩, hsub, (hsum ⟨4, hfour⟩).2, hdifference _ hsub⟩

end Numeral

end Roman
