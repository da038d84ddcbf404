import Roman.Numeral.Register
import Roman.Proofs.Difference
/-!
# A register counts

A register of numerals goes through words of many forms, but each operation looks at them only through
their quantities. So a register beside it that holds a natural number, and is driven by the same
additions and subtractions, tells what the numeral denotes after any number of operations, and also
which of them fail: the subtractions that would take the number below zero, and no others.
-/

namespace Roman.RegisterOperation

open Numeral

/-- The word that an operation brings along. -/
def operand? : RegisterOperation → Option Numeral
  | .set w | .plus w | .minus w | .add w | .sub w | .subFrom w => some w
  | .additive | .collapse | .canonical => none

def isSubtraction : RegisterOperation → Bool
  | .minus _ | .sub _ | .subFrom _ => true
  | .set _ | .plus _ | .add _ | .additive | .collapse | .canonical => false

/-- What an operation makes of a number, which may be less than zero. -/
def balance : RegisterOperation → Nat → Int
  | .set w, _ => quantity w
  | .plus w, n | .add w, n => n + quantity w
  | .minus w, n | .sub w, n => n - quantity w
  | .subFrom w, n => quantity w - n
  | .additive, n | .collapse, n | .canonical, n => n

/-- The number behind an operation. One that would be less than zero is not taken. -/
def nextNumber (op : RegisterOperation) (n : Nat) : Nat :=
  if 0 ≤ op.balance n then (op.balance n).toNat else n

/-- The number behind a sequence of operations. -/
def number (ops : List RegisterOperation) (n : Nat) : Nat :=
  ops.foldl (fun n op => op.nextNumber n) n

variable {register : Numeral} {n q : Nat}

/-- What an operation does to a register of quantity `n`: either it gives a word of the balance, or it
is a subtraction from too little. -/
def Follows (op : RegisterOperation) (register : Numeral) (n : Nat) : Prop :=
  (0 ≤ op.balance n ∧ ∃ r, op.result register = .ok r ∧ Denotes r (op.balance n).toNat) ∨
    (op.balance n < 0 ∧ op.isSubtraction = true ∧ op.result register = .error .insufficientMagnitude)

/-! ### One operation -/

theorem follows_of_form {op : RegisterOperation} (hbalance : op.balance n = n)
    (hresult : ∃ r, op.result register = .ok r ∧ Denotes r n) : op.Follows register n := by
  refine .inl ⟨?_, ?_⟩
  · rw [hbalance]
    exact Int.natCast_nonneg n
  · rwa [hbalance, Int.toNat_natCast]

theorem follows_of_sum {op : RegisterOperation} (hbalance : op.balance n = n + q)
    (hresult : ∃ r, op.result register = .ok r ∧ Denotes r (n + q)) : op.Follows register n := by
  refine .inl ⟨by omega, ?_⟩
  rwa [hbalance, show ((n : Int) + q).toNat = n + q by omega]

/-- A subtraction of `q` from `p`, whichever of the two the register holds. -/
theorem follows_of_difference {op : RegisterOperation} {p : Nat} (hop : op.isSubtraction = true)
    (hbalance : op.balance n = p - q)
    (hok : q ≤ p → ∃ r, op.result register = .ok r ∧ Denotes r (p - q))
    (herror : p < q → op.result register = .error .insufficientMagnitude) : op.Follows register n := by
  by_cases hle : q ≤ p
  · refine .inl ⟨by omega, ?_⟩
    rw [hbalance, show ((p : Int) - q).toNat = p - q by omega]
    exact hok hle
  · exact .inr ⟨by omega, hop, herror (Nat.lt_of_not_le hle)⟩

/-- **One operation.** Whatever word of quantity `n` the register holds, the operation accepts it. -/
theorem follows (op : RegisterOperation) (hregister : Denotes register n)
    (hop : ∀ w ∈ op.operand?, Convertible w) : op.Follows register n := by
  cases op with
  | set w =>
    obtain ⟨q, hq⟩ := hop w rfl
    refine .inl ⟨Int.natCast_nonneg _, w, rfl, ?_⟩
    rwa [balance, hq.quantity_eq, Int.toNat_natCast]
  | plus w =>
    obtain ⟨q, hq⟩ := hop w rfl
    exact follows_of_sum (by rw [balance, hq.quantity_eq]) (plus_eq_ok hregister hq)
  | add w =>
    obtain ⟨q, hq⟩ := hop w rfl
    exact follows_of_sum (by rw [balance, hq.quantity_eq])
      ⟨standard (n + q), add_eq_ok hregister hq, denotes_standard _⟩
  | minus w =>
    obtain ⟨q, hq⟩ := hop w rfl
    refine follows_of_difference rfl (by rw [balance, hq.quantity_eq]) (fun hle => ?_)
      (minus_eq_error hregister hq)
    obtain ⟨r, hr, hcollapsed, hvalue⟩ := minus_eq_ok hregister hq hle
    exact ⟨r, hr, hvalue ▸ hcollapsed.descending.denotes⟩
  | sub w =>
    obtain ⟨q, hq⟩ := hop w rfl
    exact follows_of_difference rfl (by rw [balance, hq.quantity_eq])
      (fun hle => ⟨_, sub_eq_ok hregister hq hle, denotes_standard _⟩) (sub_eq_error hregister hq)
  | subFrom w =>
    obtain ⟨q, hq⟩ := hop w rfl
    exact follows_of_difference rfl (by rw [balance, hq.quantity_eq])
      (fun hle => ⟨_, sub_eq_ok hq hregister hle, denotes_standard _⟩) (sub_eq_error hq hregister)
  | additive =>
    obtain ⟨r, hr, hdescending, hvalue⟩ := hregister.additive_eq
    exact follows_of_form rfl ⟨r, hr, hvalue ▸ hdescending.denotes⟩
  | collapse =>
    obtain ⟨r, hr, hcollapsed, hvalue⟩ := hregister.collapse_eq
    exact follows_of_form rfl ⟨r, hr, hvalue ▸ hcollapsed.descending.denotes⟩
  | canonical =>
    exact follows_of_form rfl ⟨standard n, hregister.canonical_eq, denotes_standard n⟩

/-- The register and the number take the same step, also when the operation fails. -/
theorem Follows.denotes_next {op : RegisterOperation} (hregister : Denotes register n)
    (hop : op.Follows register n) : Denotes (op.next register) (op.nextNumber n) := by
  rcases hop with ⟨hnonneg, r, hok, hr⟩ | ⟨hneg, _, herror⟩
  · rw [next, hok, nextNumber, if_pos hnonneg]
    exact hr
  · rw [next, herror, nextNumber, if_neg (Int.not_le.mpr hneg)]
    exact hregister

/-! ### A sequence of operations -/

theorem denotes_run {ops : List RegisterOperation} (hregister : Denotes register n)
    (hops : ∀ op ∈ ops, ∀ w ∈ op.operand?, Convertible w) : Denotes (run ops register) (number ops n) := by
  induction ops generalizing register n with
  | nil => exact hregister
  | cons op ops ih =>
    obtain ⟨hop, hrest⟩ := List.forall_mem_cons.mp hops
    exact ih ((op.follows hregister hop).denotes_next hregister) hrest

/-- **A register counts.** From a convertible start and with convertible operands, the register has the
quantity of the number beside it after every operation, and the next operation gives the balance or,
if it is a subtraction from too little, fails in one way. -/
theorem run_follows_number {start : Numeral} {ops : List RegisterOperation} (hstart : Convertible start)
    (hops : ∀ op ∈ ops, ∀ w ∈ op.operand?, Convertible w) {done : List RegisterOperation}
    (hdone : done <+: ops) :
    Denotes (run done start) (number done (quantity start)) ∧
      ∀ op, done ++ [op] <+: ops → op.Follows (run done start) (number done (quantity start)) := by
  obtain ⟨p, hp⟩ := hstart
  have hrun : Denotes (run done start) (number done (quantity start)) := by
    rw [hp.quantity_eq]
    exact denotes_run hp fun op hop => hops op (hdone.subset hop)
  refine ⟨hrun, fun op hnext => op.follows hrun ?_⟩
  exact hops op (hnext.subset (List.mem_append_right done List.mem_cons_self))

/-- From nine to thirteen, no further down than that, and on to what forty exceeds it by. -/
theorem run_follows_number_nine :
    Denotes (run [.plus [.I, .V], .minus [.M], .subFrom [.X, .L]] [.I, .X]) 27 ∧
      (minus [.M]).Follows (run [.plus [.I, .V]] [.I, .X]) 13 := by
  have hnine : Denotes [.I, .X] 9 := denotes_standard 9
  have hfour : Denotes [.I, .V] 4 := denotes_standard 4
  have hthousand : Denotes [.M] 1000 := denotes_standard 1000
  have hforty : Denotes [.X, .L] 40 := denotes_standard 40
  have hops : ∀ op ∈ [plus [.I, .V], .minus [.M], .subFrom [.X, .L]], ∀ w ∈ op.operand?,
      Convertible w := by
    simp only [List.forall_mem_cons, operand?, Option.mem_some_iff, forall_eq']
    exact ⟨⟨4, hfour⟩, ⟨1000, hthousand⟩, ⟨40, hforty⟩, List.forall_mem_nil _⟩
  have hlast : number [.plus [.I, .V], .minus [.M], .subFrom [.X, .L]] (quantity [.I, .X]) = 27 := by
    simp [number, nextNumber, balance, hnine.quantity_eq, hfour.quantity_eq, hthousand.quantity_eq,
      hforty.quantity_eq]
  have hfirst : number [.plus [.I, .V]] (quantity [.I, .X]) = 13 := by
    simp [number, nextNumber, balance, hnine.quantity_eq, hfour.quantity_eq]
  obtain ⟨hrun, _⟩ := run_follows_number ⟨9, hnine⟩ hops (List.prefix_refl _)
  obtain ⟨_, hnext⟩ := run_follows_number ⟨9, hnine⟩ hops (List.prefix_append [plus [.I, .V]] _)
  rw [hlast] at hrun
  rw [hfirst] at hnext
  exact ⟨hrun, hnext (.minus [.M]) (List.prefix_append [plus [.I, .V], .minus [.M]] _)⟩

end Roman.RegisterOperation
