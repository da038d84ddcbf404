import Mathlib.Data.Nat.Basic
import Roman.Challenge.Draw
/-!
# What can be drawn

A draw passes over the words that are not accepted, and zero always is, so it gives a number whatever
the words are. Every number can come up: the first word whose product with `n` reaches it leaves a
lower half below `n`, and the zone is never smaller than that.

Two positions are drawn apart, and any two that are different can be drawn, in either order.
-/

namespace Roman.Draw

variable {n : Nat}

/-! ### One number -/

theorem le_zone {k : Nat} (hk : k < n) : k ≤ zone n := by
  have hle : n ≤ n <<< (31 - n.log2) := Nat.le_shiftLeft
  rw [zone]
  omega

/-- Every number below `n` is the upper half of an accepted word. -/
theorem exists_word (h : 0 < n) (hn : n ≤ UInt32.size) (k : Fin n) :
    ∃ w : UInt32, w.toNat * n % UInt32.size ≤ zone n ∧ upperHalf h w = k := by
  -- the first word whose product reaches `k` at the top of a word
  let v := (k.val * UInt32.size + (n - 1)) / n
  have hproduct : v * n + (k.val * UInt32.size + (n - 1)) % n = k.val * UInt32.size + (n - 1) := by
    rw [Nat.mul_comm]
    exact Nat.div_add_mod _ _
  have hmod : (k.val * UInt32.size + (n - 1)) % n < n := Nat.mod_lt _ h
  have hreach : k.val * UInt32.size + UInt32.size ≤ n * UInt32.size := by
    rw [← Nat.succ_mul]
    exact Nat.mul_le_mul_right _ k.isLt
  have hv : v < UInt32.size := by
    apply Nat.lt_of_mul_lt_mul_right (a := n)
    rw [Nat.mul_comm UInt32.size]
    omega
  obtain ⟨r, hr⟩ : ∃ r, v * n = r + k.val * UInt32.size := ⟨v * n - k.val * UInt32.size, by omega⟩
  have hrn : r < n := by omega
  have hrsize : r < UInt32.size := Nat.lt_of_lt_of_le hrn hn
  refine ⟨UInt32.ofNatLT v hv, ?_, Fin.ext ?_⟩
  · rw [UInt32.toNat_ofNatLT, hr, Nat.add_mul_mod_self_right, Nat.mod_eq_of_lt hrsize]
    exact le_zone hrn
  · show (UInt32.ofNatLT v hv).toNat * n / UInt32.size = k.val
    rw [UInt32.toNat_ofNatLT, hr, Nat.add_mul_div_right _ _ (by decide), Nat.div_eq_of_lt hrsize,
      Nat.zero_add]

theorem exists_below (h : 0 < n) (hn : n ≤ UInt32.size) (k : Fin n) :
    ∃ w : UInt32, ∀ rest taken, below n h ⟨w :: rest, taken⟩ = (k, ⟨rest, taken + 1⟩) := by
  obtain ⟨w, haccepted, hupper⟩ := exists_word h hn k
  refine ⟨w, fun rest taken => ?_⟩
  show fromWords h taken (w :: rest) = _
  rw [fromWords, if_pos haccepted, hupper]

/-! ### Two positions -/

theorem lt_of_fin_pred (a : Fin (n - 1)) : a.val < n := Nat.lt_of_lt_of_le a.isLt (Nat.sub_le n 1)

theorem pred_lt_of_two_le (h : 2 ≤ n) : n - 1 < n := by
  omega

/-- The positions that two drawn numbers stand for. -/
def apart (h : 2 ≤ n) (a : Fin (n - 1)) (b : Fin n) : Fin n × Fin n :=
  let first : Fin n := ⟨a, lt_of_fin_pred a⟩
  if b = first then (⟨n - 1, pred_lt_of_two_le h⟩, first) else (first, b)

theorem apart_ne (h : 2 ≤ n) (a : Fin (n - 1)) (b : Fin n) : (apart h a b).1 ≠ (apart h a b).2 := by
  have ha := a.isLt
  simp only [apart]
  split
  · intro heq
    have hlast : n - 1 = a.val := congrArg Fin.val heq
    omega
  next hne => exact fun heq => hne heq.symm

/-- The last position is in front if the other one is drawn twice. -/
theorem exists_apart (h : 2 ≤ n) {i j : Fin n} (hij : i ≠ j) : ∃ a b, apart h a b = (i, j) := by
  have hvals : i.val ≠ j.val := fun heq => hij (Fin.ext heq)
  rcases Nat.lt_or_ge i (n - 1) with hi | hi
  · exact ⟨⟨i, hi⟩, j, if_neg hij.symm⟩
  · have hlast : (⟨n - 1, by omega⟩ : Fin n) = i := Fin.ext (by show n - 1 = i.val; omega)
    have hfirst : apart h ⟨j, by omega⟩ j = (⟨n - 1, by omega⟩, j) := if_pos rfl
    exact ⟨⟨j, by omega⟩, j, by rw [hfirst, hlast]⟩

theorem twoPositions_eq (h : 2 ≤ n) {source next rest : WordSource} {a : Fin (n - 1)} {b : Fin n}
    (ha : below (n - 1) (Nat.sub_pos_of_lt h) source = (a, next))
    (hb : below n (Nat.zero_lt_of_lt h) next = (b, rest)) :
    twoPositions h source = (apart h a b, rest) := by
  unfold twoPositions apart
  simp only [bind, StateT.bind, ha, hb]
  split <;> rfl

theorem twoPositions_ne (h : 2 ≤ n) (source : WordSource) :
    (twoPositions h source).1.1 ≠ (twoPositions h source).1.2 := by
  rw [twoPositions_eq h rfl rfl]
  exact apart_ne h _ _

theorem exists_twoPositions (h : 2 ≤ n) (hn : n ≤ UInt32.size) {i j : Fin n} (hij : i ≠ j) :
    ∃ v w : UInt32, ∀ rest taken,
      twoPositions h ⟨v :: w :: rest, taken⟩ = ((i, j), ⟨rest, taken + 2⟩) := by
  obtain ⟨a, b, hab⟩ := exists_apart h hij
  obtain ⟨v, hv⟩ := exists_below (by omega) (by omega) a
  obtain ⟨w, hw⟩ := exists_below (by omega) hn b
  refine ⟨v, w, fun rest taken => ?_⟩
  rw [twoPositions_eq h (hv _ _) (hw _ _), hab]

end Roman.Draw
