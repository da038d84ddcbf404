import Roman.Proofs.Pool
/-!
# Drawing a challenge

A number is drawn by a loop that takes one word after the other until one is accepted. The loop ends on
every source, because zeros come in the end and zero is accepted, and the number it ends with is the one
that the draw computes.

Two numerals and an operator are picked by three such loops. The positions of the numerals are different
whatever the words are, so the checks on what has been picked are never of use to a pool that has been
accepted, and the only thing that can go wrong with a question is an operand that is not convertible.
-/

namespace Roman

open Numeral

namespace WordSource

/-- The next word of a source, which is zero when the list has come to its end. -/
def next (source : WordSource) : UInt32 := source.words.headD 0

/-- The source behind its next word. -/
def rest (source : WordSource) : WordSource := ⟨source.words.tail, source.taken + 1⟩

end WordSource

namespace Draw

variable {n : Nat} {source rest : WordSource} {k : Fin n}

/-! ### The loop of a draw -/

/-- Whether a word is not passed over. -/
def Accepted (n : Nat) (w : UInt32) : Prop := w.toNat * n % UInt32.size ≤ zone n

/-- The loop that draws a number ends with `k`, and `rest` is what it leaves of the source. -/
inductive Yields {n : Nat} : WordSource → Fin n → WordSource → Prop
  | accept {source : WordSource} (h : 0 < n) (hword : Accepted n source.next) :
      Yields source (upperHalf h source.next) source.rest
  | pass {source rest : WordSource} {k : Fin n} (hword : ¬ Accepted n source.next)
      (hrest : Yields source.rest k rest) : Yields source k rest

theorem accepted_zero (n : Nat) : Accepted n 0 := by
  have hzero : (0 : UInt32).toNat * n % UInt32.size = 0 := by simp
  rw [Accepted, hzero]
  exact Nat.zero_le _

theorem fromWords_cons_of_accepted (h : 0 < n) {taken : Nat} {w : UInt32} {words : List UInt32}
    (hword : Accepted n w) : fromWords h taken (w :: words) = (upperHalf h w, ⟨words, taken + 1⟩) :=
  if_pos hword

theorem fromWords_cons_of_not_accepted (h : 0 < n) {taken : Nat} {w : UInt32} {words : List UInt32}
    (hword : ¬ Accepted n w) : fromWords h taken (w :: words) = fromWords h (taken + 1) words :=
  if_neg hword

/-- **The loop ends** on every source, after at most one word more than the list has. -/
theorem yields_below (h : 0 < n) (source : WordSource) :
    Yields source (below n h source).1 (below n h source).2 := by
  obtain ⟨words, taken⟩ := source
  induction words generalizing taken with
  | nil => exact .accept h (accepted_zero n)
  | cons w words ih =>
    unfold below at ih ⊢
    by_cases hword : Accepted n w
    · rw [fromWords_cons_of_accepted h hword]
      exact Yields.accept h hword
    · rw [fromWords_cons_of_not_accepted h hword]
      exact .pass hword (ih (taken + 1))

theorem Yields.eq_below (hyields : Yields source k rest) (h : 0 < n) :
    Draw.below n h source = (k, rest) := by
  induction hyields with
  | @accept source h hword =>
    obtain ⟨_ | ⟨w, words⟩, taken⟩ := source
    · rfl
    · exact fromWords_cons_of_accepted h hword
  | @pass source rest k hword _ ih =>
    obtain ⟨_ | ⟨w, words⟩, taken⟩ := source
    · exact absurd (accepted_zero n) hword
    · exact (fromWords_cons_of_not_accepted h hword).trans ih

/-! ### Picking from a list -/

/-- An element of a list, if there is one. -/
def choose? (xs : List α) : Draw (Option α) :=
  if h : 0 < xs.length then do
    let i ← below xs.length h
    return some (xs.get i)
  else return none

/-- Two elements at different positions, or as many as there are. -/
def chooseTwo (xs : List α) : Draw (List α) :=
  if h : 2 ≤ xs.length then do
    let (i, j) ← twoPositions h
    return [xs.get i, xs.get j]
  else return (← choose? xs).toList

end Draw

/-! ### The loops of a question -/

namespace Pool

/-- Picks two numerals and an operator, and checks what has been picked. -/
def generate (pool : Pool) : Draw (Except ChallengeError Challenge) := do
  let picked ← Draw.chooseTwo pool.numerals
  match ← Draw.choose? pool.operators with
  | none => return .error .noOperators
  | some operator =>
    match picked with
    | [left, right] => return Challenge.ofNumerals left right operator
    | _ => return .error (.poolTooSmall picked.length)

/-- Two loops draw the positions `i` and `j` of numerals, and a third one draws the position `k` of an
operator. -/
def Picks (pool : Pool) (source : WordSource) (i j : Fin pool.numerals.length)
    (k : Fin pool.operators.length) (rest : WordSource) : Prop :=
  ∃ (h : 2 ≤ pool.numerals.length) (a : Fin (pool.numerals.length - 1)) (b : Fin pool.numerals.length)
    (second third : WordSource),
    Draw.Yields source a second ∧ Draw.Yields second b third ∧ Draw.Yields third k rest ∧
      Draw.apart h a b = (i, j)

end Pool

namespace Generator

variable {pool : Pool} {g : Generator} {source rest : WordSource} {i j : Fin g.numerals.length}
  {k : Fin g.operators.length}

theorem ofPool_eq_ok_iff : ofPool pool = .ok g ↔ g.toPool = pool := by
  constructor
  · intro h
    unfold ofPool at h
    split at h
    · split at h
      · cases h
        rfl
      · cases h
    · cases h
  · rintro rfl
    rw [ofPool, dif_pos g.two_le_numerals, dif_pos g.operators_pos]

theorem pick_of_picks (h : g.Picks source i j k rest) :
    g.pick source = ((g.numerals.get i, g.numerals.get j, g.operators.get k), rest) := by
  obtain ⟨htwo, a, b, second, third, ha, hb, hk, hapart⟩ := h
  refine g.pick_eq ?_ (hk.eq_below g.operators_pos)
  rw [Draw.twoPositions_eq htwo (ha.eq_below _) (hb.eq_below _), hapart]

theorem exists_picks (g : Generator) (source : WordSource) : ∃ i j k rest, g.Picks source i j k rest :=
  ⟨_, _, _, _, g.two_le_numerals, _, _, _, _, Draw.yields_below (Nat.sub_pos_of_lt g.two_le_numerals) source,
    Draw.yields_below (Nat.zero_lt_of_lt g.two_le_numerals) _, Draw.yields_below g.operators_pos _, rfl⟩

/-- Accepted pools pass the checks on what has been picked. -/
theorem generate_toPool (g : Generator) : g.toPool.generate = g.generate := by
  have htwo : Draw.chooseTwo g.numerals = _ := dif_pos g.two_le_numerals
  have hone : Draw.choose? g.operators = _ := dif_pos g.operators_pos
  unfold Pool.generate generate pick
  rw [htwo, hone]
  rfl

/-! ### One call after the other -/

/-- The results of some number of calls in a row. -/
def calls (g : Generator) : Nat → Draw (List (Except ChallengeError Challenge))
  | 0 => return []
  | count + 1 => do
    let result ← g.generate
    return result :: (← calls g count)

theorem calls_succ (g : Generator) (count : Nat) (source : WordSource) :
    (g.calls (count + 1) source).1
      = (g.generate source).1 :: (g.calls count (g.generate source).2).1 :=
  rfl

theorem length_calls (g : Generator) (count : Nat) (source : WordSource) :
    (g.calls count source).1.length = count := by
  induction count generalizing source with
  | zero => rfl
  | succ count ih => rw [calls_succ, List.length_cons, ih]

/-- Every call of a row is a call on some source. -/
theorem exists_source_of_mem_calls {count : Nat} {source : WordSource}
    {result : Except ChallengeError Challenge} (h : result ∈ (g.calls count source).1) :
    ∃ source', result = (g.generate source').1 := by
  induction count generalizing source with
  | zero => cases h
  | succ count ih =>
    rw [calls_succ] at h
    rcases List.mem_cons.mp h with hfirst | hlater
    · exact ⟨source, hfirst⟩
    · exact ih hlater

/-! ### What a call gives -/

theorem generate_of_picks (h : g.Picks source i j k rest) :
    g.generate source
      = (Challenge.ofNumerals (g.numerals.get i) (g.numerals.get j) (g.operators.get k), rest) :=
  g.generate_eq (pick_of_picks h)

/-- Three loops end in one way only. -/
theorem picks_unique {i' j' : Fin g.numerals.length} {k' : Fin g.operators.length} {rest' : WordSource}
    (h : g.Picks source i j k rest) (h' : g.Picks source i' j' k' rest') :
    i = i' ∧ j = j' ∧ k = k' ∧ rest = rest' := by
  obtain ⟨htwo, a, b, second, third, ha, hb, hk, hapart⟩ := h
  obtain ⟨_, a', b', second', third', ha', hb', hk', hapart'⟩ := h'
  obtain ⟨rfl, rfl⟩ := Prod.mk.inj ((ha.eq_below (by omega)).symm.trans (ha'.eq_below _))
  obtain ⟨rfl, rfl⟩ := Prod.mk.inj ((hb.eq_below (by omega)).symm.trans (hb'.eq_below _))
  obtain ⟨rfl, rfl⟩ := Prod.mk.inj ((hk.eq_below g.operators_pos).symm.trans (hk'.eq_below _))
  obtain ⟨rfl, rfl⟩ := Prod.mk.inj (hapart.symm.trans hapart')
  exact ⟨rfl, rfl, rfl, rfl⟩

theorem ne_of_picks (h : g.Picks source i j k rest) : i ≠ j := by
  obtain ⟨htwo, a, b, _, _, _, _, _, hapart⟩ := h
  have hne := Draw.apart_ne htwo a b
  rwa [hapart] at hne

/-- **Questions from a pool.** Whatever the words of a source are, the three loops of a call end, in one
way each, with two different positions and an operator. The question is about the numerals at these
positions, in one order or the other. There is one if and only if both are convertible, and what goes
wrong otherwise has to do with a numeral and never with the size of the pool. So a pool of convertible
numerals gives a question at every call. -/
theorem generate_two_apart {pool : Pool} {g : Generator} (haccepted : ofPool pool = .ok g) :
    (∀ source, ∃ i j k rest, pool.Picks source i j k rest ∧
      (∀ i' j' k' rest', pool.Picks source i' j' k' rest' → i = i' ∧ j = j' ∧ k = k' ∧ rest = rest') ∧
      i ≠ j ∧ pool.generate source = g.generate source ∧ (g.generate source).2 = rest ∧
      (∀ e, (g.generate source).1 = .error e → e = .numeral .insufficientMagnitude) ∧
      (∀ c, (g.generate source).1 = .ok c → c.operator = pool.operators.get k ∧
        ((c.left = pool.numerals.get i ∧ c.right = pool.numerals.get j) ∨
          (c.left = pool.numerals.get j ∧ c.right = pool.numerals.get i))) ∧
      ((∃ c, (g.generate source).1 = .ok c) ↔
        Convertible (pool.numerals.get i) ∧ Convertible (pool.numerals.get j))) ∧
    ((∀ w ∈ pool.numerals, Convertible w) → ∀ count source,
      (g.calls count source).1.length = count ∧
        ∀ result ∈ (g.calls count source).1, ∃ c, result = .ok c) := by
  obtain rfl := ofPool_eq_ok_iff.mp haccepted
  refine ⟨fun source => ?_, fun hall count source => ⟨g.length_calls count source, fun result hresult => ?_⟩⟩
  · obtain ⟨i, j, k, rest, hpicks⟩ := g.exists_picks source
    have hgenerate := generate_of_picks hpicks
    refine ⟨i, j, k, rest, hpicks, fun i' j' k' rest' h' => picks_unique hpicks h', ne_of_picks hpicks,
      congrFun g.generate_toPool source, congrArg Prod.snd hgenerate, fun e he => g.generate_error he,
      fun c hc => ?_, ?_⟩
    · rw [hgenerate] at hc
      exact ⟨Challenge.operator_of_ofNumerals hc, Challenge.operands_of_ofNumerals hc⟩
    · rw [hgenerate]
      exact Challenge.exists_ofNumerals_iff
  · obtain ⟨source', rfl⟩ := exists_source_of_mem_calls hresult
    exact g.exists_generate_ok hall source'

/-- The second word is passed over and the third one draws the first position again. -/
theorem generate_two_apart_nineteen :
    ∃ g, ofPool ⟨[[.X], [.V], [.I, .X]], [.add]⟩ = .ok g ∧
      (∃ c, (g.generate ⟨[0, 4294967295], 0⟩).1 = .ok c ∧ c.operator = .add ∧
        ((c.left = [.I, .X] ∧ c.right = [.X]) ∨ (c.left = [.X] ∧ c.right = [.I, .X]))) ∧
      (g.generate ⟨[0, 4294967295], 0⟩).2 = ⟨[], 4⟩ ∧
      ∀ result ∈ (g.calls 5 ⟨[7], 0⟩).1, ∃ c, result = .ok c := by
  let g : Generator := ⟨⟨[[.X], [.V], [.I, .X]], [.add]⟩, by decide, by decide⟩
  have haccepted : ofPool g.toPool = .ok g := ofPool_eq_ok_iff.mpr rfl
  have hfirst : Draw.Yields ⟨[0, 4294967295], 0⟩ (0 : Fin 2) ⟨[4294967295], 1⟩ :=
    Draw.yields_below (by decide) _
  have hagain : Draw.Yields ⟨[4294967295], 1⟩ (0 : Fin 3) ⟨[], 3⟩ := Draw.yields_below (by decide) _
  have hoperator : Draw.Yields ⟨[], 3⟩ (0 : Fin 1) ⟨[], 4⟩ := Draw.yields_below (by decide) _
  have hpicks : g.Picks ⟨[0, 4294967295], 0⟩ (2 : Fin 3) (0 : Fin 3) (0 : Fin 1) ⟨[], 4⟩ :=
    ⟨by decide, _, _, _, _, hfirst, hagain, hoperator, rfl⟩
  have hall : ∀ w ∈ g.numerals, Convertible w := by
    intro w hw
    obtain ⟨n, _, rfl⟩ := List.mem_map.mp (show w ∈ [10, 5, 9].map standard from hw)
    exact ⟨n, denotes_standard n⟩
  obtain ⟨hcall, hcalls⟩ := generate_two_apart haccepted
  obtain ⟨i, j, k, rest, _, hunique, _, _, hrest, _, hquestion, hsome⟩ := hcall ⟨[0, 4294967295], 0⟩
  obtain ⟨rfl, rfl, rfl, rfl⟩ := hunique _ _ _ _ hpicks
  obtain ⟨c, hc⟩ := hsome.mpr ⟨hall _ (List.get_mem _ _), hall _ (List.get_mem _ _)⟩
  exact ⟨g, haccepted, ⟨c, hc, hquestion c hc⟩, hrest, (hcalls hall 5 ⟨[7], 0⟩).2⟩

end Generator

end Roman
