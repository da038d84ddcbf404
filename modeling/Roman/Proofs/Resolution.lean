import Roman.Proofs.Settling
/-!
# Resolving subtraction part by part

The stages of a resolution settle the letters from the lowest up, and each works on what the stages
before it have left. Two things keep them apart. No stage brings in a letter outside the range of the
word, so stages above that range find nothing to settle. And a part that ends in a letter no lower than
everything behind it is never looked back upon, so it is resolved as if it stood alone.
-/

namespace Roman.Numeral

variable {l : List Symbol} {s : Symbol} {t : Nat} {u w r : Numeral}

/-! ### The letters of what is left -/

theorem tier_le_of_withdraw {taken : Numeral} (h : withdraw [s] taken = .ok r) :
    ∀ x ∈ r, x.tier ≤ s.tier := by
  intro x hx
  obtain ⟨r', hok, _, hvalue⟩ | ⟨herror, _⟩ := withdraw_cases (collapsed_singleton s) taken
  · rw [h] at hok
    cases hok
    have hle := value_le_of_mem hx
    rw [value_cons, value_nil] at hvalue
    apply Symbol.tier_le_of_value_le
    omega
  · rw [h] at herror
    cases herror

theorem le_tier_of_withdraw {taken : Numeral} (h : withdraw [s] taken = .ok r) (hs : t ≤ s.tier)
    (htaken : ∀ x ∈ taken, t ≤ x.tier) : ∀ x ∈ r, t ≤ x.tier := by
  intro x hx
  by_contra hlt
  have hcount := count_eq_of_withdraw h htaken (Nat.lt_of_not_le hlt)
  have hne : x ∉ [s] := by
    rw [List.mem_singleton]
    intro heq
    subst heq
    exact hlt hs
  rw [List.count_eq_zero_of_not_mem hne] at hcount
  exact List.count_eq_zero.mp hcount hx

/-- What holds of the letters of a word holds of those that are left, if no withdrawal breaks it. -/
theorem forall_mem_resolve {P : Symbol → Prop}
    (hwithdraw : ∀ s taken r, withdraw [s] taken = .ok r → P s → (∀ x ∈ taken, P x) → ∀ x ∈ r, P x)
    (h : resolve l w = .ok r) (hw : ∀ x ∈ w, P x) : ∀ x ∈ r, P x := by
  induction l generalizing w r with
  | nil =>
    cases h
    exact hw
  | cons s lower ih =>
    obtain ⟨settled, hlower, hsettle⟩ := except_bind_eq_ok h
    refine forall_mem_settle (fun run left hdeduct hs hrun => ?_) hsettle (ih hlower hw)
    obtain ⟨resolved, hresolved, hleft⟩ := except_bind_eq_ok hdeduct
    refine hwithdraw s _ left hleft hs fun x hx => ?_
    exact ih hresolved hrun x (mem_gather.mp hx)

theorem tier_le_of_resolve (h : resolve l w = .ok r) (hw : ∀ x ∈ w, x.tier ≤ t) :
    ∀ x ∈ r, x.tier ≤ t :=
  forall_mem_resolve (fun _ _ _ hwithdraw hs _ x hx => (tier_le_of_withdraw hwithdraw x hx).trans hs) h hw

theorem tier_lt_of_resolve (h : resolve l w = .ok r) (hw : ∀ x ∈ w, x.tier < t) :
    ∀ x ∈ r, x.tier < t :=
  forall_mem_resolve
    (fun _ _ _ hwithdraw hs _ x hx => (tier_le_of_withdraw hwithdraw x hx).trans_lt hs) h hw

theorem le_tier_of_resolve (h : resolve l w = .ok r) (hw : ∀ x ∈ w, t ≤ x.tier) :
    ∀ x ∈ r, t ≤ x.tier :=
  forall_mem_resolve (fun _ _ _ hwithdraw hs htaken => le_tier_of_withdraw hwithdraw hs htaken) h hw

theorem le_tier_of_additive {a : Numeral} (h : additive w = .ok a) (hw : ∀ x ∈ w, t ≤ x.tier) :
    ∀ x ∈ a, t ≤ x.tier := by
  obtain ⟨r, hr, ha⟩ := except_bind_eq_ok h
  cases ha
  exact fun x hx => le_tier_of_resolve hr hw x (mem_gather.mp hx)

/-! ### Stages that change nothing -/

theorem resolve_of_settled (hw : ∀ s ∈ l, Settled s w) : resolve l w = .ok w := by
  induction l with
  | nil => rfl
  | cons s lower ih =>
    rw [resolve, ih fun x hx => hw x (List.mem_cons_of_mem s hx), except_bind_ok]
    exact settle_of_settled (hw s List.mem_cons_self)

theorem resolve_append_stages {high : List Symbol} (hhigh : ∀ s ∈ high, t ≤ s.tier)
    (hw : ∀ x ∈ w, x.tier < t) : resolve (high ++ l) w = resolve l w := by
  induction high with
  | nil => rfl
  | cons s high ih =>
    rw [List.cons_append, resolve, ih fun x hx => hhigh x (List.mem_cons_of_mem s hx)]
    cases hresolve : resolve l w with
    | error e => rfl
    | ok r =>
      have hs : s ∉ r := fun hmem =>
        absurd (hhigh s List.mem_cons_self) (Nat.not_le.mpr (tier_lt_of_resolve hresolve hw s hmem))
      exact settle_of_settled (settled_of_notMem hs)

theorem Descending.settled (hw : Descending w) (s : Symbol) : Settled s w := by
  refine List.Pairwise.isChain (List.Pairwise.imp (fun {x y} hle he => ?_) hw)
  subst he
  rw [Symbol.mem_subtractives]
  omega

theorem additive_of_descending (hw : Descending w) : additive w = .ok w := by
  rw [additive, resolve_of_settled fun s _ => hw.settled s, except_bind_ok, hw.gather_eq]

/-! ### Failure -/

theorem atMostShort_resolve (l : List Symbol) (w : Numeral) : AtMostShort (resolve l w) := by
  induction l generalizing w with
  | nil => exact .ok w
  | cons s lower ih =>
    refine (ih w).bind fun settled => atMostShort_settle (fun run => ?_) settled
    exact (ih run).bind fun resolved => atMostShort_withdraw [s] (gather resolved)

theorem atMostShort_additive (w : Numeral) : AtMostShort (additive w) :=
  (atMostShort_resolve Symbol.descending w).bind fun r => .ok (gather r)

/-! ### Parts of a word -/

/-- **A word is resolved part by part**, when the first part ends in a letter no lower than those of the
second and is settled as far up as the second reaches. -/
theorem resolve_append (hl : l.Pairwise fun x y => y.tier < x.tier)
    (hsettled : ∀ s ∈ l, s.tier ≤ t → Settled s u) (hlast : ∀ y ∈ u.getLast?, t ≤ y.tier)
    (hw : ∀ x ∈ w, x.tier ≤ t) :
    resolve l (u ++ w) = (do
      let u' ← resolve l u
      let w' ← resolve l w
      .ok (u' ++ w')) := by
  induction l with
  | nil => rfl
  | cons s lower ih =>
    obtain ⟨hs, hlower⟩ := List.pairwise_cons.mp hl
    have hrest := ih hlower fun x hx => hsettled x (List.mem_cons_of_mem s hx)
    by_cases hst : s.tier ≤ t
    · -- The stage lies within reach of `w`, and `u` has not changed so far.
      have hu : resolve lower u = .ok u := resolve_of_settled fun x hx =>
        hsettled x (List.mem_cons_of_mem s hx) ((Nat.le_of_lt (hs x hx)).trans hst)
      have hout : ∀ y ∈ u.getLast?, y ∉ s.subtractives := by
        intro y hy
        have := hlast y hy
        rw [Symbol.mem_subtractives]
        omega
      have hsu := hsettled s List.mem_cons_self hst
      rw [resolve, resolve, resolve, hrest, hu, except_bind_ok, except_bind_ok, settle_of_settled hsu,
        except_bind_ok]
      cases resolve lower w with
      | error e => rfl
      | ok w' =>
        rw [except_bind_ok, except_bind_ok, except_bind_ok, settle_append (settle_of_settled hsu) hout]
        rfl
    · -- The stage lies above `w`, which has no letter left to be settled.
      rw [resolve, resolve, resolve, hrest]
      cases hu : resolve lower u with
      | error e => rfl
      | ok u' =>
        cases hw' : resolve lower w with
        | error e =>
          rw [atMostShort_resolve lower w e hw']
          refine (AtMostShort.bind_short (atMostShort_settle (fun run => ?_) u')).symm
          exact (atMostShort_resolve lower run).bind fun r => atMostShort_withdraw [s] (gather r)
        | ok w' =>
          have hs' : s ∉ w' := fun hmem => hst (tier_le_of_resolve hw' hw s hmem)
          simp only [except_bind_ok]
          rw [settle_append_of_notMem hs', settle_of_settled (settled_of_notMem hs')]
          rfl

theorem pairwise_descending : Symbol.descending.Pairwise fun x y => y.tier < x.tier := by
  decide

theorem gather_append (h : ∀ x ∈ u, ∀ y ∈ w, y.tier ≤ x.tier) :
    gather (u ++ w) = gather u ++ gather w := by
  refine (descending_gather _).eq_of_count_eq ?_ fun s => ?_
  · refine List.pairwise_append.mpr ⟨descending_gather u, descending_gather w, fun x hx y hy => ?_⟩
    exact h x (mem_gather.mp hx) y (mem_gather.mp hy)
  · simp only [count_gather, List.count_append]

/-- A word with no letter below `t` does not mix with one that has none above. -/
theorem additive_append (hu : ∀ x ∈ u, t ≤ x.tier) (hw : ∀ y ∈ w, y.tier ≤ t) :
    additive (u ++ w) = (do
      let a ← additive u
      let b ← additive w
      .ok (a ++ b)) := by
  have hsettled : ∀ s ∈ Symbol.descending, s.tier ≤ t → Settled s u := fun s _ hs =>
    settled_of_le_tier fun x hx => hs.trans (hu x hx)
  have hlast : ∀ y ∈ u.getLast?, t ≤ y.tier := fun y hy => hu y (List.mem_of_mem_getLast? hy)
  rw [additive, additive, additive, resolve_append pairwise_descending hsettled hlast hw]
  cases hresolveu : resolve Symbol.descending u with
  | error e => rfl
  | ok u' =>
    cases hresolvew : resolve Symbol.descending w with
    | error e => rfl
    | ok w' =>
      have hcross : ∀ x ∈ u', ∀ y ∈ w', y.tier ≤ x.tier := fun x hx y hy =>
        (tier_le_of_resolve hresolvew hw y hy).trans (le_tier_of_resolve hresolveu hu x hx)
      simp only [except_bind_ok]
      rw [gather_append hcross]

/-! ### One letter and the runs before it -/

/-- What is left of a letter when the run before it has been taken away. -/
def leave (s : Symbol) (run : Numeral) : Except NumeralError Numeral := do
  withdraw [s] (← additive run)

theorem descending_eq (s : Symbol) : ∃ high low, Symbol.descending = high ++ s :: low ∧
    (∀ x ∈ high, s.tier < x.tier) ∧ ∀ x ∈ low, x.tier < s.tier := by
  refine ⟨s.above.reverse, (Symbol.alphabet.take s.tier).reverse, ?_⟩
  cases s <;> decide

/-- The stages below `s` resolve a run before it like all stages together. -/
theorem resolve_cons {high low : List Symbol} (hdescending : Symbol.descending = high ++ s :: low)
    (w : Numeral) : resolve (s :: low) w = resolve low w >>= settle (leave s) s := by
  have hstages : ∀ x ∈ high ++ [s], s.tier ≤ x.tier := by
    have hpairwise := pairwise_descending
    rw [hdescending, List.pairwise_append] at hpairwise
    rw [List.forall_mem_append, List.forall_mem_singleton]
    exact ⟨fun x hx => Nat.le_of_lt (hpairwise.2.2 x hx s List.mem_cons_self), Nat.le_refl _⟩
  have hleave : ∀ run, (∀ x ∈ run, x ∈ s.subtractives) →
      (do withdraw [s] (gather (← resolve low run))) = leave s run := by
    intro run hrun
    have hbelow : ∀ x ∈ run, x.tier < s.tier := fun x hx => (Symbol.mem_subtractives.mp (hrun x hx)).1
    rw [leave, additive, hdescending, List.append_cons, resolve_append_stages hstages hbelow]
    cases resolve low run with
    | error e => rfl
    | ok r => rfl
  rw [resolve]
  cases resolve low w with
  | error e => rfl
  | ok settled => exact settle_congr hleave settled

/-- A word below `s`, but for copies of `s` itself, is resolved by settling `s`. -/
theorem resolve_eq_settle (hw : ∀ x ∈ w, x.tier ≤ s.tier)
    (hsettled : ∀ x : Symbol, x.tier < s.tier → Settled x w) :
    resolve Symbol.descending w = settle (leave s) s w := by
  obtain ⟨high, low, hdescending, hhigh, hlow⟩ := descending_eq s
  have hbelow : ∀ x ∈ w, x.tier < s.tier + 1 := fun x hx => Nat.lt_succ_of_le (hw x hx)
  have hlower : resolve low w = .ok w := resolve_of_settled fun x hx => hsettled x (hlow x hx)
  have hstages : resolve Symbol.descending w = resolve (s :: low) w := by
    rw [hdescending]
    exact resolve_append_stages hhigh hbelow
  rw [hstages, resolve_cons hdescending, hlower, except_bind_ok]

/-- What is left is a collapsed word, if it is not the letter itself. -/
theorem leave_cases {run a : Numeral} (h : additive run = .ok a) :
    (∃ r, leave s run = .ok r ∧ Collapsed r ∧ value r + value a = s.value) ∨
      (leave s run = .error .insufficientMagnitude ∧ s.value < value a) := by
  have hcases := withdraw_cases (collapsed_singleton s) a
  rw [value_cons, value_nil, Nat.add_zero] at hcases
  rw [leave, h, except_bind_ok]
  exact hcases

theorem tier_le_group {run : Numeral} (hrun : ∀ x ∈ run, x ∈ s.subtractives) :
    ∀ x ∈ run ++ [s], x.tier ≤ s.tier := by
  rw [List.forall_mem_append, List.forall_mem_singleton]
  exact ⟨fun x hx => Nat.le_of_lt (Symbol.mem_subtractives.mp (hrun x hx)).1, Nat.le_refl _⟩

theorem settled_group {run : Numeral} (hrun : Descending run) {x : Symbol} (hx : x ≠ s) :
    Settled x (run ++ [s]) := by
  refine List.isChain_append.mpr ⟨hrun.settled x, List.isChain_singleton s, fun y _ z hz he => ?_⟩
  rw [List.head?_cons, Option.mem_some_iff] at hz
  exact absurd (hz.trans he).symm hx

/-- A descending run and the letter behind it. -/
theorem additive_group {run : Numeral} (hne : run ≠ []) (hrun : ∀ x ∈ run, x ∈ s.subtractives)
    (hdescending : Descending run) : additive (run ++ [s]) = leave s run := by
  have hsettled : ∀ x : Symbol, x.tier < s.tier → Settled x (run ++ [s]) := by
    intro x hx
    apply settled_group hdescending
    intro heq
    subst heq
    omega
  have hgroup : (run ++ [s]).foldlM (settleNext (leave s) s) [] = (leave s run).map List.reverse :=
    foldlM_settleNext_group (List.forall_mem_nil _) hrun hne
  rw [additive, resolve_eq_settle (tier_le_group hrun) hsettled, settle, hgroup]
  rcases leave_cases (s := s) (additive_of_descending hdescending) with ⟨r, hok, hr, _⟩ | ⟨herror, _⟩
  · rw [hok]
    simp [Except.map, hr.descending.gather_eq]
  · rw [herror]
    rfl

/-! ### The quantity of a word -/

/-- The word can be made additive, and its additive letters have this value. -/
def Denotes (w : Numeral) (q : Nat) : Prop := ∃ a, additive w = .ok a ∧ value a = q

theorem Denotes.unique {p q : Nat} (hp : Denotes w p) (hq : Denotes w q) : p = q := by
  obtain ⟨a, ha, rfl⟩ := hp
  obtain ⟨b, hb, rfl⟩ := hq
  rw [ha] at hb
  cases hb
  rfl

theorem denotes_or_short (w : Numeral) :
    (∃ q, Denotes w q) ∨ additive w = .error .insufficientMagnitude := by
  cases h : additive w with
  | error e =>
    rw [atMostShort_additive w e h]
    exact .inr rfl
  | ok a => exact .inl ⟨value a, a, h, rfl⟩

def Convertible (w : Numeral) : Prop := ∃ q, Denotes w q

/-- The quantity of a convertible word. -/
def quantity (w : Numeral) : Nat :=
  match additive w with
  | .ok a => value a
  | .error _ => 0

theorem Denotes.quantity_eq {q : Nat} (hw : Denotes w q) : quantity w = q := by
  obtain ⟨a, ha, rfl⟩ := hw
  rw [quantity, ha]

theorem not_denotes_of_error {e : NumeralError} (h : additive w = .error e) (q : Nat) :
    ¬ Denotes w q := by
  intro hdenotes
  obtain ⟨a, ha, _⟩ := hdenotes
  rw [h] at ha
  cases ha

theorem Descending.denotes (hw : Descending w) : Denotes w (value w) :=
  ⟨w, additive_of_descending hw, rfl⟩

theorem Denotes.append {p q : Nat} (hp : Denotes u p) (hq : Denotes w q)
    (hu : ∀ x ∈ u, t ≤ x.tier) (hw : ∀ y ∈ w, y.tier ≤ t) : Denotes (u ++ w) (p + q) := by
  obtain ⟨a, ha, rfl⟩ := hp
  obtain ⟨b, hb, rfl⟩ := hq
  refine ⟨a ++ b, ?_, value_append a b⟩
  rw [additive_append hu hw, ha, hb]
  rfl

theorem denotes_group {run : Numeral} (hne : run ≠ []) (hrun : ∀ x ∈ run, x ∈ s.subtractives)
    (hdescending : Descending run) (hle : value run ≤ s.value) :
    Denotes (run ++ [s]) (s.value - value run) := by
  rcases leave_cases (s := s) (additive_of_descending hdescending) with ⟨r, hok, _, hvalue⟩ | ⟨_, hlt⟩
  · refine ⟨r, ?_, by omega⟩
    rw [additive_group hne hrun hdescending, hok]
  · omega

/-- A run that outweighs its letter cannot be taken away from it. -/
theorem not_convertible_group {run : Numeral} (hne : run ≠ []) (hrun : ∀ x ∈ run, x ∈ s.subtractives)
    (hdescending : Descending run) (hlt : s.value < value run) : ¬ Convertible (run ++ [s]) := by
  rintro ⟨q, hq⟩
  rcases leave_cases (s := s) (additive_of_descending hdescending) with ⟨r, _, _, hvalue⟩ | ⟨herror, _⟩
  · omega
  · rw [← additive_group hne hrun hdescending] at herror
    exact not_denotes_of_error herror q hq

end Roman.Numeral
