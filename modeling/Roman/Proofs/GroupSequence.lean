import Roman.Proofs.Group
/-!
# Sequences of groups

Groups are written from the highest letter to the lowest. Where the letter changes, nothing of what was
left reaches the groups behind. Where it does not, the next run is read together with it, although no
part of it was written there. So a sequence is worth the sum of its groups whatever their runs are just
when no two groups share a letter.
-/

namespace Roman.Numeral

variable {s : Symbol} {gs us : List Group}

/-- What groups leave behind `left`, which is left of groups of `s` alone. -/
def residueAfter (s : Symbol) (left : Numeral) : List Group → Except NumeralError Numeral
  | [] => .ok left
  | g :: gs =>
    if g.symbol = s then do
      residueAfter s (← g.leaveAfter left) gs
    else do
      let rest ← residueAfter g.symbol (← g.leaveAfter []) gs
      .ok (left ++ rest)

def residue : List Group → Except NumeralError Numeral
  | [] => .ok []
  | g :: gs => do residueAfter g.symbol (← g.leaveAfter []) gs

/-- The sum of what the groups are worth one by one. -/
def worth (gs : List Group) : Nat := (gs.map Group.worth).sum

@[simp] theorem worth_nil : worth [] = 0 := rfl

@[simp] theorem worth_cons (g : Group) (gs : List Group) : worth (g :: gs) = g.worth + worth gs := by
  rw [worth, List.map_cons, List.sum_cons]
  rfl

/-! ### Groups of one letter -/

theorem settled_written {x : Symbol} (hus : ∀ g ∈ us, g.symbol = s) (hx : x.tier < s.tier) :
    Settled x (written us) := by
  induction us with
  | nil => exact List.isChain_nil
  | cons g us ih =>
    have hg := hus g List.mem_cons_self
    have hne : x ≠ g.symbol := by
      intro heq
      subst heq
      rw [hg] at hx
      exact Nat.lt_irrefl _ hx
    rw [written, List.flatMap_cons]
    refine List.isChain_append.mpr ⟨settled_group g.descending hne,
      ih fun h hh => hus h (List.mem_cons_of_mem g hh), fun y hy z _ hz => ?_⟩
    rw [Group.letters, List.getLast?_concat, Option.mem_some_iff] at hy
    subst hz hy
    rw [Symbol.mem_subtractives, hg]
    omega

theorem getLast?_written (hus : ∀ g ∈ us, g.symbol = s) : ∀ y ∈ (written us).getLast?, y = s := by
  intro y hy
  rcases List.eq_nil_or_concat' us with rfl | ⟨init, g, rfl⟩
  · cases hy
  · have hlast : written (init ++ [g]) = written init ++ g.run ++ [g.symbol] := by
      simp [written, Group.letters]
    rw [hlast, List.getLast?_concat, Option.mem_some_iff] at hy
    rw [← hy]
    exact hus g (List.mem_append_right init List.mem_cons_self)

theorem tier_le_of_written (hgs : ∀ g ∈ gs, g.symbol.tier ≤ s.tier) : ∀ x ∈ written gs, x.tier ≤ s.tier := by
  intro x hx
  obtain ⟨g, hg, hmem⟩ := List.mem_flatMap.mp hx
  exact (g.tier_le x hmem).trans (hgs g hg)

theorem resolve_written (hus : ∀ g ∈ us, g.symbol = s) :
    resolve Symbol.descending (written us) = us.foldlM Group.leaveAfter [] := by
  have hle : ∀ x ∈ written us, x.tier ≤ s.tier :=
    tier_le_of_written fun g hg => Nat.le_of_eq (congrArg Symbol.tier (hus g hg))
  have hread : (written us).foldlM (settleNext (leave s) s) []
      = (us.foldlM Group.leaveAfter []).map List.reverse :=
    foldlM_settleNext_written hus (remnant_nil s)
  rw [resolve_eq_settle hle fun x hx => settled_written hus hx, settle, hread]
  cases us.foldlM Group.leaveAfter [] with
  | error e => rfl
  | ok left => simp [Except.map]

/-! ### The whole sequence -/

theorem resolve_written_append (hus : ∀ g ∈ us, g.symbol = s) (hgs : ∀ g ∈ gs, g.symbol.tier ≤ s.tier)
    (hfall : gs.Pairwise fun g h => h.symbol.tier ≤ g.symbol.tier) :
    resolve Symbol.descending (written us ++ written gs)
      = (do residueAfter s (← us.foldlM Group.leaveAfter []) gs) := by
  induction gs generalizing us s with
  | nil =>
    have hnil : written us ++ written [] = written us := List.append_nil _
    rw [hnil, resolve_written hus]
    cases us.foldlM Group.leaveAfter [] with
    | error e => rfl
    | ok left => rfl
  | cons g gs ih =>
    obtain ⟨hg, hrest⟩ := List.pairwise_cons.mp hfall
    by_cases heq : g.symbol = s
    · have hus' : ∀ h ∈ us ++ [g], h.symbol = s := by
        rw [List.forall_mem_append, List.forall_mem_singleton]
        exact ⟨hus, heq⟩
      have hsplit : written us ++ written (g :: gs) = written (us ++ [g]) ++ written gs := by
        simp [written]
      rw [hsplit, ih hus' (fun h hh => hgs h (List.mem_cons_of_mem g hh)) hrest, List.foldlM_append]
      cases us.foldlM Group.leaveAfter [] with
      | error e => rfl
      | ok left =>
        rw [except_bind_ok, except_bind_ok, residueAfter, if_pos heq, List.foldlM_cons]
        cases g.leaveAfter left with
        | error e => rfl
        | ok left' => rfl
    · have hlt : g.symbol.tier < s.tier :=
        Nat.lt_of_le_of_ne (hgs g List.mem_cons_self) fun he => heq (Symbol.tier_injective he)
      have hlow : ∀ h ∈ g :: gs, h.symbol.tier ≤ g.symbol.tier :=
        List.forall_mem_cons.mpr ⟨Nat.le_refl _, hg⟩
      have hlast : ∀ y ∈ (written us).getLast?, g.symbol.tier ≤ y.tier := by
        intro y hy
        rw [getLast?_written hus y hy]
        exact Nat.le_of_lt hlt
      have hafresh : resolve Symbol.descending (written (g :: gs))
          = (do residueAfter g.symbol (← g.leaveAfter []) gs) := by
        have hsplit : written (g :: gs) = written [g] ++ written gs := by
          simp [written]
        have hone : ∀ h ∈ [g], h.symbol = g.symbol := List.forall_mem_singleton.mpr rfl
        rw [hsplit, ih hone hg hrest, List.foldlM_cons]
        cases g.leaveAfter [] with
        | error e => rfl
        | ok left => rfl
      rw [resolve_append pairwise_descending
        (fun x _ hx => settled_written hus (Nat.lt_of_le_of_lt hx hlt)) hlast (tier_le_of_written hlow),
        resolve_written hus, hafresh]
      cases us.foldlM Group.leaveAfter [] with
      | error e => rfl
      | ok left =>
        rw [except_bind_ok, except_bind_ok, residueAfter, if_neg heq]
        cases g.leaveAfter [] with
        | error e => rfl
        | ok left' => rfl

theorem residueAfter_nil (s : Symbol) (gs : List Group) : residueAfter s [] gs = residue gs := by
  cases gs with
  | nil => rfl
  | cons g gs =>
    by_cases heq : g.symbol = s
    · rw [residueAfter, if_pos heq, residue, heq]
    · rw [residueAfter, if_neg heq, residue]
      cases g.leaveAfter [] with
      | error e => rfl
      | ok left =>
        rw [except_bind_ok, except_bind_ok]
        cases residueAfter g.symbol left gs with
        | error e => rfl
        | ok rest => rfl

theorem additive_written (hfall : gs.Pairwise fun g h => h.symbol.tier ≤ g.symbol.tier) :
    additive (written gs) = (do .ok (gather (← residue gs))) := by
  have hnone : ∀ h ∈ ([] : List Group), h.symbol = Symbol.M := List.forall_mem_nil _
  have hresolve := resolve_written_append hnone
    (fun g _ => Nat.le_of_lt_succ g.symbol.tier_lt_seven) hfall
  rw [show written [] ++ written gs = written gs from rfl, List.foldlM_nil] at hresolve
  rw [additive, hresolve, ← residueAfter_nil .M]
  rfl

theorem denotes_written {q : Nat} (hfall : gs.Pairwise fun g h => h.symbol.tier ≤ g.symbol.tier) :
    Denotes (written gs) q ↔ ∃ r, residue gs = .ok r ∧ value r = q := by
  rw [Denotes, additive_written hfall]
  constructor
  · intro hdenotes
    obtain ⟨a, ha, rfl⟩ := hdenotes
    obtain ⟨r, hr, hgather⟩ := except_bind_eq_ok ha
    cases hgather
    exact ⟨r, hr, (value_gather r).symm⟩
  · intro hresidue
    obtain ⟨r, hr, rfl⟩ := hresidue
    rw [hr]
    exact ⟨gather r, rfl, value_gather r⟩

/-! ### Groups that do not meet -/

theorem Group.leaveAfter_nil (g : Group) :
    ∃ r, g.leaveAfter [] = .ok r ∧ Collapsed r ∧ value r = g.worth := by
  have hle := g.value_le
  rcases leave_cases (s := g.symbol) (additive_of_descending g.descending) with
    ⟨r, hok, hr, hvalue⟩ | ⟨_, hlt⟩
  · refine ⟨r, hok, hr, ?_⟩
    rw [worth]
    omega
  · omega

/-- A group that leaves nothing, or is followed by another letter, does not meet the next one. -/
theorem residueAfter_of_apart {left : Numeral} (hleft : ∀ g ∈ gs.head?, g.symbol = s → left = [])
    (hgs : gs.IsChain fun g h => g.symbol = h.symbol → g.worth = 0) :
    ∃ r, residueAfter s left gs = .ok r ∧ value r = value left + worth gs := by
  induction gs generalizing s left with
  | nil => exact ⟨left, rfl, by simp⟩
  | cons g gs ih =>
    obtain ⟨hg, hrest⟩ := List.isChain_cons.mp hgs
    obtain ⟨first, hfirst, _, hvalue⟩ := g.leaveAfter_nil
    have hnext : ∀ h ∈ gs.head?, h.symbol = g.symbol → first = [] := fun h hh heq =>
      value_eq_zero.mp (hvalue.trans (hg h hh heq.symm))
    obtain ⟨rest, hok, hsum⟩ := ih hnext hrest
    by_cases heq : g.symbol = s
    · subst heq
      refine ⟨rest, ?_, ?_⟩
      · rw [hleft g rfl rfl, residueAfter, if_pos rfl, hfirst, except_bind_ok, hok]
      · rw [hsum, hvalue, hleft g rfl rfl, value_nil, Nat.zero_add, worth_cons]
    · refine ⟨left ++ rest, ?_, ?_⟩
      · rw [residueAfter, if_neg heq, hfirst, except_bind_ok, hok, except_bind_ok]
      · rw [value_append, hsum, hvalue, worth_cons]

theorem residue_of_apart (hgs : gs.IsChain fun g h => g.symbol = h.symbol → g.worth = 0) :
    ∃ r, residue gs = .ok r ∧ value r = worth gs := by
  obtain ⟨r, hr, hvalue⟩ : ∃ r, residueAfter .I [] gs = .ok r ∧ value r = value [] + worth gs :=
    residueAfter_of_apart (fun _ _ _ => rfl) hgs
  rw [residueAfter_nil] at hr
  rw [value_nil, Nat.zero_add] at hvalue
  exact ⟨r, hr, hvalue⟩

/-! ### A letter that is repeated -/

/-- The run of `k` copies of the letter next below. -/
def Group.copies {lower : Symbol} {count : Nat} (h : s.expansion? = some (lower, count)) (k : Nat)
    (hpos : 0 < k) (hle : k ≤ count) : Group where
  symbol := s
  run := List.replicate k lower
  run_ne_nil := by simpa using Nat.ne_of_gt hpos
  mem_subtractives := by
    intro x hx
    have htier := (Symbol.value_of_expansion? h).1
    rw [List.eq_of_mem_replicate hx, Symbol.mem_subtractives]
    omega
  descending := descending_replicate k lower
  value_le := by
    rw [value_replicate, (Symbol.value_of_expansion? h).2]
    exact Nat.mul_le_mul_right _ hle

@[simp] theorem Group.symbol_copies {lower : Symbol} {count k : Nat} {hpos : 0 < k} {hle : k ≤ count}
    (h : s.expansion? = some (lower, count)) : (copies h k hpos hle).symbol = s := rfl

section Copies

variable {lower : Symbol} {count : Nat} (h : s.expansion? = some (lower, count))

theorem Group.leaveAfter_copies_one (hle : 1 ≤ count) :
    (copies h 1 Nat.zero_lt_one hle).leaveAfter [] = .ok (List.replicate (count - 1) lower) := by
  obtain ⟨r, hok, hr, hvalue⟩ := (copies h 1 Nat.zero_lt_one hle).leaveAfter_nil
  have hrest : Collapsed (List.replicate (count - 1) lower) := by
    refine ⟨descending_replicate _ _, fun x limit hlimit => ?_⟩
    rw [List.count_replicate]
    split
    next hx =>
      rw [beq_iff_eq] at hx
      rw [← hx, (Symbol.limit?_of_expansion? h).1] at hlimit
      cases hlimit
      exact Nat.le_refl _
    next => exact Nat.zero_le _
  have hworth : (copies h 1 Nat.zero_lt_one hle).worth = (count - 1) * lower.value := by
    show s.value - value (List.replicate 1 lower) = (count - 1) * lower.value
    rw [value_replicate, (Symbol.value_of_expansion? h).2, Nat.sub_mul]
  rw [hok, hr.eq_of_value_eq hrest (by rw [hvalue, hworth, value_replicate])]

theorem Group.leaveAfter_copies_all (hpos : 0 < count) :
    (copies h count hpos (Nat.le_refl _)).leaveAfter [] = .ok [] := by
  obtain ⟨r, hok, _, hvalue⟩ := (copies h count hpos (Nat.le_refl _)).leaveAfter_nil
  have hworth : (copies h count hpos (Nat.le_refl _)).worth = 0 := by
    show s.value - value (List.replicate count lower) = 0
    rw [value_replicate, (Symbol.value_of_expansion? h).2, Nat.sub_self]
  rw [hok, value_eq_zero.mp (hvalue.trans hworth)]

/-- A run worth the whole letter is too much as soon as anything is left before it. -/
theorem residue_copies (hcount : 1 < count) (rest : List Group) :
    residue (.copies h 1 Nat.zero_lt_one (Nat.le_of_lt hcount) ::
        .copies h count (Nat.zero_lt_of_lt hcount) (Nat.le_refl _) :: rest)
      = .error .insufficientMagnitude := by
  have hpos := lower.value_pos
  have hrun : List.replicate (count - 1) lower ++ List.replicate count lower
      = List.replicate (count - 1 + count) lower := List.replicate_append_replicate
  have hdescending := descending_replicate (count - 1 + count) lower
  have hshort : leave s (List.replicate (count - 1 + count) lower) = .error .insufficientMagnitude := by
    rcases leave_cases (s := s) (additive_of_descending hdescending) with ⟨r, _, _, hvalue⟩ | ⟨herror, _⟩
    · have hlt : count * lower.value < (count - 1 + count) * lower.value :=
        Nat.mul_lt_mul_of_pos_right (by omega) hpos
      rw [value_replicate, (Symbol.value_of_expansion? h).2] at hvalue
      omega
    · exact herror
  rw [residue, Group.leaveAfter_copies_one h, except_bind_ok, residueAfter, Group.symbol_copies,
    Group.symbol_copies, if_pos rfl]
  show (leave s (List.replicate (count - 1) lower ++ List.replicate count lower) >>= _) = _
  rw [hrun, hshort, except_bind_error]

end Copies

theorem Group.exists_expansion (g : Group) :
    ∃ lower count, g.symbol.expansion? = some (lower, count) ∧ 1 < count := by
  obtain ⟨x, _, hrun⟩ := List.exists_cons_of_ne_nil g.run_ne_nil
  have hmem := g.mem_subtractives x (hrun ▸ List.mem_cons_self)
  obtain ⟨lower, count, h⟩ := Symbol.expansion?_isSome (Symbol.mem_subtractives.mp hmem).1
  exact ⟨lower, count, h, Symbol.one_lt_of_expansion? h⟩

theorem exists_used_up (gs : List Group) : ∃ hs : List Group, hs.map Group.symbol = gs.map Group.symbol ∧
    ∀ rest, residue (hs ++ rest) = residue rest := by
  induction gs with
  | nil => exact ⟨[], rfl, fun rest => rfl⟩
  | cons g gs ih =>
    obtain ⟨hs, hsymbols, hresidue⟩ := ih
    obtain ⟨lower, count, h, hcount⟩ := g.exists_expansion
    refine ⟨.copies h count (Nat.zero_lt_of_lt hcount) (Nat.le_refl _) :: hs, ?_, fun rest => ?_⟩
    · rw [List.map_cons, List.map_cons, hsymbols]
      rfl
    · rw [List.cons_append, residue, Group.leaveAfter_copies_all, except_bind_ok, residueAfter_nil, hresidue]

theorem exists_repeated (hfall : gs.Pairwise fun g h => h.symbol.tier ≤ g.symbol.tier)
    (hnot : ¬ gs.Pairwise fun g h => h.symbol.tier < g.symbol.tier) :
    ∃ before g h after, gs = before ++ g :: h :: after ∧ g.symbol = h.symbol := by
  induction gs with
  | nil => exact absurd List.Pairwise.nil hnot
  | cons g gs ih =>
    obtain ⟨hg, hrest⟩ := List.pairwise_cons.mp hfall
    by_cases hstrict : gs.Pairwise fun g h => h.symbol.tier < g.symbol.tier
    · have hequal : ∃ h ∈ gs, ¬ h.symbol.tier < g.symbol.tier := by
        by_contra hall
        push Not at hall
        exact hnot (List.pairwise_cons.mpr ⟨hall, hstrict⟩)
      obtain ⟨h, hmem, hge⟩ := hequal
      obtain ⟨first, after, rfl⟩ := List.exists_cons_of_ne_nil (List.ne_nil_of_mem hmem)
      have hfirst : h.symbol.tier ≤ first.symbol.tier := by
        rcases List.mem_cons.mp hmem with rfl | hmem
        · exact Nat.le_refl _
        · exact (List.pairwise_cons.mp hrest).1 h hmem
      have hle := hg first List.mem_cons_self
      exact ⟨[], g, first, after, rfl, Symbol.tier_injective (by omega)⟩
    · obtain ⟨before, x, y, after, rfl, heq⟩ := ih hrest hstrict
      exact ⟨g :: before, x, y, after, rfl, heq⟩

theorem pairwise_of_map_eq {R : Symbol → Symbol → Prop} {hs : List Group}
    (h : hs.map Group.symbol = gs.map Group.symbol) (hgs : gs.Pairwise fun g h => R g.symbol h.symbol) :
    hs.Pairwise fun g h => R g.symbol h.symbol := by
  have hmap : (gs.map Group.symbol).Pairwise R := List.pairwise_map.mpr hgs
  rw [← h] at hmap
  exact List.pairwise_map.mp hmap

/-- **What a sequence of groups is worth.** It is worth the sum of its groups exactly when that is what
their residue is worth. This holds if a group that is followed by one of the same letter is worth nothing,
and it holds whatever the runs are exactly when no letter is repeated: what is left of a group stands
before the next run, and is taken away from the next letter together with it. -/
theorem denotes_worth_iff (gs : List Group)
    (hfall : gs.Pairwise fun g h => h.symbol.tier ≤ g.symbol.tier) :
    (Denotes (written gs) (worth gs) ↔ ∃ r, residue gs = .ok r ∧ value r = worth gs) ∧
      ((gs.IsChain fun g h => g.symbol = h.symbol → g.worth = 0) → Denotes (written gs) (worth gs)) ∧
      ((∀ hs : List Group, hs.map Group.symbol = gs.map Group.symbol → Denotes (written hs) (worth hs)) ↔
        gs.Pairwise fun g h => h.symbol.tier < g.symbol.tier) := by
  refine ⟨denotes_written hfall, fun hapart => (denotes_written hfall).mpr (residue_of_apart hapart),
    fun hall => ?_, fun hstrict hs hsymbols => ?_⟩
  · by_contra hnot
    obtain ⟨before, g, h, after, rfl, heq⟩ := exists_repeated hfall hnot
    obtain ⟨usedUp, husedUp, hresidue⟩ := exists_used_up before
    obtain ⟨lower, count, hexpansion, hcount⟩ := g.exists_expansion
    have hrefused := residue_copies hexpansion hcount after
    rw [← hresidue] at hrefused
    have hsymbols : (usedUp ++ .copies hexpansion 1 Nat.zero_lt_one (Nat.le_of_lt hcount) ::
        .copies hexpansion count (Nat.zero_lt_of_lt hcount) (Nat.le_refl _) :: after).map Group.symbol
          = (before ++ g :: h :: after).map Group.symbol := by
      simp [husedUp, heq]
    have hfall' := pairwise_of_map_eq (R := fun x y => y.tier ≤ x.tier) hsymbols hfall
    obtain ⟨r, hr, _⟩ := (denotes_written hfall').mp (hall _ hsymbols)
    rw [hrefused] at hr
    cases hr
  · have hstrict' := pairwise_of_map_eq (R := fun x y => y.tier < x.tier) hsymbols hstrict
    have hapart : hs.IsChain fun g h => g.symbol = h.symbol → g.worth = 0 := by
      refine (hstrict'.imp fun {g h} hlt heq => ?_).isChain
      rw [heq] at hlt
      exact absurd hlt (Nat.lt_irrefl _)
    exact (denotes_written (hstrict'.imp Nat.le_of_lt)).mpr (residue_of_apart hapart)

theorem denotes_worth_ninety_nine : ∃ gs : List Group,
    gs.Pairwise (fun g h => h.symbol.tier ≤ g.symbol.tier) ∧ written gs = [.X, .C, .I, .X] ∧
      worth gs = 99 ∧ Denotes (written gs) (worth gs) := by
  refine ⟨[⟨.C, [.X], by decide, by decide, by decide, by decide⟩,
    ⟨.X, [.I], by decide, by decide, by decide, by decide⟩], by decide, rfl, rfl, ?_⟩
  obtain ⟨_, _, hdistinct⟩ := denotes_worth_iff [⟨.C, [.X], by decide, by decide, by decide, by decide⟩,
    ⟨.X, [.I], by decide, by decide, by decide, by decide⟩] (by decide)
  exact hdistinct.mpr (by decide) _ rfl

def Group.four : Group := ⟨.V, [.I], by decide, by decide, by decide, by decide⟩

/-- Four and four are written, and nothing is read. -/
theorem not_denotes_worth_four_four : written [.four, .four] = [.I, .V, .I, .V] ∧
    worth [.four, .four] = 8 ∧ additive [.I, .V, .I, .V] = .ok [] ∧
      ¬ Denotes (written [.four, .four]) (worth [.four, .four]) := by
  have hfirst : Group.four.leaveAfter [] = .ok [.I, .I, .I, .I] :=
    Group.leaveAfter_copies_one (s := .V) rfl (by decide)
  have hsecond : Group.four.leaveAfter [.I, .I, .I, .I] = .ok [] := by
    rcases leave_cases (s := .V) (additive_of_descending (w := [.I, .I, .I, .I, .I]) (by decide)) with
      ⟨r, hok, _, hvalue⟩ | ⟨_, hlt⟩
    · rw [value_eq_zero.mp (show value r = 0 from Nat.add_right_cancel hvalue)] at hok
      exact hok
    · exact absurd hlt (by decide)
  have hadditive : additive (written [.four, .four]) = .ok [] := by
    rw [additive_written (by decide), residue, hfirst, except_bind_ok, residueAfter, if_pos rfl, hsecond]
    rfl
  refine ⟨rfl, rfl, hadditive, ?_⟩
  intro hdenotes
  obtain ⟨a, ha, hworth⟩ := hdenotes
  rw [hadditive] at ha
  cases ha
  cases hworth

end Roman.Numeral
