import Roman.Proofs.Resolution
/-!
# Groups of one letter

A group is a run and the letter that it subtracts from. Groups of one and the same letter `s` are
resolved in one stage, from the left, and what one of them leaves stands directly before the run of the
next. It is a remnant: a collapsed word of letters that subtract from `s`. So the next run is read
together with it, and nothing further left is.
-/

namespace Roman.Numeral

variable {s : Symbol} {left run : Numeral}

/-- A word that a group of `s` can leave. -/
structure Remnant (s : Symbol) (w : Numeral) : Prop where
  collapsed : Collapsed w
  mem_subtractives : ∀ x ∈ w, x ∈ s.subtractives

theorem remnant_nil (s : Symbol) : Remnant s [] where
  collapsed := ⟨List.Pairwise.nil, fun _ _ _ => by simp⟩
  mem_subtractives := List.forall_mem_nil _

/-- Without `s` and the letters above it, a collapsed word is worth less than `s`. -/
theorem Collapsed.value_lt {w : Numeral} (hw : Collapsed w) (h : ∀ x ∈ w, x.tier < s.tier) :
    value w < s.value := by
  have hnone : ∀ x, s.tier ≤ x.tier → w.count x = 0 := fun x hx =>
    List.count_eq_zero.mpr fun hmem => absurd (h x hmem) (Nat.not_lt.mpr hx)
  suffices hstuck : value w < value [s] by
    simpa using hstuck
  apply value_lt_of_count_lt (s := s)
  · intro x limit _ hlimit
    exact (hw.count_le x limit hlimit).trans (Nat.le_add_left _ _)
  · rw [hnone s (Nat.le_refl _), List.count_singleton_self]
    exact Nat.zero_lt_one
  · intro x hx
    rw [hnone x (Nat.le_of_lt hx)]
    exact Nat.zero_le _

/-! ### Something is always taken away -/

/-- The run before the place of reading is in order and worth less than `s`. -/
structure Light (s : Symbol) (read : Numeral) : Prop where
  descending : Descending (read.takeWhile (· ∈ s.subtractives)).reverse
  value_lt : value (read.takeWhile (· ∈ s.subtractives)) < s.value

theorem light_of_stop {read : Numeral} (h : ∀ y ∈ read.head?, y ∉ s.subtractives) : Light s read where
  descending := by
    rw [takeWhile_of_stop h]
    exact List.Pairwise.nil
  value_lt := by
    rw [takeWhile_of_stop h]
    exact s.value_pos

/-- Of a collapsed word, the run that subtracts from `s` is light. -/
theorem Collapsed.light {base : Numeral} (hleft : Collapsed left)
    (hbase : ∀ y ∈ base.head?, y ∉ s.subtractives) : Light s (left.reverse ++ base) := by
  have hsub := (List.takeWhile_sublist (p := (· ∈ s.subtractives)) (l := left.reverse)).reverse
  rw [List.reverse_reverse] at hsub
  have hcollapsed : Collapsed (left.reverse.takeWhile (· ∈ s.subtractives)).reverse :=
    ⟨hleft.descending.sublist hsub, fun x limit hlimit =>
      (hsub.count_le x).trans (hleft.count_le x limit hlimit)⟩
  constructor
  · rw [takeWhile_append_of_stop hbase]
    exact hcollapsed.descending
  · rw [takeWhile_append_of_stop hbase, ← value_reverse]
    apply hcollapsed.value_lt
    intro x hx
    have hmem := List.mem_takeWhile_imp (List.mem_reverse.mp hx)
    rw [decide_eq_true_iff] at hmem
    exact (Symbol.mem_subtractives.mp hmem).1

/-- A letter is read behind a light run: something is left, and it is light again. -/
theorem Light.exists_step {read : Numeral} (hread : Light s read) :
    ∃ read', settleNext (leave s) s read s = .ok read' ∧ read' ≠ [] ∧ Light s read' := by
  by_cases hnil : read.takeWhile (· ∈ s.subtractives) = []
  · refine ⟨s :: read, by rw [settleNext, if_pos rfl, hnil], List.cons_ne_nil _ _, light_of_stop ?_⟩
    intro y hy
    cases hy
    exact s.self_notMem_subtractives
  · have hlt := hread.value_lt
    obtain ⟨left, hleave, hcollapsed, hvalue⟩ | ⟨_, hless⟩ :=
      leave_cases (s := s) (additive_of_descending hread.descending)
    · rw [value_reverse] at hvalue
      refine ⟨left.reverse ++ read.dropWhile (· ∈ s.subtractives), ?_, fun hempty => ?_,
        hcollapsed.light (stop_dropWhile read)⟩
      · rw [settleNext, if_pos rfl]
        split
        next hrun => exact absurd hrun hnil
        next => rw [hleave, except_bind_ok]
      · have hleft : left = [] := List.reverse_eq_nil_iff.mp (List.append_eq_nil_iff.mp hempty).1
        rw [hleft, value_nil] at hvalue
        omega
    · rw [value_reverse] at hless
      omega

/-- So nothing is ever used up by letters in order, of which only the highest are taken from. -/
theorem Light.exists_foldlM {read : Numeral} (hread : Light s read) (hrun : Descending run)
    (hle : ∀ x ∈ run, x.tier ≤ s.tier) (hne : read ++ run ≠ []) :
    ∃ read', run.foldlM (settleNext (leave s) s) read = .ok read' ∧ read' ≠ [] := by
  induction run generalizing read with
  | nil =>
    rw [List.append_nil] at hne
    exact ⟨read, rfl, hne⟩
  | cons x run ih =>
    obtain ⟨hhead, hrest⟩ := List.pairwise_cons.mp hrun
    by_cases hx : x = s
    · subst hx
      obtain ⟨read', hstep, hne', hread'⟩ := hread.exists_step
      rw [List.foldlM_cons, hstep, except_bind_ok]
      refine ih hread' hrest (fun y hy => hle y (List.mem_cons_of_mem x hy)) fun hnil => ?_
      exact hne' (List.append_eq_nil_iff.mp hnil).1
    · -- The letters from here on are below `s`.
      have hlt : x.tier < s.tier :=
        Nat.lt_of_le_of_ne (hle x List.mem_cons_self) fun heq => hx (Symbol.tier_injective heq)
      have hs : s ∉ x :: run := by
        intro hmem
        rcases List.mem_cons.mp hmem with heq | hmem
        · exact hx heq.symm
        · exact absurd (hhead s hmem) (Nat.not_le.mpr hlt)
      refine ⟨(x :: run).reverse ++ read, foldlM_settleNext_of_notMem hs read, fun hnil => ?_⟩
      exact List.cons_ne_nil x run (List.reverse_eq_nil_iff.mp (List.append_eq_nil_iff.mp hnil).1)

/-- A run that stands behind a remnant is resolved together with it, and it is never worth nothing. -/
theorem Remnant.exists_additive (hleft : Remnant s left) (hrun : ∀ x ∈ run, x ∈ s.subtractives)
    (hdescending : Descending run) (hne : left ++ run ≠ []) :
    ∃ a, additive (left ++ run) = .ok a ∧ a ≠ [] := by
  have hletters : ∀ x ∈ left ++ run, x ∈ s.subtractives :=
    List.forall_mem_append.mpr ⟨hleft.mem_subtractives, hrun⟩
  obtain ⟨high, hhigh⟩ : ∃ high : Symbol, s.tier = high.tier + 1 := by
    obtain ⟨x, hx⟩ := List.exists_mem_of_ne_nil _ hne
    obtain ⟨high, count, hexpansion⟩ :=
      Symbol.expansion?_isSome (Symbol.mem_subtractives.mp (hletters x hx)).1
    exact ⟨high, (Symbol.value_of_expansion? hexpansion).1⟩
  -- Of the stages below `s`, only that of the next letter has anything to settle.
  have hle : ∀ x ∈ left ++ run, x.tier ≤ high.tier := by
    intro x hx
    have := (Symbol.mem_subtractives.mp (hletters x hx)).1
    omega
  have hsettled : ∀ x : Symbol, x.tier < high.tier → Settled x (left ++ run) := by
    intro x hx
    apply settled_of_le_tier
    intro y hy
    have := (Symbol.mem_subtractives.mp (hletters y hy)).2
    omega
  have hremnant : left.foldlM (settleNext (leave high) high) [] = .ok (left.reverse ++ []) :=
    foldlM_settleNext_of_settled (hleft.collapsed.descending.settled high) [] (by simp)
  have hlight : Light high (left.reverse ++ []) := hleft.collapsed.light (by simp)
  have hne' : (left.reverse ++ []) ++ run ≠ [] := by
    simpa using hne
  obtain ⟨read, hread, hnil⟩ :=
    hlight.exists_foldlM hdescending (fun x hx => hle x (List.mem_append_right left hx)) hne'
  refine ⟨gather read.reverse, ?_, fun hempty => ?_⟩
  · rw [additive, resolve_eq_settle hle hsettled, settle, List.foldlM_append, hremnant, except_bind_ok,
      hread]
    rfl
  · rw [← value_eq_zero, value_gather, value_reverse, value_eq_zero] at hempty
    exact hnil hempty

theorem value_lt_of_leave {a : Numeral} (ha : additive run = .ok a) (hne : a ≠ [])
    (h : leave s run = .ok left) : value left < s.value := by
  have hpos : value a ≠ 0 := fun hzero => hne (value_eq_zero.mp hzero)
  obtain ⟨r, hr, _, hvalue⟩ | ⟨herror, _⟩ := leave_cases (s := s) ha
  · rw [h] at hr
    cases hr
    omega
  · rw [h] at herror
    cases herror

/-- What is left of a letter is a remnant, unless nothing was taken away. -/
theorem remnant_of_leave {a : Numeral} (hrun : ∀ x ∈ run, x ∈ s.subtractives)
    (ha : additive run = .ok a) (hne : a ≠ []) (h : leave s run = .ok left) : Remnant s left := by
  have hlt := value_lt_of_leave ha hne h
  obtain ⟨r, hr, hcollapsed, _⟩ | ⟨herror, _⟩ := leave_cases (s := s) ha
  · rw [h] at hr
    cases hr
    have hlow : ∀ x ∈ run, s.tier - 2 ≤ x.tier := by
      intro x hx
      have := (Symbol.mem_subtractives.mp (hrun x hx)).2
      omega
    have hwithdraw : withdraw [s] a = .ok left := by
      rw [← h, leave, ha, except_bind_ok]
    refine ⟨hcollapsed, fun x hx => Symbol.mem_subtractives.mpr ⟨?_, ?_⟩⟩
    · have hle := value_le_of_mem hx
      by_contra hnot
      have := Symbol.value_le_of_tier_le (Nat.le_of_not_lt hnot)
      omega
    · have := le_tier_of_withdraw hwithdraw (Nat.sub_le _ 2) (le_tier_of_additive ha hlow) x hx
      omega
  · rw [h] at herror
    cases herror

/-! ### Groups -/

/-- A letter and the run written before it, from the highest letter and worth no more than it. -/
structure Group where
  symbol : Symbol
  run : Numeral
  run_ne_nil : run ≠ []
  mem_subtractives : ∀ x ∈ run, x ∈ symbol.subtractives
  descending : Descending run
  value_le : value run ≤ symbol.value

namespace Group

def letters (g : Group) : Numeral := g.run ++ [g.symbol]

def worth (g : Group) : Nat := g.symbol.value - value g.run

/-- What a group leaves if `left` stands before its run. -/
def leaveAfter (left : Numeral) (g : Group) : Except NumeralError Numeral :=
  leave g.symbol (left ++ g.run)

theorem tier_le (g : Group) : ∀ x ∈ g.letters, x.tier ≤ g.symbol.tier := tier_le_group g.mem_subtractives

end Group

/-- The groups one after the other. -/
def written (gs : List Group) : Numeral := gs.flatMap Group.letters

theorem Remnant.leaveAfter {g : Group} {left' : Numeral} (hleft : Remnant g.symbol left)
    (h : g.leaveAfter left = .ok left') : Remnant g.symbol left' := by
  have hne : left ++ g.run ≠ [] := fun hnil => g.run_ne_nil (List.append_eq_nil_iff.mp hnil).2
  obtain ⟨a, ha, hne'⟩ := hleft.exists_additive g.mem_subtractives g.descending hne
  exact remnant_of_leave (List.forall_mem_append.mpr ⟨hleft.mem_subtractives, g.mem_subtractives⟩) ha hne' h

/-- Groups of one letter, read behind a remnant. -/
theorem foldlM_settleNext_written {gs : List Group} (hgs : ∀ g ∈ gs, g.symbol = s)
    (hleft : Remnant s left) :
    (written gs).foldlM (settleNext (leave s) s) left.reverse
      = (gs.foldlM Group.leaveAfter left).map List.reverse := by
  induction gs generalizing left with
  | nil => rfl
  | cons g gs ih =>
    have hg := hgs g List.mem_cons_self
    subst hg
    rw [written, List.flatMap_cons, List.foldlM_append, List.foldlM_cons, Group.letters,
      foldlM_settleNext_group hleft.mem_subtractives g.mem_subtractives g.run_ne_nil]
    show Except.map _ (g.leaveAfter left) >>= _ = _
    cases hleave : g.leaveAfter left with
    | error e => rfl
    | ok left' => exact ih (fun h hh => hgs h (List.mem_cons_of_mem g hh)) (hleft.leaveAfter hleave)

end Roman.Numeral
