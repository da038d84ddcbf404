import Mathlib.Data.List.Chain
import Roman.Numeral.Additive
import Roman.Proofs.Withdrawal
/-!
# Settling one letter

Settling a letter reads the word from the left and looks back only over letters that subtract from it.
A part of a word that ends in any other letter, once it is settled, is therefore out of reach of what
follows. This is how a word is cut: the parts are resolved each on its own, and neither the order of
the stages nor the place of a part in the word can be told from the outcome.
-/

namespace Roman.Numeral

variable {deduct : Numeral → Except NumeralError Numeral} {s : Symbol}

/-! ### One letter of the alphabet -/

theorem settleNext_of_ne {x : Symbol} (hx : x ≠ s) (read : Numeral) :
    settleNext deduct s read x = .ok (x :: read) := by
  rw [settleNext, if_neg hx]

/-! A letter that does not subtract ends the run that is looked back over. -/

theorem takeWhile_of_stop {base : Numeral} (hbase : ∀ y ∈ base.head?, y ∉ s.subtractives) :
    base.takeWhile (· ∈ s.subtractives) = [] := by
  cases base with
  | nil => rfl
  | cons y base =>
    have hy : y ∉ s.subtractives := hbase y rfl
    simp [hy]

theorem dropWhile_of_stop {base : Numeral} (hbase : ∀ y ∈ base.head?, y ∉ s.subtractives) :
    base.dropWhile (· ∈ s.subtractives) = base := by
  have hsplit := List.takeWhile_append_dropWhile (p := (· ∈ s.subtractives)) (l := base)
  rwa [takeWhile_of_stop hbase, List.nil_append] at hsplit

theorem takeWhile_append_of_stop {base : Numeral} (hbase : ∀ y ∈ base.head?, y ∉ s.subtractives)
    (read : Numeral) :
    (read ++ base).takeWhile (· ∈ s.subtractives) = read.takeWhile (· ∈ s.subtractives) := by
  rw [List.takeWhile_append, takeWhile_of_stop hbase, List.append_nil]
  split
  next hall => exact ((List.takeWhile_prefix _).eq_of_length hall).symm
  next => rfl

theorem dropWhile_append_of_stop {base : Numeral} (hbase : ∀ y ∈ base.head?, y ∉ s.subtractives)
    (read : Numeral) :
    (read ++ base).dropWhile (· ∈ s.subtractives) = read.dropWhile (· ∈ s.subtractives) ++ base := by
  rw [List.dropWhile_append, dropWhile_of_stop hbase]
  split
  next hall =>
    rw [List.isEmpty_iff.mp hall]
    rfl
  next => rfl

theorem stop_dropWhile (read : Numeral) :
    ∀ y ∈ (read.dropWhile (· ∈ s.subtractives)).head?, y ∉ s.subtractives := by
  intro y hy
  have hnot := List.head?_dropWhile_not (· ∈ s.subtractives) read
  rw [hy] at hnot
  simpa using hnot

theorem settleNext_of_stop {read : Numeral} (hread : ∀ y ∈ read.head?, y ∉ s.subtractives) :
    settleNext deduct s read s = .ok (s :: read) := by
  rw [settleNext, if_pos rfl, takeWhile_of_stop hread]

theorem settleNext_append {base : Numeral} (hbase : ∀ y ∈ base.head?, y ∉ s.subtractives)
    (read : Numeral) (x : Symbol) :
    settleNext deduct s (read ++ base) x = (settleNext deduct s read x).map (· ++ base) := by
  by_cases hx : x = s
  · rw [settleNext, settleNext, if_pos hx, if_pos hx, takeWhile_append_of_stop hbase,
      dropWhile_append_of_stop hbase]
    cases read.takeWhile (· ∈ s.subtractives) with
    | nil => rfl
    | cons y run =>
      show (deduct _ >>= _) = Except.map _ (deduct _ >>= _)
      cases deduct (y :: run).reverse with
      | error e => rfl
      | ok left => simp [Except.map]
  · rw [settleNext_of_ne hx, settleNext_of_ne hx]
    rfl

theorem foldlM_settleNext_append {base : Numeral} (hbase : ∀ y ∈ base.head?, y ∉ s.subtractives)
    (w read : Numeral) :
    w.foldlM (settleNext deduct s) (read ++ base)
      = (w.foldlM (settleNext deduct s) read).map (· ++ base) := by
  induction w generalizing read with
  | nil => rfl
  | cons x w ih =>
    rw [List.foldlM_cons, List.foldlM_cons, settleNext_append hbase]
    cases settleNext deduct s read x with
    | error e => rfl
    | ok read' => exact ih read'

theorem foldlM_settleNext_of_notMem {w : Numeral} (hw : s ∉ w) (read : Numeral) :
    w.foldlM (settleNext deduct s) read = .ok (w.reverse ++ read) := by
  induction w generalizing read with
  | nil => rfl
  | cons x w ih =>
    have hx : x ≠ s := fun he => hw (he ▸ List.mem_cons_self)
    rw [List.foldlM_cons, settleNext_of_ne hx, except_bind_ok,
      ih fun hmem => hw (List.mem_cons_of_mem x hmem)]
    simp

/-- No `s` stands directly behind a letter that subtracts from it. -/
def Settled (s : Symbol) (w : Numeral) : Prop := w.IsChain fun x y => y = s → x ∉ s.subtractives

theorem foldlM_settleNext_of_settled {w : Numeral} (hw : Settled s w) (read : Numeral)
    (hread : ∀ x ∈ read.head?, ∀ y ∈ w.head?, y = s → x ∉ s.subtractives) :
    w.foldlM (settleNext deduct s) read = .ok (w.reverse ++ read) := by
  induction w generalizing read with
  | nil => rfl
  | cons x w ih =>
    obtain ⟨hhead, hrest⟩ := List.isChain_cons.mp hw
    have hstep : settleNext deduct s read x = .ok (x :: read) := by
      by_cases hx : x = s
      · subst hx
        exact settleNext_of_stop fun y hy => hread y hy x rfl rfl
      · exact settleNext_of_ne hx read
    rw [List.foldlM_cons, hstep, except_bind_ok, ih hrest (x :: read) ?_]
    · simp
    · intro x' hx' y hy
      cases hx'
      exact hhead y hy

theorem settle_of_settled {w : Numeral} (hw : Settled s w) : settle deduct s w = .ok w := by
  rw [settle, foldlM_settleNext_of_settled hw [] (by simp)]
  simp

theorem settled_of_notMem {w : Numeral} (hw : s ∉ w) : Settled s w := by
  induction w with
  | nil => exact List.isChain_nil
  | cons x w ih =>
    refine List.isChain_cons.mpr ⟨fun y hy he => ?_, ih fun hmem => hw (List.mem_cons_of_mem x hmem)⟩
    exact absurd (he ▸ List.mem_cons_of_mem x (List.mem_of_mem_head? hy)) hw

theorem settled_of_le_tier {w : Numeral} (hw : ∀ x ∈ w, s.tier ≤ x.tier) : Settled s w := by
  induction w with
  | nil => exact List.isChain_nil
  | cons x w ih =>
    refine List.isChain_cons.mpr ⟨fun y _ _ => ?_, ih fun y hy => hw y (List.mem_cons_of_mem x hy)⟩
    have := hw x List.mem_cons_self
    rw [Symbol.mem_subtractives]
    omega

/-- A word that is settled and ends in a letter that does not subtract from `s` is out of reach. -/
theorem settle_append {u u' : Numeral} (hu : settle deduct s u = .ok u')
    (hlast : ∀ y ∈ u'.getLast?, y ∉ s.subtractives) (w : Numeral) :
    settle deduct s (u ++ w) = (settle deduct s w).map (u' ++ ·) := by
  obtain ⟨read, hread, hu'⟩ := except_bind_eq_ok hu
  cases hu'
  rw [List.getLast?_reverse] at hlast
  have happend : w.foldlM (settleNext deduct s) read
      = (w.foldlM (settleNext deduct s) []).map (· ++ read) :=
    foldlM_settleNext_append hlast w []
  rw [settle, List.foldlM_append, hread, except_bind_ok, happend, settle]
  cases w.foldlM (settleNext deduct s) [] with
  | error e => rfl
  | ok read' => simp [Except.map]

theorem settle_append_of_notMem {w : Numeral} (hw : s ∉ w) (u : Numeral) :
    settle deduct s (u ++ w) = (settle deduct s u).map (· ++ w) := by
  rw [settle, List.foldlM_append, settle]
  cases u.foldlM (settleNext deduct s) [] with
  | error e => rfl
  | ok read =>
    rw [except_bind_ok, foldlM_settleNext_of_notMem hw]
    simp [Except.map]

/-- One group of a run and its letter, read behind what an earlier group has left. -/
theorem foldlM_settleNext_group {left run : Numeral} (hleft : ∀ x ∈ left, x ∈ s.subtractives)
    (hrun : ∀ x ∈ run, x ∈ s.subtractives) (hne : run ≠ []) :
    (run ++ [s]).foldlM (settleNext deduct s) left.reverse
      = (deduct (left ++ run)).map List.reverse := by
  have hs : s ∉ run := fun hmem => s.self_notMem_subtractives (hrun s hmem)
  have hall : ∀ x ∈ (left ++ run).reverse, decide (x ∈ s.subtractives) = true := by
    intro x hx
    rw [decide_eq_true_iff]
    exact List.forall_mem_append.mpr ⟨hleft, hrun⟩ x (List.mem_reverse.mp hx)
  have htake : (left ++ run).reverse.takeWhile (· ∈ s.subtractives) = (left ++ run).reverse :=
    List.takeWhile_eq_self_iff.mpr hall
  have hdrop : (left ++ run).reverse.dropWhile (· ∈ s.subtractives) = [] :=
    List.dropWhile_eq_nil_iff.mpr hall
  rw [List.foldlM_append, foldlM_settleNext_of_notMem hs, except_bind_ok, ← List.reverse_append,
    List.foldlM_cons, settleNext, if_pos rfl, htake, hdrop]
  split
  next hnil =>
    have hrun' : left ++ run = [] := List.reverse_eq_nil_iff.mp hnil
    exact absurd (List.append_eq_nil_iff.mp hrun').2 hne
  next =>
    rw [List.reverse_reverse]
    cases deduct (left ++ run) with
    | error e => rfl
    | ok left' => simp [Except.map]

theorem settle_congr {deduct' : Numeral → Except NumeralError Numeral}
    (h : ∀ run, (∀ x ∈ run, x ∈ s.subtractives) → deduct run = deduct' run) (w : Numeral) :
    settle deduct s w = settle deduct' s w := by
  have hnext : settleNext deduct s = settleNext deduct' s := by
    funext read x
    unfold settleNext
    split
    · split
      · rfl
      next hrun =>
        rw [h]
        intro x hx
        simpa using List.mem_takeWhile_imp (List.mem_reverse.mp hx)
    · rfl
  rw [settle, settle, hnext]

theorem forall_mem_settle {P : Symbol → Prop} {w r : Numeral}
    (hdeduct : ∀ run left, deduct run = .ok left → P s → (∀ x ∈ run, P x) → ∀ x ∈ left, P x)
    (h : settle deduct s w = .ok r) (hw : ∀ x ∈ w, P x) : ∀ x ∈ r, P x := by
  obtain ⟨read, hread, hr⟩ := except_bind_eq_ok h
  cases hr
  suffices hall : ∀ x ∈ read, P x by
    intro x hx
    exact hall x (List.mem_reverse.mp hx)
  refine foldlM_invariant (P := fun read => ∀ x ∈ read, P x) ?_ hread (by simp)
  intro x hx before after hstep hbefore
  unfold settleNext at hstep
  split at hstep
  next hs =>
    subst hs
    split at hstep
    · cases hstep
      exact List.forall_mem_cons.mpr ⟨hw x hx, hbefore⟩
    · obtain ⟨left, hleft, hafter⟩ := except_bind_eq_ok hstep
      cases hafter
      have hrun : ∀ y ∈ (before.takeWhile (· ∈ x.subtractives)).reverse, P y := fun y hy =>
        hbefore y ((List.takeWhile_sublist _).subset (List.mem_reverse.mp hy))
      intro y hy
      rcases List.mem_append.mp hy with hy | hy
      · exact hdeduct _ left hleft (hw x hx) hrun y (List.mem_reverse.mp hy)
      · exact hbefore y ((List.dropWhile_sublist _).subset hy)
  next =>
    cases hstep
    exact List.forall_mem_cons.mpr ⟨hw x hx, hbefore⟩

theorem atMostShort_settle (hdeduct : ∀ run, AtMostShort (deduct run)) (w : Numeral) :
    AtMostShort (settle deduct s w) := by
  refine AtMostShort.bind (AtMostShort.foldlM (fun read x => ?_) w []) fun read => .ok read.reverse
  unfold settleNext
  split
  · split
    · exact .ok _
    · exact (hdeduct _).bind fun left => .ok _
  · exact .ok _

end Roman.Numeral
