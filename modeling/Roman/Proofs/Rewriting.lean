import Roman.Proofs.Group
/-!
# Rewriting in place

A letter can be settled without reading the word from end to end: as long as there is a run in front of
it anywhere, the first such run and its letter are struck out and what is left of the letter is put in
their place. The word is searched from the beginning every time, and what has been put in can be part of
the run that is found next.

Everything in front of the place of the last rewriting is then settled, and directly in front of what
is still to be searched stands a remnant. What is still to be searched has been settled as far as the
next lower letter, so a run in it is in order. So a run is a remnant, which may be empty, and letters in
order behind it, and such a run is never worth nothing.
-/

namespace Roman.Numeral

variable {s : Symbol} {base left rest run w : Numeral}

/-- A place in a word where a run stands directly in front of a letter, which is not named. -/
structure Site where
  before : Numeral
  run : Numeral
  after : Numeral

/-- The word with `left` in the place of the run and its letter. -/
def Site.fill (p : Site) (left : Numeral) : Numeral := p.before ++ (left ++ p.after)

/-- Finds the first `s` behind a run of letters that subtract from it. The letters that have been passed
are `read`, the nearest first. -/
def siteFrom? (s : Symbol) (read : Numeral) : Numeral → Option Site
  | [] => none
  | x :: w =>
    if x = s ∧ read.takeWhile (· ∈ s.subtractives) ≠ [] then
      some
        { before := (read.dropWhile (· ∈ s.subtractives)).reverse
          run := (read.takeWhile (· ∈ s.subtractives)).reverse
          after := w }
    else siteFrom? s (x :: read) w

def site? (s : Symbol) (w : Numeral) : Option Site := siteFrom? s [] w

/-! ### The first site -/

/-- The run reaches back as far as it can, and up to its end there is nothing to rewrite. -/
structure Site.IsFirst (p : Site) (s : Symbol) (w : Numeral) : Prop where
  word_eq : w = p.before ++ (p.run ++ s :: p.after)
  run_ne_nil : p.run ≠ []
  mem_subtractives : ∀ x ∈ p.run, x ∈ s.subtractives
  stop : ∀ y ∈ p.before.getLast?, y ∉ s.subtractives
  settled : Settled s (p.before ++ p.run)

theorem siteFrom?_cases (read w : Numeral) (hread : Settled s read.reverse) :
    (siteFrom? s read w = none ∧ Settled s (read.reverse ++ w)) ∨
      ∃ p : Site, siteFrom? s read w = some p ∧ p.IsFirst s (read.reverse ++ w) := by
  induction w generalizing read with
  | nil =>
    rw [List.append_nil]
    exact .inl ⟨rfl, hread⟩
  | cons x w ih =>
    have hsplit := List.takeWhile_append_dropWhile (p := (· ∈ s.subtractives)) (l := read)
    by_cases hsite : x = s ∧ read.takeWhile (· ∈ s.subtractives) ≠ []
    · obtain ⟨rfl, hne⟩ := hsite
      refine .inr ⟨_, by rw [siteFrom?, if_pos ⟨rfl, hne⟩], ?_, ?_, fun y hy => ?_, ?_, ?_⟩
      · rw [← List.append_assoc, ← List.reverse_append, hsplit]
      · simpa using hne
      · simpa using List.mem_takeWhile_imp (List.mem_reverse.mp hy)
      · rw [List.getLast?_reverse]
        exact stop_dropWhile read
      · rw [← List.reverse_append, hsplit]
        exact hread
    · have hnext : Settled s (x :: read).reverse := by
        rw [List.reverse_cons]
        refine List.isChain_append.mpr ⟨hread, List.isChain_singleton x, fun y hy z hz hs hmem => ?_⟩
        cases hz
        refine hsite ⟨hs, fun hnil => ?_⟩
        rw [List.getLast?_reverse] at hy
        obtain ⟨read', rfl⟩ := List.head?_eq_some_iff.mp hy
        simp [hmem] at hnil
      rw [siteFrom?, if_neg hsite]
      simpa using ih (x :: read) hnext

theorem settled_of_site? (h : site? s w = none) : Settled s w := by
  obtain ⟨_, hsettled⟩ | ⟨p, hp, _⟩ := siteFrom?_cases (s := s) [] w List.isChain_nil
  · exact hsettled
  · rw [site?, hp] at h
    cases h

theorem isFirst_of_site? {p : Site} (h : site? s w = some p) : p.IsFirst s w := by
  obtain ⟨hnone, _⟩ | ⟨p', hp, hfirst⟩ := siteFrom?_cases (s := s) [] w List.isChain_nil
  · rw [site?, hnone] at h
    cases h
  · rw [site?, hp] at h
    cases h
    exact hfirst

/-- A rewriting does what a reading of the word would do when it comes to the site. -/
theorem Site.IsFirst.settle_eq {p : Site} {deduct : Numeral → Except NumeralError Numeral}
    (hp : p.IsFirst s w)
    (hleft : ∀ left, deduct p.run = .ok left → ∀ x ∈ left, x ∈ s.subtractives) :
    settle deduct s w = deduct p.run >>= fun left => settle deduct s (p.fill left) := by
  have hbefore : p.before.foldlM (settleNext deduct s) [] = .ok p.before.reverse := by
    rw [foldlM_settleNext_of_settled hp.settled.left_of_append [] (by simp), List.append_nil]
  have hstop : ∀ y ∈ p.before.reverse.head?, y ∉ s.subtractives := by
    rw [List.head?_reverse]
    exact hp.stop
  have hgroup : (p.run ++ [s]).foldlM (settleNext deduct s) [] = (deduct p.run).map List.reverse :=
    foldlM_settleNext_group (List.forall_mem_nil _) hp.mem_subtractives hp.run_ne_nil
  have hbehind : (p.run ++ [s]).foldlM (settleNext deduct s) p.before.reverse
      = ((p.run ++ [s]).foldlM (settleNext deduct s) []).map (· ++ p.before.reverse) :=
    foldlM_settleNext_append hstop (p.run ++ [s]) []
  have hword : w = p.before ++ ((p.run ++ [s]) ++ p.after) := by
    rw [hp.word_eq, List.append_assoc p.run [s], List.singleton_append]
  rw [settle, hword, List.foldlM_append, hbefore, except_bind_ok, List.foldlM_append, hbehind,
    hgroup]
  cases hdeduct : deduct p.run with
  | error e => rfl
  | ok left =>
    have hs : s ∉ left := fun hmem => s.self_notMem_subtractives (hleft left hdeduct s hmem)
    rw [except_bind_ok, settle, Site.fill, List.foldlM_append, hbefore, except_bind_ok, List.foldlM_append,
      foldlM_settleNext_of_notMem hs]
    rfl

/-! ### A stage underway -/

/-- A word in the stage of `s`. What is still to be searched is `rest`. -/
structure Underway (s : Symbol) (base left rest : Numeral) : Prop where
  settled : Settled s (base ++ left)
  stop : ∀ y ∈ base.getLast?, y ∉ s.subtractives
  remnant : Remnant s left
  lower : ∀ x : Symbol, x.tier + 1 = s.tier → Settled x rest

/-- A stage begins with everything still to be searched. -/
theorem underway_of_settled (h : ∀ x : Symbol, x.tier + 1 = s.tier → Settled x w) : Underway s [] [] w where
  settled := List.isChain_nil
  stop := by simp
  remnant := remnant_nil s
  lower := h

theorem descending_of_settled (hrun : ∀ x ∈ run, x ∈ s.subtractives)
    (h : ∀ x : Symbol, x.tier + 1 = s.tier → Settled x run) : Descending run := by
  induction run with
  | nil => exact List.Pairwise.nil
  | cons x run ih =>
    have hrest : Descending run := ih (fun y hy => hrun y (List.mem_cons_of_mem x hy)) fun y hy => (h y hy).tail
    refine List.pairwise_cons.mpr ⟨fun y hy => ?_, hrest⟩
    cases run with
    | nil => exact absurd hy List.not_mem_nil
    | cons z run =>
      have hyz : y.tier ≤ z.tier := by
        rcases List.mem_cons.mp hy with rfl | hmem
        · exact Nat.le_refl _
        · exact (List.pairwise_cons.mp hrest).1 y hmem
      refine hyz.trans (Nat.le_of_not_lt fun hlt => ?_)
      have hx := Symbol.mem_subtractives.mp (hrun x List.mem_cons_self)
      have hz := Symbol.mem_subtractives.mp (hrun z (List.mem_cons_of_mem x List.mem_cons_self))
      refine (List.isChain_cons_cons.mp (h z (by omega))).1 rfl ?_
      rw [Symbol.mem_subtractives]
      omega

/-- The letters that subtract, from the end of a word back to the first that does not. -/
theorem takeWhile_reverse_append (hbase : ∀ y ∈ base.getLast?, y ∉ s.subtractives)
    (hleft : ∀ x ∈ left, x ∈ s.subtractives) :
    (base ++ left).reverse.takeWhile (· ∈ s.subtractives) = left.reverse := by
  rw [← List.head?_reverse] at hbase
  rw [List.reverse_append, takeWhile_append_of_stop hbase, List.takeWhile_eq_self_iff]
  intro x hx
  rw [decide_eq_true_iff]
  exact hleft x (List.mem_reverse.mp hx)

/-- A site does not begin before the place of the last rewriting. -/
theorem Underway.exists_read {p : Site} (h : Underway s base left rest)
    (hp : p.IsFirst s (base ++ (left ++ rest))) :
    ∃ read, p.before ++ p.run = (base ++ left) ++ read ∧ rest = read ++ s :: p.after := by
  have heq : (base ++ left) ++ rest = (p.before ++ p.run) ++ (s :: p.after) := by
    rw [List.append_assoc, List.append_assoc]
    exact hp.word_eq
  rcases List.append_eq_append_iff.mp heq with hread | ⟨beyond, hbeyond, hrest⟩
  · exact hread
  · cases beyond with
    | nil =>
      rw [List.append_nil] at hbeyond
      exact ⟨[], by rw [List.append_nil, hbeyond], hrest.symm⟩
    | cons x beyond =>
      -- The letter of the site would stand behind its run where the word is settled.
      obtain ⟨rfl, _⟩ := List.cons_eq_cons.mp hrest
      have hsettled := h.settled
      rw [hbeyond, List.append_assoc] at hsettled
      have hlast := List.getLast?_eq_some_getLast hp.run_ne_nil
      exact absurd (hp.mem_subtractives _ (List.mem_of_mem_getLast? hlast))
        ((List.isChain_append.mp hsettled.right_of_append).2.2 _ hlast s rfl rfl)

/-- A run is a remnant and letters in order behind it. -/
theorem Underway.exists_remnant {p : Site} (h : Underway s base left rest)
    (hp : p.IsFirst s (base ++ (left ++ rest))) :
    (∃ left' run', p.run = left' ++ run' ∧ Remnant s left' ∧ Descending run') ∧
      ∀ x : Symbol, x.tier + 1 = s.tier → Settled x p.after := by
  obtain ⟨read, hread, rfl⟩ := h.exists_read hp
  have hlower : ∀ x : Symbol, x.tier + 1 = s.tier → Settled x read ∧ Settled x p.after := by
    intro x hx
    have hrest := h.lower x hx
    exact ⟨hrest.left_of_append, hrest.right_of_append.tail⟩
  refine ⟨?_, fun x hx => (hlower x hx).2⟩
  have hrun : p.run.reverse = (read.reverse ++ (base ++ left).reverse).takeWhile (· ∈ s.subtractives) := by
    rw [← List.reverse_append, ← hread, takeWhile_reverse_append hp.stop hp.mem_subtractives]
  rw [List.takeWhile_append, takeWhile_reverse_append h.stop h.remnant.mem_subtractives] at hrun
  split at hrun
  · -- The run goes through to the remnant.
    have heq : p.run = left ++ read := by
      simpa using congrArg List.reverse hrun
    refine ⟨left, read, heq, h.remnant, descending_of_settled (fun x hx => ?_) fun x hx => (hlower x hx).1⟩
    exact hp.mem_subtractives x (heq ▸ List.mem_append_right left hx)
  · refine ⟨[], p.run, rfl, remnant_nil s, descending_of_settled hp.mem_subtractives fun x hx => ?_⟩
    obtain ⟨front, hfront⟩ := List.takeWhile_prefix (· ∈ s.subtractives) (l := read.reverse)
    rw [← hrun] at hfront
    have hread' : read = front.reverse ++ p.run := by
      simpa using congrArg List.reverse hfront.symm
    exact (hread' ▸ (hlower x hx).1).right_of_append

/-- **One rewriting.** The run has an additive form and is not worth nothing, and if it can be taken away
from its letter, the letter is replaced by letters that subtract from it. The stage goes on from there. -/
theorem Underway.rewrite {p : Site} (h : Underway s base left rest)
    (hp : p.IsFirst s (base ++ (left ++ rest))) :
    (∃ a, additive p.run = .ok a ∧ a ≠ []) ∧
      ∀ left', leave s p.run = .ok left' → Underway s p.before left' p.after := by
  obtain ⟨⟨left', run', hrun, hremnant, hdescending⟩, hafter⟩ := h.exists_remnant hp
  have hne : left' ++ run' ≠ [] := hrun ▸ hp.run_ne_nil
  have hrun' : ∀ x ∈ run', x ∈ s.subtractives := fun x hx =>
    hp.mem_subtractives x (hrun ▸ List.mem_append_right left' hx)
  obtain ⟨a, ha, hnil⟩ := hremnant.exists_additive hrun' hdescending hne
  rw [← hrun] at ha
  refine ⟨⟨a, ha, hnil⟩, fun filling hleave => ?_⟩
  have hfilling := remnant_of_leave hp.mem_subtractives ha hnil hleave
  refine ⟨List.isChain_append.mpr ⟨hp.settled.left_of_append, ?_, fun y _ z hz hs => ?_⟩, hp.stop, hfilling, hafter⟩
  · exact hfilling.collapsed.descending.settled s
  · subst hs
    exact absurd (hfilling.mem_subtractives z (List.mem_of_mem_head? hz)) z.self_notMem_subtractives

/-- A rewriting removes one `s` and brings in none. -/
theorem Site.IsFirst.count_fill {p : Site} (hp : p.IsFirst s w) (hleft : ∀ x ∈ left, x ∈ s.subtractives) :
    (p.fill left).count s + 1 = w.count s := by
  have hnone : ∀ v : Numeral, (∀ x ∈ v, x ∈ s.subtractives) → v.count s = 0 := fun v hv =>
    List.count_eq_zero.mpr fun hmem => s.self_notMem_subtractives (hv s hmem)
  rw [hp.word_eq, Site.fill]
  simp only [List.count_append, List.count_cons_self, hnone left hleft, hnone p.run hp.mem_subtractives]
  omega

end Roman.Numeral
