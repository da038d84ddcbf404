import Roman.Proofs.Concatenation
import Roman.Proofs.NestedRewriting
/-!
# When the additive form is a reordering

A rewriting gives back less than it takes. Of the letter, no more is left than what the run has not used
up, and the run is worth something; and the run itself is gone. So a word that is reached is either the
word that was begun with, and then every stage that is over has found it settled, or it is worth less.

Where a letter stands directly behind one that subtracts from it, its own stage would find the word
unsettled, unless a rewriting has come before. Either way the additive form is worth less than the word
was, and its letters are not those of the word. Where there is no such letter, all there is to do is to
put the letters in order.
-/

namespace Roman.Numeral

variable {s : Symbol} {l : List Symbol} {n : Nat} {left u v w : Numeral}

/-! ### Letters that subtract from nothing -/

/-- No letter stands directly behind one that subtracts from it. -/
def PairFree (w : Numeral) : Prop := w.IsChain fun x y => x ∉ y.subtractives

instance (w : Numeral) : Decidable (PairFree w) :=
  inferInstanceAs (Decidable (w.IsChain fun x y => x ∉ y.subtractives))

theorem pairFree_iff_settled : PairFree w ↔ ∀ s, Settled s w := by
  constructor
  · intro h s
    refine h.imp fun {x y} hxy hy => ?_
    rw [← hy]
    exact hxy
  · intro h
    induction w with
    | nil => exact List.isChain_nil
    | cons x w ih =>
      refine List.isChain_cons.mpr ⟨fun y hy => ?_, ih fun s => (h s).tail⟩
      exact (List.isChain_cons.mp (h y)).1 y hy rfl

theorem PairFree.additive_eq (h : PairFree w) : additive w = .ok (gather w) := by
  rw [additive, resolve_of_settled fun s _ => pairFree_iff_settled.mp h s, except_bind_ok]

/-! ### A rewriting gives back less than it takes -/

theorem Site.IsFirst.value_fill_lt {p : Site} (hp : p.IsFirst s w) (hleft : value left < s.value) :
    value (p.fill left) < value w := by
  rw [hp.word_eq, Site.fill]
  simp only [value_append, value_cons]
  omega

theorem Reached.value_fill_lt {p : Site} (h : Reached w (s :: l) u n v) (hp : site? s v = some p)
    (hleave : leave s p.run = .ok left) : value (p.fill left) < value v := by
  obtain ⟨⟨a, ha, hne⟩, _⟩ := h.rewrite hp
  exact (isFirst_of_site? hp).value_fill_lt (value_lt_of_leave ha hne hleave)

/-- The word is as it was, and no stage but those of the letters `l` would find a run in it. -/
def Untouched (w : Numeral) (l : List Symbol) (v : Numeral) : Prop := v = w ∧ ∀ s, s ∉ l → Settled s w

theorem untouched_start (w : Numeral) : Untouched w Symbol.alphabet w :=
  ⟨rfl, fun s hs => absurd s.mem_alphabet hs⟩

theorem Untouched.pass (h : Untouched w (s :: l) v) (hnone : site? s v = none) : Untouched w l v := by
  obtain ⟨rfl, hsettled⟩ := h
  refine ⟨rfl, fun x hx => ?_⟩
  by_cases heq : x = s
  · rw [heq]
    exact settled_of_site? hnone
  · exact hsettled x (List.not_mem_cons_of_ne_of_not_mem heq hx)

/-- **A word that is reached** is untouched or worth less. -/
theorem Reaches.untouched_or_value_lt (h : Reaches w l u n v) : Untouched w l v ∨ value v < value w := by
  refine Reaches.steps (P := fun w l v => Untouched w l v ∨ value v < value w) (fun w => ?_) ?_ ?_ h
  · exact .inl (untouched_start w)
  · intro w s l u n v p left hv hp hleave hcases
    have hfill := hv.reached.value_fill_lt hp hleave
    rcases hcases with ⟨rfl, _⟩ | hlt
    · exact .inr hfill
    · exact .inr (hfill.trans hlt)
  · intro w s l v hnone hcases
    exact hcases.imp_left fun huntouched => huntouched.pass hnone

/-! ### The additive form -/

theorem exists_reaches_of_additive {a : Numeral} (h : additive w = .ok a) :
    ∃ u n v, Reaches w [] u n v ∧ a = gather v := by
  obtain ⟨x, hx⟩ := exists_ends w
  have heq := hx.eq_additive.trans h
  subst heq
  cases hx with
  | gather hv => exact ⟨_, _, _, hv, rfl⟩

theorem pairFree_or_value_lt {a : Numeral} (h : additive w = .ok a) : PairFree w ∨ value a < value w := by
  obtain ⟨u, n, v, hv, rfl⟩ := exists_reaches_of_additive h
  rw [value_gather]
  refine hv.untouched_or_value_lt.imp_left fun ⟨_, hsettled⟩ => ?_
  exact pairFree_iff_settled.mpr fun s => hsettled s List.not_mem_nil

/-- **The additive form** is in descending order and its own additive form. It has the letters of the word
just if no letter stands directly behind one that subtracts from it; then it is these letters in order,
and there always is one. Otherwise it is worth less than the letters of the word. -/
theorem additive_perm_iff_pairFree (w : Numeral) :
    (PairFree w → additive w = .ok (gather w)) ∧
      ∀ a, additive w = .ok a →
        Descending a ∧ additive a = .ok a ∧ (a.Perm w ↔ PairFree w) ∧ (¬ PairFree w → value a < value w) := by
  refine ⟨PairFree.additive_eq, fun a ha => ?_⟩
  have hdescending := descending_of_additive ha
  have hcases := pairFree_or_value_lt ha
  refine ⟨hdescending, additive_of_descending hdescending, ⟨fun hperm => ?_, fun hfree => ?_⟩, hcases.resolve_left⟩
  · have hvalue := value_eq_of_perm hperm
    exact hcases.resolve_right (Nat.not_lt.mpr (Nat.le_of_eq hvalue.symm))
  · rw [hfree.additive_eq] at ha
    cases ha
    exact gather_perm w

/-- The one does not subtract from the fifty behind it, though it does from the ten. -/
theorem additive_perm_iff_pairFree_ten :
    PairFree [.I, .L] ∧ additive [.I, .L] = .ok [.L, .I] ∧
      ¬ PairFree [.I, .X] ∧ ∃ a, additive [.I, .X] = .ok a ∧ ¬ a.Perm [.I, .X] ∧ value a < value [.I, .X] := by
  have hfree : PairFree [.I, .L] := by decide
  have hpair : ¬ PairFree [.I, .X] := by decide
  obtain ⟨a, ha, _⟩ := denotes_standard 9
  obtain ⟨hgather, _⟩ := additive_perm_iff_pairFree [.I, .L]
  obtain ⟨_, hadditive⟩ := additive_perm_iff_pairFree [.I, .X]
  obtain ⟨_, _, hperm, hlt⟩ := hadditive a ha
  exact ⟨hfree, hgather hfree, hpair, a, ha, fun h => hpair (hperm.mp h), hlt hpair⟩

end Roman.Numeral
