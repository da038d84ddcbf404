import Roman.Proofs.Canonical
import Roman.Proofs.Rewriting
/-!
# Rewriting within rewriting

What is left of a letter is found by subtraction, and a subtraction makes both of its operands additive
before it takes one away from the other. So every rewriting calls for two more words to be rewritten from
the start: what the letter breaks into, and the run. These calls make calls of their own, and each of them
ends only if all of those do.

They end because of the tiers. Both words are made of letters below the letter of the stage, so the calls
are nested no deeper than there are letters. Within one call a stage puts only lower letters in the place
of its own, and has no more rewritings to do than there were copies of its letter when it began. That
the lower letters are there at all, and not the letter once more, is because no run is worth nothing.
-/

namespace Roman.Numeral

variable {l : List Symbol} {s : Symbol} {n : Nat} {u v w : Numeral} {x y : Except NumeralError Numeral}

/-- The letters that a letter breaks into; the lowest stands for itself. -/
def expanded (s : Symbol) : Numeral :=
  match s.expansion? with
  | some (lower, count) => List.replicate count lower
  | none => [s]

/-- A subtraction, once both operands have been made additive with these outcomes. -/
def difference (x y : Except NumeralError Numeral) : Except NumeralError Numeral := do
  let a ← x
  let b ← y
  withdraw (Contraction.exhaustAll (Symbol.alphabet.filterMap Contraction.collapsing?) a) b

mutual

/-- The rewriting of `w` comes to `v`, in the stage of the first letter of `l`: that stage began with `u`,
and this is `n` rewritings later. -/
inductive Reaches : Numeral → List Symbol → Numeral → Nat → Numeral → Prop
  | start (w : Numeral) : Reaches w Symbol.alphabet w 0 w
  | fill {w : Numeral} {s : Symbol} {l : List Symbol} {u : Numeral} {n : Nat} {v : Numeral} {p : Site}
      {x y : Except NumeralError Numeral} {left : Numeral} :
      Reaches w (s :: l) u n v → site? s v = some p → Ends (expanded s) x → Ends p.run y →
        difference x y = .ok left → Reaches w (s :: l) u (n + 1) (p.fill left)
  | pass {w : Numeral} {s : Symbol} {l : List Symbol} {u : Numeral} {n : Nat} {v : Numeral} :
      Reaches w (s :: l) u n v → site? s v = none → Reaches w l v 0 v

/-- The rewriting of a word ends with an outcome, and so do all that are called for on the way. -/
inductive Ends : Numeral → Except NumeralError Numeral → Prop
  | gather {w u : Numeral} {n : Nat} {v : Numeral} : Reaches w [] u n v → Ends w (.ok (gather v))
  | refuse {w : Numeral} {s : Symbol} {l : List Symbol} {u : Numeral} {n : Nat} {v : Numeral} {p : Site}
      {x y : Except NumeralError Numeral} {e : NumeralError} :
      Reaches w (s :: l) u n v → site? s v = some p → Ends (expanded s) x → Ends p.run y →
        difference x y = .error e → Ends w (.error e)

end

/-! ### Taking a run away from its letter -/

theorem minus_eq_difference (v w : Numeral) : minus v w = difference (additive v) (additive w) := by
  rw [minus, collapse, difference]
  cases additive v with
  | error e => rfl
  | ok a => rfl

theorem collapse_expanded (s : Symbol) : collapse (expanded s) = .ok [s] := by
  have hexpanded : Descending (expanded s) ∧ value (expanded s) = s.value := by
    unfold expanded
    split
    next lower count hexpansion =>
      exact ⟨descending_replicate count lower,
        (value_replicate count lower).trans (Symbol.value_of_expansion? hexpansion).2.symm⟩
    next => exact ⟨List.pairwise_singleton _ s, value_cons s []⟩
  obtain ⟨r, hr, hcollapsed, hvalue⟩ := collapse_eq_ok (additive_of_descending hexpanded.1)
  rw [hr, hcollapsed.eq_of_value_eq (collapsed_singleton s) ?_]
  rw [hvalue, hexpanded.2, value_cons, value_nil, Nat.add_zero]

/-- What is left of the letters that `s` breaks into is what is left of `s`. -/
theorem minus_expanded (s : Symbol) (run : Numeral) : minus (expanded s) run = leave s run := by
  rw [minus, collapse_expanded, except_bind_ok, leave]

theorem tier_lt_of_mem_expanded {p : Site} (hp : p.IsFirst s v) : ∀ x ∈ expanded s, x.tier < s.tier := by
  obtain ⟨y, hy⟩ := List.exists_mem_of_ne_nil _ hp.run_ne_nil
  obtain ⟨lower, count, hexpansion⟩ :=
    Symbol.expansion?_isSome (Symbol.mem_subtractives.mp (hp.mem_subtractives y hy)).1
  intro x hx
  rw [expanded, hexpansion] at hx
  rw [List.eq_of_mem_replicate hx, (Symbol.value_of_expansion? hexpansion).1]
  exact Nat.lt_succ_self _

/-! ### The stages that are still to come -/

/-- What the stages of the letters `l` make of a word. -/
def remaining (l : List Symbol) (v : Numeral) : Except NumeralError Numeral := do
  .ok (gather (← l.foldlM (fun v s => settle (leave s) s v) v))

theorem resolve_eq_foldlM {high low : List Symbol} (h : Symbol.descending = high ++ low) (w : Numeral) :
    resolve low w = low.reverse.foldlM (fun v s => settle (leave s) s v) w := by
  induction low generalizing high with
  | nil => rfl
  | cons s low ih =>
    rw [resolve_cons h, List.reverse_cons, List.foldlM_append, ih (h.trans (List.append_cons high s low))]
    simp

theorem remaining_alphabet (w : Numeral) : remaining Symbol.alphabet w = additive w := by
  rw [additive, resolve_eq_foldlM (List.nil_append Symbol.descending).symm]
  rfl

theorem remaining_cons (s : Symbol) (l : List Symbol) (v : Numeral) :
    remaining (s :: l) v = settle (leave s) s v >>= remaining l := by
  rw [remaining, List.foldlM_cons]
  cases settle (leave s) s v with
  | error e => rfl
  | ok v' => rfl

/-! ### What holds of every word that is reached -/

/-- The state of a rewriting. Its last two fields are what makes it end. -/
structure Reached (w : Numeral) (l : List Symbol) (u : Numeral) (n : Nat) (v : Numeral) : Prop where
  stages : ∃ k, l = Symbol.alphabet.drop k
  outcome : remaining l v = additive w
  underway : ∀ s ∈ l.head?, ∃ base left rest, v = base ++ (left ++ rest) ∧ Underway s base left rest
  count_add : ∀ s ∈ l.head?, v.count s + n = u.count s
  tier_lt : ∀ t, (∀ x ∈ w, x.tier < t) → ∀ x ∈ v, x.tier < t

theorem reached_start (w : Numeral) : Reached w Symbol.alphabet w 0 w where
  stages := ⟨0, rfl⟩
  outcome := remaining_alphabet w
  underway := by
    intro s hs
    cases hs
    exact ⟨[], [], w, rfl, underway_of_settled fun x hx => absurd hx (Nat.succ_ne_zero _)⟩
  count_add := fun _ _ => rfl
  tier_lt := fun _ h => h

/-- One rewriting, in a word that is reached. -/
theorem Reached.rewrite {p : Site} (h : Reached w (s :: l) u n v) (hp : site? s v = some p) :
    (∃ a, additive p.run = .ok a ∧ a ≠ []) ∧ ∀ left, leave s p.run = .ok left →
      (∀ x ∈ left, x ∈ s.subtractives) ∧ (p.fill left).count s + 1 = v.count s ∧
        Underway s p.before left p.after := by
  obtain ⟨base, left, rest, rfl, hunderway⟩ := h.underway s rfl
  have hfirst := isFirst_of_site? hp
  obtain ⟨hrun, hgo⟩ := hunderway.rewrite hfirst
  refine ⟨hrun, fun left hleave => ?_⟩
  have hleft := (hgo left hleave).remnant.mem_subtractives
  exact ⟨hleft, hfirst.count_fill hleft, hgo left hleave⟩

theorem Reached.settle_eq {p : Site} (h : Reached w (s :: l) u n v) (hp : site? s v = some p) :
    settle (leave s) s v = leave s p.run >>= fun left => settle (leave s) s (p.fill left) :=
  (isFirst_of_site? hp).settle_eq fun left hleave => ((h.rewrite hp).2 left hleave).1

theorem Reached.fill {p : Site} {left : Numeral} (h : Reached w (s :: l) u n v) (hp : site? s v = some p)
    (hleave : leave s p.run = .ok left) : Reached w (s :: l) u (n + 1) (p.fill left) := by
  obtain ⟨hleft, hcount, hunderway⟩ := (h.rewrite hp).2 left hleave
  refine ⟨h.stages, ?_, fun s' hs' => ?_, fun s' hs' => ?_, fun t hw x hx => ?_⟩
  · rw [← h.outcome, remaining_cons, remaining_cons, h.settle_eq hp, hleave, except_bind_ok]
  · cases hs'
    exact ⟨p.before, left, p.after, rfl, hunderway⟩
  · cases hs'
    have := h.count_add s rfl
    omega
  · have hv := h.tier_lt t hw
    rw [(isFirst_of_site? hp).word_eq] at hv
    simp only [List.mem_append, List.mem_cons] at hv
    rw [Site.fill, List.mem_append, List.mem_append] at hx
    rcases hx with hx | hx | hx
    · exact hv x (.inl hx)
    · exact (Symbol.mem_subtractives.mp (hleft x hx)).1.trans (hv s (by simp))
    · exact hv x (by simp [hx])

theorem Reached.pass (h : Reached w (s :: l) u n v) (hnone : site? s v = none) : Reached w l v 0 v := by
  obtain ⟨k, hk⟩ := h.stages
  obtain ⟨rfl, hl⟩ := tier_of_cons_eq_drop hk
  have hsettled := settled_of_site? hnone
  refine ⟨⟨_, hl⟩, ?_, fun s' hs' => ?_, fun _ _ => rfl, h.tier_lt⟩
  · rw [← h.outcome, remaining_cons, settle_of_settled hsettled, except_bind_ok]
  · -- The stage that is over has settled the letter next below.
    refine ⟨[], [], v, rfl, underway_of_settled fun x hx => ?_⟩
    rw [hl, List.head?_drop] at hs'
    have htier := tier_of_getElem? hs'
    rw [Symbol.tier_injective (s := x) (t := s) (by omega)]
    exact hsettled

theorem difference_eq_leave {p : Site} (hx : x = additive (expanded s)) (hy : y = additive p.run) :
    difference x y = leave s p.run := by
  rw [hx, hy, ← minus_eq_difference, minus_expanded]

mutual

theorem Reaches.reached : ∀ {w : Numeral} {l : List Symbol} {u : Numeral} {n : Nat} {v : Numeral},
    Reaches w l u n v → Reached w l u n v
  | _, _, _, _, _, .start w => reached_start w
  | _, _, _, _, _, .fill hv hp hx hy hleft =>
    hv.reached.fill hp ((difference_eq_leave hx.eq_additive hy.eq_additive).symm.trans hleft)
  | _, _, _, _, _, .pass hv hnone => hv.reached.pass hnone

theorem Ends.eq_additive : ∀ {w : Numeral} {x : Except NumeralError Numeral}, Ends w x → x = additive w
  | _, _, .gather hv => hv.reached.outcome
  | _, _, .refuse hv hp hx hy herror => by
    have hleave := (difference_eq_leave hx.eq_additive hy.eq_additive).symm.trans herror
    rw [← hv.reached.outcome, remaining_cons, hv.reached.settle_eq hp, hleave]
    rfl

end

/-- What holds of a word to begin with, and is kept by every rewriting and from stage to stage, holds of
every word that is reached. -/
theorem Reaches.steps {P : Numeral → List Symbol → Numeral → Prop} (hstart : ∀ w, P w Symbol.alphabet w)
    (hfill : ∀ {w s l u n v p left}, Reaches w (s :: l) u n v → site? s v = some p →
      leave s p.run = .ok left → P w (s :: l) v → P w (s :: l) (p.fill left))
    (hpass : ∀ {w s l v}, site? s v = none → P w (s :: l) v → P w l v) :
    ∀ {w : Numeral} {l : List Symbol} {u : Numeral} {n : Nat} {v : Numeral}, Reaches w l u n v → P w l v
  | _, _, _, _, _, .start w => hstart w
  | _, _, _, _, _, .fill hv hp hx hy hleft =>
    hfill hv hp ((difference_eq_leave hx.eq_additive hy.eq_additive).symm.trans hleft)
      (hv.steps hstart hfill hpass)
  | _, _, _, _, _, .pass hv hnone => hpass hnone (hv.steps hstart hfill hpass)

/-! ### The end -/

/-- A word that is reached is rewritten to the end, if the words with lower letters only are. -/
theorem Reaches.exists_ends {t : Nat} (hw : ∀ x ∈ w, x.tier < t)
    (hnested : ∀ t' < t, ∀ v : Numeral, (∀ x ∈ v, x.tier < t') → ∃ x, Ends v x)
    (h : Reaches w l u n v) : ∃ x, Ends w x := by
  induction l generalizing u n v with
  | nil => exact ⟨_, .gather h⟩
  | cons s l ih =>
    -- Every rewriting of the stage takes away one of the letters that are still there.
    generalize hm : v.count s = m
    induction m generalizing n v with
    | zero =>
      cases hp : site? s v with
      | none => exact ih (h.pass hp)
      | some p =>
        have hs : s ∈ v := by
          rw [(isFirst_of_site? hp).word_eq]
          simp
        exact absurd hs (List.count_eq_zero.mp hm)
    | succ m ihm =>
      cases hp : site? s v with
      | none => exact ih (h.pass hp)
      | some p =>
        have hfirst := isFirst_of_site? hp
        have hs : s.tier < t := by
          refine h.reached.tier_lt t hw s ?_
          rw [hfirst.word_eq]
          simp
        obtain ⟨x, hx⟩ := hnested s.tier hs (expanded s) (tier_lt_of_mem_expanded hfirst)
        obtain ⟨y, hy⟩ := hnested s.tier hs p.run fun z hz =>
          (Symbol.mem_subtractives.mp (hfirst.mem_subtractives z hz)).1
        cases hdifference : difference x y with
        | error e => exact ⟨_, .refuse h hp hx hy hdifference⟩
        | ok left =>
          have hleave := (difference_eq_leave hx.eq_additive hy.eq_additive).symm.trans hdifference
          have hcount := ((h.reached.rewrite hp).2 left hleave).2.1
          exact ihm (h.fill hp hx hy hdifference) (by omega)

theorem exists_ends (w : Numeral) : ∃ x, Ends w x := by
  suffices hbelow : ∀ t, ∀ w : Numeral, (∀ x ∈ w, x.tier < t) → ∃ x, Ends w x from
    hbelow 7 w fun x _ => x.tier_lt_seven
  intro t
  induction t using Nat.strong_induction_on with
  | _ t ih => exact fun w hw => (Reaches.start w).exists_ends hw ih

/-- **The rewriting of every word ends**, with the additive form of the word for its outcome. Wherever it
finds a run, in its own stages or in those of the calls it makes, the run is made of lower letters, it has
an additive form, and it is not worth nothing. If the run can be taken away from its letter, what is put in
their place subtracts from the letter, so that there is one such letter less; and a stage has no more
rewritings than there were letters for it when it began. -/
theorem ends_iff_eq_additive (w : Numeral) :
    (∀ x, Ends w x ↔ x = additive w) ∧
      ∀ s l u n v, Reaches w (s :: l) u n v → n ≤ u.count s ∧
        ∀ p, site? s v = some p →
          (∀ x ∈ p.run, x.tier < s.tier) ∧ (∃ a, additive p.run = .ok a ∧ a ≠ []) ∧
            ∀ left, minus (expanded s) p.run = .ok left →
              (∀ x ∈ left, x ∈ s.subtractives) ∧ (p.fill left).count s + 1 = v.count s := by
  refine ⟨fun x => ⟨Ends.eq_additive, fun hx => ?_⟩, fun s l u n v h => ⟨?_, fun p hp => ⟨fun x hx => ?_, ?_, ?_⟩⟩⟩
  · obtain ⟨y, hy⟩ := exists_ends w
    rw [hx, ← hy.eq_additive]
    exact hy
  · have := h.reached.count_add s rfl
    omega
  · exact (Symbol.mem_subtractives.mp ((isFirst_of_site? hp).mem_subtractives x hx)).1
  · exact (h.reached.rewrite hp).1
  · intro left hleft
    rw [minus_expanded] at hleft
    obtain ⟨hmem, hcount, _⟩ := (h.reached.rewrite hp).2 left hleft
    exact ⟨hmem, hcount⟩

/-- Nine is left of the first ten. What was put in its place becomes part of the run before the second ten,
and a letter in the middle of that run has a run of its own. -/
theorem ends_iff_eq_additive_nine : ∃ l u,
    Reaches [.I, .X, .V, .X] (.X :: l) u 1 [.V, .I, .I, .I, .I, .V, .X] ∧ 1 ≤ u.count .X ∧
      ∃ a, additive [.V, .I, .I, .I, .I, .V] = .ok a ∧ a ≠ [] := by
  have hstart : Reaches [.I, .X, .V, .X] [.I, .V, .X, .L, .C, .D, .M] [.I, .X, .V, .X] 0 [.I, .X, .V, .X] :=
    .start _
  have hnine : Collapsed [.V, .I, .I, .I, .I] := by
    refine ⟨by decide, fun x limit hlimit => ?_⟩
    cases x <;> cases hlimit <;> decide
  have hleft : difference (additive (expanded .X)) (additive [.I]) = .ok [.V, .I, .I, .I, .I] := by
    rw [← minus_eq_difference, minus_expanded]
    obtain ⟨r, hr, hcollapsed, hvalue⟩ | ⟨_, hlt⟩ :=
      leave_cases (s := .X) (additive_of_descending (w := [.I]) (by decide))
    · rw [hr, hcollapsed.eq_of_value_eq hnine (Nat.add_right_cancel hvalue)]
    · exact absurd hlt (by decide)
  have hreached : Reaches [.I, .X, .V, .X] [.X, .L, .C, .D, .M] [.I, .X, .V, .X] 1
      [.V, .I, .I, .I, .I, .V, .X] :=
    ((hstart.pass rfl).pass rfl).fill (p := ⟨[], [.I], [.V, .X]⟩) rfl
      (((ends_iff_eq_additive (expanded .X)).1 _).mpr rfl) (((ends_iff_eq_additive [.I]).1 _).mpr rfl) hleft
  obtain ⟨_, hstages⟩ := ends_iff_eq_additive [.I, .X, .V, .X]
  obtain ⟨hle, hsites⟩ := hstages _ _ _ _ _ hreached
  obtain ⟨_, hadditive, _⟩ := hsites ⟨[], [.V, .I, .I, .I, .I, .V], []⟩ rfl
  exact ⟨_, _, hreached, hle, hadditive⟩

end Roman.Numeral
