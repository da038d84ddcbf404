import Mathlib.Data.Fintype.EquivFin
import Roman.Config.Basic
import Roman.Proofs.Challenge
import Roman.Proofs.Drawing
/-!
# What a pool gives

A pool with two numerals and an operator has a generator. A draw then fails only over an operand that
is not convertible, so one such numeral is enough to spoil some draws, and with all but one of them no
draw gives a question. The check of a configuration counts the numerals and reads none of them.
-/

namespace Roman

open Numeral

namespace Pool

/-- The standard pool holds numerals in standard form. -/
theorem defaultNumerals_eq :
    defaultNumerals = [12, 7, 19, 4, 40, 9, 1988, 1066].map Numeral.standard := by
  decide

theorem convertible_of_mem_defaultNumerals {w : Numeral} (hw : w ∈ defaultNumerals) : Convertible w := by
  rw [defaultNumerals_eq] at hw
  obtain ⟨n, _, rfl⟩ := List.mem_map.mp hw
  exact ⟨n, denotes_standard n⟩

end Pool

namespace Generator

variable (g : Generator)

theorem pick_eq {source next rest : WordSource} {i j : Fin g.numerals.length}
    {k : Fin g.operators.length} (hpositions : Draw.twoPositions g.two_le_numerals source = ((i, j), next))
    (hoperator : Draw.below g.operators.length g.operators_pos next = (k, rest)) :
    g.pick source = ((g.numerals.get i, g.numerals.get j, g.operators.get k), rest) := by
  unfold pick
  simp only [bind, StateT.bind, hpositions, hoperator]
  rfl

theorem generate_eq {source rest : WordSource} {left right : Numeral} {o : Operator}
    (h : g.pick source = ((left, right, o), rest)) :
    g.generate source = (Challenge.ofNumerals left right o, rest) := by
  unfold generate
  simp only [bind, StateT.bind, h]
  rfl

/-- The question is about the numerals at two different positions. -/
theorem exists_generate_eq (source : WordSource) : ∃ i j k, i ≠ j ∧
    (g.generate source).1
      = Challenge.ofNumerals (g.numerals.get i) (g.numerals.get j) (g.operators.get k) := by
  have hpick : g.pick source = _ := g.pick_eq rfl rfl
  exact ⟨_, _, _, Draw.twoPositions_ne g.two_le_numerals source,
    congrArg Prod.fst (g.generate_eq hpick)⟩

/-- Any two different positions are picked for some words. -/
theorem exists_source_generate_eq (hsize : g.numerals.length ≤ UInt32.size)
    {i j : Fin g.numerals.length} (hij : i ≠ j) : ∃ source k,
      (g.generate source).1
        = Challenge.ofNumerals (g.numerals.get i) (g.numerals.get j) (g.operators.get k) := by
  obtain ⟨v, w, hdrawn⟩ := Draw.exists_twoPositions g.two_le_numerals hsize hij
  exact ⟨⟨[v, w], 0⟩, _, congrArg Prod.fst (g.generate_eq (g.pick_eq (hdrawn [] 0) rfl))⟩

/-! ### When a draw gives a question -/

theorem generate_error {source : WordSource} {e : ChallengeError}
    (h : (g.generate source).1 = .error e) : e = .numeral .insufficientMagnitude := by
  obtain ⟨i, j, k, _, hresult⟩ := g.exists_generate_eq source
  rw [hresult] at h
  by_cases hboth : Convertible (g.numerals.get i) ∧ Convertible (g.numerals.get j)
  · obtain ⟨c, hc⟩ := Challenge.exists_ofNumerals_iff.mpr hboth
    cases hc.symm.trans h
  · cases (Challenge.ofNumerals_error _ hboth).symm.trans h
    rfl

theorem exists_generate_ok (hall : ∀ w ∈ g.numerals, Convertible w) (source : WordSource) :
    ∃ c, (g.generate source).1 = .ok c := by
  obtain ⟨i, j, k, _, hresult⟩ := g.exists_generate_eq source
  rw [hresult]
  exact Challenge.exists_ofNumerals_iff.mpr ⟨hall _ (List.get_mem _ _), hall _ (List.get_mem _ _)⟩

/-- A numeral that is not convertible is picked for some words, and they give no question. -/
theorem exists_generate_error (hsize : g.numerals.length ≤ UInt32.size) {w : Numeral}
    (hmem : w ∈ g.numerals) (hw : ¬ Convertible w) :
    ∃ source, (g.generate source).1 = .error (.numeral .insufficientMagnitude) := by
  obtain ⟨i, rfl⟩ := List.get_of_mem hmem
  have : Nontrivial (Fin g.numerals.length) := Fin.nontrivial_iff_two_le.mpr g.two_le_numerals
  obtain ⟨j, hji⟩ := exists_ne i
  obtain ⟨source, k, hresult⟩ := g.exists_source_generate_eq hsize hji.symm
  exact ⟨source, hresult.trans (Challenge.ofNumerals_error _ fun hboth => hw hboth.1)⟩

/-- A pool gives a question at all if and only if two positions hold convertible numerals. -/
theorem exists_generate_ok_iff (hsize : g.numerals.length ≤ UInt32.size) :
    (∃ source c, (g.generate source).1 = .ok c) ↔
      ∃ i j, i ≠ j ∧ Convertible (g.numerals.get i) ∧ Convertible (g.numerals.get j) := by
  constructor
  · rintro ⟨source, c, hc⟩
    obtain ⟨i, j, k, hij, hresult⟩ := g.exists_generate_eq source
    exact ⟨i, j, hij, Challenge.exists_ofNumerals_iff.mp ⟨c, hresult.symm.trans hc⟩⟩
  · rintro ⟨i, j, hij, hboth⟩
    obtain ⟨source, k, hresult⟩ := g.exists_source_generate_eq hsize hij
    obtain ⟨c, hc⟩ := Challenge.exists_ofNumerals_iff.mpr hboth
    exact ⟨source, c, hresult.trans hc⟩

end Generator

namespace Config

variable {c : Config}

/-- The check asks for two numerals and an operator and for nothing else. -/
theorem validate_eq_ok_iff :
    c.validate = .ok () ↔ 2 ≤ c.challenge.numerals.length ∧ 0 < c.challenge.operators.length := by
  unfold validate generator Generator.ofPool
  split
  · split
    · simp [Except.map, Except.mapError, *]
    · simp [Except.map, Except.mapError, *]
  · simp [Except.map, Except.mapError, *]

theorem exists_generator (hvalid : c.validate = .ok ()) :
    ∃ g, c.generator = .ok g ∧ g.toPool = c.challenge := by
  obtain ⟨hnumerals, hoperators⟩ := validate_eq_ok_iff.mp hvalid
  refine ⟨⟨c.challenge, hnumerals, hoperators⟩, ?_, rfl⟩
  rw [generator, Generator.ofPool, dif_pos hnumerals, dif_pos hoperators]
  rfl

end Config

end Roman
