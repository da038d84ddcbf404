import Roman.Text.CharacterClass
import Roman.Text.LetterCase
/-!
# Small letters

A small form is a letter or a number again and has no other small form: what is written in small
letters stays so. The tables say this of whole runs of letters at once, since a run is mapped to a run.
Only the capital I with a dot above is different. Its small form is two characters, of which the second
is a mark on its own and no letter, and neither a letter nor white space is it.
-/

namespace Roman

/-! ### Runs of code points -/

namespace CodeRange

/-- Whether one of the ranges holds every code point from `first` to `last`. -/
def includes : List CodeRange → Nat → Nat → Bool
  | [], _, _ => false
  | range :: rest, first, last =>
    bif Nat.ble first range.last then Nat.ble range.first first && Nat.ble last range.last
    else includes rest first last

theorem covers_of_includes {ranges : List CodeRange} {first last c : Nat}
    (h : includes ranges first last = true) (hfirst : first ≤ c) (hlast : c ≤ last) :
    covers ranges c = true := by
  induction ranges with
  | nil => cases h
  | cons range rest ih =>
    rw [includes] at h
    rw [covers]
    cases hin : Nat.ble first range.last with
    | true =>
      rw [hin, cond_true, Bool.and_eq_true, Nat.ble_eq, Nat.ble_eq] at h
      rw [if_pos (Nat.le_trans hlast h.2), decide_eq_true_iff]
      exact Nat.le_trans h.1 hfirst
    | false =>
      rw [hin, cond_false] at h
      have hbehind : ¬ c ≤ range.last := by
        intro hle
        rw [Nat.ble_eq_true_of_le (Nat.le_trans hfirst hle)] at hin
        cases hin
      rw [if_neg hbehind]
      exact ih h

theorem exists_of_covers {ranges : List CodeRange} {c : Nat} (h : covers ranges c = true) :
    ∃ range ∈ ranges, range.first ≤ c ∧ c ≤ range.last := by
  induction ranges with
  | nil => cases h
  | cons range rest ih =>
    rw [covers] at h
    split at h
    next hle => exact ⟨range, List.mem_cons_self, of_decide_eq_true h, hle⟩
    next =>
      obtain ⟨found, hmem, hfound⟩ := ih h
      exact ⟨found, List.mem_cons_of_mem range hmem, hfound⟩

end CodeRange

namespace CaseRun

/-- Whether the letters from `first` to `last`, or every other one of them, have no counterpart. -/
def spares (everyOther : Bool) : List CaseRun → Nat → Nat → Bool
  | [], _, _ => true
  | run :: rest, first, last =>
    bif Nat.blt run.last first then spares everyOther rest first last
    else Nat.blt last run.first && Nat.ble last run.last ||
      everyOther && Nat.beq run.stride 2 && Nat.beq ((first + run.first) % 2) 1 &&
        spares everyOther rest first last

theorem image_eq_self_of_spares {everyOther : Bool} {runs : List CaseRun} {first last c : Nat}
    (h : spares everyOther runs first last = true) (hfirst : first ≤ c) (hlast : c ≤ last)
    (hother : everyOther = true → (c - first) % 2 = 0) : image runs c = c := by
  induction runs with
  | nil => rfl
  | cons run rest ih =>
    rw [spares] at h
    rw [image]
    cases hbehind : Nat.blt run.last first with
    | true =>
      rw [hbehind, cond_true] at h
      have hlt : run.last < first := Nat.blt_eq.mp hbehind
      rw [if_neg (by omega)]
      exact ih h
    | false =>
      rw [hbehind, cond_false, Bool.or_eq_true] at h
      rcases h with h | h
      · rw [Bool.and_eq_true, Nat.blt_eq, Nat.ble_eq] at h
        rw [if_pos (by omega), if_neg (by omega)]
      · simp only [Bool.and_eq_true, Nat.beq_eq] at h
        obtain ⟨⟨⟨heveryOther, hstride⟩, hparity⟩, hrest⟩ := h
        have heven := hother heveryOther
        split
        · rw [hstride, if_neg (by omega)]
        · exact ih hrest

theorem image_cases (runs : List CaseRun) (c : Nat) : image runs c = c ∨
    ∃ run ∈ runs, run.first ≤ c ∧ c ≤ run.last ∧ (c - run.first) % run.stride = 0 ∧
      image runs c = run.target + (c - run.first) := by
  induction runs with
  | nil => exact .inl rfl
  | cons run rest ih =>
    rw [image]
    split
    next hlast =>
      split
      next hmapped => exact .inr ⟨run, List.mem_cons_self, hmapped.1, hlast, hmapped.2, rfl⟩
      next => exact .inl rfl
    next =>
      rcases ih with hself | ⟨found, hmem, hfound⟩
      · exact .inl hself
      · exact .inr ⟨found, List.mem_cons_of_mem run hmem, hfound⟩

end CaseRun

/-! ### The tables -/

/-- The capital I with a dot above. -/
def dottedCapital : Char := '\u0130'

/-- The mark that small letters can be left with. -/
def dotAbove : Char := '\u0307'

namespace LetterCase

/-- Whether no letter from `first` to `last`, or none of every other one, has a small form. -/
def areSmall (everyOther : Bool) (first last : Nat) : Bool :=
  CaseRun.spares everyOther smallRuns first last && (Nat.blt last 0x130 || Nat.blt 0x130 first)

/-- Whether the small forms of a run are letters or numbers and are small. -/
def isSettled (run : CaseRun) : Bool :=
  let last := run.target + (run.last - run.first)
  CodeRange.includes lettersAndNumbers run.target last &&
    areSmall (Nat.beq run.stride 2 || Nat.beq run.first run.last) run.target last

/-- Whether all code points of a range are characters. -/
def isValid (range : CodeRange) : Bool :=
  Nat.blt range.last 0xD800 || Nat.blt 0xDFFF range.first && Nat.blt range.last 0x110000

/-- Whether a range holds neither letters nor numbers. -/
def isApart (range : CodeRange) : Bool :=
  lettersAndNumbers.all fun other => Nat.blt range.last other.first || Nat.blt other.last range.first

-- One evaluation for all that is asked of the tables.
set_option maxRecDepth 10000 in
theorem tables_agree : (∀ run ∈ smallRuns, isSettled run = true) ∧
    (∀ range ∈ whiteSpace, areSmall false range.first range.last = true ∧ isApart range = true) ∧
    ∀ range ∈ lettersAndNumbers, isValid range = true := by
  decide +kernel

end LetterCase

open LetterCase

theorem isWhite_of_isAlphanumeric {c : Char} (h : isAlphanumeric c = true) : isWhite c = false := by
  rw [Bool.eq_false_iff]
  intro hwhite
  obtain ⟨other, hother, hfirst, hlast⟩ := CodeRange.exists_of_covers h
  obtain ⟨range, hmem, hfirst', hlast'⟩ := CodeRange.exists_of_covers hwhite
  obtain ⟨_, hspaces, _⟩ := tables_agree
  have hapart := List.all_eq_true.mp (hspaces range hmem).2 other hother
  rw [Bool.or_eq_true, Nat.blt_eq, Nat.blt_eq] at hapart
  omega

theorem lowercase_of_ne {c : Char} (hc : c.toNat ≠ 0x130) :
    lowercase c = [Char.ofNat (CaseRun.image smallRuns c.toNat)] := by
  have hnone : smallSequences.find? (fun entry => entry.letter = c.toNat) = none := by
    rw [List.find?_eq_none]
    intro entry hentry
    rw [smallSequences, List.mem_singleton] at hentry
    subst hentry
    simpa using Ne.symm hc
  rw [lowercase, map, hnone]

theorem lowercase_ne_nil (c : Char) : lowercase c ≠ [] := by
  by_cases hc : c.toNat = 0x130
  · have heq : c = dottedCapital := Char.toNat_inj.mp hc
    subst heq
    decide
  · rw [lowercase_of_ne hc]
    exact List.cons_ne_nil _ _

theorem lowercase_of_areSmall {everyOther : Bool} {first last : Nat} {c : Char}
    (h : areSmall everyOther first last = true) (hfirst : first ≤ c.toNat) (hlast : c.toNat ≤ last)
    (hother : everyOther = true → (c.toNat - first) % 2 = 0) : lowercase c = [c] := by
  rw [areSmall, Bool.and_eq_true, Bool.or_eq_true, Nat.blt_eq, Nat.blt_eq] at h
  obtain ⟨hspares, hapart⟩ := h
  rw [lowercase_of_ne (by omega), CaseRun.image_eq_self_of_spares hspares hfirst hlast hother,
    Char.ofNat_toNat]

theorem lowercase_of_isWhite {c : Char} (h : isWhite c = true) : lowercase c = [c] := by
  obtain ⟨range, hmem, hfirst, hlast⟩ := CodeRange.exists_of_covers h
  obtain ⟨_, hspaces, _⟩ := tables_agree
  exact lowercase_of_areSmall (hspaces range hmem).1 hfirst hlast (by simp)

theorem toNat_ofNat_of_covers {n : Nat} (h : CodeRange.covers lettersAndNumbers n = true) :
    (Char.ofNat n).toNat = n := by
  obtain ⟨range, hmem, hfirst, hlast⟩ := CodeRange.exists_of_covers h
  obtain ⟨_, _, hletters⟩ := tables_agree
  have hvalid := hletters range hmem
  rw [isValid, Bool.or_eq_true, Bool.and_eq_true, Nat.blt_eq, Nat.blt_eq, Nat.blt_eq] at hvalid
  have hn : n.isValidChar := by
    unfold Nat.isValidChar
    omega
  rw [Char.ofNat, dif_pos hn]
  rfl

/-- **The small form of a letter or number** is a letter or number that is its own small form, unless
it is that of the capital I with a dot above. -/
theorem exists_lowercase {c : Char} (h : isAlphanumeric c = true) (hc : c ≠ dottedCapital) :
    ∃ d, lowercase c = [d] ∧ isAlphanumeric d = true ∧ lowercase d = [d] := by
  have hne : c.toNat ≠ 0x130 := by
    intro heq
    exact hc (Char.toNat_inj.mp heq)
  rcases CaseRun.image_cases smallRuns c.toNat with hself | ⟨run, hmem, hfirst, hlast, hstride, himage⟩
  · have hsmall : lowercase c = [c] := by
      rw [lowercase_of_ne hne, hself, Char.ofNat_toNat]
    exact ⟨c, hsmall, h, hsmall⟩
  · obtain ⟨hruns, _, _⟩ := tables_agree
    have hsettled := hruns run hmem
    simp only [isSettled, Bool.and_eq_true] at hsettled
    obtain ⟨hincludes, hsmall⟩ := hsettled
    have hcovers : CodeRange.covers lettersAndNumbers (run.target + (c.toNat - run.first)) = true :=
      CodeRange.covers_of_includes hincludes (by omega) (by omega)
    have htoNat := toNat_ofNat_of_covers hcovers
    refine ⟨Char.ofNat (run.target + (c.toNat - run.first)), ?_, ?_, ?_⟩
    · rw [lowercase_of_ne hne, himage]
    · rw [isAlphanumeric, htoNat, hcovers]
    · refine lowercase_of_areSmall hsmall (by omega) (by omega) fun hother => ?_
      rw [Bool.or_eq_true, Nat.beq_eq, Nat.beq_eq] at hother
      rw [htoNat, Nat.add_sub_cancel_left]
      rcases hother with htwo | hone
      · rw [← htwo, hstride]
      · omega

theorem lowercase_dottedCapital : lowercase dottedCapital = ['i', dotAbove] := by
  decide

end Roman
