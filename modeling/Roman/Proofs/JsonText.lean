import Mathlib.Tactic.IntervalCases
import Roman.Json.Scan
import Roman.Json.Writer
/-!
# Scanning what has been written

Some characters spell some tokens if the scanner gives these tokens for them whatever comes behind,
except that a number must not go on. Marks end whatever stands before them, so spellings can be put
together at marks, and every value that is written spells its tokens.
-/

namespace Roman.Json

/-- A text that does not go on with a number. -/
def EndsNumber (rest : List Char) : Prop := ∀ c ∈ rest.head?, NumberPart.whole.next? c = none

def Spells (cs : List Char) (ts : List Token) : Prop :=
  ∀ rest, EndsNumber rest → Scan.between.run (cs ++ rest) = ts ++ Scan.between.run rest

/-- A character that is a token by itself. -/
structure Mark (c : Char) (t : Token) : Prop where
  start : Scan.start c = ([t], .between)
  endsNumber : ∀ rest, EndsNumber (c :: rest)

namespace Mark

theorem of_start {c : Char} {t : Token} (h : Scan.start c = ([t], .between))
    (hnext : NumberPart.whole.next? c = none) : Mark c t where
  start := h
  endsNumber _ c' hc' := by
    cases hc'
    exact hnext

theorem openBrace : Mark '{' .openBrace := of_start rfl rfl

theorem closeBrace : Mark '}' .closeBrace := of_start rfl rfl

theorem openBracket : Mark '[' .openBracket := of_start rfl rfl

theorem closeBracket : Mark ']' .closeBracket := of_start rfl rfl

theorem colon : Mark ':' .colon := of_start rfl rfl

theorem comma : Mark ',' .comma := of_start rfl rfl

end Mark

/-! ### Putting spellings together -/

namespace Spells

variable {c : Char} {t : Token} {cs ds : List Char} {ts us : List Token}

theorem nil : Spells [] [] := fun _ _ => rfl

theorem cons (hc : Mark c t) (h : Spells cs ts) : Spells (c :: cs) (t :: ts) := by
  intro rest hrest
  rw [List.cons_append, Scan.run, Scan.step, hc.start, h rest hrest]
  rfl

theorem append (h : Spells cs ts) (hc : Mark c t) (h' : Spells ds us) :
    Spells (cs ++ c :: ds) (ts ++ t :: us) := by
  intro rest hrest
  rw [List.append_assoc, List.cons_append, h _ (hc.endsNumber _), ← List.cons_append,
    h'.cons hc rest hrest, List.append_assoc]

theorem concat (h : Spells cs ts) (hc : Mark c t) : Spells (cs ++ [c]) (ts ++ [t]) :=
  h.append hc .nil

end Spells

theorem tokens_of_spells {cs : List Char} {ts : List Token} (h : Spells cs ts) :
    tokens (String.ofList cs) = ts := by
  have hall := h [] fun c hc => by cases hc
  rw [List.append_nil] at hall
  rw [tokens, String.toList_ofList, hall]
  exact List.append_nil ts

/-! ### Words -/

theorem spells_null : Spells Writer.null [.null] := fun _ _ => rfl

/-! ### Strings -/

theorem hexDigit?_hexDigit {n : Nat} (h : n < 16) : Scan.hexDigit? (Writer.hexDigit n) = some n := by
  interval_cases n <;> rfl

theorem string_escape_run (read : List Nat) (c : Char) (rest : List Char) :
    (Scan.string read).run (Writer.escape c ++ rest) = (Scan.string (c.toNat :: read)).run rest := by
  unfold Writer.escape
  -- the characters that are escaped by one other character
  iterate 7
    split
    next hshort =>
      subst hshort
      rfl
  split
  next hcontrol =>
    have hhigh := hexDigit?_hexDigit (show c.toNat / 16 < 16 by omega)
    have hlow := hexDigit?_hexDigit (show c.toNat % 16 < 16 by omega)
    have hunit : 16 * (16 * 0 + c.toNat / 16) + c.toNat % 16 = c.toNat := by omega
    show (Scan.codeUnit read 1 0).run
      (Writer.hexDigit (c.toNat / 16) :: Writer.hexDigit (c.toNat % 16) :: rest) = _
    simp only [Scan.run, Scan.step, hhigh, hlow, hunit]
    rfl
  next hquote hbackslash _ _ _ _ _ hcontrol =>
    rw [List.singleton_append, Scan.run, Scan.step, if_neg hquote, if_neg hbackslash, if_neg hcontrol]
    rfl

theorem string_run (read : List Nat) (cs rest : List Char) :
    (Scan.string read).run (cs.flatMap Writer.escape ++ '\x22' :: rest)
      = .string (read.reverse ++ cs.map Char.toNat) :: Scan.between.run rest := by
  induction cs generalizing read with
  | nil => simp [Scan.run, Scan.step]
  | cons c cs ih =>
    rw [List.flatMap_cons, List.append_assoc, string_escape_run, ih]
    simp

theorem spells_string (s : String) :
    Spells (Writer.string s) [.string (s.toList.map Char.toNat)] := by
  intro rest _
  have hrun := string_run [] s.toList rest
  rw [Writer.string, List.cons_append, List.cons_append, List.append_assoc]
  exact hrun

/-! ### Numbers -/

theorem start_digitChar {d : Nat} (hpos : 0 < d) (h : d < 10) :
    Scan.start d.digitChar = ([], .number .whole [d.digitChar]) := by
  interval_cases d <;> rfl

theorem next?_digitChar {d : Nat} (h : d < 10) :
    NumberPart.whole.next? d.digitChar = some .whole := by
  interval_cases d <;> rfl

/-- Digits of which the first is none but the last one may be zero. -/
theorem toDigits_run {n : Nat} (hpos : 0 < n) (rest : List Char) :
    Scan.between.run (Nat.toDigits 10 n ++ rest)
      = (Scan.number .whole (Nat.toDigits 10 n).reverse).run rest := by
  induction n using Nat.strongRecOn generalizing rest with
  | ind n ih =>
    rw [Nat.toDigits_eq_if (by decide)]
    split
    next hsmall =>
      rw [List.singleton_append, Scan.run, Scan.step, start_digitChar hpos hsmall]
      rfl
    next hlarge =>
      have hlast : n % 10 < 10 := Nat.mod_lt _ (by decide)
      rw [List.append_assoc, ih (n / 10) (by omega) (by omega), List.singleton_append, Scan.run,
        Scan.step, next?_digitChar hlast, List.reverse_concat]
      rfl

theorem next?_zero_eq_none {c : Char} (h : NumberPart.whole.next? c = none) :
    NumberPart.zero.next? c = none := by
  have hboth : (if c.isDigit then some .whole else NumberPart.afterWhole? c) = none := h
  split at hboth
  · cases hboth
  · exact hboth

theorem number_run {part : NumberPart} (hpart : part = .zero ∨ part = .whole) (read : List Char)
    {rest : List Char} (hrest : EndsNumber rest) :
    (Scan.number part read).run rest = .number read.reverse :: Scan.between.run rest := by
  cases rest with
  | nil => rcases hpart with rfl | rfl <;> rfl
  | cons c rest =>
    have hwhole : NumberPart.whole.next? c = none := hrest c rfl
    have hnext : part.next? c = none := by
      rcases hpart with rfl | rfl
      · exact next?_zero_eq_none hwhole
      · exact hwhole
    have hcomplete : part.isComplete = true := by
      rcases hpart with rfl | rfl <;> rfl
    rw [Scan.run, Scan.step, hnext, hcomplete]
    rfl

theorem spells_natural (n : Nat) : Spells (Writer.natural n) [.number (Nat.toDigits 10 n)] := by
  intro rest hrest
  rcases Nat.eq_zero_or_pos n with rfl | hpos
  · exact number_run (.inl rfl) ['0'] hrest
  · rw [Writer.natural, toDigits_run hpos, number_run (.inr rfl) _ hrest, List.reverse_reverse]
    rfl

end Roman.Json
