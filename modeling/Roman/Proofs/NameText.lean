import Mathlib.Data.List.Basic
import Roman.Name
import Roman.Proofs.SmallLetters
/-!
# The words of a name

A word is not empty and holds no white space. Words with one space between them are therefore found
again, by cutting at the spaces as well as by cutting at white space. So the normal form of a text has
the words of the text and no others, and a name is known by its words.
-/

namespace Roman.Name

/-- What remains between white space. -/
def IsWord (w : List Char) : Prop := w ≠ [] ∧ ∀ c ∈ w, isWhite c = false

variable {ws : List (List Char)}

theorem isWord_of_mem_words {cs : List Char} : ∀ w ∈ words cs, IsWord w := by
  intro w hw
  obtain ⟨hpiece, hne⟩ := List.mem_filter.mp hw
  exact ⟨by simpa using hne, eq_false_of_mem_pieces w hpiece⟩

theorem isWord_of_mem_tokens {text : String} : ∀ w ∈ tokens text, IsWord w := isWord_of_mem_words

theorem IsWord.space_notMem {w : List Char} (hw : IsWord w) : ∀ c ∈ w, (c == ' ') = false := by
  intro c hc
  rw [beq_eq_false_iff_ne]
  intro hspace
  subst hspace
  exact absurd (hw.2 ' ' hc) (by decide)

/-! ### Cutting what was put together -/

theorem words_intercalate (hws : ∀ w ∈ ws, IsWord w) : words ([' '].intercalate ws) = ws := by
  by_cases hne : ws = []
  · subst hne
    rfl
  · have hspace : isWhite ' ' = true := by decide
    rw [words, pieces_intercalate hspace hne fun w hw => (hws w hw).2, List.filter_eq_self]
    intro w hw
    simpa using (hws w hw).1

theorem parts_ofTokens (hne : ws ≠ []) (hws : ∀ w ∈ ws, IsWord w) : parts (ofTokens ws) = ws := by
  rw [parts, ofTokens, String.toList_ofList]
  exact pieces_intercalate (p := (· == ' ')) (beq_self_eq_true ' ') hne fun w hw => (hws w hw).space_notMem

theorem ofTokens_parts (name : String) : ofTokens (parts name) = name := by
  rw [parts, ofTokens, intercalate_pieces, String.ofList_toList]

theorem eq_of_parts_eq {name other : String} (h : parts name = parts other) : name = other := by
  rw [← ofTokens_parts name, h, ofTokens_parts]

theorem parts_ne_nil (name : String) : parts name ≠ [] := pieces_ne_nil name.toList

theorem ofTokens_ne_empty (hne : ws ≠ []) (hws : ∀ w ∈ ws, IsWord w) : ofTokens ws ≠ "" := by
  intro hempty
  have hparts := parts_ofTokens hne hws
  rw [hempty] at hparts
  have hword : IsWord [] := hws [] (hparts ▸ List.mem_singleton_self [])
  exact hword.1 rfl

/-- **The words of a normal form** are those of the text. -/
theorem parts_normalize {text : String} (h : tokens text ≠ []) : parts (normalize text) = tokens text :=
  parts_ofTokens h isWord_of_mem_tokens

theorem normalize_eq_empty_iff {text : String} : normalize text = "" ↔ tokens text = [] := by
  constructor
  · intro hempty
    by_cases hne : tokens text = []
    · exact hne
    · exact absurd hempty (ofTokens_ne_empty hne isWord_of_mem_tokens)
  · intro hnil
    rw [normalize, hnil]
    rfl

/-! ### White space behind a text -/

theorem fold_of_isWhite {cs : List Char} (h : ∀ c ∈ cs, isWhite c = true) : fold cs = cs := by
  have hkept : cs.filter (fun c => isAlphanumeric c || isWhite c) = cs := by
    rw [List.filter_eq_self]
    intro c hc
    rw [h c hc, Bool.or_true]
  rw [fold, hkept, List.flatMap_congr fun c hc => lowercase_of_isWhite (h c hc), List.flatMap_singleton']

theorem tokens_of_append_white {text other : String} {ending : List Char}
    (htext : text.toList = other.toList ++ ending) (hending : ∀ c ∈ ending, isWhite c = true) :
    tokens text = tokens other := by
  have hfold : fold text.toList = fold other.toList ++ ending := by
    rw [htext, fold, List.filter_append, List.flatMap_append]
    exact congrArg _ (fold_of_isWhite hending)
  rw [tokens, tokens, hfold, words_append_white hending]

end Roman.Name
