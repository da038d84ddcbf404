import Roman.Text.CharacterClass

/-!
# Cutting a text

The pieces between separators, the words between white space, and a text without the ends that do
not matter. All of them keep the order of what they keep.
-/

namespace Roman

/-- The pieces before, between and behind the elements that satisfy `p`, empty ones included. -/
def pieces (p : α → Bool) : List α → List (List α)
  | [] => [[]]
  | x :: xs =>
    if p x then [] :: pieces p xs
    else
      match pieces p xs with
      | [] => [[x]]
      | piece :: rest => (x :: piece) :: rest

theorem pieces_cons_of_pos {p : α → Bool} {x : α} (hx : p x = true) (xs : List α) :
    pieces p (x :: xs) = [] :: pieces p xs :=
  if_pos hx

theorem pieces_cons_of_neg {p : α → Bool} {x : α} {xs piece : List α} {rest : List (List α)}
    (hx : p x = false) (h : pieces p xs = piece :: rest) : pieces p (x :: xs) = (x :: piece) :: rest := by
  rw [pieces, h, hx]
  rfl

theorem exists_pieces (p : α → Bool) (xs : List α) : ∃ piece rest, pieces p xs = piece :: rest := by
  induction xs with
  | nil => exact ⟨[], [], rfl⟩
  | cons x xs ih =>
    obtain ⟨piece, rest, hpieces⟩ := ih
    cases hx : p x with
    | true => exact ⟨[], pieces p xs, pieces_cons_of_pos hx xs⟩
    | false => exact ⟨x :: piece, rest, pieces_cons_of_neg hx hpieces⟩

theorem pieces_ne_nil {p : α → Bool} (xs : List α) : pieces p xs ≠ [] := by
  obtain ⟨piece, rest, hpieces⟩ := exists_pieces p xs
  rw [hpieces]
  exact List.cons_ne_nil piece rest

theorem pieces_append {p : α → Bool} {us ys piece : List α} {rest : List (List α)}
    (hus : ∀ u ∈ us, p u = false) (h : pieces p ys = piece :: rest) :
    pieces p (us ++ ys) = (us ++ piece) :: rest := by
  induction us with
  | nil => exact h
  | cons u us ih =>
    obtain ⟨hu, hrest⟩ := List.forall_mem_cons.mp hus
    exact pieces_cons_of_neg hu (ih hrest)

theorem pieces_of_none {p : α → Bool} {xs : List α} (hxs : ∀ x ∈ xs, p x = false) : pieces p xs = [xs] := by
  have happend := pieces_append hxs (show pieces p [] = [] :: [] from rfl)
  rwa [List.append_nil] at happend

theorem pieces_append_cons {p : α → Bool} {xs : List α} {x : α} (hxs : ∀ y ∈ xs, p y = false)
    (hx : p x = true) (ys : List α) : pieces p (xs ++ x :: ys) = xs :: pieces p ys := by
  rw [pieces_append hxs (pieces_cons_of_pos hx ys), List.append_nil]

theorem pieces_concat {p : α → Bool} {x : α} (hx : p x = true) (xs : List α) :
    pieces p (xs ++ [x]) = pieces p xs ++ [[]] := by
  induction xs with
  | nil => exact pieces_cons_of_pos hx []
  | cons y xs ih =>
    rw [List.cons_append]
    cases hy : p y with
    | true => rw [pieces_cons_of_pos hy, pieces_cons_of_pos hy, ih, List.cons_append]
    | false =>
      obtain ⟨piece, rest, hpieces⟩ := exists_pieces p xs
      rw [hpieces, List.cons_append] at ih
      rw [pieces_cons_of_neg hy ih, pieces_cons_of_neg hy hpieces, List.cons_append]

theorem eq_false_of_mem_pieces {p : α → Bool} {xs : List α} :
    ∀ piece ∈ pieces p xs, ∀ y ∈ piece, p y = false := by
  induction xs with
  | nil => exact List.forall_mem_singleton.mpr (List.forall_mem_nil _)
  | cons x xs ih =>
    cases hx : p x with
    | true =>
      rw [pieces_cons_of_pos hx]
      exact List.forall_mem_cons.mpr ⟨List.forall_mem_nil _, ih⟩
    | false =>
      obtain ⟨piece, rest, hpieces⟩ := exists_pieces p xs
      rw [hpieces] at ih
      obtain ⟨hpiece, hrest⟩ := List.forall_mem_cons.mp ih
      rw [pieces_cons_of_neg hx hpieces]
      exact List.forall_mem_cons.mpr ⟨List.forall_mem_cons.mpr ⟨hx, hpiece⟩, hrest⟩

/-- Pieces that are put together with a separator between them are found again. -/
theorem pieces_intercalate {p : α → Bool} {x : α} (hx : p x = true) {ws : List (List α)} (hne : ws ≠ [])
    (hws : ∀ w ∈ ws, ∀ y ∈ w, p y = false) : pieces p ([x].intercalate ws) = ws := by
  induction ws with
  | nil => exact absurd rfl hne
  | cons w ws ih =>
    obtain ⟨hw, hrest⟩ := List.forall_mem_cons.mp hws
    cases ws with
    | nil => rw [List.intercalate_singleton, pieces_of_none hw]
    | cons v ws =>
      rw [List.intercalate_cons_cons, List.append_assoc, List.singleton_append,
        pieces_append_cons hw hx, ih (List.cons_ne_nil v ws) hrest]

/-- Where there is one separator only, nothing is lost by cutting. -/
theorem intercalate_pieces [BEq α] [LawfulBEq α] (x : α) (xs : List α) :
    [x].intercalate (pieces (· == x) xs) = xs := by
  induction xs with
  | nil => rfl
  | cons y xs ih =>
    obtain ⟨piece, rest, hpieces⟩ := exists_pieces (· == x) xs
    cases hy : y == x with
    | true =>
      rw [pieces_cons_of_pos (p := (· == x)) hy, hpieces, List.intercalate_cons_cons, ← hpieces, ih,
        eq_of_beq hy]
      rfl
    | false =>
      rw [hpieces] at ih
      rw [pieces_cons_of_neg (p := (· == x)) hy hpieces]
      cases rest with
      | nil =>
        rw [List.intercalate_singleton] at ih ⊢
        rw [ih]
      | cons piece' rest =>
        rw [List.intercalate_cons_cons] at ih ⊢
        rw [List.cons_append, List.cons_append, ih]

theorem mem_of_mem_pieces {p : α → Bool} {xs : List α} :
    ∀ piece ∈ pieces p xs, ∀ y ∈ piece, y ∈ xs := by
  induction xs with
  | nil => exact List.forall_mem_singleton.mpr (List.forall_mem_nil _)
  | cons x xs ih =>
    have hrest : ∀ piece ∈ pieces p xs, ∀ y ∈ piece, y ∈ x :: xs := fun piece hpiece y hy =>
      List.mem_cons_of_mem x (ih piece hpiece y hy)
    cases hx : p x with
    | true =>
      rw [pieces_cons_of_pos hx]
      exact List.forall_mem_cons.mpr ⟨List.forall_mem_nil _, hrest⟩
    | false =>
      obtain ⟨piece, rest, hpieces⟩ := exists_pieces p xs
      rw [hpieces] at hrest
      obtain ⟨hpiece, hrest⟩ := List.forall_mem_cons.mp hrest
      rw [pieces_cons_of_neg hx hpieces]
      exact List.forall_mem_cons.mpr ⟨List.forall_mem_cons.mpr ⟨List.mem_cons_self, hpiece⟩, hrest⟩

theorem exists_piece_of_mem {p : α → Bool} {xs : List α} {y : α} (hy : y ∈ xs) (hp : p y = false) :
    ∃ piece ∈ pieces p xs, y ∈ piece := by
  induction xs with
  | nil => cases hy
  | cons x xs ih =>
    obtain ⟨first, rest, hpieces⟩ := exists_pieces p xs
    rcases List.mem_cons.mp hy with rfl | hy
    · rw [pieces_cons_of_neg hp hpieces]
      exact ⟨y :: first, List.mem_cons_self, List.mem_cons_self⟩
    · obtain ⟨piece, hpiece, hmem⟩ := ih hy
      cases hx : p x with
      | true =>
        rw [pieces_cons_of_pos hx]
        exact ⟨piece, List.mem_cons_of_mem _ hpiece, hmem⟩
      | false =>
        rw [hpieces] at hpiece
        rw [pieces_cons_of_neg hx hpieces]
        rcases List.mem_cons.mp hpiece with rfl | hpiece
        · exact ⟨x :: piece, List.mem_cons_self, List.mem_cons_of_mem x hmem⟩
        · exact ⟨piece, List.mem_cons_of_mem _ hpiece, hmem⟩

/-- What is put in the place of each element changes the pieces one by one, if separators stay
separators and nothing else becomes one. -/
theorem pieces_flatMap {β : Type} {p : α → Bool} {q : β → Bool} {f : α → List β} {xs : List α}
    (hseparator : ∀ x ∈ xs, p x = true → ∃ y, f x = [y] ∧ q y = true)
    (hother : ∀ x ∈ xs, p x = false → ∀ y ∈ f x, q y = false) :
    pieces q (xs.flatMap f) = (pieces p xs).map (List.flatMap f) := by
  induction xs with
  | nil => rfl
  | cons x xs ih =>
    obtain ⟨hx, hrest⟩ := List.forall_mem_cons.mp hseparator
    obtain ⟨hx', hrest'⟩ := List.forall_mem_cons.mp hother
    have hxs := ih hrest hrest'
    rw [List.flatMap_cons]
    cases hp : p x with
    | true =>
      obtain ⟨y, hy, hq⟩ := hx hp
      rw [hy, List.singleton_append, pieces_cons_of_pos hq, pieces_cons_of_pos hp, hxs]
      rfl
    | false =>
      obtain ⟨first, rest, hpieces⟩ := exists_pieces p xs
      rw [hpieces] at hxs
      rw [pieces_append (hx' hp) hxs, pieces_cons_of_neg hp hpieces]
      rfl

/-! What is put together with a separator. -/

theorem mem_intercalate_of_mem {x y : α} {w : List α} {ws : List (List α)} (hw : w ∈ ws) (hy : y ∈ w) :
    y ∈ [x].intercalate ws := by
  induction ws with
  | nil => cases hw
  | cons v ws ih =>
    cases ws with
    | nil =>
      rw [List.mem_singleton.mp hw] at hy
      rwa [List.intercalate_singleton]
    | cons v' ws =>
      rw [List.intercalate_cons_cons]
      rcases List.mem_cons.mp hw with rfl | hw
      · exact List.mem_append_left _ (List.mem_append_left _ hy)
      · exact List.mem_append_right _ (ih hw)

theorem mem_intercalate {x y : α} {ws : List (List α)} (h : y ∈ [x].intercalate ws) :
    y = x ∨ ∃ w ∈ ws, y ∈ w := by
  induction ws with
  | nil => cases h
  | cons v ws ih =>
    cases ws with
    | nil =>
      rw [List.intercalate_singleton] at h
      exact .inr ⟨v, List.mem_cons_self, h⟩
    | cons v' ws =>
      rw [List.intercalate_cons_cons, List.mem_append, List.mem_append, List.mem_singleton] at h
      rcases h with (h | h) | h
      · exact .inr ⟨v, List.mem_cons_self, h⟩
      · exact .inl h
      · rcases ih h with heq | ⟨w, hw, hy⟩
        · exact .inl heq
        · exact .inr ⟨w, List.mem_cons_of_mem v hw, hy⟩

theorem filter_intercalate {p : α → Bool} {x : α} (hx : p x = true) (ws : List (List α)) :
    ([x].intercalate ws).filter p = [x].intercalate (ws.map (List.filter p)) := by
  induction ws with
  | nil => rfl
  | cons w ws ih =>
    cases ws with
    | nil => rw [List.map_singleton, List.intercalate_singleton, List.intercalate_singleton]
    | cons v ws =>
      rw [List.map_cons, List.map_cons, List.intercalate_cons_cons, List.intercalate_cons_cons,
        List.filter_append, List.filter_append, ih, List.filter_cons_of_pos hx, List.filter_nil,
        List.map_cons]

/-- Drops what satisfies `p` at both ends. -/
def trimEnds (p : α → Bool) (xs : List α) : List α :=
  ((xs.dropWhile p).reverse.dropWhile p).reverse

theorem dropWhile_eq_self {p : α → Bool} {xs : List α} (hhead : ∀ x ∈ xs.head?, p x = false) :
    xs.dropWhile p = xs := by
  cases xs with
  | nil => rfl
  | cons x xs => simp [hhead x rfl]

theorem head?_dropWhile {p : α → Bool} (xs : List α) : ∀ x ∈ (xs.dropWhile p).head?, p x = false := by
  intro x hx
  have hnot := List.head?_dropWhile_not p xs
  rw [Option.mem_def.mp hx] at hnot
  exact hnot

theorem trimEnds_eq_self {p : α → Bool} {xs : List α} (hhead : ∀ x ∈ xs.head?, p x = false)
    (hlast : ∀ x ∈ xs.getLast?, p x = false) : trimEnds p xs = xs := by
  rw [← List.head?_reverse] at hlast
  rw [trimEnds, dropWhile_eq_self hhead, dropWhile_eq_self hlast, List.reverse_reverse]

theorem head?_trimEnds {p : α → Bool} (xs : List α) : ∀ x ∈ (trimEnds p xs).head?, p x = false := by
  intro x hx
  have hsplit := List.takeWhile_append_dropWhile (p := p) (l := (xs.dropWhile p).reverse)
  have hprefix := congrArg List.reverse hsplit
  rw [List.reverse_append, List.reverse_reverse, ← trimEnds] at hprefix
  apply head?_dropWhile xs
  rw [← hprefix, List.head?_append, Option.mem_def.mp hx]
  rfl

theorem getLast?_trimEnds {p : α → Bool} (xs : List α) :
    ∀ x ∈ (trimEnds p xs).getLast?, p x = false := by
  rw [trimEnds, List.getLast?_reverse]
  exact head?_dropWhile _

theorem trimEnds_cons {p : α → Bool} {x : α} (hx : p x = true) (xs : List α) :
    trimEnds p (x :: xs) = trimEnds p xs := by
  rw [trimEnds, List.dropWhile_cons_of_pos hx, trimEnds]

theorem trimEnds_concat {p : α → Bool} {x : α} (hx : p x = true) (xs : List α) :
    trimEnds p (xs ++ [x]) = trimEnds p xs := by
  rw [trimEnds, trimEnds, List.dropWhile_append]
  split
  next hempty => simp [hx, List.isEmpty_iff.mp hempty]
  next => rw [List.reverse_concat, List.dropWhile_cons_of_pos hx]

theorem trimEnds_map {β : Type} {p : β → Bool} (f : α → β) (xs : List α) :
    trimEnds p (xs.map f) = (trimEnds (p ∘ f) xs).map f := by
  simp only [trimEnds, List.dropWhile_map, ← List.map_reverse]

/-- The longest parts without white space. -/
def words (cs : List Char) : List (List Char) := (pieces isWhite cs).filter fun w => !w.isEmpty

theorem words_append_white {cs ending : List Char} (h : ∀ c ∈ ending, isWhite c = true) :
    words (cs ++ ending) = words cs := by
  induction ending generalizing cs with
  | nil => rw [List.append_nil]
  | cons c ending ih =>
    obtain ⟨hc, hrest⟩ := List.forall_mem_cons.mp h
    rw [List.append_cons, ih hrest, words, words, pieces_concat hc]
    simp

end Roman
