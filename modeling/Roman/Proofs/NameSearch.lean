import Mathlib.Data.List.Infix
import Roman.NameList
import Roman.Proofs.NameText
import Roman.Proofs.Outcome
/-!
# The names in a text

A text is read from the left. Where a stored name begins, the one with the most words is taken and the
reading goes on behind it, elsewhere it moves on by one word: at most one sequence of hits comes of
that, and the search finds it. A name is passed over only behind the first word of a hit, so a text
without hits mentions no stored name at all, although the reading skips over words.
-/

namespace Roman.NameList

open Name

variable {l m : NameList} {ws : List (List Char)}

/-! ### Lists that can be built -/

/-- The lists that come of building, reading and merging. -/
inductive Built : NameList → Prop
  | empty : Built .empty
  | ofList (names : List String) : Built (ofList names)
  | ofBytes {content : Bytes} {l : NameList} (h : ofBytes content = .ok l) : Built l
  | merge {l m : NameList} (hl : Built l) (hm : Built m) : Built (l.merge m)

theorem mem_ofList {names : List String} {name : String} :
    name ∈ (ofList names).names ↔ name ≠ "" ∧ ∃ text ∈ names, normalize text = name := by
  simp [ofList, Std.ExtTreeSet.mem_ofList, and_comm]

theorem mem_merge {name : String} : name ∈ (l.merge m).names ↔ name ∈ l.names ∨ name ∈ m.names :=
  Std.ExtTreeSet.mem_union_iff

/-- **A stored name** is the normal form of a text that has words. -/
theorem Built.exists_text (hl : l.Built) {name : String} (hname : name ∈ l.names) :
    name ≠ "" ∧ ∃ text, normalize text = name := by
  induction hl with
  | empty => exact absurd hname Std.ExtTreeSet.not_mem_empty
  | ofList names =>
    obtain ⟨hne, text, _, htext⟩ := mem_ofList.mp hname
    exact ⟨hne, text, htext⟩
  | ofBytes h =>
    obtain ⟨lines, _, hlist⟩ := except_bind_eq_ok h
    cases hlist
    obtain ⟨hne, text, _, htext⟩ := mem_ofList.mp hname
    exact ⟨hne, text, htext⟩
  | merge _ _ ihl ihm =>
    rcases mem_merge.mp hname with hname | hname
    · exact ihl hname
    · exact ihm hname

/-! ### One place in the text -/

theorem le_foldl_max (counts : List Nat) (bound : Nat) :
    bound ≤ counts.foldl max bound ∧ ∀ n ∈ counts, n ≤ counts.foldl max bound := by
  induction counts generalizing bound with
  | nil => exact ⟨Nat.le_refl _, List.forall_mem_nil _⟩
  | cons n counts ih =>
    obtain ⟨hbound, hcounts⟩ := ih (max bound n)
    refine ⟨(Nat.le_max_left _ _).trans hbound, List.forall_mem_cons.mpr ⟨?_, hcounts⟩⟩
    exact (Nat.le_max_right _ _).trans hbound

theorem mem_widths {n : Nat} : n ∈ l.widths ↔ ∃ name ∈ l.names, (parts name).length = n := by
  simp only [widths, List.mem_filter, List.mem_reverse, List.mem_range, List.contains_iff_mem]
  rw [and_iff_right_of_imp fun hn => Nat.lt_succ_of_le ((le_foldl_max _ 0).2 n hn), List.mem_map]
  simp only [Std.ExtTreeSet.mem_toList]

theorem pairwise_widths : l.widths.Pairwise fun n k => k < n :=
  (List.pairwise_reverse.mpr List.pairwise_lt_range).filter _

/-- The name that is looked up at a width is the one with these words. -/
theorem ofTokens_take_mem_iff (hws : ∀ w ∈ ws, IsWord w) {n : Nat} (hpos : 0 < n) (hle : n ≤ ws.length) :
    ofTokens (ws.take n) ∈ l.names ↔ ∃ name ∈ l.names, parts name = ws.take n := by
  constructor
  · intro hmem
    have hne : ws.take n ≠ [] := by
      rw [ne_eq, ← List.length_eq_zero_iff, List.length_take]
      omega
    exact ⟨_, hmem, parts_ofTokens hne fun w hw => hws w (List.mem_of_mem_take hw)⟩
  · intro hname
    obtain ⟨name, hmem, hparts⟩ := hname
    rw [← hparts, ofTokens_parts]
    exact hmem

/-- A stored name begins at this place, and none with more words does. -/
def LongestAt (l : NameList) (ws : List (List Char)) (name : String) : Prop :=
  name ∈ l.names ∧ parts name <+: ws ∧
    ∀ other ∈ l.names, parts other <+: ws → (parts other).length ≤ (parts name).length

theorem LongestAt.unique {name other : String} (hname : l.LongestAt ws name) (hother : l.LongestAt ws other) :
    name = other := by
  obtain ⟨hmem, hbegins, hlongest⟩ := hname
  obtain ⟨hmem', hbegins', hlongest'⟩ := hother
  have hlength := Nat.le_antisymm (hlongest' name hmem hbegins) (hlongest other hmem' hbegins')
  apply eq_of_parts_eq
  exact (List.prefix_of_prefix_length_le hbegins hbegins' hlength.le).eq_of_length hlength

theorem width?_cases (hws : ∀ w ∈ ws, IsWord w) :
    (∃ name, l.LongestAt ws name ∧ l.width? l.widths ws = some (parts name).length) ∨
      ((∀ name ∈ l.names, ¬ parts name <+: ws) ∧ l.width? l.widths ws = none) := by
  have hfits : ∀ n ∈ l.widths, (n ≤ ws.length && l.names.contains (ofTokens (ws.take n))) = true ↔
      ∃ name ∈ l.names, parts name <+: ws ∧ (parts name).length = n := by
    intro n hn
    have hpos : 0 < n := by
      obtain ⟨name, _, rfl⟩ := mem_widths.mp hn
      exact List.length_pos_iff.mpr (parts_ne_nil name)
    rw [Bool.and_eq_true, decide_eq_true_iff, Std.ExtTreeSet.contains_iff_mem]
    constructor
    · intro hstored
      obtain ⟨hle, hmem⟩ := hstored
      obtain ⟨name, hname, hparts⟩ := (ofTokens_take_mem_iff hws hpos hle).mp hmem
      refine ⟨name, hname, hparts ▸ List.take_prefix n ws, ?_⟩
      rw [hparts, List.length_take_of_le hle]
    · intro hname
      obtain ⟨name, hmem, hbegins, rfl⟩ := hname
      refine ⟨hbegins.length_le, (ofTokens_take_mem_iff hws hpos hbegins.length_le).mpr ?_⟩
      exact ⟨name, hmem, List.prefix_iff_eq_take.mp hbegins⟩
  cases hwidth : l.width? l.widths ws with
  | none =>
    refine .inr ⟨fun name hname hbegins => ?_, rfl⟩
    have hmem : (parts name).length ∈ l.widths := mem_widths.mpr ⟨name, hname, rfl⟩
    have hnot := List.find?_eq_none.mp hwidth _ hmem
    exact hnot ((hfits _ hmem).mpr ⟨name, hname, hbegins, rfl⟩)
  | some n =>
    obtain ⟨hn, wider, narrower, hsplit, hwider⟩ := List.find?_eq_some_iff_append.mp hwidth
    have hmem : n ∈ l.widths := hsplit ▸ List.mem_append_right wider List.mem_cons_self
    obtain ⟨name, hname, hbegins, rfl⟩ := (hfits n hmem).mp hn
    refine .inl ⟨name, ⟨hname, hbegins, fun other hother hbegins' => ?_⟩, rfl⟩
    have hmem' : (parts other).length ∈ l.widths := mem_widths.mpr ⟨other, hother, rfl⟩
    have hfit := (hfits _ hmem').mpr ⟨other, hother, hbegins', rfl⟩
    rw [hsplit] at hmem'
    rcases List.mem_append.mp hmem' with hin | hin
    · have hnot := hwider _ hin
      rw [hfit] at hnot
      cases hnot
    · have hfall := l.pairwise_widths
      rw [hsplit, List.pairwise_append, List.pairwise_cons] at hfall
      rcases List.mem_cons.mp hin with heq | hin
      · exact heq.le
      · exact (hfall.2.1.1 _ hin).le

/-! ### The whole text -/

/-- The hits in a sequence of words: the longest name that begins at a place is taken and the reading
goes on behind it, and where none begins one word is left out. -/
inductive Segmentation (l : NameList) : List (List Char) → List String → Prop
  | done : Segmentation l [] []
  | hit {ws : List (List Char)} {name : String} {hits : List String} (hname : l.LongestAt ws name)
      (h : Segmentation l (ws.drop (parts name).length) hits) : Segmentation l ws (name :: hits)
  | skip {w : List Char} {ws : List (List Char)} {hits : List String}
      (hnone : ∀ name ∈ l.names, ¬ parts name <+: w :: ws) (h : Segmentation l ws hits) :
      Segmentation l (w :: ws) hits

theorem segmentation_scan (hws : ∀ w ∈ ws, IsWord w) : Segmentation l ws (l.scan l.widths ws) := by
  induction ws using scan.induct l l.widths with
  | case1 =>
    rw [scan]
    exact .done
  | case2 w ws n hwidth ih =>
    obtain ⟨name, hname, hn⟩ | ⟨_, hnone⟩ := width?_cases (l := l) hws
    · rw [hwidth, Option.some.injEq] at hn
      subst hn
      have htake : ofTokens ((w :: ws).take (parts name).length) = name := by
        rw [← List.prefix_iff_eq_take.mp hname.2.1, ofTokens_parts]
      have hdrop : (w :: ws).drop (parts name).length = ws.drop ((parts name).length - 1) := by
        rw [List.drop_cons (List.length_pos_iff.mpr (parts_ne_nil name))]
      rw [scan, hwidth]
      simp only [htake]
      refine .hit hname ?_
      rw [hdrop]
      exact ih fun v hv => hws v (List.mem_cons_of_mem w (List.mem_of_mem_drop hv))
    · rw [hwidth] at hnone
      cases hnone
  | case3 w ws hwidth ih =>
    obtain ⟨_, _, hn⟩ | ⟨hnone, _⟩ := width?_cases (l := l) hws
    · rw [hwidth] at hn
      cases hn
    · rw [scan, hwidth]
      exact .skip hnone (ih fun v hv => hws v (List.mem_cons_of_mem w hv))

theorem not_longestAt_nil {name : String} : ¬ l.LongestAt [] name := fun hname =>
  parts_ne_nil name (List.prefix_nil.mp hname.2.1)

/-- **No two segmentations** of a sequence of words differ. -/
theorem Segmentation.unique {hits others : List String} (h : Segmentation l ws hits)
    (hother : Segmentation l ws others) : hits = others := by
  induction h generalizing others with
  | done =>
    cases hother with
    | done => rfl
    | hit hname _ => exact absurd hname not_longestAt_nil
  | hit hname _ ih =>
    cases hother with
    | done => exact absurd hname not_longestAt_nil
    | hit hname' hrest =>
      obtain rfl := hname.unique hname'
      rw [ih hrest]
    | skip hnone _ => exact absurd hname.2.1 (hnone _ hname.1)
  | skip hnone _ ih =>
    cases hother with
    | hit hname _ => exact absurd hname.2.1 (hnone _ hname.1)
    | skip _ hrest => exact ih hrest

/-- Every hit is a stored name whose words stand in the text. -/
theorem Segmentation.mem_and_within {hits : List String} (h : Segmentation l ws hits) :
    ∀ name ∈ hits, name ∈ l.names ∧ parts name <:+: ws := by
  induction h with
  | done => exact List.forall_mem_nil _
  | @hit ws name hits hname _ ih =>
    refine List.forall_mem_cons.mpr ⟨⟨hname.1, hname.2.1.isInfix⟩, fun other hother => ?_⟩
    obtain ⟨hmem, hwithin⟩ := ih other hother
    exact ⟨hmem, hwithin.trans (List.drop_suffix _ ws).isInfix⟩
  | @skip w ws hits _ _ ih =>
    intro name hname
    obtain ⟨hmem, hwithin⟩ := ih name hname
    exact ⟨hmem, hwithin.trans (List.suffix_cons w ws).isInfix⟩

/-- Where there is no hit, no stored name has been passed over. -/
theorem Segmentation.not_within (h : Segmentation l ws []) {name : String} (hname : name ∈ l.names) :
    ¬ parts name <:+: ws := by
  intro hwithin
  induction ws with
  | nil => exact parts_ne_nil name (List.infix_nil.mp hwithin)
  | cons w ws ih =>
    cases h with
    | skip hnone hrest =>
      rcases List.infix_cons_iff.mp hwithin with hbegins | hwithin
      · exact hnone name hname hbegins
      · exact ih hrest hwithin

/-! ### Each name once -/

/-- The elements of a list, in the order in which each of them comes first. -/
structure FirstAppearances (found hits : List String) : Prop where
  mem_iff : ∀ name, name ∈ found ↔ name ∈ hits
  ordered : found.Pairwise fun name other => hits.idxOf name < hits.idxOf other

theorem FirstAppearances.nodup {found hits : List String} (h : FirstAppearances found hits) : found.Nodup :=
  h.ordered.imp fun {name other} hlt heq => by
    subst heq
    exact absurd hlt (Nat.lt_irrefl _)

/-- Leaving out other elements does not change which of two comes first. -/
theorem idxOf_lt_of_filter {p : String → Bool} {hits : List String} {name other : String}
    (hname : p name = true) (hother : p other = true)
    (h : (hits.filter p).idxOf name < (hits.filter p).idxOf other) :
    hits.idxOf name < hits.idxOf other := by
  induction hits with
  | nil => exact absurd h (Nat.lt_irrefl _)
  | cons hit hits ih =>
    by_cases hhit : p hit = true
    · rw [List.filter_cons_of_pos hhit] at h
      by_cases heq : hit = other
      · subst heq
        rw [List.idxOf_cons_self] at h
        exact absurd h (Nat.not_lt_zero _)
      · rw [List.idxOf_cons_ne _ heq] at h ⊢
        by_cases heq' : hit = name
        · subst heq'
          rw [List.idxOf_cons_self]
          exact Nat.succ_pos _
        · rw [List.idxOf_cons_ne _ heq'] at h ⊢
          exact Nat.succ_lt_succ (ih (Nat.lt_of_succ_lt_succ h))
    · have hne : ∀ x, p x = true → hit ≠ x := by
        intro x hx heq
        subst heq
        exact hhit hx
      rw [List.filter_cons_of_neg hhit] at h
      rw [List.idxOf_cons_ne _ (hne name hname), List.idxOf_cons_ne _ (hne other hother)]
      exact Nat.succ_lt_succ (ih h)

theorem firstAppearances_eraseDups (hits : List String) : FirstAppearances hits.eraseDups hits := by
  refine ⟨fun name => List.mem_eraseDups, ?_⟩
  match hits with
  | [] => exact List.Pairwise.nil
  | hit :: rest =>
    have hkept : ∀ name ∈ (rest.filter fun x => !x == hit).eraseDups, (!name == hit) = true := by
      intro name hname
      exact (List.mem_filter.mp (List.mem_eraseDups.mp hname)).2
    have hne : ∀ name ∈ (rest.filter fun x => !x == hit).eraseDups, hit ≠ name := by
      intro name hname
      exact (ne_of_beq_false ((Bool.not_eq_true' _).mp (hkept name hname))).symm
    rw [List.eraseDups_cons]
    refine List.pairwise_cons.mpr ⟨fun name hname => ?_, ?_⟩
    · rw [List.idxOf_cons_self, List.idxOf_cons_ne _ (hne name hname)]
      exact Nat.succ_pos _
    · have hrest := (firstAppearances_eraseDups (rest.filter fun x => !x == hit)).ordered
      refine hrest.imp_of_mem fun {name other} hname hother hlt => ?_
      rw [List.idxOf_cons_ne _ (hne name hname), List.idxOf_cons_ne _ (hne other hother)]
      exact Nat.succ_lt_succ (idxOf_lt_of_filter (hkept name hname) (hkept other hother) hlt)
termination_by hits.length
decreasing_by
  exact Nat.lt_succ_of_le (List.length_filter_le _ _)

/-! ### Names in a text -/

theorem isMatch_iff_matchedNames_ne_nil {text : String} : l.isMatch text ↔ l.matchedNames text ≠ [] := by
  simp [isMatch]

/-- **The hits of a text** and the names that are found in it. -/
theorem exists_hits (l : NameList) (text : String) : ∃ hits, Segmentation l (tokens text) hits ∧
    FirstAppearances (l.matchedNames text) hits :=
  ⟨_, segmentation_scan isWord_of_mem_tokens, firstAppearances_eraseDups _⟩

theorem isMatch_iff {text : String} : l.isMatch text ↔ ∃ name ∈ l.names, parts name <:+: tokens text := by
  obtain ⟨hits, hsegmentation, hfound⟩ := exists_hits l text
  rw [isMatch_iff_matchedNames_ne_nil]
  constructor
  · intro hne
    obtain ⟨name, hname⟩ := List.exists_mem_of_ne_nil _ hne
    exact ⟨name, hsegmentation.mem_and_within name ((hfound.mem_iff name).mp hname)⟩
  · intro hname hnil
    obtain ⟨name, hmem, hwithin⟩ := hname
    cases hits with
    | nil => exact hsegmentation.not_within hmem hwithin
    | cons hit hits =>
      have hin := (hfound.mem_iff hit).mpr List.mem_cons_self
      rw [hnil] at hin
      cases hin

theorem isMatch_merge {text : String} (h : l.isMatch text) : (l.merge m).isMatch text := by
  obtain ⟨name, hname, hwithin⟩ := isMatch_iff.mp h
  exact isMatch_iff.mpr ⟨name, mem_merge.mpr (.inl hname), hwithin⟩

/-- A text that is itself a stored name is one hit. -/
theorem matchedNames_of_contains (hl : l.Built) {name : String} (h : l.contains name) :
    l.matchedNames name = [normalize name] := by
  have hmem : normalize name ∈ l.names := Std.ExtTreeSet.contains_iff_mem.mp h
  have hne : tokens name ≠ [] := fun hnil => (hl.exists_text hmem).1 (normalize_eq_empty_iff.mpr hnil)
  have hparts := parts_normalize hne
  have hlongest : l.LongestAt (tokens name) (normalize name) := by
    rw [LongestAt, hparts]
    exact ⟨hmem, List.prefix_rfl, fun other _ hbegins => hbegins.length_le⟩
  have hone : Segmentation l (tokens name) [normalize name] := by
    refine .hit hlongest ?_
    rw [hparts, List.drop_length]
    exact .done
  rw [matchedNames, (segmentation_scan isWord_of_mem_tokens).unique hone, List.eraseDups_cons,
    List.filter_nil, List.eraseDups_nil]

/-- **The names found in a text** are those of its only segmentation, each of them once and in the order
of their first hits. Something is found exactly if the words of a stored name stand in the text, which
further names do not change, and a text that is a stored name is found as a whole. -/
theorem matchedNames_leftmost_longest (l m : NameList) (text : String) :
    (∃ hits, Segmentation l (tokens text) hits ∧
        (∀ others, Segmentation l (tokens text) others → others = hits) ∧
        FirstAppearances (l.matchedNames text) hits) ∧
      (l.matchedNames text).Nodup ∧
      (∀ name ∈ l.matchedNames text, name ∈ l.names ∧ parts name <:+: tokens text) ∧
      (l.isMatch text ↔ ∃ name ∈ l.names, parts name <:+: tokens text) ∧
      (l.isMatch text → (l.merge m).isMatch text) ∧
      (l.Built → ∀ name, l.contains name → l.matchedNames name = [normalize name]) := by
  obtain ⟨hits, hsegmentation, hfound⟩ := exists_hits l text
  refine ⟨⟨hits, hsegmentation, fun others h => h.unique hsegmentation, hfound⟩, hfound.nodup,
    fun name hname => ?_, isMatch_iff, isMatch_merge, fun hl name h => matchedNames_of_contains hl h⟩
  exact hsegmentation.mem_and_within name ((hfound.mem_iff name).mp hname)

/-- Where a name begins that is also the beginning of a longer one, the longer one is found. -/
theorem matchedNames_leftmost_longest_ada : ∃ l m : NameList, l.Built ∧ l.contains "Ada LOVELACE" ∧
    l.matchedNames "Ada LOVELACE" = ["ada lovelace"] ∧ l.isMatch "I'm Ada Lovelace!" ∧
      (l.merge m).isMatch "I'm Ada Lovelace!" := by
  let l := ofList ["Ada", "Ada Lovelace"]
  let m := ofList ["Lovelace"]
  have hmem : "ada lovelace" ∈ l.names := mem_ofList.mpr ⟨by decide, "Ada Lovelace", by decide, by decide⟩
  have hnormal : normalize "Ada LOVELACE" = "ada lovelace" := by decide
  have hcontains : l.contains "Ada LOVELACE" :=
    Std.ExtTreeSet.contains_iff_mem.mpr (hnormal.symm ▸ hmem)
  obtain ⟨_, _, _, hmatch, hmerge, hwhole⟩ := matchedNames_leftmost_longest l m "I'm Ada Lovelace!"
  have hfound : l.isMatch "I'm Ada Lovelace!" := hmatch.mpr ⟨"ada lovelace", hmem, by decide⟩
  refine ⟨l, m, .ofList _, hcontains, ?_, hfound, hmerge hfound⟩
  rw [hwhole (.ofList _) _ hcontains, hnormal]

end Roman.NameList
