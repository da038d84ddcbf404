import Mathlib.Data.Finset.Card
import Roman.Proofs.NameLines
import Roman.Proofs.Normalization
/-!
# Lists and the names they are built from

However a list has been put together, it is the list of all the names that have been given for it. So
its names are the normal forms of these that have words, each of them once, and nothing else of the way
it was built can be told from it: not the order of the names, nor how often one was given, nor how they
were spread over lists that were merged.
-/

namespace Roman

namespace Name

/-- The words of a text are what stands between the spaces of its normal form. -/
theorem tokens_eq_filter_parts (text : String) :
    tokens text = (parts (normalize text)).filter fun w => !w.isEmpty := by
  by_cases hnone : tokens text = []
  · rw [normalize_eq_empty_iff.mpr hnone, hnone]
    rfl
  · rw [parts_normalize hnone, eq_comm, List.filter_eq_self]
    intro w hw
    simpa using (isWord_of_mem_tokens w hw).1

/-- A text without letters and numbers has no words. -/
theorem normalize_eq_empty_of_forall {text : String} (h : ∀ c ∈ text.toList, isAlphanumeric c = false) :
    normalize text = "" := by
  rw [normalize_eq_empty_iff, List.eq_nil_iff_forall_not_mem]
  intro w hw
  obtain ⟨u, _, _, hne, hletters⟩ := exists_of_mem_tokens hw
  obtain ⟨c, u, rfl⟩ := List.exists_cons_of_ne_nil hne
  obtain ⟨htext, halphanumeric⟩ := hletters c List.mem_cons_self
  rw [h c htext] at halphanumeric
  cases halphanumeric

end Name

namespace NameList

open Name

variable {l m : NameList} {names others : List String}

/-! ### Lists with the same names -/

theorem eq_of_mem_iff (h : ∀ name, name ∈ l.names ↔ name ∈ m.names) : l = m := by
  obtain ⟨names⟩ := l
  obtain ⟨names'⟩ := m
  exact congrArg NameList.mk (Std.ExtTreeSet.ext_mem h)

theorem ofList_append (names others : List String) :
    ofList (names ++ others) = (ofList names).merge (ofList others) := by
  apply eq_of_mem_iff
  intro name
  simp only [mem_merge, mem_ofList, List.mem_append, or_and_right, exists_or, and_or_left]

theorem ofList_congr (h : ∀ text, text ∈ names ↔ text ∈ others) : ofList names = ofList others := by
  apply eq_of_mem_iff
  intro name
  simp only [mem_ofList, h]

theorem merge_comm (l m : NameList) : l.merge m = m.merge l :=
  eq_of_mem_iff fun name => by rw [mem_merge, mem_merge, or_comm]

theorem merge_assoc (l m n : NameList) : (l.merge m).merge n = l.merge (m.merge n) :=
  eq_of_mem_iff fun name => by rw [mem_merge, mem_merge, mem_merge, mem_merge, or_assoc]

theorem merge_self (l : NameList) : l.merge l = l :=
  eq_of_mem_iff fun name => by rw [mem_merge, or_self_iff]

/-! ### Building -/

/-- A list that comes of building, reading and merging, with the texts that have been given for its
names. Of a list that is read these are the lines, without the comments. -/
inductive BuiltFrom : NameList → List String → Prop
  | empty : BuiltFrom .empty []
  | ofList (names : List String) : BuiltFrom (ofList names) names
  | ofBytes {text : String} {l : NameList} (h : ofBytes (encode text) = .ok l) :
      BuiltFrom l ((Lines.ofText text).filter fun line => !isComment line)
  | merge {l m : NameList} {names others : List String} (hl : BuiltFrom l names)
      (hm : BuiltFrom m others) : BuiltFrom (l.merge m) (names ++ others)

/-- **A list that has been built** is the list of the names that it has been built from. -/
theorem BuiltFrom.eq_ofList (hl : l.BuiltFrom names) : l = NameList.ofList names := by
  induction hl with
  | empty => exact eq_of_mem_iff fun name => by simp [mem_ofList, NameList.empty]
  | ofList names => rfl
  | @ofBytes text l h =>
    rw [ofBytes_encode] at h
    exact (Except.ok.inj h).symm
  | merge _ _ ihl ihm => rw [ihl, ihm, ofList_append]

/-! ### What can be told of a list -/

theorem contains_ofList_iff {text : String} : (ofList names).contains text = true ↔
    normalize text ≠ "" ∧ ∃ given ∈ names, normalize given = normalize text := by
  rw [contains, Std.ExtTreeSet.contains_iff_mem, mem_ofList]

/-- The size of a list is the number of different names in it. -/
theorem size_ofList (names : List String) :
    (ofList names).size = ((names.map normalize).filter (· ≠ "")).toFinset.card := by
  have hnodup : (ofList names).names.toList.Nodup :=
    Std.ExtTreeSet.distinct_toList.imp fun hne heq => hne (Std.LawfulEqCmp.compare_eq_iff_eq.mpr heq)
  have hmem : (ofList names).names.toList.toFinset = ((names.map normalize).filter (· ≠ "")).toFinset := by
    ext name
    rw [List.mem_toFinset, List.mem_toFinset, Std.ExtTreeSet.mem_toList, mem_ofList, List.mem_filter,
      List.mem_map, decide_eq_true_iff, and_comm]
  rw [size, ← Std.ExtTreeSet.length_toList, ← List.toFinset_card_of_nodup hnodup, hmem]

/-- **Lists and the names they are built from.** The names of a list are those that it has been built
from, each in its normal form, which is its words with one space between them. A text is in the list if it
has words and they are those of a name that was given; the list is as large as there are different
normal forms with words. Merging is putting the given names together, and lists that have been built from
the same names are equal. -/
theorem builtFrom_normal_forms (hl : l.BuiltFrom names) :
    (∀ name ∈ l.names, ∃ text ∈ names, name = ofTokens (tokens text) ∧ parts name = tokens text ∧
      tokens text ≠ [] ∧ ∀ w ∈ tokens text, w ≠ [] ∧ ∀ c ∈ w, isWhite c = false) ∧
    (∀ text, tokens text = (parts (normalize text)).filter fun w => !w.isEmpty) ∧
    (∀ text, l.contains text = true ↔
      normalize text ≠ "" ∧ ∃ given ∈ names, normalize given = normalize text) ∧
    (∀ text, (∀ c ∈ text.toList, isAlphanumeric c = false) → l.contains text = false) ∧
    l.size = ((names.map normalize).filter (· ≠ "")).toFinset.card ∧
    (∀ a b, (ofList a).merge (ofList b) = ofList (a ++ b)) ∧
    (∀ k m n : NameList,
      k.merge m = m.merge k ∧ (k.merge m).merge n = k.merge (m.merge n) ∧ k.merge k = k) ∧
    ∀ m others, m.BuiltFrom others → (∀ text, text ∈ others ↔ text ∈ names) → m = l := by
  obtain rfl := hl.eq_ofList
  refine ⟨fun name hname => ?_, tokens_eq_filter_parts, fun text => contains_ofList_iff, fun text htext => ?_,
    size_ofList names, fun a b => (ofList_append a b).symm,
    fun k m n => ⟨merge_comm k m, merge_assoc k m n, merge_self k⟩, fun m others hm hsame => ?_⟩
  · obtain ⟨hne, text, htext, rfl⟩ := mem_ofList.mp hname
    have hwords : tokens text ≠ [] := fun hnone => hne (normalize_eq_empty_iff.mpr hnone)
    exact ⟨text, htext, rfl, parts_normalize hwords, hwords, isWord_of_mem_tokens⟩
  · rw [Bool.eq_false_iff]
    intro hcontains
    exact (contains_ofList_iff.mp hcontains).1 (normalize_eq_empty_of_forall htext)
  · rw [hm.eq_ofList, ofList_congr hsame]

/-- Five names are given, of which one is a comment, one has no word and two have the same ones. -/
theorem builtFrom_normal_forms_ada :
    ∃ read, ofBytes (encode "#Linus\nGrace\tHopper\r\n") = .ok read ∧
      ((ofList ["Ada", "?!", " ADA. "]).merge read).contains "grace  HOPPER" = true ∧
      ((ofList ["Ada", "?!", " ADA. "]).merge read).contains "Linus" = false ∧
      ((ofList ["Ada", "?!", " ADA. "]).merge read).contains "..." = false ∧
      ((ofList ["Ada", "?!", " ADA. "]).merge read).size = 2 ∧
      read.merge (ofList [" ADA. ", "?!", "Ada"]) = (ofList ["Ada", "?!", " ADA. "]).merge read := by
  have hlines : (Lines.ofText "#Linus\nGrace\tHopper\r\n").filter (fun line => !isComment line)
      = ["Grace\tHopper\r", ""] := by decide
  have hread := ofBytes_encode "#Linus\nGrace\tHopper\r\n"
  have hbuilt := BuiltFrom.merge (.ofList ["Ada", "?!", " ADA. "]) (.ofBytes hread)
  have hbuilt' := BuiltFrom.merge (.ofBytes hread) (.ofList [" ADA. ", "?!", "Ada"])
  rw [hlines] at hread hbuilt hbuilt'
  have hdots : ∀ c ∈ "...".toList, isAlphanumeric c = false := by
    have htext : "...".toList = List.replicate 3 '.' := rfl
    intro c hc
    rw [htext] at hc
    rw [List.eq_of_mem_replicate hc]
    decide
  obtain ⟨_, _, hcontains, hnone, hsize, _, _, hsame⟩ := builtFrom_normal_forms hbuilt
  refine ⟨_, hread, (hcontains _).mpr ⟨by decide, "Grace\tHopper\r", by decide, by decide⟩, ?_,
    hnone _ hdots, hsize.trans ?_, hsame _ _ hbuilt' fun text => ?_⟩
  · rw [Bool.eq_false_iff]
    intro hlinus
    obtain ⟨_, given, hgiven, hnormal⟩ := (hcontains _).mp hlinus
    have hothers : ∀ given ∈ ["Ada", "?!", " ADA. ", "Grace\tHopper\r", ""],
        normalize given ≠ normalize "Linus" := by decide +kernel
    exact hothers given hgiven hnormal
  · decide
  · have hreverse : text ∈ [" ADA. ", "?!", "Ada"] ↔ text ∈ ["Ada", "?!", " ADA. "] :=
      (List.mem_reverse : text ∈ ["Ada", "?!", " ADA. "].reverse ↔ _)
    rw [List.mem_append, List.mem_append, hreverse, or_comm]

end NameList

end Roman
