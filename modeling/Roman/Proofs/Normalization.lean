import Roman.Proofs.NameSearch
import Roman.Proofs.SmallLetters
/-!
# Normalizing twice

Letters and numbers are picked out first and written in small letters after that. What comes of it would
be left alone by a second normalization, were it not for the capital I with a dot above: its small form
ends in a mark that is picked out the first time, as part of a letter, and left out the second time. So
normalizing a normal form takes these marks away and does nothing else, and a third time does nothing.
-/

namespace Roman.Name

/-- Whether a character has a place in a name: it is a letter, a number or white space. -/
def isKept (c : Char) : Bool := isAlphanumeric c || isWhite c

/-- A name without the marks that small letters can be left with. -/
def withoutDots (name : String) : String := String.ofList (name.toList.filter (· != dotAbove))

/-! ### Words in small letters -/

theorem isWhite_of_mem_lowercase {c : Char} (h : isAlphanumeric c = true) :
    ∀ d ∈ lowercase c, isWhite d = false := by
  by_cases hc : c = dottedCapital
  · rw [hc, lowercase_dottedCapital, List.forall_mem_cons, List.forall_mem_singleton]
    exact ⟨by decide, by decide⟩
  · obtain ⟨d, hd, halphanumeric, _⟩ := exists_lowercase h hc
    rw [hd, List.forall_mem_singleton]
    exact isWhite_of_isAlphanumeric halphanumeric

/-- Writing in small letters neither joins words nor splits them. -/
theorem tokens_eq (text : String) :
    tokens text = (words (text.toList.filter isKept)).map (List.flatMap lowercase) := by
  have hpieces : pieces isWhite (fold text.toList)
      = (pieces isWhite (text.toList.filter isKept)).map (List.flatMap lowercase) := by
    apply pieces_flatMap
    · exact fun c _ hwhite => ⟨c, lowercase_of_isWhite hwhite, hwhite⟩
    · intro c hc hwhite
      have hkept : (isAlphanumeric c || isWhite c) = true := (List.mem_filter.mp hc).2
      rw [hwhite, Bool.or_false] at hkept
      exact isWhite_of_mem_lowercase hkept
  rw [tokens, words, hpieces, List.filter_map, words]
  congr 1
  apply List.filter_congr
  intro piece _
  cases piece with
  | nil => rfl
  | cons c piece => simp [List.isEmpty_eq_false_iff, lowercase_ne_nil]

/-- A word of a text is what letters and numbers are written as. -/
theorem exists_of_mem_tokens {text : String} {w : List Char} (hw : w ∈ tokens text) :
    ∃ u ∈ words (text.toList.filter isKept), w = u.flatMap lowercase ∧ u ≠ [] ∧
      ∀ c ∈ u, c ∈ text.toList ∧ isAlphanumeric c = true := by
  rw [tokens_eq] at hw
  obtain ⟨u, hu, rfl⟩ := List.mem_map.mp hw
  obtain ⟨hne, hnot⟩ := isWord_of_mem_words u hu
  refine ⟨u, hu, rfl, hne, fun c hc => ?_⟩
  have hmem := mem_of_mem_pieces u (List.mem_filter.mp hu).1 c hc
  obtain ⟨htext, hkept⟩ := List.mem_filter.mp hmem
  rw [isKept, hnot c hc, Bool.or_false] at hkept
  exact ⟨htext, hkept⟩

theorem mem_lowercase_cases {c d : Char} (hc : isAlphanumeric c = true) (hd : d ∈ lowercase c) :
    (isAlphanumeric d = true ∧ lowercase d = [d]) ∨ (d = dotAbove ∧ c = dottedCapital) := by
  by_cases hdotted : c = dottedCapital
  · subst hdotted
    rw [lowercase_dottedCapital, List.mem_cons, List.mem_singleton] at hd
    rcases hd with rfl | rfl
    · exact .inl (by decide)
    · exact .inr ⟨rfl, rfl⟩
  · obtain ⟨small, hsmall, hfixed⟩ := exists_lowercase hc hdotted
    rw [hsmall, List.mem_singleton] at hd
    subst hd
    exact .inl hfixed

theorem mem_tokens_cases {text : String} {w : List Char} (hw : w ∈ tokens text) :
    ∀ d ∈ w, (isAlphanumeric d = true ∧ lowercase d = [d]) ∨ (d = dotAbove ∧ dottedCapital ∈ text.toList) := by
  intro d hd
  obtain ⟨u, _, rfl, _, hletters⟩ := exists_of_mem_tokens hw
  obtain ⟨c, hc, hd⟩ := List.mem_flatMap.mp hd
  obtain ⟨htext, halphanumeric⟩ := hletters c hc
  rcases mem_lowercase_cases halphanumeric hd with hsmall | ⟨hdot, hdotted⟩
  · exact .inl hsmall
  · exact .inr ⟨hdot, hdotted ▸ htext⟩

/-- The mark never makes up a word on its own. -/
theorem exists_ne_dotAbove_of_mem_tokens {text : String} {w : List Char} (hw : w ∈ tokens text) :
    ∃ d ∈ w, d ≠ dotAbove := by
  obtain ⟨u, _, rfl, hne, hletters⟩ := exists_of_mem_tokens hw
  obtain ⟨c, u, rfl⟩ := List.exists_cons_of_ne_nil hne
  obtain ⟨_, halphanumeric⟩ := hletters c List.mem_cons_self
  by_cases hdotted : c = dottedCapital
  · subst hdotted
    exact ⟨'i', by simp [lowercase_dottedCapital], by decide⟩
  · obtain ⟨d, hd, hd', _⟩ := exists_lowercase halphanumeric hdotted
    refine ⟨d, by simp [hd], fun hdot => ?_⟩
    subst hdot
    exact absurd hd' (by decide)

/-! ### The second time -/

theorem mem_normalize_cases {text : String} : ∀ d ∈ (normalize text).toList,
    (isKept d = true ∧ lowercase d = [d]) ∨ (d = dotAbove ∧ dottedCapital ∈ text.toList) := by
  intro d hd
  rw [normalize, ofTokens, String.toList_ofList] at hd
  rcases mem_intercalate hd with rfl | ⟨w, hw, hd⟩
  · exact .inl (by decide)
  · rcases mem_tokens_cases hw d hd with ⟨halphanumeric, hsmall⟩ | hdot
    · refine .inl ⟨?_, hsmall⟩
      rw [isKept, halphanumeric, Bool.true_or]
    · exact .inr hdot

theorem fold_normalize (text : String) :
    fold (normalize text).toList = (normalize text).toList.filter (· != dotAbove) := by
  have hkept : ∀ d ∈ (normalize text).toList, (isAlphanumeric d || isWhite d) = (d != dotAbove) := by
    intro d hd
    rcases mem_normalize_cases d hd with ⟨hkept, _⟩ | ⟨rfl, _⟩
    · have hne : d ≠ dotAbove := by
        intro hdot
        subst hdot
        exact absurd hkept (by decide)
      rw [bne_iff_ne.mpr hne]
      exact hkept
    · decide
  have hsmall : ∀ d ∈ (normalize text).toList.filter (· != dotAbove), lowercase d = [d] := by
    intro d hd
    obtain ⟨hmem, hne⟩ := List.mem_filter.mp hd
    rcases mem_normalize_cases d hmem with ⟨_, hsmall⟩ | ⟨rfl, _⟩
    · exact hsmall
    · exact absurd hne (by decide)
  rw [fold, List.filter_congr hkept, List.flatMap_congr hsmall, List.flatMap_singleton']

/-- **Normalizing a normal form** takes the marks away. -/
theorem normalize_normalize (text : String) : normalize (normalize text) = withoutDots (normalize text) := by
  have hspace : (' ' != dotAbove) = true := by decide
  have hwords : ∀ w ∈ (tokens text).map (List.filter (· != dotAbove)), IsWord w := by
    intro w hw
    obtain ⟨v, hv, rfl⟩ := List.mem_map.mp hw
    obtain ⟨d, hd, hne⟩ := exists_ne_dotAbove_of_mem_tokens hv
    refine ⟨List.ne_nil_of_mem (List.mem_filter.mpr ⟨hd, bne_iff_ne.mpr hne⟩), fun c hc => ?_⟩
    exact (isWord_of_mem_tokens v hv).2 c (List.mem_filter.mp hc).1
  have hfilter : (normalize text).toList.filter (· != dotAbove)
      = [' '].intercalate ((tokens text).map (List.filter (· != dotAbove))) := by
    rw [normalize, ofTokens, String.toList_ofList]
    exact filter_intercalate (p := (· != dotAbove)) hspace _
  rw [withoutDots, hfilter, normalize, tokens, fold_normalize, hfilter, words_intercalate hwords, ofTokens]

theorem withoutDots_eq_self_iff {name : String} : withoutDots name = name ↔ dotAbove ∉ name.toList := by
  rw [withoutDots, ← String.toList_inj, String.toList_ofList, List.filter_eq_self]
  constructor
  · intro h hmem
    exact absurd (h dotAbove hmem) (by decide)
  · intro h d hd
    rw [bne_iff_ne]
    intro hdot
    exact h (hdot ▸ hd)

theorem dotAbove_mem_normalize_iff {text : String} :
    dotAbove ∈ (normalize text).toList ↔ dottedCapital ∈ text.toList := by
  constructor
  · intro hdot
    rcases mem_normalize_cases dotAbove hdot with ⟨hkept, _⟩ | ⟨_, hdotted⟩
    · exact absurd hkept (by decide)
    · exact hdotted
  · intro hdotted
    have hmem : dottedCapital ∈ text.toList.filter isKept := List.mem_filter.mpr ⟨hdotted, by decide⟩
    obtain ⟨u, hu, hin⟩ := exists_piece_of_mem (p := isWhite) hmem (by decide)
    have hword : u ∈ words (text.toList.filter isKept) :=
      List.mem_filter.mpr ⟨hu, by simpa using List.ne_nil_of_mem hin⟩
    have htoken : u.flatMap lowercase ∈ tokens text := tokens_eq text ▸ List.mem_map_of_mem hword
    have hdot : dotAbove ∈ u.flatMap lowercase :=
      List.mem_flatMap.mpr ⟨dottedCapital, hin, by simp [lowercase_dottedCapital]⟩
    rw [normalize, ofTokens, String.toList_ofList]
    exact mem_intercalate_of_mem htoken hdot

theorem normalize_normalize_iff {text : String} :
    normalize (normalize text) = normalize text ↔ dottedCapital ∉ text.toList := by
  rw [normalize_normalize, withoutDots_eq_self_iff, dotAbove_mem_normalize_iff]

/-- **A third time** nothing is changed. -/
theorem normalize_normalize_normalize (text : String) :
    normalize (normalize (normalize text)) = normalize (normalize text) := by
  rw [normalize_normalize_iff]
  intro hdotted
  rcases mem_normalize_cases _ hdotted with ⟨_, hsmall⟩ | ⟨hdot, _⟩
  · exact absurd hsmall (by decide)
  · exact absurd hdot (by decide)

end Roman.Name

/-! ### Stored names -/

namespace Roman.NameList

open Name

variable {l : NameList} {name : String}

theorem Built.normalize_eq (hl : l.Built) (hname : name ∈ l.names) : normalize name = withoutDots name := by
  obtain ⟨_, text, rfl⟩ := hl.exists_text hname
  exact normalize_normalize text

theorem Built.contains_iff (hl : l.Built) (hname : name ∈ l.names) :
    l.contains name ↔ withoutDots name ∈ l.names := by
  rw [contains, hl.normalize_eq hname, Std.ExtTreeSet.contains_iff_mem]

theorem dotAbove_notMem_of_mem_ofList {names : List String} (hnames : ∀ text ∈ names, dottedCapital ∉ text.toList)
    (hname : name ∈ (ofList names).names) : dotAbove ∉ name.toList := by
  obtain ⟨_, text, htext, rfl⟩ := mem_ofList.mp hname
  rw [dotAbove_mem_normalize_iff]
  exact hnames text htext

/-- **What a second normalization does.** It takes away the marks that come of a capital I with a dot
above, so it changes the normal form of a text exactly if this letter is in the text, and a third one
changes nothing. Of a stored name, it is the normal form without marks that a list is asked for: a name
that is found in a text is contained in the list just if it is stored without them too. -/
theorem normalize_twice (l : NameList) (names : List String) (text : String) :
    (normalize (normalize text) = withoutDots (normalize text) ∧
        (normalize (normalize text) = normalize text ↔ dottedCapital ∉ text.toList) ∧
        normalize (normalize (normalize text)) = normalize (normalize text)) ∧
      (l.Built →
        (∀ name ∈ l.names, normalize name = name ↔ dotAbove ∉ name.toList) ∧
        ∀ name ∈ l.matchedNames text, l.contains name ↔ withoutDots name ∈ l.names) ∧
      ((∀ given ∈ names, dottedCapital ∉ given.toList) →
        (∀ name ∈ (ofList names).names, normalize name = name) ∧
        ∀ name ∈ (ofList names).matchedNames text, (ofList names).contains name) := by
  have hfound : ∀ l : NameList, ∀ name ∈ l.matchedNames text, name ∈ l.names := by
    intro l name hname
    obtain ⟨hits, hsegmentation, hfirst⟩ := exists_hits l text
    exact (hsegmentation.mem_and_within name ((hfirst.mem_iff name).mp hname)).1
  refine ⟨⟨normalize_normalize text, normalize_normalize_iff, normalize_normalize_normalize text⟩,
    fun hl => ⟨fun name hname => ?_, fun name hname => hl.contains_iff (hfound l name hname)⟩,
    fun hnames => ⟨fun name hname => ?_, fun name hname => ?_⟩⟩
  · rw [hl.normalize_eq hname, withoutDots_eq_self_iff]
  · rw [(Built.ofList names).normalize_eq hname, withoutDots_eq_self_iff]
    exact dotAbove_notMem_of_mem_ofList hnames hname
  · have hmem := hfound _ name hname
    rw [(Built.ofList names).contains_iff hmem,
      withoutDots_eq_self_iff.mpr (dotAbove_notMem_of_mem_ofList hnames hmem)]
    exact hmem

/-- Capitals with other marks are no exception. -/
theorem normalize_twice_agnes : normalize "ÁGNES" = "ágnes" ∧ normalize "ágnes" = "ágnes" ∧
    (ofList ["Ágnes"]).matchedNames "ÁGNES" = ["ágnes"] ∧ (ofList ["Ágnes"]).contains "ágnes" := by
  have hnormal : normalize "ÁGNES" = "ágnes" := by decide
  have hplain : ∀ text ∈ ["Ágnes"], dottedCapital ∉ text.toList := by decide
  obtain ⟨_, _, hplainly⟩ := normalize_twice (ofList ["Ágnes"]) ["Ágnes"] "ÁGNES"
  obtain ⟨hfixed, hcontained⟩ := hplainly hplain
  have hmem : "ágnes" ∈ (ofList ["Ágnes"]).names := mem_ofList.mpr ⟨by decide, "Ágnes", by decide, by decide⟩
  have hcontains : (ofList ["Ágnes"]).contains "ÁGNES" :=
    Std.ExtTreeSet.contains_iff_mem.mpr (hnormal.symm ▸ hmem)
  have hfound := matchedNames_of_contains (.ofList ["Ágnes"]) hcontains
  rw [hnormal] at hfound
  exact ⟨hnormal, hfixed _ hmem, hfound, hcontained _ (hfound ▸ List.mem_singleton_self _)⟩

/-- A name with this letter is found in its own text, but it is not in the list that it is found in. -/
theorem exists_found_not_contained :
    normalize (normalize "İ") ≠ normalize "İ" ∧
      ∃ l : NameList, l.Built ∧ ∃ name ∈ l.names, normalize name ≠ name ∧
        name ∈ l.matchedNames "İ" ∧ l.contains name = false := by
  have hchanged : normalize (normalize "İ") ≠ normalize "İ" := by decide
  have hbuilt : (ofList ["İ"]).Built := .ofList ["İ"]
  have hmem : normalize "İ" ∈ (ofList ["İ"]).names := mem_ofList.mpr ⟨by decide, "İ", by decide, rfl⟩
  have hcontains : (ofList ["İ"]).contains "İ" := Std.ExtTreeSet.contains_iff_mem.mpr hmem
  refine ⟨hchanged, ofList ["İ"], hbuilt, normalize "İ", hmem, hchanged, ?_, ?_⟩
  · rw [matchedNames_of_contains hbuilt hcontains]
    exact List.mem_singleton_self _
  · rw [Bool.eq_false_iff]
    intro hcontains'
    obtain ⟨_, text, htext, heq⟩ := mem_ofList.mp (Std.ExtTreeSet.contains_iff_mem.mp hcontains')
    rw [List.mem_singleton] at htext
    subst htext
    exact hchanged heq.symm

end Roman.NameList
