import Mathlib.Data.List.TakeWhile
import Mathlib.Data.List.Forall2
import Roman.NameList
import Roman.Proofs.LineText
/-!
# Name lists in lines

A list is read line by line, and each line is decoded on its own. Since a line feed is no part of any
other character, all lines are texts exactly if the whole is one, and then they are the lines of that
text. What a line contributes is a normal form, which is empty for a blank line and for a comment, and
empty normal forms are left out. So it makes no difference how the lines are ended, and lines that
contribute nothing can be put in anywhere.
-/

namespace Roman

namespace Lines

/-- The lines of a text, as they stand between the line feeds. -/
def ofText (text : String) : List String := (pieces (· == '\n') text.toList).map String.ofList

/-! ### The lines of a text -/

theorem ne_lineFeed_of_mem_utf8EncodeChar {c : Char} (hc : (c == '\n') = false) :
    ∀ b ∈ String.utf8EncodeChar c, (b == lineFeed) = false := by
  intro b hb
  rw [beq_eq_false_iff_ne] at hc ⊢
  rintro rfl
  exact hc (Char.toNat_inj.mp (toNat_eq_of_mem_utf8EncodeChar (by decide) hb))

/-- Encoding a text and cutting it into lines can change places. -/
theorem all_encode (text : String) : all (encode text) = (ofText text).map encode := by
  have hpieces : pieces (· == lineFeed) (text.toList.flatMap String.utf8EncodeChar)
      = (pieces (· == '\n') text.toList).map (List.flatMap String.utf8EncodeChar) := by
    apply pieces_flatMap
    · intro c _ hc
      rw [eq_of_beq hc]
      exact ⟨lineFeed, rfl, rfl⟩
    · exact fun c _ hc => ne_lineFeed_of_mem_utf8EncodeChar hc
  rw [← String.ofList_toList (s := text), encode_ofList, all, hpieces, ofText, String.toList_ofList,
    List.map_map]
  exact List.map_congr_left fun cs _ => (encode_ofList cs).symm

theorem exists_encode_intercalate (texts : List String) :
    ∃ text, encode text = [lineFeed].intercalate (texts.map encode) := by
  induction texts with
  | nil => exact ⟨"", rfl⟩
  | cons text texts ih =>
    cases texts with
    | nil => exact ⟨text, List.intercalate_singleton.symm⟩
    | cons text' texts =>
      obtain ⟨rest, hrest⟩ := ih
      refine ⟨text ++ "\n" ++ rest, ?_⟩
      rw [List.map_cons, List.map_cons, List.intercalate_cons_cons, ← List.map_cons, ← hrest, encode_append,
        encode_append]
      rfl

theorem mapM_decode_map_encode (texts : List String) :
    (texts.map encode).mapM decode = .ok texts := by
  induction texts with
  | nil => rfl
  | cons text texts ih =>
    rw [List.map_cons, List.mapM_cons, decode_encode, ih]
    rfl

theorem eq_map_encode_of_mapM_decode {lines : List Bytes} {texts : List String}
    (h : lines.mapM decode = .ok texts) : lines = texts.map encode := by
  induction lines generalizing texts with
  | nil =>
    cases h
    rfl
  | cons line lines ih =>
    rw [List.mapM_cons] at h
    obtain ⟨text, htext, h⟩ := except_bind_eq_ok h
    obtain ⟨rest, hrest, h⟩ := except_bind_eq_ok h
    cases h
    rw [List.map_cons, encode_of_decode htext, ← ih hrest]

theorem eq_invalidUtf8_of_mapM_decode {lines : List Bytes} {e : Fault}
    (h : lines.mapM decode = .error e) : e = .invalidUtf8 := by
  induction lines with
  | nil => cases h
  | cons line lines ih =>
    rw [List.mapM_cons] at h
    cases hline : decode line with
    | error e' =>
      rw [hline] at h
      cases h
      exact eq_invalidUtf8_of_decode hline
    | ok text =>
      cases hlines : lines.mapM decode with
      | error e' =>
        rw [hline, hlines] at h
        cases h
        exact ih hlines
      | ok texts =>
        rw [hline, hlines] at h
        cases h

/-- **All lines are texts** if and only if the whole is one. -/
theorem mapM_decode_all_eq_ok_iff {content : Bytes} {texts : List String} :
    (all content).mapM decode = .ok texts ↔ ∃ text, encode text = content ∧ texts = ofText text := by
  constructor
  · intro h
    have hlines := eq_map_encode_of_mapM_decode h
    obtain ⟨text, htext⟩ := exists_encode_intercalate texts
    rw [← hlines, all, intercalate_pieces] at htext
    rw [← htext, all_encode, mapM_decode_map_encode] at h
    exact ⟨text, htext, (Except.ok.inj h).symm⟩
  · rintro ⟨text, rfl, rfl⟩
    rw [all_encode, mapM_decode_map_encode]

end Lines

namespace NameList

open Name

/-! ### What a line holds -/

def IsBlank (line : String) : Prop := ∀ c ∈ line.toList, isWhite c = true

instance (line : String) : Decidable (IsBlank line) :=
  decidable_of_iff (line.toList.all isWhite = true) List.all_eq_true

/-- A line that begins with a number sign, apart from white space. -/
def isComment (line : String) : Bool := (trimEnds isWhite line.toList).head? == some '#'

theorem trimEnds_eq_nil_iff {α : Type} {p : α → Bool} {xs : List α} :
    trimEnds p xs = [] ↔ ∀ x ∈ xs, p x = true := by
  rw [trimEnds, List.reverse_eq_nil_iff]
  constructor
  · intro h
    cases hxs : xs.dropWhile p with
    | nil => exact List.dropWhile_eq_nil_iff.mp hxs
    | cons x rest =>
      have hx := head?_dropWhile xs x (by rw [hxs]; rfl)
      have hmem : x ∈ (xs.dropWhile p).reverse := List.mem_reverse.mpr (hxs ▸ List.mem_cons_self)
      rw [List.dropWhile_eq_nil_iff.mp h x hmem] at hx
      cases hx
  · intro h
    rw [List.dropWhile_eq_nil_iff.mpr h]
    rfl

theorem isEntry_eq_false_iff {line : String} : isEntry line = false ↔ IsBlank line ∨ isComment line = true := by
  rw [IsBlank, ← trimEnds_eq_nil_iff, isEntry, isComment]
  cases trimEnds isWhite line.toList with
  | nil => simp
  | cons c cs => simp

theorem normalize_of_isBlank {line : String} (h : IsBlank line) : normalize line = "" :=
  normalize_eq_empty_iff.mpr ((tokens_of_append_white (show line.toList = "".toList ++ line.toList from rfl) h))

/-- The normal form that a line contributes, which is empty if the line is no entry. -/
def entry (line : String) : String := if isEntry line then normalize line else ""

theorem entry_eq_ite_isComment (line : String) :
    entry line = if isComment line then "" else normalize line := by
  rw [entry]
  cases hentry : isEntry line with
  | true =>
    have hcomment : isComment line = false := by
      by_contra hcomment
      rw [isEntry_eq_false_iff.mpr (.inr (Bool.eq_true_of_not_eq_false hcomment))] at hentry
      cases hentry
    rw [hcomment, if_pos rfl, if_neg Bool.false_ne_true]
  | false =>
    rw [if_neg Bool.false_ne_true]
    rcases isEntry_eq_false_iff.mp hentry with hblank | hcomment
    · rw [normalize_of_isBlank hblank, ite_self]
    · rw [if_pos hcomment]

/-- What the bytes of a line contribute, if they are a text. -/
def contribution (line : Bytes) : Except Fault String := (decode line).map entry

/-- What some lines contribute, without empty normal forms. -/
def contributions (lines : List Bytes) : Except Fault (List String) :=
  (lines.mapM contribution).map (List.filter fun name => !name.isEmpty)

theorem contributions_cons (line : Bytes) (lines : List Bytes) :
    contributions (line :: lines) = contribution line >>= fun name =>
      (contributions lines).map fun names => if name.isEmpty then names else name :: names := by
  rw [contributions, contributions, List.mapM_cons]
  cases contribution line with
  | error e => rfl
  | ok name =>
    cases lines.mapM contribution with
    | error e => rfl
    | ok names =>
      rw [except_bind_ok]
      show Except.ok ((name :: names).filter fun name => !name.isEmpty) = Except.ok _
      rw [List.filter_cons]
      cases name.isEmpty <;> rfl

theorem mapM_contribution (lines : List Bytes) :
    lines.mapM contribution = (lines.mapM decode).map (List.map entry) := by
  induction lines with
  | nil => rfl
  | cons line lines ih =>
    rw [List.mapM_cons, List.mapM_cons, ih, contribution]
    cases decode line with
    | error e => rfl
    | ok text => cases lines.mapM decode <;> rfl

/-- It is enough to leave out lines that contribute nothing. -/
theorem ofList_filter {p : String → Bool}
    (hp : ∀ line, entry line = if p line then normalize line else "") (lines : List String) :
    ofList (lines.filter p) = ⟨.ofList ((lines.map entry).filter fun name => !name.isEmpty)⟩ := by
  have hnames : ((lines.filter p).map normalize).filter (fun name => !name.isEmpty)
      = (lines.map entry).filter fun name => !name.isEmpty := by
    induction lines with
    | nil => rw [List.filter_nil, List.map_nil, List.map_nil]
    | cons line lines ih =>
      rw [List.map_cons, List.filter_cons (p := p), hp line]
      cases p line with
      | true =>
        rw [if_pos rfl, if_pos rfl, List.map_cons, List.filter_cons, List.filter_cons, ih]
      | false =>
        rw [if_neg Bool.false_ne_true, if_neg Bool.false_ne_true, ih]
        exact (List.filter_cons_of_neg (by decide)).symm
  rw [ofList, hnames]

/-- **Reading a list** depends on what its lines contribute. -/
theorem ofBytes_eq_contributions (content : Bytes) :
    ofBytes content = (contributions (Lines.all content)).map fun names => ⟨.ofList names⟩ := by
  rw [ofBytes, contributions, mapM_contribution]
  cases (Lines.all content).mapM decode with
  | error e => rfl
  | ok lines => exact congrArg Except.ok (ofList_filter (fun _ => rfl) lines)

theorem ofBytes_encode (text : String) :
    ofBytes (encode text) = .ok (ofList ((Lines.ofText text).filter fun line => !isComment line)) := by
  have hcomment : ∀ line, entry line = if !isComment line then normalize line else "" := by
    intro line
    rw [entry_eq_ite_isComment]
    cases isComment line <;> rfl
  rw [ofBytes, Lines.mapM_decode_all_eq_ok_iff.mpr ⟨text, rfl, rfl⟩, except_bind_ok,
    ofList_filter (fun _ => rfl), ofList_filter hcomment]

theorem ofBytes_eq_ok_iff {content : Bytes} {l : NameList} : ofBytes content = .ok l ↔
    ∃ text, encode text = content ∧ l = ofList ((Lines.ofText text).filter fun line => !isComment line) := by
  constructor
  · intro h
    obtain ⟨lines, hlines, _⟩ := except_bind_eq_ok h
    obtain ⟨text, rfl, _⟩ := Lines.mapM_decode_all_eq_ok_iff.mp hlines
    rw [ofBytes_encode] at h
    exact ⟨text, rfl, (Except.ok.inj h).symm⟩
  · rintro ⟨text, rfl, rfl⟩
    exact ofBytes_encode text

/-! ### Lines that are ended in another way -/

def carriageReturn : UInt8 := 13

/-- The bytes with a carriage return before every line feed. -/
def withReturns (content : Bytes) : Bytes :=
  content.flatMap fun b => if b = lineFeed then [carriageReturn, lineFeed] else [b]

/-- Carriage returns are put in at the end of some lines. -/
inductive Returned : Bytes → Bytes → Prop
  | none : Returned [] []
  | last : Returned [] [carriageReturn]
  | kept {rest rest' : Bytes} (b : UInt8) (h : Returned rest rest') : Returned (b :: rest) (b :: rest')
  | ended {rest rest' : Bytes} (h : Returned rest rest') :
      Returned (lineFeed :: rest) (carriageReturn :: lineFeed :: rest')

theorem entry_append_return (text : String) : entry (text ++ "\r") = entry text := by
  have htext : (text ++ "\r").toList = text.toList ++ ['\r'] := by simp
  have hentry : isEntry (text ++ "\r") = isEntry text := by
    rw [isEntry, isEntry, htext, trimEnds_concat (by decide)]
  have htokens : tokens (text ++ "\r") = tokens text :=
    tokens_of_append_white htext (List.forall_mem_singleton.mpr (by decide))
  rw [entry, entry, hentry, Name.normalize, Name.normalize, htokens]

theorem contribution_concat_return (line : Bytes) :
    contribution (line ++ [carriageReturn]) = contribution line := by
  have hreturn : encode "\r" = [carriageReturn] := rfl
  rw [contribution, contribution, decode_concat (by decide) hreturn]
  cases decode line with
  | error e => rfl
  | ok text => exact congrArg Except.ok (entry_append_return text)

theorem all_cons_of_ne {b : UInt8} {rest line : Bytes} {lines : List Bytes} (hb : b ≠ lineFeed)
    (h : Lines.all rest = line :: lines) : Lines.all (b :: rest) = (b :: line) :: lines :=
  pieces_cons_of_neg (beq_eq_false_iff_ne.mpr hb) h

theorem all_cons_lineFeed (rest : Bytes) : Lines.all (lineFeed :: rest) = [] :: Lines.all rest :=
  pieces_cons_of_pos rfl rest

theorem Returned.forall₂_all {content other : Bytes} (h : Returned content other) :
    List.Forall₂ (fun line line' => line' = line ∨ line' = line ++ [carriageReturn])
      (Lines.all content) (Lines.all other) := by
  induction h with
  | none => exact .cons (.inl rfl) .nil
  | last => exact .cons (.inr rfl) .nil
  | @kept rest rest' b _ ih =>
    by_cases hb : b = lineFeed
    · rw [hb, all_cons_lineFeed, all_cons_lineFeed]
      exact .cons (.inl rfl) ih
    · obtain ⟨line, lines, hall⟩ : ∃ line lines, Lines.all rest = line :: lines := exists_pieces _ rest
      rw [hall] at ih
      obtain ⟨line', lines', hline, hlines, hall'⟩ := List.forall₂_cons_left_iff.mp ih
      rw [all_cons_of_ne hb hall, all_cons_of_ne hb hall']
      refine .cons ?_ hlines
      rcases hline with rfl | rfl
      · exact .inl rfl
      · exact .inr rfl
  | @ended rest rest' _ ih =>
    rw [all_cons_lineFeed, all_cons_of_ne (by decide) (all_cons_lineFeed rest')]
    exact .cons (.inr rfl) ih

theorem returned_withReturns (content : Bytes) : Returned content (withReturns content) := by
  induction content with
  | nil => exact .none
  | cons b rest ih =>
    rw [withReturns, List.flatMap_cons]
    split
    next hb =>
      subst hb
      exact .ended ih
    next => exact .kept b ih

theorem returned_concat (content : Bytes) : Returned content (content ++ [carriageReturn]) := by
  induction content with
  | nil => exact .last
  | cons b rest ih => exact .kept b ih

theorem contributions_congr {lines lines' : List Bytes}
    (h : List.Forall₂ (fun line line' => contribution line' = contribution line) lines lines') :
    contributions lines' = contributions lines := by
  induction h with
  | nil => rfl
  | cons hline _ ih => rw [contributions_cons, contributions_cons, hline, ih]

/-- **How a line is ended** makes no difference. -/
theorem ofBytes_of_returned {content other : Bytes} (h : Returned content other) :
    ofBytes other = ofBytes content := by
  rw [ofBytes_eq_contributions, ofBytes_eq_contributions]
  congr 1
  refine contributions_congr (h.forall₂_all.imp fun line line' hline => ?_)
  rcases hline with rfl | rfl
  · rfl
  · exact contribution_concat_return line

/-! ### Lines that hold no name -/

/-- A line that is a text and holds no name. -/
def IsIdle (line : Bytes) : Prop := ∃ text, encode text = line ∧ (IsBlank text ∨ isComment text = true)

/-- Lines that hold no name are put in between some lines, before and behind them. -/
inductive Interspersed : List Bytes → List Bytes → Prop
  | nil : Interspersed [] []
  | keep (line : Bytes) {lines lines' : List Bytes} (h : Interspersed lines lines') :
      Interspersed (line :: lines) (line :: lines')
  | insert {line : Bytes} {lines lines' : List Bytes} (hidle : IsIdle line)
      (h : Interspersed lines lines') : Interspersed lines (line :: lines')

theorem contribution_of_isIdle {line : Bytes} (h : IsIdle line) : contribution line = .ok "" := by
  obtain ⟨text, rfl, hidle⟩ := h
  rw [contribution, decode_encode]
  exact congrArg Except.ok (if_neg (Bool.eq_false_iff.mp (isEntry_eq_false_iff.mpr hidle)))

theorem Interspersed.contributions_eq {lines lines' : List Bytes} (h : Interspersed lines lines') :
    contributions lines' = contributions lines := by
  induction h with
  | nil => rfl
  | keep line _ ih => rw [contributions_cons, contributions_cons, ih]
  | @insert line lines lines' hidle _ ih =>
    rw [contributions_cons, contribution_of_isIdle hidle, except_bind_ok, ih]
    cases contributions lines <;> rfl

theorem ofBytes_of_interspersed {content other : Bytes}
    (h : Interspersed (Lines.all content) (Lines.all other)) : ofBytes other = ofBytes content := by
  rw [ofBytes_eq_contributions, ofBytes_eq_contributions, h.contributions_eq]

theorem interspersed_concat (lines : List Bytes) {line : Bytes} (hidle : IsIdle line) :
    Interspersed lines (lines ++ [line]) := by
  induction lines with
  | nil => exact .insert hidle .nil
  | cons first lines ih => exact .keep first ih

/-- A line feed at the end opens a line that holds nothing. -/
theorem ofBytes_concat_lineFeed (content : Bytes) : ofBytes (content ++ [lineFeed]) = ofBytes content := by
  have hall : Lines.all (content ++ [lineFeed]) = Lines.all content ++ [[]] := pieces_concat rfl content
  have hidle : IsIdle [] := ⟨"", rfl, .inl (List.forall_mem_nil _)⟩
  apply ofBytes_of_interspersed
  rw [hall]
  exact interspersed_concat _ hidle

/-! ### Lists and their lines -/

theorem ofBytes_eq_error {content : Bytes} {e : Fault} (h : ofBytes content = .error e) :
    e = .invalidUtf8 := by
  rw [ofBytes] at h
  cases hlines : (Lines.all content).mapM decode with
  | ok lines =>
    rw [hlines] at h
    cases h
  | error e' =>
    rw [hlines] at h
    cases h
    exact Lines.eq_invalidUtf8_of_mapM_decode hlines

theorem isValidUTF8_iff {content : Bytes} :
    ByteArray.IsValidUTF8 ⟨content.toArray⟩ ↔ ∃ text, encode text = content := by
  constructor
  · intro h
    exact ⟨String.fromUTF8 _ h, by simp [encode, String.fromUTF8]⟩
  · rintro ⟨text, rfl⟩
    simpa [encode] using text.isValidUTF8

/-- **Name lists in lines.** A list can be read if and only if its bytes are a text as a whole. It is then
the list of the lines of that text that are no comments. Neither the way in which lines are ended nor
blank lines and comments make a difference, to a failure as little as to a list. -/
theorem ofBytes_of_lines (content other : Bytes) :
    ((∃ l, ofBytes content = .ok l) ↔ ByteArray.IsValidUTF8 ⟨content.toArray⟩) ∧
      (∀ l, ofBytes content = .ok l ↔ ∃ text, encode text = content ∧
        l = ofList ((Lines.ofText text).filter fun line => !isComment line)) ∧
      (∀ e, ofBytes content = .error e → e = .invalidUtf8) ∧
      ofBytes (withReturns content) = ofBytes content ∧
      ofBytes (content ++ [lineFeed]) = ofBytes content ∧
      ofBytes (content ++ [carriageReturn, lineFeed]) = ofBytes content ∧
      (Interspersed (Lines.all content) (Lines.all other) → ofBytes other = ofBytes content) := by
  refine ⟨?_, fun l => ofBytes_eq_ok_iff, fun e => ofBytes_eq_error,
    ofBytes_of_returned (returned_withReturns content), ofBytes_concat_lineFeed content, ?_,
    ofBytes_of_interspersed⟩
  · rw [isValidUTF8_iff]
    constructor
    · rintro ⟨l, hl⟩
      obtain ⟨text, htext, _⟩ := ofBytes_eq_ok_iff.mp hl
      exact ⟨text, htext⟩
    · rintro ⟨text, rfl⟩
      exact ⟨_, ofBytes_encode text⟩
  · rw [List.append_cons, ofBytes_concat_lineFeed]
    exact ofBytes_of_returned (returned_concat content)

/-- A comment before the names and a blank line between them change nothing. -/
theorem ofBytes_of_lines_ada :
    let content := encode "Ada\nGrace"
    let other := encode "  # known people\nAda\n\u2003\nGrace"
    Interspersed (Lines.all content) (Lines.all other) ∧ ofBytes other = ofBytes content ∧
      ofBytes content = .ok (ofList ["Ada", "Grace"]) := by
  intro content other
  have hnames : Lines.ofText "Ada\nGrace" = ["Ada", "Grace"] := by decide +kernel
  have hothers : Lines.ofText "  # known people\nAda\n\u2003\nGrace"
      = ["  # known people", "Ada", "\u2003", "Grace"] := by decide +kernel
  have hcontent : Lines.all content = ["Ada", "Grace"].map encode := by rw [Lines.all_encode, hnames]
  have hother : Lines.all other = ["  # known people", "Ada", "\u2003", "Grace"].map encode := by
    rw [Lines.all_encode, hothers]
  have hcomment : IsIdle (encode "  # known people") := ⟨_, rfl, .inr (by decide +kernel)⟩
  have hblank : IsIdle (encode "\u2003") := ⟨_, rfl, .inl (by decide +kernel)⟩
  have hlines : Interspersed (Lines.all content) (Lines.all other) := by
    rw [hcontent, hother]
    exact .insert hcomment (.keep _ (.insert hblank (.keep _ .nil)))
  obtain ⟨_, hlist, _, _, _, _, hinterspersed⟩ := ofBytes_of_lines content other
  exact ⟨hlines, hinterspersed hlines, (hlist _).mpr ⟨_, rfl, by rw [hnames]; decide +kernel⟩⟩

end NameList

end Roman
