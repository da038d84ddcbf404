import Roman.Proofs.NameText
import Roman.Proofs.Verdict
import Roman.Session
/-!
# Lines and their text

Input is cut at line feeds, and each line is decoded on its own. A line feed is a character by itself
in every encoded text, so a line is a text with its line feed if and only if it is one without it. What
ends a line is white space and no token, so neither a name nor an answer depends on it. A conversation
can therefore be told from the texts of its lines, which are the lines of the input as they stand
between the line feeds.
-/

namespace Roman

/-! ### Characters of a single byte -/

variable {b : UInt8} {line : Bytes}

/-- A byte below 128 stands for a character by itself and is no part of any other. -/
theorem toNat_eq_of_mem_utf8EncodeChar {c : Char} (hb : b.toNat < 128)
    (h : b ∈ String.utf8EncodeChar c) : c.toNat = b.toNat := by
  have hlarge : ∀ n k, 128 ≤ k → n + k < 256 → b ≠ UInt8.ofNat (n + k) := by
    intro n k hk hsmall heq
    rw [heq, UInt8.toNat_ofNat', Nat.mod_eq_of_lt hsmall] at hb
    omega
  rw [String.utf8EncodeChar] at h
  split at h
  next hsmall =>
    rw [List.mem_singleton.mp h, UInt8.toNat_ofNat', Nat.mod_eq_of_lt (by omega)]
    rfl
  next =>
    -- Of several bytes each one is at least 128.
    exfalso
    split at h
    · simp only [List.mem_cons, List.not_mem_nil, or_false] at h
      rcases h with h | h <;> exact hlarge _ _ (by decide) (by omega) h
    · split at h
      · simp only [List.mem_cons, List.not_mem_nil, or_false] at h
        rcases h with h | h | h <;> exact hlarge _ _ (by decide) (by omega) h
      · simp only [List.mem_cons, List.not_mem_nil, or_false] at h
        rcases h with h | h | h | h <;> exact hlarge _ _ (by decide) (by omega) h

theorem utf8EncodeChar_of_toNat_eq {c : Char} (hb : b.toNat < 128) (hc : c.toNat = b.toNat) :
    String.utf8EncodeChar c = [b] := by
  have hsmall : c.val.toNat ≤ 127 := by
    rw [show c.val.toNat = b.toNat from hc]
    omega
  rw [String.utf8EncodeChar, if_pos hsmall, show c.val.toNat = b.toNat from hc, UInt8.ofNat_toNat]

theorem encode_ofList (cs : List Char) :
    encode (String.ofList cs) = cs.flatMap String.utf8EncodeChar := by
  simp [encode, String.toByteArray_ofList, List.utf8Encode]

theorem exists_of_encode_concat {text : String} (hb : b.toNat < 128) (h : encode text = line ++ [b]) :
    ∃ before, encode before = line := by
  rw [← String.ofList_toList (s := text), encode_ofList] at h
  rcases List.eq_nil_or_concat text.toList with hnil | ⟨cs, c, hconcat⟩
  · rw [hnil] at h
    simp at h
  · rw [hconcat, List.concat_eq_append, List.flatMap_append, List.flatMap_singleton] at h
    have hlast := congrArg List.getLast? h
    rw [List.getLast?_append_of_ne_nil _ String.utf8EncodeChar_ne_nil, List.getLast?_concat] at hlast
    have hc := toNat_eq_of_mem_utf8EncodeChar hb (List.mem_of_getLast? hlast)
    rw [utf8EncodeChar_of_toNat_eq hb hc] at h
    refine ⟨String.ofList cs, ?_⟩
    rw [encode_ofList]
    exact List.append_cancel_right h

theorem eq_invalidUtf8_of_decode {bytes : Bytes} {e : Fault} (h : decode bytes = .error e) :
    e = .invalidUtf8 := by
  unfold decode at h
  split at h
  · cases h
  · cases h
    rfl

/-- With a character of a single byte behind them, bytes are a text if they are one without it. -/
theorem decode_concat {ending : String} (hb : b.toNat < 128) (hending : encode ending = [b])
    (line : Bytes) : decode (line ++ [b]) = (decode line).map (· ++ ending) := by
  cases h : decode line with
  | ok text =>
    have hbytes : encode (text ++ ending) = line ++ [b] := by
      rw [encode_append, encode_of_decode h, hending]
    rw [← hbytes, decode_encode]
    rfl
  | error e =>
    cases h' : decode (line ++ [b]) with
    | ok text =>
      obtain ⟨before, hbefore⟩ := exists_of_encode_concat hb (encode_of_decode h')
      rw [← hbefore, decode_encode] at h
      cases h
    | error e' =>
      rw [eq_invalidUtf8_of_decode h, eq_invalidUtf8_of_decode h']
      rfl

theorem decode_concat_lineFeed (line : Bytes) :
    decode (line ++ [lineFeed]) = (decode line).map (· ++ "\n") :=
  decode_concat (by decide) rfl line

/-! ### Lines of the input -/

/-- A line as it reaches the conversation. -/
inductive Line
  /-- The input has ended. -/
  | missing
  /-- The bytes encode no text. -/
  | garbled
  | text (said : String)

namespace Line

def ofBytes (line : Bytes) : Line :=
  match decode line with
  | .ok said => .text said
  | .error _ => .garbled

/-- What the conversation makes of a line. -/
def heard : Line → Except SessionError String
  | .missing => .error .endOfInput
  | .garbled => .error (.io .invalidUtf8)
  | .text said => .ok (Host.withoutLineEnd said)

/-- A line is a text if and only if its bytes encode one. -/
theorem ofBytes_eq_text_iff {line : Bytes} {said : String} :
    ofBytes line = .text said ↔ encode said = line := by
  constructor
  · intro h
    unfold ofBytes at h
    split at h
    next hdecode =>
      cases h
      exact encode_of_decode hdecode
    next => cases h
  · intro h
    rw [← h, ofBytes, decode_encode]

theorem heard_ofBytes {line : Bytes} (hne : line ≠ []) : Host.heard (.ok line) = (ofBytes line).heard := by
  obtain ⟨b, rest, rfl⟩ := List.exists_cons_of_ne_nil hne
  rw [ofBytes, Host.heard]
  cases h : decode (b :: rest) with
  | ok said => rfl
  | error e => rw [eq_invalidUtf8_of_decode h, heard]

theorem withoutLineEnd_append_newline (text : String) :
    Host.withoutLineEnd (text ++ "\n") = Host.withoutLineEnd text := by
  simp [Host.withoutLineEnd]

theorem heard_concat_lineFeed (line : Bytes) :
    (ofBytes (line ++ [lineFeed])).heard = (ofBytes line).heard := by
  rw [ofBytes, ofBytes, decode_concat_lineFeed]
  cases decode line with
  | ok said => simp [Except.map, heard, withoutLineEnd_append_newline]
  | error e => rfl

end Line

namespace Lines

/-- The lines of the input without their line feeds. The last one may have none, and behind a last line
feed there is no line any more. -/
def given (input : Bytes) : List Bytes :=
  if (all input).getLast? = some [] then (all input).dropLast else all input

def nth (input : Bytes) (n : Nat) : Line :=
  match (given input)[n]? with
  | some line => .ofBytes line
  | none => .missing

theorem nth_eq_text {input : Bytes} {n : Nat} {said : String}
    (h : (given input)[n]? = some (encode said)) : nth input n = .text said := by
  rw [nth, h]
  exact Line.ofBytes_eq_text_iff.mpr rfl

theorem given_of_notMem {line : Bytes} (hne : line ≠ []) (h : lineFeed ∉ line) : given line = [line] := by
  have hall : all line = [line] := pieces_of_none fun b hb => by
    have hb : b ≠ lineFeed := fun heq => h (heq ▸ hb)
    simp [hb]
  simp [given, hall, hne]

theorem given_append_cons {line : Bytes} (h : lineFeed ∉ line) (later : Bytes) :
    given (line ++ lineFeed :: later) = line :: given later := by
  have hall : all (line ++ lineFeed :: later) = line :: all later := by
    apply pieces_append_cons
    · intro b hb
      have hb : b ≠ lineFeed := fun heq => h (heq ▸ hb)
      simp [hb]
    · simp
  have hne : all later ≠ [] := pieces_ne_nil later
  obtain ⟨first, rest, hlater⟩ := List.exists_cons_of_ne_nil hne
  rw [given, given, hall, hlater, List.getLast?_cons_cons, List.dropLast_cons_cons]
  split <;> rfl

theorem cut_of_notMem {line : Bytes} (h : lineFeed ∉ line) : cut line = (line, []) := by
  induction line with
  | nil => rfl
  | cons b rest ih =>
    obtain ⟨hb, hrest⟩ := List.ne_and_not_mem_of_not_mem_cons h
    rw [cut, if_neg hb.symm, ih hrest]

theorem cut_append_cons {line : Bytes} (h : lineFeed ∉ line) (later : Bytes) :
    cut (line ++ lineFeed :: later) = (line ++ [lineFeed], later) := by
  induction line with
  | nil => simp [cut]
  | cons b rest ih =>
    obtain ⟨hb, hrest⟩ := List.ne_and_not_mem_of_not_mem_cons h
    rw [List.cons_append, cut, if_neg hb.symm, ih hrest]
    rfl

/-- The input has ended, or its last line has begun, or a line is ended by a line feed. -/
theorem input_cases (input : Bytes) : input = [] ∨ (input ≠ [] ∧ lineFeed ∉ input) ∨
    ∃ line later, lineFeed ∉ line ∧ input = line ++ lineFeed :: later := by
  by_cases hmem : lineFeed ∈ input
  · obtain ⟨line, later, hinput, hline⟩ := List.eq_append_cons_of_mem hmem
    exact .inr (.inr ⟨line, later, hline, hinput⟩)
  · by_cases hne : input = []
    · exact .inl hne
    · exact .inr (.inl ⟨hne, hmem⟩)

theorem nth_cut (input : Bytes) (n : Nat) : nth (cut input).2 n = nth input (n + 1) := by
  unfold nth
  rcases input_cases input with rfl | ⟨hne, hmem⟩ | ⟨line, later, hline, rfl⟩
  · simp [cut, given, all, pieces]
  · rw [cut_of_notMem hmem, given_of_notMem hne hmem]
    simp [given, all, pieces]
  · rw [cut_append_cons hline, given_append_cons hline, List.getElem?_cons_succ]

/-- **What is heard of a line** does not depend on how it is ended. -/
theorem heard_cut (input : Bytes) : Host.heard (.ok (cut input).1) = (nth input 0).heard := by
  unfold nth
  rcases input_cases input with rfl | ⟨hne, hmem⟩ | ⟨line, later, hline, rfl⟩
  · rfl
  · rw [cut_of_notMem hmem, given_of_notMem hne hmem]
    exact Line.heard_ofBytes hne
  · rw [cut_append_cons hline, given_append_cons hline, Line.heard_ofBytes (by simp)]
    exact Line.heard_concat_lineFeed line

end Lines

/-! ### The end of a line -/

namespace Host

theorem exists_withoutLineEnd (text : String) : ∃ ending, (∀ c ∈ ending, c = '\r' ∨ c = '\n') ∧
    text.toList = (withoutLineEnd text).toList ++ ending := by
  let isEnding : Char → Bool := fun c => c == '\r' || c == '\n'
  refine ⟨(text.toList.reverse.takeWhile isEnding).reverse, ?_, ?_⟩
  · intro c hc
    have hending := List.mem_takeWhile_imp (List.mem_reverse.mp hc)
    simpa [isEnding] using hending
  · rw [withoutLineEnd, String.toList_ofList, ← List.reverse_append]
    rw [List.takeWhile_append_dropWhile, List.reverse_reverse]

theorem kept_withoutLineEnd (text : String) :
    Expression.kept (withoutLineEnd text) = Expression.kept text := by
  obtain ⟨ending, hending, htext⟩ := exists_withoutLineEnd text
  have hnone : ending.filter (fun c => (Token.ofChar? c).isSome) = [] := by
    rw [List.filter_eq_nil_iff]
    intro c hc
    rcases hending c hc with rfl | rfl
    · decide
    · decide
  rw [Expression.kept, Expression.kept, htext, List.filter_append, hnone, List.append_nil]

theorem judge_withoutLineEnd (c : Challenge) (answer : String) :
    c.judge (withoutLineEnd answer) = c.judge answer := by
  rw [Challenge.judge, Challenge.judge,
    Expression.evaluateLenient_congr (kept_withoutLineEnd answer)]

theorem tokens_withoutLineEnd (text : String) : Name.tokens (withoutLineEnd text) = Name.tokens text := by
  obtain ⟨ending, hending, htext⟩ := exists_withoutLineEnd text
  refine (Name.tokens_of_append_white htext fun c hc => ?_).symm
  rcases hending c hc with rfl | rfl
  · decide
  · decide

theorem normalize_withoutLineEnd (text : String) :
    Name.normalize (withoutLineEnd text) = Name.normalize text := by
  rw [Name.normalize, Name.normalize, tokens_withoutLineEnd]

theorem matchedNames_withoutLineEnd (l : NameList) (text : String) :
    l.matchedNames (withoutLineEnd text) = l.matchedNames text := by
  rw [NameList.matchedNames, NameList.matchedNames, tokens_withoutLineEnd]

end Host

end Roman
