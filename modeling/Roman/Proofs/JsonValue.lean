import Roman.Json.Values
import Roman.Proofs.JsonText
/-!
# Reading what has been written

A text conveys a value to a reader if it spells tokens from which the reader takes the value, whatever
comes behind them. Strings, numbers, lists and records convey what they have been written from, each of
them by what its parts convey: the parts between commas update what there is, one after another, and
each of them is read with what the ones before it have left.
-/

namespace Roman.Json

variable {α β : Type}

/-! ### Taking tokens -/

/-- The reader takes these tokens and no more. -/
def Reads (reader : Reader α) (ts : List Token) (a : α) : Prop :=
  ∀ rest, reader (ts ++ rest) = .ok (a, rest)

namespace Reads

variable {reader : Reader α} {ts us : List Token} {a : α} {b : β}

theorem pure (a : α) : Reads (Pure.pure a) [] a := fun _ => rfl

theorem bind (h : Reads reader ts a) {f : α → Reader β} (hf : Reads (f a) us b) :
    Reads (reader >>= f) (ts ++ us) b := by
  intro rest
  show (reader (ts ++ us ++ rest) >>= fun taken => f taken.1 taken.2) = _
  rw [List.append_assoc, h]
  exact hf rest

theorem bind_nil (h : Reads reader ts a) {f : α → Reader β} (hf : Reads (f a) [] b) :
    Reads (reader >>= f) ts b := by
  have hboth := h.bind hf
  rw [List.append_nil] at hboth
  exact hboth

theorem map (h : Reads reader ts a) (f : α → β) : Reads (do return f (← reader)) ts (f a) :=
  h.bind_nil (.pure (f a))

theorem next (t : Token) : Reads Reader.next [t] t := fun _ => rfl

theorem expect (t : Token) : Reads (Reader.expect t) [t] () := by
  refine (next t).bind_nil ?_
  rw [if_pos rfl]
  exact .pure ()

end Reads

/-! ### Conveying values -/

/-- Whether the token closes a list or an object. -/
def Token.closes : Token → Bool
  | .closeBrace | .closeBracket => true
  | _ => false

/-- Tokens of which the first one closes nothing. -/
def Opens (ts : List Token) : Prop := ∃ t us, ts = t :: us ∧ t.closes = false

theorem Opens.append {ts : List Token} (h : Opens ts) (us : List Token) : Opens (ts ++ us) := by
  obtain ⟨t, ts, rfl, ht⟩ := h
  exact ⟨t, ts ++ us, rfl, ht⟩

def Conveys (reader : Reader α) (cs : List Char) (a : α) : Prop :=
  ∃ ts, Spells cs ts ∧ Opens ts ∧ Reads reader ts a

theorem Conveys.map {reader : Reader α} {cs : List Char} {a : α} (h : Conveys reader cs a) (f : α → β) :
    Conveys (do return f (← reader)) cs (f a) := by
  obtain ⟨ts, hspells, hopens, hreads⟩ := h
  exact ⟨ts, hspells, hopens, hreads.map f⟩

theorem run_of_conveys {reader : Reader α} {cs : List Char} {a : α} (h : Conveys reader cs a) :
    reader.run (String.ofList cs) = .ok a := by
  obtain ⟨ts, hspells, _, hreads⟩ := h
  have hall := hreads []
  rw [List.append_nil] at hall
  rw [Reader.run, tokens_of_spells hspells, hall]

/-! ### Strings -/

theorem textOfUnits?_cons (c : Char) (units : List Nat) :
    textOfUnits? (c.toNat :: units) = (textOfUnits? units).map (c :: ·) := by
  have hvalid : c.toNat < 0xD800 ∨ 0xDFFF < c.toNat ∧ c.toNat < 0x110000 := c.valid
  have hleading : isLeading c.toNat = false := by
    simp only [isLeading, Bool.and_eq_false_iff, decide_eq_false_iff_not]
    omega
  have htrailing : isTrailing c.toNat = false := by
    simp only [isTrailing, Bool.and_eq_false_iff, decide_eq_false_iff_not]
    omega
  cases units with
  | nil => simp [textOfUnits?, hleading, htrailing]
  | cons unit units => simp [textOfUnits?, hleading, htrailing]

theorem textOfUnits?_map_toNat (cs : List Char) : textOfUnits? (cs.map Char.toNat) = some cs := by
  induction cs with
  | nil => rfl
  | cons c cs ih => rw [List.map_cons, textOfUnits?_cons, ih, Option.map_some]

theorem reads_string (s : String) : Reads Reader.string [.string (s.toList.map Char.toNat)] s := by
  refine (Reads.next _).bind_nil ?_
  simp only [textOfUnits?_map_toNat, String.ofList_toList]
  exact .pure s

theorem conveys_string (s : String) : Conveys Reader.string (Writer.string s) s :=
  ⟨_, spells_string s, ⟨_, [], rfl, rfl⟩, reads_string s⟩

theorem conveys_optional_string (s : Option String) :
    Conveys (Reader.optional Reader.string) ((s.map Writer.string).getD Writer.null) s := by
  cases s with
  | none => exact ⟨_, spells_null, ⟨_, [], rfl, rfl⟩, fun _ => rfl⟩
  | some s => exact ⟨_, spells_string s, ⟨_, [], rfl, rfl⟩, (reads_string s).map some⟩

theorem conveys_named {values : List α} {nameOf : α → String} {a : α}
    (h : named? values nameOf (nameOf a) = some a) :
    Conveys (Reader.variant (named? values nameOf)) (Writer.string (nameOf a)) a := by
  refine ⟨_, spells_string _, ⟨_, [], rfl, rfl⟩, ?_⟩
  refine (Reads.next _).bind_nil ?_
  simp only [textOfUnits?_map_toNat, String.ofList_toList, h]
  exact .pure a

theorem conveys_operator (o : Operator) : Conveys Reader.operator (Writer.operator o) o :=
  conveys_named (by cases o <;> rfl)

theorem conveys_numeral (w : Numeral) : Conveys Reader.numeral (Writer.numeral w) w := by
  refine ⟨_, spells_string _, ⟨_, [], rfl, rfl⟩, ?_⟩
  refine (reads_string w.text).bind_nil ?_
  intro rest
  simp only [Numeral.parse_text]
  rfl

/-! ### Numbers -/

theorem natural?_toDigits (n : Nat) : natural? (Nat.toDigits 10 n) = some n := by
  have hdigits : (Nat.toDigits 10 n).all Char.isDigit = true := by
    rw [List.all_eq_true]
    intro c hc
    exact Nat.isDigit_of_mem_toDigits (by decide) (by decide) hc
  have hvalue : valueOfDigits (Nat.toDigits 10 n) = n := Nat.ofDigitChars_ten_toDigits
  rw [natural?, if_pos hdigits, hvalue]

theorem conveys_natural {n bound : Nat} (h : n < bound) :
    Conveys (Reader.natural bound) (Writer.natural n) n := by
  refine ⟨_, spells_natural n, ⟨_, [], rfl, rfl⟩, ?_⟩
  refine (Reads.next _).bind_nil ?_
  simp only [natural?_toDigits, if_pos h]
  exact .pure n

/-! ### Parts between separators -/

/-- One after another, the texts convey what the parts make of what there is. -/
inductive Steps (part : α → Reader α) : α → List (List Char) → α → Prop
  | nil (a : α) : Steps part a [] a
  | cons {a b c : α} {cs : List Char} {rest : List (List Char)} :
    Conveys (part a) cs b → Steps part b rest c → Steps part a (cs :: rest) c

namespace Steps

variable {part : α → Reader α} {a b c : α} {cs : List Char} {first second : List (List Char)}

theorem single (h : Conveys (part a) cs b) : Steps part a [cs] b := .cons h (.nil b)

theorem append (h : Steps part a first b) (h' : Steps part b second c) :
    Steps part a (first ++ second) c := by
  induction h with
  | nil => exact h'
  | cons hpart _ ih => exact .cons hpart (ih h')

variable {close : Token} (hclose : close.closes = true)

include hclose

theorem parts (hpart : Conveys (part a) cs b) (h : Steps part b second c) :
    ∃ ts, Spells ([','].intercalate (cs :: second)) ts ∧ Opens ts ∧
      Reads (Reader.parts close part a) (ts ++ [close]) c := by
  induction h generalizing a cs with
  | nil b =>
    obtain ⟨ts, hspells, hopens, hreads⟩ := hpart
    refine ⟨ts, ?_, hopens, ?_⟩
    · rw [List.intercalate_singleton]
      exact hspells
    · intro rest
      rw [Reader.parts, List.append_assoc, hreads]
      simp
  | @cons b d c cs' rest hnext h ih =>
    obtain ⟨ts, hspells, hopens, hreads⟩ := hpart
    obtain ⟨us, hspells', _, hreads'⟩ := ih hnext
    have hcomma : ¬ Token.comma = close := by
      intro heq
      subst heq
      cases hclose
    refine ⟨ts ++ .comma :: us, ?_, hopens.append _, ?_⟩
    · have hboth := hspells.append .comma hspells'
      simpa [List.intercalate_cons_cons] using hboth
    · intro left
      have htokens : ts ++ .comma :: us ++ [close] ++ left = ts ++ .comma :: (us ++ [close] ++ left) := by
        simp
      have hshorter : (us ++ [close] ++ left).length
          < (ts ++ .comma :: (us ++ [close] ++ left)).length := by
        simp only [List.length_append, List.length_cons]
        omega
      rw [htokens, Reader.parts, hreads]
      simp only [if_neg hcomma]
      rw [dif_pos ⟨trivial, hshorter⟩]
      exact hreads' left

/-- What is enclosed may be nothing at all. -/
theorem enclosed {closing : Char} (hmark : Mark closing close) (h : Steps part a first b) :
    ∃ ts, Spells ([','].intercalate first ++ [closing]) ts ∧
      Reads (Reader.enclosed close part a) ts b := by
  cases h with
  | nil a =>
    refine ⟨[close], Spells.nil.concat hmark, fun rest => ?_⟩
    exact if_pos rfl
  | cons hpart h =>
    obtain ⟨_, hspells, ⟨t, ts, rfl, ht⟩, hreads⟩ := h.parts hclose hpart
    refine ⟨t :: ts ++ [close], hspells.concat hmark, fun rest => ?_⟩
    have hopens : ¬ t = close := by
      intro heq
      subst heq
      cases ht.symm.trans hclose
    exact (if_neg hopens).trans (hreads rest)

end Steps

/-! ### Lists -/

theorem steps_items {item : Reader α} {write : α → List Char} {as : List α}
    (h : ∀ a ∈ as, Conveys item (write a) a) (read : List α) :
    Steps (fun read => do return (← item) :: read) read (as.map write) (as.reverse ++ read) := by
  induction as generalizing read with
  | nil => exact .nil read
  | cons a as ih =>
    obtain ⟨ha, has⟩ := List.forall_mem_cons.mp h
    rw [List.map_cons, List.reverse_cons, List.append_assoc]
    exact .cons (ha.map (· :: read)) (ih has (a :: read))

theorem conveys_list {item : Reader α} {write : α → List Char} {as : List α}
    (h : ∀ a ∈ as, Conveys item (write a) a) :
    Conveys (Reader.list item) (Writer.list (as.map write)) as := by
  obtain ⟨ts, hspells, hreads⟩ := (steps_items h []).enclosed rfl .closeBracket
  refine ⟨.openBracket :: ts, hspells.cons .openBracket, ⟨_, ts, rfl, rfl⟩, ?_⟩
  have hreversed := hreads.map List.reverse
  rw [List.append_nil, List.reverse_reverse] at hreversed
  exact (Reads.expect .openBracket).bind hreversed

/-! ### Records -/

variable {fields : List (Reader.Field α)} {a b : α}

theorem conveys_member {field : Reader.Field α} {key : String} {cs : List Char}
    (hfield : fields.find? (fun field => field.name = key) = some field)
    (h : Conveys (field.add a) cs b) :
    Conveys (Reader.member fields a) (Writer.member (key, cs)) b := by
  obtain ⟨ts, hspells, _, hreads⟩ := h
  refine ⟨_, (spells_string key).append .colon hspells, ⟨_, _, rfl, rfl⟩, ?_⟩
  refine (reads_string key).bind ((Reads.expect .colon).bind ?_)
  simp only [hfield]
  exact hreads

theorem conveys_once {name : String} {get : α → Option β} {set : α → β → α} {value : Reader β}
    {cs : List Char} {v : β} (hget : get a = none) (h : Conveys value cs v) :
    Conveys ((Reader.Field.once name get set value).add a) cs (set a v) := by
  have hadd : (Reader.Field.once name get set value).add a = do return set a (← value) := by
    simp [Reader.Field.once, hget]
  rw [hadd]
  exact h.map (set a)

theorem conveys_record {ms : List (String × List Char)}
    (h : Steps (Reader.member fields) a (ms.map Writer.member) b) :
    Conveys (Reader.record fields a) (Writer.object ms) b := by
  obtain ⟨ts, hspells, hreads⟩ := h.enclosed rfl .closeBrace
  refine ⟨.openBrace :: ts, hspells.cons .openBrace, ⟨_, ts, rfl, rfl⟩, ?_⟩
  exact (Reads.next .openBrace).bind hreads

end Roman.Json
