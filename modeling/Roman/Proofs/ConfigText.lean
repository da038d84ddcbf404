import Roman.Config.Format
import Roman.Proofs.JsonValue
/-!
# Configurations as texts

A configuration is written with its fields, and its pool with two lists; any of these entries may be
left out. What is read in the place of an entry that is left out is what stands there in the standard
configuration, at both levels alike. So an entry that has its standard value can be left out without a
difference, and reading undoes writing.
-/

namespace Roman

/-- A field of a configuration, or a list of its pool. -/
inductive Entry
  | botName
  | typingDelay
  | namesPath
  | knownNames
  | challenge
  | numerals
  | operators
  deriving DecidableEq

namespace Entry

def key : Entry → String
  | .botName => "bot_name"
  | .typingDelay => "typing_delay_ms"
  | .namesPath => "names_path"
  | .knownNames => "known_names"
  | .challenge => "challenge"
  | .numerals => "numerals"
  | .operators => "operators"

/-- The entry has the value that it has in the standard configuration. -/
def IsStandard (c : Config) : Entry → Prop
  | .botName => c.botName = Config.standard.botName
  | .typingDelay => c.typingDelay = Config.standard.typingDelay
  | .namesPath => c.namesPath = Config.standard.namesPath
  | .knownNames => c.knownNames = Config.standard.knownNames
  | .challenge => c.challenge = Config.standard.challenge
  | .numerals => c.challenge.numerals = Config.standard.challenge.numerals
  | .operators => c.challenge.operators = Config.standard.challenge.operators

variable {α : Type} (out : Entry → Bool) (e : Entry)

/-- The member with a value, unless the entry is left out. -/
def member (value : List Char) : List (String × List Char) := if out e then [] else [(e.key, value)]

/-- What can be read of a value, unless the entry is left out. -/
def keep (v : α) : Option α := if out e then none else some v

variable {out e}

theorem getD_keep {v standard : α} (h : out e = true → v = standard) :
    (keep out e v).getD standard = v := by
  unfold keep
  split
  next hout => exact (h hout).symm
  next => rfl

end Entry

/-! ### Writing without some entries -/

variable (out : Entry → Bool)

open Json

def Json.Writer.poolWithout (p : Pool) : List Char :=
  object (Entry.numerals.member out (list (p.numerals.map numeral)) ++
    Entry.operators.member out (list (p.operators.map operator)))

def Json.Writer.configWithout (c : Config) : List Char :=
  object (Entry.botName.member out (string c.botName) ++
    Entry.typingDelay.member out (natural c.typingDelay.toNat) ++
    Entry.namesPath.member out ((c.namesPath.map string).getD null) ++
    Entry.knownNames.member out (list (c.knownNames.map string)) ++
    Entry.challenge.member out (poolWithout out c.challenge))

/-- The configuration as a JSON text, without the entries that are left out. -/
def Config.toJsonWithout (c : Config) : String := String.ofList (Json.Writer.configWithout out c)

theorem Config.toJsonWithout_nothing (c : Config) : c.toJsonWithout (fun _ => false) = c.toJson := rfl

/-! ### What is read -/

def Json.PartialPool.without (p : Pool) : PartialPool where
  numerals := Entry.numerals.keep out p.numerals
  operators := Entry.operators.keep out p.operators

def PartialConfig.without (c : Config) : PartialConfig where
  botName := Entry.botName.keep out c.botName
  typingDelay := Entry.typingDelay.keep out c.typingDelay
  namesPath := Entry.namesPath.keep out c.namesPath
  knownNames := Entry.knownNames.keep out c.knownNames
  challenge := Entry.challenge.keep out (PartialPool.without out c.challenge).complete

namespace Json

/-- An entry that has been read fills its place, and one that is left out leaves it empty. -/
theorem steps_member {α β : Type} (e : Entry) (fields : List (Reader.Field α)) (filled : Option β → α)
    {name : String} {get : α → Option β} {set : α → β → α} {value : Reader β} {cs : List Char} {v : β}
    (hfield : fields.find? (fun field => field.name = e.key) = some (.once name get set value))
    (hget : get (filled none) = none) (hset : set (filled none) v = filled (some v))
    (h : Conveys value cs v) :
    Steps (Reader.member fields) (filled none) ((e.member out cs).map Writer.member)
      (filled (e.keep out v)) := by
  unfold Entry.member Entry.keep
  split
  · exact .nil _
  · rw [← hset]
    exact .single (conveys_member hfield (conveys_once hget h))

theorem conveys_poolWithout (p : Pool) :
    Conveys Reader.pool (Writer.poolWithout out p) (PartialPool.without out p).complete := by
  have hnumerals := conveys_list fun w (_ : w ∈ p.numerals) => conveys_numeral w
  have hoperators := conveys_list fun o (_ : o ∈ p.operators) => conveys_operator o
  have hfirst := steps_member out .numerals Reader.poolFields (fun o => PartialPool.mk o none)
    rfl rfl rfl hnumerals
  have hsecond := steps_member out .operators Reader.poolFields
    (PartialPool.mk (Entry.numerals.keep out p.numerals)) rfl rfl rfl hoperators
  have hboth := hfirst.append hsecond
  rw [← List.map_append] at hboth
  exact (conveys_record hboth).map PartialPool.complete

theorem conveys_word64 (n : UInt64) : Conveys Reader.word64 (Writer.natural n.toNat) n := by
  have hread := (conveys_natural n.toNat_lt_size).map Nat.toUInt64
  rw [show n.toNat.toUInt64 = n from UInt64.ofNat_toNat] at hread
  exact hread

theorem conveys_configWithout (c : Config) :
    Conveys Reader.config (Writer.configWithout out c) (PartialConfig.without out c).complete := by
  let botName := Entry.botName.keep out c.botName
  let typingDelay := Entry.typingDelay.keep out c.typingDelay
  let namesPath := Entry.namesPath.keep out c.namesPath
  let knownNames := Entry.knownNames.keep out c.knownNames
  have hnames := conveys_list fun s (_ : s ∈ c.knownNames) => conveys_string s
  have hfirst := steps_member out .botName Reader.configFields
    (fun o => ⟨o, none, none, none, none⟩) rfl rfl rfl (conveys_string c.botName)
  have hsecond := steps_member out .typingDelay Reader.configFields
    (fun o => ⟨botName, o, none, none, none⟩) rfl rfl rfl (conveys_word64 c.typingDelay)
  have hthird := steps_member out .namesPath Reader.configFields
    (fun o => ⟨botName, typingDelay, o, none, none⟩) rfl rfl rfl (conveys_optional_string c.namesPath)
  have hfourth := steps_member out .knownNames Reader.configFields
    (fun o => ⟨botName, typingDelay, namesPath, o, none⟩) rfl rfl rfl hnames
  have hfifth := steps_member out .challenge Reader.configFields
    (PartialConfig.mk botName typingDelay namesPath knownNames) rfl rfl rfl
    (conveys_poolWithout out c.challenge)
  have hall := (((hfirst.append hsecond).append hthird).append hfourth).append hfifth
  simp only [← List.map_append] at hall
  exact (conveys_record hall).map PartialConfig.complete

end Json

namespace Config

open Json

theorem ofJson_toJsonWithout_eq (c : Config) :
    ofJson (c.toJsonWithout out) = .ok (PartialConfig.without out c).complete := by
  rw [ofJson, toJsonWithout, run_of_conveys (conveys_configWithout out c)]
  rfl

variable {out}

/-- The values for what is left out, of a configuration and of its pool, are the standard ones. -/
theorem complete_without {c : Config} (h : ∀ e, out e = true → e.IsStandard c) :
    (PartialConfig.without out c).complete = c := by
  have hpool : (PartialPool.without out c.challenge).complete = c.challenge := by
    apply Pool.ext
    · exact Entry.getD_keep (h .numerals)
    · exact Entry.getD_keep (h .operators)
  apply Config.ext
  · exact Entry.getD_keep (h .botName)
  · exact Entry.getD_keep (h .typingDelay)
  · exact Entry.getD_keep (h .namesPath)
  · exact Entry.getD_keep (h .knownNames)
  · rw [PartialConfig.complete, PartialConfig.without, hpool]
    exact Entry.getD_keep (h .challenge)

/-- **Reading undoes writing**, also when entries are left out that have their standard values, at the
top level or in the pool. -/
theorem ofJson_toJsonWithout (c : Config) :
    (∀ out : Entry → Bool, (∀ e, out e = true → e.IsStandard c) →
      ofJson (c.toJsonWithout out) = .ok c) ∧ ofJson c.toJson = .ok c := by
  have hwithout : ∀ out : Entry → Bool, (∀ e, out e = true → e.IsStandard c) →
      ofJson (c.toJsonWithout out) = .ok c := by
    intro out hstandard
    rw [ofJson_toJsonWithout_eq, complete_without hstandard]
  refine ⟨hwithout, ?_⟩
  rw [← toJsonWithout_nothing]
  exact hwithout _ fun e he => by cases he

/-- The name and the numerals are the standard ones, and the text is the shorter for it. -/
theorem ofJson_toJsonWithout_quoted :
    let c : Config := ⟨standard.botName, 0, some "a/b", ["\"Ada\"\n"], ⟨Pool.standard.numerals, [.add]⟩⟩
    let out (e : Entry) : Bool := e = .botName || e = .numerals
    (∀ e, out e = true → e.IsStandard c) ∧
      c.toJsonWithout out = "\x7b\"typing_delay_ms\":0,\"names_path\":\"a/b\"," ++
        "\"known_names\":[\"\\\"Ada\\\"\\n\"],\"challenge\":\x7b\"operators\":[\"+\"]\x7d\x7d" ∧
      ofJson (c.toJsonWithout out) = .ok c := by
  intro c out
  have hstandard : ∀ e, out e = true → e.IsStandard c := by
    intro e he
    cases e with
    | botName | numerals => rfl
    | _ => cases he
  exact ⟨hstandard, by decide, (ofJson_toJsonWithout c).1 out hstandard⟩

end Config

end Roman
