import Roman.Proofs.LineText
import Roman.Proofs.NameSearch
import Roman.Proofs.Session
/-!
# What a conversation shows

On a tape that takes everything, a conversation is determined by the two lines it hears. It shows its
greeting; behind a first line that is a text, the welcome and the question; and behind a second one the
verdict. A line that is missing or no text is the end, and what has been shown by then stays.

The transcript is written out here line by line, and what the host says comes to these lines. Neither the
pause between two characters nor what stands behind the second line makes a difference.
-/

namespace Roman

open Exchange

namespace Exchange

variable {σ ε α β : Type}

theorem run_bind_of_error {x : Exchange ε σ α} {f : α → Exchange ε σ β} {s s' : σ} {e : ε}
    (h : x.run s = (.error e, s')) : (x >>= f).run s = (.error e, s') := by
  rw [run_bind, h]

end Exchange

namespace Host

/-! ### What is shown, and how it ends -/

variable (botName : String) (names : NameList) (c : Challenge)

def opening : String := shown botName ("Hello! I'm " ++ botName ++ ". What's your name?")

def nameLine : Option String → String
  | some name => "Nice to meet you, " ++ Name.titleCase name ++ "!"
  | none => "Nice to meet you, stranger."

def sign : Operator → String
  | .add => "+"
  | .subtract => "-"

/-- The two operands with the operator between them. -/
def asked : String := c.left.text ++ " " ++ sign c.operator ++ " " ++ c.right.text

/-- What is shown when the first line has been heard. -/
def introduction (reply : String) : String :=
  shown botName (nameLine (names.matchedNames reply).head?) ++
    shown botName ("Quick question: what is " ++ asked c ++ "?")

def verdictLine : Verdict → String
  | .pass => "Correct! " ++ asked c ++ " is " ++ c.expected.text ++ "."
  | .fail .. => "Sorry, that's not right. " ++ asked c ++ " is " ++ c.expected.text ++ ". Goodbye."

/-- What is shown when the second line has been heard, if it is a text. -/
def conclusion : Line → String
  | .text answer => shown botName (verdictLine c (c.judge answer))
  | .missing | .garbled => ""

/-- Everything that is shown in a conversation in which two lines are heard. -/
def transcript : Line → Line → String
  | .text reply, second =>
    opening botName ++ (introduction botName names c reply ++ conclusion botName c second)
  | .missing, _ | .garbled, _ => opening botName

/-- How a conversation ends in which two lines are heard. -/
def ending : Line → Line → Except SessionError SessionOutcome
  | .text reply, .text answer =>
    .ok ⟨Name.normalize reply, (names.matchedNames reply).head?, c.judge answer⟩
  | .text _, .missing | .missing, _ => .error .endOfInput
  | .text _, .garbled | .garbled, _ => .error (.io .invalidUtf8)

variable {names c} {first second : Line}

variable (h : Host) (c)

/-! ### What the host says -/

theorem welcome_eq_nameLine (known : Option String) : welcome known = nameLine known := by
  cases known with
  | none => rfl
  | some name => rfl

theorem prompt_eq_asked : c.prompt = asked c := by
  have hsign : toString c.operator = sign c.operator := by
    cases c.operator with
    | add => rfl
    | subtract => rfl
  rw [Challenge.prompt, hsign, asked]

theorem question_eq_asked : question c = "Quick question: what is " ++ asked c ++ "?" :=
  congrArg (fun prompt => "Quick question: what is " ++ prompt ++ "?") (prompt_eq_asked c)

theorem farewell_eq_verdictLine (answer : String) :
    farewell c (c.judge answer) = verdictLine c (c.judge answer) := by
  cases hverdict : c.judge answer with
  | pass =>
    show "Correct! " ++ c.prompt ++ " is " ++ c.expected.text ++ "." = _
    rw [prompt_eq_asked]
    rfl
  | fail expected given =>
    show "Sorry, that's not right. " ++ c.prompt ++ " is " ++ expected.text ++ ". Goodbye." = _
    rw [prompt_eq_asked, Challenge.eq_expected_of_judge hverdict]
    rfl

/-! ### Hearing a line -/

theorem hear_run (t : Tape) : (hear : Exchange SessionError Tape String).run t
    = ((Lines.nth t.input 0).heard, { t with input := (Lines.cut t.input).2 }) := by
  rw [← Lines.heard_cut]
  rfl

/-! ### The two halves of a conversation -/

/-- The conversation behind the first line. -/
def followUp (reply : String) : Exchange SessionError Tape SessionOutcome := do
  h.say (welcome (h.names.matchedNames reply).head?)
  h.say (question c)
  let answer ← hear
  h.say (farewell c (c.judge answer))
  return ⟨Name.normalize reply, (h.names.matchedNames reply).head?, c.judge answer⟩

theorem run_eq_followUp : (h.run c : Exchange SessionError Tape SessionOutcome)
    = h.say h.greeting >>= fun _ => hear >>= h.followUp c :=
  rfl

theorem followUp_withoutLineEnd (reply : String) :
    h.followUp c (withoutLineEnd reply) = h.followUp c reply := by
  unfold followUp
  rw [matchedNames_withoutLineEnd, normalize_withoutLineEnd]

variable {t : Tape} (hunlimited : t.flushLimit = none) (hpending : t.pending = "")

include hunlimited hpending

theorem followUp_run (reply : String) : ∃ t',
    (h.followUp c reply).run t = (ending h.names c (.text reply) (Lines.nth t.input 0), t') ∧
      t'.output = t.output ++
        (introduction h.botName h.names c reply ++ conclusion h.botName c (Lines.nth t.input 0)) ∧
      t'.pending = "" := by
  obtain ⟨t₁, hwelcome, hshown⟩ := Tape.say_run hunlimited hpending h
    (welcome (h.names.matchedNames reply).head?)
  obtain ⟨t₂, hquestion, hasked⟩ := Tape.say_run hshown.unlimited hshown.pending h (question c)
  have hintroduced := hshown.append hasked
  rw [welcome_eq_nameLine, question_eq_asked] at hintroduced
  have hheard := hear_run t₂
  rw [hintroduced.input] at hheard
  rw [followUp, run_bind_of_ok hwelcome, run_bind_of_ok hquestion]
  cases hline : Lines.nth t.input 0 with
  | missing | garbled =>
    rw [hline] at hheard
    refine ⟨_, run_bind_of_error hheard, ?_, hintroduced.pending⟩
    rw [conclusion, String.append_empty]
    exact hintroduced.output
  | text answer =>
    rw [hline] at hheard
    obtain ⟨t₃, hfarewell, hended⟩ := Tape.say_run
      (t := { t₂ with input := (Lines.cut t.input).2 }) hintroduced.unlimited hintroduced.pending h
      (farewell c (c.judge answer))
    refine ⟨t₃, ?_, ?_, hended.pending⟩
    · rw [run_bind_of_ok hheard, judge_withoutLineEnd, run_bind_of_ok hfarewell]
      rfl
    · have hbefore : ({ t₂ with input := (Lines.cut t.input).2 } : Tape).output
          = t.output ++ introduction h.botName h.names c reply := hintroduced.output
      rw [hended.output, hbefore, farewell_eq_verdictLine, String.append_assoc]
      rfl

/-- **A whole conversation** on a tape that takes everything. -/
theorem run_tape : ∃ t',
    (h.run c : Exchange SessionError Tape SessionOutcome).run t
        = (ending h.names c (Lines.nth t.input 0) (Lines.nth t.input 1), t') ∧
      t'.output = t.output ++ transcript h.botName h.names c (Lines.nth t.input 0) (Lines.nth t.input 1) ∧
      t'.pending = "" := by
  obtain ⟨t₁, hgreeting, hshown⟩ := Tape.say_run hunlimited hpending h h.greeting
  have hheard := hear_run t₁
  rw [hshown.input] at hheard
  rw [run_eq_followUp, run_bind_of_ok hgreeting]
  cases hline : Lines.nth t.input 0 with
  | missing | garbled =>
    rw [hline] at hheard
    exact ⟨_, run_bind_of_error hheard, hshown.output, hshown.pending⟩
  | text reply =>
    rw [hline] at hheard
    obtain ⟨t₂, hfollowed, houtput, hpassed⟩ := h.followUp_run c
      (t := { t₁ with input := (Lines.cut t.input).2 }) hshown.unlimited hshown.pending reply
    rw [Lines.nth_cut] at hfollowed houtput
    refine ⟨t₂, ?_, ?_, hpassed⟩
    · rw [run_bind_of_ok hheard, followUp_withoutLineEnd, hfollowed]
    · have hbefore : ({ t₁ with input := (Lines.cut t.input).2 } : Tape).output
          = t.output ++ opening h.botName := hshown.output
      rw [houtput, hbefore, String.append_assoc]
      rfl

omit hunlimited hpending

theorem run_ofInput (input : Bytes) : ∃ t,
    (h.run c : Exchange SessionError Tape SessionOutcome).run (Tape.ofInput input none)
        = (ending h.names c (Lines.nth input 0) (Lines.nth input 1), t) ∧
      t.output = transcript h.botName h.names c (Lines.nth input 0) (Lines.nth input 1) ∧
      t.pending = "" := by
  obtain ⟨t, hrun, houtput, hpassed⟩ := h.run_tape c (t := Tape.ofInput input none) rfl rfl
  exact ⟨t, hrun, houtput.trans String.empty_append, hpassed⟩

end Host

end Roman
