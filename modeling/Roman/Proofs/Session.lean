import Roman.CommandLine.Desk
import Roman.Proofs.Pool
/-!
# How a conversation ends

A conversation goes on only while the console does what it is asked to do, so whatever the console is,
a conversation about a challenge that has been worked out ends with an outcome or with a failure of the
console. A conversation about a challenge that is drawn can end in one more way: the draw gives none,
the host says so, and the failure of the draw is the end.

What a host says is shown in full by a tape that takes everything, whether it is written as a whole or
character by character.
-/

namespace Roman

/-- What passes over a console that holds a state, up to a failure. -/
abbrev Exchange (ε σ α : Type) := ExceptT ε (StateM σ) α

namespace Exchange

variable {σ ε ε' α β : Type}

theorem run_bind (x : Exchange ε σ α) (f : α → Exchange ε σ β) (s : σ) :
    (x >>= f).run s = match x.run s with
      | (.ok a, s') => (f a).run s'
      | (.error e, s') => (.error e, s') := by
  show ExceptT.bindCont f (x.run s).1 (x.run s).2 = _
  rcases x.run s with ⟨_ | _, _⟩ <;> rfl

theorem run_bind_of_ok {x : Exchange ε σ α} {f : α → Exchange ε σ β} {s s' : σ} {a : α}
    (h : x.run s = (.ok a, s')) : (x >>= f).run s = (f a).run s' := by
  rw [run_bind, h]

theorem run_adapt (f : ε → ε') (x : Exchange ε σ α) (s : σ) :
    (ExceptT.adapt f x : Exchange ε' σ α).run s = ((x.run s).1.mapError f, (x.run s).2) :=
  rfl

end Exchange

open Console Exchange

/-- What is shown of something that is said: the name of the bot stands in front of it, and the line is
ended. -/
def Host.shown (botName said : String) : String := botName ++ ": " ++ said ++ "\n"

/-! ### A tape that takes everything -/

namespace Tape

variable {t t' : Tape} {a b : String}

/-- The second tape is the first one behind a text that has been passed on in full. -/
structure Shows (text : String) (t t' : Tape) : Prop where
  output : t'.output = t.output ++ text
  input : t'.input = t.input
  pending : t'.pending = ""
  unlimited : t'.flushLimit = none

theorem Shows.refl (hunlimited : t.flushLimit = none) (hpending : t.pending = "") : Shows "" t t :=
  ⟨String.append_empty.symm, rfl, hpending, hunlimited⟩

theorem Shows.append {t'' : Tape} (h : Shows a t t') (h' : Shows b t' t'') : Shows (a ++ b) t t'' where
  output := by rw [h'.output, h.output, String.append_assoc]
  input := h'.input.trans h.input
  pending := h'.pending
  unlimited := h'.unlimited

/-- A character with the pause behind it. -/
def typeChar (delay : UInt64) (c : Char) : Exchange Fault Tape Unit := do
  put c.toString
  ExceptT.lift (pause delay)

variable (hunlimited : t.flushLimit = none) (hpending : t.pending = "")

include hunlimited hpending

theorem put_run (text : String) :
    ∃ t', (put text : Exchange Fault Tape Unit).run t = (.ok (), t') ∧ Shows text t t' := by
  obtain ⟨input, flushed, pending, limit⟩ := t
  cases hunlimited
  cases hpending
  refine ⟨⟨input, ("" ++ text) :: flushed, "", none⟩, rfl, ?_, rfl, rfl, rfl⟩
  simp [output, String.join_append]

theorem forM_typeChar_run (delay : UInt64) (cs : List Char) :
    ∃ t', (cs.forM (typeChar delay)).run t = (.ok (), t') ∧ Shows (String.ofList cs) t t' := by
  induction cs generalizing t with
  | nil => exact ⟨t, rfl, .refl hunlimited hpending⟩
  | cons c cs ih =>
    obtain ⟨t₁, hput, hfirst⟩ := put_run hunlimited hpending c.toString
    obtain ⟨t₂, hrest, hshows⟩ := ih hfirst.unlimited hfirst.pending
    have htyped : (typeChar delay c).run t = (.ok (), t₁) := by
      rw [typeChar, run_bind_of_ok hput]
      rfl
    refine ⟨t₂, (run_bind_of_ok htyped).trans hrest, ?_⟩
    have htext : String.ofList (c :: cs) = c.toString ++ String.ofList cs := by
      apply String.toList_inj.mp
      simp
    rw [htext]
    exact hfirst.append hshows

/-- The pause between two characters makes no difference to what is shown. -/
theorem typeLine_run (delay : UInt64) (text : String) :
    ∃ t', (typeLine delay text : Exchange Fault Tape Unit).run t = (.ok (), t') ∧
      Shows (text ++ "\n") t t' := by
  unfold typeLine
  split
  · exact put_run hunlimited hpending _
  · obtain ⟨t₁, htyped, hshows⟩ := forM_typeChar_run hunlimited hpending delay text.toList
    obtain ⟨t₂, hend, hshown⟩ := put_run hshows.unlimited hshows.pending "\n"
    refine ⟨t₂, (run_bind_of_ok htyped).trans hend, ?_⟩
    rw [String.ofList_toList] at hshows
    exact hshows.append hshown

theorem say_run (h : Host) (said : String) :
    ∃ t', (h.say said : Exchange SessionError Tape Unit).run t = (.ok (), t') ∧
      Shows (Host.shown h.botName said) t t' := by
  obtain ⟨t', htyped, hshows⟩ := typeLine_run hunlimited hpending h.typingDelay (h.line said)
  refine ⟨t', ?_, hshows⟩
  rw [Host.say, run_adapt, htyped]
  rfl

end Tape

/-! ### Failures of the console -/

/-- The console is at fault, and no challenge is. -/
def SessionError.FromConsole (e : SessionError) : Prop := ∀ cause, e ≠ .challenge cause

variable {σ : Type} {α β : Type}

/-- Whatever state the console is in, every failure of the action is a failure of the console. -/
def FailsByConsole (x : Exchange SessionError σ α) : Prop :=
  ∀ s e, (x.run s).1 = .error e → e.FromConsole

theorem FailsByConsole.pure (a : α) :
    FailsByConsole (Pure.pure a : Exchange SessionError σ α) := by
  intro s e h
  cases h

theorem FailsByConsole.bind {x : Exchange SessionError σ α}
    {f : α → Exchange SessionError σ β} (hx : FailsByConsole x) (hf : ∀ a, FailsByConsole (f a)) :
    FailsByConsole (x >>= f) := by
  intro s e h
  rw [run_bind] at h
  match hrun : x.run s with
  | (.ok a, s') =>
    rw [hrun] at h
    exact hf a s' e h
  | (.error e', s') =>
    rw [hrun] at h
    cases h
    exact hx s e (by rw [hrun])

namespace Host

variable [Console (StateM σ)] (h : Host)

theorem failsByConsole_say (said : String) :
    FailsByConsole (h.say said : Exchange SessionError σ Unit) := by
  intro s e hfails
  rw [say, run_adapt] at hfails
  cases hline : ((typeLine h.typingDelay (h.line said) : Exchange Fault σ Unit).run s).1 with
  | ok _ =>
    rw [hline] at hfails
    cases hfails
  | error fault =>
    rw [hline] at hfails
    cases hfails
    exact fun _ heq => by cases heq

theorem fromConsole_of_heard {read : Except Fault Bytes} {e : SessionError}
    (hfails : heard read = .error e) : e.FromConsole := by
  intro cause heq
  subst heq
  unfold heard at hfails
  split at hfails
  · cases hfails
  · cases hfails
  · split at hfails <;> cases hfails

theorem failsByConsole_hear : FailsByConsole (hear : Exchange SessionError σ String) := by
  intro s e hfails
  exact fromConsole_of_heard hfails

/-- A conversation about a challenge fails only as far as the console does. -/
theorem failsByConsole_run (c : Challenge) :
    FailsByConsole (h.run c : Exchange SessionError σ SessionOutcome) := by
  refine (h.failsByConsole_say _).bind fun _ => failsByConsole_hear.bind fun _ => ?_
  refine (h.failsByConsole_say _).bind fun _ => (h.failsByConsole_say _).bind fun _ => ?_
  exact failsByConsole_hear.bind fun _ => (h.failsByConsole_say _).bind fun _ => .pure _

/-! ### Challenges that are drawn -/

variable {g : Generator} {source : WordSource} {cause : ChallengeError}

theorem failsByConsole_runGenerated {c : Challenge} (hc : (g.generate source).1 = .ok c) :
    FailsByConsole (h.runGenerated g source : Exchange SessionError σ SessionOutcome) := by
  unfold runGenerated
  rw [hc]
  exact h.failsByConsole_run c

theorem runGenerated_of_error (hcause : (g.generate source).1 = .error cause) (s : σ) :
    (h.runGenerated g source : Exchange SessionError σ SessionOutcome).run s
      = match (h.say (apology cause) : Exchange SessionError σ Unit).run s with
        | (.ok _, s') => (.error (.challenge cause), s')
        | (.error e, s') => (.error e, s') := by
  have hthrow : (h.runGenerated g source : Exchange SessionError σ SessionOutcome)
      = h.say (apology cause) >>= fun _ => throw (.challenge cause) := by
    unfold runGenerated
    rw [hcause]
  rw [hthrow, run_bind]
  rcases (h.say (apology cause) : Exchange SessionError σ Unit).run s with ⟨_ | _, _⟩ <;> rfl

/-- The failure of a draw is the end of a conversation as soon as the host could tell it. -/
theorem runGenerated_challenge_iff {s : σ} :
    ((h.runGenerated g source : Exchange SessionError σ SessionOutcome).run s).1
        = .error (.challenge cause) ↔
      (g.generate source).1 = .error cause ∧
        ((h.say (apology cause) : Exchange SessionError σ Unit).run s).1 = .ok () := by
  cases hdraw : (g.generate source).1 with
  | ok c =>
    have hnever := h.failsByConsole_runGenerated hdraw s (.challenge cause)
    exact ⟨fun hend => absurd rfl (hnever hend cause), fun hboth => by cases hboth.1⟩
  | error e =>
    rw [h.runGenerated_of_error hdraw]
    match hsaid : (h.say (apology e) : Exchange SessionError σ Unit).run s with
    | (.ok _, s') =>
      constructor
      · intro hend
        cases hend
        exact ⟨rfl, by rw [hsaid]⟩
      · rintro ⟨heq, _⟩
        cases heq
        rfl
    | (.error e', s') =>
      have hconsole : e'.FromConsole := h.failsByConsole_say (apology e) s e' (by rw [hsaid])
      constructor
      · intro hend
        cases hend
        exact absurd rfl (hconsole cause)
      · rintro ⟨heq, hok⟩
        cases heq
        rw [hsaid] at hok
        cases hok

/-- On a tape that takes everything, the apology is all that is said. -/
theorem runGenerated_ofInput (hcause : (g.generate source).1 = .error cause) (input : Bytes) :
    ∃ t, (h.runGenerated g source : Exchange SessionError Tape SessionOutcome).run (Tape.ofInput input none)
        = (.error (.challenge cause), t) ∧ t.output = shown h.botName (apology cause) := by
  have hunlimited : (Tape.ofInput input none).flushLimit = none := rfl
  obtain ⟨t, hsaid, hshows⟩ := Tape.say_run hunlimited rfl h (apology cause)
  refine ⟨t, ?_, hshows.output.trans String.empty_append⟩
  rw [h.runGenerated_of_error hcause, hsaid]

end Host

namespace Config

open Numeral

/-- **A configuration that has been checked** has a generator, whose draws fail only over a numeral that
is not convertible. If there is none in the pool, every draw gives a question and no conversation, on
whatever console, ends for want of one; if there is one, some draw fails and the conversation ends with
the apology. -/
theorem generates_of_validate {c : Config} (hvalid : c.validate = .ok ()) :
    ∃ g, c.generator = .ok g ∧ g.toPool = c.challenge ∧
      (∀ source e, (g.generate source).1 = .error e → e = .numeral .insufficientMagnitude) ∧
      ((∀ w ∈ c.challenge.numerals, Convertible w) →
        (∀ source, ∃ asked, (g.generate source).1 = .ok asked) ∧
          ∀ (σ : Type) [Console (StateM σ)] names source (s : σ) cause,
            (((Host.ofConfig c names).runGenerated g source :
              Exchange SessionError σ SessionOutcome).run s).1 ≠ .error (.challenge cause)) ∧
      (c.challenge.numerals.length ≤ UInt32.size → ∀ w ∈ c.challenge.numerals, ¬ Convertible w →
        ∃ source, (g.generate source).1 = .error (.numeral .insufficientMagnitude) ∧
          ∀ names input, ∃ t,
            ((Host.ofConfig c names).runGenerated g source :
              Exchange SessionError Tape SessionOutcome).run (Tape.ofInput input none)
                = (.error (.challenge (.numeral .insufficientMagnitude)), t) ∧
            t.output = Host.shown c.botName ("Something went wrong: Numeral error: " ++
              "Insufficient magnitude: minuend is smaller than subtrahend. Goodbye.")) := by
  obtain ⟨g, hg, hpool⟩ := exists_generator hvalid
  refine ⟨g, hg, hpool, fun source e => g.generate_error, ?_, ?_⟩
  · rw [← hpool]
    intro hall
    refine ⟨g.exists_generate_ok hall, fun σ _ names source s cause hend => ?_⟩
    obtain ⟨asked, hasked⟩ := g.exists_generate_ok hall source
    have hfails := ((Host.ofConfig c names).runGenerated_challenge_iff.mp hend).1
    cases hasked.symm.trans hfails
  · rw [← hpool]
    intro hsize w hmem hw
    obtain ⟨source, hfails⟩ := g.exists_generate_error hsize hmem hw
    refine ⟨source, hfails, fun names input => ?_⟩
    obtain ⟨t, hrun, houtput⟩ := (Host.ofConfig c names).runGenerated_ofInput hfails input
    have happology : Host.apology (.numeral .insufficientMagnitude)
        = "Something went wrong: Numeral error: " ++
          "Insufficient magnitude: minuend is smaller than subtrahend. Goodbye." := by decide
    exact ⟨t, hrun, happology ▸ houtput⟩

theorem generates_of_validate_standard :
    standard.validate = .ok () ∧ (∀ w ∈ standard.challenge.numerals, Convertible w) ∧
      ∃ g, standard.generator = .ok g ∧ (∀ source, ∃ asked, (g.generate source).1 = .ok asked) ∧
        ∀ names source (t : Tape) cause,
          (((Host.ofConfig standard names).runGenerated g source :
            Exchange SessionError Tape SessionOutcome).run t).1 ≠ .error (.challenge cause) := by
  have hvalid : standard.validate = .ok () := by decide
  have hall : ∀ w ∈ standard.challenge.numerals, Convertible w := fun _ =>
    Pool.convertible_of_mem_defaultNumerals
  obtain ⟨g, hg, _, _, hasks, _⟩ := generates_of_validate hvalid
  obtain ⟨hdraws, hends⟩ := hasks hall
  exact ⟨hvalid, hall, g, hg, hdraws, hends Tape⟩

/-- The check lets a pool pass that gives no question at all: one of its two numerals is not
convertible. -/
theorem validate_passes_barren_pool :
    let c : Config := { standard with challenge := ⟨[[.V, .V, .I, .X], [.I]], [.subtract]⟩ }
    c.validate = .ok () ∧ ∃ g, c.generator = .ok g ∧ ∀ source,
      (g.generate source).1 = .error (.numeral .insufficientMagnitude) ∧
        ∀ names input, ∃ t,
          ((Host.ofConfig c names).runGenerated g source :
            Exchange SessionError Tape SessionOutcome).run (Tape.ofInput input none)
              = (.error (.challenge (.numeral .insufficientMagnitude)), t) := by
  intro c
  let g : Generator := ⟨c.challenge, by decide, by decide⟩
  have heavy : ¬ Convertible ([.V, .V, .I] ++ [.X]) :=
    not_convertible_group (by decide) (by decide) (by decide) (by decide)
  have hpositions : ∀ i j : Fin 2, i ≠ j → i = 0 ∨ j = 0 := by decide
  have hfails : ∀ source, (g.generate source).1 = .error (.numeral .insufficientMagnitude) := by
    intro source
    cases hdraw : (g.generate source).1 with
    | error e => rw [g.generate_error hdraw]
    | ok asked =>
      obtain ⟨i, j, hij, hi, hj⟩ := (g.exists_generate_ok_iff (by decide)).mp ⟨source, asked, hdraw⟩
      rcases hpositions i j hij with rfl | rfl
      · exact absurd hi heavy
      · exact absurd hj heavy
  refine ⟨by decide, g, rfl, fun source => ⟨hfails source, fun names input => ?_⟩⟩
  obtain ⟨t, hrun, _⟩ := (Host.ofConfig c names).runGenerated_ofInput (hfails source) input
  exact ⟨t, hrun⟩

end Config

end Roman
