import Roman.Console.Sheet
import Roman.Proofs.Transcript
/-!
# Conversations that are cut short

A sheet that runs out of room cuts a conversation short, in the middle of a line or of a character. An
action on a sheet is compared with the same action on a tape that takes everything: it ends in the same
way if there is room for all that the tape is shown, and otherwise it fails with the sheet's fault,
having written as much of that as there was room for. Actions in succession compare as their parts do,
so a conversation does as a whole.
-/

namespace Roman

open Console Exchange

namespace Sheet

variable (s : Sheet) (a b : Bytes)

theorem fill_nil : s.fill [] = s := by
  simp [fill]

theorem fill_append : (s.fill a).fill b = s.fill (a ++ b) := by
  simp [fill, List.take_append, Nat.sub_sub]

variable {s a}

theorem fill_of_room_eq_zero (h : s.room = 0) : s.fill a = s := by
  cases s
  simp_all [fill]

/-- Nothing is added to a sheet that has been filled up. -/
theorem written_fill_append (h : s.room ≤ a.length) :
    (s.fill (a ++ b)).written = (s.fill a).written := by
  rw [fill, fill, List.take_append_of_le_length h]

variable (s a)

/-- The sizes of the portions make no difference to what is written. -/
theorem writeAll_eq :
    writeAll a s = (if a.length ≤ s.room then .ok () else .error s.fault, s.fill a) := by
  fun_induction writeAll a s with
  | case1 s => simp [fill_nil]
  | case2 a s hne hroom =>
    have hlength := List.length_pos_iff.mpr hne
    have hfull : ¬ a.length ≤ s.room := by omega
    rw [if_neg hfull, fill_of_room_eq_zero hroom]
  | case3 a s hne hroom ih =>
    rw [ih, fill_append, List.take_append_drop]
    have htaken : s.taken a ≤ min a.length s.room := by
      rw [taken]
      omega
    have hfits : (a.drop (s.taken a)).length ≤ (s.fill (a.take (s.taken a))).room
        ↔ a.length ≤ s.room := by
      simp only [fill, List.length_drop, List.length_take]
      omega
    simp only [hfits]
    rfl

end Sheet

/-! ### Tapes and sheets -/

variable {ε ε' α β : Type}

/-- How an action runs on a tape that takes everything, and on a sheet with the same input. -/
structure Compares (onFault : Fault → ε) (x : Exchange ε Tape α) (y : Exchange ε Sheet α) (t : Tape)
    (result : Except ε α) (shown : String) (t' : Tape) : Prop where
  tape : x.run t = (result, t')
  output : t'.output = t.output ++ shown
  pending : t'.pending = ""
  unlimited : t'.flushLimit = none
  fits : ∀ s : Sheet, s.input = t.input → (encode shown).length ≤ s.room →
    y.run s = (result, { s.fill (encode shown) with input := t'.input })
  exceeds : ∀ s : Sheet, s.input = t.input → s.room < (encode shown).length →
    ∃ s', y.run s = (.error (onFault s.fault), s') ∧ s'.written = (s.fill (encode shown)).written

namespace Compares

variable {onFault : Fault → ε} {x : Exchange ε Tape α} {y : Exchange ε Sheet α}
  {f : α → Exchange ε Tape β} {g : α → Exchange ε Sheet β} {t t₁ t₂ : Tape} {shown more : String}

theorem bind_of_error {e : ε} (h : Compares onFault x y t (.error e) shown t₁) :
    Compares onFault (x >>= f) (y >>= g) t (.error e) shown t₁ where
  tape := run_bind_of_error h.tape
  output := h.output
  pending := h.pending
  unlimited := h.unlimited
  fits s hinput hfits := run_bind_of_error (h.fits s hinput hfits)
  exceeds s hinput hexceeds := by
    obtain ⟨s', hrun, hwritten⟩ := h.exceeds s hinput hexceeds
    exact ⟨s', run_bind_of_error hrun, hwritten⟩

/-- The room that the first action leaves is what there is for the second one. -/
theorem bind_of_ok {a : α} {result : Except ε β} (h : Compares onFault x y t (.ok a) shown t₁)
    (h' : Compares onFault (f a) (g a) t₁ result more t₂) :
    Compares onFault (x >>= f) (y >>= g) t result (shown ++ more) t₂ where
  tape := (run_bind_of_ok h.tape).trans h'.tape
  output := by rw [h'.output, h.output, String.append_assoc]
  pending := h'.pending
  unlimited := h'.unlimited
  fits s hinput hfits := by
    rw [encode_append, List.length_append] at hfits
    have hleft : (encode more).length ≤ s.room - (encode shown).length := by omega
    rw [run_bind_of_ok (h.fits s hinput (by omega)), h'.fits _ rfl hleft, encode_append,
      ← Sheet.fill_append]
    rfl
  exceeds s hinput hexceeds := by
    rw [encode_append, List.length_append] at hexceeds
    rw [encode_append]
    by_cases hroom : (encode shown).length ≤ s.room
    · have hleft : s.room - (encode shown).length < (encode more).length := by omega
      obtain ⟨s', hrun, hwritten⟩ :=
        h'.exceeds { s.fill (encode shown) with input := t₁.input } rfl hleft
      refine ⟨s', (run_bind_of_ok (h.fits s hinput hroom)).trans hrun, hwritten.trans ?_⟩
      rw [← Sheet.fill_append]
      rfl
    · obtain ⟨s', hrun, hwritten⟩ := h.exceeds s hinput (by omega)
      refine ⟨s', run_bind_of_error hrun, hwritten.trans ?_⟩
      rw [Sheet.written_fill_append _ (by omega)]

end Compares

/-- The second action does on every sheet what the first one does on a tape that takes everything, as
far as there is room. -/
def Mirrors (onFault : Fault → ε) (x : Exchange ε Tape α) (y : Exchange ε Sheet α) : Prop :=
  ∀ t : Tape, t.flushLimit = none → t.pending = "" →
    ∃ result shown t', Compares onFault x y t result shown t'

namespace Mirrors

variable {onFault : Fault → ε} {x : Exchange ε Tape α} {y : Exchange ε Sheet α}

/-- Actions that show nothing need no room. -/
theorem of_silent (result : Bytes → Except ε α) (rest : Bytes → Bytes)
    (hx : ∀ t, x.run t = (result t.input, { t with input := rest t.input }))
    (hy : ∀ s, y.run s = (result s.input, { s with input := rest s.input })) :
    Mirrors onFault x y := by
  intro t hunlimited hpending
  refine ⟨_, "", _, hx t, String.append_empty.symm, hpending, hunlimited, ?_, ?_⟩
  · intro s hinput _
    have hnothing : s.fill (encode "") = s := s.fill_nil
    rw [hy, hnothing, hinput]
  · intro s _ hexceeds
    exact absurd hexceeds (Nat.not_lt_zero _)

theorem pure (a : α) : Mirrors onFault (Pure.pure a) (Pure.pure a) :=
  of_silent (fun _ => .ok a) id (fun _ => rfl) fun _ => rfl

theorem bind (hx : Mirrors onFault x y) {f : α → Exchange ε Tape β} {g : α → Exchange ε Sheet β}
    (hf : ∀ a, Mirrors onFault (f a) (g a)) : Mirrors onFault (x >>= f) (y >>= g) := by
  intro t hunlimited hpending
  obtain ⟨result, shown, t₁, hfirst⟩ := hx t hunlimited hpending
  cases result with
  | error e => exact ⟨.error e, shown, t₁, hfirst.bind_of_error⟩
  | ok a =>
    obtain ⟨result, more, t₂, hsecond⟩ := hf a t₁ hfirst.unlimited hfirst.pending
    exact ⟨result, shown ++ more, t₂, hfirst.bind_of_ok hsecond⟩

theorem adapt (tell : ε → ε') (hx : Mirrors onFault x y) :
    Mirrors (fun fault => tell (onFault fault)) (ExceptT.adapt tell x) (ExceptT.adapt tell y) := by
  intro t hunlimited hpending
  obtain ⟨result, shown, t', h⟩ := hx t hunlimited hpending
  refine ⟨result.mapError tell, shown, t', ?_, h.output, h.pending, h.unlimited, ?_, ?_⟩
  · rw [run_adapt, h.tape]
  · intro s hinput hfits
    rw [run_adapt, h.fits s hinput hfits]
  · intro s hinput hexceeds
    obtain ⟨s', hrun, hwritten⟩ := h.exceeds s hinput hexceeds
    refine ⟨s', ?_, hwritten⟩
    rw [run_adapt, hrun]
    rfl

end Mirrors

/-! ### What a conversation does -/

theorem mirrors_put (text : String) : Mirrors id (put text) (put text) := by
  intro t hunlimited hpending
  obtain ⟨t', hrun, hshows⟩ := Tape.put_run hunlimited hpending text
  have hsheet : ∀ s : Sheet, (put text : Exchange Fault Sheet Unit).run s
      = (if (encode text).length ≤ s.room then .ok () else .error s.fault, s.fill (encode text)) := by
    intro s
    have hwrite : (ExceptT.mk (write text) : Exchange Fault Sheet Unit).run s = _ :=
      s.writeAll_eq (encode text)
    rw [put, run_bind, hwrite]
    by_cases hfits : (encode text).length ≤ s.room
    · rw [if_pos hfits]
      rfl
    · rw [if_neg hfits]
  refine ⟨.ok (), text, t', hrun, hshows.output, hshows.pending, hshows.unlimited, ?_, ?_⟩
  · intro s hinput hfits
    rw [hsheet, if_pos hfits, hshows.input, ← hinput]
    rfl
  · intro s _ hexceeds
    refine ⟨s.fill (encode text), ?_, rfl⟩
    rw [hsheet, if_neg (by omega)]
    rfl

theorem mirrors_pause (delay : UInt64) :
    Mirrors (id : Fault → Fault) (ExceptT.lift (pause delay)) (ExceptT.lift (pause delay)) :=
  .pure ()

/-- Typing a line out goes on character by character, and so does its failure. -/
theorem mirrors_typeLine (delay : UInt64) (text : String) :
    Mirrors id (typeLine delay text) (typeLine delay text) := by
  unfold typeLine
  split
  · exact mirrors_put _
  · refine Mirrors.bind ?_ fun _ => mirrors_put "\n"
    induction text.toList with
    | nil => exact .pure ()
    | cons c cs ih =>
      have hchar := (mirrors_put c.toString).bind fun _ => mirrors_pause delay
      exact hchar.bind fun _ => ih

namespace Host

variable (h : Host)

theorem mirrors_say (said : String) : Mirrors SessionError.io (h.say said) (h.say said) :=
  (mirrors_typeLine h.typingDelay (h.line said)).adapt SessionError.io

theorem mirrors_hear : Mirrors SessionError.io hear hear := by
  apply Mirrors.of_silent (fun input => (Lines.nth input 0).heard) (fun input => (Lines.cut input).2)
    hear_run
  intro s
  have hheard : (hear : Exchange SessionError Sheet String).run s
      = (heard (.ok (Lines.cut s.input).1), { s with input := (Lines.cut s.input).2 }) := rfl
  rw [hheard, Lines.heard_cut]

theorem mirrors_run (c : Challenge) : Mirrors SessionError.io (h.run c) (h.run c) := by
  refine (h.mirrors_say _).bind fun _ => mirrors_hear.bind fun _ => ?_
  refine (h.mirrors_say _).bind fun _ => (h.mirrors_say _).bind fun _ => ?_
  exact mirrors_hear.bind fun _ => (h.mirrors_say _).bind fun _ => .pure _

/-- **A conversation that is cut short.** Whatever the room on a sheet and however it takes its bytes,
what is written is a prefix of the transcript of the whole conversation. With room for all of it the
conversation ends as the whole one does; with less it fails, with all the room used up. -/
theorem run_of_room (config : Config) (names : NameList) (c : Challenge) (input : Bytes) (room : Nat)
    (portion : Nat → Nat) (fault : Fault) :
    ∃ whole t result s,
      ((ofConfig config names).run c : Exchange SessionError Tape SessionOutcome).run
          (Tape.ofInput input none) = (whole, t) ∧ t.pending = "" ∧
      ((ofConfig config names).run c : Exchange SessionError Sheet SessionOutcome).run
          (Sheet.ofInput input room portion fault) = (result, s) ∧
      s.written <+: encode t.output ∧
      ((encode t.output).length ≤ room → s.written = encode t.output ∧ result = whole) ∧
      (room < (encode t.output).length → s.written.length = room ∧ result = .error (.io fault)) := by
  let sheet := Sheet.ofInput input room portion fault
  obtain ⟨whole, shown, t, hrun⟩ :=
    (ofConfig config names).mirrors_run c (Tape.ofInput input none) rfl rfl
  obtain rfl : t.output = shown := hrun.output.trans String.empty_append
  rcases Nat.lt_or_ge room (encode t.output).length with hexceeds | hfits
  · obtain ⟨s, hsheet, hwritten⟩ := hrun.exceeds sheet rfl hexceeds
    have hfilled : (sheet.fill (encode t.output)).written = (encode t.output).take room := rfl
    rw [hfilled] at hwritten
    refine ⟨whole, t, _, s, hrun.tape, hrun.pending, hsheet, ?_, fun _ => by omega, fun _ => ⟨?_, rfl⟩⟩
    · rw [hwritten]
      exact List.take_prefix _ _
    · rw [hwritten, List.length_take]
      omega
  · have hsheet := hrun.fits sheet rfl hfits
    refine ⟨whole, t, _, _, hrun.tape, hrun.pending, hsheet, ?_, fun _ => ⟨?_, rfl⟩, fun _ => by omega⟩
    · exact List.take_prefix room _
    · exact List.take_of_length_le hfits

/-- On a sheet of three bytes the greeting breaks off early; a sheet for the whole transcript is enough. -/
theorem run_of_room_ada :
    let c : Challenge := ⟨[.X], [.I], .subtract, Numeral.standard 9,
      Numeral.sub_eq_ok (Numeral.denotes_standard 10) (Numeral.denotes_standard 1) (by decide)⟩
    let h := ofConfig Config.standard NameList.empty
    let input : Bytes := [65, 100, 97, 10, 73, 88]
    ∃ whole t, (h.run c : Exchange SessionError Tape SessionOutcome).run (Tape.ofInput input none)
        = (whole, t) ∧ 3 < (encode t.output).length ∧
      (∃ s, (h.run c : Exchange SessionError Sheet SessionOutcome).run
          (Sheet.ofInput input 3 (fun _ => 0) Tape.writerFull) = (.error (.io Tape.writerFull), s) ∧
        s.written.length = 3) ∧
      ∃ s, (h.run c : Exchange SessionError Sheet SessionOutcome).run
          (Sheet.ofInput input (encode t.output).length (fun _ => 0) Tape.writerFull) = (whole, s) ∧
        s.written = encode t.output := by
  intro c h input
  obtain ⟨whole, t, result, s, hrun, _, hsheet, _, _, hexceeds⟩ :=
    run_of_room Config.standard NameList.empty c input 3 (fun _ => 0) Tape.writerFull
  obtain ⟨t', hrun', houtput, _⟩ := h.run_ofInput c input
  cases hrun.symm.trans hrun'
  have hlength : 3 < (encode t.output).length := by
    have hfirst : Lines.nth input 0 = .text "Ada" := Lines.nth_eq_text (by decide)
    have hgreeting : 3 < (encode (opening h.botName)).length := by decide
    rw [houtput, hfirst, transcript, encode_append, List.length_append]
    omega
  obtain ⟨hwritten, rfl⟩ := hexceeds hlength
  obtain ⟨_, t', result, s', hrun', _, hsheet', _, hfits, _⟩ :=
    run_of_room Config.standard NameList.empty c input (encode t.output).length (fun _ => 0)
      Tape.writerFull
  cases hrun.symm.trans hrun'
  obtain ⟨hall, rfl⟩ := hfits (Nat.le_refl _)
  exact ⟨_, t, hrun, hlength, ⟨s, hsheet, hwritten⟩, s', hsheet', hall⟩

end Host

end Roman
