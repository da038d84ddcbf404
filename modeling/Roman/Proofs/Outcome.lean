import Roman.Error
/-!
# Outcomes of operations that can fail

A run over a list either stops at its first failure or has carried an invariant through. There is one
failure that arithmetic can end in, and it is a property of its own, so that no proof has to ask which
of several failures came first.
-/

namespace Roman

variable {α β ε : Type}

@[simp] theorem except_bind_ok (a : α) (f : α → Except ε β) : (Except.ok a >>= f) = f a := rfl

@[simp] theorem except_bind_error (e : ε) (f : α → Except ε β) :
    ((Except.error e : Except ε α) >>= f) = .error e := rfl

theorem except_bind_eq_ok {x : Except ε α} {f : α → Except ε β} {b : β} (h : (x >>= f) = .ok b) :
    ∃ a, x = .ok a ∧ f a = .ok b := by
  rcases x with _ | a
  · exact nomatch h
  · exact ⟨a, rfl, h⟩

theorem foldlM_invariant {P : β → Prop} {f : β → α → Except ε β} {l : List α}
    (hstep : ∀ a ∈ l, ∀ b b', f b a = .ok b' → P b → P b') {b r : β} (h : l.foldlM f b = .ok r)
    (hb : P b) : P r := by
  induction l generalizing b with
  | nil =>
    cases h
    exact hb
  | cons a l ih =>
    rw [List.foldlM_cons] at h
    obtain ⟨b', hfirst, hrest⟩ := except_bind_eq_ok h
    exact ih (fun x hx => hstep x (List.mem_cons_of_mem a hx)) hrest
      (hstep a List.mem_cons_self b b' hfirst hb)

/-- An outcome that is no failure, or the failure that more was to be taken away than there was. -/
def AtMostShort (x : Except NumeralError α) : Prop := ∀ e, x = .error e → e = .insufficientMagnitude

theorem AtMostShort.ok (a : α) : AtMostShort (.ok a) := by
  intro e h
  cases h

theorem AtMostShort.short : AtMostShort (.error .insufficientMagnitude : Except NumeralError α) := by
  intro e h
  cases h
  rfl

theorem AtMostShort.bind {x : Except NumeralError α} {f : α → Except NumeralError β}
    (hx : AtMostShort x) (hf : ∀ a, AtMostShort (f a)) : AtMostShort (x >>= f) := by
  intro e h
  cases x with
  | error e' =>
    cases h
    exact hx _ rfl
  | ok a => exact hf a e h

theorem AtMostShort.ok_or_short {x : Except NumeralError α} (hx : AtMostShort x) :
    (∃ a, x = .ok a) ∨ x = .error .insufficientMagnitude := by
  cases x with
  | error e => exact .inr (congrArg Except.error (hx e rfl))
  | ok a => exact .inl ⟨a, rfl⟩

/-- Whichever of two steps fails, the failure is the same. -/
theorem AtMostShort.bind_short {x : Except NumeralError α} (hx : AtMostShort x) :
    (x >>= fun _ => (.error .insufficientMagnitude : Except NumeralError β))
      = .error .insufficientMagnitude := by
  cases x with
  | error e => rw [hx e rfl, except_bind_error]
  | ok a => rfl

theorem AtMostShort.foldlM {f : β → α → Except NumeralError β} (hf : ∀ b a, AtMostShort (f b a))
    (l : List α) (b : β) : AtMostShort (l.foldlM f b) := by
  induction l generalizing b with
  | nil => exact .ok b
  | cons a l ih =>
    rw [List.foldlM_cons]
    exact (hf b a).bind ih

end Roman
