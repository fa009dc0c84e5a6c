/-!
# Outcomes

A computation that may fail is read from its end: if it succeeded, so did every part of it.

Results:
* `bind_eq_ok_iff`: two computations in a row succeed when both do.
* `bind_eq_error_iff`: they fail when one of them does.
* `foldlM_cons_eq_ok_iff`: a loop succeeds when its first step and the rest do.
* `foldlM_ok_induction`: what every step of a loop keeps holds after the loop.
-/

namespace HexRules.Outcome

universe u v

variable {ε : Type v} {α β : Type u}

theorem bind_eq_ok_iff {x : Except ε α} {f : α → Except ε β} {b : β} :
    x >>= f = .ok b ↔ ∃ a, x = .ok a ∧ f a = .ok b := by
  cases x with
  | error e => simp [bind, Except.bind]
  | ok a => simp [bind, Except.bind]

theorem bind_eq_error_iff {x : Except ε α} {f : α → Except ε β} {e : ε} :
    x >>= f = .error e ↔ x = .error e ∨ ∃ a, x = .ok a ∧ f a = .error e := by
  cases x with
  | error e => simp [bind, Except.bind]
  | ok a => simp [bind, Except.bind]

theorem map_eq_ok_iff {x : Except ε α} {f : α → β} {b : β} :
    x.map f = .ok b ↔ ∃ a, x = .ok a ∧ f a = b := by
  cases x with
  | error e => simp [Except.map]
  | ok a => simp [Except.map]

theorem map_eq_error_iff {x : Except ε α} {f : α → β} {e : ε} :
    x.map f = .error e ↔ x = .error e := by
  cases x with
  | error e => simp [Except.map]
  | ok a => simp [Except.map]

/-- What is given back beside a result may be left out. -/
theorem map_snd_bind (x : Except ε α) (f : α → β) :
    (x >>= fun a => pure (a, f a)).map Prod.snd = x.map f := by
  cases x <;> rfl

theorem exists_eq_ok_of_isOk {x : Except ε α} (h : x.isOk = true) : ∃ a, x = .ok a := by
  cases x with
  | error e => cases h
  | ok a => exact ⟨a, rfl⟩

theorem foldlM_cons_eq_ok_iff {f : β → α → Except ε β} {a : α} {as : List α} {b b' : β} :
    (a :: as).foldlM f b = .ok b' ↔ ∃ c, f b a = .ok c ∧ as.foldlM f c = .ok b' := by
  rw [List.foldlM_cons, bind_eq_ok_iff]

theorem foldlM_cons_eq_error_iff {f : β → α → Except ε β} {a : α} {as : List α} {b : β} {e : ε} :
    (a :: as).foldlM f b = .error e ↔
      f b a = .error e ∨ ∃ c, f b a = .ok c ∧ as.foldlM f c = .error e := by
  rw [List.foldlM_cons, bind_eq_error_iff]

/-- A loop that succeeds takes every step with success. -/
theorem exists_step_of_foldlM {f : β → α → Except ε β} {as : List α} {a : α} {b b' : β}
    (h : as.foldlM f b = .ok b') (ha : a ∈ as) : ∃ c c', f c a = .ok c' := by
  induction as generalizing b with
  | nil => cases ha
  | cons first rest ih =>
    obtain ⟨c, hc, hrest⟩ := foldlM_cons_eq_ok_iff.1 h
    rcases List.mem_cons.1 ha with rfl | ha
    · exact ⟨b, c, hc⟩
    · exact ih hrest ha

theorem foldlM_ok_induction {f : β → α → Except ε β} {as : List α} (P : β → Prop)
    (step : ∀ a ∈ as, ∀ b b', f b a = .ok b' → P b → P b') {b b' : β}
    (h : as.foldlM f b = .ok b') (hb : P b) : P b' := by
  induction as generalizing b with
  | nil =>
    cases h
    exact hb
  | cons a as ih =>
    obtain ⟨c, hc, hrest⟩ := foldlM_cons_eq_ok_iff.1 h
    exact ih (fun x hx => step x (List.mem_cons_of_mem a hx)) hrest
      (step a List.mem_cons_self b c hc hb)

end HexRules.Outcome
