import HexRules.Proofs.Pipeline.Coherence
import HexRules.Proofs.Pipeline.Tick
import Mathlib.Logic.Relation

/-!
# The course of time

A pipeline may be changed in any way that there is: edits that count and edits that do not, with
whatever identifiers, new handles in place of old ones, which are then gone for good, and guards and
report that are brought up to date. Through all this time goes forward: a handle that stays only
gets later versions, and a new handle gets a serial number that none had before. So what a watch has
seen never comes again once it is over.

Results:
* `Change.later`: after a change the stamps come no earlier than before.
* `Reachable.timely`: the watch over the moves has only seen stamps that came no later than the
  present ones.
* `Behind.later`: a watch that is behind stays so until moves are computed.
-/

namespace HexRules

/-! ## Stamps of several handles -/

namespace Stamp

variable {a b c : Stamp}

/-- A stamp was given no later than another one: to an earlier handle, or to the same one. -/
def NoLater (a b : Stamp) : Prop := a.serial < b.serial ∨ a ≤ b

theorem noLater_refl (a : Stamp) : a.NoLater a := .inr (le_refl a)

theorem NoLater.trans (hab : a.NoLater b) (hbc : b.NoLater c) : a.NoLater c := by
  unfold NoLater at *
  simp only [le_iff] at *
  omega

theorem NoLater.antisymm (hab : a.NoLater b) (hba : b.NoLater a) : a = b := by
  obtain ⟨serial, version⟩ := a
  obtain ⟨serial', version'⟩ := b
  unfold NoLater at *
  simp only [le_iff, mk.injEq] at *
  omega

/-- One by one, stamps were given no later than others. -/
abbrev Past : List Stamp → List Stamp → Prop := List.Forall₂ NoLater

theorem past_refl (stamps : List Stamp) : Past stamps stamps :=
  List.forall₂_same.2 fun a _ => noLater_refl a

theorem Past.trans {a b c : List Stamp} (hab : Past a b) (hbc : Past b c) : Past a c :=
  forall₂_trans (R := NoLater) (fun _ _ _ => NoLater.trans) hab hbc

theorem Past.antisymm {a b : List Stamp} (hab : Past a b) (hba : Past b a) : a = b :=
  forall₂_antisymm (R := NoLater) (fun _ _ => NoLater.antisymm) hab hba

theorem Older.past {a b : List Stamp} (h : Older a b) : Past a b := h.imp fun _ _ => .inr

end Stamp

namespace Pipeline

variable {p p' q : Pipeline}

/-! ## Changes -/

/-- The pipeline is changed, but no moves are computed into it. -/
inductive Change (p : Pipeline) : Pipeline → Prop
  | edit {e : Edit} {p' : Pipeline} (accepted : p.apply e = .ok p') : Change p p'
  | replace (new : Replacement) : Change p (p.replace new)
  | sync : Change p p.syncGuards.2
  | generator : Change p p.runGenerator.2
  | validator : Change p p.runValidator
  | tell (events : List Event) : Change p (p.tell events)

/-- The pipeline is changed any number of times. -/
abbrev Meanwhile : Pipeline → Pipeline → Prop := Relation.ReflTransGen Change

/-- No handle that the moves depend on has the serial number of the next new one. -/
def Numbered (p : Pipeline) : Prop := ∀ stamp ∈ p.moveStamps, stamp.serial < p.nextSerial

/-- A later state, with the moves as they were. -/
structure Later (old new : Pipeline) : Prop where
  numbered : new.Numbered
  stamps : Stamp.Past old.moveStamps new.moveStamps
  moves : new.moves = old.moves

theorem later_refl (hp : p.Numbered) : p.Later p := ⟨hp, Stamp.past_refl _, rfl⟩

theorem Later.trans (hp : p.Later p') (hp' : p'.Later q) : p.Later q :=
  ⟨hp'.numbered, hp.stamps.trans hp'.stamps, hp'.moves.trans hp.moves⟩

/-- The same handles in versions that are no earlier. -/
theorem later_of_older (hp : p.Numbered) (hserial : p'.nextSerial = p.nextSerial)
    (hstamps : Stamp.Older p.moveStamps p'.moveStamps) (hmoves : p'.moves = p.moves) :
    p.Later p' := by
  refine ⟨?_, hstamps.past, hmoves⟩
  simp only [moveStamps, List.forall₂_cons, Stamp.le_iff] at hstamps
  simp only [Numbered, moveStamps, List.forall_mem_cons] at hp ⊢
  rw [hserial, ← hstamps.1.1, ← hstamps.2.1.1, ← hstamps.2.2.1.1, ← hstamps.2.2.2.1.1]
  exact hp

theorem later_withConcepts (hp : p.Numbered) {h : Handle Concepts}
    (hle : p.concepts.stamp ≤ h.stamp) : p.Later (p.withConcepts h) :=
  later_of_older hp rfl (.cons le_rfl (.cons hle (.cons le_rfl (.cons le_rfl .nil)))) rfl

theorem later_withRelations (hp : p.Numbered) {h : Handle Relations}
    (hle : p.relations.stamp ≤ h.stamp) : p.Later (p.withRelations h) :=
  later_of_older hp rfl (.cons le_rfl (.cons le_rfl (.cons hle (.cons le_rfl .nil)))) rfl

theorem later_withConstraints (hp : p.Numbered) {h : Handle Constraints}
    (hle : p.constraints.stamp ≤ h.stamp) : p.Later (p.withConstraints h) :=
  later_of_older hp rfl (.cons le_rfl (.cons le_rfl (.cons le_rfl (.cons hle .nil)))) rfl

end Pipeline

theorem Handle.stamp_of_trySlip {α : Type} {ε : Type} {f : α → Except ε α} {old new : Handle α}
    (h : old.trySlip f = .ok new) : new.stamp = old.stamp := by
  rw [trySlip] at h
  obtain ⟨content, -, rfl⟩ := Outcome.map_eq_ok_iff.1 h
  rfl

namespace Pipeline

variable {p p' q : Pipeline}

theorem later_apply {e : Edit} (hp : p.Numbered) (h : p.apply e = .ok p') : p.Later p' := by
  cases e with
  | addType t | removeType id | addEnum e =>
    obtain ⟨handle, -, rfl⟩ := Outcome.map_eq_ok_iff.1 h
    exact later_of_older hp rfl (List.forall₂_refl _) rfl
  | addConcept c | removeConcept id | addBinding b | removeBinding id =>
    obtain ⟨handle, hhandle, rfl⟩ := Outcome.map_eq_ok_iff.1 h
    exact later_withConcepts hp (Handle.follows_tryEdit hhandle).le
  | addRelation r | updateRelation id new | removeRelation id =>
    obtain ⟨handle, hhandle, rfl⟩ := Outcome.map_eq_ok_iff.1 h
    exact later_withRelations hp (Handle.follows_tryEdit hhandle).le
  | addConstraint c | removeConstraint id =>
    obtain ⟨handle, hhandle, rfl⟩ := Outcome.map_eq_ok_iff.1 h
    exact later_withConstraints hp (Handle.follows_tryEdit hhandle).le
  | appendRole concept role | appendProperty binding property =>
    obtain ⟨handle, hhandle, rfl⟩ := Outcome.map_eq_ok_iff.1 h
    exact later_withConcepts hp (Handle.stamp_of_trySlip hhandle).ge
  | appendConstraint c =>
    cases h
    exact later_withConstraints hp le_rfl
  | select unit =>
    cases h
    rw [select]
    split_ifs
    · exact later_refl hp
    · exact later_of_older hp rfl (.cons (p.selected.follows_edit _).le (List.forall₂_refl _)) rfl
  | markChanged handle =>
    cases h
    cases handle with
    | types => exact later_of_older hp rfl (List.forall₂_refl _) rfl
    | concepts => exact later_withConcepts hp p.concepts.follows_touch.le
    | relations => exact later_withRelations hp p.relations.follows_touch.le
    | constraints => exact later_withConstraints hp p.constraints.follows_touch.le
    | selected =>
      exact later_of_older hp rfl (.cons p.selected.follows_touch.le (List.forall₂_refl _)) rfl
  | board edit =>
    cases h
    exact later_of_older hp rfl (List.forall₂_refl _) rfl

theorem numbered_replace (hp : p.Numbered) (new : Replacement) : (p.replace new).Numbered := by
  simp only [Numbered, moveStamps, List.forall_mem_cons, List.not_mem_nil, false_implies,
    implies_true, and_true] at hp ⊢
  cases new <;> simp only [replace, Handle.new] <;> omega

/-- A new handle comes later than any that there was. -/
theorem later_replace (hp : p.Numbered) (new : Replacement) : p.Later (p.replace new) := by
  have hserials := hp
  simp only [Numbered, moveStamps, List.forall_mem_cons] at hserials
  obtain ⟨hselected, hconcepts, hrelations, hconstraints, -⟩ := hserials
  have hrefl := Stamp.noLater_refl
  refine ⟨numbered_replace hp new, ?_, by cases new <;> rfl⟩
  cases new with
  | types types | grid grid | board board => exact Stamp.past_refl _
  | concepts concepts =>
    exact .cons (hrefl _) (.cons (.inl hconcepts) (.cons (hrefl _) (.cons (hrefl _) .nil)))
  | relations relations =>
    exact .cons (hrefl _) (.cons (hrefl _) (.cons (.inl hrelations) (.cons (hrefl _) .nil)))
  | constraints constraints =>
    exact .cons (hrefl _) (.cons (hrefl _) (.cons (hrefl _) (.cons (.inl hconstraints) .nil)))
  | selected selected =>
    exact .cons (.inl hselected) (.cons (hrefl _) (.cons (hrefl _) (.cons (hrefl _) .nil)))

theorem later_syncGuards (hp : p.Numbered) : p.Later p.syncGuards.2 := by
  have hserial : p.syncGuards.2.nextSerial = p.nextSerial := by
    rw [syncGuards]
    split_ifs <;> rfl
  have h := p.syncGuards_edited
  exact later_of_older hp hserial
    (.cons h.selected.le (.cons h.concepts.le (.cons h.relations.le (.cons h.constraints.le .nil))))
    h.moves

/-- After a change the stamps come no earlier than before. -/
theorem Change.later (h : Change p p') (hp : p.Numbered) : p.Later p' := by
  cases h with
  | edit accepted => exact later_apply hp accepted
  | replace new => exact later_replace hp new
  | sync => exact later_syncGuards hp
  | generator =>
    rw [runGenerator]
    split_ifs
    · have hsync := later_syncGuards hp
      exact ⟨hsync.numbered, hsync.stamps, hsync.moves⟩
    · exact later_refl hp
  | validator =>
    rw [runValidator]
    split_ifs
    · exact later_of_older hp rfl (List.forall₂_refl _) rfl
    · exact later_refl hp
  | tell events => exact later_of_older hp rfl (List.forall₂_refl _) rfl

theorem Meanwhile.later (h : Meanwhile p p') (hp : p.Numbered) : p.Later p' := by
  induction h with
  | refl => exact later_refl hp
  | tail _ change ih => exact ih.trans (change.later ih.numbered)

theorem meanwhile_prepared (p : Pipeline) : Meanwhile p p.prepared :=
  .tail (.tail .refl .generator) .validator

/-! ## The watch over the moves -/

/-- All that the watch over the moves has seen came no later than the present stamps. -/
def Timely (p : Pipeline) : Prop :=
  ∀ seen, p.moves.watch.seen = some seen → Stamp.Past seen p.moveStamps

/-- It even came before them: there was a change since. -/
structure Behind (p : Pipeline) : Prop where
  timely : p.Timely
  changed : p.moves.watch.changed p.moveStamps = true

theorem timely_of_fresh (h : p.moves.watch = .fresh) : p.Timely := by
  intro seen hseen
  rw [h] at hseen
  cases hseen

theorem Timely.later (h : p.Timely) (hlater : p.Later p') : p'.Timely := by
  intro seen hseen
  rw [hlater.moves] at hseen
  exact (h seen hseen).trans hlater.stamps

/-- A watch that is behind stays so until moves are computed. -/
theorem Behind.later (h : p.Behind) (hlater : p.Later p') : p'.Behind := by
  refine ⟨h.timely.later hlater, ?_⟩
  by_contra hsame
  have hseen : p.moves.watch.seen = some p'.moveStamps := by
    simpa [Watch.changed, hlater.moves] using hsame
  -- What was seen came before the old stamps, and these before the new ones, which are the same.
  have hequal : p'.moveStamps = p.moveStamps := (h.timely _ hseen).antisymm hlater.stamps
  rw [hequal] at hseen
  have hchanged := h.changed
  simp [Watch.changed, hseen] at hchanged

/-- What can become of a new pipeline: it is changed, the moves are brought up to date, alone or in
    a tick, or called off. -/
inductive Reachable : Pipeline → Prop
  | start (settings : Settings) (recording : Bool) (supply : Supply) (world : World) :
      Reachable (.ofWorld settings recording supply world)
  | change {p p' : Pipeline} (h : Reachable p) (change : Change p p') : Reachable p'
  | evaluator {p : Pipeline} (h : Reachable p) : Reachable p.runEvaluator.2
  | tick {p : Pipeline} (h : Reachable p) : Reachable p.tick.2
  | invalidate {p : Pipeline} (h : Reachable p) : Reachable p.invalidate

theorem timely_runEvaluator (hp : p.Numbered) (h : p.Timely) :
    p.runEvaluator.2.Numbered ∧ p.runEvaluator.2.Timely := by
  rcases p.runEvaluator_cases with ⟨-, heq⟩ | ⟨moves, told, -, heq⟩ | ⟨e, told, heq⟩
  · rw [heq]
    exact ⟨hp, h⟩
  · rw [heq]
    refine ⟨hp, fun seen hseen => ?_⟩
    cases hseen
    exact Stamp.past_refl _
  · rw [heq]
    exact ⟨hp, h⟩

/-- The course of a pipeline is among what can become of it. -/
theorem Reachable.act (h : p.Reachable) (a : Action) : (p.act a).Reachable := by
  cases a with
  | edit e orderly =>
    rw [Pipeline.act]
    cases happly : p.apply e with
    | error e => exact h
    | ok p' => exact h.change (.edit happly)
  | board board => exact h.change (.replace (.board board))
  | grid grid => exact h.change (.replace (.grid grid))
  | tick => exact h.tick
  | refresh => exact h.invalidate.tick

theorem reachable_run {c : Course} (h : c.pipeline.Reachable) (actions : List Action) :
    (c.run actions).pipeline.Reachable := by
  induction actions generalizing c with
  | nil => exact h
  | cons a rest ih =>
    rw [Course.run, List.foldl_cons]
    exact ih (h.act a)

/-- Time goes forward in all that can become of a pipeline. -/
theorem Reachable.timely (h : p.Reachable) : p.Numbered ∧ p.Timely := by
  induction h with
  | start settings recording supply world =>
    refine ⟨?_, timely_of_fresh rfl⟩
    simp [Numbered, ofWorld, moveStamps, Handle.new]
  | change _ change ih =>
    have hlater := change.later ih.1
    exact ⟨hlater.numbered, ih.2.later hlater⟩
  | evaluator _ ih => exact timely_runEvaluator ih.1 ih.2
  | @tick p _ ih =>
    have hlater := p.meanwhile_prepared.later ih.1
    obtain ⟨told, heq, -⟩ := p.tick_eq
    rw [heq]
    exact timely_runEvaluator hlater.numbered (ih.2.later hlater)
  | invalidate _ ih => exact ⟨ih.1, timely_of_fresh rfl⟩

end Pipeline

end HexRules
