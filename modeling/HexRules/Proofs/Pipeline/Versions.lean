import HexRules.Pipeline.Watch
import HexRules.Proofs.Outcome
import Mathlib.Tactic

/-!
# What versions tell

A watch compares stamps and not contents, and the stamps tell it enough: an edit that counts gives
a stamp that the handle never had, so a handle that has an old stamp again has not been edited. For
this stamps need an order, in which those of one handle only rise.

What was worked out from handles thus holds of them for as long as a watch finds them unchanged.
`Watch.Vouches` says so of a statement about the contents: it was right for the stamps that the
watch remembers, and these come no later than the present ones.

Results:
* `follows_edit`, `follows_touch`, `follows_tryEdit`: counted edits make a handle follow the old
  one.
* `Vouches.of_unchanged`: what a watch vouches for holds where it finds no change.
* `Vouches.advance`: handles that follow the old ones leave a watch with what it vouches for.
-/

namespace HexRules

universe u

/-! ## Stamps -/

/-- A stamp comes no later than another one of the same handle. -/
instance : PartialOrder Stamp where
  le a b := a.serial = b.serial ∧ a.version ≤ b.version
  le_refl a := ⟨rfl, le_refl a.version⟩
  le_trans a b c hab hbc := ⟨hab.1.trans hbc.1, le_trans hab.2 hbc.2⟩
  le_antisymm a b hab hba := by
    cases a
    cases b
    simp only [Stamp.mk.injEq]
    exact ⟨hab.1, le_antisymm hab.2 hba.2⟩

theorem Stamp.le_iff {a b : Stamp} : a ≤ b ↔ a.serial = b.serial ∧ a.version ≤ b.version := Iff.rfl

theorem forall₂_trans {α : Type u} {R : α → α → Prop}
    (hR : ∀ x y z, R x y → R y z → R x z) {a b c : List α} (hab : List.Forall₂ R a b)
    (hbc : List.Forall₂ R b c) : List.Forall₂ R a c := by
  induction hab generalizing c with
  | nil => exact hbc
  | cons hxy _ ih =>
    obtain ⟨z, rest, hyz, hrest, rfl⟩ := List.forall₂_cons_left_iff.1 hbc
    exact .cons (hR _ _ _ hxy hyz) (ih hrest)

theorem forall₂_antisymm {α : Type u} {R : α → α → Prop} (hR : ∀ x y, R x y → R y x → x = y)
    {a b : List α} (hab : List.Forall₂ R a b) (hba : List.Forall₂ R b a) : a = b := by
  induction hab with
  | nil => rfl
  | cons hxy _ ih =>
    obtain ⟨hyx, hrest⟩ := List.forall₂_cons.1 hba
    rw [hR _ _ hxy hyx, ih hrest]

/-- One by one, stamps come no later than others. -/
abbrev Stamp.Older : List Stamp → List Stamp → Prop := List.Forall₂ (· ≤ ·)

theorem Stamp.Older.trans {a b c : List Stamp} (hab : Older a b) (hbc : Older b c) :
    Older a c :=
  forall₂_trans (R := (· ≤ ·)) (fun _ _ _ => le_trans) hab hbc

theorem Stamp.Older.antisymm {a b : List Stamp} (hab : Older a b) (hba : Older b a) : a = b :=
  forall₂_antisymm (R := (· ≤ ·)) (fun _ _ => le_antisymm) hab hba

/-! ## Handles -/

namespace Handle

variable {α : Type u} {old new : Handle α}

/-- A later state of a handle: it has the content of the old state if it has its stamp. -/
structure Follows (old new : Handle α) : Prop where
  le : old.stamp ≤ new.stamp
  content : old.stamp = new.stamp → old.content = new.content

theorem follows_refl (h : Handle α) : h.Follows h := ⟨le_refl h.stamp, fun _ => rfl⟩

theorem follows_touch (h : Handle α) : h.Follows h.touch := by
  constructor
  · exact Stamp.le_iff.2 ⟨rfl, Nat.le_succ h.stamp.version⟩
  · intro _
    rfl

theorem follows_edit (h : Handle α) (content : α) : h.Follows (h.edit content) := by
  constructor
  · exact Stamp.le_iff.2 ⟨rfl, Nat.le_succ h.stamp.version⟩
  · intro hstamp
    have hversion : h.stamp.version = h.stamp.version + 1 := congrArg Stamp.version hstamp
    omega

theorem follows_tryEdit {ε : Type} {f : α → Except ε α} (h : old.tryEdit f = .ok new) :
    old.Follows new := by
  rw [tryEdit] at h
  obtain ⟨content, -, rfl⟩ := Outcome.map_eq_ok_iff.1 h
  exact follows_edit old content

end Handle

/-! ## Watches -/

namespace Watch

variable {w : Watch} {stamps stamps' : List Stamp} {P Q : Prop}

/-- What a watch has seen came no later than the present stamps, and if it was just these, a
    statement holds. -/
def Vouches (w : Watch) (stamps : List Stamp) (P : Prop) : Prop :=
  ∀ seen, w.seen = some seen → Stamp.Older seen stamps ∧ (seen = stamps → P)

theorem vouches_fresh : fresh.Vouches stamps P := by
  intro seen h
  cases h

theorem vouches_mark (h : P) : (mark stamps).Vouches stamps P := by
  intro seen hseen
  cases hseen
  exact ⟨List.forall₂_refl stamps, fun _ => h⟩

namespace Vouches

theorem of_unchanged (h : w.Vouches stamps P) (hw : w.changed stamps = false) : P := by
  have hseen : w.seen = some stamps := by simpa [changed] using hw
  exact (h stamps hseen).2 rfl

theorem advance (h : w.Vouches stamps P) (hle : Stamp.Older stamps stamps')
    (hP : stamps = stamps' → P → Q) : w.Vouches stamps' Q := by
  intro seen hseen
  obtain ⟨hold, hholds⟩ := h seen hseen
  refine ⟨hold.trans hle, ?_⟩
  rintro rfl
  -- The stamps in between lie between equal ones, so they are equal too.
  have hsame : seen = stamps := hold.antisymm hle
  exact hP hsame.symm (hholds hsame)

end Vouches

end Watch

end HexRules
