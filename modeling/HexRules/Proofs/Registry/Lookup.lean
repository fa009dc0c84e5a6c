import HexRules.Registry
import Mathlib.Tactic

/-!
# What a look-up finds

`Registry.Finds` says what it means to find an item by its identifier, and `Registry.Lacks` what it
means to find none, without a word on how one looks.

Results:
* `find?_eq_some_iff`: a look-up gives the item that is found.
* `find?_eq_none_iff_lacks`: a look-up gives nothing where there is nothing to find.
-/

namespace HexRules.Registry

universe u

variable {α : Type u} [Identified α] {items : List α} {id : Ident} {a : α}

/-- An item is the first with an identifier. -/
def Finds (items : List α) (id : Ident) (a : α) : Prop :=
  Identified.id a = id ∧
    ∃ before after, items = before ++ a :: after ∧ ∀ b ∈ before, Identified.id b ≠ id

/-- No item has an identifier. -/
def Lacks (items : List α) (id : Ident) : Prop := ∀ a ∈ items, Identified.id a ≠ id

theorem find?_eq_some_iff : find? id items = some a ↔ Finds items id a := by
  rw [find?, List.find?_eq_some_iff_append, Finds, decide_eq_true_eq]
  simp

theorem find?_eq_none_iff_lacks : find? id items = none ↔ Lacks items id := find?_eq_none_iff

theorem finds_iff_of_find? {b : α} (h : find? id items = some b) : Finds items id a ↔ a = b := by
  rw [← find?_eq_some_iff, h, Option.some.injEq]
  exact eq_comm

theorem not_finds_of_find? (h : find? id items = none) : ¬Finds items id a := by
  rw [← find?_eq_some_iff, h]
  simp

theorem lacks_of_find? (h : find? id items = none) : Lacks items id :=
  find?_eq_none_iff_lacks.1 h

theorem not_lacks_of_find? (h : find? id items = some a) : ¬Lacks items id := by
  rw [← find?_eq_none_iff_lacks, h]
  simp

theorem exists_finds_iff {P : α → Prop} (h : find? id items = some a) :
    (∃ b, Finds items id b ∧ P b) ↔ P a := by
  simp only [finds_iff_of_find? h, exists_eq_left]

theorem not_exists_finds {P : α → Prop} (h : find? id items = none) :
    ¬∃ b, Finds items id b ∧ P b := by
  rintro ⟨b, hb, -⟩
  exact not_finds_of_find? h hb

instance : Decidable (Lacks items id) := decidable_of_iff _ find?_eq_none_iff_lacks

/-- Whether the item that is found has a property. -/
instance {P : α → Prop} [DecidablePred P] : Decidable (∃ a, Finds items id a ∧ P a) :=
  match h : find? id items with
  | none => isFalse (not_exists_finds h)
  | some a => decidable_of_iff (P a) (exists_finds_iff h).symm

end HexRules.Registry
