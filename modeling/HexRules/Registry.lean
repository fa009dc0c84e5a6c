import HexRules.Fault
import HexRules.Text.Quoted

/-!
# Registries

A registry keeps definitions in a list, in the order in which they were added, and finds them by
their identifiers. Adding refuses an identifier that is in use; removing refuses one that is not.
A list that comes from elsewhere may hold an identifier twice: then the first counts.

Results:
* `find?_add`: what was added is found under its identifier, and all else as before.
* `find?_without`: what was removed is found no more, and all else as before.
-/

namespace HexRules

universe u

/-- What a registry holds: anything with an identifier. -/
class Identified (α : Type u) where
  id : α → Ident

/-- The kinds of things that identifiers name. -/
inductive RegistryKind
  | entityType
  | enumeration
  | concept
  | binding
  | relation
  | constraint
  deriving DecidableEq, Repr

namespace RegistryKind

/-- The kind as it stands in a context. -/
def word : RegistryKind → String
  | .entityType => "entity_type"
  | .enumeration => "enum"
  | .concept => "concept"
  | .binding => "binding"
  | .relation => "relation"
  | .constraint => "constraint"

/-- The kind as it stands at the start of a sentence. -/
def noun : RegistryKind → String
  | .entityType => "Entity type"
  | .enumeration => "Enum"
  | .concept => "Concept"
  | .binding => "Concept binding"
  | .relation => "Relation"
  | .constraint => "Constraint"

end RegistryKind

/-- Why a registry refuses. -/
inductive RegistryError
  | unknown (kind : RegistryKind) (id : Ident)
  | duplicate (kind : RegistryKind) (name : Option String) (id : Ident)
  deriving DecidableEq, Repr

namespace RegistryError

/-- The complaint of a registry. -/
def message : RegistryError → String
  | .unknown kind _ => String.join [kind.noun, " is not registered"]
  | .duplicate kind (some name) _ =>
    String.join [kind.noun, " ", Text.quote name, " is already registered"]
  | .duplicate kind none _ => String.join [kind.noun, " is already registered"]

/-- The cause of the fault. -/
def cause : RegistryError → Cause
  | .unknown kind id => .unknownReference (some kind.word) (.text id.text)
  | .duplicate _ _ id => .duplicateIdentifier (.text id.text)

/-- The complaint of a registry as a fault. -/
def fault (e : RegistryError) : Fault := .ofCause e.cause e.message .empty

end RegistryError

namespace Registry

variable {α : Type u} [Identified α]

/-- The first item with an identifier. -/
def find? (id : Ident) (items : List α) : Option α := items.find? fun a => Identified.id a = id

/-- The first item with an identifier, which must be there. -/
def require (kind : RegistryKind) (id : Ident) (items : List α) : Except RegistryError α :=
  match find? id items with
  | some a => .ok a
  | none => .error (.unknown kind id)

/-- Puts an item at the end, unless its identifier is in use. -/
def add (kind : RegistryKind) (name : Option String) (a : α) (items : List α) :
    Except RegistryError (List α) :=
  match find? (Identified.id a) items with
  | none => .ok (items ++ [a])
  | some _ => .error (.duplicate kind name (Identified.id a))

/-- The items with another identifier. -/
def without (id : Ident) (items : List α) : List α :=
  items.filter fun a => !decide (Identified.id a = id)

/-- The items without the first one with an identifier. -/
def withoutFirst (id : Ident) (items : List α) : List α :=
  items.eraseP fun a => Identified.id a = id

/-- The items with another one in every place of an identifier. -/
def replace (id : Ident) (new : α) (items : List α) : List α :=
  items.map fun a => if Identified.id a = id then new else a

/-- The items with another one in the place of the first one with an identifier. -/
def replaceFirst (id : Ident) (new : α) : List α → List α
  | [] => []
  | a :: rest => if Identified.id a = id then new :: rest else a :: replaceFirst id new rest

theorem find?_eq_none_iff {id : Ident} {items : List α} :
    find? id items = none ↔ ∀ a ∈ items, Identified.id a ≠ id := by
  simp [find?]

theorem id_of_find? {id : Ident} {items : List α} {a : α} (h : find? id items = some a) :
    Identified.id a = id := by
  simpa using List.find?_some h

theorem find?_add {kind : RegistryKind} {name : Option String} {a : α} {items new : List α}
    (h : add kind name a items = .ok new) (id : Ident) :
    find? id new = if Identified.id a = id then some a else find? id items := by
  unfold add at h
  split at h
  · rename_i hfree
    cases h
    by_cases hid : Identified.id a = id
    · subst hid
      unfold find? at hfree ⊢
      simp [hfree]
    · unfold find?
      simp [hid]
  · cases h

theorem find?_without (id id' : Ident) (items : List α) :
    find? id' (without id items) = if id = id' then none else find? id' items := by
  unfold find? without
  rw [List.find?_filter]
  by_cases h : id = id'
  · subst h
    simp
  · simp only [h, if_false]
    congr 1
    funext a
    by_cases ha : Identified.id a = id' <;> simp [ha]
    exact fun e => h e.symm

end Registry

end HexRules
