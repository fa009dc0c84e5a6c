import HexRules.Entity
import HexRules.Ontology.Concept
import HexRules.Ontology.Constraint
import HexRules.Ontology.Relation
import HexRules.Proofs.Outcome
import HexRules.Proofs.Registry.Keyed

/-!
# Demands

Six kinds of things are kept in registries. As entries of one type they can be spoken of at once: a
demand adds an entry, updates one, or removes what has an identifier. What it does to a list of
entries can be told from the list alone: whether it is refused, what its identifier stands for
afterwards, and that all else stays.

Results:
* `Demand.carry_eq_error_iff`: a demand is refused if it adds what is there, or changes what is not.
* `Demand.find?_carry`: a demand that is met decides what its identifier stands for, and no more.
* `Demand.nodup_carry`, `Demand.filter_carry`: identifiers stay distinct, and whatever is not meant
  stays where it is.
-/

namespace HexRules

/-! ## Entries -/

/-- Something that a registry keeps. -/
inductive Entry
  | entityType (t : EntityType)
  | enumeration (e : EnumDef)
  | concept (c : Concept)
  | binding (b : Binding)
  | relation (r : Relation)
  | constraint (c : Constraint)

namespace Entry

/-- The kind of an entry. -/
def kind : Entry → RegistryKind
  | .entityType _ => .entityType
  | .enumeration _ => .enumeration
  | .concept _ => .concept
  | .binding _ => .binding
  | .relation _ => .relation
  | .constraint _ => .constraint

/-- The identifier of an entry. -/
def id : Entry → Ident
  | .entityType t => t.id
  | .enumeration e => e.id
  | .concept c => c.id
  | .binding b => b.id
  | .relation r => r.id
  | .constraint c => c.id

/-- The name of an entry; a binding has none. -/
def name? : Entry → Option String
  | .entityType t => some t.name
  | .enumeration e => some e.name
  | .concept c => some c.name
  | .binding _ => none
  | .relation r => some r.name
  | .constraint c => some c.name

instance : Identified Entry := ⟨Entry.id⟩

end Entry

/-! ## Demands -/

/-- What is demanded of a registry. -/
inductive Demand
  | add (e : Entry)
  | update (e : Entry)
  | remove (kind : RegistryKind) (id : Ident)

namespace Demand

/-- The kind of entries that are meant. -/
def kind : Demand → RegistryKind
  | .add e => e.kind
  | .update e => e.kind
  | .remove kind _ => kind

/-- The identifier that is meant. -/
def id : Demand → Ident
  | .add e => e.id
  | .update e => e.id
  | .remove _ id => id

/-- What the identifier stands for once the demand is met. -/
def leaves : Demand → Option Entry
  | .add e => some e
  | .update e => some e
  | .remove _ _ => none

/-- The complaint about a demand, from what its identifier stands for. -/
def complaint? : Demand → Option Entry → Option RegistryError
  | .add e, some _ => some (.duplicate e.kind e.name? e.id)
  | .add _, none => none
  | .update e, none => some (.unknown e.kind e.id)
  | .update _, some _ => none
  | .remove kind id, none => some (.unknown kind id)
  | .remove _ _, some _ => none

/-- Meets a demand on the entries of its kind, or complains. -/
def carry : Demand → List Entry → Except RegistryError (List Entry)
  | .add e, items => Registry.add e.kind e.name? e items
  | .update e, items =>
    (Registry.require e.kind e.id items).map fun _ => Registry.replace e.id e items
  | .remove kind id, items =>
    (Registry.require kind id items).map fun _ => Registry.without id items

/-- The last of the demands on an entry. -/
def last? (kind : RegistryKind) (id : Ident) (demands : List Demand) : Option Demand :=
  demands.reverse.find? fun d => d.kind = kind ∧ d.id = id

variable {d : Demand} {items items' : List Entry} {err : RegistryError}

theorem last?_cons (kind : RegistryKind) (id : Ident) (d : Demand) (demands : List Demand) :
    last? kind id (d :: demands) =
      (last? kind id demands).or (if d.kind = kind ∧ d.id = id then some d else none) := by
  rw [last?, last?, List.reverse_cons, List.find?_append]
  by_cases hd : d.kind = kind ∧ d.id = id
  · simp [hd]
  · simp [hd]

theorem carry_eq_error_iff :
    d.carry items = .error err ↔ d.complaint? (Registry.find? d.id items) = some err := by
  cases d with
  | add e =>
    rw [carry, Registry.add, show Identified.id e = e.id from rfl, Demand.id]
    cases Registry.find? e.id items <;> simp [complaint?]
  | update e =>
    simp only [carry, Registry.require, id]
    cases Registry.find? e.id items <;> simp [complaint?, Except.map]
  | remove kind id =>
    simp only [carry, Registry.require, Demand.id]
    cases Registry.find? id items <;> simp [complaint?, Except.map]

theorem nodup_carry (h : (items.map Identified.id).Nodup) (hcarry : d.carry items = .ok items') :
    (items'.map Identified.id).Nodup := by
  cases d with
  | add e => exact Registry.nodup_add h hcarry
  | update e =>
    obtain ⟨old, -, rfl⟩ := Outcome.map_eq_ok_iff.1 hcarry
    rw [Registry.map_id_replace (show Identified.id e = e.id from rfl)]
    exact h
  | remove kind id =>
    obtain ⟨old, -, rfl⟩ := Outcome.map_eq_ok_iff.1 hcarry
    exact Registry.nodup_without h id

/-- A demand that is met decides what its identifier stands for, and nothing else. -/
theorem find?_carry (hcarry : d.carry items = .ok items') (id' : Ident) :
    Registry.find? id' items' = if d.id = id' then d.leaves else Registry.find? id' items := by
  cases d with
  | add e => exact Registry.find?_add hcarry id'
  | update e =>
    obtain ⟨old, hold, rfl⟩ := Outcome.map_eq_ok_iff.1 hcarry
    rw [Registry.find?_replace (show Identified.id e = e.id from rfl),
      Registry.require_eq_ok_iff.1 hold]
    rfl
  | remove kind id =>
    obtain ⟨old, -, rfl⟩ := Outcome.map_eq_ok_iff.1 hcarry
    exact Registry.find?_without id id' items

/-- Whatever is not meant stays, in its order. -/
theorem filter_carry {keep : Ident → Bool} (hd : keep d.id = false)
    (hcarry : d.carry items = .ok items') :
    items'.filter (fun e => keep e.id) = items.filter fun e => keep e.id := by
  cases d with
  | add e => exact Registry.filter_add hd hcarry
  | update e =>
    obtain ⟨old, -, rfl⟩ := Outcome.map_eq_ok_iff.1 hcarry
    exact Registry.filter_replace rfl hd items
  | remove kind id =>
    obtain ⟨old, -, rfl⟩ := Outcome.map_eq_ok_iff.1 hcarry
    exact Registry.filter_without hd items

section

universe u

variable {α : Type u} [Identified α] {f : α → Entry}

theorem carry_add_map (hf : ∀ a, Identified.id (f a) = Identified.id a) (a : α) (items : List α) :
    (add (f a)).carry (items.map f) =
      (Registry.add (f a).kind (f a).name? a items).map (List.map f) :=
  Registry.add_map hf _ _ a items

theorem carry_update_map (hf : ∀ a, Identified.id (f a) = Identified.id a) (a : α)
    (items : List α) :
    (update (f a)).carry (items.map f) =
      (Registry.require (f a).kind (Identified.id a) items).map fun _ =>
        (Registry.replace (Identified.id a) a items).map f := by
  have hid : (f a).id = Identified.id a := hf a
  rw [carry, hid, Registry.require_map hf, Registry.replace_map hf]
  cases Registry.require (f a).kind (Identified.id a) items <;> rfl

theorem carry_remove_map (hf : ∀ a, Identified.id (f a) = Identified.id a) (kind : RegistryKind)
    (id : Ident) (items : List α) :
    (remove kind id).carry (items.map f) =
      (Registry.require kind id items).map fun _ => (Registry.without id items).map f := by
  rw [carry, Registry.require_map hf, Registry.without_map hf]
  cases Registry.require kind id items <;> rfl

end

end Demand

end HexRules
