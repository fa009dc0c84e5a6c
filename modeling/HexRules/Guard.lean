import HexRules.Ontology.Constraint
import HexRules.Ontology.Relation

/-!
# Guards

A relation that subtracts from a number of its subject must not make it negative. So every such
relation has one guard: a generated constraint that demands the number to be at least zero.
`Guard.sync` brings the constraints in step with the relations. It takes out the guards of
relations that no longer subtract; then, relation by relation, it adds a guard where there is
none, renews in its place one that demands something else, and drops all but the first. Other
constraints stay as they are.

Results:
* `mem_retract`: retraction takes out stale guards and nothing else.
-/

namespace HexRules.Guard

/-! ## What a guard says -/

/-- The name of a guard. -/
def name (target : String) : String := String.join ["[auto] ", target, " >= 0"]

/-- The description of a guard. -/
def description (target relationName : String) : String :=
  String.join ["Auto-generated: ensures ", target, " does not go negative from relation \"",
    relationName, "\""]

/-- What the guard of a relation demands: the target of the subject is at least zero. -/
def formula (r : Relation) (target : String) : Formula :=
  .propertyCompare r.subjectRole target .ge (.int 0)

/-- The guard of a relation. -/
def build (id : Ident) (r : Relation) (target : String) : Constraint where
  id := id
  name := name target
  description := description target r.name
  conceptId := r.conceptId
  relationId := some r.id
  formula := formula r target
  autoGenerated := true

/-! ## Changes -/

/-- What a synchronisation did. -/
inductive Change
  /-- Took out a guard whose relation does not subtract. -/
  | retracted (name : String) (relation : Ident)
  /-- Added the guard of a relation that had none. -/
  | inserted (name relationName : String)
  /-- Renewed the guard of a relation in its place. -/
  | regenerated (old new relationName : String)
  /-- Dropped further guards of a relation. -/
  | dropped (count : Nat) (relationName : String)
  deriving DecidableEq, Repr

/-- A synchronisation under way: the constraints, the source of fresh identifiers, and what was
    done so far. -/
structure Sync where
  constraints : List Constraint
  supply : Supply
  changes : List Change

/-- Whether something was done. -/
def Sync.changed (s : Sync) : Bool := !s.changes.isEmpty

/-! ## Retraction -/

/-- Whether a constraint is a guard of a relation that is not among the given ones. -/
def isStale (subtracting : List Ident) (c : Constraint) : Bool :=
  c.autoGenerated &&
    match c.relationId with
    | some relation => !subtracting.contains relation
    | none => false

/-- What is recorded of a constraint that is taken out. -/
def retraction? (subtracting : List Ident) (c : Constraint) : Option Change :=
  match c.relationId with
  | some relation => if isStale subtracting c then some (.retracted c.name relation) else none
  | none => none

/-- Takes out the guards of relations that do not subtract. -/
def retract (relations : List Relation) (constraints : List Constraint) (supply : Supply) :
    Sync :=
  let subtracting := (relations.filter Relation.isSubtract).map Relation.id
  { constraints := constraints.filter fun c => !isStale subtracting c
    supply := supply
    changes := constraints.filterMap (retraction? subtracting) }

theorem mem_retract {relations : List Relation} {constraints : List Constraint} {supply : Supply}
    {c : Constraint} :
    c ∈ (retract relations constraints supply).constraints ↔
      c ∈ constraints ∧
        isStale ((relations.filter Relation.isSubtract).map Relation.id) c = false := by
  simp [retract]

/-! ## One relation -/

/-- The constraints with another one in the place of the first guard of a relation. -/
def renewFirst (relation : Ident) (new : Constraint) : List Constraint → List Constraint
  | [] => []
  | c :: rest => if c.isGuardOf relation then new :: rest else c :: renewFirst relation new rest

/-- The constraints without the guards of a relation after the first. -/
def keepFirst (relation : Ident) : List Constraint → List Constraint
  | [] => []
  | c :: rest =>
    if c.isGuardOf relation then c :: rest.filter fun c => !c.isGuardOf relation
    else c :: keepFirst relation rest

/-- Adds the guard of a relation. -/
def insert (r : Relation) (target : String) (s : Sync) : Sync :=
  let (id, supply) := s.supply.mint
  { constraints := s.constraints ++ [build id r target]
    supply := supply
    changes := s.changes ++ [.inserted (name target) r.name] }

/-- Renews the first guard of a relation, unless it demands what it should. -/
def renew (r : Relation) (target : String) (first : Constraint) (s : Sync) : Sync :=
  if first.formula == formula r target then s
  else
    let (id, supply) := s.supply.mint
    { constraints := renewFirst r.id (build id r target) s.constraints
      supply := supply
      changes := s.changes ++ [.regenerated first.name (name target) r.name] }

/-- Drops the guards of a relation after the first. -/
def dropExtra (r : Relation) (s : Sync) : Sync :=
  let extra := s.constraints.countP (·.isGuardOf r.id) - 1
  if extra = 0 then s
  else
    { s with
      constraints := keepFirst r.id s.constraints
      changes := s.changes ++ [.dropped extra r.name] }

/-- Sees to it that a relation has one guard, if it subtracts. -/
def tend (s : Sync) (r : Relation) : Sync :=
  match r.effect.subtracts? with
  | none => s
  | some target =>
    match s.constraints.find? (·.isGuardOf r.id) with
    | none => insert r target s
    | some first => dropExtra r (renew r target first s)

/-! ## All relations -/

/-- Brings the constraints in step with the relations. -/
def sync (relations : Relations) (constraints : Constraints) (supply : Supply) : Sync :=
  relations.relations.foldl tend (retract relations.relations constraints.constraints supply)

end HexRules.Guard
