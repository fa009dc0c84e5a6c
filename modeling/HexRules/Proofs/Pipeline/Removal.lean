import HexRules.Proofs.Pipeline.Registries

/-!
# Removal

A registry is asked to remove what has an identifier. Nothing should be left of it then: a look-up
finds nothing, and the identifier is free for something new. In a list that comes from elsewhere an
identifier may occur several times, and then all that has it should go.

So it is with concepts, bindings, relations and constraints. Of the entity types only the first one
goes; if there is another one with its identifier, it comes to light, and the identifier is still
in use. No identifier has to occur only once for anything below.

Results:
* `vacates_iff`: an identifier is free exactly if a look-up finds nothing.
* `cleared_of_ne`, `cleared_removeType`: what a removal leaves, kind by kind.
* `removal_complete`: a removal frees the identifier, unless an entity type has a namesake.
-/

namespace HexRules

/-- The edit that adds an entry. -/
def Edit.adding : Entry → Edit
  | .entityType t => .addType t
  | .enumeration e => .addEnum e
  | .concept c => .addConcept c
  | .binding b => .addBinding b
  | .relation r => .addRelation r
  | .constraint c => .addConstraint c

theorem Edit.demand?_adding (new : Entry) : (adding new).demand? = some (.add new) := by
  cases new <;> rfl

namespace Pipeline

variable {p q : Pipeline} {e : Edit} {kind : RegistryKind} {id : Ident}

/-- An identifier is free: a look-up finds nothing, and whatever is added under it is accepted and
    found. -/
structure Vacates (p : Pipeline) (kind : RegistryKind) (id : Ident) : Prop where
  lookUp : p.lookUp kind id = none
  accepts : ∀ new : Entry, new.kind = kind → new.id = id →
    ∃ q, p.apply (.adding new) = .ok q ∧ q.lookUp kind id = some new

/-- What a removal takes from a pipeline: entries of one kind with one identifier. The others stay
    in their order, those of other kinds with them, and it counts once. -/
structure Cleared (p : Pipeline) (kind : RegistryKind) (id : Ident) (q : Pipeline) : Prop where
  others : (q.entries kind).filter (fun e => decide (e.id ≠ id)) =
    (p.entries kind).filter fun e => decide (e.id ≠ id)
  kinds : ∀ kind' ≠ kind, q.entries kind' = p.entries kind'
  stamps : ∀ handle, q.stampOf handle =
    if kind.handle = handle then (p.stampOf handle).next else p.stampOf handle

/-! ## Additions -/

/-- An identifier is free exactly if a look-up finds nothing. -/
theorem vacates_iff : p.Vacates kind id ↔ p.lookUp kind id = none := by
  refine ⟨Vacates.lookUp, fun hnone => ⟨hnone, ?_⟩⟩
  rintro new rfl rfl
  have hanswers : p.Answers (.add new) (p.apply (.adding new)) :=
    answers_apply_of_ne (Edit.demand?_adding new) (fun id heq => by cases heq)
  cases happly : p.apply (.adding new) with
  | error err =>
    rw [happly] at hanswers
    have hcomplaint := hanswers.eq_error_iff.1 rfl
    rw [Demand.kind, Demand.id, hnone] at hcomplaint
    cases hcomplaint
  | ok q =>
    rw [happly] at hanswers
    have hmeets : p.Meets (.add new) q := hanswers
    exact ⟨q, rfl, (hmeets.lookUp_eq_ite new.kind new.id).trans (if_pos ⟨rfl, rfl⟩)⟩

/-! ## Removals -/

theorem Meets.cleared (h : p.Meets (.remove kind id) q) : p.Cleared kind id q where
  others := h.filter_entries kind (fun id' => decide (id' ≠ id))
    fun _ => by simp [Demand.id]
  kinds := h.others
  stamps := h.stamps

/-- Everything with the identifier goes, if it is not an entity type. -/
theorem cleared_of_ne (hkind : kind ≠ .entityType) (he : e.demand? = some (.remove kind id))
    (happly : p.apply e = .ok q) : p.Cleared kind id q ∧ q.lookUp kind id = none := by
  have hanswers : p.Answers (.remove kind id) (p.apply e) :=
    answers_apply_of_ne he fun id' heq => hkind (by cases heq; rfl)
  rw [happly] at hanswers
  have hmeets : p.Meets (.remove kind id) q := hanswers
  exact ⟨hmeets.cleared, (hmeets.lookUp_eq_ite kind id).trans (if_pos ⟨rfl, rfl⟩)⟩

/-- The pipeline without the first type with an identifier. -/
def withoutFirstType (p : Pipeline) (id : Ident) : Pipeline :=
  p.withTypes (p.types.edit
    { p.types.content with types := Registry.withoutFirst id p.types.content.types })

theorem apply_removeType (p : Pipeline) (id : Ident) :
    p.apply (.removeType id) =
      (Registry.require .entityType id p.types.content.types).map fun _ =>
        p.withoutFirstType id := by
  rw [apply, Handle.tryEdit, EntityTypes.removeType, EntityTypes.require, Outcome.map_snd_bind]
  cases Registry.require .entityType id p.types.content.types <;> rfl

theorem entries_withoutFirstType (p : Pipeline) (id : Ident) :
    (p.withoutFirstType id).entries .entityType =
      Registry.withoutFirst id (p.entries .entityType) :=
  (Registry.withoutFirst_map (f := Entry.entityType) (fun _ => rfl) id _).symm

theorem cleared_withoutFirstType (p : Pipeline) (id : Ident) :
    p.Cleared .entityType id (p.withoutFirstType id) where
  others := by
    rw [entries_withoutFirstType]
    exact Registry.filter_withoutFirst (fun id' => decide (id' ≠ id)) (by simp) _
  kinds := fun kind hkind => by cases kind <;> first | rfl | exact absurd rfl hkind
  stamps := fun handle => by cases handle <;> rfl

/-- Of the entity types the first one goes; none is left if it had its identifier to itself. -/
theorem cleared_removeType (happly : p.apply (.removeType id) = .ok q) :
    p.Cleared .entityType id q ∧
      (q.lookUp .entityType id = none ↔
        (p.entries .entityType).countP (fun e => decide (e.id = id)) = 1) := by
  rw [apply_removeType] at happly
  obtain ⟨t, ht, rfl⟩ := Outcome.map_eq_ok_iff.1 happly
  have hfound : Registry.find? id (p.entries .entityType) = some (.entityType t) := by
    rw [entries, Registry.find?_map (f := Entry.entityType) (fun _ => rfl),
      Registry.require_eq_ok_iff.1 ht]
    rfl
  refine ⟨p.cleared_withoutFirstType id, ?_⟩
  rw [lookUp_eq, entries_withoutFirstType]
  exact Registry.find?_withoutFirst_eq_none_iff hfound

/-- A removal is refused exactly if there is nothing to remove. -/
theorem removal_eq_error_iff (he : e.demand? = some (.remove kind id)) {err : RegistryError} :
    p.apply e = .error err ↔ p.lookUp kind id = none ∧ err = .unknown kind id := by
  by_cases hkind : kind = .entityType
  · subst hkind
    cases eq_removeType_of_demand? he
    rw [apply_removeType, Outcome.map_eq_error_iff, Registry.require, lookUp, EntityTypes.get?]
    cases Registry.find? id p.types.content.types <;> simp [eq_comm]
  · have hanswers : p.Answers (.remove kind id) (p.apply e) :=
      answers_apply_of_ne he fun id' heq => hkind (by cases heq; rfl)
    rw [hanswers.eq_error_iff, Demand.kind, Demand.id]
    cases p.lookUp kind id <;> simp [Demand.complaint?, eq_comm]

/-- A removal is refused exactly if there is nothing to remove. Otherwise entries with other
    identifiers stay as they are and in their order, and it frees the identifier, unless an entity
    type with a namesake was removed: then one type goes and another one comes to light. This holds
    in any state of the registries. -/
theorem removal_complete (p : Pipeline) (he : e.demand? = some (.remove kind id)) :
    (∀ err, p.apply e = .error err ↔ p.lookUp kind id = none ∧ err = .unknown kind id) ∧
    ∀ q, p.apply e = .ok q → p.Cleared kind id q ∧
      (q.Vacates kind id ↔ kind ≠ .entityType ∨
        (p.entries kind).countP (fun e => decide (e.id = id)) = 1) := by
  refine ⟨fun err => removal_eq_error_iff he, fun q happly => ?_⟩
  by_cases hkind : kind = .entityType
  · subst hkind
    cases eq_removeType_of_demand? he
    obtain ⟨hcleared, hnone⟩ := cleared_removeType happly
    refine ⟨hcleared, ?_⟩
    rw [vacates_iff, hnone]
    simp
  · obtain ⟨hcleared, hnone⟩ := cleared_of_ne hkind he happly
    exact ⟨hcleared, iff_of_true (vacates_iff.2 hnone) (.inl hkind)⟩

/-! ## Namesakes -/

/-- A type of tokens. -/
def carter : EntityType := ⟨⟨1⟩, "Carter", .token, .white, []⟩

/-- A type of tiles, which has the same identifier. -/
def bridge : EntityType := ⟨⟨1⟩, "Bridge", .boardPosition, .white, []⟩

/-- A demand for a number that is not negative. -/
def solvent (target : String) : Constraint :=
  ⟨⟨2⟩, "Solvent", "", ⟨3⟩, none, .propertyCompare ⟨4⟩ target .ge (.int 0), false⟩

/-- Two entity types with one identifier, and two constraints with another. -/
def namesakes : Pipeline :=
  .ofWorld .default false .start
    ⟨⟨[carter, bridge], []⟩, .empty, .empty, ⟨[solvent "purse", solvent "steps"]⟩, ⟨none⟩, ⟨1⟩,
      .empty⟩

/-- Both constraints go at once, and of the two types one stays. -/
theorem removal_complete_namesakes :
    (∃ q, namesakes.apply (.removeConstraint ⟨2⟩) = .ok q ∧ q.Vacates .constraint ⟨2⟩) ∧
      ∃ q, namesakes.apply (.removeType ⟨1⟩) = .ok q ∧ ¬q.Vacates .entityType ⟨1⟩ := by
  have hdemand : (Edit.removeConstraint ⟨2⟩).demand? = some (.remove .constraint ⟨2⟩) := rfl
  have hdemand' : (Edit.removeType ⟨1⟩).demand? = some (.remove .entityType ⟨1⟩) := rfl
  obtain ⟨-, hconstraint⟩ := removal_complete namesakes hdemand
  obtain ⟨-, htype⟩ := removal_complete namesakes hdemand'
  have hcount : (namesakes.entries .entityType).countP (fun e => decide (e.id = ⟨1⟩)) = 2 := by
    decide
  refine ⟨⟨_, rfl, (hconstraint _ rfl).2.2 (.inl (by decide))⟩, _, rfl, fun hfree => ?_⟩
  rcases (htype _ rfl).2.1 hfree with hkind | hone
  · exact hkind rfl
  · rw [hcount] at hone
    cases hone

/-- With the carter gone the bridge is found under its identifier, and the carter cannot be added
    again. -/
theorem exists_namesake_left :
    ∃ q, namesakes.apply (.removeType ⟨1⟩) = .ok q ∧
      q.lookUp .entityType ⟨1⟩ = some (.entityType bridge) ∧
      q.apply (.addType carter) = .error (.duplicate .entityType (some "Carter") ⟨1⟩) :=
  ⟨_, rfl, rfl, rfl⟩

end Pipeline

end HexRules
