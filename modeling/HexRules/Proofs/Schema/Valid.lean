import HexRules.Movement.Condition
import HexRules.Proofs.Schema.Violations
import Mathlib.Tactic

/-!
# What a valid schema promises

Where the report has no flaws, the subject and the object of every relation are two roles of its
concept, and every role that the formula of a constraint names, at whatever depth, is a role of the
constraint's concept.

The promise does not extend to the conditions of blocks and allowances. The validation looks at the
formulas of constraints only: the report is the same whatever the effects of the relations are. A
condition may name a role that the concept lacks; nothing plays it, so what is asked of its type is
answered with no, and a block that rests on that is never in force.

Results:
* `isValid_validate_iff`: a schema is valid when no pass of the validation finds a flaw.
* `bindingFlaws_eq_nil_iff`, `relationFlaws_eq_nil_iff`: when a binding or a relation has no flaws.
* `exists_hasRole_of_constraintFlaws`: a constraint without flaws names roles of its concept.
* `hasRole_of_isValid`: under a valid schema only the condition of an effect may name a role that
  does not exist.
-/

namespace HexRules

namespace Schema

section

variable {concepts : Concepts} {relations : Relations} {constraints : Constraints}
  {types : EntityTypes} {b : Binding} {r : Relation} {k : Constraint} {c : Concept}
  {ref : RoleReference}

/-! ## No flaws, pass by pass -/

theorem isValid_validate_iff :
    (validate concepts relations constraints types).isValid = true ↔
      (∀ b ∈ concepts.bindings, bindingFlaws concepts types b = []) ∧
      (∀ r ∈ relations.relations, relationFlaws concepts r = []) ∧
      (∀ k ∈ constraints.constraints, constraintFlaws concepts k = []) ∧
      ∀ c ∈ concepts.concepts, unboundRoles concepts c = [] := by
  rw [SchemaReport.isValid_iff, validate]
  simp only [List.append_eq_nil_iff, List.flatMap_eq_nil_iff, and_assoc]

theorem bindingFlaws_eq_nil_iff :
    bindingFlaws concepts types b = [] ↔
      ∃ t c role, types.get? b.typeId = some t ∧ concepts.get? b.conceptId = some c ∧
        c.role? b.roleId = some role ∧ admission b t role = [] ∧ propertyFlaws b t = [] := by
  unfold bindingFlaws
  cases types.get? b.typeId with
  | none => simp
  | some t =>
    cases concepts.get? b.conceptId with
    | none => simp
    | some c => cases hrole : c.role? b.roleId <;> simp [hrole]

theorem roleFlaws_eq_nil_iff :
    roleFlaws r c = [] ↔
      c.hasRole r.subjectRole = true ∧ c.hasRole r.objectRole = true ∧
        r.subjectRole ≠ r.objectRole := by
  unfold roleFlaws
  by_cases hs : c.hasRole r.subjectRole = true <;> by_cases ho : c.hasRole r.objectRole = true <;>
    simp [hs, ho]

theorem relationFlaws_eq_nil_iff :
    relationFlaws concepts r = [] ↔
      ∃ c, concepts.get? r.conceptId = some c ∧ c.hasRole r.subjectRole = true ∧
        c.hasRole r.objectRole = true ∧ r.subjectRole ≠ r.objectRole := by
  unfold relationFlaws
  cases concepts.get? r.conceptId with
  | none => simp
  | some c => simp [roleFlaws_eq_nil_iff]

theorem hasRole_of_referenceFlaws {source : Ident}
    (h : referenceFlaws concepts source c ref = []) : c.hasRole ref.role = true := by
  by_contra hrole
  rw [referenceFlaws, if_neg hrole] at h
  cases h

theorem exists_hasRole_of_constraintFlaws (h : constraintFlaws concepts k = []) :
    ∃ c, concepts.get? k.conceptId = some c ∧
      ∀ leaf ∈ k.formula.leaves, ∀ ref ∈ leaf.mentions, c.hasRole ref.role = true := by
  unfold constraintFlaws at h
  cases hc : concepts.get? k.conceptId with
  | none =>
    rw [hc] at h
    cases h
  | some c =>
    rw [hc] at h
    dsimp only at h
    rw [Formula.references_eq_flatMap_leaves, List.flatMap_eq_nil_iff] at h
    refine ⟨c, rfl, fun leaf hleaf ref href => ?_⟩
    exact hasRole_of_referenceFlaws (h ref (List.mem_flatMap.2 ⟨leaf, hleaf, href⟩))

/-! ## What the validation passes over -/

/-- The flaws of a relation do not depend on its effect. -/
theorem relationFlaws_effect (concepts : Concepts) (r : Relation) (effect : Effect) :
    relationFlaws concepts { r with effect := effect } = relationFlaws concepts r := rfl

/-- The same relations with other effects. -/
def withEffects (relations : Relations) (effect : Relation → Effect) : Relations :=
  ⟨relations.relations.map fun r => { r with effect := effect r }⟩

theorem validate_withEffects (concepts : Concepts) (relations : Relations)
    (constraints : Constraints) (types : EntityTypes) (effect : Relation → Effect) :
    validate concepts (withEffects relations effect) constraints types =
      validate concepts relations constraints types := by
  rw [validate, validate, withEffects, List.flatMap_map]
  simp only [relationFlaws_effect]

/-- A role other than the subject and the object is played by nobody. -/
theorem player_eq_none {role : Ident} (hs : role ≠ r.subjectRole) (ho : role ≠ r.objectRole)
    (unit tile : Option EntityData) : Movement.player r unit tile role = none := by
  rw [Movement.player, if_neg hs, if_neg ho]

/-- Under a valid schema the subject and the object of a relation are roles of its concept, and so
    are all roles that a constraint names, at any depth of its formula. What the effects of the
    relations name, the report says nothing about; but a role that the concept lacks is played by
    nobody, whatever the unit and the tile. -/
theorem hasRole_of_isValid
    (hvalid : (validate concepts relations constraints types).isValid = true) :
    (∀ r ∈ relations.relations, ∃ c, concepts.get? r.conceptId = some c ∧
      c.hasRole r.subjectRole = true ∧ c.hasRole r.objectRole = true ∧
      r.subjectRole ≠ r.objectRole ∧
      ∀ role, c.hasRole role = false →
        ∀ unit tile, Movement.player r unit tile role = none) ∧
    (∀ k ∈ constraints.constraints, ∃ c, concepts.get? k.conceptId = some c ∧
      ∀ leaf ∈ k.formula.leaves, ∀ ref ∈ leaf.mentions, c.hasRole ref.role = true) ∧
    ∀ effect, validate concepts (withEffects relations effect) constraints types =
      validate concepts relations constraints types := by
  obtain ⟨-, hrelations, hconstraints, -⟩ := isValid_validate_iff.1 hvalid
  refine ⟨fun r hr => ?_, fun k hk => exists_hasRole_of_constraintFlaws (hconstraints k hk),
    validate_withEffects concepts relations constraints types⟩
  obtain ⟨c, hc, hs, ho, hne⟩ := relationFlaws_eq_nil_iff.1 (hrelations r hr)
  refine ⟨c, hc, hs, ho, hne, fun role hrole => player_eq_none ?_ ?_⟩
  · rintro rfl
    rw [hs] at hrole
    cases hrole
  · rintro rfl
    rw [ho] at hrole
    cases hrole

end

/-! ## A bridge with a toll -/

namespace Bridge

def carter : Ident := ⟨1⟩
def bridge : Ident := ⟨2⟩
def crossing : Ident := ⟨3⟩
def crosser : Ident := ⟨4⟩
def crossed : Ident := ⟨5⟩
def purse : Ident := ⟨6⟩
def fee : Ident := ⟨7⟩
def upkeep : Ident := ⟨8⟩

/-- A role that no concept has. -/
def keeper : Ident := ⟨9⟩

/-- The bridge has a fee and costs upkeep. -/
def stone : EntityType :=
  ⟨bridge, "Bridge", .boardPosition, .white,
    [⟨fee, "fee", .int, .int 2, none⟩, ⟨upkeep, "upkeep", .int, .int 1, none⟩]⟩

/-- A carter has a purse. -/
def types : EntityTypes where
  types := [⟨carter, "Carter", .token, .white, [⟨purse, "purse", .int, .int 5, none⟩]⟩, stone]
  enums := []

/-- To cross takes a crosser and what is crossed. The toll is the fee, by the first of the bindings
    with that name. -/
def concepts : Concepts where
  concepts := [⟨crossing, "Crossing", "", [⟨crosser, "crosser", [.token]⟩,
    ⟨crossed, "crossed", [.boardPosition]⟩]⟩]
  bindings := [⟨⟨10⟩, carter, crossing, crosser, [⟨purse, "budget"⟩]⟩,
    ⟨⟨11⟩, bridge, crossing, crossed, []⟩,
    ⟨⟨12⟩, bridge, crossing, crossed, [⟨fee, "toll"⟩, ⟨upkeep, "toll"⟩]⟩,
    ⟨⟨13⟩, bridge, crossing, crossed, [⟨upkeep, "toll"⟩]⟩]

/-- The block should be in force where the keeper is a carter, but nobody is the keeper. -/
def closed : Relation :=
  ⟨⟨14⟩, "Closed", crossing, crosser, crossed, .onEnter,
    .block (some (.disjunction [.isType keeper carter]))⟩

/-- The crosser has money left, and is no bridge. -/
def solvent : Constraint :=
  ⟨⟨15⟩, "Solvent", "", crossing, none,
    .conjunction [.propertyCompare crosser "budget" .ge (.int 0),
      .negation (.isType crosser bridge)], false⟩

/-- The report on the bridge. -/
def report : SchemaReport := validate concepts ⟨[closed]⟩ ⟨[solvent]⟩ types

end Bridge

/-- The bridge's schema is valid; the role of a leaf under a negation exists, and nobody is the
    keeper. -/
theorem hasRole_of_isValid_bridge :
    Bridge.report.isValid = true ∧
      (∃ c, Bridge.concepts.get? Bridge.crossing = some c ∧ c.hasRole Bridge.crosser = true) ∧
      ∀ unit tile, Movement.player Bridge.closed unit tile Bridge.keeper = none := by
  have hvalid : Bridge.report.isValid = true := by decide
  obtain ⟨hrelations, hconstraints, -⟩ := hasRole_of_isValid hvalid
  obtain ⟨c, hc, -, -, -, hnobody⟩ := hrelations Bridge.closed List.mem_cons_self
  obtain ⟨c', hc', hroles⟩ := hconstraints Bridge.solvent List.mem_cons_self
  refine ⟨hvalid, ⟨c', hc', ?_⟩, hnobody Bridge.keeper ?_⟩
  · exact hroles (.isType Bridge.crosser Bridge.bridge)
      (List.mem_cons_of_mem _ List.mem_cons_self) ⟨Bridge.crosser, none⟩ List.mem_cons_self
  · have hfound : Bridge.concepts.get? Bridge.crossing = some c := hc
    cases hfound
    decide

/-- The report on the bridge is valid, though the condition of the block names a role that does not
    exist in the block's concept. -/
theorem exists_condition_without_role :
    Bridge.report.isValid = true ∧
      ∃ f, Bridge.closed.effect.condition? = some f ∧
        ∃ leaf ∈ f.leaves, ∃ ref ∈ leaf.mentions,
          ∀ c, Bridge.concepts.get? Bridge.closed.conceptId = some c →
            c.hasRole ref.role = false := by
  refine ⟨by decide, _, rfl, .isType Bridge.keeper Bridge.carter, List.mem_cons_self,
    ⟨Bridge.keeper, none⟩, List.mem_cons_self, fun c hc => ?_⟩
  cases hc
  decide

end Schema

end HexRules
