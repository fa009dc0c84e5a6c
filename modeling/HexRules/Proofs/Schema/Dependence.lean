import HexRules.Proofs.Registry.Keyed
import HexRules.Proofs.Schema.Valid

/-!
# What a report depends on

A pass of the validation looks a few things up and takes no other notice of the definitions: a
binding needs its type and its concept, a relation its concept, a constraint its concept and what is
bound to the roles there, a concept what is bound to its roles. Where these are the same, the flaws
are the same. The bindings to a role are asked whether there are any, and whether any of them has a
name; so their order is of no account.

No more is the order of the other definitions, as long as no identifier stands for two things: then
it is found wherever it stands. All that the order decides is the order of the flaws.

Results:
* `bindingFlaws_congr`, `relationFlaws_congr`, `constraintFlaws_congr`, `unboundRoles_congr`: the
  flaws are the same where the look-ups are.
* `validate_perm`: in any order, the same definitions have the same flaws.
-/

namespace HexRules

/-- What a report says about a flaw: its category, its wording and its source. -/
def Flaw.statement (f : Flaw) : FlawCategory × String × Ident := (f.category, f.message, f.source)

namespace Schema

section

variable {concepts concepts' : Concepts} {relations relations' : Relations}
  {constraints constraints' : Constraints} {types types' : EntityTypes} {b : Binding}
  {r : Relation} {k : Constraint} {c : Concept}

/-! ## The same look-ups -/

theorem bindingFlaws_congr (htype : types.get? b.typeId = types'.get? b.typeId)
    (hconcept : concepts.get? b.conceptId = concepts'.get? b.conceptId) :
    bindingFlaws concepts types b = bindingFlaws concepts' types' b := by
  rw [bindingFlaws, bindingFlaws, htype, hconcept]

theorem relationFlaws_congr (hconcept : concepts.get? r.conceptId = concepts'.get? r.conceptId) :
    relationFlaws concepts r = relationFlaws concepts' r := by
  rw [relationFlaws, relationFlaws, hconcept]

theorem referenceFlaws_congr {ref : RoleReference}
    (hbound : (concepts.bindingsOfRole c.id ref.role).Perm
      (concepts'.bindingsOfRole c.id ref.role)) (source : Ident) :
    referenceFlaws concepts source c ref = referenceFlaws concepts' source c ref := by
  unfold referenceFlaws
  simp only [hbound.isEmpty_eq, hbound.any_eq]

theorem constraintFlaws_congr (hconcept : concepts.get? k.conceptId = concepts'.get? k.conceptId)
    (hbound : ∀ role, (concepts.bindingsOfRole k.conceptId role).Perm
      (concepts'.bindingsOfRole k.conceptId role)) :
    constraintFlaws concepts k = constraintFlaws concepts' k := by
  rw [constraintFlaws, constraintFlaws, ← hconcept]
  cases hfind : concepts.get? k.conceptId with
  | none => rfl
  | some c =>
    have hid : c.id = k.conceptId := Registry.id_of_find? hfind
    have hreference : referenceFlaws concepts k.id c = referenceFlaws concepts' k.id c := by
      funext ref
      apply referenceFlaws_congr
      rw [hid]
      exact hbound ref.role
    dsimp only
    rw [hreference]

theorem unboundRoles_congr
    (hbound : ∀ role, (concepts.bindingsOfRole c.id role).Perm
      (concepts'.bindingsOfRole c.id role)) :
    unboundRoles concepts c = unboundRoles concepts' c := by
  unfold unboundRoles
  simp only [(hbound _).isEmpty_eq]

/-! ## Another order -/

theorem bindingsOfRole_perm (hbindings : concepts.bindings.Perm concepts'.bindings)
    (concept role : Ident) :
    (concepts.bindingsOfRole concept role).Perm (concepts'.bindingsOfRole concept role) :=
  hbindings.filter _

/-- Where no two types and no two concepts have one identifier, the report says the same of the
    definitions in whatever order they come, and says each thing as often. -/
theorem validate_perm (htypes : types.types.Perm types'.types)
    (hconcepts : concepts.concepts.Perm concepts'.concepts)
    (hbindings : concepts.bindings.Perm concepts'.bindings)
    (hrelations : relations.relations.Perm relations'.relations)
    (hconstraints : constraints.constraints.Perm constraints'.constraints)
    (htypeIds : (types.types.map EntityType.id).Nodup)
    (hconceptIds : (concepts.concepts.map Concept.id).Nodup) :
    (validate concepts relations constraints types).flaws.Perm
        (validate concepts' relations' constraints' types').flaws ∧
      ((validate concepts relations constraints types).flaws.map Flaw.statement).Perm
        ((validate concepts' relations' constraints' types').flaws.map Flaw.statement) := by
  have htype (id : Ident) : types.get? id = types'.get? id :=
    Registry.find?_of_perm htypeIds htypes id
  have hconcept (id : Ident) : concepts.get? id = concepts'.get? id :=
    Registry.find?_of_perm hconceptIds hconcepts id
  have hbound := bindingsOfRole_perm hbindings
  have hperm : (validate concepts relations constraints types).flaws.Perm
      (validate concepts' relations' constraints' types').flaws := by
    refine .append (.append (.append ?_ ?_) ?_) ?_
    · exact hbindings.flatMap fun b _ =>
        .of_eq (bindingFlaws_congr (htype b.typeId) (hconcept b.conceptId))
    · exact hrelations.flatMap fun r _ => .of_eq (relationFlaws_congr (hconcept r.conceptId))
    · exact hconstraints.flatMap fun k _ =>
        .of_eq (constraintFlaws_congr (hconcept k.conceptId) (hbound k.conceptId))
    · exact hconcepts.flatMap fun c _ => .of_eq (unboundRoles_congr (hbound c.id))
  exact ⟨hperm, hperm.map Flaw.statement⟩

end

namespace Bridge

/-- Without the bridge only the carters are left. -/
def carters : EntityTypes := ⟨types.types.take 1, []⟩

/-- The bindings from the last one to the first. -/
def turned : Concepts := ⟨concepts.concepts, concepts.bindings.reverse⟩

end Bridge

/-- Without the bridge three bindings have no type; from the last one to the first, they are
    reported the other way round. -/
theorem validate_perm_bridge :
    (validate Bridge.concepts ⟨[Bridge.closed]⟩ ⟨[Bridge.solvent]⟩ Bridge.carters).flaws =
        [.bindingType ⟨11⟩ Bridge.bridge, .bindingType ⟨12⟩ Bridge.bridge,
          .bindingType ⟨13⟩ Bridge.bridge] ∧
      (validate Bridge.turned ⟨[Bridge.closed]⟩ ⟨[Bridge.solvent]⟩ Bridge.carters).flaws ≠
        (validate Bridge.concepts ⟨[Bridge.closed]⟩ ⟨[Bridge.solvent]⟩ Bridge.carters).flaws ∧
      ((validate Bridge.concepts ⟨[Bridge.closed]⟩ ⟨[Bridge.solvent]⟩
          Bridge.carters).flaws.map Flaw.statement).Perm
        ((validate Bridge.turned ⟨[Bridge.closed]⟩ ⟨[Bridge.solvent]⟩
          Bridge.carters).flaws.map Flaw.statement) := by
  refine ⟨by decide, by decide, And.right (validate_perm (.refl _) (.refl _) ?_ (.refl _) (.refl _)
    (by decide) (by decide))⟩
  exact (List.reverse_perm Bridge.concepts.bindings).symm

end Schema

end HexRules
