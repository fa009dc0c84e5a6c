import HexRules.Proofs.Schema.Dependence
import HexRules.Proofs.Schema.Exact

/-!
# What a removal leaves behind

A concept or an entity type can be removed while others refer to it. If the definitions had no
flaws before, what refers to it has one flaw each then, a reference that leads nowhere, and nothing
else has any. For a pass does not search further what it cannot find: a binding without concept is
not asked for its role, nor one without type for its properties. And whatever refers to something
else has its look-ups answered as before.

A concept goes with all that have its identifier. Of the entity types only the first one goes; so
the identifier of a type has to be its own.

Results:
* `bindingFlaws_of_get?_concept`, `bindingFlaws_of_get?_type`: a binding without its concept, or
  without its type, has this one flaw.
* `flaws_removeConcept`, `flaws_removeType`: the report after a removal.
* `fallout_exact`: it has one flaw for each definition that refers to what was removed.
-/

namespace HexRules.Schema

section

variable {concepts concepts' : Concepts} {relations : Relations} {constraints : Constraints}
  {types types' : EntityTypes} {b : Binding} {r : Relation} {k : Constraint} {c : Concept}
  {t : EntityType} {id : Ident}

/-! ## References that lead nowhere -/

theorem bindingFlaws_of_get?_concept (h : bindingFlaws concepts types b = [])
    (hlost : concepts'.get? b.conceptId = none) :
    bindingFlaws concepts' types b = [.bindingConcept b.id b.conceptId] := by
  obtain ⟨t, c, role, ht, -, -, -, hproperties⟩ := bindingFlaws_eq_nil_iff.1 h
  simp [bindingFlaws, ht, hlost, hproperties]

theorem bindingFlaws_of_get?_type (h : bindingFlaws concepts types b = [])
    (hlost : types'.get? b.typeId = none) :
    bindingFlaws concepts types' b = [.bindingType b.id b.typeId] := by
  obtain ⟨t, c, role, -, hc, hrole, -, -⟩ := bindingFlaws_eq_nil_iff.1 h
  simp [bindingFlaws, hlost, hc, hrole]

theorem relationFlaws_of_get? (hlost : concepts.get? r.conceptId = none) :
    relationFlaws concepts r = [.relationConcept r.id r.name r.conceptId] := by
  rw [relationFlaws, hlost]

theorem constraintFlaws_of_get? (hlost : concepts.get? k.conceptId = none) :
    constraintFlaws concepts k = [.constraintConcept k.id k.name k.conceptId] := by
  rw [constraintFlaws, hlost]

/-! ## What refers to a concept or a type -/

/-- The flaws of what refers to a concept that is not there. -/
def conceptFallout (concepts : Concepts) (relations : Relations) (constraints : Constraints)
    (id : Ident) : List Flaw :=
  (concepts.bindings.filter (·.conceptId = id)).map (fun b => .bindingConcept b.id id) ++
  (relations.relations.filter (·.conceptId = id)).map (fun r => .relationConcept r.id r.name id) ++
  (constraints.constraints.filter (·.conceptId = id)).map
    fun k => .constraintConcept k.id k.name id

/-- The flaws of what refers to an entity type that is not there. -/
def typeFallout (concepts : Concepts) (id : Ident) : List Flaw :=
  (concepts.bindingsOfType id).map fun b => .bindingType b.id id

/-- The definitions that refer to a concept: bindings, relations and constraints. -/
def conceptReferrers (concepts : Concepts) (relations : Relations) (constraints : Constraints)
    (id : Ident) : List Ident :=
  (concepts.bindings.filter (·.conceptId = id)).map Binding.id ++
  (relations.relations.filter (·.conceptId = id)).map Relation.id ++
  (constraints.constraints.filter (·.conceptId = id)).map Constraint.id

theorem entries_conceptFallout (concepts : Concepts) (relations : Relations)
    (constraints : Constraints) (id : Ident) :
    (conceptFallout concepts relations constraints id).map Flaw.entry =
      (conceptReferrers concepts relations constraints id).map
        fun source => (.danglingReference, source) := by
  simp only [conceptFallout, conceptReferrers, List.map_append, List.map_map]
  rfl

theorem entries_typeFallout (concepts : Concepts) (id : Ident) :
    (typeFallout concepts id).map Flaw.entry =
      (concepts.bindingsOfType id).map fun b => (.danglingReference, b.id) := by
  rw [typeFallout, List.map_map]
  rfl

/-! ## The report after a removal -/

/-- Where each item has one flaw or none, the flaws are those of the items that have one. -/
theorem flatMap_eq_map_filter {α : Type} {items : List α} {flaws : α → List Flaw}
    {refers : α → Bool} {flaw : α → Flaw}
    (hone : ∀ a ∈ items, refers a = true → flaws a = [flaw a])
    (hnone : ∀ a ∈ items, refers a = false → flaws a = []) :
    items.flatMap flaws = (items.filter refers).map flaw := by
  induction items with
  | nil => rfl
  | cons a rest ih =>
    have hrest := ih (fun x hx => hone x (List.mem_cons_of_mem a hx))
      fun x hx => hnone x (List.mem_cons_of_mem a hx)
    rw [List.flatMap_cons, hrest]
    cases ha : refers a with
    | false => rw [hnone a List.mem_cons_self ha, List.filter_cons_of_neg (by simp [ha]),
        List.nil_append]
    | true => rw [hone a List.mem_cons_self ha, List.filter_cons_of_pos ha, List.map_cons,
        List.singleton_append]

theorem flaws_removeConcept
    (hvalid : (validate concepts relations constraints types).isValid = true) (id : Ident) :
    (validate { concepts with concepts := Registry.without id concepts.concepts } relations
      constraints types).flaws = conceptFallout concepts relations constraints id := by
  obtain ⟨hbindings, hrelations, hconstraints, hroles⟩ := isValid_validate_iff.1 hvalid
  have hget (id' : Ident) :
      ({ concepts with concepts := Registry.without id concepts.concepts } : Concepts).get? id' =
        if id = id' then none else concepts.get? id' :=
    Registry.find?_without id id' concepts.concepts
  have hlost {id' : Ident} (h : decide (id' = id) = true) := (hget id').trans
    (if_pos (of_decide_eq_true h).symm)
  have hkept {id' : Ident} (h : decide (id' = id) = false) := (hget id').trans
    (if_neg fun heq => of_decide_eq_false h heq.symm)
  rw [validate, conceptFallout]
  dsimp only
  have hunbound : (Registry.without id concepts.concepts).flatMap (unboundRoles
      { concepts with concepts := Registry.without id concepts.concepts }) = [] :=
    List.flatMap_eq_nil_iff.2 fun c hc => hroles c (List.mem_filter.1 hc).1
  rw [hunbound, List.append_nil]
  congr 1
  · congr 1
    · apply flatMap_eq_map_filter
      · intro b hb h
        rw [bindingFlaws_of_get?_concept (hbindings b hb) (hlost h), of_decide_eq_true h]
      · intro b hb h
        rw [← hbindings b hb]
        exact bindingFlaws_congr rfl (hkept h)
    · apply flatMap_eq_map_filter
      · intro r _ h
        rw [relationFlaws_of_get? (hlost h), of_decide_eq_true h]
      · intro r hr h
        rw [← hrelations r hr]
        exact relationFlaws_congr (hkept h)
  · apply flatMap_eq_map_filter
    · intro k _ h
      rw [constraintFlaws_of_get? (hlost h), of_decide_eq_true h]
    · intro k hk h
      rw [← hconstraints k hk]
      exact constraintFlaws_congr (hkept h) fun role => .refl _

theorem flaws_removeType
    (hvalid : (validate concepts relations constraints types).isValid = true)
    (hids : (types.types.map EntityType.id).Nodup) (id : Ident) :
    (validate concepts relations constraints
      { types with types := Registry.withoutFirst id types.types }).flaws =
        typeFallout concepts id := by
  obtain ⟨hbindings, hrelations, hconstraints, hroles⟩ := isValid_validate_iff.1 hvalid
  have hget (id' : Ident) :
      ({ types with types := Registry.withoutFirst id types.types } : EntityTypes).get? id' =
        if id = id' then none else types.get? id' := by
    have hall : Registry.withoutFirst id types.types = Registry.without id types.types :=
      Registry.withoutFirst_eq_without hids id
    rw [hall]
    exact Registry.find?_without id id' types.types
  -- the other passes do not look at types
  rw [validate]
  dsimp only
  rw [List.flatMap_eq_nil_iff.2 hrelations, List.flatMap_eq_nil_iff.2 hconstraints,
    List.flatMap_eq_nil_iff.2 hroles, List.append_nil, List.append_nil, List.append_nil,
    typeFallout, Concepts.bindingsOfType]
  apply flatMap_eq_map_filter
  · intro b hb h
    have htype : b.typeId = id := of_decide_eq_true h
    rw [bindingFlaws_of_get?_type (hbindings b hb) ((hget b.typeId).trans (if_pos htype.symm)),
      htype]
  · intro b hb h
    have htype : b.typeId ≠ id := of_decide_eq_false h
    rw [← hbindings b hb]
    exact bindingFlaws_congr ((hget b.typeId).trans (if_neg htype.symm)) rfl

/-- Where definitions have no flaws, a concept can be removed, and then the flaws are those of the
    bindings, relations and constraints that refer to it: one reference each that leads nowhere. An
    entity type can be removed likewise, and then they are those of its bindings, if no two types
    have one identifier. -/
theorem fallout_exact
    (hvalid : (validate concepts relations constraints types).isValid = true) :
    (∀ id c, concepts.get? id = some c → ∃ concepts',
      concepts.removeConcept id = .ok (c, concepts') ∧
      (validate concepts' relations constraints types).flaws =
        conceptFallout concepts relations constraints id ∧
      (validate concepts' relations constraints types).flaws.map Flaw.entry =
        (conceptReferrers concepts relations constraints id).map
          fun source => (.danglingReference, source)) ∧
    ((types.types.map EntityType.id).Nodup → ∀ id t, types.get? id = some t → ∃ types',
      types.removeType id = .ok (t, types') ∧
      (validate concepts relations constraints types').flaws = typeFallout concepts id ∧
      (validate concepts relations constraints types').flaws.map Flaw.entry =
        (concepts.bindingsOfType id).map fun b => (.danglingReference, b.id)) := by
  constructor
  · intro id c hc
    refine ⟨{ concepts with concepts := Registry.without id concepts.concepts }, ?_, ?_, ?_⟩
    · have hrequire : concepts.require id = .ok c := Registry.require_eq_ok_iff.2 hc
      rw [Concepts.removeConcept, hrequire]
      rfl
    · exact flaws_removeConcept hvalid id
    · rw [flaws_removeConcept hvalid id, entries_conceptFallout]
  · intro hids id t ht
    refine ⟨{ types with types := Registry.withoutFirst id types.types }, ?_, ?_, ?_⟩
    · have hrequire : types.require id = .ok t := Registry.require_eq_ok_iff.2 ht
      rw [EntityTypes.removeType, hrequire]
      rfl
    · exact flaws_removeType hvalid hids id
    · rw [flaws_removeType hvalid hids id, entries_typeFallout]

end

/-- When nobody is to cross any more, four bindings, a relation and a constraint refer to nothing;
    when the bridge is gone, the three bindings of the bridge do. -/
theorem fallout_exact_bridge :
    (∃ c concepts', Bridge.concepts.removeConcept Bridge.crossing = .ok (c, concepts') ∧
      (validate concepts' ⟨[Bridge.closed]⟩ ⟨[Bridge.solvent]⟩ Bridge.types).flaws.map
          Flaw.entry =
        [(.danglingReference, ⟨10⟩), (.danglingReference, ⟨11⟩), (.danglingReference, ⟨12⟩),
          (.danglingReference, ⟨13⟩), (.danglingReference, ⟨14⟩), (.danglingReference, ⟨15⟩)]) ∧
    ∃ types', Bridge.types.removeType Bridge.bridge = .ok (Bridge.stone, types') ∧
      (validate Bridge.concepts ⟨[Bridge.closed]⟩ ⟨[Bridge.solvent]⟩ types').flaws =
        [.bindingType ⟨11⟩ Bridge.bridge, .bindingType ⟨12⟩ Bridge.bridge,
          .bindingType ⟨13⟩ Bridge.bridge] := by
  have hvalid : (validate Bridge.concepts ⟨[Bridge.closed]⟩ ⟨[Bridge.solvent]⟩
      Bridge.types).isValid = true := by decide
  obtain ⟨hconcept, htype⟩ := fallout_exact hvalid
  obtain ⟨c, hc⟩ := Option.isSome_iff_exists.1
    (show (Bridge.concepts.get? Bridge.crossing).isSome = true by decide)
  obtain ⟨concepts', hremove, -, hentries⟩ := hconcept Bridge.crossing c hc
  obtain ⟨types', hremove', hflaws, -⟩ := htype (by decide) Bridge.bridge Bridge.stone rfl
  exact ⟨⟨c, concepts', hremove, hentries.trans (by decide)⟩, types', hremove',
    hflaws.trans (by decide)⟩

end HexRules.Schema
