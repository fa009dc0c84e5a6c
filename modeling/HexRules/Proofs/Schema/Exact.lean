import HexRules.Proofs.Schema.Violations

/-!
# Validation reports what is violated

Each pass of the validation skips what cannot be found. What it skips is never a violation: a rule
about a thing speaks of the first with an identifier, and is not broken where there is none.

Results:
* `entries_bindingFlaws`, `entries_relationFlaws`, `entries_constraintFlaws`,
  `entries_unboundRoles`: each pass reports the rules that are broken.
* `validate_exact`: so does the whole validation, each as often as it is broken, in order.
-/

namespace HexRules.Schema

open Registry

universe u

/-! ## Notes -/

section Notes

variable {α : Type u} {category : FlawCategory} {source : Ident}

theorem noted_congr {cause cause' : Prop} [Decidable cause] [Decidable cause']
    (h : cause ↔ cause') : noted category source cause = noted category source cause' := by
  unfold noted
  by_cases hc : cause
  · rw [if_pos hc, if_pos (h.1 hc)]
  · rw [if_neg hc, if_neg fun hc' => hc (h.2 hc')]

/-- A note about a look-up that should find something. -/
theorem noted_lacks [Identified α] (items : List α) (id : Ident) :
    noted category source (Lacks items id) =
      if (find? id items).isSome then [] else [(category, source)] := by
  unfold noted
  cases h : find? id items with
  | none => rw [if_pos (lacks_of_find? h)]; rfl
  | some a => rw [if_neg (not_lacks_of_find? h)]; rfl

/-- A note about the thing that a look-up finds. -/
theorem noted_finds [Identified α] (items : List α) (id : Ident) (P : α → Prop)
    [DecidablePred P] :
    noted category source (∃ a, Finds items id a ∧ P a) =
      match find? id items with
      | none => []
      | some a => noted category source (P a) := by
  cases h : find? id items with
  | none => exact if_neg (not_exists_finds h)
  | some a => exact noted_congr (exists_finds_iff h)

/-- Notes about some of the items of a list. -/
theorem entries_filter {l : List α} {q : α → Bool} {flaw : α → Flaw} {P : α → Prop}
    [DecidablePred P] (hq : ∀ a, q a = true ↔ P a) (hf : ∀ a, (flaw a).entry = (category, source)) :
    ((l.filter q).map flaw).map Flaw.entry = l.flatMap fun a => noted category source (P a) := by
  induction l with
  | nil => rfl
  | cons a rest ih =>
    rw [List.filter_cons, List.flatMap_cons, ← ih]
    by_cases ha : q a = true
    · rw [if_pos ha, noted, if_pos ((hq a).1 ha), List.map_cons, List.map_cons, hf]
      rfl
    · rw [if_neg ha, noted, if_neg fun hP => ha ((hq a).2 hP)]
      rfl

end Notes

variable {concepts : Concepts} {b : Binding} {c : Concept} {id : Ident}

/-! ## Bindings -/

theorem entries_propertyFlaws (b : Binding) (t : EntityType) :
    (propertyFlaws b t).map Flaw.entry =
      b.properties.flatMap fun p =>
        noted .propertyMismatch b.id (Lacks t.properties p.propertyId) := by
  apply entries_filter
  · intro p
    rw [← find?_eq_none_iff_lacks, EntityType.hasProperty, EntityType.property?]
    simp
  · intro p
    rfl

theorem entries_admission (b : Binding) (t : EntityType) (role : ConceptRole) :
    (admission b t role).map Flaw.entry =
      noted .roleMismatch b.id (t.role ∉ role.allowed) := by
  rw [admission, noted]
  by_cases h : t.role ∈ role.allowed
  · rw [if_pos (List.contains_iff_mem.2 h), if_neg (not_not_intro h)]
    rfl
  · rw [if_neg (fun hc => h (List.contains_iff_mem.1 hc)), if_pos h]
    rfl

theorem entries_bindingFlaws (concepts : Concepts) (types : EntityTypes) (b : Binding) :
    (bindingFlaws concepts types b).map Flaw.entry = bindingViolations concepts types b := by
  -- Either side depends on the three look-ups alone.
  unfold bindingFlaws bindingViolations EntityTypes.get? Concepts.get? Concept.role?
  simp only [List.map_append, noted_lacks, noted_finds]
  cases find? b.typeId types.types with
  | none =>
    cases find? b.conceptId concepts.concepts with
    | none => simp [Flaw.entry, Flaw.category, Flaw.source]
    | some c =>
      cases hr : find? b.roleId c.roles <;> simp [Flaw.entry, Flaw.category, Flaw.source, hr]
  | some t =>
    cases find? b.conceptId concepts.concepts with
    | none => simp [Flaw.entry, Flaw.category, Flaw.source, entries_propertyFlaws, noted_lacks]
    | some c =>
      cases hr : find? b.roleId c.roles <;>
        simp [Flaw.entry, Flaw.category, Flaw.source, hr, entries_admission,
          entries_propertyFlaws, noted_lacks]

/-! ## Relations -/

theorem hasRole_iff : c.hasRole id = true ↔ ¬Lacks c.roles id := by
  rw [Concept.hasRole, Concept.role?, ← find?_eq_none_iff_lacks, Option.isSome_iff_ne_none]

theorem entries_roleFlaws (r : Relation) (c : Concept) :
    (roleFlaws r c).map Flaw.entry =
      noted .danglingReference r.id (Lacks c.roles r.subjectRole) ++
      noted .danglingReference r.id (Lacks c.roles r.objectRole) ++
      noted .invalidExpression r.id
        (¬Lacks c.roles r.subjectRole ∧ ¬Lacks c.roles r.objectRole ∧
          r.subjectRole = r.objectRole) := by
  unfold roleFlaws noted
  simp only [List.map_append, hasRole_iff]
  congr 1
  · congr 1 <;> split_ifs <;> rfl
  · split_ifs <;> rfl

theorem entries_relationFlaws (concepts : Concepts) (r : Relation) :
    (relationFlaws concepts r).map Flaw.entry = relationViolations concepts r := by
  unfold relationFlaws relationViolations Concepts.get?
  cases h : find? r.conceptId concepts.concepts with
  | none =>
    rw [if_pos (lacks_of_find? h)]
    rfl
  | some c =>
    rw [if_neg (not_lacks_of_find? h), noted_finds, noted_finds, noted_finds, h]
    exact entries_roleFlaws r c

/-! ## Constraints -/

theorem isEmpty_bindingsOfRole_iff {role : Ident} :
    (concepts.bindingsOfRole c.id role).isEmpty = true ↔
      ∀ b ∈ concepts.bindings, ¬(b.conceptId = c.id ∧ b.roleId = role) := by
  rw [Concepts.bindingsOfRole, List.isEmpty_iff, List.filter_eq_nil_iff]
  simp [Binding.binds]

theorem any_bindingsOfRole_iff {role : Ident} {property : String} :
    (concepts.bindingsOfRole c.id role).any (fun b => (b.propertyFor property).isSome) = true ↔
      ∃ b ∈ concepts.bindings, (b.conceptId = c.id ∧ b.roleId = role) ∧
        ∃ p ∈ b.properties, p.localName = property := by
  rw [Concepts.bindingsOfRole, List.any_filter, List.any_eq_true]
  simp [Binding.binds, Binding.propertyFor]

/-- A reference to a role that exists is of use unless there are bindings to the role without the
    property. -/
theorem unusable_iff_of_hasRole {ref : RoleReference} {property : String}
    (hrole : c.hasRole ref.role = true) (hproperty : ref.property = some property) :
    Unusable concepts c ref ↔
      ¬((concepts.bindingsOfRole c.id ref.role).isEmpty ||
        (concepts.bindingsOfRole c.id ref.role).any
          fun b => (b.propertyFor property).isSome) = true := by
  have hlacks := hasRole_iff.1 hrole
  rw [Bool.or_eq_true, isEmpty_bindingsOfRole_iff, any_bindingsOfRole_iff, not_or, Unusable,
    hproperty]
  constructor
  · rintro (h | ⟨_, hp, ⟨b, hb, hbinds⟩, hnone⟩)
    · exact absurd h hlacks
    · cases hp
      refine ⟨fun hempty => hempty b hb hbinds, ?_⟩
      rintro ⟨b', hb', hbinds', p, hp, hname⟩
      exact hnone b' hb' hbinds' p hp hname
  · rintro ⟨hbound, hnone⟩
    refine .inr ⟨property, rfl, ?_, ?_⟩
    · by_contra h
      exact hbound fun b hb hbinds => h ⟨b, hb, hbinds⟩
    · intro b hb hbinds p hp hname
      exact hnone ⟨b, hb, hbinds, p, hp, hname⟩

theorem entries_referenceFlaws (concepts : Concepts) (source : Ident) (c : Concept)
    (ref : RoleReference) :
    (referenceFlaws concepts source c ref).map Flaw.entry =
      noted .invalidExpression source (Unusable concepts c ref) := by
  unfold referenceFlaws noted
  by_cases hrole : c.hasRole ref.role = true
  · rw [if_pos hrole]
    cases hproperty : ref.property with
    | none =>
      have husable : ¬Unusable concepts c ref := by
        rw [Unusable, hproperty]
        simpa using hasRole_iff.1 hrole
      rw [if_neg husable]
      rfl
    | some property =>
      simp only [unusable_iff_of_hasRole hrole hproperty]
      split_ifs <;> rfl
  · have hunusable : Unusable concepts c ref := .inl (not_not.1 fun h => hrole (hasRole_iff.2 h))
    rw [if_neg hrole, if_pos hunusable]
    rfl

theorem entries_constraintFlaws (concepts : Concepts) (k : Constraint) :
    (constraintFlaws concepts k).map Flaw.entry = constraintViolations concepts k := by
  unfold constraintFlaws constraintViolations Concepts.get?
  cases h : find? k.conceptId concepts.concepts with
  | none =>
    rw [if_pos (lacks_of_find? h)]
    rfl
  | some c =>
    rw [if_neg (not_lacks_of_find? h), List.map_flatMap,
      Formula.references_eq_flatMap_leaves]
    simp only [entries_referenceFlaws, noted_finds, h]

/-! ## Roles without binding -/

theorem entries_unboundRoles (concepts : Concepts) (c : Concept) :
    (unboundRoles concepts c).map Flaw.entry = missingBindings concepts c := by
  apply entries_filter
  · intro role
    exact isEmpty_bindingsOfRole_iff
  · intro role
    rfl

/-! ## The whole validation -/

/-- The entries of a report are the rules that are broken: each as often as it is, in order. -/
theorem validate_exact (concepts : Concepts) (relations : Relations) (constraints : Constraints)
    (types : EntityTypes) :
    (validate concepts relations constraints types).flaws.map Flaw.entry =
      concepts.bindings.flatMap (bindingViolations concepts types) ++
      relations.relations.flatMap (relationViolations concepts) ++
      constraints.constraints.flatMap (constraintViolations concepts) ++
      concepts.concepts.flatMap (missingBindings concepts) := by
  rw [validate, List.map_append, List.map_append, List.map_append, List.map_flatMap,
    List.map_flatMap, List.map_flatMap, List.map_flatMap]
  simp only [entries_bindingFlaws, entries_relationFlaws, entries_constraintFlaws,
    entries_unboundRoles]

end HexRules.Schema
