import HexRules.Proofs.Movement.Unreadable
import HexRules.Proofs.Schema.Valid

/-!
# Names resolve under a valid schema

The value behind a name is looked for under the first binding that has the name, and under no other.
So a binding that names a property which its type lacks would hide all that come after it. Under a
valid schema there is no such binding: the name leads to a property of the type, and the data of an
object of the type hold a value there. What a relation reads off a tile is then the number that the
tile holds, never the zero that stands for what is missing.

Data that hold a value for each property of a type are `Furnished` for it: those of a new object
are, and stay so whatever is written to them.

Results:
* `EntityData.Furnished.write`: a new object has all values, whatever is written to it.
* `exists_property_of_bindingFlaws`: a binding without flaws names properties of its type.
* `resolve_of_isValid`: under a valid schema every name that a binding has resolves to a value.
-/

namespace HexRules

/-! ## Data of a type -/

namespace EntityData

variable {data : EntityData} {t : EntityType}

/-- The data are those of an object of a type, and hold a value for each of its properties. -/
structure Furnished (t : EntityType) (data : EntityData) : Prop where
  typeId : data.typeId = t.id
  value : ∀ p ∈ t.properties, ∃ v, data.get? p.id = some v

/-- The data after values have been written to properties, one after the other. -/
def write (data : EntityData) (writes : List (Ident × PropertyValue)) : EntityData :=
  writes.foldl (fun data w => data.set w.1 w.2) data

theorem furnished_spawn (t : EntityType) : (spawn t).Furnished t := by
  refine ⟨rfl, fun p hp => ?_⟩
  rw [get?_spawn]
  cases hfind : Registry.find? p.id t.properties.reverse with
  | none => exact absurd rfl (Registry.find?_eq_none_iff.1 hfind p (List.mem_reverse.2 hp))
  | some q => exact ⟨q.default, rfl⟩

theorem Furnished.set (h : data.Furnished t) (id : Ident) (v : PropertyValue) :
    (data.set id v).Furnished t := by
  refine ⟨h.typeId, fun p hp => ?_⟩
  rw [get?_set]
  split_ifs
  · exact ⟨v, rfl⟩
  · exact h.value p hp

theorem Furnished.write (h : data.Furnished t) (writes : List (Ident × PropertyValue)) :
    (data.write writes).Furnished t := by
  induction writes generalizing data with
  | nil => exact h
  | cons w rest ih => exact ih (h.set w.1 w.2)

end EntityData

/-! ## Names that bindings have -/

theorem Binding.exists_propertyFor {b : Binding} {name : String}
    (h : ∃ p ∈ b.properties, p.localName = name) : ∃ id, b.propertyFor name = some id := by
  obtain ⟨p, hp, hname⟩ := h
  have hsome : (b.properties.find? fun p => p.localName = name).isSome = true :=
    List.find?_isSome.2 ⟨p, hp, by simpa using hname⟩
  obtain ⟨q, hq⟩ := Option.isSome_iff_exists.1 hsome
  exact ⟨q.propertyId, by rw [propertyFor, hq]; rfl⟩

theorem Binding.mem_of_propertyFor {b : Binding} {name : String} {id : Ident}
    (h : b.propertyFor name = some id) : ∃ p ∈ b.properties, p.propertyId = id := by
  obtain ⟨p, hp, hid⟩ := Option.map_eq_some_iff.1 h
  exact ⟨p, List.mem_of_find?_eq_some hp, hid⟩

namespace Movement

variable {bindings : List Binding} {type concept role id : Ident} {name : String}

/-- A name resolves to a property if any of the bindings to the role has it. -/
theorem exists_resolveProperty {b : Binding} (hb : b ∈ bindings)
    (hties : ties type concept role b = true) (hname : ∃ p ∈ b.properties, p.localName = name) :
    ∃ id, resolveProperty bindings type concept role name = some id := by
  rw [← Option.isSome_iff_exists, resolveProperty, List.findSome?_isSome_iff]
  obtain ⟨id, hid⟩ := b.exists_propertyFor hname
  exact ⟨b, List.mem_filter.2 ⟨hb, hties⟩, by rw [hid]; rfl⟩

/-- The property that a name resolves to is one that some binding of the type has for it. -/
theorem exists_binding_of_resolveProperty
    (h : resolveProperty bindings type concept role name = some id) :
    ∃ b ∈ bindings, b.typeId = type ∧ b.propertyFor name = some id := by
  obtain ⟨b, hb, hid⟩ := List.exists_of_findSome?_eq_some h
  obtain ⟨hmem, hties⟩ := List.mem_filter.1 hb
  rw [ties, Bool.and_eq_true, decide_eq_true_eq] at hties
  exact ⟨b, hmem, hties.1, hid⟩

/-- The number that a relation reads off a tile, where the name it reads has a value. -/
theorem Mover.amount_of_resolve {m : Mover} {tile : EntityData} {r : Relation} {source : String}
    {v : PropertyValue} {n : ℤ}
    (h : resolve m.concepts.bindings tile source r.conceptId r.objectRole = some v)
    (hn : PropertyValue.integer? (some v) = some n) : m.amount tile r source = .ok n := by
  rw [← h] at hn
  rw [Mover.amount_eq (PropertyValue.isUnbounded_of_integer? hn), hn]
  rfl

end Movement

/-! ## Valid schemas -/

namespace Schema

section

variable {concepts : Concepts} {relations : Relations} {constraints : Constraints}
  {types : EntityTypes} {b : Binding} {t : EntityType} {id : Ident} {name : String}

/-- A binding without flaws has names for properties of its type only. -/
theorem exists_property_of_bindingFlaws (h : bindingFlaws concepts types b = [])
    (ht : types.get? b.typeId = some t) (hid : b.propertyFor name = some id) :
    ∃ p ∈ t.properties, p.id = id := by
  obtain ⟨q, hq, rfl⟩ := Binding.mem_of_propertyFor hid
  obtain ⟨t', -, -, ht', -, -, -, hproperties⟩ := bindingFlaws_eq_nil_iff.1 h
  obtain rfl : t = t' := Option.some.inj (ht.symm.trans ht')
  rw [propertyFlaws, List.map_eq_nil_iff, List.filter_eq_nil_iff] at hproperties
  have hhas : t.hasProperty q.propertyId = true := by simpa using hproperties q hq
  obtain ⟨p, hp⟩ := Option.isSome_iff_exists.1 hhas
  exact ⟨p, List.mem_of_find?_eq_some hp, Registry.id_of_find? hp⟩

end

/-- Under a valid schema a name that some binding of a type to a role has stands for one of the
    properties of the type, and resolves to the value there, in all data of the type that have
    values for its properties; so do the data of a new object, whatever is written to them. A
    relation that reads the name off such data reads the number that is stored. -/
theorem resolve_of_isValid {concepts : Concepts} {relations : Relations}
    {constraints : Constraints} {types : EntityTypes} {t : EntityType} {concept role : Ident}
    {name : String} (hvalid : (validate concepts relations constraints types).isValid = true)
    (ht : types.get? t.id = some t)
    (hbound : ∃ b ∈ concepts.bindings, b.typeId = t.id ∧ b.conceptId = concept ∧
      b.roleId = role ∧ ∃ p ∈ b.properties, p.localName = name) :
    (∃ p ∈ t.properties, ∀ data : EntityData, data.Furnished t → ∃ v,
      data.get? p.id = some v ∧
      Movement.resolve concepts.bindings data name concept role = some v ∧
      ∀ (m : Movement.Mover) (r : Relation) (n : ℤ), m.concepts = concepts →
        r.conceptId = concept → r.objectRole = role → PropertyValue.integer? (some v) = some n →
        m.amount data r name = .ok n) ∧
    ∀ writes, ∃ v, Movement.resolve concepts.bindings ((EntityData.spawn t).write writes) name
      concept role = some v := by
  obtain ⟨hbindings, -⟩ := isValid_validate_iff.1 hvalid
  obtain ⟨b, hb, htype, hconcept, hrole, hname⟩ := hbound
  have hties : Movement.ties t.id concept role b = true := by
    simp [Movement.ties, Binding.binds, htype, hconcept, hrole]
  obtain ⟨id, hid⟩ := Movement.exists_resolveProperty hb hties hname
  -- the name is resolved by the first binding that has it, which need not be the given one
  obtain ⟨first, hfirst, hfirstType, hfirstId⟩ := Movement.exists_binding_of_resolveProperty hid
  obtain ⟨p, hp, rfl⟩ :=
    exists_property_of_bindingFlaws (hbindings first hfirst) (by rw [hfirstType, ht]) hfirstId
  have hresolve : ∀ data : EntityData, data.Furnished t → ∃ v, data.get? p.id = some v ∧
      Movement.resolve concepts.bindings data name concept role = some v := by
    intro data hdata
    obtain ⟨v, hv⟩ := hdata.value p hp
    exact ⟨v, hv, by rw [Movement.resolve, hdata.typeId, hid, Option.bind_some, hv]⟩
  refine ⟨⟨p, hp, fun data hdata => ?_⟩, fun writes => ?_⟩
  · obtain ⟨v, hv, hread⟩ := hresolve data hdata
    refine ⟨v, hv, hread, ?_⟩
    rintro m r n rfl rfl rfl hn
    exact Movement.Mover.amount_of_resolve hread hn
  · obtain ⟨v, -, hread⟩ := hresolve _ ((EntityData.furnished_spawn t).write writes)
    exact ⟨v, hread⟩

/-- The fee is what the crosser pays, though a later binding has the same name for the upkeep. -/
theorem resolve_of_isValid_bridge :
    Bridge.report.isValid = true ∧ Bridge.types.get? Bridge.bridge = some Bridge.stone ∧
      ∃ v, Movement.resolve Bridge.concepts.bindings
        ((EntityData.spawn Bridge.stone).write [(Bridge.fee, .int 3)]) "toll" Bridge.crossing
        Bridge.crossed = some v := by
  have hvalid : Bridge.report.isValid = true := by decide
  have hfound : Bridge.types.get? Bridge.stone.id = some Bridge.stone := rfl
  have hbound : ∃ b ∈ Bridge.concepts.bindings, b.typeId = Bridge.stone.id ∧
      b.conceptId = Bridge.crossing ∧ b.roleId = Bridge.crossed ∧
      ∃ p ∈ b.properties, p.localName = "toll" := by decide
  obtain ⟨-, hread⟩ := resolve_of_isValid hvalid hfound hbound
  exact ⟨hvalid, hfound, hread [(Bridge.fee, .int 3)]⟩

end Schema

end HexRules
