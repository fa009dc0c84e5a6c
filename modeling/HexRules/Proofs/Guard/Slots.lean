import HexRules.Guard
import Mathlib.Tactic

/-!
# The slots of the guards

How a list of constraints looks once it is in step with the relations, said slot by slot. A
constraint that was not generated, or bears no relation, stays. A generated one is an orphan if the
relation that it bears does not subtract, and goes. Of those that bear one relation the first keeps
its slot, with a fresh guard in it if it demands something else; the others go. At the end come
fresh guards of the relations that had none.

Fresh guards take the next identifiers of a supply, in the order of their relations.

Results:
* `beq_demand_iff`: guards are compared with what they should demand by plain equality.
* `countP_settled`: each relation that subtracts has exactly one guard then.
* `filter_settled`: what is no guard of a relation is as it was.
* `inStep_settled`: every guard demands what it should, and bears a relation that subtracts.
-/

namespace HexRules

/-- The relation that a generated constraint bears, if it bears one. -/
def Constraint.owner? (c : Constraint) : Option Ident :=
  if c.autoGenerated then c.relationId else none

theorem Constraint.isGuardOf_iff_owner? {c : Constraint} {id : Ident} :
    c.isGuardOf id = true ↔ c.owner? = some id := by
  rw [isGuardOf_iff, owner?]
  split_ifs with h <;> simp [h]

namespace Guard

/-! ## What a guard should demand -/

/-- What the guard of a relation that subtracts demands. -/
def demand (r : Relation) : Formula := formula r (r.effect.subtracts?.getD "")

/-- The guard of a relation that subtracts. -/
def guard (id : Ident) (r : Relation) : Constraint := build id r (r.effect.subtracts?.getD "")

theorem isGuardOf_guard {id relation : Ident} {r : Relation} :
    (guard id r).isGuardOf relation = true ↔ r.id = relation := by
  simp [guard, build, Constraint.isGuardOf]

theorem beq_demand_iff {f : Formula} {r : Relation} : (f == demand r) = true ↔ f = demand r := by
  have hvalue : ∀ v : PropertyValue, (v == .int 0) = true ↔ v = .int 0 := by
    intro v
    cases v <;> simp [BEq.beq, instBEqPropertyValue.beq]
  constructor
  · intro h
    unfold demand formula at h ⊢
    cases f with
    | propertyCompare role property op value =>
      change Formula.same _ _ = true at h
      unfold Formula.same at h
      simp only [Bool.and_eq_true, beq_iff_eq, hvalue] at h
      obtain ⟨⟨⟨rfl, rfl⟩, rfl⟩, rfl⟩ := h
      rfl
    | _ => cases h
  · rintro rfl
    change Formula.same _ _ = true
    unfold demand formula Formula.same
    simp [hvalue]

instance (f : Formula) (r : Relation) : Decidable (f = demand r) :=
  decidable_of_iff ((f == demand r) = true) beq_demand_iff

/-! ## Slots -/

/-- The relation with an identifier, if it subtracts. -/
def subtracting? (relations : List Relation) (id : Ident) : Option Relation :=
  relations.find? fun r => r.isSubtract && decide (r.id = id)

/-- Whether a constraint was generated for a relation that does not subtract. -/
def isOrphan (relations : List Relation) (c : Constraint) : Bool :=
  match c.owner? with
  | none => false
  | some id => (subtracting? relations id).isNone

/-- What comes into the slot of a constraint, after the constraints before it. -/
def slot (fresh : Relation → Ident) (relations : List Relation) (before : List Constraint)
    (c : Constraint) : Option Constraint :=
  match c.owner?.bind (subtracting? relations) with
  | none => some c
  | some r =>
    if before.any (·.isGuardOf r.id) then none
    else if c.formula = demand r then some c
    else some (guard (fresh r) r)

/-- What comes into the slots of constraints, after the constraints before them. -/
def slots (fresh : Relation → Ident) (relations : List Relation) :
    List Constraint → List Constraint → List Constraint
  | _, [] => []
  | before, c :: rest =>
    (slot fresh relations before c).toList ++ slots fresh relations (before ++ [c]) rest

/-- The relations that subtract and have no guard. -/
def unguarded (relations : List Relation) (constraints : List Constraint) : List Relation :=
  relations.filter fun r => r.isSubtract && !constraints.any (·.isGuardOf r.id)

/-- The constraints in step with the relations, when fresh guards have given identifiers. -/
def settled (fresh : Relation → Ident) (relations : List Relation)
    (constraints : List Constraint) : List Constraint :=
  slots fresh relations [] (constraints.filter fun c => !isOrphan relations c) ++
    (unguarded relations constraints).map fun r => guard (fresh r) r

/-- Whether a relation that subtracts needs a fresh guard: it has none, or its first one demands
    something else. -/
def needsGuard (constraints : List Constraint) (r : Relation) : Bool :=
  r.isSubtract &&
    match constraints.find? (·.isGuardOf r.id) with
    | none => true
    | some first => decide (first.formula ≠ demand r)

/-- The identifier of a relation's fresh guard: a supply hands them out to the relations that need
    one, in order. -/
def freshIdent (supply : Supply) (relations : List Relation) (constraints : List Constraint)
    (r : Relation) : Ident :=
  Supply.numbered (supply.minted + 1 +
    (relations.filter (needsGuard constraints)).findIdx fun r' => decide (r'.id = r.id))

/-- Constraints that are in step with relations: one guard for each relation that subtracts, which
    demands what it should, and none for another relation. -/
structure InStep (relations : List Relation) (constraints : List Constraint) : Prop where
  one : ∀ r ∈ relations, r.isSubtract = true →
    ∃ c, constraints.filter (·.isGuardOf r.id) = [c] ∧ c.formula = demand r
  bound : ∀ c ∈ constraints, ∀ id, c.isGuardOf id = true →
    ∃ r ∈ relations, r.id = id ∧ r.isSubtract = true

/-! ## Looking up a relation -/

theorem subtracting?_eq_some {relations : List Relation} {id : Ident} {r : Relation}
    (h : subtracting? relations id = some r) :
    r ∈ relations ∧ r.isSubtract = true ∧ r.id = id := by
  have hr := List.find?_some h
  simp only [Bool.and_eq_true, decide_eq_true_eq] at hr
  exact ⟨List.mem_of_find?_eq_some h, hr⟩

theorem subtracting?_eq_none_iff {relations : List Relation} {id : Ident} :
    subtracting? relations id = none ↔ ∀ r ∈ relations, r.isSubtract = true → r.id ≠ id := by
  simp [subtracting?]

theorem subtracting?_of_mem {relations : List Relation} (hids : (relations.map Relation.id).Nodup)
    {r : Relation} (hr : r ∈ relations) (hsub : r.isSubtract = true) :
    subtracting? relations r.id = some r := by
  cases hfind : subtracting? relations r.id with
  | none => exact absurd rfl (subtracting?_eq_none_iff.1 hfind r hr hsub)
  | some r' =>
    obtain ⟨hmem, -, hid⟩ := subtracting?_eq_some hfind
    rw [List.inj_on_of_nodup_map hids hmem hr hid]

theorem subtracting?_append (first second : List Relation) (id : Ident) :
    subtracting? (first ++ second) id =
      (subtracting? first id).or (subtracting? second id) :=
  List.find?_append

/-! ## One slot -/

variable {fresh : Relation → Ident} {relations : List Relation} {before cs : List Constraint}
  {c d : Constraint} {r : Relation}

theorem owner?_guard (id : Ident) (r : Relation) : (guard id r).owner? = some r.id := rfl

/-- Whatever comes into a slot bears the same relation. -/
theorem owner?_of_slot (h : slot fresh relations before c = some d) : d.owner? = c.owner? := by
  unfold slot at h
  split at h
  · cases h
    rfl
  · rename_i r hr
    obtain ⟨id, hid, hfind⟩ := Option.bind_eq_some_iff.1 hr
    split_ifs at h
    · cases h
      rfl
    · cases h
      rw [owner?_guard, hid, (subtracting?_eq_some hfind).2.2]

theorem isGuardOf_of_slot (h : slot fresh relations before c = some d) (id : Ident) :
    d.isGuardOf id = c.isGuardOf id := by
  rw [Bool.eq_iff_iff, Constraint.isGuardOf_iff_owner?, Constraint.isGuardOf_iff_owner?,
    owner?_of_slot h]

theorem slot_of_owner?_eq_none (h : c.owner? = none) : slot fresh relations before c = some c := by
  rw [slot, h]
  rfl

/-- The slot of a relation's guard. -/
theorem slot_of_isGuardOf (hr : subtracting? relations r.id = some r)
    (hc : c.isGuardOf r.id = true) :
    slot fresh relations before c =
      if before.any (·.isGuardOf r.id) then none
      else if c.formula = demand r then some c
      else some (guard (fresh r) r) := by
  rw [slot, Constraint.isGuardOf_iff_owner?.1 hc, Option.bind_some, hr]

theorem formula_of_slot (hr : subtracting? relations r.id = some r) (hc : c.isGuardOf r.id = true)
    (h : slot fresh relations before c = some d) : d.formula = demand r := by
  rw [slot_of_isGuardOf hr hc] at h
  split_ifs at h with hbefore hdemand
  · cases h
    exact hdemand
  · cases h
    rfl

/-! ## All slots -/

theorem exists_slot_of_mem (h : d ∈ slots fresh relations before cs) :
    ∃ c ∈ cs, ∃ before', slot fresh relations before' c = some d := by
  induction cs generalizing before with
  | nil => cases h
  | cons c rest ih =>
    rw [slots, List.mem_append, Option.mem_toList] at h
    rcases h with h | h
    · exact ⟨c, List.mem_cons_self, before, h⟩
    · obtain ⟨c', hc', before', hslot⟩ := ih h
      exact ⟨c', List.mem_cons_of_mem c hc', before', hslot⟩

/-- The slots hold one guard of a relation, if there was one and none stands before them. -/
theorem countP_slots (hr : subtracting? relations r.id = some r) :
    (slots fresh relations before cs).countP (·.isGuardOf r.id) =
      if before.any (·.isGuardOf r.id) then 0
      else if cs.any (·.isGuardOf r.id) then 1 else 0 := by
  induction cs generalizing before with
  | nil => simp [slots]
  | cons c rest ih =>
    rw [slots, List.countP_append, ih, List.any_append, List.any_cons, List.any_cons]
    by_cases hc : c.isGuardOf r.id = true
    · rw [slot_of_isGuardOf hr hc]
      by_cases hbefore : before.any (·.isGuardOf r.id) = true
      · simp [hbefore, hc]
      · have hguard : (guard (fresh r) r).isGuardOf r.id = true := isGuardOf_guard.2 rfl
        split_ifs <;> simp_all
    · have hslot : (slot fresh relations before c).toList.countP (·.isGuardOf r.id) = 0 := by
        rw [List.countP_eq_zero]
        intro d hd
        rw [isGuardOf_of_slot (Option.mem_toList.1 hd)]
        exact hc
      simp [hslot, hc]

theorem filter_slots :
    (slots fresh relations before cs).filter (fun c => c.owner? = none) =
      cs.filter (fun c => c.owner? = none) := by
  induction cs generalizing before with
  | nil => rfl
  | cons c rest ih =>
    rw [slots, List.filter_append, ih, List.filter_cons]
    by_cases hc : c.owner? = none
    · simp [slot_of_owner?_eq_none hc, hc]
    · have hslot : (slot fresh relations before c).toList.filter (fun c => c.owner? = none) =
          [] := by
        rw [List.filter_eq_nil_iff]
        intro d hd
        rw [owner?_of_slot (Option.mem_toList.1 hd)]
        simpa using hc
      rw [hslot]
      simp [hc]

/-! ## In step -/

theorem isOrphan_eq_false_of_isGuardOf (hr : subtracting? relations r.id = some r)
    (hc : c.isGuardOf r.id = true) : isOrphan relations c = false := by
  rw [isOrphan, Constraint.isGuardOf_iff_owner?.1 hc]
  dsimp only
  rw [hr]
  rfl

theorem any_filter_isOrphan (hr : subtracting? relations r.id = some r) (cs : List Constraint) :
    (cs.filter fun c => !isOrphan relations c).any (·.isGuardOf r.id) =
      cs.any (·.isGuardOf r.id) := by
  rw [List.any_filter]
  congr 1
  funext c
  by_cases hc : c.isGuardOf r.id = true
  · simp [hc, isOrphan_eq_false_of_isGuardOf hr hc]
  · simp [hc]

theorem countP_id_eq_one (hids : (relations.map Relation.id).Nodup) (hr : r ∈ relations) :
    relations.countP (fun r' => decide (r'.id = r.id)) = 1 := by
  have hcount := List.count_eq_one_of_mem hids (List.mem_map_of_mem hr)
  rw [List.count, List.countP_map] at hcount
  rw [← hcount]
  apply List.countP_congr
  intro r' _
  simp

/-- The fresh guards at the end are one of each relation that had none. -/
theorem countP_unguarded (hids : (relations.map Relation.id).Nodup) (hr : r ∈ relations)
    (hsub : r.isSubtract = true) :
    ((unguarded relations cs).map fun r => guard (fresh r) r).countP (·.isGuardOf r.id) =
      if cs.any (·.isGuardOf r.id) then 0 else 1 := by
  have hcomp : ((·.isGuardOf r.id) ∘ fun r' => guard (fresh r') r') =
      fun r' : Relation => decide (r'.id = r.id) := by
    funext r'
    rw [Bool.eq_iff_iff, Function.comp_apply, isGuardOf_guard, decide_eq_true_eq]
  have hsame : ∀ r' ∈ relations, (decide (r'.id = r.id) &&
      (r'.isSubtract && !cs.any (·.isGuardOf r'.id))) = true ↔
      (decide (r'.id = r.id) && !cs.any (·.isGuardOf r.id)) = true := by
    intro r' hr'
    by_cases hid : r'.id = r.id
    · rw [List.inj_on_of_nodup_map hids hr' hr hid]
      simp [hsub]
    · simp [hid]
  rw [List.countP_map, hcomp, unguarded, List.countP_filter, List.countP_congr hsame]
  by_cases hany : cs.any (·.isGuardOf r.id) = true
  · simp [hany]
  · simp [hany, countP_id_eq_one hids hr]

theorem countP_settled (hids : (relations.map Relation.id).Nodup) (hr : r ∈ relations)
    (hsub : r.isSubtract = true) :
    (settled fresh relations cs).countP (·.isGuardOf r.id) = 1 := by
  have hfind := subtracting?_of_mem hids hr hsub
  rw [settled, List.countP_append, countP_slots hfind, countP_unguarded hids hr hsub,
    any_filter_isOrphan hfind]
  by_cases hany : cs.any (·.isGuardOf r.id) = true <;> simp [hany]

theorem filter_settled :
    (settled fresh relations cs).filter (fun c => c.owner? = none) =
      cs.filter (fun c => c.owner? = none) := by
  have hnew : ((unguarded relations cs).map fun r => guard (fresh r) r).filter
      (fun c => c.owner? = none) = [] := by
    rw [List.filter_eq_nil_iff]
    intro d hd
    obtain ⟨r, -, rfl⟩ := List.mem_map.1 hd
    simp [owner?_guard]
  rw [settled, List.filter_append, filter_slots, hnew, List.append_nil, List.filter_filter]
  apply List.filter_congr
  intro c _
  by_cases hc : c.owner? = none
  · simp [hc, isOrphan]
  · simp [hc]

/-- Every guard of a relation that subtracts demands what it should. -/
theorem formula_of_mem_settled (hids : (relations.map Relation.id).Nodup) (hr : r ∈ relations)
    (hsub : r.isSubtract = true) (hd : d ∈ settled fresh relations cs)
    (hguard : d.isGuardOf r.id = true) : d.formula = demand r := by
  rcases List.mem_append.1 hd with hold | hnew
  · obtain ⟨c, -, before, hslot⟩ := exists_slot_of_mem hold
    rw [isGuardOf_of_slot hslot] at hguard
    exact formula_of_slot (subtracting?_of_mem hids hr hsub) hguard hslot
  · obtain ⟨r', hr', rfl⟩ := List.mem_map.1 hnew
    rw [List.inj_on_of_nodup_map hids hr (List.mem_filter.1 hr').1 (isGuardOf_guard.1 hguard).symm]
    rfl

/-- Every guard bears a relation that subtracts. -/
theorem exists_of_mem_settled {id : Ident} (hd : d ∈ settled fresh relations cs)
    (hguard : d.isGuardOf id = true) : ∃ r ∈ relations, r.id = id ∧ r.isSubtract = true := by
  rcases List.mem_append.1 hd with hold | hnew
  · obtain ⟨c, hc, before, hslot⟩ := exists_slot_of_mem hold
    rw [isGuardOf_of_slot hslot, Constraint.isGuardOf_iff_owner?] at hguard
    have hkeep := (List.mem_filter.1 hc).2
    rw [isOrphan, hguard] at hkeep
    cases hfind : subtracting? relations id with
    | none => simp [hfind] at hkeep
    | some r =>
      obtain ⟨hr, hsub, hid⟩ := subtracting?_eq_some hfind
      exact ⟨r, hr, hid, hsub⟩
  · obtain ⟨r, hr, rfl⟩ := List.mem_map.1 hnew
    obtain ⟨hr, hsub⟩ := List.mem_filter.1 hr
    rw [Bool.and_eq_true] at hsub
    exact ⟨r, hr, isGuardOf_guard.1 hguard, hsub.1⟩

theorem inStep_settled (hids : (relations.map Relation.id).Nodup) :
    InStep relations (settled fresh relations cs) := by
  constructor
  · intro r hr hsub
    have hone : (settled fresh relations cs).countP (·.isGuardOf r.id) = 1 :=
      countP_settled hids hr hsub
    rw [List.countP_eq_length_filter] at hone
    obtain ⟨c, hc⟩ := List.length_eq_one_iff.1 hone
    have hmem : c ∈ (settled fresh relations cs).filter (·.isGuardOf r.id) := by
      rw [hc]
      exact List.mem_singleton_self c
    obtain ⟨hmem, hguard⟩ := List.mem_filter.1 hmem
    exact ⟨c, hc, formula_of_mem_settled hids hr hsub hmem hguard⟩
  · intro c hc id hguard
    exact exists_of_mem_settled hc hguard

end Guard

end HexRules
