import HexRules.Proofs.Pipeline.Coherence
import HexRules.Proofs.Pipeline.Tick
import HexRules.Proofs.Schema.Exact
import HexRules.Proofs.Schema.Valid

/-!
# What guards bring into the report

A guard asks for a property under the name of its relation's target. If the definitions were
without flaws before, then the concept of the relation is there with the subject role, and
something is bound to that role; so all that can be wrong with the guard is the name. It is wrong
if no binding to the role has it. Other definitions are judged as before, whatever guards there
are.

This is said of constraints that are not bound to relations so far: the guards then come behind
them, in the order of the relations.

Results:
* `entries_constraintFlaws_guard`: a guard is in the report if its target is not bound.
* `settled_of_unowned`: guards of all relations that subtract come behind unowned constraints.
* `tick_introduces`: the guards bring in one flaw for each target that is not bound, and no other.
-/

namespace HexRules

/-- Some binding to the subject role of a relation has a property under the name of its target. -/
def Relation.TargetBound (concepts : Concepts) (r : Relation) : Prop :=
  ∃ b ∈ concepts.bindings, (b.conceptId = r.conceptId ∧ b.roleId = r.subjectRole) ∧
    ∃ p ∈ b.properties, r.effect.subtracts? = some p.localName

instance (concepts : Concepts) (r : Relation) : Decidable (r.TargetBound concepts) :=
  inferInstanceAs (Decidable (∃ b ∈ concepts.bindings, _ ∧ _))

/-- The report on the definitions in a world. -/
def World.report (w : World) : SchemaReport :=
  Schema.validate w.concepts w.relations w.constraints w.types

namespace Schema

variable {concepts : Concepts} {r : Relation} {c : Concept} {id : Ident}

/-! ## The flaws of a guard -/

theorem isEmpty_bindingsOfRole_of_unboundRoles (h : unboundRoles concepts c = [])
    (hrole : c.hasRole id = true) : (concepts.bindingsOfRole c.id id).isEmpty = false := by
  obtain ⟨role, hfind⟩ := Option.isSome_iff_exists.1 hrole
  have hid : role.id = id := Registry.id_of_find? hfind
  have hmem : role ∈ c.roles := List.mem_of_find?_eq_some hfind
  rw [unboundRoles, List.map_eq_nil_iff, List.filter_eq_nil_iff] at h
  rw [← hid]
  exact Bool.eq_false_iff.2 (h role hmem)

/-- Where definitions have no flaws, all that can be wrong with a guard is the target. -/
theorem entries_constraintFlaws_guard (hrelation : relationFlaws concepts r = [])
    (hroles : ∀ c ∈ concepts.concepts, unboundRoles concepts c = []) (hsub : r.isSubtract = true)
    (id : Ident) :
    (constraintFlaws concepts (Guard.guard id r)).map Flaw.entry =
      noted .invalidExpression id (¬r.TargetBound concepts) := by
  obtain ⟨c, hfind, hrole, -⟩ := relationFlaws_eq_nil_iff.1 hrelation
  obtain ⟨target, htarget⟩ := Option.isSome_iff_exists.1 hsub
  have hid : c.id = r.conceptId := Registry.id_of_find? hfind
  have hbindings := isEmpty_bindingsOfRole_of_unboundRoles
    (hroles c (List.mem_of_find?_eq_some hfind)) hrole
  have hflaws : constraintFlaws concepts (Guard.guard id r) =
      referenceFlaws concepts id c ⟨r.subjectRole, some target⟩ := by
    have hconcept : (Guard.guard id r).conceptId = r.conceptId := rfl
    have hreferences : (Guard.guard id r).formula.references = [⟨r.subjectRole, some target⟩] := by
      rw [Guard.guard, htarget]
      rfl
    rw [constraintFlaws, hconcept, hfind]
    dsimp only
    rw [hreferences, List.flatMap_singleton]
    rfl
  have hunusable : Unusable concepts c ⟨r.subjectRole, some target⟩ ↔ _ :=
    unusable_iff_of_hasRole hrole rfl
  rw [hflaws, entries_referenceFlaws]
  apply noted_congr
  rw [hunusable, hbindings, Bool.false_or, any_bindingsOfRole_iff, hid, Relation.TargetBound,
    htarget]
  simp only [Option.some.injEq, eq_comm]

end Schema

/-! ## Guards behind unowned constraints -/

namespace Guard

variable {relations : List Relation} {cs : List Constraint} {fresh : Relation → Ident}
  {r : Relation} {id : Ident}

theorem slots_of_unowned {before : List Constraint} (h : ∀ c ∈ cs, c.owner? = none) :
    slots fresh relations before cs = cs := by
  induction cs generalizing before with
  | nil => rfl
  | cons c rest ih =>
    rw [slots, slot_of_owner?_eq_none (h c List.mem_cons_self),
      ih fun c hc => h c (List.mem_cons_of_mem _ hc)]
    rfl

/-- Guards of all relations that subtract come behind unowned constraints. -/
theorem settled_of_unowned (h : ∀ c ∈ cs, c.owner? = none) :
    settled fresh relations cs =
      cs ++ (relations.filter Relation.isSubtract).map fun r => guard (fresh r) r := by
  have hkept : cs.filter (fun c => !isOrphan relations c) = cs := by
    rw [List.filter_eq_self]
    intro c hc
    rw [isOrphan, h c hc]
    rfl
  have hnone : unguarded relations cs = relations.filter Relation.isSubtract := by
    apply List.filter_congr
    intro r _
    have hany : cs.any (·.isGuardOf r.id) = false := by
      rw [List.any_eq_false]
      intro c hc hguard
      rw [Constraint.isGuardOf_iff_owner?, h c hc] at hguard
      cases hguard
    rw [hany, Bool.not_false, Bool.and_true]
  rw [settled, hkept, slots_of_unowned h, hnone]

/-- In constraints in step, the guard of a relation is found. -/
theorem guardOf?_of_mem (h : InStep relations cs) (hr : r ∈ relations)
    (hsub : r.isSubtract = true) (hc : guard id r ∈ cs) :
    (Constraints.mk cs).guardOf? r.id = some (guard id r) := by
  obtain ⟨g, hguards, -⟩ := h.one r hr hsub
  have hmem : guard id r ∈ cs.filter (·.isGuardOf r.id) :=
    List.mem_filter.2 ⟨hc, isGuardOf_guard.2 rfl⟩
  rw [hguards, List.mem_singleton] at hmem
  rw [Constraints.guardOf?, ← List.head?_filter, hguards, List.head?_cons, hmem]

theorem guardOf?_settled (hids : (relations.map Relation.id).Nodup)
    (h : ∀ c ∈ cs, c.owner? = none) (hr : r ∈ relations) (hsub : r.isSubtract = true) :
    (Constraints.mk (settled fresh relations cs)).guardOf? r.id = some (guard (fresh r) r) := by
  apply guardOf?_of_mem (inStep_settled hids) hr hsub
  rw [settled_of_unowned h]
  exact List.mem_append_right _ (List.mem_map_of_mem (List.mem_filter.2 ⟨hr, hsub⟩))

end Guard

/-! ## The report with the guards -/

namespace Schema

/-- With the guards, the report has a flaw for each target that is not bound. -/
theorem entries_validate_settled {concepts : Concepts} {relations : List Relation}
    {cs : List Constraint} {types : EntityTypes} {fresh : Relation → Ident}
    (hclean : (validate concepts ⟨relations⟩ ⟨cs⟩ types).flaws = [])
    (hunowned : ∀ c ∈ cs, c.owner? = none) :
    (validate concepts ⟨relations⟩ ⟨Guard.settled fresh relations cs⟩ types).flaws.map Flaw.entry =
      (relations.filter fun r => r.isSubtract && !decide (r.TargetBound concepts)).map
        fun r => (.invalidExpression, fresh r) := by
  simp only [validate, List.append_eq_nil_iff] at hclean
  obtain ⟨⟨⟨hbindings, hrelations⟩, hconstraints⟩, hroles⟩ := hclean
  have hguards : ∀ rs ⊆ relations,
      ((rs.filter Relation.isSubtract).flatMap
        fun r => constraintFlaws concepts (Guard.guard (fresh r) r)).map Flaw.entry =
      (rs.filter fun r => r.isSubtract && !decide (r.TargetBound concepts)).map
        fun r => (.invalidExpression, fresh r) := by
    intro rs hrs
    induction rs with
    | nil => rfl
    | cons r rest ih =>
      rw [List.cons_subset] at hrs
      have hrest := ih hrs.2
      by_cases hsub : r.isSubtract = true
      · have hflaws := entries_constraintFlaws_guard
          (List.flatMap_eq_nil_iff.1 hrelations r hrs.1) (List.flatMap_eq_nil_iff.1 hroles)
          hsub (fresh r)
        rw [List.filter_cons_of_pos hsub, List.flatMap_cons, List.map_append, hflaws, hrest,
          List.filter_cons, hsub, noted]
        by_cases hbound : r.TargetBound concepts <;> simp [hbound]
      · rw [List.filter_cons_of_neg hsub, hrest, List.filter_cons_of_neg (by simp [hsub])]
  simp only [validate]
  rw [Guard.settled_of_unowned hunowned, List.flatMap_append, hbindings, hrelations, hconstraints,
    hroles, List.flatMap_map]
  simpa using hguards relations (List.Subset.refl _)

end Schema

namespace Pipeline

variable {p : Pipeline}

/-- The guards bring in one flaw for each target that is not bound, whose source is the guard. -/
theorem flaws_guardedWorld (hids : p.relations.content.Distinct)
    (hunowned : ∀ c ∈ p.constraints.content.constraints, c.owner? = none)
    (hclean : p.world.report.flaws = []) :
    p.guardedWorld.report.flaws.map (fun f => (f.category, some f.source)) =
      (p.relations.content.relations.filter fun r =>
        r.isSubtract && !decide (r.TargetBound p.concepts.content)).map fun r =>
          (.invalidExpression, (p.guardedWorld.constraints.guardOf? r.id).map Constraint.id) := by
  obtain ⟨fresh, hsync⟩ := exists_settled_guardedWorld hids
  have hentries : p.guardedWorld.report.flaws.map Flaw.entry =
      (p.relations.content.relations.filter fun r =>
        r.isSubtract && !decide (r.TargetBound p.concepts.content)).map fun r =>
          (.invalidExpression, fresh r) := by
    rw [World.report, hsync]
    exact Schema.entries_validate_settled hclean hunowned
  have hsome : p.guardedWorld.report.flaws.map (fun f => (f.category, some f.source)) =
      (p.guardedWorld.report.flaws.map Flaw.entry).map (Prod.map id some) := by
    rw [List.map_map]
    rfl
  rw [hsome, hentries, hsync, List.map_map]
  apply List.map_congr_left
  intro r hr
  obtain ⟨hr, hsub⟩ := List.mem_filter.1 hr
  rw [Bool.and_eq_true] at hsub
  rw [Guard.guardOf?_settled hids hunowned hr hsub.1]
  rfl

/-- Where definitions have no flaws, and no generated constraint is bound to a relation, the guards
    bring in exactly one flaw for each relation whose target no binding to its subject role has:
    the formula of its guard is invalid. This is what a tick finds; so it ends with a valid report
    exactly if the targets of all relations that subtract are bound. -/
theorem tick_introduces (p q : Pipeline) (hnew : p.IsNew) (hids : p.relations.content.Distinct)
    (actions : List Action) (hq : ((Course.start p).run actions).pipeline = q)
    (hunowned : ∀ c ∈ q.constraints.content.constraints,
      c.autoGenerated = true → c.relationId = none)
    (hclean : q.world.report.flaws = []) :
    q.syncGuards.2.world.report.flaws.map (fun f => (f.category, some f.source)) =
      (q.relations.content.relations.filter fun r =>
        r.isSubtract && !decide (r.TargetBound q.concepts.content)).map (fun r =>
          (.invalidExpression,
            (q.syncGuards.2.constraints.content.guardOf? r.id).map Constraint.id)) ∧
    q.tick.2.schema.value = q.syncGuards.2.world.report ∧
    (q.tick.2.schema.value.isValid = true ↔
      ∀ r ∈ q.relations.content.relations, r.isSubtract = true →
        r.TargetBound q.concepts.content) := by
  have hsound : q.Sound ((Course.start p).run actions).computed := by
    rw [← hq]
    exact Course.sound_run (c := Course.start p) (hnew.sound hids) actions
  have hnone : ∀ c ∈ q.constraints.content.constraints, c.owner? = none := by
    intro c hc
    rw [Constraint.owner?]
    split_ifs with hauto
    · exact hunowned c hc hauto
    · rfl
  have hflaws := flaws_guardedWorld hsound.distinct hnone hclean
  rw [← world_syncGuards] at hflaws
  have hreport : q.tick.2.schema.value = q.syncGuards.2.world.report := by
    rw [world_syncGuards, ← world_tick hsound]
    exact reported_tick hsound
  refine ⟨hflaws, hreport, ?_⟩
  rw [hreport, SchemaReport.isValid_iff, ← List.map_eq_nil_iff, hflaws, List.map_eq_nil_iff,
    List.filter_eq_nil_iff]
  simp

/-! ## A mule on a track -/

namespace Mule

/-- The identifiers of the example are small numbers. -/
def ident (n : ℕ) : Ident := ⟨BitVec.ofNat 128 n⟩

/-- A mule has strength. -/
def types : EntityTypes where
  types := [⟨ident 1, "Mule", .token, .white, [⟨ident 8, "vigour", .int, .int 9, none⟩]⟩,
    ⟨ident 2, "Track", .boardPosition, .white, [⟨ident 9, "grade", .int, .int 1, none⟩]⟩]
  enums := []

/-- To carry takes a carrier and a ground. -/
def concepts : Concepts where
  concepts := [⟨ident 3, "Carrying", "", [⟨ident 4, "carrier", [.token]⟩,
    ⟨ident 5, "ground", [.boardPosition]⟩]⟩]
  bindings := [⟨ident 6, ident 1, ident 3, ident 4, [⟨ident 8, "strength"⟩]⟩,
    ⟨ident 7, ident 2, ident 3, ident 5, [⟨ident 9, "slope"⟩]⟩]

/-- The ground takes from the carrier. -/
def toil (n : ℕ) (name target : String) : Relation :=
  ⟨ident n, name, ident 3, ident 4, ident 5, .onEnter, .modify target "slope" .subtract⟩

/-- The mule has strength to lose, but not water. -/
def relations : List Relation := [toil 10 "Thirst" "water", toil 11 "Toil" "strength"]

def pipeline : Pipeline :=
  .ofWorld .default false .start
    ⟨types, concepts, ⟨relations⟩,
      ⟨[⟨ident 12, "Any", "", ident 3, none, .isType (ident 4) (ident 1), true⟩]⟩, ⟨none⟩, ⟨1⟩,
      .empty⟩

end Mule

/-- The guard that asks for water is the one flaw in the report. -/
theorem tick_introduces_mule :
    Mule.pipeline.world.report.flaws = [] ∧
      Mule.pipeline.syncGuards.2.world.report.flaws.map (fun f => (f.category, some f.source)) =
        [(.invalidExpression, some (Supply.numbered 1))] ∧
      Mule.pipeline.tick.2.schema.value.isValid = false := by
  have hclean : Mule.pipeline.world.report.flaws = [] := by decide +kernel
  obtain ⟨hflaws, -, hvalid⟩ := tick_introduces Mule.pipeline Mule.pipeline
    (isNew_ofWorld _ _ _ _) (by unfold Relations.Distinct; decide) [] rfl (by decide) hclean
  refine ⟨hclean, hflaws.trans (by decide +kernel), ?_⟩
  rw [Bool.eq_false_iff, Ne, hvalid]
  decide +kernel

end Pipeline

end HexRules
