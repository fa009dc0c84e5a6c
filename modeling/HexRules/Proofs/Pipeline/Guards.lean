import HexRules.Pipeline
import HexRules.Proofs.Guard.Sync

/-!
# The guards of a pipeline

Synchronisation puts its list into the registry only if it did something; the registry holds the
settled list in either case, since what did nothing found the list settled.

Results:
* `Guard.isSubtract_of_sync_eq_nil`, `Guard.constraints_sync_empty`: when synchronisation leaves no
  constraint at all.
* `content_syncGuards`: the registry holds what synchronisation leaves.
* `syncGuards_settled`: the registry holds the settled list, slot by slot.
-/

namespace HexRules

/-! ## Constraints that are there in the end -/

namespace Guard

variable {r : Relation} {rs : List Relation} {s : Sync}

theorem settle_ne_nil {new : Constraint} {cs : List Constraint} (h : cs ≠ []) :
    settle new r cs ≠ [] := by
  cases cs with
  | nil => exact absurd rfl h
  | cons c rest =>
    unfold settle
    split_ifs <;> exact List.cons_ne_nil _ _

/-- A list with constraints is never emptied, and a relation that subtracts puts one into it. -/
theorem tend_ne_nil (h : s.constraints ≠ [] ∨ r.isSubtract = true) :
    (tend s r).constraints ≠ [] := by
  by_cases hsub : r.isSubtract = true
  · cases hfind : s.constraints.find? (·.isGuardOf r.id) with
    | none =>
      rw [(tend_of_find?_eq_none hsub hfind).1]
      exact List.append_ne_nil_of_right_ne_nil _ (List.cons_ne_nil _ _)
    | some first =>
      rw [(tend_of_find?_eq_some hsub hfind).1]
      exact settle_ne_nil (List.ne_nil_of_mem (List.mem_of_find?_eq_some hfind))
  · rw [tend_of_not_isSubtract (Bool.eq_false_iff.2 hsub)]
    exact h.resolve_right hsub

theorem foldl_tend_ne_nil (h : s.constraints ≠ [] ∨ ∃ r ∈ rs, r.isSubtract = true) :
    (rs.foldl tend s).constraints ≠ [] := by
  induction rs generalizing s with
  | nil => exact h.resolve_right (by simp)
  | cons r rest ih =>
    rw [List.foldl_cons]
    apply ih
    rcases h with h | ⟨r', hr', hsub⟩
    · exact .inl (tend_ne_nil (.inl h))
    · rcases List.mem_cons.1 hr' with rfl | hr'
      · exact .inl (tend_ne_nil (.inr hsub))
      · exact .inr ⟨r', hr', hsub⟩

theorem foldl_tend_of_not_isSubtract (h : ∀ r ∈ rs, r.isSubtract = false) :
    rs.foldl tend s = s := by
  induction rs generalizing s with
  | nil => rfl
  | cons r rest ih =>
    rw [List.foldl_cons, tend_of_not_isSubtract (h r List.mem_cons_self)]
    exact ih fun r' hr' => h r' (List.mem_cons_of_mem r hr')

/-- Where a synchronisation leaves no constraint, no relation subtracts. -/
theorem isSubtract_of_sync_eq_nil {relations : Relations} {constraints : Constraints}
    {supply : Supply} (h : (sync relations constraints supply).constraints = []) :
    ∀ r ∈ relations.relations, r.isSubtract = false := by
  intro r hr
  by_contra hsub
  exact foldl_tend_ne_nil (.inr ⟨r, hr, Bool.eq_true_of_not_eq_false hsub⟩) h

/-- Where no relation subtracts, no guard comes into an empty registry. -/
theorem constraints_sync_empty {relations : Relations}
    (h : ∀ r ∈ relations.relations, r.isSubtract = false) (supply : Supply) :
    (sync relations .empty supply).constraints = [] := by
  rw [sync, foldl_tend_of_not_isSubtract h]
  rfl

end Guard

namespace Pipeline

theorem content_syncGuards (p : Pipeline) :
    p.syncGuards.2.constraints.content.constraints =
      (Guard.sync p.relations.content p.constraints.content p.supply).constraints := by
  rw [syncGuards]
  split_ifs with h
  · rfl
  · exact (Guard.constraints_sync_of_unchanged (Bool.eq_false_iff.2 h)).symm

theorem constraints_syncGuards (p : Pipeline)
    (hids : (p.relations.content.relations.map Relation.id).Nodup) :
    p.syncGuards.2.constraints.content.constraints =
      Guard.settled
        (Guard.freshIdent p.supply p.relations.content.relations p.constraints.content.constraints)
        p.relations.content.relations p.constraints.content.constraints := by
  rw [content_syncGuards, ← Guard.constraints_sync hids]

/-- After a synchronisation the registry holds the settled list: one guard for each relation that
    subtracts, and all that was no guard of a relation as it was. -/
theorem syncGuards_settled (p : Pipeline)
    (hids : (p.relations.content.relations.map Relation.id).Nodup) :
    p.syncGuards.2.constraints.content.constraints =
        Guard.settled
          (Guard.freshIdent p.supply p.relations.content.relations
            p.constraints.content.constraints)
          p.relations.content.relations p.constraints.content.constraints ∧
      (∀ r ∈ p.relations.content.relations, r.isSubtract = true →
        p.syncGuards.2.constraints.content.constraints.countP (·.isGuardOf r.id) = 1) ∧
      p.syncGuards.2.constraints.content.constraints.filter (fun c => c.owner? = none) =
        p.constraints.content.constraints.filter (fun c => c.owner? = none) := by
  have hsettled := constraints_syncGuards p hids
  refine ⟨hsettled, ?_, ?_⟩
  · intro r hr hsub
    rw [hsettled]
    exact Guard.countP_settled hids hr hsub
  · rw [hsettled]
    exact Guard.filter_settled

/-! ## A registry in disorder -/

namespace Disorder

/-- The identifiers of the example are small numbers. -/
def ident (n : ℕ) : Ident := ⟨BitVec.ofNat 128 n⟩

/-- A relation that subtracts from a property. -/
def cost (n : ℕ) (target : String) : Relation :=
  ⟨ident n, "Cost", ident 90, ident 91, ident 92, .onEnter, .modify target "toll" .subtract⟩

/-- The relations 1, 2 and 3 subtract; the relation 4 does not. -/
def relations : List Relation :=
  [cost 1 "steps", cost 2 "water",
    ⟨ident 4, "Wall", ident 90, ident 91, ident 92, .onEnter, .block none⟩, cost 3 "food"]

/-- A constraint that demands a property to be at least zero. -/
def atLeastZero (n : ℕ) (relation : Option Ident) (target : String) (generated : Bool) :
    Constraint :=
  ⟨ident n, "At least zero", "", ident 90, relation,
    .propertyCompare (ident 91) target .ge (.int 0), generated⟩

/-- Guards of relations that do not subtract, or are not there; a guard of the relation 2 that
    demands something else, and one of the relation 1 as it should be, each with another one behind
    it; between them constraints of other kinds. -/
def constraints : List Constraint :=
  [atLeastZero 11 (some (ident 4)) "steps" true, atLeastZero 12 (some (ident 1)) "steps" false,
    atLeastZero 13 (some (ident 2)) "wine" true, atLeastZero 14 (some (ident 1)) "steps" true,
    atLeastZero 15 none "steps" true, atLeastZero 16 (some (ident 2)) "water" true,
    atLeastZero 17 (some (ident 7)) "food" true, atLeastZero 18 (some (ident 1)) "steps" true,
    atLeastZero 19 none "steps" false]

def pipeline : Pipeline :=
  .ofWorld .default false .start
    ⟨.empty, .empty, ⟨relations⟩, ⟨constraints⟩, ⟨none⟩, ⟨1⟩, .empty⟩

end Disorder

open Disorder in
/-- The orphans and the further guards go, the guard that demands something else is renewed in its
    slot, and the relation 3 gets a guard at the end. -/
theorem syncGuards_settled_disorder :
    Disorder.pipeline.syncGuards.2.constraints.content.constraints =
        [atLeastZero 12 (some (ident 1)) "steps" false,
          Guard.guard (Supply.numbered 1) (cost 2 "water"),
          atLeastZero 14 (some (ident 1)) "steps" true, atLeastZero 15 none "steps" true,
          atLeastZero 19 none "steps" false, Guard.guard (Supply.numbered 2) (cost 3 "food")] ∧
      Disorder.pipeline.syncGuards.2.constraints.content.constraints.countP
        (·.isGuardOf (ident 2)) = 1 := by
  have hids : (Disorder.relations.map Relation.id).Nodup := by decide
  obtain ⟨hsettled, hone, -⟩ := syncGuards_settled Disorder.pipeline hids
  refine ⟨hsettled.trans ?_, hone (cost 2 "water") ?_ ?_⟩
  · rfl
  · exact List.mem_cons_of_mem _ List.mem_cons_self
  · rfl

end Pipeline

end HexRules
