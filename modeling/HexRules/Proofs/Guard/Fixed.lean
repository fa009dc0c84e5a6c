import HexRules.Proofs.Guard.Sync

/-!
# Constraints that are in step already

Constraints that are in step with the relations are left alone: nothing is taken out, added or
renewed, and no identifier is used up. As synchronisation leaves constraints in step, doing it again
does nothing; and it did something exactly if the list was another one before.

A fresh guard gets an identifier of its own, if those that are handed out are new. So constraints
that could be told apart by their identifiers still can.

Results:
* `sync_of_inStep`: constraints in step are left alone.
* `inStep_sync`: what synchronisation leaves is in step.
* `changed_sync_iff`: a change is recorded exactly if the list is another one afterwards.
* `nodup_ids_sync`: identifiers that were distinct stay so, if fresh ones are new.
-/

namespace HexRules

/-- The identifiers that a supply hands out between two counts are new: they differ from given ones
    and from each other. -/
structure Supply.New (first last : ℕ) (ids : List Ident) : Prop where
  apart : Set.InjOn Supply.numbered (Set.Ioc first last)
  unused : ∀ n ∈ Set.Ioc first last, Supply.numbered n ∉ ids

namespace Guard

variable {relations : List Relation} {cs : List Constraint} {c d first new : Constraint}
  {r : Relation} {s : Sync} {supply : Supply}

/-! ## Constraints in step -/

theorem isOrphan_eq_false_of_inStep (h : InStep relations cs) (hc : c ∈ cs) :
    isOrphan relations c = false := by
  rw [isOrphan]
  cases howner : c.owner? with
  | none => rfl
  | some id =>
    obtain ⟨r, hr, rfl, hsub⟩ := h.bound c hc id (Constraint.isGuardOf_iff_owner?.2 howner)
    cases hfind : subtracting? relations r.id with
    | none => exact absurd rfl (subtracting?_eq_none_iff.1 hfind r hr hsub)
    | some r' => simp [hfind]

theorem retract_of_inStep (h : InStep relations cs) (supply : Supply) :
    retract relations cs supply = ⟨cs, supply, []⟩ := by
  have hkept : ∀ c ∈ cs,
      isStale ((relations.filter Relation.isSubtract).map Relation.id) c = false := by
    intro c hc
    rw [isStale_eq_isOrphan, isOrphan_eq_false_of_inStep h hc]
  rw [retract, Sync.mk.injEq]
  refine ⟨?_, rfl, ?_⟩
  · rw [List.filter_eq_self]
    intro c hc
    rw [hkept c hc, Bool.not_false]
  · rw [List.filterMap_eq_nil_iff]
    intro c hc
    rw [retraction?, hkept c hc]
    cases c.relationId <;> rfl

/-- A relation with one guard that demands what it should has nothing to tend. -/
theorem tend_of_filter_eq_singleton
    (hguards : s.constraints.filter (·.isGuardOf r.id) = [c]) (hdemand : c.formula = demand r) :
    tend s r = s := by
  by_cases hsub : r.isSubtract = true
  · obtain ⟨target, ht, hformula, -⟩ := exists_target hsub
    have hfirst : s.constraints.find? (·.isGuardOf r.id) = some c := by
      rw [← List.head?_filter, hguards, List.head?_cons]
    have hcount : s.constraints.countP (·.isGuardOf r.id) = 1 := by
      rw [List.countP_eq_length_filter, hguards, List.length_singleton]
    have hrenew : renew r target c s = s := by
      rw [renew, hformula, if_pos (beq_demand_iff.2 hdemand)]
    rw [tend, ht]
    dsimp only
    rw [hfirst]
    dsimp only
    rw [hrenew, dropExtra, hcount]
    rfl
  · exact tend_of_not_isSubtract (Bool.eq_false_iff.2 hsub) s

theorem foldl_tend_of_inStep (h : InStep relations s.constraints) {rs : List Relation}
    (hrs : ∀ r ∈ rs, r ∈ relations) : rs.foldl tend s = s := by
  induction rs with
  | nil => rfl
  | cons r rest ih =>
    have hturn : tend s r = s := by
      by_cases hsub : r.isSubtract = true
      · obtain ⟨c, hguards, hdemand⟩ := h.one r (hrs r List.mem_cons_self) hsub
        exact tend_of_filter_eq_singleton hguards hdemand
      · exact tend_of_not_isSubtract (Bool.eq_false_iff.2 hsub) s
    rw [List.foldl_cons, hturn]
    exact ih fun r' hr' => hrs r' (List.mem_cons_of_mem r hr')

/-- Constraints in step are left alone. -/
theorem sync_of_inStep (h : InStep relations cs) (supply : Supply) :
    sync ⟨relations⟩ ⟨cs⟩ supply = ⟨cs, supply, []⟩ := by
  rw [sync, retract_of_inStep h]
  exact foldl_tend_of_inStep h fun r hr => hr

/-! ## A second time -/

theorem inStep_sync (hids : (relations.map Relation.id).Nodup) (cs : List Constraint)
    (supply : Supply) : InStep relations (sync ⟨relations⟩ ⟨cs⟩ supply).constraints := by
  rw [constraints_sync hids]
  exact inStep_settled hids

/-- A change is recorded exactly if the list is another one afterwards. -/
theorem changed_sync_iff (hids : (relations.map Relation.id).Nodup) :
    (sync ⟨relations⟩ ⟨cs⟩ supply).changed = true ↔
      (sync ⟨relations⟩ ⟨cs⟩ supply).constraints ≠ cs := by
  constructor
  · intro hchanged hsame
    have hstep : InStep relations cs := hsame ▸ inStep_sync hids cs supply
    rw [sync_of_inStep hstep] at hchanged
    cases hchanged
  · intro hother
    by_contra hunchanged
    exact hother (constraints_sync_of_unchanged (Bool.eq_false_iff.2 hunchanged))

/-! ## Identifiers -/

theorem mem_settle (hfirst : cs.find? (·.isGuardOf r.id) = some first)
    (hd : d ∈ settle new r cs) : d ∈ cs ∨ d = new ∧ first.formula ≠ demand r := by
  induction cs with
  | nil => cases hd
  | cons c rest ih =>
    rw [List.find?_cons] at hfirst
    rw [settle] at hd
    by_cases hc : c.isGuardOf r.id = true
    · simp only [hc] at hfirst
      cases hfirst
      rw [if_pos hc] at hd
      rcases List.mem_cons.1 hd with rfl | hrest
      · split_ifs with hf
        · exact .inl List.mem_cons_self
        · exact .inr ⟨rfl, hf⟩
      · exact .inl (List.mem_cons_of_mem _ (List.mem_filter.1 hrest).1)
    · simp only [hc] at hfirst
      rw [if_neg hc] at hd
      rcases List.mem_cons.1 hd with rfl | hrest
      · exact .inl List.mem_cons_self
      · exact (ih hfirst hrest).imp_left (List.mem_cons_of_mem c)

theorem nodup_ids_settle (hcs : (cs.map Constraint.id).Nodup)
    (hfirst : cs.find? (·.isGuardOf r.id) = some first)
    (hnew : first.formula ≠ demand r → new.id ∉ cs.map Constraint.id) :
    ((settle new r cs).map Constraint.id).Nodup := by
  induction cs with
  | nil => exact List.nodup_nil
  | cons c rest ih =>
    rw [List.find?_cons] at hfirst
    rw [List.map_cons, List.nodup_cons] at hcs
    rw [List.map_cons, List.mem_cons, not_or] at hnew
    rw [settle]
    by_cases hc : c.isGuardOf r.id = true
    · simp only [hc] at hfirst
      cases hfirst
      have hsub : ((rest.filter fun c => !c.isGuardOf r.id).map Constraint.id).Sublist
          (rest.map Constraint.id) := List.filter_sublist.map Constraint.id
      rw [if_pos hc, List.map_cons, List.nodup_cons]
      refine ⟨fun hmem => ?_, hsub.nodup hcs.2⟩
      split_ifs at hmem with hf
      · exact hcs.1 (hsub.subset hmem)
      · exact (hnew hf).2 (hsub.subset hmem)
    · simp only [hc] at hfirst
      rw [if_neg hc, List.map_cons, List.nodup_cons]
      refine ⟨fun hmem => ?_, ih hcs.2 hfirst fun hf => (hnew hf).2⟩
      obtain ⟨d, hd, hid⟩ := List.mem_map.1 hmem
      rcases mem_settle hfirst hd with hrest | ⟨rfl, hf⟩
      · exact hcs.1 (hid ▸ List.mem_map_of_mem hrest)
      · exact (hnew hf).1 hid

/-- On the way through a synchronisation that began at a count: no two constraints share an
    identifier, and each has a given one or one that was handed out since. -/
structure Labelled (minted : ℕ) (ids : List Ident) (s : Sync) : Prop where
  le : minted ≤ s.supply.minted
  nodup : (s.constraints.map Constraint.id).Nodup
  known : ∀ c ∈ s.constraints,
    c.id ∈ ids ∨ ∃ n ∈ Set.Ioc minted s.supply.minted, c.id = Supply.numbered n

namespace Labelled

variable {minted last : ℕ} {ids : List Ident}

/-- The next identifier is not in use. -/
theorem next_notMem (h : Labelled minted ids s) (hnew : Supply.New minted last ids)
    (hlast : s.supply.minted + 1 ≤ last) :
    Supply.numbered (s.supply.minted + 1) ∉ s.constraints.map Constraint.id := by
  have hnext : s.supply.minted + 1 ∈ Set.Ioc minted last := ⟨Nat.lt_succ_of_le h.le, hlast⟩
  intro hmem
  obtain ⟨c, hc, hid⟩ := List.mem_map.1 hmem
  rcases h.known c hc with hold | ⟨n, ⟨hlow, hhigh⟩, hn⟩
  · exact hnew.unused _ hnext (hid ▸ hold)
  · have heq : n = s.supply.minted + 1 :=
      hnew.apart ⟨hlow, by omega⟩ hnext (hn.symm.trans hid)
    omega

theorem mono (h : Labelled minted ids s) {n : ℕ} (hn : s.supply.minted ≤ n)
    (hc : c ∈ s.constraints) : c.id ∈ ids ∨ ∃ k ∈ Set.Ioc minted n, c.id = Supply.numbered k :=
  (h.known c hc).imp_right fun ⟨k, hk, hid⟩ => ⟨k, ⟨hk.1, hk.2.trans hn⟩, hid⟩

theorem tend (h : Labelled minted ids s) (hnew : Supply.New minted last ids)
    (hlast : (Guard.tend s r).supply.minted ≤ last) : Labelled minted ids (Guard.tend s r) := by
  by_cases hsub : r.isSubtract = true
  case neg =>
    rw [tend_of_not_isSubtract (Bool.eq_false_iff.2 hsub)]
    exact h
  have hnow : s.supply.minted + 1 ∈ Set.Ioc minted (s.supply.minted + 1) :=
    ⟨Nat.lt_succ_of_le h.le, le_rfl⟩
  cases hfirst : s.constraints.find? (·.isGuardOf r.id) with
  | none =>
    obtain ⟨hconstraints, hminted⟩ := tend_of_find?_eq_none hsub hfirst
    rw [hminted] at hlast
    refine ⟨?_, ?_, ?_⟩
    · rw [hminted]
      exact h.le.trans (Nat.le_succ _)
    · rw [hconstraints, List.map_append, List.map_singleton, List.nodup_append]
      refine ⟨h.nodup, List.nodup_singleton _, ?_⟩
      rintro id hid id' hid' rfl
      rw [List.mem_singleton.1 hid'] at hid
      exact h.next_notMem hnew hlast hid
    · rw [hconstraints, hminted]
      intro c hc
      rcases List.mem_append.1 hc with hold | hfresh
      · exact h.mono (Nat.le_succ _) hold
      · rw [List.mem_singleton.1 hfresh]
        exact .inr ⟨_, hnow, rfl⟩
  | some first =>
    obtain ⟨hconstraints, hminted⟩ := tend_of_find?_eq_some hsub hfirst
    -- an identifier is used up only if the first guard demands something else
    have hone : first.formula ≠ demand r →
        (Guard.tend s r).supply.minted = s.supply.minted + 1 := by
      intro hf
      rw [hminted, if_neg hf]
    have hle : s.supply.minted ≤ (Guard.tend s r).supply.minted := by
      rw [hminted]
      exact Nat.le_add_right _ _
    refine ⟨h.le.trans hle, ?_, ?_⟩
    · rw [hconstraints]
      apply nodup_ids_settle h.nodup hfirst
      intro hf
      exact h.next_notMem hnew (hone hf ▸ hlast)
    · intro c hc
      rw [hconstraints] at hc
      rcases mem_settle hfirst hc with hold | ⟨rfl, hf⟩
      · exact h.mono hle hold
      · rw [hone hf]
        exact .inr ⟨_, hnow, rfl⟩

end Labelled

theorem minted_le_tend (s : Sync) (r : Relation) :
    s.supply.minted ≤ (tend s r).supply.minted := by
  by_cases hsub : r.isSubtract = true
  · cases hfirst : s.constraints.find? (·.isGuardOf r.id) with
    | none =>
      rw [(tend_of_find?_eq_none hsub hfirst).2]
      exact Nat.le_succ _
    | some first =>
      rw [(tend_of_find?_eq_some hsub hfirst).2]
      exact Nat.le_add_right _ _
  · rw [tend_of_not_isSubtract (Bool.eq_false_iff.2 hsub)]

theorem minted_le_foldl_tend (s : Sync) (rs : List Relation) :
    s.supply.minted ≤ (rs.foldl tend s).supply.minted := by
  induction rs generalizing s with
  | nil => exact le_rfl
  | cons r rest ih => exact (minted_le_tend s r).trans (ih (tend s r))

theorem Labelled.foldl {minted last : ℕ} {ids : List Ident} {rs : List Relation}
    (h : Labelled minted ids s) (hnew : Supply.New minted last ids)
    (hlast : (rs.foldl Guard.tend s).supply.minted ≤ last) :
    Labelled minted ids (rs.foldl Guard.tend s) := by
  induction rs generalizing s with
  | nil => exact h
  | cons r rest ih =>
    rw [List.foldl_cons] at hlast ⊢
    exact ih (h.tend hnew ((minted_le_foldl_tend _ rest).trans hlast)) hlast

/-- Identifiers of constraints that were distinct stay so, if those handed out are new. -/
theorem nodup_ids_sync (relations : List Relation) (supply : Supply)
    (hnew : Supply.New supply.minted (sync ⟨relations⟩ ⟨cs⟩ supply).supply.minted
      (cs.map Constraint.id))
    (hcs : (cs.map Constraint.id).Nodup) :
    ((sync ⟨relations⟩ ⟨cs⟩ supply).constraints.map Constraint.id).Nodup := by
  have hstart : Labelled supply.minted (cs.map Constraint.id)
      (retract relations cs supply) := by
    refine ⟨le_rfl, ?_, fun c hc => .inl (List.mem_map_of_mem (mem_retract.1 hc).1)⟩
    exact (List.filter_sublist.map Constraint.id).nodup hcs
  exact (hstart.foldl hnew le_rfl).nodup

end Guard

end HexRules
