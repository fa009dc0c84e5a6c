import HexRules.Proofs.Guard.Slots

/-!
# Synchronisation brings guards in step

Synchronisation works through the relations one by one, on a list that it has already changed for
the relations before. What it leaves can be said of the list that it found: the loop keeps `slots`
of the relations that had their turn, followed by the fresh guards of those that had none. For the
turn of one relation touches its own guards only, and distinct identifiers keep those apart.

Results:
* `tend_of_find?_eq_some`, `tend_of_find?_eq_none`: what the turn of one relation does to the list.
* `slots_append_singleton`: a relation more means a turn more on the slots.
* `constraints_sync`: synchronisation leaves the settled list.
* `constraints_sync_of_unchanged`: if it did nothing, the list is as it was.
-/

namespace HexRules.Guard

variable {fresh : Relation → Ident} {relations before after : List Relation}
  {cs left right earlier : List Constraint} {c first new new' : Constraint} {r : Relation}
  {s : Sync}

/-! ## The turn of one relation -/

/-- The first guard of a relation, if it demands what it should, or a new one in its place; the
    other guards are dropped. -/
def settle (new : Constraint) (r : Relation) : List Constraint → List Constraint
  | [] => []
  | c :: rest =>
    if c.isGuardOf r.id then
      (if c.formula = demand r then c else new) :: rest.filter fun c => !c.isGuardOf r.id
    else c :: settle new r rest

theorem keepFirst_eq_self {id : Ident} (h : cs.countP (·.isGuardOf id) ≤ 1) :
    keepFirst id cs = cs := by
  induction cs with
  | nil => rfl
  | cons c rest ih =>
    unfold keepFirst
    rw [List.countP_cons] at h
    split_ifs with hc
    · have hnone : rest.countP (·.isGuardOf id) = 0 := by
        rw [if_pos hc] at h
        omega
      rw [List.filter_eq_self.2]
      intro d hd
      simpa using List.countP_eq_zero.1 hnone d hd
    · rw [if_neg hc] at h
      rw [ih h]

theorem keepFirst_settle (hnew : new.isGuardOf r.id = true)
    (hfirst : cs.find? (·.isGuardOf r.id) = some first) :
    keepFirst r.id (if first.formula = demand r then cs else renewFirst r.id new cs) =
      settle new r cs := by
  induction cs with
  | nil => cases hfirst
  | cons c rest ih =>
    rw [List.find?_cons] at hfirst
    by_cases hc : c.isGuardOf r.id = true
    · simp only [hc] at hfirst
      cases hfirst
      rw [settle, if_pos hc]
      split_ifs with hdemand
      · rw [keepFirst, if_pos hc]
      · rw [renewFirst, if_pos hc, keepFirst, if_pos hnew]
    · simp only [hc] at hfirst
      rw [settle, if_neg hc, ← ih hfirst]
      split_ifs with hdemand
      · rw [keepFirst, if_neg hc]
      · rw [renewFirst, if_neg hc, keepFirst, if_neg hc]

theorem constraints_dropExtra (r : Relation) (s : Sync) :
    (dropExtra r s).constraints = keepFirst r.id s.constraints := by
  unfold dropExtra
  dsimp only
  split_ifs with h
  · exact (keepFirst_eq_self (by omega)).symm
  · rfl

theorem supply_dropExtra (r : Relation) (s : Sync) : (dropExtra r s).supply = s.supply := by
  unfold dropExtra
  dsimp only
  split_ifs <;> rfl

theorem exists_target (h : r.isSubtract = true) :
    ∃ target, r.effect.subtracts? = some target ∧ formula r target = demand r ∧
      ∀ id, build id r target = guard id r := by
  obtain ⟨target, ht⟩ := Option.isSome_iff_exists.1 h
  refine ⟨target, ht, ?_, fun id => ?_⟩
  · rw [demand, ht, Option.getD_some]
  · rw [guard, ht, Option.getD_some]

theorem tend_of_not_isSubtract (h : r.isSubtract = false) (s : Sync) : tend s r = s := by
  have hnone : r.effect.subtracts? = none := by
    rw [Relation.isSubtract] at h
    simpa using h
  rw [tend, hnone]

theorem tend_of_find?_eq_none (hsub : r.isSubtract = true)
    (h : s.constraints.find? (·.isGuardOf r.id) = none) :
    (tend s r).constraints =
        s.constraints ++ [guard (Supply.numbered (s.supply.minted + 1)) r] ∧
      (tend s r).supply.minted = s.supply.minted + 1 := by
  obtain ⟨target, ht, -, hguard⟩ := exists_target hsub
  rw [tend, ht]
  dsimp only
  rw [h]
  refine ⟨?_, rfl⟩
  rw [← hguard]
  rfl

theorem tend_of_find?_eq_some (hsub : r.isSubtract = true)
    (h : s.constraints.find? (·.isGuardOf r.id) = some first) :
    (tend s r).constraints =
        settle (guard (Supply.numbered (s.supply.minted + 1)) r) r s.constraints ∧
      (tend s r).supply.minted = s.supply.minted + if first.formula = demand r then 0 else 1 := by
  obtain ⟨target, ht, hdemand, hguard⟩ := exists_target hsub
  rw [tend, ht]
  dsimp only
  rw [h]
  dsimp only
  rw [constraints_dropExtra, supply_dropExtra, ← keepFirst_settle (isGuardOf_guard.2 rfl) h, renew,
    hdemand]
  by_cases hf : first.formula = demand r
  · rw [if_pos (beq_demand_iff.2 hf), if_pos hf, if_pos hf]
    exact ⟨rfl, rfl⟩
  · rw [if_neg (fun hbeq => hf (beq_demand_iff.1 hbeq)), if_neg hf, if_neg hf, ← hguard]
    exact ⟨rfl, rfl⟩

/-! ## Turns on parts of a list -/

theorem settle_eq_self (h : cs.find? (·.isGuardOf r.id) = none) : settle new r cs = cs := by
  induction cs with
  | nil => rfl
  | cons c rest ih =>
    rw [List.find?_eq_none] at h
    rw [settle, if_neg (h c List.mem_cons_self), ih]
    rw [List.find?_eq_none]
    exact fun d hd => h d (List.mem_cons_of_mem c hd)

/-- A turn ends with the part that holds the first guard, but for further guards to drop. -/
theorem settle_append (h : left.find? (·.isGuardOf r.id) = some first) :
    settle new r (left ++ right) =
      settle new r left ++ right.filter fun c => !c.isGuardOf r.id := by
  induction left with
  | nil => cases h
  | cons c rest ih =>
    rw [List.find?_cons] at h
    rw [List.cons_append, settle, settle]
    by_cases hc : c.isGuardOf r.id = true
    · rw [if_pos hc, if_pos hc, List.filter_append, List.cons_append]
    · simp only [hc] at h
      rw [if_neg hc, if_neg hc, ih h, List.cons_append]

/-- The new guard does not matter where the first one demands what it should. -/
theorem settle_congr (h : cs.find? (·.isGuardOf r.id) = some first)
    (hnew : first.formula ≠ demand r → new = new') : settle new r cs = settle new' r cs := by
  induction cs with
  | nil => rfl
  | cons c rest ih =>
    rw [List.find?_cons] at h
    rw [settle, settle]
    by_cases hc : c.isGuardOf r.id = true
    · simp only [hc] at h
      cases h
      rw [if_pos hc, if_pos hc]
      split_ifs with hf
      · rfl
      · rw [hnew hf]
    · simp only [hc] at h
      rw [if_neg hc, if_neg hc, ih h]

/-! ## A relation more -/

theorem subtracting?_eq_none_of_ne (hother : ∀ r' ∈ before, r'.id ≠ r.id) :
    subtracting? before r.id = none :=
  subtracting?_eq_none_iff.2 fun r' hr' _ => hother r' hr'

theorem subtracting?_append_singleton (id : Ident) :
    subtracting? (before ++ [r]) id =
      (subtracting? before id).or (if r.isSubtract = true ∧ r.id = id then some r else none) := by
  rw [subtracting?_append]
  congr 1
  rw [subtracting?, List.find?_singleton]
  simp

/-- A relation decides nothing about the slots of others. -/
theorem slot_append_singleton_of_not_isGuardOf (hc : c.isGuardOf r.id = false) :
    slot fresh (before ++ [r]) earlier c = slot fresh before earlier c := by
  have hsame : c.owner?.bind (subtracting? (before ++ [r])) =
      c.owner?.bind (subtracting? before) := by
    cases ho : c.owner? with
    | none => rfl
    | some id =>
      have hne : ¬(r.isSubtract = true ∧ r.id = id) := by
        rintro ⟨-, rfl⟩
        rw [Constraint.isGuardOf_iff_owner?.2 ho] at hc
        cases hc
      rw [Option.bind_some, Option.bind_some, subtracting?_append_singleton, if_neg hne,
        Option.or_none]
  rw [slot, slot, hsame]

theorem slot_of_subtracting?_eq_none (hnone : subtracting? before r.id = none)
    (hc : c.isGuardOf r.id = true) : slot fresh before earlier c = some c := by
  rw [slot, Constraint.isGuardOf_iff_owner?.1 hc, Option.bind_some, hnone]

/-- Before its turn the guards of a relation are where they were. -/
theorem find?_slots (hnone : subtracting? before r.id = none) :
    (slots fresh before earlier cs).find? (·.isGuardOf r.id) = cs.find? (·.isGuardOf r.id) := by
  induction cs generalizing earlier with
  | nil => rfl
  | cons c rest ih =>
    rw [slots, List.find?_append, ih, List.find?_cons]
    by_cases hc : c.isGuardOf r.id = true
    · rw [slot_of_subtracting?_eq_none hnone hc]
      simp [hc]
    · have hskip : (slot fresh before earlier c).toList.find? (·.isGuardOf r.id) = none := by
        rw [List.find?_eq_none]
        intro d hd
        rw [isGuardOf_of_slot (Option.mem_toList.1 hd)]
        exact hc
      simp [hskip, hc]

/-- Behind the first guard of a relation its turn drops all guards. -/
theorem slots_append_singleton_of_any (hsub : r.isSubtract = true)
    (hnone : subtracting? before r.id = none)
    (hany : earlier.any (·.isGuardOf r.id) = true) :
    slots fresh (before ++ [r]) earlier cs =
      (slots fresh before earlier cs).filter fun c => !c.isGuardOf r.id := by
  have hself : subtracting? (before ++ [r]) r.id = some r := by
    rw [subtracting?_append_singleton, hnone, if_pos ⟨hsub, rfl⟩, Option.none_or]
  induction cs generalizing earlier with
  | nil => rfl
  | cons c rest ih =>
    rw [slots, slots, List.filter_append, ih (by rw [List.any_append, hany, Bool.true_or])]
    congr 1
    by_cases hc : c.isGuardOf r.id = true
    · rw [slot_of_isGuardOf hself hc, if_pos hany, slot_of_subtracting?_eq_none hnone hc]
      simp [hc]
    · rw [slot_append_singleton_of_not_isGuardOf (by simpa using hc), List.filter_eq_self.2]
      intro d hd
      rw [isGuardOf_of_slot (Option.mem_toList.1 hd)]
      simpa using hc

theorem slots_append_singleton (hsub : r.isSubtract = true)
    (hnone : subtracting? before r.id = none)
    (hany : earlier.any (·.isGuardOf r.id) = false) :
    slots fresh (before ++ [r]) earlier cs =
      settle (guard (fresh r) r) r (slots fresh before earlier cs) := by
  have hself : subtracting? (before ++ [r]) r.id = some r := by
    rw [subtracting?_append_singleton, hnone, if_pos ⟨hsub, rfl⟩, Option.none_or]
  induction cs generalizing earlier with
  | nil => rfl
  | cons c rest ih =>
    rw [slots, slots]
    by_cases hc : c.isGuardOf r.id = true
    · -- The first guard: from here on the turn only drops.
      have hnow : (earlier ++ [c]).any (·.isGuardOf r.id) = true := by
        simp [hc]
      rw [slots_append_singleton_of_any hsub hnone hnow, slot_of_isGuardOf hself hc, hany,
        if_neg Bool.false_ne_true, slot_of_subtracting?_eq_none hnone hc, Option.toList_some,
        List.singleton_append, settle, if_pos hc]
      split_ifs <;> rfl
    · have hnow : (earlier ++ [c]).any (·.isGuardOf r.id) = false := by
        rw [List.any_append, hany, List.any_cons, List.any_nil]
        simpa using hc
      rw [slot_append_singleton_of_not_isGuardOf (by simpa using hc), ih hnow]
      cases hslot : slot fresh before earlier c with
      | none => rfl
      | some d =>
        have hd : ¬d.isGuardOf r.id = true := by
          rw [isGuardOf_of_slot hslot]
          exact hc
        rw [Option.toList_some, List.singleton_append, List.singleton_append, settle, if_neg hd]

theorem slots_append_singleton_of_not_isSubtract (hsub : r.isSubtract = false) :
    slots fresh (before ++ [r]) earlier cs = slots fresh before earlier cs := by
  have hsame : subtracting? (before ++ [r]) = subtracting? before := by
    funext id
    rw [subtracting?_append_singleton, if_neg (fun h => by simp [hsub] at h), Option.or_none]
  induction cs generalizing earlier with
  | nil => rfl
  | cons c rest ih => rw [slots, slots, ih, slot, slot, hsame]

/-! ## The loop -/

theorem unguarded_append_singleton :
    unguarded (before ++ [r]) cs =
      unguarded before cs ++
        if r.isSubtract = true ∧ cs.find? (·.isGuardOf r.id) = none then [r] else [] := by
  rw [unguarded, unguarded, List.filter_append, List.filter_singleton]
  congr 1
  by_cases hsub : r.isSubtract = true <;> simp [hsub, Bool.cond_eq_ite]

theorem freshIdent_eq_numbered {minted : ℕ} (hother : ∀ r' ∈ before, r'.id ≠ r.id)
    (hneeds : needsGuard cs r = true) :
    freshIdent ⟨minted⟩ (before ++ r :: after) cs r =
      Supply.numbered (minted + 1 + (before.filter (needsGuard cs)).length) := by
  have hbefore : (before.filter (needsGuard cs)).findIdx (fun r' => decide (r'.id = r.id)) =
      (before.filter (needsGuard cs)).length := by
    apply List.findIdx_eq_length_of_false
    intro r' hr'
    exact decide_eq_false (hother r' (List.mem_filter.1 hr').1)
  rw [freshIdent, List.filter_append, List.filter_cons, if_pos hneeds, List.findIdx_append,
    hbefore, if_neg (lt_irrefl _), List.findIdx_cons]
  simp

/-- Where the loop stands after the turns of some relations: their slots are settled, and they took
    the first of the fresh identifiers. -/
structure Turned (fresh : Relation → Ident) (minted : ℕ) (before : List Relation)
    (cs : List Constraint) (s : Sync) : Prop where
  constraints : s.constraints =
    slots fresh before [] cs ++ (unguarded before cs).map fun r => guard (fresh r) r
  minted : s.supply.minted = minted + (before.filter (needsGuard cs)).length

namespace Turned

variable {minted : ℕ}

/-- The fresh guards at the end are guards of the relations that had their turn. -/
theorem isGuardOf_eq_false_of_mem (hother : ∀ r' ∈ before, r'.id ≠ r.id)
    (hc : c ∈ (unguarded before cs).map fun r => guard (fresh r) r) :
    c.isGuardOf r.id = false := by
  obtain ⟨r', hr', rfl⟩ := List.mem_map.1 hc
  rw [Bool.eq_false_iff, Ne, isGuardOf_guard]
  exact hother r' (List.mem_filter.1 hr').1

/-- At its turn a relation finds the guards that it had in the beginning. -/
theorem find? (h : Turned fresh minted before cs s) (hother : ∀ r' ∈ before, r'.id ≠ r.id) :
    s.constraints.find? (·.isGuardOf r.id) = cs.find? (·.isGuardOf r.id) := by
  have hnone := subtracting?_eq_none_of_ne hother
  have htail : ((unguarded before cs).map fun r => guard (fresh r) r).find?
      (·.isGuardOf r.id) = none := by
    rw [List.find?_eq_none]
    intro d hd
    rw [isGuardOf_eq_false_of_mem hother hd]
    exact Bool.false_ne_true
  rw [h.constraints, List.find?_append, find?_slots hnone, htail, Option.or_none]

theorem tend_of_not_isSubtract (h : Turned fresh minted before cs s)
    (hsub : r.isSubtract = false) : Turned fresh minted (before ++ [r]) cs (Guard.tend s r) := by
  have hneeds : needsGuard cs r = false := by rw [needsGuard, hsub, Bool.false_and]
  rw [Guard.tend_of_not_isSubtract hsub]
  constructor
  · rw [h.constraints, slots_append_singleton_of_not_isSubtract hsub, unguarded_append_singleton,
      if_neg (by simp [hsub]), List.append_nil]
  · rw [h.minted, List.filter_append, List.filter_singleton, hneeds]
    simp

/-- A relation without a guard gets a fresh one at the end. -/
theorem tend_of_none (h : Turned fresh minted before cs s) (hsub : r.isSubtract = true)
    (hother : ∀ r' ∈ before, r'.id ≠ r.id) (hfirst : cs.find? (·.isGuardOf r.id) = none)
    (hfresh : fresh r = Supply.numbered (s.supply.minted + 1)) :
    Turned fresh minted (before ++ [r]) cs (Guard.tend s r) := by
  have hnone := subtracting?_eq_none_of_ne hother
  have hneeds : needsGuard cs r = true := by
    rw [needsGuard, hsub, hfirst]
    rfl
  obtain ⟨hconstraints, hminted⟩ := tend_of_find?_eq_none hsub ((h.find? hother).trans hfirst)
  constructor
  · rw [hconstraints, h.constraints, slots_append_singleton hsub hnone rfl,
      settle_eq_self (by rw [find?_slots hnone, hfirst]), unguarded_append_singleton,
      if_pos ⟨hsub, hfirst⟩, List.map_append, List.append_assoc, ← hfresh]
    rfl
  · rw [hminted, h.minted, List.filter_append, List.length_append, List.filter_singleton, hneeds]
    rfl

/-- A relation with guards has them settled in their slots, and takes an identifier only if the
    first one demands something else. -/
theorem tend_of_some (h : Turned fresh minted before cs s) (hsub : r.isSubtract = true)
    (hother : ∀ r' ∈ before, r'.id ≠ r.id) (hfirst : cs.find? (·.isGuardOf r.id) = some first)
    (hfresh : first.formula ≠ demand r → fresh r = Supply.numbered (s.supply.minted + 1)) :
    Turned fresh minted (before ++ [r]) cs (Guard.tend s r) := by
  have hnone := subtracting?_eq_none_of_ne hother
  have hneeds : needsGuard cs r = decide (first.formula ≠ demand r) := by
    rw [needsGuard, hsub, hfirst, Bool.true_and]
  have htail : ((unguarded before cs).map fun r => guard (fresh r) r).filter
      (fun c => !c.isGuardOf r.id) = (unguarded before cs).map fun r => guard (fresh r) r := by
    rw [List.filter_eq_self]
    intro d hd
    rw [isGuardOf_eq_false_of_mem hother hd, Bool.not_false]
  have hslots : (slots fresh before [] cs).find? (·.isGuardOf r.id) = some first := by
    rw [find?_slots hnone, hfirst]
  have hsame : settle (guard (Supply.numbered (s.supply.minted + 1)) r) r
      (slots fresh before [] cs) = settle (guard (fresh r) r) r (slots fresh before [] cs) := by
    apply settle_congr hslots
    intro hf
    rw [hfresh hf]
  obtain ⟨hconstraints, hminted⟩ := tend_of_find?_eq_some hsub ((h.find? hother).trans hfirst)
  constructor
  · rw [hconstraints, h.constraints, settle_append hslots, htail, hsame,
      slots_append_singleton hsub hnone rfl, unguarded_append_singleton,
      if_neg (by simp [hfirst]), List.append_nil]
  · rw [hminted, h.minted, List.filter_append, List.length_append, List.filter_singleton,
      hneeds, Nat.add_assoc]
    congr 2
    by_cases hf : first.formula = demand r <;> simp [hf]

theorem tend (h : Turned fresh minted before cs s) (hother : ∀ r' ∈ before, r'.id ≠ r.id)
    (hfresh : needsGuard cs r = true →
      fresh r = Supply.numbered (minted + 1 + (before.filter (needsGuard cs)).length)) :
    Turned fresh minted (before ++ [r]) cs (Guard.tend s r) := by
  have hnext : minted + 1 + (before.filter (needsGuard cs)).length = s.supply.minted + 1 := by
    rw [h.minted]
    omega
  rw [hnext] at hfresh
  by_cases hsub : r.isSubtract = true
  · rw [needsGuard, hsub, Bool.true_and] at hfresh
    cases hfirst : cs.find? (·.isGuardOf r.id) with
    | none =>
      rw [hfirst] at hfresh
      exact h.tend_of_none hsub hother hfirst (hfresh rfl)
    | some first =>
      rw [hfirst] at hfresh
      exact h.tend_of_some hsub hother hfirst fun hf => hfresh (decide_eq_true hf)
  · exact h.tend_of_not_isSubtract (Bool.eq_false_iff.2 hsub)

theorem foldl (hids : ((before ++ after).map Relation.id).Nodup)
    (hfresh : ∀ r, fresh r = freshIdent ⟨minted⟩ (before ++ after) cs r)
    (h : Turned fresh minted before cs s) :
    Turned fresh minted (before ++ after) cs (after.foldl Guard.tend s) := by
  induction after generalizing before s with
  | nil => rwa [List.append_nil]
  | cons r rest ih =>
    have hother : ∀ r' ∈ before, r'.id ≠ r.id := by
      intro r' hr' heq
      rw [List.map_append, List.nodup_append] at hids
      exact hids.2.2 r'.id (List.mem_map_of_mem hr') r.id (List.mem_map_of_mem List.mem_cons_self)
        heq
    -- The identifier for `r` is counted off in the whole list, of which `before` is the front.
    have hturn := h.tend hother fun hneeds => by rw [hfresh, freshIdent_eq_numbered hother hneeds]
    rw [List.append_cons] at hids hfresh ⊢
    exact ih hids hfresh hturn

end Turned

/-! ## Synchronisation -/

theorem isStale_eq_isOrphan (relations : List Relation) (c : Constraint) :
    isStale ((relations.filter Relation.isSubtract).map Relation.id) c = isOrphan relations c := by
  have hgone (id : Ident) :
      (!((relations.filter Relation.isSubtract).map Relation.id).contains id) =
        (subtracting? relations id).isNone := by
    rw [Bool.eq_iff_iff, Option.isNone_iff_eq_none, subtracting?_eq_none_iff]
    simp
  rw [isStale, isOrphan, Constraint.owner?]
  cases c.autoGenerated with
  | false => rfl
  | true =>
    rw [if_pos rfl, Bool.true_and]
    cases c.relationId with
    | none => rfl
    | some id => exact hgone id

theorem needsGuard_filter_isOrphan (hr : subtracting? relations r.id = some r)
    (cs : List Constraint) :
    needsGuard (cs.filter fun c => !isOrphan relations c) r = needsGuard cs r := by
  have hsame : (fun c => !isOrphan relations c && c.isGuardOf r.id) = (·.isGuardOf r.id) := by
    funext c
    by_cases hc : c.isGuardOf r.id = true
    · rw [isOrphan_eq_false_of_isGuardOf hr hc, Bool.not_false, Bool.true_and]
    · rw [Bool.eq_false_iff.2 hc, Bool.and_false]
  rw [needsGuard, needsGuard, List.find?_filter]
  simp only [← Bool.and_eq_true, Bool.decide_eq_true, hsame]

theorem slots_nil : slots fresh [] earlier cs = cs := by
  induction cs generalizing earlier with
  | nil => rfl
  | cons c rest ih =>
    have hslot : slot fresh [] earlier c = some c := by
      rw [slot]
      cases c.owner? <;> rfl
    rw [slots, ih, hslot, Option.toList_some, List.singleton_append]

theorem turned_retract (relations : List Relation) (cs : List Constraint) (supply : Supply) :
    Turned fresh supply.minted [] (cs.filter fun c => !isOrphan relations c)
      (retract relations cs supply) := by
  constructor
  · rw [slots_nil, unguarded, List.filter_nil, List.map_nil, List.append_nil, retract]
    simp only [isStale_eq_isOrphan]
  · rfl

theorem freshIdent_filter_isOrphan (hids : (relations.map Relation.id).Nodup)
    (cs : List Constraint) (supply : Supply) :
    freshIdent supply relations (cs.filter fun c => !isOrphan relations c) =
      freshIdent supply relations cs := by
  have hneeds : relations.filter (needsGuard (cs.filter fun c => !isOrphan relations c)) =
      relations.filter (needsGuard cs) := by
    apply List.filter_congr
    intro r hr
    by_cases hsub : r.isSubtract = true
    · rw [needsGuard_filter_isOrphan (subtracting?_of_mem hids hr hsub)]
    · rw [needsGuard, needsGuard, Bool.eq_false_iff.2 hsub, Bool.false_and, Bool.false_and]
  funext r
  rw [freshIdent, freshIdent, hneeds]

theorem unguarded_filter_isOrphan (hids : (relations.map Relation.id).Nodup)
    (cs : List Constraint) :
    unguarded relations (cs.filter fun c => !isOrphan relations c) = unguarded relations cs := by
  apply List.filter_congr
  intro r hr
  by_cases hsub : r.isSubtract = true
  · rw [any_filter_isOrphan (subtracting?_of_mem hids hr hsub)]
  · rw [Bool.eq_false_iff.2 hsub, Bool.false_and, Bool.false_and]

/-- Synchronisation leaves the settled list. -/
theorem constraints_sync (hids : (relations.map Relation.id).Nodup) (cs : List Constraint)
    (supply : Supply) :
    (sync ⟨relations⟩ ⟨cs⟩ supply).constraints =
      settled (freshIdent supply relations cs) relations cs := by
  have hids' : (([] ++ relations).map Relation.id).Nodup := hids
  have hrun := (turned_retract relations cs supply).foldl hids' fun r => rfl
  rw [settled, ← freshIdent_filter_isOrphan hids, ← unguarded_filter_isOrphan hids]
  exact hrun.constraints

/-! ## Nothing to do -/

theorem constraints_retract_of_changes_eq_nil {supply : Supply}
    (h : (retract relations cs supply).changes = []) :
    (retract relations cs supply).constraints = cs := by
  rw [retract] at h ⊢
  rw [List.filter_eq_self]
  intro c hc
  have hnone := List.filterMap_eq_nil_iff.1 h c hc
  rw [retraction?] at hnone
  cases hrel : c.relationId with
  | none => simp [isStale, hrel]
  | some id => simpa [hrel] using hnone

theorem renew_of_changes_eq_nil {target : String}
    (h : (renew r target first s).changes = []) : renew r target first s = s := by
  rw [renew] at h ⊢
  split_ifs at h ⊢
  · rfl
  · simp at h

theorem dropExtra_of_changes_eq_nil (h : (dropExtra r s).changes = []) : dropExtra r s = s := by
  rw [dropExtra] at h ⊢
  split_ifs at h ⊢
  · rfl
  · simp at h

/-- A turn with no change on record afterwards did nothing. -/
theorem tend_of_changes_eq_nil (h : (tend s r).changes = []) : tend s r = s := by
  rw [tend] at h ⊢
  cases ht : r.effect.subtracts? with
  | none => rfl
  | some target =>
    simp only [ht] at h ⊢
    cases hfirst : s.constraints.find? (·.isGuardOf r.id) with
    | none =>
      simp only [hfirst] at h
      simp [insert] at h
    | some first =>
      simp only [hfirst] at h ⊢
      have hdrop := dropExtra_of_changes_eq_nil h
      rw [hdrop] at h ⊢
      exact renew_of_changes_eq_nil h

theorem foldl_tend_of_changes_eq_nil (h : (relations.foldl tend s).changes = []) :
    relations.foldl tend s = s := by
  induction relations generalizing s with
  | nil => rfl
  | cons r rest ih =>
    rw [List.foldl_cons] at h ⊢
    have hrest := ih h
    rw [hrest] at h ⊢
    exact tend_of_changes_eq_nil h

/-- If nothing was done, the constraints are as they were. -/
theorem constraints_sync_of_unchanged {reg : Relations} {constraints : Constraints}
    {supply : Supply} (h : (sync reg constraints supply).changed = false) :
    (sync reg constraints supply).constraints = constraints.constraints := by
  have hnil : (sync reg constraints supply).changes = [] := by
    rw [Sync.changed] at h
    simpa using h
  have hturns : sync reg constraints supply =
      retract reg.relations constraints.constraints supply := foldl_tend_of_changes_eq_nil hnil
  rw [hturns] at hnil ⊢
  exact constraints_retract_of_changes_eq_nil hnil

end HexRules.Guard
