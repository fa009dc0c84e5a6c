import HexRules.Guard
import Mathlib.Tactic

/-!
# The books of a synchronisation

A synchronisation takes guards out, adds some, renews some in their place and drops others. All this
is on record, and each change counts under one of three actions: a guard that is dropped has been
retracted, and guards that are dropped at once count one by one. So the constraints can be told from
the record: there are as many more as guards were inserted, and as many fewer as were retracted.

The step that carries this is one change at a time. The identifiers do not matter: where they
repeat, the turn of a relation finds the guards of another one, and its own count covers what it
does.

Results:
* `Balanced.tend`: the turn of a relation keeps the books balanced.
* `balanced_sync`: they are balanced after a synchronisation.
* `Balanced.changed_iff`: something was done exactly if some action was counted.
-/

namespace HexRules.Guard

/-! ## Counting -/

/-- What is counted of changes of guards. -/
inductive Action
  | inserted
  | regenerated
  | retracted
  deriving DecidableEq, Repr

/-- How often a change counts under an action. -/
def Change.times : Change → Action → ℕ
  | .inserted _ _, .inserted => 1
  | .regenerated _ _ _, .regenerated => 1
  | .retracted _ _, .retracted => 1
  | .dropped n _, .retracted => n
  | _, _ => 0

/-- How often changes count under an action. -/
def counted (changes : List Change) (a : Action) : ℕ :=
  (changes.map fun change => change.times a).sum

/-- The books of a synchronisation that found a number of constraints: they account for the number
    that there is now, and there is no change on record that does not count. -/
structure Balanced (before : ℕ) (s : Sync) : Prop where
  length : s.constraints.length + counted s.changes .retracted =
    before + counted s.changes .inserted
  counts : ∀ change ∈ s.changes, ∃ a, 0 < change.times a

variable {before : ℕ} {s s' : Sync}

theorem counted_append (changes changes' : List Change) (a : Action) :
    counted (changes ++ changes') a = counted changes a + counted changes' a := by
  rw [counted, List.map_append, List.sum_append, counted, counted]

theorem counted_singleton (change : Change) (a : Action) : counted [change] a = change.times a := by
  rw [counted, List.map_singleton, List.sum_singleton]

/-- One change more, which is on record as it is. -/
theorem Balanced.step (h : Balanced before s) {change : Change}
    (hchanges : s'.changes = s.changes ++ [change]) (hcounts : ∃ a, 0 < change.times a)
    (hlength : s'.constraints.length + change.times .retracted =
      s.constraints.length + change.times .inserted) : Balanced before s' where
  length := by
    have hbefore := h.length
    rw [hchanges, counted_append, counted_append, counted_singleton, counted_singleton]
    omega
  counts := by
    rw [hchanges]
    intro c hc
    rcases List.mem_append.1 hc with hold | hnew
    · exact h.counts c hold
    · rw [List.mem_singleton.1 hnew]
      exact hcounts

/-- Something was done exactly if some action was counted. -/
theorem Balanced.changed_iff (h : Balanced before s) :
    s.changed = true ↔ ∃ a, 0 < counted s.changes a := by
  constructor
  · intro hchanged
    have hne : s.changes ≠ [] := by simpa [Sync.changed] using hchanged
    obtain ⟨change, hchange⟩ := List.exists_mem_of_ne_nil _ hne
    obtain ⟨a, ha⟩ := h.counts change hchange
    exact ⟨a, ha.trans_le (List.single_le_sum (by simp) _ (List.mem_map_of_mem hchange))⟩
  · rintro ⟨a, ha⟩
    by_contra hchanged
    have hnil : s.changes = [] := by simpa [Sync.changed] using hchanged
    rw [hnil] at ha
    exact absurd ha (lt_irrefl 0)

/-! ## Retraction -/

/-- A constraint is on record exactly if it is taken out. -/
theorem retraction?_cases (subtracting : List Ident) (c : Constraint) :
    (isStale subtracting c = true ∧
      ∃ relation, retraction? subtracting c = some (.retracted c.name relation)) ∨
    isStale subtracting c = false ∧ retraction? subtracting c = none := by
  cases hrelation : c.relationId with
  | none => exact .inr ⟨by simp [isStale, hrelation], by simp [retraction?, hrelation]⟩
  | some relation =>
    by_cases hstale : isStale subtracting c = true
    · exact .inl ⟨hstale, relation, by simp [retraction?, hrelation, hstale]⟩
    · exact .inr ⟨Bool.eq_false_iff.2 hstale, by simp [retraction?, hrelation, hstale]⟩

theorem balanced_retract (relations : List Relation) (cs : List Constraint) (supply : Supply) :
    Balanced cs.length (retract relations cs supply) := by
  unfold retract
  dsimp only
  generalize (relations.filter Relation.isSubtract).map Relation.id = subtracting
  induction cs with
  | nil => exact ⟨rfl, by simp⟩
  | cons c rest ih =>
    rcases retraction?_cases subtracting c with ⟨hstale, relation, hrecord⟩ | ⟨hstale, hrecord⟩
    · rw [List.filter_cons_of_neg (by simp [hstale]), List.filterMap_cons_some hrecord]
      constructor
      · have hlength := ih.length
        simp only [counted, List.map_cons, List.sum_cons, Change.times, List.length_cons]
          at hlength ⊢
        omega
      · intro change hchange
        rcases List.mem_cons.1 hchange with rfl | hrest
        · exact ⟨.retracted, Nat.one_pos⟩
        · exact ih.counts change hrest
    · rw [List.filter_cons_of_pos (by simp [hstale]), List.filterMap_cons_none hrecord]
      refine ⟨?_, ih.counts⟩
      have hlength := ih.length
      dsimp only [List.length_cons] at hlength ⊢
      omega

/-! ## One relation -/

theorem length_renewFirst (id : Ident) (new : Constraint) (cs : List Constraint) :
    (renewFirst id new cs).length = cs.length := by
  induction cs with
  | nil => rfl
  | cons c rest ih =>
    unfold renewFirst
    split_ifs
    · rfl
    · rw [List.length_cons, List.length_cons, ih]

/-- All guards of a relation but one go. -/
theorem length_keepFirst (id : Ident) (cs : List Constraint) :
    (keepFirst id cs).length + (cs.countP (·.isGuardOf id) - 1) = cs.length := by
  induction cs with
  | nil => rfl
  | cons c rest ih =>
    unfold keepFirst
    rw [List.countP_cons]
    split_ifs
    · have hrest := List.length_eq_countP_add_countP (·.isGuardOf id) (l := rest)
      rw [List.length_cons, List.length_cons, ← List.countP_eq_length_filter]
      simp only [decide_not, Bool.decide_eq_true] at hrest
      omega
    · rw [List.length_cons, List.length_cons]
      omega

theorem Balanced.insert (h : Balanced before s) (r : Relation) (target : String) :
    Balanced before (Guard.insert r target s) :=
  h.step rfl ⟨.inserted, Nat.one_pos⟩ (List.length_append.trans rfl)

theorem Balanced.renew (h : Balanced before s) (r : Relation) (target : String)
    (first : Constraint) : Balanced before (Guard.renew r target first s) := by
  unfold Guard.renew
  split_ifs
  · exact h
  · exact h.step rfl ⟨.regenerated, Nat.one_pos⟩ (length_renewFirst _ _ _)

theorem Balanced.dropExtra (h : Balanced before s) (r : Relation) :
    Balanced before (Guard.dropExtra r s) := by
  unfold Guard.dropExtra
  dsimp only
  split_ifs with hnone
  · exact h
  · exact h.step rfl ⟨.retracted, Nat.pos_of_ne_zero hnone⟩ (length_keepFirst _ _)

/-- The turn of a relation keeps the books balanced, whichever guards it finds. -/
theorem Balanced.tend (h : Balanced before s) (r : Relation) :
    Balanced before (Guard.tend s r) := by
  unfold Guard.tend
  cases r.effect.subtracts? with
  | none => exact h
  | some target =>
    dsimp only
    cases s.constraints.find? (·.isGuardOf r.id) with
    | none => exact h.insert r target
    | some first => exact (h.renew r target first).dropExtra r

/-! ## All relations -/

theorem Balanced.foldl_tend (h : Balanced before s) (relations : List Relation) :
    Balanced before (relations.foldl Guard.tend s) := by
  induction relations generalizing s with
  | nil => exact h
  | cons r rest ih => exact ih (h.tend r)

theorem balanced_sync (relations : Relations) (constraints : Constraints) (supply : Supply) :
    Balanced constraints.constraints.length (sync relations constraints supply) :=
  (balanced_retract _ _ supply).foldl_tend relations.relations

end HexRules.Guard
