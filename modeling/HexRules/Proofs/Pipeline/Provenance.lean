import HexRules.Proofs.Pipeline.Introduced

/-!
# Where guards come from

A guard is made from a relation, and has the concept and the names that the relation had then. After
that it is only looked at for what it demands, which the relation's subject role and target
determine. So a guard stays, with all that it was made with, for as long as its relation demands the
same at each tick; another concept alone does not replace it. A relation that is moved to another
concept may thus leave its guard behind in the old one.

To tell what a guard was made from, the relations at each tick are kept, those of the last tick
first. `Guard.maker?` looks through them for the relation as it was when its guard was made.

Results:
* `Traced.settled`: what a synchronisation leaves is traced back to its makers.
* `traced_run`: so are the guards in the course of a pipeline without other constraints.
* `guards_traced`: after each tick a guard demands what it should, and is otherwise as its maker has
  it; it has the concept of its relation, if relations that change the concept change the demand.
* `guard_left_behind`: otherwise it may have another one.
-/

namespace HexRules

/-! ## Makers -/

namespace Guard

variable {id : Ident} {f : Formula} {r m : Relation} {relations : List Relation}
  {before : List (List Relation)} {cs : List Constraint} {fresh : Relation → Ident}

/-- The relation with an identifier as it was at the first of the latest ticks at which, one after
    another, it demanded something. -/
def maker? (id : Ident) (f : Formula) : List (List Relation) → Option Relation
  | [] => none
  | relations :: before =>
    match subtracting? relations id with
    | none => none
    | some r => if f = demand r then (maker? id f before).or (some r) else none

theorem maker?_cons (hr : subtracting? relations id = some r) (hf : f = demand r) :
    maker? id f (relations :: before) = (maker? id f before).or (some r) := by
  rw [maker?, hr]
  exact if_pos hf

theorem exists_of_maker? (h : maker? id f (relations :: before) = some m) :
    ∃ r, subtracting? relations id = some r ∧ f = demand r ∧
      (maker? id f before = some m ∨ maker? id f before = none ∧ r = m) := by
  rw [maker?] at h
  cases hr : subtracting? relations id with
  | none =>
    rw [hr] at h
    cases h
  | some r =>
    rw [hr] at h
    dsimp only at h
    split_ifs at h with hf
    refine ⟨r, rfl, hf, ?_⟩
    cases hbefore : maker? id f before with
    | none =>
      rw [hbefore, Option.none_or] at h
      exact .inr ⟨rfl, Option.some.inj h⟩
    | some m' =>
      rw [hbefore, Option.some_or] at h
      exact .inl h

/-! ## Guards and their makers -/

/-- Constraints are the guards that relations at ticks account for: each is as its maker has it, and
    what has a maker has one guard. -/
structure Traced (ticks : List (List Relation)) (cs : List Constraint) : Prop where
  made : ∀ c ∈ cs, ∃ m, maker? m.id c.formula ticks = some m ∧ c = guard c.id m
  kept : ∀ id f m, maker? id f ticks = some m →
    ∃ c, cs.filter (·.isGuardOf id) = [c] ∧ c.formula = f

namespace Traced

theorem nil : Traced [] [] where
  made c hc := by cases hc
  kept id f m h := by cases h

/-- Nothing was demanded last that no guard demands. -/
theorem maker?_eq_none (h : Traced before cs)
    (hnone : ∀ c, cs.filter (·.isGuardOf id) = [c] → c.formula ≠ f) :
    maker? id f before = none := by
  cases hm : maker? id f before with
  | none => rfl
  | some m =>
    obtain ⟨c, hc, hf⟩ := h.kept id f m hm
    exact absurd hf (hnone c hc)

/-- What comes into the slot of a guard has its maker. -/
theorem made_of_slot {c d : Constraint} {earlier : List Constraint} (h : Traced before cs)
    (hc : c ∈ cs) (hkeep : isOrphan relations c = false)
    (hslot : slot fresh relations earlier c = some d) :
    ∃ m, maker? m.id d.formula (relations :: before) = some m ∧ d = guard d.id m := by
  obtain ⟨m, hm, hguard⟩ := h.made c hc
  have howner : c.owner? = some m.id := by rw [hguard, owner?_guard]
  obtain ⟨r, hr⟩ : ∃ r, subtracting? relations m.id = some r := by
    rw [isOrphan, howner] at hkeep
    exact Option.isSome_iff_exists.1 (by simpa using hkeep)
  obtain ⟨-, -, hid⟩ := subtracting?_eq_some hr
  rw [← hid] at hr hm howner
  rw [slot_of_isGuardOf hr (Constraint.isGuardOf_iff_owner?.2 howner)] at hslot
  split_ifs at hslot with hearlier hdemand
  · cases hslot
    refine ⟨m, ?_, hguard⟩
    rw [← hid, maker?_cons hr hdemand, hm, Option.some_or]
  · cases hslot
    refine ⟨r, ?_, rfl⟩
    have hnone : maker? r.id (demand r) before = none := by
      apply h.maker?_eq_none
      intro c' hc' hf
      have hmem : c ∈ cs.filter (·.isGuardOf r.id) :=
        List.mem_filter.2 ⟨hc, Constraint.isGuardOf_iff_owner?.2 howner⟩
      rw [hc', List.mem_singleton] at hmem
      exact hdemand (hmem ▸ hf)
    exact (maker?_cons hr rfl).trans (by rw [hnone, Option.none_or])

/-- A fresh guard at the end is made from the present relation. -/
theorem made_of_unguarded (hids : (relations.map Relation.id).Nodup) (h : Traced before cs)
    (hr : r ∈ unguarded relations cs) :
    maker? r.id (demand r) (relations :: before) = some r := by
  obtain ⟨hmem, hsub⟩ := List.mem_filter.1 hr
  rw [Bool.and_eq_true, Bool.not_eq_true', List.any_eq_false] at hsub
  have hnone : maker? r.id (demand r) before = none := by
    apply h.maker?_eq_none
    intro c hc _
    have hguard : c ∈ cs.filter (·.isGuardOf r.id) := by
      rw [hc]
      exact List.mem_singleton_self c
    exact hsub.2 c (List.mem_filter.1 hguard).1 (List.mem_filter.1 hguard).2
  rw [maker?_cons (subtracting?_of_mem hids hmem hsub.1) rfl, hnone, Option.none_or]

/-- What a synchronisation leaves is traced back to its makers. -/
theorem settled (hids : (relations.map Relation.id).Nodup) (h : Traced before cs) :
    Traced (relations :: before) (Guard.settled fresh relations cs) := by
  constructor
  · intro d hd
    rcases List.mem_append.1 hd with hslots | hnew
    · obtain ⟨c, hc, earlier, hslot⟩ := exists_slot_of_mem hslots
      obtain ⟨hc, hkeep⟩ := List.mem_filter.1 hc
      exact h.made_of_slot hc (by simpa using hkeep) hslot
    · obtain ⟨r, hr, rfl⟩ := List.mem_map.1 hnew
      exact ⟨r, made_of_unguarded hids h hr, rfl⟩
  · intro id f m hm
    obtain ⟨r, hr, rfl, -⟩ := exists_of_maker? hm
    obtain ⟨hmem, hsub, rfl⟩ := subtracting?_eq_some hr
    exact (inStep_settled hids).one r hmem hsub

/-- In constraints in step, a relation has one guard, which is as its maker has it. -/
theorem guard_of_inStep (h : Traced (relations :: before) cs) (hstep : InStep relations cs)
    (hr : r ∈ relations) (hsub : r.isSubtract = true) :
    ∃ g m, cs.filter (·.isGuardOf r.id) = [g] ∧ g.formula = demand r ∧
      maker? r.id (demand r) (relations :: before) = some m ∧ g = guard g.id m := by
  obtain ⟨g, hguards, hdemand⟩ := hstep.one r hr hsub
  have hg : g ∈ cs.filter (·.isGuardOf r.id) := by
    rw [hguards]
    exact List.mem_singleton_self g
  obtain ⟨hmem, hguard⟩ := List.mem_filter.1 hg
  obtain ⟨m, hm, hmade⟩ := h.made g hmem
  have hid : m.id = r.id := by
    rw [hmade] at hguard
    exact isGuardOf_guard.1 hguard
  rw [hid, hdemand] at hm
  exact ⟨g, m, hguards, hdemand, hm, hmade⟩

end Traced

/-! ## Concepts -/

/-- From one tick to the next, relations that demand the same have the same concept. -/
def ConceptsKept (later earlier : List Relation) : Prop :=
  ∀ id r r', subtracting? later id = some r → subtracting? earlier id = some r' →
    demand r' = demand r → r'.conceptId = r.conceptId

theorem conceptId_of_maker? {ticks : List (List Relation)}
    (hticks : (relations :: ticks).IsChain ConceptsKept)
    (hm : maker? id f (relations :: ticks) = some m) (hr : subtracting? relations id = some r) :
    m.conceptId = r.conceptId := by
  induction ticks generalizing relations r with
  | nil =>
    obtain ⟨r', hr', -, hbefore | ⟨-, rfl⟩⟩ := exists_of_maker? hm
    · cases hbefore
    · rw [hr, Option.some.injEq] at hr'
      rw [hr']
  | cons earlier rest ih =>
    obtain ⟨hkept, hrest⟩ := List.isChain_cons_cons.1 hticks
    obtain ⟨r', hr', hf, hbefore | ⟨-, rfl⟩⟩ := exists_of_maker? hm
    · obtain ⟨r'', hr'', hf', -⟩ := exists_of_maker? hbefore
      rw [ih hrest hbefore hr'']
      rw [hr', Option.some.injEq] at hr
      exact hkept id r r'' (hr ▸ hr') hr'' (hf'.symm.trans (hr ▸ hf))
    · rw [hr, Option.some.injEq] at hr'
      rw [hr']

end Guard

/-! ## The course of a pipeline -/

open Guard (Traced)
open Pipeline (Action)

namespace Pipeline

/-- Whether an action ticks. -/
def Action.isTick : Action → Bool
  | .tick => true
  | .refresh => true
  | _ => false

/-- An action that does not add or remove constraints, unless the generator does. -/
def Action.SparesConstraints : Action → Prop
  | .edit (.addConstraint _) _ => False
  | .edit (.removeConstraint _) _ => False
  | _ => True

theorem Action.sparesConstraints_of_isTick {a : Action} (h : a.isTick = true) :
    a.SparesConstraints := by
  cases a with
  | tick | refresh => trivial
  | edit e orderly | board board | grid grid => cases h

variable {p q : Pipeline} {a : Action} {world : Option World}

/-- Only edits of constraints and ticks change constraints. -/
theorem constraints_apply {e : Edit} {orderly : e.Orderly}
    (hspares : (Action.edit e orderly).SparesConstraints) (h : p.apply e = .ok q) :
    q.constraints.content = p.constraints.content := by
  cases e with
  | addConstraint c | removeConstraint id => cases hspares
  | addType t | removeType id | addEnum e | addConcept c | removeConcept id | addBinding b
  | removeBinding id | addRelation r | updateRelation id new | removeRelation id =>
    obtain ⟨handle, -, rfl⟩ := Outcome.map_eq_ok_iff.1 h
    rfl
  | select unit =>
    cases h
    rw [select]
    split_ifs <;> rfl
  | markChanged handle =>
    cases h
    cases handle <;> rfl
  | board edit =>
    cases h
    rfl
  | appendRole concept role | appendProperty binding property | appendConstraint c => cases orderly

theorem constraints_act (hspares : a.SparesConstraints) (htick : a.isTick = false) :
    (p.act a).constraints.content = p.constraints.content := by
  cases a with
  | edit e orderly =>
    rw [act]
    cases happly : p.apply e with
    | error e => rfl
    | ok q => exact constraints_apply hspares happly
  | board board => rfl
  | grid grid => rfl
  | tick | refresh => cases htick

/-- A tick leaves the world with its guards. -/
theorem world_act_of_isTick (h : p.Sound world) (htick : a.isTick = true) :
    (p.act a).world = p.guardedWorld := by
  cases a with
  | tick => exact world_tick h
  | refresh => exact world_tick h.invalidate
  | edit e orderly | board board | grid grid => cases htick

end Pipeline

/-- The course of a pipeline, and the relations that it had at each tick, the last one first. -/
structure Chronicle where
  course : Course
  ticks : List (List Relation)

namespace Chronicle

/-- The chronicle of a pipeline up to now, if it is new. -/
def start (p : Pipeline) : Chronicle := ⟨.start p, []⟩

/-- The chronicle after an action. -/
def next (c : Chronicle) (a : Action) : Chronicle :=
  ⟨c.course.next a,
    if a.isTick then c.course.pipeline.relations.content.relations :: c.ticks else c.ticks⟩

/-- The chronicle after actions. -/
def run (c : Chronicle) (actions : List Action) : Chronicle := actions.foldl next c

/-- The constraints of a pipeline are traced back, and its watches vouch for what they should. -/
structure Kept (c : Chronicle) : Prop where
  sound : c.course.pipeline.Sound c.course.computed
  traced : Traced c.ticks c.course.pipeline.constraints.content.constraints

variable {c : Chronicle} {a : Action}

theorem relations_next (h : c.Kept) (htick : a.isTick = true) :
    (c.next a).course.pipeline.relations.content = c.course.pipeline.relations.content :=
  congrArg World.relations (Pipeline.world_act_of_isTick h.sound htick)

theorem constraints_next (h : c.Kept) (htick : a.isTick = true) :
    ∃ fresh, (c.next a).course.pipeline.constraints.content =
      ⟨Guard.settled fresh c.course.pipeline.relations.content.relations
        c.course.pipeline.constraints.content.constraints⟩ := by
  obtain ⟨fresh, hsettled⟩ := Pipeline.exists_settled_guardedWorld h.sound.distinct
  have hworld := congrArg World.constraints (Pipeline.world_act_of_isTick h.sound htick)
  exact ⟨fresh, hworld.trans hsettled⟩

theorem ticks_next (h : c.Kept) (htick : a.isTick = true) :
    (c.next a).ticks = (c.next a).course.pipeline.relations.content.relations :: c.ticks := by
  rw [relations_next h htick, next, if_pos htick]

theorem Kept.next (h : c.Kept) (hspares : a.SparesConstraints) : (c.next a).Kept := by
  refine ⟨h.sound.act a, ?_⟩
  by_cases htick : a.isTick = true
  · obtain ⟨fresh, hsettled⟩ := constraints_next h htick
    rw [ticks_next h htick, relations_next h htick, hsettled]
    exact h.traced.settled h.sound.distinct
  · have hsame : (c.next a).course.pipeline.constraints.content =
        c.course.pipeline.constraints.content :=
      Pipeline.constraints_act hspares (Bool.eq_false_iff.2 htick)
    rw [hsame, Chronicle.next, if_neg htick]
    exact h.traced

theorem traced_run (h : c.Kept) {actions : List Action}
    (hspares : ∀ a ∈ actions, a.SparesConstraints) : (c.run actions).Kept := by
  induction actions generalizing c with
  | nil => exact h
  | cons a rest ih =>
    rw [run, List.foldl_cons]
    exact ih (h.next (hspares a List.mem_cons_self))
      fun a' ha' => hspares a' (List.mem_cons_of_mem a ha')

theorem guarded_next (h : c.Kept) (htick : a.isTick = true) :
    (c.next a).course.pipeline.Guarded := by
  obtain ⟨fresh, hsettled⟩ := constraints_next h htick
  rw [Pipeline.Guarded, relations_next h htick, hsettled]
  exact Guard.inStep_settled h.sound.distinct

theorem kept_start {p : Pipeline} (hnew : p.IsNew) (hrelations : p.relations.content = .empty)
    (hconstraints : p.constraints.content = .empty) : (start p).Kept := by
  constructor
  · apply hnew.sound
    rw [hrelations]
    exact List.nodup_nil
  · have hnone : (start p).course.pipeline.constraints.content = .empty := hconstraints
    rw [hnone]
    exact Traced.nil

/-- After every tick of a pipeline that began without relations and constraints, each relation that
    subtracts has one guard. It demands what it should, and all else of it is as its maker has it.
    It has the concept of its relation, if from tick to tick relations that demanded the same had
    the same concept. -/
theorem guards_traced (p : Pipeline) (hnew : p.IsNew) (hrelations : p.relations.content = .empty)
    (hconstraints : p.constraints.content = .empty) (actions : List Action)
    (hspares : ∀ a ∈ actions, a.SparesConstraints) (a : Action) (htick : a.isTick = true)
    (c : Chronicle) (hc : ((start p).run actions).next a = c) :
    ∀ r ∈ c.course.pipeline.relations.content.relations, r.isSubtract = true →
      ∃ g m, c.course.pipeline.constraints.content.constraints.filter (·.isGuardOf r.id) = [g] ∧
        g.formula = Guard.demand r ∧
        Guard.maker? r.id (Guard.demand r) c.ticks = some m ∧ g = Guard.guard g.id m ∧
        (c.ticks.IsChain Guard.ConceptsKept → g.conceptId = r.conceptId) := by
  have hrun := traced_run (kept_start hnew hrelations hconstraints) hspares
  have hkept := hrun.next (Action.sparesConstraints_of_isTick htick)
  have hticks := ticks_next hrun htick
  have hguarded := guarded_next hrun htick
  rw [hc] at hkept hticks hguarded
  intro r hr hsub
  have htraced := hkept.traced
  rw [hticks] at htraced ⊢
  obtain ⟨g, m, hguards, hdemand, hm, hmade⟩ := htraced.guard_of_inStep hguarded hr hsub
  refine ⟨g, m, hguards, hdemand, hm, hmade, fun hchain => ?_⟩
  have hconcept : g.conceptId = m.conceptId := by
    rw [hmade]
    rfl
  rw [hconcept]
  exact Guard.conceptId_of_maker? hchain hm
    (Guard.subtracting?_of_mem hkept.sound.distinct hr hsub)

/-! ## A relation without its concept -/

open Pipeline.Mule (ident toil)

/-- The mule's definitions, without relations and constraints so far. -/
def unladen : Pipeline :=
  .ofWorld .default false .start
    ⟨Pipeline.Mule.types, Pipeline.Mule.concepts, .empty, .empty, ⟨none⟩, ⟨1⟩, .empty⟩

/-- The relation is added, with a concept that is not there; after a tick the concept is put right,
    and the target with it, or not. -/
def correction (target : String) : List Action :=
  [.edit (.addRelation { toil 11 "Toil" "strength" with conceptId := ident 30 }) trivial, .tick,
    .edit (.updateRelation (ident 11) (toil 11 "Toil" target)) rfl]

/-- What is left of it after another tick. -/
def corrected (target : String) : Chronicle := ((start unladen).run (correction target)).next .tick

/-- With another target the relation gets another guard, which has its concept. -/
theorem guards_traced_corrected :
    ∃ g, (corrected "water").course.pipeline.constraints.content.constraints.filter
        (·.isGuardOf (ident 11)) = [g] ∧
      g.formula = Guard.demand (toil 11 "Toil" "water") ∧ g.conceptId = ident 3 := by
  have hspares : ∀ a ∈ correction "water", a.SparesConstraints := by
    intro a ha
    simp only [correction, List.mem_cons, List.not_mem_nil, or_false] at ha
    rcases ha with rfl | rfl | rfl <;> trivial
  have hrelations : (corrected "water").course.pipeline.relations.content.relations =
      [toil 11 "Toil" "water"] := by rfl
  have hticks : (corrected "water").ticks =
      [[toil 11 "Toil" "water"], [{ toil 11 "Toil" "strength" with conceptId := ident 30 }]] := by
    rfl
  obtain ⟨g, m, hguards, hdemand, -, -, hconcept⟩ := guards_traced unladen
    (Pipeline.isNew_ofWorld _ _ _ _) rfl rfl (correction "water") hspares .tick rfl
    (corrected "water") rfl (toil 11 "Toil" "water")
    (by rw [hrelations]; exact List.mem_singleton_self _) rfl
  refine ⟨g, hguards, hdemand, hconcept ?_⟩
  rw [hticks, List.isChain_pair]
  intro id r r' hr hr' hsame
  rw [List.mem_singleton.1 (Guard.subtracting?_eq_some hr).1,
    List.mem_singleton.1 (Guard.subtracting?_eq_some hr').1] at hsame
  exact absurd hsame (by decide)

/-- With the same target the guard stays, in the concept that is not there; and that is now the one
    flaw in the report. -/
theorem guard_left_behind :
    ∃ r ∈ (corrected "strength").course.pipeline.relations.content.relations,
      r.isSubtract = true ∧ r.TargetBound Pipeline.Mule.concepts ∧
      ∃ g, (corrected "strength").course.pipeline.constraints.content.guardOf? r.id = some g ∧
        g.conceptId ≠ r.conceptId ∧
        (corrected "strength").course.pipeline.schema.value.flaws =
          [.constraintConcept g.id g.name g.conceptId] := by
  refine ⟨toil 11 "Toil" "strength", List.mem_singleton_self _, rfl, by decide, _, rfl, ?_, ?_⟩
  · decide +kernel
  · decide +kernel

end Chronicle

end HexRules
