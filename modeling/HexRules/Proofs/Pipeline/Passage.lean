import HexRules.Proofs.Movement.Free
import HexRules.Proofs.Pipeline.Coherence
import HexRules.Proofs.Pipeline.Tick

/-!
# Passage without tolls

Where no relation takes effect on entering, a unit goes all over the map, as long as nothing makes
its budget count. What makes it count are constraints, of any kind; and the guards of relations that
subtract on leaving a hex, say, are constraints, though they do not bear on moves. A unit with some
budget does not notice, since it finds nothing to spend it on. One without budget takes one step,
and one below zero cannot move.

This is so at any time in the course of a pipeline. A tick that finds no change leaves the moves as
they were computed before, and these are then those of the present definitions, on the board and the
map of that time.

Results:
* `Watched.constraints_prepared_eq_nil_iff`: guards come into an empty registry when a relation
  subtracts.
* `exists_tick_eq_ok`: a tick succeeds if there are moves.
* `tick_passage`: what the moves are where no relation takes effect on entering.
-/

namespace HexRules

open Movement

namespace Pipeline

variable {p : Pipeline} {world : Option World}

/-! ## A tick over an empty registry -/

/-- What the evaluator finds differs from what the pipeline holds in the constraints only. -/
theorem world_prepared (p : Pipeline) :
    p.prepared.world = { p.world with constraints := p.prepared.constraints.content } := by
  rw [prepared, runValidator, runGenerator, syncGuards]
  split_ifs <;> rfl

theorem world_tick_eq_prepared (p : Pipeline) : p.tick.2.world = p.prepared.world := by
  obtain ⟨moves, journal, heq⟩ := p.exists_snd_tick_eq
  rw [heq]
  rfl

theorem settings_tick (p : Pipeline) : p.tick.2.settings = p.settings := by
  obtain ⟨moves, journal, heq⟩ := p.exists_snd_tick_eq
  rw [heq]
  exact p.settings_prepared

theorem constraints_runValidator (p : Pipeline) : p.runValidator.constraints = p.constraints := by
  rw [runValidator]
  split_ifs <;> rfl

/-- An empty registry stays empty exactly if no relation subtracts. -/
theorem Watched.constraints_prepared_eq_nil_iff (h : p.Watched world)
    (hempty : p.constraints.content = .empty) :
    p.prepared.constraints.content.constraints = [] ↔
      ∀ r ∈ p.relations.content.relations, r.isSubtract = false := by
  have hrelations : p.runGenerator.2.relations = p.relations := by
    rw [Pipeline.runGenerator]
    split_ifs
    · exact p.relations_syncGuards
    · rfl
  rw [prepared, constraints_runValidator]
  constructor
  · rw [← hrelations]
    exact h.runGenerator.2.staffed
  · intro hnone
    rw [Pipeline.runGenerator]
    split_ifs
    · exact p.content_syncGuards.trans (hempty ▸ Guard.constraints_sync_empty hnone p.supply)
    · exact congrArg Constraints.constraints hempty

/-- Where no records are kept, a tick succeeds if there are moves with guards up to date. -/
theorem exists_tick_eq_ok (hrecording : p.recording = false) {moves : MoveSet}
    (h : (compute p.settings.fallbackPerConcept p.prepared.world).2 = .ok moves) :
    ∃ changed, p.tick.1 = .ok changed := by
  have hmoves : p.prepared.computeMoves.1 = .ok moves := by
    simp only [computeMoves, settings_prepared, conclude, recording_prepared, hrecording,
      Bool.false_eq_true, if_false]
    exact h
  have hrun : p.prepared.runEvaluator.1 = .ok () := by
    by_cases hchanged : p.prepared.moves.watch.changed p.prepared.moveStamps = true
    · rcases runEvaluator_of_changed hchanged with ⟨moves', told, -, heq⟩ | ⟨e, told, hfail, -⟩
      · rw [heq]
      · rw [hmoves] at hfail
        cases hfail
    · rw [runEvaluator, if_neg hchanged]
  exact ⟨p.runGenerator.1, by rw [fst_tick, hrun]; rfl⟩

end Pipeline

/-- The moves of a pipeline were computed on the present board and map, if they were at all. -/
def Course.Current (c : Course) : Prop :=
  ∀ w, c.computed = some w → w.board = c.pipeline.board ∧ w.grid = c.pipeline.grid

/-- A tick leaves moves that were computed on the present board and map, if they were so before; and
    also if it computes them. -/
theorem Course.current_tick {c : Course}
    (h : c.pipeline.tick.2.moves.revision = c.pipeline.moves.revision → c.Current) :
    (c.next .tick).Current := by
  have hworld := c.pipeline.world_tick_eq_prepared.trans c.pipeline.world_prepared
  have hboard : c.pipeline.tick.2.board = c.pipeline.board := congrArg World.board hworld
  have hgrid : c.pipeline.tick.2.grid = c.pipeline.grid := congrArg World.grid hworld
  intro w hw
  have hw : Pipeline.computed c.pipeline c.pipeline.tick.2 c.computed = some w := hw
  show w.board = c.pipeline.tick.2.board ∧ w.grid = c.pipeline.tick.2.grid
  rw [Pipeline.computed] at hw
  split_ifs at hw with hrevision
  · rw [hboard, hgrid]
    exact h hrevision w hw
  · cases hw
    exact ⟨rfl, rfl⟩

/-! ## Moves without relations that take effect on entering -/

namespace Movement

/-- The moves are all hexes of a map but the start. -/
def MoveSet.CoversMap (moves : MoveSet) (start : Hex) (radius : ℤ) : Prop :=
  ∀ p, p ∈ moves.valid ↔ Grid.inBounds p radius = true ∧ p ≠ start

/-- The budget depends on concepts and relations only. -/
theorem budget_mover_congr {w w' : World} (hconcepts : w.concepts = w'.concepts)
    (hrelations : w.relations = w'.relations) (perConcept : ℤ) (data : EntityData) :
    (mover w data).budget perConcept = (mover w' data).budget perConcept := by
  unfold Mover.budget Mover.ownBudget mover moverAs
  rw [hconcepts, hrelations]
  rfl

end Movement

namespace Pipeline

variable {p : Pipeline} {world : Option World} {unit : BoardUnit} {b : ℤ} {changed : Bool}

/-- A pipeline without constraints, and without relations that take effect on entering. The selected
    unit stands on the map. -/
structure EntersFreely (p : Pipeline) (unit : BoardUnit) : Prop where
  onEnter : p.relations.content.onEnter = []
  constraints : p.constraints.content = .empty
  selected : p.selected.content.unit? p.board = some unit
  onMap : Grid.inBounds unit.position p.grid.radius = true

namespace EntersFreely

theorem mem_floodFill (h : p.EntersFreely unit) {q : Hex} :
    q ∈ Grid.floodFill unit.position p.grid.radius ↔
      Grid.inBounds q p.grid.radius = true ∧ q ≠ unit.position :=
  Grid.mem_floodFill ⟨unit.position, .inl rfl, h.onMap⟩

/-- Movement stays free until a relation that subtracts gets its guard. -/
theorem isFree_iff (h : p.EntersFreely unit) (hwatched : p.Watched world) {w : World}
    (hrelations : w.relations = p.relations.content)
    (hconstraints : w.constraints = p.prepared.constraints.content) :
    isFree w = true ↔ ∀ r ∈ p.relations.content.relations, r.isSubtract = false := by
  rw [isFree, hrelations, h.onEnter, hconstraints,
    ← hwatched.constraints_prepared_eq_nil_iff h.constraints]
  simp

/-- What a tick leaves are moves in a world with the present definitions. -/
theorem exists_world (h : p.EntersFreely unit) (hwatched : p.Watched world)
    (hok : p.tick.1 = .ok changed)
    (hcurrent : ∀ w, computed p p.tick.2 world = some w →
      w.board = p.tick.2.board ∧ w.grid = p.tick.2.grid) :
    ∃ w : World, w.concepts = p.concepts.content ∧ w.relations = p.relations.content ∧
      w.grid = p.grid ∧ w.selected.unit? w.board = some unit ∧
      (isFree w = true ↔ ∀ r ∈ p.relations.content.relations, r.isSubtract = false) ∧
      (compute p.settings.fallbackPerConcept w).2 = .ok p.tick.2.moves.value := by
  obtain ⟨-, -, w, hw, hselected, hconcepts, hrelations, hconstraints, hmoves⟩ :=
    hwatched.tick.2 changed hok
  obtain ⟨hboard, hgrid⟩ := hcurrent w hw
  have hprepared := p.world_tick_eq_prepared
  have hworld := hprepared.trans p.world_prepared
  replace hselected := hselected.trans (congrArg World.selected hworld)
  replace hconcepts := hconcepts.trans (congrArg World.concepts hworld)
  replace hrelations := hrelations.trans (congrArg World.relations hworld)
  replace hconstraints := hconstraints.trans (congrArg World.constraints hprepared)
  replace hboard := hboard.trans (congrArg World.board hworld)
  replace hgrid := hgrid.trans (congrArg World.grid hworld)
  refine ⟨w, hconcepts, hrelations, hgrid, ?_, h.isFree_iff hwatched hrelations hconstraints, ?_⟩
  · rw [hselected, hboard]
    exact h.selected
  · rwa [settings_tick] at hmoves

/-- Where no records are kept, a tick succeeds: without guards always, and with guards if the hexes
    that are tried then have keys. -/
theorem exists_tick (h : p.EntersFreely unit) (hwatched : p.Watched world)
    (hrecording : p.recording = false) :
    ((∀ r ∈ p.relations.content.relations, r.isSubtract = false) →
      ∃ changed, p.tick.1 = .ok changed) ∧
    ∀ b, (mover p.world unit.data).budget p.settings.fallbackPerConcept = .ok b →
      (∀ q ∈ tried unit.position b p.grid.radius, q.hasKey = true) →
      ∃ changed, p.tick.1 = .ok changed := by
  have hworld := p.world_prepared
  have hunit : p.prepared.world.selected.unit? p.prepared.world.board = some unit := by
    rw [hworld]
    exact h.selected
  have hrelations : p.prepared.world.relations = p.relations.content :=
    congrArg World.relations hworld
  constructor
  · intro hnone
    have hfree := (h.isFree_iff hwatched hrelations rfl).2 hnone
    exact exists_tick_eq_ok hrecording (by rw [compute_of_isFree _ hunit hfree])
  · intro b hb hkeys
    have hb' : (mover p.prepared.world unit.data).budget p.settings.fallbackPerConcept = .ok b := by
      rw [← hb]
      exact budget_mover_congr (congrArg World.concepts hworld) hrelations _ _
    have hgrid : p.prepared.world.grid = p.grid := congrArg World.grid hworld
    obtain ⟨moves, hmoves⟩ :=
      exists_compute_of_hasKey (hrelations ▸ h.onEnter) hunit hb' (hgrid.symm ▸ hkeys)
    exact exists_tick_eq_ok hrecording hmoves

end EntersFreely

/-- Where no relation takes effect on entering, and no constraint was there, moves after a tick are
    all the hexes of the map but the unit's own, whatever its budget, if no relation subtracts. If
    some relation does subtract, on another occasion, they are all of them for a unit that has some
    budget, the next ones for a unit without budget, and none for one below zero. The tick may find
    no change, and leave moves that were computed on the same board and map. It succeeds, unless a
    budget counts and a hex that is tried has no key. -/
theorem tick_passage (new : Pipeline) (hnew : new.IsNew) (actions : List Action) (c : Course)
    (hc : (Course.start new).run actions = c) (unit : BoardUnit)
    (h : c.pipeline.EntersFreely unit) :
    (c.pipeline.recording = false →
      ((∀ r ∈ c.pipeline.relations.content.relations, r.isSubtract = false) →
        ∃ changed, c.pipeline.tick.1 = .ok changed) ∧
      ∀ b, (mover c.pipeline.world unit.data).budget c.pipeline.settings.fallbackPerConcept =
          .ok b →
        (∀ q ∈ tried unit.position b c.pipeline.grid.radius, q.hasKey = true) →
        ∃ changed, c.pipeline.tick.1 = .ok changed) ∧
    ∀ changed, c.pipeline.tick.1 = .ok changed → (c.next .tick).Current →
      ((∀ r ∈ c.pipeline.relations.content.relations, r.isSubtract = false) →
        c.pipeline.tick.2.moves.value.CoversMap unit.position c.pipeline.grid.radius) ∧
      ∀ b, (mover c.pipeline.world unit.data).budget c.pipeline.settings.fallbackPerConcept =
          .ok b →
        (∃ r ∈ c.pipeline.relations.content.relations, r.isSubtract = true) →
        (0 < b → c.pipeline.tick.2.moves.value.CoversMap unit.position c.pipeline.grid.radius) ∧
        (b = 0 → ∀ q, q ∈ c.pipeline.tick.2.moves.value.valid ↔
          q ∈ unit.position.neighbors ∧ Grid.inBounds q c.pipeline.grid.radius = true) ∧
        (b < 0 → c.pipeline.tick.2.moves.value.valid = []) := by
  have hwatched : c.pipeline.Watched c.computed := by
    rw [← hc]
    exact Course.watched_run (c := Course.start new) hnew.watched actions
  refine ⟨h.exists_tick hwatched, fun changed hok hcurrent => ?_⟩
  obtain ⟨w, hconcepts, hrelations, hgrid, hunit, hfree, hmoves⟩ :=
    h.exists_world hwatched hok hcurrent
  have honEnter : w.relations.onEnter = [] := hrelations ▸ h.onEnter
  constructor
  · intro hnone q
    rw [compute_of_isFree _ hunit (hfree.2 hnone), hgrid] at hmoves
    rw [← Except.ok.inj hmoves]
    exact h.mem_floodFill
  · rintro b hb ⟨r, hr, hsub⟩
    have hcounts : isFree w = false := by
      rw [Bool.eq_false_iff]
      intro hisFree
      rw [hfree.1 hisFree r hr] at hsub
      cases hsub
    have hb' : (mover w unit.data).budget c.pipeline.settings.fallbackPerConcept = .ok b := by
      rw [← hb]
      exact budget_mover_congr hconcepts hrelations _ _
    obtain ⟨s, hs, hvalue⟩ := (snd_compute_eq_ok_iff hunit hcounts hb').1 hmoves
    obtain ⟨hall, hnext, hnowhere⟩ :=
      valid_of_relations (m := mover w unit.data) honEnter unit.id hs
    rw [hvalue]
    rw [hgrid] at hall hnext
    exact ⟨fun hpos q => (hall hpos).mem_iff.trans h.mem_floodFill, hnext, hnowhere⟩

/-! ## A toll on the way out -/

/-- The tolls of the river are taken from a traveller who leaves a hex. -/
def departing (budget : ℤ) : Pipeline :=
  .ofWorld .default false .start
    ⟨.empty, River.concepts,
      ⟨[⟨River.ident 11, "Toll", River.ident 3, River.ident 4, River.ident 5, .onExit,
        .modify "budget" "toll" .subtract⟩]⟩,
      .empty, ⟨some "traveller"⟩, ⟨2⟩,
      River.board.placeUnit "traveller" ⟨0, 0⟩ (River.traveller budget)⟩

theorem entersFreely_departing (budget : ℤ) :
    (departing budget).EntersFreely ⟨"traveller", ⟨0, 0⟩, River.traveller budget⟩ where
  onEnter := rfl
  constraints := rfl
  selected := rfl
  onMap := rfl

/-- The traveller pays nothing on the way to any hex of the map. -/
theorem tick_passage_departing :
    (departing 3).EntersFreely ⟨"traveller", ⟨0, 0⟩, River.traveller 3⟩ ∧
      ∃ changed, (departing 3).tick.1 = .ok changed ∧
        (departing 3).tick.2.moves.value.CoversMap ⟨0, 0⟩ 2 := by
  have h := entersFreely_departing 3
  obtain ⟨hreturns, hmoves⟩ := tick_passage (departing 3) (isNew_ofWorld _ _ _ _) []
    (Course.start (departing 3)) rfl _ h
  obtain ⟨changed, hok⟩ := (hreturns rfl).2 3 (by decide) (by decide)
  have hcurrent : ((Course.start (departing 3)).next .tick).Current :=
    Course.current_tick fun _ w hw => by cases hw
  exact ⟨h, changed, hok, ((hmoves changed hok hcurrent).2 3 (by decide)
    ⟨_, List.mem_cons_self, by decide⟩).1 (by decide)⟩

/-- Below zero, the traveller does not get to the next hex. -/
theorem not_coversMap_departing :
    (departing (-1)).IsNew ∧
      (departing (-1)).EntersFreely ⟨"traveller", ⟨0, 0⟩, River.traveller (-1)⟩ ∧
      ∃ changed, (departing (-1)).tick.1 = .ok changed ∧
        ¬(departing (-1)).tick.2.moves.value.CoversMap ⟨0, 0⟩ 2 := by
  obtain ⟨changed, hok⟩ := Outcome.exists_eq_ok_of_isOk
    (x := (departing (-1)).tick.1) (by decide +kernel)
  refine ⟨isNew_ofWorld _ _ _ _, entersFreely_departing (-1), changed, hok, fun hcovers => ?_⟩
  have hnext : (⟨1, 0⟩ : Hex) ∈ (departing (-1)).tick.2.moves.value.valid :=
    (hcovers ⟨1, 0⟩).2 ⟨by decide, by decide⟩
  have hnone : (departing (-1)).tick.2.moves.value.valid = [] := by decide +kernel
  rw [hnone] at hnext
  cases hnext

end Pipeline

end HexRules
