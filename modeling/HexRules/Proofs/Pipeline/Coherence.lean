import HexRules.Proofs.Movement.Cost
import HexRules.Proofs.Pipeline.Sound

/-!
# Coherence

A pipeline is edited, its board and map are changed, and now and then it ticks or has its moves
refreshed; any of these may be refused or fail. A `Course` takes note of the world in which moves
were last computed.

Results:
* `watched_run`, `sound_run`: in the whole course of a new pipeline its watches vouch for what they
  should.
* `tick_coherent`: at any time in it, a tick or a refresh that succeeds leaves guards, report and
  moves that fit; the moves of a tick fit if board, map and entity types are those from when they
  were computed.
-/

namespace HexRules

namespace Pipeline

/-- A pipeline that has derived nothing yet. -/
structure IsNew (p : Pipeline) : Prop where
  generator : p.generator = .fresh
  schema : p.schema.watch = .fresh
  moves : p.moves.watch = .fresh

theorem isNew_ofWorld (settings : Settings) (recording : Bool) (supply : Supply) (world : World) :
    (ofWorld settings recording supply world).IsNew := ⟨rfl, rfl, rfl⟩

theorem IsNew.watched {p : Pipeline} (h : p.IsNew) : p.Watched none where
  guards := by
    rw [h.generator]
    exact Watch.vouches_fresh
  schema := by
    rw [h.schema]
    exact Watch.vouches_fresh
  moves := by
    rw [h.moves]
    exact Watch.vouches_fresh

theorem IsNew.sound {p : Pipeline} (h : p.IsNew) (hids : p.relations.content.Distinct) :
    p.Sound none := ⟨h.watched, hids⟩

/-- Something that happens to a pipeline. -/
inductive Action
  | edit (e : Edit) (orderly : e.Orderly)
  | board (board : Board)
  | grid (grid : GridConfig)
  | tick
  | refresh

/-- The pipeline after an action; a refused edit leaves it as it was. -/
def act (p : Pipeline) : Action → Pipeline
  | .edit e _ =>
    match p.apply e with
    | .ok p' => p'
    | .error _ => p
  | .board board => p.replace (.board board)
  | .grid grid => p.replace (.grid grid)
  | .tick => p.tick.2
  | .refresh => p.refreshMoves.2

theorem Edited.computed {p p' : Pipeline} (h : p.Edited p') (world : Option World) :
    computed p p' world = world := by
  rw [Pipeline.computed, h.moves, if_pos rfl]

/-- What happens leaves the watches with what they vouch for. -/
theorem Watched.act {p : Pipeline} {world : Option World} (h : p.Watched world) (a : Action) :
    (p.act a).Watched (computed p (p.act a) world) := by
  cases a with
  | edit e orderly =>
    rw [Pipeline.act]
    cases happly : p.apply e with
    | error e =>
      rw [p.edited_refl.computed]
      exact h
    | ok p' =>
      have hedited := apply_edited orderly happly
      rw [hedited.computed]
      exact h.edit hedited
  | board board =>
    have hedited := p.edited_replace_board board
    rw [Pipeline.act, hedited.computed]
    exact h.edit hedited
  | grid grid =>
    have hedited := p.edited_replace_grid grid
    rw [Pipeline.act, hedited.computed]
    exact h.edit hedited
  | tick => exact h.tick.1
  | refresh => exact h.invalidate.tick.1

theorem distinct_act {p : Pipeline} (h : p.relations.content.Distinct) (a : Action) :
    (p.act a).relations.content.Distinct := by
  cases a with
  | edit e orderly =>
    rw [Pipeline.act]
    cases happly : p.apply e with
    | error e => exact h
    | ok p' => exact (apply_edited orderly happly).distinct h
  | board board => exact h
  | grid grid => exact h
  | tick => exact p.relations_tick ▸ h
  | refresh => exact p.invalidate.relations_tick ▸ h

theorem Sound.act {p : Pipeline} {world : Option World} (h : p.Sound world) (a : Action) :
    (p.act a).Sound (computed p (p.act a) world) :=
  ⟨h.toWatched.act a, distinct_act h.distinct a⟩

theorem Sound.invalidate {p : Pipeline} {world : Option World} (h : p.Sound world) :
    p.invalidate.Sound world := ⟨h.toWatched.invalidate, h.distinct⟩

/-- The moves are those of the present world. -/
def Moved (p : Pipeline) : Prop :=
  (Movement.compute p.settings.fallbackPerConcept p.world).2 = .ok p.moves.value

/-- Moves that were computed in a world with the same board, map and entity types fit. -/
theorem moved_of_recalled {p : Pipeline} {w : World} (h : p.Recalled (some w))
    (hboard : p.board = w.board) (hgrid : p.grid = w.grid) (htypes : p.types.content = w.types) :
    p.Moved := by
  obtain ⟨w', hw, hselected, hconcepts, hrelations, hconstraints, hmoves⟩ := h
  cases hw
  have hworld : p.world = w := by
    rw [world, hboard, hgrid, htypes, ← hselected, ← hconcepts, ← hrelations, ← hconstraints]
  rw [Moved, hworld]
  exact hmoves

end Pipeline

open Movement
open Pipeline (Action)

/-- A pipeline, and the world in which its moves were last computed. -/
structure Course where
  pipeline : Pipeline
  computed : Option World

namespace Course

/-- The course of a pipeline up to now, if it is new. -/
def start (p : Pipeline) : Course := ⟨p, none⟩

/-- The course after an action. -/
def next (c : Course) (a : Action) : Course :=
  ⟨c.pipeline.act a, Pipeline.computed c.pipeline (c.pipeline.act a) c.computed⟩

/-- The course after actions. -/
def run (c : Course) (actions : List Action) : Course := actions.foldl next c

/-- All that is derived fits; the moves do if board, map and entity types are those from when they
    were computed. -/
structure Coherent (c : Course) : Prop where
  guards : c.pipeline.Guarded
  schema : c.pipeline.Reported
  moves : ∃ w, c.computed = some w ∧
    (c.pipeline.board = w.board → c.pipeline.grid = w.grid → c.pipeline.types.content = w.types →
      c.pipeline.Moved)

theorem watched_run {c : Course} (h : c.pipeline.Watched c.computed) (actions : List Action) :
    (c.run actions).pipeline.Watched (c.run actions).computed := by
  induction actions generalizing c with
  | nil => exact h
  | cons a rest ih =>
    rw [run, List.foldl_cons]
    exact ih (h.act a)

theorem sound_run {c : Course} (h : c.pipeline.Sound c.computed) (actions : List Action) :
    (c.run actions).pipeline.Sound (c.run actions).computed := by
  induction actions generalizing c with
  | nil => exact h
  | cons a rest ih =>
    rw [run, List.foldl_cons]
    exact ih (h.act a)

theorem coherent_of_recalled {c : Course} (hguarded : c.pipeline.Guarded)
    (hreported : c.pipeline.Reported) (hrecalled : c.pipeline.Recalled c.computed) :
    c.Coherent := by
  obtain ⟨w, hw, -⟩ := id hrecalled
  refine ⟨hguarded, hreported, w, hw, ?_⟩
  rw [hw] at hrecalled
  exact Pipeline.moved_of_recalled hrecalled

/-- In the course of a new pipeline whose relations have distinct identifiers, all that is derived
    fits after every tick and every refresh that succeeds. -/
theorem tick_coherent (p : Pipeline) (hnew : p.IsNew) (hids : p.relations.content.Distinct)
    (actions : List Action) :
    (∀ changed, ((start p).run actions).pipeline.tick.1 = .ok changed →
      (((start p).run actions).next .tick).Coherent) ∧
    ∀ changed, ((start p).run actions).pipeline.refreshMoves.1 = .ok changed →
      (((start p).run actions).next .refresh).Coherent ∧
        (((start p).run actions).next .refresh).pipeline.Moved := by
  have hsound := sound_run (c := start p) (hnew.sound hids) actions
  constructor
  · intro changed hok
    obtain ⟨hguarded, hreported, hrecalled⟩ := hsound.tick.2 changed hok
    exact coherent_of_recalled hguarded hreported hrecalled
  · intro changed hok
    obtain ⟨hguarded, hreported, hrecalled⟩ := hsound.invalidate.tick.2 changed hok
    refine ⟨coherent_of_recalled hguarded hreported hrecalled, ?_⟩
    rw [Pipeline.computed_tick_of_fresh rfl hok] at hrecalled
    exact Pipeline.moved_of_recalled hrecalled rfl rfl rfl

/-! ## A new ford -/

/-- A pipeline with a traveller between the ford, the inn and the ferry. -/
def travelling : Pipeline :=
  .ofWorld .default true .start
    ⟨.empty, River.concepts, ⟨River.relations⟩, .empty, ⟨some "traveller"⟩, ⟨1⟩,
      River.board.placeUnit "traveller" ⟨0, 0⟩ (River.traveller 3)⟩

/-- The inn closes, which the next tick finds out; then there is a ford where there was none, which
    the pipeline does not look for. -/
def newFord : List Action :=
  [.tick, .edit (.removeRelation (River.ident 12)) trivial, .tick,
    .edit (.board (.placeTile ⟨0, 1⟩ (River.tile 1 0))) trivial]

/-- All fits as far as it should: a tick does not know of the new ford, and a refresh does. -/
theorem tick_coherent_newFord :
    (((start travelling).run newFord).next .tick).Coherent ∧
      (((start travelling).run newFord).next .tick).pipeline.moves.value.budgets.get? ⟨0, 1⟩ =
        some 3 ∧
      (((start travelling).run newFord).next .refresh).pipeline.Moved ∧
      (((start travelling).run newFord).next .refresh).pipeline.moves.value.budgets.get? ⟨0, 1⟩ =
        some 2 := by
  obtain ⟨htick, hrefresh⟩ := tick_coherent travelling (Pipeline.isNew_ofWorld _ _ _ _)
    (by unfold Relations.Distinct; decide) newFord
  obtain ⟨changed, hok⟩ := Outcome.exists_eq_ok_of_isOk
    (x := ((start travelling).run newFord).pipeline.tick.1) (by decide +kernel)
  obtain ⟨changed', hok'⟩ := Outcome.exists_eq_ok_of_isOk
    (x := ((start travelling).run newFord).pipeline.refreshMoves.1) (by decide +kernel)
  exact ⟨htick changed hok, by decide +kernel, (hrefresh changed' hok').2, by decide +kernel⟩

end Course

end HexRules
