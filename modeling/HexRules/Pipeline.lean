import HexRules.Pipeline.Event
import HexRules.Pipeline.Watch

/-!
# The pipeline

The pipeline holds the definitions, the selection and the board, and keeps three things up to
date: the guards, the report on the definitions, and the moves of the selected unit. Each is
looked at again only if the handles it depends on have changed. A tick does so for all three in
this order: the report then covers the new guards, and the moves come last. Edits of the board
alone do not count as changes; the moves are then computed anew on demand.

A tick fails where the moves do. The guards and the report are then up to date all the same; the
moves stay as they were, and the next tick tries again. Where records are kept, moves fail also
if what happened on the way to them cannot be put into a record.

Results:
* `generator_settled`: right after the guards were synchronised, nothing has changed for them.
-/

namespace HexRules

open Movement (Failure MoveSet)

/-- The definitions, the selection, the board, and what is derived from them. -/
structure Pipeline where
  types : Handle EntityTypes
  concepts : Handle Concepts
  relations : Handle Relations
  constraints : Handle Constraints
  selected : Handle Selection
  grid : GridConfig
  board : Board
  settings : Settings
  /-- Whether records are kept of what happens. -/
  recording : Bool
  /-- What the guards were last synchronised with. -/
  generator : Watch
  schema : Cached SchemaReport
  moves : Cached MoveSet
  supply : Supply
  /-- The serial number of the next new handle. -/
  nextSerial : Nat
  /-- What happened so far. -/
  journal : List Event

namespace Pipeline

/-- A pipeline over a world, in which nothing was computed yet. -/
def ofWorld (settings : Settings) (recording : Bool) (supply : Supply) (world : World) :
    Pipeline where
  types := .new 0 world.types
  concepts := .new 1 world.concepts
  relations := .new 2 world.relations
  constraints := .new 3 world.constraints
  selected := .new 4 world.selected
  grid := world.grid
  board := world.board
  settings := settings
  recording := recording
  generator := .fresh
  schema := .start .clean
  moves := .start .none
  supply := supply
  nextSerial := 5
  journal := []

/-- What the pipeline holds, as it stands. -/
def world (p : Pipeline) : World where
  types := p.types.content
  concepts := p.concepts.content
  relations := p.relations.content
  constraints := p.constraints.content
  selected := p.selected.content
  grid := p.grid
  board := p.board

/-- Takes note of events. -/
def tell (p : Pipeline) (events : List Event) : Pipeline :=
  { p with journal := p.journal ++ events }

/-- Takes note of the events on the way to an outcome. If records are kept, the first event whose
    record cannot be written is the last, and there is no other outcome. -/
def conclude {α : Type} (p : Pipeline) (events : List Event) (outcome : Except Failure α) :
    Except Failure α × Pipeline :=
  if p.recording then
    let (told, outcome') := Event.written events
    (outcome'.bind fun _ => outcome, p.tell told)
  else (outcome, p.tell events)

/-- What the guards depend on. -/
def generatorStamps (p : Pipeline) : List Stamp := [p.relations.stamp, p.constraints.stamp]

/-- What the report depends on. -/
def schemaStamps (p : Pipeline) : List Stamp :=
  [p.concepts.stamp, p.relations.stamp, p.constraints.stamp, p.types.stamp]

/-- What the moves depend on. -/
def moveStamps (p : Pipeline) : List Stamp :=
  [p.selected.stamp, p.concepts.stamp, p.relations.stamp, p.constraints.stamp]

/-! ## The computations -/

/-- Synchronises the guards, and says whether that changed something. -/
def syncGuards (p : Pipeline) : Bool × Pipeline :=
  let s := Guard.sync p.relations.content p.constraints.content p.supply
  let p := { p with supply := s.supply }.tell (s.changes.map Event.guard)
  if s.changed then (true, { p with constraints := p.constraints.edit ⟨s.constraints⟩ })
  else (false, p)

/-- Validates the definitions. -/
def validate (p : Pipeline) : SchemaReport × Pipeline :=
  let report := Schema.validate p.concepts.content p.relations.content p.constraints.content
    p.types.content
  (report, p.tell [.validated (report.flaws.map Flaw.category)
    p.concepts.content.bindings.length p.relations.content.relations.length
    p.constraints.content.constraints.length])

/-- Computes the moves of the selected unit. -/
def computeMoves (p : Pipeline) : Except Failure MoveSet × Pipeline :=
  let (events, outcome) := Movement.compute p.settings.fallbackPerConcept p.world
  p.conclude (events.map Event.moves) outcome

/-- The budget that a unit with given data starts with. -/
def budgetOf (p : Pipeline) (data : EntityData) : Except Failure Int × Pipeline :=
  let mover := Movement.mover p.world data
  match mover.ownBudget with
  | .error e => (.error e, p)
  | .ok (some budget) => (.ok budget, p)
  | .ok none =>
    let budget := Movement.fallbackBudget p.settings.fallbackPerConcept mover.concepts
    p.conclude [.moves (.fallback budget)] (.ok budget)

/-! ## The components -/

/-- Synchronises the guards if what they depend on has changed. Its own edit is not a change. -/
def runGenerator (p : Pipeline) : Bool × Pipeline :=
  if p.generator.changed p.generatorStamps then
    let (changed, p) := p.syncGuards
    (changed, { p with generator := .mark p.generatorStamps })
  else (false, p)

/-- Validates the definitions if they have changed. -/
def runValidator (p : Pipeline) : Pipeline :=
  if p.schema.watch.changed p.schemaStamps then
    let (report, p) := p.validate
    { p with schema := p.schema.store p.schemaStamps report }
  else p

/-- Computes the moves if what they depend on has changed. -/
def runEvaluator (p : Pipeline) : Except Failure Unit × Pipeline :=
  if p.moves.watch.changed p.moveStamps then
    match p.computeMoves with
    | (.ok moves, p) => (.ok (), { p with moves := p.moves.store p.moveStamps moves })
    | (.error e, p) => (.error e, p)
  else (.ok (), p)

/-- Has the moves computed anew next time. -/
def invalidate (p : Pipeline) : Pipeline := { p with moves := p.moves.invalidate }

/-- Brings everything up to date, and says whether guards were changed. -/
def tick (p : Pipeline) : Except Failure Bool × Pipeline :=
  let (changed, p) := p.runGenerator
  match p.runValidator.runEvaluator with
  | (.error e, p) => (.error e, p)
  | (.ok (), p) =>
    (.ok changed, if changed then p.tell [.regenerated p.schema.value.isValid] else p)

/-- Brings everything up to date, the moves in any case. -/
def refreshMoves (p : Pipeline) : Except Failure Bool × Pipeline := p.invalidate.tick

theorem generator_settled (p : Pipeline) :
    p.runGenerator.2.generator.changed p.runGenerator.2.generatorStamps = false := by
  unfold runGenerator
  split
  · exact Watch.changed_mark _
  · rename_i h
    simpa using h

end Pipeline

end HexRules
