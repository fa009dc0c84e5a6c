import HexRules.Guard
import HexRules.Log.Format
import HexRules.Movement
import HexRules.Schema

/-!
# Events

What the pipeline does is told in events. An event may leave a record in the log, and it moves
counters. A record that would show a number of too many digits cannot be written; where records
are kept, the events end there.
-/

namespace HexRules

/-- Something that happened. -/
inductive Event
  /-- The guards were changed. -/
  | guard (change : Guard.Change)
  /-- The definitions were validated: the categories of the flaws, and the numbers of bindings,
      relations and constraints. -/
  | validated (flaws : List FlawCategory) (bindings relations constraints : Nat)
  /-- Moves were computed. -/
  | moves (event : Movement.Event)
  /-- A tick changed guards, and found the definitions valid or not. -/
  | regenerated (valid : Bool)
  deriving DecidableEq, Repr

namespace Event

open Movement (Failure shown)
open Text.Numeral (text)

/-- A number of things, in words. -/
def count (n : Nat) : String := text n

/-! ## Records -/

/-- The record of a change of guards. -/
def guardRecord : Guard.Change → Log.Record
  | .retracted name relation => ⟨"hexorder.ontology.auto_constraints", .info,
      String.join ["Retracting auto-constraint ", Text.quote name, " (relation ", relation.text,
        " no longer subtracts)"]⟩
  | .inserted name relationName => ⟨"hexorder.ontology.auto_constraints", .debug,
      String.join ["Inserted auto-constraint ", Text.quote name, " for ",
        Text.quote relationName]⟩
  | .regenerated old new relationName => ⟨"hexorder.ontology.auto_constraints", .info,
      String.join ["Regenerating auto-constraint ", Text.quote old, " -> ", Text.quote new,
        " for ", Text.quote relationName]⟩
  | .dropped n relationName => ⟨"hexorder.ontology.auto_constraints", .info,
      String.join ["Dropping ", count n, " duplicate auto-constraint(s) for ",
        Text.quote relationName]⟩

/-- The record of a computation of moves, if there is one and it can be written. -/
def movesRecord : Movement.Event → Except Failure (Option Log.Record)
  | .cleared => .ok none
  | .free unit valid => .ok (some ⟨"hexorder.rules.move_engine", .debug,
      String.join ["Free movement for ", unit, ": ", count valid, " position(s)"]⟩)
  | .fallback budget => do
    let text := String.join ["No budget property resolved; using fallback budget ",
      ← shown budget]
    return some ⟨"hexorder.rules.move_engine", .debug, text⟩
  | .budgeted unit budget valid blocked => do
    let text := String.join ["Budgeted movement for ", unit, " (budget ", ← shown budget, "): ",
      count valid, " valid, ", count blocked, " blocked"]
    return some ⟨"hexorder.rules.move_engine", .debug, text⟩

/-- The record that an event leaves in the log, if there is one and it can be written. -/
def record : Event → Except Failure (Option Log.Record)
  | .guard change => .ok (some (guardRecord change))
  | .validated flaws bindings relations constraints =>
    .ok (some ⟨"hexorder.ontology.schema_validator", .debug,
      String.join ["Schema validation: ", count flaws.length, " error(s) across ",
        count bindings, " binding(s), ", count relations, " relation(s), ",
        count constraints, " constraint(s)"]⟩)
  | .moves event => movesRecord event
  | .regenerated valid => .ok (some ⟨"hexorder.pipeline", .debug,
      String.join ["Tick regenerated constraints; schema valid=",
        if valid then "True" else "False"]⟩)

/-- The record that an event leaves in the log. -/
def record? (event : Event) : Option Log.Record :=
  match event.record with
  | .ok r => r
  | .error _ => none

/-- The events up to the first whose record cannot be written, and whether there is such a one.
    That event itself is still told. -/
def written : List Event → List Event × Except Failure Unit
  | [] => ([], .ok ())
  | event :: rest =>
    match event.record with
    | .error e => ([event], .error e)
    | .ok _ =>
      let (told, outcome) := written rest
      (event :: told, outcome)

/-! ## Counters -/

/-- The counter of changes of guards by one action. -/
def guardCounter (action : String) : String :=
  String.join ["hexorder_auto_constraints_changes_total\x7baction=", action, "\x7d"]

/-- The counter of validations with one outcome. -/
def outcomeCounter (outcome : String) : String :=
  String.join ["hexorder_schema_validations_total\x7boutcome=", outcome, "\x7d"]

/-- The counter of flaws of one category. -/
def flawCounter (category : FlawCategory) : String :=
  String.join ["hexorder_schema_errors_total\x7bcategory=", category.name, "\x7d"]

/-- The counter of computations of moves on one path. -/
def pathCounter (path : String) : String :=
  String.join ["hexorder_move_computations_total\x7bpath=", path, "\x7d"]

/-- The counter of computations of moves whose time was taken. -/
def timedCounter : String := "hexorder_move_computation_seconds_count"

/-- The counters that a change of guards moves by one each. -/
def guardCounters : Guard.Change → List String
  | .retracted _ _ => [guardCounter "retracted"]
  | .inserted _ _ => [guardCounter "inserted"]
  | .regenerated _ _ _ => [guardCounter "regenerated"]
  | .dropped n _ => List.replicate n (guardCounter "retracted")

/-- The counters that an event moves by one each. -/
def counters : Event → List String
  | .guard change => guardCounters change
  | .validated flaws _ _ _ =>
    outcomeCounter (if flaws.isEmpty then "valid" else "invalid") :: flaws.map flawCounter
  | .moves .cleared => [pathCounter "cleared"]
  | .moves (.free _ _) => [pathCounter "free", timedCounter]
  | .moves (.fallback _) => []
  | .moves (.budgeted _ _ _ _) => [pathCounter "budgeted", timedCounter]
  | .regenerated _ => []

/-- How far the counters moved in the course of events. -/
def tally (events : List Event) : Table String Nat :=
  (events.flatMap counters).foldl (fun t name => t.insert name ((t.get? name).getD 0 + 1)) .empty

end Event

end HexRules
