import HexRules.Binary64
import HexRules.Binary64.Decimal
import HexRules.Board
import HexRules.Board.Codec
import HexRules.Document
import HexRules.Document.Class
import HexRules.Document.Decode
import HexRules.Document.Issue
import HexRules.Entity
import HexRules.Entity.Codec
import HexRules.Fault
import HexRules.Grid
import HexRules.Guard
import HexRules.Hex
import HexRules.Ident
import HexRules.Log
import HexRules.Log.Format
import HexRules.Log.Level
import HexRules.Movement
import HexRules.Movement.Binding
import HexRules.Movement.Budget
import HexRules.Movement.Condition
import HexRules.Movement.Search
import HexRules.Movement.Step
import HexRules.Ontology.Codec
import HexRules.Ontology.Concept
import HexRules.Ontology.Constraint
import HexRules.Ontology.Formula
import HexRules.Ontology.Formula.Codec
import HexRules.Ontology.Relation
import HexRules.Pipeline
import HexRules.Pipeline.Edit
import HexRules.Pipeline.Event
import HexRules.Pipeline.Watch
import HexRules.Property
import HexRules.Property.Codec
import HexRules.Registry
import HexRules.Schema
import HexRules.Schema.Flaw
import HexRules.Settings
import HexRules.Table
import HexRules.Text.Alphanumeric
import HexRules.Text.CodeRange
import HexRules.Text.Digit
import HexRules.Text.Numeral
import HexRules.Text.Printable
import HexRules.Text.Quoted
import HexRules.Text.Space
import HexRules.Text.UpperCase
import HexRules.Text.Vocabulary
import HexRules.Proofs.Grid.Size
import HexRules.Proofs.Grid.Distance
import HexRules.Proofs.Grid.Flood
import HexRules.Proofs.Movement.Cost
import HexRules.Proofs.Movement.Exact
import HexRules.Proofs.Movement.Stages
import HexRules.Proofs.Movement.Pushes
import HexRules.Proofs.Movement.Explained
import HexRules.Proofs.Movement.Final
import HexRules.Proofs.Movement.Verdict
import HexRules.Proofs.Movement.Monotone
import HexRules.Proofs.Movement.Tries
import HexRules.Proofs.Movement.Free
import HexRules.Proofs.Guard.Slots
import HexRules.Proofs.Guard.Sync
import HexRules.Proofs.Pipeline.Guards
import HexRules.Proofs.Pipeline.Sound
import HexRules.Proofs.Pipeline.Coherence
import HexRules.Proofs.Registry.Lookup
import HexRules.Proofs.Schema.Violations
import HexRules.Proofs.Schema.Exact
import HexRules.Proofs.Schema.Valid
import HexRules.Proofs.Schema.Resolution
import HexRules.Proofs.Pipeline.Passage
import HexRules.Proofs.Movement.Unreadable
import HexRules.Proofs.Movement.BreakOff
import HexRules.Proofs.Pipeline.Registries
import HexRules.Proofs.Document.Faithful
import HexRules.Proofs.Document.Entities
import HexRules.Proofs.Document.Formulas
import HexRules.Proofs.Document.Ontology
import HexRules.Proofs.Document.RoundTrip
import HexRules.Proofs.Guard.Fixed
import HexRules.Proofs.Pipeline.Quiet
import HexRules.Proofs.Pipeline.Introduced
import HexRules.Proofs.Pipeline.Provenance
import HexRules.Proofs.Movement.Alike
import HexRules.Proofs.Movement.Locality
import HexRules.Proofs.Movement.Unjudged
import HexRules.Proofs.Movement.Deficit
import HexRules.Proofs.Movement.Idle
import HexRules.Proofs.Movement.Returns
import HexRules.Proofs.Movement.Uniform
import HexRules.Proofs.Schema.Dependence
import HexRules.Proofs.Schema.Fallout
import HexRules.Proofs.Pipeline.Timeline
import HexRules.Proofs.Pipeline.Recovery
import HexRules.Proofs.Pipeline.Removal
import HexRules.Proofs.Binary64.Truncation
import HexRules.Proofs.Movement.Budget
import HexRules.Proofs.Hex.Key
import HexRules.Proofs.Board.Fill
import HexRules.Proofs.Guard.Accounts
import HexRules.Proofs.Pipeline.Accounts
import HexRules.Proofs.Text.Numeral
import HexRules.Proofs.Hex.Walk
import HexRules.Proofs.Log.Handlers
