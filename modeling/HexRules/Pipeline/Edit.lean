import HexRules.Pipeline

/-!
# Edits

Everything that the pipeline holds is changed by edits. An edit of a registry goes through its
rules and may be refused; if it is not, it counts as one edit of the handle. A few edits go past
the registries' rules, and these do not count until the handle is marked as changed. Edits of the
board never count; one that comes upon a hex without key breaks off, and what it did stays.
-/

namespace HexRules

/-- The handles whose edits are counted. -/
inductive HandleName
  | types
  | concepts
  | relations
  | constraints
  | selected
  deriving DecidableEq, Repr

/-- An edit of the board. -/
inductive BoardEdit
  | placeTile (p : Hex) (data : EntityData)
  | placeUnit (id : String) (p : Hex) (data : EntityData)
  | removeUnit (id : String)
  | clearTiles
  | setTileProperty (key : String) (property : Ident) (value : PropertyValue)
  | setUnitProperty (id : String) (property : Ident) (value : PropertyValue)
  /-- Fills the gaps on the map with the data made for each hex. -/
  | fill (center : Hex) (make : Hex → EntityData)

/-- An edit of what the pipeline holds. -/
inductive Edit
  | addType (t : EntityType)
  | removeType (id : Ident)
  | addEnum (e : EnumDef)
  | addConcept (c : Concept)
  | removeConcept (id : Ident)
  | addBinding (b : Binding)
  | removeBinding (id : Ident)
  | addRelation (r : Relation)
  /-- Puts a relation in the place of the one with an identifier. -/
  | updateRelation (id : Ident) (new : Relation)
  | removeRelation (id : Ident)
  | addConstraint (c : Constraint)
  | removeConstraint (id : Ident)
  | select (unit : Option String)
  /-- Counts an edit, though there was none. -/
  | markChanged (handle : HandleName)
  /-- Adds a role to a concept; does not count. -/
  | appendRole (concept : Ident) (role : ConceptRole)
  /-- Adds a property to a binding; does not count. -/
  | appendProperty (binding : Ident) (p : PropertyBinding)
  /-- Adds a constraint, whatever its identifier; does not count. -/
  | appendConstraint (c : Constraint)
  | board (edit : BoardEdit)

/-- Something new in place of what the pipeline holds. -/
inductive Replacement
  | types (types : EntityTypes)
  | concepts (concepts : Concepts)
  | relations (relations : Relations)
  | constraints (constraints : Constraints)
  | selected (selected : Selection)
  | grid (grid : GridConfig)
  | board (board : Board)

/-- An edit of the board, on a map of a radius, and whether it came to its end. The board is what it
    is after what was done. -/
def Board.apply (radius : Int) (board : Board) : BoardEdit → Except Hex.NoKey Unit × Board
  | .placeTile p data =>
    match board.placeTile p data with
    | .ok board => (.ok (), board)
    | .error e => (.error e, board)
  | .placeUnit id p data => (.ok (), board.placeUnit id p data)
  | .removeUnit id => (.ok (), board.removeUnit id)
  | .clearTiles => (.ok (), board.clearTiles)
  | .setTileProperty key property value => (.ok (), board.setTileProperty key property value)
  | .setUnitProperty id property value => (.ok (), board.setUnitProperty id property value)
  | .fill center make => board.fill radius center make

namespace Pipeline

/-- Selects a unit, or none; counts only if that is a change. -/
def select (p : Pipeline) (unit : Option String) : Pipeline :=
  if unit = p.selected.content.entity then p
  else { p with selected := p.selected.edit ⟨unit⟩ }

/-- Counts an edit of a handle. -/
def markChanged (p : Pipeline) : HandleName → Pipeline
  | .types => { p with types := p.types.touch }
  | .concepts => { p with concepts := p.concepts.touch }
  | .relations => { p with relations := p.relations.touch }
  | .constraints => { p with constraints := p.constraints.touch }
  | .selected => { p with selected := p.selected.touch }

/-- The stamp of a handle. -/
def stampOf (p : Pipeline) : HandleName → Stamp
  | .types => p.types.stamp
  | .concepts => p.concepts.stamp
  | .relations => p.relations.stamp
  | .constraints => p.constraints.stamp
  | .selected => p.selected.stamp

/-- Puts another handle in the place of the entity types. -/
def withTypes (p : Pipeline) (h : Handle EntityTypes) : Pipeline := { p with types := h }

/-- Puts another handle in the place of the concepts. -/
def withConcepts (p : Pipeline) (h : Handle Concepts) : Pipeline := { p with concepts := h }

/-- Puts another handle in the place of the relations. -/
def withRelations (p : Pipeline) (h : Handle Relations) : Pipeline := { p with relations := h }

/-- Puts another handle in the place of the constraints. -/
def withConstraints (p : Pipeline) (h : Handle Constraints) : Pipeline :=
  { p with constraints := h }

/-- The pipeline after an edit, unless the edit is refused. -/
def apply (p : Pipeline) : Edit → Except RegistryError Pipeline
  | .addType t => (p.types.tryEdit (·.addType t)).map p.withTypes
  | .removeType id => (p.types.tryEdit fun reg => (reg.removeType id).map Prod.snd).map p.withTypes
  | .addEnum e => (p.types.tryEdit (·.addEnum e)).map p.withTypes
  | .addConcept c => (p.concepts.tryEdit (·.addConcept c)).map p.withConcepts
  | .removeConcept id =>
    (p.concepts.tryEdit fun reg => (reg.removeConcept id).map Prod.snd).map p.withConcepts
  | .addBinding b => (p.concepts.tryEdit (·.addBinding b)).map p.withConcepts
  | .removeBinding id =>
    (p.concepts.tryEdit fun reg => (reg.removeBinding id).map Prod.snd).map p.withConcepts
  | .addRelation r => (p.relations.tryEdit (·.add r)).map p.withRelations
  | .updateRelation id new => (p.relations.tryEdit (·.update id new)).map p.withRelations
  | .removeRelation id =>
    (p.relations.tryEdit fun reg => (reg.remove id).map Prod.snd).map p.withRelations
  | .addConstraint c => (p.constraints.tryEdit (·.add c)).map p.withConstraints
  | .removeConstraint id =>
    (p.constraints.tryEdit fun reg => (reg.remove id).map Prod.snd).map p.withConstraints
  | .select unit => .ok (p.select unit)
  | .markChanged handle => .ok (p.markChanged handle)
  | .appendRole concept role =>
    (p.concepts.trySlip (·.appendRole concept role)).map p.withConcepts
  | .appendProperty binding property =>
    (p.concepts.trySlip (·.appendProperty binding property)).map p.withConcepts
  | .appendConstraint c =>
    .ok (p.withConstraints (p.constraints.slip (p.constraints.content.append c)))
  | .board edit => .ok { p with board := (p.board.apply p.grid.radius edit).2 }

/-- Fills the gaps on the map with what is given when asked for. -/
def fillAsking {m : Type → Type} [Monad m] {ε : Type} (p : Pipeline) (noKey : ε) (center : Hex)
    (ask : Hex → m (Except ε EntityData)) : m (Except ε Unit × Pipeline) := do
  let (outcome, board) ← p.board.fillAsking noKey p.grid.radius center ask
  return (outcome, { p with board := board })

/-- The pipeline with something new in place of what it holds. A new handle has a serial number
    of its own. -/
def replace (p : Pipeline) : Replacement → Pipeline
  | .types types =>
    { p with types := .new p.nextSerial types, nextSerial := p.nextSerial + 1 }
  | .concepts concepts =>
    { p with concepts := .new p.nextSerial concepts, nextSerial := p.nextSerial + 1 }
  | .relations relations =>
    { p with relations := .new p.nextSerial relations, nextSerial := p.nextSerial + 1 }
  | .constraints constraints =>
    { p with constraints := .new p.nextSerial constraints, nextSerial := p.nextSerial + 1 }
  | .selected selected =>
    { p with selected := .new p.nextSerial selected, nextSerial := p.nextSerial + 1 }
  | .grid grid => { p with grid := grid }
  | .board board => { p with board := board }

end Pipeline

end HexRules
