import HexRules.Proofs.Pipeline.Edits
import HexRules.Proofs.Pipeline.Guards

/-!
# What the watches of a pipeline vouch for

Three watches stand between the edits of a pipeline and what is derived. Each vouches that its part
fits the definitions, as far as their stamps tell. Edits keep this, and so does a tick, even if the
moves fail; where a watch finds no change, its part still fits.

Board, map and entity types are not watched for the moves. So these are only known to fit the world
in which they were last computed.

Results:
* `Watched.edit`: the watches vouch for the same after an edit.
* `tick_cases`: a tick ends as the evaluator does.
* `Watched.tick`, `Sound.tick`: they do after a tick; and if it succeeds, everything fits.
* `computed_tick_of_fresh`: after an invalidation a tick computes the moves of the present world.
-/

namespace HexRules

/-- There are constraints if some relation subtracts, and guards in step with the relations if these
    have distinct identifiers. -/
structure Guard.Tended (relations : Relations) (constraints : Constraints) : Prop where
  guarded : relations.Distinct → Guard.InStep relations.relations constraints.constraints
  staffed : constraints.constraints = [] → ∀ r ∈ relations.relations, r.isSubtract = false

namespace Pipeline

/-! ## What fits together -/

/-- The guards are in step with the relations. -/
def Guarded (p : Pipeline) : Prop :=
  Guard.InStep p.relations.content.relations p.constraints.content.constraints

/-- The report is that on the present definitions. -/
def Reported (p : Pipeline) : Prop :=
  p.schema.value = Schema.validate p.concepts.content p.relations.content p.constraints.content
    p.types.content

/-- The moves are those of a world with the present definitions and selection. -/
def Recalled (p : Pipeline) (world : Option World) : Prop :=
  ∃ w, world = some w ∧ w.selected = p.selected.content ∧ w.concepts = p.concepts.content ∧
    w.relations = p.relations.content ∧ w.constraints = p.constraints.content ∧
    (Movement.compute p.settings.fallbackPerConcept w).2 = .ok p.moves.value

/-- The constraints have been tended to. -/
def Tended (p : Pipeline) : Prop := Guard.Tended p.relations.content p.constraints.content

/-- The watches vouch for what they should, when moves were last computed in a given world. -/
structure Watched (p : Pipeline) (world : Option World) : Prop where
  guards : p.generator.Vouches p.generatorStamps p.Tended
  schema : p.schema.watch.Vouches p.schemaStamps p.Reported
  moves : p.moves.watch.Vouches p.moveStamps (p.Recalled world)

/-- They do so in a pipeline whose relations have distinct identifiers. -/
structure Sound (p : Pipeline) (world : Option World) : Prop extends Watched p world where
  distinct : p.relations.content.Distinct

variable {p p' : Pipeline} {world : Option World}

/-! ## Handles that follow -/

namespace Follows

theorem guards (h : p.Follows p') {w : Watch} (hw : w.Vouches p.generatorStamps p.Tended) :
    w.Vouches p'.generatorStamps p'.Tended := by
  apply hw.advance (.cons h.relations.le (.cons h.constraints.le .nil))
  intro hstamps htended
  simp only [generatorStamps, List.cons.injEq, and_true] at hstamps
  rw [Tended, ← h.relations.content hstamps.1, ← h.constraints.content hstamps.2]
  exact htended

theorem schema (h : p.Follows p') (hvalue : p'.schema = p.schema)
    (hw : p.schema.watch.Vouches p.schemaStamps p.Reported) :
    p'.schema.watch.Vouches p'.schemaStamps p'.Reported := by
  rw [hvalue]
  apply hw.advance
    (.cons h.concepts.le (.cons h.relations.le (.cons h.constraints.le (.cons h.types.le .nil))))
  intro hstamps hreported
  simp only [schemaStamps, List.cons.injEq, and_true] at hstamps
  obtain ⟨hconcepts, hrelations, hconstraints, htypes⟩ := hstamps
  rw [Reported, hvalue, ← h.concepts.content hconcepts, ← h.relations.content hrelations,
    ← h.constraints.content hconstraints, ← h.types.content htypes]
  exact hreported

theorem moves (h : p.Follows p') (hvalue : p'.moves = p.moves)
    (hw : p.moves.watch.Vouches p.moveStamps (p.Recalled world)) :
    p'.moves.watch.Vouches p'.moveStamps (p'.Recalled world) := by
  rw [hvalue]
  apply hw.advance
    (.cons h.selected.le (.cons h.concepts.le (.cons h.relations.le (.cons h.constraints.le .nil))))
  intro hstamps hrecalled
  simp only [moveStamps, List.cons.injEq, and_true] at hstamps
  obtain ⟨hselected, hconcepts, hrelations, hconstraints⟩ := hstamps
  rw [Recalled, hvalue, h.settings, ← h.selected.content hselected,
    ← h.concepts.content hconcepts, ← h.relations.content hrelations,
    ← h.constraints.content hconstraints]
  exact hrecalled

end Follows

theorem Watched.edit (h : p.Watched world) (he : p.Edited p') : p'.Watched world where
  guards := by
    rw [he.generator]
    exact he.toFollows.guards h.guards
  schema := he.toFollows.schema he.schema h.schema
  moves := he.toFollows.moves he.moves h.moves

theorem Watched.invalidate (h : p.Watched world) : p.invalidate.Watched world where
  guards := h.guards
  schema := h.schema
  moves := Watch.vouches_fresh

/-! ## The guards -/

theorem syncGuards_edited (p : Pipeline) : p.Edited p.syncGuards.2 := by
  rw [syncGuards]
  split_ifs
  · exact ⟨{ p.follows_refl with constraints := p.constraints.follows_edit _ }, rfl, rfl, rfl⟩
  · exact ⟨{ p.follows_refl with }, rfl, rfl, rfl⟩

theorem relations_syncGuards (p : Pipeline) : p.syncGuards.2.relations = p.relations := by
  rw [syncGuards]
  split_ifs <;> rfl

theorem tended_syncGuards (p : Pipeline) : p.syncGuards.2.Tended where
  guarded := by
    intro h
    rw [relations_syncGuards] at h ⊢
    rw [constraints_syncGuards p h]
    exact Guard.inStep_settled h
  staffed := by
    rw [relations_syncGuards, content_syncGuards]
    exact Guard.isSubtract_of_sync_eq_nil

theorem guarded_syncGuards (h : p.relations.content.Distinct) : p.syncGuards.2.Guarded :=
  p.tended_syncGuards.guarded (p.relations_syncGuards ▸ h)

theorem moves_runGenerator (p : Pipeline) : p.runGenerator.2.moves = p.moves := by
  rw [runGenerator]
  split_ifs
  · exact p.syncGuards_edited.moves
  · rfl

theorem Watched.runGenerator (h : p.Watched world) :
    p.runGenerator.2.Watched world ∧ p.runGenerator.2.Tended := by
  rw [Pipeline.runGenerator]
  split_ifs with hchanged
  · -- The stamps are marked after the generator's own edit, so this is seen already.
    have hsync := h.edit p.syncGuards_edited
    have htended := p.tended_syncGuards
    exact ⟨⟨Watch.vouches_mark htended, hsync.schema, hsync.moves⟩, htended⟩
  · exact ⟨h, h.guards.of_unchanged (Bool.eq_false_iff.2 hchanged)⟩

/-! ## The report -/

theorem moves_runValidator (p : Pipeline) : p.runValidator.moves = p.moves := by
  rw [runValidator]
  split_ifs <;> rfl

theorem Watched.runValidator (h : p.Watched world) (htended : p.Tended) :
    p.runValidator.Watched world ∧ p.runValidator.Tended ∧ p.runValidator.Reported := by
  rw [Pipeline.runValidator]
  split_ifs with hchanged
  · exact ⟨⟨h.guards, Watch.vouches_mark rfl, h.moves⟩, htended, rfl⟩
  · exact ⟨h, htended, h.schema.of_unchanged (Bool.eq_false_iff.2 hchanged)⟩

/-! ## The moves -/

theorem conclude_eq_tell {α : Type} (p : Pipeline) (events : List Event)
    (outcome : Except Movement.Failure α) :
    ∃ told, (p.conclude events outcome).2 = p.tell told := by
  rw [conclude]
  split_ifs
  · exact ⟨_, rfl⟩
  · exact ⟨_, rfl⟩

theorem eq_ok_of_conclude {α : Type} {events : List Event} {outcome : Except Movement.Failure α}
    {a : α} (h : (p.conclude events outcome).1 = .ok a) : outcome = .ok a := by
  rw [conclude] at h
  split_ifs at h
  · obtain ⟨u, -, hu⟩ := Outcome.bind_eq_ok_iff.1 h
    exact hu
  · exact h

/-- Where its watch finds a change, an evaluator stores the moves computed, or fails as they do. -/
theorem runEvaluator_of_changed (h : p.moves.watch.changed p.moveStamps = true) :
    (∃ moves told, p.computeMoves.1 = .ok moves ∧
      p.runEvaluator = (.ok (), { p.tell told with moves := p.moves.store p.moveStamps moves })) ∨
    ∃ e told, p.computeMoves.1 = .error e ∧ p.runEvaluator = (.error e, p.tell told) := by
  obtain ⟨told, htold⟩ : ∃ told, p.computeMoves.2 = p.tell told := p.conclude_eq_tell _ _
  rw [runEvaluator, if_pos h]
  cases hmoves : p.computeMoves with
  | mk outcome q =>
    rw [hmoves] at htold
    cases htold
    cases outcome with
    | ok moves => exact .inl ⟨moves, told, rfl, rfl⟩
    | error e => exact .inr ⟨e, told, rfl, rfl⟩

/-- An evaluator finds no change, or computes the moves of the present world, or fails. -/
theorem runEvaluator_cases (p : Pipeline) :
    (p.moves.watch.changed p.moveStamps = false ∧ p.runEvaluator = (.ok (), p)) ∨
    (∃ moves told, (Movement.compute p.settings.fallbackPerConcept p.world).2 = .ok moves ∧
      p.runEvaluator = (.ok (), { p.tell told with moves := p.moves.store p.moveStamps moves })) ∨
    ∃ e told, p.runEvaluator = (.error e, p.tell told) := by
  by_cases hchanged : p.moves.watch.changed p.moveStamps = true
  · rcases runEvaluator_of_changed hchanged with ⟨moves, told, hmoves, heq⟩ | ⟨e, told, -, heq⟩
    · exact .inr (.inl ⟨moves, told, eq_ok_of_conclude hmoves, heq⟩)
    · exact .inr (.inr ⟨e, told, heq⟩)
  · exact .inl ⟨Bool.eq_false_iff.2 hchanged, by rw [runEvaluator, if_neg hchanged]⟩

/-- The world of the last computation of moves: a new one if moves were computed since. -/
def computed (old new : Pipeline) (world : Option World) : Option World :=
  if new.moves.revision = old.moves.revision then world else some new.world

theorem Watched.runEvaluator (h : p.Watched world) (htended : p.Tended)
    (hreported : p.Reported) :
    p.runEvaluator.2.Watched (computed p p.runEvaluator.2 world) ∧
      p.runEvaluator.2.Tended ∧ p.runEvaluator.2.Reported ∧
      (p.runEvaluator.1 = .ok () →
        p.runEvaluator.2.Recalled (computed p p.runEvaluator.2 world)) := by
  rcases p.runEvaluator_cases with ⟨hsame, heq⟩ | ⟨moves, told, hmoves, heq⟩ | ⟨e, told, heq⟩
  · have hcomputed : computed p p.runEvaluator.2 world = world := by
      rw [heq]
      exact if_pos rfl
    rw [hcomputed, heq]
    exact ⟨h, htended, hreported, fun _ => h.moves.of_unchanged hsame⟩
  · have hcomputed : computed p p.runEvaluator.2 world = some p.world := by
      rw [heq]
      exact if_neg (Nat.succ_ne_self _)
    have hrecalled : ({ p.tell told with moves := p.moves.store p.moveStamps moves } :
        Pipeline).Recalled (some p.world) := ⟨p.world, rfl, rfl, rfl, rfl, rfl, hmoves⟩
    rw [hcomputed, heq]
    exact ⟨⟨h.guards, h.schema, Watch.vouches_mark hrecalled⟩,
      htended, hreported, fun _ => hrecalled⟩
  · have hcomputed : computed p p.runEvaluator.2 world = world := by
      rw [heq]
      exact if_pos rfl
    rw [hcomputed, heq]
    exact ⟨h.edit (p.edited_tell told), htended, hreported,
      fun hok => by cases hok⟩

/-! ## A tick -/

/-- A tick ends as the evaluator does. If that succeeds, it may tell that it changed guards. -/
theorem tick_cases (p : Pipeline) :
    (∃ e q, p.runGenerator.2.runValidator.runEvaluator = (.error e, q) ∧
      p.tick = (.error e, q)) ∨
    ∃ q told, p.runGenerator.2.runValidator.runEvaluator = (.ok (), q) ∧
      p.tick = (.ok p.runGenerator.1, q.tell told) ∧
      (told = [] ∨ ∃ valid, told = [.regenerated valid]) := by
  rw [tick]
  cases p.runGenerator with
  | mk regenerated q =>
    dsimp only
    cases q.runValidator.runEvaluator with
    | mk outcome q' =>
      cases outcome with
      | error e => exact .inl ⟨e, q', rfl, rfl⟩
      | ok u =>
        dsimp only
        split_ifs
        · exact .inr ⟨q', _, rfl, rfl, .inr ⟨_, rfl⟩⟩
        · exact .inr ⟨q', [], rfl, by rw [tell, List.append_nil], .inl rfl⟩

theorem tick_eq (p : Pipeline) :
    ∃ told, p.tick.2 = p.runGenerator.2.runValidator.runEvaluator.2.tell told ∧
      ∀ changed, p.tick.1 = .ok changed →
        p.runGenerator.2.runValidator.runEvaluator.1 = .ok () := by
  rcases p.tick_cases with ⟨e, q, hrun, htick⟩ | ⟨q, told, hrun, htick, -⟩
  · refine ⟨[], by rw [htick, hrun, tell, List.append_nil], fun changed h => ?_⟩
    rw [htick] at h
    cases h
  · exact ⟨told, by rw [htick, hrun], fun _ _ => by rw [hrun]⟩

theorem computed_tick (p : Pipeline) (world : Option World) :
    computed p p.tick.2 world =
      computed p.runGenerator.2.runValidator p.runGenerator.2.runValidator.runEvaluator.2
        world := by
  obtain ⟨told, heq, -⟩ := p.tick_eq
  rw [heq, computed, computed, moves_runValidator, moves_runGenerator]
  rfl

theorem relations_tick (p : Pipeline) : p.tick.2.relations = p.relations := by
  have hgenerator : p.runGenerator.2.relations = p.relations := by
    rw [runGenerator]
    split_ifs
    · exact p.relations_syncGuards
    · rfl
  have hvalidator (q : Pipeline) : q.runValidator.relations = q.relations := by
    rw [runValidator]
    split_ifs <;> rfl
  have hevaluator (q : Pipeline) : q.runEvaluator.2.relations = q.relations := by
    rcases q.runEvaluator_cases with ⟨-, heq⟩ | ⟨moves, told, -, heq⟩ | ⟨e, told, heq⟩ <;> rw [heq]
    · rfl
    · rfl
  obtain ⟨told, heq, -⟩ := p.tick_eq
  rw [heq]
  exact (hevaluator _).trans ((hvalidator _).trans hgenerator)

theorem Watched.tick (h : p.Watched world) :
    p.tick.2.Watched (computed p p.tick.2 world) ∧
      ∀ changed, p.tick.1 = .ok changed →
        p.tick.2.Tended ∧ p.tick.2.Reported ∧ p.tick.2.Recalled (computed p p.tick.2 world) := by
  obtain ⟨told, heq, hok⟩ := p.tick_eq
  obtain ⟨hgenerator, htended⟩ := h.runGenerator
  obtain ⟨hvalidator, htended, hreported⟩ := hgenerator.runValidator htended
  obtain ⟨hevaluator, htended, hreported, hrecalled⟩ := hvalidator.runEvaluator htended hreported
  rw [computed_tick, heq]
  exact ⟨hevaluator.edit (edited_tell _ told), fun changed hchanged =>
    ⟨htended, hreported, hrecalled (hok changed hchanged)⟩⟩

theorem Sound.tick (h : p.Sound world) :
    p.tick.2.Sound (computed p p.tick.2 world) ∧
      ∀ changed, p.tick.1 = .ok changed →
        p.tick.2.Guarded ∧ p.tick.2.Reported ∧ p.tick.2.Recalled (computed p p.tick.2 world) := by
  obtain ⟨hwatched, hderived⟩ := h.toWatched.tick
  have hids : p.tick.2.relations.content.Distinct := p.relations_tick ▸ h.distinct
  refine ⟨⟨hwatched, hids⟩, fun changed hok => ?_⟩
  obtain ⟨htended, hreported, hrecalled⟩ := hderived changed hok
  exact ⟨htended.guarded hids, hreported, hrecalled⟩

/-- With a fresh watch the moves are computed in any case. -/
theorem computed_tick_of_fresh {changed : Bool} (hfresh : p.moves.watch = .fresh)
    (hok : p.tick.1 = .ok changed) : computed p p.tick.2 world = some p.tick.2.world := by
  obtain ⟨told, heq, hevaluator⟩ := p.tick_eq
  rw [computed_tick, heq]
  have hmoves : p.runGenerator.2.runValidator.moves = p.moves := by
    rw [moves_runValidator, moves_runGenerator]
  rcases p.runGenerator.2.runValidator.runEvaluator_cases with
    ⟨hsame, -⟩ | ⟨moves, told', -, hrun⟩ | ⟨e, told', hrun⟩
  · rw [hmoves, hfresh, Watch.changed_reset] at hsame
    cases hsame
  · rw [hrun]
    exact if_neg (Nat.succ_ne_self _)
  · have hfail := hevaluator changed hok
    rw [hrun] at hfail
    cases hfail

end Pipeline

end HexRules
