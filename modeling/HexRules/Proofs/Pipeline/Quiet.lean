import HexRules.Proofs.Guard.Fixed
import HexRules.Proofs.Pipeline.Sound

/-!
# A quiet pipeline

As long as nothing is edited, there is nothing to do: the second of two synchronisations leaves the
guards alone, and the second of two ticks leaves the pipeline as it is, to the last version and
event. This is so because a tick that succeeds leaves every watch with the present stamps.

A tick that fails leaves the watch over the moves as it was. The next tick then fails in the same
way; all that it adds to the pipeline are events.

Results:
* `Quiet.tick`: a tick of a quiet pipeline does nothing.
* `quiet_tick`: a tick that succeeds leaves a quiet pipeline.
* `tick_idempotent`: a change is reported exactly if there is one, and a second time there is none.
-/

namespace HexRules

namespace Pipeline

variable {p : Pipeline} {changed : Bool} {e : Movement.Failure}

/-! ## The second synchronisation -/

/-- Guards in step are left alone. -/
theorem syncGuards_of_guarded (h : p.Guarded) : p.syncGuards = (false, p) := by
  have hsync : Guard.sync p.relations.content p.constraints.content p.supply =
      ⟨p.constraints.content.constraints, p.supply, []⟩ := Guard.sync_of_inStep h p.supply
  rw [syncGuards, hsync]
  simp [Guard.Sync.changed, tell]

theorem fst_syncGuards (p : Pipeline) :
    p.syncGuards.1 = (Guard.sync p.relations.content p.constraints.content p.supply).changed := by
  rw [syncGuards]
  split_ifs with hchanged
  · exact hchanged.symm
  · exact (Bool.eq_false_iff.2 hchanged).symm

theorem supply_syncGuards (p : Pipeline) :
    p.syncGuards.2.supply =
      (Guard.sync p.relations.content p.constraints.content p.supply).supply := by
  rw [syncGuards]
  split_ifs <;> rfl

/-- A synchronisation that reports a change counts as one edit, and another one as none. -/
theorem constraints_of_syncGuards (p : Pipeline) :
    p.syncGuards.1 = true ∧ p.syncGuards.2.constraints =
        p.constraints.edit p.syncGuards.2.constraints.content ∨
      p.syncGuards.1 = false ∧ p.syncGuards.2.constraints = p.constraints := by
  rw [syncGuards]
  split_ifs
  · exact .inl ⟨rfl, rfl⟩
  · exact .inr ⟨rfl, rfl⟩

theorem fst_syncGuards_iff (h : p.relations.content.Distinct) :
    p.syncGuards.1 = true ↔
      p.syncGuards.2.constraints.content.constraints ≠ p.constraints.content.constraints := by
  rw [fst_syncGuards, content_syncGuards]
  exact Guard.changed_sync_iff h

/-! ## Nothing to do -/

/-- No watch finds a change. -/
structure Quiet (p : Pipeline) : Prop where
  generator : p.generator.changed p.generatorStamps = false
  schema : p.schema.watch.changed p.schemaStamps = false
  moves : p.moves.watch.changed p.moveStamps = false

theorem runGenerator_of_unchanged (h : p.generator.changed p.generatorStamps = false) :
    p.runGenerator = (false, p) := by
  rw [runGenerator, h]
  rfl

theorem runValidator_of_unchanged (h : p.schema.watch.changed p.schemaStamps = false) :
    p.runValidator = p := by
  rw [runValidator, h]
  rfl

theorem runEvaluator_of_unchanged (h : p.moves.watch.changed p.moveStamps = false) :
    p.runEvaluator = (.ok (), p) := by
  rw [runEvaluator, h]
  rfl

/-- A tick of a quiet pipeline does nothing. -/
theorem Quiet.tick (h : p.Quiet) : p.tick = (.ok false, p) := by
  rw [Pipeline.tick, runGenerator_of_unchanged h.generator]
  dsimp only
  rw [runValidator_of_unchanged h.schema, runEvaluator_of_unchanged h.moves]
  rfl

/-! ## What a tick leaves -/

theorem schema_settled (p : Pipeline) :
    p.runValidator.schema.watch.changed p.runValidator.schemaStamps = false := by
  rw [runValidator]
  split_ifs with hchanged
  · exact Watch.changed_mark _
  · exact Bool.eq_false_iff.2 hchanged

theorem generator_settled_runValidator (h : p.generator.changed p.generatorStamps = false) :
    p.runValidator.generator.changed p.runValidator.generatorStamps = false := by
  rw [runValidator]
  split_ifs <;> exact h

theorem moves_settled (h : p.runEvaluator.1 = .ok ()) :
    p.runEvaluator.2.moves.watch.changed p.runEvaluator.2.moveStamps = false := by
  rcases p.runEvaluator_cases with ⟨hsame, heq⟩ | ⟨moves, told, -, heq⟩ | ⟨e, told, heq⟩
  · rw [heq]
    exact hsame
  · rw [heq]
    exact Watch.changed_mark _
  · rw [heq] at h
    cases h

/-- The evaluator has no part in what the other two watches look at. -/
theorem settled_runEvaluator (hgenerator : p.generator.changed p.generatorStamps = false)
    (hschema : p.schema.watch.changed p.schemaStamps = false) :
    p.runEvaluator.2.generator.changed p.runEvaluator.2.generatorStamps = false ∧
      p.runEvaluator.2.schema.watch.changed p.runEvaluator.2.schemaStamps = false := by
  rcases p.runEvaluator_cases with ⟨-, heq⟩ | ⟨moves, told, -, heq⟩ | ⟨e, told, heq⟩ <;>
  · rw [heq]
    exact ⟨hgenerator, hschema⟩

/-- After a tick, even one that failed, guards and report are up to date. -/
theorem settled_tick (p : Pipeline) :
    p.tick.2.generator.changed p.tick.2.generatorStamps = false ∧
      p.tick.2.schema.watch.changed p.tick.2.schemaStamps = false := by
  obtain ⟨told, heq, -⟩ := p.tick_eq
  rw [heq]
  exact settled_runEvaluator (generator_settled_runValidator p.generator_settled)
    (schema_settled p.runGenerator.2)

/-- A tick that succeeds leaves a quiet pipeline. -/
theorem quiet_tick (h : p.tick.1 = .ok changed) : p.tick.2.Quiet := by
  obtain ⟨hgenerator, hschema⟩ := p.settled_tick
  refine ⟨hgenerator, hschema, ?_⟩
  obtain ⟨told, heq, hok⟩ := p.tick_eq
  rw [heq]
  exact moves_settled (hok changed h)

/-! ## Failing again -/

/-- What comes of moves depends on the world, the settings and whether records are kept. -/
theorem fst_computeMoves_congr {p q : Pipeline} (hworld : p.world = q.world)
    (hsettings : p.settings = q.settings) (hrecording : p.recording = q.recording) :
    p.computeMoves.1 = q.computeMoves.1 := by
  simp only [computeMoves, conclude, hworld, hsettings, hrecording]
  split_ifs <;> rfl

/-- The outcome of the evaluator does not depend on what happened before. -/
theorem fst_runEvaluator_tell (p : Pipeline) (told : List Event) :
    (p.tell told).runEvaluator.1 = p.runEvaluator.1 := by
  have hconclude : (p.tell told).computeMoves.1 = p.computeMoves.1 :=
    fst_computeMoves_congr rfl rfl rfl
  have hstamps : (p.tell told).moveStamps = p.moveStamps := rfl
  have hwatch : (p.tell told).moves = p.moves := rfl
  rw [runEvaluator, runEvaluator, hstamps, hwatch]
  cases hfirst : p.computeMoves with
  | mk outcome q =>
    cases hsecond : (p.tell told).computeMoves with
    | mk outcome' q' =>
      rw [hfirst, hsecond] at hconclude
      dsimp only at hconclude
      subst hconclude
      split_ifs
      · cases outcome' <;> rfl
      · rfl

theorem runEvaluator_of_tick (h : p.tick.1 = .error e) :
    p.runGenerator.2.runValidator.runEvaluator.1 = .error e ∧
      p.tick.2 = p.runGenerator.2.runValidator.runEvaluator.2 := by
  rcases p.tick_cases with ⟨e', q, hrun, htick⟩ | ⟨q, told, hrun, htick, -⟩
  · rw [htick] at h
    cases h
    rw [htick, hrun]
    exact ⟨rfl, rfl⟩
  · rw [htick] at h
    cases h

/-- After a tick that fails, the next one fails in the same way. -/
theorem tick_of_error (h : p.tick.1 = .error e) :
    ∃ told, p.tick.2.tick = (.error e, p.tick.2.tell told) := by
  obtain ⟨hgenerator, hschema⟩ := p.settled_tick
  obtain ⟨hfail, hend⟩ := runEvaluator_of_tick h
  have hagain : p.tick.2.runEvaluator.1 = .error e := by
    rcases p.runGenerator.2.runValidator.runEvaluator_cases with
      ⟨-, heq⟩ | ⟨moves, told, -, heq⟩ | ⟨e', told, heq⟩
    · rw [heq] at hfail
      cases hfail
    · rw [heq] at hfail
      cases hfail
    · rw [hend, heq, fst_runEvaluator_tell]
      exact hfail
  rw [tick, runGenerator_of_unchanged hgenerator]
  dsimp only
  rw [runValidator_of_unchanged hschema]
  rcases p.tick.2.runEvaluator_cases with ⟨-, heq⟩ | ⟨moves, told, -, heq⟩ | ⟨e', told, heq⟩
  · rw [heq] at hagain
    cases hagain
  · rw [heq] at hagain
    cases hagain
  · rw [heq] at hagain ⊢
    cases hagain
    exact ⟨told, rfl⟩

/-! ## Twice in a row -/

/-- Synchronisation reports a change exactly if it leaves other constraints than it found; this
    counts as one edit, and anything else as none. A second synchronisation does nothing, and
    neither does a second tick, unless the first one failed: then it fails likewise. Identifiers of
    constraints stay distinct, if those handed out are new. -/
theorem tick_idempotent (p : Pipeline) (hids : p.relations.content.Distinct) :
    (p.syncGuards.1 = true ↔
      p.syncGuards.2.constraints.content.constraints ≠ p.constraints.content.constraints) ∧
    (p.syncGuards.1 = true →
      p.syncGuards.2.constraints.stamp =
        ⟨p.constraints.stamp.serial, p.constraints.stamp.version + 1⟩) ∧
    (p.syncGuards.1 = false → p.syncGuards.2.constraints = p.constraints) ∧
    p.syncGuards.2.syncGuards = (false, p.syncGuards.2) ∧
    (Supply.New p.supply.minted p.syncGuards.2.supply.minted
        (p.constraints.content.constraints.map Constraint.id) →
      (p.constraints.content.constraints.map Constraint.id).Nodup →
      (p.syncGuards.2.constraints.content.constraints.map Constraint.id).Nodup) ∧
    (∀ changed, p.tick.1 = .ok changed → p.tick.2.tick = (.ok false, p.tick.2)) ∧
    ∀ e, p.tick.1 = .error e → ∃ told, p.tick.2.tick = (.error e, p.tick.2.tell told) := by
  refine ⟨fst_syncGuards_iff hids, ?_, ?_, syncGuards_of_guarded (guarded_syncGuards hids), ?_,
    fun changed h => (quiet_tick h).tick, fun e h => tick_of_error h⟩
  · intro h
    rcases p.constraints_of_syncGuards with ⟨-, heq⟩ | ⟨hnone, -⟩
    · rw [heq]
      rfl
    · rw [h] at hnone
      cases hnone
  · intro h
    rcases p.constraints_of_syncGuards with ⟨hsome, -⟩ | ⟨-, heq⟩
    · rw [h] at hsome
      cases hsome
    · exact heq
  · intro hnew hnodup
    rw [supply_syncGuards] at hnew
    rw [content_syncGuards]
    exact Guard.nodup_ids_sync _ p.supply hnew hnodup

open Disorder in
/-- Disorder is put right once: the first tick reports a change and the second does nothing. The
    two fresh identifiers are new, so identifiers stay distinct. -/
theorem tick_idempotent_disorder :
    Disorder.pipeline.syncGuards.1 = true ∧
      (Disorder.pipeline.syncGuards.2.constraints.content.constraints.map Constraint.id).Nodup ∧
      Disorder.pipeline.tick.1 = .ok true ∧
      Disorder.pipeline.tick.2.tick = (.ok false, Disorder.pipeline.tick.2) := by
  obtain ⟨hchanged, -, -, -, hnodup, hquiet, -⟩ := tick_idempotent Disorder.pipeline
    (by unfold Relations.Distinct; decide)
  have hnew : Supply.New 0 2 (Disorder.constraints.map Constraint.id) := by
    constructor
    · rintro m ⟨hm, hm'⟩ n ⟨hn, hn'⟩ heq
      interval_cases m <;> interval_cases n <;> first | rfl | exact absurd heq (by decide)
    · rintro n ⟨hn, hn'⟩
      interval_cases n <;> decide
  have htick : Disorder.pipeline.tick.1 = .ok true := by rfl
  exact ⟨by rfl, hnodup hnew (by decide), htick, hquiet true htick⟩

end Pipeline

end HexRules
