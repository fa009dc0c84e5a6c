import HexRules.Proofs.Pipeline.Quiet

/-!
# What a tick leaves

A tick fails only over the moves, and those come last. So whatever becomes of it, it leaves the
guards that synchronisation would leave, and the report on the definitions with these guards.
Where the generator finds no change it does not synchronise; but then the guards are in step, and
synchronisation would leave them as they are.

Results:
* `exists_snd_tick_eq`: what the evaluator adds to guards and report has to do with moves only.
* `world_tick`: a tick changes what the pipeline holds as synchronisation would.
* `guarded_tick`, `reported_tick`: after a tick the guards are in step, and the report is that on
  what the pipeline holds.
-/

namespace HexRules.Pipeline

variable {p : Pipeline} {world : Option World}

/-! ## What the evaluator finds -/

/-- The pipeline with guards and report up to date, as the evaluator finds it in a tick. -/
def prepared (p : Pipeline) : Pipeline := p.runGenerator.2.runValidator

theorem moves_prepared (p : Pipeline) : p.prepared.moves = p.moves := by
  rw [prepared, moves_runValidator, moves_runGenerator]

theorem settings_prepared (p : Pipeline) : p.prepared.settings = p.settings := by
  rw [prepared, runValidator, runGenerator, syncGuards]
  split_ifs <;> rfl

theorem recording_prepared (p : Pipeline) : p.prepared.recording = p.recording := by
  rw [prepared, runValidator, runGenerator, syncGuards]
  split_ifs <;> rfl

/-- A tick fails as the evaluator does, and else says whether guards were changed. -/
theorem fst_tick (p : Pipeline) :
    p.tick.1 = p.prepared.runEvaluator.1.map fun _ => p.runGenerator.1 := by
  rw [prepared]
  rcases p.tick_cases with ⟨e, q, hrun, htick⟩ | ⟨q, told, hrun, htick, -⟩ <;> rw [htick, hrun]
  · rfl
  · rfl

/-! ## What the pipeline holds -/

/-- What a pipeline holds once its guards are synchronised. -/
def guardedWorld (p : Pipeline) : World :=
  { p.world with
    constraints := ⟨(Guard.sync p.relations.content p.constraints.content p.supply).constraints⟩ }

theorem world_syncGuards (p : Pipeline) : p.syncGuards.2.world = p.guardedWorld := by
  have hconstraints : p.syncGuards.2.world =
      { p.world with constraints := p.syncGuards.2.constraints.content } := by
    rw [syncGuards]
    split_ifs <;> rfl
  rw [hconstraints, guardedWorld, ← content_syncGuards]

/-- Synchronisation leaves settled constraints, whatever identifiers fresh guards get. -/
theorem exists_settled_guardedWorld (hids : p.relations.content.Distinct) :
    ∃ fresh, p.guardedWorld.constraints =
      ⟨Guard.settled fresh p.relations.content.relations p.constraints.content.constraints⟩ :=
  ⟨_, congrArg Constraints.mk (Guard.constraints_sync hids _ p.supply)⟩

/-- Guards in step are those that synchronisation would leave. -/
theorem guardedWorld_of_guarded (h : p.Guarded) : p.guardedWorld = p.world := by
  rw [← world_syncGuards, syncGuards_of_guarded h]

theorem world_runGenerator (h : p.Sound world) :
    p.runGenerator.2.world = p.guardedWorld := by
  rw [runGenerator]
  split_ifs with hchanged
  · exact p.world_syncGuards
  · have htended := h.guards.of_unchanged (Bool.eq_false_iff.2 hchanged)
    exact (guardedWorld_of_guarded (htended.guarded h.distinct)).symm

theorem world_runValidator (p : Pipeline) : p.runValidator.world = p.world := by
  rw [runValidator]
  split_ifs <;> rfl

/-- Beyond what the evaluator finds, a tick only has to do with moves and events. -/
theorem exists_snd_tick_eq (p : Pipeline) :
    ∃ moves journal, p.tick.2 = { p.prepared with moves := moves, journal := journal } := by
  obtain ⟨told, heq, -⟩ := p.tick_eq
  rw [heq, ← prepared]
  rcases p.prepared.runEvaluator_cases with ⟨-, hrun⟩ | ⟨moves, told', -, hrun⟩ | ⟨e, told', hrun⟩
  · exact ⟨p.prepared.moves, _, by rw [hrun]; rfl⟩
  · exact ⟨p.prepared.moves.store _ moves, _, by rw [hrun]; rfl⟩
  · exact ⟨p.prepared.moves, _, by rw [hrun]; rfl⟩

/-- A tick changes what the pipeline holds as synchronisation would. -/
theorem world_tick (h : p.Sound world) : p.tick.2.world = p.guardedWorld := by
  obtain ⟨moves, journal, heq⟩ := p.exists_snd_tick_eq
  have hprepared : p.tick.2.world = p.runGenerator.2.runValidator.world := by
    rw [heq]
    rfl
  rw [hprepared, world_runValidator, world_runGenerator h]

/-! ## Guards and report -/

/-- After a tick, even one that failed, the guards are in step. -/
theorem guarded_tick (h : p.Sound world) : p.tick.2.Guarded := by
  obtain ⟨moves, journal, heq⟩ := p.exists_snd_tick_eq
  obtain ⟨hgenerator, htended⟩ := h.runGenerator
  have hprepared : Guard.Tended p.tick.2.relations.content p.tick.2.constraints.content := by
    rw [heq]
    exact (hgenerator.runValidator htended).2.1
  exact hprepared.guarded (p.relations_tick ▸ h.distinct)

/-- After a tick, even one that failed, the report is that on what the pipeline holds. -/
theorem reported_tick (h : p.Sound world) : p.tick.2.Reported := by
  obtain ⟨moves, journal, heq⟩ := p.exists_snd_tick_eq
  obtain ⟨hgenerator, htended⟩ := h.runGenerator
  rw [heq]
  exact (hgenerator.runValidator htended).2.2

end HexRules.Pipeline
