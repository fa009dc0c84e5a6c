import HexRules.Proofs.Movement.BreakOff
import HexRules.Proofs.Pipeline.Timeline

/-!
# After a tick that failed

A tick that fails over the moves has by then brought guards and report up to date, as a tick that
succeeds does. The moves are those from before, and so is what their watch has seen: it found a
change, and will find one again, whatever is changed in the meantime or if nothing is. So the next
tick computes the moves anew. It does not take an edit that counts; once the number that prevented
the moves is off the board, which nobody watches, the next tick has the moves of this board.

Results:
* `behind_tick`: a tick that fails leaves a watch that is behind.
* `anew_of_changed`: a tick computes the moves of the present if their watch finds a change.
* `tick_recovers`: what a tick that fails leaves, and what comes of the next tick or refresh.
-/

namespace HexRules.Pipeline

open Movement (Failure MoveSet)

variable {p q : Pipeline} {e : Failure} {world : Option World}

/-! ## Guards and report -/

theorem constraints_tick (p : Pipeline) : p.tick.2.constraints = p.prepared.constraints := by
  obtain ⟨moves, journal, heq⟩ := p.exists_snd_tick_eq
  rw [heq]

theorem schema_tick (p : Pipeline) : p.tick.2.schema = p.prepared.schema := by
  obtain ⟨moves, journal, heq⟩ := p.exists_snd_tick_eq
  rw [heq]

theorem fst_computeMoves_tick (p : Pipeline) :
    p.tick.2.computeMoves.1 = p.prepared.computeMoves.1 := by
  obtain ⟨moves, journal, heq⟩ := p.exists_snd_tick_eq
  rw [heq]
  exact fst_computeMoves_congr rfl rfl rfl

theorem syncGuards_replace_board (p : Pipeline) (board : Board) :
    (p.replace (.board board)).syncGuards.2 = p.syncGuards.2.replace (.board board) := by
  by_cases h : (Guard.sync p.relations.content p.constraints.content p.supply).changed = true
  · rw [syncGuards, syncGuards, if_pos h]
    exact congrArg Prod.snd (if_pos h)
  · rw [syncGuards, syncGuards, if_neg h]
    exact congrArg Prod.snd (if_neg h)

theorem runGenerator_replace_board (p : Pipeline) (board : Board) :
    (p.replace (.board board)).runGenerator.2 = p.runGenerator.2.replace (.board board) := by
  by_cases h : p.generator.changed p.generatorStamps = true
  · rw [runGenerator, runGenerator, if_pos h]
    refine (congrArg Prod.snd (if_pos h)).trans ?_
    dsimp only
    rw [syncGuards_replace_board]
    rfl
  · rw [runGenerator, runGenerator, if_neg h]
    exact congrArg Prod.snd (if_neg h)

theorem runValidator_replace_board (p : Pipeline) (board : Board) :
    (p.replace (.board board)).runValidator = p.runValidator.replace (.board board) := by
  by_cases h : p.schema.watch.changed p.schemaStamps = true
  · rw [runValidator, runValidator, if_pos h]
    exact if_pos h
  · rw [runValidator, runValidator, if_neg h]
    exact if_neg h

/-- Guards and report have nothing to do with the board. -/
theorem prepared_replace_board (p : Pipeline) (board : Board) :
    (p.replace (.board board)).prepared = p.prepared.replace (.board board) := by
  rw [prepared, runGenerator_replace_board, runValidator_replace_board, prepared]

/-! ## The moves -/

/-- A tick that fails leaves the pipeline as the evaluator found it, but for events. -/
theorem tick_eq_tell (h : p.tick.1 = .error e) :
    p.prepared.moves.watch.changed p.prepared.moveStamps = true ∧
      ∃ told, p.tick.2 = p.prepared.tell told := by
  obtain ⟨hfail, hend⟩ := runEvaluator_of_tick h
  rw [← prepared] at hfail hend
  by_cases hchanged : p.prepared.moves.watch.changed p.prepared.moveStamps = true
  · refine ⟨hchanged, ?_⟩
    rcases runEvaluator_of_changed hchanged with ⟨moves, told, -, hrun⟩ | ⟨e', told, -, hrun⟩
    · rw [hrun] at hfail
      cases hfail
    · exact ⟨told, by rw [hend, hrun]⟩
  · rw [runEvaluator_of_unchanged (Bool.eq_false_iff.2 hchanged)] at hfail
    cases hfail

/-- A tick that fails leaves a watch that is behind. -/
theorem behind_tick (hp : p.Reachable) (h : p.tick.1 = .error e) :
    p.tick.2.Numbered ∧ p.tick.2.Behind := by
  obtain ⟨hnumbered, htimely⟩ := hp.timely
  have hlater := p.meanwhile_prepared.later hnumbered
  obtain ⟨hchanged, told, heq⟩ := tick_eq_tell h
  rw [heq]
  -- The generator may have counted an edit on the way, which leaves the watch behind all the more.
  have hbehind : p.prepared.Behind := ⟨htimely.later hlater, hchanged⟩
  exact ⟨hlater.numbered, hbehind.timely, hbehind.changed⟩

/-- The outcome of a tick is that of a computation of moves in what the pipeline then holds. -/
structure Anew (p : Pipeline) (outcome : Except Failure Bool × Pipeline) : Prop where
  moves : outcome.1.map (fun _ => outcome.2.moves.value) = outcome.2.computeMoves.1
  revision : ∀ changed, outcome.1 = .ok changed →
    outcome.2.moves.revision = p.moves.revision + 1

theorem fst_tick_of_changed (h : p.prepared.moves.watch.changed p.prepared.moveStamps = true) :
    p.tick.1 = p.prepared.computeMoves.1.map fun _ => p.runGenerator.1 := by
  rw [fst_tick]
  rcases runEvaluator_of_changed h with ⟨moves, told, hmoves, hrun⟩ | ⟨e, told, hfail, hrun⟩
  · rw [hrun, hmoves]
    rfl
  · rw [hrun, hfail]
    rfl

/-- A tick computes the moves of the present if their watch finds a change. -/
theorem anew_of_changed (h : p.prepared.moves.watch.changed p.prepared.moveStamps = true) :
    p.Anew p.tick := by
  have houtcome := fst_tick_of_changed h
  obtain ⟨told, heq, -⟩ := p.tick_eq
  rcases runEvaluator_of_changed h with ⟨moves, told', hmoves, hrun⟩ | ⟨e, told', hfail, -⟩
  · have hstored : p.tick.2.moves = p.moves.store p.prepared.moveStamps moves := by
      rw [heq, ← prepared, hrun, ← p.moves_prepared]
      rfl
    rw [hmoves] at houtcome
    constructor
    · rw [fst_computeMoves_tick, hmoves, houtcome, hstored]
      rfl
    · intro changed _
      rw [hstored]
      rfl
  · rw [hfail] at houtcome
    constructor
    · rw [fst_computeMoves_tick, hfail, houtcome]
      rfl
    · intro changed hok
      rw [houtcome] at hok
      cases hok

theorem anew_tick (hq : q.Numbered) (h : q.Behind) : q.Anew q.tick :=
  anew_of_changed (h.later (q.meanwhile_prepared.later hq)).changed

theorem anew_refreshMoves (q : Pipeline) : q.Anew q.refreshMoves := by
  have h : q.invalidate.Anew q.invalidate.tick := by
    apply anew_of_changed
    rw [moves_prepared]
    exact Watch.changed_reset _
  exact ⟨h.moves, h.revision⟩

/-! ## Another board -/

/-- The next tick comes to the moves of the present: it fails as they do, or leaves them. -/
structure Arrives (p : Pipeline) : Prop where
  outcome : p.tick.1 = p.computeMoves.1.map fun _ => false
  moves : ∀ moves, p.computeMoves.1 = .ok moves → p.tick.2.moves.value = moves

/-- With guards and report settled, a watch over the moves that is behind is all there is to do. -/
theorem Behind.arrives (h : p.Behind) (hgenerator : p.generator.changed p.generatorStamps = false)
    (hschema : p.schema.watch.changed p.schemaStamps = false) : p.Arrives := by
  have hprepared : p.prepared = p := by
    rw [prepared, runGenerator_of_unchanged hgenerator, runValidator_of_unchanged hschema]
  have hchanged : p.prepared.moves.watch.changed p.prepared.moveStamps = true := by
    rw [hprepared]
    exact h.changed
  have houtcome : p.tick.1 = p.computeMoves.1.map fun _ => false := by
    rw [fst_tick_of_changed hchanged, hprepared, runGenerator_of_unchanged hgenerator]
  refine ⟨houtcome, fun moves hmoves => ?_⟩
  have hvalue := (anew_of_changed hchanged).moves
  rw [fst_computeMoves_tick, hprepared, houtcome, hmoves] at hvalue
  exact Except.ok.inj hvalue

/-- A tick that fails leaves guards and report as a tick with any other board does, and so up to
    date, unless edits went past the rules. It leaves the moves alone; but the next tick or refresh
    computes them anew, whatever has been changed by then, and if nothing has. Where just the board
    is replaced, the next tick comes to the moves on the new one. -/
theorem tick_recovers (hp : p.Reachable) (hfail : p.tick.1 = .error e) :
    (∀ board, p.tick.2.constraints = (p.replace (.board board)).tick.2.constraints ∧
      p.tick.2.schema = (p.replace (.board board)).tick.2.schema) ∧
    (∀ new actions, new.IsNew → new.relations.content.Distinct →
      ((Course.start new).run actions).pipeline = p → p.tick.2.Guarded ∧ p.tick.2.Reported) ∧
    p.tick.2.moves = p.moves ∧
    (∀ q, Meanwhile p.tick.2 q → q.Anew q.tick ∧ q.Anew q.refreshMoves) ∧
    ∀ board, (p.tick.2.replace (.board board)).Arrives := by
  obtain ⟨hnumbered, hbehind⟩ := behind_tick hp hfail
  obtain ⟨-, told, heq⟩ := tick_eq_tell hfail
  refine ⟨fun board => ?_, fun new actions hnew hids hcourse => ?_, ?_, fun q hq => ?_,
    fun board => ?_⟩
  · rw [constraints_tick, constraints_tick, schema_tick, schema_tick, prepared_replace_board]
    exact ⟨rfl, rfl⟩
  · have hsound := Course.sound_run (c := .start new) (hnew.sound hids) actions
    rw [hcourse] at hsound
    exact ⟨guarded_tick hsound, reported_tick hsound⟩
  · rw [heq, ← p.moves_prepared]
    rfl
  · have hlater := hq.later hnumbered
    exact ⟨anew_tick hlater.numbered (hbehind.later hlater), anew_refreshMoves q⟩
  · obtain ⟨hgenerator, hschema⟩ := p.settled_tick
    have hlater := later_replace hnumbered (.board board)
    exact (hbehind.later hlater).arrives hgenerator hschema

/-! ## A ford that floods -/

open Movement (River.crossing River.ident)

/-- Moves are computed where a ford takes a toll. Then it takes an infinite one, which is found out
    as soon as the relations count as changed. -/
def flooded : Pipeline :=
  ((Course.start (.ofWorld .default false .start (River.crossing (.int 3) (.int 1)))).run
    [.tick,
      .edit (.board (.setTileProperty "1,0" (River.ident 9) (.float (.infinity false)))) trivial,
      .edit (.markChanged .relations) trivial]).pipeline

/-- The toll once the flood is over. -/
def ebb : Board := (River.crossing (.int 3) (.int 2)).board

/-- The tick that finds the infinite toll leaves the moves with the old one. After the flood the
    next tick has those with the new one, though nothing else was changed. -/
theorem tick_recovers_flooded :
    flooded.tick.1 = .error (.notFinite .infinity) ∧
      flooded.tick.2.Guarded ∧ flooded.tick.2.Reported ∧
      flooded.tick.2.moves.value.budgets.get? ⟨1, 0⟩ = some 2 ∧
      (flooded.tick.2.replace (.board ebb)).tick.1 = .ok false ∧
      (flooded.tick.2.replace (.board ebb)).tick.2.moves.value.budgets.get? ⟨1, 0⟩ = some 1 := by
  have hnew := isNew_ofWorld .default false .start (River.crossing (.int 3) (.int 1))
  have hreachable : flooded.Reachable := reachable_run (.start _ _ _ _) _
  have hfail : flooded.tick.1 = .error (.notFinite .infinity) := by decide +kernel
  obtain ⟨-, hfits, hmoves, -, harrives⟩ := tick_recovers hreachable hfail
  obtain ⟨hguarded, hreported⟩ := hfits _ _ hnew (by unfold Relations.Distinct; decide) rfl
  refine ⟨hfail, hguarded, hreported, ?_, ?_, by decide +kernel⟩
  · rw [hmoves]
    decide +kernel
  · obtain ⟨moves, hcompute⟩ := Outcome.exists_eq_ok_of_isOk
      (x := (flooded.tick.2.replace (.board ebb)).computeMoves.1) (by decide +kernel)
    rw [(harrives ebb).outcome, hcompute]
    rfl

end HexRules.Pipeline
