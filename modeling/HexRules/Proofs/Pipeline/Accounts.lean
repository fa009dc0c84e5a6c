import HexRules.Pipeline.Edit
import HexRules.Proofs.Guard.Accounts
import HexRules.Proofs.Pipeline.Registries
import HexRules.Proofs.Pipeline.Tick

/-!
# Counters of guards

Counters count what becomes of the guards: how many were inserted, regenerated and retracted. What
they show is worked out from the journal, in which every synchronisation puts down its changes and
nothing else puts down any. So the counters tell how the number of constraints went: over one
synchronisation, over one tick, even a failed one, and over any number of ticks with edits between
them, in so far as the ticks changed it.

Identifiers may repeat in relations and constraints alike.

Results:
* `Event.get?_tally`: a counter shows how often events moved it.
* `Tells.counter_eq`: what the journal gained on guards is what their counters show.
* `booked_syncGuards`, `booked_tick`: the books of a synchronisation and of a tick are balanced.
* `guards_accounted`: the counters account for the constraints.
-/

namespace HexRules

/-! ## Counters -/

/-- The word for an action in the name of its counter. -/
def Guard.Action.word : Guard.Action → String
  | .inserted => "inserted"
  | .regenerated => "regenerated"
  | .retracted => "retracted"

namespace Event

/-- The change of guards that an event tells of, if it does. -/
def change? : Event → Option Guard.Change
  | .guard change => some change
  | _ => none

theorem count_guardCounters (change : Guard.Change) (a : Guard.Action) :
    (guardCounters change).count (guardCounter a.word) = change.times a := by
  cases change with
  | dropped n relationName =>
    have hsame : guardCounter "retracted" = guardCounter a.word ↔ a = .retracted := by
      cases a <;> decide
    rw [guardCounters, List.count_replicate]
    cases a <;> simp [hsame, Guard.Change.times]
  | retracted name relation | inserted name relationName | regenerated old new relationName =>
    cases a <;> rfl

/-- No other event moves a counter of guards. -/
theorem count_counters (e : Event) (a : Guard.Action) :
    e.counters.count (guardCounter a.word) = Guard.counted e.change?.toList a := by
  cases e with
  | guard change =>
    rw [counters, count_guardCounters, change?, Option.toList_some, Guard.counted_singleton]
  | validated flaws bindings relations constraints =>
    have hflaw : ∀ category, flawCounter category ≠ guardCounter a.word := by
      intro category
      cases category <;> cases a <;> decide
    have houtcome : outcomeCounter (if flaws.isEmpty then "valid" else "invalid") ≠
        guardCounter a.word := by
      cases flaws.isEmpty <;> cases a <;> decide
    exact List.count_eq_zero_of_not_mem fun hmem => by
      rcases List.mem_cons.1 hmem with heq | hflaws
      · exact houtcome heq.symm
      · obtain ⟨category, -, heq⟩ := List.mem_map.1 hflaws
        exact hflaw category heq
  | moves event => cases event <;> cases a <;> rfl
  | regenerated valid => rfl

theorem count_flatMap_counters (events : List Event) (a : Guard.Action) :
    (events.flatMap counters).count (guardCounter a.word) =
      Guard.counted (events.filterMap change?) a := by
  induction events with
  | nil => rfl
  | cons e rest ih =>
    have hsplit : (e :: rest).filterMap change? = e.change?.toList ++ rest.filterMap change? := by
      rw [List.filterMap_cons]
      cases e.change? <;> rfl
    rw [List.flatMap_cons, List.count_append, ih, count_counters, hsplit, Guard.counted_append]

/-- A counter shows how often events moved it. -/
theorem get?_tally (events : List Event) (name : String) :
    ((tally events).get? name).getD 0 = (events.flatMap counters).count name := by
  suffices h : ∀ (names : List String) (t : Table String ℕ),
      ((names.foldl (fun t name => t.insert name ((t.get? name).getD 0 + 1)) t).get? name).getD 0 =
        (t.get? name).getD 0 + names.count name by
    rw [tally, h, Table.get?_empty, Option.getD_none, Nat.zero_add]
  intro names
  induction names with
  | nil => exact fun t => rfl
  | cons moved rest ih =>
    intro t
    rw [List.foldl_cons, ih, Table.get?_insert, List.count_cons]
    by_cases h : moved = name
    · subst h
      simp
      omega
    · simp [h]

/-- Where records are kept, the events that are told are the first ones. -/
theorem written_prefix (events : List Event) : (written events).1 <+: events := by
  induction events with
  | nil => exact List.prefix_refl []
  | cons e rest ih =>
    unfold written
    cases e.record with
    | error failure => exact List.prefix_cons_inj e |>.2 rest.nil_prefix
    | ok r => exact (List.prefix_cons_inj e).2 ih

end Event

namespace Pipeline

/-- The number of constraints. -/
def size (p : Pipeline) : ℕ := p.constraints.content.constraints.length

/-- What the counter of an action shows, which is nothing where counters do not count. -/
def counter (p : Pipeline) (a : Guard.Action) : ℕ :=
  if p.settings.metricsEnabled then
    ((Event.tally p.journal).get? (Event.guardCounter a.word)).getD 0
  else 0

/-- How far the counter of an action has moved since. -/
def grown (p q : Pipeline) (a : Guard.Action) : ℤ := q.counter a - p.counter a

variable {p q r : Pipeline} {changes changes' : List Guard.Change}

/-! ## What is told of guards -/

/-- From a pipeline to a later one, the journal tells of certain changes of guards. -/
structure Tells (p q : Pipeline) (changes : List Guard.Change) : Prop where
  settings : q.settings = p.settings
  journal : ∃ told, q.journal = p.journal ++ told ∧ told.filterMap Event.change? = changes

theorem tells_of_journal (hsettings : q.settings = p.settings) (hjournal : q.journal = p.journal) :
    p.Tells q [] :=
  ⟨hsettings, [], by rw [hjournal, List.append_nil], rfl⟩

theorem tells_tell (p : Pipeline) (events : List Event) :
    p.Tells (p.tell events) (events.filterMap Event.change?) :=
  ⟨rfl, events, rfl, rfl⟩

theorem Tells.trans (h : p.Tells q changes) (h' : q.Tells r changes') :
    p.Tells r (changes ++ changes') := by
  obtain ⟨told, hjournal, hchanges⟩ := h.journal
  obtain ⟨told', hjournal', hchanges'⟩ := h'.journal
  refine ⟨h'.settings.trans h.settings, told ++ told', ?_, ?_⟩
  · rw [hjournal', hjournal, List.append_assoc]
  · rw [List.filterMap_append, hchanges, hchanges']

theorem Tells.trans_nil (h : p.Tells q changes) (h' : q.Tells r []) : p.Tells r changes := by
  simpa using h.trans h'

/-- What was told of guards is what their counters show. -/
theorem Tells.counter_eq (h : p.Tells q changes) (hcounting : p.settings.metricsEnabled = true)
    (a : Guard.Action) : q.counter a = p.counter a + Guard.counted changes a := by
  obtain ⟨told, hjournal, hchanges⟩ := h.journal
  rw [counter, counter, h.settings, if_pos hcounting, if_pos hcounting, Event.get?_tally,
    Event.get?_tally, hjournal, List.flatMap_append, List.count_append,
    Event.count_flatMap_counters told, hchanges]

theorem Tells.grown_eq (h : p.Tells q changes) (hcounting : p.settings.metricsEnabled = true)
    (a : Guard.Action) : p.grown q a = Guard.counted changes a := by
  rw [grown, h.counter_eq hcounting]
  push_cast
  ring

/-! ## Moves and report -/

theorem tells_conclude {α : Type} (p : Pipeline) {events : List Event}
    (h : events.filterMap Event.change? = []) (outcome : Except Movement.Failure α) :
    p.Tells (p.conclude events outcome).2 [] := by
  rw [conclude]
  split_ifs
  · have hprefix := (Event.written_prefix events).filterMap Event.change?
    rw [h, List.prefix_nil] at hprefix
    rw [← hprefix]
    exact p.tells_tell _
  · rw [← h]
    exact p.tells_tell events

theorem tells_computeMoves (p : Pipeline) : p.Tells p.computeMoves.2 [] :=
  p.tells_conclude (by rw [List.filterMap_map]; exact List.filterMap_none _) _

theorem tells_budgetOf (p : Pipeline) (data : EntityData) : p.Tells (p.budgetOf data).2 [] := by
  unfold budgetOf
  dsimp only
  split
  · exact tells_of_journal rfl rfl
  · exact tells_of_journal rfl rfl
  · exact p.tells_conclude rfl _

theorem tells_runValidator (p : Pipeline) : p.Tells p.runValidator [] := by
  rw [runValidator]
  split_ifs
  · exact ⟨rfl, _, rfl, rfl⟩
  · exact tells_of_journal rfl rfl

theorem tells_runEvaluator (p : Pipeline) : p.Tells p.runEvaluator.2 [] := by
  have hmoves := p.tells_computeMoves
  rw [runEvaluator]
  split_ifs
  · cases hcompute : p.computeMoves with
    | mk outcome q =>
      rw [hcompute] at hmoves
      cases outcome with
      | error e => exact hmoves
      | ok moves => exact ⟨hmoves.settings, hmoves.journal⟩
  · exact tells_of_journal rfl rfl

/-! ## Books -/

/-- What was told of guards accounts for the number of constraints. -/
structure Booked (p q : Pipeline) (changes : List Guard.Change) : Prop extends
    Tells p q changes where
  balance : q.size + Guard.counted changes .retracted = p.size + Guard.counted changes .inserted

theorem Booked.size_eq (h : p.Booked q changes) (hcounting : p.settings.metricsEnabled = true) :
    (q.size : ℤ) = p.size + p.grown q .inserted - p.grown q .retracted := by
  have hbalance := h.balance
  rw [h.grown_eq hcounting, h.grown_eq hcounting]
  omega

/-- The changes that a synchronisation of the guards makes. -/
def guardChanges (p : Pipeline) : List Guard.Change :=
  (Guard.sync p.relations.content p.constraints.content p.supply).changes

theorem tells_syncGuards (p : Pipeline) : p.Tells p.syncGuards.2 p.guardChanges := by
  have htold : (p.guardChanges.map Event.guard).filterMap Event.change? = p.guardChanges := by
    rw [List.filterMap_map]
    exact List.filterMap_some
  rw [syncGuards]
  split_ifs <;> exact ⟨rfl, _, rfl, htold⟩

theorem booked_syncGuards (p : Pipeline) : p.Booked p.syncGuards.2 p.guardChanges where
  toTells := p.tells_syncGuards
  balance := by
    rw [size, content_syncGuards]
    exact (Guard.balanced_sync p.relations.content p.constraints.content p.supply).length

theorem booked_runGenerator (p : Pipeline) : ∃ changes, p.Booked p.runGenerator.2 changes := by
  have hsync := p.booked_syncGuards
  rw [runGenerator]
  split_ifs
  · exact ⟨_, ⟨hsync.settings, hsync.journal⟩, hsync.balance⟩
  · exact ⟨[], tells_of_journal rfl rfl, rfl⟩

/-- After report and moves a tick only tells that it changed guards, if it did. -/
theorem tells_tick_of_prepared (p : Pipeline) : p.prepared.runEvaluator.2.Tells p.tick.2 [] := by
  rw [prepared]
  rcases p.tick_cases with ⟨e, q, hrun, htick⟩ | ⟨q, told, hrun, htick, htold⟩
  · rw [htick, hrun]
    exact tells_of_journal rfl rfl
  · have hnone : told.filterMap Event.change? = [] := by
      rcases htold with rfl | ⟨valid, rfl⟩ <;> rfl
    rw [htick, hrun, ← hnone]
    exact q.tells_tell told

/-- The books of a tick are balanced, even if it fails. -/
theorem booked_tick (p : Pipeline) : ∃ changes, p.Booked p.tick.2 changes := by
  obtain ⟨changes, htells, hbalance⟩ := p.booked_runGenerator
  obtain ⟨moves, journal, heq⟩ := p.exists_snd_tick_eq
  have hvalidator : p.runGenerator.2.runValidator.size = p.runGenerator.2.size :=
    congrArg (fun w : World => w.constraints.constraints.length) (world_runValidator _)
  have hend : p.tick.2.size = p.runGenerator.2.size := by
    rw [← hvalidator, heq]
    rfl
  refine ⟨changes, ?_, by rw [hend, hbalance]⟩
  exact ((htells.trans_nil (tells_runValidator _)).trans_nil (tells_runEvaluator _)).trans_nil
    p.tells_tick_of_prepared

/-! ## Stretches of time -/

theorem tells_apply {e : Edit} (h : p.apply e = .ok q) : p.Tells q [] := by
  cases e with
  | addType t | removeType id | addEnum e | addConcept c | removeConcept id | addBinding b
  | removeBinding id | addRelation r | updateRelation id new | removeRelation id
  | addConstraint c | removeConstraint id | appendRole concept role
  | appendProperty binding property =>
    obtain ⟨handle, -, rfl⟩ := Outcome.map_eq_ok_iff.1 h
    exact tells_of_journal rfl rfl
  | select unit =>
    cases h
    rw [select]
    split_ifs <;> exact tells_of_journal rfl rfl
  | markChanged handle =>
    cases h
    cases handle <;> exact tells_of_journal rfl rfl
  | appendConstraint c | board edit =>
    cases h
    exact tells_of_journal rfl rfl

/-- Something happens to a pipeline in which no guards are synchronised. -/
inductive Aside (p : Pipeline) : Pipeline → Prop
  | edit {e : Edit} {q : Pipeline} (accepted : p.apply e = .ok q) : Aside p q
  | fill {σ ε : Type} (noKey : ε) (center : Hex) (ask : Hex → StateM σ (Except ε EntityData))
    (s : σ) : Aside p ((p.fillAsking noKey center ask).run s).1.2
  | replace (new : Replacement) : Aside p (p.replace new)
  | validate : Aside p p.validate.2
  | validator : Aside p p.runValidator
  | moves : Aside p p.computeMoves.2
  | budget (data : EntityData) : Aside p (p.budgetOf data).2
  | evaluator : Aside p p.runEvaluator.2
  | invalidate : Aside p p.invalidate

theorem Aside.tells (h : p.Aside q) : p.Tells q [] := by
  cases h with
  | edit accepted => exact tells_apply accepted
  | fill noKey center ask s => exact tells_of_journal rfl rfl
  | replace new => cases new <;> exact tells_of_journal rfl rfl
  | validate => exact ⟨rfl, _, rfl, rfl⟩
  | validator => exact p.tells_runValidator
  | moves => exact p.tells_computeMoves
  | budget data => exact p.tells_budgetOf data
  | evaluator => exact p.tells_runEvaluator
  | invalidate => exact tells_of_journal rfl rfl

/-- A stretch of time, and by how much the ticks in it changed the number of constraints. -/
inductive Stretch (p : Pipeline) : Pipeline → ℤ → Prop
  | start : Stretch p p 0
  | aside {q r : Pipeline} {net : ℤ} (h : Stretch p q net) (between : q.Aside r) : Stretch p r net
  | tick {q : Pipeline} {net : ℤ} (h : Stretch p q net) :
    Stretch p q.tick.2 (net + (q.tick.2.size - q.size))

theorem Stretch.tells {net : ℤ} (h : p.Stretch q net) :
    ∃ changes, p.Tells q changes ∧
      net = Guard.counted changes .inserted - Guard.counted changes .retracted := by
  induction h with
  | start => exact ⟨[], tells_of_journal rfl rfl, rfl⟩
  | aside _ between ih =>
    obtain ⟨changes, htells, hnet⟩ := ih
    exact ⟨changes, htells.trans_nil between.tells, hnet⟩
  | @tick q net _ ih =>
    obtain ⟨changes, htells, hnet⟩ := ih
    obtain ⟨changes', htells', hbalance⟩ := q.booked_tick
    refine ⟨changes ++ changes', htells.trans htells', ?_⟩
    rw [Guard.counted_append, Guard.counted_append]
    omega

/-! ## The counters account for the constraints -/

/-- Where counters count, they account for the constraints. A synchronisation leaves as many more as
    guards were inserted, and as many fewer as were retracted. It reports a change, and counts as an
    edit, exactly if a counter has moved. What the ticks in any stretch of time do to the number of
    constraints is shown by the counters, too. -/
theorem guards_accounted (p : Pipeline) (hcounting : p.settings.metricsEnabled = true) :
    (p.syncGuards.2.size : ℤ) =
        p.size + p.grown p.syncGuards.2 .inserted - p.grown p.syncGuards.2 .retracted ∧
    (p.syncGuards.1 = true ↔ ∃ a, p.counter a < p.syncGuards.2.counter a) ∧
    p.syncGuards.2.constraints.stamp =
      (if p.syncGuards.1 then p.constraints.stamp.next else p.constraints.stamp) ∧
    ∀ q net, p.Stretch q net → net = p.grown q .inserted - p.grown q .retracted := by
  refine ⟨p.booked_syncGuards.size_eq hcounting, ?_, ?_, ?_⟩
  · have hbalanced := Guard.balanced_sync p.relations.content p.constraints.content p.supply
    rw [fst_syncGuards, hbalanced.changed_iff]
    refine exists_congr fun a => ?_
    rw [p.tells_syncGuards.counter_eq hcounting, guardChanges]
    omega
  · rcases p.constraints_of_syncGuards with ⟨hchanged, heq⟩ | ⟨hchanged, heq⟩
    · rw [hchanged, if_pos rfl, heq]
      rfl
    · rw [hchanged, if_neg Bool.false_ne_true, heq]
  · intro q net hstretch
    obtain ⟨changes, htells, hnet⟩ := hstretch.tells
    rw [htells.grown_eq hcounting, htells.grown_eq hcounting, hnet]

open Disorder in
/-- Of nine constraints four are retracted, two of them as further guards, and one is inserted. When
    the relation 3 no longer subtracts, the next tick retracts its guard. -/
theorem guards_accounted_disorder :
    Disorder.pipeline.syncGuards.2.size = 6 ∧
      Disorder.pipeline.syncGuards.1 = true ∧
      ∃ q net, Disorder.pipeline.Stretch q net ∧ net = -4 ∧
        net = Disorder.pipeline.grown q .inserted - Disorder.pipeline.grown q .retracted := by
  obtain ⟨hsize, hchanged, -, hnet⟩ := guards_accounted Disorder.pipeline rfl
  have hinserted : Disorder.pipeline.grown Disorder.pipeline.syncGuards.2 .inserted = 1 := by
    decide
  have hretracted : Disorder.pipeline.grown Disorder.pipeline.syncGuards.2 .retracted = 4 := by
    decide
  have hbefore : Disorder.pipeline.size = 9 := rfl
  have hticks : Disorder.pipeline.Stretch _ _ :=
    .tick (.aside (.tick .start) (.edit (e := .removeRelation (ident 3)) rfl))
  rw [hinserted, hretracted, hbefore] at hsize
  exact ⟨by omega, hchanged.2 ⟨.inserted, by decide⟩, _, _, hticks, by decide, hnet _ _ hticks⟩

end Pipeline

end HexRules
