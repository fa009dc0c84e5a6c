import HexRules.Proofs.Movement.Explained

/-!
# Findings quote final budgets

A hex can be met with one budget and later with a better one, and an entry of the frontier can be
out of date. But where no step gives anything back, every hex that comes off the frontier has at
most the budget of the one before. So when a hex is left, its budget is final (`Stage.Final`):
nothing that is still to come has more. The unit leaves each hex once, with the budget that it ends
up with, and the findings against a hex are those of the steps that are made so.

Costs have to be non-negative only where a step can succeed. The initial budget may be negative, and
a hex of cost zero is entered with the budget that its neighbour was left with.

Results:
* `sorted_enqueue`: the frontier stays sorted.
* `Next.final`: a budget that is final stays so.
* `Next.falls`: budgets fall along the loop.
* `Next.records`: the findings kept are those of the steps from hexes with final budgets.
* `findings_final`: the findings against a hex that is not reached are those of the steps onto it,
  from wherever the unit goes on with the budget that it holds there in the end.
-/

namespace HexRules.Movement

/-- No step onto a hex of the map leaves more budget than there was. -/
def Quest.Spends (quest : Quest) : Prop :=
  ∀ {q : Hex} {b n : ℤ}, Grid.inBounds q quest.radius = true → q ≠ quest.start →
    quest.enter q b = .ok (.open n) → n ≤ b

/-- A step onto a hex with a budget fails with a finding, among others. -/
def Quest.Objects (quest : Quest) (q : Hex) (b : ℤ) (f : Finding) : Prop :=
  ∃ findings, quest.enter q b = .ok (.blocked findings) ∧ f ∈ findings

namespace Search

variable {quest : Quest} {s s' : Search} {c c' : Stage} {p q : Hex} {b remaining : ℤ}
  {toTry : List Hex} {findings : List Finding}

/-! ## The frontier is sorted -/

/-- Of any two entries the first has at least the budget of the second. -/
def Sorted (frontier : List (Hex × ℤ)) : Prop := frontier.Pairwise fun e e' => e'.2 ≤ e.2

theorem sorted_enqueue {entry : Hex × ℤ} {frontier : List (Hex × ℤ)} (h : Sorted frontier) :
    Sorted (enqueue entry frontier) := by
  induction frontier with
  | nil => exact List.pairwise_singleton _ _
  | cons first rest ih =>
    obtain ⟨hfirst, hrest⟩ := List.pairwise_cons.1 h
    unfold enqueue
    split_ifs with hle
    · refine List.pairwise_cons.2 ⟨fun e he => ?_, ih hrest⟩
      rcases mem_enqueue.1 he with rfl | he
      · exact hle
      · exact hfirst e he
    · refine List.pairwise_cons.2 ⟨fun e he => ?_, h⟩
      rcases List.mem_cons.1 he with rfl | he
      · omega
      · have := hfirst e he
        omega

theorem sorted_reach (h : Sorted s.frontier) (q : Hex) (b : ℤ) :
    Sorted (s.reach q b).frontier := by
  unfold reach
  split_ifs
  · exact h
  · exact sorted_enqueue h
  · exact h

/-! ## Budgets fall -/

/-- What waits, and what is being left, has at most a budget. -/
structure Stage.AtMost (c : Stage) (b : ℤ) : Prop where
  waiting : ∀ e ∈ c.search.frontier, e.2 ≤ b
  leaving : ∀ {p remaining toTry}, c.phase = .leaving p remaining toTry → remaining ≤ b

/-- The unit goes on from a hex with a budget that is not exceeded by anything to come. -/
structure Stage.Final (quest : Quest) (c : Stage) (p : Hex) (b : ℤ) : Prop where
  goesOn : c.search.GoesOn quest p b
  atMost : c.AtMost b

/-- The frontier is sorted, every entry is known, and the hex that is being left has its final
    budget. -/
structure Falls (quest : Quest) (c : Stage) : Prop where
  sorted : Sorted c.search.frontier
  waiting : ∀ e ∈ c.search.frontier,
    c.search.knows e.1 e.2 = true ∧ (e.1 = quest.start ∨ 0 < e.2)
  leaving : ∀ {p remaining toTry}, c.phase = .leaving p remaining toTry →
    c.Final quest p remaining ∧ ∀ q ∈ toTry, q ∈ targets quest p

theorem falls_opening (quest : Quest) : Falls quest (opening quest) := by
  refine ⟨List.pairwise_singleton _ _, ?_, ?_⟩
  · intro e he
    rw [opening, begin, List.mem_singleton] at he
    subst he
    refine ⟨knows_iff.2 ⟨quest.budget, ?_, le_rfl⟩, .inl rfl⟩
    rw [opening, get?_begin, if_pos rfl]
  · intro p remaining toTry hphase
    cases hphase

/-- An attempt reaches a hex with no more budget than is left, or changes findings only. -/
theorem attempt_falls (hspends : quest.Spends) (hq : q ∈ targets quest p)
    (h : attempt quest remaining s q = .ok s') :
    (∃ b ≤ remaining, s.knows q b = false ∧ s' = s.reach q b) ∨
      s'.best = s.best ∧ s'.frontier = s.frontier := by
  obtain ⟨-, hmap, haway⟩ := mem_targets.1 hq
  rcases attempt_cases h with ⟨n, henter, ⟨-, rfl⟩ | ⟨hk, rfl⟩⟩ | ⟨_, -, ⟨-, rfl⟩ | ⟨-, -, rfl⟩⟩
  · exact .inr ⟨rfl, rfl⟩
  · exact .inl ⟨_, (min_le_left _ _).trans (hspends hmap haway henter), hk, rfl⟩
  · exact .inr ⟨rfl, rfl⟩
  · exact .inr ⟨best_refuse s q _, frontier_refuse s q _⟩

/-- A hex keeps its budget while others, or itself, are met with no more. -/
theorem goesOn_reach_of_le {c : ℤ} (hq : q ≠ quest.start) (hk : s.knows q b = false)
    (h : s.GoesOn quest p c) (hb : b ≤ c) : (s.reach q b).GoesOn quest p c := by
  refine (goesOn_reach hq hk).2 (.inr ⟨?_, h⟩)
  rintro rfl
  rw [knows_iff.2 ⟨c, h.1, hb⟩] at hk
  cases hk

/-- A budget that is final stays so. -/
theorem Next.final (hspends : quest.Spends) (hfalls : Falls quest c) (next : Next quest c c')
    (h : c.Final quest p b) : c'.Final quest p b := by
  obtain ⟨hgo, hwaiting, hleaving⟩ := h
  cases next with
  | @take s p' remaining rest first current =>
    have hmem : ∀ e, e ∈ s.frontier ↔ e = (p', remaining) ∨ e ∈ rest := by
      intro e
      rw [first, List.mem_cons]
    refine ⟨hgo, fun e he => hwaiting e ((hmem e).2 (.inr he)), ?_⟩
    intro p'' remaining' toTry' hphase
    cases hphase
    exact hwaiting (p', remaining) ((hmem _).2 (.inl rfl))
  | @skip s p' remaining best rest first known outdated =>
    refine ⟨hgo, fun e he => hwaiting e ?_, fun hphase => by cases hphase⟩
    rw [first]
    exact List.mem_cons_of_mem _ he
  | finish => exact ⟨hgo, hwaiting, fun hphase => by cases hphase⟩
  | @attempt s s' p' q remaining toTry tried =>
    have hq := (hfalls.leaving rfl).2 q List.mem_cons_self
    have hremaining : remaining ≤ b := hleaving rfl
    have hphase : ∀ {p'' remaining' toTry'},
        Phase.leaving p' remaining toTry = .leaving p'' remaining' toTry' → remaining' ≤ b := by
      intro p'' remaining' toTry' heq
      cases heq
      exact hremaining
    rcases attempt_falls hspends hq tried with ⟨b', hb', hk, rfl⟩ | ⟨hbest, hfrontier⟩
    · refine ⟨goesOn_reach_of_le (mem_targets.1 hq).2.2 hk hgo (hb'.trans hremaining), ?_, hphase⟩
      intro e he
      rcases mem_frontier_reach.1 he with he | ⟨-, -, rfl⟩
      · exact hwaiting e he
      · exact hb'.trans hremaining
    · refine ⟨?_, ?_, hphase⟩
      · rw [GoesOn, hbest]
        exact hgo
      · rw [hfrontier]
        exact hwaiting

/-- Budgets fall along the loop. -/
theorem Next.falls (hspends : quest.Spends) (h : Falls quest c) (next : Next quest c c') :
    Falls quest c' := by
  have hfinal {p : Hex} {b : ℤ} (hp : c.Final quest p b) : c'.Final quest p b :=
    next.final hspends h hp
  cases next with
  | @take s p remaining rest first current =>
    have hsorted := h.sorted
    rw [first] at hsorted
    obtain ⟨hfirst, hrest⟩ := List.pairwise_cons.1 hsorted
    have hmem : ∀ e ∈ rest, e ∈ s.frontier := by
      intro e he
      rw [first]
      exact List.mem_cons_of_mem _ he
    refine ⟨hrest, fun e he => h.waiting e (hmem e he), ?_⟩
    intro p' remaining' toTry' hphase
    cases hphase
    obtain ⟨hknown, honward⟩ := h.waiting (p, remaining) (by rw [first]; exact List.mem_cons_self)
    obtain ⟨best, hbest, hle⟩ := knows_iff.1 hknown
    -- the entry is up to date, so it holds the best budget
    have heq : best = remaining := le_antisymm (current best hbest) hle
    subst heq
    refine ⟨⟨⟨hbest, honward⟩, hfirst, fun hphase => ?_⟩, fun q hq => hq⟩
    cases hphase
    exact le_rfl
  | @skip s p remaining best rest first known outdated =>
    have hsorted := h.sorted
    rw [first] at hsorted
    refine ⟨hsorted.of_cons, fun e he => h.waiting e ?_, fun hphase => by cases hphase⟩
    rw [first]
    exact List.mem_cons_of_mem _ he
  | finish => exact ⟨h.sorted, h.waiting, fun hphase => by cases hphase⟩
  | @attempt s s' p q remaining toTry tried =>
    obtain ⟨hp, htargets⟩ := h.leaving rfl
    have hphase : ∀ {p' remaining' toTry'},
        Phase.leaving p remaining toTry = .leaving p' remaining' toTry' →
        Stage.Final quest ⟨.leaving p remaining toTry, s'⟩ p' remaining' ∧
          ∀ r ∈ toTry', r ∈ targets quest p' := by
      intro p' remaining' toTry' heq
      cases heq
      exact ⟨hfinal hp, fun r hr => htargets r (List.mem_cons_of_mem q hr)⟩
    rcases attempt_falls hspends (htargets q List.mem_cons_self) tried with
      ⟨b, hb, hk, rfl⟩ | ⟨hbest, hfrontier⟩
    · refine ⟨sorted_reach h.sorted q b, fun e he => ?_, hphase⟩
      rcases mem_frontier_reach.1 he with he | ⟨-, hpos, rfl⟩
      · exact ⟨knows_reach_of_knows (h.waiting e he).1, (h.waiting e he).2⟩
      · exact ⟨knows_reach s q b, .inr hpos⟩
    · refine ⟨?_, fun e he => ?_, hphase⟩
      · rw [hfrontier]
        exact h.sorted
      · rw [hfrontier] at he
        rw [knows, hbest]
        exact h.waiting e he

/-! ## What is recorded -/

/-- The findings against a hex so far. -/
def against (s : Search) (q : Hex) : List Finding := (s.blocked.get? q).getD []

theorem against_reach (hk : s.knows q b = false) (p : Hex) :
    (s.reach q b).against p = if q = p then [] else s.against p := by
  rw [against, get?_blocked_reach hk]
  split_ifs <;> rfl

theorem against_refuse (hb : s.best.contains q = false) (hf : findings ≠ []) (p : Hex) :
    (s.refuse q findings).against p =
      if q = p then addNew (s.against q) findings else s.against p := by
  rw [against, get?_blocked_refuse hb hf]
  split_ifs <;> rfl

/-- Findings against a hex, none of them twice, are each that of a step from a hex with its final
    budget. -/
structure Sourced (quest : Quest) (c : Stage) (q : Hex) (findings : List Finding) : Prop where
  nodup : findings.Nodup
  source : ∀ f ∈ findings,
    ∃ p b, c.Final quest p b ∧ q ∈ targets quest p ∧ quest.Objects q b f

theorem sourced_nil (quest : Quest) (c : Stage) (q : Hex) : Sourced quest c q [] :=
  ⟨List.nodup_nil, fun _ hf => absurd hf List.not_mem_nil⟩

theorem Sourced.mono (h : Sourced quest c q findings)
    (hfinal : ∀ p b, c.Final quest p b → c'.Final quest p b) : Sourced quest c' q findings := by
  refine ⟨h.nodup, fun f hf => ?_⟩
  obtain ⟨p, b, hp, hobjects⟩ := h.source f hf
  exact ⟨p, b, hfinal p b hp, hobjects⟩

theorem Sourced.addNew {old : List Finding} (h : Sourced quest c q old)
    (hp : c.Final quest p b) (hq : q ∈ targets quest p)
    (henter : quest.enter q b = .ok (.blocked findings)) :
    Sourced quest c q (addNew old findings) := by
  refine ⟨nodup_addNew h.nodup, fun f hf => ?_⟩
  rcases mem_addNew.1 hf with hold | hnew
  · exact h.source f hold
  · exact ⟨p, b, hp, hq, findings, henter, hnew⟩

/-- A step onto a hex with a budget has told what it has to: the hex is reached, or the findings of
    the step are among those against it. -/
def Answered (quest : Quest) (s : Search) (q : Hex) (b : ℤ) : Prop :=
  (∃ best, s.best.get? q = some best) ∨
    ∃ findings, quest.enter q b = .ok (.blocked findings) ∧ ∀ f ∈ findings, f ∈ s.against q

theorem answered_reach (hk : s.knows q b = false) {p : Hex} {a : ℤ} (h : s.Answered quest p a) :
    (s.reach q b).Answered quest p a := by
  by_cases hp : q = p
  · exact .inl ⟨b, by rw [get?_reach, if_pos ⟨hp, hk⟩]⟩
  · rw [Answered, get?_reach, if_neg fun hs => hp hs.1, against_reach hk, if_neg hp]
    exact h

theorem answered_refuse (hb : s.best.contains q = false) (hf : findings ≠ []) {p : Hex} {a : ℤ}
    (h : s.Answered quest p a) : (s.refuse q findings).Answered quest p a := by
  rw [Answered, best_refuse, against_refuse hb hf]
  refine h.imp_right fun ⟨found, henter, hfound⟩ => ⟨found, henter, fun f hmem => ?_⟩
  split_ifs with hp
  · subst hp
    exact mem_addNew.2 (.inl (hfound f hmem))
  · exact hfound f hmem

/-- The findings against a hex are those of steps from hexes with their final budgets; and every
    step from where the unit goes on is still to be tried, or has told its findings. -/
structure Records (quest : Quest) (c : Stage) : Prop where
  sourced : ∀ q, Sourced quest c q (c.search.against q)
  told : Told quest c (c.search.Answered quest)

theorem records_opening (quest : Quest) : Records quest (opening quest) :=
  ⟨sourced_nil quest _, told_opening quest _⟩

section

variable (h : Records quest ⟨.leaving p remaining (q :: toTry), s⟩)
  (hfinal : ∀ p' b', Stage.Final quest ⟨.leaving p remaining (q :: toTry), s⟩ p' b' →
    Stage.Final quest ⟨.leaving p remaining toTry, s'⟩ p' b')

include h hfinal

/-- An attempt that changes nothing. -/
theorem Records.pass (hs : s' = s) (hnow : s.Answered quest q remaining) :
    Records quest ⟨.leaving p remaining toTry, s'⟩ := by
  subst hs
  exact ⟨fun q' => (h.sourced q').mono hfinal,
    h.told.attempt (fun _ _ hanswered => hanswered) hnow (fun _ _ => .inr) fun _ he => he⟩

theorem Records.reach (hs : s' = s.reach q b) (hq : q ≠ quest.start) (hk : s.knows q b = false) :
    Records quest ⟨.leaving p remaining toTry, s'⟩ := by
  subst hs
  have hreached : (s.reach q b).Answered quest q remaining :=
    .inl ⟨b, by rw [get?_reach, if_pos ⟨rfl, hk⟩]⟩
  refine ⟨fun q' => ?_, h.told.reach (fun _ _ => answered_reach hk) hreached hq hk⟩
  dsimp only
  rw [against_reach hk]
  split_ifs
  · exact sourced_nil quest _ q'
  · exact (h.sourced q').mono hfinal

theorem Records.refuse (hs : s' = s.refuse q findings)
    (hp : Stage.Final quest ⟨.leaving p remaining (q :: toTry), s⟩ p remaining)
    (hq : q ∈ targets quest p) (henter : quest.enter q remaining = .ok (.blocked findings))
    (hb : s.best.contains q = false) (hf : findings ≠ []) :
    Records quest ⟨.leaving p remaining toTry, s'⟩ := by
  subst hs
  have hrefused : (s.refuse q findings).Answered quest q remaining := by
    refine .inr ⟨findings, henter, fun f hmem => ?_⟩
    rw [against_refuse hb hf, if_pos rfl]
    exact mem_addNew.2 (.inr hmem)
  refine ⟨fun q' => ?_, h.told.refuse (fun _ _ => answered_refuse hb hf) hrefused⟩
  dsimp only
  rw [against_refuse hb hf]
  split_ifs with heq
  · subst heq
    exact ((h.sourced q).mono hfinal).addNew (hfinal p remaining hp) hq henter
  · exact (h.sourced q').mono hfinal

end

/-- The findings kept are those of the steps from hexes with final budgets. -/
theorem Next.records (hspends : quest.Spends) (hfalls : Falls quest c) (h : Records quest c)
    (next : Next quest c c') : Records quest c' := by
  have hfinal : ∀ p b, c.Final quest p b → c'.Final quest p b :=
    fun p b hp => next.final hspends hfalls hp
  cases next with
  | take first current => exact ⟨fun q => (h.sourced q).mono hfinal, h.told.take first⟩
  | skip first known outdated =>
    exact ⟨fun q => (h.sourced q).mono hfinal, h.told.skip first known outdated⟩
  | finish => exact ⟨fun q => (h.sourced q).mono hfinal, h.told.finish⟩
  | @attempt s s' p q remaining toTry tried =>
    obtain ⟨hp, htargets⟩ := hfalls.leaving rfl
    have hq := htargets q List.mem_cons_self
    rcases attempt_cases tried with ⟨n, -, ⟨hknown, hs⟩ | ⟨hnew, hs⟩⟩ |
      ⟨findings, henter, ⟨hno, hs⟩ | ⟨hb, hf, hs⟩⟩
    · obtain ⟨best, hbest, -⟩ := knows_iff.1 hknown
      exact h.pass hfinal hs (.inl ⟨best, hbest⟩)
    · exact h.reach hfinal hs (mem_targets.1 hq).2.2 hnew
    · refine h.pass hfinal hs ?_
      rcases hno with hbest | rfl
      · exact .inl (Option.isSome_iff_exists.1 hbest)
      · exact .inr ⟨[], henter, fun f hmem => absurd hmem List.not_mem_nil⟩
    · exact h.refuse hfinal hs hp hq henter hb hf

/-! ## The end of a search -/

theorem records_search (hspends : quest.Spends) (h : search quest = .ok s) :
    Records quest ⟨.looking, s⟩ ∧ s.frontier = [] := by
  obtain ⟨log, hleads, hempty⟩ := leads_of_search h
  have hboth := @Leads.keeps quest _ _ log (fun _ c => Falls quest c ∧ Records quest c)
    (fun h next => ⟨next.falls hspends h.1, next.records hspends h.1 h.2⟩) hleads []
    ⟨falls_opening quest, records_opening quest⟩
  exact ⟨hboth.2, hempty⟩

/-- In the end a step from where the unit goes on onto a hex that is not reached has failed. -/
theorem Records.exists_blocked (h : Records quest ⟨.looking, s⟩) (hempty : s.frontier = [])
    (hp : s.GoesOn quest p b) (hq : q ∈ targets quest p) (hmissed : s.best.get? q = none) :
    ∃ findings, quest.enter q b = .ok (.blocked findings) ∧ ∀ f ∈ findings, f ∈ s.against q := by
  rcases h.told.complete hempty hp hq with ⟨best, hbest⟩ | hanswered
  · dsimp only at hbest
    rw [hmissed] at hbest
    cases hbest
  · exact hanswered

/-- In the end the findings against a hex that is not reached are those of the steps onto it, from
    wherever the unit goes on. -/
theorem Records.mem_against_iff (h : Records quest ⟨.looking, s⟩) (hempty : s.frontier = [])
    (hmissed : s.best.get? q = none) {f : Finding} :
    f ∈ s.against q ↔
      ∃ p b, s.GoesOn quest p b ∧ q ∈ targets quest p ∧ quest.Objects q b f := by
  constructor
  · intro hf
    obtain ⟨p, b, hp, hobjects⟩ := (h.sourced q).source f hf
    exact ⟨p, b, hp.goesOn, hobjects⟩
  · rintro ⟨p, b, hp, hq, findings, henter, hf⟩
    obtain ⟨found, hfound, hall⟩ := h.exists_blocked hempty hp hq hmissed
    rw [henter] at hfound
    cases hfound
    exact hall f hf

end Search

/-- A unit goes on, as its moves have it, from its start with the initial budget, and from every hex
    that it reaches with some budget left. -/
def MoveSet.GoesOn (moves : MoveSet) (start : Hex) (budget : ℤ) (p : Hex) (b : ℤ) : Prop :=
  p = start ∧ b = budget ∨ moves.budgets.get? p = some b ∧ 0 < b

theorem MoveSet.goesOn_ofSearch (quest : Quest) {s : Search} (unit : String)
    (hstart : s.best.get? quest.start = some quest.budget) (p : Hex) (b : ℤ) :
    (ofSearch unit quest.start s).GoesOn quest.start quest.budget p b ↔ s.GoesOn quest p b := by
  rw [GoesOn, Search.GoesOn]
  by_cases hp : p = quest.start
  · subst hp
    rw [hstart, ofSearch, Table.get?_erase, if_pos rfl]
    simp [eq_comm]
  · rw [get?_budgets_ofSearch hp]
    simp [hp]

/-- Where no hex that can be entered gives anything back, no step leaves more than there was. -/
theorem Quest.On.spends {quest : Quest} {t : Terrain} (on : quest.On t)
    (hcost : ∀ p, Grid.inBounds p t.radius = true → p ≠ t.start → t.barred p = false →
      0 ≤ t.cost p) : quest.Spends := by
  intro q b n hmap haway henter
  obtain ⟨hbar, -, rfl⟩ := (on.enter henter n).1 rfl
  have := hcost q (on.radius ▸ hmap) (on.start ▸ haway) hbar
  omega

/-- Where no hex of the map that can be entered gives anything back, the findings against a hex that
    is not reached are, each once, those of the steps onto it from the start with the initial
    budget and from the neighbours that are reached with some budget left, with that budget. All of
    these steps fail. -/
theorem findings_final (m : Mover) (board : Board) (unit : String) (start : Hex)
    (budget radius : ℤ)
    (hcost : ∀ p, Grid.inBounds p radius = true → p ≠ start →
      m.barred (board.dataOn p) = false → 0 ≤ m.entryCost (board.dataOn p))
    {s : Search} (h : search (m.quest board start budget radius) = .ok s) {p : Hex}
    (hmap : Grid.inBounds p radius = true) (haway : p ≠ start)
    (hmissed : p ∉ (MoveSet.ofSearch unit start s).valid) :
    ((MoveSet.ofSearch unit start s).findingsAt p).Nodup ∧
    (∀ f, f ∈ (MoveSet.ofSearch unit start s).findingsAt p ↔
      ∃ q b findings, (MoveSet.ofSearch unit start s).GoesOn start budget q b ∧
        q.isAdjacent p = true ∧
        evaluate m (board.dataOn p) b p = .ok (.blocked findings) ∧ f ∈ findings) ∧
    ∀ q b, (MoveSet.ofSearch unit start s).GoesOn start budget q b → q.isAdjacent p = true →
      ∃ findings, evaluate m (board.dataOn p) b p = .ok (.blocked findings) := by
  obtain ⟨hrecords, hempty⟩ :=
    Search.records_search ((m.quest_on board start budget radius).spends hcost) h
  have hstart : s.best.get? start = some budget :=
    (Search.tracks_search (m.quest_on board start budget radius) h).start
  have hnone : s.best.get? p = none := by
    rw [Option.eq_none_iff_forall_ne_some]
    intro b hb
    exact hmissed (MoveSet.mem_valid_ofSearch.2 ⟨haway, b, hb⟩)
  have hgoesOn : ∀ q b, (MoveSet.ofSearch unit start s).GoesOn start budget q b ↔
      s.GoesOn (m.quest board start budget radius) q b :=
    MoveSet.goesOn_ofSearch (m.quest board start budget radius) unit hstart
  have htarget : ∀ q, p ∈ Search.targets (m.quest board start budget radius) q ↔
      q.isAdjacent p = true := by
    intro q
    rw [Hex.isAdjacent_iff_mem_neighbors]
    exact ⟨fun hq => (Search.mem_targets.1 hq).1,
      fun hadj => Search.mem_targets.2 ⟨hadj, hmap, haway⟩⟩
  have hfails : ∀ q b, s.GoesOn (m.quest board start budget radius) q b →
      p ∈ Search.targets (m.quest board start budget radius) q → p.hasKey = true ∧
        ∃ findings, evaluate m (board.dataOn p) b p = .ok (.blocked findings) := by
    intro q b hq hp
    obtain ⟨findings, henter, -⟩ := hrecords.exists_blocked hempty hq hp hnone
    obtain ⟨hkey, hfails⟩ := Mover.enter_eq_ok_iff.1 henter
    exact ⟨hkey, findings, hfails⟩
  refine ⟨(hrecords.sourced p).nodup, fun f => ?_, fun q b hq hadj => ?_⟩
  · have hagainst := hrecords.mem_against_iff hempty hnone (f := f)
    simp only [hgoesOn, ← htarget]
    refine hagainst.trans ⟨?_, ?_⟩
    · rintro ⟨q, b, hq, hp, findings, henter, hf⟩
      exact ⟨q, b, findings, hq, hp, (Mover.enter_eq_ok_iff.1 henter).2, hf⟩
    · rintro ⟨q, b, findings, hq, hp, hblocked, hf⟩
      exact ⟨q, b, hq, hp, findings, Mover.enter_eq_ok_iff.2 ⟨(hfails q b hq hp).1, hblocked⟩, hf⟩
  · exact (hfails q b ((hgoesOn q b).1 hq) ((htarget q).2 hadj)).2

/-! ## A river without an inn -/

/-- A ford in the north and a ferry in the west. -/
def River.plainBoard : Board :=
  (Board.empty.put ⟨0, -1⟩ (River.tile 2 0)).put ⟨-1, 0⟩ (River.tile 4 0)

/-- The traveller has three left next to the ferry at its start, and one on the ford; the ferry asks
    for four. There are findings against it for both budgets. -/
theorem findings_final_river :
    ∃ s, search (River.mover.quest River.plainBoard ⟨0, 0⟩ 3 1) = .ok s ∧
      ((MoveSet.ofSearch "traveller" ⟨0, 0⟩ s).findingsAt ⟨-1, 0⟩).Nodup ∧
      ∀ b ∈ [3, 1], ∃ findings,
        evaluate River.mover (River.plainBoard.dataOn ⟨-1, 0⟩) b ⟨-1, 0⟩ =
            .ok (.blocked findings) ∧
          ∀ f ∈ findings, f ∈ (MoveSet.ofSearch "traveller" ⟨0, 0⟩ s).findingsAt ⟨-1, 0⟩ := by
  obtain ⟨s, hs⟩ := Outcome.exists_eq_ok_of_isOk
    (x := search (River.mover.quest River.plainBoard ⟨0, 0⟩ 3 1)) (by decide)
  have hfound : ∀ s', (search (River.mover.quest River.plainBoard ⟨0, 0⟩ 3 1)).toOption = some s' →
      ⟨-1, 0⟩ ∉ (MoveSet.ofSearch "traveller" ⟨0, 0⟩ s').valid ∧
      (MoveSet.ofSearch "traveller" ⟨0, 0⟩ s').budgets.get? ⟨0, -1⟩ = some 1 := by
    intro s' hs'
    cases hs'
    decide
  obtain ⟨hferry, hford⟩ := hfound s (by rw [hs]; rfl)
  have hcost : ∀ p ∈ Grid.positions 1,
      0 ≤ River.mover.entryCost (River.plainBoard.dataOn p) := by decide
  obtain ⟨hnodup, hexact, hfails⟩ := findings_final River.mover River.plainBoard "traveller" ⟨0, 0⟩
    3 1 (fun p hp _ _ => hcost p (Grid.mem_positions.2 hp)) hs (p := ⟨-1, 0⟩) (by decide)
    (by decide) hferry
  have hleft : ∀ q b, (MoveSet.ofSearch "traveller" ⟨0, 0⟩ s).GoesOn ⟨0, 0⟩ 3 q b →
      q.isAdjacent ⟨-1, 0⟩ = true → ∃ findings,
        evaluate River.mover (River.plainBoard.dataOn ⟨-1, 0⟩) b ⟨-1, 0⟩ =
            .ok (.blocked findings) ∧
          ∀ f ∈ findings, f ∈ (MoveSet.ofSearch "traveller" ⟨0, 0⟩ s).findingsAt ⟨-1, 0⟩ := by
    intro q b hq hadj
    obtain ⟨findings, henter⟩ := hfails q b hq hadj
    exact ⟨findings, henter, fun f hf => (hexact f).2 ⟨q, b, findings, hq, hadj, henter, hf⟩⟩
  refine ⟨s, hs, hnodup, fun b hb => ?_⟩
  rcases List.mem_pair.1 hb with rfl | rfl
  · exact hleft ⟨0, 0⟩ 3 (.inl ⟨rfl, rfl⟩) (by decide)
  · exact hleft ⟨0, -1⟩ 1 (.inr ⟨hford, by decide⟩) (by decide)

end HexRules.Movement
