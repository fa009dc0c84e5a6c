import HexRules.Proofs.Movement.Turns
import HexRules.Proofs.Movement.Walk
import Mathlib.Order.Bounds.Basic

/-!
# The search is exact

Costs may be negative and budgets are capped, so a hex can be met and left several times, and an
entry of the frontier may be out of date when its turn comes. The search is right all the same: it
reaches the hexes that walks end on, each with the best budget that a walk leaves there.

`Search.Tracks` holds between any two attempts of a search: every best budget is that of a walk, and
every hex that can be left with its best budget waits on the frontier, is the one that is being
left, or is closed: all that can be reached from it in a step is known. When the frontier is empty
all is closed, and then no walk beats what is known.

Results:
* `Search.tracks_turn`: a turn keeps the invariant.
* `Search.knows_of_walk`: once nothing waits any more, what a walk arrives with is known.
* `mem_valid_iff_of_search`: a search reaches the hexes that some walk arrives at.
* `search_exact`: the hexes and best budgets of a search are those of the walks.
-/

namespace HexRules.Movement

namespace Search

variable {quest : Quest} {t : Terrain} {s s' : Search} {now : List (Hex × ℤ)} {p q : Hex}
  {b c remaining : ℤ}

/-! ## What is known grows -/

theorem knows_mono (h : s.knows p b = true) (hc : c ≤ b) : s.knows p c = true := by
  obtain ⟨known, hs, hb⟩ := knows_iff.1 h
  exact knows_iff.2 ⟨known, hs, by omega⟩

theorem get?_begin (quest : Quest) (p : Hex) :
    (begin quest).best.get? p = if quest.start = p then some quest.budget else none := by
  rw [begin, Table.get?_ofList]
  rfl

theorem get?_reach (s : Search) (p q : Hex) (b : ℤ) :
    (s.reach p b).best.get? q =
      if p = q ∧ s.knows p b = false then some b else s.best.get? q := by
  unfold reach
  by_cases hk : s.knows p b = true
  · simp [hk]
  · rw [if_neg hk, Table.get?_insert]
    simp [hk]

theorem knows_reach (s : Search) (p : Hex) (b : ℤ) : (s.reach p b).knows p b = true := by
  by_cases hk : s.knows p b = true
  · rwa [reach, if_pos hk]
  · refine knows_iff.2 ⟨b, ?_, le_rfl⟩
    rw [get?_reach, if_pos ⟨rfl, by simpa using hk⟩]

theorem knows_reach_of_knows (h : s.knows q c = true) : (s.reach p b).knows q c = true := by
  obtain ⟨known, hs, hc⟩ := knows_iff.1 h
  rw [knows_iff, get?_reach]
  split_ifs with hp
  · obtain ⟨rfl, hk⟩ := hp
    refine ⟨b, rfl, ?_⟩
    by_contra hlt
    rw [knows_mono h (by omega)] at hk
    cases hk
  · exact ⟨known, hs, hc⟩

theorem mem_frontier_reach {e : Hex × ℤ} :
    e ∈ (s.reach p b).frontier ↔
      e ∈ s.frontier ∨ (s.knows p b = false ∧ 0 < b ∧ e = (p, b)) := by
  unfold reach
  by_cases hk : s.knows p b = true
  · simp [hk]
  · by_cases hb : 0 < b
    · simp [hk, hb, mem_enqueue, or_comm]
    · simp [hk, hb]

theorem best_refuse (s : Search) (p : Hex) (findings : List Finding) :
    (s.refuse p findings).best = s.best := by
  unfold refuse
  split <;> rfl

theorem frontier_refuse (s : Search) (p : Hex) (findings : List Finding) :
    (s.refuse p findings).frontier = s.frontier := by
  unfold refuse
  split <;> rfl

theorem knows_refuse (s : Search) (p q : Hex) (findings : List Finding) (c : ℤ) :
    (s.refuse p findings).knows q c = s.knows q c := by
  unfold knows
  rw [best_refuse]

/-! ## The invariant -/

/-- Whatever a step from a hex with a budget leads to is known. -/
def Closed (t : Terrain) (s : Search) (p : Hex) (b : ℤ) : Prop :=
  ∀ p' b', t.Step p b p' b' → s.knows p' b' = true

/-- A search is on the track of a terrain, while the entries `now` are being worked on. -/
structure Tracks (t : Terrain) (now : List (Hex × ℤ)) (s : Search) : Prop where
  start : s.best.get? t.start = some t.budget
  arrived : ∀ {p b}, s.best.get? p = some b → p ≠ t.start → b ∈ t.arrivals p
  leaves : ∀ e ∈ s.frontier, t.Leaves e.1 e.2
  settled : ∀ {p b}, s.best.get? p = some b → (p = t.start ∨ 0 < b) →
    (p, b) ∈ now ++ s.frontier ∨ s.Closed t p b

theorem tracks_begin (h : quest.On t) : (begin quest).Tracks t [] := by
  have hbest : ∀ p, (begin quest).best.get? p = if t.start = p then some t.budget else none := by
    intro p
    rw [get?_begin, h.start, h.budget]
  refine ⟨by rw [hbest, if_pos rfl], ?_, ?_, ?_⟩
  · intro p b hp hne
    rw [hbest, if_neg (Ne.symm hne)] at hp
    cases hp
  · intro e he
    rw [begin, List.mem_singleton] at he
    rw [he, h.start, h.budget]
    exact t.leaves_start
  · intro p b hp _
    rw [hbest] at hp
    split_ifs at hp with hstart
    cases hp
    left
    simp [begin, ← hstart, h.start, h.budget]

theorem tracks_reach (h : s.Tracks t now) (hq : b ∈ t.arrivals q) :
    (s.reach q b).Tracks t now := by
  have hne := Terrain.ne_start_of_mem_arrivals hq
  refine ⟨?_, ?_, ?_, ?_⟩
  · rw [get?_reach, if_neg (fun hp => hne hp.1)]
    exact h.start
  · intro p c hp hps
    rw [get?_reach] at hp
    split_ifs at hp with hpq
    · cases hp
      exact hpq.1 ▸ hq
    · exact h.arrived hp hps
  · intro e he
    rcases mem_frontier_reach.1 he with he | ⟨-, hb, rfl⟩
    · exact h.leaves e he
    · exact Terrain.leaves_of_mem_arrivals hq hb
  · intro p c hp hleave
    rw [get?_reach] at hp
    split_ifs at hp with hpq
    · -- the hex that was met anew waits on the frontier
      cases hp
      obtain ⟨rfl, hk⟩ := hpq
      left
      have hb : 0 < b := hleave.resolve_left hne
      exact List.mem_append_right now (mem_frontier_reach.2 (.inr ⟨hk, hb, rfl⟩))
    · rcases h.settled hp hleave with hwait | hclosed
      · left
        rcases List.mem_append.1 hwait with hnow | hfrontier
        · exact List.mem_append_left _ hnow
        · exact List.mem_append_right now (mem_frontier_reach.2 (.inl hfrontier))
      · exact .inr fun p' b' hstep => knows_reach_of_knows (hclosed p' b' hstep)

theorem tracks_refuse (h : s.Tracks t now) (findings : List Finding) :
    (s.refuse q findings).Tracks t now := by
  refine ⟨?_, ?_, ?_, ?_⟩
  · rw [best_refuse]
    exact h.start
  · intro p b hp
    rw [best_refuse] at hp
    exact h.arrived hp
  · rw [frontier_refuse]
    exact h.leaves
  · intro p b hp hleave
    rw [best_refuse] at hp
    rw [frontier_refuse]
    refine (h.settled hp hleave).imp_right fun hclosed p' b' hstep => ?_
    rw [knows_refuse]
    exact hclosed p' b' hstep

/-! ## Leaving a hex -/

/-- An attempt keeps the invariant, forgets nothing, and learns the step that it tries. -/
theorem tracks_attempt (on : quest.On t) (h : s.Tracks t now) (hp : t.Leaves p remaining)
    (hq : q ∈ (Grid.neighborsInBounds p quest.radius).filter (· ≠ quest.start))
    (ha : attempt quest remaining s q = .ok s') :
    s'.Tracks t now ∧ (∀ r c, s.knows r c = true → s'.knows r c = true) ∧
      ∀ b, t.Step p remaining q b → s'.knows q b = true := by
  obtain ⟨hadj, hmap, haway⟩ := mem_targets.1 hq
  rw [on.radius] at hmap
  rw [on.start] at haway
  obtain ⟨verdict, henter, hm⟩ := Outcome.bind_eq_ok_iff.1 ha
  have hverdict := on.enter henter
  cases hm
  cases verdict with
  | «open» n =>
    obtain ⟨hbar, hcov, rfl⟩ := (hverdict n).1 rfl
    have hstep : t.Step p remaining q (min (remaining - t.cost q) t.budget) :=
      ⟨hadj, hmap, haway, hbar, hcov, rfl⟩
    rw [meet, on.budget]
    refine ⟨tracks_reach h (hp.arrive hstep), fun r c => knows_reach_of_knows, ?_⟩
    intro b hb
    rw [hb.left]
    exact knows_reach s q _
  | blocked findings =>
    rw [meet]
    refine ⟨tracks_refuse h findings, fun r c hk => by rwa [knows_refuse], ?_⟩
    intro b hb
    have := (hverdict (remaining - t.cost q)).2 ⟨hb.notBarred, hb.covered, rfl⟩
    cases this

theorem tracks_attempts (on : quest.On t) (hp : t.Leaves p remaining) {qs : List Hex}
    (hqs : ∀ q ∈ qs, q ∈ (Grid.neighborsInBounds p quest.radius).filter (· ≠ quest.start))
    (h : s.Tracks t now) (ha : qs.foldlM (attempt quest remaining) s = .ok s') :
    s'.Tracks t now ∧ (∀ r c, s.knows r c = true → s'.knows r c = true) ∧
      ∀ q ∈ qs, ∀ b, t.Step p remaining q b → s'.knows q b = true := by
  induction qs generalizing s with
  | nil =>
    cases ha
    exact ⟨h, fun _ _ hk => hk, fun q hq => absurd hq List.not_mem_nil⟩
  | cons q rest ih =>
    obtain ⟨next, hnext, hrest⟩ := Outcome.foldlM_cons_eq_ok_iff.1 ha
    obtain ⟨hkeep, hgrow, hlearn⟩ := tracks_attempt on h hp (hqs q List.mem_cons_self) hnext
    obtain ⟨hkeep', hgrow', hlearn'⟩ :=
      ih (fun r hr => hqs r (List.mem_cons_of_mem q hr)) hkeep hrest
    refine ⟨hkeep', fun r c hk => hgrow' r c (hgrow r c hk), ?_⟩
    intro r hr b hb
    rcases List.mem_cons.1 hr with rfl | hr
    · exact hgrow' r b (hlearn b hb)
    · exact hlearn' r hr b hb

/-- The hex that was left is closed afterwards. -/
theorem closed_expand (on : quest.On t) (hp : t.Leaves p remaining) (h : s.Tracks t now)
    (he : expand quest p remaining s = .ok s') :
    s'.Tracks t now ∧ s'.Closed t p remaining := by
  obtain ⟨hkeep, -, hlearn⟩ := tracks_attempts on hp (fun q hq => hq) h he
  refine ⟨hkeep, fun q b hstep => hlearn q (mem_targets.2 ?_) b hstep⟩
  rw [on.radius, on.start]
  exact ⟨hstep.adjacent, hstep.onMap, hstep.away⟩

/-! ## Turns -/

theorem tracks_turn (on : quest.On t) {rest : List (Hex × ℤ)} (h : s.Tracks t [])
    (hcons : s.frontier = (p, remaining) :: rest)
    (hturn : turn quest p remaining { s with frontier := rest } = .ok s') : s'.Tracks t [] := by
  have hp : t.Leaves p remaining := by
    apply h.leaves (p, remaining)
    rw [hcons]
    exact List.mem_cons_self
  have htaken : Tracks t [(p, remaining)] { s with frontier := rest } := by
    refine ⟨h.start, h.arrived, fun e he => h.leaves e ?_, fun hbest hleave => ?_⟩
    · rw [hcons]
      exact List.mem_cons_of_mem _ he
    · have := h.settled hbest hleave
      rwa [hcons] at this
  -- the entry that was taken need not wait any more if all it leads to is known
  have hdone : ∀ {next : Search}, next.Tracks t [(p, remaining)] →
      (next.best.get? p = some remaining → next.Closed t p remaining) → next.Tracks t [] := by
    intro next hnext hclosed
    refine ⟨hnext.start, hnext.arrived, hnext.leaves, fun hbest hleave => ?_⟩
    rcases hnext.settled hbest hleave with hwait | hsettled
    · rcases List.mem_cons.1 hwait with heq | hfrontier
      · cases heq
        exact .inr (hclosed hbest)
      · exact .inl hfrontier
    · exact .inr hsettled
  have hexpand : ∀ {next : Search},
      expand quest p remaining { s with frontier := rest } = .ok next → next.Tracks t [] := by
    intro next hnext
    obtain ⟨hkeep, hclosed⟩ := closed_expand on hp htaken hnext
    exact hdone hkeep fun _ => hclosed
  unfold turn at hturn
  split at hturn
  · rename_i best hbest
    split_ifs at hturn with hstale
    · cases hturn
      refine hdone htaken fun hnow => ?_
      dsimp only at hbest hnow
      rw [hbest, Option.some.injEq] at hnow
      omega
    · exact hexpand hturn
  · exact hexpand hturn

theorem tracks_run (on : quest.On t) {turns : ℕ} (h : s.Tracks t [])
    (hrun : run quest turns s = .ok s') : s'.Tracks t [] := by
  induction turns generalizing s with
  | zero =>
    cases hrun
    exact h
  | succ turns ih =>
    unfold run at hrun
    split at hrun
    · cases hrun
      exact h
    · rename_i p remaining rest hcons
      obtain ⟨next, hturn, hrest⟩ := Outcome.bind_eq_ok_iff.1 hrun
      exact ih (tracks_turn on h hcons hturn) hrest

/-! ## The end of a search -/

theorem knows_of_walk (h : s.Tracks t []) (hend : s.frontier = []) {n : ℕ} (hw : t.Walk n p b) :
    s.knows p b = true := by
  induction hw with
  | start => exact knows_iff.2 ⟨t.budget, h.start, le_rfl⟩
  | @step n p p' b b' walk onward step ih =>
    obtain ⟨known, hbest, hb⟩ := knows_iff.1 ih
    have hleave : p = t.start ∨ 0 < known := by
      by_cases hn : n = 0
      · subst hn
        cases walk
        exact .inl rfl
      · have := onward hn
        exact .inr (by omega)
    rcases h.settled hbest hleave with hwait | hclosed
    · rw [hend] at hwait
      cases hwait
    · obtain ⟨hbetter, hle⟩ := step.mono hb
      exact knows_mono (hclosed _ _ hbetter) hle

theorem tracks_search (on : quest.On t) (h : search quest = .ok s) : s.Tracks t [] :=
  tracks_run on (tracks_begin on) h

/-- A search reaches a hex other than the start with the best budget that a walk leaves there. -/
theorem get?_eq_some_iff_of_search (on : quest.On t) (h : search quest = .ok s)
    (hp : p ≠ t.start) : s.best.get? p = some b ↔ IsGreatest (t.arrivals p) b := by
  have htracks := tracks_search on h
  have hknown : ∀ c ∈ t.arrivals p, s.knows p c = true := by
    rintro c ⟨n, hw⟩
    exact knows_of_walk htracks (frontier_search h) hw
  constructor
  · intro hbest
    refine ⟨htracks.arrived hbest hp, fun c hc => ?_⟩
    obtain ⟨known, hs, hle⟩ := knows_iff.1 (hknown c hc)
    rw [hbest, Option.some.injEq] at hs
    omega
  · rintro ⟨hb, hmax⟩
    obtain ⟨known, hs, hle⟩ := knows_iff.1 (hknown b hb)
    have := hmax (htracks.arrived hs hp)
    rw [hs, Option.some.injEq]
    omega

end Search

theorem MoveSet.get?_budgets_ofSearch {start p : Hex} (hp : p ≠ start) (unit : String)
    (s : Search) : (ofSearch unit start s).budgets.get? p = s.best.get? p := by
  rw [ofSearch, Table.get?_erase, if_neg (Ne.symm hp)]

/-- A unit reaches the hexes that some walk arrives at. -/
theorem mem_valid_iff_of_search {m : Mover} {board : Board} (unit : String) {start p : Hex}
    {budget radius : ℤ} {s : Search} (h : search (m.quest board start budget radius) = .ok s) :
    p ∈ (MoveSet.ofSearch unit start s).valid ↔
      ((m.terrain board start budget radius).arrivals p).Nonempty := by
  have on := m.quest_on board start budget radius
  rw [MoveSet.mem_valid_ofSearch]
  constructor
  · rintro ⟨hp, b, hb⟩
    exact ⟨b, (Search.tracks_search on h).arrived hb hp⟩
  · rintro ⟨b, n, hw⟩
    obtain ⟨known, hs, -⟩ :=
      Search.knows_iff.1 (Search.knows_of_walk (Search.tracks_search on h) (frontier_search h) hw)
    exact ⟨Terrain.ne_start_of_mem_arrivals ⟨n, hw⟩, known, hs⟩

/-- The budgets are the best ones that walks leave. -/
theorem get?_budgets_iff_of_search {m : Mover} {board : Board} (unit : String) {start p : Hex}
    {budget radius b : ℤ} {s : Search} (h : search (m.quest board start budget radius) = .ok s) :
    (MoveSet.ofSearch unit start s).budgets.get? p = some b ↔
      IsGreatest ((m.terrain board start budget radius).arrivals p) b := by
  have on := m.quest_on board start budget radius
  rw [MoveSet.ofSearch, Table.get?_erase]
  by_cases hp : start = p
  · rw [if_pos hp]
    refine ⟨fun hb => (by cases hb), fun hb => ?_⟩
    exact absurd hp.symm (Terrain.ne_start_of_mem_arrivals hb.1)
  · rw [if_neg hp]
    exact Search.get?_eq_some_iff_of_search on h (Ne.symm hp)

/-- A unit's moves are the ends of its walks of one step or more, each with the best budget that
    such a walk leaves there. The start may lie off the map, and costs may be negative. -/
theorem search_exact (m : Mover) (board : Board) (unit : String) (start : Hex) (budget radius : ℤ)
    {s : Search} (h : search (m.quest board start budget radius) = .ok s) :
    (∀ p, p ∈ (MoveSet.ofSearch unit start s).valid ↔
      ∃ n b, (m.terrain board start budget radius).Walk (n + 1) p b) ∧
    (MoveSet.ofSearch unit start s).budgets.keys = (MoveSet.ofSearch unit start s).valid ∧
    ∀ p b, (MoveSet.ofSearch unit start s).budgets.get? p = some b ↔
      IsGreatest {c | ∃ n, (m.terrain board start budget radius).Walk (n + 1) p c} b := by
  refine ⟨fun p => ?_, rfl, fun p b => get?_budgets_iff_of_search unit h⟩
  rw [mem_valid_iff_of_search unit h]
  constructor
  · rintro ⟨b, n, hw⟩
    exact ⟨n, b, hw⟩
  · rintro ⟨n, b, hw⟩
    exact ⟨b, n, hw⟩

/-- From off the map a traveller gets over the ford, and with all of the budget to the inn, which
    gives back more than the ford takes; no walk leads to the ferry. -/
theorem search_exact_river :
    ∃ s, search (River.mover.quest River.board ⟨2, 0⟩ 3 1) = .ok s ∧
      IsGreatest {c | ∃ n, (River.mover.terrain River.board ⟨2, 0⟩ 3 1).Walk (n + 1) ⟨1, 0⟩ c} 1 ∧
      IsGreatest {c | ∃ n, (River.mover.terrain River.board ⟨2, 0⟩ 3 1).Walk (n + 1) ⟨1, -1⟩ c} 3 ∧
      ¬∃ n b, (River.mover.terrain River.board ⟨2, 0⟩ 3 1).Walk (n + 1) ⟨-1, 0⟩ b := by
  obtain ⟨s, hs⟩ := Outcome.exists_eq_ok_of_isOk
    (x := search (River.mover.quest River.board ⟨2, 0⟩ 3 1)) (by decide)
  have hfound : ∀ s', (search (River.mover.quest River.board ⟨2, 0⟩ 3 1)).toOption = some s' →
      (MoveSet.ofSearch "traveller" ⟨2, 0⟩ s').budgets.get? ⟨1, 0⟩ = some 1 ∧
      (MoveSet.ofSearch "traveller" ⟨2, 0⟩ s').budgets.get? ⟨1, -1⟩ = some 3 ∧
      ⟨-1, 0⟩ ∉ (MoveSet.ofSearch "traveller" ⟨2, 0⟩ s').valid := by
    intro s' hs'
    cases hs'
    decide
  obtain ⟨hford, hinn, hferry⟩ := hfound s (by rw [hs]; rfl)
  obtain ⟨hvalid, -, hbest⟩ := search_exact River.mover River.board "traveller" ⟨2, 0⟩ 3 1 hs
  exact ⟨s, hs, (hbest _ _).1 hford, (hbest _ _).1 hinn, fun hw => hferry ((hvalid _).2 hw)⟩

end HexRules.Movement
