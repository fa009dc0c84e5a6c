import HexRules.Movement
import HexRules.Proofs.Grid.Size
import HexRules.Proofs.Outcome

/-!
# The search ends

A turn takes one hex off the frontier and may put others on it. A hex is put there only with more
budget than before, and with no more than the initial one: so what the best budgets can still rise
by, over all hexes of the map, shrinks by at least one with every entry. `Search.work` adds the
length of the frontier to that. No turn makes up for the hex it takes, so that after as many turns
as `turnsFor` allows the frontier is empty.

Results:
* `work_turn_succ_le`: a turn leaves less work than there was.
* `frontier_run`: a run with as many turns as there is work ends with an empty frontier.
* `frontier_search`: a search that succeeds has left no hex on the frontier.
-/

namespace HexRules.Movement

theorem length_enqueue (entry : Hex × ℤ) (frontier : List (Hex × ℤ)) :
    (enqueue entry frontier).length = frontier.length + 1 := by
  induction frontier with
  | nil => rfl
  | cons first rest ih =>
    unfold enqueue
    split
    · rw [List.length_cons, ih, List.length_cons]
    · rfl

namespace Search

variable {quest : Quest} {s s' : Search} {p : Hex} {b remaining : ℤ}

theorem knows_iff : s.knows p b = true ↔ ∃ known, s.best.get? p = some known ∧ b ≤ known := by
  unfold knows
  cases s.best.get? p with
  | none => simp
  | some known => simp

/-! ## Work -/

/-- How much the best budget of a hex can still rise. -/
def roomAt (quest : Quest) (s : Search) (p : Hex) : ℕ :=
  quest.budget.toNat - ((s.best.get? p).getD 0).toNat

/-- How much the best budgets can still rise, over all hexes of the map. -/
def room (quest : Quest) (s : Search) : ℕ :=
  ((Grid.positions quest.radius).map (roomAt quest s)).sum

/-- The hexes on the frontier, and those that can still come onto it. -/
def work (quest : Quest) (s : Search) : ℕ := s.frontier.length + room quest s

theorem roomAt_insert (quest : Quest) (s : Search) (p q : Hex) (b : ℤ) (frontier : List (Hex × ℤ))
    (blocked : Table Hex (List Finding)) :
    roomAt quest ⟨s.best.insert p b, frontier, blocked⟩ q =
      if p = q then quest.budget.toNat - b.toNat else roomAt quest s q := by
  unfold roomAt
  rw [Table.get?_insert]
  split_ifs <;> rfl

theorem work_reach_le (hp : p ∈ Grid.positions quest.radius) (hb : b ≤ quest.budget) :
    (s.reach p b).work quest ≤ s.work quest := by
  by_cases hk : s.knows p b = true
  · rw [reach, if_pos hk]
  have hless : ∀ known, s.best.get? p = some known → known < b := by
    intro known hs
    by_contra hge
    exact hk (knows_iff.2 ⟨known, hs, by omega⟩)
  -- the old figure at `p` is the budget less what was known there, or the whole budget
  have hold : ((s.best.get? p).getD 0).toNat ≤ b.toNat ∧
      (0 < b → ((s.best.get? p).getD 0).toNat < b.toNat) := by
    cases hs : s.best.get? p with
    | none => simp
    | some known =>
      have := hless known hs
      simp only [Option.getD_some]
      omega
  have hle : ∀ q ∈ Grid.positions quest.radius,
      roomAt quest (s.reach p b) q ≤ roomAt quest s q := by
    intro q _
    rw [reach, if_neg hk, roomAt_insert]
    split_ifs with hq
    · subst hq
      unfold roomAt
      omega
    · exact le_rfl
  by_cases hpos : 0 < b
  · have hlt : roomAt quest (s.reach p b) p < roomAt quest s p := by
      rw [reach, if_neg hk, roomAt_insert, if_pos rfl]
      unfold roomAt
      omega
    have hsum := List.sum_lt_sum _ _ hle ⟨p, hp, hlt⟩
    have hlen : (s.reach p b).frontier.length = s.frontier.length + 1 := by
      simp [reach, hk, hpos, length_enqueue]
    unfold work room
    omega
  · have hsum := List.sum_le_sum hle
    have hlen : (s.reach p b).frontier = s.frontier := by simp [reach, hk, hpos]
    unfold work room
    rw [hlen]
    omega

theorem work_refuse (quest : Quest) (s : Search) (p : Hex) (findings : List Finding) :
    (s.refuse p findings).work quest = s.work quest := by
  unfold refuse
  split <;> rfl

/-! ## Turns -/

theorem work_attempt_le (hp : p ∈ Grid.positions quest.radius)
    (h : attempt quest remaining s p = .ok s') : s'.work quest ≤ s.work quest := by
  obtain ⟨verdict, -, hm⟩ := Outcome.bind_eq_ok_iff.1 h
  cases hm
  cases verdict with
  | «open» budget => exact work_reach_le hp (min_le_right _ _)
  | blocked findings => exact (work_refuse quest s p findings).le

theorem mem_targets {q : Hex} :
    q ∈ (Grid.neighborsInBounds p quest.radius).filter (· ≠ quest.start) ↔
      q ∈ p.neighbors ∧ Grid.inBounds q quest.radius = true ∧ q ≠ quest.start := by
  rw [List.mem_filter, Grid.mem_neighborsInBounds, decide_eq_true_eq, and_assoc]

theorem work_expand_le (h : expand quest p remaining s = .ok s') :
    s'.work quest ≤ s.work quest := by
  refine Outcome.foldlM_ok_induction (fun s' => s'.work quest ≤ s.work quest) ?_ h le_rfl
  intro q hq c c' hc hle
  have hq' : q ∈ Grid.positions quest.radius := Grid.mem_positions.2 (mem_targets.1 hq).2.1
  exact (work_attempt_le hq' hc).trans hle

theorem work_turn_le (h : turn quest p remaining s = .ok s') : s'.work quest ≤ s.work quest := by
  unfold turn at h
  split at h
  · split at h
    · cases h
      exact le_rfl
    · exact work_expand_le h
  · exact work_expand_le h

/-- A turn does not make up for the entry that it takes off the frontier. -/
theorem work_turn_succ_le {rest : List (Hex × ℤ)} (hcons : s.frontier = (p, remaining) :: rest)
    (h : turn quest p remaining { s with frontier := rest } = .ok s') :
    s'.work quest + 1 ≤ s.work quest := by
  have hpop : work quest { s with frontier := rest } + 1 = s.work quest := by
    have hlen : s.frontier.length = rest.length + 1 := by rw [hcons, List.length_cons]
    have hroom : room quest { s with frontier := rest } = room quest s := rfl
    unfold work
    rw [hroom]
    dsimp only
    omega
  have := work_turn_le h
  omega

theorem frontier_run {turns : ℕ} (h : run quest turns s = .ok s') (hw : s.work quest ≤ turns) :
    s'.frontier = [] := by
  induction turns generalizing s with
  | zero =>
    cases h
    exact List.eq_nil_of_length_eq_zero (by unfold work at hw; omega)
  | succ turns ih =>
    unfold run at h
    split at h
    · rename_i hnil
      cases h
      exact hnil
    · rename_i p remaining rest hcons
      obtain ⟨next, hturn, hrun⟩ := Outcome.bind_eq_ok_iff.1 h
      have := work_turn_succ_le hcons hturn
      exact ih hrun (by omega)

theorem work_begin_le (quest : Quest) :
    (begin quest).work quest ≤ turnsFor quest.budget quest.radius := by
  have hroom : room quest (begin quest) ≤
      (Grid.positions quest.radius).length * quest.budget.toNat := by
    unfold room
    rw [← List.length_map (roomAt quest (begin quest)), ← smul_eq_mul]
    apply List.sum_le_card_nsmul
    intro n hn
    obtain ⟨q, -, rfl⟩ := List.mem_map.1 hn
    exact Nat.sub_le _ _
  have hsize := Nat.mul_le_mul_right quest.budget.toNat (Grid.length_positions_le quest.radius)
  have hone : (begin quest).frontier.length = 1 := rfl
  unfold work turnsFor
  rw [hone, Nat.mul_comm quest.budget.toNat]
  omega

end Search

theorem frontier_search {quest : Quest} {s : Search} (h : search quest = .ok s) :
    s.frontier = [] :=
  Search.frontier_run h (Search.work_begin_le quest)

end HexRules.Movement
