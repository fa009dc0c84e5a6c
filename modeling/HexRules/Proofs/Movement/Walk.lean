import HexRules.Proofs.Movement.Cost

/-!
# Walks

A walk goes over the map from a start, hex by hex, and spends a budget on the way. Every hex that
it enters has to lie on the map, must not be barred, is not the start, and costs what the budget has
to cover. A negative cost gives something back, but the budget never rises above what the walk
began with. A hex other than the start is left only with some budget in hand.

This says nothing of a search: it is what the moves of a unit are measured by.

Results:
* `Step.mono`: whoever comes with more budget can take the same step and is left with more.
* `Walk.le_budget`: no walk has more than it began with.
* `mem_arrivals_iff_of_nonpos`: without budget, walks are single steps from the start.
-/

namespace HexRules.Movement

/-- What walks depend on: where they start and with what budget, how far the map extends, and what
    each hex costs and whether it is barred. -/
structure Terrain where
  start : Hex
  budget : ℤ
  radius : ℤ
  cost : Hex → ℤ
  barred : Hex → Bool

namespace Terrain

variable {t : Terrain} {p p' : Hex} {b b' c : ℤ}

/-- A step from a hex with a budget onto another hex, and the budget that it leaves. -/
structure Step (t : Terrain) (p : Hex) (b : ℤ) (p' : Hex) (b' : ℤ) : Prop where
  adjacent : p' ∈ p.neighbors
  onMap : Grid.inBounds p' t.radius = true
  away : p' ≠ t.start
  notBarred : t.barred p' = false
  covered : 0 ≤ b - t.cost p'
  left : b' = min (b - t.cost p') t.budget

/-- There is a walk of a length to a hex that leaves a budget. -/
inductive Walk (t : Terrain) : ℕ → Hex → ℤ → Prop
  | start : Walk t 0 t.start t.budget
  | step {n : ℕ} {p p' : Hex} {b b' : ℤ} (walk : Walk t n p b) (onward : n ≠ 0 → 0 < b)
      (step : t.Step p b p' b') : Walk t (n + 1) p' b'

/-- A walk with a budget in hand can go on from a hex. -/
def Leaves (t : Terrain) (p : Hex) (b : ℤ) : Prop := ∃ n, t.Walk n p b ∧ (n ≠ 0 → 0 < b)

/-- Walks of one step or more that end on a hex leave these budgets. -/
def arrivals (t : Terrain) (p : Hex) : Set ℤ := {b | ∃ n, t.Walk (n + 1) p b}

theorem Step.mono (h : t.Step p b p' b') (hc : b ≤ c) :
    t.Step p c p' (min (c - t.cost p') t.budget) ∧ b' ≤ min (c - t.cost p') t.budget := by
  refine ⟨⟨h.adjacent, h.onMap, h.away, h.notBarred, ?_, rfl⟩, ?_⟩
  · have := h.covered
    omega
  · rw [h.left]
    omega

theorem leaves_start (t : Terrain) : t.Leaves t.start t.budget :=
  ⟨0, .start, fun h => absurd rfl h⟩

theorem Leaves.arrive (h : t.Leaves p b) (hs : t.Step p b p' b') : b' ∈ t.arrivals p' := by
  obtain ⟨n, hw, hb⟩ := h
  exact ⟨n, .step hw hb hs⟩

theorem leaves_of_mem_arrivals (h : b ∈ t.arrivals p) (hb : 0 < b) : t.Leaves p b := by
  obtain ⟨n, hw⟩ := h
  exact ⟨n + 1, hw, fun _ => hb⟩

theorem Walk.le_budget {n : ℕ} (h : t.Walk n p b) : b ≤ t.budget := by
  cases h with
  | start => exact le_rfl
  | step walk onward step =>
    rw [step.left]
    exact min_le_right _ _

/-- A hex is left with no less than nothing, if the walk began so. -/
theorem Leaves.nonneg (h : t.Leaves p b) (hb : 0 ≤ t.budget) : 0 ≤ b := by
  obtain ⟨n, hw, hpos⟩ := h
  cases hw with
  | start => exact hb
  | step walk onward step => exact (hpos (Nat.succ_ne_zero _)).le

/-- The first step of a walk leads onto a hex of the map. -/
theorem Walk.exists_first {n : ℕ} (h : t.Walk (n + 1) p b) :
    ∃ q ∈ t.start.neighbors, Grid.inBounds q t.radius = true := by
  induction n generalizing p b with
  | zero =>
    cases h with
    | step walk onward step =>
      cases walk
      exact ⟨p, step.adjacent, step.onMap⟩
  | succ n ih =>
    cases h with
    | step walk onward step => exact ih walk

theorem ne_start_of_mem_arrivals (h : b ∈ t.arrivals p) : p ≠ t.start := by
  obtain ⟨n, hw⟩ := h
  cases hw with
  | step walk onward step => exact step.away

theorem onMap_of_mem_arrivals (h : b ∈ t.arrivals p) : Grid.inBounds p t.radius = true := by
  obtain ⟨n, hw⟩ := h
  cases hw with
  | step walk onward step => exact step.onMap

/-- No walk is left with less than nothing, unless it began with less. -/
theorem min_le_of_mem_arrivals (h : b ∈ t.arrivals p) : min 0 t.budget ≤ b ∧ b ≤ t.budget := by
  obtain ⟨n, hw⟩ := h
  have hle := hw.le_budget
  cases hw with
  | step walk onward step =>
    have hcovered := step.covered
    have hleft := step.left
    exact ⟨by omega, hle⟩

/-- Without budget, a walk is a single step from the start. -/
theorem mem_arrivals_iff_of_nonpos (h : t.budget ≤ 0) :
    b ∈ t.arrivals p ↔ t.Step t.start t.budget p b := by
  constructor
  · rintro ⟨n, hw⟩
    cases hw with
    | step walk onward step =>
      cases walk with
      | start => exact step
      | step walk' onward' step' =>
        -- a second step asks for some budget, and there is none
        have hpos := onward (Nat.succ_ne_zero _)
        have hle := step'.left.trans_le (min_le_right _ _)
        omega
  · intro hstep
    exact t.leaves_start.arrive hstep

end Terrain

/-- The terrain of a unit on a board. -/
def Mover.terrain (m : Mover) (board : Board) (start : Hex) (budget radius : ℤ) : Terrain where
  start := start
  budget := budget
  radius := radius
  cost := fun p => m.entryCost (board.dataOn p)
  barred := fun p => m.barred (board.dataOn p)

/-- A search that goes by a terrain: a step succeeds as the terrain has it. -/
structure Quest.On (quest : Quest) (t : Terrain) : Prop where
  start : quest.start = t.start
  budget : quest.budget = t.budget
  radius : quest.radius = t.radius
  enter : ∀ {p : Hex} {b : ℤ} {v : Verdict}, quest.enter p b = .ok v → ∀ n,
    v = .open n ↔ t.barred p = false ∧ 0 ≤ b - t.cost p ∧ n = b - t.cost p

theorem Mover.quest_on (m : Mover) (board : Board) (start : Hex) (budget radius : ℤ) :
    (m.quest board start budget radius).On (m.terrain board start budget radius) where
  start := rfl
  budget := rfl
  radius := rfl
  enter := fun h => evaluate_eq_open_iff (enter_eq_ok_iff.1 h).2

end HexRules.Movement
