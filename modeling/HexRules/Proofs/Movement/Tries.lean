import HexRules.Proofs.Grid.Distance
import HexRules.Proofs.Movement.Monotone
import HexRules.Proofs.Movement.Stages

/-!
# Hexes that are tried

A search breaks off where some walk tries a hex that cannot be judged. The other way round, a search
that succeeds never tried a hex that cannot be judged with any budget. For no verdict on that hex
ever counted: so the search goes by the terrain on which the hex is barred as well as by one on
which it is open to whoever comes, and has to reach it on the second and must not on the first.

Results:
* `Search.exists_tries_of_error`: a search breaks off where some walk tries a hex.
* `Search.exists_eq_ok_of_tries`: a search succeeds if every step that some walk tries is judged.
* `Search.not_tries_of_ok`: no walk tries a hex that cannot be judged, if a search succeeds.
-/

namespace HexRules.Movement

namespace Terrain

/-- Some walk tries to enter a hex with a budget. -/
def Tries (t : Terrain) (q : Hex) (b : ℤ) : Prop :=
  ∃ p, t.Leaves p b ∧ q ∈ p.neighbors ∧ Grid.inBounds q t.radius = true ∧ q ≠ t.start

/-- Wherever a walk arrives, it tried to. -/
theorem exists_tries_of_mem_arrivals {t : Terrain} {q : Hex} {b : ℤ} (h : b ∈ t.arrivals q) :
    ∃ c, t.Tries q c := by
  obtain ⟨n, hw⟩ := h
  cases hw with
  | step walk onward step =>
    exact ⟨_, _, ⟨n, walk, onward⟩, step.adjacent, step.onMap, step.away⟩

/-- Without budget only the hexes next to the start are tried. -/
theorem exists_tries_iff_of_nonpos {t : Terrain} {q : Hex} (h : t.budget ≤ 0) :
    (∃ b, t.Tries q b) ↔ q ∈ t.start.neighbors ∧ Grid.inBounds q t.radius = true := by
  constructor
  · rintro ⟨b, p, ⟨n, hw, hb⟩, hadj, hmap, -⟩
    cases hw with
    | start => exact ⟨hadj, hmap⟩
    | step walk onward step =>
      have hpos := hb (Nat.succ_ne_zero _)
      have hle := step.left.trans_le (min_le_right _ _)
      omega
  · rintro ⟨hadj, hmap⟩
    exact ⟨t.budget, t.start, t.leaves_start, hadj, hmap, Hex.ne_of_mem_neighbors hadj⟩

/-- The terrain on which a hex is open to whoever comes with a budget. -/
def opened (t : Terrain) (q : Hex) (b : ℤ) : Terrain :=
  { t with
    cost := Function.update t.cost q (min (t.cost q) b)
    barred := Function.update t.barred q false }

/-- The terrain on which a hex is barred. -/
def shut (t : Terrain) (q : Hex) : Terrain :=
  { t with barred := Function.update t.barred q true }

theorem eases_opened (t : Terrain) (q : Hex) (b : ℤ) : t.Eases (t.opened q b) := by
  refine ⟨rfl, rfl, le_rfl, fun p _ _ => ?_, fun p _ _ hbarred => ?_⟩
  · by_cases hp : p = q
    · subst hp
      exact (Function.update_self p _ _).trans_le (min_le_left _ _)
    · exact (Function.update_of_ne hp _ _).le
  · by_cases hp : p = q
    · subst hp
      cases (Function.update_self p _ _).symm.trans hbarred
    · exact (Function.update_of_ne hp _ _).symm.trans hbarred

end Terrain

namespace Search

variable {quest : Quest} {t : Terrain} {c c' : Stage} {e : Failure}

/-- At a stage of a search, whatever waits or is being left is left by walks too. -/
structure Paced (quest : Quest) (t : Terrain) (c : Stage) : Prop where
  waiting : ∀ e ∈ c.search.frontier, t.Leaves e.1 e.2
  leaving : ∀ {p remaining toTry}, c.phase = .leaving p remaining toTry →
    t.Leaves p remaining ∧ ∀ q ∈ toTry, q ∈ targets quest p

theorem paced_opening (on : quest.On t) : Paced quest t (opening quest) where
  waiting := fun e he => (tracks_begin on).leaves e he
  leaving := by
    intro p remaining toTry hphase
    cases hphase

theorem Next.paced (on : quest.On t) (h : Paced quest t c) (next : Next quest c c') :
    Paced quest t c' := by
  cases next with
  | @take s p remaining rest first current =>
    have hmem : ∀ e ∈ (p, remaining) :: rest, t.Leaves e.1 e.2 := first ▸ h.waiting
    refine ⟨fun e he => hmem e (List.mem_cons_of_mem _ he), ?_⟩
    intro p' remaining' toTry hphase
    cases hphase
    exact ⟨hmem (p, remaining) List.mem_cons_self, fun q hq => hq⟩
  | @skip s p remaining best rest first known outdated =>
    have hmem : ∀ e ∈ (p, remaining) :: rest, t.Leaves e.1 e.2 := first ▸ h.waiting
    refine ⟨fun e he => hmem e (List.mem_cons_of_mem _ he), ?_⟩
    intro p' remaining' toTry hphase
    cases hphase
  | finish =>
    refine ⟨h.waiting, ?_⟩
    intro p' remaining' toTry hphase
    cases hphase
  | @attempt s s' p q remaining toTry tried =>
    obtain ⟨hleaves, htargets⟩ := h.leaving rfl
    have hleaving : ∀ {p' remaining' toTry'},
        Phase.leaving p remaining toTry = .leaving p' remaining' toTry' →
        t.Leaves p' remaining' ∧ ∀ q ∈ toTry', q ∈ targets quest p' := by
      intro p' remaining' toTry' hphase
      cases hphase
      exact ⟨hleaves, fun q' hq' => htargets q' (List.mem_cons_of_mem q hq')⟩
    refine ⟨?_, hleaving⟩
    rcases attempt_cases tried with
      ⟨n, henter, ⟨-, rfl⟩ | ⟨-, rfl⟩⟩ | ⟨findings, -, ⟨-, rfl⟩ | ⟨-, -, rfl⟩⟩
    · exact h.waiting
    · obtain ⟨hadj, hmap, haway⟩ := mem_targets.1 (htargets q List.mem_cons_self)
      obtain ⟨hbar, hcovered, rfl⟩ := (on.enter henter n).1 rfl
      rw [on.radius] at hmap
      rw [on.start] at haway
      have hstep : t.Step p remaining q (min (remaining - t.cost q) t.budget) :=
        ⟨hadj, hmap, haway, hbar, hcovered, rfl⟩
      intro e he
      rcases mem_frontier_reach.1 he with he | ⟨-, hpos, rfl⟩
      · exact h.waiting e he
      · rw [on.budget] at hpos ⊢
        exact Terrain.leaves_of_mem_arrivals (hleaves.arrive hstep) hpos
    · exact h.waiting
    · intro e he
      rw [frontier_refuse] at he
      exact h.waiting e he

/-- A search breaks off where some walk tries a hex. -/
theorem exists_tries_of_error (on : quest.On t) (h : search quest = .error e) :
    ∃ q b, t.Tries q b ∧ quest.enter q b = .error e := by
  obtain ⟨log, last, hleads, hends⟩ := exists_leads_search quest
  rw [h] at hends
  have hpaced : Paced quest t last :=
    @Leads.keeps quest _ _ log (fun _ => Paced quest t) (fun hc next => next.paced on hc) hleads []
      (paced_opening on)
  cases hends with
  | @fails s p q remaining toTry e tried =>
    obtain ⟨hleaves, htargets⟩ := hpaced.leaving rfl
    obtain ⟨hadj, hmap, haway⟩ := mem_targets.1 (htargets q List.mem_cons_self)
    rw [on.radius] at hmap
    rw [on.start] at haway
    refine ⟨q, remaining, ⟨p, hleaves, hadj, hmap, haway⟩, ?_⟩
    rcases Outcome.bind_eq_error_iff.1 tried with henter | ⟨v, -, hmeet⟩
    · exact henter
    · cases hmeet

theorem exists_eq_ok_of_tries (on : quest.On t)
    (henter : ∀ q b, t.Tries q b → ∃ v, quest.enter q b = .ok v) : ∃ s, search quest = .ok s := by
  cases hsearch : search quest with
  | ok s => exact ⟨s, rfl⟩
  | error e =>
    obtain ⟨q, b, htries, hfails⟩ := exists_tries_of_error on hsearch
    obtain ⟨v, hv⟩ := henter q b htries
    rw [hv] at hfails
    cases hfails

/-- A search that cannot judge a hex goes by every terrain that differs there alone. -/
theorem on_of_agrees (on : quest.On t) {t' : Terrain} {q : Hex}
    (hq : ∀ b v, quest.enter q b ≠ .ok v) (hstart : t'.start = t.start)
    (hbudget : t'.budget = t.budget) (hradius : t'.radius = t.radius)
    (hagree : ∀ p ≠ q, t'.cost p = t.cost p ∧ t'.barred p = t.barred p) : quest.On t' := by
  refine ⟨hstart ▸ on.start, hbudget ▸ on.budget, hradius ▸ on.radius, ?_⟩
  intro p b v henter n
  have hp : p ≠ q := fun hpq => hq b v (hpq ▸ henter)
  rw [(hagree p hp).1, (hagree p hp).2]
  exact on.enter henter n

/-- If a search succeeds, no walk tries a hex that cannot be judged. -/
theorem not_tries_of_ok (on : quest.On t) {s : Search} (h : search quest = .ok s) {q : Hex}
    (hq : ∀ b v, quest.enter q b ≠ .ok v) (b : ℤ) : ¬t.Tries q b := by
  rintro ⟨p, ⟨n, hw, hb⟩, hadj, hmap, haway⟩
  have onOpened : quest.On (t.opened q b) := on_of_agrees on hq rfl rfl rfl fun p hp =>
    ⟨Function.update_of_ne hp _ _, Function.update_of_ne hp _ _⟩
  have onShut : quest.On (t.shut q) := on_of_agrees on hq rfl rfl rfl fun p hp =>
    ⟨rfl, Function.update_of_ne hp _ _⟩
  obtain ⟨c, hc, hopened⟩ := (t.eases_opened q b).walk hw
  have hcost : (t.opened q b).cost q ≤ b :=
    (Function.update_self q _ _).trans_le (min_le_right _ _)
  have hstep : (t.opened q b).Step p c q
      (min (c - (t.opened q b).cost q) (t.opened q b).budget) :=
    ⟨hadj, hmap, haway, Function.update_self q _ _, by omega, rfl⟩
  obtain ⟨known, hbest, -⟩ := knows_iff.1 (knows_of_walk (tracks_search onOpened h)
    (frontier_search h) (.step hopened (fun hn => (hb hn).trans_le hc) hstep))
  obtain ⟨n', hshut⟩ := (tracks_search onShut h).arrived hbest haway
  cases hshut with
  | step walk onward step => cases (Function.update_self q _ _).symm.trans step.notBarred

end Search

end HexRules.Movement
