import HexRules.Proofs.Movement.Exact
import HexRules.Proofs.Movement.Stages

/-!
# What comes onto the frontier

Refunds may let a walk go in circles, hexes are left again and entries of the frontier go out of
date. The loop ends all the same: a hex comes onto the frontier only with a budget between one and
the initial one, and with more than at any time before, since the best budget of a hex never falls.
So no entry comes twice, and there are no more of them than hexes of the map times budgets.

Results:
* `Next.logs`: every move keeps the entries so far in this order.
* `length_le_of_logs`: how many entries there can be.
* `search_ends`: the loop of a search ends, and what comes onto the frontier until then is bounded.
-/

namespace HexRules.Movement

theorem perm_enqueue (entry : Hex × ℤ) (frontier : List (Hex × ℤ)) :
    (enqueue entry frontier).Perm (entry :: frontier) := by
  induction frontier with
  | nil => exact .refl _
  | cons first rest ih =>
    unfold enqueue
    split_ifs
    · exact (ih.cons first).trans (.swap entry first rest)
    · exact .refl _

namespace Search

variable {quest : Quest} {s s' : Search} {c c' : Stage} {log : List (Hex × ℤ)} {q : Hex}
  {b remaining : ℤ}

/-! ## The entries of one move -/

theorem append_diff_left (l new : List (Hex × ℤ)) : (l ++ new).diff l = new := by
  induction l with
  | nil => rfl
  | cons e rest ih => rw [List.cons_append, List.diff_cons, List.erase_cons_head, ih]

theorem diff_self (l : List (Hex × ℤ)) : l.diff l = [] := by
  simpa using append_diff_left l []

theorem joined_reach (phase phase' : Phase) (hk : s.knows q b = false) :
    joined ⟨phase, s⟩ ⟨phase', s.reach q b⟩ = if 0 < b then [(q, b)] else [] := by
  rw [joined, reach, if_neg (by simp [hk])]
  dsimp only
  split_ifs
  · have hperm := (perm_enqueue (q, b) s.frontier).trans (List.perm_append_singleton _ _).symm
    have hdiff := hperm.diff_right s.frontier
    rw [append_diff_left] at hdiff
    exact hdiff.eq_singleton
  · exact diff_self s.frontier

/-- The entries so far: each lies on the map and holds a budget between one and the initial one,
    its hex is known with that much, and the entries of one hex rise. -/
structure Logs (quest : Quest) (log : List (Hex × ℤ)) (c : Stage) : Prop where
  onMap : ∀ e ∈ log, Grid.inBounds e.1 quest.radius = true ∧ e.1 ≠ quest.start
  within : ∀ e ∈ log, 1 ≤ e.2 ∧ e.2 ≤ quest.budget
  known : ∀ e ∈ log, c.search.knows e.1 e.2 = true
  rising : log.Pairwise fun e e' => e.1 = e'.1 → e.2 < e'.2
  toTry : ∀ {p remaining qs}, c.phase = .leaving p remaining qs → ∀ q ∈ qs,
    Grid.inBounds q quest.radius = true ∧ q ≠ quest.start

theorem logs_opening (quest : Quest) : Logs quest [] (opening quest) where
  onMap := fun e he => absurd he List.not_mem_nil
  within := fun e he => absurd he List.not_mem_nil
  known := fun e he => absurd he List.not_mem_nil
  rising := .nil
  toTry := fun h => by cases h

/-- A move with which no entry comes keeps the order of the entries, if nothing is forgotten. -/
theorem Logs.of_joined_eq_nil (h : Logs quest log c) (hjoined : joined c c' = [])
    (hknown : ∀ r n, c.search.knows r n = true → c'.search.knows r n = true)
    (htoTry : ∀ {p remaining qs}, c'.phase = .leaving p remaining qs → ∀ q ∈ qs,
      Grid.inBounds q quest.radius = true ∧ q ≠ quest.start) :
    Logs quest (log ++ joined c c') c' := by
  rw [hjoined, List.append_nil]
  exact ⟨h.onMap, h.within, fun e he => hknown _ _ (h.known e he), h.rising, htoTry⟩

/-- So does a move with which an entry comes that was not known, and is known then. -/
theorem Logs.of_joined_eq_singleton (h : Logs quest log c) (hjoined : joined c c' = [(q, b)])
    (hq : Grid.inBounds q quest.radius = true ∧ q ≠ quest.start) (hb : 1 ≤ b ∧ b ≤ quest.budget)
    (hnew : c.search.knows q b = false) (hnow : c'.search.knows q b = true)
    (hknown : ∀ r n, c.search.knows r n = true → c'.search.knows r n = true)
    (htoTry : ∀ {p remaining qs}, c'.phase = .leaving p remaining qs → ∀ q ∈ qs,
      Grid.inBounds q quest.radius = true ∧ q ≠ quest.start) :
    Logs quest (log ++ joined c c') c' := by
  rw [hjoined]
  refine ⟨?_, ?_, ?_, ?_, htoTry⟩
  · exact List.forall_mem_append.2 ⟨h.onMap, List.forall_mem_singleton.2 hq⟩
  · exact List.forall_mem_append.2 ⟨h.within, List.forall_mem_singleton.2 hb⟩
  · exact List.forall_mem_append.2
      ⟨fun e he => hknown _ _ (h.known e he), List.forall_mem_singleton.2 hnow⟩
  · refine List.pairwise_append.2 ⟨h.rising, List.pairwise_singleton _ _, ?_⟩
    rintro e he e' he' heq
    rw [List.mem_singleton.1 he'] at heq ⊢
    -- were the earlier budget not less, the hex would have been known with the new one
    by_contra hle
    have hknew := knows_mono (h.known e he) (Int.not_lt.1 hle)
    rw [heq, hnew] at hknew
    cases hknew

theorem Next.logs (h : Logs quest log c) (next : Next quest c c') :
    Logs quest (log ++ joined c c') c' := by
  cases next with
  | @take s p remaining rest first current =>
    refine h.of_joined_eq_nil ?_ (fun _ _ hk => hk) ?_
    · rw [joined, first, List.diff_cons_right, diff_self, List.erase_nil]
    · intro p' remaining' qs hphase q hq
      cases hphase
      exact (mem_targets.1 hq).2
  | @skip s p remaining best rest first known outdated =>
    refine h.of_joined_eq_nil ?_ (fun _ _ hk => hk) (fun hphase => by cases hphase)
    rw [joined, first, List.diff_cons_right, diff_self, List.erase_nil]
  | finish =>
    exact h.of_joined_eq_nil (diff_self _) (fun _ _ hk => hk) fun hphase => by cases hphase
  | @attempt s s' p q remaining toTry tried =>
    have hq := h.toTry rfl q List.mem_cons_self
    have htoTry : ∀ {p' : Hex} {remaining' : ℤ} {qs : List Hex},
        Phase.leaving p remaining toTry = .leaving p' remaining' qs → ∀ r ∈ qs,
          Grid.inBounds r quest.radius = true ∧ r ≠ quest.start := by
      intro p' remaining' qs hphase r hr
      cases hphase
      exact h.toTry rfl r (List.mem_cons_of_mem q hr)
    rcases attempt_cases tried with ⟨n, -, ⟨-, rfl⟩ | ⟨hnew, rfl⟩⟩ |
      ⟨findings, -, ⟨-, rfl⟩ | ⟨-, -, rfl⟩⟩
    · exact h.of_joined_eq_nil (diff_self _) (fun _ _ hk => hk) htoTry
    · have hjoined := joined_reach (.leaving p remaining (q :: toTry))
        (.leaving p remaining toTry) hnew
      by_cases hpos : 0 < min n quest.budget
      · rw [if_pos hpos] at hjoined
        exact h.of_joined_eq_singleton hjoined hq ⟨hpos, min_le_right _ _⟩ hnew
          (knows_reach s q _) (fun _ _ => knows_reach_of_knows) htoTry
      · rw [if_neg hpos] at hjoined
        exact h.of_joined_eq_nil hjoined (fun _ _ => knows_reach_of_knows) htoTry
    · exact h.of_joined_eq_nil (diff_self _) (fun _ _ hk => hk) htoTry
    · refine h.of_joined_eq_nil ?_ (fun r m hk => by rwa [knows_refuse]) htoTry
      rw [joined, frontier_refuse]
      exact diff_self _

theorem logs_of_leads (h : Leads quest (opening quest) log c) : Logs quest log c :=
  h.keeps (fun hlogs next => next.logs hlogs) (logs_opening quest)

/-! ## How many entries -/

theorem length_le_of_logs (h : Logs quest log c) :
    log.length ≤ (Grid.positionCount quest.radius).toNat * quest.budget.toNat := by
  have hnodup : log.Nodup := h.rising.imp fun {e e'} hlt heq => by
    have := hlt (congrArg Prod.fst heq)
    rw [heq] at this
    exact lt_irrefl _ this
  have hsub : log.toFinset ⊆
      (Grid.positions quest.radius).toFinset ×ˢ Finset.Icc 1 quest.budget := by
    intro e he
    rw [List.mem_toFinset] at he
    rw [Finset.mem_product, List.mem_toFinset, Grid.mem_positions, Finset.mem_Icc]
    exact ⟨(h.onMap e he).1, h.within e he⟩
  calc log.length = log.toFinset.card := (List.toFinset_card_of_nodup hnodup).symm
    _ ≤ ((Grid.positions quest.radius).toFinset ×ˢ Finset.Icc 1 quest.budget).card :=
      Finset.card_le_card hsub
    _ = (Grid.positions quest.radius).toFinset.card * quest.budget.toNat := by
      rw [Finset.card_product, Int.card_Icc, add_sub_cancel_right]
    _ ≤ (Grid.positionCount quest.radius).toNat * quest.budget.toNat :=
      Nat.mul_le_mul_right _
        ((List.toFinset_card_le _).trans (Grid.length_positions_le quest.radius))

end Search

theorem positionCount_pos (radius : ℤ) : 0 < Grid.positionCount radius := by
  unfold Grid.positionCount
  nlinarith [sq_nonneg (2 * radius + 1)]

/-- The loop of a unit's search ends with what the search gives, and it has no other way to go.
    Until then at most one entry comes onto the frontier for the start, and one for each hex of the
    map with each budget from one to the initial one: for those of one hex come with more budget
    every time. Costs may be negative, and the start may lie off the map. -/
theorem search_ends (m : Mover) (board : Board) (start : Hex) (budget radius : ℤ) :
    ∃ log last,
      Search.Leads (m.quest board start budget radius)
        (Search.opening (m.quest board start budget radius)) log last ∧
      Search.Ends (m.quest board start budget radius) last
        (search (m.quest board start budget radius)) ∧
      (∀ log' c, Search.Leads (m.quest board start budget radius)
          (Search.opening (m.quest board start budget radius)) log' c →
        ∃ rest, Search.Leads (m.quest board start budget radius) c rest last ∧
          log = log' ++ rest) ∧
      (((start, budget) :: log).length : ℤ) ≤ 1 + max 0 budget * (3 * radius * (radius + 1) + 1) ∧
      (∀ e ∈ log, 1 ≤ e.2 ∧ e.2 ≤ budget) ∧
      ((start, budget) :: log).Pairwise fun e e' => e.1 = e'.1 → e.2 < e'.2 := by
  obtain ⟨log, last, hleads, hends⟩ :=
    Search.exists_leads_search (m.quest board start budget radius)
  have hlogs := Search.logs_of_leads hleads
  refine ⟨log, last, hleads, hends, fun log' c h => hleads.ended hends h, ?_, hlogs.within, ?_⟩
  · have hlength : (log.length : ℤ) ≤ Grid.positionCount radius * max 0 budget := by
      have hle : (log.length : ℤ) ≤ ((Grid.positionCount radius).toNat * budget.toNat : ℕ) :=
        Int.ofNat_le.2 (Search.length_le_of_logs hlogs)
      have hpos := positionCount_pos radius
      rw [Nat.cast_mul] at hle
      rwa [Int.toNat_of_nonneg (show 0 ≤ Grid.positionCount radius by omega), Int.ofNat_toNat,
        max_comm budget 0] at hle
    rw [List.length_cons, Nat.cast_succ, mul_comm (max 0 budget)]
    unfold Grid.positionCount at hlength
    omega
  · refine List.pairwise_cons.2 ⟨fun e he heq => ?_, hlogs.rising⟩
    exact absurd heq.symm (hlogs.onMap e he).2

end HexRules.Movement
