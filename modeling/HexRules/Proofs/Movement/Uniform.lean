import HexRules.Proofs.Movement.Returns
import HexRules.Proofs.Movement.Verdict

/-!
# Uniform terrain

Where every hex costs the same and none is barred, a walk has spent that much with each step.
Between two hexes of the map a shortest way leads over the map, wherever they lie on it, so the best
budget on a hex is what the distance from the start leaves of the initial one.

What a hex costs in the end is not all that counts, though. If more is asked on the way than the
unit has, a finding is made that shows it, and a number of too many digits cannot be shown. Then
there are no moves at all (`uniform_overlong`).

Results:
* `Terrain.Uniform.exists_walk`: what the distance leaves is left by some walk.
* `Terrain.Uniform.isGreatest_arrivals_iff`: no walk leaves more.
* `uniform_exact`: the moves on uniform terrain in closed form, and when there are any.
-/

namespace HexRules.Movement

namespace Terrain

variable {t : Terrain} {p : Hex} {b k : ℤ}

/-- All hexes of the map but the start, which lies on it, cost the same, and none of them is
    barred. -/
structure Uniform (t : Terrain) (k : ℤ) : Prop where
  pos : 0 < k
  nonneg : 0 ≤ t.budget
  onMap : Grid.inBounds t.start t.radius = true
  cost : ∀ p, Grid.inBounds p t.radius = true → p ≠ t.start → t.cost p = k
  notBarred : ∀ p, Grid.inBounds p t.radius = true → p ≠ t.start → t.barred p = false

namespace Uniform

/-! ## What walks leave -/

/-- Each step of a walk costs the same, and leads at most one further away. -/
theorem left_of_walk (h : t.Uniform k) {n : ℕ} (hw : t.Walk n p b) :
    b = t.budget - k * n ∧ t.start.distance p ≤ n := by
  have hpos := h.pos
  induction hw with
  | start => simp [Hex.distance_self]
  | @step n p p' b b' walk onward step ih =>
    obtain ⟨hleft, hdistance⟩ := ih
    have hcost := h.cost p' step.onMap step.away
    have hle := walk.le_budget
    have hnear := Hex.distance_le_succ t.start step.adjacent
    refine ⟨?_, by omega⟩
    calc b' = b - k := by rw [step.left, hcost, min_eq_left (by omega)]
      _ = t.budget - k * ((n + 1 : ℕ) : ℤ) := by
        rw [hleft]
        push_cast
        ring

/-- A walk leads to any hex of the map that the budget suffices for by its distance. -/
theorem exists_walk (h : t.Uniform k) (hp : Grid.inBounds p t.radius = true)
    (hle : k * t.start.distance p ≤ t.budget) :
    t.Walk (t.start.distance p) p (t.budget - k * t.start.distance p) := by
  have hpos := h.pos
  -- by induction on the distance: some neighbour of the hex lies nearer to the start
  obtain ⟨n, hn⟩ : ∃ n, t.start.distance p = n := ⟨_, rfl⟩
  rw [hn] at hle ⊢
  induction n generalizing p with
  | zero =>
    have hstart : t.start = p := Hex.distance_eq_zero_iff.1 hn
    subst hstart
    simpa using Walk.start (t := t)
  | succ n ih =>
    have hne : p ≠ t.start := by
      rintro rfl
      rw [Hex.distance_self] at hn
      omega
    obtain ⟨q, hadj, hmap, hcloser⟩ := Hex.exists_neighbor_closer hp h.onMap hne
    have hback : p ∈ q.neighbors := Hex.mem_neighbors_comm.1 hadj
    have hq : t.start.distance q = n := by
      have hnear := Hex.distance_le_succ t.start hback
      rw [Hex.distance_comm q, Hex.distance_comm p] at hcloser
      omega
    have hsplit : k * ((n + 1 : ℕ) : ℤ) = k * n + k := by
      push_cast
      ring
    have hwalk := ih hmap (by omega) hq
    have hstep : t.Step q (t.budget - k * n) p (t.budget - k * ((n + 1 : ℕ) : ℤ)) := by
      have hk : 0 ≤ k * (n : ℤ) := mul_nonneg hpos.le (Int.natCast_nonneg n)
      refine ⟨hback, hp, hne, h.notBarred p hp hne, ?_, ?_⟩
      · rw [h.cost p hp hne]
        omega
      · rw [h.cost p hp hne]
        omega
    exact .step hwalk (fun _ => by omega) hstep

theorem exists_distance_eq_succ (h : p ≠ t.start) : ∃ n, t.start.distance p = n + 1 := by
  have hfar : t.start.distance p ≠ 0 := fun hzero => h (Hex.distance_eq_zero_iff.1 hzero).symm
  exact Nat.exists_eq_succ_of_ne_zero hfar

theorem mem_arrivals (h : t.Uniform k) (hp : Grid.inBounds p t.radius = true) (haway : p ≠ t.start)
    (hle : k * t.start.distance p ≤ t.budget) :
    t.budget - k * t.start.distance p ∈ t.arrivals p := by
  have hw := h.exists_walk hp hle
  obtain ⟨n, hn⟩ := exists_distance_eq_succ haway
  rw [hn] at hw ⊢
  exact ⟨n, hw⟩

theorem le_of_mem_arrivals (h : t.Uniform k) (hb : b ∈ t.arrivals p) :
    b ≤ t.budget - k * t.start.distance p := by
  obtain ⟨n, hw⟩ := hb
  obtain ⟨rfl, hdistance⟩ := h.left_of_walk hw
  have hmul : k * (t.start.distance p : ℤ) ≤ k * ((n + 1 : ℕ) : ℤ) :=
    mul_le_mul_of_nonneg_left (by exact_mod_cast hdistance) h.pos.le
  omega

theorem nonempty_arrivals_iff (h : t.Uniform k) :
    (t.arrivals p).Nonempty ↔
      Grid.inBounds p t.radius = true ∧ p ≠ t.start ∧ k * t.start.distance p ≤ t.budget := by
  constructor
  · rintro ⟨b, hb⟩
    have hnonneg := h.nonneg
    have hleft := (min_le_of_mem_arrivals hb).1
    have hle := h.le_of_mem_arrivals hb
    exact ⟨onMap_of_mem_arrivals hb, ne_start_of_mem_arrivals hb, by omega⟩
  · rintro ⟨hmap, haway, hle⟩
    exact ⟨_, h.mem_arrivals hmap haway hle⟩

/-- The best budget on a hex is what its distance from the start leaves. -/
theorem isGreatest_arrivals_iff (h : t.Uniform k) :
    IsGreatest (t.arrivals p) b ↔
      (t.arrivals p).Nonempty ∧ b = t.budget - k * t.start.distance p := by
  have hbest : (t.arrivals p).Nonempty →
      IsGreatest (t.arrivals p) (t.budget - k * t.start.distance p) := by
    intro hne
    obtain ⟨hmap, haway, hle⟩ := h.nonempty_arrivals_iff.1 hne
    exact ⟨h.mem_arrivals hmap haway hle, fun c hc => h.le_of_mem_arrivals hc⟩
  constructor
  · intro hb
    exact ⟨⟨b, hb.1⟩, hb.unique (hbest ⟨b, hb.1⟩)⟩
  · rintro ⟨hne, rfl⟩
    exact hbest hne

/-- The unit goes on from the start, and from wherever some budget is left. -/
theorem settles_iff (h : t.Uniform k) :
    t.Settles p b ↔
      Grid.inBounds p t.radius = true ∧ (p = t.start ∨ k * t.start.distance p < t.budget) ∧
        b = t.budget - k * t.start.distance p := by
  by_cases hp : p = t.start
  · subst hp
    have hnone : ¬IsGreatest (t.arrivals t.start) b := fun hbest =>
      ne_start_of_mem_arrivals hbest.1 rfl
    simp [Settles, hnone, h.onMap, Hex.distance_self]
  · rw [Settles, h.isGreatest_arrivals_iff, h.nonempty_arrivals_iff]
    constructor
    · rintro (⟨hstart, -⟩ | ⟨⟨⟨hmap, -, -⟩, hleft⟩, hpos⟩)
      · exact absurd hstart hp
      · exact ⟨hmap, .inr (by omega), hleft⟩
    · rintro ⟨hmap, hless, hleft⟩
      have hless := hless.resolve_left hp
      exact .inr ⟨⟨⟨hmap, hp, hless.le⟩, hleft⟩, by omega⟩

/-- Wherever the unit goes on from, it has no less than nothing, and no more than at first. -/
theorem left_mem (h : t.Uniform k) (honward : p = t.start ∨ k * t.start.distance p < t.budget) :
    0 ≤ t.budget - k * t.start.distance p ∧ t.budget - k * t.start.distance p ≤ t.budget := by
  have hspent : 0 ≤ k * (t.start.distance p : ℤ) :=
    mul_nonneg h.pos.le (Int.natCast_nonneg _)
  rcases honward with rfl | hless
  · rw [Hex.distance_self]
    simpa using h.nonneg
  · omega

end Uniform

end Terrain

/-! ## Moves on uniform terrain -/

/-- A search returns exactly if every step can be judged from where the unit goes on, with what the
    distance leaves. -/
theorem exists_search_iff_of_uniform {quest : Quest} {t : Terrain} {k : ℤ} (on : quest.On t)
    (h : t.Uniform k) :
    (∃ s, search quest = .ok s) ↔
      ∀ p q, Grid.inBounds p t.radius = true →
        (p = t.start ∨ k * t.start.distance p < t.budget) → q ∈ p.neighbors →
        Grid.inBounds q t.radius = true → q ≠ t.start →
        ∃ v, quest.enter q (t.budget - k * t.start.distance p) = .ok v := by
  have hspends : ∀ p, Grid.inBounds p t.radius = true → p ≠ t.start → t.barred p = false →
      0 ≤ t.cost p := by
    intro p hmap haway _
    rw [h.cost p hmap haway]
    exact h.pos.le
  rw [exists_search_iff on hspends]
  constructor
  · intro henter p q hp honward hadj hmap haway
    refine henter p _ q (h.settles_iff.2 ⟨hp, honward, rfl⟩) (Search.mem_targets.2 ⟨hadj, ?_, ?_⟩)
    · rwa [on.radius]
    · rwa [on.start]
  · intro henter p b q hsettles hq
    obtain ⟨hp, honward, rfl⟩ := h.settles_iff.1 hsettles
    obtain ⟨hadj, hmap, haway⟩ := Search.mem_targets.1 hq
    exact henter p q hp honward hadj (on.radius ▸ hmap) (on.start ▸ haway)

section

variable {m : Mover} {board : Board} {start : Hex} {budget radius k : ℤ}

/-- Where the steps onto a hex can be read, they can be judged with any smaller budget if they can
    with the initial one. -/
theorem exists_evaluate_of_le {tile : Option EntityData} {p : Hex} {b : ℤ} (hreads : m.Reads tile)
    (h : m.Legible tile budget p) (hnonneg : 0 ≤ b) (hle : b ≤ budget) :
    ∃ v, evaluate m tile b p = .ok v := by
  refine exists_evaluate_of_legible hreads fun n hn => ?_
  simp only [List.mem_cons, List.not_mem_nil, or_false] at hn
  rcases hn with rfl | rfl | rfl | rfl
  · exact h p.q (by simp)
  · exact h p.r (by simp)
  · have hbudget := h budget (by simp)
    exact Text.Numeral.isShort_of_abs_le (by rwa [abs_of_nonneg hnonneg]) hbudget
  · exact h (m.turnover tile) (by simp)

/-- If a search returns, the hexes next to the start were judged with the initial budget. -/
theorem exists_evaluate_of_search {s : Search}
    (h : search (m.quest board start budget radius) = .ok s) {q : Hex} (hadj : q ∈ start.neighbors)
    (hmap : Grid.inBounds q radius = true) :
    ∃ v, evaluate m (board.dataOn q) budget q = .ok v := by
  obtain ⟨v, hv⟩ := Search.exists_enter_of_ok (m.quest_on board start budget radius) h
    (.inl ⟨rfl, rfl⟩) (Search.mem_targets.2 ⟨hadj, hmap, Hex.ne_of_mem_neighbors hadj⟩)
  exact ⟨v, (Mover.enter_eq_ok_iff.1 hv).2⟩

/-- A search over hexes that can be read fails for a number of too many digits alone. -/
theorem tooLong_of_search
    (hreads : ∀ p, Grid.inBounds p radius = true → p ≠ start → m.Reads (board.dataOn p))
    {e : Failure} (h : search (m.quest board start budget radius) = .error e) : e = .tooLong := by
  obtain ⟨q, b, ⟨p, -, -, hmap, haway⟩, henter⟩ :=
    Search.exists_tries_of_error (m.quest_on board start budget radius) h
  rcases Mover.enter_eq_error_iff.1 henter with ⟨-, rfl⟩ | ⟨-, hfails⟩
  · rfl
  · exact ((evaluate_eq_error_iff (hreads q hmap haway)).1 hfails).1

/-- A hex that costs something has a tile, and so a key. -/
theorem hasKey_of_entryCost {p : Hex} (hk : 0 < k) (h : m.entryCost (board.dataOn p) = k) :
    p.hasKey = true := by
  by_contra hkey
  rw [Board.dataOn, Board.tileOn_of_not_hasKey hkey] at h
  exact absurd (h : 0 = k) hk.ne

end

/-- On a map where every hex but the start can be read, costs the same and is not barred, a unit
    with a budget that is not negative reaches the hexes whose distance from the start it can pay
    for, and is left with the rest. The start may lie anywhere on the map. There are moves exactly
    if all steps from hexes that are left with what their distance leaves can be judged; so there
    are if the hexes, the budget and all that is charged and given back can be shown, and if there
    are none, it is for a number of too many digits. -/
theorem uniform_exact (m : Mover) (board : Board) (unit : String) (start : Hex)
    (budget radius k : ℤ) (hk : 0 < k) (hb : 0 ≤ budget)
    (hstart : Grid.inBounds start radius = true)
    (hreads : ∀ p, Grid.inBounds p radius = true → p ≠ start → m.Reads (board.dataOn p))
    (hcost : ∀ p, Grid.inBounds p radius = true → p ≠ start →
      m.entryCost (board.dataOn p) = k)
    (hbarred : ∀ p, Grid.inBounds p radius = true → p ≠ start →
      m.barred (board.dataOn p) = false) :
    (∀ s, search (m.quest board start budget radius) = .ok s →
      (∀ p, p ∈ (MoveSet.ofSearch unit start s).valid ↔
        Grid.inBounds p radius = true ∧ p ≠ start ∧ k * start.distance p ≤ budget) ∧
      ∀ p b, (MoveSet.ofSearch unit start s).budgets.get? p = some b ↔
        p ∈ (MoveSet.ofSearch unit start s).valid ∧ b = budget - k * start.distance p) ∧
    ((∃ s, search (m.quest board start budget radius) = .ok s) ↔
      ∀ p q, Grid.inBounds p radius = true → (p = start ∨ k * start.distance p < budget) →
        q ∈ p.neighbors → Grid.inBounds q radius = true → q ≠ start →
        ∃ v, evaluate m (board.dataOn q) (budget - k * start.distance p) q = .ok v) ∧
    ((∀ p, Grid.inBounds p radius = true → p ≠ start → m.Legible (board.dataOn p) budget p) →
      ∃ s, search (m.quest board start budget radius) = .ok s) ∧
    ∀ e, search (m.quest board start budget radius) = .error e → e = .tooLong := by
  have on := m.quest_on board start budget radius
  have huniform : (m.terrain board start budget radius).Uniform k :=
    ⟨hk, hb, hstart, hcost, hbarred⟩
  have hreturns : (∃ s, search (m.quest board start budget radius) = .ok s) ↔
      ∀ p q, Grid.inBounds p radius = true → (p = start ∨ k * start.distance p < budget) →
        q ∈ p.neighbors → Grid.inBounds q radius = true → q ≠ start →
        ∃ v, evaluate m (board.dataOn q) (budget - k * start.distance p) q = .ok v := by
    rw [exists_search_iff_of_uniform on huniform]
    refine forall₄_congr fun p q _ _ => forall₃_congr fun _ hmap haway => exists_congr fun v => ?_
    exact Mover.enter_eq_ok_iff.trans (and_iff_right (hasKey_of_entryCost hk (hcost q hmap haway)))
  refine ⟨fun s hs => ⟨fun p => ?_, fun p b => ?_⟩, hreturns, fun hlegible => hreturns.2 ?_,
    fun e => tooLong_of_search hreads⟩
  · rw [mem_valid_iff_of_search unit hs]
    exact huniform.nonempty_arrivals_iff
  · rw [get?_budgets_iff_of_search unit hs, mem_valid_iff_of_search unit hs]
    exact huniform.isGreatest_arrivals_iff
  · intro p q _ honward _ hmap haway
    obtain ⟨hnonneg, hle⟩ := huniform.left_mem honward
    exact exists_evaluate_of_le (hreads q hmap haway) (hlegible q hmap haway) hnonneg hle

/-! ## Flat land -/

namespace River

/-- A small map with the same toll and rest everywhere. -/
def flats (toll rest : ℤ) : Board :=
  (Grid.positions 1).foldl (fun board p => board.put p (tile toll rest)) .empty

theorem dataOn_flats (toll rest : ℤ) {p : Hex} (hp : Grid.inBounds p 1 = true) :
    (flats toll rest).dataOn p = some (tile toll rest) := by
  have hmem : p ∈ [⟨-1, 0⟩, ⟨-1, 1⟩, ⟨0, -1⟩, ⟨0, 0⟩, ⟨0, 1⟩, ⟨1, -1⟩, (⟨1, 0⟩ : Hex)] :=
    Grid.mem_positions.2 hp
  simp only [List.mem_cons, List.not_mem_nil, or_false] at hmem
  rcases hmem with rfl | rfl | rfl | rfl | rfl | rfl | rfl <;> rfl

/-- What is charged for a rest. -/
def fee : Relation :=
  ⟨ident 15, "Fee", ident 3, ident 4, ident 5, .onEnter, .modify "budget" "rest" .subtract⟩

/-- The toll is due twice and given back twice, and then there is a fee. -/
def innkeeper : Mover := { mover with relations := lender.relations ++ [fee] }

theorem asks_tolled (toll rest : ℤ) (n : ℕ) (name : String) :
    innkeeper.asks (tile toll rest) (tolled n name .subtract) = toll ∧
      innkeeper.asks (tile toll rest) (tolled n name .add) = -toll := ⟨rfl, rfl⟩

theorem asks_fee (toll rest : ℤ) : innkeeper.asks (tile toll rest) fee = rest := rfl

/-- The fee is all that a hex costs in the end. -/
theorem entryCost_innkeeper (toll rest : ℤ) :
    innkeeper.entryCost (some (tile toll rest)) = rest := by
  have happlicable : innkeeper.applicable (some (tile toll rest)) =
      [tolled 11 "Toll" .subtract, tolled 12 "Surcharge" .subtract, tolled 13 "Refund" .add,
        tolled 14 "Rebate" .add, fee] := rfl
  rw [← Mover.toll_eq_entryCost, Mover.toll, happlicable]
  simp [asks_tolled, asks_fee]

/-- The surcharge on a steep toll cannot be shown. -/
theorem evaluate_innkeeper (p : Hex) :
    evaluate innkeeper (some (tile steep 1)) 5 p = .error .tooLong := by
  have hcharges : innkeeper.charges (tile steep 1)
      ([tolled 11 "Toll" .subtract] ++ [tolled 12 "Surcharge" .subtract]) = steep + steep := by
    rw [Mover.charges_eq]
    simp [asks_tolled]
  refine (evaluate_eq_error_iff (reads_tile innkeeper steep 1)).2 ⟨rfl, tile steep 1, rfl,
    [tolled 11 "Toll" .subtract], tolled 12 "Surcharge" .subtract,
    [tolled 13 "Refund" .add, tolled 14 "Rebate" .add, fee], rfl,
    ⟨"budget", "toll", .subtract, rfl⟩, ?_, steep + steep, ?_, isShort_two_steep⟩
  · rw [hcharges]
    exact lt_two_steep
  · rw [hcharges]
    simp

end River

/-- From the east of flat land a traveller of two gets to the middle with one left, and to the west
    with nothing. -/
theorem uniform_exact_flats :
    ∃ s, search (River.mover.quest (River.flats 1 0) ⟨1, 0⟩ 2 1) = .ok s ∧
      (MoveSet.ofSearch "traveller" ⟨1, 0⟩ s).budgets.get? ⟨0, 0⟩ = some 1 ∧
      (MoveSet.ofSearch "traveller" ⟨1, 0⟩ s).budgets.get? ⟨-1, 0⟩ = some 0 := by
  have hflat : ∀ p, Grid.inBounds p 1 = true → p ≠ ⟨1, 0⟩ →
      (River.flats 1 0).dataOn p = some (River.tile 1 0) :=
    fun p hp _ => River.dataOn_flats 1 0 hp
  have hlegible : ∀ p ∈ Grid.positions 1, River.mover.Legible (some (River.tile 1 0)) 2 p := by
    unfold Mover.Legible
    decide
  obtain ⟨hexact, -, hreturns, -⟩ := uniform_exact River.mover (River.flats 1 0) "traveller"
    ⟨1, 0⟩ 2 1 1 (by decide) (by decide) (by decide)
    (fun p hp hne => by rw [hflat p hp hne]; exact River.reads_tile River.mover 1 0)
    (fun p hp hne => by rw [hflat p hp hne]; decide)
    (fun p hp hne => by rw [hflat p hp hne]; decide)
  obtain ⟨s, hs⟩ := hreturns fun p hp hne => by
    rw [hflat p hp hne]
    exact hlegible p (Grid.mem_positions.2 hp)
  obtain ⟨hvalid, hbest⟩ := hexact s hs
  exact ⟨s, hs, (hbest _ _).2 ⟨(hvalid _).2 (by decide), by decide⟩,
    (hbest _ _).2 ⟨(hvalid _).2 (by decide), by decide⟩⟩

/-- Every hex costs one in the end, but on the way a number comes up that cannot be shown. So a
    traveller of five, who could go anywhere, has no moves at all. -/
theorem uniform_overlong :
    ¬∀ (m : Mover) (board : Board) (unit : String) (start : Hex) (budget radius k : ℤ),
      0 < k → 0 ≤ budget → Grid.inBounds start radius = true →
      (∀ p, Grid.inBounds p radius = true → p ≠ start → m.Reads (board.dataOn p)) →
      (∀ p, Grid.inBounds p radius = true → p ≠ start → m.entryCost (board.dataOn p) = k) →
      (∀ p, Grid.inBounds p radius = true → p ≠ start → m.barred (board.dataOn p) = false) →
      ∃ s, search (m.quest board start budget radius) = .ok s ∧
        ∀ p, p ∈ (MoveSet.ofSearch unit start s).valid ↔
          Grid.inBounds p radius = true ∧ p ≠ start ∧ k * start.distance p ≤ budget := by
  intro h
  have hsteep : ∀ p, Grid.inBounds p 1 = true →
      (River.flats River.steep 1).dataOn p = some (River.tile River.steep 1) :=
    fun p hp => River.dataOn_flats River.steep 1 hp
  obtain ⟨s, hs, -⟩ := h River.innkeeper (River.flats River.steep 1) "traveller" ⟨0, 0⟩ 5 1 1
    (by decide) (by decide) (by decide)
    (fun p hp _ => by rw [hsteep p hp]; exact River.reads_tile _ _ _)
    (fun p hp _ => by rw [hsteep p hp]; exact River.entryCost_innkeeper _ _)
    (fun p hp _ => by rw [hsteep p hp]; rfl)
  obtain ⟨v, hv⟩ := exists_evaluate_of_search hs (q := ⟨1, 0⟩) (by decide) (by decide)
  rw [hsteep _ (by decide), River.evaluate_innkeeper] at hv
  cases hv

end HexRules.Movement
