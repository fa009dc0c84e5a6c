import HexRules.Board
import HexRules.Proofs.Grid.Size
import HexRules.Proofs.Hex.Key

/-!
# Filling a board

Whoever fills a board goes over the hexes of the map, nearest to a centre first, looks whether the
hex has a tile by now, and asks for the data of a new one if it has none. The one who is asked may
do anything, such as take down what is asked for.

No hex comes twice and no two hexes have one key, so a tile that was put down fills no other gap.
Hence the gaps may as well be found before the first tile is put down, and each of them is asked for
once. What lies on the board in the end is told hex by hex, without the order; so the centre does
not matter.

A map may have hexes without a key, if its radius has too many digits. Filling then breaks off at
the first of them.

Results:
* `fillAsking_eq`: those asked for are the gaps that were there at the start.
* `tileAt_fill`, `get?_fill`: what lies on a filled board.
* `fill_exact`: filling adds what is missing, asks for nothing else and changes nothing else.
-/

namespace HexRules.Board

variable {board : Board} {radius : ℤ} {center : Hex} {make : Hex → EntityData} {p : Hex}

/-! ## The gaps -/

/-- The hexes that filling comes to: all of the map, or those before the first without key. -/
def fillRange (radius : ℤ) (center : Hex) : List Hex :=
  (fillOrder radius center).takeWhile Hex.hasKey

/-- The hexes without a tile that filling comes to. -/
def gaps (board : Board) (radius : ℤ) (center : Hex) : List Hex :=
  (fillRange radius center).filter fun p => (board.tileOn p).isNone

theorem fillOrder_perm (radius : ℤ) (center : Hex) :
    (fillOrder radius center).Perm (Grid.positions radius) :=
  List.mergeSort_perm _ _

theorem mem_fillOrder : p ∈ fillOrder radius center ↔ Grid.inBounds p radius = true := by
  rw [(fillOrder_perm radius center).mem_iff, Grid.mem_positions]

theorem nodup_fillOrder (radius : ℤ) (center : Hex) : (fillOrder radius center).Nodup :=
  (fillOrder_perm radius center).nodup_iff.2 (Grid.nodup_positions radius)

theorem all_fillOrder :
    (fillOrder radius center).all Hex.hasKey = true ↔
      radius < 0 ∨ Text.Numeral.isShort radius = true := by
  simp only [List.all_eq_true, mem_fillOrder, Grid.forall_hasKey_iff]

theorem inBounds_of_mem_gaps (h : p ∈ board.gaps radius center) :
    Grid.inBounds p radius = true ∧ p.hasKey = true := by
  have hp := List.mem_of_mem_filter h
  exact ⟨mem_fillOrder.1 ((List.takeWhile_prefix _).subset hp), List.mem_takeWhile_imp hp⟩

theorem nodup_gaps (board : Board) (radius : ℤ) (center : Hex) :
    (board.gaps radius center).Nodup :=
  ((nodup_fillOrder radius center).sublist (List.takeWhile_sublist _)).filter _

theorem mem_gaps (hall : (fillOrder radius center).all Hex.hasKey = true) :
    p ∈ board.gaps radius center ↔ Grid.inBounds p radius = true ∧ board.tileOn p = none := by
  rw [gaps, fillRange, List.takeWhile_eq_self_iff.2 (List.all_eq_true.1 hall), List.mem_filter,
    mem_fillOrder, Option.isNone_iff_eq_none]

theorem tileOn_put_of_ne {p p' : Hex} (h : p ≠ p') (data : EntityData) :
    (board.put p data).tileOn p' = board.tileOn p' := by
  rw [tileOn_put, if_neg fun hkey => h (Hex.key_injective hkey.2)]

/-! ## Gaps found beforehand -/

section Loop

variable {m : Type → Type} [Monad m] [LawfulMonad m] {ε : Type}

/-- Puts a tile on a hex, with the data that is given when asked for. -/
def putAsking (ask : Hex → m EntityData) (board : Board) (p : Hex) : m Board :=
  board.put p <$> ask p

/-- A tile that is put down fills no gap on the hexes to come. -/
theorem fillHexes_eq (noKey : ε) (ask : Hex → m EntityData) {ps : List Hex} (hps : ps.Nodup)
    (board : Board) :
    fillHexes noKey (fun p => .ok <$> ask p) ps board =
      (fun filled => (if ps.all Hex.hasKey then .ok () else .error noKey, filled)) <$>
        ((ps.takeWhile Hex.hasKey).filter fun p => (board.tileOn p).isNone).foldlM
          (putAsking ask) board := by
  induction ps generalizing board with
  | nil => exact (map_pure _ _).symm
  | cons p rest ih =>
    obtain ⟨hp, hrest⟩ := List.nodup_cons.1 hps
    rw [fillHexes]
    by_cases hkey : p.hasKey = true
    · rw [tileAt_of_hasKey hkey, List.takeWhile_cons_of_pos hkey, List.all_cons, hkey,
        Bool.true_and]
      cases htile : board.tileOn p with
      | some tile => rw [List.filter_cons_of_neg (by simp [htile])]; exact ih hrest board
      | none =>
        have hsame (data : EntityData) :
            ((rest.takeWhile Hex.hasKey).filter fun p' =>
                ((board.put p data).tileOn p').isNone) =
              (rest.takeWhile Hex.hasKey).filter fun p' => (board.tileOn p').isNone :=
          List.filter_congr fun p' hp' => by
            have hmem := (List.takeWhile_prefix _).subset hp'
            rw [tileOn_put_of_ne (ne_of_mem_of_not_mem hmem hp).symm]
        rw [List.filter_cons_of_pos (by simp [htile]), List.foldlM_cons, putAsking, map_bind,
          bind_map_left, bind_map_left]
        simp only [placeTile_of_hasKey _ hkey, ih hrest, hsame]
    · rw [tileAt_of_not_hasKey hkey, List.takeWhile_cons_of_neg hkey, List.all_cons,
        Bool.eq_false_iff.2 hkey]
      exact (map_pure _ _).symm

theorem fillAsking_eq (noKey : ε) (board : Board) (radius : ℤ) (center : Hex)
    (ask : Hex → m EntityData) :
    board.fillAsking noKey radius center (fun p => .ok <$> ask p) =
      (fun filled =>
          (if (fillOrder radius center).all Hex.hasKey then .ok () else .error noKey, filled)) <$>
        (board.gaps radius center).foldlM (putAsking ask) board :=
  fillHexes_eq noKey ask (nodup_fillOrder radius center) board

end Loop

/-- Gives data for a hex, and takes down that it was asked for. -/
def noting (make : Hex → EntityData) (p : Hex) : StateM (List Hex) EntityData := do
  modify (· ++ [p])
  return make p

theorem fill_eq (board : Board) (radius : ℤ) (center : Hex) (make : Hex → EntityData) :
    board.fill radius center make =
      (if (fillOrder radius center).all Hex.hasKey then .ok () else .error .tooLong,
        (board.gaps radius center).foldl (fun b p => b.put p (make p)) board) := by
  refine (fillAsking_eq (m := Id) Hex.NoKey.tooLong board radius center make).trans ?_
  exact congrArg (Prod.mk _) (List.foldlM_pure (m := Id))

theorem run_foldlM_noting (make : Hex → EntityData) (ps : List Hex) (board : Board)
    (asked : List Hex) :
    (ps.foldlM (putAsking (noting make)) board).run asked =
      (ps.foldl (fun b p => b.put p (make p)) board, asked ++ ps) := by
  induction ps generalizing board asked with
  | nil => rw [List.append_nil]; rfl
  | cons p rest ih =>
    have hstep : (board.putAsking (noting make) p).run asked =
        (board.put p (make p), asked ++ [p]) := rfl
    rw [List.foldlM_cons, StateT.run_bind, hstep]
    exact (ih _ _).trans (by rw [List.append_assoc]; rfl)

theorem run_fillAsking_noting (board : Board) (radius : ℤ) (center : Hex)
    (make : Hex → EntityData) :
    (board.fillAsking Hex.NoKey.tooLong radius center fun p => .ok <$> noting make p).run [] =
      (board.fill radius center make, board.gaps radius center) := by
  rw [fillAsking_eq, StateT.run_map, run_foldlM_noting, fill_eq]
  rfl

/-! ## What lies on the board -/

theorem tileOn_foldl_put (make : Hex → EntityData) {ps : List Hex}
    (hps : ∀ p ∈ ps, p.hasKey = true) (board : Board) (p : Hex) :
    (ps.foldl (fun b p => b.put p (make p)) board).tileOn p =
      if p ∈ ps then some ⟨p, make p⟩ else board.tileOn p := by
  induction ps generalizing board with
  | nil => simp
  | cons p' rest ih =>
    rw [List.foldl_cons, ih fun p hp => hps p (List.mem_cons_of_mem p' hp)]
    by_cases hp : p' = p
    · subst hp
      simp [tileOn_put, hps p' List.mem_cons_self]
    · simp [tileOn_put_of_ne hp, Ne.symm hp]

theorem get?_foldl_put (make : Hex → EntityData) {ps : List Hex} {key : String}
    (hps : ∀ p ∈ ps, p.key ≠ key) (board : Board) :
    (ps.foldl (fun b p => b.put p (make p)) board).tiles.get? key = board.tiles.get? key := by
  induction ps generalizing board with
  | nil => rfl
  | cons p rest ih =>
    have hplaced := Table.get?_insert board.tiles p.key key ⟨p, make p⟩
    rw [if_neg (hps p List.mem_cons_self)] at hplaced
    rw [List.foldl_cons, ih fun p' hp' => hps p' (List.mem_cons_of_mem p hp')]
    exact hplaced

theorem units_foldl_put (make : Hex → EntityData) (ps : List Hex) (board : Board) :
    (ps.foldl (fun b p => b.put p (make p)) board).units = board.units := by
  induction ps generalizing board with
  | nil => rfl
  | cons p rest ih => exact ih _

theorem fst_fill_eq_ok_iff :
    (board.fill radius center make).1 = .ok () ↔
      radius < 0 ∨ Text.Numeral.isShort radius = true := by
  have hall : (fillOrder radius center).all Hex.hasKey = true ↔ _ := all_fillOrder
  rw [fill_eq, ← hall]
  split_ifs with h <;> simp [h]

/-- On the map the tiles that were there lie on, and new ones lie on all other hexes. -/
theorem tileAt_fill (hfilled : radius < 0 ∨ Text.Numeral.isShort radius = true)
    (hp : Grid.inBounds p radius = true) :
    (board.fill radius center make).2.tileAt p =
      .ok (some ((board.tileOn p).getD ⟨p, make p⟩)) := by
  rw [tileAt_of_hasKey (Grid.forall_hasKey_iff.2 hfilled p hp), fill_eq,
    tileOn_foldl_put make fun p hp => (inBounds_of_mem_gaps hp).2]
  simp only [mem_gaps (all_fillOrder.2 hfilled), hp, true_and]
  cases htile : board.tileOn p <;> simp

/-- Under the keys of other hexes, and under what is no key, nothing changes. -/
theorem get?_fill {key : String} (hkey : ∀ p, Grid.inBounds p radius = true → p.key ≠ key) :
    (board.fill radius center make).2.tiles.get? key = board.tiles.get? key := by
  rw [fill_eq]
  exact get?_foldl_put make (fun p hp => hkey p (inBounds_of_mem_gaps hp).1) board

theorem units_fill : (board.fill radius center make).2.units = board.units := by
  rw [fill_eq]
  exact units_foldl_put make _ board

theorem get?_fill_eq_get?_fill (hfilled : radius < 0 ∨ Text.Numeral.isShort radius = true)
    (center' : Hex) (key : String) :
    (board.fill radius center' make).2.tiles.get? key =
      (board.fill radius center make).2.tiles.get? key := by
  by_cases hkey : ∃ p, Grid.inBounds p radius = true ∧ p.key = key
  · obtain ⟨p, hp, rfl⟩ := hkey
    have hlies (c : Hex) : (board.fill radius c make).2.tiles.get? p.key =
        some ((board.tileOn p).getD ⟨p, make p⟩) := by
      have hhas := Grid.forall_hasKey_iff.2 hfilled p hp
      have hat : (board.fill radius c make).2.tileAt p = _ := tileAt_fill hfilled hp
      rwa [tileAt_of_hasKey hhas, tileOn_of_hasKey hhas, Except.ok.injEq] at hat
    rw [hlies, hlies]
  · have hother : ∀ p, Grid.inBounds p radius = true → p.key ≠ key := fun p hp h =>
      hkey ⟨p, hp, h⟩
    rw [get?_fill hother, get?_fill hother]

theorem count_gaps (hfilled : radius < 0 ∨ Text.Numeral.isShort radius = true) (p : Hex) :
    (board.gaps radius center).count p =
      if Grid.inBounds p radius = true ∧ board.tileOn p = none then 1 else 0 := by
  rw [(nodup_gaps board radius center).count]
  simp only [mem_gaps (all_fillOrder.2 hfilled)]

/-! ## Filling -/

/-- Filling comes to its end if all hexes of the map have keys, which they have unless the radius
    has too many digits. It adds what is missing. A hex of the map has the tile that it had, or else
    a new one with its own data. Each hex of the map without a tile is asked for once, and no other
    hex is. The centre does not matter to what lies on the board. All other tiles and all units stay
    as they are, even if filling breaks off. -/
theorem fill_exact (board : Board) (radius : ℤ) (center : Hex) (make : Hex → EntityData) :
    ((board.fill radius center make).1 = .ok () ↔
      radius < 0 ∨ Text.Numeral.isShort radius = true) ∧
    ((board.fill radius center make).1 = .ok () →
      ∀ p, Grid.inBounds p radius = true →
        (board.fill radius center make).2.tileAt p =
          .ok (some ((board.tileOn p).getD ⟨p, make p⟩))) ∧
    (∀ key, (∀ p, Grid.inBounds p radius = true → p.key ≠ key) →
      (board.fill radius center make).2.tiles.get? key = board.tiles.get? key) ∧
    (board.fill radius center make).2.units = board.units ∧
    (∃ asked,
      (board.fillAsking Hex.NoKey.tooLong radius center fun p => .ok <$> noting make p).run [] =
        (board.fill radius center make, asked) ∧
      ((board.fill radius center make).1 = .ok () →
        ∀ p, asked.count p =
          if Grid.inBounds p radius = true ∧ board.tileOn p = none then 1 else 0)) ∧
    ((board.fill radius center make).1 = .ok () →
      ∀ center' key, (board.fill radius center' make).2.tiles.get? key =
        (board.fill radius center make).2.tiles.get? key) := by
  simp only [fst_fill_eq_ok_iff, true_and, iff_self]
  exact ⟨fun hfilled _ => tileAt_fill hfilled, fun _ => get?_fill, units_fill,
    ⟨_, run_fillAsking_noting board radius center make, count_gaps⟩, get?_fill_eq_get?_fill⟩

/-- A board with a tile in the middle, and with one under a key that is no hex's. -/
def ford : Board :=
  ⟨.ofList [("0,0", ⟨.origin, ⟨⟨1⟩, .empty⟩⟩), ("+1,0", ⟨⟨1, 0⟩, ⟨⟨2⟩, .empty⟩⟩)], .empty⟩

/-- Both tiles stay, and the hex that the second one says it lies on gets a tile. -/
theorem fill_exact_ford :
    let (outcome, filled) := ford.fill 1 ⟨0, 1⟩ fun _ => ⟨⟨3⟩, .empty⟩
    outcome = .ok () ∧
      filled.tileAt .origin = .ok (some ⟨.origin, ⟨⟨1⟩, .empty⟩⟩) ∧
      filled.tileAt ⟨1, 0⟩ = .ok (some ⟨⟨1, 0⟩, ⟨⟨3⟩, .empty⟩⟩) ∧
      filled.tiles.get? "+1,0" = some ⟨⟨1, 0⟩, ⟨⟨2⟩, .empty⟩⟩ := by
  obtain ⟨hends, hmap, hother, -⟩ := fill_exact ford 1 ⟨0, 1⟩ fun _ => ⟨⟨3⟩, .empty⟩
  have hfilled := hends.2 (.inr (by decide))
  have hkey : ∀ p ∈ Grid.positions 1, p.key ≠ "+1,0" := by decide
  exact ⟨hfilled, hmap hfilled .origin (by decide), hmap hfilled ⟨1, 0⟩ (by decide),
    hother "+1,0" fun p hp => hkey p (Grid.mem_positions.2 hp)⟩

end HexRules.Board
