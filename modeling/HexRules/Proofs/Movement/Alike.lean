import HexRules.Movement
import Mathlib.Tactic

/-!
# Data that read alike

Of a unit and of a tile, rules read the type and the integers behind the properties, and nothing
else. Two objects that are alike in this cannot be told apart by a step, whatever words and colours
they hold, and whatever is behind the point of a number. Objects that are equal are alike, also if
one has a zero where the other has a negative zero.

Results:
* `alike_of_beq`: equal objects are alike.
* `evaluate_congr`: a step does not tell alike tiles apart, nor units of one type.
* `ownBudget_congr`: alike units have the same budget.
-/

namespace HexRules

/-! ## Equal numbers -/

namespace Binary64

variable {x y : Binary64}

theorem exponentField_eq (x : Binary64) : x.exponentField = x.magnitude / 2 ^ 52 := by
  unfold exponentField magnitude
  simp only [Nat.pow_eq]
  omega

theorem fraction_eq (x : Binary64) : x.fraction = x.magnitude % 2 ^ 52 := by
  unfold fraction magnitude
  simp only [Nat.pow_eq]
  omega

theorem natAbs_rank (x : Binary64) : x.rank.natAbs = x.magnitude := by
  unfold rank
  split_ifs
  · rw [Int.natAbs_neg, Int.natAbs_natCast]
  · rw [Int.natAbs_natCast]

/-- All but the sign of a number depends on the magnitude alone. -/
theorem floorSize_congr (h : x.magnitude = y.magnitude) : x.floorSize = y.floorSize := by
  unfold floorSize exponent significand
  rw [exponentField_eq, exponentField_eq, fraction_eq, fraction_eq, h]

theorem floorSize_of_magnitude (h : x.magnitude = 0) : x.floorSize = 0 := by
  have hsignificand : x.significand = 0 := by
    rw [significand, exponentField_eq, fraction_eq, h]
    rfl
  rw [floorSize, hsignificand]
  split_ifs
  · exact Nat.zero_mul _
  · exact Nat.zero_div _

/-- Equal numbers have the same integer part; the two zeros are equal and have none but zero. -/
theorem toInt_of_beq (h : (x == y) = true) : x.toInt = y.toInt := by
  have hrank : x.rank = y.rank := by
    change x.eq y = true at h
    rw [eq, Bool.and_eq_true, beq_iff_eq] at h
    exact h.2
  have hmagnitude : x.magnitude = y.magnitude := by
    rw [← natAbs_rank, ← natAbs_rank, hrank]
  have htruncate : x.truncate = y.truncate := by
    by_cases hzero : x.magnitude = 0
    · rw [truncate, truncate, floorSize_of_magnitude hzero,
        floorSize_of_magnitude (hmagnitude ▸ hzero)]
      simp
    · -- apart from zero, the rank tells the sign
      have hsign : x.negative = y.negative := by
        rw [rank, rank, ← hmagnitude] at hrank
        cases hx : x.negative <;> cases hy : y.negative <;> simp only [hx, hy] at hrank ⊢
        all_goals
          simp at hrank
          omega
      rw [truncate, truncate, floorSize_congr hmagnitude, hsign]
  rw [toInt, toInt, isNaN, isNaN, isFinite, isFinite, exponentField_eq, exponentField_eq,
    fraction_eq, fraction_eq, hmagnitude, htruncate]

end Binary64

theorem PropertyValue.asInt_of_beq {v w : PropertyValue} (h : (v == w) = true) :
    asInt (some v) = asInt (some w) := by
  cases v with
  | int n =>
    cases w with
    | int m =>
      have heq : n = m := by simpa [BEq.beq, instBEqPropertyValue.beq] using h
      rw [heq]
    | _ => cases h
  | float x =>
    cases w with
    | float y => exact congrArg (Except.map some) (Binary64.toInt_of_beq h)
    | _ => cases h
  | _ =>
    cases w with
    | int m => cases h
    | float y => cases h
    | _ => rfl

/-! ## Equal tables -/

namespace Table

universe u v

variable {κ : Type u} {α : Type v} [DecidableEq κ]

theorem mem_of_find? {k : κ} {a : α} {entries : List (κ × α)} (h : find? k entries = some a) :
    (k, a) ∈ entries := by
  induction entries with
  | nil => cases h
  | cons entry rest ih =>
    obtain ⟨k', b⟩ := entry
    rw [find?] at h
    split_ifs at h with hk
    · cases h
      rw [hk]
      exact List.mem_cons_self
    · exact List.mem_cons_of_mem _ (ih h)

/-- Equal tables have equal values at every key. -/
theorem get?_of_beq [BEq α] {s t : Table κ α} (h : (s == t) = true) (k : κ) :
    Option.Rel (fun a b => (a == b) = true) (s.get? k) (t.get? k) := by
  have hbeq : (s.size == t.size && s.entries.all _) = true := h
  rw [Bool.and_eq_true, beq_iff_eq, List.all_eq_true] at hbeq
  obtain ⟨hsize, hall⟩ := hbeq
  have hfound : ∀ k a, s.get? k = some a → ∃ b, t.get? k = some b ∧ (a == b) = true := by
    intro k a hk
    have hentry := hall (k, a) (mem_of_find? hk)
    dsimp only at hentry
    cases ht : t.get? k with
    | none =>
      rw [ht] at hentry
      cases hentry
    | some b =>
      rw [ht] at hentry
      exact ⟨b, rfl, hentry⟩
  -- there are as many keys, so the other table has no more
  have hkeys : s.keys ⊆ t.keys := by
    intro k hk
    obtain ⟨a, ha⟩ := (mem_keys s k).1 hk
    obtain ⟨b, hb, -⟩ := hfound k a ha
    exact (mem_keys t k).2 ⟨b, hb⟩
  have hperm : s.keys.Perm t.keys := by
    apply (List.Nodup.subperm s.nodup hkeys).perm_of_length_le
    unfold keys
    rw [List.length_map, List.length_map]
    exact hsize.ge
  cases hk : s.get? k with
  | some a =>
    obtain ⟨b, hb, heq⟩ := hfound k a hk
    rw [hb]
    exact .some heq
  | none =>
    cases ht : t.get? k with
    | none => exact .none
    | some b =>
      obtain ⟨a, ha⟩ := (mem_keys s k).1 (hperm.mem_iff.2 ((mem_keys t k).2 ⟨b, ht⟩))
      rw [hk] at ha
      cases ha

end Table

/-! ## Alike objects -/

/-- Objects of one type with the same integers behind their properties. -/
structure EntityData.Alike (a b : EntityData) : Prop where
  typeId : a.typeId = b.typeId
  asInt : ∀ id, PropertyValue.asInt (a.get? id) = PropertyValue.asInt (b.get? id)

/-- Units of one name, in one place, with data that are alike. -/
structure BoardUnit.Alike (u v : BoardUnit) : Prop where
  id : u.id = v.id
  position : u.position = v.position
  data : u.data.Alike v.data

theorem EntityData.alike_refl (a : EntityData) : a.Alike a := ⟨rfl, fun _ => rfl⟩

theorem BoardUnit.alike_refl (u : BoardUnit) : u.Alike u := ⟨rfl, rfl, u.data.alike_refl⟩

/-- Equal objects are alike. -/
theorem EntityData.alike_of_beq {a b : EntityData} (h : (a == b) = true) : a.Alike b := by
  have hbeq : (a.typeId == b.typeId && a.properties == b.properties) = true := h
  rw [Bool.and_eq_true, beq_iff_eq] at hbeq
  refine ⟨hbeq.1, fun id => ?_⟩
  have hread : ∀ {v w : Option PropertyValue}, Option.Rel (fun v w => (v == w) = true) v w →
      PropertyValue.asInt v = PropertyValue.asInt w := by
    rintro v w (heq | _)
    · exact PropertyValue.asInt_of_beq heq
    · rfl
  exact hread (Table.get?_of_beq hbeq.2 id)

namespace Movement

variable {m : Mover} {data tile tile' : EntityData} {remaining : ℤ} {p : Hex}

/-! ## Conditions -/

mutual

/-- A condition asks for types only. -/
theorem holds_congr {player player' : Ident → Option EntityData}
    (h : ∀ role, (player role).map EntityData.typeId = (player' role).map EntityData.typeId)
    (f : Formula) : holds player f = holds player' f := by
  cases f with
  | isType role type | isNotType role type =>
    have hrole := h role
    rw [holds, holds]
    cases hp : player role <;> cases hp' : player' role <;> simp [hp, hp'] at hrole ⊢
    rw [hrole]
  | conjunction operands => exact holdsAll_congr h operands
  | disjunction operands => exact holdsAny_congr h operands
  | negation operand => exact congrArg _ (holds_congr h operand)
  | propertyCompare role property op value => rfl
  | crossCompare leftRole left op rightRole right => rfl
  | pathBudget concept cost costRole budget budgetRole => rfl

theorem holdsAll_congr {player player' : Ident → Option EntityData}
    (h : ∀ role, (player role).map EntityData.typeId = (player' role).map EntityData.typeId)
    (fs : List Formula) : holdsAll player fs = holdsAll player' fs := by
  cases fs with
  | nil => rfl
  | cons f rest => rw [holdsAll, holdsAll, holds_congr h f, holdsAll_congr h rest]

theorem holdsAny_congr {player player' : Ident → Option EntityData}
    (h : ∀ role, (player role).map EntityData.typeId = (player' role).map EntityData.typeId)
    (fs : List Formula) : holdsAny player fs = holdsAny player' fs := by
  cases fs with
  | nil => rfl
  | cons f rest => rw [holdsAny, holdsAny, holds_congr h f, holdsAny_congr h rest]

end

theorem blocks_congr {unit unit' : EntityData} (hunit : unit.typeId = unit'.typeId)
    (htile : tile.typeId = tile'.typeId) (r : Relation) (condition : Option Formula) :
    blocks r unit (some tile) condition = blocks r unit' (some tile') condition := by
  cases condition with
  | none => rfl
  | some f =>
    apply holds_congr
    intro role
    rw [player, player]
    split_ifs
    · exact congrArg some hunit
    · exact congrArg some htile
    · rfl

/-! ## Steps -/

theorem applies_congr (htile : tile.typeId = tile'.typeId) :
    ({ m with data := data } : Mover).applies tile' = m.applies tile := by
  funext r
  rw [Mover.applies, Mover.applies, htile]

theorem amount_congr (h : tile.Alike tile') (r : Relation) (source : String) :
    ({ m with data := data } : Mover).amount tile' r source = m.amount tile r source := by
  have hvalue : PropertyValue.asInt
      (resolve m.concepts.bindings tile' source r.conceptId r.objectRole) =
      PropertyValue.asInt (resolve m.concepts.bindings tile source r.conceptId r.objectRole) := by
    rw [resolve, resolve, h.typeId]
    cases resolveProperty m.concepts.bindings tile'.typeId r.conceptId r.objectRole source with
    | none => rfl
    | some id => exact (h.asInt id).symm
  rw [Mover.amount, Mover.amount, hvalue]

theorem typeName_congr (hunit : m.data.typeId = data.typeId) :
    ({ m with data := data } : Mover).typeName = m.typeName := by
  rw [Mover.typeName, Mover.typeName, hunit]

theorem Tally.add_congr (hunit : m.data.typeId = data.typeId) (h : tile.Alike tile') :
    Tally.add { m with data := data } tile' remaining p = Tally.add m tile remaining p := by
  funext t r
  rw [add, add]
  cases r.effect with
  | modify target source operation =>
    dsimp only
    rw [amount_congr h]
    simp only [charge, tooFar, typeName_congr hunit]
  | block condition =>
    dsimp only
    rw [blocks_congr hunit h.typeId, keptOut, keptOut, typeName_congr hunit, h.typeId]
  | allow condition => rfl

/-- A step does not tell alike tiles apart, nor units of one type. -/
theorem evaluate_congr (hunit : m.data.typeId = data.typeId) {tile? tile?' : Option EntityData}
    (h : Option.Rel EntityData.Alike tile? tile?') (remaining : ℤ) (p : Hex) :
    evaluate { m with data := data } tile?' remaining p = evaluate m tile? remaining p := by
  cases h with
  | none => rfl
  | some halike =>
    rw [evaluate, evaluate, Tally.add_congr hunit halike, applies_congr halike.typeId]

/-! ## Budgets -/

/-- Alike units have the same budget. -/
theorem ownBudget_congr (h : m.data.Alike data) :
    ({ m with data := data } : Mover).ownBudget = m.ownBudget := by
  have hread : readNumber data = readNumber m.data := by
    funext entry
    rw [readNumber, readNumber]
    cases entry.1.propertyFor entry.2 with
    | none => rfl
    | some id => exact congrArg (Except.mapError Failure.notFinite) (h.asInt id).symm
  rw [Mover.ownBudget, Mover.ownBudget, hread]
  rfl

end Movement

end HexRules
