import HexRules.Proofs.Movement.Explained
import HexRules.Proofs.Movement.Unreadable
import HexRules.Proofs.Text.Numeral

/-!
# The verdict of a step

What a step costs is a sum over the relations that apply to the tile, and a block is in force or not
whatever the others say. So the verdict does not depend on the order of the relations, although what
they come to rises and falls on the way and findings are left wherever it exceeds the budget.

The order does matter for whether there is a verdict at all. A finding shows what the relations have
come to so far, and a number of too many digits cannot be shown. If a toll is charged twice before
it is given back twice the step may break off; if it is given back in between, the same step may
succeed. No order breaks off if the sum of all that the relations charge and give back is short
enough to be shown.

Results:
* `Mover.toll_eq_entryCost`: the cost of a step as a sum over the values behind the names.
* `evaluate_eq_error_iff`: when a step comes to no verdict.
* `evaluate_eq_open_iff_of_perm`: the verdict in another order of the relations.
* `exists_evaluate_of_legible`: when there is a verdict in every order.
* `evaluate_exact`: all that is said of a single step.
-/

namespace HexRules

namespace Movement

open PropertyValue (integer?)
open Text.Numeral (isShort)

/-! ## What the relations ask for -/

namespace Mover

variable {m : Mover} {tile : EntityData} {r : Relation}

/-- The integer behind a name that a relation reads off a tile; zero where there is none. -/
def read (m : Mover) (tile : EntityData) (r : Relation) (source : String) : ℤ :=
  (integer? (resolve m.concepts.bindings tile source r.conceptId r.objectRole)).getD 0

/-- What a relation asks for: what it subtracts, or what it adds, as less than nothing. -/
def asks (m : Mover) (tile : EntityData) (r : Relation) : ℤ :=
  match r.effect with
  | .modify _ source .subtract => m.read tile r source
  | .modify _ source .add => -m.read tile r source
  | _ => 0

/-- The relations that apply to a tile; where there is no tile, none does. -/
def applicable (m : Mover) : Option EntityData → List Relation
  | none => []
  | some tile => m.relations.filter (m.applies tile)

/-- What all relations to a tile ask for. -/
def toll (m : Mover) : Option EntityData → ℤ
  | none => 0
  | some tile => ((m.applicable (some tile)).map (m.asks tile)).sum

/-- What the relations to a tile charge and give back, taken together. -/
def turnover (m : Mover) : Option EntityData → ℤ
  | none => 0
  | some tile => ((m.applicable (some tile)).map fun r => |m.asks tile r|).sum

theorem getD_amount (m : Mover) (tile : EntityData) (r : Relation) (source : String) :
    (m.amount tile r source).toOption.getD 0 = m.read tile r source := by
  unfold read
  by_cases hv : PropertyValue.isUnbounded
      (resolve m.concepts.bindings tile source r.conceptId r.objectRole) = true
  · obtain ⟨e, he⟩ := exists_amount_eq_error hv
    cases hn : integer? (resolve m.concepts.bindings tile source r.conceptId r.objectRole) with
    | none =>
      rw [he]
      rfl
    | some n =>
      rw [PropertyValue.isUnbounded_of_integer? hn] at hv
      cases hv
  · rw [Bool.not_eq_true] at hv
    rw [amount_eq hv]
    rfl

theorem asks_eq (m : Mover) (tile : EntityData) (r : Relation) :
    m.asks tile r = m.reading .subtract tile r - m.reading .add tile r := by
  unfold asks reading
  cases r.effect with
  | modify target source operation =>
    dsimp only
    rw [getD_amount]
    cases operation <;> simp
  | block condition => rfl
  | allow condition => rfl

theorem charges_eq (m : Mover) (tile : EntityData) (rs : List Relation) :
    m.charges tile rs = (rs.map (m.asks tile)).sum := by
  induction rs with
  | nil => rfl
  | cons r rest ih =>
    rw [charges] at ih ⊢
    simp only [List.map_cons, List.sum_cons, asks_eq, ← ih]
    ring

theorem toll_eq_entryCost (m : Mover) (tile : Option EntityData) :
    m.toll tile = m.entryCost tile := by
  cases tile with
  | none => rfl
  | some tile => exact (m.charges_eq tile _).symm

/-- What some of the relations to a tile come to is within the turnover of all. -/
theorem abs_charges_le {before after : List Relation}
    (h : m.applicable (some tile) = before ++ after) :
    |m.charges tile before| ≤ m.turnover (some tile) := by
  have hbefore : ∀ rs : List Relation,
      |(rs.map (m.asks tile)).sum| ≤ (rs.map fun r => |m.asks tile r|).sum := by
    intro rs
    induction rs with
    | nil => simp
    | cons r rest ih =>
      rw [List.map_cons, List.map_cons, List.sum_cons, List.sum_cons]
      exact (abs_add_le _ _).trans (by omega)
  have hafter : 0 ≤ (after.map fun r => |m.asks tile r|).sum := by
    refine List.sum_nonneg fun n hn => ?_
    obtain ⟨r, -, rfl⟩ := List.mem_map.1 hn
    exact abs_nonneg _
  rw [charges_eq, turnover, h, List.map_append, List.sum_append]
  have := hbefore before
  omega

end Mover

/-! ## Findings name relations -/

/-- A finding is against a relation. -/
structure Finding.Against (f : Finding) (r : Relation) : Prop where
  id : f.constraintId = r.id
  name : f.constraintName = r.name
  unsatisfied : f.satisfied = false

/-- A finding about the cost shows the hex, the cost and the budget. -/
theorem tooFar_eq_ok {m : Mover} {r : Relation} {target : String} {cost remaining : ℤ} {p : Hex}
    {f : Finding} (h : tooFar m r target cost remaining p = .ok f) :
    f.Against r ∧ ∀ n ∈ [p.q, p.r, cost, remaining], isShort n = true := by
  obtain ⟨_, hq, h⟩ := Outcome.bind_eq_ok_iff.1 h
  obtain ⟨_, hr, h⟩ := Outcome.bind_eq_ok_iff.1 h
  obtain ⟨_, hcost, h⟩ := Outcome.bind_eq_ok_iff.1 h
  obtain ⟨_, hremaining, h⟩ := Outcome.bind_eq_ok_iff.1 h
  cases h
  refine ⟨⟨rfl, rfl, rfl⟩, ?_⟩
  simp [(shown_eq_ok_iff.1 hq).1, (shown_eq_ok_iff.1 hr).1, (shown_eq_ok_iff.1 hcost).1,
    (shown_eq_ok_iff.1 hremaining).1]

namespace Tally

variable {m : Mover} {tile : EntityData} {remaining : ℤ} {p : Hex} {t t' : Tally} {r : Relation}
  {rs : List Relation}

/-- A relation leaves no finding but against itself. -/
theorem against_add (h : t.add m tile remaining p r = .ok t') {f : Finding}
    (hf : f ∈ t'.findings) : f ∈ t.findings ∨ f.Against r := by
  rcases add_cases h with ⟨target, source, operation, n, -, -, hcharge⟩ |
    ⟨condition, -, -, rfl⟩ | ⟨condition, -, rfl⟩
  · rcases charge_cases hcharge with ⟨-, rfl⟩ | ⟨-, finding, hfar, rfl⟩
    · exact .inl hf
    · refine (List.mem_append.1 hf).imp_right fun hnew => ?_
      rw [List.mem_singleton.1 hnew]
      exact (tooFar_eq_ok hfar).1
  · refine (List.mem_append.1 hf).imp_right fun hnew => ?_
    rw [List.mem_singleton.1 hnew]
    exact ⟨rfl, rfl, rfl⟩
  · exact .inl hf

/-- All findings are against relations that were taken account of. -/
theorem exists_against_of_foldlM (h : rs.foldlM (Tally.add m tile remaining p) .start = .ok t') :
    ∀ f ∈ t'.findings, ∃ r ∈ rs, f.Against r := by
  refine Outcome.foldlM_ok_induction
    (fun t : Tally => ∀ f ∈ t.findings, ∃ r ∈ rs, f.Against r) ?_ h ?_
  · intro r hr t t' hadd ht f hf
    rcases against_add hadd hf with hold | hnew
    · exact ht f hold
    · exact ⟨r, hr, hnew⟩
  · exact fun f hf => absurd hf List.not_mem_nil

end Tally

theorem exists_against_of_evaluate {m : Mover} {tile : Option EntityData} {remaining : ℤ} {p : Hex}
    {findings : List Finding} (h : evaluate m tile remaining p = .ok (.blocked findings)) :
    ∀ f ∈ findings, ∃ r ∈ m.applicable tile, f.Against r := by
  have hverdict : ∀ t : Tally, t.verdict remaining = .blocked findings → t.findings = findings := by
    intro t ht
    unfold Tally.verdict at ht
    split_ifs at ht
    exact Verdict.blocked.inj ht
  cases tile with
  | none =>
    rw [← hverdict _ (Except.ok.inj h)]
    exact fun f hf => absurd hf List.not_mem_nil
  | some tile =>
    obtain ⟨t, ht, hv⟩ := Outcome.bind_eq_ok_iff.1 h
    rw [← hverdict t (Except.ok.inj hv)]
    exact Tally.exists_against_of_foldlM ht

/-! ## When there is no verdict -/

namespace Tally

variable {m : Mover} {tile : EntityData} {remaining : ℤ} {p : Hex} {t t' : Tally} {r : Relation}
  {before after : List Relation}

/-- A relation that is taken account of does not have to show a number of too many digits. -/
theorem not_overstates_of_add (h : t.add m tile remaining p r = .ok t')
    (ht : t.cost = m.charges tile before) : ¬m.Overstates tile remaining p before r := by
  rintro ⟨⟨target, source, operation, he⟩, hover, n, hn, hlong⟩
  rw [add, he] at h
  obtain ⟨k, hk, hcharge⟩ := Outcome.bind_eq_ok_iff.1 h
  have hcost : t.cost + costOf operation k = m.charges tile (before ++ [r]) := by
    rw [Mover.charges_append, Mover.reading_sub_reading he hk, ht]
  rcases charge_cases hcharge with ⟨hcovered, -⟩ | ⟨-, f, hfar, -⟩
  · omega
  · rw [hcost] at hfar
    rw [(tooFar_eq_ok hfar).2 n hn] at hlong
    cases hlong

theorem not_overstates_of_foldlM
    (h : (before ++ r :: after).foldlM (Tally.add m tile remaining p) .start = .ok t') :
    ¬m.Overstates tile remaining p before r := by
  rw [List.foldlM_append] at h
  obtain ⟨t, ht, hrest⟩ := Outcome.bind_eq_ok_iff.1 h
  obtain ⟨next, hadd, -⟩ := Outcome.foldlM_cons_eq_ok_iff.1 hrest
  refine not_overstates_of_add hadd ?_
  rw [(foldlM_add ht).1]
  exact zero_add _

end Tally

section

variable {m : Mover} {tile : Option EntityData} {remaining : ℤ} {p : Hex} {v : Verdict}

/-- No relation to a tile reads a number that is not finite. -/
def Mover.Reads (m : Mover) (tile : Option EntityData) : Prop :=
  ∀ data ∈ tile, ∀ r ∈ m.applicable tile, ¬m.Misreads data r

/-- Whoever moves, a tile can be read if none of its values is a number that is not finite. -/
theorem Mover.reads_of_bounded {data : EntityData}
    (h : ∀ id, PropertyValue.isUnbounded (data.get? id) = false) : m.Reads (some data) := by
  rintro _ ⟨⟩ r - ⟨target, source, operation, -, hv⟩
  unfold resolve at hv
  cases hid : resolveProperty m.concepts.bindings data.typeId r.conceptId r.objectRole source with
  | none =>
    rw [hid] at hv
    cases hv
  | some id =>
    rw [hid, Option.bind_some, h id] at hv
    cases hv

/-- Where all numbers are finite, a step comes to no verdict exactly if some relation has to show a
    number of too many digits. -/
theorem evaluate_eq_error_iff (hreads : m.Reads tile) {e : Failure} :
    evaluate m tile remaining p = .error e ↔
      e = .tooLong ∧ ∃ data ∈ tile, ∃ before r after,
        m.applicable tile = before ++ r :: after ∧ m.Overstates data remaining p before r := by
  have hfails : ∀ {e}, evaluate m tile remaining p = .error e →
      e = .tooLong ∧ ∃ data ∈ tile, ∃ before r after,
        m.applicable tile = before ++ r :: after ∧ m.Overstates data remaining p before r := by
    intro e h
    obtain ⟨data, rfl, before, r, after, hsplit, hbreaks⟩ := evaluate_eq_error h
    have hr : r ∈ m.applicable (some data) := by
      rw [Mover.applicable, hsplit]
      exact List.mem_append_right _ List.mem_cons_self
    cases e with
    | notFinite e => exact absurd hbreaks (hreads data rfl r hr)
    | tooLong => exact ⟨rfl, data, rfl, before, r, after, hsplit, hbreaks⟩
  refine ⟨hfails, ?_⟩
  rintro ⟨rfl, data, rfl, before, r, after, hsplit, hover⟩
  cases h : evaluate m (some data) remaining p with
  | error e => rw [(hfails h).1]
  | ok v =>
    obtain ⟨t, ht, -⟩ := Outcome.bind_eq_ok_iff.1 h
    rw [show m.relations.filter (m.applies data) = before ++ r :: after from hsplit] at ht
    exact absurd hover (Tally.not_overstates_of_foldlM ht)

/-- There is a verdict if all that its findings have to show can be shown: the hex, the budget, and
    whatever the relations come to on the way. -/
theorem exists_evaluate_of_isShort (hreads : m.Reads tile)
    (hshown : ∀ n ∈ [p.q, p.r, remaining], isShort n = true)
    (hcosts : ∀ data ∈ tile, ∀ rs, rs <+: m.applicable tile → isShort (m.charges data rs) = true) :
    ∃ v, evaluate m tile remaining p = .ok v := by
  cases he : evaluate m tile remaining p with
  | ok v => exact ⟨v, rfl⟩
  | error e =>
    obtain ⟨-, data, hdata, before, r, after, hsplit, -, -, n, hn, hlong⟩ :=
      (evaluate_eq_error_iff hreads).1 he
    have hprefix : before ++ [r] <+: m.applicable tile := ⟨after, by rw [hsplit]; simp⟩
    have hshort : isShort n = true := by
      simp only [List.mem_cons, List.not_mem_nil, or_false] at hn
      rcases hn with rfl | rfl | rfl | rfl
      · exact hshown p.q (by simp)
      · exact hshown p.r (by simp)
      · exact hcosts data hdata _ hprefix
      · exact hshown n (by simp)
    rw [hshort] at hlong
    cases hlong

/-- The hex, the budget, and all that the relations charge and give back can be shown. -/
def Mover.Legible (m : Mover) (tile : Option EntityData) (remaining : ℤ) (p : Hex) : Prop :=
  ∀ n ∈ [p.q, p.r, remaining, m.turnover tile], isShort n = true

theorem exists_evaluate_of_legible (hreads : m.Reads tile) (h : m.Legible tile remaining p) :
    ∃ v, evaluate m tile remaining p = .ok v := by
  refine exists_evaluate_of_isShort hreads (fun n hn => h n ?_) fun data hdata rs hrs => ?_
  · exact List.mem_append_left [m.turnover tile] hn
  · cases hdata
    obtain ⟨after, hafter⟩ := hrs
    exact Text.Numeral.isShort_of_abs_le (Mover.abs_charges_le hafter.symm)
      (h (m.turnover (some data)) (by simp))

/-! ## The relations in another order -/

variable {relations : List Relation} (hperm : relations.Perm m.relations)

include hperm

theorem Mover.applicable_perm (tile : Option EntityData) :
    ({ m with relations := relations }.applicable tile).Perm (m.applicable tile) := by
  cases tile with
  | none => exact .refl _
  | some tile => exact hperm.filter _

theorem Mover.toll_perm (tile : Option EntityData) :
    { m with relations := relations }.toll tile = m.toll tile := by
  cases tile with
  | none => rfl
  | some tile => exact ((Mover.applicable_perm hperm (some tile)).map (m.asks tile)).sum_eq

theorem Mover.turnover_perm (tile : Option EntityData) :
    { m with relations := relations }.turnover tile = m.turnover tile := by
  cases tile with
  | none => rfl
  | some tile =>
    exact ((Mover.applicable_perm hperm (some tile)).map fun r => |m.asks tile r|).sum_eq

theorem Mover.barred_perm (tile : Option EntityData) :
    { m with relations := relations }.barred tile = m.barred tile := by
  cases tile with
  | none => rfl
  | some tile => exact hperm.any_eq

theorem Mover.reads_perm (h : m.Reads tile) : { m with relations := relations }.Reads tile :=
  fun data hdata r hr => h data hdata r ((Mover.applicable_perm hperm tile).mem_iff.1 hr)

/-- Whether a step succeeds, and what it leaves, does not depend on the order of the relations. -/
theorem evaluate_eq_open_iff_of_perm {v' : Verdict} (h : evaluate m tile remaining p = .ok v)
    (h' : evaluate { m with relations := relations } tile remaining p = .ok v') (n : ℤ) :
    v = .open n ↔ v' = .open n := by
  rw [evaluate_eq_open_iff h, evaluate_eq_open_iff h', Mover.barred_perm hperm,
    ← Mover.toll_eq_entryCost, ← Mover.toll_eq_entryCost, Mover.toll_perm hperm]

theorem exists_evaluate_of_perm (hreads : m.Reads tile) (h : m.Legible tile remaining p) :
    ∃ v, evaluate { m with relations := relations } tile remaining p = .ok v := by
  refine exists_evaluate_of_legible (Mover.reads_perm hperm hreads) ?_
  rw [Mover.Legible, Mover.turnover_perm hperm]
  exact h

end

/-! ## The whole step -/

/-- Where all numbers that the relations to a tile read are finite, a step comes to a verdict unless
    some relation has to show a number of too many digits. It succeeds exactly if no block that
    applies is in force and the budget covers what the relations subtract less what they add; the
    difference is left. Otherwise every finding is against a relation that applies, and there is
    one if the budget was not negative. In another order of the relations the verdict is the same;
    and there is one in every order if all that can come up can be shown. -/
theorem evaluate_exact (m : Mover) (tile : Option EntityData) (remaining : ℤ) (p : Hex)
    (hreads : m.Reads tile) :
    (∀ e, evaluate m tile remaining p = .error e ↔
      e = .tooLong ∧ ∃ data ∈ tile, ∃ before r after,
        m.applicable tile = before ++ r :: after ∧ m.Overstates data remaining p before r) ∧
    (∀ v, evaluate m tile remaining p = .ok v →
      (∀ n, v = .open n ↔ m.barred tile = false ∧ 0 ≤ remaining - m.toll tile ∧
        n = remaining - m.toll tile) ∧
      ∀ findings, v = .blocked findings →
        (0 ≤ remaining → findings ≠ []) ∧
        ∀ f ∈ findings, ∃ r ∈ m.applicable tile, f.Against r) ∧
    ∀ relations, relations.Perm m.relations →
      (m.Legible tile remaining p →
        ∃ v, evaluate { m with relations := relations } tile remaining p = .ok v) ∧
      ∀ v v', evaluate m tile remaining p = .ok v →
        evaluate { m with relations := relations } tile remaining p = .ok v' →
        ∀ n, v = .open n ↔ v' = .open n := by
  refine ⟨fun e => evaluate_eq_error_iff hreads, fun v hv => ⟨fun n => ?_, ?_⟩,
    fun relations hperm => ⟨exists_evaluate_of_perm hperm hreads,
      fun v v' hv hv' => evaluate_eq_open_iff_of_perm hperm hv hv'⟩⟩
  · rw [evaluate_eq_open_iff hv, Mover.toll_eq_entryCost]
  · rintro findings rfl
    exact ⟨fun hr => ne_nil_of_evaluate hr hv, exists_against_of_evaluate hv⟩

/-! ## A toll that is given back -/

namespace River

/-- A relation that reads the toll of a tile. -/
def tolled (n : ℕ) (name : String) (operation : Operation) : Relation :=
  ⟨ident n, name, ident 3, ident 4, ident 5, .onEnter, .modify "budget" "toll" operation⟩

/-- The relations come to the toll, twice the toll, the toll again, and nothing. -/
def lender : Mover :=
  { mover with
    relations := [tolled 11 "Toll" .subtract, tolled 12 "Surcharge" .subtract,
      tolled 13 "Refund" .add, tolled 14 "Rebate" .add] }

/-- The refund comes before the surcharge. -/
def prompt : List Relation :=
  [tolled 11 "Toll" .subtract, tolled 13 "Refund" .add, tolled 12 "Surcharge" .subtract,
    tolled 14 "Rebate" .add]

/-- Whoever moves on the river, the tiles can be read. -/
theorem reads_tile (m : Mover) (toll rest : ℤ) : m.Reads (some (tile toll rest)) := by
  refine Mover.reads_of_bounded fun id => ?_
  rw [EntityData.get?, tile, Table.get?_ofList]
  simp only [List.reverse_cons, List.reverse_nil, List.nil_append, List.singleton_append,
    Table.find?]
  split_ifs <;> rfl

/-- The largest number that can be shown. -/
def steep : ℤ := ((10 ^ Text.Numeral.maxDigits - 1 : ℕ) : ℤ)

theorem isShort_steep : isShort steep = true := by
  rw [Text.Numeral.isShort_iff, steep, Int.natAbs_natCast]
  exact Nat.sub_lt (Nat.pow_pos (by decide)) (by decide)

theorem isShort_two_steep : isShort (steep + steep) = false := by
  have htwo : 1 < 10 ^ Text.Numeral.maxDigits := Nat.one_lt_pow (by decide) (by decide)
  rw [Bool.eq_false_iff, Ne, Text.Numeral.isShort_iff, steep, ← Nat.cast_add, Int.natAbs_natCast]
  omega

theorem asks_subtract (n : ℕ) (name : String) :
    lender.asks (tile steep 0) (tolled n name .subtract) = steep := rfl

theorem asks_add (n : ℕ) (name : String) :
    lender.asks (tile steep 0) (tolled n name .add) = -steep := rfl

theorem toll_lender : lender.toll (some (tile steep 0)) = 0 := by
  have happlicable : lender.applicable (some (tile steep 0)) =
      [tolled 11 "Toll" .subtract, tolled 12 "Surcharge" .subtract, tolled 13 "Refund" .add,
        tolled 14 "Rebate" .add] := rfl
  rw [Mover.toll, happlicable]
  simp [asks_subtract, asks_add]

/-- After the surcharge the toll is due twice. -/
theorem charges_lender :
    lender.charges (tile steep 0)
      ([tolled 11 "Toll" .subtract] ++ [tolled 12 "Surcharge" .subtract]) = steep + steep := by
  rw [Mover.charges_eq]
  simp [asks_subtract]

theorem lt_two_steep : 5 < steep + steep := by
  by_contra h
  rw [not_lt] at h
  have hshort : isShort (steep + steep) = true := by
    refine Text.Numeral.isShort_of_abs_le (b := 5) ?_ (by decide)
    have hpos : 0 ≤ steep := Int.natCast_nonneg _
    rw [abs_of_nonneg (by omega)]
    exact h
  rw [isShort_two_steep] at hshort
  cases hshort

/-- With the refund in time, no more than the toll is ever due. -/
theorem isShort_charges_prompt {rs : List Relation} (h : rs <+: prompt) :
    isShort (lender.charges (tile steep 0) rs) = true := by
  have hzero : isShort 0 = true := by decide
  rw [Mover.charges_eq]
  rw [← List.mem_inits, prompt] at h
  simp only [List.inits, List.map_cons, List.map_nil, List.mem_cons, List.not_mem_nil,
    or_false] at h
  rcases h with rfl | rfl | rfl | rfl | rfl
  · rfl
  · simpa [asks_subtract] using isShort_steep
  · simpa [asks_subtract, asks_add] using hzero
  · simpa [asks_subtract, asks_add] using isShort_steep
  · simpa [asks_subtract, asks_add] using hzero

end River

/-- With a budget of 3, a toll of 2 and a rest of 1 leave 2, in whatever order they come. -/
theorem evaluate_exact_river :
    River.mover.Reads (some (River.tile 2 1)) ∧
      ∃ v, evaluate { River.mover with relations := River.relations.reverse }
        (some (River.tile 2 1)) 3 ⟨1, 0⟩ = .ok v ∧ v = .open 2 := by
  have hreads := River.reads_tile River.mover 2 1
  obtain ⟨-, hverdict, horder⟩ :=
    evaluate_exact River.mover (some (River.tile 2 1)) 3 ⟨1, 0⟩ hreads
  obtain ⟨hreturns, hsame⟩ := horder River.relations.reverse (List.reverse_perm _)
  obtain ⟨v, hv⟩ := Outcome.exists_eq_ok_of_isOk
    (x := evaluate River.mover (some (River.tile 2 1)) 3 ⟨1, 0⟩) (by decide)
  obtain ⟨v', hv'⟩ := hreturns (by unfold Mover.Legible; decide)
  have hopen : v = .open 2 := ((hverdict v hv).1 2).2 (by decide)
  exact ⟨hreads, v', hv', (hsame v v' hv hv' 2).1 hopen⟩

/-- The toll can be shown, but not twice the toll. So the step comes to no verdict, though nothing
    bars it and all of the toll is given back. If the refund comes before the surcharge, the step
    succeeds. -/
theorem evaluate_lender :
    River.lender.Reads (some (River.tile River.steep 0)) ∧
      River.lender.barred (some (River.tile River.steep 0)) = false ∧
      River.lender.toll (some (River.tile River.steep 0)) = 0 ∧
      evaluate River.lender (some (River.tile River.steep 0)) 5 ⟨1, 0⟩ = .error .tooLong ∧
      River.prompt.Perm River.lender.relations ∧
      evaluate { River.lender with relations := River.prompt }
        (some (River.tile River.steep 0)) 5 ⟨1, 0⟩ = .ok (.open 5) := by
  have hreads := River.reads_tile River.lender River.steep 0
  have hperm : River.prompt.Perm River.lender.relations := .cons _ (.swap _ _ _)
  refine ⟨hreads, rfl, River.toll_lender, ?_, hperm, ?_⟩
  · refine (evaluate_eq_error_iff hreads).2 ⟨rfl, River.tile River.steep 0, rfl,
      [River.tolled 11 "Toll" .subtract], River.tolled 12 "Surcharge" .subtract,
      [River.tolled 13 "Refund" .add, River.tolled 14 "Rebate" .add], rfl,
      ⟨"budget", "toll", .subtract, rfl⟩, ?_, River.steep + River.steep, ?_,
      River.isShort_two_steep⟩
    · rw [River.charges_lender]
      exact River.lt_two_steep
    · rw [River.charges_lender]
      simp
  · have hverdict : ∃ v, evaluate { River.lender with relations := River.prompt }
        (some (River.tile River.steep 0)) 5 ⟨1, 0⟩ = .ok v := by
      refine exists_evaluate_of_isShort (River.reads_tile _ River.steep 0) (by decide) ?_
      rintro _ ⟨⟩ rs hrs
      exact River.isShort_charges_prompt hrs
    obtain ⟨v, hv⟩ := hverdict
    have hopen : v = .open 5 := by
      rw [evaluate_eq_open_iff hv, Mover.barred_perm hperm, ← Mover.toll_eq_entryCost,
        Mover.toll_perm hperm, River.toll_lender]
      exact ⟨rfl, by decide, rfl⟩
    rw [hv, hopen]

end Movement

end HexRules
