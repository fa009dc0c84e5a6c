import HexRules.Proofs.Movement.Free
import HexRules.Proofs.Movement.Monotone

/-!
# Numbers that cannot be read

Whatever is no number among the properties is made up for: a unit without budget gets the allotment,
and a toll that cannot be found is nothing. But a number that is not finite is not made up for: a
budget is not found beyond it, and a step onto a hex that has it for a toll comes to no verdict. Nor
does a step whose finding would have to show a number of too many digits.

Results:
* `Mover.budget_eq`: the budget is the first number there is, or the allotment, unless that number
  is not finite.
* `evaluate_ne_ok`: a step onto a tile with a number that is not finite comes to no verdict.
* `evaluate_eq_error`: a step breaks off at a relation that reads such a number, or after which the
  budget is exceeded.
-/

namespace HexRules

/-! ## Numbers among the values -/

namespace Binary64

variable {x : Binary64}

theorem toInt_of_isFinite (h : x.isFinite = true) : x.toInt = .ok x.truncate := by
  have hnumber : x.isNaN = false := by
    rw [isFinite, bne_iff_ne] at h
    simp [isNaN, h]
  simp [toInt, h, hnumber]

theorem toInt_of_not_isFinite (h : x.isFinite = false) : ∃ e, x.toInt = .error e := by
  by_cases hnan : x.isNaN = true
  · exact ⟨.nan, by simp [toInt, hnan]⟩
  · exact ⟨.infinity, by simp [toInt, hnan, h]⟩

end Binary64

namespace PropertyValue

/-- Whether a value is a number, an integer or a floating-point one. -/
def isNumber : Option PropertyValue → Bool
  | some (.int _) => true
  | some (.float _) => true
  | _ => false

/-- Whether a value is a number that is not finite. -/
def isUnbounded : Option PropertyValue → Bool
  | some (.float x) => !x.isFinite
  | _ => false

/-- The integer that a value should count as: none if it is no number, or not finite. -/
def integer? : Option PropertyValue → Option ℤ
  | some (.int n) => some n
  | some (.float x) => if x.isFinite then some x.truncate else none
  | _ => none

variable {v : Option PropertyValue}

theorem exists_asInt_eq_error (h : isUnbounded v = true) : ∃ e, asInt v = .error e := by
  unfold isUnbounded at h
  split at h
  · rename_i x
    obtain ⟨e, he⟩ := Binary64.toInt_of_not_isFinite (x := x) (by simpa using h)
    exact ⟨e, by rw [asInt, he]; rfl⟩
  · cases h

theorem asInt_eq_integer? (h : isUnbounded v = false) : asInt v = .ok (integer? v) := by
  rcases v with _ | (b | n | x | s | c | option)
  case some.float =>
    have hfinite : x.isFinite = true := by simpa [isUnbounded] using h
    rw [asInt, integer?, Binary64.toInt_of_isFinite hfinite, if_pos hfinite]
    rfl
  all_goals rfl

theorem isUnbounded_of_integer? {n : ℤ} (h : integer? v = some n) : isUnbounded v = false := by
  rcases v with _ | (b | n | x | s | c | option)
  case some.float =>
    rw [integer?] at h
    split_ifs at h with hfinite
    simp [isUnbounded, hfinite]
  all_goals rfl

/-- What is no number counts as none, and is no reason to break off. -/
theorem integer?_of_not_isNumber (h : isNumber v = false) :
    integer? v = none ∧ isUnbounded v = false := by
  rcases v with _ | (b | n | x | s | c | option)
  case some.int => cases h
  case some.float => cases h
  all_goals exact ⟨rfl, rfl⟩

theorem exists_integer?_eq_some (h : isNumber v = true) (hv : isUnbounded v = false) :
    ∃ n, integer? v = some n := by
  unfold isNumber at h
  split at h
  · exact ⟨_, rfl⟩
  · rename_i x
    have hfinite : x.isFinite = true := by simpa [isUnbounded] using hv
    exact ⟨x.truncate, by rw [integer?, if_pos hfinite]⟩
  · cases h

end PropertyValue

namespace Movement

open PropertyValue (isNumber isUnbounded integer?)

/-! ## The budget -/

namespace Mover

variable {m : Mover} {perConcept : ℤ}

/-- The value that an object has under a name of a binding. -/
def valueUnder (data : EntityData) (entry : Binding × String) : Option PropertyValue :=
  (entry.1.propertyFor entry.2).bind data.get?

/-- The values that may be the budget, in the order in which they are looked at. -/
def budgetValues (m : Mover) : List (Option PropertyValue) := m.budgetNames.map (valueUnder m.data)

/-- The first number among the values that may be the budget is not finite. -/
def MisreadsBudget (m : Mover) : Prop :=
  ∃ v, m.budgetValues.find? isNumber = some v ∧ isUnbounded v = true

/-- The budget that the unit should start with: the first of the values that counts as an integer,
    or else the allotment. -/
def promisedBudget (m : Mover) (perConcept : ℤ) : ℤ :=
  (m.budgetValues.findSome? integer?).getD (fallbackBudget perConcept m.concepts)

section

variable {data : EntityData} {entry : Binding × String} {entries : List (Binding × String)}

theorem exists_readNumber_eq_error (h : isUnbounded (valueUnder data entry) = true) :
    ∃ e, readNumber data entry = .error (.notFinite e) := by
  obtain ⟨e, he⟩ := PropertyValue.exists_asInt_eq_error h
  rw [valueUnder] at he
  exact ⟨e, by rw [readNumber, he]; rfl⟩

theorem readNumber_eq (h : isUnbounded (valueUnder data entry) = false) :
    readNumber data entry = .ok (integer? (valueUnder data entry)) := by
  have hread := PropertyValue.asInt_eq_integer? h
  rw [valueUnder] at hread ⊢
  rw [readNumber, hread]
  rfl

theorem readNumber_of_not_isNumber (h : isNumber (valueUnder data entry) = false) :
    readNumber data entry = .ok none := by
  obtain ⟨hnone, hv⟩ := PropertyValue.integer?_of_not_isNumber h
  rw [readNumber_eq hv, hnone]

/-- What is read stops at the first number, if that is not finite. -/
theorem exists_findSomeM?_eq_error {v : Option PropertyValue}
    (h : (entries.map (valueUnder data)).find? isNumber = some v) (hv : isUnbounded v = true) :
    ∃ e, entries.findSomeM? (readNumber data) = .error (.notFinite e) := by
  induction entries with
  | nil => cases h
  | cons entry rest ih =>
    rw [List.findSomeM?]
    by_cases hnumber : isNumber (valueUnder data entry) = true
    · rw [List.map_cons, List.find?_cons_of_pos hnumber, Option.some.injEq] at h
      obtain ⟨e, he⟩ := exists_readNumber_eq_error (h ▸ hv)
      exact ⟨e, by rw [he]; rfl⟩
    · rw [List.map_cons, List.find?_cons_of_neg hnumber] at h
      rw [readNumber_of_not_isNumber (Bool.eq_false_iff.2 hnumber)]
      exact ih h

/-- What is read is the first integer, unless the first number is not finite. -/
theorem findSomeM?_eq_ok
    (h : ∀ v, (entries.map (valueUnder data)).find? isNumber = some v → isUnbounded v = false) :
    entries.findSomeM? (readNumber data) =
      .ok ((entries.map (valueUnder data)).findSome? integer?) := by
  induction entries with
  | nil => rfl
  | cons entry rest ih =>
    rw [List.findSomeM?, List.map_cons, List.findSome?_cons]
    rw [List.map_cons] at h
    by_cases hnumber : isNumber (valueUnder data entry) = true
    · have hv := h _ (List.find?_cons_of_pos hnumber)
      obtain ⟨n, hn⟩ := PropertyValue.exists_integer?_eq_some hnumber hv
      rw [readNumber_eq hv, hn]
      rfl
    · rw [List.find?_cons_of_neg hnumber] at h
      rw [Bool.not_eq_true] at hnumber
      rw [readNumber_of_not_isNumber hnumber,
        (PropertyValue.integer?_of_not_isNumber hnumber).1]
      exact ih h

end

theorem exists_budget_eq_error (h : m.MisreadsBudget) :
    ∃ e, m.budget perConcept = .error (.notFinite e) := by
  obtain ⟨v, hfind, hv⟩ := h
  obtain ⟨e, he⟩ := exists_findSomeM?_eq_error hfind hv
  exact ⟨e, by rw [budget, ownBudget, he]; rfl⟩

/-- Unless the first number is not finite, the budget is what it should be. -/
theorem budget_eq (h : ¬m.MisreadsBudget) :
    m.budget perConcept = .ok (m.promisedBudget perConcept) := by
  have hown : m.ownBudget = .ok (m.budgetValues.findSome? integer?) :=
    findSomeM?_eq_ok fun v hfind => Bool.eq_false_iff.2 fun hv => h ⟨v, hfind, hv⟩
  rw [budget, hown]
  rfl

/-! ## Steps that break off -/

/-- A relation reads a number that is not finite off a tile. -/
def Misreads (m : Mover) (tile : EntityData) (r : Relation) : Prop :=
  ∃ target source operation, r.effect = .modify target source operation ∧
    isUnbounded (resolve m.concepts.bindings tile source r.conceptId r.objectRole) = true

/-- What relations to a tile come to: what they subtract less what they add. -/
def charges (m : Mover) (tile : EntityData) (rs : List Relation) : ℤ :=
  (rs.map (m.reading .subtract tile)).sum - (rs.map (m.reading .add tile)).sum

/-- After relations to a tile the budget is exceeded, and the last of them has to say so with a
    number of too many digits. -/
def Overstates (m : Mover) (tile : EntityData) (remaining : ℤ) (p : Hex) (rs : List Relation)
    (r : Relation) : Prop :=
  (∃ target source operation, r.effect = .modify target source operation) ∧
    remaining < m.charges tile (rs ++ [r]) ∧
    ∃ n ∈ [p.q, p.r, m.charges tile (rs ++ [r]), remaining], Text.Numeral.isShort n = false

theorem exists_amount_eq_error {tile : EntityData} {r : Relation} {source : String}
    (h : isUnbounded (resolve m.concepts.bindings tile source r.conceptId r.objectRole) = true) :
    ∃ e, m.amount tile r source = .error (.notFinite e) := by
  obtain ⟨e, he⟩ := PropertyValue.exists_asInt_eq_error h
  exact ⟨e, by rw [amount, he]; rfl⟩

theorem amount_eq {tile : EntityData} {r : Relation} {source : String}
    (h : isUnbounded (resolve m.concepts.bindings tile source r.conceptId r.objectRole) = false) :
    m.amount tile r source =
      .ok ((integer? (resolve m.concepts.bindings tile source r.conceptId r.objectRole)).getD 0) :=
    by
  rw [amount, PropertyValue.asInt_eq_integer? h]
  rfl

theorem charges_append (m : Mover) (tile : EntityData) (rs : List Relation) (r : Relation) :
    m.charges tile (rs ++ [r]) =
      m.charges tile rs + (m.reading .subtract tile r - m.reading .add tile r) := by
  simp only [charges, List.map_append, List.sum_append, List.map_singleton, List.sum_singleton]
  ring

/-- Relations that read no number come to nothing. -/
theorem charges_eq_zero {tile : EntityData} {rs : List Relation}
    (h : ∀ r ∈ rs, ∀ operation, m.reading operation tile r = 0) : m.charges tile rs = 0 := by
  have hsum : ∀ operation, (rs.map (m.reading operation tile)).sum = 0 := by
    intro operation
    refine List.sum_eq_zero fun n hn => ?_
    obtain ⟨r, hr, rfl⟩ := List.mem_map.1 hn
    exact h r hr operation
  rw [charges, hsum, hsum, sub_zero]

end Mover

namespace Tally

variable {m : Mover} {tile : EntityData} {remaining : ℤ} {p : Hex} {t t' : Tally} {r : Relation}
  {e : Failure} {before rs : List Relation}

theorem shown_eq_error {n : ℤ} (h : shown n = .error e) :
    e = .tooLong ∧ Text.Numeral.isShort n = false := by
  unfold shown Text.Numeral.text? at h
  by_cases hshort : Text.Numeral.isShort n = true
  · rw [if_pos hshort] at h
    cases h
  · rw [if_neg hshort] at h
    cases h
    exact ⟨rfl, Bool.eq_false_iff.2 hshort⟩

/-- A finding cannot be written down if one of its numbers is too long. -/
theorem tooFar_eq_error {target : String} {cost : ℤ}
    (h : tooFar m r target cost remaining p = .error e) :
    e = .tooLong ∧ ∃ n ∈ [p.q, p.r, cost, remaining], Text.Numeral.isShort n = false := by
  rcases Outcome.bind_eq_error_iff.1 h with h | ⟨q, -, h⟩
  · obtain ⟨he, hn⟩ := shown_eq_error h
    exact ⟨he, p.q, by simp, hn⟩
  rcases Outcome.bind_eq_error_iff.1 h with h | ⟨r, -, h⟩
  · obtain ⟨he, hn⟩ := shown_eq_error h
    exact ⟨he, p.r, by simp, hn⟩
  rcases Outcome.bind_eq_error_iff.1 h with h | ⟨c, -, h⟩
  · obtain ⟨he, hn⟩ := shown_eq_error h
    exact ⟨he, cost, by simp, hn⟩
  rcases Outcome.bind_eq_error_iff.1 h with h | ⟨b, -, h⟩
  · obtain ⟨he, hn⟩ := shown_eq_error h
    exact ⟨he, remaining, by simp, hn⟩
  · cases h

/-- Why a relation breaks off a step, after others. -/
def Breaks (m : Mover) (tile : EntityData) (remaining : ℤ) (p : Hex) (before : List Relation)
    (r : Relation) : Failure → Prop
  | .notFinite _ => m.Misreads tile r
  | .tooLong => m.Overstates tile remaining p before r

theorem add_eq_error (h : t.add m tile remaining p r = .error e)
    (ht : t.cost = m.charges tile before) : Breaks m tile remaining p before r e := by
  unfold add at h
  cases he : r.effect with
  | modify target source operation =>
    rw [he] at h
    by_cases hv : isUnbounded (resolve m.concepts.bindings tile source r.conceptId r.objectRole) =
        true
    · obtain ⟨x, hx⟩ := Mover.exists_amount_eq_error hv
      rcases Outcome.bind_eq_error_iff.1 h with hamount | ⟨n, hamount, -⟩
      · rw [hx] at hamount
        cases hamount
        exact ⟨target, source, operation, he, hv⟩
      · rw [hx] at hamount
        cases hamount
    · rw [Bool.not_eq_true] at hv
      have hn := Mover.amount_eq hv
      rcases Outcome.bind_eq_error_iff.1 h with hamount | ⟨n, hamount, hcharge⟩
      · rw [hn] at hamount
        cases hamount
      have hcost : t.cost + costOf operation n = m.charges tile (before ++ [r]) := by
        rw [Mover.charges_append, Mover.reading_sub_reading he hamount, ht]
      unfold charge at hcharge
      dsimp only at hcharge
      split at hcharge
      · rename_i hover
        rcases Outcome.bind_eq_error_iff.1 hcharge with hfar | ⟨finding, -, hdone⟩
        · obtain ⟨rfl, n', hn', hlong⟩ := tooFar_eq_error hfar
          rw [hcost] at hover hn'
          exact ⟨⟨target, source, operation, he⟩, by omega, n', hn', hlong⟩
        · cases hdone
      · cases hcharge
  | block condition =>
    rw [he] at h
    dsimp only at h
    split at h <;> cases h
  | allow condition =>
    rw [he] at h
    cases h

theorem foldlM_add_eq_error (h : rs.foldlM (Tally.add m tile remaining p) t = .error e)
    (ht : t.cost = m.charges tile before) :
    ∃ between r after, rs = between ++ r :: after ∧
      Breaks m tile remaining p (before ++ between) r e := by
  induction rs generalizing t before with
  | nil => cases h
  | cons r rest ih =>
    rcases Outcome.foldlM_cons_eq_error_iff.1 h with hfirst | ⟨t', hfirst, hrest⟩
    · refine ⟨[], r, rest, rfl, ?_⟩
      rw [List.append_nil]
      exact add_eq_error hfirst ht
    · have ht' : t'.cost = m.charges tile (before ++ [r]) := by
        rw [Mover.charges_append, (add_eq_ok hfirst).1, ht]
      obtain ⟨between, r', after, rfl, hbreaks⟩ := ih hrest ht'
      refine ⟨r :: between, r', after, rfl, ?_⟩
      rwa [List.append_assoc] at hbreaks

theorem not_misreads_of_add (h : t.add m tile remaining p r = .ok t') : ¬m.Misreads tile r := by
  rintro ⟨target, source, operation, he, hv⟩
  rw [add, he] at h
  obtain ⟨n, hn, -⟩ := Outcome.bind_eq_ok_iff.1 h
  obtain ⟨e, herror⟩ := Mover.exists_amount_eq_error hv
  rw [herror] at hn
  cases hn

end Tally

section

variable {m : Mover} {tile : EntityData} {remaining : ℤ} {p : Hex} {r : Relation} {e : Failure}

/-- A step breaks off at one of the relations to a tile. -/
theorem evaluate_eq_error {tile? : Option EntityData}
    (h : evaluate m tile? remaining p = .error e) :
    ∃ tile, tile? = some tile ∧ ∃ before r after,
      m.relations.filter (m.applies tile) = before ++ r :: after ∧
        Tally.Breaks m tile remaining p before r e := by
  cases tile? with
  | none => cases h
  | some tile =>
    refine ⟨tile, rfl, ?_⟩
    rcases Outcome.bind_eq_error_iff.1 h with h | ⟨t, -, h⟩
    · have hnone : Tally.start.cost = m.charges tile [] := rfl
      exact Tally.foldlM_add_eq_error h hnone
    · cases h

theorem evaluate_ne_ok (hr : r ∈ m.relations) (happlies : m.applies tile r = true)
    (hmisreads : m.Misreads tile r) (v : Verdict) :
    evaluate m (some tile) remaining p ≠ .ok v := by
  intro h
  obtain ⟨t, ht, -⟩ := Outcome.bind_eq_ok_iff.1 h
  obtain ⟨c, c', hstep⟩ :=
    Outcome.exists_step_of_foldlM ht (List.mem_filter.2 ⟨hr, happlies⟩)
  exact Tally.not_misreads_of_add hstep hmisreads

end

end Movement

end HexRules
