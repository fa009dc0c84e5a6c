import HexRules.Pipeline
import HexRules.Proofs.Binary64.Truncation
import HexRules.Proofs.Movement.Idle

/-!
# Where a budget comes from

A unit's budget is looked for in three places. First in what the relations subtract from: of all
pairs of a relation and a binding of the unit, relations outermost, the first counts that makes the
unit the subject of a relation that subtracts, and has a number under the name it subtracts from. A
pair that has no number is passed over, be it because the name stands for no property, the property
has no value, or the value is of another kind; a number may be zero or less. Where there is no such
pair, the bindings are searched for the usual name; and where that fails too, there is an allotment.

So a relation that does not subtract, or whose subject the unit is not, plays no part in it.

Results:
* `counts_iff`, `number?_eq_some_iff`, `draws?_eq_some_iff`: what counts as a number, what is read
  under a name, and what a pair gives.
* `findSome?_eq_some_iff_firstGives`: the first that gives something.
* `budget_exact`: the budget of a unit whose numbers are finite.
-/

namespace HexRules

/-! ## First in a list -/

section

variable {α β : Type}

/-- What the first item that gives anything gives. -/
def FirstGives (gives : α → β → Prop) (items : List α) (b : β) : Prop :=
  ∃ before a after, items = before ++ a :: after ∧ gives a b ∧ ∀ a' ∈ before, ∀ b', ¬gives a' b'

/-- No item gives anything. -/
def NoneGives (gives : α → β → Prop) (items : List α) : Prop := ∀ a ∈ items, ∀ b, ¬gives a b

variable {gives : α → β → Prop} {f : α → Option β}

theorem eq_none_iff_not_gives (hf : ∀ a b, f a = some b ↔ gives a b) (a : α) :
    f a = none ↔ ∀ b, ¬gives a b := by
  rw [Option.eq_none_iff_forall_ne_some]
  exact forall_congr' fun b => not_congr (hf a b)

theorem findSome?_eq_some_iff_firstGives (hf : ∀ a b, f a = some b ↔ gives a b) (items : List α)
    (b : β) : items.findSome? f = some b ↔ FirstGives gives items b := by
  simp only [List.findSome?_eq_some_iff, FirstGives, hf, eq_none_iff_not_gives hf]

theorem findSome?_eq_none_iff_noneGives (hf : ∀ a b, f a = some b ↔ gives a b) (items : List α) :
    items.findSome? f = none ↔ NoneGives gives items := by
  simp only [List.findSome?_eq_none_iff, NoneGives, eq_none_iff_not_gives hf]

end

/-! ## What counts as a number -/

/-- A value counts as an integer: as itself, or as its value rounded toward zero. -/
inductive PropertyValue.Counts : PropertyValue → ℤ → Prop
  | int (n : ℤ) : Counts (.int n) n
  | float (x : Binary64) (finite : x.isFinite = true) : Counts (.float x) (truncation x.value)

theorem PropertyValue.counts_iff {v : PropertyValue} {n : ℤ} :
    v.Counts n ↔ integer? (some v) = some n := by
  constructor
  · rintro (n | ⟨x, hfinite⟩)
    · rfl
    · rw [integer?, if_pos hfinite, x.truncate_eq]
  · intro h
    cases v with
    | int k =>
      cases h
      exact .int _
    | float x =>
      rw [integer?] at h
      split_ifs at h with hfinite
      cases h
      rw [x.truncate_eq]
      exact .float x hfinite
    | _ => cases h

/-- No property has a number that is not finite. -/
def EntityData.FiniteNumbers (data : EntityData) : Prop :=
  ∀ id x, data.get? id = some (.float x) → x.isFinite = true

/-- The property that the first entry with a name stands for. -/
def Binding.Names (b : Binding) (localName : String) (id : Ident) : Prop :=
  FirstGives (fun (p : PropertyBinding) id => p.localName = localName ∧ p.propertyId = id)
    b.properties id

theorem Binding.names_iff {b : Binding} {localName : String} {id : Ident} :
    b.Names localName id ↔ b.propertyFor localName = some id := by
  have hfind : b.propertyFor localName = b.properties.findSome? fun p =>
      if p.localName = localName then some p.propertyId else none := by
    rw [propertyFor]
    induction b.properties with
    | nil => rfl
    | cons p rest ih =>
      rw [List.find?_cons, List.findSome?_cons]
      by_cases hp : p.localName = localName
      · simp [hp]
      · simpa [hp] using ih
  rw [hfind, findSome?_eq_some_iff_firstGives, Names]
  intro p id
  split_ifs with hp <;> simp [hp]

theorem Effect.subtracts?_eq_some_iff {effect : Effect} {target : String} :
    effect.subtracts? = some target ↔ ∃ source, effect = .modify target source .subtract := by
  constructor
  · intro h
    unfold subtracts? at h
    split at h
    · rename_i source
      cases h
      exact ⟨source, rfl⟩
    · cases h
  · rintro ⟨source, rfl⟩
    rfl

namespace Movement

open PropertyValue (integer?)

namespace Mover

variable {m : Mover} {r : Relation} {b : Binding} {n perConcept : ℤ}

/-! ## What is read -/

/-- The unit has a number under a name of a binding. -/
def HasNumber (m : Mover) (localName : String) (b : Binding) (n : ℤ) : Prop :=
  ∃ id v, b.Names localName id ∧ m.data.get? id = some v ∧ v.Counts n

/-- The unit is by a binding the subject of a relation that subtracts, and has a number under the
    name that this subtracts from. -/
def Draws (m : Mover) (pair : Relation × Binding) (n : ℤ) : Prop :=
  ∃ target source, pair.1.effect = .modify target source .subtract ∧
    pair.2.conceptId = pair.1.conceptId ∧ pair.2.roleId = pair.1.subjectRole ∧
    m.HasNumber target pair.2 n

/-- The number under a name of a binding. -/
def number? (m : Mover) (localName : String) (b : Binding) : Option ℤ :=
  integer? (valueUnder m.data (b, localName))

/-- The number under the name that a relation subtracts from, if the binding makes the unit its
    subject. -/
def draws? (m : Mover) (pair : Relation × Binding) : Option ℤ :=
  if pair.2.binds pair.1.conceptId pair.1.subjectRole then
    pair.1.effect.subtracts?.bind (m.number? · pair.2)
  else none

theorem number?_eq_some_iff (m : Mover) (localName : String) (b : Binding) (n : ℤ) :
    m.number? localName b = some n ↔ m.HasNumber localName b n := by
  have hvalue : ∀ {v : Option PropertyValue}, integer? v = some n ↔
      ∃ v', v = some v' ∧ v'.Counts n := by
    rintro (_ | v)
    · simp [integer?]
    · simp [PropertyValue.counts_iff]
  simp only [number?, HasNumber, hvalue, valueUnder, Option.bind_eq_some_iff, Binding.names_iff]
  constructor
  · rintro ⟨v, ⟨id, hid, hv⟩, hn⟩
    exact ⟨id, v, hid, hv, hn⟩
  · rintro ⟨id, v, hid, hv, hn⟩
    exact ⟨v, ⟨id, hid, hv⟩, hn⟩

theorem draws?_eq_some_iff (pair : Relation × Binding) (n : ℤ) :
    m.draws? pair = some n ↔ m.Draws pair n := by
  obtain ⟨r, b⟩ := pair
  have hbinds : b.binds r.conceptId r.subjectRole = true ↔
      b.conceptId = r.conceptId ∧ b.roleId = r.subjectRole := decide_eq_true_iff
  rw [draws?, Draws, Option.ite_none_right_eq_some, hbinds, Option.bind_eq_some_iff]
  simp only [Effect.subtracts?_eq_some_iff, number?_eq_some_iff]
  constructor
  · rintro ⟨⟨hconcept, hrole⟩, target, ⟨source, heffect⟩, hnumber⟩
    exact ⟨target, source, heffect, hconcept, hrole, hnumber⟩
  · rintro ⟨target, source, heffect, hconcept, hrole, hnumber⟩
    exact ⟨⟨hconcept, hrole⟩, target, ⟨source, heffect⟩, hnumber⟩

/-! ## The order of the search -/

theorem filterMap_namesOf (m : Mover) (r : Relation) :
    (m.namesOf r).filterMap (fun entry => m.number? entry.2 entry.1) =
      m.bindings.filterMap fun b => m.draws? (r, b) := by
  rw [namesOf]
  cases hsub : r.effect.subtracts? with
  | none => simp [draws?, hsub]
  | some target =>
    rw [List.filterMap_map, List.filterMap_filter]
    apply List.filterMap_congr
    intro b _
    simp [draws?, hsub]

/-- What is looked for name by name is looked for pair by pair, and then under the usual name. -/
theorem findSome?_budgetValues (m : Mover) :
    m.budgetValues.findSome? integer? =
      ((m.relations.product m.bindings).findSome? m.draws?).or
        (m.bindings.findSome? (m.number? budgetName)) := by
  have hpairs : (m.relations.flatMap m.namesOf).findSome? (fun entry => m.number? entry.2 entry.1) =
      (m.relations.product m.bindings).findSome? m.draws? := by
    rw [← List.head?_filterMap, ← List.head?_filterMap, List.product, List.filterMap_flatMap,
      List.filterMap_flatMap]
    simp only [filterMap_namesOf, List.filterMap_map]
    rfl
  rw [budgetValues, budgetNames_eq, List.map_append, List.findSome?_append, List.findSome?_map,
    List.map_map, List.findSome?_map, ← hpairs]
  rfl

/-- The first number among finite ones is finite. -/
theorem not_misreadsBudget (h : m.data.FiniteNumbers) : ¬m.MisreadsBudget := by
  rintro ⟨v, hfind, hunbounded⟩
  obtain ⟨entry, -, rfl⟩ := List.mem_map.1 (List.mem_of_find?_eq_some hfind)
  unfold PropertyValue.isUnbounded at hunbounded
  split at hunbounded
  · rename_i x hx
    obtain ⟨id, -, hid⟩ := Option.bind_eq_some_iff.1 hx
    rw [h id x hid] at hunbounded
    cases hunbounded
  · cases hunbounded

/-! ## The budget -/

/-- The budget that a unit should start with: what the first pair gives, else what the first binding
    gives under the usual name, else the allotment. -/
inductive StartsWith (m : Mover) (perConcept : ℤ) : ℤ → Prop
  | drawn {n : ℤ} (first : FirstGives m.Draws (m.relations.product m.bindings) n) :
    StartsWith m perConcept n
  | named {n : ℤ} (none : NoneGives m.Draws (m.relations.product m.bindings))
    (first : FirstGives (m.HasNumber budgetName) m.bindings n) : StartsWith m perConcept n
  | allotted (none : NoneGives m.Draws (m.relations.product m.bindings))
    (unnamed : NoneGives (m.HasNumber budgetName) m.bindings) :
    StartsWith m perConcept (perConcept * (max 1 m.concepts.concepts.length : ℕ))

theorem startsWith_iff : m.StartsWith perConcept n ↔ n = m.promisedBudget perConcept := by
  have hreads := m.number?_eq_some_iff budgetName
  have hdrawn := findSome?_eq_some_iff_firstGives m.draws?_eq_some_iff
    (m.relations.product m.bindings)
  have hundrawn := findSome?_eq_none_iff_noneGives m.draws?_eq_some_iff
    (m.relations.product m.bindings)
  have hnamed := findSome?_eq_some_iff_firstGives hreads m.bindings
  have hunnamed := findSome?_eq_none_iff_noneGives hreads m.bindings
  rw [promisedBudget, findSome?_budgetValues]
  constructor
  · rintro (first | ⟨none, first⟩ | ⟨none, unnamed⟩)
    · rw [(hdrawn n).2 first]
      rfl
    · rw [hundrawn.2 none, (hnamed n).2 first]
      rfl
    · rw [hundrawn.2 none, hunnamed.2 unnamed]
      rfl
  · rintro rfl
    cases hfirst : (m.relations.product m.bindings).findSome? m.draws? with
    | some k => exact .drawn ((hdrawn k).1 hfirst)
    | none =>
      cases hsecond : m.bindings.findSome? (m.number? budgetName) with
      | some k => exact .named (hundrawn.1 hfirst) ((hnamed k).1 hsecond)
      | none => exact .allotted (hundrawn.1 hfirst) (hunnamed.1 hsecond)

/-- A relation has a say in the budget: it subtracts, and a binding makes the unit its subject. -/
def Bears (m : Mover) (r : Relation) : Bool := r.isSubtract && subjectBound m.bindings r

theorem namesOf_of_not_bears (h : m.Bears r = false) : m.namesOf r = [] := by
  rw [namesOf]
  cases hsub : r.effect.subtracts? with
  | none => rfl
  | some target =>
    have hbound : subjectBound m.bindings r = false := by
      simpa [Bears, Relation.isSubtract, hsub] using h
    rw [subjectBound, List.any_eq_false] at hbound
    dsimp only
    rw [List.filter_eq_nil_iff.2 hbound, List.map_nil]

theorem flatMap_namesOf_filter (m : Mover) (relations : List Relation) :
    (relations.filter m.Bears).flatMap m.namesOf = relations.flatMap m.namesOf := by
  induction relations with
  | nil => rfl
  | cons r rest ih =>
    rw [List.flatMap_cons]
    by_cases hr : m.Bears r = true
    · rw [List.filter_cons_of_pos hr, List.flatMap_cons, ih]
    · rw [List.filter_cons_of_neg hr, namesOf_of_not_bears (Bool.eq_false_iff.2 hr), ih,
        List.nil_append]

/-- Two lists with the same relations that have a say, in the same order, give one budget. -/
theorem budget_of_filter_bears {relations : List Relation}
    (h : relations.filter m.Bears = m.relations.filter m.Bears) :
    ({ m with relations := relations } : Mover).budget perConcept = m.budget perConcept := by
  have hnames : ({ m with relations := relations } : Mover).budgetNames = m.budgetNames := by
    rw [budgetNames_eq, budgetNames_eq, ← flatMap_namesOf_filter m m.relations, ← h,
      flatMap_namesOf_filter]
    rfl
  rw [budget, budget, ownBudget, ownBudget, hnames]

/-- If the numbers of a unit are finite, it has the budget that it should start with, and no other.
    Relations that do not subtract, or whose subject the unit is not by any binding, may come and go
    and stand anywhere: the budget does not change, whatever the numbers are. -/
theorem budget_exact (m : Mover) (perConcept : ℤ) :
    (m.data.FiniteNumbers →
      ∃ n, m.budget perConcept = .ok n ∧ ∀ k, m.StartsWith perConcept k ↔ k = n) ∧
    ∀ relations : List Relation,
      relations.filter (fun r => r.isSubtract && subjectBound m.bindings r) =
        m.relations.filter (fun r => r.isSubtract && subjectBound m.bindings r) →
      ({ m with relations := relations } : Mover).budget perConcept = m.budget perConcept :=
  ⟨fun hfinite => ⟨_, budget_eq (not_misreadsBudget hfinite), fun _ => startsWith_iff⟩,
    fun _ => budget_of_filter_bears⟩

/-! ## A tired hiker -/

/-- A relation between the roles 4 and 5 of the concept 3. -/
def upon (n : ℕ) (subject : Ident) (effect : Effect) : Relation :=
  ⟨River.ident n, "Upon", River.ident 3, subject, River.ident 5, .onEnter, effect⟩

/-- To climb takes steps. -/
def climb : Relation := upon 11 (River.ident 4) (.modify "steps" "grade" .subtract)

/-- It takes fuel too, but that is a name the hiker does not have. -/
def drive : Relation := upon 12 (River.ident 4) (.modify "fuel" "grade" .subtract)

/-- A block, and what costs others steps. -/
def others : List Relation :=
  [upon 13 (River.ident 4) (.block none),
    upon 14 (River.ident 5) (.modify "steps" "grade" .subtract)]

/-- What the hiker has for steps is words by the first binding, and minus one half by the second
    one, which also has a budget. -/
def hiker : Mover where
  data := ⟨River.ident 1, .ofList [(River.ident 8, .string "many"),
    (River.ident 9, .float ⟨0xBFE0000000000000⟩), (River.ident 10, .int 7)]⟩
  bindings :=
    [⟨River.ident 6, River.ident 1, River.ident 3, River.ident 4, [⟨River.ident 8, "steps"⟩]⟩,
      ⟨River.ident 7, River.ident 1, River.ident 3, River.ident 4,
        [⟨River.ident 9, "steps"⟩, ⟨River.ident 10, "budget"⟩]⟩]
  relations := drive :: others ++ [climb]
  concepts := River.concepts
  types := .empty

theorem finite_hiker : hiker.data.FiniteNumbers := by
  intro id x h
  rw [EntityData.get?, hiker, Table.get?_ofList] at h
  simp only [List.reverse_cons, List.reverse_nil, List.nil_append, List.cons_append,
    Table.find?] at h
  split_ifs at h <;> cases h
  decide

/-- Minus one half counts as zero, and zero is a budget. So it is without the relations that have no
    say, and with these behind. -/
theorem budget_exact_hiker :
    hiker.StartsWith 10 0 ∧
      ({ hiker with relations := drive :: climb :: others.reverse } : Mover).budget 10 = .ok 0 := by
  obtain ⟨hfirst, hsame⟩ := budget_exact hiker 10
  obtain ⟨n, hn, honly⟩ := hfirst finite_hiker
  have hzero : hiker.budget 10 = .ok 0 := by rfl
  have hn0 : (0 : ℤ) = n := Except.ok.inj (hzero.symm.trans hn)
  refine ⟨(honly 0).2 hn0, (hsame (drive :: climb :: others.reverse) ?_).trans hzero⟩
  rfl

end Mover

end Movement

end HexRules
