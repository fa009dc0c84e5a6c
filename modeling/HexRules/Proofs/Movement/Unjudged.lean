import HexRules.Proofs.Movement.Cost

/-!
# Conditions that cannot be judged

A condition may have leaves that a step cannot judge: comparisons of properties and budgets of
paths. Whether the condition is true then depends on what these leaves say, and a block whose
condition might be true should stay in force.

It does as long as such a leaf is under an even number of negations. The leaf is taken for true,
so the formula is at least as true as it can be. Under an odd number of negations it is the other
way round: a leaf that is taken for true makes the formula false, and a block is lifted whose
condition nobody has judged (`exists_lifted`).

Results:
* `truth_mono`: a formula stays true when leaves turn true that are under an even number of
  negations, and leaves turn false that are under an odd number.
* `holds_eq_false_iff`: a formula does not hold exactly when it is false for all answers that say
  yes to the leaves under an odd number of negations.
* `lifted_only_if_false`: what this comes to for a block, and for a step.
-/

namespace HexRules.Movement

/-! ## Leaves that a step cannot judge -/

/-- A leaf that cannot be judged: the positions of the operands that lead to it, and whether the
    number of negations on the way is odd. -/
structure Leaf where
  place : List ℕ
  negated : Bool
  deriving DecidableEq, Repr

namespace Leaf

/-- The leaf of an operand, seen from the formula that has the operand at a position. -/
def under (i : ℕ) (l : Leaf) : Leaf := ⟨i :: l.place, l.negated⟩

/-- The leaf with one more negation around it. -/
def flip (l : Leaf) : Leaf := ⟨l.place, !l.negated⟩

end Leaf

mutual

/-- The leaves of a formula that a step cannot judge. -/
def unjudged : Formula → List Leaf
  | .isType .. => []
  | .isNotType .. => []
  | .conjunction operands => unjudgedFrom 0 operands
  | .disjunction operands => unjudgedFrom 0 operands
  | .negation operand => ((unjudged operand).map (.under 0)).map .flip
  | .propertyCompare .. => [⟨[], false⟩]
  | .crossCompare .. => [⟨[], false⟩]
  | .pathBudget .. => [⟨[], false⟩]

/-- The leaves of operands that a step cannot judge; the first operand has the given position. -/
def unjudgedFrom (i : ℕ) : List Formula → List Leaf
  | [] => []
  | f :: rest => (unjudged f).map (.under i) ++ unjudgedFrom (i + 1) rest

end

mutual

/-- What a formula comes to when each leaf that cannot be judged has the answer that is given for
    its place. The types are asked as in `holds`. -/
def truth (player : Ident → Option EntityData) (answer : List ℕ → Bool) : Formula → Bool
  | .isType role type => holds player (.isType role type)
  | .isNotType role type => holds player (.isNotType role type)
  | .conjunction operands => truthAll player answer 0 operands
  | .disjunction operands => truthAny player answer 0 operands
  | .negation operand => !truth player (fun place => answer (0 :: place)) operand
  | .propertyCompare .. => answer []
  | .crossCompare .. => answer []
  | .pathBudget .. => answer []

/-- Whether all operands are true; the first has the given position. -/
def truthAll (player : Ident → Option EntityData) (answer : List ℕ → Bool) (i : ℕ) :
    List Formula → Bool
  | [] => true
  | f :: rest =>
    truth player (fun place => answer (i :: place)) f && truthAll player answer (i + 1) rest

/-- Whether one of the operands is true; the first has the given position. -/
def truthAny (player : Ident → Option EntityData) (answer : List ℕ → Bool) (i : ℕ) :
    List Formula → Bool
  | [] => false
  | f :: rest =>
    truth player (fun place => answer (i :: place)) f || truthAny player answer (i + 1) rest

end

/-! ## Leaves that turn in favour of a formula -/

/-- From the first answers to the next, every leaf turns in favour of the formula, or stays: one
    under an odd number of negations may turn false, any other may turn true. -/
def Favours (ls : List Leaf) (first next : List ℕ → Bool) : Prop :=
  ∀ l ∈ ls, if l.negated then next l.place = true → first l.place = true
    else first l.place = true → next l.place = true

section

variable {ls ls' : List Leaf} {first next : List ℕ → Bool}

theorem favours_append :
    Favours (ls ++ ls') first next ↔ Favours ls first next ∧ Favours ls' first next := by
  unfold Favours
  simp only [List.mem_append, or_imp, forall_and]

theorem favours_under (i : ℕ) :
    Favours (ls.map (.under i)) first next ↔
      Favours ls (fun place => first (i :: place)) (fun place => next (i :: place)) := by
  unfold Favours
  simp only [List.forall_mem_map]
  exact Iff.rfl

/-- A negation turns round what counts in favour. -/
theorem favours_flip : Favours (ls.map .flip) first next ↔ Favours ls next first := by
  unfold Favours
  simp only [List.forall_mem_map, Leaf.flip]
  refine forall₂_congr fun l _ => ?_
  rcases Bool.eq_false_or_eq_true l.negated with hneg | hneg
  · simp [hneg]
  · simp [hneg]

end

/-! ## Polarity -/

section

variable {player : Ident → Option EntityData}

mutual

theorem truth_mono (f : Formula) {first next : List ℕ → Bool}
    (h : Favours (unjudged f) first next) (ht : truth player first f = true) :
    truth player next f = true := by
  cases f with
  | isType role type => exact ht
  | isNotType role type => exact ht
  | conjunction operands => exact truthAll_mono operands 0 h ht
  | disjunction operands => exact truthAny_mono operands 0 h ht
  | negation operand =>
    rw [unjudged, favours_flip, favours_under] at h
    rw [truth, Bool.not_eq_true', ← Bool.not_eq_true] at ht ⊢
    intro hoperand
    exact ht (truth_mono operand h hoperand)
  | propertyCompare role property op value => exact h ⟨[], false⟩ List.mem_cons_self ht
  | crossCompare role property op role' property' => exact h ⟨[], false⟩ List.mem_cons_self ht
  | pathBudget concept cost costRole budget budgetRole =>
    exact h ⟨[], false⟩ List.mem_cons_self ht

theorem truthAll_mono (fs : List Formula) (i : ℕ) {first next : List ℕ → Bool}
    (h : Favours (unjudgedFrom i fs) first next) (ht : truthAll player first i fs = true) :
    truthAll player next i fs = true := by
  cases fs with
  | nil => rfl
  | cons f rest =>
    rw [unjudgedFrom, favours_append, favours_under] at h
    rw [truthAll, Bool.and_eq_true] at ht ⊢
    exact ⟨truth_mono f h.1 ht.1, truthAll_mono rest (i + 1) h.2 ht.2⟩

theorem truthAny_mono (fs : List Formula) (i : ℕ) {first next : List ℕ → Bool}
    (h : Favours (unjudgedFrom i fs) first next) (ht : truthAny player first i fs = true) :
    truthAny player next i fs = true := by
  cases fs with
  | nil => exact ht
  | cons f rest =>
    rw [unjudgedFrom, favours_append, favours_under] at h
    rw [truthAny, Bool.or_eq_true] at ht ⊢
    exact ht.imp (truth_mono f h.1) (truthAny_mono rest (i + 1) h.2)

end

mutual

/-- A step takes every leaf that it cannot judge for true. -/
theorem holds_eq_truth (player : Ident → Option EntityData) (f : Formula) :
    holds player f = truth player (fun _ => true) f := by
  cases f with
  | conjunction operands => exact holdsAll_eq_truthAll player operands 0
  | disjunction operands => exact holdsAny_eq_truthAny player operands 0
  | negation operand => rw [holds, truth, holds_eq_truth player operand]
  | _ => rfl

theorem holdsAll_eq_truthAll (player : Ident → Option EntityData) (fs : List Formula) (i : ℕ) :
    holdsAll player fs = truthAll player (fun _ => true) i fs := by
  cases fs with
  | nil => rfl
  | cons f rest =>
    rw [holdsAll, truthAll, holds_eq_truth player f, holdsAll_eq_truthAll player rest (i + 1)]

theorem holdsAny_eq_truthAny (player : Ident → Option EntityData) (fs : List Formula) (i : ℕ) :
    holdsAny player fs = truthAny player (fun _ => true) i fs := by
  cases fs with
  | nil => rfl
  | cons f rest =>
    rw [holdsAny, truthAny, holds_eq_truth player f, holdsAny_eq_truthAny player rest (i + 1)]

end

/-- A formula holds if some answers make it true that say yes to the leaves under an odd number of
    negations. -/
theorem holds_of_truth {f : Formula} {answer : List ℕ → Bool}
    (hanswer : ∀ l ∈ unjudged f, l.negated = true → answer l.place = true)
    (h : truth player answer f = true) : holds player f = true := by
  have hfavours : Favours (unjudged f) answer fun _ => true := by
    intro l hl
    split_ifs with hneg
    · intro _
      exact hanswer l hl hneg
    · intro _
      rfl
  rw [holds_eq_truth]
  exact truth_mono f hfavours h

theorem holds_eq_false_iff {f : Formula} :
    holds player f = false ↔
      ∀ answer : List ℕ → Bool, (∀ l ∈ unjudged f, l.negated = true → answer l.place = true) →
        truth player answer f = false := by
  constructor
  · intro hholds answer hanswer
    by_contra htrue
    have hblocks := holds_of_truth hanswer (by simpa using htrue)
    rw [hholds] at hblocks
    cases hblocks
  · intro h
    rw [holds_eq_truth]
    exact h (fun _ => true) fun _ _ _ => rfl

end

/-! ## Blocks that are lifted -/

/-- A step that succeeds goes by no block that is in force. -/
theorem blocks_of_evaluate {m : Mover} {tile : EntityData} {remaining n : ℤ} {p : Hex}
    (h : evaluate m (some tile) remaining p = .ok (.open n)) {r : Relation}
    (hr : r ∈ m.relations) (happlies : m.applies tile r = true) {condition : Option Formula}
    (he : r.effect = .block condition) : blocks r m.data (some tile) condition = false := by
  have hbarred : m.barred (some tile) = false := ((evaluate_eq_open_iff h n).1 rfl).1
  rw [Mover.barred, List.any_eq_false] at hbarred
  have hforce := hbarred r hr
  rw [happlies, Bool.true_and, Mover.isInForce, he] at hforce
  exact Bool.eq_false_iff.2 hforce

/-- A condition does not hold exactly when it is false whatever the answers to the leaves that a
    step cannot judge, provided that those under an odd number of negations are answered with yes;
    if there is none of these, it is false without the proviso. So a unit enters a tile only if,
    with the proviso, the condition of every block between the two is false, and a condition that
    may be true keeps it out with any budget. -/
theorem lifted_only_if_false (r : Relation) (f : Formula) :
    (∀ (unit : EntityData) (tile : Option EntityData),
      (holds (player r (some unit) tile) f = false ↔
        ∀ answer : List ℕ → Bool, (∀ l ∈ unjudged f, l.negated = true → answer l.place = true) →
          truth (player r (some unit) tile) answer f = false) ∧
      ((∀ l ∈ unjudged f, l.negated = false) → holds (player r (some unit) tile) f = false →
        ∀ answer, truth (player r (some unit) tile) answer f = false)) ∧
    ∀ (m : Mover) (tile : EntityData) (remaining n : ℤ) (p : Hex),
      evaluate m (some tile) remaining p = .ok (.open n) →
        r ∈ m.relations → m.applies tile r = true → r.effect = .block (some f) →
          ∀ answer : List ℕ → Bool, (∀ l ∈ unjudged f, l.negated = true → answer l.place = true) →
            truth (player r (some m.data) (some tile)) answer f = false := by
  refine ⟨fun unit tile => ⟨holds_eq_false_iff, ?_⟩, ?_⟩
  · intro heven hholds answer
    apply holds_eq_false_iff.1 hholds
    intro l hl hneg
    rw [heven l hl] at hneg
    cases hneg
  · intro m tile remaining n p hopen hr happlies he answer hanswer
    have hlifted : holds (player r (some m.data) (some tile)) f = false :=
      blocks_of_evaluate hopen hr happlies he
    exact holds_eq_false_iff.1 hlifted answer hanswer

namespace River

/-- A gate that lets a traveller through, unless a condition is met. -/
def gate (condition : Formula) : Relation :=
  ⟨ident 14, "Gate", ident 3, ident 4, ident 5, .onEnter, .block (some condition)⟩

/-- The traveller under the rule of a gate, and under no other. -/
def gated (condition : Formula) : Mover := { mover with relations := [gate condition] }

/-- The toll of the tile is two or more. -/
def tollIsHigh : Formula := .propertyCompare (ident 5) "toll" .ge (.int 2)

end River

/-- A gate for others than travellers, and for high tolls: the step goes by it because the
    traveller is one, and not because of the toll. -/
theorem lifted_only_if_false_traveller :
    ∀ answer, truth (player (River.gate (.conjunction [.isNotType (River.ident 4) (River.ident 1),
        River.tollIsHigh])) (some River.mover.data) (some (River.tile 2 0))) answer
      (.conjunction [.isNotType (River.ident 4) (River.ident 1), River.tollIsHigh]) = false := by
  obtain ⟨-, hstep⟩ := lifted_only_if_false
    (River.gate (.conjunction [.isNotType (River.ident 4) (River.ident 1), River.tollIsHigh]))
    (.conjunction [.isNotType (River.ident 4) (River.ident 1), River.tollIsHigh])
  have hnone : ∀ l ∈ unjudged (.conjunction [.isNotType (River.ident 4) (River.ident 1),
      River.tollIsHigh]), l.negated = false := by decide
  intro answer
  refine hstep (River.gated (.conjunction [.isNotType (River.ident 4) (River.ident 1),
    River.tollIsHigh])) (River.tile 2 0) 3 3 ⟨1, 0⟩ (by decide) List.mem_cons_self (by decide)
    rfl answer fun l hl hneg => ?_
  rw [hnone l hl] at hneg
  cases hneg

/-- A gate that is shut unless the toll is high: the toll of the tile may be low, and the condition
    true, but the block is lifted and the traveller enters. -/
theorem exists_lifted :
    ¬∀ (r : Relation) (unit : EntityData) (tile : Option EntityData) (f : Formula),
      holds (player r (some unit) tile) f = false →
        ∀ answer, truth (player r (some unit) tile) answer f = false := by
  intro h
  have hlifted := h (River.gate (.negation River.tollIsHigh)) (River.traveller 3)
    (some (River.tile 1 0)) (.negation River.tollIsHigh) (by decide) (fun _ => false)
  revert hlifted
  decide

example : evaluate (River.gated (.negation River.tollIsHigh)) (some (River.tile 1 0)) 3 ⟨1, 0⟩ =
    .ok (.open 3) := by decide

end HexRules.Movement
