import HexRules.Document.Class
import HexRules.Proofs.Document.Formulas

/-!
# How deep documents are

A formula takes one level in its document, and one more around the list of its operands, if it has
a list that is not empty. A value takes one level, and a colour two. So the number of levels can be
told from the formula, and with it what can be written.

Results:
* `Formula.levels_encode`: the number of levels in the document of a formula.
* `DocumentClass.isWritable_iff`: what can be written is what holds shallow formulas only.
-/

namespace HexRules

/-- A tagged object of one field takes one level around what is in the field. -/
theorem Document.levels_tagged (word name : String) (d : Document) :
    (Document.object [("kind", .text word), (name, d)]).levels = d.levels + 1 := by
  simp [levels, fieldLevels]

/-- The number of levels in the document of a value. -/
def PropertyValue.levels (v : PropertyValue) : ℕ := if v.kind = .color then 2 else 1

theorem PropertyValue.levels_encode (v : PropertyValue) : v.encode.levels = v.levels := by
  cases v <;> rfl

namespace Formula

mutual

/-- The number of levels in the document of a formula. -/
def levels : Formula → ℕ
  | .propertyCompare _ _ _ value => value.levels + 1
  | .conjunction operands => (if operands.isEmpty then 0 else levelsIn operands + 1) + 1
  | .disjunction operands => (if operands.isEmpty then 0 else levelsIn operands + 1) + 1
  | .negation operand => levels operand + 1
  | _ => 1

/-- The greatest number of levels in the document of a formula among several. -/
def levelsIn : List Formula → ℕ
  | [] => 0
  | f :: rest => max (levels f) (levelsIn rest)

end

theorem itemLevels_map_encode {fs : List Formula} (h : ∀ f ∈ fs, f.encode.levels = f.levels) :
    Document.itemLevels (fs.map encode) = levelsIn fs := by
  induction fs with
  | nil => rfl
  | cons f rest ih =>
    obtain ⟨hfirst, hrest⟩ := List.forall_mem_cons.1 h
    rw [List.map_cons, Document.itemLevels, hfirst, ih hrest, levelsIn]

theorem levels_list_encodeItems {fs : List Formula} (h : ∀ f ∈ fs, f.encode.levels = f.levels) :
    (Document.list (encodeItems fs)).levels = if fs.isEmpty then 0 else levelsIn fs + 1 := by
  rw [encodeItems_eq_map, Document.levels, itemLevels_map_encode h, List.isEmpty_map]

/-- The number of levels in the document of a formula can be told from the formula. -/
theorem levels_encode (f : Formula) : f.encode.levels = f.levels := by
  induction f using induction_operands with
  | joined f ih =>
    cases f with
    | propertyCompare role property op value =>
      simp [encode, encodeFields, Document.levels, Document.fieldLevels, Document.ofIdent,
        CompareOp.encode, value.levels_encode, levels]
    | conjunction fs | disjunction fs =>
      exact (Document.levels_tagged _ _ _).trans
        (congrArg (· + 1) (levels_list_encodeItems ih))
    | negation g =>
      exact (Document.levels_tagged _ _ _).trans (congrArg (· + 1) (ih g List.mem_cons_self))
    | _ => rfl

theorem isWritable_iff {f : Formula} : f.isWritable = true ↔ f.levels ≤ maxWrittenLevels := by
  rw [isWritable, decide_eq_true_iff, levels_encode]

theorem isWritableAs_iff {f : Formula} :
    f.isWritableAs = true ↔ ∀ g ∈ f.operands, g.levels < maxWrittenLevels := by
  simp [isWritableAs, levels_encode]

end Formula

namespace Effect

theorem levels_encode (e : Effect) :
    e.encode.levels = ((e.condition?.map Formula.levels).getD 0) + 1 := by
  cases e with
  | modify target source operation => rfl
  | block condition | allow condition =>
    refine (Document.levels_tagged _ _ _).trans (congrArg (· + 1) ?_)
    cases condition with
    | none => rfl
    | some f => exact f.levels_encode

theorem isWritable_iff {e : Effect} :
    e.isWritable = true ↔ ∀ f ∈ e.condition?, f.levels < Formula.maxWrittenLevels := by
  rw [isWritable, decide_eq_true_iff, levels_encode]
  cases e.condition? with
  | none => simp [Formula.maxWrittenLevels]
  | some f => simp

theorem isWritableAs_iff {e : Effect} :
    e.isWritableAs = true ↔ ∀ f ∈ e.condition?, f.levels ≤ Formula.maxWrittenLevels := by
  rw [isWritableAs]
  cases e.condition? <;> simp [Formula.isWritable_iff]

end Effect

namespace DocumentClass

/-- The formulas in an instance are not nested at too many levels to be written. An effect is one
    level around its condition, unless its kind was known beforehand. -/
def Shallow : (c : DocumentClass) → c.Instance → Prop
  | formula none => fun f => f.levels ≤ Formula.maxWrittenLevels
  | formula (some _) => fun f => ∀ g ∈ f.operands, g.levels < Formula.maxWrittenLevels
  | effect none => fun e => ∀ f ∈ e.condition?, f.levels < Formula.maxWrittenLevels
  | effect (some _) => fun e => ∀ f ∈ e.condition?, f.levels ≤ Formula.maxWrittenLevels
  | relation => fun r => ∀ f ∈ r.effect.condition?, f.levels < Formula.maxWrittenLevels
  | relations => fun reg =>
    ∀ r ∈ reg.relations, ∀ f ∈ r.effect.condition?, f.levels < Formula.maxWrittenLevels
  | constraint => fun k => k.formula.levels ≤ Formula.maxWrittenLevels
  | constraints => fun reg => ∀ k ∈ reg.constraints, k.formula.levels ≤ Formula.maxWrittenLevels
  | color | value _ | propertyDef | enumDef | entityType | entityData | entityTypes | hex | grid
  | tile | unit | board | selection | conceptRole | concept | propertyBinding | binding | concepts
  | versioned => fun _ => True

/-- What can be written is what holds shallow formulas only. -/
theorem isWritable_iff (c : DocumentClass) (a : c.Instance) :
    c.isWritable a = true ↔ c.Shallow a := by
  cases c with
  | formula kind =>
    cases kind with
    | none => exact Formula.isWritable_iff
    | some kind => exact Formula.isWritableAs_iff
  | effect kind =>
    cases kind with
    | none => exact Effect.isWritable_iff
    | some kind => exact Effect.isWritableAs_iff
  | relation => exact Effect.isWritable_iff
  | relations =>
    exact List.all_eq_true.trans (forall₂_congr fun _ _ => Effect.isWritable_iff)
  | constraint => exact Formula.isWritable_iff
  | constraints =>
    exact List.all_eq_true.trans (forall₂_congr fun _ _ => Formula.isWritable_iff)
  | _ => exact iff_of_true rfl trivial

end DocumentClass

end HexRules
