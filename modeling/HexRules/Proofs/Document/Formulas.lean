import HexRules.Ontology.Formula.Codec
import HexRules.Proofs.Document.Entities

/-!
# Documents of formulas

A formula fits in some room if its `height` does and if the values in it are valid. The height
counts the formulas that stand one inside the other, and those twice that take two levels. All
formulas that are read fit, and all that fit are read as they were written, however deep they are,
unless a value in them is not finite.

What is read is looked at by induction on the document, what is written by induction on the
formula. Both go from the operands of a formula to the formula: those fit in the room inside it.

Results:
* `eachValueIn_iff`, `heightIn_le_iff`: formulas have finite values, or some height, if each of them
  does.
* `fits_iff`: a formula fits if there is room for it and its operands fit inside.
* `faithful_decodeWithin`: what fits in some room is what is read there.
-/

namespace HexRules

open Decode

namespace CompareOp

theorem ofName?_name (op : CompareOp) : ofName? op.name = some op := by
  cases op <;> rfl

end CompareOp

namespace FormulaKind

theorem ofName?_name (kind : FormulaKind) : ofName? kind.name = some kind := by
  cases kind <;> rfl

end FormulaKind

namespace Formula

/-! ## Operands -/

mutual

/-- What goes over from operands to formulas holds of all formulas. -/
theorem induction_operands {motive : Formula → Prop}
    (joined : ∀ f, (∀ g ∈ f.operands, motive g) → motive f) : ∀ f, motive f
  | .conjunction operands => joined _ (induction_items joined operands)
  | .disjunction operands => joined _ (induction_items joined operands)
  | .negation operand => joined _ (List.forall_mem_singleton.2 (induction_operands joined operand))
  | .propertyCompare .. | .crossCompare .. | .isType .. | .isNotType .. | .pathBudget .. =>
    joined _ (List.forall_mem_nil _)

theorem induction_items {motive : Formula → Prop}
    (joined : ∀ f, (∀ g ∈ f.operands, motive g) → motive f) :
    ∀ fs : List Formula, ∀ f ∈ fs, motive f
  | [] => List.forall_mem_nil _
  | f :: rest =>
    List.forall_mem_cons.2 ⟨induction_operands joined f, induction_items joined rest⟩

end

/-- The value that a formula compares with, if there is one. -/
def value? : Formula → Option PropertyValue
  | .propertyCompare _ _ _ value => some value
  | _ => none

mutual

/-- A property of all values in a formula. -/
def EachValue (P : PropertyValue → Prop) : Formula → Prop
  | .propertyCompare _ _ _ value => P value
  | .conjunction operands => EachValueIn P operands
  | .disjunction operands => EachValueIn P operands
  | .negation operand => EachValue P operand
  | _ => True

/-- A property of all values in several formulas. -/
def EachValueIn (P : PropertyValue → Prop) : List Formula → Prop
  | [] => True
  | f :: rest => EachValue P f ∧ EachValueIn P rest

end

theorem eachValueIn_iff {P : PropertyValue → Prop} {fs : List Formula} :
    EachValueIn P fs ↔ ∀ f ∈ fs, f.EachValue P := by
  induction fs with
  | nil => simp [EachValueIn]
  | cons f rest ih => rw [EachValueIn, ih, List.forall_mem_cons]

theorem eachValue_iff {P : PropertyValue → Prop} {f : Formula} :
    f.EachValue P ↔ (∀ v ∈ f.value?, P v) ∧ ∀ g ∈ f.operands, g.EachValue P := by
  cases f <;> simp [EachValue, eachValueIn_iff, value?, operands]

/-! ## Room -/

mutual

/-- The number of levels of formulas in a formula, if those of a rank below `bound` take two. -/
def height (bound : ℕ) : Formula → ℕ
  | .conjunction operands =>
    (if rank .conjunction < bound then 2 else 1) +
      heightIn (min (rank .conjunction) bound) operands
  | .disjunction operands =>
    (if rank .disjunction < bound then 2 else 1) +
      heightIn (min (rank .disjunction) bound) operands
  | .negation operand =>
    (if rank .negation < bound then 2 else 1) + height (min (rank .negation) bound) operand
  | f => if rank f.kind < bound then 2 else 1

/-- The greatest height of a formula among several. -/
def heightIn (bound : ℕ) : List Formula → ℕ
  | [] => 0
  | f :: rest => max (height bound f) (heightIn bound rest)

end

theorem heightIn_le_iff {bound n : ℕ} {fs : List Formula} :
    heightIn bound fs ≤ n ↔ ∀ f ∈ fs, f.height bound ≤ n := by
  induction fs with
  | nil => simp [heightIn]
  | cons f rest ih => rw [heightIn, max_le_iff, ih, List.forall_mem_cons]

theorem height_eq (bound : ℕ) (f : Formula) :
    f.height bound = (if rank f.kind < bound then 2 else 1) +
      heightIn (min (rank f.kind) bound) f.operands := by
  cases f with
  | negation g =>
    rw [operands, heightIn, heightIn, Nat.max_zero, height]
    rfl
  | _ => rfl

/-- There is room for a formula, and the values in it are valid. -/
def Fits (room : Room) (f : Formula) : Prop :=
  f.EachValue PropertyValue.Valid ∧ f.height room.bound ≤ room.levels

/-- The operands of a formula fit in some room, and its own value is valid. -/
def FitsInside (room : Room) (f : Formula) : Prop :=
  (∀ v ∈ f.value?, v.Valid) ∧ ∀ g ∈ f.operands, g.Fits room

/-- A formula fits if there is room for it and its operands fit inside. -/
theorem fits_iff {room : Room} {f : Formula} :
    f.Fits room ↔ ∃ inner, room.enter f.kind = some inner ∧ f.FitsInside inner := by
  have hcost : (if rank f.kind < room.bound then 2 else 1) = room.cost f.kind := rfl
  rw [Fits, eachValue_iff, height_eq, hcost]
  constructor
  · rintro ⟨⟨hvalue, hvalues⟩, hheight⟩
    have hinside : heightIn (min (rank f.kind) room.bound) f.operands ≤
        room.levels - room.cost f.kind := by omega
    exact ⟨_, if_pos (by omega), hvalue, fun g hg =>
      ⟨hvalues g hg, heightIn_le_iff.1 hinside g hg⟩⟩
  · rintro ⟨inner, henter, hvalue, hoperands⟩
    rw [Room.enter] at henter
    split_ifs at henter with hlevels
    cases henter
    have hinside : heightIn (min (rank f.kind) room.bound) f.operands ≤
        room.levels - room.cost f.kind := heightIn_le_iff.2 fun g hg => (hoperands g hg).2
    refine ⟨⟨hvalue, fun g hg => (hoperands g hg).1⟩, ?_⟩
    omega

/-! ## What is read -/

/-- The formula that is put together of operands with a property is of the kind that was asked for,
    and has operands with this property. -/
theorem yields_assemble {P : Formula → Prop} {operand : Decode Formula}
    {operands : Decode (List Formula)} (hoperand : Yields operand P)
    (hoperands : Yields operands fun fs => ∀ f ∈ fs, P f) (kind : FormulaKind)
    (fields : List (String × Document)) :
    Yields (assemble operand operands kind fields) fun f =>
      f.kind = kind ∧ (∀ v ∈ f.value?, v.Valid) ∧ ∀ g ∈ f.operands, P g := by
  cases kind with
  | propertyCompare =>
    refine (Yields.afterTag ((((Yields.any _).map.seq (.any _)).seq (.any _)).seq
      (.field PropertyValue.faithful.yields))).mono ?_
    rintro _ ⟨_, ⟨_, ⟨_, ⟨role, -, rfl⟩, property, -, rfl⟩, op, -, rfl⟩, value, hvalue, rfl⟩
    exact ⟨rfl, by simpa [value?] using hvalue, List.forall_mem_nil _⟩
  | crossCompare =>
    refine (Yields.afterTag (((((Yields.any _).map.seq (.any _)).seq (.any _)).seq
      (.any _)).seq (.any _))).mono ?_
    rintro _ ⟨_, ⟨_, ⟨_, ⟨_, ⟨role, -, rfl⟩, property, -, rfl⟩, op, -, rfl⟩, role', -, rfl⟩,
      property', -, rfl⟩
    exact ⟨rfl, by simp [value?], List.forall_mem_nil _⟩
  | isType =>
    refine (Yields.afterTag ((Yields.any _).map.seq (.any _))).mono ?_
    rintro _ ⟨_, ⟨role, -, rfl⟩, type, -, rfl⟩
    exact ⟨rfl, by simp [value?], List.forall_mem_nil _⟩
  | isNotType =>
    refine (Yields.afterTag ((Yields.any _).map.seq (.any _))).mono ?_
    rintro _ ⟨_, ⟨role, -, rfl⟩, type, -, rfl⟩
    exact ⟨rfl, by simp [value?], List.forall_mem_nil _⟩
  | pathBudget =>
    refine (Yields.afterTag (((((Yields.any _).map.seq (.any _)).seq (.any _)).seq
      (.any _)).seq (.any _))).mono ?_
    rintro _ ⟨_, ⟨_, ⟨_, ⟨_, ⟨concept, -, rfl⟩, cost, -, rfl⟩, costRole, -, rfl⟩, budget, -, rfl⟩,
      budgetRole, -, rfl⟩
    exact ⟨rfl, by simp [value?], List.forall_mem_nil _⟩
  | conjunction =>
    refine (Yields.afterTag hoperands.map).mono ?_
    rintro _ ⟨fs, hfs, rfl⟩
    exact ⟨rfl, by simp [value?], hfs⟩
  | disjunction =>
    refine (Yields.afterTag hoperands.map).mono ?_
    rintro _ ⟨fs, hfs, rfl⟩
    exact ⟨rfl, by simp [value?], hfs⟩
  | negation =>
    refine (Yields.afterTag hoperand.map).mono ?_
    rintro _ ⟨f, hf, rfl⟩
    exact ⟨rfl, by simp [value?], List.forall_mem_singleton.2 hf⟩

mutual

/-- All that is read in some room fits there. -/
theorem yields_decodeWithin (room : Room) : ∀ d, Yields (decodeWithin room d) (Fits room)
  | .object fields => by
    rw [decodeWithin]
    refine Yields.tagged (fun kind fieldsOfKind => ?_) _
    cases henter : room.enter kind with
    | none => exact .fail _
    | some inner =>
      refine (yields_assemble (yields_operandIn inner fields) (yields_operandsIn inner fields) kind
        fieldsOfKind).mono ?_
      rintro f ⟨rfl, hf⟩
      exact fits_iff.2 ⟨inner, henter, hf⟩
  | .null | .bool _ | .int _ | .float _ | .text _ | .list _ => .fail _

theorem yields_operandIn (room : Room) : ∀ fields, Yields (operandIn room fields) (Fits room)
  | [] => (Yields.fail _).under _
  | (name, d) :: rest => by
    rw [operandIn]
    split_ifs
    · exact (yields_decodeWithin room d).under _
    · exact yields_operandIn room rest

theorem yields_operandsIn (room : Room) :
    ∀ fields, Yields (operandsIn room fields) fun fs => ∀ f ∈ fs, f.Fits room
  | [] => .pure (by simp)
  | (name, d) :: rest => by
    rw [operandsIn]
    split_ifs
    · exact (yields_decodeList room d).under _
    · exact yields_operandsIn room rest

theorem yields_decodeList (room : Room) :
    ∀ d, Yields (decodeList room d) fun fs => ∀ f ∈ fs, f.Fits room
  | .list items => yields_decodeItems room 0 items
  | .null | .bool _ | .int _ | .float _ | .text _ | .object _ => .fail _

theorem yields_decodeItems (room : Room) (i : ℕ) :
    ∀ items, Yields (decodeItems room i items) fun fs => ∀ f ∈ fs, f.Fits room
  | [] => .pure (by simp)
  | d :: rest => by
    rw [decodeItems]
    refine (((yields_decodeWithin room d).under _).map.seq
      (yields_decodeItems room (i + 1) rest)).mono ?_
    rintro _ ⟨_, ⟨f, hf, rfl⟩, fs, hfs, rfl⟩
    exact List.forall_mem_cons.2 ⟨hf, hfs⟩

end

/-! ## What is written -/

theorem encodeItems_eq_map (fs : List Formula) : encodeItems fs = fs.map encode := by
  induction fs with
  | nil => rfl
  | cons f rest ih => rw [encodeItems, ih, List.map_cons, encode]

theorem decodeItems_eq_each (room : Room) (i : ℕ) (items : List Document) :
    decodeItems room i items = each (decodeWithin room) i items := by
  induction items generalizing i with
  | nil => rfl
  | cons d rest ih => rw [decodeItems, each, ih]

/-- The fields that are written of a formula, its tag among them. -/
def writtenFields (f : Formula) : List (String × Document) :=
  ("kind", .text f.kind.name) :: Document.portableFields f.encodeFields

/-- A formula is read again in some room. -/
def Restored (room : Room) (f : Formula) : Prop :=
  Restores (decodeWithin room f.encode.portable) f (f.EachValue PropertyValue.Finite)

variable {room : Room}

theorem restores_operandsIn {fs : List Formula} (h : ∀ f ∈ fs, Restored room f) (d : Document) :
    Restores (operandsIn room
      [("kind", d), ("exprs", (Document.list (encodeItems fs)).portable)]) fs
      (EachValueIn PropertyValue.Finite fs) := by
  have hitems : (Document.list (encodeItems fs)).portable =
      .list (fs.map fun f => f.encode.portable) := by
    rw [encodeItems_eq_map, Document.portable, Document.portableItems_eq_map, List.map_map]
    rfl
  rw [hitems]
  refine (Restores.under (.field "exprs") ?_).congr eachValueIn_iff.symm
  -- The recursion finds its field by itself; once it has, it reads a list like any other.
  show Restores (decodeItems room 0 (fs.map fun f => f.encode.portable)) fs _
  rw [decodeItems_eq_each]
  exact .each h 0

theorem restores_operandIn {f : Formula} (h : Restored room f) (d : Document) :
    Restores (operandIn room [("kind", d), ("expr", f.encode.portable)]) f
      (f.EachValue PropertyValue.Finite) :=
  h.under (.field "expr")

/-- A formula is put together from the fields that were written of it, if its operands are read
    again. -/
theorem restores_assemble {f : Formula} (hvalue : ∀ v ∈ f.value?, v.Valid)
    (hoperands : ∀ g ∈ f.operands, Restored room g) :
    Restores (assemble (operandIn room f.writtenFields) (operandsIn room f.writtenFields) f.kind
      f.writtenFields) f (f.EachValue PropertyValue.Finite) := by
  cases f with
  | propertyCompare role property op value =>
    exact (Restores.afterTag rfl (((((Restores.field rfl (.ident role)).map
      Formula.propertyCompare).seq (.field rfl (.pure property))).seq
      (.field rfl (.named CompareOp.ofName?_name op))).seq
      (.field rfl (PropertyValue.faithful.restores (hvalue value rfl))))).congr
      (by simp [EachValue])
  | crossCompare role property op role' property' =>
    exact (Restores.afterTag rfl ((((((Restores.field rfl (.ident role)).map
      Formula.crossCompare).seq (.field rfl (.pure property))).seq
      (.field rfl (.named CompareOp.ofName?_name op))).seq (.field rfl (.ident role'))).seq
      (.field rfl (.pure property')))).congr (by simp [EachValue])
  | isType role type =>
    exact (Restores.afterTag rfl (((Restores.field rfl (.ident role)).map
      Formula.isType).seq (.field rfl (.ident type)))).congr (by simp [EachValue])
  | isNotType role type =>
    exact (Restores.afterTag rfl (((Restores.field rfl (.ident role)).map
      Formula.isNotType).seq (.field rfl (.ident type)))).congr (by simp [EachValue])
  | pathBudget concept cost costRole budget budgetRole =>
    exact (Restores.afterTag rfl ((((((Restores.field rfl (.ident concept)).map
      Formula.pathBudget).seq (.field rfl (.pure cost))).seq
      (.field rfl (.ident costRole))).seq (.field rfl (.pure budget))).seq
      (.field rfl (.ident budgetRole)))).congr (by simp [EachValue])
  | conjunction fs =>
    exact .afterTag rfl ((restores_operandsIn hoperands _).map Formula.conjunction)
  | disjunction fs =>
    exact .afterTag rfl ((restores_operandsIn hoperands _).map Formula.disjunction)
  | negation g =>
    exact .afterTag rfl
      ((restores_operandIn (hoperands g List.mem_cons_self) _).map Formula.negation)

/-- What fits in some room is read there as it was written. -/
theorem restored_of_fits {f : Formula} (h : f.Fits room) : Restored room f := by
  induction f using induction_operands generalizing room with
  | joined f ih =>
    obtain ⟨inner, henter, hvalue, hoperands⟩ := fits_iff.1 h
    show Restores (decodeWithin room (.object f.writtenFields)) f _
    rw [decodeWithin]
    refine .tagged rfl f.kind.ofName?_name ?_
    rw [henter]
    exact restores_assemble hvalue fun g hg => ih g hg (hoperands g hg)

theorem faithful_decodeWithin (room : Room) :
    Faithful (decodeWithin room) encode (Fits room) (EachValue PropertyValue.Finite) :=
  ⟨yields_decodeWithin room, restored_of_fits⟩

/-- A formula of a kind that was known beforehand, with room inside it. -/
def ValidAs (kind : FormulaKind) (f : Formula) : Prop :=
  f.kind = kind ∧ f.FitsInside (.inside kind)

theorem faithful_decodeAs (kind : FormulaKind) :
    Faithful (decodeAs kind) encode (ValidAs kind) (EachValue PropertyValue.Finite) where
  yields := .object fun fields =>
    yields_assemble (yields_operandIn _ fields) (yields_operandsIn _ fields) kind fields
  restores := by
    rintro f ⟨rfl, hvalue, hoperands⟩
    exact restores_assemble hvalue fun g hg => restored_of_fits (hoperands g hg)

end Formula

end HexRules
