import HexRules.Proofs.Document.Levels
import HexRules.Proofs.Document.Ontology

/-!
# Round trip

What is valid in each class is told by its instances alone: colours have components from zero to
one, and formulas have room. No instance is read that is not valid.

A valid instance is written as a tree unless the formulas in it are too deep for that. The tree has
null in place of every number that is not finite, and is read as the same class. If all numbers in
the instance are finite, the same instance comes back, and no fresh identifier is minted for it. If
one of them is not, however deep inside, nothing comes back.

As text, a tree comes back if it is not too deep to be read either, and holds no integer of too many
digits.

Results:
* `DocumentClass.faithful`: every class is read faithfully.
* `DocumentClass.roundTrip`: so an instance comes back from its tree if it is finite.
-/

namespace HexRules

open Decode

namespace DocumentClass

/-- The instances of a class that are valid. -/
def Valid : (c : DocumentClass) → c.Instance → Prop
  | color => Color.Valid
  | value none => PropertyValue.Valid
  | value (some kind) => PropertyValue.ValidAs kind
  | propertyDef => PropertyDef.EachValue PropertyValue.Valid
  | entityType => EntityType.EachValue PropertyValue.Valid
  | entityData => EntityData.EachValue PropertyValue.Valid
  | entityTypes => EntityTypes.EachValue PropertyValue.Valid
  | tile => Tile.EachValue PropertyValue.Valid
  | unit => BoardUnit.EachValue PropertyValue.Valid
  | board => Board.EachValue PropertyValue.Valid
  | formula none => Formula.Fits .alone
  | formula (some kind) => Formula.ValidAs kind
  | effect none => Effect.Valid
  | effect (some kind) => Effect.ValidAs kind
  | relation => Relation.Valid
  | relations => Relations.Valid
  | constraint => Constraint.Valid
  | constraints => Constraints.Valid
  | enumDef | hex | grid | selection | conceptRole | concept | propertyBinding | binding | concepts
  | versioned => fun _ => True

/-- All numbers in an instance are finite. Where there can be none, that goes without saying. -/
def Finite : (c : DocumentClass) → c.Instance → Prop
  | color => Color.Finite
  | value _ => PropertyValue.Finite
  | propertyDef => PropertyDef.EachValue PropertyValue.Finite
  | entityType => EntityType.EachValue PropertyValue.Finite
  | entityData => EntityData.EachValue PropertyValue.Finite
  | entityTypes => EntityTypes.EachValue PropertyValue.Finite
  | tile => Tile.EachValue PropertyValue.Finite
  | unit => BoardUnit.EachValue PropertyValue.Finite
  | board => Board.EachValue PropertyValue.Finite
  | formula _ => Formula.EachValue PropertyValue.Finite
  | effect _ => Effect.EachValue PropertyValue.Finite
  | relation => Relation.EachValue PropertyValue.Finite
  | relations => Relations.EachValue PropertyValue.Finite
  | constraint => Constraint.EachValue PropertyValue.Finite
  | constraints => Constraints.EachValue PropertyValue.Finite
  | enumDef | hex | grid | selection | conceptRole | concept | propertyBinding | binding | concepts
  | versioned => fun _ => True

theorem faithful (c : DocumentClass) : Faithful c.decode c.encode c.Valid c.Finite := by
  cases c with
  | color => exact Color.faithful
  | value kind =>
    cases kind with
    | none => exact PropertyValue.faithful
    | some kind => exact PropertyValue.faithful_decodeAs kind
  | propertyDef => exact PropertyDef.faithful
  | enumDef => exact .of_restores EnumDef.restores
  | entityType => exact EntityType.faithful
  | entityData => exact EntityData.faithful
  | entityTypes => exact EntityTypes.faithful
  | hex => exact .of_restores Hex.restores
  | grid => exact .of_restores GridConfig.restores
  | tile => exact Tile.faithful
  | unit => exact BoardUnit.faithful
  | board => exact Board.faithful
  | selection => exact .of_restores Selection.restores
  | conceptRole => exact .of_restores ConceptRole.restores
  | concept => exact .of_restores Concept.restores
  | propertyBinding => exact .of_restores PropertyBinding.restores
  | binding => exact .of_restores Binding.restores
  | concepts => exact .of_restores Concepts.restores
  | formula kind =>
    cases kind with
    | none => exact Formula.faithful_decodeWithin .alone
    | some kind => exact Formula.faithful_decodeAs kind
  | effect kind =>
    cases kind with
    | none => exact Effect.faithful
    | some kind => exact Effect.faithful_decodeAs kind
  | relation => exact Relation.faithful
  | relations => exact Relations.faithful
  | constraint => exact Constraint.faithful
  | constraints => exact Constraints.faithful
  | versioned => exact .of_restores fun _ => .pure ()

theorem valid_of_run {c : DocumentClass} {d : Document} {supply rest : Supply} {a : c.Instance}
    (h : (c.decode d).run supply = .ok (a, rest)) : c.Valid a := by
  refine c.faithful.yields d supply a rest ?_
  rw [Decode.run] at h
  split at h <;> cases h
  assumption

theorem dump_of_shallow {c : DocumentClass} {a : c.Instance} (h : c.Shallow a) :
    c.dump a = .ok (c.encode a).portable :=
  if_pos ((c.isWritable_iff a).2 h)

theorem dump_of_not_shallow {c : DocumentClass} {a : c.Instance} (h : ¬c.Shallow a) :
    c.dump a = .error .tooDeep :=
  if_neg fun hwritable => h ((c.isWritable_iff a).1 hwritable)

/-- All that is read as a class is valid. A valid instance of shallow formulas is written, and comes
    back as the same instance, if all numbers in it are finite, and does not come back at all
    otherwise. Through text it comes back if it can be read there too. One of formulas that are too
    deep is not written. -/
theorem roundTrip (c : DocumentClass) :
    (∀ d supply a rest, (c.decode d).run supply = .ok (a, rest) → c.Valid a) ∧
    ∀ a, c.Valid a →
      (c.isWritable a = true ↔ c.Shallow a) ∧
      (¬c.Shallow a → c.dump a = .error .tooDeep) ∧
      (c.Shallow a → ∃ d, c.dump a = .ok d ∧
        (c.Finite a → ∀ supply, (c.decode d).run supply = .ok (a, supply)) ∧
        (¬c.Finite a → ∀ supply, ∃ issues, (c.decode d).run supply = .error issues) ∧
        ∀ supply, (d.throughText?.map fun d => (c.decode d).run supply) = some (.ok (a, supply)) ↔
          c.Finite a ∧ d.levels ≤ Document.maxLevels ∧ d.isShort = true) := by
  refine ⟨fun d supply a rest => valid_of_run, fun a hvalid => ⟨c.isWritable_iff a,
    dump_of_not_shallow, fun hshallow => ⟨_, dump_of_shallow hshallow, ?_⟩⟩⟩
  obtain ⟨hreads, hrefuses⟩ := (c.faithful.restores hvalid).run
  refine ⟨hreads, hrefuses, fun supply => ?_⟩
  by_cases hreadable :
      (c.encode a).portable.levels ≤ Document.maxLevels ∧ (c.encode a).portable.isShort = true
  · rw [Document.throughText?, if_pos hreadable]
    by_cases hfinite : c.Finite a
    · exact iff_of_true (congrArg some (hreads hfinite supply)) ⟨hfinite, hreadable⟩
    · obtain ⟨issues, hissues⟩ := hrefuses hfinite supply
      exact iff_of_false (by simp [hissues]) fun h => hfinite h.1
  · rw [Document.throughText?, if_neg hreadable]
    exact iff_of_false (by simp) fun h => hreadable h.2

/-! ## A speed limit -/

/-- An effect that blocks a unit unless its speed is below the given one. -/
def slowOnly (speed : Binary64) : Effect :=
  .block (some (.conjunction [.disjunction [],
    .negation (.propertyCompare (Supply.numbered 1) "speed" .lt (.float speed))]))

theorem valid_slowOnly (speed : Binary64) : (effect none).Valid (slowOnly speed) := by
  rintro f ⟨⟩
  refine ⟨⟨trivial, trivial, trivial⟩, ?_⟩
  simp [Formula.height, Formula.heightIn, Formula.kind, Formula.rank, Formula.Room.part,
    Formula.maxLevels]

theorem finite_slowOnly (speed : Binary64) :
    (effect none).Finite (slowOnly speed) ↔ speed.isFinite = true := by
  simp [Finite, Effect.EachValue, Effect.condition?, slowOnly, Formula.EachValue,
    Formula.EachValueIn, PropertyValue.Finite]

theorem shallow_slowOnly (speed : Binary64) : (effect none).Shallow (slowOnly speed) := by
  rintro f ⟨⟩
  simp [Formula.levels, Formula.levelsIn, PropertyValue.levels, PropertyValue.kind,
    Formula.maxWrittenLevels]

/-- A speed of one comes back, and an infinite one, six levels inside the effect, does not. -/
theorem roundTrip_slowOnly :
    (∃ d, (effect none).dump (slowOnly .one) = .ok d ∧
      ((effect none).decode d).run .start = .ok (slowOnly .one, .start)) ∧
    ∃ d issues, (effect none).dump (slowOnly (.infinity false)) = .ok d ∧
      ((effect none).decode d).run .start = .error issues := by
  obtain ⟨-, h⟩ := roundTrip (effect none)
  obtain ⟨-, -, hone⟩ := h (slowOnly .one) (valid_slowOnly _)
  obtain ⟨-, -, hinfinite⟩ := h (slowOnly (.infinity false)) (valid_slowOnly _)
  obtain ⟨d, hdump, hreads, -⟩ := hone (shallow_slowOnly _)
  obtain ⟨d', hdump', -, hrefuses, -⟩ := hinfinite (shallow_slowOnly _)
  have hfinite : (effect none).Finite (slowOnly .one) := (finite_slowOnly .one).2 (by decide)
  have hnot : ¬(effect none).Finite (slowOnly (.infinity false)) := by
    rw [finite_slowOnly]
    decide
  obtain ⟨issues, hissues⟩ := hrefuses hnot .start
  exact ⟨⟨d, hdump, hreads hfinite .start⟩, d', issues, hdump', hissues⟩

/-! ## Too deep to be written -/

/-- Conjunctions of one operand each, so many of them around an empty one. -/
def nested : ℕ → Formula
  | 0 => .conjunction []
  | n + 1 => .conjunction [nested n]

theorem eachValue_nested (P : PropertyValue → Prop) (n : ℕ) : (nested n).EachValue P := by
  induction n with
  | zero => exact trivial
  | succ n ih => exact ⟨ih, trivial⟩

theorem levels_nested (n : ℕ) : (nested n).levels = 2 * n + 1 := by
  induction n with
  | zero => rfl
  | succ n ih =>
    simp [nested, Formula.levels, Formula.levelsIn, ih]
    omega

theorem height_nested (n : ℕ) : (nested n).height 0 = n + 1 := by
  induction n with
  | zero => rfl
  | succ n ih =>
    simp [nested, Formula.height, Formula.heightIn, ih]
    omega

/-- On its own, the outermost conjunction takes two levels. -/
theorem fits_nested {n : ℕ} (h : n + 2 ≤ Formula.maxLevels) : (nested n).Fits .alone := by
  refine ⟨eachValue_nested _ n, ?_⟩
  cases n with
  | zero => decide
  | succ n =>
    have hinner := height_nested n
    simp [nested, Formula.height, Formula.heightIn, Formula.rank, Formula.Room.alone, hinner]
    omega

/-- A formula of 130 conjunctions is read, and holds no number at all, but is not written. -/
theorem exists_dump_eq_error :
    (∃ d, ((formula none).decode d).run .start = .ok (nested 129, .start)) ∧
      (formula none).Finite (nested 129) ∧
      (formula none).dump (nested 129) = .error .tooDeep := by
  have hvalid : (formula none).Valid (nested 129) := fits_nested (by decide)
  have hfinite : (formula none).Finite (nested 129) := eachValue_nested _ 129
  have hreads := ((formula none).faithful.restores hvalid).run.1 hfinite .start
  refine ⟨⟨_, hreads⟩, hfinite, dump_of_not_shallow fun hshallow => ?_⟩
  have hlevels : (nested 129).levels ≤ Formula.maxWrittenLevels := hshallow
  rw [levels_nested] at hlevels
  exact absurd hlevels (by decide)

end DocumentClass

end HexRules
