import HexRules.Board.Codec
import HexRules.Proofs.Document.Faithful

/-!
# Documents of entities and of the board

Colours are valid whose components lie from zero to one, and all that holds colours is valid if they
are. Property values, entity types, the data of objects, and the board are read as they were
written, unless a floating-point number in them is not finite.

`EachValue` says of all values inside something that they have a property. The colour of an entity
type is among its values.

Results:
* `PropertyValue.faithful`: so it is with the values of properties, and
* `EntityTypes.faithful`, `Board.faithful`: with all that holds them.
-/

namespace HexRules

open Decode

/-! ## Property values -/

namespace Color

/-- A number that may be a component: it is not below zero and not above one. -/
def IsComponent (x : Binary64) : Prop :=
  Binary64.le .zero x = true ∧ Binary64.le x .one = true

/-- All components lie where they should. -/
def Valid (c : Color) : Prop :=
  IsComponent c.red ∧ IsComponent c.green ∧ IsComponent c.blue ∧ IsComponent c.alpha

/-- All components are finite. -/
def Finite (c : Color) : Prop :=
  c.red.isFinite = true ∧ c.green.isFinite = true ∧ c.blue.isFinite = true ∧
    c.alpha.isFinite = true

theorem isComponent_iff {x : Binary64} : IsComponent x ↔
    (if !Binary64.le x .one then some Defect.tooLarge
      else if !Binary64.le .zero x then some .tooSmall else none) = none := by
  cases hone : Binary64.le x .one <;> cases hzero : Binary64.le .zero x <;>
    simp [IsComponent, hone, hzero]

theorem yields_decodeComponent (d : Document) : Yields (decodeComponent d) IsComponent :=
  (Yields.any _).check.mono fun _ hx => isComponent_iff.2 hx.2

theorem restores_decodeComponent {x : Binary64} (h : IsComponent x) :
    Restores (decodeComponent (Document.float x).portable) x (x.isFinite = true) :=
  (Restores.float x).check (isComponent_iff.1 h)

theorem isComponent_one : IsComponent .one := by
  unfold IsComponent
  decide

theorem faithful : Faithful decode encode Valid Finite where
  yields := by
    refine Yields.object fun fields => ?_
    refine ((((Yields.field yields_decodeComponent).map.seq
      (.field yields_decodeComponent)).seq (.field yields_decodeComponent)).seq
      (.fieldOr (.pure isComponent_one) yields_decodeComponent)).mono ?_
    rintro _ ⟨_, ⟨_, ⟨_, ⟨r, hr, rfl⟩, g, hg, rfl⟩, b, hb, rfl⟩, a, ha, rfl⟩
    exact ⟨hr, hg, hb, ha⟩
  restores := fun ⟨hr, hg, hb, ha⟩ =>
    (((((Restores.field rfl (restores_decodeComponent hr)).map Color.mk).seq
      (.field rfl (restores_decodeComponent hg))).seq
      (.field rfl (restores_decodeComponent hb))).seq
      (.fieldOr rfl (restores_decodeComponent ha))).congr (by simp [Finite, and_assoc])

theorem valid_white : white.Valid :=
  ⟨isComponent_one, isComponent_one, isComponent_one, isComponent_one⟩

end Color

namespace PropertyKind

theorem ofName?_name (kind : PropertyKind) : ofName? kind.name = some kind := by
  cases kind <;> rfl

end PropertyKind

namespace PropertyValue

/-- A value is valid unless it is a colour that is not. -/
def Valid : PropertyValue → Prop
  | .color c => c.Valid
  | _ => True

/-- A value is finite unless it is a number that is not, or has one for a component. -/
def Finite : PropertyValue → Prop
  | .float x => x.isFinite = true
  | .color c => c.Finite
  | _ => True

/-- A value of a kind that was known beforehand. -/
def ValidAs (kind : PropertyKind) (v : PropertyValue) : Prop := v.kind = kind ∧ v.Valid

theorem yields_decodeContent (kind : PropertyKind) (d : Document) :
    Yields (decodeContent kind d) (ValidAs kind) := by
  cases kind with
  | color =>
    refine (Color.faithful.yields d).map.mono ?_
    rintro _ ⟨c, hc, rfl⟩
    exact ⟨rfl, hc⟩
  | bool | int | float | string | enum =>
    refine (Yields.any _).map.mono ?_
    rintro _ ⟨_, -, rfl⟩
    exact ⟨rfl, trivial⟩

theorem restores_decodeContent {v : PropertyValue} (h : v.Valid) :
    Restores (decodeContent v.kind v.encodeContent.portable) v v.Finite := by
  cases v with
  | bool b => exact (Restores.pure b).map PropertyValue.bool
  | int n => exact (Restores.pure n).map PropertyValue.int
  | float x => exact (Restores.float x).map PropertyValue.float
  | string s => exact (Restores.pure s).map PropertyValue.string
  | color c => exact (Color.faithful.restores h).map PropertyValue.color
  | enum s => exact (Restores.pure s).map PropertyValue.enum

theorem yields_decodeFields (kind : PropertyKind) (fields : List (String × Document)) :
    Yields (decodeFields kind fields) (ValidAs kind) :=
  .afterTag (.field (yields_decodeContent kind))

/-- The fields that are written of a value are read as the value, by whoever knows its kind. -/
theorem restores_decodeFields {v : PropertyValue} (h : v.Valid) :
    Restores (decodeFields v.kind
      [("kind", .text v.kind.name), ("value", v.encodeContent.portable)]) v v.Finite :=
  .afterTag rfl (.field rfl (restores_decodeContent h))

theorem faithful_decodeAs (kind : PropertyKind) :
    Faithful (decodeAs kind) encode (ValidAs kind) Finite where
  yields := .object (yields_decodeFields kind)
  restores := by
    rintro v ⟨rfl, hv⟩
    exact restores_decodeFields hv

theorem faithful : Faithful decode encode Valid Finite where
  yields := .tagged fun kind fields => (yields_decodeFields kind fields).mono fun _ hv => hv.2
  restores := fun {v} hv => .tagged rfl v.kind.ofName?_name (restores_decodeFields hv)

end PropertyValue

section

variable (P : PropertyValue → Prop)

/-! ## Entity types -/

/-- A property of the default value. -/
def PropertyDef.EachValue (p : PropertyDef) : Prop := P p.default

/-- A property of the colour and all default values. -/
def EntityType.EachValue (t : EntityType) : Prop :=
  P (.color t.color) ∧ ∀ p ∈ t.properties, p.EachValue P

/-- A property of all values of all entity types. -/
def EntityTypes.EachValue (reg : EntityTypes) : Prop := ∀ t ∈ reg.types, t.EachValue P

/-- A property of the values of all properties. -/
def EntityData.EachValue (data : EntityData) : Prop := ∀ e ∈ data.properties.entries, P e.2

/-- A property of all values on a tile. -/
def Tile.EachValue (tile : Tile) : Prop := tile.data.EachValue P

/-- A property of all values of a unit. -/
def BoardUnit.EachValue (unit : BoardUnit) : Prop := unit.data.EachValue P

/-- A property of all values on the board. -/
def Board.EachValue (board : Board) : Prop :=
  (∀ e ∈ board.tiles.entries, e.2.EachValue P) ∧ ∀ e ∈ board.units.entries, e.2.EachValue P

end

namespace EntityRole

theorem ofName?_name (role : EntityRole) : ofName? role.name = some role := by
  cases role <;> rfl

end EntityRole

namespace PropertyDef

theorem faithful : Faithful decode encode (EachValue PropertyValue.Valid)
    (EachValue PropertyValue.Finite) where
  yields := by
    refine Yields.object fun fields => ?_
    refine (((((Yields.any _).map.seq (.any _)).seq (.any _)).seq
      (.field PropertyValue.faithful.yields)).seq (.any _)).mono ?_
    rintro _ ⟨_, ⟨_, ⟨_, ⟨_, ⟨id, -, rfl⟩, name, -, rfl⟩, kind, -, rfl⟩, v, hv, rfl⟩, enumId, -,
      rfl⟩
    exact hv
  restores := fun {p} hp =>
    ((((((Restores.fieldOr rfl (.ident p.id)).map PropertyDef.mk).seq
      (.field rfl (.pure p.name))).seq
      (.field rfl (.named PropertyKind.ofName?_name p.kind))).seq
      (.field rfl (PropertyValue.faithful.restores hp))).seq
      (.fieldOr rfl (.nullable (by simp [Document.ofIdent, Document.portable])
        fun id _ => .ident id))).congr (by simp [EachValue])

end PropertyDef

namespace EnumDef

theorem restores (e : EnumDef) : Restores (decode e.encode.portable) e True :=
  ((((Restores.fieldOr rfl (.ident e.id)).map EnumDef.mk).seq (.field rfl (.pure e.name))).seq
    (.fieldOr rfl (.list fun s _ => .pure s))).congr (by simp)

end EnumDef

namespace EntityType

theorem faithful : Faithful decode encode (EachValue PropertyValue.Valid)
    (EachValue PropertyValue.Finite) where
  yields := by
    refine Yields.object fun fields => ?_
    refine (((((Yields.any _).map.seq (.any _)).seq (.any _)).seq
      (.fieldOr (.pure Color.valid_white) Color.faithful.yields)).seq
      (.fieldOr (.pure (by simp)) (.list PropertyDef.faithful.yields))).mono ?_
    rintro _ ⟨_, ⟨_, ⟨_, ⟨_, ⟨id, -, rfl⟩, name, -, rfl⟩, role, -, rfl⟩, color, hcolor, rfl⟩,
      properties, hproperties, rfl⟩
    exact ⟨hcolor, hproperties⟩
  restores := fun {t} ⟨hcolor, hproperties⟩ =>
    ((((((Restores.fieldOr rfl (.ident t.id)).map EntityType.mk).seq
      (.field rfl (.pure t.name))).seq
      (.field rfl (.named EntityRole.ofName?_name t.role))).seq
      (.fieldOr rfl (Color.faithful.restores hcolor))).seq
      (.fieldOr rfl (.list fun p hp => PropertyDef.faithful.restores (hproperties p hp)))).congr
      (by simp [EachValue, PropertyValue.Finite])

end EntityType

namespace EntityTypes

theorem faithful : Faithful decode encode (EachValue PropertyValue.Valid)
    (EachValue PropertyValue.Finite) where
  yields := by
    refine Yields.object fun fields => ?_
    refine ((Yields.fieldOr (.pure (by simp)) (.list EntityType.faithful.yields)).map.seq
      (.any _)).mono ?_
    rintro _ ⟨_, ⟨types, htypes, rfl⟩, enums, -, rfl⟩
    exact htypes
  restores := fun htypes =>
    (((Restores.fieldOr rfl (.list fun t ht => EntityType.faithful.restores (htypes t ht))).map
      EntityTypes.mk).seq (.fieldOr rfl (.list fun e _ => e.restores))).congr (by simp [EachValue])

end EntityTypes

/-! ## The board -/

namespace EntityData

theorem faithful : Faithful decode encode (EachValue PropertyValue.Valid)
    (EachValue PropertyValue.Finite) where
  yields := by
    refine Yields.object fun fields => ?_
    refine ((Yields.any _).map.seq (.fieldOr (.pure (by simp [Table.empty]))
      (.table _ PropertyValue.faithful.yields))).mono ?_
    rintro _ ⟨_, ⟨type, -, rfl⟩, properties, hproperties, rfl⟩
    exact hproperties
  restores := fun {data} hproperties =>
    (((Restores.field rfl (.ident data.typeId)).map EntityData.mk).seq
      (.fieldOr rfl (.table Ident.parse?_text fun e he =>
        PropertyValue.faithful.restores (hproperties e he)))).congr (by simp [EachValue])

end EntityData

namespace Hex

theorem restores (p : Hex) : Restores (decode p.encode.portable) p True :=
  (((Restores.field rfl (.pure p.q)).map Hex.mk).seq (.field rfl (.pure p.r))).congr (by simp)

end Hex

namespace GridConfig

theorem restores (grid : GridConfig) : Restores (decode grid.encode.portable) grid True := by
  have hradius : Restores (decodeRadius (Document.int grid.radius)) grid.radius True :=
    ((Restores.pure (grid.radius : Int)).check (by simp)).map Int.toNat
  exact (Restores.field rfl hradius).map GridConfig.mk

end GridConfig

namespace Tile

theorem faithful : Faithful decode encode (EachValue PropertyValue.Valid)
    (EachValue PropertyValue.Finite) where
  yields := by
    refine Yields.object fun fields => ?_
    refine ((Yields.any _).map.seq (.field EntityData.faithful.yields)).mono ?_
    rintro _ ⟨_, ⟨position, -, rfl⟩, data, hdata, rfl⟩
    exact hdata
  restores := fun {tile} hdata =>
    (((Restores.field rfl tile.position.restores).map Tile.mk).seq
      (.field rfl (EntityData.faithful.restores hdata))).congr (by simp [EachValue])

end Tile

namespace BoardUnit

theorem faithful : Faithful decode encode (EachValue PropertyValue.Valid)
    (EachValue PropertyValue.Finite) where
  yields := by
    refine Yields.object fun fields => ?_
    refine (((Yields.any _).map.seq (.any _)).seq (.field EntityData.faithful.yields)).mono ?_
    rintro _ ⟨_, ⟨_, ⟨id, -, rfl⟩, position, -, rfl⟩, data, hdata, rfl⟩
    exact hdata
  restores := fun {unit} hdata =>
    ((((Restores.field rfl (.pure unit.id)).map BoardUnit.mk).seq
      (.field rfl unit.position.restores)).seq
      (.field rfl (EntityData.faithful.restores hdata))).congr (by simp [EachValue])

end BoardUnit

namespace Board

theorem faithful : Faithful decode encode (EachValue PropertyValue.Valid)
    (EachValue PropertyValue.Finite) where
  yields := by
    refine Yields.object fun fields => ?_
    refine ((Yields.fieldOr (.pure (by simp [Table.empty]))
      (.table _ Tile.faithful.yields)).map.seq (.fieldOr (.pure (by simp [Table.empty]))
      (.table _ BoardUnit.faithful.yields))).mono ?_
    rintro _ ⟨_, ⟨tiles, htiles, rfl⟩, units, hunits, rfl⟩
    exact ⟨htiles, hunits⟩
  restores := fun ⟨htiles, hunits⟩ =>
    ((Restores.fieldOr rfl (.table (fun _ => rfl) fun e he =>
      Tile.faithful.restores (htiles e he))).map Board.mk).seq
      (.fieldOr rfl (.table (fun _ => rfl) fun e he =>
        BoardUnit.faithful.restores (hunits e he)))

end Board

namespace Selection

theorem restores (selected : Selection) :
    Restores (decode selected.encode.portable) selected True :=
  ((Restores.fieldOr rfl (.nullable (by simp [Document.portable]) fun s _ => .pure s)).map
    Selection.mk).congr (by simp)

end Selection

end HexRules
