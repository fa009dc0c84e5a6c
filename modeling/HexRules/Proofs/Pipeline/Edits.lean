import HexRules.Pipeline.Edit
import HexRules.Proofs.Pipeline.Versions
import HexRules.Proofs.Registry.Keyed

/-!
# Orderly edits

Most edits count, and leave identifiers as they are. After such an edit, accepted or refused, every
handle follows the old one, what was derived is as it was, and identifiers of relations that were
distinct still are.

Results:
* `apply_edited`: an orderly edit that is not refused does so.
* `edited_tell`, `edited_replace_board`, `edited_replace_grid`: so do events, a new board and a new
  map.
-/

namespace HexRules

/-- Edits that count, and leave identifiers as they are. -/
def Edit.Orderly : Edit → Prop
  | .updateRelation id new => new.id = id
  | .appendRole _ _ => False
  | .appendProperty _ _ => False
  | .appendConstraint _ => False
  | _ => True

/-! ## Identifiers of relations -/

namespace Relations

variable {reg reg' : Relations}

/-- No two relations have one identifier. -/
def Distinct (reg : Relations) : Prop := (reg.relations.map Relation.id).Nodup

theorem Distinct.add {r : Relation} (h : reg.Distinct) (hadd : reg.add r = .ok reg') :
    reg'.Distinct := by
  obtain ⟨relations, hrelations, hreg⟩ := Outcome.bind_eq_ok_iff.1 hadd
  cases hreg
  exact Registry.nodup_add h hrelations

theorem Distinct.remove {id : Ident} {r : Relation} (h : reg.Distinct)
    (hremove : reg.remove id = .ok (r, reg')) : reg'.Distinct := by
  obtain ⟨r', -, hreg⟩ := Outcome.bind_eq_ok_iff.1 hremove
  cases hreg
  exact Registry.nodup_without h id

theorem Distinct.update {id : Ident} {new : Relation} (h : reg.Distinct) (hid : new.id = id)
    (hupdate : reg.update id new = .ok reg') : reg'.Distinct := by
  obtain ⟨r, -, hreg⟩ := Outcome.bind_eq_ok_iff.1 hupdate
  cases hreg
  have hids : (Registry.replace id new reg.relations).map Relation.id =
      reg.relations.map Relation.id := Registry.map_id_replace hid reg.relations
  rw [Distinct, hids]
  exact h

end Relations

/-! ## Pipelines that follow others -/

namespace Pipeline

/-- A later state of a pipeline: every handle follows the old one. -/
structure Follows (old new : Pipeline) : Prop where
  types : old.types.Follows new.types
  concepts : old.concepts.Follows new.concepts
  relations : old.relations.Follows new.relations
  constraints : old.constraints.Follows new.constraints
  selected : old.selected.Follows new.selected
  settings : new.settings = old.settings
  distinct : old.relations.content.Distinct → new.relations.content.Distinct

/-- A later state of a pipeline with nothing derived anew. -/
structure Edited (old new : Pipeline) : Prop extends Follows old new where
  generator : new.generator = old.generator
  schema : new.schema = old.schema
  moves : new.moves = old.moves

variable {p p' : Pipeline}

theorem follows_refl (p : Pipeline) : p.Follows p where
  types := p.types.follows_refl
  concepts := p.concepts.follows_refl
  relations := p.relations.follows_refl
  constraints := p.constraints.follows_refl
  selected := p.selected.follows_refl
  settings := rfl
  distinct := id

theorem edited_refl (p : Pipeline) : p.Edited p := ⟨p.follows_refl, rfl, rfl, rfl⟩

theorem edited_tell (p : Pipeline) (events : List Event) : p.Edited (p.tell events) :=
  ⟨{ p.follows_refl with }, rfl, rfl, rfl⟩

theorem edited_replace_board (p : Pipeline) (board : Board) :
    p.Edited (p.replace (.board board)) :=
  ⟨{ p.follows_refl with }, rfl, rfl, rfl⟩

theorem edited_replace_grid (p : Pipeline) (grid : GridConfig) :
    p.Edited (p.replace (.grid grid)) :=
  ⟨{ p.follows_refl with }, rfl, rfl, rfl⟩

theorem edited_withTypes {h : Handle EntityTypes} (hf : p.types.Follows h) :
    p.Edited (p.withTypes h) :=
  ⟨{ p.follows_refl with types := hf }, rfl, rfl, rfl⟩

theorem edited_withConcepts {h : Handle Concepts} (hf : p.concepts.Follows h) :
    p.Edited (p.withConcepts h) :=
  ⟨{ p.follows_refl with concepts := hf }, rfl, rfl, rfl⟩

theorem edited_withConstraints {h : Handle Constraints} (hf : p.constraints.Follows h) :
    p.Edited (p.withConstraints h) :=
  ⟨{ p.follows_refl with constraints := hf }, rfl, rfl, rfl⟩

theorem edited_withRelations {h : Handle Relations} (hf : p.relations.Follows h)
    (hd : p.relations.content.Distinct → h.content.Distinct) : p.Edited (p.withRelations h) :=
  ⟨{ p.follows_refl with relations := hf, distinct := hd }, rfl, rfl, rfl⟩

/-- An edit of the relations that keeps their identifiers distinct. -/
theorem edited_of_tryEdit_relations {f : Relations → Except RegistryError Relations}
    (hf : ∀ reg reg' : Relations, reg.Distinct → f reg = .ok reg' → reg'.Distinct)
    (h : (p.relations.tryEdit f).map p.withRelations = .ok p') : p.Edited p' := by
  obtain ⟨handle, hhandle, rfl⟩ := Outcome.map_eq_ok_iff.1 h
  apply edited_withRelations (Handle.follows_tryEdit hhandle)
  intro hd
  rw [Handle.tryEdit] at hhandle
  obtain ⟨content, hcontent, rfl⟩ := Outcome.map_eq_ok_iff.1 hhandle
  exact hf _ _ hd hcontent

theorem edited_select (p : Pipeline) (unit : Option String) : p.Edited (p.select unit) := by
  rw [select]
  split_ifs
  · exact p.edited_refl
  · exact ⟨{ p.follows_refl with selected := p.selected.follows_edit _ }, rfl, rfl, rfl⟩

theorem edited_markChanged (p : Pipeline) (handle : HandleName) :
    p.Edited (p.markChanged handle) := by
  cases handle with
  | types => exact edited_withTypes p.types.follows_touch
  | concepts => exact edited_withConcepts p.concepts.follows_touch
  | relations => exact edited_withRelations p.relations.follows_touch id
  | constraints => exact edited_withConstraints p.constraints.follows_touch
  | selected =>
    exact ⟨{ p.follows_refl with selected := p.selected.follows_touch }, rfl, rfl, rfl⟩

theorem apply_edited {e : Edit} (he : e.Orderly) (h : p.apply e = .ok p') : p.Edited p' := by
  cases e with
  | addType t | removeType id | addEnum e =>
    obtain ⟨handle, hhandle, rfl⟩ := Outcome.map_eq_ok_iff.1 h
    exact edited_withTypes (Handle.follows_tryEdit hhandle)
  | addConcept c | removeConcept id | addBinding b | removeBinding id =>
    obtain ⟨handle, hhandle, rfl⟩ := Outcome.map_eq_ok_iff.1 h
    exact edited_withConcepts (Handle.follows_tryEdit hhandle)
  | addConstraint c | removeConstraint id =>
    obtain ⟨handle, hhandle, rfl⟩ := Outcome.map_eq_ok_iff.1 h
    exact edited_withConstraints (Handle.follows_tryEdit hhandle)
  | addRelation r =>
    exact edited_of_tryEdit_relations (fun reg reg' hd hreg => hd.add hreg) h
  | updateRelation id new =>
    exact edited_of_tryEdit_relations (fun reg reg' hd hreg => hd.update he hreg) h
  | removeRelation id =>
    apply edited_of_tryEdit_relations _ h
    intro reg reg' hd hreg
    obtain ⟨⟨r, reg''⟩, hremove, rfl⟩ := Outcome.map_eq_ok_iff.1 hreg
    exact hd.remove hremove
  | select unit =>
    cases h
    exact p.edited_select unit
  | markChanged handle =>
    cases h
    exact p.edited_markChanged handle
  | board edit =>
    cases h
    exact p.edited_replace_board _
  | appendRole concept role | appendProperty binding property | appendConstraint c => cases he

end Pipeline

end HexRules
