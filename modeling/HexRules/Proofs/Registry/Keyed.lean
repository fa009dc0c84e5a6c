import HexRules.Registry
import Mathlib.Data.List.Find
import Mathlib.Tactic

/-!
# Lists under identifiers

A registry adds at the end, takes out and puts in place by identifiers. If no identifier occurs
twice, it stays so, and whatever has another identifier than the one that is asked for stays where
it is among its like.

A list may be seen as one of other items that have the same identifiers. All that a registry does
can then be done before or after the change of view.

Results:
* `nodup_add`, `nodup_without`, `map_id_replace`: identifiers stay distinct.
* `find?_replace`: what was put in a place is found there, and all else as before.
* `find?_of_perm`: of distinct identifiers each stands for the same thing in any order.
* `withoutFirst_eq_without`: an identifier that occurs once is gone with its first item.
* `find?_withoutFirst_eq_none_iff`: one that occurs more often is not.
* `filter_add`, `filter_without`, `filter_withoutFirst`, `filter_replace`: items that are not meant
  stay, in their order.
* `find?_map`, `add_map`, `without_map`, `withoutFirst_map`, `replace_map`: a change of view.
-/

namespace HexRules.Registry

universe u

variable {α : Type u} [Identified α] {kind : RegistryKind} {name : Option String} {id : Ident}
  {a new : α} {items items' : List α}

/-! ## Distinct identifiers -/

theorem add_eq_ok_iff :
    add kind name a items = .ok items' ↔
      find? (Identified.id a) items = none ∧ items' = items ++ [a] := by
  rw [add]
  split
  · rename_i hfree
    simp [hfree, eq_comm]
  · rename_i b hused
    simp [hused]

theorem require_eq_ok_iff : require kind id items = .ok a ↔ find? id items = some a := by
  rw [require]
  cases find? id items <;> simp

theorem nodup_add (h : (items.map Identified.id).Nodup)
    (hadd : add kind name a items = .ok items') : (items'.map Identified.id).Nodup := by
  obtain ⟨hfree, rfl⟩ := add_eq_ok_iff.1 hadd
  rw [List.map_append, List.nodup_append]
  refine ⟨h, List.nodup_singleton _, ?_⟩
  rintro used hused new hnew rfl
  rw [List.map_singleton, List.mem_singleton] at hnew
  obtain ⟨b, hb, rfl⟩ := List.mem_map.1 hused
  exact find?_eq_none_iff.1 hfree b hb hnew

theorem nodup_without (h : (items.map Identified.id).Nodup) (id : Ident) :
    ((without id items).map Identified.id).Nodup :=
  h.sublist (List.filter_sublist.map _)

theorem map_id_replace (hid : Identified.id new = id) (items : List α) :
    (replace id new items).map Identified.id = items.map Identified.id := by
  rw [replace, List.map_map]
  apply List.map_congr_left
  intro a _
  rw [Function.comp_apply]
  split_ifs with ha
  · exact hid.trans ha.symm
  · rfl

theorem withoutFirst_eq_without (h : (items.map Identified.id).Nodup) (id : Ident) :
    withoutFirst id items = without id items := by
  induction items with
  | nil => rfl
  | cons a rest ih =>
    obtain ⟨hnew, hrest⟩ := List.nodup_cons.1 h
    by_cases ha : Identified.id a = id
    · subst ha
      have hothers : without (Identified.id a) rest = rest := by
        refine List.filter_eq_self.2 fun b hb => ?_
        have hb : Identified.id b ≠ Identified.id a :=
          fun heq => hnew (heq ▸ List.mem_map_of_mem hb)
        simp [hb]
      have hfirst : without (Identified.id a) (a :: rest) = without (Identified.id a) rest := by
        simp [without]
      rw [hfirst, hothers, withoutFirst, List.eraseP_cons_of_pos (by simp)]
    · have hkept : without id (a :: rest) = a :: without id rest := by simp [without, ha]
      rw [hkept, ← ih hrest, withoutFirst, withoutFirst,
        List.eraseP_cons_of_neg (by simpa using ha)]

/-! ## Look-ups -/

theorem find?_replace (hid : Identified.id new = id) (id' : Ident) (items : List α) :
    find? id' (replace id new items) =
      if id = id' then (find? id items).map fun _ => new else find? id' items := by
  induction items with
  | nil => simp [find?, replace]
  | cons a rest ih =>
    rw [replace, List.map_cons, ← replace]
    unfold find? at ih ⊢
    by_cases ha : Identified.id a = id
    · rw [if_pos ha]
      by_cases hid' : id = id'
      · subst hid'
        simp [ha, hid]
      · have hnew : Identified.id new ≠ id' := fun heq => hid' (hid.symm.trans heq)
        have hold : Identified.id a ≠ id' := fun heq => hid' (ha.symm.trans heq)
        simpa [hnew, hold, hid'] using ih
    · rw [if_neg ha]
      by_cases ha' : Identified.id a = id'
      · have hid' : id ≠ id' := fun heq => ha (ha'.trans heq.symm)
        simp [ha', hid']
      · simpa [ha, ha'] using ih

theorem find?_of_perm (h : (items.map Identified.id).Nodup) (hperm : items.Perm items')
    (id : Ident) : find? id items = find? id items' := by
  apply List.find?_eq_find?_of_perm hperm
  rintro a ⟨ha, haid⟩ b ⟨hb, hbid⟩
  rw [decide_eq_true_eq] at haid hbid
  exact List.inj_on_of_nodup_map h ha hb (haid.trans hbid.symm)

/-- The first item with an identifier, where it stands. -/
theorem exists_split_of_find? (h : find? id items = some a) :
    ∃ before after, items = before ++ a :: after ∧ withoutFirst id items = before ++ after ∧
      find? id before = none := by
  obtain ⟨hid, before, after, rfl, hbefore⟩ := List.find?_eq_some_iff_append.1 h
  have hmiss : ∀ b ∈ before, ¬decide (Identified.id b = id) = true := by
    intro b hb
    simpa using hbefore b hb
  refine ⟨before, after, rfl, ?_, ?_⟩
  · rw [withoutFirst, List.eraseP_append_right _ hmiss,
      List.eraseP_cons_of_pos (by simpa using hid)]
  · exact List.find?_eq_none.2 hmiss

/-- What was the first with an identifier is gone; another one may come to light. -/
theorem find?_withoutFirst_eq_none_iff (h : find? id items = some a) :
    find? id (withoutFirst id items) = none ↔
      items.countP (fun b => decide (Identified.id b = id)) = 1 := by
  have hid : Identified.id a = id := id_of_find? h
  obtain ⟨before, after, hitems, hrest, hbefore⟩ := exists_split_of_find? h
  have hnone : before.countP (fun b => decide (Identified.id b = id)) = 0 :=
    List.countP_eq_zero.2 (List.find?_eq_none.1 hbefore)
  have hcount : items.countP (fun b => decide (Identified.id b = id)) =
      after.countP (fun b => decide (Identified.id b = id)) + 1 := by
    rw [hitems, List.countP_append, hnone, Nat.zero_add, List.countP_cons_of_pos (by simp [hid])]
  have hafter : find? id (withoutFirst id items) = find? id after := by
    unfold find? at hbefore ⊢
    rw [hrest, List.find?_append, hbefore, Option.none_or]
  rw [hafter, hcount, Nat.add_eq_right, List.countP_eq_zero, find?, List.find?_eq_none]

/-! ## Items that are not meant -/

variable {keep : Ident → Bool}

theorem filter_add (ha : keep (Identified.id a) = false)
    (hadd : add kind name a items = .ok items') :
    items'.filter (fun b => keep (Identified.id b)) =
      items.filter fun b => keep (Identified.id b) := by
  obtain ⟨-, rfl⟩ := add_eq_ok_iff.1 hadd
  simp [ha]

theorem filter_without (hid : keep id = false) (items : List α) :
    (without id items).filter (fun b => keep (Identified.id b)) =
      items.filter fun b => keep (Identified.id b) := by
  rw [without, List.filter_filter]
  apply List.filter_congr
  intro b _
  by_cases hb : Identified.id b = id
  · simp [hb, hid]
  · simp [hb]

theorem filter_withoutFirst (keep : Ident → Bool) (hid : keep id = false) (items : List α) :
    (withoutFirst id items).filter (fun b => keep (Identified.id b)) =
      items.filter fun b => keep (Identified.id b) := by
  cases h : find? id items with
  | none =>
    have hmiss : ∀ b ∈ items, ¬decide (Identified.id b = id) = true := List.find?_eq_none.1 h
    rw [withoutFirst, List.eraseP_of_forall_not hmiss]
  | some a =>
    obtain ⟨before, after, hitems, hrest, -⟩ := exists_split_of_find? h
    have ha : keep (Identified.id a) = false := by rw [id_of_find? h, hid]
    rw [hrest, hitems, List.filter_append, List.filter_append,
      List.filter_cons_of_neg (by simp [ha])]

theorem filter_replace (hnew : Identified.id new = id) (hid : keep id = false) (items : List α) :
    (replace id new items).filter (fun b => keep (Identified.id b)) =
      items.filter fun b => keep (Identified.id b) := by
  induction items with
  | nil => rfl
  | cons b rest ih =>
    rw [replace, List.map_cons, ← replace]
    by_cases hb : Identified.id b = id
    · rw [if_pos hb, List.filter_cons_of_neg (by simp [hnew, hid]),
        List.filter_cons_of_neg (by simp [hb, hid]), ih]
    · rw [if_neg hb, List.filter_cons, List.filter_cons, ih]

/-! ## A change of view -/

section

universe v

variable {β : Type v} [Identified β] {f : α → β}

theorem find?_map (hf : ∀ a, Identified.id (f a) = Identified.id a) (id : Ident) (items : List α) :
    find? id (items.map f) = (find? id items).map f := by
  unfold find?
  rw [List.find?_map]
  simp [hf]

theorem add_map (hf : ∀ a, Identified.id (f a) = Identified.id a) (kind : RegistryKind)
    (name : Option String) (a : α) (items : List α) :
    add kind name (f a) (items.map f) = (add kind name a items).map (List.map f) := by
  rw [add, add, hf, find?_map hf]
  cases find? (Identified.id a) items with
  | none => simp [Except.map]
  | some b => rfl

theorem require_map (hf : ∀ a, Identified.id (f a) = Identified.id a) (kind : RegistryKind)
    (id : Ident) (items : List α) :
    require kind id (items.map f) = (require kind id items).map f := by
  rw [require, require, find?_map hf]
  cases find? id items <;> rfl

theorem without_map (hf : ∀ a, Identified.id (f a) = Identified.id a) (id : Ident)
    (items : List α) : without id (items.map f) = (without id items).map f := by
  rw [without, without, List.filter_map]
  simp [Function.comp_def, hf]

theorem withoutFirst_map (hf : ∀ a, Identified.id (f a) = Identified.id a) (id : Ident)
    (items : List α) : withoutFirst id (items.map f) = (withoutFirst id items).map f := by
  rw [withoutFirst, withoutFirst, List.eraseP_map]
  simp [Function.comp_def, hf]

theorem replace_map (hf : ∀ a, Identified.id (f a) = Identified.id a) (id : Ident) (new : α)
    (items : List α) : replace id (f new) (items.map f) = (replace id new items).map f := by
  rw [replace, replace, List.map_map, List.map_map]
  apply List.map_congr_left
  intro a _
  rw [Function.comp_apply, Function.comp_apply, hf]
  split_ifs <;> rfl

end

end HexRules.Registry
