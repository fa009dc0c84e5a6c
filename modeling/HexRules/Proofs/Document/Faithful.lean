import HexRules.Document.Decode
import HexRules.Proofs.Document.Ident

/-!
# Faithful readers

A reader is faithful to a writer if it reads nothing but valid values, and reads each of them again,
as the same, from the document that is written of it. A number that is not finite is the one thing
that gets lost on the way: `Document.portable` has null in its place, which is no number. So what
holds such a number is not read again, neither as the same nor as anything else.

`Decode.Yields` says what is known of all that is read, and `Decode.Restores` that one value is read
on a condition, and nothing without it. Both go along with the way in which readers are put
together: the proof for a record has the shape of its reader, with `map` where that has `<$>` and
`seq` where it has `<*>`. It is gone through twice, over what was read from any document, and over
what was written of a valid value, where `rfl` finds each field.

Results:
* `Yields.map`, `Yields.seq` and so on: what is read with a compound reader.
* `Restores.map`, `Restores.seq` and so on: a compound reader restores a value if the parts of it
  are restored.
-/

namespace HexRules

namespace Table

variable {κ α : Type} [DecidableEq κ]

theorem write_of_notMem {k : κ} {a : α} {entries : List (κ × α)}
    (h : k ∉ entries.map Prod.fst) : write k a entries = entries ++ [(k, a)] := by
  induction entries with
  | nil => rfl
  | cons entry rest ih =>
    obtain ⟨k', b⟩ := entry
    rw [List.map_cons, List.mem_cons, not_or] at h
    rw [write, if_neg (Ne.symm h.1), ih h.2, List.cons_append]

theorem entries_foldl_insert (t : Table κ α) {pairs : List (κ × α)}
    (h : ((t.entries ++ pairs).map Prod.fst).Nodup) :
    (pairs.foldl (fun t pair => t.insert pair.1 pair.2) t).entries = t.entries ++ pairs := by
  induction pairs generalizing t with
  | nil => simp
  | cons pair rest ih =>
    have hnew : pair.1 ∉ t.entries.map Prod.fst := by
      rw [List.map_append, List.map_cons] at h
      exact fun hmem => List.disjoint_of_nodup_append h hmem List.mem_cons_self
    have hentries : (t.insert pair.1 pair.2).entries = t.entries ++ [pair] := write_of_notMem hnew
    rw [List.foldl_cons, ih (t.insert pair.1 pair.2), hentries, List.append_assoc,
      List.singleton_append]
    rwa [hentries, List.append_assoc, List.singleton_append]

/-- A table is put together again from its entries. -/
theorem ofList_entries (t : Table κ α) : ofList t.entries = t := by
  have hentries : (ofList t.entries).entries = t.entries := entries_foldl_insert empty t.nodup
  cases t with
  | mk entries nodup =>
    cases h : ofList entries with
    | mk entries' nodup' =>
      rw [h] at hentries
      cases hentries
      rfl

theorem forall_mem_write {P : α → Prop} {k : κ} {a : α} {entries : List (κ × α)}
    (h : ∀ e ∈ entries, P e.2) (ha : P a) : ∀ e ∈ write k a entries, P e.2 := by
  induction entries with
  | nil => simpa [write] using ha
  | cons entry rest ih =>
    obtain ⟨hfirst, hrest⟩ := List.forall_mem_cons.1 h
    rw [write]
    split_ifs
    · exact List.forall_mem_cons.2 ⟨ha, hrest⟩
    · exact List.forall_mem_cons.2 ⟨hfirst, ih hrest⟩

/-- The values of a table are among those that it was put together from. -/
theorem forall_mem_ofList {P : α → Prop} {pairs : List (κ × α)} (h : ∀ e ∈ pairs, P e.2) :
    ∀ e ∈ (ofList pairs).entries, P e.2 := by
  suffices hfold : ∀ t : Table κ α, (∀ e ∈ t.entries, P e.2) →
      ∀ e ∈ (pairs.foldl (fun t pair => t.insert pair.1 pair.2) t).entries, P e.2 from
    hfold empty (by simp [empty])
  induction pairs with
  | nil => exact fun t ht => ht
  | cons pair rest ih =>
    obtain ⟨hfirst, hrest⟩ := List.forall_mem_cons.1 h
    exact fun t ht => ih hrest _ (forall_mem_write ht hfirst)

end Table

namespace Document

theorem portableItems_eq_map (items : List Document) :
    portableItems items = items.map portable := by
  induction items with
  | nil => rfl
  | cons d rest ih => rw [portableItems, ih, List.map_cons]

theorem portableFields_eq_map (fields : List (String × Document)) :
    portableFields fields = fields.map fun entry => (entry.1, entry.2.portable) := by
  induction fields with
  | nil => rfl
  | cons entry rest ih => rw [portableFields, ih, List.map_cons]

end Document

namespace Decode

variable {α β : Type}

/-! ## What is read -/

/-- Whatever is read has a property. -/
def Yields (x : Decode α) (P : α → Prop) : Prop :=
  ∀ supply a rest, x supply = (.ok a, rest) → P a

section

variable {x : Decode α} {P Q : α → Prop}

theorem Yields.any (x : Decode α) : Yields x fun _ => True := fun _ _ _ _ => trivial

theorem Yields.mono (h : Yields x P) (hPQ : ∀ a, P a → Q a) : Yields x Q :=
  fun supply a rest hx => hPQ a (h supply a rest hx)

theorem Yields.pure {a : α} (h : P a) : Yields (Pure.pure a) P := by
  intro supply b rest hx
  cases hx
  exact h

theorem Yields.fail (defect : Defect) : Yields (fail defect) P := by
  intro supply a rest hx
  cases hx

theorem Yields.map {f : α → β} (h : Yields x P) : Yields (f <$> x) fun b => ∃ a, P a ∧ f a = b := by
  intro supply b rest hb
  have hb : ((x supply).1.map f, (x supply).2) = (.ok b, rest) := hb
  cases hx : x supply with
  | mk outcome supply' =>
    rw [hx] at hb
    cases outcome with
    | error issues => cases hb
    | ok a =>
      cases hb
      exact ⟨a, h supply a _ hx, rfl⟩

theorem Yields.seq {f : Decode (α → β)} {R : (α → β) → Prop} (hf : Yields f R) (hx : Yields x P) :
    Yields (f <*> x) fun b => ∃ g, R g ∧ ∃ a, P a ∧ g a = b := by
  intro supply b rest hb
  have hb : (combine (f supply).1 (x (f supply).2).1, (x (f supply).2).2) = (.ok b, rest) := hb
  cases hg : f supply with
  | mk outcome supply' =>
    rw [hg] at hb
    cases ha : x supply' with
    | mk outcome' supply'' =>
      dsimp only at hb
      rw [ha] at hb
      cases outcome with
      | error issues => cases outcome' <;> cases hb
      | ok g =>
        cases outcome' with
        | error issues => cases hb
        | ok a =>
          cases hb
          exact ⟨g, hf supply g _ hg, a, hx _ a _ ha, rfl⟩

theorem Yields.under (step : Step) (h : Yields x P) : Yields (under step x) P := by
  intro supply a rest hx
  have hx : ((x supply).1.mapError (·.map (Issue.under step)), (x supply).2) = (.ok a, rest) := hx
  cases hread : x supply with
  | mk outcome supply' =>
    rw [hread] at hx
    cases outcome with
    | error issues => cases hx
    | ok b =>
      cases hx
      exact h supply a _ hread

theorem Yields.check {test : α → Option Defect} (h : Yields x P) :
    Yields (check x test) fun a => P a ∧ test a = none := by
  intro supply a rest hx
  rw [Decode.check] at hx
  cases hread : x supply with
  | mk outcome supply' =>
    rw [hread] at hx
    cases outcome with
    | error issues => cases hx
    | ok b =>
      dsimp only at hx
      cases htest : test b with
      | some defect =>
        rw [htest] at hx
        cases hx
      | none =>
        rw [htest] at hx
        cases hx
        exact ⟨h supply a _ hread, htest⟩

end

section

variable {read : Document → Decode α} {P : α → Prop}

theorem Yields.fieldOr {fields : List (String × Document)} {name : String} {absent : Decode α}
    (habsent : Yields absent P) (h : ∀ d, Yields (read d) P) :
    Yields (fieldOr fields name absent read) P := by
  rw [Decode.fieldOr]
  split
  · exact (h _).under _
  · exact habsent

theorem Yields.field {fields : List (String × Document)} {name : String}
    (h : ∀ d, Yields (read d) P) : Yields (field fields name read) P :=
  .fieldOr ((Yields.fail _).under _) h

theorem Yields.object {read : List (String × Document) → Decode α}
    (h : ∀ fields, Yields (read fields) P) (d : Document) : Yields (object read d) P := by
  cases d with
  | object fields => exact h fields
  | _ => exact .fail _

theorem Yields.nullable (h : ∀ d, Yields (read d) P) (d : Document) :
    Yields (nullable read d) fun o => ∀ a ∈ o, P a := by
  unfold Decode.nullable
  split
  · exact .pure (by simp)
  · refine (h d).map.mono ?_
    rintro _ ⟨a, ha, rfl⟩ b hb
    cases hb
    exact ha

theorem Yields.each (h : ∀ d, Yields (read d) P) (i : Nat) (items : List Document) :
    Yields (each read i items) fun as => ∀ a ∈ as, P a := by
  induction items generalizing i with
  | nil => exact .pure (by simp)
  | cons d rest ih =>
    refine (((h d).under _).map.seq (ih (i + 1))).mono ?_
    rintro _ ⟨_, ⟨a, ha, rfl⟩, as, has, rfl⟩
    exact List.forall_mem_cons.2 ⟨ha, has⟩

theorem Yields.list (h : ∀ d, Yields (read d) P) (d : Document) :
    Yields (list read d) fun as => ∀ a ∈ as, P a := by
  cases d with
  | list items => exact .each h 0 items
  | _ => exact .fail _

theorem Yields.entries {κ : Type} (read? : String → Option κ) (h : ∀ d, Yields (read d) P)
    (fields : List (String × Document)) :
    Yields (entries read? read fields) fun es => ∀ e ∈ es, P e.2 := by
  induction fields with
  | nil => exact .pure (by simp)
  | cons entry rest ih =>
    obtain ⟨name, d⟩ := entry
    refine (((Yields.any (key read? name)).map.seq ((h d).under _)).seq ih).mono ?_
    rintro _ ⟨_, ⟨_, ⟨k, -, rfl⟩, a, ha, rfl⟩, es, hes, rfl⟩
    exact List.forall_mem_cons.2 ⟨ha, hes⟩

theorem Yields.table {κ : Type} [DecidableEq κ] (read? : String → Option κ)
    (h : ∀ d, Yields (read d) P) (d : Document) :
    Yields (table read? read d) fun t => ∀ e ∈ t.entries, P e.2 := by
  cases d with
  | object fields =>
    refine (Yields.entries read? h fields).map.mono ?_
    rintro _ ⟨es, hes, rfl⟩
    exact Table.forall_mem_ofList hes
  | _ => exact .fail _

theorem Yields.afterTag {x : Decode α} {fields : List (String × Document)} {word : String}
    (h : Yields x P) : Yields ((fun _ a => a) <$> onlyTag fields word <*> x) P := by
  refine ((Yields.any _).map.seq h).mono ?_
  rintro _ ⟨_, ⟨_, -, rfl⟩, a, ha, rfl⟩
  exact ha

theorem Yields.tagged {τ : Type} {ofName? : String → Option τ}
    {read : τ → List (String × Document) → Decode α} {tagName : τ → String}
    (h : ∀ tag fields, Yields (read tag fields) P) (d : Document) :
    Yields (tagged ofName? read tagName d) P := by
  cases d with
  | object fields =>
    rw [Decode.tagged]
    split
    · exact .fail _
    · split
      · exact (h _ fields).under _
      · exact .fail _
    · exact .fail _
  | _ => exact .fail _

end

/-! ## What is restored -/

/-- On a condition, a value is read and nothing is minted; without it, there are issues. -/
structure Restores (x : Decode α) (a : α) (c : Prop) : Prop where
  reads : c → ∀ supply, x supply = (.ok a, supply)
  refuses : ¬c → ∀ supply, ∃ issues, x supply = (.error issues, supply)

section

variable {x : Decode α} {a : α} {c c' : Prop}

theorem Restores.congr (h : Restores x a c) (hc : c ↔ c') : Restores x a c' :=
  ⟨fun h' => h.reads (hc.2 h'), fun h' => h.refuses fun h'' => h' (hc.1 h'')⟩

theorem Restores.pure (a : α) : Restores (Pure.pure a) a True :=
  ⟨fun _ _ => rfl, fun h => absurd trivial h⟩

theorem Restores.map (f : α → β) (h : Restores x a c) : Restores (f <$> x) (f a) c := by
  have hmap : ∀ supply, (f <$> x) supply = ((x supply).1.map f, (x supply).2) := fun _ => rfl
  constructor
  · intro hc supply
    rw [hmap, h.reads hc]
    rfl
  · intro hc supply
    obtain ⟨issues, hissues⟩ := h.refuses hc supply
    exact ⟨issues, by rw [hmap, hissues]; rfl⟩

theorem Restores.seq {f : Decode (α → β)} {g : α → β} (hf : Restores f g c) (hx : Restores x a c') :
    Restores (f <*> x) (g a) (c ∧ c') := by
  have hseq : ∀ supply, (f <*> x) supply =
      (combine (f supply).1 (x (f supply).2).1, (x (f supply).2).2) := fun _ => rfl
  constructor
  · rintro ⟨hc, hc'⟩ supply
    rw [hseq, hf.reads hc, hx.reads hc']
    rfl
  · -- The second reader runs even if the first one fails; it has issues of its own then, or none.
    intro hboth supply
    by_cases hc : c
    · obtain ⟨issues, hissues⟩ := hx.refuses (fun hc' => hboth ⟨hc, hc'⟩) supply
      exact ⟨issues, by rw [hseq, hf.reads hc, hissues]; rfl⟩
    · obtain ⟨issues, hissues⟩ := hf.refuses hc supply
      by_cases hc' : c'
      · exact ⟨issues, by rw [hseq, hissues, hx.reads hc']; rfl⟩
      · obtain ⟨more, hmore⟩ := hx.refuses hc' supply
        exact ⟨issues ++ more, by rw [hseq, hissues, hmore]; rfl⟩

theorem Restores.under (step : Step) (h : Restores x a c) : Restores (under step x) a c := by
  have hunder : ∀ supply, Decode.under step x supply =
      ((x supply).1.mapError (·.map (Issue.under step)), (x supply).2) := fun _ => rfl
  constructor
  · intro hc supply
    rw [hunder, h.reads hc]
    rfl
  · intro hc supply
    obtain ⟨issues, hissues⟩ := h.refuses hc supply
    exact ⟨issues.map (Issue.under step), by rw [hunder, hissues]; rfl⟩

theorem Restores.check {test : α → Option Defect} (h : Restores x a c) (htest : test a = none) :
    Restores (check x test) a c := by
  constructor
  · intro hc supply
    rw [Decode.check, h.reads hc]
    dsimp only
    rw [htest]
  · intro hc supply
    obtain ⟨issues, hissues⟩ := h.refuses hc supply
    exact ⟨issues, by rw [Decode.check, hissues]⟩

theorem Restores.run (h : Restores x a c) :
    (c → ∀ supply, x.run supply = .ok (a, supply)) ∧
      (¬c → ∀ supply, ∃ issues, x.run supply = .error issues) := by
  constructor
  · intro hc supply
    rw [Decode.run, h.reads hc]
  · intro hc supply
    obtain ⟨issues, hissues⟩ := h.refuses hc supply
    exact ⟨issues, by rw [Decode.run, hissues]⟩

end

section

variable {read : Document → Decode α} {fields : List (String × Document)} {name : String}
  {d : Document} {a : α} {c : Prop}

theorem Restores.fieldOr {absent : Decode α} (hfield : Document.field? name fields = some d)
    (h : Restores (read d) a c) : Restores (fieldOr fields name absent read) a c := by
  rw [Decode.fieldOr, hfield]
  exact h.under _

theorem Restores.field (hfield : Document.field? name fields = some d)
    (h : Restores (read d) a c) : Restores (field fields name read) a c :=
  .fieldOr hfield h

/-- Where the tag is the word that it must be, the rest decides. -/
theorem Restores.afterTag {x : Decode α} {word : String}
    (hfield : Document.field? "kind" fields = some (.text word)) (h : Restores x a c) :
    Restores ((fun _ a => a) <$> onlyTag fields word <*> x) a c := by
  have htag : Restores (onlyTag fields word) () True := by
    refine .fieldOr hfield ?_
    show Restores (if word = word then Pure.pure () else fail .tagOther) () True
    rw [if_pos rfl]
    exact .pure ()
  exact ((htag.map _).seq h).congr (by simp)

theorem Restores.tagged {τ : Type} {ofName? : String → Option τ}
    {read : τ → List (String × Document) → Decode α} {tagName : τ → String} {tag : τ}
    (hfield : Document.field? "kind" fields = some (.text (tagName tag)))
    (htag : ofName? (tagName tag) = some tag) (h : Restores (read tag fields) a c) :
    Restores (tagged ofName? read tagName (.object fields)) a c := by
  rw [Decode.tagged, hfield]
  dsimp only
  rw [htag]
  exact h.under _

end

/-! ## Simple values -/

theorem Restores.ident (id : Ident) : Restores (ident (Document.ofIdent id).portable) id True := by
  have hread : Decode.ident (Document.ofIdent id).portable = Pure.pure id := by
    show orFail .idUnreadable (Ident.parse? id.text) = _
    rw [Ident.parse?_text]
    rfl
  rw [hread]
  exact .pure id

theorem Restores.float (x : Binary64) :
    Restores (float (Document.float x).portable) x (x.isFinite = true) := by
  rw [Document.portable]
  constructor
  · intro hx supply
    rw [if_pos hx]
    rfl
  · intro hx supply
    rw [if_neg hx]
    exact ⟨_, rfl⟩

theorem Restores.named {ofName? : String → Option α} {name : α → String}
    (hname : ∀ a, ofName? (name a) = some a) (a : α) :
    Restores (named ofName? (Document.text (name a)).portable) a True := by
  have hread : Decode.named ofName? (Document.text (name a)).portable = Pure.pure a := by
    show orFail .notListed (ofName? (name a)) = _
    rw [hname]
    rfl
  rw [hread]
  exact .pure a

/-! ## Compound values -/

section

variable {read : Document → Decode α} {write : α → Document} {c : α → Prop}

/-- Null stands for no value; no value is written as null. -/
theorem Restores.nullable {o : Option α} (hnull : ∀ a, (write a).portable ≠ .null)
    (h : ∀ a ∈ o, Restores (read (write a).portable) a (c a)) :
    Restores (nullable read (Document.ofOption write o).portable) o (∀ a ∈ o, c a) := by
  cases o with
  | none => exact (Restores.pure none).congr (by simp)
  | some a =>
    have hread : Decode.nullable read (write a).portable = some <$> read (write a).portable := by
      unfold Decode.nullable
      split
      · rename_i hd
        exact absurd hd (hnull a)
      · rfl
    rw [Document.ofOption, hread]
    exact ((h a rfl).map some).congr (by simp)

theorem Restores.each {as : List α} (h : ∀ a ∈ as, Restores (read (write a).portable) a (c a))
    (i : Nat) : Restores (each read i (as.map fun a => (write a).portable)) as (∀ a ∈ as, c a) := by
  induction as generalizing i with
  | nil => exact (Restores.pure []).congr (by simp)
  | cons a rest ih =>
    have hrest := ih (fun b hb => h b (List.mem_cons_of_mem a hb)) (i + 1)
    exact ((((h a List.mem_cons_self).under _).map List.cons).seq hrest).congr
      List.forall_mem_cons.symm

theorem Restores.list {as : List α} (h : ∀ a ∈ as, Restores (read (write a).portable) a (c a)) :
    Restores (list read (Document.ofList write as).portable) as (∀ a ∈ as, c a) := by
  have hitems : (Document.ofList write as).portable =
      .list (as.map fun a => (write a).portable) := by
    rw [Document.ofList, Document.portable, Document.portableItems_eq_map, List.map_map]
    rfl
  rw [hitems]
  exact .each h 0

theorem Restores.entries {κ : Type} {read? : String → Option κ} {key : κ → String}
    (hkey : ∀ k, read? (key k) = some k) {es : List (κ × α)}
    (h : ∀ e ∈ es, Restores (read (write e.2).portable) e.2 (c e.2)) :
    Restores (entries read? read (es.map fun e => (key e.1, (write e.2).portable))) es
      (∀ e ∈ es, c e.2) := by
  induction es with
  | nil => exact (Restores.pure []).congr (by simp)
  | cons e rest ih =>
    have hname : Restores (Decode.key read? (key e.1)) e.1 True := by
      rw [Decode.key, hkey]
      exact ((Restores.pure e.1).under _).under _
    have hrest := ih fun e' he' => h e' (List.mem_cons_of_mem e he')
    exact (((hname.map _).seq ((h e List.mem_cons_self).under _)).seq hrest).congr (by simp)

theorem Restores.table {κ : Type} [DecidableEq κ] {read? : String → Option κ} {key : κ → String}
    (hkey : ∀ k, read? (key k) = some k) {t : Table κ α}
    (h : ∀ e ∈ t.entries, Restores (read (write e.2).portable) e.2 (c e.2)) :
    Restores (table read? read (Document.ofTable key write t).portable) t
      (∀ e ∈ t.entries, c e.2) := by
  have hfields : (Document.ofTable key write t).portable =
      .object (t.entries.map fun e => (key e.1, (write e.2).portable)) := by
    rw [Document.ofTable, Document.portable, Document.portableFields_eq_map, List.map_map]
    rfl
  have hentries := (Restores.entries hkey h).map Table.ofList
  rw [Table.ofList_entries] at hentries
  rw [hfields]
  exact hentries

end

/-! ## Faithful readers -/

/-- A reader reads valid values only, and reads each of them again from what is written of it, if it
    is finite. -/
structure Faithful (read : Document → Decode α) (write : α → Document) (valid finite : α → Prop) :
    Prop where
  yields : ∀ d, Yields (read d) valid
  restores : ∀ {a}, valid a → Restores (read (write a).portable) a (finite a)

theorem Faithful.of_restores {read : Document → Decode α} {write : α → Document} {finite : α → Prop}
    (h : ∀ a, Restores (read (write a).portable) a (finite a)) :
    Faithful read write (fun _ => True) finite :=
  ⟨fun _ => .any _, fun _ => h _⟩

end Decode

end HexRules
