/-!
# Tables

A `Table` maps keys to values and remembers the order in which the keys came in. A key that is
written again keeps its place. Two tables are equal (`==`) when they map the same keys to equal
values, in whatever order.

Results:
* `get?_insert`: a write is seen at its key and nowhere else.
* `get?_erase`: an erased key maps to nothing, and no other key is touched.
* `mem_keys`: the keys are those that map to something.
-/

namespace HexRules

universe u v

variable {κ : Type u} {α : Type v}

/-- Entries with pairwise different keys, in the order in which the keys came in. -/
structure Table (κ : Type u) (α : Type v) where
  entries : List (κ × α)
  nodup : (entries.map Prod.fst).Nodup

namespace Table

/-! ## Entries -/

section Entries

variable [DecidableEq κ]

/-- The value of the first entry with the key. -/
def find? (k : κ) : List (κ × α) → Option α
  | [] => none
  | (k', a) :: rest => if k' = k then some a else find? k rest

/-- The entries with a value written at a key. -/
def write (k : κ) (a : α) : List (κ × α) → List (κ × α)
  | [] => [(k, a)]
  | (k', b) :: rest => if k' = k then (k', a) :: rest else (k', b) :: write k a rest

/-- The entries without those of a key. -/
def remove (k : κ) (entries : List (κ × α)) : List (κ × α) :=
  entries.filter fun entry => !decide (entry.1 = k)

theorem keys_write (k : κ) (a : α) (entries : List (κ × α)) :
    (write k a entries).map Prod.fst =
      if k ∈ entries.map Prod.fst then entries.map Prod.fst else entries.map Prod.fst ++ [k] := by
  induction entries with
  | nil => rfl
  | cons entry rest ih =>
    obtain ⟨k', b⟩ := entry
    by_cases h : k' = k
    · simp [write, h]
    · have h' : ¬k = k' := fun e => h e.symm
      by_cases hk : k ∈ rest.map Prod.fst <;> simp_all [write]

theorem nodup_write (k : κ) (a : α) {entries : List (κ × α)}
    (h : (entries.map Prod.fst).Nodup) : ((write k a entries).map Prod.fst).Nodup := by
  rw [keys_write]
  split
  · exact h
  · rename_i hk
    exact List.nodup_append.2 ⟨h, by simp, fun x hx y hy => by
      simp only [List.mem_singleton] at hy
      exact fun e => hk (hy ▸ e ▸ hx)⟩

theorem nodup_remove (k : κ) {entries : List (κ × α)}
    (h : (entries.map Prod.fst).Nodup) : ((remove k entries).map Prod.fst).Nodup :=
  (List.filter_sublist.map Prod.fst).nodup h

theorem find?_write (k k' : κ) (a : α) (entries : List (κ × α)) :
    find? k' (write k a entries) = if k = k' then some a else find? k' entries := by
  induction entries with
  | nil => rfl
  | cons entry rest ih =>
    obtain ⟨k₀, b⟩ := entry
    by_cases h : k₀ = k
    · subst h
      by_cases h' : k₀ = k' <;> simp [write, find?, h']
    · by_cases h' : k₀ = k'
      · subst h'
        have : ¬k = k₀ := fun e => h e.symm
        simp [write, find?, h, this]
      · simp [write, find?, h, h', ih]

theorem find?_remove (k k' : κ) (entries : List (κ × α)) :
    find? k' (remove k entries) = if k = k' then none else find? k' entries := by
  induction entries with
  | nil => simp [remove, find?]
  | cons entry rest ih =>
    obtain ⟨k₀, b⟩ := entry
    unfold remove at ih ⊢
    by_cases h : k₀ = k
    · subst h
      by_cases h' : k₀ = k'
      · subst h'
        simpa [find?] using ih
      · simp [find?, ih, h']
    · by_cases h' : k₀ = k'
      · subst h'
        have : ¬k = k₀ := fun e => h e.symm
        simp [find?, h, this]
      · simp [find?, ih, h, h']

end Entries

/-! ## Operations -/

/-- The table without entries. -/
def empty : Table κ α := ⟨[], List.nodup_nil⟩

instance : Inhabited (Table κ α) := ⟨empty⟩

instance : EmptyCollection (Table κ α) := ⟨empty⟩

/-- The keys, in the order in which they came in. -/
def keys (t : Table κ α) : List κ := t.entries.map Prod.fst

/-- The number of keys. -/
def size (t : Table κ α) : Nat := t.entries.length

variable [DecidableEq κ]

/-- The value at a key, if there is one. -/
def get? (t : Table κ α) (k : κ) : Option α := find? k t.entries

/-- Whether the key maps to something. -/
def contains (t : Table κ α) (k : κ) : Bool := (t.get? k).isSome

/-- Writes a value at a key; a new key comes last. -/
def insert (t : Table κ α) (k : κ) (a : α) : Table κ α :=
  ⟨write k a t.entries, nodup_write k a t.nodup⟩

/-- Takes a key out. -/
def erase (t : Table κ α) (k : κ) : Table κ α :=
  ⟨remove k t.entries, nodup_remove k t.nodup⟩

/-- Writes the pairs one after the other, so that of two with one key the later counts. -/
def ofList (pairs : List (κ × α)) : Table κ α :=
  pairs.foldl (fun t pair => t.insert pair.1 pair.2) empty

instance [BEq α] : BEq (Table κ α) where
  beq s t := s.size == t.size && s.entries.all fun entry =>
    match t.get? entry.1 with
    | some a => entry.2 == a
    | none => false

@[simp] theorem get?_empty (k : κ) : (empty : Table κ α).get? k = none := rfl

theorem get?_insert (t : Table κ α) (k k' : κ) (a : α) :
    (t.insert k a).get? k' = if k = k' then some a else t.get? k' :=
  find?_write k k' a t.entries

theorem get?_erase (t : Table κ α) (k k' : κ) :
    (t.erase k).get? k' = if k = k' then none else t.get? k' :=
  find?_remove k k' t.entries

theorem mem_keys (t : Table κ α) (k : κ) : k ∈ t.keys ↔ ∃ a, t.get? k = some a := by
  unfold keys get?
  generalize t.entries = entries
  induction entries with
  | nil => simp [find?]
  | cons entry rest ih =>
    obtain ⟨k', b⟩ := entry
    by_cases h : k' = k
    · subst h
      simp [find?]
    · have h' : ¬k = k' := fun e => h e.symm
      simp only [List.map_cons, List.mem_cons, find?, h, if_false, ← ih, h', false_or]

theorem find?_append (k : κ) (first second : List (κ × α)) :
    find? k (first ++ second) = (find? k first).or (find? k second) := by
  induction first with
  | nil => simp [find?]
  | cons entry rest ih =>
    obtain ⟨k', a⟩ := entry
    by_cases h : k' = k <;> simp [find?, h, ih]

/-- Of several pairs with one key the last counts. -/
theorem get?_ofList (pairs : List (κ × α)) (k : κ) :
    (ofList pairs).get? k = find? k pairs.reverse := by
  suffices h : ∀ t : Table κ α,
      (pairs.foldl (fun t pair => t.insert pair.1 pair.2) t).get? k =
        (find? k pairs.reverse).or (t.get? k) by
    simpa [ofList] using h empty
  induction pairs with
  | nil => intro t; simp [find?]
  | cons pair rest ih =>
    intro t
    rw [List.foldl_cons, ih, List.reverse_cons, find?_append, get?_insert]
    by_cases h : pair.1 = k <;> simp [find?, h]

end Table

end HexRules
