import HexRules.Pipeline.Edit
import HexRules.Proofs.Registry.Demand

/-!
# The registries as stores

The registries of a pipeline keep six kinds of things, and each is written to in a way of its own:
at the end, in place, by leaving out. All the same they are one store: what an identifier of a kind
stands for is what the last successful call put there, a call is refused exactly if it adds what is
there or changes what is not, and every call that is not refused counts once, for its own registry.

To see this, the things are taken as entries of one type, and an edit as a demand on the entries of
its kind. `answers_apply` says, edit by edit, that a pipeline does what is demanded; all else is
said of demands.

Results:
* `answers_apply`: an edit does to a pipeline what it demands.
* `registries_keyed`: after any calls the registries are what the successful ones made them.
-/

namespace HexRules

/-- The registry that keeps a kind of entries. -/
def RegistryKind.handle : RegistryKind → HandleName
  | .entityType => .types
  | .enumeration => .types
  | .concept => .concepts
  | .binding => .concepts
  | .relation => .relations
  | .constraint => .constraints

/-- What an edit demands of a registry. A relation is updated under its identifier. -/
def Edit.demand? : Edit → Option Demand
  | .addType t => some (.add (.entityType t))
  | .removeType id => some (.remove .entityType id)
  | .addEnum e => some (.add (.enumeration e))
  | .addConcept c => some (.add (.concept c))
  | .removeConcept id => some (.remove .concept id)
  | .addBinding b => some (.add (.binding b))
  | .removeBinding id => some (.remove .binding id)
  | .addRelation r => some (.add (.relation r))
  | .updateRelation id new => if new.id = id then some (.update (.relation new)) else none
  | .removeRelation id => some (.remove .relation id)
  | .addConstraint c => some (.add (.constraint c))
  | .removeConstraint id => some (.remove .constraint id)
  | _ => none

/-- The stamp after a further edit. -/
def Stamp.next (stamp : Stamp) : Stamp := ⟨stamp.serial, stamp.version + 1⟩

namespace Pipeline

/-- The entries of a kind, in their order. -/
def entries (p : Pipeline) : RegistryKind → List Entry
  | .entityType => p.types.content.types.map .entityType
  | .enumeration => p.types.content.enums.map .enumeration
  | .concept => p.concepts.content.concepts.map .concept
  | .binding => p.concepts.content.bindings.map .binding
  | .relation => p.relations.content.relations.map .relation
  | .constraint => p.constraints.content.constraints.map .constraint

/-- What the registries find under an identifier of a kind. -/
def lookUp (p : Pipeline) (kind : RegistryKind) (id : Ident) : Option Entry :=
  match kind with
  | .entityType => (p.types.content.get? id).map .entityType
  | .enumeration => (p.types.content.enum? id).map .enumeration
  | .concept => (p.concepts.content.get? id).map .concept
  | .binding => (p.concepts.content.binding? id).map .binding
  | .relation => (p.relations.content.get? id).map .relation
  | .constraint => (p.constraints.content.get? id).map .constraint

/-- No two entries of a kind have one identifier. -/
def DistinctIds (p : Pipeline) : Prop := ∀ kind, ((p.entries kind).map Entry.id).Nodup

variable {p q : Pipeline} {d : Demand} {e : Edit}

theorem lookUp_eq (p : Pipeline) (kind : RegistryKind) (id : Ident) :
    p.lookUp kind id = Registry.find? id (p.entries kind) := by
  cases kind with
  | entityType => exact (Registry.find?_map (f := Entry.entityType) (fun _ => rfl) id _).symm
  | enumeration => exact (Registry.find?_map (f := Entry.enumeration) (fun _ => rfl) id _).symm
  | concept => exact (Registry.find?_map (f := Entry.concept) (fun _ => rfl) id _).symm
  | binding => exact (Registry.find?_map (f := Entry.binding) (fun _ => rfl) id _).symm
  | relation => exact (Registry.find?_map (f := Entry.relation) (fun _ => rfl) id _).symm
  | constraint => exact (Registry.find?_map (f := Entry.constraint) (fun _ => rfl) id _).symm

/-! ## One edit -/

/-- A pipeline is what another one becomes when a demand is met. -/
structure Meets (p : Pipeline) (d : Demand) (q : Pipeline) : Prop where
  entries : d.carry (p.entries d.kind) = .ok (q.entries d.kind)
  others : ∀ kind ≠ d.kind, q.entries kind = p.entries kind
  stamps : ∀ handle, q.stampOf handle =
    if d.kind.handle = handle then (p.stampOf handle).next else p.stampOf handle

/-- An outcome answers a demand: it is met, or there is the complaint about it. -/
def Answers (p : Pipeline) (d : Demand) : Except RegistryError Pipeline → Prop
  | .ok q => p.Meets d q
  | .error err => d.carry (p.entries d.kind) = .error err

/-- The part of a handle that keeps the entries of one kind: how they are seen as entries, and where
    they are in the content. -/
structure Shelf (R α : Type) where
  kind : RegistryKind
  view : α → Entry
  items : R → List α
  refill : R → List α → R

/-- In a pipeline the entries of a kind are on a shelf of a handle, and nothing else is. -/
structure Holds {R α : Type} [Identified α] (p : Pipeline) (s : Shelf R α) (h : Handle R)
    (put : Handle R → Pipeline) : Prop where
  ids : ∀ a, Identified.id (s.view a) = Identified.id a
  kinds : ∀ a, (s.view a).kind = s.kind
  stamp : p.stampOf s.kind.handle = h.stamp
  stamps : ∀ h' handle, (put h').stampOf handle =
    if s.kind.handle = handle then h'.stamp else p.stampOf handle
  entries : p.entries s.kind = (s.items h.content).map s.view
  refilled : ∀ new, (put (h.edit (s.refill h.content new))).entries s.kind = new.map s.view
  others : ∀ new, ∀ kind ≠ s.kind,
    (put (h.edit (s.refill h.content new))).entries kind = p.entries kind

section

variable {R α : Type} [Identified α] {s : Shelf R α} {h : Handle R} {put : Handle R → Pipeline}
  {f : R → Except RegistryError R}

/-- An edit answers a demand if it does to the items of the shelf what is demanded of entries. -/
theorem Holds.answers (holds : p.Holds s h put) (hkind : d.kind = s.kind)
    (change : Except RegistryError (List α)) (hf : f h.content = change.map (s.refill h.content))
    (hcarry : d.carry ((s.items h.content).map s.view) = change.map (List.map s.view)) :
    p.Answers d ((h.tryEdit f).map put) := by
  rw [Handle.tryEdit, hf]
  rw [← holds.entries, ← hkind] at hcarry
  cases change with
  | error err => exact hcarry
  | ok new =>
    refine ⟨?_, ?_, fun handle => ?_⟩
    · rw [hcarry, hkind]
      exact congrArg Except.ok (holds.refilled new).symm
    · rw [hkind]
      exact holds.others new
    · rw [hkind]
      refine (holds.stamps _ handle).trans ?_
      split_ifs with hhandle
      · rw [← hhandle, holds.stamp]
        rfl
      · rfl

theorem Holds.answers_add (holds : p.Holds s h put) (a : α)
    (hf : f h.content = (Registry.add s.kind (s.view a).name? a (s.items h.content)).map
      (s.refill h.content)) : p.Answers (.add (s.view a)) ((h.tryEdit f).map put) := by
  refine holds.answers (holds.kinds a) _ hf ?_
  rw [Demand.carry_add_map holds.ids, holds.kinds]

theorem Holds.answers_update (holds : p.Holds s h put) (a : α)
    (hf : f h.content = (Registry.require s.kind (Identified.id a) (s.items h.content)).map fun _ =>
      s.refill h.content (Registry.replace (Identified.id a) a (s.items h.content))) :
    p.Answers (.update (s.view a)) ((h.tryEdit f).map put) := by
  refine holds.answers (holds.kinds a) ((Registry.require s.kind (Identified.id a)
    (s.items h.content)).map fun _ => Registry.replace (Identified.id a) a (s.items h.content))
    ?_ ?_
  · rw [hf]
    cases Registry.require s.kind (Identified.id a) (s.items h.content) <;> rfl
  · rw [Demand.carry_update_map holds.ids, holds.kinds]
    cases Registry.require s.kind (Identified.id a) (s.items h.content) <;> rfl

theorem Holds.answers_remove (holds : p.Holds s h put) (id : Ident)
    (hf : f h.content = (Registry.require s.kind id (s.items h.content)).map fun _ =>
      s.refill h.content (Registry.without id (s.items h.content))) :
    p.Answers (.remove s.kind id) ((h.tryEdit f).map put) := by
  refine holds.answers rfl ((Registry.require s.kind id (s.items h.content)).map fun _ =>
    Registry.without id (s.items h.content)) ?_ ?_
  · rw [hf]
    cases Registry.require s.kind id (s.items h.content) <;> rfl
  · rw [Demand.carry_remove_map holds.ids]
    cases Registry.require s.kind id (s.items h.content) <;> rfl

end

/-- The shelf of the entity types. -/
def typeShelf : Shelf EntityTypes EntityType :=
  ⟨.entityType, .entityType, EntityTypes.types, fun reg types => { reg with types := types }⟩

/-- The shelf of the enumerations. -/
def enumShelf : Shelf EntityTypes EnumDef :=
  ⟨.enumeration, .enumeration, EntityTypes.enums, fun reg enums => { reg with enums := enums }⟩

/-- The shelf of the concepts. -/
def conceptShelf : Shelf Concepts Concept :=
  ⟨.concept, .concept, Concepts.concepts, fun reg concepts => { reg with concepts := concepts }⟩

/-- The shelf of the bindings. -/
def bindingShelf : Shelf Concepts Binding :=
  ⟨.binding, .binding, Concepts.bindings, fun reg bindings => { reg with bindings := bindings }⟩

/-- The shelf of the relations. -/
def relationShelf : Shelf Relations Relation :=
  ⟨.relation, .relation, Relations.relations, fun _ relations => ⟨relations⟩⟩

/-- The shelf of the constraints. -/
def constraintShelf : Shelf Constraints Constraint :=
  ⟨.constraint, .constraint, Constraints.constraints, fun _ constraints => ⟨constraints⟩⟩

theorem holds_types (p : Pipeline) : p.Holds typeShelf p.types p.withTypes :=
  ⟨fun _ => rfl, fun _ => rfl, rfl, fun _ handle => by cases handle <;> rfl, rfl, fun _ => rfl,
    fun _ kind hkind => by cases kind <;> first | rfl | exact absurd rfl hkind⟩

theorem holds_enums (p : Pipeline) : p.Holds enumShelf p.types p.withTypes :=
  ⟨fun _ => rfl, fun _ => rfl, rfl, fun _ handle => by cases handle <;> rfl, rfl, fun _ => rfl,
    fun _ kind hkind => by cases kind <;> first | rfl | exact absurd rfl hkind⟩

theorem holds_concepts (p : Pipeline) : p.Holds conceptShelf p.concepts p.withConcepts :=
  ⟨fun _ => rfl, fun _ => rfl, rfl, fun _ handle => by cases handle <;> rfl, rfl, fun _ => rfl,
    fun _ kind hkind => by cases kind <;> first | rfl | exact absurd rfl hkind⟩

theorem holds_bindings (p : Pipeline) : p.Holds bindingShelf p.concepts p.withConcepts :=
  ⟨fun _ => rfl, fun _ => rfl, rfl, fun _ handle => by cases handle <;> rfl, rfl, fun _ => rfl,
    fun _ kind hkind => by cases kind <;> first | rfl | exact absurd rfl hkind⟩

theorem holds_relations (p : Pipeline) : p.Holds relationShelf p.relations p.withRelations :=
  ⟨fun _ => rfl, fun _ => rfl, rfl, fun _ handle => by cases handle <;> rfl, rfl, fun _ => rfl,
    fun _ kind hkind => by cases kind <;> first | rfl | exact absurd rfl hkind⟩

theorem holds_constraints (p : Pipeline) :
    p.Holds constraintShelf p.constraints p.withConstraints :=
  ⟨fun _ => rfl, fun _ => rfl, rfl, fun _ handle => by cases handle <;> rfl, rfl, fun _ => rfl,
    fun _ kind hkind => by cases kind <;> first | rfl | exact absurd rfl hkind⟩

/-- Removing the first type with an identifier is removing all, where there is only one. -/
theorem removeType_eq (hids : p.DistinctIds) (id : Ident) :
    (p.types.content.removeType id).map Prod.snd =
      (Registry.require .entityType id p.types.content.types).map fun _ =>
        { p.types.content with types := Registry.without id p.types.content.types } := by
  have htypes : (p.types.content.types.map Identified.id).Nodup := by
    have h := hids .entityType
    rwa [entries, List.map_map] at h
  rw [EntityTypes.removeType, Registry.withoutFirst_eq_without htypes]
  exact Outcome.map_snd_bind _ _

/-- An edit does to a pipeline what it demands; only the removal of a type is another matter. -/
theorem answers_apply_of_ne (hd : e.demand? = some d) (hne : ∀ id, d ≠ .remove .entityType id) :
    p.Answers d (p.apply e) := by
  cases e with
  | addType t => cases hd; exact p.holds_types.answers_add t rfl
  | removeType id => cases hd; exact absurd rfl (hne id)
  | addEnum e => cases hd; exact p.holds_enums.answers_add e rfl
  | addConcept c => cases hd; exact p.holds_concepts.answers_add c rfl
  | removeConcept id =>
    cases hd
    exact p.holds_concepts.answers_remove id (Outcome.map_snd_bind _ _)
  | addBinding b => cases hd; exact p.holds_bindings.answers_add b rfl
  | removeBinding id =>
    cases hd
    exact p.holds_bindings.answers_remove id (Outcome.map_snd_bind _ _)
  | addRelation r => cases hd; exact p.holds_relations.answers_add r rfl
  | updateRelation id new =>
    rw [Edit.demand?] at hd
    split_ifs at hd with hid
    cases hd
    cases hid
    exact p.holds_relations.answers_update new rfl
  | removeRelation id =>
    cases hd
    exact p.holds_relations.answers_remove id (Outcome.map_snd_bind _ _)
  | addConstraint c => cases hd; exact p.holds_constraints.answers_add c rfl
  | removeConstraint id =>
    cases hd
    exact p.holds_constraints.answers_remove id (Outcome.map_snd_bind _ _)
  | select unit => cases hd
  | markChanged handle => cases hd
  | appendRole concept role => cases hd
  | appendProperty binding property => cases hd
  | appendConstraint c => cases hd
  | board edit => cases hd

theorem eq_removeType_of_demand? {id : Ident} (hd : e.demand? = some (.remove .entityType id)) :
    e = .removeType id := by
  cases e with
  | removeType id' =>
    cases hd
    rfl
  | updateRelation id new =>
    rw [Edit.demand?] at hd
    split_ifs at hd
    cases hd
  | _ => cases hd

theorem answers_apply (hids : p.DistinctIds) (hd : e.demand? = some d) :
    p.Answers d (p.apply e) := by
  by_cases htype : ∃ id, d = .remove .entityType id
  · obtain ⟨id, rfl⟩ := htype
    cases eq_removeType_of_demand? hd
    exact p.holds_types.answers_remove id (removeType_eq hids id)
  · exact answers_apply_of_ne hd (not_exists.1 htype)

theorem Meets.distinct (h : p.Meets d q) (hids : p.DistinctIds) : q.DistinctIds := by
  intro kind
  by_cases hkind : kind = d.kind
  · subst hkind
    exact Demand.nodup_carry (hids d.kind) h.entries
  · rw [h.others kind hkind]
    exact hids kind

theorem Meets.lookUp_eq_ite (h : p.Meets d q) (kind : RegistryKind) (id : Ident) :
    q.lookUp kind id = if d.kind = kind ∧ d.id = id then d.leaves else p.lookUp kind id := by
  rw [lookUp_eq, lookUp_eq]
  by_cases hkind : kind = d.kind
  · subst hkind
    rw [Demand.find?_carry h.entries]
    simp only [true_and]
  · rw [h.others kind hkind, if_neg fun hd => hkind hd.1.symm]

theorem Meets.filter_entries (h : p.Meets d q) (kind : RegistryKind) (keep : Ident → Bool)
    (hkeep : d.kind = kind → keep d.id = false) :
    (q.entries kind).filter (fun e => keep e.id) =
      (p.entries kind).filter fun e => keep e.id := by
  by_cases hkind : kind = d.kind
  · subst hkind
    exact Demand.filter_carry (hkeep rfl) h.entries
  · rw [h.others kind hkind]

/-! ## Calls, one after the other -/

/-- The pipeline after a call; a refused one leaves it as it was. -/
def attempt (p : Pipeline) (e : Edit) : Pipeline :=
  match p.apply e with
  | .ok q => q
  | .error _ => p

/-- The pipeline after calls. -/
def attempts (p : Pipeline) (calls : List Edit) : Pipeline := calls.foldl attempt p

/-- The demands that are met in the course of calls. -/
def met (p : Pipeline) : List Edit → List Demand
  | [] => []
  | e :: rest =>
    match p.apply e with
    | .ok q => e.demand?.toList ++ q.met rest
    | .error _ => p.met rest

/-- A pipeline is what another one becomes when demands are met one after the other. -/
structure Keeps (p : Pipeline) (demands : List Demand) (q : Pipeline) : Prop where
  distinct : q.DistinctIds
  lookUp : ∀ kind id, q.lookUp kind id =
    match Demand.last? kind id demands with
    | some d => d.leaves
    | none => p.lookUp kind id
  others : ∀ kind (keep : Ident → Bool), (∀ d ∈ demands, d.kind = kind → keep d.id = false) →
    (q.entries kind).filter (fun e => keep e.id) = (p.entries kind).filter fun e => keep e.id
  stamps : ∀ handle, q.stampOf handle =
    ⟨(p.stampOf handle).serial,
      (p.stampOf handle).version + demands.countP fun d => d.kind.handle = handle⟩

theorem keeps_nil (hids : p.DistinctIds) : p.Keeps [] p where
  distinct := hids
  lookUp := fun _ _ => rfl
  others := fun _ _ _ => rfl
  stamps := fun _ => rfl

theorem Keeps.cons {p' : Pipeline} {demands : List Demand} (hfirst : p.Meets d p')
    (h : p'.Keeps demands q) : p.Keeps (d :: demands) q := by
  refine ⟨h.distinct, fun kind id => ?_, fun kind keep hkeep => ?_, fun handle => ?_⟩
  · rw [h.lookUp, hfirst.lookUp_eq_ite, Demand.last?_cons]
    cases Demand.last? kind id demands with
    | some d' => rfl
    | none =>
      by_cases hd : d.kind = kind ∧ d.id = id
      · simp [hd]
      · simp [hd]
  · rw [h.others kind keep fun d' hd' => hkeep d' (List.mem_cons_of_mem d hd')]
    exact hfirst.filter_entries kind keep (hkeep d List.mem_cons_self)
  · rw [h.stamps, hfirst.stamps, List.countP_cons]
    by_cases hd : d.kind.handle = handle
    · simp [hd, Stamp.next, Nat.add_assoc, Nat.add_comm 1]
    · simp [hd]

theorem keeps_attempts (hids : p.DistinctIds) {calls : List Edit}
    (hcalls : ∀ e ∈ calls, e.demand?.isSome) : p.Keeps (p.met calls) (p.attempts calls) := by
  induction calls generalizing p with
  | nil => exact keeps_nil hids
  | cons e rest ih =>
    obtain ⟨d, hd⟩ := Option.isSome_iff_exists.1 (hcalls e List.mem_cons_self)
    have hrest : ∀ e ∈ rest, e.demand?.isSome :=
      fun e' he' => hcalls e' (List.mem_cons_of_mem e he')
    have hanswers := answers_apply hids hd
    rw [attempts, List.foldl_cons, ← attempts, met, attempt]
    cases happly : p.apply e with
    | error err => exact ih hids hrest
    | ok p' =>
      rw [happly] at hanswers
      have hmeets : p.Meets d p' := hanswers
      rw [hd]
      exact Keeps.cons hmeets (ih (hmeets.distinct hids) hrest)

/-- A demand is refused exactly if there is a complaint about it. -/
theorem Answers.eq_error_iff {outcome : Except RegistryError Pipeline} (h : p.Answers d outcome)
    {err : RegistryError} :
    outcome = .error err ↔ d.complaint? (p.lookUp d.kind d.id) = some err := by
  rw [lookUp_eq, ← Demand.carry_eq_error_iff]
  cases outcome with
  | error err' =>
    have hcarry : d.carry (p.entries d.kind) = .error err' := h
    rw [hcarry, Except.error.injEq, Except.error.injEq]
  | ok q =>
    have hmeets : p.Meets d q := h
    rw [hmeets.entries]
    simp

/-- A call is refused exactly if there is a complaint about its demand. -/
theorem apply_eq_error_iff (hids : p.DistinctIds) (hd : e.demand? = some d) {err : RegistryError} :
    p.apply e = .error err ↔ d.complaint? (p.lookUp d.kind d.id) = some err :=
  (answers_apply hids hd).eq_error_iff

theorem met_append (p : Pipeline) (calls more : List Edit) :
    p.met (calls ++ more) = p.met calls ++ (p.attempts calls).met more := by
  induction calls generalizing p with
  | nil => rfl
  | cons e rest ih =>
    rw [List.cons_append, met, met, attempts, List.foldl_cons, ← attempts, attempt]
    cases p.apply e with
    | error err => exact ih p
    | ok p' =>
      dsimp only
      rw [ih p', List.append_assoc]

theorem attempts_append_singleton (p : Pipeline) (calls : List Edit) (e : Edit) :
    p.attempts (calls ++ [e]) = (p.attempts calls).attempt e := by
  rw [attempts, List.foldl_append]
  rfl

/-- After any calls, identifiers are distinct if they were so before; each stands for what the last
    successful call put there, entries that no such call meant are there as before and in their
    order, and the version of each registry has risen by the number of its successful calls. A
    further call is refused exactly if it adds what is there, or updates or removes what is not;
    then it changes nothing. Otherwise it does what it demands, and counts once. Default values
    play no part in this, and may hold NaN. -/
theorem registries_keyed (p : Pipeline) (hids : p.DistinctIds) (calls : List Edit)
    (hcalls : ∀ e ∈ calls, e.demand?.isSome) :
    p.Keeps (p.met calls) (p.attempts calls) ∧
    ∀ e d, e.demand? = some d →
      (∀ err, (p.attempts calls).apply e = .error err ↔
        d.complaint? ((p.attempts calls).lookUp d.kind d.id) = some err) ∧
      (∀ err, (p.attempts calls).apply e = .error err →
        p.attempts (calls ++ [e]) = p.attempts calls ∧ p.met (calls ++ [e]) = p.met calls) ∧
      ∀ q, (p.attempts calls).apply e = .ok q →
        p.attempts (calls ++ [e]) = q ∧ p.met (calls ++ [e]) = p.met calls ++ [d] ∧
          (p.attempts calls).Meets d q := by
  have hkeeps := keeps_attempts hids hcalls
  refine ⟨hkeeps, fun e d hd => ⟨fun err => apply_eq_error_iff hkeeps.distinct hd, ?_, ?_⟩⟩
  · intro err happly
    rw [attempts_append_singleton, met_append, attempt, met, happly]
    exact ⟨rfl, List.append_nil _⟩
  · intro q happly
    have hanswers := answers_apply hkeeps.distinct hd
    rw [happly] at hanswers
    rw [attempts_append_singleton, met_append, attempt, met, happly, hd]
    exact ⟨rfl, rfl, hanswers⟩

/-- A type of tokens the speed of which starts as NaN. -/
def swimmer (n : ℕ) : EntityType :=
  ⟨⟨BitVec.ofNat 128 n⟩, "Swimmer", .token, .white,
    [⟨⟨BitVec.ofNat 128 (n + 1)⟩, "speed", .float, .float .nan, none⟩]⟩

/-- A pipeline with two such types. -/
def swimming : Pipeline :=
  .ofWorld .default true .start
    ⟨⟨[swimmer 1, swimmer 3], []⟩, .empty, .empty, .empty, ⟨none⟩, ⟨1⟩, .empty⟩

/-- The first of two such types cannot be added again, and is found no more once it is removed; the
    other one stays, and only the removal counts. -/
theorem registries_keyed_swimming :
    (∃ err, swimming.apply (.addType (swimmer 1)) = .error err) ∧
      (swimming.attempts [.addType (swimmer 1), .removeType (swimmer 1).id]).lookUp .entityType
        (swimmer 1).id = none ∧
      (swimming.attempts [.addType (swimmer 1), .removeType (swimmer 1).id]).lookUp .entityType
        (swimmer 3).id = some (.entityType (swimmer 3)) ∧
      ((swimming.attempts [.addType (swimmer 1), .removeType (swimmer 1).id]).stampOf
        .types).version = 1 := by
  have hids : swimming.DistinctIds := by
    intro kind
    cases kind <;> decide
  obtain ⟨-, hnext⟩ := registries_keyed swimming hids [] (by simp)
  obtain ⟨hkeeps, -⟩ := registries_keyed swimming hids
    [.addType (swimmer 1), .removeType (swimmer 1).id] (by simp [Edit.demand?])
  refine ⟨⟨_, ((hnext (.addType (swimmer 1)) _ rfl).1 _).2 rfl⟩, ?_, ?_, ?_⟩
  · exact hkeeps.lookUp .entityType (swimmer 1).id
  · exact hkeeps.lookUp .entityType (swimmer 3).id
  · rw [hkeeps.stamps .types]
    decide

end Pipeline

end HexRules
