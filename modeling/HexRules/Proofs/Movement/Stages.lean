import HexRules.Proofs.Movement.Turns

/-!
# The loop of a search, stage by stage

The loop goes on as long as the frontier has hexes, and nothing in it counts the turns. This says
how it goes on from one stage to the next: it takes an entry off the frontier, or skips one that is
out of date; it tries the neighbours of the hex that it took one by one; then it looks at the
frontier again. It ends when the frontier is empty or an attempt fails.

What is proved of every move of the loop holds at every stage that a search comes to, whether it
fails in the end or not.

Results:
* `attempt_cases`: all that an attempt can do.
* `Leads.keeps`: what every move keeps holds at every stage.
* `Leads.ended`: the loop has only one way to go.
* `exists_leads_search`: the loop ends, and with what the search gives.
-/

namespace HexRules.Movement

namespace Search

variable {quest : Quest} {s s' : Search} {p q : Hex} {remaining : ℤ}

/-! ## Attempts -/

/-- An attempt finds a hex that is known as well already, or reaches it with more budget than
    before; or it is refused, which is noted down unless the hex was reached. -/
theorem attempt_cases (h : attempt quest remaining s q = .ok s') :
    (∃ n, quest.enter q remaining = .ok (.open n) ∧
      (s.knows q (min n quest.budget) = true ∧ s' = s ∨
        s.knows q (min n quest.budget) = false ∧ s' = s.reach q (min n quest.budget))) ∨
    ∃ findings, quest.enter q remaining = .ok (.blocked findings) ∧
      ((s.best.contains q = true ∨ findings = []) ∧ s' = s ∨
        s.best.contains q = false ∧ findings ≠ [] ∧ s' = s.refuse q findings) := by
  obtain ⟨verdict, henter, hm⟩ := Outcome.bind_eq_ok_iff.1 h
  cases hm
  cases verdict with
  | «open» n =>
    refine .inl ⟨n, henter, ?_⟩
    rw [meet]
    by_cases hk : s.knows q (min n quest.budget) = true
    · exact .inl ⟨hk, by rw [reach, if_pos hk]⟩
    · exact .inr ⟨by simpa using hk, rfl⟩
  | blocked findings =>
    refine .inr ⟨findings, henter, ?_⟩
    rw [meet]
    by_cases hb : s.best.contains q = true
    · exact .inl ⟨.inl hb, by simp [refuse, hb]⟩
    by_cases hf : findings = []
    · exact .inl ⟨.inr hf, by simp [refuse, hf]⟩
    · exact .inr ⟨by simpa using hb, hf, rfl⟩

/-- The neighbours that are tried when a hex is left. -/
def targets (quest : Quest) (p : Hex) : List Hex :=
  (Grid.neighborsInBounds p quest.radius).filter (· ≠ quest.start)

theorem expand_eq (quest : Quest) (p : Hex) (remaining : ℤ) (s : Search) :
    expand quest p remaining s = (targets quest p).foldlM (attempt quest remaining) s := rfl

/-! ## Stages -/

/-- Where the loop is: about to look at the frontier, or leaving a hex with a budget, with some
    neighbours still to be tried. -/
inductive Phase
  | looking
  | leaving (p : Hex) (remaining : ℤ) (toTry : List Hex)

/-- A search at one point of the loop. -/
structure Stage where
  phase : Phase
  search : Search

/-- The stage at which the loop begins. -/
def opening (quest : Quest) : Stage := ⟨.looking, begin quest⟩

/-- One move of the loop. -/
inductive Next (quest : Quest) : Stage → Stage → Prop
  | take {s : Search} {p : Hex} {remaining : ℤ} {rest : List (Hex × ℤ)}
      (first : s.frontier = (p, remaining) :: rest)
      (current : ∀ best, s.best.get? p = some best → best ≤ remaining) :
      Next quest ⟨.looking, s⟩
        ⟨.leaving p remaining (targets quest p), { s with frontier := rest }⟩
  | skip {s : Search} {p : Hex} {remaining best : ℤ} {rest : List (Hex × ℤ)}
      (first : s.frontier = (p, remaining) :: rest) (known : s.best.get? p = some best)
      (outdated : remaining < best) :
      Next quest ⟨.looking, s⟩ ⟨.looking, { s with frontier := rest }⟩
  | attempt {s s' : Search} {p q : Hex} {remaining : ℤ} {toTry : List Hex}
      (tried : attempt quest remaining s q = .ok s') :
      Next quest ⟨.leaving p remaining (q :: toTry), s⟩ ⟨.leaving p remaining toTry, s'⟩
  | finish {s : Search} {p : Hex} {remaining : ℤ} :
      Next quest ⟨.leaving p remaining [], s⟩ ⟨.looking, s⟩

/-- The loop is at its end. -/
inductive Ends (quest : Quest) : Stage → Except Failure Search → Prop
  | done {s : Search} (empty : s.frontier = []) : Ends quest ⟨.looking, s⟩ (.ok s)
  | fails {s : Search} {p q : Hex} {remaining : ℤ} {toTry : List Hex} {e : Failure}
      (tried : attempt quest remaining s q = .error e) :
      Ends quest ⟨.leaving p remaining (q :: toTry), s⟩ (.error e)

/-- The entries that came onto the frontier between two stages. -/
def joined (c c' : Stage) : List (Hex × ℤ) := c'.search.frontier.diff c.search.frontier

/-- The loop goes from one stage to another, and these entries come onto the frontier on the way,
    one after the other. -/
inductive Leads (quest : Quest) : Stage → List (Hex × ℤ) → Stage → Prop
  | refl (c : Stage) : Leads quest c [] c
  | step {c c' c'' : Stage} {log : List (Hex × ℤ)} (next : Next quest c c')
      (leads : Leads quest c' log c'') : Leads quest c (joined c c' ++ log) c''

variable {c c' c'' : Stage} {log log' : List (Hex × ℤ)}

theorem Leads.trans (h : Leads quest c log c') (h' : Leads quest c' log' c'') :
    Leads quest c (log ++ log') c'' := by
  induction h with
  | refl c => exact h'
  | step next leads ih =>
    rw [List.append_assoc]
    exact .step next (ih h')

/-- What every move keeps holds at every stage, together with the entries up to there. -/
theorem Leads.keeps {I : List (Hex × ℤ) → Stage → Prop}
    (hnext : ∀ {log c c'}, I log c → Next quest c c' → I (log ++ joined c c') c')
    (h : Leads quest c log c') {before : List (Hex × ℤ)} (hc : I before c) :
    I (before ++ log) c' := by
  induction h generalizing before with
  | refl c => simpa using hc
  | step next leads ih =>
    rw [← List.append_assoc]
    exact ih (hnext hc next)

/-! ## One way to go -/

theorem Next.unique (h : Next quest c c') (h' : Next quest c c'') : c' = c'' := by
  cases h with
  | take first current =>
    cases h' with
    | take first' current' =>
      rw [first] at first'
      cases first'
      rfl
    | skip first' known outdated =>
      rw [first] at first'
      cases first'
      have := current _ known
      omega
  | skip first known outdated =>
    cases h' with
    | take first' current =>
      rw [first] at first'
      cases first'
      have := current _ known
      omega
    | skip first' known' outdated' =>
      rw [first] at first'
      cases first'
      rfl
  | attempt tried =>
    cases h' with
    | attempt tried' =>
      rw [tried] at tried'
      cases tried'
      rfl
  | finish =>
    cases h' with
    | finish => rfl

theorem Ends.not_next {outcome : Except Failure Search} (h : Ends quest c outcome) :
    ¬Next quest c c' := by
  intro next
  cases h with
  | done empty =>
    cases next with
    | take first current => rw [empty] at first; cases first
    | skip first known outdated => rw [empty] at first; cases first
  | fails tried =>
    cases next with
    | attempt tried' => rw [tried] at tried'; cases tried'

/-- However far the loop has come, it goes on to the end that it has. -/
theorem Leads.ended {last : Stage} {outcome : Except Failure Search}
    (hend : Leads quest c log last) (ends : Ends quest last outcome)
    (h : Leads quest c log' c') : ∃ rest, Leads quest c' rest last ∧ log = log' ++ rest := by
  induction h generalizing log with
  | refl c => exact ⟨log, hend, rfl⟩
  | step next leads ih =>
    cases hend with
    | refl => exact absurd next ends.not_next
    | step next' leads' =>
      cases next.unique next'
      obtain ⟨rest, hrest, rfl⟩ := ih leads'
      exact ⟨rest, hrest, by rw [List.append_assoc]⟩

/-! ## The end of the loop -/

theorem exists_leads_attempts (quest : Quest) (p : Hex) (remaining : ℤ) (qs : List Hex)
    (s : Search) :
    ∃ log last, Leads quest ⟨.leaving p remaining qs, s⟩ log last ∧
      match qs.foldlM (attempt quest remaining) s with
      | .ok s' => last = ⟨.leaving p remaining [], s'⟩
      | .error e => Ends quest last (.error e) := by
  induction qs generalizing s with
  | nil => exact ⟨[], _, .refl _, rfl⟩
  | cons q rest ih =>
    rw [List.foldlM_cons]
    cases htried : attempt quest remaining s q with
    | error e => exact ⟨[], _, .refl _, .fails htried⟩
    | ok next =>
      obtain ⟨log, last, hleads, hlast⟩ := ih next
      exact ⟨_, last, .step (.attempt htried) hleads, hlast⟩

/-- The loop comes through a turn to the stage after it, or fails as the turn does. -/
theorem exists_leads_turn (quest : Quest) {rest : List (Hex × ℤ)}
    (hcons : s.frontier = (p, remaining) :: rest) :
    ∃ log last, Leads quest ⟨.looking, s⟩ log last ∧
      match turn quest p remaining { s with frontier := rest } with
      | .ok s' => last = ⟨.looking, s'⟩
      | .error e => Ends quest last (.error e) := by
  -- unless the entry is skipped, the turn is an expansion
  have hexpand (current : ∀ best, s.best.get? p = some best → best ≤ remaining) :
      ∃ log last, Leads quest ⟨.looking, s⟩ log last ∧
        match expand quest p remaining { s with frontier := rest } with
        | .ok s' => last = ⟨.looking, s'⟩
        | .error e => Ends quest last (.error e) := by
    obtain ⟨log, last, hleads, hlast⟩ :=
      exists_leads_attempts quest p remaining (targets quest p) { s with frontier := rest }
    rw [← expand_eq] at hlast
    cases hresult : expand quest p remaining { s with frontier := rest } with
    | error e =>
      rw [hresult] at hlast
      exact ⟨_, last, .step (.take hcons current) hleads, hlast⟩
    | ok next =>
      rw [hresult] at hlast
      dsimp only at hlast
      subst hlast
      exact ⟨_, _, .step (.take hcons current) (hleads.trans (.step .finish (.refl _))), rfl⟩
  unfold turn
  dsimp only
  cases hbest : s.best.get? p with
  | none =>
    refine hexpand fun best h => ?_
    rw [hbest] at h
    cases h
  | some best =>
    dsimp only
    split_ifs with houtdated
    · exact ⟨_, _, .step (.skip hcons hbest houtdated) (.refl _), rfl⟩
    · refine hexpand fun best' h => ?_
      rw [hbest, Option.some.injEq] at h
      omega

theorem exists_leads_run {turns : ℕ} (hw : s.work quest ≤ turns) :
    ∃ log last, Leads quest ⟨.looking, s⟩ log last ∧ Ends quest last (run quest turns s) := by
  induction turns generalizing s with
  | zero =>
    have hempty : s.frontier = [] :=
      List.eq_nil_of_length_eq_zero (by unfold work at hw; omega)
    exact ⟨[], _, .refl _, .done hempty⟩
  | succ turns ih =>
    unfold run
    split
    · rename_i hempty
      exact ⟨[], _, .refl _, .done hempty⟩
    · rename_i p remaining rest hcons
      obtain ⟨log, last, hleads, hlast⟩ := exists_leads_turn quest hcons
      cases hturn : turn quest p remaining { s with frontier := rest } with
      | error e =>
        rw [hturn] at hlast
        exact ⟨log, last, hleads, hlast⟩
      | ok next =>
        rw [hturn] at hlast
        dsimp only at hlast
        subst hlast
        have hless := work_turn_succ_le hcons hturn
        have hrest : next.work quest ≤ turns := by omega
        obtain ⟨log', last', hleads', hend⟩ := ih hrest
        exact ⟨log ++ log', last', hleads.trans hleads', hend⟩

theorem exists_leads_search (quest : Quest) :
    ∃ log last, Leads quest (opening quest) log last ∧ Ends quest last (search quest) :=
  exists_leads_run (work_begin_le quest)

/-- A search that succeeds was led to what it found. -/
theorem leads_of_search (h : search quest = .ok s) :
    ∃ log, Leads quest (opening quest) log ⟨.looking, s⟩ ∧ s.frontier = [] := by
  obtain ⟨log, last, hleads, hend⟩ := exists_leads_search quest
  rw [h] at hend
  cases hend with
  | done empty => exact ⟨log, hleads, empty⟩

end Search

end HexRules.Movement
