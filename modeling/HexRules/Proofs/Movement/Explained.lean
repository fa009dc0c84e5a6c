import HexRules.Proofs.Grid.Distance
import HexRules.Proofs.Movement.Exact
import HexRules.Proofs.Movement.Stages

/-!
# What is explained

A unit goes on from its start and from every hex that it reaches with some budget left. Whatever
hex of the map is next to one of these is reached itself, or there are findings against it. Findings
are added while a hex is refused again and again, and dropped when it is reached in the end; what
carries the argument is that every step from a hex that the unit goes on from is still to be tried
(`Search.Told`), or its end is reached or refused (`Search.Accounts`).

That a refusal leaves findings at all rests on the budget not being negative: a cost that exceeds it
did so first after some relation.

Results:
* `ne_nil_of_evaluate`: a step that fails with a budget that is not negative leaves findings.
* `Search.Told.take`, `Search.Told.skip`, `Search.Told.finish`, `Search.Told.attempt`: every move
  of the loop accounts for the steps that were still to be tried.
* `Search.Next.accounts`: every move of the loop keeps the account.
* `Search.exists_goesOn_iff`: where a unit goes on from, read off its moves.
* `blocked_exact`: the hexes with findings are those next to where the unit goes on from that it
  does not reach.
-/

namespace HexRules.Movement

/-! ## Every refusal has a reason -/

namespace Tally

variable {m : Mover} {tile : EntityData} {remaining : ℤ} {p : Hex} {t t' : Tally} {r : Relation}

/-- Whatever stands in the way so far has left a finding. -/
def Reasoned (remaining : ℤ) (t : Tally) : Prop :=
  t.blocked = true ∨ remaining - t.cost < 0 → t.findings ≠ []

theorem reasoned_add (ht : t.Reasoned remaining) (h : t.add m tile remaining p r = .ok t') :
    t'.Reasoned remaining := by
  rcases add_cases h with ⟨target, source, operation, n, -, -, hcharge⟩ |
    ⟨condition, -, -, rfl⟩ | ⟨condition, -, rfl⟩
  · rcases charge_cases hcharge with ⟨hcovered, rfl⟩ | ⟨-, f, -, rfl⟩
    · rintro (hb | hc)
      · exact ht (.inl hb)
      · exact absurd hc (not_lt.2 hcovered)
    · intro _
      exact List.append_ne_nil_of_right_ne_nil _ (List.cons_ne_nil _ _)
  · intro _
    exact List.append_ne_nil_of_right_ne_nil _ (List.cons_ne_nil _ _)
  · exact ht

end Tally

theorem ne_nil_of_evaluate {m : Mover} {tile : Option EntityData} {remaining : ℤ} {p : Hex}
    {findings : List Finding} (hr : 0 ≤ remaining)
    (h : evaluate m tile remaining p = .ok (.blocked findings)) : findings ≠ [] := by
  have hstart : Tally.start.Reasoned remaining := by
    rintro (hb | hc)
    · cases hb
    · simp only [Tally.start] at hc
      omega
  have hverdict : ∀ t : Tally, t.Reasoned remaining →
      t.verdict remaining = .blocked findings → findings ≠ [] := by
    intro t ht hv
    unfold Tally.verdict at hv
    split_ifs at hv with hfails
    cases hv
    exact ht hfails
  cases tile with
  | none => exact hverdict _ hstart (Except.ok.inj h)
  | some tile =>
    obtain ⟨t, ht, hv⟩ := Outcome.bind_eq_ok_iff.1 h
    refine hverdict t ?_ (Except.ok.inj hv)
    exact Outcome.foldlM_ok_induction (Tally.Reasoned remaining)
      (fun r _ s s' hs hreasoned => Tally.reasoned_add hreasoned hs) ht hstart

theorem ne_nil_of_enter {m : Mover} {board : Board} {start q : Hex} {budget radius b : ℤ}
    {findings : List Finding} (hb : 0 ≤ b)
    (h : (m.quest board start budget radius).enter q b = .ok (.blocked findings)) :
    findings ≠ [] :=
  ne_nil_of_evaluate hb (Mover.enter_eq_ok_iff.1 h).2

/-! ## Findings are joined without repetition -/

theorem nodup_addNew {old new : List Finding} (h : old.Nodup) : (addNew old new).Nodup := by
  unfold addNew
  induction new generalizing old with
  | nil => exact h
  | cons f rest ih =>
    rw [List.foldl_cons]
    split_ifs with hf
    · exact ih h
    · refine ih (List.nodup_append.2 ⟨h, List.nodup_singleton f, ?_⟩)
      rintro g hg g' hg' rfl
      rw [List.mem_singleton.1 hg'] at hg
      exact hf (List.contains_iff_mem.2 hg)

theorem addNew_ne_nil {old new : List Finding} (h : new ≠ []) : addNew old new ≠ [] := by
  obtain ⟨f, hf⟩ := List.exists_mem_of_ne_nil new h
  exact List.ne_nil_of_mem (mem_addNew.2 (.inr hf))

namespace Search

variable {quest : Quest} {s s' : Search} {c c' : Stage} {p q : Hex} {b remaining : ℤ}
  {findings : List Finding}

/-! ## What an attempt leaves of the findings -/

theorem get?_blocked_reach (hk : s.knows q b = false) (p : Hex) :
    (s.reach q b).blocked.get? p = if q = p then none else s.blocked.get? p := by
  rw [reach, if_neg (by simp [hk]), Table.get?_erase]

theorem get?_blocked_refuse (hb : s.best.contains q = false) (hf : findings ≠ []) (p : Hex) :
    (s.refuse q findings).blocked.get? p =
      if q = p then some (addNew ((s.blocked.get? q).getD []) findings)
      else s.blocked.get? p := by
  rw [refuse, if_neg (by simp [hb, hf]), Table.get?_insert]

/-! ## Where the unit goes on -/

/-- The unit goes on from a hex that holds a budget: from the start, or if some is left. -/
def GoesOn (quest : Quest) (s : Search) (p : Hex) (b : ℤ) : Prop :=
  s.best.get? p = some b ∧ (p = quest.start ∨ 0 < b)

/-- A hex is reached, or there are findings against it. -/
def Settled (s : Search) (p : Hex) : Prop :=
  (∃ b, s.best.get? p = some b) ∨ ∃ findings, s.blocked.get? p = some findings

variable {toTry : List Hex}

theorem goesOn_reach (hq : q ≠ quest.start) (hk : s.knows q b = false) {c : ℤ} :
    (s.reach q b).GoesOn quest p c ↔
      p = q ∧ c = b ∧ 0 < b ∨ p ≠ q ∧ s.GoesOn quest p c := by
  rw [GoesOn, GoesOn, get?_reach]
  by_cases hp : q = p
  · subst hp
    simp only [true_and, hk, if_true, Option.some.injEq, hq, false_or, ne_eq, not_true_eq_false,
      false_and, or_false]
    constructor
    · rintro ⟨rfl, hb⟩
      exact ⟨rfl, hb⟩
    · rintro ⟨rfl, hb⟩
      exact ⟨rfl, hb⟩
  · simp only [hp, Ne.symm hp, false_and, if_false, false_or, ne_eq, not_false_eq_true, true_and]

/-- A hex that is reached with more budget is still one that the unit goes on from. -/
theorem exists_goesOn_reach (hq : q ≠ quest.start) (hk : s.knows q b = false)
    (h : ∃ c, s.GoesOn quest p c) : ∃ c, (s.reach q b).GoesOn quest p c := by
  obtain ⟨c, hbest, hgo⟩ := h
  by_cases hp : p = q
  · subst hp
    have hpos := hgo.resolve_left hq
    have hless : c < b := by
      by_contra hge
      rw [knows_iff.2 ⟨c, hbest, not_lt.1 hge⟩] at hk
      cases hk
    exact ⟨b, (goesOn_reach hq hk).2 (.inl ⟨rfl, rfl, hpos.trans hless⟩)⟩
  · exact ⟨c, (goesOn_reach hq hk).2 (.inr ⟨hp, hbest, hgo⟩)⟩

theorem settled_reach (hk : s.knows q b = false) (h : s.Settled p) : (s.reach q b).Settled p := by
  by_cases hp : q = p
  · exact .inl ⟨b, by rw [get?_reach, if_pos ⟨hp, hk⟩]⟩
  · rcases h with ⟨c, hc⟩ | ⟨findings, hf⟩
    · exact .inl ⟨c, by rw [get?_reach, if_neg (fun h => hp h.1), hc]⟩
    · exact .inr ⟨findings, by rw [get?_blocked_reach hk, if_neg hp, hf]⟩

theorem settled_refuse (hb : s.best.contains q = false) (hf : findings ≠ [])
    (h : s.Settled p ∨ p = q) : (s.refuse q findings).Settled p := by
  by_cases hp : q = p
  · exact .inr ⟨_, by rw [get?_blocked_refuse hb hf, if_pos hp]⟩
  · rcases h.resolve_right (Ne.symm hp) with ⟨c, hc⟩ | ⟨known, hknown⟩
    · exact .inl ⟨c, by rw [best_refuse, hc]⟩
    · exact .inr ⟨known, by rw [get?_blocked_refuse hb hf, if_neg hp, hknown]⟩

/-! ## Steps still to be tried -/

/-- Every step from where the unit goes on is still to be tried, or is done with. -/
def Told (quest : Quest) (c : Stage) (done : Hex → ℤ → Prop) : Prop :=
  ∀ p b q, c.search.GoesOn quest p b → q ∈ targets quest p →
    (p, b) ∈ c.search.frontier ∨ (∃ toTry, c.phase = .leaving p b toTry ∧ q ∈ toTry) ∨ done q b

section

variable {done done' : Hex → ℤ → Prop} {rest : List (Hex × ℤ)}

theorem told_opening (quest : Quest) (done : Hex → ℤ → Prop) :
    Told quest (opening quest) done := by
  intro p b q hp _
  have hget := hp.1
  rw [opening, get?_begin] at hget
  split_ifs at hget with hstart
  cases hget
  exact .inl (hstart ▸ List.mem_cons_self)

theorem Told.take (h : Told quest ⟨.looking, s⟩ done)
    (first : s.frontier = (p, remaining) :: rest) :
    Told quest ⟨.leaving p remaining (targets quest p), { s with frontier := rest }⟩ done := by
  intro p' b' q' hp' hq'
  rcases h p' b' q' hp' hq' with hwait | ⟨toTry', hphase, -⟩ | hdone
  · dsimp only at hwait
    rw [first] at hwait
    rcases List.mem_cons.1 hwait with heq | hrest
    · cases heq
      exact .inr (.inl ⟨_, rfl, hq'⟩)
    · exact .inl hrest
  · cases hphase
  · exact .inr (.inr hdone)

theorem Told.skip {best : ℤ} (h : Told quest ⟨.looking, s⟩ done)
    (first : s.frontier = (p, remaining) :: rest) (known : s.best.get? p = some best)
    (outdated : remaining < best) :
    Told quest ⟨.looking, { s with frontier := rest }⟩ done := by
  intro p' b' q' hp' hq'
  rcases h p' b' q' hp' hq' with hwait | ⟨toTry', hphase, -⟩ | hdone
  · dsimp only at hwait
    rw [first] at hwait
    rcases List.mem_cons.1 hwait with heq | hrest
    · -- the entry is out of date, so it does not hold the hex's best budget
      cases heq
      have hbest := known.symm.trans hp'.1
      rw [Option.some.injEq] at hbest
      omega
    · exact .inl hrest
  · cases hphase
  · exact .inr (.inr hdone)

theorem Told.finish (h : Told quest ⟨.leaving p remaining [], s⟩ done) :
    Told quest ⟨.looking, s⟩ done := by
  intro p' b' q' hp' hq'
  rcases h p' b' q' hp' hq' with hwait | ⟨toTry', hphase, hmem⟩ | hdone
  · exact .inl hwait
  · cases hphase
    cases hmem
  · exact .inr (.inr hdone)

/-- An attempt is done with its own step. It has to keep what waits and what is done with, and to
    have the hexes wait that the unit did not go on from before. -/
theorem Told.attempt (h : Told quest ⟨.leaving p remaining (q :: toTry), s⟩ done)
    (hkept : ∀ q' b', done q' b' → done' q' b') (hnow : done' q remaining)
    (hgoesOn : ∀ p' b', s'.GoesOn quest p' b' → (p', b') ∈ s'.frontier ∨ s.GoesOn quest p' b')
    (hfrontier : ∀ e ∈ s.frontier, e ∈ s'.frontier) :
    Told quest ⟨.leaving p remaining toTry, s'⟩ done' := by
  intro p' b' q' hp' hq'
  rcases hgoesOn p' b' hp' with hwait | hp'
  · exact .inl hwait
  rcases h p' b' q' hp' hq' with hwait | ⟨toTry', hphase, hmem⟩ | hdone
  · exact .inl (hfrontier _ hwait)
  · cases hphase
    rcases List.mem_cons.1 hmem with rfl | hmem
    · exact .inr (.inr hnow)
    · exact .inr (.inl ⟨toTry, rfl, hmem⟩)
  · exact .inr (.inr (hkept q' b' hdone))

/-- An attempt that reaches a hex has it wait, if the unit can go on from there. -/
theorem Told.reach (h : Told quest ⟨.leaving p remaining (q :: toTry), s⟩ done)
    (hkept : ∀ q' b', done q' b' → done' q' b') (hnow : done' q remaining)
    (hq : q ≠ quest.start) (hk : s.knows q b = false) :
    Told quest ⟨.leaving p remaining toTry, s.reach q b⟩ done' := by
  refine h.attempt hkept hnow (fun p' b' hp' => ?_) fun e he => mem_frontier_reach.2 (.inl he)
  rcases (goesOn_reach hq hk).1 hp' with ⟨rfl, rfl, hpos⟩ | ⟨-, hp'⟩
  · exact .inl (mem_frontier_reach.2 (.inr ⟨hk, hpos, rfl⟩))
  · exact .inr hp'

theorem Told.refuse (h : Told quest ⟨.leaving p remaining (q :: toTry), s⟩ done)
    (hkept : ∀ q' b', done q' b' → done' q' b') (hnow : done' q remaining) :
    Told quest ⟨.leaving p remaining toTry, s.refuse q findings⟩ done' := by
  refine h.attempt hkept hnow (fun p' b' hp' => ?_) fun e he => ?_
  · rw [GoesOn, best_refuse] at hp'
    exact .inr hp'
  · rwa [frontier_refuse]

/-- When nothing waits any more, all is done with. -/
theorem Told.complete (h : Told quest ⟨.looking, s⟩ done) (hempty : s.frontier = [])
    (hp : s.GoesOn quest p b) (hq : q ∈ targets quest p) : done q b := by
  rcases h p b q hp hq with hwait | ⟨toTry, hphase, -⟩ | hdone
  · dsimp only at hwait
    rw [hempty] at hwait
    cases hwait
  · cases hphase
  · exact hdone

end

/-! ## The account -/

/-- Nothing is lost on the way: every step from where the unit goes on from is still to be tried, or
    its end is reached or refused; and only such steps are tried. -/
structure Accounts (quest : Quest) (c : Stage) : Prop where
  start : c.search.best.get? quest.start = some quest.budget
  waiting : ∀ e ∈ c.search.frontier, 0 ≤ e.2 ∧ ∃ b, c.search.GoesOn quest e.1 b
  leaving : ∀ {p remaining toTry}, c.phase = .leaving p remaining toTry →
    0 ≤ remaining ∧ (∃ b, c.search.GoesOn quest p b) ∧ ∀ q ∈ toTry, q ∈ targets quest p
  refused : ∀ {q findings}, c.search.blocked.get? q = some findings →
    c.search.best.get? q = none ∧ findings ≠ [] ∧ findings.Nodup ∧
      ∃ p b, c.search.GoesOn quest p b ∧ q ∈ targets quest p
  told : ∀ {p b q}, c.search.GoesOn quest p b → q ∈ targets quest p →
    (p, b) ∈ c.search.frontier ∨ (∃ toTry, c.phase = .leaving p b toTry ∧ q ∈ toTry) ∨
      c.search.Settled q

theorem accounts_opening (hb : 0 ≤ quest.budget) : Accounts quest (opening quest) := by
  have hstart : (begin quest).GoesOn quest quest.start quest.budget :=
    ⟨by rw [get?_begin, if_pos rfl], .inl rfl⟩
  have htold : Told quest (opening quest) fun q _ => (opening quest).search.Settled q :=
    told_opening quest _
  refine ⟨hstart.1, ?_, fun hphase => (by cases hphase), fun hq => (by cases hq), htold _ _ _⟩
  intro e he
  rw [opening, begin, List.mem_singleton] at he
  subst he
  exact ⟨hb, quest.budget, hstart⟩

theorem Accounts.allTold (h : Accounts quest c) :
    Told quest c fun q _ => c.search.Settled q := fun _ _ _ => h.told

/-! ## Moves keep the account -/

/-- An attempt that changes nothing. -/
theorem Accounts.pass (h : Accounts quest ⟨.leaving p remaining (q :: toTry), s⟩)
    (hq : s.Settled q) : Accounts quest ⟨.leaving p remaining toTry, s⟩ := by
  have htold : Told quest ⟨.leaving p remaining toTry, s⟩ fun q' _ => s.Settled q' :=
    h.allTold.attempt (fun _ _ hsettled => hsettled) hq (fun _ _ => .inr) fun _ he => he
  refine ⟨h.start, h.waiting, ?_, h.refused, htold _ _ _⟩
  intro p' remaining' toTry' hphase
  cases hphase
  obtain ⟨hr, hgo, htargets⟩ := h.leaving rfl
  exact ⟨hr, hgo, fun r hr => htargets r (List.mem_cons_of_mem q hr)⟩

theorem Accounts.reach (h : Accounts quest ⟨.leaving p remaining (q :: toTry), s⟩)
    (hk : s.knows q b = false) :
    Accounts quest ⟨.leaving p remaining toTry, s.reach q b⟩ := by
  obtain ⟨hr, hgo, htargets⟩ := h.leaving rfl
  have hq : q ≠ quest.start := (mem_targets.1 (htargets q List.mem_cons_self)).2.2
  have hreached : (s.reach q b).Settled q := .inl ⟨b, by rw [get?_reach, if_pos ⟨rfl, hk⟩]⟩
  have htold : Told quest ⟨.leaving p remaining toTry, s.reach q b⟩
      fun q' _ => (s.reach q b).Settled q' :=
    h.allTold.reach (fun _ _ => settled_reach hk) hreached hq hk
  refine ⟨?_, ?_, ?_, ?_, htold _ _ _⟩
  · rw [get?_reach, if_neg fun hs => hq hs.1]
    exact h.start
  · intro e he
    rcases mem_frontier_reach.1 he with he | ⟨-, hb, rfl⟩
    · exact ⟨(h.waiting e he).1, exists_goesOn_reach hq hk (h.waiting e he).2⟩
    · exact ⟨hb.le, b, (goesOn_reach hq hk).2 (.inl ⟨rfl, rfl, hb⟩)⟩
  · intro p' remaining' toTry' hphase
    cases hphase
    exact ⟨hr, exists_goesOn_reach hq hk hgo, fun r hr => htargets r (List.mem_cons_of_mem q hr)⟩
  · intro q' findings hq'
    rw [get?_blocked_reach hk] at hq'
    split_ifs at hq' with hne
    obtain ⟨hnone, hfindings, hnodup, p', b', hp', htarget⟩ := h.refused hq'
    refine ⟨?_, hfindings, hnodup, p', ?_⟩
    · rw [get?_reach, if_neg fun hs => hne hs.1]
      exact hnone
    · obtain ⟨c, hc⟩ := exists_goesOn_reach hq hk ⟨b', hp'⟩
      exact ⟨c, hc, htarget⟩

theorem Accounts.refuse (h : Accounts quest ⟨.leaving p remaining (q :: toTry), s⟩)
    (hb : s.best.contains q = false) (hf : findings ≠ []) :
    Accounts quest ⟨.leaving p remaining toTry, s.refuse q findings⟩ := by
  obtain ⟨hr, hgo, htargets⟩ := h.leaving rfl
  have hgoesOn : ∀ {p b}, (s.refuse q findings).GoesOn quest p b ↔ s.GoesOn quest p b := by
    intro p b
    rw [GoesOn, GoesOn, best_refuse]
  have htold : Told quest ⟨.leaving p remaining toTry, s.refuse q findings⟩
      fun q' _ => (s.refuse q findings).Settled q' :=
    h.allTold.refuse (fun _ _ hold => settled_refuse hb hf (.inl hold))
      (settled_refuse hb hf (.inr rfl))
  refine ⟨?_, ?_, ?_, ?_, htold _ _ _⟩
  · rw [best_refuse]
    exact h.start
  · intro e he
    rw [frontier_refuse] at he
    simp only [hgoesOn]
    exact h.waiting e he
  · intro p' remaining' toTry' hphase
    cases hphase
    simp only [hgoesOn]
    exact ⟨hr, hgo, fun r hr => htargets r (List.mem_cons_of_mem q hr)⟩
  · intro q' found hq'
    rw [best_refuse]
    simp only [hgoesOn]
    rw [get?_blocked_refuse hb hf] at hq'
    split_ifs at hq' with heq
    · cases hq'
      subst heq
      refine ⟨by simpa [Table.contains] using hb, addNew_ne_nil hf, nodup_addNew ?_, ?_⟩
      · cases hold : s.blocked.get? q with
        | none => exact List.nodup_nil
        | some old => exact (h.refused hold).2.2.1
      · obtain ⟨b, hb⟩ := hgo
        exact ⟨p, b, hb, htargets q List.mem_cons_self⟩
    · exact h.refused hq'

/-- Every move keeps the account, where steps that fail with a budget leave findings. -/
theorem Next.accounts (hreasons : ∀ {q : Hex} {b : ℤ} {findings : List Finding}, 0 ≤ b →
      quest.enter q b = .ok (.blocked findings) → findings ≠ [])
    (h : Accounts quest c) (next : Next quest c c') : Accounts quest c' := by
  cases next with
  | @take s p remaining rest first current =>
    have hmem : ∀ e, e ∈ s.frontier ↔ e = (p, remaining) ∨ e ∈ rest := by
      intro e
      rw [first, List.mem_cons]
    obtain ⟨hr, hgo⟩ := h.waiting (p, remaining) ((hmem _).2 (.inl rfl))
    refine ⟨h.start, fun e he => h.waiting e ((hmem e).2 (.inr he)), ?_, h.refused,
      h.allTold.take first _ _ _⟩
    intro p' remaining' toTry' hphase
    cases hphase
    exact ⟨hr, hgo, fun q hq => hq⟩
  | @skip s p remaining best rest first known outdated =>
    have hmem : ∀ e ∈ rest, e ∈ s.frontier := by
      intro e he
      rw [first]
      exact List.mem_cons_of_mem _ he
    exact ⟨h.start, fun e he => h.waiting e (hmem e he), fun hphase => (by cases hphase),
      h.refused, h.allTold.skip first known outdated _ _ _⟩
  | finish =>
    exact ⟨h.start, h.waiting, fun hphase => (by cases hphase), h.refused,
      h.allTold.finish _ _ _⟩
  | @attempt s s' p q remaining toTry tried =>
    rcases attempt_cases tried with ⟨n, -, ⟨hknown, rfl⟩ | ⟨hnew, rfl⟩⟩ |
      ⟨findings, henter, ⟨hno, rfl⟩ | ⟨hb, hf, rfl⟩⟩
    · obtain ⟨best, hbest, -⟩ := knows_iff.1 hknown
      exact h.pass (.inl ⟨best, hbest⟩)
    · exact h.reach hnew
    · have hb := hno.resolve_right (hreasons (h.leaving rfl).1 henter)
      exact h.pass (.inl (Option.isSome_iff_exists.1 hb))
    · exact h.refuse hb hf

end Search

/-! ## The end of a search -/

theorem Search.accounts_search {quest : Quest} {s : Search} (hb : 0 ≤ quest.budget)
    (hreasons : ∀ {q : Hex} {b : ℤ} {findings : List Finding}, 0 ≤ b →
      quest.enter q b = .ok (.blocked findings) → findings ≠ [])
    (h : search quest = .ok s) : Search.Accounts quest ⟨.looking, s⟩ ∧ s.frontier = [] := by
  obtain ⟨log, hleads, hempty⟩ := Search.leads_of_search h
  refine ⟨?_, hempty⟩
  exact @Search.Leads.keeps quest _ _ log (fun _ => Search.Accounts quest)
    (fun haccounts next => next.accounts hreasons haccounts) hleads [] (Search.accounts_opening hb)

/-- A hex that is tried sooner or later is next to the start or to a hex reached with some budget
    left. -/
theorem Search.exists_goesOn_iff (quest : Quest) {s : Search} (unit : String)
    (hstart : s.best.get? quest.start = some quest.budget) (p : Hex) :
    (∃ q b, s.GoesOn quest q b ∧ p ∈ q.neighbors) ↔
      quest.start.isAdjacent p = true ∨
        ∃ q ∈ (MoveSet.ofSearch unit quest.start s).valid, q.isAdjacent p = true ∧
          ∃ b, (MoveSet.ofSearch unit quest.start s).budgets.get? q = some b ∧ 0 < b := by
  simp only [Hex.isAdjacent_iff_mem_neighbors, MoveSet.mem_valid_ofSearch]
  constructor
  · rintro ⟨q, b, ⟨hbest, hgo⟩, hadj⟩
    by_cases hq : q = quest.start
    · exact .inl (hq ▸ hadj)
    · exact .inr ⟨q, ⟨hq, b, hbest⟩, hadj, b, by rw [MoveSet.get?_budgets_ofSearch hq, hbest],
        hgo.resolve_left hq⟩
  · rintro (hadj | ⟨q, ⟨hq, -⟩, hadj, b, hbest, hpos⟩)
    · exact ⟨quest.start, quest.budget, ⟨hstart, .inl rfl⟩, hadj⟩
    · rw [MoveSet.get?_budgets_ofSearch hq] at hbest
      exact ⟨q, b, ⟨hbest, .inr hpos⟩, hadj⟩

/-- With an initial budget that is not negative, there are findings against the hexes of the map
    that are next to the start or to a hex reached with some budget left, and are neither the start
    nor reached. A hex that there are findings against has at least one, and none of them twice. -/
theorem blocked_exact (m : Mover) (board : Board) (unit : String) (start : Hex) {budget : ℤ}
    (radius : ℤ) (hb : 0 ≤ budget) {s : Search}
    (h : search (m.quest board start budget radius) = .ok s) :
    (∀ p, p ∈ (MoveSet.ofSearch unit start s).blocked.keys ↔
      Grid.inBounds p radius = true ∧ p ≠ start ∧ p ∉ (MoveSet.ofSearch unit start s).valid ∧
        (start.isAdjacent p = true ∨
          ∃ q ∈ (MoveSet.ofSearch unit start s).valid, q.isAdjacent p = true ∧
            ∃ b, (MoveSet.ofSearch unit start s).budgets.get? q = some b ∧ 0 < b)) ∧
    (∀ p findings, (MoveSet.ofSearch unit start s).blocked.get? p = some findings →
      findings ≠ [] ∧ findings.Nodup) ∧
    (∀ p ∈ (MoveSet.ofSearch unit start s).valid,
      p ∉ (MoveSet.ofSearch unit start s).blocked.keys) ∧
    start ∉ (MoveSet.ofSearch unit start s).valid ∧
    start ∉ (MoveSet.ofSearch unit start s).blocked.keys := by
  obtain ⟨haccounts, hempty⟩ := Search.accounts_search hb ne_nil_of_enter h
  have hstart : s.best.get? start = some budget := haccounts.start
  have hblocked : ∀ {p}, p ∈ (MoveSet.ofSearch unit start s).blocked.keys ↔
      ∃ findings, s.blocked.get? p = some findings := Table.mem_keys _ _
  have hrefused : ∀ {p findings}, s.blocked.get? p = some findings →
      s.best.get? p = none ∧ findings ≠ [] ∧ findings.Nodup ∧
        ∃ q b, s.GoesOn (m.quest board start budget radius) q b ∧
          p ∈ Search.targets (m.quest board start budget radius) q := haccounts.refused
  refine ⟨fun p => ?_, fun p findings hp => ?_, fun p hvalid hp => ?_, ?_, fun hp => ?_⟩
  · have hnext := Search.exists_goesOn_iff (m.quest board start budget radius) unit hstart p
    rw [hblocked, MoveSet.mem_valid_ofSearch]
    constructor
    · rintro ⟨findings, hp⟩
      obtain ⟨hnone, -, -, q, b, hgo, htarget⟩ := hrefused hp
      obtain ⟨hadj, hmap, haway⟩ := Search.mem_targets.1 htarget
      refine ⟨hmap, haway, ?_, hnext.1 ⟨q, b, hgo, hadj⟩⟩
      rintro ⟨-, c, hc⟩
      rw [hnone] at hc
      cases hc
    · rintro ⟨hmap, haway, hmissed, hnear⟩
      obtain ⟨q, b, hgo, hadj⟩ := hnext.2 hnear
      have hsettled : s.Settled p :=
        haccounts.allTold.complete hempty hgo (Search.mem_targets.2 ⟨hadj, hmap, haway⟩)
      exact hsettled.resolve_left fun hreached => hmissed ⟨haway, hreached⟩
  · exact ⟨(hrefused hp).2.1, (hrefused hp).2.2.1⟩
  · obtain ⟨findings, hf⟩ := hblocked.1 hp
    obtain ⟨-, b, hbest⟩ := MoveSet.mem_valid_ofSearch.1 hvalid
    rw [(hrefused hf).1] at hbest
    cases hbest
  · exact fun hvalid => (MoveSet.mem_valid_ofSearch.1 hvalid).1 rfl
  · obtain ⟨findings, hf⟩ := hblocked.1 hp
    rw [(hrefused hf).1] at hstart
    cases hstart

/-- The traveller from off the map reaches the ford and the inn, and there are findings against the
    ferry, which it would come to from the inn. -/
theorem blocked_exact_river :
    ∃ s, search (River.mover.quest River.board ⟨2, 0⟩ 3 1) = .ok s ∧
      ⟨-1, 0⟩ ∈ (MoveSet.ofSearch "traveller" ⟨2, 0⟩ s).blocked.keys ∧
      ⟨-1, 0⟩ ∉ (MoveSet.ofSearch "traveller" ⟨2, 0⟩ s).valid := by
  obtain ⟨s, hs⟩ := Outcome.exists_eq_ok_of_isOk
    (x := search (River.mover.quest River.board ⟨2, 0⟩ 3 1)) (by decide)
  have hfound : ∀ s', (search (River.mover.quest River.board ⟨2, 0⟩ 3 1)).toOption = some s' →
      ⟨-1, 0⟩ ∈ (MoveSet.ofSearch "traveller" ⟨2, 0⟩ s').blocked.keys := by
    intro s' hs'
    cases hs'
    decide
  have hferry := hfound s (by rw [hs]; rfl)
  obtain ⟨hexact, -⟩ := blocked_exact River.mover River.board "traveller" ⟨2, 0⟩ 1
    (by decide) hs
  exact ⟨s, hs, hferry, ((hexact _).1 hferry).2.2.1⟩

end HexRules.Movement
