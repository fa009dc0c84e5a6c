import HexRules.Proofs.Movement.BreakOff
import HexRules.Proofs.Movement.Final

/-!
# When a search returns

A search fails where a step cannot be judged. Where no step gives anything back, each hex is left
once, with the budget that it ends up with. So it is known in advance which steps are tried, and
the search returns exactly if all of these can be judged.

A search that fails has no end at which a budget could be called final. It is compared with one that
judges every step, by the terrain where the first cannot: the two go together up to the failure, and
from there on the second shows what was final.

Results:
* `Search.Leads.judged`: a search goes the same way as the one that judges every step.
* `Search.settles_of_leaving`: a hex that is being left has its final budget, whatever comes later.
* `Search.exists_enter_of_ok`: if a search returns, every step from a hex with its final budget was
  judged.
* `exists_search_iff`: a search returns exactly if every such step can be judged.
-/

namespace HexRules.Movement

/-- A walk can leave a hex with a budget, and none leaves it with more. -/
def Terrain.Settles (t : Terrain) (p : Hex) (b : ℤ) : Prop :=
  p = t.start ∧ b = t.budget ∨ IsGreatest (t.arrivals p) b ∧ 0 < b

/-! ## Every step is judged -/

/-- The search that judges a step as the terrain has it, where it cannot be judged otherwise. -/
def Quest.judged (quest : Quest) (t : Terrain) : Quest :=
  { quest with
    enter := fun p b =>
      match quest.enter p b with
      | .ok v => .ok v
      | .error _ =>
        if t.barred p = false ∧ 0 ≤ b - t.cost p then .ok (.open (b - t.cost p))
        else .ok (.blocked []) }

namespace Quest

variable {quest : Quest} {t : Terrain} {p : Hex} {b : ℤ} {v : Verdict}

theorem enter_judged (h : quest.enter p b = .ok v) : (quest.judged t).enter p b = .ok v := by
  unfold judged
  dsimp only
  rw [h]

theorem exists_enter_judged (quest : Quest) (t : Terrain) (p : Hex) (b : ℤ) :
    ∃ v, (quest.judged t).enter p b = .ok v := by
  unfold judged
  dsimp only
  split
  · exact ⟨_, rfl⟩
  · split_ifs
    · exact ⟨_, rfl⟩
    · exact ⟨_, rfl⟩

theorem On.judged (on : quest.On t) : (quest.judged t).On t := by
  refine ⟨on.start, on.budget, on.radius, ?_⟩
  intro p b v henter n
  unfold Quest.judged at henter
  dsimp only at henter
  split at henter
  · rename_i v' hv'
    cases henter
    exact on.enter hv' n
  · split_ifs at henter with hopen
    · cases henter
      obtain ⟨hbar, hcovered⟩ := hopen
      constructor
      · intro h
        cases h
        exact ⟨hbar, hcovered, rfl⟩
      · rintro ⟨-, -, rfl⟩
        rfl
    · cases henter
      constructor
      · intro h
        cases h
      · rintro ⟨hbar, hcovered, -⟩
        exact absurd ⟨hbar, hcovered⟩ hopen

end Quest

namespace Search

variable {quest : Quest} {t : Terrain} {s : Search} {c c' : Stage} {log : List (Hex × ℤ)}
  {p q : Hex} {b remaining : ℤ} {toTry : List Hex}

theorem Next.judged (next : Next quest c c') : Next (quest.judged t) c c' := by
  cases next with
  | take first current => exact .take first current
  | skip first known outdated => exact .skip first known outdated
  | finish => exact .finish
  | attempt tried =>
    obtain ⟨v, henter, hmeet⟩ := Outcome.bind_eq_ok_iff.1 tried
    exact .attempt (Outcome.bind_eq_ok_iff.2 ⟨v, Quest.enter_judged henter, hmeet⟩)

theorem Leads.judged (h : Leads quest c log c') : Leads (quest.judged t) c log c' := by
  induction h with
  | refl c => exact .refl c
  | step next leads ih => exact .step next.judged ih

/-! ## Final budgets -/

/-- In the end, the unit goes on from a hex with the budget that walks can leave it with at best. -/
theorem goesOn_iff_settles (on : quest.On t) (h : search quest = .ok s) :
    s.GoesOn quest p b ↔ t.Settles p b := by
  have hstart : s.best.get? t.start = some t.budget := (tracks_search on h).start
  rw [GoesOn, Terrain.Settles, on.start]
  by_cases hp : p = t.start
  · subst hp
    rw [hstart, Option.some.injEq]
    constructor
    · rintro ⟨rfl, -⟩
      exact .inl ⟨rfl, rfl⟩
    · rintro (⟨-, rfl⟩ | ⟨hbest, -⟩)
      · exact ⟨rfl, .inl rfl⟩
      · exact absurd rfl (Terrain.ne_start_of_mem_arrivals hbest.1)
  · rw [get?_eq_some_iff_of_search on h hp]
    simp [hp]

/-- The hex that is being left has its final budget, though the search may fail later on. -/
theorem settles_of_leaving (on : quest.On t)
    (hcost : ∀ p, Grid.inBounds p t.radius = true → p ≠ t.start → t.barred p = false →
      0 ≤ t.cost p)
    (h : Leads quest (opening quest) log ⟨.leaving p remaining toTry, s⟩) :
    t.Settles p remaining ∧ ∀ q ∈ toTry, q ∈ targets quest p := by
  have hspends : (quest.judged t).Spends := on.judged.spends hcost
  have hjudged : Leads (quest.judged t) (opening (quest.judged t)) log
      ⟨.leaving p remaining toTry, s⟩ := h.judged
  have hfalls : Falls (quest.judged t) ⟨.leaving p remaining toTry, s⟩ :=
    @Leads.keeps (quest.judged t) _ _ log (fun _ => Falls (quest.judged t))
      (fun hc next => next.falls hspends hc) hjudged [] (falls_opening _)
  obtain ⟨hfinal, htargets⟩ := hfalls.leaving rfl
  -- the search that judges every step goes on from here to its end
  obtain ⟨s', hs'⟩ := exists_eq_ok_of_tries (on.judged (t := t)) fun q b _ =>
    quest.exists_enter_judged t q b
  obtain ⟨log', hleads, -⟩ := leads_of_search hs'
  have hend : Ends (quest.judged t) ⟨.looking, s'⟩ (.ok s') := .done (frontier_search hs')
  obtain ⟨rest, hrest, -⟩ := hleads.ended hend hjudged
  have hlast := @Leads.keeps (quest.judged t) _ _ rest
    (fun _ c => Falls (quest.judged t) c ∧ c.Final (quest.judged t) p remaining)
    (fun hc next => ⟨next.falls hspends hc.1, next.final hspends hc.1 hc.2⟩) hrest []
    ⟨hfalls, hfinal⟩
  exact ⟨(goesOn_iff_settles on.judged hs').1 hlast.2.goesOn, htargets⟩

/-! ## Steps that are judged -/

/-- A move of the loop judges the steps that are no longer to be tried. -/
theorem Next.toldJudged (hpaced : Paced quest t c)
    (h : Told quest c fun q b => ∃ v, quest.enter q b = .ok v) (next : Next quest c c') :
    Told quest c' fun q b => ∃ v, quest.enter q b = .ok v := by
  cases next with
  | take first current => exact h.take first
  | skip first known outdated => exact h.skip first known outdated
  | finish => exact h.finish
  | @attempt s s' p q remaining toTry tried =>
    have hq := (hpaced.leaving rfl).2 q List.mem_cons_self
    rcases attempt_cases tried with ⟨n, henter, ⟨-, rfl⟩ | ⟨hk, rfl⟩⟩ |
      ⟨findings, henter, ⟨-, rfl⟩ | ⟨-, -, rfl⟩⟩
    · exact h.attempt (fun _ _ hdone => hdone) ⟨_, henter⟩ (fun _ _ => .inr) fun _ he => he
    · exact h.reach (fun _ _ hdone => hdone) ⟨_, henter⟩ (mem_targets.1 hq).2.2 hk
    · exact h.attempt (fun _ _ hdone => hdone) ⟨_, henter⟩ (fun _ _ => .inr) fun _ he => he
    · exact h.refuse (fun _ _ hdone => hdone) ⟨_, henter⟩

/-- If a search returns, every step from a hex with its final budget was judged. -/
theorem exists_enter_of_ok (on : quest.On t) (h : search quest = .ok s) (hp : t.Settles p b)
    (hq : q ∈ targets quest p) : ∃ v, quest.enter q b = .ok v := by
  obtain ⟨log, hleads, hempty⟩ := leads_of_search h
  have hboth := @Leads.keeps quest _ _ log
    (fun _ c => Paced quest t c ∧ Told quest c fun q b => ∃ v, quest.enter q b = .ok v)
    (fun hc next => ⟨next.paced on hc.1, next.toldJudged hc.1 hc.2⟩) hleads []
    ⟨paced_opening on, told_opening quest _⟩
  exact hboth.2.complete hempty ((goesOn_iff_settles on h).2 hp) hq

end Search

/-- Where no hex that can be entered gives anything back, a search returns exactly if every step
    from the start with the initial budget can be judged, and every step from a hex that is reached
    with some budget left, with that budget. -/
theorem exists_search_iff {quest : Quest} {t : Terrain} (on : quest.On t)
    (hcost : ∀ p, Grid.inBounds p t.radius = true → p ≠ t.start → t.barred p = false →
      0 ≤ t.cost p) :
    (∃ s, search quest = .ok s) ↔
      ∀ p b q, t.Settles p b → q ∈ Search.targets quest p → ∃ v, quest.enter q b = .ok v := by
  constructor
  · rintro ⟨s, hs⟩ p b q hp hq
    exact Search.exists_enter_of_ok on hs hp hq
  · intro hjudged
    obtain ⟨log, last, hleads, hends⟩ := Search.exists_leads_search quest
    cases hsearch : search quest with
    | ok s => exact ⟨s, rfl⟩
    | error e =>
      rw [hsearch] at hends
      cases hends with
      | @fails s p q remaining toTry e tried =>
        obtain ⟨hsettles, htargets⟩ := Search.settles_of_leaving on hcost hleads
        obtain ⟨v, henter⟩ := hjudged p remaining q hsettles (htargets q List.mem_cons_self)
        rcases Outcome.bind_eq_error_iff.1 tried with hfails | ⟨v', -, hmeet⟩
        · rw [henter] at hfails
          cases hfails
        · cases hmeet

end HexRules.Movement
