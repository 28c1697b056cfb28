import LeaderRouting.Proofs.Gateway.Pairing
import LeaderRouting.Proofs.Submission.Records

/-!
Calls that submit a request or wait for a leader disturb nobody.  A run from which any of them are left
out is a run too, in which everything else happens as before, at the same moments, as long as something
else keeps the tracker.
-/

namespace LeaderRouting.Gateway

/-- The actions that are left once some calls are neither started nor run nor given up. -/
def without (hidden : CallId → Bool) (actions : List Action) : List Action :=
  actions.filter fun a => !a.caller?.any hidden

def Fact.isLine : Fact → Bool
  | .logged _ => true
  | _ => false

/-- Whether the second state is the first as it would be had some calls never been. -/
structure Undisturbed (hidden : CallId → Bool) (g g' : Gateway) : Prop where
  settings : g'.settings = g.settings
  now : g'.now = g.now
  writer : g'.writer = g.writer
  lock : g'.lock = g.lock
  channel : g'.channel = g.channel
  connections : g'.connections = g.connections
  handles : g'.handles = g.handles
  held : g'.held = g.held
  unknown : ∀ c, hidden c = true → g'.call? c = none
  /-- All other calls are where they were, -/
  calls : ∀ c, hidden c = false → g'.call? c = g.call? c
  /-- and were answered as they were, at the same moments. -/
  answers : ∀ c, hidden c = false → g'.answersTo c = g.answersTo c
  /-- The lock was given to the same calls, the same connections were opened, refused and closed, and
  the same values published, at the same moments and in the same order. -/
  tracker : (g'.journal.filter fun e => e.fact.ofTracker) =
    g.journal.filter fun e => e.fact.ofTracker
  /-- Log lines apart, the journal has lost what is about the calls that are left out, and is as it
  was. -/
  journal : (g'.journal.filter fun e => !e.fact.isLine) =
    g.journal.filter fun e => !e.fact.isLine && !e.fact.caller?.any hidden

variable {hidden : CallId → Bool} {g g' g₁ : Gateway} {a : Action} {c : CallId} {k : Call} {f : Fact}

/-! ### Leaving calls out of a run -/

/-- How a run without some calls stands when the run with them has come to a state. -/
structure Parallel (hidden : CallId → Bool) (g g' : Gateway) : Prop where
  serial : g.Serialized
  serial' : g'.Serialized
  alike : Alike hidden g g'
  settings : g'.settings = g.settings
  unknown : ∀ c, hidden c = true → g'.call? c = none

/-- The calls that are left are those that were not left out. -/
theorem Parallel.calls (h : Parallel hidden g g') :
    g'.calls = g.calls.filter fun k => !hidden k.id := by
  rw [← h.alike.calls, eq_comm, List.filter_eq_self]
  intro k hk
  by_contra hc
  have hnone := h.unknown k.id (by simpa using hc)
  simpa using List.find?_eq_none.1 hnone k hk

/-- Time passes in both, as nothing that is left can keep it from passing which could not before. -/
theorem Parallel.advance? {time : Nat} (h : Parallel hidden g g')
    (hact : g.advance? time = some g₁) :
    ∃ g₁', g'.advance? time = some g₁' ∧ Alike hidden g₁ g₁' := by
  obtain ⟨⟨hlater, hidle, hquiet⟩, rfl⟩ := advance?_eq_some_iff.1 hact
  have hmem : ∀ k ∈ g'.calls, k ∈ g.calls := fun k hk =>
    (List.mem_filter.1 (h.calls ▸ hk)).1
  have hidle' : ∀ k ∈ g'.calls, g'.canRun k = false := fun k hk => by
    rw [h.alike.canRun_of_settings h.settings]
    exact hidle k (hmem k hk)
  exact ⟨_, advance?_eq_some_iff.2 ⟨⟨h.alike.now ▸ hlater, hidle', fun k hk => hquiet k (hmem k hk)⟩,
    rfl⟩, { h.alike with now := rfl }⟩

/-- What is possible for calls that are left, or for none, stays possible. -/
theorem Parallel.act? (h : Parallel hidden g g') (ha : a.caller?.any hidden = false)
    (hact : g.act? a = some g₁) (hk : g.IsSpared hidden) :
    ∃ g₁', g'.act? a = some g₁' ∧ Alike hidden g₁ g₁' := by
  have hother : (∀ time, a ≠ .advance time) → ∃ g₁', g'.act? a = some g₁' ∧ Alike hidden g₁ g₁' := by
    intro ht
    have hlives := h.serial.kept (hk.isKept h.serial.toRooted)
    have hrel := h.alike.act? (fun _ _ _ _ => hlives) ha
      (fun _ env k _ _ => h.alike.isCut h.settings env k) ht
    rw [hact] at hrel
    generalize g'.act? a = o at hrel
    cases hrel with
    | some hrel => exact ⟨_, rfl, hrel⟩
  cases a with
  | advance time => exact h.advance? hact
  | _ => exact hother (by simp)

/-- A step of a call that is left out is no step in the other state; any other is one there too. -/
theorem Parallel.step (h : Parallel hidden g g') (hs : g.step? a = some g₁)
    (hk : g₁.IsSpared hidden)
    (hfree : ∀ c k, hidden c = true → g₁.call? c = some k → k.task.concernsTracker = false) :
    ∃ g₁', g'.run? (without hidden [a]) = some g₁' ∧ Parallel hidden g₁ g₁' := by
  obtain ⟨hspared, hact, hc⟩ := h.serial.spared_step hs hk
  have hser := h.serial.transition hc.transition
  cases ha : a.caller?.any hidden with
  | true =>
    obtain ⟨c, hcaller, hhidden⟩ := (Option.any_eq_true _ _).1 ha
    have hstep : Alike hidden g g₁ :=
      hc.alike h.serial.toDisciplined hcaller hhidden fun k => hfree c k hhidden
    refine ⟨g', by simp [without, ha, run?], hser, h.serial', hstep.symm.trans h.alike,
      h.settings.trans hc.settings.symm, h.unknown⟩
  | false =>
    obtain ⟨g₁', hact', halike⟩ := h.act? ha hact hspared
    have hc' := course_of_act? hact'
    have hs' := h.serial'.step?_of_alike hact' halike hk
    refine ⟨g₁', by simp [without, ha, run?, hs'], hser, h.serial'.transition hc'.transition, halike,
      hc'.settings.trans (h.settings.trans hc.settings.symm), fun c hhidden => ?_⟩
    refine hc'.call?_eq_none (h.unknown c hhidden) fun he => ?_
    simp [he, hhidden] at ha

theorem Parallel.run {actions : List Action} (h : Parallel hidden g g')
    (hr : g.run? actions = some g₁) (hk : g₁.IsSpared hidden)
    (hfree : ∀ c k, hidden c = true → g₁.call? c = some k → k.task.concernsTracker = false) :
    ∃ g₁', g'.run? (without hidden actions) = some g₁' ∧ Parallel hidden g₁ g₁' := by
  induction actions generalizing g g' with
  | nil =>
    obtain rfl := Option.some.inj hr
    exact ⟨g', rfl, h⟩
  | cons a rest ih =>
    obtain ⟨g₂, hs, hr⟩ := Option.bind_eq_some_iff.1 hr
    obtain ⟨g₃, hc, he⟩ := exists_course_of_step? hs
    have hser : g₂.Serialized := he ▸ (h.serial.transition hc.transition).release
    have hfree₂ : ∀ c k, hidden c = true → g₂.call? c = some k →
        k.task.concernsTracker = false := by
      intro c k hhidden hk
      obtain ⟨k₁, hk₁, htask⟩ := exists_call?_of_run hr hk
      exact htask ▸ hfree c k₁ hhidden hk₁
    obtain ⟨g₂', hr₂, h₂⟩ := h.step hs (hser.spared_run hr hk) hfree₂
    obtain ⟨g₁', hr', h₁⟩ := ih h₂ hr
    refine ⟨g₁', ?_, h₁⟩
    have hsplit : without hidden (a :: rest) = without hidden [a] ++ without hidden rest :=
      List.filter_append [a] rest
    rw [hsplit, run?_append, hr₂]
    exact hr'

theorem isSeen_of_answers (hc : hidden c = false) (hf : f.answers c = true) :
    f.isSeen hidden = true := by
  cases f <;> simp_all [Fact.answers, Fact.isSeen, Fact.caller?]

theorem Alike.answersTo (h : Alike hidden g g') (hc : hidden c = false) :
    g'.answersTo c = g.answersTo c :=
  h.journal_filter fun _ hf => isSeen_of_answers hc hf

theorem Parallel.undisturbed (h : Parallel hidden g g') (hg' : g'.Reachable) :
    g.Undisturbed hidden g' where
  settings := h.settings
  now := h.alike.now
  writer := h.alike.writer
  lock := h.alike.lock
  channel := h.alike.channel
  connections := h.alike.connections
  handles := h.alike.handles
  held := h.alike.held
  unknown := h.unknown
  calls c hc := h.alike.call? hc
  answers c hc := h.alike.answersTo hc
  tracker := h.alike.journal_filter fun f hf => by simp [Fact.isSeen, hf]
  journal := by
    have hseen : ∀ f : Fact, (!f.isLine && !f.caller?.any hidden) = true → f.isSeen hidden = true := by
      intro f hf
      cases f <;> simp_all [Fact.isSeen, Fact.isLine, Fact.caller?, Fact.ofTracker]
    rw [← h.alike.journal_filter hseen]
    refine List.filter_congr fun e he => ?_
    -- The calls that are left out are not known, so nothing is noted of them.
    have hnone : e.fact.caller?.any hidden = false := by
      rw [Option.any_eq_false]
      intro c hc
      obtain ⟨k, hk⟩ := exists_call?_of_fact hg' (List.mem_map_of_mem he) hc
      by_contra hhidden
      simp [h.unknown c (by simpa using hhidden)] at hk
    simp [hnone]

/-- To leave calls out of a run that submit a request or wait for a leader leaves a run in which all
else is as it was, as long as a handle is left that keeps the tracker, or one of the other calls has
such a handle. -/
theorem undisturbed_of_run {settings : Settings} {handles : List Handle} {actions : List Action}
    (hr : (create settings handles).run? actions = some g)
    (hfree : ∀ k ∈ g.calls, hidden k.id = true → k.task.concernsTracker = false)
    (hk : g.IsSpared hidden) :
    ∃ g', (create settings handles).run? (without hidden actions) = some g' ∧
      g.Undisturbed hidden g' := by
  have hstart : Parallel hidden (create settings handles) (create settings handles) :=
    ⟨serialized_create settings handles, serialized_create settings handles, .refl _, rfl,
      fun _ _ => rfl⟩
  obtain ⟨g', hr', hp⟩ := hstart.run hr hk fun c k hc hk =>
    hfree k (mem_of_call? hk) (id_of_call? hk ▸ hc)
  exact ⟨g', hr', hp.undisturbed ⟨settings, handles, _, hr'⟩⟩

/-- A wait and two requests, one of which is given up while it is in flight. -/
def crowded : List Action :=
  let env := { Surroundings.replying ⟨some 5, .connection .disconnected⟩ with closedFirst := true }
  undertake 0 .gateway (.wait none) env 3 ++ elect 1 .gateway ⟨.numbered "a" 1, ⟨1⟩⟩ env ++
    List.replicate 3 (.run 0 env) ++ ask 2 .gateway env 1 ++
    ask 3 .gateway env 2 ++
    [.run 2 env, .run 3 env, .run 2 env, .abandon 2, .advance 5, .run 3 env]

/-- Whether this is the wait, or the request that is given up. -/
def isCrowding (c : CallId) : Bool :=
  c = 0 || c = 2

theorem undisturbed_of_crowded :
    let settings := .ofOptions { cancelInFlightOnSwap := some true }
    ∃ g, (create settings [.gateway]).run? crowded = some g ∧
      (g.answersTo 0).map (·.time) = [0] ∧ (g.answersTo 3).map (·.time) = [5] ∧
      ∃ g', (create settings [.gateway]).run? (without isCrowding crowded) = some g' ∧
        g.Undisturbed isCrowding g' := by
  exact ⟨_, rfl, rfl, rfl, undisturbed_of_run rfl (by decide) (.inl rfl)⟩

end LeaderRouting.Gateway
