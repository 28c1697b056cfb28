import LeaderRouting.Proofs.Submission.Flight
import LeaderRouting.Proofs.Submission.Routing
import LeaderRouting.Proofs.Tracker.Coherence
import Mathlib.Data.List.Pairwise

/-!
What is on record about the moments at which things happen, the ends of calls, the closes of
connections, and the requests that are in flight.
-/

namespace LeaderRouting.Gateway

/-- Whether the fact is that the call was answered or given up. -/
def Fact.ends (c : CallId) : Fact → Bool
  | .answered d _ | .abandoned d => d = c
  | _ => false

/-- What a call has in hand: a snapshot only if it is there to send a request, and once that is in
flight, the request that it handed over, and no other. -/
structure Carries (g : Gateway) (k : Call) : Prop where
  plain : k.task.submission? = none → k.phase.snapshot? = none
  flight : ∀ f, k.phase = .inFlight f → ∃ m r,
    g.dealings k.id = [.submitted k.id f.snapshot.connection m r] ∧ r.id = f.request

variable {g g₁ g' : Gateway} {a : Action} {c : CallId} {k : Call} {e : Entry} {f : Fact} {p : Phase}
  {n : Nat} {m m' : Member} {t t' : Nat} {env : Surroundings}

/-! ### Moments -/

theorem UpToAnswer.exists_news (h : UpToAnswer c (Turn c g) g') :
    ∃ news, g'.journal = g.journal ++ news ∧ ∀ e ∈ news, e.time = g.now := by
  rcases h with h | ⟨g₁, answer, h, rfl⟩
  · obtain ⟨news, hn, ht⟩ := h.journal
    exact ⟨news, hn, fun e he => (ht e he).1⟩
  · obtain ⟨news, hn, ht⟩ := h.journal
    refine ⟨_, by rw [journal_finish, hn, List.append_assoc, List.append_assoc], fun e he => ?_⟩
    rcases List.mem_append.1 he with he | he
    · exact (ht e he).1
    · rcases List.mem_append.1 he with he | he
      · obtain ⟨line, -, rfl⟩ := by simpa using he
        exact h.now
      · obtain rfl := List.mem_singleton.1 he
        exact h.now

theorem Course.exists_news (h : Course g a g₁) :
    ∃ news, g₁.journal = g.journal ++ news ∧ ∀ e ∈ news, e.time = g₁.now := by
  cases h with
  | start => exact ⟨_, rfl, fun e he => by obtain rfl := List.mem_singleton.1 he; rfl⟩
  | abandon => exact ⟨_, rfl, fun e he => by obtain rfl := List.mem_singleton.1 he; rfl⟩
  | @run c k env hk hr =>
    have hturn := turn_proceed env hk hr
    obtain ⟨news, hn, ht⟩ := hturn.exists_news
    exact ⟨news, hn, fun e he => (ht e he).trans hturn.now.symm⟩
  | around => exact ⟨[], (List.append_nil _).symm, by simp⟩
  | advance => exact ⟨[], (List.append_nil _).symm, by simp⟩

/-- What a step adds to the journal, what is let go included, it adds at the moment to which it
comes. -/
theorem Course.exists_news_release (h : Course g a g₁) :
    ∃ news, g₁.release.journal = g.journal ++ news ∧ ∀ e ∈ news, e.time = g₁.release.now := by
  obtain ⟨news, hn, ht⟩ := h.exists_news
  obtain ⟨g₂, hturn, -, hnow, hj⟩ := exists_turn_release g₁ 0
  obtain ⟨late, hl, htl⟩ := UpToAnswer.exists_news (.inl hturn)
  refine ⟨news ++ late, by rw [hl, hj, hn, List.append_assoc], fun e he => ?_⟩
  rw [now_release]
  rcases List.mem_append.1 he with he | he
  · exact ht e he
  · exact (htl e he).trans hnow

/-- What has happened stays on record. -/
theorem Course.facts_subset (h : Course g a g₁) : g.facts ⊆ g₁.release.facts := by
  obtain ⟨news, hn, -⟩ := h.exists_news_release
  simp only [facts, hn, List.map_append]
  exact List.subset_append_left _ _

/-- Nothing on record is still to come. -/
theorem time_le_now (hg : g.Reachable) (he : e ∈ g.journal) : e.time ≤ g.now := by
  refine Reachable.induction_of_reachable (P := fun g => ∀ e ∈ g.journal, e.time ≤ g.now) ?_ ?_ hg
    e he
  · simp [create]
  · intro a g g₁ _ _ ih hc e he
    obtain ⟨news, hn, ht⟩ := hc.exists_news_release
    rw [hn] at he
    rcases List.mem_append.1 he with he | he
    · exact Nat.le_trans (ih e he) (now_release g₁ ▸ hc.now_le)
    · exact Nat.le_of_eq (ht e he)

/-! ### Callers -/

/-- Whatever the journal says of a call, the call has been started. -/
theorem exists_call?_of_fact (hg : g.Reachable) (hf : f ∈ g.facts) (hc : f.caller? = some c) :
    ∃ k, g.call? c = some k := by
  refine Reachable.induction (P := fun g => ∀ f ∈ g.facts, ∀ c, f.caller? = some c →
    ∃ k, g.call? c = some k) ?_ ?_ hg f hf c hc
  · simp [create, facts]
  intro g g₁ ih ht f hf c hc
  have hknown : ∃ k, g₁.call? c = some k := by
    have hf₁ : f ∈ g₁.facts :=
      ((notes_release (Q := fun f => f.caller? = none) (fun _ => rfl) (fun _ _ => rfl) g₁).facts
        hf).resolve_right (by simp [hc])
    cases outline_of_transition ht with
    | @start k hn =>
      rw [facts_enrol, List.mem_append, List.mem_singleton] at hf₁
      rw [call?_enrol]
      rcases hf₁ with hf₁ | rfl
      · obtain ⟨k', hk'⟩ := ih f hf₁ c hc
        exact ⟨k', by rw [hk', Option.some_or]⟩
      · obtain rfl := Option.some.inj hc
        exact ⟨k, by rw [hn, Option.none_or, if_pos rfl]⟩
    | around => exact ih f hf₁ c hc
    | @abandon d k hk =>
      rw [facts_giveUp, List.mem_append, List.mem_singleton] at hf₁
      have hk' : ∃ k, g.call? c = some k := by
        rcases hf₁ with hf₁ | rfl
        · exact ih f hf₁ c hc
        · exact ⟨k, Option.some.inj hc ▸ hk⟩
      obtain ⟨k', hk'⟩ := hk'
      rw [call?_giveUp, hk']
      split_ifs <;> exact ⟨_, rfl⟩
    | @turn d k _ hk _ hturn =>
      obtain ⟨news, hn, hnews⟩ := hturn.facts
      rw [hn, List.mem_append] at hf₁
      have hk' : ∃ k, g.call? c = some k := by
        rcases hf₁ with hf₁ | hf₁
        · exact ih f hf₁ c hc
        · rcases hnews f hf₁ with hd | ⟨answer, rfl⟩
          · exact ⟨k, caller?_of_duringTurn hd hc ▸ hk⟩
          · exact ⟨k, Option.some.inj hc ▸ hk⟩
      obtain ⟨k', hk'⟩ := hk'
      obtain ⟨k₁, hk₁, -⟩ := hturn.exists_call? hk'
      exact ⟨k₁, hk₁⟩
  obtain ⟨k, hk⟩ := hknown
  rcases call?_release g₁ c with he | he <;> rw [he, hk] <;> exact ⟨_, rfl⟩

/-! ### Ends -/

/-- No turn gives a call up. -/
theorem UpToAnswer.not_abandoned (h : UpToAnswer c (Turn c g) g') (hk : g.call? c = some k)
    (hu : k.phase.ended = false) {task : Task} : g'.standing? c ≠ some (task, .abandoned) := by
  intro hs
  rcases h with h | ⟨g₁, answer, -, rfl⟩
  · obtain ⟨k', hk', he⟩ := Option.map_eq_some_iff.1 hs
    have hp : k'.phase.ended = true := by
      cases hp : k'.phase <;> simp_all [Phase.standing, Phase.ended]
    have hended := h.unended (by simp [hasEnded, hk', hp])
    simp [hasEnded, hk, hu] at hended
  · rw [standing?_finish, if_pos rfl] at hs
    obtain ⟨r, -, he⟩ := Option.map_eq_some_iff.1 hs
    simp at he

/-- A call that was given up is one that the journal says was given up. -/
theorem abandoned_iff (hg : g.Reachable) :
    .abandoned c ∈ g.facts ↔ ∃ task, g.standing? c = some (task, .abandoned) := by
  refine Reachable.induction (P := fun g => .abandoned c ∈ g.facts ↔
    ∃ task, g.standing? c = some (task, .abandoned)) ?_ ?_ hg
  · simp [create, facts, standing?, call?]
  intro g g₁ ih ht
  have hrelease : .abandoned c ∈ g₁.release.facts ↔ .abandoned c ∈ g₁.facts := by
    have hnotes : Notes (· ≠ .abandoned c) g₁ g₁.release :=
      notes_release (by simp) (by simp) g₁
    exact ⟨fun hf => (hnotes.facts hf).resolve_right (by simp),
      fun hf => (facts_prefix_release g₁).subset hf⟩
  rw [hrelease, (keeps_release g₁).standing]
  cases outline_of_transition ht with
  | @start k hn hp =>
    rw [facts_enrol, standing?_enrol hn]
    split_ifs with he
    · obtain rfl := he
      have hfacts : .abandoned k.id ∉ g.facts := by
        rw [ih]
        simp [standing?, hn]
      simp [hfacts, hp, Phase.standing]
    · simp [ih]
  | around => exact ih
  | @abandon d k hk =>
    rw [facts_giveUp, standing?_giveUp]
    split_ifs with he
    · obtain rfl := he
      simp [standing?_of_call? hk]
    · simp [ih, he]
  | @turn d k _ hk hu hturn =>
    obtain ⟨news, hn, hnews⟩ := hturn.facts
    have hsilent : .abandoned c ∉ news := by
      intro hf
      rcases hnews _ hf with hf | ⟨answer, hf⟩
      · exact hf
      · simp at hf
    rw [hn, List.mem_append, or_iff_left hsilent, ih]
    by_cases he : c = d
    · obtain rfl := he
      have hbefore : ∀ task, g.standing? c ≠ some (task, .abandoned) := by
        intro task hs
        rw [standing?_of_call? hk] at hs
        cases hp : k.phase <;> simp_all [Phase.standing, Phase.ended]
      have hafter : ∀ task, g₁.standing? c ≠ some (task, .abandoned) :=
        fun task hs => hturn.not_abandoned hk hu hs
      constructor
      · rintro ⟨task, hs⟩
        exact absurd hs (hbefore task)
      · rintro ⟨task, hs⟩
        exact absurd hs (hafter task)
    · rw [hturn.standing? he]

/-- A call has ended just if its end is on record. -/
theorem ended_iff (hg : g.Reachable) (hk : g.call? c = some k) :
    k.phase.ended = true ↔ ∃ e ∈ g.journal, e.fact.ends c = true := by
  have hanswered := (serialized_of_reachable hg).answered c
  have habandoned := abandoned_iff (c := c) hg
  rw [standing?_of_call? hk] at habandoned
  simp only [standing?_of_call? hk] at hanswered
  constructor
  · intro hu
    have hf : ∃ f ∈ g.facts, f.ends c = true := by
      cases hp : k.phase with
      | finished answer =>
        have hm := (hanswered answer).2 ⟨k.task, by rw [hp]; rfl⟩
        exact ⟨_, (List.mem_filter.1 hm).1, by simp [Fact.ends]⟩
      | abandoned => exact ⟨_, habandoned.2 ⟨k.task, by rw [hp]; rfl⟩, by simp [Fact.ends]⟩
      | _ => simp [hp, Phase.ended] at hu
    obtain ⟨f, hf, hends⟩ := hf
    obtain ⟨e, he, rfl⟩ := List.mem_map.1 hf
    exact ⟨e, he, hends⟩
  · rintro ⟨e, he, hends⟩
    have hmem : e.fact ∈ g.facts := List.mem_map_of_mem he
    cases hf : e.fact with
    | answered d answer =>
      obtain rfl : d = c := by simpa [hf, Fact.ends] using hends
      have hp := (serialized_of_reachable hg).finished_of_answered hk (hf ▸ hmem)
      rw [hp]
      rfl
    | abandoned d =>
      obtain rfl : d = c := by simpa [hf, Fact.ends] using hends
      obtain ⟨task, hs⟩ := habandoned.1 (hf ▸ hmem)
      cases hp : k.phase <;> simp_all [Phase.standing, Phase.ended]
    | _ => simp [hf, Fact.ends] at hends

/-! ### Requests in flight -/

/-- Whether a call, if it is known, has no snapshot in hand. -/
def IsBare (g : Gateway) (c : CallId) : Prop :=
  ∀ k, g.call? c = some k → k.phase.snapshot? = none

theorem isBare_setPhase (c : CallId) (hp : p.snapshot? = none) : (g.setPhase c p).IsBare c := by
  intro k hk
  rw [call?_setPhase_self] at hk
  obtain ⟨k₀, -, rfl⟩ := Option.map_eq_some_iff.1 hk
  exact hp

theorem isBare_finish (c : CallId) (answer : Answer) : (g.finish c answer).IsBare c := by
  intro k hk
  rw [call?_finish, if_pos rfl] at hk
  obtain ⟨k₀, -, rfl⟩ := Option.map_eq_some_iff.1 hk
  rfl

theorem isBare_concludeUpdate (k : Call) (r : Except TransportError Verdict) :
    (g.concludeUpdate k r).IsBare k.id := by
  rw [concludeUpdate_eq]
  exact isBare_finish (g := { g with lock := g.lock.release }) k.id _

theorem isBare_found (hs : k.task.submission? = none) (s : Snapshot) : (g.found k s).IsBare k.id := by
  unfold found
  rw [hs]
  exact isBare_finish k.id _

theorem isBare_begin (hs : k.task.submission? = none) : (g.begin k).IsBare k.id := by
  have hlock : ∀ (g : Gateway) u, (g.requestLock k u).IsBare k.id := fun g u =>
    isBare_setPhase (g := { g with lock := g.lock.request k.id }) k.id rfl
  have hwait : (g.beginWait k).IsBare k.id := by
    unfold beginWait
    split
    · exact isBare_found hs _
    · exact isBare_finish k.id _
    · exact isBare_setPhase k.id rfl
  unfold begin
  split
  · unfold beginNotice
    dsimp only
    split
    · exact hlock _ _
    · exact isBare_finish k.id _
    · exact isBare_finish k.id _
  · exact hlock g .shutdown
  all_goals exact hwait

/-- A call that sends no request gets no snapshot in hand, whatever it does. -/
theorem isBare_proceed (env : Surroundings) (hk : g.call? k.id = some k)
    (hs : k.task.submission? = none) (hp : k.phase.snapshot? = none) :
    (g.proceed env k).IsBare k.id := by
  have hstays : g.IsBare k.id := by
    intro k' hk'
    obtain rfl := Option.some.inj (hk.symm.trans hk')
    exact hp
  unfold proceed
  split
  · exact isBare_begin hs
  · dsimp only
    split
    · unfold consider
      split
      · exact isBare_concludeUpdate k _
      · exact isBare_concludeUpdate k _
      · exact isBare_concludeUpdate k _
      · exact isBare_setPhase k.id rfl
    · unfold shutDown
      split_ifs
      · exact isBare_concludeUpdate k _
      · exact isBare_concludeUpdate k _
  · unfold completeOpen
    dsimp only
    split
    · exact isBare_concludeUpdate k _
    · exact isBare_concludeUpdate k _
  · unfold look
    split
    · exact isBare_found hs _
    · exact isBare_finish k.id _
    · exact isBare_setPhase k.id rfl
  · unfold check
    split_ifs
    · exact isBare_setPhase k.id rfl
    · exact isBare_finish k.id _
    · exact isBare_setPhase k.id rfl
  · unfold wakeUp
    split_ifs
    · exact isBare_setPhase k.id rfl
    · split
      · exact hstays
      · exact isBare_finish k.id _
  next s hsending => simp [hsending, Phase.snapshot?] at hp
  next a hadmitted => simp [hadmitted, Phase.snapshot?] at hp
  next f hflight => simp [hflight, Phase.snapshot?] at hp
  · exact hstays
  · exact hstays

/-- Whoever has a snapshot in hand is there to send a request. -/
theorem Carries.sends (h : g.Carries k) (hp : k.phase.snapshot?.isSome = true) :
    k.task.submission?.isSome = true := by
  by_contra hs
  have hnone := h.plain (by simpa using hs)
  simp [hnone] at hp

theorem Carries.wake (h : g.Carries k) : g.Carries k.wake where
  plain hs := (Phase.snapshot?_wake k.phase).trans (h.plain hs)
  flight f hf := by
    refine h.flight f ?_
    cases hp : k.phase <;> simp_all [Call.wake, Phase.wake]

/-- What is in flight after a step is what the step has handed over. -/
theorem Carries.proceed (h : g.Carries k) (hd : g.Disciplined) (hacc : g.Accounted)
    (hk : g.call? k.id = some k) (hu : k.phase.ended = false) (env : Surroundings) {k' : Call}
    (hk' : (g.proceed env k).call? k.id = some k') (htask : k'.task = k.task) :
    (g.proceed env k).Carries k' := by
  have hid := id_of_call? hk'
  cases hs : k.task.submission? with
  | none =>
    have hbare := isBare_proceed env hk hs (h.plain hs) k' hk'
    refine ⟨fun _ => hbare, fun f hf => ?_⟩
    rw [hf] at hbare
    simp [Phase.snapshot?] at hbare
  | some sub =>
    refine ⟨fun hs' => ?_, fun f hf => ?_⟩
    · rw [htask, hs] at hs'
      simp at hs'
    · obtain ⟨p, fs, hleg, hcomes⟩ := takes_proceed env hk hs (hd.free_of_submission hk hs) hu
      have hp := hcomes.phase k' hk'
      rw [hf] at hp
      subst hp
      have hbefore := hacc.known k.id k hk (by rw [hs]; rfl)
      rw [hid, hcomes.dealings]
      generalize k.phase = before at hleg hbefore
      cases hleg with
      | seek _ after => simp [Phase.seeks] at after
      | @handOver a =>
        refine ⟨a.member, a.request, ?_, rfl⟩
        rw [hbefore.eq_nil (by simp) rfl, List.nil_append]
        exact List.filter_eq_self.2 (by simp [Fact.ofRequest])

theorem Carries.congr (h : g.Carries k) (hd : g'.dealings k.id = g.dealings k.id) :
    g'.Carries k :=
  ⟨h.plain, fun f hf => hd ▸ h.flight f hf⟩

theorem carries_of_bare (hp : k.phase.snapshot? = none) : g.Carries k :=
  ⟨fun _ => hp, fun f hf => by simp [hf, Phase.snapshot?] at hp⟩

/-- What an action has made of a call: it has just begun, was given up or has taken its turn, or it is as
it was, but that it may have been woken. -/
theorem Course.call?_cases (hc : Course g a g₁) (hk : g₁.call? c = some k) :
    (k.phase = .created ∨ k.phase = .abandoned) ∨
      (∃ env k₀, g.call? c = some k₀ ∧ g.canRun k₀ = true ∧ g₁ = g.proceed env k₀) ∨
      ∃ k₀, g.call? c = some k₀ ∧ (k = k₀ ∨ k = k₀.wake) ∧ g₁.dealings c = g.dealings c := by
  cases hc with
  | start =>
    rw [call?_enrol, Option.or_eq_some_iff] at hk
    rcases hk with hk | ⟨-, hk⟩
    · exact .inr (.inr ⟨k, hk, .inl rfl, dealings_enrol g _ c⟩)
    · obtain rfl := Option.some.inj (Option.ite_none_right_eq_some.1 hk).2
      exact .inl (.inl rfl)
  | @abandon d =>
    rw [call?_giveUp] at hk
    split_ifs at hk
    · obtain ⟨k₀, -, rfl⟩ := Option.map_eq_some_iff.1 hk
      exact .inl (.inr rfl)
    · exact .inr (.inr ⟨k, hk, .inl rfl, dealings_giveUp g d c⟩)
  | @run d k₀ env hk₀ hr =>
    have hturn := turn_proceed env hk₀ hr
    by_cases he : c = d
    · subst he
      exact .inr (.inl ⟨env, k₀, hk₀, hr, rfl⟩)
    · have hdealings := hturn.dealings he
      rcases hturn.others he with hsame | hwoken
      · exact .inr (.inr ⟨k, hsame ▸ hk, .inl rfl, hdealings⟩)
      · obtain ⟨k₁, hk₁, rfl⟩ := Option.map_eq_some_iff.1 (hwoken.symm.trans hk)
        exact .inr (.inr ⟨k₁, hk₁, .inr rfl, hdealings⟩)
  | around => exact .inr (.inr ⟨k, hk, .inl rfl, rfl⟩)
  | advance => exact .inr (.inr ⟨k, hk, .inl rfl, rfl⟩)

theorem carries_of_reachable (hg : g.Reachable) (hk : g.call? c = some k) : g.Carries k := by
  refine Reachable.induction_of_reachable (P := fun g => ∀ c k, g.call? c = some k → g.Carries k)
    ?_ ?_ hg c k hk
  · simp [create, call?]
  intro a g g₁ hg _ ih hc c k hk
  have hstep : ∀ k, g₁.call? c = some k → g₁.Carries k := by
    intro k hk
    obtain rfl := id_of_call? hk
    rcases hc.call?_cases hk with hp | ⟨env, k₀, hk₀, hr, rfl⟩ | ⟨k₀, hk₀, hk₁, hdealings⟩
    · exact carries_of_bare (by rcases hp with hp | hp <;> simp [hp, Phase.snapshot?])
    · have hid := id_of_call? hk₀
      rw [← hid] at hk₀ hk
      exact (ih k₀.id k₀ hk₀).proceed (serialized_of_reachable hg).toDisciplined
        (accounted_of_reachable hg) hk₀ (ended_of_canRun hr) env hk
        ((turn_proceed env hk₀ hr).task hk₀ hk)
    · rcases hk₁ with rfl | rfl
      · exact (ih k.id k hk₀).congr hdealings
      · exact (ih k₀.id k₀ hk₀).wake.congr hdealings
  rcases call?_release g₁ c with he | he <;> rw [hk] at he
  · exact (hstep k he.symm).congr (dealings_release g₁ k.id)
  · obtain ⟨k₁, hk₁, rfl⟩ := Option.map_eq_some_iff.1 he.symm
    exact (hstep k₁ hk₁).wake.congr (dealings_release g₁ k₁.id)

/-! ### Closes -/

/-- Every connection is as it was when it was opened, or all closed. -/
theorem Serialized.open_or_released (h : g.Serialized) {x : Connection}
    (hx : g.connections[n]? = some x) : x = ⟨x.member, false, false, 0⟩ ∨ x.IsReleased := by
  have hcoherent := Serial.coherent_replay g.completed
  rcases h.serial with he | ⟨-, he⟩
  · have hconnections : g.connections = (Serial.replay g.completed).connections :=
      congrArg Serial.connections he
    rw [hconnections] at hx
    by_cases hc : ∃ s, (Serial.replay g.completed).writer.current = some s ∧ s.connection = n
    · obtain ⟨s, hs, rfl⟩ := hc
      obtain rfl := Option.some.inj (hx.symm.trans (hcoherent.current s hs).2)
      exact .inl rfl
    · exact .inr (hcoherent.others n x hx fun s hs hn => hc ⟨s, hs, hn⟩)
  · have hconnections : g.connections = (Serial.replay g.completed).letGo.connections :=
      congrArg Serial.connections he
    exact .inr (hcoherent.isReleased_letGo (hconnections ▸ hx))

/-- The close of a connection is on record just if it is closed. -/
theorem Serialized.isReleased_iff (h : g.Serialized) {x : Connection}
    (hx : g.connections[n]? = some x) : x.IsReleased ↔ ∃ m, .closed n m ∈ g.facts := by
  have hcount : x.releases = (turnovers g.facts).count (.closed n) :=
    turnovers_trace g ▸ h.counted n x hx
  rw [← closed_mem_turnovers_iff, ← List.count_pos_iff, ← hcount]
  rcases h.open_or_released hx with he | hreleased
  · rw [he]
    simp [Connection.IsReleased]
  · exact iff_of_true hreleased (hreleased.2.2 ▸ Nat.one_pos)

theorem Serialized.isRetired_of_closed (h : g.Serialized) (hm : .closed n m ∈ g.facts) :
    g.isRetired n = true := by
  unfold isRetired connection?
  cases hx : g.connections[n]? with
  | none => rfl
  | some x => exact ((h.isReleased_iff hx).2 ⟨m, hm⟩).2.1

/-- Every connection is closed at one moment at most. -/
theorem closed_unique (hg : g.Reachable) (hm : ⟨t, .closed n m⟩ ∈ g.journal)
    (hm' : ⟨t', .closed n m'⟩ ∈ g.journal) : t = t' := by
  have honce := (serialized_of_reachable hg).nodup_turnovers
  unfold turnovers facts at honce
  rw [List.filterMap_map, List.Nodup, List.pairwise_filterMap] at honce
  have hsymm : Std.Symm fun e e' : Entry => ∀ x, (Fact.turnover? ∘ Entry.fact) e = some x →
      ∀ x', (Fact.turnover? ∘ Entry.fact) e' = some x' → x ≠ x' :=
    ⟨fun e e' h x hx x' hx' => (h x' hx' x hx).symm⟩
  by_contra ht
  exact honce.forall hm hm' (by simp [ht]) (.closed n) rfl (.closed n) rfl rfl

/-! ### One request at most -/

/-- A call has one request let in at most. -/
theorem admitted_unique (hg : g.Reachable) (hk : g.call? c = some k)
    (hs : k.task.submission?.isSome = true) {r r' : Request} {n' : Nat}
    (hm : .admitted c n m r ∈ g.facts) (hm' : .admitted c n' m' r' ∈ g.facts) :
    n = n' ∧ r = r' := by
  obtain ⟨sub, hsub, herrand⟩ := exists_errand hg hk hs
  obtain rfl := id_of_call? hk
  have honce := herrand.admissions_le_one (accounted_of_reachable hg) hk hsub
  unfold admissions at honce
  rw [List.countP_eq_length_filter] at honce
  have hmem : ∀ f ∈ g.facts, f.isAdmitted k.id = true →
      f ∈ g.facts.filter (Fact.isAdmitted k.id) := fun f hf hp => List.mem_filter.2 ⟨hf, hp⟩
  have h₁ := hmem _ hm (by simp [Fact.isAdmitted])
  have h₂ := hmem _ hm' (by simp [Fact.isAdmitted])
  generalize g.facts.filter (Fact.isAdmitted k.id) = fs at honce h₁ h₂
  obtain ⟨f, hf⟩ : ∃ f, ∀ f' ∈ fs, f' = f := by
    rcases fs with _ | ⟨f, _ | ⟨f', fs⟩⟩
    · simp at h₁
    · exact ⟨f, by simp⟩
    · simp at honce
  have he := (hf _ h₁).trans (hf _ h₂).symm
  simp only [Fact.admitted.injEq] at he
  exact ⟨he.2.1, he.2.2.2⟩

/-- What is handed over was let in before. -/
theorem admitted_of_submitted (hg : g.Reachable) (hk : g.call? c = some k)
    (hs : k.task.submission?.isSome = true) {r : Request} (hm : .submitted c n m r ∈ g.facts) :
    .admitted c n m r ∈ g.facts := by
  obtain ⟨_, -, herrand⟩ := exists_errand hg hk hs
  obtain ⟨sent, rest, hfacts⟩ := List.append_of_mem hm
  have hsent : sent ++ [.submitted c n m r] <+: g.facts := ⟨rest, by simp [hfacts]⟩
  obtain ⟨look, between, rfl, -⟩ := herrand.handed sent _ hsent n m r rfl
  exact hsent.subset (by simp)

end LeaderRouting.Gateway
