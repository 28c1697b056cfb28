import LeaderRouting.Proofs.Submission.Superseding

/-!
How a request ends that was handed over, whether or not it is cancelled with its connection.  Its
answer, and the moment at which this is there, are settled when the request is handed over; only the
close of the connection, where it is cancelled with that, and its caller can make it end otherwise.
-/

namespace LeaderRouting.Gateway

/-- Whether the call was told that its request was superseded, and this at the moment at which the
connection was closed over which it went. -/
structure Cut (g : Gateway) (c : CallId) (task : Task) (n : Nat) (request : RequestId) (due : Nat) :
    Prop where
  cancels : g.settings.cancelInFlightOnSwap = true
  told : ∃ t m, t ≤ due ∧ ⟨t, .closed n m⟩ ∈ g.journal ∧
    g.Told c task (.submissionFailed request .superseded) t

/-- Whether the call waits for the moment at which an answer is there that is settled for it. -/
structure Pending (g : Gateway) (c : CallId) (task : Task) (n : Nat) (request : RequestId) (due : Nat)
    (answer : Answer) : Prop where
  flight : ∃ f, g.Stands c task (.inFlight f) [] ∧ f.snapshot.connection = n ∧ f.request = request ∧
    f.due = due ∧ f.answer task g.settings.submitTimeout = answer
  early : g.now ≤ due
  /-- Before that moment it goes on only to be cut. -/
  before : ∀ env g', g.now < due → g.step? (.run c env) = some g' → g'.Cut c task n request due
  /-- At that moment its next step ends it. -/
  ends : ∀ env, g.now = due → ∃ g', g.step? (.run c env) = some g' ∧
    (g'.Stands c task (.finished answer) [⟨due, .answered c answer⟩] ∨ g'.Cut c task n request due)
  /-- Time does not stop before. -/
  clock : (∀ k ∈ g.calls, g.canRun k = false) →
    g.now < due ∧ (g.step? (.advance (g.now + 1))).isSome = true

/-- What has become after some actions of a request for which an answer is settled. -/
inductive Returns (g : Gateway) (c : CallId) (task : Task) (n : Nat) (request : RequestId) (due : Nat)
    (answer : Answer) (actions : List Action) : Prop
  | pending (pending : g.Pending c task n request due answer)
  | landed (landed : g.Landed c task due answer)
  | cut (cut : g.Cut c task n request due)
  | givenUp (asked : .abandon c ∈ actions) (gone : g.Stands c task .abandoned [])

variable {g g₁ g' : Gateway} {a : Action} {actions : List Action} {c : CallId} {k : Call} {n due : Nat}
  {env : Surroundings} {task : Task} {f : InFlight} {request : RequestId} {answer : Answer}

/-! ### The next step of a request in flight -/

theorem isCut_of_inFlight (hp : k.phase = .inFlight f) (env : Surroundings) :
    g.isCut env k = (g.isSuperseded f &&
      (env.closedFirst || !(g.isDue f.repliedAt || g.isDue (some f.deadline)))) := by
  unfold isCut
  rw [hp]

/-- A request in flight goes on since its moment has come, or to be cut. -/
theorem due_le_or_isCut (hp : k.phase = .inFlight f) (hr : g.canRun k = true) (env : Surroundings) :
    f.due ≤ g.now ∨ g.isCut env k = true := by
  unfold canRun at hr
  simp only [hp, Bool.or_eq_true] at hr
  rw [isCut_of_inFlight hp, ← isDue_or_isDue_iff, Bool.or_eq_true]
  cases hdue : g.isDue f.repliedAt || g.isDue (some f.deadline) with
  | true => exact .inl (Bool.or_eq_true _ _ ▸ hdue)
  | false =>
    rw [← Bool.or_eq_true, hdue] at hr
    simp [hr.resolve_left Bool.false_ne_true]

/-- A request is cut at the moment at which the connection is closed over which it went. -/
theorem Stands.cut (h : g.Stands c task (.inFlight f) []) (hg : g.Reachable)
    (hk : g.call? c = some k) (hcut : g.isCut env k = true) (hearly : g.now ≤ f.due) :
    (g.proceed env k).release.Cut c task f.snapshot.connection f.request f.due := by
  obtain ⟨⟨k', hk', rfl, hp⟩, -⟩ := h
  obtain rfl := Option.some.inj (hk.symm.trans hk')
  obtain rfl := id_of_call? hk
  have hcourse : Course g (.run k.id env) (g.proceed env k) := .run hk (canRun_of_isCut hcut)
  have hcancel : g.settings.cancelInFlightOnSwap = true := by
    rw [isCut_of_inFlight hp] at hcut
    simp only [isSuperseded, Bool.and_eq_true] at hcut
    exact hcut.1.1
  obtain ⟨m', hclosed⟩ := closed_now_of_isCut hg hcancel hk hp hcut
  have htold := told_of_isCut_inFlight (serialized_of_reachable hg).toDisciplined hk hp hcut
  obtain ⟨news, hn, -⟩ := hcourse.exists_news_release
  exact {
    cancels := by rw [settings_release, hcourse.settings, hcancel]
    told := ⟨g.now, m', hearly, hn ▸ List.mem_append_left _ hclosed, htold.release rfl⟩ }

theorem Cut.course (h : g.Cut c task n request due) (hc : Course g a g₁) :
    g₁.release.Cut c task n request due := by
  obtain ⟨t, m, ht, hm, htold⟩ := h.told
  obtain ⟨news, hn, -⟩ := hc.exists_news_release
  refine ⟨?_, t, m, ht, hn ▸ List.mem_append_left _ hm, ?_⟩
  · rw [settings_release, hc.settings, h.cancels]
  · exact (htold.course_of_ended rfl hc).release rfl

/-- A request in flight waits for what is settled for it. -/
theorem Stands.pending (h : g.Stands c task (.inFlight f) []) (hg : g.Reachable)
    (hearly : g.now ≤ f.due) : g.Pending c task f.snapshot.connection f.request f.due
      (f.answer task g.settings.submitTimeout) := by
  obtain ⟨k, hk, ht, hp⟩ := h.call
  refine ⟨⟨f, h, rfl, rfl, rfl, rfl⟩, hearly, fun env g' hlt hs => ?_, fun env hnow => ?_,
    fun hidle => ⟨?_, isSome_advance hidle⟩⟩
  · simp only [step?, act?, runCall?, hk, Option.map_eq_some_iff, Option.ite_none_right_eq_some,
      Option.some.injEq] at hs
    obtain ⟨_, ⟨hr, rfl⟩, rfl⟩ := hs
    have hcut := (due_le_or_isCut hp hr env).resolve_left (Nat.not_le.2 hlt)
    exact h.cut hg hk hcut hearly
  · have hr : g.canRun k = true := by
      have hdue := isDue_or_isDue_iff.2 (Nat.le_of_eq hnow.symm)
      unfold canRun
      simp only [hp, hdue, Bool.true_or]
    refine ⟨(g.proceed env k).release, by simp [step?, act?, runCall?, hk, hr], ?_⟩
    cases hcut : g.isCut env k with
    | true => exact .inr (h.cut hg hk hcut hearly)
    | false => exact .inl ((h.land hnow hk (isCut_of_inFlight hp env ▸ hcut)).release rfl)
  · exact now_lt_timer (hidle k (mem_of_call? hk)) (timer?_of_inFlight hp)

/-! ### What a run does to a request in flight -/

/-- What a step does to a request in flight.  It is cut only once its connection is closed. -/
theorem Pending.course (h : g.Pending c task n request due answer) (hg : g.Reachable)
    (hg₁ : g₁.release.Reachable) (hc : Course g a g₁) :
    g₁.release.Pending c task n request due answer ∨ g₁.release.Landed c task due answer ∨
      g.isRetired n = true ∧ g₁.release.Cut c task n request due ∨
      a = .abandon c ∧ g₁.release.Stands c task .abandoned [] := by
  obtain ⟨f, hflight, rfl, rfl, rfl, rfl⟩ := h.flight
  have hearly := h.early
  obtain ⟨k, hk, ht, hp⟩ := hflight.call
  have hearly₁ := hc.now_le_timer hk (timer?_of_inFlight hp) hearly
  rcases hflight.course rfl hc with h | ⟨env, k', hk', hr, rfl⟩ | ⟨rfl, -, hgone⟩
  · have hstill := (h.release rfl).pending hg₁ (now_release g₁ ▸ hearly₁)
    rw [settings_release, hc.settings] at hstill
    exact .inl hstill
  · obtain rfl := Option.some.inj (hk.symm.trans hk')
    cases hcut : g.isCut env k with
    | true =>
      have hretired : g.isRetired f.snapshot.connection = true := by
        rw [isCut_of_inFlight hp] at hcut
        simp only [isSuperseded, Bool.and_eq_true] at hcut
        exact hcut.1.2
      exact .inr (.inr (.inl ⟨hretired, hflight.cut hg hk hcut hearly⟩))
    | false =>
      have hdue := (due_le_or_isCut hp hr env).resolve_right (by rw [hcut]; simp)
      have hnow : g.now = f.due := Nat.le_antisymm hearly hdue
      refine .inr (.inl ⟨?_, now_release (g.proceed env k) ▸ Nat.le_trans hdue hc.now_le⟩)
      exact (hflight.land hnow hk (isCut_of_inFlight hp env ▸ hcut)).release rfl
  · exact .inr (.inr (.inr ⟨rfl, hgone.release rfl⟩))

theorem Landed.course (h : g.Landed c task due answer) (hc : Course g a g₁) :
    g₁.release.Landed c task due answer :=
  ⟨(h.ended.course_of_ended rfl hc).release rfl,
    now_release g₁ ▸ Nat.le_trans h.late hc.now_le⟩

theorem Returns.course (h : g.Returns c task n request due answer actions) (hg : g.Reachable)
    (hg₁ : g₁.release.Reachable) (ha : a ∈ actions) (hc : Course g a g₁) :
    g₁.release.Returns c task n request due answer actions := by
  cases h with
  | landed hlanded => exact .landed (hlanded.course hc)
  | cut hcut => exact .cut (hcut.course hc)
  | givenUp hasked hgone => exact .givenUp hasked ((hgone.course_of_ended rfl hc).release rfl)
  | pending hpending =>
    rcases hpending.course hg hg₁ hc with h | h | ⟨-, h⟩ | ⟨rfl, h⟩
    · exact .pending h
    · exact .landed h
    · exact .cut h
    · exact .givenUp ha h

/-- No request is in flight beyond the moment at which its answer is there. -/
theorem Reachable.now_le_due (hg : g.Reachable) (hk : g.call? c = some k) (hp : k.phase = .inFlight f) :
    g.now ≤ f.due := by
  refine Reachable.induction_of_reachable (P := fun g => ∀ k, g.call? c = some k →
    k.phase = .inFlight f → g.now ≤ f.due) ?_ ?_ hg k hk hp
  · simp [create, call?]
  clear! g k
  intro a g g₁ hg hg₁ ih hc k hk hp
  obtain ⟨k₁, hk₁, htask, hphase⟩ := exists_call?_of_release hk
  have hp₁ : k₁.phase = .inFlight f := by
    rw [hp] at hphase
    cases hq : k₁.phase <;> simp_all [Phase.wake]
  rw [now_release]
  rcases hc.call?_cases hk₁ with (he | he) | ⟨env, k₀, hk₀, hr, rfl⟩ | ⟨k₀, hk₀, he, -⟩
  · simp [hp₁] at he
  · simp [hp₁] at he
  · -- The request was handed over just now.
    obtain rfl := id_of_call? hk₀
    have hs : k₀.task.submission?.isSome = true := by
      rw [← (turn_proceed env hk₀ hr).task hk₀ hk₁, ← htask]
      exact (carries_of_reachable hg₁ hk).sends (by rw [hp]; rfl)
    obtain ⟨sub, hs⟩ := Option.isSome_iff_exists.1 hs
    have hfree := (serialized_of_reachable hg).free_of_submission hk₀ hs
    obtain ⟨p, fs, hleg, hcomes⟩ := takes_proceed env hk₀ hs hfree (ended_of_canRun hr)
    obtain rfl := (hcomes.phase k₁ hk₁).symm.trans hp₁
    generalize k₀.phase = p at hleg
    rw [(turn_proceed env hk₀ hr).now]
    cases hleg with
    | seek _ after => cases after
    | handOver =>
      rw [due_flight]
      exact Nat.le_add_right _ _
  · have hp₀ : k₀.phase = .inFlight f := by
      rcases he with rfl | rfl
      · exact hp₁
      · cases hq : k₀.phase <;> simp_all [Call.wake, Phase.wake]
    exact hc.now_le_timer hk₀ (timer?_of_inFlight hp₀) (ih k₀ hk₀ hp₀)

/-- When a request is handed over, it is settled how it ends unless it is cut or given up. -/
theorem returns_of_handOver (hg : g.Reachable) (hk : g.call? c = some k)
    (hs : k.task.submission?.isSome = true) (hstep : g.step? (.run c env) = some g₁) {m : Member}
    {r : Request} (handed : g₁.dealings c = g.dealings c ++ [.submitted c n m r])
    (hr : g₁.run? actions = some g') :
    g'.Returns c k.task n r.id (g.now + (env.reply m r).wait g.settings.submitTimeout)
      ((env.reply m r).answer k.task r.id g.settings.submitTimeout) actions := by
  obtain ⟨sub, hsub⟩ := Option.isSome_iff_exists.1 hs
  obtain ⟨hset, hnow, s, rfl, hstands⟩ :=
    stands_of_handOver (serialized_of_reachable hg).toDisciplined hk hsub hstep handed
  have hg₁ := hg.step hstep
  have hearly : g₁.now ≤ (g.flight env ⟨s, m, r⟩).due := by
    rw [due_flight, hnow]
    exact Nat.le_add_right _ _
  have hpending := hstands.pending hg₁ hearly
  rw [due_flight, hset, answer_flight] at hpending
  refine hg₁.run_induction (P := fun g' => g'.Returns c k.task s.connection r.id _ _ actions)
    (.pending hpending) ?_ hr
  exact fun a ha _ _ hg hg₁ h hc => h.course hg hg₁ ha hc

end LeaderRouting.Gateway
