import LeaderRouting.Proofs.Submission.Superseding
import LeaderRouting.Proofs.Waiting.Outcome

/-!
When a call hands its request over.  One that begins while there is a leader does so in its first
steps, and once only, unless the leader's connection is closed or the gateway is shut down meanwhile.
-/

namespace LeaderRouting.Gateway

/-- Why a call that had a leader to go to has handed nothing over. -/
inductive Missed (g : Gateway) (c : CallId) (task : Task) : Answer → Prop
  | shut (published : .published .closed ∈ g.facts) : Missed g c task (task.failed .closed)
  /-- The connection was closed to the leader that the call had found. -/
  | gone {s : Snapshot} {m : Member} {id : RequestId} {cause : SubmitFailure}
      (found : SeenSince c s g.facts) (closed : .closed s.connection m ∈ g.facts)
      (told : cause = .transport .disconnected ∨ cause = .superseded) :
      Missed g c task (task.failed (.submissionFailed id cause))

/-- What has become after some actions of the request of a call that began while there was a leader;
`asks` says which operation the request is to name, and which arguments it is to have. -/
inductive HandedOver (g : Gateway) (c : CallId) (task : Task) (asks : String → List Argument → Prop)
    (actions : List Action) : Prop
  /-- Nothing keeps the call from going on. -/
  | underway {k : Call} (known : g.call? c = some k) (able : g.canRun k = true)
      (unsent : submissions c g.facts = 0)
  | once {n : Nat} {m : Member} {r : Request}
      (handed : g.facts.filter (Fact.isSubmitted c) = [.submitted c n m r])
      (asked : asks r.operation r.arguments)
  | missed {k : Call} {answer : Answer} (known : g.call? c = some k)
      (ended : k.phase = .finished answer) (why : g.Missed c task answer)
      (unsent : submissions c g.facts = 0)
  | givenUp (asked : .abandon c ∈ actions) (unsent : submissions c g.facts = 0)

/-- How a call may stand that began while there was a leader. -/
inductive Led (g : Gateway) (c : CallId) (task : Task) (actions : List Action) : Phase → Prop
  | created : Led g c task actions .created
  | sending (s : Snapshot) : Led g c task actions (.sending s)
  | admitted (a : Admission) : Led g c task actions (.admitted a)
  | inFlight (f : InFlight) : Led g c task actions (.inFlight f)
  | abandoned (asked : .abandon c ∈ actions) : Led g c task actions .abandoned
  | finished {answer : Answer} (why : submissions c g.facts = 0 → g.Missed c task answer) :
      Led g c task actions (.finished answer)

variable {g g₁ g' : Gateway} {a : Action} {actions : List Action} {c : CallId} {k : Call} {n : Nat}
  {env : Surroundings} {task : Task} {s : Snapshot} {sub : Submission} {p : Phase} {es : List Entry}
  {news : List Fact} {answer : Answer}

/-! ### The steps by which a request is let in and handed over -/

theorem dealings_handOver (g : Gateway) (env : Surroundings) (k : Call) (a : Admission) :
    (g.handOver env k a).dealings k.id =
      g.dealings k.id ++ [.submitted k.id a.snapshot.connection a.member a.request] := by
  have hentered := dealings_enter g k.id (.submitted k.id a.snapshot.connection a.member a.request)
  rwa [if_pos (by simp [Fact.ofRequest])] at hentered

/-- A call that enters a fact and goes on is where it goes. -/
theorem stands_enter_setPhase {f : Fact} (hk : g.call? k.id = some k) (hn : g.answersTo k.id = [])
    (hf : f.DuringTurnOf k.id) (p : Phase) :
    ((g.enter f).setPhase k.id p).Stands k.id k.task p [] := by
  refine ⟨⟨{ k with phase := p }, ?_, rfl, rfl⟩, ?_⟩
  · rw [call?_setPhase_self, show (g.enter f).call? k.id = some k from hk]
    rfl
  · have hturn : Turn k.id g (g.enter f) := turn_enter hf
    exact (hturn.answersTo k.id).trans hn

theorem stands_enrol {handle : Handle} {seen : Nat} (hf : g.call? c = none) :
    (g.enrol ⟨c, task, handle, seen, .created⟩).Stands c task .created
      ((g.enrol ⟨c, task, handle, seen, .created⟩).answersTo c) :=
  ⟨⟨_, by rw [call?_enrol, hf, Option.none_or, if_pos rfl], rfl, rfl⟩, rfl⟩

theorem Serialized.exists_connection (h : g.Serialized) (hs : .published (.elected s) ∈ g.facts) :
    ∃ x, g.connections[s.connection]? = some x ∧ x.member = s.leader.member := by
  have hr := h.recorded hs
  rw [List.getElem?_map] at hr
  obtain ⟨x, hx, hm⟩ := Option.map_eq_some_iff.1 hr
  exact ⟨x, hx, hm⟩

theorem Serialized.exists_closed (h : g.Serialized) {x : Connection}
    (hx : g.connections[n]? = some x) (hc : x.closed = true) : ∃ m, .closed n m ∈ g.facts := by
  refine (h.isReleased_iff hx).1 ((h.open_or_released hx).resolve_left fun he => ?_)
  rw [he] at hc
  cases hc

theorem dealings_send_of_closed {x : Connection} (hp : k.phase = .sending s)
    (hx : g.connections[s.connection]? = some x) (hc : x.closed = true) (env : Surroundings)
    (sub : Submission) (d : CallId) : (g.send env k s sub).dealings d = g.dealings d := by
  rw [send_of_closed hp hx hc sub]
  split_ifs
  · simp [supersede, fail]
  · obtain ⟨line, he⟩ := conclude_eq (g.log (.requestSent sub.operation env.requestId s.leader)) k s
      env.requestId (.error .disconnected)
    simp [he]

/-- A call that has found its leader looks at the connection next, which lets the request in unless it
is closed. -/
theorem Reachable.looks (hg : g.Reachable) (hk : g.call? k.id = some k)
    (hs : k.task.submission? = some sub) (hp : k.phase = .sending s) (env : Surroundings) :
    ((∃ x, g.connections[s.connection]? = some x ∧ x.closed = false) ∧
      (g.proceed env k).Stands k.id k.task
        (.admitted ⟨s, s.leader.member, sub.request env⟩) []) ∨
    ((∃ m, .closed s.connection m ∈ g.facts) ∧ (g.proceed env k).dealings k.id = [] ∧
      ∃ cause, (cause = .transport .disconnected ∨ cause = .superseded) ∧
        (g.proceed env k).Told k.id k.task (.submissionFailed env.requestId cause) g.now) := by
  have hser := serialized_of_reachable hg
  have hu : k.phase.ended = false := by rw [hp]; rfl
  have hnone := hser.toDisciplined.answersTo_eq_nil hk hu
  have hunsent : g.dealings k.id = [] :=
    ((accounted_of_reachable hg).known k.id k hk (by rw [hs]; rfl)).eq_nil (by simp [hp]) hu
  have hseen : SeenSince k.id s g.facts :=
    ((underwayAt_of_reachable hg k.id).known k sub hk hs).sighted s hp
  obtain ⟨start, moment, -, hmoment, hv⟩ := hseen
  obtain ⟨x, hx, hm⟩ := hser.exists_connection (hmoment.subset (published_of_shown hv))
  have hproceed : g.proceed env k = g.send env k s sub := by
    unfold proceed
    simp only [hp, hs]
  cases hc : x.closed with
  | false =>
    refine .inl ⟨⟨x, hx, hc⟩, ?_⟩
    rw [hproceed, send_of_open hx hc env k sub, hm]
    unfold letIn
    exact stands_enter_setPhase (g := g.log _) hk ((answersTo_log _ _ _).trans hnone)
      (by simp [Fact.DuringTurnOf]) _
  | true =>
    refine .inr ⟨hser.exists_closed hx hc, ?_, ?_⟩
    · rw [hproceed, dealings_send_of_closed hp hx hc, hunsent]
    · cases hcut : g.isCut env k with
      | true => exact ⟨_, .inr rfl, told_of_isCut_sending hser.toDisciplined hk hs hp hcut⟩
      | false => exact ⟨_, .inl rfl, told_of_refused hser.toDisciplined hk hs hp hx hc hcut⟩

/-- A call that was let in hands its request over next. -/
theorem Reachable.handsOver {a : Admission} (hg : g.Reachable) (hk : g.call? k.id = some k)
    (hs : k.task.submission? = some sub) (hp : k.phase = .admitted a) (env : Surroundings) :
    (g.proceed env k).dealings k.id =
        [.submitted k.id a.snapshot.connection a.member a.request] ∧
      (g.proceed env k).Stands k.id k.task (.inFlight (g.flight env a)) [] := by
  have hu : k.phase.ended = false := by rw [hp]; rfl
  have hnone := (serialized_of_reachable hg).toDisciplined.answersTo_eq_nil hk hu
  have hunsent : g.dealings k.id = [] :=
    ((accounted_of_reachable hg).known k.id k hk (by rw [hs]; rfl)).eq_nil (by simp [hp]) hu
  have hproceed : g.proceed env k = g.handOver env k a := by
    unfold proceed
    rw [hp]
  refine ⟨by rw [hproceed, dealings_handOver, hunsent, List.nil_append], ?_⟩
  rw [hproceed]
  unfold handOver
  exact stands_enter_setPhase hk hnone (by simp [Fact.DuringTurnOf]) _

/-! ### A call in whose first steps nothing comes in between -/

/-- A call that begins when there is a leader goes on with it. -/
theorem Reachable.finds (hg : g.Reachable) (hk : g.call? c = some k)
    (hs : k.task.submission? = some sub) (hp : k.phase = .created)
    (hv : g.channel.value = .elected s) (env : Surroundings) :
    ∃ g₁ k₁, g.step? (.run c env) = some g₁ ∧ g₁.call? c = some k₁ ∧
      k₁.task.submission? = some sub ∧ k₁.phase = .sending s ∧ g₁.channel.value = .elected s := by
  have hser := serialized_of_reachable hg
  have hr : g.canRun k = true := by simp [canRun, hp]
  have ht := Task.concernsTracker_of_submission? (Option.isSome_of_eq_some hs)
  obtain ⟨k₁, hk₁, -, hp₁⟩ := (vigilantAt_of_reachable hg c).prompt hser hk ht hp hv env
  rw [hs, Option.isSome_some, if_pos rfl] at hp₁
  have htask : k₁.task = k.task := by
    obtain ⟨k₂, hk₂, htask⟩ := (turn_proceed env hk hr).exists_call? hk
    rw [Option.some.inj (hk₁.symm.trans hk₂), htask]
  obtain ⟨k₂, hk₂, htask₂, hp₂⟩ := exists_call?_release hk₁
  have hkept : Alike (· == c) g (g.proceed env k) := by
    refine Course.alike (a := .run c env) hser.toDisciplined (.run hk hr) rfl (by simp) ?_
    intro k' hk'
    rwa [Option.some.inj (hk'.symm.trans hk₁), htask]
  refine ⟨(g.proceed env k).release, k₂, by simp [step?, act?, runCall?, hk, hr], hk₂, ?_, ?_, ?_⟩
  · rw [htask₂, htask, hs]
  · rcases hp₂ with he | he <;> rw [he, hp₁]
    rfl
  · rw [(value_release _).1, hkept.channel, hv]

/-- A call that goes to a leader that is still there is let in. -/
theorem Reachable.enters (hg : g.Reachable) (hk : g.call? c = some k)
    (hs : k.task.submission? = some sub) (hp : k.phase = .sending s)
    (hv : g.channel.value = .elected s) (env : Surroundings) :
    ∃ g₁ k₁, g.step? (.run c env) = some g₁ ∧ g₁.call? c = some k₁ ∧
      k₁.task.submission? = some sub ∧
      k₁.phase = .admitted ⟨s, s.leader.member, sub.request env⟩ := by
  obtain rfl := id_of_call? hk
  have hr : g.canRun k = true := by simp [canRun, hp]
  rcases hg.looks hk hs hp env with ⟨-, hstands⟩ | ⟨⟨m, hclosed⟩, -⟩
  · obtain ⟨k₁, hk₁, htask, hp₁⟩ := (hstands.release rfl).call
    exact ⟨_, k₁, by simp [step?, act?, runCall?, hk, hr], hk₁, htask ▸ hs, hp₁⟩
  · have hser := serialized_of_reachable hg
    have hopen := hser.connection_of_elected (hasSubscriber_of_call hk (ended_of_canRun hr)) hv
    exact absurd hclosed (hser.not_closed hopen rfl m)

/-- A call that begins while there is a leader hands its request over in its first three steps, if
nothing comes in between. -/
theorem exists_dealings_of_start {handle : Handle} {seen : Nat} (hg : g.Reachable)
    (hv : g.channel.value = .elected s) (hh : handle ∈ g.handles) (hf : g.call? c = none)
    (hseen : seen ≤ g.channel.version) (hs : task.submission? = some sub)
    (env env' env'' : Surroundings) :
    ∃ g', g.run? [.start c handle task seen, .run c env, .run c env', .run c env''] = some g' ∧
      g'.dealings c = [.submitted c s.connection s.leader.member (sub.request env')] := by
  have ht := Task.concernsTracker_of_submission? (Option.isSome_of_eq_some hs)
  have hstep : g.step? (.start c handle task seen) =
      some (g.enrol ⟨c, task, handle, seen, .created⟩).release := by
    simp [step?, act?, start?, hh, ht, hf, hseen, enrol]
  have hstands : (g.enrol ⟨c, task, handle, seen, .created⟩).Stands c task .created _ :=
    stands_enrol hf
  obtain ⟨k, hk, rfl, hp⟩ := (hstands.release rfl).call
  obtain ⟨g₁, k₁, hstep₁, hk₁, hs₁, hp₁, hv₁⟩ :=
    (hg.step hstep).finds hk hs hp ((value_release _).1.trans hv) env
  have hg₁ := (hg.step hstep).step hstep₁
  obtain ⟨g₂, k₂, hstep₂, hk₂, hs₂, hp₂⟩ := hg₁.enters hk₁ hs₁ hp₁ hv₁ env'
  obtain rfl := id_of_call? hk₂
  have hr₂ : g₂.canRun k₂ = true := by simp [canRun, hp₂]
  refine ⟨(g₂.proceed env'' k₂).release, ?_, ?_⟩
  · have hstep₃ : g₂.step? (.run k₂.id env'') = some (g₂.proceed env'' k₂).release := by
      simp [step?, act?, runCall?, hk₂, hr₂]
    simp [run?, hstep, hstep₁, hstep₂, hstep₃]
  · rw [dealings_release]
    exact ((hg₁.step hstep₂).handsOver hk₂ hs₂ hp₂ env'').1

/-! ### Calls that begin while there is a leader -/

theorem Missed.append (h : g.Missed c task answer) (hn : g'.facts = g.facts ++ news) :
    g'.Missed c task answer := by
  have hsub : g.facts ⊆ g'.facts := hn ▸ List.subset_append_left _ _
  cases h with
  | shut hp => exact .shut (hsub hp)
  | gone hf hc ht => exact .gone (hn ▸ hf.append news) (hsub hc) ht

theorem Led.append (h : g.Led c task actions p) (hn : g'.facts = g.facts ++ news) :
    g'.Led c task actions p := by
  cases h with
  | created => exact .created
  | sending s => exact .sending s
  | admitted a => exact .admitted a
  | inFlight f => exact .inFlight f
  | abandoned ha => exact .abandoned ha
  | finished why =>
    refine .finished fun hz => (why ?_).append hn
    rw [hn, submissions_append] at hz
    omega

/-- Once a leader was published, there is one to see or the gateway is shut down. -/
theorem Serialized.ne_notElected (h : g.Serialized) (hs : .published (.elected s) ∈ g.facts) :
    g.channel.value ≠ .notElected := by
  intro hv
  have hmem := published_mem_iff.1 hs
  rw [h.publications_eq_nil hv] at hmem
  exact List.not_mem_nil hmem

/-- A call that has not looked yet finds a leader, or the gateway shut down. -/
theorem Reachable.seeks_led (hg : g.Reachable) (hpub : .published (.elected s) ∈ g.facts)
    (hk : g.call? k.id = some k) (hs : k.task.submission? = some sub) (hp : k.phase = .created)
    (env : Surroundings) : ∃ p es, (g.proceed env k).Stands k.id k.task p es ∧
      ((∃ s, p = .sending s) ∨
        .published .closed ∈ g.facts ∧ p = .finished (k.task.failed .closed)) := by
  have hser := serialized_of_reachable hg
  have ht := Task.concernsTracker_of_submission? (Option.isSome_of_eq_some hs)
  have hr : g.canRun k = true := by simp [canRun, hp]
  obtain ⟨p, seen, m, hw, hcall, -⟩ :=
    watches_proceed env hk hr (hser.toDisciplined.free hk ht) ht
  refine ⟨p, _, ⟨⟨_, hcall, rfl, rfl⟩, rfl⟩, ?_⟩
  cases hw with
  | supplied => exact .inl ⟨_, rfl⟩
  | turnedAway _ ho =>
    have hclosed := ho.resolve_right (by simp [hp])
    exact .inr ⟨hser.closed_published hclosed, rfl⟩
  | begun _ hv => exact absurd hv (hser.ne_notElected hpub)
  | led _ _ hn => simp [hs] at hn
  | dozed before => simp [hp] at before
  | past before => simp [hp, Phase.seeks] at before
  | _ => simp_all

/-- A request in flight only comes to its end. -/
theorem Reachable.ends_inFlight {f : InFlight} (hg : g.Reachable) (hk : g.call? k.id = some k)
    (hs : k.task.submission? = some sub) (hp : k.phase = .inFlight f) (hr : g.canRun k = true)
    (env : Surroundings) :
    ∃ answer es, (g.proceed env k).Stands k.id k.task (.finished answer) es := by
  have hfree := (serialized_of_reachable hg).free_of_submission hk hs
  obtain ⟨p, fs, hleg, hcomes⟩ := takes_proceed env hk hs hfree (by rw [hp]; rfl)
  obtain ⟨k₁, hk₁, htask⟩ := (turn_proceed env hk hr).exists_call? hk
  have hstands : (g.proceed env k).Stands k.id k.task p ((g.proceed env k).answersTo k.id) :=
    ⟨⟨k₁, hk₁, htask, hcomes.phase k₁ hk₁⟩, rfl⟩
  rw [hp] at hleg
  cases hleg with
  | seek before => cases before
  | found before => cases before
  | turnedAway before => cases before
  | _ => exact ⟨_, _, hstands⟩

theorem Led.course (h : g.Led c task actions p) (hstands : g.Stands c task p es) (hg : g.Reachable)
    (hpub : .published (.elected s) ∈ g.facts) (hs : task.submission? = some sub) (ha : a ∈ actions)
    (hc : Course g a g₁) :
    ∃ p' es', g₁.release.Stands c task p' es' ∧ g₁.release.Led c task actions p' := by
  obtain ⟨news, hnews, -⟩ := hc.exists_news_release
  have hfacts : g₁.release.facts = g.facts ++ news.map (·.fact) := by simp [facts, hnews]
  have hw : p.wake = p := by cases h <;> rfl
  rcases hstands.course hw hc with hstill | ⟨env, k, hk, hr, rfl⟩ | ⟨rfl, -, hgone⟩
  · exact ⟨p, es, hstill.release hw, h.append hfacts⟩
  · obtain ⟨k', hk', rfl, rfl⟩ := hstands.call
    obtain rfl := Option.some.inj (hk.symm.trans hk')
    obtain rfl := id_of_call? hk
    generalize hp : k.phase = p at h
    cases h with
    | created =>
      obtain ⟨p', es', hstands', hled⟩ := hg.seeks_led hpub hk hs hp env
      rcases hled with ⟨s', rfl⟩ | ⟨hclosed, rfl⟩
      · exact ⟨_, _, hstands'.release rfl, .sending s'⟩
      · have hshut : g.Missed k.id k.task (k.task.failed .closed) := .shut hclosed
        exact ⟨_, _, hstands'.release rfl, .finished fun _ => hshut.append hfacts⟩
    | sending s' =>
      rcases hg.looks hk hs hp env with ⟨-, hadmitted⟩ | ⟨⟨m, hclosed⟩, -, cause, hcause, htold⟩
      · exact ⟨_, _, hadmitted.release rfl, .admitted _⟩
      · have hfound : SeenSince k.id s' g.facts :=
          ((underwayAt_of_reachable hg k.id).known k sub hk hs).sighted s' hp
        have hgone : g.Missed k.id k.task
            (k.task.failed (.submissionFailed env.requestId cause)) := .gone hfound hclosed hcause
        exact ⟨_, _, htold.release rfl, .finished fun _ => hgone.append hfacts⟩
    | admitted a =>
      exact ⟨_, _, (hg.handsOver hk hs hp env).2.release rfl, .inFlight _⟩
    | inFlight f =>
      obtain ⟨answer, es', hended⟩ := hg.ends_inFlight hk hs hp hr env
      refine ⟨_, es', hended.release rfl, .finished fun hz => ?_⟩
      -- What is in flight was handed over.
      rw [hfacts, submissions_append] at hz
      have hunsent := (accounted_of_reachable hg).submissions hk hs (ended_of_canRun hr)
      exact absurd hp (hunsent.1 (Nat.eq_zero_of_add_eq_zero_right hz) f)
    | abandoned => simp [canRun, hp] at hr
    | finished => simp [canRun, hp] at hr
  · exact ⟨_, _, hgone.release rfl, .abandoned ha⟩

/-- What has become of the request of a call that stands so. -/
theorem Led.handedOver {asks : String → List Argument → Prop} (h : g.Led c task actions p)
    (hstands : g.Stands c task p es) (hg : g.Reachable) (hs : task.submission? = some sub)
    (hasks : asks sub.operation sub.arguments) : g.HandedOver c task asks actions := by
  obtain ⟨k, hk, rfl, hp⟩ := hstands.call
  have herrand := (underwayAt_of_reachable hg c).known k sub hk hs
  rcases Nat.eq_zero_or_pos (submissions c g.facts) with hz | hpos
  · cases h with
    | created => exact .underway hk (by simp [canRun, hp]) hz
    | sending s => exact .underway hk (by simp [canRun, hp]) hz
    | admitted a => exact .underway hk (by simp [canRun, hp]) hz
    | inFlight f =>
      have hunsent := (accounted_of_reachable hg).submissions hk hs (by rw [hp]; rfl)
      exact absurd hp (hunsent.1 hz f)
    | abandoned ha => exact .givenUp ha hz
    | finished why => exact .missed hk hp (why hz) hz
  · have hone : submissions c g.facts = 1 := Nat.le_antisymm herrand.once hpos
    unfold submissions at hone
    rw [List.countP_eq_length_filter, List.length_eq_one_iff] at hone
    obtain ⟨f, hf⟩ := hone
    have hmem : f ∈ g.facts.filter (Fact.isSubmitted c) := by simp [hf]
    obtain ⟨hfact, hsubmitted⟩ := List.mem_filter.1 hmem
    cases f with
    | submitted d n m r =>
      obtain rfl : d = c := by simpa [Fact.isSubmitted] using hsubmitted
      obtain ⟨hoperation, harguments⟩ := herrand.carried hfact
      exact .once hf (by rwa [hoperation, harguments])
    | _ => simp [Fact.isSubmitted] at hsubmitted

/-- A call that begins while there is a leader hands its request over, and once only, unless it is
given up, or the leader's connection is closed or the gateway shut down before it comes to that. -/
theorem handedOver_of_start {handle : Handle} {seen : Nat} {asks : String → List Argument → Prop}
    (hg : g.Reachable) (hv : g.channel.value = .elected s) (hs : task.submission? = some sub)
    (hasks : asks sub.operation sub.arguments)
    (hr : g.run? (.start c handle task seen :: actions) = some g') :
    g'.HandedOver c task asks actions := by
  have hg' := hg.run hr
  obtain ⟨g₀, hstep, hr⟩ := Option.bind_eq_some_iff.1 hr
  obtain ⟨x, hc, rfl⟩ := exists_course_of_step? hstep
  have hpub : .published (.elected s) ∈ g.facts :=
    published_of_shown ((serialized_of_reachable hg).value ▸ hv)
  have hled : ∃ p es, x.release.Stands c task p es ∧ x.release.Led c task actions p := by
    cases hc with
    | start hf => exact ⟨_, _, (stands_enrol hf).release rfl, .created⟩
    | around _ hn => cases hn
  have hrun : .published (.elected s) ∈ g'.facts ∧
      ∃ p es, g'.Stands c task p es ∧ g'.Led c task actions p := by
    refine (hg.step hstep).run_induction (P := fun g' => .published (.elected s) ∈ g'.facts ∧
      ∃ p es, g'.Stands c task p es ∧ g'.Led c task actions p) ⟨hc.facts_subset hpub, hled⟩ ?_ hr
    rintro a ha g₁ g₂ hg₁ - ⟨hpub₁, p, es, hstands, hled⟩ hc
    exact ⟨hc.facts_subset hpub₁, hled.course hstands hg₁ hpub₁ hs ha hc⟩
  obtain ⟨-, p, es, hstands, hled⟩ := hrun
  exact hled.handedOver hstands hg' hs hasks

end LeaderRouting.Gateway
