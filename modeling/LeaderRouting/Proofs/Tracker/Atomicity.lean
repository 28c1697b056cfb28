import LeaderRouting.Proofs.Tracker.Trace

/-!
Every step of a gateway does nothing to the tracked leader or carries out one whole operation.  A call
that holds the lock while its connection opens has changed nothing yet.
-/

namespace LeaderRouting

/-- What the writer decides about a candidate is what becomes of its announcement. -/
theorem Serial.elect_eq (t : Serial) (c : CallId) (l : Leader) (refusal : Option TransportError) :
    t.elect c l refusal =
      match t.writer.decide l, refusal with
      | .dropped, _ => (t, .ok .closed)
      | .ignored, _ => (t, .ok .stale)
      | .renew s, _ => (t.install (s.renew l.term), .ok .termRefreshed)
      | .connect, some e => (t.note (.refused c l.member e), .error e)
      | .connect, none => (t.connect c l, .ok .newLeader) := by
  unfold elect Writer.decide
  split_ifs with hc hl
  · rfl
  · rfl
  · cases hs : t.writer.current with
    | none => cases refusal <;> simp
    | some s =>
      by_cases hm : s.leader.member = l.member
      · have hr : s.renew l.term = ⟨l, s.connection⟩ := by simp [Snapshot.renew, hm]
        simp [Option.filter, hm, hr]
      · cases refusal <;> simp [Option.filter, hm]

/-- Why an operation that came to this failed, if it did. -/
def refusalOf : Except TransportError Verdict → Option TransportError
  | .error e => some e
  | .ok _ => none

theorem Serial.perform_elect (t : Serial) (c : CallId) (task : Gateway.Task) (l : Leader)
    (refusal : Option TransportError) :
    t.perform ⟨c, task, .elect l, refusal⟩ = t.elect c l refusal :=
  rfl

namespace Gateway

/-- Whether a step carries out one operation, while there is a tracker.  The operation is on record
with the refusal that its caller is told of. -/
structure Completes (g : Gateway) (op : Operation) (g' : Gateway) : Prop where
  live : g.channel.abandoned = false
  tracked : g'.tracked = g.tracked.apply op
  completed : g'.completed = g.completed ++ [op]
  refusal : op.refusal = refusalOf (g.tracked.perform op).2

/-- Whether a step does nothing to the tracked leader and carries out no operation. -/
def Stays (g g' : Gateway) : Prop :=
  g'.tracked = g.tracked ∧ g'.completed = g.completed

/-- What a step does to the tracked leader: nothing, or one operation. -/
def Advances (g g' : Gateway) : Prop :=
  g.Stays g' ∨ ∃ op, g.Completes op g'

variable {g g₁ g' : Gateway} {c d : CallId} {k : Call} {task : Task} {st : Standing}
  {news : List Fact}

theorem tracked_congr (hw : g'.writer = g.writer) (hv : g'.channel.value = g.channel.value)
    (hk : g'.connections = g.connections) (ht : g'.trace = g.trace) : g'.tracked = g.tracked := by
  unfold tracked
  rw [hw, hv, hk, ht]

/-- Only calls that have ended with an answer were refused a connection. -/
theorem Disciplined.refusal?_eq_none (h : g.Disciplined) (hs : g.standing? c = some (task, st))
    (hf : ∀ a, st ≠ .finished a) : g.refusal? c = none := by
  rw [refusal?_eq, List.findSome?_eq_none_iff]
  intro f hm
  cases f with
  | refused d m e =>
    simp only [Fact.refusal?, ite_eq_right_iff, reduceCtorEq, imp_false]
    rintro rfl
    obtain ⟨task', a, ha⟩ := h.refused d m e hm
    rw [hs] at ha
    exact hf a (Prod.mk.inj (Option.some.inj ha)).2
  | _ => rfl

theorem operation?_eq_none (hs : g.standing? c = some (task, st)) (hf : ∀ a, st ≠ .finished a) :
    g.operation? c = none := by
  rw [operation?_eq, hs]
  cases st with
  | finished a => exact absurd rfl (hf a)
  | _ => simp [Standing.answer?]

/-! ### The end of an operation -/

theorem refusal?_depart (hv : Serving g c news g₁) (a : Answer) (d : CallId) :
    (g₁.depart c a).refusal? d = (g.refusal? d).or (news.findSome? (Fact.refusal? d)) := by
  rw [refusal?_eq, refusal?_eq, callFacts_depart, hv.callFacts, List.findSome?_append,
    List.findSome?_append]
  simp [Fact.refusal?]

theorem completed_depart (h : g.Disciplined) (hs : g.standing? c = some (task, st))
    (hf : ∀ a, st ≠ .finished a) {u : Update} (hu : task.update? = some u)
    (hv : Serving g c news g₁) (a : Answer) : (g₁.depart c a).completed =
      g.completed ++ [⟨c, task, u, news.findSome? (Fact.refusal? c)⟩] := by
  -- The call was served last, so its operation comes after those of all others.
  have hothers : ∀ d ∈ g.served.filter (· ≠ c),
      (g₁.depart c a).operation? d = g.operation? d := by
    intro d hd
    have hd : d ≠ c := by simpa using (List.mem_filter.1 hd).2
    refine operation?_congr ?_ ?_
    · rw [standing?_depart, if_neg hd, hv.standing]
    · have hn : news.findSome? (Fact.refusal? d) = none := by
        refine List.findSome?_eq_none_iff.2 fun f hf => ?_
        rcases hv.own f hf with rfl | ⟨m, e, rfl⟩
        · rfl
        · simp [Fact.refusal?, Ne.symm hd]
      rw [refusal?_depart hv, hn]
      simp
  have hself : (g₁.depart c a).operation? c =
      some ⟨c, task, u, news.findSome? (Fact.refusal? c)⟩ := by
    rw [operation?_eq, standing?_depart, if_pos rfl, hv.standing, hs, refusal?_depart hv,
      h.refusal?_eq_none hs hf]
    simp [hu, Standing.answer?]
  have hearlier : (g.served.filter (· ≠ c)).filterMap g.operation? = g.completed := by
    unfold completed
    rw [List.filterMap_filter]
    refine List.filterMap_congr fun d _ => ?_
    split_ifs with hd
    · rfl
    · obtain rfl : d = c := by simpa using hd
      rw [operation?_eq_none hs hf]
  rw [completed, served_depart, hv.served, List.filterMap_append, List.filterMap_congr hothers,
    hearlier]
  simp [hself]

theorem tracked_depart (hv : Serving g c news g₁) (a : Answer) :
    (g₁.depart c a).tracked = g₁.tracked.note (.answered c a) := by
  have hc : c ∈ g₁.served := by simp [hv.served]
  exact (tracked_finish _ c a).trans (if_pos hc)

/-- The holder of the lock ends, and its whole operation is done. -/
theorem Disciplined.completes_conclude (h : g.Disciplined) (hk : g.call? k.id = some k)
    (hc : k.phase.contends = true) (hl : g.lock.holder = some k.id)
    (ha : g.channel.abandoned = false) {u : Update} (hu : k.task.update? = some u)
    (hv : Serving g k.id news g₁) {r : Except TransportError Verdict}
    (hr : (g₁.concludeUpdate k r).Rooted) {refusal : Option TransportError}
    (hn : news.findSome? (Fact.refusal? k.id) = refusal)
    (ht : g.tracked.perform ⟨k.id, k.task, u, refusal⟩ = (g₁.tracked, r))
    (he : refusal = refusalOf r) :
    (g₁.concludeUpdate k r).Disciplined ∧
      g.Completes ⟨k.id, k.task, u, refusal⟩ (g₁.concludeUpdate k r) := by
  have hs := standing?_of_call? hk
  have hst : k.phase.standing.contends = true := by rwa [Phase.contends_standing]
  have hf : ∀ a, k.phase.standing ≠ .finished a := by
    intro a he
    simp [he, Standing.contends] at hst
  rw [concludeUpdate_eq] at hr ⊢
  refine ⟨h.conclude hs hst hl hv hr, ha, (tracked_depart hv _).trans ?_, ?_, ?_⟩
  · simp [Serial.apply, Serial.answer, ht]
  · rw [completed_depart h hs hf hu hv, hn]
  · rw [ht]
    exact he

/-! ### Operations -/

/-- A call that is served completes nothing before it ends. -/
theorem Disciplined.completed_await (h : g.Disciplined) {u : Update}
    (hs : g.standing? c = some (task, .queued u)) (line : LogLine) (l : Leader)
    (openedAt : Option Nat) : (g.await c line l openedAt).completed = g.completed := by
  have hself : (g.await c line l openedAt).operation? c = none :=
    operation?_eq_none ((standing?_await hs line l openedAt c).trans (if_pos rfl)) (by simp)
  have hothers : ∀ d ∈ g.served, (g.await c line l openedAt).operation? d = g.operation? d := by
    intro d hd
    have hd : d ≠ c := fun he => h.not_served hs rfl (he ▸ hd)
    refine operation?_congr ?_ ?_
    · rw [standing?_await hs, if_neg hd]
    · rw [refusal?_eq, refusal?_eq, callFacts_await, List.findSome?_append]
      simp [Fact.refusal?]
  rw [completed, served_await, List.filterMap_append, List.filterMap_congr hothers]
  simp [hself, completed]

theorem Disciplined.tracked_locked (h : g.Disciplined) (hs : g.standing? c = some (task, st))
    (hf : ∀ a, st ≠ .finished a) : (g.enter (.locked c)).tracked = g.tracked := by
  refine Gateway.tracked_locked fun a ha => ?_
  obtain ⟨task', hst⟩ := (h.answered c a).1 (List.mem_filter.2 ⟨ha, rfl⟩)
  rw [hs] at hst
  exact hf a (Prod.mk.inj (Option.some.inj hst)).2

/-- A candidate is turned down or renews the term at once. -/
theorem Disciplined.completes_consider (h : g.Disciplined) (env : Surroundings) {l : Leader}
    (hk : g.call? k.id = some k) (hp : k.phase = .queued (.elect l))
    (hl : g.lock.holder = some k.id) (hd : g.writer.decide l ≠ .connect)
    (hr : ((g.enter (.locked k.id)).consider env k l).Rooted) :
    ((g.enter (.locked k.id)).consider env k l).Disciplined ∧
      g.Completes ⟨k.id, k.task, .elect l, none⟩ ((g.enter (.locked k.id)).consider env k l) := by
  have hs : g.standing? k.id = some (k.task, .queued (.elect l)) := standing?_of_phase hk hp
  have hc : k.phase.contends = true := by rw [hp]; rfl
  have hu : k.task.update? = some (.elect l) := h.queued _ _ _ hs
  have ha : g.channel.abandoned = false := h.abandoned_of_call hk (by rw [hp]; rfl) hu
  have hv := h.serving_locked hs
  have ht : (g.enter (.locked k.id)).tracked = g.tracked := h.tracked_locked hs (by simp)
  unfold consider at hr ⊢
  have hw : (g.enter (.locked k.id)).writer = g.tracked.writer := rfl
  rw [hw] at hr ⊢
  split at hr
  next hd =>
    refine h.completes_conclude hk hc hl ha hu (hv.keeps (keeps_log _)) hr rfl ?_ rfl
    rw [tracked_log, ht, Serial.perform_elect, Serial.elect_eq, hd]
  next hd =>
    refine h.completes_conclude hk hc hl ha hu (hv.keeps (keeps_log _)) hr rfl ?_ rfl
    rw [tracked_log, ht, Serial.perform_elect, Serial.elect_eq, hd]
  next s hd =>
    have hinstalled := (hv.keeps (keeps_log (.termRefreshed s.leader l.term))).keeps
      (keeps_install (s.renew l.term))
    refine h.completes_conclude hk hc hl ha hu hinstalled hr rfl ?_ rfl
    rw [tracked_install (by exact ha), tracked_log, ht, Serial.perform_elect, Serial.elect_eq, hd]
  next he => exact absurd he hd

/-- A new candidate changes nothing before its connection opens. -/
theorem Disciplined.awaits_consider (h : g.Disciplined) (env : Surroundings) {l : Leader}
    (hk : g.call? k.id = some k) (hp : k.phase = .queued (.elect l))
    (hl : g.lock.holder = some k.id) (hd : g.writer.decide l = .connect)
    (hr : ((g.enter (.locked k.id)).consider env k l).Rooted) :
    ((g.enter (.locked k.id)).consider env k l).Disciplined ∧
      g.Stays ((g.enter (.locked k.id)).consider env k l) := by
  have hs : g.standing? k.id = some (k.task, .queued (.elect l)) := standing?_of_phase hk hp
  have ht : (g.enter (.locked k.id)).tracked = g.tracked := h.tracked_locked hs (by simp)
  have hw : (g.enter (.locked k.id)).writer = g.writer := rfl
  unfold consider at hr ⊢
  rw [hw, hd] at hr ⊢
  exact ⟨h.await hk hp hl hd _ _ hr, (tracked_log _ _).trans ht, h.completed_await hs _ _ _⟩

theorem Disciplined.completes_shutDown (h : g.Disciplined) (hk : g.call? k.id = some k)
    (hp : k.phase = .queued .shutdown) (hl : g.lock.holder = some k.id)
    (hr : ((g.enter (.locked k.id)).shutDown k).Rooted) :
    ((g.enter (.locked k.id)).shutDown k).Disciplined ∧
      g.Completes ⟨k.id, k.task, .shutdown, none⟩ ((g.enter (.locked k.id)).shutDown k) := by
  have hs : g.standing? k.id = some (k.task, .queued .shutdown) := standing?_of_phase hk hp
  have hc : k.phase.contends = true := by rw [hp]; rfl
  have hu : k.task.update? = some .shutdown := h.queued _ _ _ hs
  have ha : g.channel.abandoned = false := h.abandoned_of_call hk (by rw [hp]; rfl) hu
  have hv := h.serving_locked hs
  have ht : (g.enter (.locked k.id)).tracked = g.tracked := h.tracked_locked hs (by simp)
  unfold shutDown at hr ⊢
  split_ifs at hr ⊢ with hclosed
  · refine h.completes_conclude hk hc hl ha hu hv hr rfl ?_ rfl
    have hclosed : g.tracked.writer.closed = true := hclosed
    rw [ht, Serial.perform, Serial.shutDown, if_pos hclosed]
  · have hclosing := ((hv.keeps (keeps_setWriter ⟨none, true⟩)).keeps (keeps_publish .closed)).keeps
      (keeps_closePrevious (g.enter (.locked k.id)).writer.current)
    have hshut := hclosing.keeps (keeps_log .trackerShutDown)
    refine h.completes_conclude hk hc hl ha hu hshut hr rfl ?_ rfl
    have hclosed : ¬g.tracked.writer.closed = true := hclosed
    have hw : { g.enter (.locked k.id) with writer := ⟨none, true⟩ }.tracked =
        { (g.enter (.locked k.id)).tracked with writer := ⟨none, true⟩ } := rfl
    rw [tracked_log, tracked_closePrevious, tracked_publish (by exact ha), hw, ht, Serial.perform,
      Serial.shutDown, if_neg hclosed]
    rfl

theorem Disciplined.completes_completeOpen (h : g.Disciplined) (env : Surroundings) {l : Leader}
    {openedAt : Option Nat} (hk : g.call? k.id = some k) (hp : k.phase = .opening l openedAt)
    (hr : (g.completeOpen env k l).Rooted) :
    (g.completeOpen env k l).Disciplined ∧
      g.Completes ⟨k.id, k.task, .elect l, env.refusal l.member⟩ (g.completeOpen env k l) := by
  have hs : g.standing? k.id = some (k.task, .opening l) := standing?_of_phase hk hp
  have hc : k.phase.contends = true := by rw [hp]; rfl
  obtain ⟨hu, hl, hw, -⟩ := h.opening _ _ _ hs
  have ha : g.channel.abandoned = false := h.abandoned_of_call hk (by rw [hp]; rfl) hu
  have hd : g.tracked.writer.decide l = .connect := hw
  unfold completeOpen at hr ⊢
  dsimp only at hr ⊢
  cases he : env.refusal l.member with
  | some e =>
    simp only [he] at hr
    have hrefused := (h.serving_refused hs l.member e).keeps (keeps_log (.connectFailed l.member e))
    refine h.completes_conclude hk hc hl ha hu hrefused hr (by simp [Fact.refusal?]) ?_ rfl
    rw [tracked_log, tracked_enter rfl rfl, Serial.perform_elect, Serial.elect_eq, hd]
  | none =>
    simp only [he] at hr
    have hkeeps := ((((keeps_setConnections (g := g)
      (g.connections ++ [⟨l.member, false, false, 0⟩])).trans
      (keeps_enter (f := .opened k.id g.connections.length l.member) rfl)).trans
      (keeps_log (.connectionOpened l.member))).trans
      (keeps_install ⟨l, g.connections.length⟩)).trans (keeps_closePrevious g.writer.current)
    refine h.completes_conclude hk hc hl ha hu ((h.serving_opening hs).keeps hkeeps) hr rfl ?_ rfl
    rw [tracked_closePrevious, tracked_install (by exact ha), tracked_log, tracked_enter rfl rfl,
      Serial.perform_elect, Serial.elect_eq, hd]
    rfl

/-! ### Steps that change nothing -/

theorem completed_of_standing (hserved : g'.served = g.served)
    (hs : ∀ d ∈ g.served, g'.standing? d = g.standing? d)
    (hr : ∀ d, g'.refusal? d = g.refusal? d) : g'.completed = g.completed :=
  completed_congr hserved fun d hd => operation?_congr (hs d hd) (hr d)

/-- A turn that stays aside adds nothing to the trace. -/
theorem Aside.trace (h : Aside c g g') : g'.trace = g.trace := by
  obtain ⟨news, hn, ht⟩ := h.facts
  unfold Gateway.trace
  rw [served_congr h.callFacts, hn, List.filter_append, List.append_right_eq_self,
    List.filter_eq_nil_iff]
  intro f hf
  obtain ⟨hd, hu⟩ := ht f hf
  cases f <;> simp_all [Fact.isTraced, Fact.ofTracker, Fact.DuringTurnOf]

theorem Disciplined.stays_aside (h : g.Disciplined) (hk : g.call? c = some k)
    (hf : k.phase.contends = false) (hu : k.phase.ended = false)
    (ha : UpToAnswer c (Aside c g) g') : Stays g g' := by
  have hn : c ∉ g.served :=
    h.not_served (standing?_of_call? hk) (by rw [Phase.standing_eq_outside hf hu]; rfl)
  have htracked : ∀ g₁, Aside c g g₁ → g₁.tracked = g.tracked := fun g₁ h₁ =>
    tracked_congr h₁.writer (by rw [h₁.channel]) h₁.connections h₁.trace
  have hother : ∀ d ∈ g.served, g'.standing? d = g.standing? d := fun d hd =>
    UpToAnswer.standing? (ha.mono fun _ h₁ => h₁.toTurn) (c := c) fun he : d = c => hn (he ▸ hd)
  rcases ha with ha | ⟨g₁, a, h₁, rfl⟩
  · exact ⟨htracked g' ha,
      completed_of_standing (served_congr ha.callFacts) hother (refusal?_congr ha.callFacts)⟩
  · have hserved := served_congr h₁.callFacts
    refine ⟨?_, completed_of_standing ?_ hother fun d => ?_⟩
    · rw [tracked_finish, if_neg (hserved ▸ hn), htracked g₁ h₁]
    · rw [served_finish, hserved]
    · rw [refusal?_eq, refusal?_eq, callFacts_finish, h₁.callFacts, List.findSome?_append]
      simp [Fact.refusal?]

theorem Disciplined.stays_request (h : g.Disciplined) (hk : g.call? c = some k)
    (hp : k.phase = .created) (u : Update) (line : Option LogLine) :
    Stays g ((g.logIfAny line).requestLock k u) := by
  obtain rfl := id_of_call? hk
  have hs : g.standing? k.id = some (k.task, .outside) := standing?_of_phase hk hp
  have hfacts := callFacts_request g line k u
  refine ⟨tracked_logIfAny g line,
    completed_of_standing (served_congr hfacts) (fun d hd => ?_) (refusal?_congr hfacts)⟩
  rw [standing?_request hs, if_neg]
  rintro rfl
  exact h.not_served hs rfl hd

/-- A call that is given up has done nothing to the tracked leader. -/
theorem stays_abandon (hk : g.call? c = some k) (hu : k.phase.ended = false) :
    Stays g (g.giveUp c) := by
  have hfacts := callFacts_giveUp g c
  have hs := standing?_of_call? hk
  refine ⟨tracked_enter_of_not rfl rfl, completed_congr (served_congr hfacts) fun d hd => ?_⟩
  by_cases he : d = c
  · subst he
    have hst := standing?_giveUp g d d
    rw [if_pos rfl, hs] at hst
    rw [operation?_eq_none hst (by simp), operation?_eq_none hs (Phase.standing_ne_finished hu)]
  · exact operation?_congr ((standing?_giveUp g c d).trans (if_neg he)) (refusal?_congr hfacts d)

theorem Disciplined.stays_start (h : g.Disciplined) (hf : g.call? k.id = none) :
    Stays g (g.enrol k) := by
  have hfacts := callFacts_enrol g k
  refine ⟨tracked_enter_of_not rfl rfl,
    completed_of_standing (served_congr hfacts) (fun d hd => ?_) (refusal?_congr hfacts)⟩
  rw [standing?_enrol hf, if_neg]
  rintro rfl
  obtain ⟨task, st, hs, -⟩ := h.past k.id hd
  simp [standing?, hf] at hs

/-! ### Every step -/

theorem Disciplined.transition (h : g.Disciplined) (ht : Transition g g') :
    g'.Disciplined ∧ Advances g g' := by
  have hr : g'.Rooted := h.toRooted.outline (outline_of_transition ht)
  cases ht with
  | @start c handle task seen hf _ _ =>
    exact ⟨h.start (k := Call.mk c task handle seen .created) hf rfl hr,
      .inl (h.stays_start (k := Call.mk c task handle seen .created) hf)⟩
  | around => exact ⟨h.congr hr rfl rfl rfl fun _ _ _ _ => .rfl, .inl ⟨rfl, rfl⟩⟩
  | abandon hk hw =>
    have hu := Phase.ended_of_isWaiting hw
    exact ⟨h.abandon hk hu, .inl (stays_abandon hk hu)⟩
  | aside env hk hf hu hb =>
    obtain rfl := id_of_call? hk
    have ha := aside_proceed (g := g) env hf hb
    exact ⟨h.aside hk hf hu ha, .inl (h.stays_aside hk hf hu ha)⟩
  | request hk hp hu => exact ⟨h.request hk hp hu _ hr, .inl (h.stays_request hk hp _ _)⟩
  | @consider c k l env hk hp hl =>
    obtain rfl := id_of_call? hk
    by_cases hd : g.writer.decide l = .connect
    · obtain ⟨hd, hsame⟩ := h.awaits_consider env hk hp hl hd hr
      exact ⟨hd, .inl hsame⟩
    · obtain ⟨hd, hop⟩ := h.completes_consider env hk hp hl hd hr
      exact ⟨hd, .inr ⟨_, hop⟩⟩
  | shutDown hk hp hl =>
    obtain rfl := id_of_call? hk
    obtain ⟨hd, hop⟩ := h.completes_shutDown hk hp hl hr
    exact ⟨hd, .inr ⟨_, hop⟩⟩
  | completeOpen env hk hp =>
    obtain rfl := id_of_call? hk
    obtain ⟨hd, hop⟩ := h.completes_completeOpen env hk hp hr
    exact ⟨hd, .inr ⟨_, hop⟩⟩

end Gateway

end LeaderRouting
