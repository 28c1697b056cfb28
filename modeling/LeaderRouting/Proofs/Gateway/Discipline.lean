import LeaderRouting.Proofs.Gateway.Standing

/-!
The discipline of the lock.  The calls that hold the lock or stand in line for it are those that want
a change of the tracked leader and have neither ended nor been given up; while one of them waits for
its connection, it holds the lock, was served last, and what it decided still stands.
-/

namespace LeaderRouting.Gateway

structure Disciplined (g : Gateway) : Prop extends Rooted g where
  fair : g.lock.IsFair
  line : g.lock.queue.Nodup
  mem_line : ∀ c, c ∈ g.lock.queue ↔
    ∃ task st, g.standing? c = some (task, st) ∧ st.contends = true
  queued : ∀ c task u, g.standing? c = some (task, .queued u) → task.update? = some u
  opening : ∀ c task l, g.standing? c = some (task, .opening l) →
    task.update? = some (.elect l) ∧ g.lock.holder = some c ∧ g.writer.decide l = .connect ∧
      g.served.getLast? = some c
  once : g.served.Nodup
  past : ∀ c ∈ g.served, ∃ task st, g.standing? c = some (task, st) ∧ st.isPast = true
  answered : ∀ c a, .answered c a ∈ g.callFacts ↔
    ∃ task, g.standing? c = some (task, .finished a)
  refused : ∀ c m e, .refused c m e ∈ g.callFacts →
    ∃ task a, g.standing? c = some (task, .finished a)

variable {g g₁ g' : Gateway} {c d : CallId} {k : Call} {task : Task} {st : Standing}

theorem Disciplined.not_served (h : g.Disciplined) (hs : g.standing? c = some (task, st))
    (hp : st.isPast = false) : c ∉ g.served := by
  intro hc
  obtain ⟨task', st', hs', hp'⟩ := h.past c hc
  simp only [hs, Option.some.injEq, Prod.mk.injEq] at hs'
  rw [← hs'.2, hp] at hp'
  contradiction

/-- A call that was answered has ended with that answer. -/
theorem Disciplined.finished_of_answered (h : g.Disciplined) {a : Answer} (hk : g.call? c = some k)
    (ha : .answered c a ∈ g.facts) : k.phase = .finished a := by
  obtain ⟨task, hs⟩ := (h.answered c a).1 (List.mem_filter.2 ⟨ha, rfl⟩)
  rw [standing?_of_call? hk, Option.some.injEq, Prod.mk.injEq] at hs
  cases hp : k.phase <;> simp_all [Phase.standing]

/-- A call that does not concern the tracker does not ask for the lock. -/
theorem Disciplined.free (h : g.Disciplined) (hk : g.call? c = some k)
    (ht : k.task.concernsTracker = false) : k.phase.contends = false := by
  have hu : ∀ u, k.task.update? ≠ some u := by simp [update?_of_concernsTracker ht]
  cases hp : k.phase with
  | queued u => exact absurd (h.queued c k.task u (standing?_of_phase hk hp)) (hu u)
  | opening l openedAt => exact absurd (h.opening c k.task l (standing?_of_phase hk hp)).1 (hu _)
  | _ => rfl

/-- Whoever waits for a connection is the holder of the lock. -/
theorem Disciplined.eq_of_opening (h : g.Disciplined) {l : Leader} (hl : g.lock.holder = some c)
    (hs : g.standing? d = some (task, .opening l)) : d = c :=
  Option.some.inj ((h.opening d task l hs).2.1.symm.trans hl)

theorem disciplined_create (settings : Settings) (handles : List Handle) :
    (create settings handles).Disciplined where
  ids := .nil
  owned := by simp [create]
  kept _ := rfl
  fair _ := rfl
  line := .nil
  mem_line := by simp [create, Lock.queue, standing?, call?]
  queued := by simp [create, standing?, call?]
  opening := by simp [create, standing?, call?]
  once := .nil
  past := by simp [create, served, Gateway.facts]
  answered := by simp [create, callFacts, Gateway.facts, standing?, call?]
  refused := by simp [create, callFacts, Gateway.facts]

/-- The discipline depends on the lock, the writer, what was noted of calls, and where those stand
that are not outside. -/
theorem Disciplined.congr (h : g.Disciplined) (hr : g'.Rooted) (hl : g'.lock = g.lock)
    (hw : g'.writer = g.writer) (hf : g'.callFacts = g.callFacts)
    (hs : ∀ c task st, st ≠ .outside →
      (g'.standing? c = some (task, st) ↔ g.standing? c = some (task, st))) : g'.Disciplined := by
  have hserved : g'.served = g.served := served_congr hf
  exact {
    toRooted := hr
    fair := hl ▸ h.fair
    line := hl ▸ h.line
    mem_line c := by
      rw [hl, h.mem_line]
      refine exists_congr fun task => exists_congr fun st => and_congr_left fun hc => ?_
      have hne : st ≠ .outside := by
        rintro rfl
        simp [Standing.contends] at hc
      exact (hs c task st hne).symm
    queued c task u hq := h.queued c task u ((hs c task _ (by simp)).1 hq)
    opening c task l ho := by
      rw [hl, hw, hserved]
      exact h.opening c task l ((hs c task _ (by simp)).1 ho)
    once := hserved ▸ h.once
    past c hc := by
      obtain ⟨task, st, hst, hp⟩ := h.past c (hserved ▸ hc)
      have hne : st ≠ .outside := by
        rintro rfl
        simp [Standing.isPast] at hp
      exact ⟨task, st, (hs c task st hne).2 hst, hp⟩
    answered c a := by
      rw [hf, h.answered]
      exact exists_congr fun task => (hs c task _ (by simp)).symm
    refused c m e hm := by
      obtain ⟨task, a, ha⟩ := h.refused c m e (hf ▸ hm)
      exact ⟨task, a, (hs c task _ (by simp)).2 ha⟩ }

/-- A call that ends leaves the line, and what is noted of it is its end. -/
theorem Disciplined.ends (h : g.Disciplined) (st' : Standing) (hr : g'.Rooted)
    (hs : g.standing? c = some (task, st)) (unanswered : ∀ a, st ≠ .finished a)
    (others : ∀ d ≠ c, g'.standing? d = g.standing? d)
    (self : g'.standing? c = some (task, st')) (past : st'.isPast = true)
    (away : st'.contends = false) (fair : g'.lock.IsFair)
    (line : g'.lock.queue = g.lock.queue.filter (· ≠ c))
    (calm : ∀ d ≠ c, g.lock.holder = some d →
      g'.lock.holder = some d ∧ g'.writer = g.writer ∧ g'.served = g.served)
    (once : g'.served.Nodup) (served : ∀ d ∈ g'.served, d = c ∨ d ∈ g.served)
    (answered : ∀ d a, .answered d a ∈ g'.callFacts ↔
      .answered d a ∈ g.callFacts ∨ d = c ∧ st' = .finished a)
    (refused : ∀ d m e, .refused d m e ∈ g'.callFacts →
      .refused d m e ∈ g.callFacts ∨ d = c ∧ ∃ a, st' = .finished a) : g'.Disciplined where
  toRooted := hr
  fair := fair
  line := line ▸ h.line.filter _
  mem_line d := by
    rw [line, List.mem_filter, decide_eq_true_eq]
    by_cases hd : d = c
    · subst hd
      simp [self, away]
    · rw [others d hd, ← h.mem_line d]
      exact and_iff_left hd
  queued d task' u hu := by
    by_cases hd : d = c
    · subst hd
      simp only [self, Option.some.injEq, Prod.mk.injEq] at hu
      simp [hu.2, Standing.contends] at away
    · exact h.queued d task' u (others d hd ▸ hu)
  opening d task' l ho := by
    by_cases hd : d = c
    · subst hd
      simp only [self, Option.some.injEq, Prod.mk.injEq] at ho
      simp [ho.2, Standing.contends] at away
    · obtain ⟨ht, hl, hw, hlast⟩ := h.opening d task' l (others d hd ▸ ho)
      obtain ⟨hl', hw', hs'⟩ := calm d hd hl
      exact ⟨ht, hl', hw' ▸ hw, hs' ▸ hlast⟩
  once := once
  past d hd := by
    by_cases he : d = c
    · subst he
      exact ⟨task, st', self, past⟩
    · rw [others d he]
      exact h.past d ((served d hd).resolve_left he)
  answered d a := by
    rw [answered, h.answered]
    by_cases hd : d = c
    · subst hd
      simp only [hs, self, Option.some.injEq, Prod.mk.injEq, true_and]
      constructor
      · rintro (⟨_, -, he⟩ | he)
        · exact absurd he (unanswered a)
        · exact ⟨task, rfl, he⟩
      · rintro ⟨_, -, he⟩
        exact .inr he
    · simp [others d hd, hd]
  refused d m e hf := by
    by_cases hd : d = c
    · subst hd
      rcases refused d m e hf with hf | ⟨-, a, he⟩
      · obtain ⟨_, a, he⟩ := h.refused d m e hf
        simp only [hs, Option.some.injEq, Prod.mk.injEq] at he
        exact absurd he.2 (unanswered a)
      · exact ⟨task, a, he ▸ self⟩
    · rw [others d hd]
      exact h.refused d m e ((refused d m e hf).resolve_right fun hc => hd hc.1)

/-! ### Steps outside the lock -/

theorem Disciplined.start (h : g.Disciplined) (hf : g.call? k.id = none) (hp : k.phase = .created)
    (hr : (g.enrol k).Rooted) : (g.enrol k).Disciplined := by
  refine h.congr hr rfl rfl (callFacts_enrol g k) fun d task st hst => ?_
  rw [standing?_enrol hf]
  split_ifs with he
  · rw [he, standing?, hf, hp]
    simp [Phase.standing, Ne.symm hst]
  · rfl

theorem Disciplined.aside (h : g.Disciplined) (hk : g.call? c = some k)
    (hf : k.phase.contends = false) (hu : k.phase.ended = false) (ha : UpToAnswer c (Aside c g) g') :
    g'.Disciplined := by
  have hstay : ∀ g₁, Aside c g g₁ → g₁.Disciplined := by
    intro g₁ h₁
    have hr : g₁.Rooted := h.toRooted.outline (.turn hk hu (.inl h₁.toTurn))
    refine h.congr hr h₁.lock h₁.writer h₁.callFacts fun d task st _ => ?_
    by_cases hd : d = c
    · rw [hd, h₁.standing? hk hf hu]
    · rw [UpToAnswer.standing? (.inl h₁.toTurn) hd]
  rcases ha with ha | ⟨g₁, a, h₁, rfl⟩
  · exact hstay g' ha
  · have hs : g₁.standing? c = some (k.task, .outside) := by
      rw [h₁.standing? hk hf hu, standing?_of_call? hk, Phase.standing_eq_outside hf hu]
    have hr : (g₁.finish c a).Rooted :=
      h.toRooted.outline (.turn hk hu (.inr ⟨g₁, a, h₁.toTurn, rfl⟩))
    -- The call was outside, so its end leaves the line as it is.
    have hn : c ∉ g₁.lock.queue := by
      rw [(hstay g₁ h₁).mem_line]
      simp [hs, Standing.contends]
    refine (hstay g₁ h₁).ends (.finished a) hr hs (by simp) ?_ ?_ rfl rfl ?_ ?_ ?_ ?_ ?_ ?_ ?_
    · intro d hd
      rw [standing?_finish, if_neg hd]
    · rw [standing?_finish, if_pos rfl, hs]
      rfl
    · rw [lock_finish]
      exact (hstay g₁ h₁).fair
    · rw [lock_finish, filter_ne_eq_self hn]
    · intro d _ hl
      rw [lock_finish, writer_finish, served_finish]
      exact ⟨hl, rfl, rfl⟩
    · rw [served_finish]
      exact (hstay g₁ h₁).once
    · rw [served_finish]
      exact fun d hd => .inr hd
    · intro d b
      rw [callFacts_finish]
      simp [eq_comm]
    · intro d m e hm
      rw [callFacts_finish] at hm
      exact .inl (by simpa using hm)

theorem Disciplined.abandon (h : g.Disciplined) (hk : g.call? c = some k)
    (hu : k.phase.ended = false) : (g.giveUp c).Disciplined := by
  have hs := standing?_of_call? hk
  have hfacts := callFacts_giveUp g c
  have hserved := served_congr hfacts
  refine h.ends .abandoned (h.toRooted.outline (.abandon hk hu)) hs (Phase.standing_ne_finished hu) ?_
    ?_ rfl rfl (Lock.isFair_withdraw h.fair c) (Lock.queue_withdraw h.line c) ?_ ?_ ?_ ?_ ?_
  · intro d hd
    rw [standing?_giveUp, if_neg hd]
  · rw [standing?_giveUp, if_pos rfl, hs]
    rfl
  · intro d hd hl
    refine ⟨?_, rfl, hserved⟩
    simp [giveUp, enter, setPhase, Lock.withdraw, hl, hd]
  · rw [hserved]
    exact h.once
  · rw [hserved]
    exact fun d hd => .inr hd
  · intro d a
    rw [hfacts]
    simp
  · intro d m e hm
    exact .inl (hfacts ▸ hm)

/-! ### Steps of the holder -/

/-- Whether no call moves and nothing is noted of calls. -/
structure Keeps (g g₁ : Gateway) : Prop where
  lock : g₁.lock = g.lock
  standing : ∀ d, g₁.standing? d = g.standing? d
  callFacts : g₁.callFacts = g.callFacts

theorem Keeps.refl (g : Gateway) : Keeps g g :=
  ⟨rfl, fun _ => rfl, rfl⟩

theorem Keeps.trans {g₂ : Gateway} (h₁ : Keeps g g₁) (h₂ : Keeps g₁ g₂) : Keeps g g₂ :=
  ⟨h₂.lock.trans h₁.lock, fun d => (h₂.standing d).trans (h₁.standing d),
    h₂.callFacts.trans h₁.callFacts⟩

theorem keeps_enter {f : Fact} (hf : f.ofCall = false) : Keeps g (g.enter f) :=
  ⟨rfl, fun _ => rfl, by simp [callFacts_enter, hf]⟩

theorem keeps_log (line : LogLine) : Keeps g (g.log line) :=
  keeps_enter rfl

theorem keeps_logIfAny (line : Option LogLine) : Keeps g (g.logIfAny line) := by
  cases line with
  | none => exact .refl g
  | some line => exact keeps_log line

theorem keeps_setWriter (w : Writer) : Keeps g { g with writer := w } :=
  ⟨rfl, fun _ => rfl, rfl⟩

theorem keeps_setConnections (ks : List Connection) : Keeps g { g with connections := ks } :=
  ⟨rfl, fun _ => rfl, rfl⟩

theorem keeps_setChannel (ch : Channel) : Keeps g { g with channel := ch } :=
  ⟨rfl, fun _ => rfl, rfl⟩

theorem keeps_wakeAll : Keeps g g.wakeAll :=
  ⟨rfl, standing?_wakeAll g, rfl⟩

theorem keeps_publish (v : Published) : Keeps g (g.publish v) := by
  unfold publish
  split_ifs
  · exact ((keeps_setChannel _).trans (keeps_enter (f := .published v) rfl)).trans keeps_wakeAll
  · exact .refl g

theorem keeps_install (s : Snapshot) : Keeps g (g.install s) :=
  (keeps_setWriter _).trans (keeps_publish _)

theorem keeps_closeConnection (n : Nat) : Keeps g (g.closeConnection n) := by
  unfold closeConnection
  split
  · exact .refl g
  · split_ifs
    · exact .refl g
    next k _ _ =>
      have hclosed : Keeps g ({ g with connections := g.connections.set n k.close }.enter
          (.closed n k.member)) :=
        (keeps_setConnections _).trans (keeps_enter rfl)
      exact hclosed.trans (keeps_log _)

theorem keeps_closePrevious (previous : Option Snapshot) : Keeps g (g.closePrevious previous) := by
  cases previous with
  | none => exact .refl g
  | some s => exact keeps_closeConnection s.connection

/-- What the holder of the lock comes to before it ends: no call has moved, it was served last, and
all that was noted of calls is that it was served or refused a connection. -/
structure Serving (g : Gateway) (c : CallId) (news : List Fact) (g₁ : Gateway) : Prop where
  lock : g₁.lock = g.lock
  standing : ∀ d, g₁.standing? d = g.standing? d
  callFacts : g₁.callFacts = g.callFacts ++ news
  own : ∀ f ∈ news, f = .locked c ∨ ∃ m e, f = .refused c m e
  served : g₁.served = g.served.filter (· ≠ c) ++ [c]

theorem Serving.keeps {news : List Fact} {g₂ : Gateway} (h : Serving g c news g₁)
    (hk : Keeps g₁ g₂) : Serving g c news g₂ where
  lock := hk.lock.trans h.lock
  standing d := (hk.standing d).trans (h.standing d)
  callFacts := hk.callFacts.trans h.callFacts
  own := h.own
  served := (served_congr hk.callFacts).trans h.served

theorem Disciplined.serving_locked (h : g.Disciplined) {u : Update}
    (hs : g.standing? c = some (task, .queued u)) :
    Serving g c [.locked c] (g.enter (.locked c)) where
  lock := rfl
  standing _ := rfl
  callFacts := callFacts_enter (.locked c)
  own := by simp
  served := by
    rw [filter_ne_eq_self (h.not_served hs rfl)]
    simp [served, facts_enter, Fact.locked?]

theorem Disciplined.serving_opening (h : g.Disciplined) {l : Leader}
    (hs : g.standing? c = some (task, .opening l)) : Serving g c [] g where
  lock := rfl
  standing _ := rfl
  callFacts := by simp
  own := by simp
  served := by
    obtain ⟨earlier, he⟩ := List.getLast?_eq_some_iff.1 (h.opening c task l hs).2.2.2
    have hn : c ∉ earlier := fun hc =>
      (List.nodup_append.1 (he ▸ h.once)).2.2 c hc c (by simp) rfl
    rw [he, List.filter_append, filter_ne_eq_self hn]
    simp

theorem Disciplined.serving_refused (h : g.Disciplined) {l : Leader}
    (hs : g.standing? c = some (task, .opening l)) (m : Member) (e : TransportError) :
    Serving g c [.refused c m e] (g.enter (.refused c m e)) where
  lock := rfl
  standing _ := rfl
  callFacts := callFacts_enter (.refused c m e)
  own := by simp
  served := by
    rw [← (h.serving_opening hs).served]
    simp [served, facts_enter, Fact.locked?]

/-- The holder of the lock ends with the answer to its update. -/
theorem Disciplined.conclude {news : List Fact} (h : g.Disciplined)
    (hs : g.standing? c = some (task, st)) (hc : st.contends = true)
    (hl : g.lock.holder = some c) (hv : Serving g c news g₁) {a : Answer}
    (hr : (g₁.depart c a).Rooted) : (g₁.depart c a).Disciplined := by
  have hlock : (g₁.depart c a).lock = g.lock.release := by
    rw [← hv.lock]
    exact lock_finish _ c a
  have hfacts : (g₁.depart c a).callFacts = g.callFacts ++ news ++ [.answered c a] := by
    rw [callFacts_depart, hv.callFacts]
  have hserved : (g₁.depart c a).served = g.served.filter (· ≠ c) ++ [c] := by
    rw [served_depart, hv.served]
  have hstanding : ∀ d, (g₁.depart c a).standing? d =
      if d = c then (g.standing? d).map fun r => (r.1, .finished a) else g.standing? d := by
    intro d
    rw [standing?_depart, hv.standing]
  refine h.ends (.finished a) hr hs ?_ ?_ ?_ rfl rfl (hlock ▸ Lock.isFair_release _) ?_ ?_
    ?_ ?_ ?_ ?_
  · rintro b rfl
    simp [Standing.contends] at hc
  · intro d hd
    rw [hstanding, if_neg hd]
  · rw [hstanding, if_pos rfl, hs]
    rfl
  · -- The line without its first is the line without the holder.
    have hn := h.line
    rw [Lock.queue_of_holder hl, List.nodup_cons] at hn
    rw [hlock, Lock.queue_release, Lock.queue_of_holder hl, List.filter_cons_of_neg (by simp),
      filter_ne_eq_self hn.1]
  · exact fun d hd hl' => absurd (Option.some.inj (hl'.symm.trans hl)) hd
  · rw [hserved, List.nodup_append]
    refine ⟨h.once.filter _, by simp, ?_⟩
    rintro d hd e he rfl
    simp [List.mem_singleton.1 he] at hd
  · intro d hd
    rw [hserved, List.mem_append, List.mem_filter, List.mem_singleton] at hd
    exact hd.symm.imp_right And.left
  · intro d b
    rw [hfacts, List.mem_append, List.mem_append, List.mem_singleton]
    have hn : Fact.answered d b ∉ news := by
      intro hf
      rcases hv.own _ hf with hf | ⟨m, e, hf⟩ <;> simp at hf
    simp [hn, eq_comm]
  · intro d m e hf
    rw [hfacts, List.mem_append, List.mem_append, List.mem_singleton] at hf
    rcases hf with (hf | hf) | hf
    · exact .inl hf
    · rcases hv.own _ hf with hf | ⟨m', e', hf⟩
      · simp at hf
      · simp only [Fact.refused.injEq] at hf
        exact .inr ⟨hf.1, a, rfl⟩
    · simp at hf

/-! ### Coming into line, and waiting for a connection -/

theorem callFacts_request (g : Gateway) (line : Option LogLine) (k : Call) (u : Update) :
    ((g.logIfAny line).requestLock k u).callFacts = g.callFacts :=
  (keeps_logIfAny line).callFacts

theorem standing?_request (hs : g.standing? k.id = some (k.task, st)) (line : Option LogLine)
    (u : Update) (d : CallId) : ((g.logIfAny line).requestLock k u).standing? d =
      if d = k.id then some (k.task, .queued u) else g.standing? d := by
  have hd : (setPhase { g.logIfAny line with lock := (g.logIfAny line).lock.request k.id } k.id
      (.queued u)).standing? d = _ := standing?_setPhase _ k.id d _
  have hlog : { g.logIfAny line with lock := (g.logIfAny line).lock.request k.id }.standing? d =
      g.standing? d := (keeps_logIfAny line).standing d
  rw [hlog] at hd
  refine hd.trans ?_
  split_ifs with he
  · rw [he, hs]
    rfl
  · rfl

theorem Disciplined.request (h : g.Disciplined) (hk : g.call? c = some k) (hp : k.phase = .created)
    {u : Update} (hu : k.task.update? = some u) (line : Option LogLine)
    (hr : ((g.logIfAny line).requestLock k u).Rooted) :
    ((g.logIfAny line).requestLock k u).Disciplined := by
  obtain rfl := id_of_call? hk
  have hs : g.standing? k.id = some (k.task, .outside) := standing?_of_phase hk hp
  have hstanding := standing?_request hs line u
  have hwriter : ((g.logIfAny line).requestLock k u).writer = g.writer := by
    cases line <;> rfl
  have hlock : ((g.logIfAny line).requestLock k u).lock = g.lock.request k.id :=
    congrArg (Lock.request · k.id) (keeps_logIfAny line).lock
  have hfacts := callFacts_request g line k u
  have hserved := served_congr hfacts
  have hqueue : (g.lock.request k.id).queue = g.lock.queue ++ [k.id] := Lock.queue_request h.fair _
  have hn : k.id ∉ g.lock.queue := by
    rw [h.mem_line, hs]
    simp [Standing.contends]
  exact {
    toRooted := hr
    fair := hlock ▸ Lock.isFair_request _
    line := by
      rw [hlock, hqueue, List.nodup_append]
      refine ⟨h.line, by simp, ?_⟩
      rintro a ha b hb rfl
      exact hn (List.mem_singleton.1 hb ▸ ha)
    mem_line d := by
      rw [hlock, hqueue, hstanding, List.mem_append, List.mem_singleton]
      split_ifs with he
      · simp [he, Standing.contends]
      · simp [he, h.mem_line]
    queued d task u' hd := by
      rw [hstanding] at hd
      split_ifs at hd
      · simp only [Option.some.injEq, Prod.mk.injEq, Standing.queued.injEq] at hd
        rw [← hd.1, ← hd.2, hu]
      · exact h.queued d task u' hd
    opening d task l hd := by
      rw [hstanding] at hd
      split_ifs at hd
      · simp at hd
      · obtain ⟨ht, hl, hw, hlast⟩ := h.opening d task l hd
        -- A lock that is held stays with its holder.
        have hl' : (g.lock.request k.id).holder = some d := by simp [Lock.request, hl]
        rw [hlock, hwriter, hserved]
        exact ⟨ht, hl', hw, hlast⟩
    once := hserved ▸ h.once
    past d hd := by
      obtain ⟨task, st, hst, hpast⟩ := h.past d (hserved ▸ hd)
      have hne : d ≠ k.id := by
        rintro rfl
        exact h.not_served hs rfl (hserved ▸ hd)
      refine ⟨task, st, ?_, hpast⟩
      rw [hstanding, if_neg hne, hst]
    answered d a := by
      rw [hfacts, h.answered, hstanding]
      split_ifs with he
      · simp [he, hs]
      · rfl
    refused d m e hd := by
      obtain ⟨task, a, ha⟩ := h.refused d m e (hfacts ▸ hd)
      have hne : d ≠ k.id := by
        rintro rfl
        simp [hs] at ha
      refine ⟨task, a, ?_⟩
      rw [hstanding, if_neg hne, ha] }

/-- The state in which the holder of the lock was served and waits for its connection. -/
def await (g : Gateway) (c : CallId) (line : LogLine) (l : Leader) (openedAt : Option Nat) :
    Gateway :=
  ((g.enter (.locked c)).log line).setPhase c (.opening l openedAt)

theorem callFacts_await (g : Gateway) (c : CallId) (line : LogLine) (l : Leader)
    (openedAt : Option Nat) : (g.await c line l openedAt).callFacts = g.callFacts ++ [.locked c] :=
  (keeps_log line).callFacts.trans (callFacts_enter (.locked c))

theorem served_await (g : Gateway) (c : CallId) (line : LogLine) (l : Leader)
    (openedAt : Option Nat) : (g.await c line l openedAt).served = g.served ++ [c] := by
  rw [served_eq, callFacts_await, List.filterMap_append, ← served_eq]
  rfl

theorem standing?_await (hs : g.standing? c = some (task, st)) (line : LogLine) (l : Leader)
    (openedAt : Option Nat) (d : CallId) : (g.await c line l openedAt).standing? d =
      if d = c then some (task, .opening l) else g.standing? d := by
  refine (standing?_setPhase ((g.enter (.locked c)).log line) c d _).trans ?_
  have hd : ((g.enter (.locked c)).log line).standing? d = g.standing? d := rfl
  rw [hd]
  split_ifs with he
  · rw [he, hs]
    rfl
  · rfl

theorem Disciplined.await (h : g.Disciplined) (hk : g.call? c = some k) {l : Leader}
    (hp : k.phase = .queued (.elect l)) (hl : g.lock.holder = some c)
    (hw : g.writer.decide l = .connect) (line : LogLine) (openedAt : Option Nat)
    (hr : (g.await c line l openedAt).Rooted) : (g.await c line l openedAt).Disciplined := by
  have hs : g.standing? c = some (k.task, .queued (.elect l)) := standing?_of_phase hk hp
  have hstanding := standing?_await hs line l openedAt
  have hfacts := callFacts_await g c line l openedAt
  have hserved := served_await g c line l openedAt
  exact {
    toRooted := hr
    fair := h.fair
    line := h.line
    mem_line d := by
      rw [hstanding]
      refine (h.mem_line d).trans ?_
      split_ifs with he
      · simp [he, hs, Standing.contends]
      · rfl
    queued d task u hd := by
      rw [hstanding] at hd
      split_ifs at hd
      · simp at hd
      · exact h.queued d task u hd
    opening d task l' hd := by
      rw [hstanding] at hd
      split_ifs at hd with he
      · simp only [Option.some.injEq, Prod.mk.injEq, Standing.opening.injEq] at hd
        obtain ⟨rfl, rfl⟩ := hd
        subst he
        refine ⟨h.queued d k.task _ hs, hl, hw, ?_⟩
        rw [hserved, List.getLast?_append]
        rfl
      · exact absurd (h.eq_of_opening hl hd) he
    once := by
      rw [hserved, List.nodup_append]
      refine ⟨h.once, by simp, ?_⟩
      rintro a ha b hb rfl
      exact h.not_served hs rfl (List.mem_singleton.1 hb ▸ ha)
    past d hd := by
      rw [hstanding]
      split_ifs with he
      · exact ⟨k.task, _, rfl, rfl⟩
      · rw [hserved, List.mem_append, List.mem_singleton] at hd
        exact h.past d (hd.resolve_right he)
    answered d a := by
      rw [hfacts, List.mem_append, h.answered, hstanding]
      split_ifs with he
      · simp [he, hs]
      · simp
    refused d m e hd := by
      rw [hfacts, List.mem_append] at hd
      obtain ⟨task, a, ha⟩ := h.refused d m e (hd.resolve_right (by simp))
      have hne : d ≠ c := by
        rintro rfl
        simp [hs] at ha
      refine ⟨task, a, ?_⟩
      rw [hstanding, if_neg hne, ha] }

end LeaderRouting.Gateway
