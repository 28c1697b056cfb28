import LeaderRouting.Proofs.Tracker.Notices

/-!
Calls that come one after another.  Whatever operations are listed, each with a refusal only if a
connection would be wanted for it, some gateway has carried out just these.
-/

namespace LeaderRouting

open Gateway

namespace Serial

variable {ops : List Operation} {op : Operation} {t : Serial}

/-- Whether every operation has a refusal only if it fails for it. -/
def IsConsistent (ops : List Operation) : Prop :=
  ∀ n op, ops[n]? = some op → op.refusal = refusalOf ((replay (ops.take n)).perform op).2

theorem IsConsistent.of_append {later : List Operation} (h : IsConsistent (ops ++ later)) :
    IsConsistent ops := by
  intro n op hn
  have hlt := (List.getElem?_eq_some_iff.1 hn).1
  have he := h n op (by rwa [List.getElem?_append_left hlt])
  rwa [List.take_append_of_le_length (Nat.le_of_lt hlt)] at he

theorem isConsistent_concat : IsConsistent (ops ++ [op]) ↔
    IsConsistent ops ∧ op.refusal = refusalOf ((replay ops).perform op).2 := by
  constructor
  · intro h
    have he := h ops.length op (by simp)
    rw [List.take_left] at he
    exact ⟨h.of_append, he⟩
  · rintro ⟨h, he⟩ n op' hn
    rcases Nat.lt_or_ge n ops.length with hlt | hge
    · rw [List.getElem?_append_left hlt] at hn
      rw [List.take_append_of_le_length (Nat.le_of_lt hlt)]
      exact h n op' hn
    · have hlt := (List.getElem?_eq_some_iff.1 hn).1
      obtain rfl : n = ops.length := by
        rw [List.length_append, List.length_singleton] at hlt
        omega
      obtain rfl : op = op' := by simpa using hn
      rwa [List.take_left]

/-- Only where a connection is wanted can it be refused. -/
theorem refusalOf_elect {c : CallId} {l : Leader} {refusal : Option TransportError}
    (h : t.writer.decide l ≠ .connect) : refusalOf (t.elect c l refusal).2 = none := by
  rw [elect_eq]
  cases hd : t.writer.decide l with
  | connect => exact absurd hd h
  | _ => rfl

end Serial

namespace Gateway

variable {g g₁ g' : Gateway} {c d : CallId} {k : Call} {task : Task} {u : Update} {n : Notice}
  {env : Surroundings}

theorem isConsistent_of_reachable (hg : g.Reachable) : Serial.IsConsistent g.completed := by
  have h : g.Serialized ∧ Serial.IsConsistent g.completed := by
    refine Reachable.induction (P := fun g => g.Serialized ∧ Serial.IsConsistent g.completed) ?_ ?_ hg
    · exact fun settings handles => ⟨serialized_create settings handles, by simp [Serial.IsConsistent,
        completed, served, facts, create]⟩
    · rintro g g₁ ⟨h, hc⟩ ht
      refine ⟨(h.transition ht).release, ?_⟩
      rw [completed_release]
      rcases (h.toDisciplined.transition ht).2 with ⟨-, he⟩ | ⟨op, hop⟩
      · rwa [he]
      · have hs := h.serial.resolve_right (by simp [hasSubscriber, hop.live])
        rw [hop.completed, Serial.isConsistent_concat, ← hs]
        exact ⟨hc, hop.refusal⟩
  exact h.2

/-! ### Steps of one call -/

/-- Whether one state comes from another by steps of one call only. -/
structure OnlyBy (c : CallId) (g g' : Gateway) : Prop where
  reachable : g.Reachable → g'.Reachable
  handles : g'.handles = g.handles
  others : ∀ d ≠ c, g'.standing? d = g.standing? d

theorem OnlyBy.trans (h₁ : OnlyBy c g g₁) (h₂ : OnlyBy c g₁ g') : OnlyBy c g g' where
  reachable hg := h₂.reachable (h₁.reachable hg)
  handles := h₂.handles.trans h₁.handles
  others d hd := (h₂.others d hd).trans (h₁.others d hd)

theorem standing?_release (g : Gateway) (c : CallId) : g.release.standing? c = g.standing? c :=
  (keeps_release g).standing c

/-- A call can be started where nobody has its name. -/
theorem onlyBy_start (hh : Handle.tracker ∈ g.handles) (hf : g.call? c = none) (task : Task) :
    OnlyBy c g (g.enrol ⟨c, task, .tracker, 0, .created⟩).release where
  reachable hg := by
    refine hg.step (a := .start c .tracker task 0) ?_
    simp [step?, act?, start?, hh, hf, Handle.ownsTracker, enrol]
  handles := handles_release _
  others d hd := by
    rw [standing?_release]
    exact (standing?_enrol hf d).trans (if_neg hd)

theorem onlyBy_run (hk : g.call? c = some k) (hr : g.canRun k = true) (env : Surroundings) :
    OnlyBy c g (g.proceed env k).release where
  reachable hg := by
    refine hg.step (a := .run c env) ?_
    simp [step?, act?, runCall?, hk, hr]
  handles := (handles_release _).trans (turn_proceed env hk hr).handles
  others d hd := by
    rw [standing?_release]
    exact (turn_proceed env hk hr).standing? hd

/-! ### A call at a time -/

/-- Whether a call has ended with an answer. -/
def HasEnded (g : Gateway) (c : CallId) (task : Task) : Prop :=
  ∃ a, g.standing? c = some (task, .finished a)

/-- Whether nobody wants the lock, and calls can be started. -/
structure Calm (g : Gateway) : Prop where
  reachable : g.Reachable
  handle : Handle.tracker ∈ g.handles
  free : ∀ c task st, g.standing? c = some (task, st) → st.contends = false

theorem calm_create (settings : Settings) : (create settings [.tracker]).Calm where
  reachable := ⟨settings, [.tracker], [], rfl⟩
  handle := by simp [create]
  free := by simp [create, standing?, call?]

theorem Calm.of_onlyBy (h : g.Calm) (ho : OnlyBy c g g') {a : Answer}
    (hs : g'.standing? c = some (task, .finished a)) : g'.Calm where
  reachable := ho.reachable h.reachable
  handle := ho.handles ▸ h.handle
  free d task' st hd := by
    by_cases he : d = c
    · rw [he, hs] at hd
      obtain ⟨-, rfl⟩ := Prod.mk.inj (Option.some.inj hd)
      rfl
    · exact h.free d task' st (ho.others d he ▸ hd)

theorem Calm.exists_started (h : g.Calm) (hf : g.call? c = none) (task : Task) :
    ∃ g₁ k, OnlyBy c g g₁ ∧ g₁.call? c = some k ∧ k.task = task ∧ k.phase = .created ∧
      g₁.completed = g.completed := by
  have hd := (serialized_of_reachable h.reachable).toDisciplined
  let k : Call := ⟨c, task, .tracker, 0, .created⟩
  have hk : (g.enrol k).call? c = some k := by
    rw [call?_enrol, hf, Option.none_or, if_pos rfl]
  obtain ⟨k', hk', ht, hp⟩ := exists_call?_release hk
  refine ⟨_, k', onlyBy_start h.handle hf task, hk', ht, hp.elim id id, ?_⟩
  rw [completed_release]
  exact (hd.stays_start (k := k) hf).2

/-- The lock is free, so the first to ask for it has it. -/
theorem Calm.holder (h : g.Calm) (ho : OnlyBy c g g₁) (hk : g₁.call? c = some k)
    (hp : k.phase = .queued u) : g₁.lock.holder = some c := by
  have hd := (serialized_of_reachable (ho.reachable h.reachable)).toDisciplined
  have hmem : c ∈ g₁.lock.queue :=
    (hd.mem_line c).2 ⟨k.task, .queued u, standing?_of_phase hk hp, rfl⟩
  cases hl : g₁.lock.holder with
  | none => simp [Lock.queue, hl, hd.fair hl] at hmem
  | some d =>
    obtain ⟨task, st, hs, hst⟩ := (hd.mem_line d).1 (by simp [Lock.queue, hl])
    by_contra hne
    have hne : d ≠ c := fun he => hne (by rw [he])
    rw [ho.others d hne] at hs
    simp [h.free d task st hs] at hst

theorem Calm.exists_queued (h : g.Calm) (hf : g.call? c = none) (hu : task.update? = some u) :
    ∃ g₁ k, OnlyBy c g g₁ ∧ g₁.call? c = some k ∧ k.task = task ∧ k.phase = .queued u ∧
      g₁.completed = g.completed := by
  obtain ⟨g₁, k, ho, hk, rfl, hp, hcompleted⟩ := h.exists_started hf task
  have hd := (serialized_of_reachable (ho.reachable h.reachable)).toDisciplined
  have hr : g₁.canRun k = true := by simp [canRun, hp]
  obtain ⟨line, he⟩ := exists_begin_eq (g := g₁) hu
  have he : g₁.proceed .silent k = (g₁.logIfAny line).requestLock k u := by
    unfold proceed
    rw [hp]
    exact he
  have hqueued : (g₁.proceed .silent k).call? c = some { k with phase := .queued u } := by
    obtain rfl := id_of_call? hk
    rw [he]
    refine (call?_setPhase_self _ _ _).trans ?_
    have hlog : (g₁.logIfAny line).call? k.id = some k := by
      cases line <;> exact hk
    exact congrArg _ hlog
  obtain ⟨k', hk', ht', hp'⟩ := exists_call?_release hqueued
  refine ⟨_, k', ho.trans (onlyBy_run hk hr .silent), hk', ht', hp'.elim id id, ?_⟩
  rw [completed_release, he, ← hcompleted]
  exact (hd.stays_request hk hp u line).2

/-- A candidate that wants a connection waits for it. -/
theorem call?_consider_of_connect {l : Leader} (hk : g.call? k.id = some k) (env : Surroundings)
    (hd : g.writer.decide l = .connect) : (g.consider env k l).call? k.id =
      some { k with phase := .opening l (env.openDelay.map (g.now + ·)) } := by
  unfold consider
  rw [hd]
  exact (call?_setPhase_self _ _ _).trans (congrArg _ hk)

/-- The connection is ready at once, or refused at once. -/
theorem Calm.exists_opening (h : g.Calm) (ho : OnlyBy c g g₁) (hk : g₁.call? c = some k) {l : Leader}
    (hp : k.phase = .queued (.elect l)) (hd : g₁.writer.decide l = .connect) :
    ∃ g₂ k', OnlyBy c g g₂ ∧ g₂.call? c = some k' ∧ k'.task = k.task ∧
      k'.phase = .opening l (some g₂.now) ∧ g₂.completed = g₁.completed := by
  have hdisciplined := (serialized_of_reachable (ho.reachable h.reachable)).toDisciplined
  have hholder := h.holder ho hk hp
  obtain rfl := id_of_call? hk
  have hrun : g₁.canRun k = true := by simp [canRun, hp, hholder]
  have he : g₁.proceed .silent k = (g₁.enter (.locked k.id)).consider .silent k l := by
    simp only [proceed, hp]
  have hrooted : (g₁.proceed .silent k).Rooted :=
    hdisciplined.toRooted.outline (outline_of_transition (transition_proceed hk hrun))
  have hopening : (g₁.proceed .silent k).call? k.id =
      some { k with phase := .opening l (some g₁.now) } := by
    rw [he]
    exact call?_consider_of_connect (g := g₁.enter (.locked k.id)) hk .silent hd
  have hnow : (g₁.proceed .silent k).release.now = g₁.now := by
    rw [now_release]
    exact (turn_proceed .silent hk hrun).now
  have hstays := (hdisciplined.awaits_consider .silent hk hp hholder hd (he ▸ hrooted)).2
  obtain ⟨k', hk', ht, hp'⟩ := exists_call?_release hopening
  refine ⟨_, k', ho.trans (onlyBy_run hk hrun .silent), hk', ht, ?_, ?_⟩
  · rw [hnow]
    exact hp'.elim id id
  · rw [completed_release, he]
    exact hstays.2

/-- The state after a call has carried out its operation. -/
theorem Calm.of_completes (h : g.Calm) (ho : OnlyBy c g g₁) (hcompleted : g₁.completed = g.completed)
    (hk : g₁.call? c = some k) (hr : g₁.canRun k = true) (env : Surroundings)
    {refusal : Option TransportError}
    (hop : g₁.Completes ⟨c, k.task, u, refusal⟩ (g₁.proceed env k)) :
    ∃ g', g'.Calm ∧ OnlyBy c g g' ∧ g'.completed = g.completed ++ [⟨c, k.task, u, refusal⟩] := by
  have hdone : (g₁.proceed env k).release.completed =
      g.completed ++ [⟨c, k.task, u, refusal⟩] := by
    rw [completed_release, hop.completed, hcompleted]
  have hall := ho.trans (onlyBy_run hk hr env)
  have hmem : ⟨c, k.task, u, refusal⟩ ∈ (g₁.proceed env k).release.completed := by simp [hdone]
  obtain ⟨k', a, hk', hp', -⟩ := exists_call?_of_completed hmem
  exact ⟨_, h.of_onlyBy hall (standing?_of_phase hk' hp'), hall, hdone⟩

/-- Any operation can come next, refused or not if it wants a connection. -/
theorem Calm.exists_completed (h : g.Calm) (hf : g.call? c = none) (hu : task.update? = some u)
    {refusal : Option TransportError}
    (hr : refusal = refusalOf ((Serial.replay g.completed).perform ⟨c, task, u, refusal⟩).2) :
    ∃ g', g'.Calm ∧ OnlyBy c g g' ∧ g'.completed = g.completed ++ [⟨c, task, u, refusal⟩] := by
  obtain ⟨g₁, k, ho, hk, rfl, hp, hcompleted⟩ := h.exists_queued hf hu
  have h₁ := serialized_of_reachable (ho.reachable h.reachable)
  have hwriter : (Serial.replay g.completed).writer = g₁.writer := by
    rw [h₁.writer, hcompleted]
  have hholder := h.holder ho hk hp
  obtain rfl := id_of_call? hk
  have hrun : g₁.canRun k = true := by simp [canRun, hp, hholder]
  have hrooted : (g₁.proceed .silent k).Rooted :=
    h₁.toRooted.outline (outline_of_transition (transition_proceed hk hrun))
  cases u with
  | shutdown =>
    obtain rfl : refusal = none := hr
    have he : g₁.proceed .silent k = (g₁.enter (.locked k.id)).shutDown k := by
      simp only [proceed, hp]
    refine h.of_completes ho hcompleted hk hrun .silent ?_
    rw [he] at hrooted ⊢
    exact (h₁.completes_shutDown hk hp hholder hrooted).2
  | elect l =>
    by_cases hd : g₁.writer.decide l = .connect
    · obtain ⟨g₂, k', ho', hk', ht', hp', hcompleted'⟩ := h.exists_opening ho hk hp hd
      have h₂ := serialized_of_reachable (ho'.reachable h.reachable)
      have hid := id_of_call? hk'
      have hrun' : g₂.canRun k' = true := by simp [canRun, hp', isDue]
      let env : Surroundings := { Surroundings.silent with refusal := fun _ => refusal }
      have he : g₂.proceed env k' = g₂.completeOpen env k' l := by
        simp only [proceed, hp']
      have hrooted' : (g₂.proceed env k').Rooted :=
        h₂.toRooted.outline (outline_of_transition (transition_proceed hk' hrun'))
      rw [← ht']
      refine h.of_completes ho' (hcompleted'.trans hcompleted) hk' hrun' env ?_
      rw [he] at hrooted' ⊢
      rw [← hid] at hk' ⊢
      exact (h₂.completes_completeOpen env hk' hp' hrooted').2
    · obtain rfl : refusal = none :=
        hr.trans (Serial.refusalOf_elect (by rwa [hwriter]))
      have he : g₁.proceed .silent k = (g₁.enter (.locked k.id)).consider .silent k l := by
        simp only [proceed, hp]
      refine h.of_completes ho hcompleted hk hrun .silent ?_
      rw [he] at hrooted ⊢
      exact (h₁.completes_consider .silent hk hp hholder hd hrooted).2

/-- A notice that names no leader is answered at once, and that is all. -/
theorem Calm.exists_answered (h : g.Calm) (hf : g.call? c = none) {r : Except NoticeError Verdict}
    (hu : (Task.notice n).update? = none) (hr : n.outright? = some r) :
    ∃ g', g'.Calm ∧ OnlyBy c g g' ∧ g'.HasEnded c (.notice n) ∧ g'.completed = g.completed := by
  obtain ⟨g₁, k, ho, hk, ht, hp, hcompleted⟩ := h.exists_started hf (.notice n)
  have hd := (serialized_of_reachable (ho.reachable h.reachable)).toDisciplined
  have hrun : g₁.canRun k = true := by simp [canRun, hp]
  have hanswered := call?_proceed hk ht (hp ▸ .created) .silent
  rw [hp, Notice.next_created hr] at hanswered
  have hall := ho.trans (onlyBy_run hk hrun .silent)
  have hs : (g₁.proceed .silent k).release.standing? c =
      some (.notice n, .finished (n.report r)) := by
    rw [standing?_release, standing?_of_call? hanswered, ← ht]
    rfl
  refine ⟨_, h.of_onlyBy hall hs, hall, ⟨_, hs⟩, ?_⟩
  obtain rfl := id_of_call? hk
  have haside : UpToAnswer k.id (Aside k.id g₁) (g₁.proceed .silent k) :=
    aside_proceed .silent (by rw [hp]; rfl) fun _ => ht ▸ hu
  rw [completed_release, ← hcompleted]
  exact (hd.stays_aside hk (by rw [hp]; rfl) (by rw [hp]; rfl) haside).2

/-! ### Many calls, one after another -/

/-- A call that is to come to an end, and why a connection does not open for it, if it does not. -/
structure Attempt where
  call : CallId
  task : Task
  refusal : Option TransportError

def Attempt.operation? (a : Attempt) : Option Operation :=
  a.task.update?.map fun u => ⟨a.call, a.task, u, a.refusal⟩

theorem standing?_eq_none_iff : g.standing? c = none ↔ g.call? c = none :=
  Option.map_eq_none_iff

theorem OnlyBy.hasEnded_iff (ho : OnlyBy c g g') (hf : g.call? c = none)
    (hc : g'.HasEnded c task) (d : CallId) (task' : Task) :
    g'.HasEnded d task' ↔ g.HasEnded d task' ∨ c = d ∧ task = task' := by
  obtain ⟨a, hs⟩ := hc
  unfold HasEnded
  by_cases hd : d = c
  · subst hd
    rw [hs, standing?_eq_none_iff.2 hf]
    simp
  · simp [ho.others d hd, Ne.symm hd]

/-- Who has carried out an operation has ended. -/
theorem hasEnded_of_completed {op : Operation} (ho : op ∈ g.completed) :
    g.HasEnded op.call op.task := by
  obtain ⟨k, a, hk, hp, -, he⟩ := exists_call?_of_completed ho
  have ht : op.task = k.task := by rw [he]
  exact ⟨a, ht ▸ standing?_of_phase hk hp⟩

/-- What a call that concerns the tracker comes to, where it is the next. -/
theorem Calm.exists_attempt (h : g.Calm) (a : Attempt) (hf : g.call? a.call = none)
    (ht : a.task.concernsTracker = true)
    (hc : Serial.IsConsistent (g.completed ++ a.operation?.toList)) :
    ∃ g' : Gateway, g'.Calm ∧ OnlyBy a.call g g' ∧ g'.HasEnded a.call a.task ∧
      g'.completed = g.completed ++ a.operation?.toList := by
  obtain ⟨c, task, refusal⟩ := a
  cases hu : task.update? with
  | some u =>
    have hop : (Attempt.mk c task refusal).operation? = some ⟨c, task, u, refusal⟩ := by
      simp [Attempt.operation?, hu]
    rw [hop] at hc ⊢
    obtain ⟨g', hcalm, ho, hcompleted⟩ := h.exists_completed hf hu (Serial.isConsistent_concat.1 hc).2
    have hmem : ⟨c, task, u, refusal⟩ ∈ g'.completed := by simp [hcompleted]
    exact ⟨g', hcalm, ho, hasEnded_of_completed hmem, hcompleted⟩
  | none =>
    obtain ⟨n, r, rfl, hr⟩ := Task.exists_notice ht hu
    obtain ⟨g', hcalm, ho, hs, hcompleted⟩ := h.exists_answered hf hu hr
    exact ⟨g', hcalm, ho, hs, by simp [Attempt.operation?, hu, hcompleted]⟩

/-- Calls can come one after another, in any order and with any refusals. -/
theorem exists_calm (settings : Settings) (as : List Attempt) (hn : (as.map (·.call)).Nodup)
    (ht : ∀ a ∈ as, a.task.concernsTracker = true)
    (hc : Serial.IsConsistent (as.filterMap Attempt.operation?)) :
    ∃ g : Gateway, g.Calm ∧ g.completed = as.filterMap Attempt.operation? ∧
      (∀ d task, g.HasEnded d task ↔ ∃ a ∈ as, a.call = d ∧ a.task = task) ∧
      ∀ d ∉ as.map (·.call), g.call? d = none := by
  induction as using List.reverseRecOn with
  | nil =>
    refine ⟨create settings [.tracker], calm_create settings, rfl, ?_, fun _ _ => rfl⟩
    simp [HasEnded, create, standing?, call?]
  | append_singleton as a ih =>
    rw [List.map_append, List.nodup_append] at hn
    have hnew : a.call ∉ as.map (·.call) := fun hm => hn.2.2 _ hm a.call (by simp) rfl
    have hlast : [a].filterMap Attempt.operation? = a.operation?.toList := by
      cases hop : a.operation? <;> simp [hop]
    rw [List.filterMap_append, hlast] at hc ⊢
    obtain ⟨g, hcalm, hcompleted, hended, hfresh⟩ :=
      ih hn.1 (fun b hb => ht b (List.mem_append_left _ hb)) hc.of_append
    rw [← hcompleted] at hc ⊢
    obtain ⟨g', hcalm', ho, hs, hcompleted'⟩ :=
      hcalm.exists_attempt a (hfresh _ hnew) (ht a (by simp)) hc
    refine ⟨g', hcalm', hcompleted', fun d task => ?_, fun d hd => ?_⟩
    · rw [ho.hasEnded_iff (hfresh _ hnew) hs, hended]
      simp [or_and_right, exists_or]
    · rw [List.map_append, List.mem_append, not_or] at hd
      have hne : d ≠ a.call := by simpa using hd.2
      rw [← standing?_eq_none_iff, ho.others d hne, standing?_eq_none_iff]
      exact hfresh d hd.1

end Gateway

end LeaderRouting
