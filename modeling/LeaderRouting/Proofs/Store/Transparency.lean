import LeaderRouting.Proofs.Gateway.Mirroring
import LeaderRouting.Proofs.Waiting.Outcome

/-!
An operation is the submission of its request, and nothing else.  A run in which a call performs the
operation goes as the one in which it submits the request: what the one is told is the same failure as
what the other is told, or what the operation makes of the same message.
-/

namespace LeaderRouting

open Wire Message

namespace Gateway

/-! ### Tasks that send the same request -/

/-- Whether two tasks send the same request, and fail for the same results. -/
structure Task.Twins (t t' : Task) : Prop where
  sends : ∃ sub, t.submission? = some sub ∧ t'.submission? = some sub
  delivers : ∀ payload, (∃ a a', t.delivered payload = .ok a ∧ t'.delivered payload = .ok a') ∨
    ∃ e, t.delivered payload = .error e ∧ t'.delivered payload = .error e

/-- How the phases of calls with two such tasks stand to each other. -/
inductive Task.Renders (t t' : Task) : Phase → Phase → Prop
  | same {p p' : Phase} (unended : p.ended = false) (woken : p'.wake = p.wake) : Renders t t' p p'
  | abandoned : Renders t t' .abandoned .abandoned
  | failed (e : GatewayError) : Renders t t' (.finished (t.failed e)) (.finished (t'.failed e))
  | delivered {payload : Bytes} {a a' : Answer} (delivered : t.delivered payload = .ok a)
      (delivered' : t'.delivered payload = .ok a') : Renders t t' (.finished a) (.finished a')

/-- Whether calls with two such tasks have come equally far. -/
structure Task.Agree (t t' : Task) (k k' : Call) : Prop where
  task : k.task = t
  task' : k'.task = t'
  owner : k'.owner = k.owner
  seen : k'.seen = k.seen
  phase : t.Renders t' k.phase k'.phase

variable {t t' : Task} {g g' g₁ : Gateway} {c : CallId} {k k' : Call} {p p' : Phase} {a a' : Answer}
  {env : Surroundings} {sub : Submission}

theorem Task.Twins.symm (h : t.Twins t') : t'.Twins t where
  sends := by
    obtain ⟨sub, hs, hs'⟩ := h.sends
    exact ⟨sub, hs', hs⟩
  delivers payload := by
    rcases h.delivers payload with ⟨a, a', ha, ha'⟩ | ⟨e, he, he'⟩
    · exact .inl ⟨a', a, ha', ha⟩
    · exact .inr ⟨e, he', he⟩

theorem Phase.ended_eq_of_wake_eq (h : p'.wake = p.wake) : p'.ended = p.ended := by
  rw [← p'.ended_wake, h, p.ended_wake]

theorem Task.Renders.ended_eq (h : t.Renders t' p p') : p'.ended = p.ended := by
  cases h with
  | same _ hw => exact Phase.ended_eq_of_wake_eq hw
  | _ => rfl

theorem Task.Renders.wake_eq (h : t.Renders t' p p') (hu : p.ended = false) : p'.wake = p.wake := by
  cases h with
  | same _ hw => exact hw
  | _ => cases hu

theorem Task.Renders.wake (h : t.Renders t' p p') : t.Renders t' p.wake p' ∧ t.Renders t' p p'.wake := by
  cases h with
  | same hu hw => exact ⟨.same (p.ended_wake.trans hu) (hw.trans p.wake_wake.symm),
      .same hu (p'.wake_wake.trans hw)⟩
  | abandoned => exact ⟨.abandoned, .abandoned⟩
  | failed e => exact ⟨.failed e, .failed e⟩
  | delivered h h' => exact ⟨.delivered h h', .delivered h h'⟩

theorem Task.Renders.symm (h : t.Renders t' p p') : t'.Renders t p' p := by
  cases h with
  | same hu hw => exact .same ((Phase.ended_eq_of_wake_eq hw).trans hu) hw.symm
  | abandoned => exact .abandoned
  | failed e => exact .failed e
  | delivered h h' => exact .delivered h' h

/-- For the same result two such tasks are told the same. -/
theorem Task.Twins.renders_conclusion (h : t.Twins t') (request : RequestId)
    (r : Except TransportError Response) :
    t.Renders t' (.finished (t.conclusion request r)) (.finished (t'.conclusion request r)) := by
  unfold Task.conclusion
  cases r with
  | error e => exact .failed _
  | ok response =>
    dsimp only
    rcases h.delivers response.result with ⟨a, a', ha, ha'⟩ | ⟨e, he, he'⟩
    · rw [ha, ha']
      exact .delivered ha ha'
    · rw [he, he']
      exact .failed _

/-- Where two phases differ at most in who was woken, and those who sleep are woken alike, they do not
differ. -/
theorem Phase.eq_of_wake_eq {stirred : Bool} (h : p'.wake = p.wake)
    (hp : ∀ deadline woken, p = .suspended deadline woken → woken = stirred)
    (hp' : ∀ deadline woken, p' = .suspended deadline woken → woken = stirred) : p' = p := by
  cases p with
  | suspended deadline woken =>
    cases p' with
    | suspended deadline' woken' =>
      obtain ⟨rfl, -⟩ := Phase.suspended.inj h
      rw [hp _ _ rfl, hp' _ _ rfl]
    | _ => cases h
  | _ => cases p' <;> first | exact h | cases h

/-! ### Steps of the two calls -/

/-- Whether a call with the one task and a call with the other have come equally far. -/
def Echoed (t t' : Task) (c : CallId) (g g' : Gateway) : Prop :=
  ∃ k k', g.call? c = some k ∧ g'.call? c = some k' ∧ t.Agree t' k k'

theorem Echoed.enter (h : Echoed t t' c g g') (f f' : Fact) :
    Echoed t t' c (g.enter f) (g'.enter f') :=
  h

theorem Echoed.log (h : Echoed t t' c g g') (line line' : LogLine) :
    Echoed t t' c (g.log line) (g'.log line') :=
  h

theorem Echoed.logIfAny (h : Echoed t t' c g g') (line line' : Option LogLine) :
    Echoed t t' c (g.logIfAny line) (g'.logIfAny line') := by
  cases line <;> cases line' <;> exact h

theorem Echoed.setPhase (h : Echoed t t' c g g') (hp : p.ended = false) :
    Echoed t t' c (g.setPhase c p) (g'.setPhase c p) := by
  obtain ⟨k, k', hk, hk', hpair⟩ := h
  refine ⟨{ k with phase := p }, { k' with phase := p }, ?_, ?_, { hpair with phase := .same hp rfl }⟩
  · rw [call?_setPhase_self, hk, Option.map_some]
  · rw [call?_setPhase_self, hk', Option.map_some]

theorem Echoed.setSeen (h : Echoed t t' c g g') (version : Nat) :
    Echoed t t' c (g.setSeen c version) (g'.setSeen c version) := by
  obtain ⟨k, k', hk, hk', hpair⟩ := h
  refine ⟨{ k with seen := version }, { k' with seen := version }, ?_, ?_, { hpair with seen := rfl }⟩
  · rw [call?_setSeen, if_pos rfl, hk, Option.map_some]
  · rw [call?_setSeen, if_pos rfl, hk', Option.map_some]

theorem Echoed.finish (h : Echoed t t' c g g') (hr : t.Renders t' (.finished a) (.finished a')) :
    Echoed t t' c (g.finish c a) (g'.finish c a') := by
  obtain ⟨k, k', hk, hk', hpair⟩ := h
  refine ⟨{ k with phase := .finished a }, { k' with phase := .finished a' }, ?_, ?_,
    { hpair with phase := hr }⟩
  · rw [call?_finish, if_pos rfl, hk, Option.map_some]
  · rw [call?_finish, if_pos rfl, hk', Option.map_some]

/-- Whether two calls with the tasks are about to take the same step. -/
structure InStep (t t' : Task) (g g' : Gateway) (k k' : Call) : Prop where
  twins : t.Twins t'
  alike : Alike (· == k.id) g g'
  settings : g'.settings = g.settings
  echoed : Echoed t t' k.id g g'
  id : k'.id = k.id
  task : k.task = t
  task' : k'.task = t'
  seen : k'.seen = k.seen
  phase : k'.phase = k.phase

theorem waitLimit_of_submission (hs : k.task.submission? = some sub) :
    g.waitLimit k = g.settings.leaderWaitTimeout := by
  unfold waitLimit
  cases ht : k.task with
  | wait limit => simp [ht, Task.submission?] at hs
  | _ => rfl

namespace InStep

variable (h : InStep t t' g g' k k')

include h

theorem fail {x x' : Gateway} (hx : Echoed t t' k.id x x') (e : GatewayError) :
    Echoed t t' k.id (x.fail k e) (x'.fail k' e) := by
  unfold Gateway.fail
  rw [h.id, h.task, h.task']
  exact hx.finish (.failed e)

theorem found (s : Snapshot) : Echoed t t' k.id (g.found k s) (g'.found k' s) := by
  obtain ⟨sub, hs, hs'⟩ := h.twins.sends
  unfold Gateway.found
  rw [h.task, h.task', hs, hs', h.id]
  exact h.echoed.setPhase rfl

theorem waitLimit : g'.waitLimit k' = g.waitLimit k := by
  obtain ⟨sub, hs, hs'⟩ := h.twins.sends
  have hk : k.task.submission? = some sub := h.task ▸ hs
  have hk' : k'.task.submission? = some sub := h.task' ▸ hs'
  rw [waitLimit_of_submission hk, waitLimit_of_submission hk', h.settings]

theorem beginWait : Echoed t t' k.id (g.beginWait k) (g'.beginWait k') := by
  unfold Gateway.beginWait
  rw [h.alike.channel]
  split
  · exact h.found _
  · exact h.fail h.echoed _
  · rw [h.alike.now, h.waitLimit, h.id]
    exact (h.echoed.log _ _).setPhase rfl

theorem look (deadline : Option Nat) : Echoed t t' k.id (g.look k deadline) (g'.look k' deadline) := by
  unfold Gateway.look
  rw [h.alike.channel]
  split
  · exact h.found _
  · exact h.fail h.echoed _
  · rw [h.id]
    exact h.echoed.setPhase rfl

theorem check (deadline : Option Nat) :
    Echoed t t' k.id (g.check k deadline) (g'.check k' deadline) := by
  unfold Gateway.check
  rw [h.alike.channel, h.seen, h.id]
  split_ifs
  · exact (h.echoed.setSeen _).setPhase rfl
  · exact h.fail h.echoed _
  · exact h.echoed.setPhase rfl

theorem wakeUp (deadline : Option Nat) (woken : Bool) :
    Echoed t t' k.id (g.wakeUp k deadline woken) (g'.wakeUp k' deadline woken) := by
  unfold Gateway.wakeUp
  rw [h.waitLimit, h.id]
  split_ifs
  · exact h.echoed.setPhase rfl
  · split
    · exact h.echoed
    · exact h.fail h.echoed _

theorem supersede {x x' : Gateway} (hx : Echoed t t' k.id x x') (s : Snapshot)
    (request : RequestId) : Echoed t t' k.id (x.supersede k s request) (x'.supersede k' s request) :=
  h.fail (hx.log _ _) _

theorem conclude {x x' : Gateway} (hx : Echoed t t' k.id x x') (s : Snapshot) (request : RequestId)
    (r : Except TransportError Response) :
    Echoed t t' k.id (x.conclude k s request r) (x'.conclude k' s request r) := by
  obtain ⟨line, he⟩ := conclude_eq x k s request r
  obtain ⟨line', he'⟩ := conclude_eq x' k' s request r
  rw [he, he', h.id, h.task, h.task']
  exact (hx.logIfAny line line').finish (h.twins.renders_conclusion request r)

theorem letIn {x x' : Gateway} (hx : Echoed t t' k.id x x') (a : Admission) :
    Echoed t t' k.id (x.letIn k a) (x'.letIn k' a) := by
  unfold Gateway.letIn
  rw [h.id]
  exact (hx.enter _ _).setPhase rfl

theorem handOver (a : Admission) :
    Echoed t t' k.id (g.handOver env k a) (g'.handOver env k' a) := by
  unfold Gateway.handOver
  rw [h.id, h.alike.now, h.settings]
  exact (h.echoed.enter _ _).setPhase rfl

theorem send (s : Snapshot) (sub : Submission) :
    Echoed t t' k.id (g.send env k s sub) (g'.send env k' s sub) := by
  have hconnection : ∀ line, (g'.log line).connection? s.connection =
      (g.log line).connection? s.connection := fun _ => congrArg (·[s.connection]?) h.alike.connections
  have hsettings : ∀ line, (g'.log line).settings = (g.log line).settings := fun _ => h.settings
  unfold Gateway.send
  dsimp only
  rw [hconnection, hsettings]
  split
  · exact h.conclude (h.echoed.log _ _) _ _ _
  · split_ifs
    · exact h.supersede (h.echoed.log _ _) _ _
    · exact h.conclude (h.echoed.log _ _) _ _ _
    · exact h.letIn (h.echoed.log _ _) _

theorem land (f : InFlight) : Echoed t t' k.id (g.land env k f) (g'.land env k' f) := by
  have hsuperseded : g'.isSuperseded f = g.isSuperseded f := by
    unfold Gateway.isSuperseded
    rw [h.settings, h.alike.isRetired]
  unfold Gateway.land
  dsimp only
  rw [h.alike.isDue, h.alike.isDue, hsuperseded, h.settings]
  split_ifs
  · exact h.supersede h.echoed _ _
  · exact h.conclude (h.echoed.enter _ _) _ _ _
  · exact h.fail (h.echoed.log _ _) _

/-- Calls that send the same request take the same step, and are told the same. -/
theorem proceed (hu : k.phase.ended = false) (hf : k.phase.contends = false) :
    Echoed t t' k.id (g.proceed env k) (g'.proceed env k') := by
  obtain ⟨sub, hs, hs'⟩ := h.twins.sends
  unfold Gateway.proceed
  rw [h.phase]
  cases hp : k.phase with
  | created =>
    have hbegin : ∀ {g : Gateway} {k : Call}, k.task.submission? = some sub →
        g.begin k = g.beginWait k := by
      intro g k hs
      unfold Gateway.begin
      cases ht : k.task <;> first | rfl | simp [ht, Task.submission?] at hs
    dsimp only
    rw [hbegin (h.task ▸ hs), hbegin (h.task' ▸ hs')]
    exact h.beginWait
  | reading deadline => exact h.look deadline
  | checking deadline => exact h.check deadline
  | suspended deadline woken => exact h.wakeUp deadline woken
  | sending s =>
    dsimp only
    rw [h.task, h.task', hs, hs']
    exact h.send s sub
  | admitted a => exact h.handOver a
  | inFlight f => exact h.land f
  | queued u => simp [hp, Phase.contends] at hf
  | opening l openedAt => simp [hp, Phase.contends] at hf
  | finished a => simp [hp, Phase.ended] at hu
  | abandoned => simp [hp, Phase.ended] at hu

end InStep

/-! ### Runs -/

/-- A step of a call that sends a request shows nowhere else. -/
theorem alike_proceed (env : Surroundings) (hg : g.Reachable) (hk : g.call? k.id = some k)
    (hs : k.task.submission? = some sub) : Alike (· == k.id) g (g.proceed env k) := by
  have hd := (serialized_of_reachable hg).toDisciplined
  have haside := aside_proceed (g := g) env (hd.free_of_submission hk hs)
    fun _ => update?_of_submission? hs
  exact haside.alike (by simp)

theorem Task.Twins.keepsPace (h : t.Twins t') (c : CallId) : KeepsPace (t.Agree t') c where
  abreast hpair := ⟨by rw [hpair.owner], hpair.phase.ended_eq, hpair.phase.wake_eq⟩
  wake hpair := ⟨{ hpair with phase := hpair.phase.wake.1 }, { hpair with phase := hpair.phase.wake.2 }⟩
  abandon hpair := { hpair with phase := .abandoned }
  phase {g g' k k'} hm hk hk' hpair hu := by
    obtain ⟨sub, hs, hs'⟩ := h.sends
    have ht : k.task.concernsTracker = false :=
      Task.concernsTracker_of_submission? (by rw [hpair.task, hs]; rfl)
    have ht' : k'.task.concernsTracker = false :=
      Task.concernsTracker_of_submission? (by rw [hpair.task', hs']; rfl)
    have hstirred : g'.isStirred = g.isStirred := by simp [isStirred, hm.alike.channel]
    exact Phase.eq_of_wake_eq (hpair.phase.wake_eq hu)
      (fun _ _ => (vigilantAt_of_reachable hm.reachable c).woken hk ht)
      fun _ _ hp => ((vigilantAt_of_reachable hm.reachable' c).woken hk' ht' hp).trans hstirred
  run {g g' k k' env} hm hk hk' hpair hphase hr hr' := by
    obtain ⟨sub, hs, hs'⟩ := h.sends
    obtain rfl := id_of_call? hk
    have hid := id_of_call? hk'
    rw [← hid] at hk'
    have hstep := alike_proceed env hm.reachable hk (hpair.task ▸ hs)
    have hstep' := alike_proceed env hm.reachable' hk' (hpair.task' ▸ hs')
    rw [hid] at hstep' hk'
    have hin : InStep t t' g g' k k' := ⟨h, hm.alike, hm.settings, ⟨k, k', hk, hk', hpair⟩, hid,
      hpair.task, hpair.task', hpair.seen, hphase⟩
    have hfree := (serialized_of_reachable hm.reachable).free_of_submission hk (hpair.task ▸ hs)
    refine ⟨?_, (hstep.symm.trans hm.alike).trans hstep', hin.proceed (ended_of_canRun hr) hfree⟩
    exact (turn_proceed env hk' hr').settings.trans
      (hm.settings.trans (turn_proceed env hk hr).settings.symm)

theorem Task.Agree.symm (h : t.Agree t' k k') : t'.Agree t k' k where
  task := h.task'
  task' := h.task
  owner := h.owner.symm
  seen := h.seen.symm
  phase := h.phase.symm

theorem Mirrored.Sound.symm (h : Mirrored.Sound (t.Agree t') c g g') :
    Mirrored.Sound (t'.Agree t) c g' g where
  settings := h.settings.symm
  alike := h.alike.symm
  call := by
    obtain ⟨k, k', hk, hk', hpair⟩ := h.call
    exact ⟨k', k, hk', hk, hpair.symm⟩
  reachable := h.reachable'
  reachable' := h.reachable

/-- Where a run goes on with one of two such tasks, one goes on alike with the other. -/
theorem Task.Twins.mirrored_run {handle : Handle} {seen : Nat} {rest : List Action} (h : t.Twins t')
    (hg : g.Reachable) (hr : g.run? (.start c handle t seen :: rest) = some g₁) :
    ∃ g₁', g.run? (.start c handle t' seen :: rest) = some g₁' ∧
      Mirrored.Sound (t.Agree t') c g₁ g₁' := by
  obtain ⟨sub, hs, hs'⟩ := h.sends
  have hfree := Task.concernsTracker_of_submission? (Option.isSome_of_eq_some hs')
  obtain ⟨g₂, hstep, -⟩ := Option.bind_eq_some_iff.1 hr
  obtain ⟨x, hc, -⟩ := exists_course_of_step? hstep
  cases hc with
  | start _ hh _ hv =>
    refine hg.mirrored_run (h.keepsPace c) hh (by simp [hfree]) hv (fun _ => ?_) hr
    exact ⟨rfl, rfl, rfl, rfl, .same rfl rfl⟩
  | around _ hn => cases hn

end Gateway

open Gateway

/-! ### Operations -/

namespace TableOperation

/-- How far a call has come that performs an operation, where one has come this far that submits its
request. -/
inductive Renders (op : TableOperation) : Phase → Phase → Prop
  | same {p : Phase} (unended : p.ended = false) : Renders op p p
  | abandoned : Renders op .abandoned .abandoned
  | failed (e : GatewayError) :
      Renders op (.finished (.message (.error e))) (.finished (.table (.error e)))
  | delivered (m : op.submission.result.Value) :
      Renders op (.finished (.message (.ok ⟨op.submission.result, m⟩)))
        (.finished (.table (.ok (op.interpret m))))

/-- Whether a call submits the request of an operation in one state and performs the operation in the
other, and all else is the same, but for what the journal says of the call and for log lines. -/
structure Echoes (op : TableOperation) (c : CallId) (g g' : Gateway) : Prop where
  settings : g'.settings = g.settings
  alike : Alike (· == c) g g'
  call : ∃ k k', g.call? c = some k ∧ g'.call? c = some k' ∧ k.task = .submit op.submission ∧
    k'.task = .table op ∧ op.Renders k.phase k'.phase

variable {op : TableOperation} {g g₁ g' : Gateway} {c : CallId} {handle : Handle} {seen : Nat}
  {rest : List Action}

theorem delivered_submit (sub : Submission) (payload : Bytes) :
    (Task.submit sub).delivered payload =
      (sub.result.schema.decode payload).map fun m => .message (.ok ⟨sub.result, m⟩) :=
  rfl

theorem delivered_table (op : TableOperation) (payload : Bytes) :
    (Task.table op).delivered payload =
      (op.submission.result.schema.decode payload).map fun m => .table (.ok (op.interpret m)) :=
  rfl

theorem twins (op : TableOperation) : (Task.submit op.submission).Twins (.table op) where
  sends := ⟨op.submission, rfl, rfl⟩
  delivers payload := by
    rw [delivered_submit, delivered_table]
    cases op.submission.result.schema.decode payload with
    | ok m => exact .inl ⟨_, _, rfl, rfl⟩
    | error e => exact .inr ⟨e, rfl, rfl⟩

theorem echoes_of_mirrored
    (h : Mirrored.Sound ((Task.submit op.submission).Agree (.table op)) c g g') : op.Echoes c g g' where
  settings := h.settings
  alike := h.alike
  call := by
    obtain ⟨k, k', hk, hk', hpair⟩ := h.call
    refine ⟨k, k', hk, hk', hpair.task, hpair.task', ?_⟩
    have hsame := (op.twins.keepsPace c).phase h hk hk' hpair
    have hrenders := hpair.phase
    generalize k.phase = p, k'.phase = p' at hsame hrenders
    cases hrenders with
    | same hu =>
      rw [hsame hu]
      exact .same hu
    | abandoned => exact .abandoned
    | failed e => exact .failed e
    | @delivered payload _ _ hd hd' =>
      rw [delivered_submit] at hd
      rw [delivered_table] at hd'
      cases hm : op.submission.result.schema.decode payload with
      | error e =>
        rw [hm] at hd
        cases hd
      | ok m =>
        rw [hm] at hd hd'
        obtain rfl := Except.ok.inj hd
        obtain rfl := Except.ok.inj hd'
        exact .delivered m

/-- Whatever becomes of the submission of a request becomes of the operation, -/
theorem exists_echo (hg : g.Reachable)
    (hr : g.run? (.start c handle (.submit op.submission) seen :: rest) = some g₁) :
    ∃ g₁', g.run? (.start c handle (.table op) seen :: rest) = some g₁' ∧ op.Echoes c g₁ g₁' := by
  obtain ⟨g₁', hr', h⟩ := op.twins.mirrored_run hg hr
  exact ⟨g₁', hr', echoes_of_mirrored h⟩

/-- and nothing else does. -/
theorem exists_echoed (hg : g.Reachable)
    (hr : g.run? (.start c handle (.table op) seen :: rest) = some g₁) :
    ∃ g₁', g.run? (.start c handle (.submit op.submission) seen :: rest) = some g₁' ∧
      op.Echoes c g₁' g₁ := by
  obtain ⟨g₁', hr', h⟩ := op.twins.symm.mirrored_run hg hr
  exact ⟨g₁', hr', echoes_of_mirrored h.symm⟩

end TableOperation

end LeaderRouting
