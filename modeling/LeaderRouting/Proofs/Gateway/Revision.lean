import LeaderRouting.Proofs.Tracker.Release

/-!
Other bytes for the same messages.  A gateway keeps bytes in two places only, in the message that
brings a notice and in the result that comes back for a request, and it never looks at them but to
decode them.  So whoever puts other bytes there that decode to the same has changed nothing else.
-/

namespace LeaderRouting

open Wire

def Response.revise (f : Bytes → Bytes) (r : Response) : Response :=
  { r with result := f r.result }

def Outcome.revise (f : Bytes → Bytes) : Outcome → Outcome
  | .ok result => .ok (f result)
  | .error message => .error message

def StoreReply.revise (f : Bytes → Bytes) : StoreReply → StoreReply
  | .response m => .response { m with result := m.result.map (·.revise f) }
  | r => r

def Feedback.revise (f : Bytes → Bytes) : Feedback → Feedback
  | .store r => .store (r.revise f)
  | r => r

/-- Surroundings whose replies carry other bytes. -/
def Surroundings.revise (f : Bytes → Bytes) (env : Surroundings) : Surroundings :=
  { env with
    reply := fun m request =>
      let reply := env.reply m request
      { reply with feedback := reply.feedback.revise f } }

def Notice.revise (f : Bytes → Bytes) : Notice → Notice
  | .message payload => .message (f payload)
  | n => n

namespace Gateway

def Task.revise (f : Bytes → Bytes) : Task → Task
  | .notice n => .notice (n.revise f)
  | t => t

def Phase.revise (f : Bytes → Bytes) : Phase → Phase
  | .inFlight x => .inFlight { x with feedback := x.feedback.revise f }
  | p => p

/-- Each call may have bytes of its own. -/
def Call.revise (φ : CallId → Bytes → Bytes) (k : Call) : Call :=
  { k with task := k.task.revise (φ k.id), phase := k.phase.revise (φ k.id) }

def Fact.revise (φ : CallId → Bytes → Bytes) : Fact → Fact
  | .replied c feedback => .replied c (feedback.revise (φ c))
  | f => f

def Action.revise (φ : CallId → Bytes → Bytes) : Action → Action
  | .start c handle task seen => .start c handle (task.revise (φ c)) seen
  | .run c env => .run c (env.revise (φ c))
  | a => a

end Gateway

open Gateway

/-- The state with other bytes in its calls, and in what its journal says came back for them. -/
def Gateway.revise (φ : CallId → Bytes → Bytes) (g : Gateway) : Gateway :=
  { g with
    calls := g.calls.map (Call.revise φ)
    journal := g.journal.map fun e => { e with fact := e.fact.revise φ } }

/-- Whether other bytes mean the same to a task. -/
structure Gateway.Task.Tolerates (f : Bytes → Bytes) (task : Task) : Prop where
  announced : ∀ payload, task = .notice (.message payload) →
    Announcement.decode (f payload) = Announcement.decode payload
  delivered : ∀ sub, task.submission? = some sub → ∀ payload,
    sub.result.schema.decode (f payload) = sub.result.schema.decode payload

/-- Whether each call can have its other bytes. -/
def Gateway.Tolerates (φ : CallId → Bytes → Bytes) (g : Gateway) : Prop :=
  ∀ c k, g.call? c = some k → k.task.Tolerates (φ c)

def Gateway.Action.Tolerates (φ : CallId → Bytes → Bytes) : Action → Prop
  | .start c _ task _ => task.Tolerates (φ c)
  | _ => True

variable {f : Bytes → Bytes} {φ : CallId → Bytes → Bytes} {g g' : Gateway} {c : CallId}

/-! ### Replies -/

theorem StoreReply.result_revise (f : Bytes → Bytes) (r : StoreReply) :
    (r.revise f).result = r.result.map (Response.revise f) := by
  cases r with
  | response m =>
    obtain ⟨id, outcome⟩ := m
    rcases outcome with _ | (_ | _) <;> rfl
  | garbled e => rfl
  | status s => rfl

theorem Feedback.result_revise (f : Bytes → Bytes) (r : Feedback) :
    (r.revise f).result = r.result.map (Response.revise f) := by
  cases r with
  | store r => exact r.result_revise f
  | connection e => rfl

namespace Gateway

/-! ### Tasks and phases -/

namespace Task

@[simp] theorem submission?_revise (f : Bytes → Bytes) (t : Task) :
    (t.revise f).submission? = t.submission? := by
  cases t <;> rfl

@[simp] theorem concernsTracker_revise (f : Bytes → Bytes) (t : Task) :
    (t.revise f).concernsTracker = t.concernsTracker := by
  cases t <;> rfl

@[simp] theorem failed_revise (f : Bytes → Bytes) (t : Task) (e : GatewayError) :
    (t.revise f).failed e = t.failed e := by
  cases t <;> rfl

theorem Tolerates.delivered_revise {t : Task} (h : t.Tolerates f) (payload : Bytes) :
    (t.revise f).delivered (f payload) = t.delivered payload := by
  cases t with
  | submit sub => simp only [revise, Task.delivered, h.delivered sub rfl payload]
  | table op => simp only [revise, Task.delivered, h.delivered op.submission rfl payload]
  | notice n => rfl
  | shutdown => rfl
  | wait limit => rfl

theorem Tolerates.leader_revise {n : Notice} (h : (Task.notice n).Tolerates f) :
    (n.revise f).leader = n.leader := by
  cases n with
  | message payload => exact h.announced payload rfl
  | direct l => rfl
  | served event => rfl

end Task

@[simp] theorem answer_revise (f : Bytes → Bytes) (n : Notice) (r : Except TransportError Verdict) :
    (n.revise f).answer r = n.answer r := by
  cases n <;> cases r <;> rfl

@[simp] theorem refusal_revise (f : Bytes → Bytes) (n : Notice) (e : AnnouncementError) :
    (n.revise f).refusal e = n.refusal e := by
  cases n <;> rfl

@[simp] theorem line?_revise (f : Bytes → Bytes) (n : Notice) : (n.revise f).line? = n.line? := by
  cases n <;> rfl

namespace Phase

@[simp] theorem ended_revise (f : Bytes → Bytes) (p : Phase) : (p.revise f).ended = p.ended := by
  cases p <;> rfl

@[simp] theorem isWaiting_revise (f : Bytes → Bytes) (p : Phase) :
    (p.revise f).isWaiting = p.isWaiting := by
  cases p <;> rfl

@[simp] theorem snapshot?_revise (f : Bytes → Bytes) (p : Phase) :
    (p.revise f).snapshot? = p.snapshot? := by
  cases p <;> rfl

@[simp] theorem answer?_revise (f : Bytes → Bytes) (p : Phase) : (p.revise f).answer? = p.answer? := by
  cases p <;> rfl

theorem wake_revise (f : Bytes → Bytes) (p : Phase) : (p.revise f).wake = p.wake.revise f := by
  cases p <;> rfl

end Phase

/-! ### What the bytes do not show in -/

section

variable (φ : CallId → Bytes → Bytes) (g : Gateway)

@[simp] theorem settings_revise : (g.revise φ).settings = g.settings := rfl

@[simp] theorem now_revise : (g.revise φ).now = g.now := rfl

@[simp] theorem writer_revise : (g.revise φ).writer = g.writer := rfl

@[simp] theorem lock_revise : (g.revise φ).lock = g.lock := rfl

@[simp] theorem channel_revise : (g.revise φ).channel = g.channel := rfl

@[simp] theorem connections_revise : (g.revise φ).connections = g.connections := rfl

@[simp] theorem handles_revise : (g.revise φ).handles = g.handles := rfl

@[simp] theorem connection?_revise (n : Nat) : (g.revise φ).connection? n = g.connection? n := rfl

@[simp] theorem isDue_revise (time : Option Nat) : (g.revise φ).isDue time = g.isDue time := rfl

theorem call?_revise (c : CallId) : (g.revise φ).call? c = (g.call? c).map (Call.revise φ) :=
  call?_map g (f := Call.revise φ) (fun _ => rfl) c

/-- What a call answers does not show in which bytes it came. -/
theorem answer?_call?_revise (c : CallId) :
    ((g.revise φ).call? c).map (·.phase.answer?) = (g.call? c).map (·.phase.answer?) := by
  rw [call?_revise]
  cases g.call? c <;> simp [Call.revise]

@[simp] theorem trackerHeld_revise : (g.revise φ).trackerHeld = g.trackerHeld := by
  simp [trackerHeld, Gateway.revise, List.any_map, Function.comp_def, Call.revise]

@[simp] theorem channelHeld_revise : (g.revise φ).channelHeld = g.channelHeld := by
  simp [channelHeld, Gateway.revise, List.any_map, Function.comp_def, Call.revise]

@[simp] theorem hasSubscriber_revise : (g.revise φ).hasSubscriber = g.hasSubscriber := by
  simp [hasSubscriber]

@[simp] theorem isReferenced_revise (n : Nat) : (g.revise φ).isReferenced n = g.isReferenced n := by
  have hcalls : (g.revise φ).calls.filterMap (·.phase.snapshot?) =
      g.calls.filterMap (·.phase.snapshot?) := by
    simp [Gateway.revise, List.filterMap_map, Function.comp_def, Call.revise]
  simp only [isReferenced, snapshots, hcalls, channelHeld_revise]
  rfl

/-! ### Small changes -/

theorem revise_enter (x : Fact) : (g.enter x).revise φ = (g.revise φ).enter (x.revise φ) := by
  simp [enter, Gateway.revise]

theorem revise_log (line : LogLine) : (g.log line).revise φ = (g.revise φ).log line :=
  g.revise_enter φ (.logged line)

theorem revise_logIfAny (line : Option LogLine) :
    (g.logIfAny line).revise φ = (g.revise φ).logIfAny line := by
  cases line with
  | none => rfl
  | some line => exact g.revise_log φ line

theorem revise_setPhase (c : CallId) (p : Phase) :
    (g.setPhase c p).revise φ = (g.revise φ).setPhase c (p.revise (φ c)) := by
  simp only [setPhase, Gateway.revise, List.map_map]
  congr 2
  funext k
  by_cases hk : k.id = c <;> simp [Call.revise, hk]

theorem revise_setSeen (c : CallId) (version : Nat) :
    (g.setSeen c version).revise φ = (g.revise φ).setSeen c version := by
  simp only [setSeen, Gateway.revise, List.map_map]
  congr 2
  funext k
  by_cases hk : k.id = c <;> simp [Call.revise, hk]

theorem revise_wakeAll : g.wakeAll.revise φ = (g.revise φ).wakeAll := by
  simp only [wakeAll, Gateway.revise, List.map_map]
  congr 2
  funext k
  simp [Call.revise, Phase.wake_revise]

theorem revise_finish (c : CallId) (a : Answer) :
    (g.finish c a).revise φ = (g.revise φ).finish c a := by
  unfold finish
  rw [revise_enter, revise_setPhase, revise_logIfAny]
  rfl

theorem revise_publish (v : Published) : (g.publish v).revise φ = (g.revise φ).publish v := by
  unfold publish
  rw [hasSubscriber_revise]
  split_ifs
  · rw [revise_wakeAll, revise_enter]
    rfl
  · rfl

theorem revise_closeConnection (n : Nat) :
    (g.closeConnection n).revise φ = (g.revise φ).closeConnection n := by
  unfold closeConnection
  rw [connection?_revise]
  cases g.connection? n with
  | none => rfl
  | some k =>
    dsimp only
    split_ifs
    · rfl
    · rw [revise_log, revise_enter]
      rfl

theorem revise_closePrevious (previous : Option Snapshot) :
    (g.closePrevious previous).revise φ = (g.revise φ).closePrevious previous := by
  cases previous with
  | none => rfl
  | some s => exact g.revise_closeConnection φ s.connection

theorem revise_install (s : Snapshot) : (g.install s).revise φ = (g.revise φ).install s :=
  revise_publish φ { g with writer := { g.writer with current := some s } } (.elected s)

/-! ### Changing the tracked leader -/

variable (k : Call)

theorem revise_concludeUpdate (r : Except TransportError Verdict) :
    (g.concludeUpdate k r).revise φ = (g.revise φ).concludeUpdate (k.revise φ) r := by
  have hfinish : ∀ a, (finish { g with lock := g.lock.release } k.id a).revise φ =
      finish { g.revise φ with lock := g.lock.release } k.id a :=
    fun a => revise_finish φ { g with lock := g.lock.release } k.id a
  unfold concludeUpdate
  cases ht : k.task with
  | notice n => simp [Call.revise, Task.revise, ht, hfinish]
  | _ => simp [Call.revise, Task.revise, ht, hfinish]

theorem revise_consider (env : Surroundings) (candidate : Leader) :
    (g.consider env k candidate).revise φ =
      (g.revise φ).consider (env.revise (φ k.id)) (k.revise φ) candidate := by
  unfold consider
  rw [writer_revise]
  cases g.writer.decide candidate with
  | dropped => rw [revise_concludeUpdate, revise_log]
  | ignored => rw [revise_concludeUpdate, revise_log]
  | renew s => rw [revise_concludeUpdate, revise_install, revise_log]
  | connect => rw [revise_setPhase, revise_log]; rfl

theorem revise_completeOpen (env : Surroundings) (candidate : Leader) :
    (g.completeOpen env k candidate).revise φ =
      (g.revise φ).completeOpen (env.revise (φ k.id)) (k.revise φ) candidate := by
  unfold completeOpen
  cases hr : env.refusal candidate.member with
  | some e =>
    simp only [Surroundings.revise, hr]
    rw [revise_concludeUpdate, revise_log, revise_enter]
    rfl
  | none =>
    simp only [Surroundings.revise, hr]
    rw [revise_concludeUpdate, revise_closePrevious, revise_install, revise_log, revise_enter]
    rfl

theorem revise_shutDown : (g.shutDown k).revise φ = (g.revise φ).shutDown (k.revise φ) := by
  unfold shutDown
  rw [writer_revise]
  split_ifs
  · rw [revise_concludeUpdate]
  · rw [revise_concludeUpdate, revise_log, revise_closePrevious, revise_publish]
    rfl

theorem revise_requestLock (u : Update) :
    (g.requestLock k u).revise φ = (g.revise φ).requestLock (k.revise φ) u :=
  revise_setPhase φ { g with lock := g.lock.request k.id } k.id (.queued u)

theorem revise_beginNotice {n : Notice} (h : (Task.notice n).Tolerates (φ k.id)) :
    (g.beginNotice k n).revise φ =
      (g.revise φ).beginNotice (k.revise φ) (n.revise (φ k.id)) := by
  unfold beginNotice
  dsimp only
  rw [h.leader_revise, line?_revise]
  rcases n.leader with e | (_ | l)
  · dsimp only
    rw [refusal_revise, revise_finish, revise_logIfAny]
    rfl
  · dsimp only
    rw [answer_revise, revise_finish, revise_logIfAny]
    rfl
  · dsimp only
    rw [revise_requestLock, revise_logIfAny]

/-! ### Waiting for a leader -/

theorem revise_found (s : Snapshot) : (g.found k s).revise φ = (g.revise φ).found (k.revise φ) s := by
  have hsub : (k.revise φ).task.submission? = k.task.submission? := Task.submission?_revise _ _
  unfold found
  rw [hsub]
  cases k.task.submission? with
  | none => exact revise_finish φ g k.id _
  | some sub => exact revise_setPhase φ g k.id _

theorem revise_fail (e : GatewayError) : (g.fail k e).revise φ = (g.revise φ).fail (k.revise φ) e := by
  have hfailed : (k.revise φ).task.failed e = k.task.failed e := Task.failed_revise _ _ e
  unfold fail
  rw [hfailed, revise_finish]
  rfl

@[simp] theorem waitLimit_revise : (g.revise φ).waitLimit (k.revise φ) = g.waitLimit k := by
  unfold waitLimit
  cases ht : k.task <;> simp [Call.revise, Task.revise, ht]

theorem revise_beginWait : (g.beginWait k).revise φ = (g.revise φ).beginWait (k.revise φ) := by
  unfold beginWait
  rw [channel_revise, waitLimit_revise]
  cases g.channel.value with
  | elected s => exact revise_found φ g k s
  | closed => exact revise_fail φ g k .closed
  | notElected =>
    rw [revise_setPhase, revise_log]
    rfl

theorem revise_look (deadline : Option Nat) :
    (g.look k deadline).revise φ = (g.revise φ).look (k.revise φ) deadline := by
  unfold look
  rw [channel_revise]
  cases g.channel.value with
  | elected s => exact revise_found φ g k s
  | closed => exact revise_fail φ g k .closed
  | notElected => exact revise_setPhase φ g k.id _

theorem revise_check (deadline : Option Nat) :
    (g.check k deadline).revise φ = (g.revise φ).check (k.revise φ) deadline := by
  have hseen : (k.revise φ).seen = k.seen := rfl
  unfold check
  rw [channel_revise, hseen]
  split_ifs
  · rw [revise_setPhase, revise_setSeen]
    rfl
  · exact revise_fail φ g k .closed
  · rw [revise_enter, revise_setPhase]
    rfl

theorem revise_wakeUp (deadline : Option Nat) (woken : Bool) :
    (g.wakeUp k deadline woken).revise φ = (g.revise φ).wakeUp (k.revise φ) deadline woken := by
  unfold wakeUp
  rw [waitLimit_revise]
  split_ifs
  · exact revise_setPhase φ g k.id _
  · cases g.waitLimit k with
    | none => rfl
    | some d => exact revise_fail φ g k _

/-! ### Sending a request -/

theorem revise_supersede (s : Snapshot) (request : RequestId) :
    (g.supersede k s request).revise φ = (g.revise φ).supersede (k.revise φ) s request := by
  unfold supersede
  rw [revise_fail, revise_log]

theorem revise_conclude (h : k.task.Tolerates (φ k.id)) (s : Snapshot) (request : RequestId)
    (r : Except TransportError Response) : (g.conclude k s request r).revise φ =
      (g.revise φ).conclude (k.revise φ) s request (r.map (Response.revise (φ k.id))) := by
  cases r with
  | error e =>
    simp only [conclude, Except.map]
    rw [revise_fail, revise_log]
  | ok response =>
    have hdelivered : (k.revise φ).task.delivered (response.revise (φ k.id)).result =
        k.task.delivered response.result := h.delivered_revise response.result
    have hsub : (k.revise φ).task.submission? = k.task.submission? := Task.submission?_revise _ _
    simp only [conclude, Except.map, hdelivered, hsub]
    cases k.task.delivered response.result with
    | ok answer => exact revise_finish φ g k.id answer
    | error e =>
      dsimp only
      rw [revise_fail, revise_log]

theorem revise_letIn (a : Admission) :
    (g.letIn k a).revise φ = (g.revise φ).letIn (k.revise φ) a := by
  unfold letIn
  rw [revise_setPhase, revise_enter]
  rfl

theorem revise_handOver (env : Surroundings) (a : Admission) : (g.handOver env k a).revise φ =
    (g.revise φ).handOver (env.revise (φ k.id)) (k.revise φ) a := by
  unfold handOver
  dsimp only
  rw [revise_setPhase, revise_enter]
  rfl

theorem revise_send (h : k.task.Tolerates (φ k.id)) (env : Surroundings) (s : Snapshot)
    (sub : Submission) : (g.send env k s sub).revise φ =
      (g.revise φ).send (env.revise (φ k.id)) (k.revise φ) s sub := by
  have hlog : (g.revise φ).log (.requestSent sub.operation env.requestId s.leader) =
      (g.log (.requestSent sub.operation env.requestId s.leader)).revise φ :=
    (revise_log φ g _).symm
  have hid : (env.revise (φ k.id)).requestId = env.requestId := rfl
  have hfirst : (env.revise (φ k.id)).closedFirst = env.closedFirst := rfl
  unfold send
  rw [hid, hfirst, hlog]
  generalize g.log (.requestSent sub.operation env.requestId s.leader) = g₁
  dsimp only
  rw [connection?_revise]
  cases g₁.connection? s.connection with
  | none => exact revise_conclude φ g₁ k h s env.requestId (.error .disconnected)
  | some connection =>
    dsimp only
    rw [settings_revise]
    split_ifs
    · exact revise_supersede φ g₁ k s env.requestId
    · exact revise_conclude φ g₁ k h s env.requestId (.error .disconnected)
    · exact revise_letIn φ g₁ k _

theorem revise_land (h : k.task.Tolerates (φ k.id)) (env : Surroundings) (x : InFlight) :
    (g.land env k x).revise φ = (g.revise φ).land (env.revise (φ k.id)) (k.revise φ)
      { x with feedback := x.feedback.revise (φ k.id) } := by
  have hsuperseded : (g.revise φ).isSuperseded { x with feedback := x.feedback.revise (φ k.id) } =
      g.isSuperseded x := rfl
  have hfirst : (env.revise (φ k.id)).closedFirst = env.closedFirst := rfl
  unfold land
  dsimp only
  rw [hsuperseded, hfirst, isDue_revise, isDue_revise, settings_revise]
  split_ifs
  · exact revise_supersede φ g k x.snapshot x.request
  · rw [revise_conclude φ _ k h, revise_enter, Feedback.result_revise]
    rfl
  · rw [revise_fail, revise_log]

/-! ### Turns -/

theorem revise_begin (h : k.task.Tolerates (φ k.id)) :
    (g.begin k).revise φ = (g.revise φ).begin (k.revise φ) := by
  have hwait := revise_beginWait φ g k
  unfold begin
  cases ht : k.task with
  | notice n =>
    simp only [Call.revise, Task.revise, ht]
    rw [ht] at h
    have hnotice := revise_beginNotice φ g k h
    simpa only [Call.revise, Task.revise, ht] using hnotice
  | shutdown =>
    have hlock := revise_requestLock φ g k .shutdown
    simpa only [Call.revise, Task.revise, ht] using hlock
  | submit sub => simpa only [Call.revise, Task.revise, ht] using hwait
  | table op => simpa only [Call.revise, Task.revise, ht] using hwait
  | wait limit => simpa only [Call.revise, Task.revise, ht] using hwait

theorem revise_proceed (h : k.task.Tolerates (φ k.id)) (env : Surroundings) :
    (g.proceed env k).revise φ = (g.revise φ).proceed (env.revise (φ k.id)) (k.revise φ) := by
  have hphase : (k.revise φ).phase = k.phase.revise (φ k.id) := rfl
  have hlocked : (g.revise φ).enter (.locked k.id) = (g.enter (.locked k.id)).revise φ :=
    (revise_enter φ g (.locked k.id)).symm
  unfold proceed
  rw [hphase]
  cases hp : k.phase with
  | created => exact revise_begin φ g k h
  | queued update =>
    cases update with
    | elect candidate =>
      exact (revise_consider φ _ k env candidate).trans (by rw [← hlocked]; rfl)
    | shutdown => exact (revise_shutDown φ _ k).trans (by rw [← hlocked]; rfl)
  | opening candidate openedAt => exact revise_completeOpen φ g k env candidate
  | reading deadline => exact revise_look φ g k deadline
  | checking deadline => exact revise_check φ g k deadline
  | suspended deadline woken => exact revise_wakeUp φ g k deadline woken
  | sending s =>
    have hsub : (k.revise φ).task.submission? = k.task.submission? := Task.submission?_revise _ _
    simp only [Phase.revise, hsub]
    cases k.task.submission? with
    | none => rfl
    | some sub => exact revise_send φ g k h env s sub
  | admitted a => exact revise_handOver φ g k env a
  | inFlight x => exact revise_land φ g k h env x
  | finished a => rfl
  | abandoned => rfl

@[simp] theorem canRun_revise : (g.revise φ).canRun (k.revise φ) = g.canRun k := by
  have hphase : (k.revise φ).phase = k.phase.revise (φ k.id) := rfl
  unfold canRun
  rw [hphase]
  cases k.phase <;> rfl

@[simp] theorem isQuietUntil_revise (time : Nat) :
    isQuietUntil time (k.revise φ) = isQuietUntil time k := by
  have htimer : timer? (k.revise φ) = timer? k := by
    have hphase : (k.revise φ).phase = k.phase.revise (φ k.id) := rfl
    unfold timer?
    rw [hphase]
    cases k.phase <;> rfl
  unfold isQuietUntil
  rw [htimer]

/-! ### Letting go -/

theorem revise_releaseTracker : g.releaseTracker.revise φ = (g.revise φ).releaseTracker := by
  unfold releaseTracker
  rw [trackerHeld_revise, channel_revise]
  split_ifs
  · rfl
  · exact revise_wakeAll φ { g with channel := { g.channel with abandoned := true } }

theorem revise_releaseConnections :
    g.releaseConnections.revise φ = (g.revise φ).releaseConnections := by
  unfold releaseConnections
  rw [connections_revise]
  refine (List.foldl_hom (Gateway.revise φ) fun g₁ n => ?_).symm
  rw [isReferenced_revise]
  split_ifs
  · rfl
  · exact (revise_closeConnection φ g₁ n).symm

theorem revise_release : g.release.revise φ = (g.revise φ).release := by
  unfold release
  rw [revise_releaseConnections, revise_releaseTracker]

end

/-! ### Steps -/

theorem runCall?_revise (h : g.Tolerates φ) (c : CallId) (env : Surroundings) :
    (g.revise φ).runCall? c (env.revise (φ c)) = (g.runCall? c env).map (Gateway.revise φ) := by
  unfold runCall?
  rw [call?_revise]
  cases hk : g.call? c with
  | none => rfl
  | some k =>
    obtain rfl := id_of_call? hk
    dsimp only [Option.map_some]
    rw [canRun_revise]
    split_ifs
    · exact congrArg some (revise_proceed φ g k (h _ _ hk) env).symm
    · rfl

theorem abandon?_revise (φ : CallId → Bytes → Bytes) (g : Gateway) (c : CallId) :
    (g.revise φ).abandon? c = (g.abandon? c).map (Gateway.revise φ) := by
  unfold abandon?
  rw [call?_revise]
  cases g.call? c with
  | none => rfl
  | some k =>
    have hwaiting : (k.revise φ).phase.isWaiting = k.phase.isWaiting := Phase.isWaiting_revise _ _
    dsimp only [Option.map_some]
    rw [hwaiting]
    split_ifs
    · refine congrArg some ?_
      rw [revise_enter, revise_setPhase]
      rfl
    · rfl

theorem advance?_revise (φ : CallId → Bytes → Bytes) (g : Gateway) (time : Nat) :
    (g.revise φ).advance? time = (g.advance? time).map (Gateway.revise φ) := by
  have hable : (g.revise φ).calls.any (g.revise φ).canRun = g.calls.any g.canRun := by
    simp only [Gateway.revise, List.any_map, Function.comp_def]
    exact congrArg _ (funext fun k => canRun_revise φ g k)
  have hquiet : (g.revise φ).calls.all (isQuietUntil time) = g.calls.all (isQuietUntil time) := by
    simp [Gateway.revise, List.all_map, Function.comp_def]
  unfold advance?
  rw [hable, hquiet, now_revise]
  split_ifs <;> rfl

theorem start?_revise (φ : CallId → Bytes → Bytes) (g : Gateway) (c : CallId) (handle : Handle)
    (task : Task) (seen : Nat) : (g.revise φ).start? c handle (task.revise (φ c)) seen =
      (g.start? c handle task seen).map (Gateway.revise φ) := by
  unfold start?
  rw [call?_revise, Option.isNone_map, Task.concernsTracker_revise, handles_revise, channel_revise]
  split_ifs
  · simp [Gateway.revise, enter, Call.revise, Phase.revise, Fact.revise]
  · rfl

theorem act?_revise (h : g.Tolerates φ) (a : Action) :
    (g.revise φ).act? (a.revise φ) = (g.act? a).map (Gateway.revise φ) := by
  cases a with
  | start c handle task seen => exact start?_revise φ g c handle task seen
  | run c env => exact runCall?_revise h c env
  | abandon c => exact abandon?_revise φ g c
  | share source target =>
    simp only [Action.revise, act?, share?, apply_ite (Option.map (Gateway.revise φ))]
    rfl
  | drop handle =>
    simp only [Action.revise, act?, drop?, apply_ite (Option.map (Gateway.revise φ))]
    rfl
  | hold name =>
    simp only [Action.revise, act?, hold?, channel_revise]
    cases g.channel.value with
    | elected s =>
      simp only [apply_ite (Option.map (Gateway.revise φ))]
      rfl
    | closed => rfl
    | notElected => rfl
  | letGo name => rfl
  | advance time => exact advance?_revise φ g time

theorem step?_revise (h : g.Tolerates φ) (a : Action) :
    (g.revise φ).step? (a.revise φ) = (g.step? a).map (Gateway.revise φ) := by
  unfold step?
  rw [act?_revise h, Option.map_map, Option.map_map]
  exact congrFun (congrArg _ (funext fun g₁ => (revise_release φ g₁).symm)) _

/-! ### Calls keep their tasks -/

theorem Tolerates.of_roles (h : g.Tolerates φ)
    (hroles : g'.calls.map Call.role = g.calls.map Call.role) : g'.Tolerates φ := by
  intro d k' hk'
  obtain ⟨k, hk, hrole⟩ := exists_call?_of_roles hroles hk'
  simp only [Call.role, Prod.mk.injEq] at hrole
  exact hrole.2.1 ▸ h d k hk

theorem Tolerates.course {a : Action} (h : g.Tolerates φ) (ha : a.Tolerates φ)
    (hc : Course g a g') : g'.Tolerates φ := by
  cases hc with
  | @start c handle task seen =>
    intro d k hk
    rw [call?_enrol] at hk
    rcases Option.or_eq_some_iff.1 hk with hk | ⟨-, hk⟩
    · exact h d k hk
    · split_ifs at hk with hd
      obtain rfl := Option.some.inj hk
      exact hd ▸ ha
  | run hk hr => exact h.of_roles (turn_proceed _ hk hr).roles
  | abandon => exact h.of_roles (roles_giveUp g _)
  | around => exact h
  | advance => exact h

theorem Tolerates.release (h : g.Tolerates φ) : g.release.Tolerates φ := by
  intro d k hk
  obtain ⟨k₁, hk₁, htask, -⟩ := exists_call?_of_release hk
  exact htask ▸ h d k₁ hk₁

theorem Tolerates.step {a : Action} (h : g.Tolerates φ) (ha : a.Tolerates φ)
    (hstep : g.step? a = some g') : g'.Tolerates φ := by
  obtain ⟨g₁, hc, rfl⟩ := exists_course_of_step? hstep
  exact (h.course ha hc).release

/-- A run with other bytes goes as the run does, step by step, and ends in the same state but for those
bytes. -/
theorem run?_revise {actions : List Action} (h : g.Tolerates φ)
    (hactions : ∀ a ∈ actions, a.Tolerates φ) :
    (g.revise φ).run? (actions.map (Action.revise φ)) =
      (g.run? actions).map (Gateway.revise φ) := by
  induction actions generalizing g with
  | nil => rfl
  | cons a rest ih =>
    simp only [List.map_cons, Gateway.run?]
    rw [step?_revise h]
    cases hstep : g.step? a with
    | none => rfl
    | some g₁ =>
      exact ih (h.step (hactions a (by simp)) hstep)
        fun b hb => hactions b (List.mem_cons_of_mem a hb)

theorem run?_create_revise {settings : Settings} {handles : List Handle} {actions : List Action}
    (hactions : ∀ a ∈ actions, a.Tolerates φ) :
    (create settings handles).run? (actions.map (Action.revise φ)) =
      ((create settings handles).run? actions).map (Gateway.revise φ) :=
  run?_revise (g := create settings handles) (fun c k hk => by cases hk) hactions

end Gateway

end LeaderRouting
