import LeaderRouting.Gateway.State

/-!
The steps of a gateway.  Calls take small steps in any order, time passes only when no call can take
one, and a run is a list of steps from the state in which no leader was ever elected.
-/

namespace LeaderRouting

open Wire Message

namespace Gateway

/-! ### Changing the tracked leader -/

/-- Ends a call that held the writer's lock. -/
def concludeUpdate (g : Gateway) (call : Call) (r : Except TransportError Verdict) : Gateway :=
  let g := { g with lock := g.lock.release }
  match call.task with
  | .notice notice => g.finish call.id (notice.answer r)
  | _ => g.finish call.id .done

/-- Makes a snapshot the current one, for the writer and for all readers. -/
def install (g : Gateway) (s : Snapshot) : Gateway :=
  { g with writer := { g.writer with current := some s } }.publish (.elected s)

/-- Closes the connection that was current before. -/
def closePrevious (g : Gateway) (previous : Option Snapshot) : Gateway :=
  match previous with
  | none => g
  | some s => g.closeConnection s.connection

/-- What a call that holds the lock does about its candidate. -/
def consider (g : Gateway) (env : Surroundings) (call : Call) (candidate : Leader) : Gateway :=
  match g.writer.decide candidate with
  | .dropped => (g.log (.noticeDropped candidate)).concludeUpdate call (.ok .closed)
  | .ignored => (g.log (.noticeStale candidate g.writer.term)).concludeUpdate call (.ok .stale)
  | .renew s =>
    ((g.log (.termRefreshed s.leader candidate.term)).install (s.renew candidate.term)).concludeUpdate
      call (.ok .termRefreshed)
  | .connect =>
    (g.log (.leaderDetected candidate)).setPhase call.id
      (.opening candidate (env.openDelay.map (g.now + ·)))

/-- A connection is visible to readers before the one it replaces is closed. -/
def completeOpen (g : Gateway) (env : Surroundings) (call : Call) (candidate : Leader) : Gateway :=
  let m := candidate.member
  match env.refusal m with
  | some e =>
    ((g.enter (.refused call.id m e)).log (.connectFailed m e)).concludeUpdate call (.error e)
  | none =>
    let n := g.connections.length
    let opened := { g with connections := g.connections ++ [Connection.mk m false false 0] }
    let logged := (opened.enter (.opened call.id n m)).log (.connectionOpened m)
    ((logged.install ⟨candidate, n⟩).closePrevious g.writer.current).concludeUpdate
      call (.ok .newLeader)

/-- Only the first shutdown has an effect. -/
def shutDown (g : Gateway) (call : Call) : Gateway :=
  if g.writer.closed then g.concludeUpdate call (.ok .closed)
  else
    let closed := { g with writer := ⟨none, true⟩ }.publish .closed
    ((closed.closePrevious g.writer.current).log .trackerShutDown).concludeUpdate call (.ok .closed)

/-- Gets in line for the writer's lock. -/
def requestLock (g : Gateway) (call : Call) (update : Update) : Gateway :=
  { g with lock := g.lock.request call.id }.setPhase call.id (.queued update)

/-- A notice that names no leader is answered at once. -/
def beginNotice (g : Gateway) (call : Call) (notice : Notice) : Gateway :=
  let g := g.logIfAny notice.line?
  match notice.leader with
  | .ok (some l) => g.requestLock call (.elect l)
  | .ok none => g.finish call.id (notice.answer (.ok .noLeader))
  | .error e => g.finish call.id (notice.refusal e)

/-! ### Waiting for a leader -/

/-- A wait ends with the leader; a request goes on to be sent. -/
def found (g : Gateway) (call : Call) (s : Snapshot) : Gateway :=
  match call.task.submission? with
  | none => g.finish call.id (.leader (.ok s.leader))
  | some _ => g.setPhase call.id (.sending s)

def fail (g : Gateway) (call : Call) (e : GatewayError) : Gateway :=
  g.finish call.id (call.task.failed e)

/-- How long the call is ready to wait for a leader. -/
def waitLimit (g : Gateway) (call : Call) : Option Duration :=
  match call.task with
  | .wait limit => limit
  | _ => g.settings.leaderWaitTimeout

/-- The first look at the published value, before any waiting. -/
def beginWait (g : Gateway) (call : Call) : Gateway :=
  match g.channel.value with
  | .elected s => g.found call s
  | .closed => g.fail call .closed
  | .notElected =>
    (g.log .awaitingLeader).setPhase call.id
      (.reading ((g.waitLimit call).map fun d => g.now + d.ceilMillis))

def look (g : Gateway) (call : Call) (deadline : Option Nat) : Gateway :=
  match g.channel.value with
  | .elected s => g.found call s
  | .closed => g.fail call .closed
  | .notElected => g.setPhase call.id (.checking deadline)

/-- Looks again if there is a version that was not seen yet, and sleeps otherwise. -/
def check (g : Gateway) (call : Call) (deadline : Option Nat) : Gateway :=
  if g.channel.version ≠ call.seen then
    (g.setSeen call.id g.channel.version).setPhase call.id (.reading deadline)
  else if g.channel.abandoned then g.fail call .closed
  else (g.setPhase call.id (.suspended deadline false)).enter (.slept call.id)

/-- A call that was woken does not look at its deadline. -/
def wakeUp (g : Gateway) (call : Call) (deadline : Option Nat) (woken : Bool) : Gateway :=
  if woken then g.setPhase call.id (.checking deadline)
  else
    match g.waitLimit call with
    | none => g
    | some d => g.fail call (.noLeaderAvailable d)

/-! ### Sending a request -/

/-- Ends a call with what came back for its request. -/
def conclude (g : Gateway) (call : Call) (s : Snapshot) (request : RequestId)
    (r : Except TransportError Response) : Gateway :=
  match r with
  | .error e =>
    (g.log (.requestFailed request s.leader.member e)).fail call
      (.submissionFailed request (.transport e))
  | .ok response =>
    match call.task.delivered response.result with
    | .ok answer => g.finish call.id answer
    | .error e =>
      let operation := (call.task.submission?.map (·.operation)).getD ""
      (g.log (.resultUndecodable operation request e)).fail call
        (.submissionFailed request (.undecodable e))

def supersede (g : Gateway) (call : Call) (s : Snapshot) (request : RequestId) : Gateway :=
  (g.log (.requestSuperseded s.leader.member request)).fail call
    (.submissionFailed request .superseded)

/-- Lets a request in, which is yet to be handed over. -/
def letIn (g : Gateway) (call : Call) (a : Admission) : Gateway :=
  (g.enter (.admitted call.id a.snapshot.connection a.member a.request)).setPhase call.id (.admitted a)

/-- Looks whether the connection is closed before the request is handed over.  It can be closed in
between. -/
def send (g : Gateway) (env : Surroundings) (call : Call) (s : Snapshot) (sub : Submission) :
    Gateway :=
  let g := g.log (.requestSent sub.operation env.requestId s.leader)
  let refused := g.conclude call s env.requestId (.error .disconnected)
  match g.connection? s.connection with
  | none => refused
  | some k =>
    if k.closed then
      if g.settings.cancelInFlightOnSwap && k.retired && env.closedFirst then
        g.supersede call s env.requestId
      else refused
    else g.letIn call ⟨s, k.member, ⟨env.requestId, sub.operation, sub.arguments⟩⟩

/-- Hands a request over that was let in and notes when its reply will be there. -/
def handOver (g : Gateway) (env : Surroundings) (call : Call) (a : Admission) : Gateway :=
  let reply := env.reply a.member a.request
  (g.enter (.submitted call.id a.snapshot.connection a.member a.request)).setPhase call.id
    (.inFlight ⟨a.snapshot, a.request.id, reply.delay.map (g.now + ·), reply.feedback,
      g.now + g.settings.submitTimeout.ceilMillis⟩)

/-- Whether a moment has come. -/
def isDue (g : Gateway) (time : Option Nat) : Bool :=
  match time with
  | none => false
  | some t => t ≤ g.now

def isSuperseded (g : Gateway) (f : InFlight) : Bool :=
  g.settings.cancelInFlightOnSwap && g.isRetired f.snapshot.connection

/-- The reply counts before the deadline; a closed connection counts before or after both, as the
surroundings have it. -/
def land (g : Gateway) (env : Surroundings) (call : Call) (f : InFlight) : Gateway :=
  let decided := g.isDue f.repliedAt || g.isDue (some f.deadline)
  if g.isSuperseded f && (env.closedFirst || !decided) then g.supersede call f.snapshot f.request
  else if g.isDue f.repliedAt then
    (g.enter (.replied call.id f.feedback)).conclude call f.snapshot f.request f.feedback.result
  else
    (g.log (.requestTimedOut f.request f.snapshot.leader.member g.settings.submitTimeout)).fail call
      (.submissionTimeout f.request g.settings.submitTimeout)

/-! ### Steps -/

def canRun (g : Gateway) (call : Call) : Bool :=
  match call.phase with
  | .created | .reading _ | .checking _ | .sending _ | .admitted _ => true
  | .queued _ => g.lock.holder = some call.id
  | .opening _ openedAt => g.isDue openedAt
  | .suspended deadline woken => woken || g.isDue deadline
  | .inFlight f => g.isDue f.repliedAt || g.isDue (some f.deadline) || g.isSuperseded f
  | .finished _ | .abandoned => false

def begin (g : Gateway) (call : Call) : Gateway :=
  match call.task with
  | .notice notice => g.beginNotice call notice
  | .shutdown => g.requestLock call .shutdown
  | .submit _ | .table _ | .wait _ => g.beginWait call

/-- The next step of a call that can take one. -/
def proceed (g : Gateway) (env : Surroundings) (call : Call) : Gateway :=
  match call.phase with
  | .created => g.begin call
  | .queued update =>
    let g := g.enter (.locked call.id)
    match update with
    | .elect candidate => g.consider env call candidate
    | .shutdown => g.shutDown call
  | .opening candidate _ => g.completeOpen env call candidate
  | .reading deadline => g.look call deadline
  | .checking deadline => g.check call deadline
  | .suspended deadline woken => g.wakeUp call deadline woken
  | .sending s =>
    match call.task.submission? with
    | none => g
    | some sub => g.send env call s sub
  | .admitted a => g.handOver env call a
  | .inFlight f => g.land env call f
  | .finished _ | .abandoned => g

/-- When a call's next timer goes off. -/
def timer? (call : Call) : Option Nat :=
  match call.phase with
  | .opening _ openedAt => openedAt
  | .suspended deadline _ => deadline
  | .inFlight f =>
    match f.repliedAt with
    | none => some f.deadline
    | some t => some (min t f.deadline)
  | _ => none

inductive Action
  /-- Starts a call on a handle, which has to own the tracker if the call concerns it.  The call's
  subscription may have seen any version so far. -/
  | start (call : CallId) (handle : Handle) (task : Task) (seen : Nat)
  | run (call : CallId) (env : Surroundings)
  /-- The caller gives up. -/
  | abandon (call : CallId)
  /-- Makes one handle from another. -/
  | share (source target : Handle)
  | drop (handle : Handle)
  /-- Keeps the current snapshot under a name. -/
  | hold (name : String)
  | letGo (name : String)
  | advance (time : Nat)

/-! ### Actions

Each gives the next state, or none if it is not possible. -/

def start? (g : Gateway) (c : CallId) (handle : Handle) (task : Task) (seen : Nat) :
    Option Gateway :=
  if g.handles.contains handle && (handle.ownsTracker || !task.concernsTracker)
      && (g.call? c).isNone && seen ≤ g.channel.version then
    some ({ g with calls := g.calls ++ [Call.mk c task handle seen .created] }.enter (.started c))
  else none

def runCall? (g : Gateway) (c : CallId) (env : Surroundings) : Option Gateway :=
  match g.call? c with
  | none => none
  | some call => if g.canRun call then some (g.proceed env call) else none

def abandon? (g : Gateway) (c : CallId) : Option Gateway :=
  match g.call? c with
  | none => none
  | some call =>
    if call.phase.isWaiting then
      some (({ g with lock := g.lock.withdraw c }.setPhase c .abandoned).enter (.abandoned c))
    else none

def share? (g : Gateway) (source target : Handle) : Option Gateway :=
  if g.handles.contains source && (source.ownsTracker || !target.ownsTracker) then
    some { g with handles := g.handles ++ [target] }
  else none

def drop? (g : Gateway) (handle : Handle) : Option Gateway :=
  if g.handles.contains handle then some { g with handles := g.handles.erase handle } else none

def hold? (g : Gateway) (name : String) : Option Gateway :=
  match g.channel.value with
  | .elected s =>
    if g.handles.contains .subscriber then some { g with held := g.held ++ [(name, s)] } else none
  | _ => none

/-- Whether no timer of the call goes off before a time. -/
def isQuietUntil (time : Nat) (call : Call) : Bool :=
  match timer? call with
  | none => true
  | some due => time ≤ due

/-- Time passes only while no call can run, and not beyond the next timer. -/
def advance? (g : Gateway) (time : Nat) : Option Gateway :=
  if g.now < time && !g.calls.any g.canRun && g.calls.all (isQuietUntil time) then
    some { g with now := time }
  else none

def act? (g : Gateway) : Action → Option Gateway
  | .start c handle task seen => g.start? c handle task seen
  | .run c env => g.runCall? c env
  | .abandon c => g.abandon? c
  | .share source target => g.share? source target
  | .drop handle => g.drop? handle
  | .hold name => g.hold? name
  | .letGo name => some { g with held := g.held.filter (·.1 ≠ name) }
  | .advance time => g.advance? time

/-- One step; afterwards what nothing keeps any longer is let go. -/
def step? (g : Gateway) (a : Action) : Option Gateway :=
  (g.act? a).map release

/-- A step that changes nothing if it is not possible. -/
def step (g : Gateway) (a : Action) : Gateway :=
  (g.step? a).getD g

/-- The state after a run, all of whose steps have to be possible. -/
def run? (g : Gateway) : List Action → Option Gateway
  | [] => some g
  | a :: rest => (g.step? a).bind fun g => g.run? rest

/-- A call is started and takes its first steps, with nothing in between. -/
def undertake (c : CallId) (handle : Handle) (task : Task) (env : Surroundings) (steps : Nat) :
    List Action :=
  .start c handle task 0 :: List.replicate steps (.run c env)

/-- A leader is announced, gets a connection, and replaces the one before it. -/
def elect (c : CallId) (handle : Handle) (l : Leader) (env : Surroundings) : List Action :=
  undertake c handle (.notice (.direct l)) env 3

/-- A request without a name or arguments is sent as far as the steps go. -/
def ask (c : CallId) (handle : Handle) (env : Surroundings) (steps : Nat) : List Action :=
  undertake c handle (.submit ⟨"", [], .emptyResult⟩) env steps

/-- A gateway with the handles that it is born with. -/
def create (settings : Settings) (handles : List Handle) : Gateway :=
  { settings, handles }

/-- The states that a gateway can be in. -/
def Reachable (g : Gateway) : Prop :=
  ∃ settings handles actions, (create settings handles).run? actions = some g

end Gateway

end LeaderRouting
