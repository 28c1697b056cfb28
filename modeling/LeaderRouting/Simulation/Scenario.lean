import LeaderRouting.Gateway.Step
import LeaderRouting.Simulation.Play

/-!
Scenarios of a gateway: instructions that are followed one after another, with a report of what
happened during each of them.
-/

namespace LeaderRouting

open Wire Message

/-- A publication is noticed before a connection is closed, and the lock is handed on last. -/
def Gateway.rank (g : Gateway) (c : CallId) : Nat :=
  match g.call? c with
  | none => 0
  | some call =>
    match call.phase with
    | .inFlight _ => 1
    | .queued _ => 2
    | _ => 0

instance : Performer Gateway where
  now g := g.now
  canRun g c := (g.call? c).any g.canRun
  hasEnded g c := (g.call? c).all (·.phase.ended)
  rank := Gateway.rank
  step c env g := g.step (.run c env)
  abandon c g := g.step (.abandon c)
  nextTimer g := (g.calls.filterMap Gateway.timer?).min?
  advance t g := g.step (.advance t)

abbrev Scenario := Play Gateway Script

namespace Scenario

open Gateway

/-! ### Instructions -/

/-- What a call of a scenario is to do. -/
inductive Errand
  | notify (leader : Leader) (viaNotifier : Bool)
  | message (payload : Bytes)
  | serve (event : LeaderElectEvent)
  | submit (submission : Submission)
  | table (operation : TableOperation)
  | wait (limit : Option Duration)
  | shutdown

inductive Instruction
  | direct (direction : Direction)
  | sleep (millis : Nat)
  | abort (task : String)
  /-- Does an errand, as a task of that name if one is given. -/
  | call (task : Option String) (errand : Errand)
  | make (handle : Handle)
  | drop (handle : Handle)
  /-- What the subscriber sees. -/
  | current
  | hold (name : String)
  | held (name : String)
  | letGo (name : String)

/-- A published value as a reader sees it. -/
inductive View
  | notElected
  | closed
  | elected (leader : Leader) (connectedTo : Member) (connectionClosed : Bool)

inductive Result
  | none
  | created
  | spawned
  /-- The work was not done after a day, and was given up. -/
  | pending
  | noHandle
  | answer (a : Answer)
  | noSuchTask
  | aborted (wasRunning : Bool)
  | view (v : Option View)
  | nothingToHold
  | letGo (wasHeld : Bool)
  /-- The tasks that were not finished in the end. -/
  | unfinished (tasks : List String)
  | dropped

/-- How a task ends. -/
inductive Ending
  | answered (a : Answer)
  /-- There was no handle for its errand. -/
  | noHandle

/-- What happened during an instruction. -/
structure Report where
  result : Result
  time : Nat
  leader : Option Leader
  events : List (Nat × Sight)
  /-- The tasks that ended, with the time. -/
  done : List (Nat × String × Ending)
  log : List LogLine

namespace Errand

def task : Errand → Task
  | notify leader _ => .notice (.direct leader)
  | message payload => .notice (.message payload)
  | serve event => .notice (.served event)
  | submit submission => .submit submission
  | table operation => .table operation
  | wait limit => .wait limit
  | shutdown => .shutdown

/-- The handles that will do for an errand, the first choice first. -/
def handles : Errand → List Handle
  | notify _ true => [.notifier, .gateway]
  | notify _ false => [.gateway, .client, .tracker]
  | message _ => [.tracker, .notifier, .gateway]
  | serve _ => [.server, .gateway]
  | submit _ | wait _ => [.gateway, .client, .submitter]
  | table _ => [.client, .gateway]
  | shutdown => [.gateway, .client, .tracker]

end Errand

def has (s : Scenario) (h : Handle) : Bool :=
  s.machine.handles.contains h

/-- The answer of a call that has one. -/
def answer? (g : Gateway) (c : CallId) : Option Answer :=
  (g.call? c).bind fun call => call.phase.answer?

def runErrand (s : Scenario) (task : Option String) (errand : Errand) : Result × Scenario :=
  match errand.handles.find? s.has, task with
  | none, none => (.noHandle, s)
  | none, some name => (.spawned, s.spawnIdle name)
  | some handle, task =>
    let start := fun c (g : Gateway) => g.step (.start c handle errand.task 0)
    match task with
    | some name => (.spawned, s.spawn name start)
    | none =>
      let s' := s.complete start (some Play.patience)
      match answer? s'.machine s.nextCall with
      | some a => (.answer a, s')
      | none => (.pending, s')

/-- The handles that another handle can be made from, the first choice first. -/
def sources : Handle → List Handle
  | .server => [.gateway]
  | _ => [.gateway, .client]

/-- Makes a handle.  Where there is nothing to make it from, one that was made before is given up, a
server excepted. -/
def remake (s : Scenario) (handle : Handle) : Scenario :=
  match (sources handle).find? s.has with
  | some source => if s.has handle then s else s.perform (·.step (.share source handle))
  | none => if handle = .server then s else s.perform (·.step (.drop handle))

def viewSnapshot (g : Gateway) (s : Snapshot) : Option View :=
  (g.connection? s.connection).map fun k => .elected s.leader k.member k.closed

def view (g : Gateway) : Option View :=
  match g.channel.value with
  | .notElected => some .notElected
  | .closed => some .closed
  | .elected s => viewSnapshot g s

def carryOut (s : Scenario) : Instruction → Result × Scenario
  | .direct d => (.none, s.direct (·.follow d))
  | .sleep millis => (.none, s.sleep millis)
  | .abort task =>
    match s.abort task with
    | (none, s) => (.noSuchTask, s)
    | (some wasRunning, s) => (.aborted wasRunning, s)
  | .call task errand => s.runErrand task errand
  | .make handle => (.none, s.remake handle)
  | .drop handle => (.none, s.perform (·.step (.drop handle)))
  | .current => if s.has .subscriber then (.view (view s.machine), s) else (.noHandle, s)
  | .hold name =>
    if s.has .subscriber && s.machine.channel.value.snapshot?.isSome then
      (.none, (s.perform (·.step (.letGo name))).perform (·.step (.hold name)))
    else (.nothingToHold, s)
  | .held name => (.view ((s.machine.held.lookup name).bind (viewSnapshot s.machine)), s)
  | .letGo name =>
    (.letGo (s.machine.held.lookup name).isSome, s.perform (·.step (.letGo name)))

/-! ### Reports -/

def sight? (e : Entry) : Option (Nat × Sight) :=
  match e.fact with
  | .opened _ _ m => some (e.time, .opened m)
  | .closed _ m => some (e.time, .closed m)
  | .refused _ m _ => some (e.time, .refused m)
  | .submitted _ _ m r => some (e.time, .submitted m r.operation r.arguments)
  | _ => none

def line? (e : Entry) : Option LogLine :=
  match e.fact with
  | .logged line => some line
  | _ => none

def done? (s : Scenario) (e : Entry) : Option (Nat × String × Ending) :=
  match e.fact with
  | .answered c a => (s.taskName? c).map fun name => (e.time, name, .answered a)
  | _ => none

/-- The leader as a handle shows it that can tell. -/
def leader (s : Scenario) : Option Leader :=
  if [Handle.gateway, .client, .tracker].any s.has then s.machine.leader? else none

/-- Reports what has happened since the last report. -/
def report (s : Scenario) (result : Result) : Report × Scenario :=
  let news := s.machine.journal.drop s.reported
  ({ result
     time := s.machine.now
     leader := leader s
     events := Sight.ordered (news.filterMap sight?)
     done := orderDone (news.filterMap (done? s) ++ s.idle.map fun t => (t.1, t.2, .noHandle))
     log := news.filterMap line? },
    s.markReported s.machine.journal.length)

def followAll : Scenario → List Instruction → List Report × Scenario
  | s, [] => ([], s)
  | s, i :: rest =>
    let (result, s) := carryOut s i
    let (r, s) := report s result
    let (reports, s) := followAll s rest
    (r :: reports, s)

/-- Drops all handles and snapshots that are left. -/
def dropAll (s : Scenario) : Scenario :=
  let s := s.machine.handles.foldl (fun s h => s.perform (·.step (.drop h))) s
  s.machine.held.foldl (fun s h => s.perform (·.step (.letGo h.1))) s

/-- A gateway, or the parts that it is made of. -/
def create (settings : Settings) (parts : Bool) : Scenario :=
  if parts then .ofMachine (.create settings [.tracker, .submitter, .subscriber]) {}
  else .ofMachine ((Gateway.create settings [.gateway]).log (.gatewayCreated settings)) {}

/-- Follows the instructions from the start, and then to the end of all tasks and handles. -/
def play (settings : Settings) (parts : Bool) (instructions : List Instruction) :
    List Report × Scenario :=
  let (created, s) := report (create settings parts) .created
  let (reports, s) := followAll s instructions
  let (names, s) := s.finishTasks
  let (pending, s) := report s (.unfinished names)
  let (dropped, s) := report (dropAll s) .dropped
  (created :: reports ++ [pending, dropped], s)

/-- The ids of the requests that were handed over. -/
def requestIds (s : Scenario) : List RequestId :=
  s.machine.journal.filterMap fun e =>
    match e.fact with
    | .submitted _ _ _ r => some r.id
    | _ => none

end Scenario

end LeaderRouting
