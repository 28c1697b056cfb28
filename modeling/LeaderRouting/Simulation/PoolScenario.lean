import LeaderRouting.Connection.Pool
import LeaderRouting.Simulation.Play

/-! Scenarios of connections that are shared by name. -/

namespace LeaderRouting

open Wire

instance : Performer Pool where
  now p := p.now
  canRun p c := (p.call? c).any p.canRun
  hasEnded p c := (p.call? c).all (·.phase.ended)
  rank _ _ := 0
  step c env p := p.step (.run c env)
  abandon c p := p.step (.abandon c)
  nextTimer p := (p.calls.filterMap Pool.timer?).min?
  advance t p := p.step (.advance t)

namespace PoolScenario

inductive Instruction
  | direct (direction : Direction)
  | sleep (millis : Nat)
  | abort (task : String)
  | connect (name : String) (member : Member)
  | close (name : String)
  | state (name : String)
  | share (name as : String)
  | drop (name : String)
  /-- Sends a request, as a task of that name if one is given. -/
  | submit (task : Option String) (name operation : String) (arguments : List Argument)
  | retired (task : Option String) (name : String)

inductive Result
  | none
  | spawned
  | pending
  | noSuchTask
  | noSuchConnection
  | aborted (wasRunning : Bool)
  | answer (a : Pool.Answer)
  | state (member : Member) (closed : Bool)
  | unfinished (tasks : List String)
  | dropped

structure Report where
  result : Result
  time : Nat
  events : List (Nat × Sight)
  done : List (Nat × String × Pool.Answer)

def answer? (p : Pool) (c : CallId) : Option Pool.Answer :=
  (p.call? c).bind fun call => call.phase.answer?

def start (task : Pool.Task) (c : CallId) (p : Pool) : Pool :=
  p.step (.start c task)

def completeTask (s : Play Pool Script) (task : Pool.Task) (patience : Option Nat) :
    Result × Play Pool Script :=
  let s' := s.complete (start task) patience
  match answer? s'.machine s.nextCall with
  | some a => (.answer a, s')
  | .none => (.pending, s')

def runTask (s : Play Pool Script) (name : Option String) (task : Pool.Task) :
    Result × Play Pool Script :=
  match name with
  | some name => (.spawned, s.spawn name (start task))
  | .none => completeTask s task (some Play.patience)

/-- Does something with the connection of that name. -/
def withConnection (s : Play Pool Script) (name : String) (f : Nat → Result × Play Pool Script) :
    Result × Play Pool Script :=
  match s.machine.names.lookup name with
  | .none => (.noSuchConnection, s)
  | some n => f n

def state (p : Pool) (n : Nat) : Result :=
  match p.connection? n with
  | .none => .noSuchConnection
  | some k => .state k.member k.closed

def carryOut (s : Play Pool Script) : Instruction → Result × Play Pool Script
  | .direct d => (.none, s.direct (·.follow d))
  | .sleep millis => (.none, s.sleep millis)
  | .abort task =>
    match s.abort task with
    | (.none, s) => (.noSuchTask, s)
    | (some wasRunning, s) => (.aborted wasRunning, s)
  | .connect name member => completeTask s (.connect name member) .none
  | .close name => withConnection s name fun n => runTask s .none (.close n)
  | .state name => withConnection s name fun n => (state s.machine n, s)
  | .share name as =>
    withConnection s name fun _ => (.none, s.perform (·.step (.share name as)))
  | .drop name => withConnection s name fun _ => (.none, s.perform (·.step (.drop name)))
  | .submit task name operation arguments =>
    withConnection s name fun n => runTask s task (.submit n operation arguments)
  | .retired task name => withConnection s name fun n => runTask s task (.awaitRetired n)

def sight? (e : Pool.Entry) : Option (Nat × Sight) :=
  match e.fact with
  | .opened _ m => some (e.time, .opened m)
  | .closed _ m => some (e.time, .closed m)
  | .refused m => some (e.time, .refused m)
  | .submitted _ _ m r => some (e.time, .submitted m r.operation r.arguments)
  | .answered _ _ => .none

def done? (s : Play Pool Script) (e : Pool.Entry) : Option (Nat × String × Pool.Answer) :=
  match e.fact with
  | .answered c a => (s.taskName? c).map fun name => (e.time, name, a)
  | _ => .none

def report (s : Play Pool Script) (result : Result) : Report × Play Pool Script :=
  let news := s.machine.journal.drop s.reported
  ({ result
     time := s.machine.now
     events := Sight.ordered (news.filterMap sight?)
     done := orderDone (news.filterMap (done? s)) },
    s.markReported s.machine.journal.length)

def followAll : Play Pool Script → List Instruction → List Report × Play Pool Script
  | s, [] => ([], s)
  | s, i :: rest =>
    let (result, s) := carryOut s i
    let (r, s) := report s result
    let (reports, s) := followAll s rest
    (r :: reports, s)

/-- Drops all references, in the order of their names. -/
def dropAll (s : Play Pool Script) : Play Pool Script :=
  (s.machine.names.mergeSort fun a b => a.1 ≤ b.1).foldl
    (fun s n => s.perform (·.step (.drop n.1))) s

def play (instructions : List Instruction) : List Report :=
  let (reports, s) := followAll (.ofMachine {} {}) instructions
  let (names, s) := s.finishTasks
  let (pending, s) := report s (.unfinished names)
  let (dropped, _) := report (dropAll s) .dropped
  reports ++ [pending, dropped]

end PoolScenario

end LeaderRouting
