import LeaderRouting.Simulation.Scheduler
import LeaderRouting.Simulation.Script
import LeaderRouting.Simulation.Sight

/-!
Plays: a system of calls that works with a cluster under a virtual clock.  Calls are started one after
another, each to be completed at once or as a task that goes on beside the others.
-/

namespace LeaderRouting

/-- A cluster that decides what the surroundings of a step are. -/
class Cluster (κ : Type) where
  surroundings : κ → RequestId → Surroundings

instance : Cluster Script := ⟨Script.surroundings⟩

/-- A machine and the cluster that it works with. -/
structure Stage (σ κ : Type) where
  machine : σ
  cluster : κ
  /-- How many request ids were drawn. -/
  drawn : Nat := 0

/-- A system whose calls depend on their surroundings. -/
class Performer (σ : Type) where
  now : σ → Nat
  canRun : σ → CallId → Bool
  hasEnded : σ → CallId → Bool
  /-- Of several calls that one step sets free, those of a lower rank come first. -/
  rank : σ → CallId → Nat
  step : CallId → Surroundings → σ → σ
  abandon : CallId → σ → σ
  nextTimer : σ → Option Nat
  advance : Nat → σ → σ

namespace Stage

variable {σ κ : Type}

def perform (f : σ → σ) (s : Stage σ κ) : Stage σ κ :=
  { s with machine := f s.machine }

/-- One step of a call, which has a fresh request id at its disposal. -/
def step [Performer σ] [Cluster κ] (c : CallId) (s : Stage σ κ) : Stage σ κ :=
  { s with
    machine := Performer.step c (Cluster.surroundings s.cluster (.ofNumber s.drawn)) s.machine
    drawn := s.drawn + 1 }

end Stage

instance {σ κ : Type} [Performer σ] [Cluster κ] : Machine (Stage σ κ) where
  now s := Performer.now s.machine
  canRun s := Performer.canRun s.machine
  hasEnded s := Performer.hasEnded s.machine
  rank s := Performer.rank s.machine
  step := Stage.step
  abandon c s := s.perform (Performer.abandon c)
  nextTimer s := Performer.nextTimer s.machine
  advance t s := s.perform (Performer.advance t)

structure Play (σ κ : Type) where
  scheduler : Scheduler (Stage σ κ)
  /-- The last task of each name, unless it was aborted. -/
  tasks : List (String × CallId) := []
  /-- The names of all calls that were started as tasks. -/
  taskNames : List (CallId × String) := []
  /-- The tasks since the last report that had nothing to work on, with the time. -/
  idle : List (Nat × String) := []
  nextCall : CallId := 0
  /-- How much of the journal has been reported. -/
  reported : Nat := 0

namespace Play

variable {σ κ : Type}

def ofMachine (machine : σ) (cluster : κ) : Play σ κ where
  scheduler := { world := { machine, cluster } }

def machine (p : Play σ κ) : σ :=
  p.scheduler.world.machine

/-- How many milliseconds a play waits for work that is not a task. -/
def patience : Nat := 86400000

variable [Performer σ] [Cluster κ]

def perform (p : Play σ κ) (f : σ → σ) : Play σ κ :=
  { p with scheduler := (p.scheduler.apply (·.perform f)).settle }

/-- Changes how the cluster behaves. -/
def direct (p : Play σ κ) (f : κ → κ) : Play σ κ :=
  { p with scheduler := (p.scheduler.apply fun s => { s with cluster := f s.cluster }).settle }

def sleep (p : Play σ κ) (millis : Nat) : Play σ κ :=
  { p with scheduler := p.scheduler.sleepUntil (Performer.now p.machine + millis) }

/-- Gives the next call a name.  An earlier task of that name goes on, but is no longer to be
aborted. -/
def nameTask (p : Play σ κ) (name : String) : Play σ κ :=
  { p with
    tasks := p.tasks.filter (·.1 ≠ name) ++ [(name, p.nextCall)]
    taskNames := p.taskNames ++ [(p.nextCall, name)]
    nextCall := p.nextCall + 1 }

/-- Starts a call as a task. -/
def spawn (p : Play σ κ) (name : String) (start : CallId → σ → σ) : Play σ κ :=
  { p.nameTask name with
    scheduler := p.scheduler.spawn p.nextCall (·.perform (start p.nextCall)) }

/-- A task that has nothing to work on.  Its call is never started, and so counts as ended. -/
def spawnIdle (p : Play σ κ) (name : String) : Play σ κ :=
  { p.nameTask name with idle := p.idle ++ [(Performer.now p.machine, name)] }

/-- Starts a call and waits for its end, for ever if there is no limit to patience. -/
def complete (p : Play σ κ) (start : CallId → σ → σ) (patience : Option Nat) : Play σ κ :=
  { p with
    scheduler := p.scheduler.complete p.nextCall (·.perform (start p.nextCall)) patience
    nextCall := p.nextCall + 1 }

/-- Aborts a task and tells whether it was still running; none if there is no such task. -/
def abort (p : Play σ κ) (name : String) : Option Bool × Play σ κ :=
  match p.tasks.lookup name with
  | none => (none, p)
  | some c =>
    (some (!Performer.hasEnded p.machine c),
      { p with
        scheduler := p.scheduler.abandonAll [c]
        tasks := p.tasks.filter (·.1 ≠ name) })

/-- Waits once more, and gives up the tasks that are still not finished, in the order of their
names. -/
def finishTasks (p : Play σ κ) : List String × Play σ κ :=
  let p := p.sleep patience
  let unfinished := (p.tasks.filter fun t => !Performer.hasEnded p.machine t.2).mergeSort
    fun a b => a.1 ≤ b.1
  (unfinished.map (·.1),
    { p with scheduler := p.scheduler.abandonAll (unfinished.map (·.2)) })

/-- The name of the task that a call is. -/
def taskName? (p : Play σ κ) (c : CallId) : Option String :=
  p.taskNames.lookup c

/-- What was in the journal is reported now. -/
def markReported (p : Play σ κ) (journalLength : Nat) : Play σ κ :=
  { p with reported := journalLength, idle := [] }

end Play

/-- Puts what finished in the order of time, and at one time in the order of names. -/
def orderDone {α : Type} (l : List (Nat × String × α)) : List (Nat × String × α) :=
  l.mergeSort fun a b => a.1 < b.1 || (a.1 = b.1 && a.2.1 ≤ b.2.1)

end LeaderRouting
