import LeaderRouting.Tracker.Lock

/-!
A scheduler for systems of calls.  It runs calls in the order in which they became able to run, and
lets time pass only when none is.  One call may be the main one: it has its turn first when time has
passed, and after that when no other call is able to run or a round of turns is over.
-/

namespace LeaderRouting

/-- A system of calls that take steps. -/
class Machine (σ : Type) where
  now : σ → Nat
  canRun : σ → CallId → Bool
  hasEnded : σ → CallId → Bool
  /-- Of several calls that one step sets free, those of a lower rank come first. -/
  rank : σ → CallId → Nat
  step : CallId → σ → σ
  abandon : CallId → σ → σ
  /-- When the next timer of any call goes off. -/
  nextTimer : σ → Option Nat
  advance : Nat → σ → σ

structure Scheduler (σ : Type) where
  world : σ
  /-- Calls that are able to run. -/
  ready : List CallId := []
  /-- Calls that are not, in the order in which they stopped. -/
  parked : List CallId := []
  main : Option CallId := none

namespace Scheduler

variable {σ : Type} [Machine σ]

/-- Puts a changed world in place and makes ready, in the order given, which calls it has set free. -/
def wake (s : Scheduler σ) (world : σ) (order : List CallId → List CallId) : Scheduler σ :=
  let free := fun c => Machine.canRun world c && s.main ≠ some c
  { s with
    world
    ready := s.ready ++ order (s.parked.filter free)
    parked := s.parked.filter fun c => !free c }

def ranks : List Nat := [0, 1, 2]

/-- Changes the world, time apart. -/
def apply (s : Scheduler σ) (f : σ → σ) : Scheduler σ :=
  s.wake (f s.world) fun l =>
    ranks.flatMap fun r => l.filter fun c => Machine.rank s.world c = r

/-- Lets time pass. -/
def advance (s : Scheduler σ) (time : Nat) : Scheduler σ :=
  s.wake (Machine.advance time s.world) id

def pollWithin (c : CallId) : Nat → Scheduler σ → Scheduler σ
  | 0, s => s
  | n + 1, s =>
    if Machine.canRun s.world c then pollWithin c n (s.apply (Machine.step c))
    else if Machine.hasEnded s.world c then s
    else { s with parked := s.parked ++ [c] }

/-- Runs one call until it has to wait.  No call takes more than a dozen steps in a row. -/
def poll (s : Scheduler σ) (c : CallId) : Scheduler σ :=
  pollWithin c 32 s

/-- Runs the main call if it is able to. -/
def pollMain (s : Scheduler σ) : Scheduler σ :=
  match s.main with
  | none => s
  | some m =>
    if Machine.canRun s.world m then { s with parked := s.parked.erase m }.poll m else s

def mainCanRun (s : Scheduler σ) : Bool :=
  s.main.any (Machine.canRun s.world)

/-- How many other calls have a turn before the main one is looked at again. -/
def roundLength : Nat := 61

def settleWithin : (fuel turns : Nat) → Scheduler σ → Scheduler σ
  | 0, _, s => s
  | fuel + 1, turns, s =>
    match turns, s.ready with
    | turns + 1, c :: rest => settleWithin fuel turns ({ s with ready := rest }.poll c)
    | 0, _ :: _ => settleWithin fuel roundLength s.pollMain
    | _, [] => if s.mainCanRun then settleWithin fuel roundLength s.pollMain else s

/-- Runs calls until none is able to; no call has its turn more than a few times at one moment. -/
def settle (s : Scheduler σ) : Scheduler σ :=
  settleWithin (16 * (s.ready.length + s.parked.length + 1)) roundLength s

def mainHasEnded (s : Scheduler σ) : Bool :=
  s.main.any (Machine.hasEnded s.world)

/-- The time of the next timer or the limit, whichever is first. -/
def nextTime (s : Scheduler σ) (limit : Option Nat) : Option Nat :=
  match Machine.nextTimer s.world, limit with
  | none, limit => limit
  | some t, none => some t
  | some t, some l => some (min t l)

def passWithin (limit : Option Nat) : (fuel : Nat) → Scheduler σ → Scheduler σ
  | 0, s => s
  | fuel + 1, s =>
    if s.mainHasEnded || limit = some (Machine.now s.world) then s
    else
      let s := s.settle
      match s.nextTime limit with
      | none => s
      | some t => if s.mainHasEnded then s else passWithin limit fuel (s.advance t).pollMain

/-- Lets time pass until the main call has ended, or up to the limit.  At that moment the main call
has had its turn, and no other call has.  A call sets a few timers at most. -/
def passUntil (s : Scheduler σ) (limit : Option Nat) : Scheduler σ :=
  passWithin limit (8 * (s.ready.length + s.parked.length + 1)) s

/-- Lets time pass while nothing is started. -/
def sleepUntil (s : Scheduler σ) (time : Nat) : Scheduler σ :=
  (s.passUntil (some time)).settle

/-- Starts a call that is run with the others. -/
def spawn (s : Scheduler σ) (c : CallId) (start : σ → σ) : Scheduler σ :=
  let s := s.apply start
  { s with ready := s.ready ++ [c] }.settle

/-- Runs a call until it has ended, or gives it up after `patience` milliseconds if there is a limit
to patience. -/
def complete (s : Scheduler σ) (c : CallId) (start : σ → σ) (patience : Option Nat) :
    Scheduler σ :=
  let limit := patience.map (Machine.now s.world + ·)
  let s := ({ s.apply start with main := some c }.poll c).passUntil limit
  let s := { s with main := none, parked := s.parked.erase c }
  if Machine.hasEnded s.world c then s.settle else (s.apply (Machine.abandon c)).settle

/-- Gives calls up, before any other call has a turn. -/
def abandonAll (s : Scheduler σ) (calls : List CallId) : Scheduler σ :=
  (calls.foldl (fun s c =>
    { s with ready := s.ready.erase c, parked := s.parked.erase c }.apply (Machine.abandon c))
    s).settle

end Scheduler

end LeaderRouting
