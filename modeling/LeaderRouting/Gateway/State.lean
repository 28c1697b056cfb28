import LeaderRouting.Connection
import LeaderRouting.Gateway.LogLine
import LeaderRouting.Surroundings

/-!
The state of a gateway with everything that shares it: the tracked leader and its published copy, the
connections, the handles, the calls in progress, and the journal of what has happened.
-/

namespace LeaderRouting

open Message

/-- What gives access to a gateway. -/
inductive Handle
  | gateway
  | notifier
  | client
  | server
  | tracker
  | submitter
  | subscriber
  deriving DecidableEq, Repr

/-- Whether the tracker lives as long as the handle does.  The others only keep the published value. -/
def Handle.ownsTracker : Handle → Bool
  | submitter | subscriber => false
  | _ => true

namespace Gateway

structure Call where
  id : CallId
  task : Task
  /-- The handle that the call keeps until it ends. -/
  owner : Handle
  /-- The last version of the published value that the call's subscription has seen. -/
  seen : Nat
  phase : Phase

/-- Something that happened. -/
inductive Fact
  | started (call : CallId)
  /-- The call was served by the writer's lock. -/
  | locked (call : CallId)
  /-- A call has a connection to its candidate. -/
  | opened (call : CallId) (connection : Nat) (member : Member)
  | refused (call : CallId) (member : Member) (cause : TransportError)
  | published (value : Published)
  | closed (connection : Nat) (member : Member)
  | slept (call : CallId)
  /-- The connection has found itself open and lets the call's request in. -/
  | admitted (call : CallId) (connection : Nat) (member : Member) (request : Request)
  /-- The call's request was handed over, and is on its way. -/
  | submitted (call : CallId) (connection : Nat) (member : Member) (request : Request)
  /-- The call takes what came back for its request. -/
  | replied (call : CallId) (feedback : Feedback)
  | answered (call : CallId) (answer : Answer)
  | abandoned (call : CallId)
  | logged (line : LogLine)

structure Entry where
  time : Nat
  fact : Fact

end Gateway

open Gateway

structure Gateway where
  settings : Settings
  /-- Milliseconds since the start. -/
  now : Nat := 0
  writer : Writer := {}
  lock : Lock := {}
  channel : Channel := {}
  connections : List Connection := []
  handles : List Handle := []
  /-- Snapshots that someone keeps under a name. -/
  held : List (String × Snapshot) := []
  calls : List Call := []
  journal : List Entry := []

namespace Gateway

def call? (g : Gateway) (c : CallId) : Option Call :=
  g.calls.find? (·.id = c)

def connection? (g : Gateway) (n : Nat) : Option Connection :=
  g.connections[n]?

def isRetired (g : Gateway) (n : Nat) : Bool :=
  match g.connection? n with
  | none => true
  | some k => k.retired

/-- The leader that readers of the tracker see. -/
def leader? (g : Gateway) : Option Leader :=
  g.channel.value.snapshot?.map (·.leader)

def enter (g : Gateway) (f : Fact) : Gateway :=
  { g with journal := g.journal ++ [⟨g.now, f⟩] }

def log (g : Gateway) (line : LogLine) : Gateway :=
  g.enter (.logged line)

def setPhase (g : Gateway) (c : CallId) (p : Phase) : Gateway :=
  { g with calls := g.calls.map fun k => if k.id = c then { k with phase := p } else k }

def setSeen (g : Gateway) (c : CallId) (version : Nat) : Gateway :=
  { g with calls := g.calls.map fun k => if k.id = c then { k with seen := version } else k }

def logIfAny (g : Gateway) (line : Option LogLine) : Gateway :=
  match line with
  | none => g
  | some line => g.log line

def finish (g : Gateway) (c : CallId) (a : Answer) : Gateway :=
  ((g.logIfAny a.line?).setPhase c (.finished a)).enter (.answered c a)

/-- Closes a connection; a second time nothing happens. -/
def closeConnection (g : Gateway) (n : Nat) : Gateway :=
  match g.connection? n with
  | none => g
  | some k =>
    if k.closed then g
    else
      (({ g with connections := g.connections.set n k.close }).enter (.closed n k.member)).log
        (.connectionClosed k.member)

def Phase.wake : Phase → Phase
  | .suspended deadline _ => .suspended deadline true
  | p => p

/-- Wakes every call that sleeps until something is published. -/
def wakeAll (g : Gateway) : Gateway :=
  { g with calls := g.calls.map fun k => { k with phase := Phase.wake k.phase } }

/-! ### Ownership -/

/-- Whether a handle or an unfinished call keeps the tracker. -/
def trackerHeld (g : Gateway) : Bool :=
  g.handles.any (·.ownsTracker) || g.calls.any fun k => !k.phase.ended && k.owner.ownsTracker

/-- Whether a handle or an unfinished call keeps the published value. -/
def channelHeld (g : Gateway) : Bool :=
  !g.handles.isEmpty || g.calls.any fun k => !k.phase.ended

/-- Whether anybody receives what is published.  The tracker does so itself as long as it lives. -/
def hasSubscriber (g : Gateway) : Bool :=
  !g.channel.abandoned || g.channelHeld

/-- What nobody receives is not published. -/
def publish (g : Gateway) (p : Published) : Gateway :=
  if g.hasSubscriber then
    ({ g with channel := g.channel.publish p }.enter (.published p)).wakeAll
  else g

/-- The snapshots that something refers to. -/
def snapshots (g : Gateway) : List Snapshot :=
  (if g.channel.abandoned then [] else g.writer.current.toList)
    ++ (if g.channelHeld then g.channel.value.snapshot?.toList else [])
    ++ g.calls.filterMap (·.phase.snapshot?) ++ g.held.map (·.2)

def isReferenced (g : Gateway) (n : Nat) : Bool :=
  g.snapshots.any (·.connection = n)

/-- When nothing keeps the tracker, nobody can publish any more, which sleepers have to learn. -/
def releaseTracker (g : Gateway) : Gateway :=
  if g.channel.abandoned || g.trackerHeld then g
  else { g with channel := { g.channel with abandoned := true } }.wakeAll

/-- Closes the connections that nothing refers to. -/
def releaseConnections (g : Gateway) : Gateway :=
  (List.range g.connections.length).foldl
    (fun g n => if g.isReferenced n then g else g.closeConnection n) g

/-- Lets go of what is no longer kept. -/
def release (g : Gateway) : Gateway :=
  g.releaseTracker.releaseConnections

end Gateway

end LeaderRouting
