import LeaderRouting.Connection
import LeaderRouting.Surroundings
import LeaderRouting.Tracker.Lock

/-!
Connections that are shared by name.  Any number of calls close a connection, send requests over it or
wait for it to be closed, each by small steps in any order; a connection that nobody refers to any
longer is closed.
-/

namespace LeaderRouting.Pool

inductive Task
  /-- Opens a connection to the member and gives it the name. -/
  | connect (name : String) (member : Member)
  | close (connection : Nat)
  | submit (connection : Nat) (operation : String) (arguments : List Argument)
  /-- Waits until the connection is closed. -/
  | awaitRetired (connection : Nat)
  deriving DecidableEq

/-- The connection that the task keeps hold of until it ends. -/
def Task.connection? : Task → Option Nat
  | .connect _ _ => none
  | .close n | .submit n _ _ | .awaitRetired n => some n

inductive Answer
  | opened
  | refused (cause : TransportError)
  | closed
  /-- What came back for a request. -/
  | replied (request : RequestId) (r : Except TransportError Response)
  | retired

/-- How far a call has come. -/
inductive Phase
  | created
  | opening (openedAt : Option Nat)
  /-- A close that marked the connection and has yet to retire it. -/
  | marked
  /-- A close that retired the connection and has yet to release it. -/
  | retiring
  /-- A request that found the connection open and has yet to be handed over. -/
  | admitted (request : Request)
  | inFlight (request : RequestId) (repliedAt : Option Nat) (reply : Except TransportError Response)
  /-- Waits for the connection to be closed. -/
  | watching
  | finished (answer : Answer)
  | abandoned

def Phase.ended : Phase → Bool
  | finished _ | abandoned => true
  | _ => false

/-- Whether a call in this phase has not begun or waits for something, so that its caller can give it
up. -/
def Phase.isWaiting : Phase → Bool
  | created | opening _ | inFlight _ _ _ | watching => true
  | _ => false

def Phase.answer? : Phase → Option Answer
  | finished a => some a
  | _ => none

structure Call where
  id : CallId
  task : Task
  phase : Phase

inductive Fact
  | opened (connection : Nat) (member : Member)
  | refused (member : Member)
  | closed (connection : Nat) (member : Member)
  | submitted (call : CallId) (connection : Nat) (member : Member) (request : Request)
  | answered (call : CallId) (answer : Answer)

structure Entry where
  time : Nat
  fact : Fact

end Pool

structure Pool where
  now : Nat := 0
  connections : List Connection := []
  /-- The references to connections, by name. -/
  names : List (String × Nat) := []
  calls : List Pool.Call := []
  journal : List Pool.Entry := []

namespace Pool

def call? (p : Pool) (c : CallId) : Option Call :=
  p.calls.find? (·.id = c)

def connection? (p : Pool) (n : Nat) : Option Connection :=
  p.connections[n]?

def enter (p : Pool) (f : Fact) : Pool :=
  { p with journal := p.journal ++ [⟨p.now, f⟩] }

def setPhase (p : Pool) (c : CallId) (phase : Phase) : Pool :=
  { p with calls := p.calls.map fun k => if k.id = c then { k with phase } else k }

def finish (p : Pool) (c : CallId) (a : Answer) : Pool :=
  (p.setPhase c (.finished a)).enter (.answered c a)

def change (p : Pool) (n : Nat) (f : Connection → Connection) : Pool :=
  match p.connection? n with
  | none => p
  | some k => { p with connections := p.connections.set n (f k) }

/-- Releases the channel of a connection, which the other side sees. -/
def releaseChannel (p : Pool) (n : Nat) : Pool :=
  match p.connection? n with
  | none => p
  | some k => (p.change n Connection.release).enter (.closed n k.member)

/-- A name refers to one connection at a time. -/
def giveName (p : Pool) (name : String) (n : Nat) : Pool :=
  { p with names := p.names.filter (·.1 ≠ name) ++ [(name, n)] }

/-! ### Steps of calls -/

def completeOpen (p : Pool) (env : Surroundings) (call : Call) (name : String) (member : Member) :
    Pool :=
  match env.refusal member with
  | some e => (p.enter (.refused member)).finish call.id (.refused e)
  | none =>
    let n := p.connections.length
    let opened := { p with connections := p.connections ++ [Connection.mk member false false 0] }
    ((opened.enter (.opened n member)).giveName name n).finish call.id .opened

/-- Marks a connection; whoever finds it marked has nothing left to do. -/
def mark (p : Pool) (call : Call) (n : Nat) (k : Connection) : Pool :=
  if k.closed then p.finish call.id .closed
  else (p.change n Connection.mark).setPhase call.id .marked

/-- A request looks at the mark before it is handed over. -/
def inspect (p : Pool) (env : Surroundings) (call : Call) (k : Connection) (operation : String)
    (arguments : List Argument) : Pool :=
  if k.closed then p.finish call.id (.replied env.requestId (.error .disconnected))
  else p.setPhase call.id (.admitted ⟨env.requestId, operation, arguments⟩)

def handOver (p : Pool) (env : Surroundings) (call : Call) (n : Nat) (k : Connection)
    (request : Request) : Pool :=
  let reply := env.reply k.member request
  (p.enter (.submitted call.id n k.member request)).setPhase call.id
    (.inFlight request.id (reply.delay.map (p.now + ·)) reply.feedback.result)

def isDue (p : Pool) (time : Option Nat) : Bool :=
  match time with
  | none => false
  | some t => t ≤ p.now

def isRetired (p : Pool) (task : Task) : Bool :=
  match task.connection?.bind p.connection? with
  | none => false
  | some k => k.retired

def canRun (p : Pool) (call : Call) : Bool :=
  match call.phase with
  | .created | .marked | .retiring | .admitted _ => true
  | .opening openedAt => p.isDue openedAt
  | .inFlight _ repliedAt _ => p.isDue repliedAt
  | .watching => p.isRetired call.task
  | .finished _ | .abandoned => false

/-- The first step of a call on a connection. -/
def begin (p : Pool) (env : Surroundings) (call : Call) (n : Nat) (k : Connection) : Pool :=
  match call.task with
  | .connect _ _ => p
  | .close _ => p.mark call n k
  | .submit _ operation arguments => p.inspect env call k operation arguments
  | .awaitRetired _ => p.setPhase call.id .watching

/-- A later step of a call on a connection. -/
def carryOn (p : Pool) (env : Surroundings) (call : Call) (n : Nat) (k : Connection) : Pool :=
  match call.phase with
  | .created => p.begin env call n k
  | .marked => (p.change n Connection.retire).setPhase call.id .retiring
  | .retiring => (p.releaseChannel n).finish call.id .closed
  | .admitted request => p.handOver env call n k request
  | .inFlight id _ reply => p.finish call.id (.replied id reply)
  | .watching => p.finish call.id .retired
  | _ => p

/-- The next step of a call that can take one. -/
def proceed (p : Pool) (env : Surroundings) (call : Call) : Pool :=
  match call.task with
  | .connect name member =>
    match call.phase with
    | .created => p.setPhase call.id (.opening (env.openDelay.map (p.now + ·)))
    | _ => p.completeOpen env call name member
  | .close n | .submit n _ _ | .awaitRetired n =>
    match p.connection? n with
    | none => p
    | some k => p.carryOn env call n k

def timer? (call : Call) : Option Nat :=
  match call.phase with
  | .opening openedAt => openedAt
  | .inFlight _ repliedAt _ => repliedAt
  | _ => none

/-! ### References -/

def isReferenced (p : Pool) (n : Nat) : Bool :=
  p.names.any (·.2 = n) || p.calls.any fun k => !k.phase.ended && k.task.connection? = some n

/-- Closes a connection all at once, as its last owner does. -/
def closeConnection (p : Pool) (n : Nat) : Pool :=
  match p.connection? n with
  | none => p
  | some k =>
    if k.closed then p
    else { p with connections := p.connections.set n k.close }.enter (.closed n k.member)

/-- Closes the connections that nothing refers to. -/
def release (p : Pool) : Pool :=
  (List.range p.connections.length).foldl
    (fun p n => if p.isReferenced n then p else p.closeConnection n) p

/-! ### Runs -/

inductive Action
  | start (call : CallId) (task : Task)
  | run (call : CallId) (env : Surroundings)
  | abandon (call : CallId)
  /-- Gives a second name to a connection. -/
  | share (name as : String)
  | drop (name : String)
  | advance (time : Nat)

/-- Whether the task is about a connection that someone refers to. -/
def canStart (p : Pool) (task : Task) : Bool :=
  match task.connection? with
  | none => true
  | some n => p.names.any (·.2 = n)

/-! Each action gives the next state, or none if it is not possible. -/

def start? (p : Pool) (c : CallId) (task : Task) : Option Pool :=
  if (p.call? c).isNone && p.canStart task then
    some { p with calls := p.calls ++ [Call.mk c task .created] }
  else none

def runCall? (p : Pool) (c : CallId) (env : Surroundings) : Option Pool :=
  match p.call? c with
  | none => none
  | some call => if p.canRun call then some (p.proceed env call) else none

def abandon? (p : Pool) (c : CallId) : Option Pool :=
  match p.call? c with
  | none => none
  | some call => if call.phase.isWaiting then some (p.setPhase c .abandoned) else none

/-- Whether no timer of the call goes off before a time. -/
def isQuietUntil (time : Nat) (call : Call) : Bool :=
  match timer? call with
  | none => true
  | some due => time ≤ due

/-- Time passes only while no call can run, and not beyond the next timer. -/
def advance? (p : Pool) (time : Nat) : Option Pool :=
  if p.now < time && !p.calls.any p.canRun && p.calls.all (isQuietUntil time) then
    some { p with now := time }
  else none

def act? (p : Pool) : Action → Option Pool
  | .start c task => p.start? c task
  | .run c env => p.runCall? c env
  | .abandon c => p.abandon? c
  | .share name as => (p.names.lookup name).map (p.giveName as)
  | .drop name => some { p with names := p.names.filter (·.1 ≠ name) }
  | .advance time => p.advance? time

/-- One step; afterwards a connection that nothing refers to any longer is closed. -/
def step? (p : Pool) (a : Action) : Option Pool :=
  (p.act? a).map release

/-- A step that changes nothing if it is not possible. -/
def step (p : Pool) (a : Action) : Pool :=
  (p.step? a).getD p

/-- The state after a run, all of whose steps have to be possible. -/
def run? (p : Pool) : List Action → Option Pool
  | [] => some p
  | a :: rest => (p.step? a).bind fun p => p.run? rest

end Pool

end LeaderRouting
