import LeaderRouting.Simulation.Scenario

/-!
Scenarios of a gateway among stores that are told what to respond, over the messages that travel
between them.  Besides, connections to the stores can be used without a gateway.
-/

namespace LeaderRouting

open Net Message

namespace Loopback

/-- What a store does with a request. -/
inductive Conduct
  /-- Responds, under the request's own id unless another one is given. -/
  | respond (id : Option String) (outcome : Option Outcome)
  | fail (status : Status)
  | hang

structure Store where
  name : String
  endpoint : Endpoint
  /-- What the store does for an operation, the last word first. -/
  conducts : List (String × Conduct) := []

/-- The request as the store receives it. -/
structure Receipt where
  store : String
  request : SubmitRequestMessage

end Loopback

open Loopback

/-- The stores that can be reached. -/
structure Loopback where
  stores : List Loopback.Store

namespace Loopback

/-- The stores get addresses of their own, by their place. -/
def address (place : Nat) : Endpoint where
  address := .v4 ⟨127, 83, 71, UInt8.ofNat (place + 1)⟩
  port := UInt16.ofNat (42000 + place)

/-- An address at which there is no store. -/
def nowhere : Endpoint where
  address := .v4 ⟨127, 83, 71, 0⟩
  port := 41999

def ofNames (names : List String) : Loopback where
  stores := names.zipIdx.map fun n => { name := n.1, endpoint := address n.2 }

/-- Where the store of that name is. -/
def endpointOf (l : Loopback) (name : String) : Endpoint :=
  match l.stores.find? (·.name = name) with
  | some s => s.endpoint
  | none => nowhere

def storeAt? (l : Loopback) (e : Endpoint) : Option Loopback.Store :=
  l.stores.find? (·.endpoint = e)

def instruct (l : Loopback) (name operation : String) (c : Conduct) : Loopback where
  stores := l.stores.map fun s =>
    if s.name = name then { s with conducts := (operation, c) :: s.conducts } else s

/-- A store responds with an empty result unless it is told otherwise. -/
def Store.conduct (s : Loopback.Store) (operation : String) : Conduct :=
  (s.conducts.lookup operation).getD (.respond none (some (.ok [])))

def Conduct.reply (c : Conduct) (request : Request) : Reply :=
  match c with
  | respond id outcome =>
    ⟨some 0, .store (.response ⟨id.getD request.id.text, outcome⟩)⟩
  | fail status => ⟨some 0, .store (.status status)⟩
  | hang => ⟨none, .connection .disconnected⟩

def refusal (l : Loopback) (m : Member) : Option TransportError :=
  if (l.storeAt? m.endpoint).isSome then none else some (.connect m.text "connection refused")

def reply (l : Loopback) (m : Member) (request : Request) : Reply :=
  match l.storeAt? m.endpoint with
  | some s => (s.conduct request.operation).reply request
  | none => Conduct.hang.reply request

def surroundings (l : Loopback) (requestId : RequestId) : Surroundings where
  openDelay := some 0
  refusal := l.refusal
  reply := l.reply
  requestId
  closedFirst := false

instance : Cluster Loopback := ⟨Loopback.surroundings⟩

/-! ### Instructions -/

inductive Instruction
  | instruct (store operation : String) (conduct : Conduct)
  | errand (errand : Scenario.Errand)
  | stopServer
  | connect (name : String) (member : Member)
  | send (name operation : String) (arguments : List Argument)
  | close (name : String)

inductive Result
  | none
  | noHandle
  | pending
  | answer (a : Gateway.Answer)
  | stopped
  | alreadyStopped
  | connected (member : Member)
  | noSuchConnection
  | sent (request : RequestId) (r : Except TransportError Response)

structure Report where
  result : Result
  leader : Option Leader
  received : List Receipt

structure State where
  play : Play Gateway Loopback
  serverRunning : Bool := true
  /-- Connections that are used without the gateway, and whether they are closed. -/
  connections : List (String × Member × Bool) := []
  /-- The requests that were sent over them. -/
  sent : List RequestId := []

namespace State

def loopback (s : State) : Loopback :=
  s.play.scheduler.world.cluster

def receipt (l : Loopback) (m : Member) (r : Request) : List Receipt :=
  (l.storeAt? m.endpoint).toList.map fun store => ⟨store.name, r.toMessage⟩

def receipts (l : Loopback) (journal : List Gateway.Entry) : List Receipt :=
  journal.flatMap fun e =>
    match e.fact with
    | .submitted _ _ m r => receipt l m r
    | _ => []

def runErrand (s : State) (errand : Scenario.Errand) : Result × List Receipt × State :=
  match errand.handles.find? s.play.machine.handles.contains with
  | .none => (.noHandle, [], s)
  | some handle =>
    let start := fun c (g : Gateway) => g.step (.start c handle errand.task 0)
    let play := s.play.complete start (some Play.patience)
    let news := play.machine.journal.drop s.play.machine.journal.length
    let result := match Scenario.answer? play.machine s.play.nextCall with
      | some a => Result.answer a
      | .none => .pending
    (result, receipts s.loopback news, { s with play })

/-- Requests over a connection of their own have ids that no call of the gateway draws. -/
def nextId (s : State) : RequestId :=
  .ofNumber (UInt64.size + s.sent.length)

def send (s : State) (m : Member) (request : Request) : Result × List Receipt × State :=
  let reply := s.loopback.reply m request
  let result := match reply.delay with
    | .none => Result.pending
    | some _ => .sent request.id reply.feedback.result
  (result, receipt s.loopback m request, { s with sent := s.sent ++ [request.id] })

def carryOut (s : State) : Instruction → Result × List Receipt × State
  | .instruct store operation c =>
    (.none, [], { s with play := s.play.direct (·.instruct store operation c) })
  | .errand e => s.runErrand e
  | .stopServer =>
    (if s.serverRunning then .stopped else .alreadyStopped, [], { s with serverRunning := false })
  | .connect name m =>
    match s.loopback.refusal m with
    | some e => (.sent s.nextId (.error e), [], s)
    | .none => (.connected m, [], { s with connections := (name, m, false) :: s.connections })
  | .send name operation arguments =>
    match s.connections.lookup name with
    | .none => (.noSuchConnection, [], s)
    | some (_, true) => (.sent s.nextId (.error .disconnected), [], s)
    | some (m, false) => s.send m ⟨s.nextId, operation, arguments⟩
  | .close name =>
    match s.connections.lookup name with
    | .none => (.noSuchConnection, [], s)
    | some (m, _) => (.none, [], { s with connections := (name, m, true) :: s.connections })

def followAll : State → List Instruction → List Report × State
  | s, [] => ([], s)
  | s, i :: rest =>
    let (result, received, s) := s.carryOut i
    let report := { result, leader := s.play.machine.leader?, received }
    let (reports, s) := followAll s rest
    (report :: reports, s)

/-- The ids of all requests so far. -/
def requestIds (s : State) : List RequestId :=
  s.sent ++ s.play.machine.journal.filterMap fun e =>
    match e.fact with
    | .submitted _ _ _ r => some r.id
    | _ => .none

end State

def play (l : Loopback) (settings : Settings) (instructions : List Instruction) :
    List Report × State :=
  State.followAll { play := .ofMachine (.create settings [.gateway, .server]) l } instructions

end Loopback

end LeaderRouting
