import LeaderRouting.Surroundings

/-! A cluster that behaves as it is told: which members refuse connections, and what it replies. -/

namespace LeaderRouting

open Wire Message

/-- How a request or a connection is told to fail. -/
inductive Failure
  | remote (message : String)
  | connect (cause : String)
  | rpc (status : Status)
  | disconnected
  /-- The reply is bytes that are no response. -/
  | malformed (bytes : Bytes)
  deriving DecidableEq

/-- The error for a member that fails in this way. -/
def Failure.error (f : Failure) (member : Member) : TransportError :=
  match f with
  | remote message => .remote message
  | connect cause => .connect member.text cause
  | rpc status => .rpc status
  | disconnected => .disconnected
  | malformed bytes =>
    match SubmitResponseMessage.schema.decode bytes with
    | .error e => .malformed e
    | .ok _ => .remote ""

/-- What comes back for a request to a member that fails in this way. -/
def Failure.feedback (f : Failure) (member : Member) (request : RequestId) : Feedback :=
  match f with
  | remote message => .store (.response ⟨request.text, some (.error message)⟩)
  | connect _ | disconnected => .connection (f.error member)
  | rpc status => .store (.status status)
  | malformed bytes =>
    match SubmitResponseMessage.schema.decode bytes with
    | .error e => .store (.garbled e)
    | .ok _ => .connection (f.error member)

structure ScriptedReply where
  delay : Nat := 0
  /-- Whether there never is a reply. -/
  hangs : Bool := false
  failure : Option Failure := none
  payload : Bytes := []

structure Script where
  /-- How many milliseconds a connection takes to open. -/
  openDelay : Nat := 0
  /-- The members, by id, that refuse connections. -/
  refusals : List (String × Failure) := []
  /-- Replies for an operation, or for an operation on one member. -/
  replies : List (String × ScriptedReply) := []

inductive Direction
  | reply (operation : String) (reply : ScriptedReply)
  | refuse (id : String) (failure : Failure)
  | accept (id : String)
  | openDelay (millis : Nat)

namespace Script

/-- What is said last counts. -/
def follow (s : Script) : Direction → Script
  | .reply operation r => { s with replies := (operation, r) :: s.replies }
  | .refuse id f => { s with refusals := (id, f) :: s.refusals }
  | .accept id => { s with refusals := s.refusals.filter (·.1 ≠ id) }
  | .openDelay millis => { s with openDelay := millis }

/-- The reply for the operation on the member goes before the one for the operation. -/
def replyFor (s : Script) (member : Member) (operation : String) : ScriptedReply :=
  ((s.replies.lookup (member.id ++ "/" ++ operation)).or (s.replies.lookup operation)).getD {}

def refusal (s : Script) (member : Member) : Option TransportError :=
  (s.refusals.lookup member.id).map (·.error member)

def reply (s : Script) (member : Member) (request : Request) : Reply :=
  let r := s.replyFor member request.operation
  { delay := if r.hangs then none else some r.delay
    feedback := match r.failure with
      | some f => f.feedback member request.id
      | none => .store (.response ⟨request.id.text, some (.ok r.payload)⟩) }

def surroundings (s : Script) (requestId : RequestId) : Surroundings where
  openDelay := some s.openDelay
  refusal := s.refusal
  reply := s.reply
  requestId
  closedFirst := false

end Script

end LeaderRouting
