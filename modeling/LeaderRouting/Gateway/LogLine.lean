import LeaderRouting.Gateway.Call
import LeaderRouting.Options

/-! What a gateway writes to its log, as facts; their wording, level and origin. -/

namespace LeaderRouting

open Wire Message

inductive LogLevel
  | debug
  | info
  | warning
  deriving DecidableEq, Repr

/-- The part of a gateway that a line comes from. -/
inductive Component
  | connections
  | tracker
  | submitter
  deriving DecidableEq, Repr

def Component.name : Component → String
  | connections => "ConnectionManager"
  | tracker => "LeaderTracker"
  | submitter => "RequestSubmitter"

inductive LogLine
  | gatewayCreated (settings : Settings)
  | connectionOpened (member : Member)
  | connectionClosed (member : Member)
  | noticeDropped (candidate : Leader)
  | noticeStale (candidate : Leader) (tracked : Term)
  | termRefreshed (leader : Leader) (term : Term)
  | leaderDetected (candidate : Leader)
  | connectFailed (member : Member) (cause : TransportError)
  | trackerShutDown
  | awaitingLeader
  | requestSent (operation : String) (request : RequestId) (leader : Leader)
  | requestSuperseded (member : Member) (request : RequestId)
  | requestFailed (request : RequestId) (member : Member) (cause : TransportError)
  | requestTimedOut (request : RequestId) (member : Member) (timeout : Duration)
  | resultUndecodable (operation : String) (request : RequestId) (cause : DecodeError)
  | eventReceived (event : LeaderElectEvent)
  | eventAnswered (answer : Except Status LeaderElectAck)

/-! ### Messages as records -/

def memberRecord (m : MemberMessage) : String :=
  "ProtoMember \x7b id: " ++ Text.quoted m.id ++ ", endpoint: " ++ Text.quoted m.endpoint ++ " \x7d"

def eventRecord (e : LeaderElectEvent) : String :=
  "ProtoLeaderElectEvent \x7b leader: "
    ++ (match e.leader with
      | none => "None"
      | some m => "Some(" ++ memberRecord m ++ ")")
    ++ ", term: " ++ toString e.term.toNat ++ " \x7d"

def ackRecord : Except Status LeaderElectAck → String
  | .ok a =>
    "Ok(ProtoLeaderElectAck \x7b accepted: " ++ (if a.accepted then "true" else "false") ++ " \x7d)"
  | .error s => "Err(" ++ s.record ++ ")"

/-- What the notification server writes about a notice that arrives. -/
def Notice.line? : Notice → Option LogLine
  | served event => some (.eventReceived event)
  | _ => none

/-- What the notification server writes about an answer that it gives. -/
def Gateway.Answer.line? : Gateway.Answer → Option LogLine
  | acknowledged r => some (.eventAnswered r)
  | _ => none

namespace LogLine

def level : LogLine → LogLevel
  | gatewayCreated _ | termRefreshed _ _ | leaderDetected _ | trackerShutDown | awaitingLeader =>
    .info
  | noticeStale _ _ | connectFailed _ _ | requestSuperseded _ _ | requestFailed _ _ _
  | requestTimedOut _ _ _ | resultUndecodable _ _ _ => .warning
  | connectionOpened _ | connectionClosed _ | noticeDropped _ | requestSent _ _ _
  | eventReceived _ | eventAnswered _ => .debug

/-- The lines of the gateway's maker and of its notification server come from no component. -/
def component : LogLine → Option Component
  | connectionOpened _ | connectionClosed _ => some .connections
  | noticeDropped _ | noticeStale _ _ | termRefreshed _ _ | leaderDetected _ | connectFailed _ _
  | trackerShutDown => some .tracker
  | awaitingLeader | requestSent _ _ _ | requestSuperseded _ _ | requestFailed _ _ _
  | requestTimedOut _ _ _ | resultUndecodable _ _ _ => some .submitter
  | gatewayCreated _ | eventReceived _ | eventAnswered _ => none

/-- The member that the lines of a connection are tagged with. -/
def member? : LogLine → Option Member
  | connectionOpened m | connectionClosed m => some m
  | _ => none

/-- The line in words; `name` says how a request is referred to. -/
def text (name : RequestId → String) : LogLine → String
  | gatewayCreated settings => "Creating store gateway with " ++ settings.record
  | connectionOpened _ => "Opened connection"
  | connectionClosed _ => "Closed connection"
  | noticeDropped l =>
    "Gateway closed, dropping notification for " ++ l.member.text ++ " term " ++ l.term.text
  | noticeStale l tracked =>
    "Ignoring stale leader notification. Leader: " ++ l.member.text ++ ", term: " ++ l.term.text
      ++ ", current term: " ++ tracked.text
  | termRefreshed l term =>
    "Leader " ++ l.member.text ++ " re-elected. Term: " ++ l.term.text ++ " -> " ++ term.text
  | leaderDetected l =>
    "New leader detected. Leader: " ++ l.member.text ++ ", term: " ++ l.term.text
  | connectFailed m e => "Failed to connect to new leader " ++ m.text ++ ": " ++ e.text
  | trackerShutDown => "Leader tracker shut down"
  | awaitingLeader => "No leader in cluster, waiting for election."
  | requestSent operation id l =>
    "Sending " ++ operation ++ " (" ++ name id ++ ") to " ++ l.member.text ++ " term " ++ l.term.text
  | requestSuperseded m id => "Leader " ++ m.text ++ " replaced while " ++ name id ++ " in flight"
  | requestFailed id m e => "Request " ++ name id ++ " to " ++ m.text ++ " failed: " ++ e.text
  | requestTimedOut id m timeout =>
    "Request " ++ name id ++ " to " ++ m.text ++ " timed out after " ++ timeout.text
  | resultUndecodable operation id e =>
    "Undecodable result for " ++ operation ++ " (" ++ name id ++ "): " ++ e.text
  | eventReceived event => "ServerWire - " ++ eventRecord event
  | eventAnswered answer => "ServerWire - " ++ ackRecord answer

end LogLine

end LeaderRouting
