import LeaderRouting.Announcement
import LeaderRouting.GatewayError
import LeaderRouting.Store.Operation
import LeaderRouting.Tracker.Lock
import LeaderRouting.Tracker.Writer

/-!
Calls into a gateway: what each is to do, how far it has come, and what it answers.
-/

namespace LeaderRouting

open Wire Message

/-- The ways in which the news of a leader arrives. -/
inductive Notice
  | direct (leader : Leader)
  /-- An encoded event off the cluster's messaging bus. -/
  | message (payload : Bytes)
  /-- An event that the notification server received. -/
  | served (event : LeaderElectEvent)
  deriving DecidableEq

inductive NoticeError
  | announcement (cause : AnnouncementError)
  | connect (cause : TransportError)
  deriving DecidableEq

def NoticeError.text : NoticeError → String
  | announcement _ => "Failed to decode leader notification"
  | connect _ => "Failed to connect to new leader"

/-- A message of some kind. -/
structure AnyMessage where
  kind : MessageKind
  value : kind.Value

namespace Gateway

inductive Task
  | notice (notice : Notice)
  | shutdown
  | submit (submission : Submission)
  | table (operation : TableOperation)
  /-- Waits for a leader, for ever or as long as `limit` says. -/
  | wait (limit : Option Duration)
  deriving DecidableEq

inductive Answer
  | verdict (r : Except TransportError Verdict)
  | handled (r : Except NoticeError Verdict)
  | acknowledged (r : Except Status LeaderElectAck)
  | done
  | message (r : Except GatewayError AnyMessage)
  | table (r : Except GatewayError TableResult)
  | leader (r : Except GatewayError Leader)

end Gateway

open Gateway

namespace Notice

/-- The leader that the notice names, if it names one. -/
def leader : Notice → Except AnnouncementError (Option Leader)
  | direct l => .ok (some l)
  | message payload => Announcement.decode payload
  | served event => Announcement.leader event

/-- An acknowledgement says whether the notice raised the tracked term. -/
def ack (v : Verdict) : LeaderElectAck where
  accepted := v = .newLeader || v = .termRefreshed

/-- What whoever brought the notice is told about the tracker's answer. -/
def answer : Notice → Except TransportError Verdict → Answer
  | direct _, r => .verdict r
  | message _, .error e => .handled (.error (.connect e))
  | message _, .ok v => .handled (.ok v)
  | served _, .error e => .acknowledged (.error ⟨.unavailable, e.text⟩)
  | served _, .ok v => .acknowledged (.ok (ack v))

/-- What whoever brought the notice is told if it makes no sense. -/
def refusal : Notice → AnnouncementError → Answer
  | direct _, _ => .verdict (.ok .noLeader)
  | message _, e => .handled (.error (.announcement e))
  | served _, e => .acknowledged (.error ⟨.invalidArgument, e.text⟩)

end Notice

namespace Gateway

namespace Task

/-- Whether the task is about which leader is tracked, and not about reaching it. -/
def concernsTracker : Task → Bool
  | notice _ | shutdown => true
  | _ => false

/-- The request that the task sends, if it sends one. -/
def submission? : Task → Option Submission
  | submit s => some s
  | table op => some op.submission
  | _ => none

/-- The answer for a result that reached the caller as `payload`. -/
def delivered : Task → (payload : Bytes) → Except DecodeError Answer
  | submit s, payload =>
    (s.result.schema.decode payload).map fun m => .message (.ok ⟨s.result, m⟩)
  | table op, payload =>
    (op.submission.result.schema.decode payload).map fun m => .table (.ok (op.interpret m))
  | _, _ => .ok .done

def failed : Task → GatewayError → Answer
  | submit _, e => .message (.error e)
  | table _, e => .table (.error e)
  | wait _, e => .leader (.error e)
  | _, _ => .done

end Task

/-- A change of the tracked leader that a call wants to make. -/
inductive Update
  | elect (candidate : Leader)
  | shutdown
  deriving DecidableEq

/-- A request that a connection, which has found itself open, lets in. -/
structure Admission where
  snapshot : Snapshot
  member : Member
  request : Request

/-- A request that a connection has taken. -/
structure InFlight where
  snapshot : Snapshot
  request : RequestId
  /-- When the reply is there; never, if there is none. -/
  repliedAt : Option Nat
  feedback : Feedback
  deadline : Nat

/-- How far a call has come.  Times are milliseconds. -/
inductive Phase
  | created
  /-- In line for the writer's lock, or first in line and holding it. -/
  | queued (update : Update)
  /-- Holds the lock while a connection to the candidate opens. -/
  | opening (candidate : Leader) (openedAt : Option Nat)
  /-- About to look at the published value. -/
  | reading (deadline : Option Nat)
  /-- About to see whether there is a newer value than the last one seen. -/
  | checking (deadline : Option Nat)
  /-- Asleep until something is published. -/
  | suspended (deadline : Option Nat) (woken : Bool)
  /-- Has a leader, and is about to see whether the connection to it is closed. -/
  | sending (snapshot : Snapshot)
  /-- Has found the connection open, and is about to hand its request over. -/
  | admitted (a : Admission)
  | inFlight (f : InFlight)
  | finished (answer : Answer)
  /-- Given up by its caller. -/
  | abandoned

namespace Phase

def ended : Phase → Bool
  | finished _ => true
  | abandoned => true
  | _ => false

/-- Whether a call in this phase has not begun or waits for something, so that its caller can give it
up. -/
def isWaiting : Phase → Bool
  | created | queued _ | opening _ _ | suspended _ _ | inFlight _ => true
  | _ => false

def answer? : Phase → Option Answer
  | finished a => some a
  | _ => none

/-- The snapshot that a call in this phase keeps hold of. -/
def snapshot? : Phase → Option Snapshot
  | sending s => some s
  | admitted a => some a.snapshot
  | inFlight f => some f.snapshot
  | _ => none

end Phase

end Gateway

end LeaderRouting
