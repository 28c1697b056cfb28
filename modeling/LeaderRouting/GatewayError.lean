import LeaderRouting.Transport
import LeaderRouting.Duration

/-! What callers of the gateway are told when a request or a wait fails. -/

namespace LeaderRouting

open Wire

inductive SubmitFailure
  | transport (cause : TransportError)
  | undecodable (cause : DecodeError)
  /-- The connection was closed while the request was in flight. -/
  | superseded
  deriving DecidableEq

namespace SubmitFailure

def text : SubmitFailure → String
  | transport e => e.text
  | undecodable _ => "Result could not be decoded"
  | superseded => "Leader changed while request was in flight"

def causeText : SubmitFailure → Option String
  | transport e => e.causeText
  | undecodable e => some e.text
  | superseded => none

end SubmitFailure

inductive GatewayError
  | noLeaderAvailable (waited : Duration)
  | submissionTimeout (request : RequestId) (timeout : Duration)
  | submissionFailed (request : RequestId) (cause : SubmitFailure)
  | closed
  deriving DecidableEq

namespace GatewayError

/-- False only when the store certainly did not execute the operation. -/
def mayHaveExecuted : GatewayError → Bool
  | submissionTimeout _ _ => true
  | submissionFailed _ (.undecodable _) => true
  | submissionFailed _ .superseded => true
  | submissionFailed _ (.transport (.rpc _)) => true
  | _ => false

def request? : GatewayError → Option RequestId
  | submissionTimeout id _ => some id
  | submissionFailed id _ => some id
  | _ => none

/-- The error in words; `name` says how a request is referred to. -/
def text (name : RequestId → String) : GatewayError → String
  | noLeaderAvailable waited => "No leader elected within " ++ waited.text
  | submissionTimeout id timeout =>
    "Request " ++ name id ++ " got no response within " ++ timeout.text
  | submissionFailed id _ => "Request " ++ name id ++ " failed"
  | closed => "Gateway is shut down"

end GatewayError

end LeaderRouting
