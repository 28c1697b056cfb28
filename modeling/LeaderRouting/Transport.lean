import LeaderRouting.Message.Cluster
import LeaderRouting.Status

/-!
Requests to a member of the cluster and its responses, the messages they travel as, and how reaching
the member can fail.
-/

namespace LeaderRouting

open Wire Message

structure RequestId where
  text : String
  deriving DecidableEq, Repr

/-- 32 hexadecimal digits for a number of 128 bits. -/
def RequestId.ofNumber (n : Nat) : RequestId :=
  let digits := Nat.toDigits 16 (n % (UInt64.size * UInt64.size))
  ⟨String.ofList (List.replicate (32 - digits.length) '0' ++ digits)⟩

/-- Whether the id is 32 small hexadecimal digits. -/
def RequestId.IsHex (id : RequestId) : Bool :=
  id.text.length = 32 && id.text.all fun c => c.isDigit || ('a' ≤ c && c ≤ 'f')

structure Request where
  id : RequestId
  operation : String
  arguments : List Argument
  deriving DecidableEq

def Request.toMessage (r : Request) : SubmitRequestMessage where
  id := r.id.text
  operation := r.operation
  arguments := r.arguments.map fun a => { value := some a }

structure Response where
  id : RequestId
  /-- Only the caller knows what kind of message this encodes. -/
  result : Bytes
  deriving DecidableEq

inductive TransportError
  | connect (member cause : String)
  | disconnected
  /-- The request reached the store, and the store failed to execute it. -/
  | remote (message : String)
  | rpc (status : Status)
  | malformed (cause : DecodeError)
  deriving DecidableEq

namespace TransportError

def text : TransportError → String
  | connect member _ => "Failed to connect to " ++ member
  | disconnected => "Connection is closed"
  | remote message => "Store failed to execute request: " ++ message
  | rpc status => "RPC failure: " ++ status.text
  | malformed _ => "Malformed message"

/-- The text of what caused the error, if that is another error. -/
def causeText : TransportError → Option String
  | connect _ cause => some cause
  | malformed e => some e.text
  | _ => none

end TransportError

/-- A response without a result counts as a failure, never as a success. -/
def Response.ofMessage (m : SubmitResponseMessage) : Except TransportError Response :=
  match m.result with
  | some (.ok result) => .ok ⟨⟨m.id⟩, result⟩
  | some (.error message) => .error (.remote message)
  | none => .error (.remote ("Response to request " ++ m.id ++ " has no result"))

/-- What comes back from a store that a request has reached. -/
inductive StoreReply
  | response (message : SubmitResponseMessage)
  /-- Bytes that are no response. -/
  | garbled (cause : DecodeError)
  | status (status : Status)
  deriving DecidableEq

def StoreReply.result : StoreReply → Except TransportError Response
  | response m => Response.ofMessage m
  | garbled e => .error (.malformed e)
  | status s => .error (.rpc s)

/-- What comes back over a connection that has taken a request. -/
inductive Feedback
  | store (reply : StoreReply)
  /-- The connection fails by itself. -/
  | connection (error : TransportError)
  deriving DecidableEq

/-- What the sender of the request is told. -/
def Feedback.result : Feedback → Except TransportError Response
  | store r => r.result
  | connection e => .error e

end LeaderRouting
