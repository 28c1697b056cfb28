import LeaderRouting.Wire.Schema

/-!
The messages between the cluster and its clients: requests to the leader with their responses, and
announcements of a leader with their acknowledgements.
-/

namespace LeaderRouting

open Wire

/-- A positional argument of an operation, passed on to the store as it is. -/
inductive Argument
  | text (text : String)
  | integer (integer : Int64)
  | blob (blob : Bytes)
  deriving DecidableEq

/-- What the store answered: an encoded result, or why it failed to execute the operation. -/
inductive Outcome
  | ok (result : Bytes)
  | error (message : String)
  deriving DecidableEq

namespace Message

structure ArgumentMessage where
  value : Option Argument := none
  deriving DecidableEq

def ArgumentMessage.schema : Schema ArgumentMessage where
  name := "ProtoArgument"
  initial := {}
  fields := [
    .choice "value" [.of 1 .text .text, .of 2 .int64 .integer, .of 3 .bytes .blob]
      (fun
        | .text t => Scalar.text.fieldSize 1 t
        | .integer n => Scalar.int64.fieldSize 2 n
        | .blob b => Scalar.bytes.fieldSize 3 b)
      (fun
        | .text t => Scalar.text.writeField 1 t
        | .integer n => Scalar.int64.writeField 2 n
        | .blob b => Scalar.bytes.writeField 3 b)
      ⟨(·.value), fun x _ => { value := x }⟩]

structure SubmitRequestMessage where
  id : String := ""
  operation : String := ""
  arguments : List ArgumentMessage := []
  deriving DecidableEq

def SubmitRequestMessage.schema : Schema SubmitRequestMessage where
  name := "ProtoSubmitRequest"
  initial := {}
  fields := [
    .scalar "id" 1 .text ⟨(·.id), fun x m => { m with id := x }⟩,
    .scalar "operation" 2 .text ⟨(·.operation), fun x m => { m with operation := x }⟩,
    .messages "arguments" 3 ArgumentMessage.schema
      ⟨(·.arguments), fun x m => { m with arguments := x }⟩]

structure SubmitResponseMessage where
  id : String := ""
  result : Option Outcome := none
  deriving DecidableEq

def SubmitResponseMessage.schema : Schema SubmitResponseMessage where
  name := "ProtoSubmitResponse"
  initial := {}
  fields := [
    .scalar "id" 1 .text ⟨(·.id), fun x m => { m with id := x }⟩,
    .choice "result" [.of 2 .bytes .ok, .of 3 .text .error]
      (fun
        | .ok b => Scalar.bytes.fieldSize 2 b
        | .error t => Scalar.text.fieldSize 3 t)
      (fun
        | .ok b => Scalar.bytes.writeField 2 b
        | .error t => Scalar.text.writeField 3 t)
      ⟨(·.result), fun x m => { m with result := x }⟩]

structure MemberMessage where
  id : String := ""
  endpoint : String := ""
  deriving DecidableEq

def MemberMessage.schema : Schema MemberMessage where
  name := "ProtoMember"
  initial := {}
  fields := [
    .scalar "id" 1 .text ⟨(·.id), fun x m => { m with id := x }⟩,
    .scalar "endpoint" 2 .text ⟨(·.endpoint), fun x m => { m with endpoint := x }⟩]

structure LeaderElectEvent where
  /-- Absent when the election produced no leader. -/
  leader : Option MemberMessage := none
  term : UInt64 := 0
  deriving DecidableEq

def LeaderElectEvent.schema : Schema LeaderElectEvent where
  name := "ProtoLeaderElectEvent"
  initial := {}
  fields := [
    .message "leader" 1 MemberMessage.schema ⟨(·.leader), fun x m => { m with leader := x }⟩,
    .scalar "term" 2 .uint64 ⟨(·.term), fun x m => { m with term := x }⟩]

structure LeaderElectAck where
  accepted : Bool := false
  deriving DecidableEq

def LeaderElectAck.schema : Schema LeaderElectAck where
  name := "ProtoLeaderElectAck"
  initial := {}
  fields := [.scalar "accepted" 1 .bool ⟨(·.accepted), fun x m => { m with accepted := x }⟩]

end Message

end LeaderRouting
