import LeaderRouting.Message.Store
import LeaderRouting.Message.Cluster

/-!
All message types under one roof: a kind names a type of messages and its schema.
-/

namespace LeaderRouting

open Wire Message

inductive MessageKind
  | versionedValue | readRequest | batchReadRequest | readResult | writeRequest | batchWriteRequest
  | writeResult | createTableResult | emptyResult | tableNames | readResults | writeResults
  | tableSnapshot | argument | submitRequest | submitResponse | member | leaderElectEvent
  | leaderElectAck
  deriving DecidableEq, Repr

namespace MessageKind

/-- The messages of a kind. -/
abbrev Value : MessageKind → Type
  | versionedValue => VersionedValue
  | readRequest => ReadRequest
  | batchReadRequest => BatchReadRequest
  | readResult => ReadResult
  | writeRequest => WriteRequest
  | batchWriteRequest => BatchWriteRequest
  | writeResult => WriteResult
  | createTableResult => CreateTableResult
  | emptyResult => EmptyResult
  | tableNames => TableNames
  | readResults => ReadResults
  | writeResults => WriteResults
  | tableSnapshot => TableSnapshot
  | argument => ArgumentMessage
  | submitRequest => SubmitRequestMessage
  | submitResponse => SubmitResponseMessage
  | member => MemberMessage
  | leaderElectEvent => LeaderElectEvent
  | leaderElectAck => LeaderElectAck

def schema : (kind : MessageKind) → Schema kind.Value
  | versionedValue => VersionedValue.schema
  | readRequest => ReadRequest.schema
  | batchReadRequest => BatchReadRequest.schema
  | readResult => ReadResult.schema
  | writeRequest => WriteRequest.schema
  | batchWriteRequest => BatchWriteRequest.schema
  | writeResult => WriteResult.schema
  | createTableResult => CreateTableResult.schema
  | emptyResult => EmptyResult.schema
  | tableNames => TableNames.schema
  | readResults => ReadResults.schema
  | writeResults => WriteResults.schema
  | tableSnapshot => TableSnapshot.schema
  | argument => ArgumentMessage.schema
  | submitRequest => SubmitRequestMessage.schema
  | submitResponse => SubmitResponseMessage.schema
  | member => MemberMessage.schema
  | leaderElectEvent => LeaderElectEvent.schema
  | leaderElectAck => LeaderElectAck.schema

instance (kind : MessageKind) : DecidableEq kind.Value := by
  cases kind <;> exact inferInstance

def all : List MessageKind :=
  [versionedValue, readRequest, batchReadRequest, readResult, writeRequest, batchWriteRequest,
    writeResult, createTableResult, emptyResult, tableNames, readResults, writeResults,
    tableSnapshot, argument, submitRequest, submitResponse, member, leaderElectEvent,
    leaderElectAck]

/-- The kind whose messages go by this name. -/
def named? (name : String) : Option MessageKind :=
  all.find? (·.schema.name = name)

/-- Whether the message comes back when it is written and read again. -/
def Restores (kind : MessageKind) (value : kind.Value) : Prop :=
  ((kind.schema.decode (kind.schema.write value)).toOption) = some value

instance (kind : MessageKind) (value : kind.Value) : Decidable (kind.Restores value) := by
  unfold Restores
  exact inferInstance

end MessageKind

end LeaderRouting
