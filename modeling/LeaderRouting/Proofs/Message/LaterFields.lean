import LeaderRouting.Announcement
import LeaderRouting.Message.Kind
import LeaderRouting.Proofs.Wire.Boundaries

/-!
Messages of peers that know more fields than this version.  Every message type is read field by field,
so fields that it does not have can stand at every boundary of what is read as one.
-/

namespace LeaderRouting

open Wire

namespace Message

@[simp] theorem VersionedValue.isLocal : VersionedValue.schema.IsLocal :=
  .of_fields (by simp [VersionedValue.schema])

@[simp] theorem ReadRequest.isLocal : ReadRequest.schema.IsLocal :=
  .of_fields (by simp [ReadRequest.schema])

@[simp] theorem ReadResult.isLocal : ReadResult.schema.IsLocal :=
  .of_fields (by simp [ReadResult.schema])

@[simp] theorem WriteRequest.isLocal : WriteRequest.schema.IsLocal :=
  .of_fields (by simp [WriteRequest.schema])

@[simp] theorem WriteResult.isLocal : WriteResult.schema.IsLocal :=
  .of_fields (by simp [WriteResult.schema])

@[simp] theorem ArgumentMessage.isLocal : ArgumentMessage.schema.IsLocal :=
  .of_fields (by simp [ArgumentMessage.schema])

@[simp] theorem MemberMessage.isLocal : MemberMessage.schema.IsLocal :=
  .of_fields (by simp [MemberMessage.schema])

end Message

namespace MessageKind

open Message

/-- What is read into a message depends only on the bytes that it is read from, whatever its type. -/
theorem isLocal_schema (kind : MessageKind) : kind.schema.IsLocal := by
  cases kind with
  | versionedValue => exact VersionedValue.isLocal
  | readRequest => exact ReadRequest.isLocal
  | batchReadRequest => exact .of_fields (by simp [schema, BatchReadRequest.schema])
  | readResult => exact ReadResult.isLocal
  | writeRequest => exact WriteRequest.isLocal
  | batchWriteRequest => exact .of_fields (by simp [schema, BatchWriteRequest.schema])
  | writeResult => exact WriteResult.isLocal
  | createTableResult => exact .of_fields (by simp [schema, CreateTableResult.schema])
  | emptyResult => exact .of_fields (by simp [schema, EmptyResult.schema])
  | tableNames => exact .of_fields (by simp [schema, TableNames.schema])
  | readResults => exact .of_fields (by simp [schema, ReadResults.schema])
  | writeResults => exact .of_fields (by simp [schema, WriteResults.schema])
  | tableSnapshot => exact .of_fields (by simp [schema, TableSnapshot.schema])
  | argument => exact ArgumentMessage.isLocal
  | submitRequest => exact .of_fields (by simp [schema, SubmitRequestMessage.schema])
  | submitResponse => exact .of_fields (by simp [schema, SubmitResponseMessage.schema])
  | member => exact MemberMessage.isLocal
  | leaderElectEvent => exact .of_fields (by simp [schema, LeaderElectEvent.schema])
  | leaderElectAck => exact .of_fields (by simp [schema, LeaderElectAck.schema])

theorem decode_of_extends {kind : MessageKind} {bytes bytes' : Bytes}
    (h : kind.schema.Extends bytes bytes') : kind.schema.decode bytes' = kind.schema.decode bytes :=
  kind.isLocal_schema.decode_of_extends h

end MessageKind

/-- An announcement is heard as the same whatever fields it has besides. -/
theorem Announcement.decode_of_extends {payload payload' : Bytes}
    (h : Message.LeaderElectEvent.schema.Extends payload payload') :
    decode payload' = decode payload := by
  have hevent : Message.LeaderElectEvent.schema.decode payload' =
      Message.LeaderElectEvent.schema.decode payload :=
    MessageKind.leaderElectEvent.isLocal_schema.decode_of_extends h
  rw [decode, hevent, decode]

end LeaderRouting
