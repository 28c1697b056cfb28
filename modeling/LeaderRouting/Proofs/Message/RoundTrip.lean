import LeaderRouting.Proofs.Wire.Schemas
import LeaderRouting.Message.Kind

/-!
Every message type is read as it is written.
-/

namespace LeaderRouting

open Wire

namespace Message

/-! ### The store's messages -/

theorem VersionedValue.lawful : VersionedValue.schema.Lawful 0 :=
  Schema.lawful_of_fields
    (.cons (sound_scalar Scalar.lawful_bytes (.of_eq rfl rfl rfl) ⟨by decide, by decide⟩ rfl)
      (.cons (sound_scalar Scalar.lawful_uint64 (.of_eq rfl rfl rfl) ⟨by decide, by decide⟩ rfl)
        .nil (.of_eq rfl rfl rfl) (by decide))
      (.of_eq rfl rfl rfl) (by decide))
    (by decide) fun _ => rfl

theorem ReadRequest.lawful : ReadRequest.schema.Lawful 0 :=
  Schema.lawful_of_fields
    (.cons (sound_scalar Scalar.lawful_text (.of_eq rfl rfl rfl) ⟨by decide, by decide⟩ rfl)
      (.cons (sound_scalar Scalar.lawful_text (.of_eq rfl rfl rfl) ⟨by decide, by decide⟩ rfl)
        .nil (.of_eq rfl rfl rfl) (by decide))
      (.of_eq rfl rfl rfl) (by decide))
    (by decide) fun _ => rfl

theorem BatchReadRequest.lawful : BatchReadRequest.schema.Lawful 1 :=
  Schema.lawful_of_fields
    (.cons (sound_messages ReadRequest.lawful (.of_eq rfl rfl rfl) ⟨by decide, by decide⟩ rfl)
      .nil (.of_eq rfl rfl rfl) (by decide))
    (by decide) fun _ => rfl

theorem ReadResult.lawful : ReadResult.schema.Lawful 1 :=
  Schema.lawful_of_fields
    (.cons (sound_scalar Scalar.lawful_text (.of_eq rfl rfl rfl) ⟨by decide, by decide⟩ rfl)
      (.cons (sound_scalar Scalar.lawful_text (.of_eq rfl rfl rfl) ⟨by decide, by decide⟩ rfl)
        (.cons (sound_scalar Scalar.lawful_bool (.of_eq rfl rfl rfl) ⟨by decide, by decide⟩ rfl)
          (.cons (sound_message VersionedValue.lawful (.of_eq rfl rfl rfl) ⟨by decide, by decide⟩ rfl)
            .nil (.of_eq rfl rfl rfl) (by decide))
          (.of_eq rfl rfl rfl) (by decide))
        (.of_eq rfl rfl rfl) (by decide))
      (.of_eq rfl rfl rfl) (by decide))
    (by decide) fun _ => rfl

theorem WriteRequest.lawful : WriteRequest.schema.Lawful 0 :=
  Schema.lawful_of_fields
    (.cons (sound_scalar Scalar.lawful_text (.of_eq rfl rfl rfl) ⟨by decide, by decide⟩ rfl)
      (.cons (sound_scalar Scalar.lawful_text (.of_eq rfl rfl rfl) ⟨by decide, by decide⟩ rfl)
        (.cons (sound_scalar Scalar.lawful_bytes (.of_eq rfl rfl rfl) ⟨by decide, by decide⟩ rfl)
          (.cons (sound_scalar Scalar.lawful_int64 (.of_eq rfl rfl rfl) ⟨by decide, by decide⟩ rfl)
            .nil (.of_eq rfl rfl rfl) (by decide))
          (.of_eq rfl rfl rfl) (by decide))
        (.of_eq rfl rfl rfl) (by decide))
      (.of_eq rfl rfl rfl) (by decide))
    (by decide) fun _ => rfl

theorem BatchWriteRequest.lawful : BatchWriteRequest.schema.Lawful 1 :=
  Schema.lawful_of_fields
    (.cons (sound_messages WriteRequest.lawful (.of_eq rfl rfl rfl) ⟨by decide, by decide⟩ rfl)
      .nil (.of_eq rfl rfl rfl) (by decide))
    (by decide) fun _ => rfl

theorem WriteResult.lawful : WriteResult.schema.Lawful 1 :=
  Schema.lawful_of_fields
    (.cons (sound_scalar Scalar.lawful_bool (.of_eq rfl rfl rfl) ⟨by decide, by decide⟩ rfl)
      (.cons (sound_message VersionedValue.lawful (.of_eq rfl rfl rfl) ⟨by decide, by decide⟩ rfl)
        .nil (.of_eq rfl rfl rfl) (by decide))
      (.of_eq rfl rfl rfl) (by decide))
    (by decide) fun _ => rfl

theorem CreateTableResult.lawful : CreateTableResult.schema.Lawful 0 :=
  Schema.lawful_of_fields
    (.cons (sound_scalar Scalar.lawful_bool (.of_eq rfl rfl rfl) ⟨by decide, by decide⟩ rfl)
      .nil (.of_eq rfl rfl rfl) (by decide))
    (by decide) fun _ => rfl

theorem EmptyResult.lawful : EmptyResult.schema.Lawful 0 :=
  Schema.lawful_of_fields .nil (by decide) fun _ => rfl

theorem TableNames.lawful : TableNames.schema.Lawful 0 :=
  Schema.lawful_of_fields
    (.cons (sound_repeated Scalar.lawful_text (.of_eq rfl rfl rfl) ⟨by decide, by decide⟩ rfl)
      .nil (.of_eq rfl rfl rfl) (by decide))
    (by decide) fun _ => rfl

theorem ReadResults.lawful : ReadResults.schema.Lawful 2 :=
  Schema.lawful_of_fields
    (.cons (sound_messages ReadResult.lawful (.of_eq rfl rfl rfl) ⟨by decide, by decide⟩ rfl)
      .nil (.of_eq rfl rfl rfl) (by decide))
    (by decide) fun _ => rfl

theorem WriteResults.lawful : WriteResults.schema.Lawful 2 :=
  Schema.lawful_of_fields
    (.cons (sound_messages WriteResult.lawful (.of_eq rfl rfl rfl) ⟨by decide, by decide⟩ rfl)
      .nil (.of_eq rfl rfl rfl) (by decide))
    (by decide) fun _ => rfl

theorem TableSnapshot.lawful : TableSnapshot.schema.Lawful 2 :=
  Schema.lawful_of_fields
    (.cons (sound_entries VersionedValue.lawful (.of_eq rfl rfl rfl) ⟨by decide, by decide⟩ rfl)
      .nil (.of_eq rfl rfl rfl) (by decide))
    (by decide) fun _ => rfl

/-- Entries are read into a snapshot in whatever order they come. -/
theorem TableSnapshot.decode_writeEntries {snapshot : TableSnapshot}
    {l : List (String × VersionedValue)} (hl : l.Perm snapshot.entries.entries)
    (hsize : TableSnapshot.schema.size snapshot < UInt64.size) :
    TableSnapshot.schema.decode (Field.writeEntries 1 VersionedValue.schema l) = .ok snapshot := by
  have hcost : total (Field.entryCost VersionedValue.schema 1) l < UInt64.size := by
    rw [total_perm hl]
    exact hsize
  have hhandled : (Field.entries "entries" 1 VersionedValue.schema
      ⟨TableSnapshot.entries, fun x m => { m with entries := x }⟩).IsHandled Schema.depthLimit
        (TableSnapshot.schema.readField Schema.depthLimit) :=
    Schema.isHandled_of_mem (by decide) (by simp [TableSnapshot.schema]) _
  have hmerges := VersionedValue.lawful.merges_writeEntries (.of_eq rfl rfl rfl)
    ⟨by decide, by decide⟩ (by decide) hhandled hcost .empty {}
  have hmap : TextMap.ofList l = snapshot.entries := TextMap.ofList_of_perm hl
  unfold TextMap.ofList at hmap
  rw [hmap] at hmerges
  exact Schema.decode_of_merges hmerges

/-! ### The cluster's messages -/

/-- The alternatives of an argument. -/
theorem ArgumentMessage.lawful_choice : Choice.Lawful
    [.of 1 .text Argument.text, .of 2 .int64 .integer, .of 3 .bytes .blob]
    (fun
      | .text t => Scalar.text.fieldSize 1 t
      | .integer n => Scalar.int64.fieldSize 2 n
      | .blob b => Scalar.bytes.fieldSize 3 b)
    (fun
      | .text t => Scalar.text.writeField 1 t
      | .integer n => Scalar.int64.writeField 2 n
      | .blob b => Scalar.bytes.writeField 3 b) where
  length_write
    | .text t => Scalar.lawful_text.length_writeField 1 t
    | .integer n => Scalar.lawful_int64.length_writeField 2 n
    | .blob b => Scalar.lawful_bytes.length_writeField 3 b
  read
    | .text _, h => Scalar.lawful_text.exists_alternative ⟨by decide, by decide⟩ rfl h
    | .integer _, h => Scalar.lawful_int64.exists_alternative ⟨by decide, by decide⟩ rfl h
    | .blob _, h => Scalar.lawful_bytes.exists_alternative ⟨by decide, by decide⟩ rfl h
  frugal a ha _ _ _ _ hkey hr := by
    simp only [List.mem_cons, List.not_mem_nil, or_false] at ha
    obtain rfl | rfl | rfl := ha
    · obtain ⟨x, rfl, hle⟩ := Scalar.lawful_text.exists_of_alternative hkey hr
      exact hle
    · obtain ⟨x, rfl, hle⟩ := Scalar.lawful_int64.exists_of_alternative hkey hr
      exact hle
    · obtain ⟨x, rfl, hle⟩ := Scalar.lawful_bytes.exists_of_alternative hkey hr
      exact hle

theorem ArgumentMessage.lawful : ArgumentMessage.schema.Lawful 0 :=
  Schema.lawful_of_fields
    (.cons (sound_choice ArgumentMessage.lawful_choice (.of_eq rfl rfl rfl) rfl)
      .nil (.of_eq rfl rfl rfl) (by decide))
    (by decide) fun _ => rfl

theorem SubmitRequestMessage.lawful : SubmitRequestMessage.schema.Lawful 1 :=
  Schema.lawful_of_fields
    (.cons (sound_scalar Scalar.lawful_text (.of_eq rfl rfl rfl) ⟨by decide, by decide⟩ rfl)
      (.cons (sound_scalar Scalar.lawful_text (.of_eq rfl rfl rfl) ⟨by decide, by decide⟩ rfl)
        (.cons (sound_messages ArgumentMessage.lawful (.of_eq rfl rfl rfl) ⟨by decide, by decide⟩ rfl)
          .nil (.of_eq rfl rfl rfl) (by decide))
        (.of_eq rfl rfl rfl) (by decide))
      (.of_eq rfl rfl rfl) (by decide))
    (by decide) fun _ => rfl

/-- What a response brings: a result or an error. -/
theorem SubmitResponseMessage.lawful_choice : Choice.Lawful
    [.of 2 .bytes Outcome.ok, .of 3 .text .error]
    (fun
      | .ok b => Scalar.bytes.fieldSize 2 b
      | .error t => Scalar.text.fieldSize 3 t)
    (fun
      | .ok b => Scalar.bytes.writeField 2 b
      | .error t => Scalar.text.writeField 3 t) where
  length_write
    | .ok b => Scalar.lawful_bytes.length_writeField 2 b
    | .error t => Scalar.lawful_text.length_writeField 3 t
  read
    | .ok _, h => Scalar.lawful_bytes.exists_alternative ⟨by decide, by decide⟩ rfl h
    | .error _, h => Scalar.lawful_text.exists_alternative ⟨by decide, by decide⟩ rfl h
  frugal a ha _ _ _ _ hkey hr := by
    simp only [List.mem_cons, List.not_mem_nil, or_false] at ha
    obtain rfl | rfl := ha
    · obtain ⟨x, rfl, hle⟩ := Scalar.lawful_bytes.exists_of_alternative hkey hr
      exact hle
    · obtain ⟨x, rfl, hle⟩ := Scalar.lawful_text.exists_of_alternative hkey hr
      exact hle

theorem SubmitResponseMessage.lawful : SubmitResponseMessage.schema.Lawful 0 :=
  Schema.lawful_of_fields
    (.cons (sound_scalar Scalar.lawful_text (.of_eq rfl rfl rfl) ⟨by decide, by decide⟩ rfl)
      (.cons (sound_choice SubmitResponseMessage.lawful_choice (.of_eq rfl rfl rfl) rfl)
        .nil (.of_eq rfl rfl rfl) (by decide))
      (.of_eq rfl rfl rfl) (by decide))
    (by decide) fun _ => rfl

theorem MemberMessage.lawful : MemberMessage.schema.Lawful 0 :=
  Schema.lawful_of_fields
    (.cons (sound_scalar Scalar.lawful_text (.of_eq rfl rfl rfl) ⟨by decide, by decide⟩ rfl)
      (.cons (sound_scalar Scalar.lawful_text (.of_eq rfl rfl rfl) ⟨by decide, by decide⟩ rfl)
        .nil (.of_eq rfl rfl rfl) (by decide))
      (.of_eq rfl rfl rfl) (by decide))
    (by decide) fun _ => rfl

theorem LeaderElectEvent.lawful : LeaderElectEvent.schema.Lawful 1 :=
  Schema.lawful_of_fields
    (.cons (sound_message MemberMessage.lawful (.of_eq rfl rfl rfl) ⟨by decide, by decide⟩ rfl)
      (.cons (sound_scalar Scalar.lawful_uint64 (.of_eq rfl rfl rfl) ⟨by decide, by decide⟩ rfl)
        .nil (.of_eq rfl rfl rfl) (by decide))
      (.of_eq rfl rfl rfl) (by decide))
    (by decide) fun _ => rfl

theorem LeaderElectAck.lawful : LeaderElectAck.schema.Lawful 0 :=
  Schema.lawful_of_fields
    (.cons (sound_scalar Scalar.lawful_bool (.of_eq rfl rfl rfl) ⟨by decide, by decide⟩ rfl)
      .nil (.of_eq rfl rfl rfl) (by decide))
    (by decide) fun _ => rfl

end Message

namespace MessageKind

open Message

/-- Whether the bytes are an encoding of the message.  Only the entries of a map may be written in
more than one order. -/
def IsEncoding : (kind : MessageKind) → kind.Value → Bytes → Prop
  | .tableSnapshot, value, bytes => ∃ l : List (String × VersionedValue),
      l.Perm value.entries.entries ∧ bytes = Field.writeEntries 1 VersionedValue.schema l
  | kind, value, bytes => bytes = kind.schema.write value

/-- Whether messages of a kind are read as they are written. -/
structure IsFaithful (kind : MessageKind) : Prop where
  isEncoding_write : ∀ value, kind.IsEncoding value (kind.schema.write value)
  /-- The length that is computed without writing is that of every encoding. -/
  length_eq : ∀ {value bytes}, kind.IsEncoding value bytes → bytes.length = kind.schema.size value
  restores : ∀ {value bytes}, kind.IsEncoding value bytes → bytes.length < UInt64.size →
    kind.schema.decode bytes = .ok value
  /-- What any bytes are read as is read again from its own encodings. -/
  settles : ∀ {input value bytes}, input.length < UInt64.size →
    kind.schema.decode input = .ok value → kind.IsEncoding value bytes →
    kind.schema.decode bytes = .ok value

variable {kind : MessageKind} {value : kind.Value} {bytes : Bytes}

/-- No message is nested deeper than readers follow. -/
theorem exists_lawful (kind : MessageKind) :
    ∃ height, height ≤ Schema.depthLimit ∧ kind.schema.Lawful height :=
  match kind with
  | versionedValue => ⟨0, by decide, VersionedValue.lawful⟩
  | readRequest => ⟨0, by decide, ReadRequest.lawful⟩
  | batchReadRequest => ⟨1, by decide, BatchReadRequest.lawful⟩
  | readResult => ⟨1, by decide, ReadResult.lawful⟩
  | writeRequest => ⟨0, by decide, WriteRequest.lawful⟩
  | batchWriteRequest => ⟨1, by decide, BatchWriteRequest.lawful⟩
  | writeResult => ⟨1, by decide, WriteResult.lawful⟩
  | createTableResult => ⟨0, by decide, CreateTableResult.lawful⟩
  | emptyResult => ⟨0, by decide, EmptyResult.lawful⟩
  | tableNames => ⟨0, by decide, TableNames.lawful⟩
  | readResults => ⟨2, by decide, ReadResults.lawful⟩
  | writeResults => ⟨2, by decide, WriteResults.lawful⟩
  | tableSnapshot => ⟨2, by decide, TableSnapshot.lawful⟩
  | argument => ⟨0, by decide, ArgumentMessage.lawful⟩
  | submitRequest => ⟨1, by decide, SubmitRequestMessage.lawful⟩
  | submitResponse => ⟨0, by decide, SubmitResponseMessage.lawful⟩
  | member => ⟨0, by decide, MemberMessage.lawful⟩
  | leaderElectEvent => ⟨1, by decide, LeaderElectEvent.lawful⟩
  | leaderElectAck => ⟨0, by decide, LeaderElectAck.lawful⟩

theorem isEncoding_write (kind : MessageKind) (value : kind.Value) :
    kind.IsEncoding value (kind.schema.write value) := by
  cases kind
  case tableSnapshot => exact ⟨value.entries.entries, .refl _, List.append_nil _⟩
  all_goals rfl

theorem IsEncoding.length_eq (h : kind.IsEncoding value bytes) :
    bytes.length = kind.schema.size value := by
  obtain ⟨height, -, hs⟩ := kind.exists_lawful
  cases kind
  case tableSnapshot =>
    obtain ⟨l, hl, rfl⟩ := h
    rw [VersionedValue.lawful.length_writeEntries, total_perm hl]
    rfl
  all_goals
    rw [show bytes = _ from h]
    exact hs.length_write value

theorem IsEncoding.decode_eq (h : kind.IsEncoding value bytes)
    (hv : kind.schema.size value < UInt64.size) : kind.schema.decode bytes = .ok value := by
  obtain ⟨height, hh, hs⟩ := kind.exists_lawful
  cases kind
  case tableSnapshot =>
    obtain ⟨l, hl, rfl⟩ := h
    exact TableSnapshot.decode_writeEntries hl hv
  all_goals
    rw [show bytes = _ from h]
    exact hs.decode_write hh hv

theorem faithful (kind : MessageKind) : kind.IsFaithful where
  isEncoding_write := kind.isEncoding_write
  length_eq h := h.length_eq
  restores h hl := h.decode_eq (h.length_eq ▸ hl)
  settles {input value bytes} hl hv h := by
    obtain ⟨height, -, hs⟩ := kind.exists_lawful
    have hsize : kind.schema.size value ≤ input.length := hs.size_le_of_decode hv
    exact h.decode_eq (by omega)

/-- Two entries, the later key first, one of them with the initial value. -/
theorem faithful_of_reversed :
    let value : TableSnapshot := ⟨.ofList [("a", ⟨[7], 1⟩), ("b", {})]⟩
    let bytes := Field.writeEntries 1 VersionedValue.schema [("b", {}), ("a", ⟨[7], 1⟩)]
    bytes ≠ TableSnapshot.schema.write value ∧ TableSnapshot.schema.decode bytes = .ok value := by
  intro value bytes
  have hl : bytes.length < UInt64.size := by decide +kernel
  exact ⟨by decide +kernel, (faithful .tableSnapshot).restores ⟨_, .swap _ _ _, rfl⟩ hl⟩

end MessageKind

end LeaderRouting
