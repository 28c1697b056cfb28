import LeaderRouting.Proofs.Message.RoundTrip
import LeaderRouting.Store.Operation

/-!
The operations of the store's tables, one row each: what a request is to carry, and what its result
means.  Every operation meets its row, which leaves no choice about the result.
-/

namespace LeaderRouting

open Wire Message

/-! ### Maps from texts -/

namespace TextMap

variable {β : Type}

theorem mem_keys_insertEntry {key name : String} {value : β} {l : List (String × β)} :
    name ∈ (insertEntry key value l).map (·.1) ↔ name = key ∨ name ∈ l.map (·.1) := by
  fun_induction insertEntry key value l <;> grind

/-- The keys of a map are those of the entries that it was made from. -/
theorem mem_keys_ofList {name : String} (l : List (String × β)) :
    name ∈ (ofList l).entries.map (·.1) ↔ name ∈ l.map (·.1) := by
  have hfoldl : ∀ m : TextMap β, name ∈ (l.foldl (fun m e => m.insert e.1 e.2) m).entries.map (·.1) ↔
      name ∈ m.entries.map (·.1) ∨ name ∈ l.map (·.1) := by
    induction l with
    | nil => simp
    | cons e rest ih =>
      intro m
      have hinsert : name ∈ (m.insert e.1 e.2).entries.map (·.1) ↔
          name = e.1 ∨ name ∈ m.entries.map (·.1) := mem_keys_insertEntry
      rw [List.foldl_cons, ih, hinsert, List.map_cons, List.mem_cons]
      tauto
  exact (hfoldl empty).trans (by simp [empty])

/-- A map of this kind is a set of names. -/
theorem mem_entries_iff {m : TextMap Unit} {name : String} :
    (name, ()) ∈ m.entries ↔ name ∈ m.entries.map (·.1) := by
  rw [List.mem_map]
  exact ⟨fun h => ⟨_, h, rfl⟩, fun ⟨_, h, he⟩ => he ▸ h⟩

/-- Two maps with the same entries are one. -/
theorem eq_of_mem_iff {m m' : TextMap β} (h : ∀ e, e ∈ m.entries ↔ e ∈ m'.entries) : m = m' := by
  have hnodup : ∀ m : TextMap β, m.entries.Nodup := fun m =>
    m.sorted.imp fun hlt he => absurd (congrArg Prod.fst he) (Std.ne_of_lt hlt)
  exact eq_of_perm ((List.perm_ext_iff_of_nodup (hnodup m) (hnodup m')).2 h)

end TextMap

namespace TableOperation

/-! ### The table -/

/-- The name and the arguments of the request for each operation.  A blob is given by what it decodes as,
as long as its length can be written down. -/
inductive Requests : TableOperation → String → List Argument → Prop
  | createTable (table : String) : Requests (.createTable table) "createTable" [.text table]
  | createTableWithTtl (table : String) {ttl : Duration} {n : Int64}
      (millis : n.toInt = min (ttl.nanoseconds / 1000000 : Int) Int64.maxValue.toInt) :
      Requests (.createTableWithTtl table ttl) "createTable" [.text table, .integer n]
  | dropTable (table : String) : Requests (.dropTable table) "dropTable" [.text table]
  | dropAllTables : Requests .dropAllTables "dropAllTables" []
  | listTables : Requests .listTables "listTables" []
  | batchRead {request : BatchReadRequest} {blob : Bytes} (decodes : blob.length < UInt64.size →
      BatchReadRequest.schema.decode blob = .ok request) :
      Requests (.batchRead request) "read" [.blob blob]
  | batchWrite {request : BatchWriteRequest} {blob : Bytes} (decodes : blob.length < UInt64.size →
      BatchWriteRequest.schema.decode blob = .ok request) :
      Requests (.batchWrite request) "write" [.blob blob]
  | getAll (table : String) : Requests (.getAll table) "getAll" [.text table]

/-- The kind of the result message of each operation, and what such a message means. -/
inductive Means : TableOperation → (kind : MessageKind) → (kind.Value → TableResult → Prop) → Prop
  | createTable (table : String) :
      Means (.createTable table) .createTableResult fun m v => v = .created m.created
  | createTableWithTtl (table : String) (ttl : Duration) :
      Means (.createTableWithTtl table ttl) .createTableResult fun m v => v = .created m.created
  | dropTable (table : String) : Means (.dropTable table) .emptyResult fun _ v => v = .done
  | dropAllTables : Means .dropAllTables .emptyResult fun _ v => v = .done
  /-- The order of the names is lost, and how often each of them comes. -/
  | listTables : Means .listTables .tableNames fun m v =>
      ∃ names, v = .names names ∧ ∀ name, (name, ()) ∈ names.entries ↔ name ∈ m.names
  | batchRead (request : BatchReadRequest) :
      Means (.batchRead request) .readResults fun m v => v = .reads m.results
  | batchWrite (request : BatchWriteRequest) :
      Means (.batchWrite request) .writeResults fun m v => v = .writes m.results
  | getAll (table : String) : Means (.getAll table) .tableSnapshot fun m v => v = .entries m.entries

/-- What an operation is to make of the bytes that come back for it. -/
inductive Reads (op : TableOperation) (payload : Bytes) : Except DecodeError TableResult → Prop
  | ok {kind : MessageKind} {means : kind.Value → TableResult → Prop} {m : kind.Value}
      {v : TableResult} (row : op.Means kind means) (decodes : kind.schema.decode payload = .ok m)
      (meant : means m v) : Reads op payload (.ok v)
  | error {kind : MessageKind} {means : kind.Value → TableResult → Prop} {e : DecodeError}
      (row : op.Means kind means) (fails : kind.schema.decode payload = .error e) :
      Reads op payload (.error e)

variable {op : TableOperation} {payload : Bytes} {kind kind' : MessageKind}
  {means : kind.Value → TableResult → Prop} {means' : kind'.Value → TableResult → Prop}

/-! ### Requests and results as they are -/

theorem toInt_ttlMillis (ttl : Duration) :
    (ttlMillis ttl).toInt = min (ttl.nanoseconds / 1000000 : Int) Int64.maxValue.toInt := by
  have hmax : Int64.maxValue.toInt = Int64.maxValue.toNatClampNeg := by decide
  have hlt : min ttl.floorMillis Int64.maxValue.toNatClampNeg < 9223372036854775808 :=
    Nat.lt_of_le_of_lt (Nat.min_le_right _ _) (by decide)
  unfold ttlMillis
  rw [Int64.toInt_ofNat_of_lt hlt, hmax]
  unfold Duration.floorMillis
  omega

/-- What is written is read again. -/
theorem decode_write_of_lawful {σ : Type} {s : Schema σ} {height : Nat} (h : s.Lawful height)
    (hh : height ≤ Schema.depthLimit) (value : σ) (hl : (s.write value).length < UInt64.size) :
    s.decode (s.write value) = .ok value :=
  h.decode_write hh (h.length_write value ▸ hl)

/-- Each operation is sent as its row says. -/
theorem requests_submission (op : TableOperation) :
    op.Requests op.submission.operation op.submission.arguments := by
  cases op with
  | createTable table => exact .createTable table
  | createTableWithTtl table ttl => exact .createTableWithTtl table (toInt_ttlMillis ttl)
  | dropTable table => exact .dropTable table
  | dropAllTables => exact .dropAllTables
  | listTables => exact .listTables
  | batchRead request =>
    exact .batchRead (decode_write_of_lawful BatchReadRequest.lawful (by decide) request)
  | batchWrite request =>
    exact .batchWrite (decode_write_of_lawful BatchWriteRequest.lawful (by decide) request)
  | getAll table => exact .getAll table

/-- What is to live longer is not given less time. -/
theorem Requests.ttl_mono {table table' name name' : String} {ttl ttl' : Duration}
    {arguments arguments' : List Argument}
    (h : (TableOperation.createTableWithTtl table ttl).Requests name arguments)
    (h' : (TableOperation.createTableWithTtl table' ttl').Requests name' arguments')
    (ht : ttl.nanoseconds ≤ ttl'.nanoseconds) :
    ∃ n n', arguments = [.text table, .integer n] ∧ arguments' = [.text table', .integer n'] ∧
      n ≤ n' := by
  cases h with | createTableWithTtl _ hn =>
  cases h' with | createTableWithTtl _ hn' =>
  refine ⟨_, _, rfl, rfl, ?_⟩
  rw [Int64.le_iff_toInt_le, hn, hn']
  omega

/-- What an operation makes of its result message is what the message means. -/
theorem exists_means (op : TableOperation) :
    ∃ means, op.Means op.submission.result means ∧ ∀ m, means m (op.interpret m) := by
  cases op with
  | createTable table => exact ⟨_, .createTable table, fun _ => rfl⟩
  | createTableWithTtl table ttl => exact ⟨_, .createTableWithTtl table ttl, fun _ => rfl⟩
  | dropTable table => exact ⟨_, .dropTable table, fun _ => rfl⟩
  | dropAllTables => exact ⟨_, .dropAllTables, fun _ => rfl⟩
  | listTables =>
    refine ⟨_, .listTables, fun m => ⟨_, rfl, fun name => ?_⟩⟩
    rw [TextMap.mem_entries_iff, TextMap.mem_keys_ofList]
    simp
  | batchRead request => exact ⟨_, .batchRead request, fun _ => rfl⟩
  | batchWrite request => exact ⟨_, .batchWrite request, fun _ => rfl⟩
  | getAll table => exact ⟨_, .getAll table, fun _ => rfl⟩

/-- An operation has one row. -/
theorem Means.unique (h : op.Means kind means) (h' : op.Means kind' means') :
    kind' = kind ∧ HEq means' means := by
  cases h <;> cases h' <;> exact ⟨rfl, HEq.rfl⟩

/-- A message means one thing. -/
theorem Means.functional (h : op.Means kind means) {m : kind.Value} {v v' : TableResult}
    (hv : means m v) (hv' : means m v') : v' = v := by
  cases h with
  | listTables =>
    obtain ⟨names, rfl, hn⟩ := hv
    obtain ⟨names', rfl, hn'⟩ := hv'
    congr 1
    exact TextMap.eq_of_mem_iff fun e => (hn' e.1).trans (hn e.1).symm
  | _ => exact hv'.trans hv.symm

/-- Whatever comes back, an operation makes one thing of it. -/
theorem Reads.unique {r r' : Except DecodeError TableResult} (h : op.Reads payload r)
    (h' : op.Reads payload r') : r' = r := by
  cases h with
  | ok row decodes meant =>
    cases h' with
    | ok row' decodes' meant' =>
      obtain ⟨rfl, hmeans⟩ := row.unique row'
      obtain rfl := eq_of_heq hmeans
      obtain rfl := Except.ok.inj (decodes.symm.trans decodes')
      rw [row.functional meant meant']
    | error row' fails =>
      obtain ⟨rfl, -⟩ := row.unique row'
      simp [decodes] at fails
  | error row fails =>
    cases h' with
    | ok row' decodes =>
      obtain ⟨rfl, -⟩ := row.unique row'
      simp [decodes] at fails
    | error row' fails' =>
      obtain ⟨rfl, -⟩ := row.unique row'
      rw [Except.error.inj (fails.symm.trans fails')]

/-- It makes of it what it is to. -/
theorem reads_decode (op : TableOperation) (payload : Bytes) :
    op.Reads payload ((op.submission.result.schema.decode payload).map op.interpret) := by
  obtain ⟨means, hrow, hmeans⟩ := op.exists_means
  cases hd : op.submission.result.schema.decode payload with
  | ok m => exact .ok hrow hd (hmeans m)
  | error e => exact .error hrow hd

end TableOperation

end LeaderRouting
