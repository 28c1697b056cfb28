import LeaderRouting.Message.Kind
import LeaderRouting.Duration

/-!
The operations of the store's tables: the request that each of them is sent as, and what its result
message means.
-/

namespace LeaderRouting

open Wire Message

/-- A named operation with its arguments, and the kind of message its result is. -/
structure Submission where
  operation : String
  arguments : List Argument
  result : MessageKind
  deriving DecidableEq

inductive TableOperation
  | createTable (table : String)
  /-- Entries of the table expire `ttl` after their last write. -/
  | createTableWithTtl (table : String) (ttl : Duration)
  | dropTable (table : String)
  | dropAllTables
  | listTables
  | batchRead (request : BatchReadRequest)
  | batchWrite (request : BatchWriteRequest)
  | getAll (table : String)
  deriving DecidableEq

inductive TableResult
  /-- False if the table was there before. -/
  | created (created : Bool)
  | done
  | names (names : TextMap Unit)
  | reads (results : List ReadResult)
  | writes (results : List WriteResult)
  | entries (entries : TextMap VersionedValue)
  deriving DecidableEq

namespace TableOperation

/-- A time to live in milliseconds; one beyond the largest integer counts as the largest. -/
def ttlMillis (ttl : Duration) : Int64 :=
  Int64.ofNat (min ttl.floorMillis Int64.maxValue.toNatClampNeg)

def submission : TableOperation → Submission
  | createTable table => ⟨"createTable", [.text table], .createTableResult⟩
  | createTableWithTtl table ttl =>
    ⟨"createTable", [.text table, .integer (ttlMillis ttl)], .createTableResult⟩
  | dropTable table => ⟨"dropTable", [.text table], .emptyResult⟩
  | dropAllTables => ⟨"dropAllTables", [], .emptyResult⟩
  | listTables => ⟨"listTables", [], .tableNames⟩
  | batchRead request => ⟨"read", [.blob (BatchReadRequest.schema.write request)], .readResults⟩
  | batchWrite request => ⟨"write", [.blob (BatchWriteRequest.schema.write request)], .writeResults⟩
  | getAll table => ⟨"getAll", [.text table], .tableSnapshot⟩

/-- What the result message of an operation says. -/
def interpret : (op : TableOperation) → op.submission.result.Value → TableResult
  | createTable _, m => .created m.created
  | createTableWithTtl _ _, m => .created m.created
  | dropTable _, _ => .done
  | dropAllTables, _ => .done
  | listTables, m => .names (.ofList (m.names.map fun name => (name, ())))
  | batchRead _, m => .reads m.results
  | batchWrite _, m => .writes m.results
  | getAll _, m => .entries m.entries

end TableOperation

end LeaderRouting
