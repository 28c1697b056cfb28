import LeaderRouting.Wire.Schema

/-!
The messages of the store's tables: what a request carries as its blob, and the results.
-/

namespace LeaderRouting.Message

open Wire

structure VersionedValue where
  value : Bytes := []
  version : UInt64 := 0
  deriving DecidableEq

def VersionedValue.schema : Schema VersionedValue where
  name := "VersionedValue"
  initial := {}
  fields := [
    .scalar "value" 1 .bytes ⟨(·.value), fun x m => { m with value := x }⟩,
    .scalar "version" 2 .uint64 ⟨(·.version), fun x m => { m with version := x }⟩]

structure ReadRequest where
  tableName : String := ""
  key : String := ""
  deriving DecidableEq

def ReadRequest.schema : Schema ReadRequest where
  name := "ReadRequest"
  initial := {}
  fields := [
    .scalar "table_name" 1 .text ⟨(·.tableName), fun x m => { m with tableName := x }⟩,
    .scalar "key" 2 .text ⟨(·.key), fun x m => { m with key := x }⟩]

structure BatchReadRequest where
  readRequests : List ReadRequest := []
  deriving DecidableEq

def BatchReadRequest.schema : Schema BatchReadRequest where
  name := "BatchReadRequest"
  initial := {}
  fields := [
    .messages "read_requests" 1 ReadRequest.schema
      ⟨(·.readRequests), fun x m => { m with readRequests := x }⟩]

structure ReadResult where
  tableName : String := ""
  key : String := ""
  tableExists : Bool := false
  /-- Absent when the key has no value. -/
  value : Option VersionedValue := none
  deriving DecidableEq

def ReadResult.schema : Schema ReadResult where
  name := "ReadResult"
  initial := {}
  fields := [
    .scalar "table_name" 1 .text ⟨(·.tableName), fun x m => { m with tableName := x }⟩,
    .scalar "key" 2 .text ⟨(·.key), fun x m => { m with key := x }⟩,
    .scalar "table_exists" 3 .bool ⟨(·.tableExists), fun x m => { m with tableExists := x }⟩,
    .message "value" 4 VersionedValue.schema ⟨(·.value), fun x m => { m with value := x }⟩]

structure WriteRequest where
  tableName : String := ""
  key : String := ""
  value : Bytes := []
  /-- A negative number stands for any version. -/
  expectedVersion : Int64 := 0
  deriving DecidableEq

def WriteRequest.schema : Schema WriteRequest where
  name := "WriteRequest"
  initial := {}
  fields := [
    .scalar "table_name" 1 .text ⟨(·.tableName), fun x m => { m with tableName := x }⟩,
    .scalar "key" 2 .text ⟨(·.key), fun x m => { m with key := x }⟩,
    .scalar "value" 3 .bytes ⟨(·.value), fun x m => { m with value := x }⟩,
    .scalar "expected_version" 4 .int64
      ⟨(·.expectedVersion), fun x m => { m with expectedVersion := x }⟩]

structure BatchWriteRequest where
  writeRequests : List WriteRequest := []
  deriving DecidableEq

def BatchWriteRequest.schema : Schema BatchWriteRequest where
  name := "BatchWriteRequest"
  initial := {}
  fields := [
    .messages "write_requests" 1 WriteRequest.schema
      ⟨(·.writeRequests), fun x m => { m with writeRequests := x }⟩]

structure WriteResult where
  applied : Bool := false
  previousValue : Option VersionedValue := none
  deriving DecidableEq

def WriteResult.schema : Schema WriteResult where
  name := "WriteResult"
  initial := {}
  fields := [
    .scalar "applied" 1 .bool ⟨(·.applied), fun x m => { m with applied := x }⟩,
    .message "previous_value" 2 VersionedValue.schema
      ⟨(·.previousValue), fun x m => { m with previousValue := x }⟩]

structure CreateTableResult where
  created : Bool := false
  deriving DecidableEq

def CreateTableResult.schema : Schema CreateTableResult where
  name := "CreateTableResult"
  initial := {}
  fields := [.scalar "created" 1 .bool ⟨(·.created), fun x m => { m with created := x }⟩]

/-- The result of an operation that has nothing to tell. -/
structure EmptyResult where
  deriving DecidableEq

def EmptyResult.schema : Schema EmptyResult where
  name := "Empty"
  initial := {}
  fields := []

structure TableNames where
  names : List String := []
  deriving DecidableEq

def TableNames.schema : Schema TableNames where
  name := "TableNames"
  initial := {}
  fields := [.repeated "names" 1 .text ⟨(·.names), fun x m => { m with names := x }⟩]

structure ReadResults where
  results : List ReadResult := []
  deriving DecidableEq

def ReadResults.schema : Schema ReadResults where
  name := "ReadResults"
  initial := {}
  fields := [
    .messages "results" 1 ReadResult.schema ⟨(·.results), fun x m => { m with results := x }⟩]

structure WriteResults where
  results : List WriteResult := []
  deriving DecidableEq

def WriteResults.schema : Schema WriteResults where
  name := "WriteResults"
  initial := {}
  fields := [
    .messages "results" 1 WriteResult.schema ⟨(·.results), fun x m => { m with results := x }⟩]

structure TableSnapshot where
  entries : TextMap VersionedValue := .empty
  deriving DecidableEq

def TableSnapshot.schema : Schema TableSnapshot where
  name := "TableSnapshot"
  initial := {}
  fields := [
    .entries "entries" 1 VersionedValue.schema ⟨(·.entries), fun x m => { m with entries := x }⟩]

end LeaderRouting.Message
