import LeaderRouting.Wire.Key

/-!
The payloads of fields that are not messages: texts, byte strings, numbers and truth values.
-/

namespace LeaderRouting.Wire

/-- A payload with its length in front. -/
def delimit (payload : Bytes) : Bytes :=
  Varint.write payload.length ++ payload

def readDelimited : Reader Bytes := do
  Reader.take (← Varint.read)

/-- How the values of one type are written as a payload. -/
structure Scalar (α : Type) where
  wireType : WireType
  /-- What an absent field stands for. -/
  initial : α
  /-- The length of what `write` gives, computed without writing. -/
  size : α → Nat
  write : α → Bytes
  read : Reader α

namespace Scalar

def bytes : Scalar Bytes where
  wireType := .lengthDelimited
  initial := []
  size v := Varint.size v.length + v.length
  write := delimit
  read := readDelimited

def text : Scalar String where
  wireType := .lengthDelimited
  initial := ""
  size v := Varint.size v.utf8ByteSize + v.utf8ByteSize
  write v := delimit v.toUTF8.toList
  read := do
    match String.fromUTF8? (← readDelimited).toByteArray with
    | none => Reader.fail .notUtf8
    | some v => pure v

def uint64 : Scalar UInt64 where
  wireType := .varint
  initial := 0
  size v := Varint.size v.toNat
  write v := Varint.write v.toNat
  read := do pure (UInt64.ofNat (← Varint.read))

/-- Negative numbers are written as their two's complement, hence in ten bytes. -/
def int64 : Scalar Int64 where
  wireType := .varint
  initial := 0
  size v := Varint.size v.toUInt64.toNat
  write v := Varint.write v.toUInt64.toNat
  read := do pure (UInt64.ofNat (← Varint.read)).toInt64

/-- Every number but zero reads as true. -/
def bool : Scalar Bool where
  wireType := .varint
  initial := false
  size _ := 1
  write v := Varint.write v.toNat
  read := do pure ((← Varint.read) != 0)

/-- A field of this payload, whether or not the value is the initial one. -/
def writeField {α : Type} (s : Scalar α) (number : Nat) (v : α) : Bytes :=
  Key.write ⟨number, s.wireType⟩ ++ s.write v

def fieldSize {α : Type} (s : Scalar α) (number : Nat) (v : α) : Nat :=
  Key.size ⟨number, s.wireType⟩ + s.size v

def readField {α : Type} (s : Scalar α) (key : Key) : Reader α := do
  expect s.wireType key.wireType
  s.read

end Scalar

end LeaderRouting.Wire
