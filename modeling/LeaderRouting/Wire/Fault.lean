/-!
What can be wrong with an encoded message, and the path of fields on which it was found.
-/

namespace LeaderRouting.Wire

/-- An encoded message, or what is left of one. -/
abbrev Bytes := List UInt8

/-- How the payload of a field is delimited. -/
inductive WireType
  | varint
  | fixed64
  | lengthDelimited
  | startGroup
  | endGroup
  | fixed32
  deriving DecidableEq, Repr

namespace WireType

/-- The low three bits of a key that announce the wire type. -/
def code : WireType → Nat
  | varint => 0
  | fixed64 => 1
  | lengthDelimited => 2
  | startGroup => 3
  | endGroup => 4
  | fixed32 => 5

def ofCode? : Nat → Option WireType
  | 0 => some varint
  | 1 => some fixed64
  | 2 => some lengthDelimited
  | 3 => some startGroup
  | 4 => some endGroup
  | 5 => some fixed32
  | _ => none

theorem ofCode?_code (w : WireType) : ofCode? w.code = some w := by
  cases w <;> rfl

theorem code_lt (w : WireType) : w.code < 8 := by
  cases w <;> decide

def name : WireType → String
  | varint => "Varint"
  | fixed64 => "SixtyFourBit"
  | lengthDelimited => "LengthDelimited"
  | startGroup => "StartGroup"
  | endGroup => "EndGroup"
  | fixed32 => "ThirtyTwoBit"

end WireType

/-- The reason why bytes are not an encoded message. -/
inductive Fault
  /-- The input ends inside a varint, or the varint has an eleventh byte. -/
  | malformedVarint
  /-- A key beyond 32 bits. -/
  | oversizedKey (key : Nat)
  | unknownWireType (code : Nat)
  | zeroFieldNumber
  | wireTypeMismatch (found expected : WireType)
  /-- A payload is longer than what is left of the whole input. -/
  | underflow
  /-- The fields of a nested message do not end where the message does. -/
  | overrun
  | notUtf8
  /-- Messages or groups are nested deeper than the reader is willing to follow. -/
  | tooDeep
  | unexpectedEndGroup
  deriving DecidableEq, Repr

def Fault.text : Fault → String
  | malformedVarint => "invalid varint"
  | oversizedKey key => "invalid key value: " ++ toString key
  | unknownWireType code => "invalid wire type value: " ++ toString code
  | zeroFieldNumber => "invalid tag value: 0"
  | wireTypeMismatch found expected =>
    "invalid wire type: " ++ found.name ++ " (expected " ++ expected.name ++ ")"
  | underflow => "buffer underflow"
  | overrun => "delimited length exceeded"
  | notUtf8 => "invalid string value: data is not UTF-8 encoded"
  | tooDeep => "recursion limit reached"
  | unexpectedEndGroup => "unexpected end group tag"

/-- A field of a message type, by their names. -/
structure Location where
  message : String
  field : String
  deriving DecidableEq, Repr

/-- A fault and the fields that were being decoded, the innermost first. -/
structure DecodeError where
  path : List Location
  fault : Fault
  deriving DecidableEq, Repr

def DecodeError.text (e : DecodeError) : String :=
  "failed to decode Protobuf message: "
    ++ String.join (e.path.map fun l => l.message ++ "." ++ l.field ++ ": ") ++ e.fault.text

end LeaderRouting.Wire
