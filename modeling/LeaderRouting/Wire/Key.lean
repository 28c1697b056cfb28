import LeaderRouting.Wire.Varint

/-!
Keys: the number of a field and its wire type, packed into one varint before every payload.
-/

namespace LeaderRouting.Wire

structure Key where
  number : Nat
  wireType : WireType
  deriving DecidableEq, Repr

namespace Key

def code (k : Key) : Nat :=
  8 * k.number + k.wireType.code

def write (k : Key) : Bytes :=
  Varint.write k.code

def size (k : Key) : Nat :=
  Varint.size k.code

/-- A key fits 32 bits, has a wire type, and its field number is not zero. -/
def ofCode (code : Nat) : Except Fault Key :=
  if UInt32.size ≤ code then .error (.oversizedKey code)
  else match WireType.ofCode? (code % 8) with
    | none => .error (.unknownWireType (code % 8))
    | some wireType => if code / 8 = 0 then .error .zeroFieldNumber else .ok ⟨code / 8, wireType⟩

def read : Reader Key := do
  match ofCode (← Varint.read) with
  | .error fault => Reader.fail fault
  | .ok key => pure key

theorem length_lt_of_read {key : Key} {input rest : Bytes} (h : read.run input = .ok (key, rest)) :
    rest.length < input.length := by
  simp only [read, Reader.run_bind] at h
  cases hn : Varint.read.run input with
  | error e =>
    rw [hn] at h
    cases h
  | ok found =>
    rw [hn] at h
    have hlt := Varint.length_lt_of_read hn
    cases hc : ofCode found.1 with
    | error fault => simp [hc] at h
    | ok k =>
      simp only [hc, Reader.run_pure] at h
      cases h
      exact hlt

end Key

/-- Refuses a field whose payload is not delimited as its type wants it. -/
def expect (expected found : WireType) : Reader Unit :=
  if found = expected then pure () else Reader.fail (.wireTypeMismatch found expected)

end LeaderRouting.Wire
