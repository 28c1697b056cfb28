import LeaderRouting.Wire.Key

/-!
Skipping fields that a message type does not have, of any wire type and with nested groups.
-/

namespace LeaderRouting.Wire

/-- Passes over the fields of a group, each with `skip`, up to the end tag with the group's number. -/
def passGroup (number : Nat) (skip : Key → Reader Unit) (input : Bytes) :
    Except DecodeError (Unit × Bytes) :=
  match hk : Key.read.run input with
  | .error e => .error e
  | .ok (key, rest) =>
    if key.wireType = .endGroup then
      if key.number = number then .ok ((), rest) else .error ⟨[], .unexpectedEndGroup⟩
    else
      match hs : (skip key).run rest with
      | .error e => .error e
      | .ok (_, rest') =>
        have := Key.length_lt_of_read hk
        have := (skip key).length_le hs
        passGroup number skip rest'
termination_by input.length

theorem length_le_of_passGroup {number : Nat} {skip : Key → Reader Unit} {input rest : Bytes}
    {u : Unit} (h : passGroup number skip input = .ok (u, rest)) : rest.length ≤ input.length := by
  fun_induction passGroup number skip input with
  | case1 => cases h
  | case2 _ _ _ hk =>
    cases h
    exact Nat.le_of_lt (Key.length_lt_of_read hk)
  | case3 => cases h
  | case4 => cases h
  | case5 _ _ _ _ _ _ _ _ _ _ ih =>
    have := ih h
    omega

def skipGroup (number : Nat) (skip : Key → Reader Unit) : Reader Unit where
  run := passGroup number skip
  length_le := length_le_of_passGroup

/-- Passes over the payload of a field; `depth` bounds how deep its groups may be nested. -/
def skipField : (depth : Nat) → Key → Reader Unit
  | 0, _ => Reader.fail .tooDeep
  | depth + 1, key =>
    match key.wireType with
    | .varint => do
      let _ ← Varint.read
    | .fixed64 => do
      let _ ← Reader.take 8
    | .fixed32 => do
      let _ ← Reader.take 4
    | .lengthDelimited => do
      let _ ← Reader.take (← Varint.read)
    | .startGroup => skipGroup key.number (skipField depth)
    | .endGroup => Reader.fail .unexpectedEndGroup

end LeaderRouting.Wire
