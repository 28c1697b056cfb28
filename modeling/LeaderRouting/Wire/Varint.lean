import LeaderRouting.Wire.Reader

/-!
Varints: numbers below 2^64 in groups of seven bits, the low group first.  Every byte but the last has
its top bit set.
-/

namespace LeaderRouting.Wire.Varint

def write (n : Nat) : Bytes :=
  if n < 128 then [n.toUInt8] else (n % 128 + 128).toUInt8 :: write (n / 128)

/-- One byte for every seven bits. -/
def size (n : Nat) : Nat :=
  n.log2 / 7 + 1

/-- The number in the first bytes of the input, at most `limit` of them, and what follows it. -/
def groups : (limit : Nat) → Bytes → Option (Nat × Bytes)
  | 0, _ => none
  | _, [] => none
  | limit + 1, byte :: rest =>
    if byte.toNat < 128 then some (byte.toNat, rest)
    else (groups limit rest).map fun (high, rest) => (byte.toNat - 128 + 128 * high, rest)

theorem length_lt_of_groups {limit n : Nat} {input rest : Bytes}
    (h : groups limit input = some (n, rest)) : rest.length < input.length := by
  fun_induction groups limit input generalizing n with
  | case1 => simp at h
  | case2 => simp at h
  | case3 =>
    obtain ⟨-, rfl⟩ := by simpa using h
    simp
  | case4 limit byte rest' hb ih =>
    obtain ⟨⟨high, r⟩, hr, heq⟩ := Option.map_eq_some_iff.1 h
    obtain ⟨-, rfl⟩ := by simpa using heq
    exact Nat.lt_succ_of_lt (ih hr)

/-- A varint has at most ten bytes; what the tenth holds beyond 64 bits is dropped. -/
def read : Reader Nat where
  run input := match groups 10 input with
    | none => .error ⟨[], .malformedVarint⟩
    | some (n, rest) => .ok (n % UInt64.size, rest)
  length_le h := by
    split at h
    · cases h
    · next hg =>
      cases h
      exact Nat.le_of_lt (length_lt_of_groups hg)

theorem length_lt_of_read {n : Nat} {input rest : Bytes} (h : read.run input = .ok (n, rest)) :
    rest.length < input.length := by
  simp only [read] at h
  split at h
  · cases h
  · next hg =>
    cases h
    exact length_lt_of_groups hg

end LeaderRouting.Wire.Varint
