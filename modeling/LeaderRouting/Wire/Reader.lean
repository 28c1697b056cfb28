import LeaderRouting.Wire.Fault

/-!
Readers: what takes a value from the front of its input and leaves the rest.  A reader never leaves
more than it was given, so that a loop of readers ends.
-/

namespace LeaderRouting.Wire

structure Reader (α : Type) where
  run : Bytes → Except DecodeError (α × Bytes)
  length_le : ∀ {input : Bytes} {a : α} {rest : Bytes},
    run input = .ok (a, rest) → rest.length ≤ input.length

namespace Reader

variable {α β : Type}

def pure (a : α) : Reader α where
  run input := .ok (a, input)
  length_le h := by
    cases h
    exact Nat.le_refl _

def bind (r : Reader α) (f : α → Reader β) : Reader β where
  run input := match r.run input with
    | .error e => .error e
    | .ok (a, rest) => (f a).run rest
  length_le h := by
    split at h
    · cases h
    · next hr => exact Nat.le_trans ((f _).length_le h) (r.length_le hr)

instance : Monad Reader where
  pure := Reader.pure
  bind := Reader.bind

def fail (fault : Fault) : Reader α where
  run _ := .error ⟨[], fault⟩
  length_le h := by cases h

/-- How many bytes are left of the whole input. -/
def remaining : Reader Nat where
  run input := .ok (input.length, input)
  length_le h := by
    cases h
    exact Nat.le_refl _

/-- The next `n` bytes. -/
def take (n : Nat) : Reader Bytes where
  run input :=
    if n ≤ input.length then .ok (input.take n, input.drop n) else .error ⟨[], .underflow⟩
  length_le h := by
    split at h
    · cases h
      simp
    · cases h

/-- Names the field that `r` decodes in the path of its errors. -/
def within (l : Location) (r : Reader α) : Reader α where
  run input := match r.run input with
    | .error e => .error { e with path := e.path ++ [l] }
    | .ok found => .ok found
  length_le h := by
    split at h
    · cases h
    · cases h
      exact r.length_le ‹_›

@[simp] theorem run_pure (a : α) (input : Bytes) :
    (Pure.pure a : Reader α).run input = .ok (a, input) := rfl

theorem run_bind (r : Reader α) (f : α → Reader β) (input : Bytes) :
    (r >>= f).run input = match r.run input with
      | .error e => .error e
      | .ok (a, rest) => (f a).run rest := rfl

@[simp] theorem run_fail (fault : Fault) (input : Bytes) :
    (fail fault : Reader α).run input = .error ⟨[], fault⟩ := rfl

@[simp] theorem run_remaining (input : Bytes) :
    remaining.run input = .ok (input.length, input) := rfl

theorem run_take_append (bytes rest : Bytes) :
    (take bytes.length).run (bytes ++ rest) = .ok (bytes, rest) := by
  simp [take]

end Reader

end LeaderRouting.Wire
