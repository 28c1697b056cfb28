import LeaderRouting.Message.Cluster
import LeaderRouting.Net.Endpoint

/-! Members of the store cluster, election terms, and leaders, which are a member under a term. -/

namespace LeaderRouting

open Message Net

structure Member where
  id : String
  endpoint : Endpoint
  deriving DecidableEq

namespace Member

/-- The member of a small cluster whose address ends with a number. -/
def numbered (id : String) (number : UInt8) : Member :=
  ⟨id, ⟨.v4 ⟨10, 0, 0, number⟩, 7000⟩⟩

def text (m : Member) : String :=
  m.id ++ "@" ++ m.endpoint.text

def toMessage (m : Member) : MemberMessage where
  id := m.id
  endpoint := m.endpoint.text

def ofMessage? (m : MemberMessage) : Option Member :=
  (Endpoint.ofText? m.endpoint).map fun endpoint => ⟨m.id, endpoint⟩

end Member

/-- An election epoch.  The higher one always wins, and zero is the one before any election. -/
structure Term where
  number : UInt64
  deriving DecidableEq, Repr

namespace Term

def zero : Term := ⟨0⟩

instance : LT Term := ⟨fun a b => a.number < b.number⟩

instance : LE Term := ⟨fun a b => a.number ≤ b.number⟩

instance (a b : Term) : Decidable (a < b) :=
  inferInstanceAs (Decidable (a.number < b.number))

instance (a b : Term) : Decidable (a ≤ b) :=
  inferInstanceAs (Decidable (a.number ≤ b.number))

instance : Ord Term := ⟨fun a b => compare a.number b.number⟩

/-- The later of two terms. -/
instance : Max Term := ⟨fun a b => if a ≤ b then b else a⟩

theorem not_le {a b : Term} : ¬a ≤ b ↔ b < a :=
  UInt64.not_le

theorem lt_irrefl (a : Term) : ¬a < a :=
  UInt64.lt_irrefl a.number

theorem le_refl (a : Term) : a ≤ a :=
  UInt64.le_refl a.number

theorem le_of_lt {a b : Term} (h : a < b) : a ≤ b :=
  UInt64.le_of_lt h

theorem le_antisymm {a b : Term} (hab : a ≤ b) (hba : b ≤ a) : a = b :=
  congrArg mk (UInt64.le_antisymm hab hba)

theorem lt_of_le_of_lt {a b c : Term} (hab : a ≤ b) (hbc : b < c) : a < c :=
  UInt64.lt_of_le_of_lt hab hbc

theorem le_trans {a b c : Term} (hab : a ≤ b) (hbc : b ≤ c) : a ≤ c :=
  UInt64.le_trans hab hbc

theorem max_eq (a b : Term) : max a b = if a < b then b else a := by
  have hmax : max a b = if a ≤ b then b else a := rfl
  by_cases hlt : a < b
  · rw [hmax, if_pos (le_of_lt hlt), if_pos hlt]
  · rw [hmax, if_neg hlt]
    split
    next hle => exact le_antisymm (UInt64.not_lt.1 hlt) hle
    · rfl

theorem zero_le (a : Term) : zero ≤ a :=
  UInt64.zero_le

theorem zero_lt_of_lt {a b : Term} (h : a < b) : zero < b :=
  UInt64.lt_of_le_of_lt (zero_le a) h

def text (t : Term) : String :=
  "Term(" ++ toString t.number.toNat ++ ")"

end Term

/-- A member and the term under which it was elected. -/
structure Leader where
  member : Member
  term : Term
  deriving DecidableEq

end LeaderRouting
