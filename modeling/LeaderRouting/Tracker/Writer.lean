import LeaderRouting.Tracker.Channel

/-!
The tracked leader, as the one writer of it sees it, and what an announced candidate means to it.
-/

namespace LeaderRouting

/-- What an announcement did to the tracked leader. -/
inductive Verdict
  /-- The member is a new leader, and there is a connection to it. -/
  | newLeader
  /-- The tracked leader was elected again under a newer term, and its connection stays. -/
  | termRefreshed
  /-- The term is not newer than the tracked one. -/
  | stale
  /-- The election produced no leader. -/
  | noLeader
  /-- The gateway has shut down. -/
  | closed
  deriving DecidableEq, Repr

def Verdict.name : Verdict → String
  | newLeader => "NewLeader"
  | termRefreshed => "TermRefreshed"
  | stale => "Stale"
  | noLeader => "NoLeader"
  | closed => "Closed"

structure Writer where
  current : Option Snapshot := none
  closed : Bool := false
  deriving DecidableEq

/-- What is to be done about a candidate. -/
inductive Decision
  | dropped
  | ignored
  | renew (current : Snapshot)
  | connect
  deriving DecidableEq

namespace Writer

/-- The tracked term, zero while there is no leader. -/
def term (w : Writer) : Term :=
  match w.current with
  | none => .zero
  | some s => s.leader.term

def decide (w : Writer) (candidate : Leader) : Decision :=
  if w.closed then .dropped
  else if candidate.term ≤ w.term then .ignored
  else
    match w.current with
    | none => .connect
    | some s => if s.leader.member = candidate.member then .renew s else .connect

end Writer

/-- The snapshot under a newer term, with the same connection. -/
def Snapshot.renew (s : Snapshot) (term : Term) : Snapshot :=
  { s with leader := { s.leader with term := term } }

end LeaderRouting
