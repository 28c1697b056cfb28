import LeaderRouting.Member

/-!
What the tracker publishes and how readers see it: a value with a version that every publication
raises, so that a reader who has seen a version can tell whether there is a newer value.
-/

namespace LeaderRouting

/-- A leader together with the connection to it, by the number under which it was opened. -/
structure Snapshot where
  leader : Leader
  connection : Nat
  deriving DecidableEq

inductive Published
  | notElected
  | elected (snapshot : Snapshot)
  /-- The gateway has shut down. -/
  | closed
  deriving DecidableEq

def Published.snapshot? : Published → Option Snapshot
  | elected s => some s
  | _ => none

structure Channel where
  value : Published := .notElected
  version : Nat := 0
  /-- Whether nobody is left who could publish. -/
  abandoned : Bool := false
  deriving DecidableEq

def Channel.publish (ch : Channel) (p : Published) : Channel :=
  { ch with value := p, version := ch.version + 1 }

end LeaderRouting
