import LeaderRouting.Member

/-!
Connections to members.  Closing one takes three effects in turn: it is marked closed, which refuses
new requests; it is retired, which requests in flight can notice; and its channel is released.
-/

namespace LeaderRouting

structure Connection where
  member : Member
  closed : Bool := false
  retired : Bool := false
  /-- How often the channel was released. -/
  releases : Nat := 0
  deriving DecidableEq

namespace Connection

def mark (c : Connection) : Connection :=
  { c with closed := true }

def retire (c : Connection) : Connection :=
  { c with retired := true }

def release (c : Connection) : Connection :=
  { c with releases := c.releases + 1 }

/-- Only the close that finds the connection unmarked goes on to retire and release it. -/
def close (c : Connection) : Connection :=
  if c.closed then c else c.mark.retire.release

end Connection

end LeaderRouting
