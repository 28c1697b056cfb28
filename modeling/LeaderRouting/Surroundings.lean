import LeaderRouting.Member
import LeaderRouting.Transport

/-! What the surroundings of connections decide: how the cluster behaves at a moment. -/

namespace LeaderRouting

/-- What a reply is, and how many milliseconds after the request it is there. -/
structure Reply where
  delay : Option Nat
  feedback : Feedback

structure Surroundings where
  /-- How many milliseconds a connection takes to open; for ever if there is no number. -/
  openDelay : Option Nat
  /-- Why a connection to a member fails to open. -/
  refusal : Member → Option TransportError
  reply : Member → Request → Reply
  requestId : RequestId
  /-- Whether a call that finds both its connection closed and its reply there notices the closed
  connection first. -/
  closedFirst : Bool

namespace Surroundings

/-- Connections open at once, and every request gets the same reply. -/
def replying (reply : Reply) : Surroundings where
  openDelay := some 0
  refusal _ := none
  reply _ _ := reply
  requestId := ⟨""⟩
  closedFirst := false

/-- No request ever gets a reply. -/
def silent : Surroundings :=
  replying ⟨none, .connection .disconnected⟩

/-- No connection opens to some of the members. -/
def refusing (refused : Member → Bool) : Surroundings :=
  { silent with refusal := fun m => if refused m then some .disconnected else none }

end Surroundings

end LeaderRouting
