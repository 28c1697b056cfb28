import LeaderRouting.Member

/-! Announcements of an elected leader, as they arrive from the cluster. -/

namespace LeaderRouting

open Wire Message

inductive AnnouncementError
  | malformed (cause : DecodeError)
  | invalidEndpoint (id endpoint : String)
  deriving DecidableEq

def AnnouncementError.text : AnnouncementError → String
  | malformed _ => "Malformed leader elect event"
  | invalidEndpoint id endpoint => "Leader '" ++ id ++ "' has invalid endpoint '" ++ endpoint ++ "'"

namespace Announcement

/-- The leader that an event announces, or none if the election produced none. -/
def leader (event : LeaderElectEvent) : Except AnnouncementError (Option Leader) :=
  match event.leader with
  | none => .ok none
  | some m =>
    match Member.ofMessage? m with
    | none => .error (.invalidEndpoint m.id m.endpoint)
    | some member => .ok (some ⟨member, ⟨event.term⟩⟩)

/-- The event that announces a leader. -/
def ofLeader (l : Leader) : LeaderElectEvent where
  leader := some l.member.toMessage
  term := l.term.number

def decode (payload : Bytes) : Except AnnouncementError (Option Leader) :=
  match LeaderElectEvent.schema.decode payload with
  | .error e => .error (.malformed e)
  | .ok event => leader event

end Announcement

end LeaderRouting
