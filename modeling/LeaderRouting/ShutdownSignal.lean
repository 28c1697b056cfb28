/-!
Shutdown signals: a handle and a signal that becomes ready once the handle is gone, whether it was
used or only dropped.
-/

namespace LeaderRouting

structure ShutdownSignal where
  /-- Whether the handle is still held. -/
  held : Bool := true
  /-- Whether the signal was already seen ready. -/
  seen : Bool := false
  deriving DecidableEq, Repr

namespace ShutdownSignal

inductive Poll
  | pending
  | ready
  | alreadyReady
  deriving DecidableEq, Repr

def poll (s : ShutdownSignal) : Poll × ShutdownSignal :=
  if s.seen then (.alreadyReady, s)
  else if s.held then (.pending, s)
  else (.ready, { s with seen := true })

/-- Uses up the handle; false if it was gone before. -/
def letGo (s : ShutdownSignal) : Bool × ShutdownSignal :=
  (s.held, { s with held := false })

end ShutdownSignal

end LeaderRouting
