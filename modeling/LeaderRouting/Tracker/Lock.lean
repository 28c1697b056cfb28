/-! A lock that serves those who want it in the order in which they came. -/

namespace LeaderRouting

abbrev CallId := Nat

structure Lock where
  holder : Option CallId := none
  waiting : List CallId := []
  deriving DecidableEq, Repr

namespace Lock

/-- Takes the lock if it is free, and waits in line otherwise. -/
def request (l : Lock) (c : CallId) : Lock :=
  match l.holder with
  | none => { l with holder := some c }
  | some _ => { l with waiting := l.waiting ++ [c] }

/-- Hands the lock to the first in line. -/
def release (l : Lock) : Lock where
  holder := l.waiting.head?
  waiting := l.waiting.tail

/-- What is left of the lock when a call gives up: its place in line is free, and if it held the lock
the next in line has it. -/
def withdraw (l : Lock) (c : CallId) : Lock :=
  if l.holder = some c then l.release else { l with waiting := l.waiting.filter (· ≠ c) }

end Lock

end LeaderRouting
