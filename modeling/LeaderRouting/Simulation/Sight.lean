import LeaderRouting.Transport
import LeaderRouting.Member

/-!
What a cluster sees of its clients, in the order of time.  Requests that follow each other at one time
are put in the order of their labels.
-/

namespace LeaderRouting

open Wire

inductive Sight
  | opened (member : Member)
  | closed (member : Member)
  | refused (member : Member)
  | submitted (member : Member) (operation : String) (arguments : List Argument)

def hexText (b : Bytes) : String :=
  String.ofList (b.flatMap fun x =>
    let digits := Nat.toDigits 16 x.toNat
    List.replicate (2 - digits.length) '0' ++ digits)

def Argument.label : Argument → String
  | .text t => "t:" ++ t
  | .integer n => "i:" ++ toString n.toInt
  | .blob b => "b:" ++ hexText b

namespace Sight

/-- The member, the operation and the arguments of a request, in words. -/
def label? : Sight → Option (List String)
  | submitted m operation arguments => some (m.text :: operation :: arguments.map Argument.label)
  | _ => none

/-- Whether labels come in the order of their first difference, the shorter one first. -/
def inOrder : List String → List String → Bool
  | [], _ => true
  | _ :: _, [] => false
  | a :: r, b :: s => a < b || (a = b && inOrder r s)

/-- The requests of one time at the front, and what follows them. -/
def requestsAt (time : Nat) : List (Nat × Sight) → List (Nat × Sight) × List (Nat × Sight)
  | [] => ([], [])
  | e :: r =>
    if e.1 = time ∧ e.2.label?.isSome then
      let (front, rest) := requestsAt time r
      (e :: front, rest)
    else ([], e :: r)

theorem length_requestsAt (time : Nat) (l : List (Nat × Sight)) :
    (requestsAt time l).2.length ≤ l.length := by
  fun_induction requestsAt time l with
  | case1 => simp
  | case2 =>
    simp_all
    omega
  | case3 => simp

def ordered : List (Nat × Sight) → List (Nat × Sight)
  | [] => []
  | e :: r =>
    if e.2.label?.isSome then
      let split := requestsAt e.1 r
      have := length_requestsAt e.1 r
      (e :: split.1).mergeSort (fun a b => inOrder (a.2.label?.getD []) (b.2.label?.getD []))
        ++ ordered split.2
    else e :: ordered r
termination_by l => l.length
decreasing_by
  all_goals simp
  all_goals omega

end Sight

end LeaderRouting
