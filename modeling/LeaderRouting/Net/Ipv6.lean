import LeaderRouting.Net.Ipv4

/-!
IPv6 addresses: eight groups with colons between them.  The longest run of at least two zero groups is
written as `::`, and an address that stands for an IPv4 address ends in that address's own form.
-/

namespace LeaderRouting.Net

structure Ipv6 where
  groups : List UInt16
  length_groups : groups.length = 8
  deriving DecidableEq, Repr

namespace Ipv6

/-! ### Writing -/

def leadingZeros (groups : List UInt16) : Nat :=
  (groups.takeWhile (· = 0)).length

/-- Where the first of the longest runs of zero groups starts, and how long it is. -/
def longestZeroRun : List UInt16 → Nat × Nat
  | [] => (0, 0)
  | g :: gs =>
    let here := leadingZeros (g :: gs)
    let (start, length) := longestZeroRun gs
    if length ≤ here then (0, here) else (start + 1, length)

def writeGroups : List UInt16 → List Char
  | [] => []
  | [g] => NumberForm.group.write g.toNat
  | g :: gs => NumberForm.group.write g.toNat ++ ':' :: writeGroups gs

def write (ip : Ipv6) : List Char :=
  match ip.groups with
  | [0, 0, 0, 0, 0, 0xffff, high, low] =>
    ':' :: ':' :: NumberForm.group.write 0xffff ++ ':' :: (Ipv4.ofGroups high low).write
  | groups =>
    let (start, length) := longestZeroRun groups
    if 2 ≤ length then
      writeGroups (groups.take start) ++ ':' :: ':' :: writeGroups (groups.drop (start + length))
    else writeGroups groups

/-! ### Reading -/

/-- Leaves the input as it is for the first of several items, and passes over a colon for the others. -/
def separated (first : Bool) (input : List Char) : Option (List Char) :=
  if first then some input else after? ':' input

/-- At most `left` groups, the last two of which may be written as an IPv4 address; tells whether they
are. -/
def readGroups : (left : Nat) → (first : Bool) → List Char → List UInt16 × Bool × List Char
  | 0, _, input => ([], false, input)
  | left + 1, first, input =>
    let dotted := if left = 0 then none else (separated first input).bind Ipv4.read
    match dotted with
    | some (ip, rest) => (ip.groups, true, rest)
    | none =>
      match (separated first input).bind NumberForm.group.read with
      | none => ([], false, input)
      | some (g, rest) =>
        let (gs, isDotted, rest) := readGroups left false rest
        (UInt16.ofNat g :: gs, isDotted, rest)

theorem length_readGroups_le (left : Nat) (first : Bool) (input : List Char) :
    (readGroups left first input).1.length ≤ left := by
  fun_induction readGroups left first input with
  | case1 => simp
  | case2 left _ _ dotted _ _ h =>
    have : left ≠ 0 := by
      rintro rfl
      simp [dotted] at h
    simp [Ipv4.groups]
    omega
  | case3 => simp
  | case4 => simp_all

/-- The address with zero groups between its first and its last groups. -/
def ofEnds (head tail : List UInt16) (h : head.length + tail.length ≤ 8) : Ipv6 where
  groups := head ++ List.replicate (8 - head.length - tail.length) 0 ++ tail
  length_groups := by
    simp
    omega

/-- Eight groups, or fewer around a `::` that stands for at least one zero group between them. -/
def read (input : List Char) : Option (Ipv6 × List Char) :=
  let front := readGroups 8 true input
  have hf : front.1.length ≤ 8 := length_readGroups_le 8 true input
  if h : front.1.length = 8 then some (⟨front.1, h⟩, front.2.2)
  else if front.2.1 then none
  else
    match front.2.2 with
    | ':' :: ':' :: rest =>
      let back := readGroups (7 - front.1.length) true rest
      have hb : back.1.length ≤ 7 - front.1.length := length_readGroups_le _ true rest
      some (ofEnds front.1 back.1 (by omega), back.2.2)
    | _ => none

end Ipv6

end LeaderRouting.Net
