/-!
Numbers inside addresses.  A form says how a number may be written; one that is written otherwise is
not read at all, rather than read in part.
-/

namespace LeaderRouting.Net

/-- The value of a digit; letters count from ten, in either case. -/
def digitValue (c : Char) : Option Nat :=
  if c.isDigit then some (c.toNat - '0'.toNat)
  else if 'a' ≤ c ∧ c ≤ 'f' then some (c.toNat - 'a'.toNat + 10)
  else if 'A' ≤ c ∧ c ≤ 'F' then some (c.toNat - 'A'.toNat + 10)
  else none

def isDigitOf (base : Nat) (c : Char) : Bool :=
  match digitValue c with
  | none => false
  | some n => n < base

/-- The number that a list of digits stands for, the most significant first. -/
def valueOf (base : Nat) (digits : List Char) : Nat :=
  digits.foldl (fun n c => n * base + (digitValue c).getD 0) 0

structure NumberForm where
  base : Nat
  /-- The largest number of digits, if there is one. -/
  maxDigits : Option Nat
  leadingZeros : Bool
  /-- Numbers from here on are too large. -/
  bound : Nat

namespace NumberForm

def octet : NumberForm := ⟨10, some 3, false, UInt8.size⟩

def group : NumberForm := ⟨16, some 4, true, UInt16.size⟩

def port : NumberForm := ⟨10, none, true, UInt16.size⟩

def scope : NumberForm := ⟨10, none, true, UInt32.size⟩

def Admits (form : NumberForm) (digits : List Char) : Prop :=
  digits ≠ [] ∧ (∀ m ∈ form.maxDigits, digits.length ≤ m)
    ∧ (form.leadingZeros = false → digits.head? = some '0' → digits.length = 1)
    ∧ valueOf form.base digits < form.bound

instance (form : NumberForm) (digits : List Char) : Decidable (form.Admits digits) := by
  unfold Admits
  exact inferInstance

def read (form : NumberForm) (input : List Char) : Option (Nat × List Char) :=
  let digits := input.takeWhile (isDigitOf form.base)
  if form.Admits digits then
    some (valueOf form.base digits, input.dropWhile (isDigitOf form.base))
  else none

/-- The shortest way to write a number, with small letters. -/
def write (form : NumberForm) (n : Nat) : List Char :=
  Nat.toDigits form.base n

end NumberForm

/-- What follows `mark` at the front of the input. -/
def after? (mark : Char) : List Char → Option (List Char)
  | [] => none
  | c :: r => if c = mark then some r else none

end LeaderRouting.Net
