/-! Lengths of time, exact to the nanosecond. -/

namespace LeaderRouting

structure Duration where
  nanoseconds : Nat
  deriving DecidableEq, Repr

/-- A number of units in decimal, where `n` counts parts of which a unit has ten to the power of
`places`; without zeros at the end of the fraction. -/
def decimalText (places n : Nat) : String :=
  let unit := Nat.pow 10 places
  let digits := Nat.toDigits 10 (n % unit)
  let fraction := List.replicate (places - digits.length) '0' ++ digits
  let shown := (fraction.reverse.dropWhile (· = '0')).reverse
  toString (n / unit) ++ if shown.isEmpty then "" else "." ++ String.ofList shown

namespace Duration

def ofMillis (n : Nat) : Duration :=
  ⟨n * 1000000⟩

/-- Whole milliseconds; the rest is dropped. -/
def floorMillis (d : Duration) : Nat :=
  d.nanoseconds / 1000000

/-- The milliseconds after which at least `d` has passed. -/
def ceilMillis (d : Duration) : Nat :=
  (d.nanoseconds + 999999) / 1000000

/-- In the largest of the units s, ms, µs and ns that `d` reaches. -/
def text (d : Duration) : String :=
  let n := d.nanoseconds
  if 1000000000 ≤ n then decimalText 9 n ++ "s"
  else if 1000000 ≤ n then decimalText 6 n ++ "ms"
  else if 1000 ≤ n then decimalText 3 n ++ "µs"
  else toString n ++ "ns"

end Duration

end LeaderRouting
