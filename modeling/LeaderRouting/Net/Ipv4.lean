import LeaderRouting.Net.Numeral

/-! IPv4 addresses: four octets with dots between them. -/

namespace LeaderRouting.Net

structure Ipv4 where
  a : UInt8
  b : UInt8
  c : UInt8
  d : UInt8
  deriving DecidableEq, Repr

namespace Ipv4

def write (ip : Ipv4) : List Char :=
  NumberForm.octet.write ip.a.toNat ++ '.' :: NumberForm.octet.write ip.b.toNat ++ '.' ::
    NumberForm.octet.write ip.c.toNat ++ '.' :: NumberForm.octet.write ip.d.toNat

def read (input : List Char) : Option (Ipv4 × List Char) := do
  let (a, input) ← NumberForm.octet.read input
  let (b, input) ← NumberForm.octet.read (← after? '.' input)
  let (c, input) ← NumberForm.octet.read (← after? '.' input)
  let (d, input) ← NumberForm.octet.read (← after? '.' input)
  return (⟨UInt8.ofNat a, UInt8.ofNat b, UInt8.ofNat c, UInt8.ofNat d⟩, input)

/-- The address as two groups of an IPv6 address. -/
def groups (ip : Ipv4) : List UInt16 :=
  [UInt16.ofNat (ip.a.toNat * 256 + ip.b.toNat), UInt16.ofNat (ip.c.toNat * 256 + ip.d.toNat)]

def ofGroups (high low : UInt16) : Ipv4 :=
  ⟨UInt8.ofNat (high.toNat / 256), UInt8.ofNat (high.toNat % 256),
    UInt8.ofNat (low.toNat / 256), UInt8.ofNat (low.toNat % 256)⟩

end Ipv4

end LeaderRouting.Net
