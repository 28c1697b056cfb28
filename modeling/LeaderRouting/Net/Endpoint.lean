import LeaderRouting.Net.Ipv6

/-! Endpoints: an address and a port, and the text they travel as. -/

namespace LeaderRouting.Net

inductive Address
  | v4 (ip : Ipv4)
  | v6 (ip : Ipv6) (scope : UInt32)
  deriving DecidableEq, Repr

structure Endpoint where
  address : Address
  port : UInt16
  deriving DecidableEq, Repr

namespace Endpoint

def isIpv6 (e : Endpoint) : Bool :=
  match e.address with
  | .v4 _ => false
  | .v6 _ _ => true

/-- A scope is written only if it is not zero. -/
def writeScope (scope : UInt32) : List Char :=
  if scope = 0 then [] else '%' :: NumberForm.scope.write scope.toNat

def write (e : Endpoint) : List Char :=
  match e.address with
  | .v4 ip => ip.write ++ ':' :: NumberForm.port.write e.port.toNat
  | .v6 ip scope =>
    '[' :: ip.write ++ writeScope scope ++ ']' :: ':' :: NumberForm.port.write e.port.toNat

def readPort (input : List Char) : Option (UInt16 × List Char) := do
  let (port, rest) ← NumberForm.port.read (← after? ':' input)
  return (UInt16.ofNat port, rest)

def readScope (input : List Char) : UInt32 × List Char :=
  match (after? '%' input).bind NumberForm.scope.read with
  | none => (0, input)
  | some (scope, rest) => (UInt32.ofNat scope, rest)

def readV4 (input : List Char) : Option (Endpoint × List Char) := do
  let (ip, rest) ← Ipv4.read input
  let (port, rest) ← readPort rest
  return (⟨.v4 ip, port⟩, rest)

def readV6 (input : List Char) : Option (Endpoint × List Char) := do
  let (ip, rest) ← Ipv6.read (← after? '[' input)
  let (scope, rest) := readScope rest
  let (port, rest) ← readPort (← after? ']' rest)
  return (⟨.v6 ip scope, port⟩, rest)

/-- The endpoint that the whole input is written as. -/
def read (input : List Char) : Option Endpoint :=
  match (readV4 input).orElse fun _ => readV6 input with
  | some (e, []) => some e
  | _ => none

def text (e : Endpoint) : String :=
  String.ofList e.write

def ofText? (text : String) : Option Endpoint :=
  read text.toList

end Endpoint

end LeaderRouting.Net
