import LeaderRouting.Net.Endpoint
import LeaderRouting.Proofs.Net.Address

/-!
Every endpoint is read back from its text.
-/

namespace LeaderRouting.Net.Endpoint

variable {rest : List Char}

theorem readPort_write (port : UInt16) (hr : EndsNumber 10 rest) :
    readPort (':' :: (NumberForm.port.write port.toNat ++ rest)) = some (port, rest) := by
  have hread : NumberForm.port.read (NumberForm.port.write port.toNat ++ rest) = some (port.toNat, rest) :=
    NumberForm.fits_port.read_write port.toNat_lt hr
  simp [readPort, hread]

/-- A scope is read if it was written, and taken for zero if it was not. -/
theorem readScope_writeScope (scope : UInt32) :
    readScope (writeScope scope ++ ']' :: rest) = (scope, ']' :: rest) := by
  have hread : NumberForm.scope.read (NumberForm.scope.write scope.toNat ++ ']' :: rest)
      = some (scope.toNat, ']' :: rest) :=
    NumberForm.fits_scope.read_write scope.toNat_lt (endsNumber_cons.2 rfl)
  by_cases hzero : scope = 0
  · simp [writeScope, readScope, hzero, after?]
  · simp [writeScope, readScope, hzero, hread]

theorem closes_writeScope (scope : UInt32) : Ipv6.Closes (writeScope scope ++ ']' :: rest) := by
  by_cases hzero : scope = 0
  · simp only [writeScope, hzero, if_true, List.nil_append]
    exact ⟨endsNumber_cons.2 rfl, by simp, by simp [after?]⟩
  · simp only [writeScope, hzero, if_false, List.cons_append]
    exact ⟨endsNumber_cons.2 rfl, by simp, by simp [after?]⟩

theorem readV4_write (ip : Ipv4) (port : UInt16) (hr : EndsNumber 10 rest) :
    readV4 (write ⟨.v4 ip, port⟩ ++ rest) = some (⟨.v4 ip, port⟩, rest) := by
  have hend : EndsNumber 10 (':' :: (NumberForm.port.write port.toNat ++ rest)) := endsNumber_cons.2 rfl
  simp [readV4, write, ip.read_write hend, readPort_write port hr]

/-- No IPv4 address starts with a bracket. -/
theorem readV4_eq_none (rest : List Char) : readV4 ('[' :: rest) = none := by
  have hip : Ipv4.read ('[' :: rest) = none := Ipv6.read_ipv4_eq_none (endsNumber_cons.2 rfl)
  simp [readV4, hip]

theorem readV6_write (ip : Ipv6) (scope : UInt32) (port : UInt16) (hr : EndsNumber 10 rest) :
    readV6 (write ⟨.v6 ip scope, port⟩ ++ rest) = some (⟨.v6 ip scope, port⟩, rest) := by
  have hclose : Ipv6.Closes
      (writeScope scope ++ ']' :: ':' :: (NumberForm.port.write port.toNat ++ rest)) :=
    closes_writeScope scope
  simp [readV6, write, ip.read_write hclose, readScope_writeScope, readPort_write port hr]

theorem read_write (e : Endpoint) : read e.write = some e := by
  obtain ⟨address, port⟩ := e
  cases address with
  | v4 ip =>
    have hread := readV4_write ip port endsNumber_nil
    rw [List.append_nil] at hread
    simp [read, hread]
  | v6 ip scope =>
    have hread := readV6_write ip scope port endsNumber_nil
    have hnot : readV4 (write ⟨.v6 ip scope, port⟩) = none := readV4_eq_none _
    rw [List.append_nil] at hread
    simp [read, hread, hnot]

theorem ofText?_text (e : Endpoint) : ofText? e.text = some e := by
  rw [ofText?, text, String.toList_ofList, read_write]

theorem text_injective : Function.Injective text := by
  intro e e' h
  have hread := ofText?_text e
  rw [h, ofText?_text] at hread
  exact (Option.some.inj hread).symm

end LeaderRouting.Net.Endpoint
