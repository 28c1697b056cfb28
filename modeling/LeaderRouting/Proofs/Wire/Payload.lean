import LeaderRouting.Proofs.Wire.Varint
import LeaderRouting.Wire.Scalar

/-! Payloads of fields that are not messages: each is read as it was written. -/

namespace LeaderRouting.Wire

/-- The bytes from one position on, behind those that were collected before. -/
theorem toList_loop (bytes : ByteArray) (i : Nat) (before : Bytes) :
    ByteArray.toList.loop bytes i before = before.reverse ++ bytes.data.toList.drop i := by
  fun_induction ByteArray.toList.loop bytes i before with
  | case1 i before hi ih =>
    have hlt : i < bytes.data.toList.length := hi
    have hbyte : bytes.get! i = bytes.data.toList[i] := getElem!_pos bytes.data i hi
    rw [ih, List.drop_eq_getElem_cons hlt, List.reverse_cons, hbyte, List.append_assoc]
    rfl
  | case2 i before hi =>
    have hle : bytes.data.toList.length ≤ i := Nat.le_of_not_lt hi
    rw [List.drop_of_length_le hle, List.append_nil]

theorem toList_eq (bytes : ByteArray) : bytes.toList = bytes.data.toList :=
  toList_loop bytes 0 []

theorem toByteArray_toList (bytes : ByteArray) : bytes.toList.toByteArray = bytes := by
  refine ByteArray.ext ?_
  rw [List.data_toByteArray, toList_eq]

theorem length_toList (bytes : ByteArray) : bytes.toList.length = bytes.size := by
  rw [toList_eq]
  rfl

variable {α : Type} {input rest : Bytes}

/-! ### Delimited payloads -/

theorem length_delimit (payload : Bytes) :
    (delimit payload).length = Varint.size payload.length + payload.length := by
  rw [delimit, List.length_append, Varint.length_write]

theorem run_readDelimited (payload rest : Bytes) (h : payload.length < UInt64.size) :
    readDelimited.run (delimit payload ++ rest) = .ok (payload, rest) := by
  have hlength : Varint.read.run (delimit payload ++ rest) = .ok (payload.length, payload ++ rest) := by
    rw [delimit, List.append_assoc]
    exact Varint.run_read_write h _
  simp only [readDelimited, Reader.run_bind, hlength, Reader.run_take_append]

theorem size_add_length_le_of_readDelimited {payload : Bytes}
    (h : readDelimited.run input = .ok (payload, rest)) :
    Varint.size payload.length + payload.length + rest.length ≤ input.length := by
  simp only [readDelimited, Reader.run_bind] at h
  split at h
  · cases h
  next n rest' hn =>
    have hread := Varint.size_add_length_le_of_read hn
    simp only [Reader.take] at h
    split_ifs at h with hle
    cases h
    rw [List.length_take, List.length_drop, Nat.min_eq_left hle]
    omega

namespace Scalar

/-- Whether what is written for a value is as long as it is said to be, is read as that value again,
and is the shortest that is. -/
structure Lawful (s : Scalar α) : Prop where
  length_write : ∀ v, (s.write v).length = s.size v
  run_read_write : ∀ v rest, s.size v < UInt64.size → s.read.run (s.write v ++ rest) = .ok (v, rest)
  size_add_length_le : ∀ {input v rest}, s.read.run input = .ok (v, rest) →
    s.size v + rest.length ≤ input.length

theorem lawful_bytes : bytes.Lawful where
  length_write := length_delimit
  run_read_write v rest h := run_readDelimited v rest (by simp only [bytes] at h; omega)
  size_add_length_le := size_add_length_le_of_readDelimited

theorem fromUTF8?_toUTF8 (v : String) : String.fromUTF8? v.toUTF8 = some v :=
  dif_pos v.isValidUTF8

theorem toUTF8_of_fromUTF8? {bytes : ByteArray} {v : String} (h : String.fromUTF8? bytes = some v) :
    v.toUTF8 = bytes := by
  unfold String.fromUTF8? at h
  split_ifs at h
  obtain rfl := Option.some.inj h
  rfl

theorem lawful_text : text.Lawful where
  length_write v := by
    have hlength : v.toUTF8.toList.length = v.utf8ByteSize := length_toList v.toUTF8
    simp only [text, length_delimit, hlength]
  run_read_write v rest h := by
    have hlength : v.toUTF8.toList.length = v.utf8ByteSize := length_toList v.toUTF8
    have hread := run_readDelimited v.toUTF8.toList rest (by simp only [text] at h; omega)
    simp only [text, Reader.run_bind, hread, toByteArray_toList, fromUTF8?_toUTF8, Reader.run_pure]
  size_add_length_le {input v rest} h := by
    simp only [text, Reader.run_bind] at h ⊢
    split at h
    · cases h
    next payload rest' hread =>
      split at h
      · cases h
      next v' hv =>
        cases h
        have hle := size_add_length_le_of_readDelimited hread
        have hlength : v.utf8ByteSize = payload.length := by
          rw [← List.size_toByteArray, ← toUTF8_of_fromUTF8? hv]
          rfl
        rwa [hlength]

theorem lawful_uint64 : uint64.Lawful where
  length_write v := Varint.length_write v.toNat
  run_read_write v rest _ := by
    have hn : Varint.read.run (Varint.write v.toNat ++ rest) = .ok (v.toNat, rest) :=
      Varint.run_read_write v.toNat_lt rest
    simp only [uint64, Reader.run_bind, hn, Reader.run_pure, UInt64.ofNat_toNat]
  size_add_length_le {input v rest} h := by
    simp only [uint64, Reader.run_bind] at h ⊢
    split at h
    · cases h
    next n rest' hn =>
      cases h
      have hread := Varint.size_add_length_le_of_read hn
      have hle : Varint.size (UInt64.ofNat n).toNat ≤ Varint.size n :=
        Varint.size_mono (by rw [UInt64.toNat_ofNat']; exact Nat.mod_le _ _)
      omega

theorem lawful_int64 : int64.Lawful where
  length_write v := Varint.length_write v.toUInt64.toNat
  run_read_write v rest _ := by
    have hn : Varint.read.run (Varint.write v.toUInt64.toNat ++ rest) = .ok (v.toUInt64.toNat, rest) :=
      Varint.run_read_write v.toUInt64.toNat_lt rest
    simp only [int64, Reader.run_bind, hn, Reader.run_pure, UInt64.ofNat_toNat]
    rfl
  size_add_length_le {input v rest} h := by
    simp only [int64, Reader.run_bind] at h ⊢
    split at h
    · cases h
    next n rest' hn =>
      cases h
      have hread := Varint.size_add_length_le_of_read hn
      have hle : Varint.size (UInt64.ofNat n).toNat ≤ Varint.size n :=
        Varint.size_mono (by rw [UInt64.toNat_ofNat']; exact Nat.mod_le _ _)
      simp only [UInt64.toUInt64_toInt64]
      omega

theorem lawful_bool : bool.Lawful where
  length_write v := by
    have hsmall : v.toNat < 128 := by cases v <;> decide
    exact (Varint.length_write v.toNat).trans (Varint.size_of_lt hsmall)
  run_read_write v rest _ := by
    have hn : Varint.read.run (Varint.write v.toNat ++ rest) = .ok (v.toNat, rest) :=
      Varint.run_read_write (by cases v <;> decide) rest
    simp only [bool, Reader.run_bind, hn, Reader.run_pure]
    cases v <;> rfl
  size_add_length_le {input v rest} h := by
    simp only [bool, Reader.run_bind] at h ⊢
    split at h
    · cases h
    next n rest' hn =>
      cases h
      have hread := Varint.size_add_length_le_of_read hn
      have hpos : 0 < Varint.size n := Nat.succ_pos _
      omega

end Scalar

end LeaderRouting.Wire
