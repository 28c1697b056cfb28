import LeaderRouting.Wire.Key
import Mathlib.Data.Nat.Log
import Mathlib.Tactic.Common

/-!
Numbers and keys on the wire: what is written is read again, and nothing that reads as a number is
shorter than what is written for it.
-/

namespace LeaderRouting.Wire

namespace Varint

variable {limit n : Nat} {input rest : Bytes}

/-! ### Sizes -/

theorem size_eq (n : Nat) : size n = Nat.log 2 n / 7 + 1 := by
  rw [size, Nat.log2_eq_log_two]

theorem size_of_lt (h : n < 128) : size n = 1 := by
  have hlog : Nat.log 2 n < 7 := Nat.log_lt_of_lt_pow' (by decide) h
  rw [size_eq, Nat.div_eq_of_lt hlog]

theorem size_of_le (h : 128 ≤ n) : size n = size (n / 128) + 1 := by
  have hlog : Nat.log 2 (n / 128) = Nat.log 2 n - 7 := Nat.log_div_base_pow 2 n 7
  have hle : 7 ≤ Nat.log 2 n := Nat.le_log_of_pow_le (by decide) h
  rw [size_eq, size_eq, hlog]
  omega

theorem size_mono {m : Nat} (h : m ≤ n) : size m ≤ size n := by
  have hlog : Nat.log 2 m ≤ Nat.log 2 n := Nat.log_mono_right h
  rw [size_eq, size_eq]
  exact Nat.succ_le_succ (Nat.div_le_div_right hlog)

/-- The length of two payloads takes no more bytes than their lengths do. -/
theorem size_add_le (m n : Nat) : size (m + n) ≤ size m + size n := by
  wlog hmn : m ≤ n
  · rw [Nat.add_comm m n, Nat.add_comm (size m)]
    exact this n m (Nat.le_of_not_le hmn)
  rcases Nat.eq_zero_or_pos n with rfl | hn
  · obtain rfl := Nat.le_zero.1 hmn
    decide
  have hlog : Nat.log 2 (m + n) ≤ Nat.log 2 n + 1 := by
    calc Nat.log 2 (m + n) ≤ Nat.log 2 (n * 2) := Nat.log_mono_right (by omega)
      _ = Nat.log 2 n + 1 := Nat.log_mul_base (by decide) hn.ne'
  rw [size_eq, size_eq, size_eq]
  omega

theorem length_write (n : Nat) : (write n).length = size n := by
  fun_induction write n with
  | case1 n h => rw [size_of_lt h, List.length_singleton]
  | case2 n h ih => rw [size_of_le (Nat.not_lt.1 h), List.length_cons, ih]

/-! ### Reading what was written -/

theorem toNat_toUInt8 (h : n < 256) : n.toUInt8.toNat = n := by
  simp [Nat.mod_eq_of_lt h]

theorem groups_write (h : n < Nat.pow 128 limit) (hl : 0 < limit) (rest : Bytes) :
    groups limit (write n ++ rest) = some (n, rest) := by
  obtain ⟨limit, rfl⟩ := Nat.exists_eq_add_one.2 hl
  fun_induction write n generalizing limit with
  | case1 n hn => simp [groups, toNat_toUInt8 (Nat.lt_trans hn (by decide : 128 < 256)), hn]
  | case2 n hn ih =>
    have hbyte : (n % 128 + 128).toUInt8.toNat = n % 128 + 128 := toNat_toUInt8 (by omega)
    have hsplit : n % 128 + 128 - 128 + 128 * (n / 128) = n := by omega
    have hmore : 0 < limit := by
      rcases Nat.eq_zero_or_pos limit with rfl | hpos
      · exact absurd h hn
      · exact hpos
    obtain ⟨limit, rfl⟩ := Nat.exists_eq_add_one.2 hmore
    have hhigh : groups (limit + 1) (write (n / 128) ++ rest) = some (n / 128, rest) :=
      ih limit (Nat.div_lt_of_lt_mul (Nat.mul_comm _ 128 ▸ h)) hmore
    rw [List.cons_append, groups, hbyte, if_neg (by omega), hhigh, Option.map_some]
    simp only [hsplit]

theorem run_read_write (h : n < UInt64.size) (rest : Bytes) :
    read.run (write n ++ rest) = .ok (n, rest) := by
  have hg : groups 10 (write n ++ rest) = some (n, rest) :=
    groups_write (Nat.lt_trans h (by decide)) (by decide) rest
  simp only [read, hg, Nat.mod_eq_of_lt h]

/-! ### No number is written at greater length than it is read at -/

theorem size_add_length_le_of_groups (h : groups limit input = some (n, rest)) :
    size n + rest.length ≤ input.length := by
  fun_induction groups limit input generalizing n with
  | case1 => simp at h
  | case2 => simp at h
  | case3 limit byte rest' hb =>
    obtain ⟨rfl, rfl⟩ := by simpa using h
    rw [size_of_lt hb, List.length_cons, Nat.add_comm]
  | case4 limit byte rest' hb ih =>
    obtain ⟨⟨high, r⟩, hr, heq⟩ := Option.map_eq_some_iff.1 h
    obtain ⟨rfl, rfl⟩ := by simpa using heq
    have hrest := ih hr
    have hbyte : byte.toNat < 256 := byte.toNat_lt
    have hsize : size (byte.toNat - 128 + 128 * high) ≤ size high + 1 := by
      rcases Nat.lt_or_ge (byte.toNat - 128 + 128 * high) 128 with hlt | hge
      · rw [size_of_lt hlt]
        exact Nat.le_add_left 1 _
      · have hdiv : (byte.toNat - 128 + 128 * high) / 128 = high := by omega
        rw [size_of_le hge, hdiv]
    rw [List.length_cons]
    omega

theorem size_add_length_le_of_read (h : read.run input = .ok (n, rest)) :
    size n + rest.length ≤ input.length := by
  simp only [read] at h
  split at h
  · cases h
  next m rest' hg =>
    cases h
    have hm := size_add_length_le_of_groups hg
    have hle : size (m % UInt64.size) ≤ size m := size_mono (Nat.mod_le m _)
    omega

end Varint

theorem WireType.code_of_ofCode? {n : Nat} {w : WireType} (h : ofCode? n = some w) : w.code = n := by
  unfold ofCode? at h
  split at h <;> first | (cases h; rfl) | simp at h

namespace Key

variable {k : Key} {input rest : Bytes}

/-- Whether the key is read again where it is written. -/
def IsSound (k : Key) : Prop :=
  0 < k.number ∧ k.code < UInt32.size

theorem code_mk (number : Nat) (w : WireType) : code ⟨number, w⟩ = 8 * number + w.code :=
  rfl

theorem length_write (k : Key) : k.write.length = k.size :=
  Varint.length_write k.code

theorem ofCode_code (h : k.IsSound) : ofCode k.code = .ok k := by
  have hlow := k.wireType.code_lt
  have hmod : k.code % 8 = k.wireType.code := by
    unfold code
    omega
  have hdiv : k.code / 8 = k.number := by
    unfold code
    omega
  unfold ofCode
  rw [if_neg (Nat.not_le.2 h.2), hmod, hdiv, WireType.ofCode?_code]
  exact if_neg h.1.ne'

theorem code_of_ofCode {n : Nat} (h : ofCode n = .ok k) : k.code = n := by
  unfold ofCode at h
  split_ifs at h
  · split at h <;> cases h
  · split at h
    · cases h
    next w hw =>
      cases h
      rw [code_mk, WireType.code_of_ofCode? hw]
      omega

theorem run_read_write (h : k.IsSound) (rest : Bytes) : read.run (k.write ++ rest) = .ok (k, rest) := by
  have hcode : Varint.read.run (k.write ++ rest) = .ok (k.code, rest) :=
    Varint.run_read_write (Nat.lt_trans h.2 (by decide)) rest
  simp only [read, Reader.run_bind, hcode, ofCode_code h, Reader.run_pure]

/-- A field number takes the same bytes whatever the wire type. -/
theorem size_mk {number : Nat} (h : 0 < number) (w w' : WireType) :
    size ⟨number, w⟩ = size ⟨number, w'⟩ := by
  have hlog : ∀ w : WireType, Nat.log 2 (code ⟨number, w⟩) = Nat.log 2 number + 3 := by
    intro w
    have hlow := w.code_lt
    have hdiv : code ⟨number, w⟩ / 8 = number := by
      rw [code_mk]
      omega
    have hsub : Nat.log 2 (code ⟨number, w⟩ / 8) = Nat.log 2 (code ⟨number, w⟩) - 3 :=
      Nat.log_div_base_pow 2 _ 3
    have hle : 3 ≤ Nat.log 2 (code ⟨number, w⟩) := by
      refine Nat.le_log_of_pow_le (by decide) ?_
      rw [code_mk]
      omega
    rw [hdiv] at hsub
    omega
  unfold size
  rw [Varint.size_eq, Varint.size_eq, hlog w, hlog w']

theorem size_add_length_le_of_read (h : read.run input = .ok (k, rest)) :
    k.size + rest.length ≤ input.length := by
  simp only [read, Reader.run_bind] at h
  cases hn : Varint.read.run input with
  | error e =>
    rw [hn] at h
    cases h
  | ok found =>
    obtain ⟨n, rest'⟩ := found
    simp only [hn] at h
    cases hc : ofCode n with
    | error fault => simp [hc] at h
    | ok k' =>
      simp only [hc, Reader.run_pure] at h
      cases h
      unfold size
      rw [code_of_ofCode hc]
      exact Varint.size_add_length_le_of_read hn

end Key

end LeaderRouting.Wire
