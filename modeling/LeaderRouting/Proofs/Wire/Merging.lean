import LeaderRouting.Proofs.Wire.Payload
import LeaderRouting.Wire.Schema

/-!
Merging the fields of a message: which bytes take a message from one value to another, and how much
longer a message can get by what is read into it.
-/

namespace LeaderRouting.Wire

/-- Whether reading the bytes, whatever follows them, takes a message from one value to the other. -/
def Merges {σ : Type} (field : Key → σ → Reader σ) (bytes : Bytes) (v v' : σ) : Prop :=
  ∀ stop rest, stop ≤ rest.length →
    mergeFields stop field v (bytes ++ rest) = mergeFields stop field v' rest

/-- Whether a field makes a message longer by no more than the bytes that it is read from. -/
def Frugal {σ : Type} (size : σ → Nat) (field : Key → σ → Reader σ) : Prop :=
  ∀ key v input v' rest, (field key v).run input = .ok (v', rest) →
    size v' + rest.length ≤ size v + key.size + input.length

variable {σ τ α : Type} {field : Key → σ → Reader σ} {size : σ → Nat} {v v' v₁ : σ}
  {input rest bytes bytes' : Bytes} {key : Key}

/-! ### Totals -/

theorem total_append (f : α → Nat) (l l' : List α) :
    total f (l ++ l') = total f l + total f l' := by
  induction l with
  | nil => simp [total]
  | cons a l ih =>
    simp only [total, List.cons_append, List.foldr_cons] at ih ⊢
    omega

theorem total_singleton (f : α → Nat) (a : α) : total f [a] = f a :=
  rfl

theorem total_perm {f : α → Nat} {l l' : List α} (h : l.Perm l') : total f l = total f l' :=
  h.foldr_eq' (fun a _ b _ n => Nat.add_left_comm (f b) (f a) n) 0

theorem le_total {f : α → Nat} {l : List α} {a : α} (h : a ∈ l) : f a ≤ total f l := by
  induction l with
  | nil => simp at h
  | cons b l ih =>
    simp only [total, List.foldr_cons] at ih ⊢
    rcases List.mem_cons.1 h with rfl | h
    · exact Nat.le_add_right _ _
    · exact Nat.le_trans (ih h) (Nat.le_add_left _ _)

theorem length_flatMap {f : α → Bytes} {size : α → Nat} {l : List α}
    (h : ∀ a ∈ l, (f a).length = size a) : (l.flatMap f).length = total size l := by
  induction l with
  | nil => rfl
  | cons a l ih =>
    rw [List.flatMap_cons, List.length_append, h a (by simp),
      ih fun b hb => h b (List.mem_cons_of_mem a hb)]
    rfl

/-! ### Readers -/

theorem run_expect (w : WireType) (input : Bytes) : (expect w w).run input = .ok ((), input) := by
  simp [expect]

theorem eq_of_run_expect {expected found : WireType} {u : Unit}
    (h : (expect expected found).run input = .ok (u, rest)) : found = expected ∧ rest = input := by
  unfold expect at h
  split_ifs at h with hw
  · cases h
    exact ⟨hw, rfl⟩
  · cases h

theorem run_within_eq_ok_iff {r : Reader σ} {l : Location} :
    (r.within l).run input = .ok (v, rest) ↔ r.run input = .ok (v, rest) := by
  simp only [Reader.within]
  split <;> simp_all

theorem run_bind_eq_ok_iff {r : Reader τ} {f : τ → Reader σ} :
    (r >>= f).run input = .ok (v, rest) ↔
      ∃ a rest', r.run input = .ok (a, rest') ∧ (f a).run rest' = .ok (v, rest) := by
  rw [Reader.run_bind]
  split <;> simp_all

/-! ### Fields one after another -/

theorem mergeFields_of_length_eq (field : Key → σ → Reader σ) (v : σ) (rest : Bytes) :
    mergeFields rest.length field v rest = .ok (v, rest) := by
  rw [mergeFields, if_pos (Nat.le_refl _), if_pos rfl]

theorem mergeFields_of_field {stop : Nat} (hstop : stop < input.length)
    (hk : Key.read.run input = .ok (key, bytes)) (hf : (field key v).run bytes = .ok (v', rest)) :
    mergeFields stop field v input = mergeFields stop field v' rest := by
  rw [mergeFields, if_neg (Nat.not_le.2 hstop)]
  split
  · simp_all
  next key' bytes' hk' =>
    obtain ⟨rfl, rfl⟩ : key = key' ∧ bytes = bytes' := by simpa [hk] using hk'
    split
    · simp_all
    next v₁ rest' hf' =>
      obtain ⟨rfl, rfl⟩ : v' = v₁ ∧ rest = rest' := by simpa [hf] using hf'
      rfl

theorem Merges.nil (field : Key → σ → Reader σ) (v : σ) : Merges field [] v v :=
  fun _ _ _ => rfl

theorem Merges.append (h : Merges field bytes v v₁) (h₁ : Merges field bytes' v₁ v') :
    Merges field (bytes ++ bytes') v v' := by
  intro stop rest hstop
  rw [List.append_assoc, h stop _ (by rw [List.length_append]; omega), h₁ stop rest hstop]

/-- One field. -/
theorem merges_field (hk : key.IsSound)
    (hf : ∀ rest, (field key v).run (bytes ++ rest) = .ok (v', rest)) :
    Merges field (key.write ++ bytes) v v' := by
  intro stop rest hstop
  have hkey := Key.run_read_write hk (bytes ++ rest)
  rw [List.append_assoc]
  refine mergeFields_of_field ?_ hkey (hf rest)
  have hpos : 0 < key.write.length := by
    rw [Key.length_write]
    exact Nat.succ_pos _
  rw [List.length_append, List.length_append]
  omega

/-- Fields that each add to a list. -/
theorem merges_flatMap {f : α → Bytes} {add : List α → σ} {l : List α}
    (hf : ∀ before, ∀ a ∈ l, Merges field (f a) (add before) (add (before ++ [a]))) (before : List α) :
    Merges field (l.flatMap f) (add before) (add (before ++ l)) := by
  induction l generalizing before with
  | nil =>
    rw [List.append_nil]
    exact .nil field _
  | cons a l ih =>
    have hrest := ih (fun before b hb => hf before b (List.mem_cons_of_mem a hb)) (before ++ [a])
    rw [List.append_assoc, List.singleton_append] at hrest
    exact (hf before a (by simp)).append hrest

theorem Frugal.mergeFields {stop : Nat} (h : Frugal size field)
    (hm : mergeFields stop field v input = .ok (v', rest)) :
    size v' + rest.length ≤ size v + input.length ∧ rest.length = stop := by
  fun_induction Wire.mergeFields stop field v input with
  | case1 v input _ hlength =>
    cases hm
    exact ⟨Nat.le_refl _, hlength⟩
  | case2 => cases hm
  | case3 => cases hm
  | case4 => cases hm
  | case5 v input _ key bytes hk v₁ rest₁ hf _ _ ih =>
    have hkey := Key.size_add_length_le_of_read hk
    have hfield := h key v bytes v₁ rest₁ hf
    obtain ⟨hrest, hlength⟩ := ih hm
    exact ⟨by omega, hlength⟩

/-! ### Nested messages -/

theorem run_readNested (h : Merges field bytes v v') (hl : bytes.length < UInt64.size)
    (rest : Bytes) : (readNested field v).run (delimit bytes ++ rest) = .ok (v', rest) := by
  have hlength : Varint.read.run (delimit bytes ++ rest) = .ok (bytes.length, bytes ++ rest) := by
    rw [delimit, List.append_assoc]
    exact Varint.run_read_write hl _
  have hleft : (bytes ++ rest).length - bytes.length = rest.length := by
    rw [List.length_append, Nat.add_sub_cancel_left]
  simp only [readNested, Reader.run_bind, hlength, Reader.run_remaining]
  rw [if_neg (by rw [List.length_append]; omega)]
  simp only [hleft]
  rw [h rest.length rest (Nat.le_refl _), mergeFields_of_length_eq]

/-- A nested message is no longer than the bytes that it is read from and what was there before; its
length is not written at greater length either. -/
theorem Frugal.readNested (h : Frugal size field)
    (hr : (readNested field v).run input = .ok (v', rest)) :
    ∃ n, size v' ≤ size v + n ∧ Varint.size n + n + rest.length ≤ input.length := by
  simp only [Wire.readNested, run_bind_eq_ok_iff] at hr
  obtain ⟨n, bytes, hn, left, bytes', hleft, hr⟩ := hr
  cases hleft
  have hlength := Varint.size_add_length_le_of_read hn
  split_ifs at hr with hshort
  · cases hr
  · obtain ⟨hsize, hrest⟩ := h.mergeFields hr
    exact ⟨n, by omega, by omega⟩

end LeaderRouting.Wire
