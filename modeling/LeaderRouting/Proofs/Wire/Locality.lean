import LeaderRouting.Proofs.Wire.Merging

/-!
Readers see no further than they read.  So bytes that are fields one after another are the same fields
wherever the bytes stand.
-/

namespace LeaderRouting.Wire

variable {α β : Type} {input rest : Bytes} {key : Key}

/-- Whether what is read depends only on the bytes that it is read from. -/
structure Reader.Local (r : Reader α) : Prop where
  exists_taken : ∀ {input a rest}, r.run input = .ok (a, rest) →
    ∃ taken, input = taken ++ rest ∧ ∀ more, r.run (taken ++ more) = .ok (a, more)

/-! ### Readers -/

theorem local_pure (a : α) : (pure a : Reader α).Local where
  exists_taken h := by
    cases h
    exact ⟨[], rfl, fun _ => rfl⟩

theorem local_fail (fault : Fault) : (Reader.fail fault : Reader α).Local where
  exists_taken h := by cases h

theorem Reader.Local.bind {r : Reader α} {f : α → Reader β} (hr : r.Local) (hf : ∀ a, (f a).Local) :
    (r >>= f).Local where
  exists_taken h := by
    obtain ⟨a, middle, ha, hb⟩ := run_bind_eq_ok_iff.1 h
    obtain ⟨taken, rfl, hra⟩ := hr.exists_taken ha
    obtain ⟨taken', rfl, hfb⟩ := (hf a).exists_taken hb
    refine ⟨taken ++ taken', (List.append_assoc _ _ _).symm, fun more => run_bind_eq_ok_iff.2 ?_⟩
    rw [List.append_assoc]
    exact ⟨a, taken' ++ more, hra _, hfb more⟩

theorem local_take (n : Nat) : (Reader.take n).Local where
  exists_taken {input a rest} h := by
    simp only [Reader.take] at h
    split_ifs at h with hn
    cases h
    refine ⟨input.take n, (List.take_append_drop n input).symm, fun more => ?_⟩
    have hlength : (input.take n).length = n := List.length_take_of_le hn
    have hread := Reader.run_take_append (input.take n) more
    rwa [hlength] at hread

theorem local_expect (expected found : WireType) : (expect expected found).Local := by
  unfold expect
  split_ifs
  · exact local_pure ()
  · exact local_fail _

theorem Varint.exists_of_groups {limit n : Nat} (h : groups limit input = some (n, rest)) :
    ∃ taken, input = taken ++ rest ∧ ∀ more, groups limit (taken ++ more) = some (n, more) := by
  fun_induction groups limit input generalizing n with
  | case1 => simp at h
  | case2 => simp at h
  | case3 limit byte rest' hb =>
    obtain ⟨rfl, rfl⟩ := by simpa using h
    exact ⟨[byte], rfl, fun more => by simp [groups, hb]⟩
  | case4 limit byte rest' hb ih =>
    obtain ⟨⟨high, r⟩, hr, heq⟩ := Option.map_eq_some_iff.1 h
    obtain ⟨rfl, rfl⟩ := by simpa using heq
    obtain ⟨taken, rfl, htaken⟩ := ih hr
    exact ⟨byte :: taken, rfl, fun more => by simp [groups, hb, htaken]⟩

theorem Varint.local_read : Varint.read.Local where
  exists_taken h := by
    simp only [Varint.read] at h ⊢
    split at h
    · cases h
    next hg =>
      cases h
      obtain ⟨taken, hinput, htaken⟩ := exists_of_groups hg
      exact ⟨taken, hinput, fun more => by rw [htaken]⟩

theorem Key.local_read : Key.read.Local := by
  refine Varint.local_read.bind fun code => ?_
  cases ofCode code with
  | error fault => exact local_fail fault
  | ok key => exact local_pure key

theorem local_readDelimited : readDelimited.Local :=
  Varint.local_read.bind local_take

theorem Scalar.local_text : Scalar.text.read.Local := by
  refine local_readDelimited.bind fun payload => ?_
  split
  · exact local_fail _
  · exact local_pure _

/-! ### Fields that are passed over -/

section Group

variable {number : Nat} {skip : Key → Reader Unit}

theorem passGroup_end (hk : Key.read.run input = .ok (key, rest)) (hw : key.wireType = .endGroup)
    (hn : key.number = number) : passGroup number skip input = .ok ((), rest) := by
  rw [passGroup]
  split
  · simp_all
  next key' rest' hk' =>
    obtain ⟨rfl, rfl⟩ : key = key' ∧ rest = rest' := by simpa [hk] using hk'
    rw [if_pos hw, if_pos hn]

theorem passGroup_field {bytes : Bytes} (hk : Key.read.run input = .ok (key, bytes))
    (hw : key.wireType ≠ .endGroup) (hs : (skip key).run bytes = .ok ((), rest)) :
    passGroup number skip input = passGroup number skip rest := by
  rw [passGroup]
  split
  · simp_all
  next key' bytes' hk' =>
    obtain ⟨rfl, rfl⟩ : key = key' ∧ bytes = bytes' := by simpa [hk] using hk'
    rw [if_neg hw]
    split
    · simp_all
    next rest' hs' =>
      obtain rfl : rest = rest' := by simpa [hs] using hs'
      rfl

theorem local_skipGroup (h : ∀ key, (skip key).Local) : (skipGroup number skip).Local := by
  refine ⟨fun {input u rest} hr => ?_⟩
  change passGroup number skip input = .ok (u, rest) at hr
  change ∃ taken, input = taken ++ rest ∧ ∀ more, passGroup number skip (taken ++ more) = .ok (u, more)
  fun_induction passGroup number skip input with
  | case1 => cases hr
  | case2 input key rest' hk hw hn =>
    cases hr
    obtain ⟨taken, hinput, htaken⟩ := Key.local_read.exists_taken hk
    exact ⟨taken, hinput, fun more => passGroup_end (htaken more) hw hn⟩
  | case3 => cases hr
  | case4 => cases hr
  | case5 input key bytes hk hw u' rest' hs _ _ ih =>
    obtain ⟨tag, rfl, htag⟩ := Key.local_read.exists_taken hk
    obtain ⟨payload, rfl, hpayload⟩ := (h key).exists_taken hs
    obtain ⟨taken, rfl, htaken⟩ := ih hr
    refine ⟨tag ++ (payload ++ taken), by simp only [List.append_assoc], fun more => ?_⟩
    rw [List.append_assoc, List.append_assoc, passGroup_field (htag _) hw (hpayload _), htaken]

end Group

theorem local_skipField (depth : Nat) (key : Key) : (skipField depth key).Local := by
  induction depth generalizing key with
  | zero => exact local_fail _
  | succ depth ih =>
    unfold skipField
    split
    · exact Varint.local_read.bind fun _ => local_pure ()
    · exact (local_take 8).bind fun _ => local_pure ()
    · exact (local_take 4).bind fun _ => local_pure ()
    · exact Varint.local_read.bind fun n => (local_take n).bind fun _ => local_pure ()
    · exact local_skipGroup ih
    · exact local_fail _

/-! ### Fields one after another -/

/-- Whether the bytes are well-formed fields with these keys and payloads, one after another. -/
inductive Contents : Bytes → List (Key × Bytes) → Prop
  | nil : Contents [] []
  | cons {tag payload rest : Bytes} {key : Key} {fields : List (Key × Bytes)} :
    Key.read.run tag = .ok (key, []) →
    (skipField Schema.depthLimit key).run payload = .ok ((), []) →
    Contents rest fields → Contents (tag ++ (payload ++ rest)) ((key, payload) :: fields)

/-- A reader that reads all of some bytes reads just these where more follows. -/
theorem Reader.Local.append {r : Reader α} {a : α} {bytes : Bytes} (h : r.Local)
    (hr : r.run bytes = .ok (a, [])) (more : Bytes) : r.run (bytes ++ more) = .ok (a, more) := by
  obtain ⟨taken, hbytes, htaken⟩ := h.exists_taken hr
  rw [List.append_nil] at hbytes
  rw [hbytes]
  exact htaken more

theorem Reader.Local.exact {r : Reader α} {a : α} (h : r.Local) (hr : r.run input = .ok (a, rest)) :
    ∃ taken, input = taken ++ rest ∧ r.run taken = .ok (a, []) := by
  obtain ⟨taken, hinput, htaken⟩ := h.exists_taken hr
  refine ⟨taken, hinput, ?_⟩
  have hnil := htaken []
  rwa [List.append_nil] at hnil

theorem Contents.ne_nil {fields : List (Key × Bytes)} {f : Key × Bytes}
    (h : Contents input (f :: fields)) : input ≠ [] := by
  cases h with
  | cons hk _ _ =>
    rintro hnil
    obtain ⟨rfl, -⟩ := List.append_eq_nil_iff.1 hnil
    cases hk

theorem Contents.unique {fields fields' : List (Key × Bytes)} (h : Contents input fields)
    (h' : Contents input fields') : fields = fields' := by
  induction h generalizing fields' with
  | nil =>
    cases fields' with
    | nil => rfl
    | cons => exact absurd rfl h'.ne_nil
  | @cons tag payload rest key fields hk hs hrest ih =>
    generalize hinput : tag ++ (payload ++ rest) = input at h'
    cases h' with
    | nil => exact absurd hinput (Contents.cons hk hs hrest).ne_nil
    | @cons tag' payload' rest' key' fields' hk' hs' hrest' =>
      have hkey := Key.local_read.append hk (payload ++ rest)
      rw [hinput, Key.local_read.append hk' (payload' ++ rest')] at hkey
      obtain ⟨rfl, hbody⟩ : key' = key ∧ payload' ++ rest' = payload ++ rest := by simpa using hkey
      have hskip := (local_skipField Schema.depthLimit key').append hs rest
      rw [← hbody, (local_skipField Schema.depthLimit key').append hs' rest'] at hskip
      obtain rfl : rest' = rest := by simpa using hskip
      rw [List.append_cancel_right hbody, ih hrest']

end LeaderRouting.Wire
