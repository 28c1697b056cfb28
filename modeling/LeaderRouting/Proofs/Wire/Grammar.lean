import LeaderRouting.Proofs.Wire.Locality

/-!
The grammar of fields, said without readers: which bytes are a number, a tag, a payload, and a group
with what it holds.  What can be passed over as a payload is just what the grammar has as one.
-/

namespace LeaderRouting.Wire

/-- The number that bytes spell in groups of seven bits, the low group first. -/
inductive Spells : Bytes → Nat → Prop
  | last {byte : UInt8} (small : byte.toNat < 128) : Spells [byte] byte.toNat
  | more {byte : UInt8} {rest : Bytes} {high : Nat} (large : 128 ≤ byte.toNat)
    (spells : Spells rest high) : Spells (byte :: rest) (byte.toNat - 128 + 128 * high)

/-- Whether the bytes are a varint, of ten bytes at most, whose low 64 bits are `n`. -/
def IsVarint (bytes : Bytes) (n : Nat) : Prop :=
  bytes.length ≤ 10 ∧ ∃ m, Spells bytes m ∧ m % UInt64.size = n

/-- Whether the bytes announce a field with this key. -/
def Key.IsTag (key : Key) (bytes : Bytes) : Prop :=
  key.IsSound ∧ IsVarint bytes key.code

/-- Whether the bytes are fields, each with a tag and a payload. -/
inductive IsFields (payload : Key → Bytes → Prop) : Bytes → Prop
  | nil : IsFields payload []
  | cons {key : Key} {tag body rest : Bytes} (tagged : key.IsTag tag) (filled : payload key body)
    (further : IsFields payload rest) : IsFields payload (tag ++ (body ++ rest))

/-- The payloads for each wire type; `inner` says what may stand in a group. -/
inductive Payload (inner : Bytes → Prop) : Key → Bytes → Prop
  | varint {number n : Nat} {bytes : Bytes} (number_of : IsVarint bytes n) :
    Payload inner ⟨number, .varint⟩ bytes
  | fixed64 {number : Nat} {bytes : Bytes} (length : bytes.length = 8) :
    Payload inner ⟨number, .fixed64⟩ bytes
  | fixed32 {number : Nat} {bytes : Bytes} (length : bytes.length = 4) :
    Payload inner ⟨number, .fixed32⟩ bytes
  | lengthDelimited {number : Nat} {length bytes : Bytes} (measured : IsVarint length bytes.length) :
    Payload inner ⟨number, .lengthDelimited⟩ (length ++ bytes)
  | group {number : Nat} {contents close : Bytes} (within : inner contents)
    (closed : (⟨number, .endGroup⟩ : Key).IsTag close) :
    Payload inner ⟨number, .startGroup⟩ (contents ++ close)

/-- Whether the bytes are a payload for the key, where groups may be nested as deep as `depth` says. -/
def IsPayload : (depth : Nat) → Key → Bytes → Prop
  | 0 => fun _ _ => False
  | depth + 1 => Payload (IsFields (IsPayload depth))

/-- Whether the bytes are one field with this number. -/
def IsField (number : Nat) (bytes : Bytes) : Prop :=
  ∃ wireType tag payload, (⟨number, wireType⟩ : Key).IsTag tag ∧
    IsPayload Schema.depthLimit ⟨number, wireType⟩ payload ∧ bytes = tag ++ payload

variable {bytes payload : Bytes} {key : Key} {depth number n limit : Nat}

/-! ### Numbers and tags -/

theorem groups_eq_some_nil_iff :
    Varint.groups limit bytes = some (n, []) ↔ bytes.length ≤ limit ∧ Spells bytes n := by
  constructor
  · intro h
    fun_induction Varint.groups limit bytes generalizing n with
    | case1 => simp at h
    | case2 => simp at h
    | case3 limit byte rest hb =>
      obtain ⟨rfl, rfl⟩ := by simpa using h
      exact ⟨by simp, .last hb⟩
    | case4 limit byte rest hb ih =>
      obtain ⟨⟨high, r⟩, hr, heq⟩ := Option.map_eq_some_iff.1 h
      obtain ⟨rfl, rfl⟩ := by simpa using heq
      obtain ⟨hlength, hspells⟩ := ih hr
      exact ⟨Nat.succ_le_succ hlength, .more (Nat.not_lt.1 hb) hspells⟩
  · rintro ⟨hlength, hspells⟩
    induction hspells generalizing limit with
    | last small =>
      obtain ⟨limit, rfl⟩ := Nat.exists_eq_add_one.2 (Nat.lt_of_lt_of_le (Nat.succ_pos _) hlength)
      simp [Varint.groups, small]
    | more large _ ih =>
      obtain ⟨limit, rfl⟩ := Nat.exists_eq_add_one.2 (Nat.lt_of_lt_of_le (Nat.succ_pos _) hlength)
      simp [Varint.groups, Nat.not_lt.2 large, ih (Nat.le_of_succ_le_succ hlength)]

theorem Varint.run_read_eq_ok_nil_iff : read.run bytes = .ok (n, []) ↔ IsVarint bytes n := by
  have hread : read.run bytes = .ok (n, []) ↔
      ∃ m, groups 10 bytes = some (m, []) ∧ m % UInt64.size = n := by
    simp only [read]
    split <;> simp_all [and_comm]
  rw [hread]
  simp only [groups_eq_some_nil_iff, IsVarint, and_assoc, exists_and_left]

theorem Key.isSound_of_ofCode (h : ofCode n = .ok key) : key.IsSound := by
  have hcode := code_of_ofCode h
  unfold ofCode at h
  split at h
  · cases h
  next hsize =>
    split at h
    · cases h
    · split_ifs at h with hzero
      cases h
      exact ⟨Nat.pos_of_ne_zero hzero, Nat.lt_of_le_of_lt (Nat.le_of_eq hcode) (Nat.not_le.1 hsize)⟩

theorem Key.run_read_eq_ok_nil_iff : read.run bytes = .ok (key, []) ↔ key.IsTag bytes := by
  unfold read
  rw [run_bind_eq_ok_iff]
  constructor
  · rintro ⟨code, rest, hcode, h⟩
    cases hkey : ofCode code with
    | error fault => simp [hkey] at h
    | ok key' =>
      simp only [hkey] at h
      cases h
      refine ⟨isSound_of_ofCode hkey, ?_⟩
      rw [code_of_ofCode hkey]
      exact Varint.run_read_eq_ok_nil_iff.1 hcode
  · rintro ⟨hsound, hvarint⟩
    exact ⟨key.code, [], Varint.run_read_eq_ok_nil_iff.2 hvarint, by simp [ofCode_code hsound]⟩

/-! ### Payloads -/

theorem run_take_eq_ok_nil_iff : (Reader.take n).run bytes = .ok (payload, []) ↔
    payload = bytes ∧ bytes.length = n := by
  simp only [Reader.take]
  split_ifs with h
  · simp only [Except.ok.injEq, Prod.mk.injEq, List.drop_eq_nil_iff]
    constructor
    · rintro ⟨rfl, hle⟩
      exact ⟨List.take_of_length_le hle, Nat.le_antisymm hle h⟩
    · rintro ⟨rfl, rfl⟩
      exact ⟨List.take_length, Nat.le_refl _⟩
  · simp only [false_iff, not_and]
    rintro - rfl
    exact h (Nat.le_refl _)

theorem run_readDelimited_eq_ok_nil_iff : readDelimited.run bytes = .ok (payload, []) ↔
    ∃ length, IsVarint length payload.length ∧ bytes = length ++ payload := by
  unfold readDelimited
  rw [run_bind_eq_ok_iff]
  constructor
  · rintro ⟨n, rest, hn, htake⟩
    obtain ⟨length, rfl, hlength⟩ := Varint.local_read.exact hn
    obtain ⟨rfl, rfl⟩ := run_take_eq_ok_nil_iff.1 htake
    exact ⟨length, Varint.run_read_eq_ok_nil_iff.1 hlength, rfl⟩
  · rintro ⟨length, hlength, rfl⟩
    exact ⟨payload.length, payload,
      Varint.local_read.append (Varint.run_read_eq_ok_nil_iff.2 hlength) payload,
      run_take_eq_ok_nil_iff.2 ⟨rfl, rfl⟩⟩

/-- What is done with a value does not matter to whether it can be read. -/
theorem run_bind_unit_eq_ok_nil_iff {α : Type} {r : Reader α} :
    (r >>= fun _ => (pure () : Reader Unit)).run bytes = .ok ((), []) ↔
      ∃ a, r.run bytes = .ok (a, []) := by
  rw [run_bind_eq_ok_iff]
  constructor
  · rintro ⟨a, rest, ha, h⟩
    cases h
    exact ⟨a, ha⟩
  · rintro ⟨a, ha⟩
    exact ⟨a, [], ha, rfl⟩

theorem run_passDelimited_eq_ok_nil_iff :
    (do let _ ← Reader.take (← Varint.read) : Reader Unit).run bytes = .ok ((), []) ↔
      ∃ length payload, IsVarint length payload.length ∧ bytes = length ++ payload := by
  constructor
  · intro h
    obtain ⟨n, rest, hn, h⟩ := run_bind_eq_ok_iff.1 h
    obtain ⟨body, hbody⟩ := run_bind_unit_eq_ok_nil_iff.1 h
    have hread : readDelimited.run bytes = .ok (body, []) :=
      run_bind_eq_ok_iff.2 ⟨n, rest, hn, hbody⟩
    obtain ⟨length, hlength, rfl⟩ := run_readDelimited_eq_ok_nil_iff.1 hread
    exact ⟨length, body, hlength, rfl⟩
  · rintro ⟨length, body, hlength, rfl⟩
    have hread := run_readDelimited_eq_ok_nil_iff.2 ⟨length, hlength, rfl⟩
    obtain ⟨n, rest, hn, hbody⟩ := run_bind_eq_ok_iff.1 hread
    exact run_bind_eq_ok_iff.2 ⟨n, rest, hn, run_bind_unit_eq_ok_nil_iff.2 ⟨body, hbody⟩⟩

/-- A group is passed over exactly if it holds fields that are, and ends with its own end tag. -/
theorem passGroup_eq_ok_nil_iff {skip : Key → Reader Unit} {payload : Key → Bytes → Prop}
    (hskip : ∀ key bytes, (skip key).run bytes = .ok ((), []) ↔ payload key bytes)
    (hlocal : ∀ key, (skip key).Local)
    (hend : ∀ {key bytes}, payload key bytes → key.wireType ≠ .endGroup) :
    passGroup number skip bytes = .ok ((), []) ↔
      ∃ contents close, IsFields payload contents ∧
        (⟨number, .endGroup⟩ : Key).IsTag close ∧ bytes = contents ++ close := by
  constructor
  · intro h
    fun_induction passGroup number skip bytes with
    | case1 => cases h
    | case2 bytes key rest hk hw hn =>
      cases h
      obtain ⟨number, wireType⟩ := key
      obtain rfl : number = _ := hn
      obtain rfl : wireType = .endGroup := hw
      exact ⟨[], bytes, .nil, Key.run_read_eq_ok_nil_iff.1 hk, rfl⟩
    | case3 => cases h
    | case4 => cases h
    | case5 bytes key middle hk hw u rest hs _ _ ih =>
      obtain ⟨contents, close, hcontents, hclose, rfl⟩ := ih h
      obtain ⟨tag, rfl, htag⟩ := Key.local_read.exact hk
      obtain ⟨body, rfl, hbody⟩ := (hlocal key).exact hs
      refine ⟨tag ++ (body ++ contents), close, ?_, hclose, by simp only [List.append_assoc]⟩
      exact .cons (Key.run_read_eq_ok_nil_iff.1 htag) ((hskip key body).1 hbody) hcontents
  · rintro ⟨contents, close, hcontents, hclose, rfl⟩
    induction hcontents with
    | nil => exact passGroup_end (Key.run_read_eq_ok_nil_iff.2 hclose) rfl rfl
    | @cons key tag body rest tagged filled _ ih =>
      have htag := Key.local_read.append (Key.run_read_eq_ok_nil_iff.2 tagged)
        (body ++ (rest ++ close))
      have hbody := (hlocal key).append ((hskip key body).2 filled) (rest ++ close)
      rw [List.append_assoc, List.append_assoc, passGroup_field htag (hend filled) hbody, ih]

theorem Payload.wireType_ne {inner : Bytes → Prop} (h : Payload inner key bytes) :
    key.wireType ≠ .endGroup := by
  cases h <;> exact WireType.noConfusion

theorem IsPayload.wireType_ne (h : IsPayload depth key bytes) : key.wireType ≠ .endGroup := by
  cases depth with
  | zero => exact h.elim
  | succ depth => exact Payload.wireType_ne h

/-- What can be passed over is just what the grammar has as a payload. -/
theorem run_skipField_eq_ok_nil_iff :
    (skipField depth key).run bytes = .ok ((), []) ↔ IsPayload depth key bytes := by
  induction depth generalizing key bytes with
  | zero => simp [skipField, IsPayload]
  | succ depth ih =>
    obtain ⟨number, wireType⟩ := key
    unfold skipField IsPayload
    cases wireType with
    | varint =>
      simp only [run_bind_unit_eq_ok_nil_iff, Varint.run_read_eq_ok_nil_iff]
      exact ⟨fun ⟨_, h⟩ => .varint h, fun h => by cases h with | varint h => exact ⟨_, h⟩⟩
    | fixed64 =>
      simp only [run_bind_unit_eq_ok_nil_iff, run_take_eq_ok_nil_iff, exists_eq_left]
      exact ⟨.fixed64, fun h => by cases h with | fixed64 h => exact h⟩
    | fixed32 =>
      simp only [run_bind_unit_eq_ok_nil_iff, run_take_eq_ok_nil_iff, exists_eq_left]
      exact ⟨.fixed32, fun h => by cases h with | fixed32 h => exact h⟩
    | lengthDelimited =>
      refine run_passDelimited_eq_ok_nil_iff.trans ⟨?_, fun h => ?_⟩
      · rintro ⟨length, body, hlength, rfl⟩
        exact .lengthDelimited hlength
      · cases h with
        | lengthDelimited hlength => exact ⟨_, _, hlength, rfl⟩
    | startGroup =>
      have hgroup : passGroup number (skipField depth) bytes = .ok ((), []) ↔ _ :=
        passGroup_eq_ok_nil_iff (fun _ _ => ih) (local_skipField depth) IsPayload.wireType_ne
      refine hgroup.trans ⟨?_, fun h => ?_⟩
      · rintro ⟨contents, close, hcontents, hclose, rfl⟩
        exact .group hcontents hclose
      · cases h with
        | group hcontents hclose => exact ⟨_, _, hcontents, hclose, rfl⟩
    | endGroup =>
      refine ⟨fun h => ?_, fun h => absurd rfl h.wireType_ne⟩
      cases h

end LeaderRouting.Wire
