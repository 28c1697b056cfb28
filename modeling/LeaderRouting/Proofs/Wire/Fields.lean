import LeaderRouting.Proofs.Wire.Merging

/-!
Fields by kind.  Reading what a field writes copies the field's part of the message and nothing else,
and reading anything into a field makes the message longer by no more than what is read.
-/

namespace LeaderRouting.Wire

/-- Whether a part that is replaced is what it was replaced by, however often this is done. -/
structure Part.Lawful {σ α : Type} (p : Part σ α) : Prop where
  get_set : ∀ x v, p.get (p.set x v) = x
  set_get : ∀ v, p.set (p.get v) v = v
  set_set : ∀ x y v, p.set x (p.set y v) = p.set x v

theorem Part.Lawful.of_eq {σ α : Type} {p : Part σ α}
    (get_set : (fun x v => p.get (p.set x v)) = fun x _ => x)
    (set_get : (fun v => p.set (p.get v) v) = fun v => v)
    (set_set : (fun x y v => p.set x (p.set y v)) = fun x _ v => p.set x v) : p.Lawful where
  get_set x v := congrFun (congrFun get_set x) v
  set_get v := congrFun set_get v
  set_set x y v := congrFun (congrFun (congrFun set_set x) y) v

/-- The second message with this part of the first. -/
def Part.copy {σ α : Type} (p : Part σ α) (v w : σ) : σ :=
  p.set (p.get v) w

/-- Whether some reading of fields treats those with the numbers of `f` as `f` does, where `f` succeeds. -/
def Field.IsHandled {σ : Type} (f : Field σ) (depth : Nat) (field : Key → σ → Reader σ) : Prop :=
  ∀ key v input found, key.number ∈ f.numbers → (f.read depth key v).run input = .ok found →
    (field key v).run input = .ok found

/-- How a field stands to the message as a whole: `copy v w` is `w` with the part of `v` that the field
writes. -/
structure Field.Sound {σ : Type} (f : Field σ) (initial : σ) (copy : σ → σ → σ) (height : Nat) :
    Prop where
  size_initial : f.size initial = 0
  length_write : ∀ v, (f.write v).length = f.size v
  merges : ∀ {depth field v w}, height ≤ depth → f.size v < UInt64.size → copy initial w = w →
    f.IsHandled depth field → Merges field (f.write v) w (copy v w)
  copies : ∀ {depth key v input v' rest}, key.number ∈ f.numbers →
    (f.read depth key v).run input = .ok (v', rest) → copy v' v = v'
  copy_self : ∀ v, copy v v = v
  copy_copy : ∀ u v w, copy u (copy v w) = copy u w
  frugal : ∀ {depth key v input v' rest}, key.number ∈ f.numbers →
    (f.read depth key v).run input = .ok (v', rest) →
      f.size v' + rest.length ≤ f.size v + key.size + input.length

/-- Whether a message type is read as it is written, from readers that follow nested messages as deep
as `height` says. -/
structure Schema.Lawful {σ : Type} (s : Schema σ) (height : Nat) : Prop where
  size_initial : s.size s.initial = 0
  length_write : ∀ v, (s.write v).length = s.size v
  merges : ∀ {depth v}, height ≤ depth → s.size v < UInt64.size →
    Merges (s.readField depth) (s.write v) s.initial v
  frugal : ∀ depth, Frugal s.size (s.readField depth)

variable {σ τ α : Type} {initial : σ} {name : String} {number : Nat} {input rest : Bytes}

/-! ### Scalars -/

section Scalar

variable {kind : Scalar α}

theorem Scalar.Lawful.length_writeField (h : kind.Lawful) (number : Nat) (x : α) :
    (kind.writeField number x).length = kind.fieldSize number x := by
  rw [Scalar.writeField, List.length_append, Key.length_write, h.length_write, Scalar.fieldSize]

theorem Scalar.Lawful.run_readField (h : kind.Lawful) (number : Nat) {x : α}
    (hx : kind.size x < UInt64.size) (rest : Bytes) :
    (kind.readField ⟨number, kind.wireType⟩).run (kind.write x ++ rest) = .ok (x, rest) := by
  simp only [Scalar.readField, Reader.run_bind, run_expect, h.run_read_write x rest hx]

theorem Scalar.Lawful.fieldSize_add_length_le (h : kind.Lawful) {key : Key} {x : α}
    (hr : (kind.readField key).run input = .ok (x, rest)) :
    kind.fieldSize key.number x + rest.length ≤ key.size + input.length := by
  simp only [Scalar.readField, run_bind_eq_ok_iff] at hr
  obtain ⟨u, bytes, hu, hr⟩ := hr
  obtain ⟨hw, rfl⟩ := eq_of_run_expect hu
  have hsize := h.size_add_length_le hr
  obtain ⟨number, w⟩ := key
  obtain rfl : w = kind.wireType := hw
  simp only [Scalar.fieldSize]
  omega

theorem merges_writeField {field : Key → σ → Reader σ} {v v' : σ} {x : α}
    (hk : Key.IsSound ⟨number, kind.wireType⟩)
    (hf : ∀ rest, (field ⟨number, kind.wireType⟩ v).run (kind.write x ++ rest) = .ok (v', rest)) :
    Merges field (kind.writeField number x) v v' :=
  merges_field hk hf

theorem sound_scalar [DecidableEq α] {p : Part σ α} (hk : kind.Lawful) (hp : p.Lawful)
    (hn : Key.IsSound ⟨number, kind.wireType⟩) (hi : p.get initial = kind.initial) :
    (Field.scalar name number kind p).Sound initial p.copy 0 where
  size_initial := if_pos hi
  length_write v := by
    simp only [Field.scalar]
    split_ifs
    · rfl
    · exact hk.length_writeField number _
  merges {depth field v w} _ hsize hw hf := by
    simp only [Field.scalar] at hsize ⊢
    split_ifs at hsize ⊢ with hv
    · have hcopy : p.copy v w = w := by
        unfold Part.copy at hw ⊢
        rw [hv, ← hi, hw]
      rw [hcopy]
      exact .nil field w
    · refine merges_writeField hn fun rest => hf _ w _ _ (List.mem_singleton.2 rfl) ?_
      have hx : kind.size (p.get v) < UInt64.size := by
        unfold Scalar.fieldSize at hsize
        omega
      simp only [Field.scalar, Reader.run_bind, hk.run_readField number hx rest, Reader.run_pure]
      rfl
  copies {depth key v input v' rest} _ hr := by
    simp only [Field.scalar, run_bind_eq_ok_iff] at hr
    obtain ⟨x, bytes, -, hr⟩ := hr
    cases hr
    simp only [Part.copy, hp.get_set]
  copy_self := hp.set_get
  copy_copy _ _ _ := hp.set_set _ _ _
  frugal {depth key v input v' rest} hkey hr := by
    obtain rfl : key.number = number := List.mem_singleton.1 hkey
    simp only [Field.scalar, run_bind_eq_ok_iff] at hr ⊢
    obtain ⟨x, bytes, hx, hr⟩ := hr
    cases hr
    have hle := hk.fieldSize_add_length_le hx
    rw [hp.get_set]
    split_ifs <;> omega

theorem sound_repeated {p : Part σ (List α)} (hk : kind.Lawful) (hp : p.Lawful)
    (hn : Key.IsSound ⟨number, kind.wireType⟩) (hi : p.get initial = []) :
    (Field.repeated name number kind p).Sound initial p.copy 0 where
  size_initial := by
    simp only [Field.repeated, hi]
    rfl
  length_write v := length_flatMap fun x _ => hk.length_writeField number x
  merges {depth field v w} _ hsize hw hf := by
    have hstart : p.set [] w = w := by
      unfold Part.copy at hw
      rwa [hi] at hw
    have hstep : ∀ before, ∀ x ∈ p.get v,
        Merges field (kind.writeField number x) (p.set before w) (p.set (before ++ [x]) w) := by
      intro before x hx
      have hle : kind.fieldSize number x ≤ total (kind.fieldSize number) (p.get v) := le_total hx
      refine merges_writeField hn fun rest => hf _ _ _ _ (List.mem_singleton.2 rfl) ?_
      have hsmall : kind.size x < UInt64.size := by
        simp only [Field.repeated] at hsize
        unfold Scalar.fieldSize at hle hsize
        omega
      simp only [Field.repeated, Reader.run_bind, hk.run_readField number hsmall rest,
        Reader.run_pure, hp.get_set, hp.set_set]
    have hall := merges_flatMap hstep []
    rwa [hstart, List.nil_append] at hall
  copies {depth key v input v' rest} _ hr := by
    simp only [Field.repeated, run_bind_eq_ok_iff] at hr
    obtain ⟨x, bytes, -, hr⟩ := hr
    cases hr
    simp only [Part.copy, hp.get_set]
  copy_self := hp.set_get
  copy_copy _ _ _ := hp.set_set _ _ _
  frugal {depth key v input v' rest} hkey hr := by
    obtain rfl : key.number = number := List.mem_singleton.1 hkey
    simp only [Field.repeated, run_bind_eq_ok_iff] at hr ⊢
    obtain ⟨x, bytes, hx, hr⟩ := hr
    cases hr
    have hle := hk.fieldSize_add_length_le hx
    rw [hp.get_set, total_append, total_singleton]
    omega

end Scalar

/-! ### Messages -/

section Message

variable {nested : Schema τ} {height depth : Nat} {key : Key} {m m' : τ}

theorem Schema.Lawful.length_writeMessage (h : nested.Lawful height) (number : Nat) (m : τ) :
    (Field.writeMessage nested number m).length = Field.messageSize nested number m := by
  rw [Field.writeMessage, List.length_append, Key.length_write, length_delimit, h.length_write,
    Field.messageSize, Nat.add_assoc]

theorem Schema.Lawful.run_readMessage (h : nested.Lawful height) (hd : height < depth)
    (hm : nested.size m < UInt64.size) (rest : Bytes) :
    (Field.readMessage nested depth ⟨number, .lengthDelimited⟩ nested.initial).run
      (delimit (nested.write m) ++ rest) = .ok (m, rest) := by
  obtain ⟨depth, rfl⟩ := Nat.exists_eq_add_one.2 (Nat.zero_lt_of_lt hd)
  have hnested := run_readNested (h.merges (Nat.le_of_lt_succ hd) hm)
    (by rwa [h.length_write]) rest
  simp only [Field.readMessage, Reader.run_bind, run_expect, Schema.merge, hnested]

/-- What is read into a message is announced by a length that is not below what it adds. -/
theorem Schema.Lawful.exists_of_readMessage (h : nested.Lawful height)
    (hr : (Field.readMessage nested depth key m).run input = .ok (m', rest)) :
    ∃ n, key = ⟨key.number, .lengthDelimited⟩ ∧ nested.size m' ≤ nested.size m + n ∧
      Varint.size n + n + rest.length ≤ input.length := by
  simp only [Field.readMessage, run_bind_eq_ok_iff] at hr
  obtain ⟨u, bytes, hu, hr⟩ := hr
  obtain ⟨hw, rfl⟩ := eq_of_run_expect hu
  cases depth with
  | zero => cases hr
  | succ depth =>
    obtain ⟨n, hsize, hlength⟩ := (h.frugal depth).readNested hr
    exact ⟨n, by rw [← hw], hsize, hlength⟩

/-- A message that is read into the initial one is not written at greater length. -/
theorem Schema.Lawful.messageSize_of_initial (h : nested.Lawful height)
    (hr : (Field.readMessage nested depth key nested.initial).run input = .ok (m', rest)) :
    Field.messageSize nested key.number m' + rest.length ≤ key.size + input.length := by
  obtain ⟨n, hkey, hsize, hlength⟩ := h.exists_of_readMessage hr
  rw [h.size_initial, Nat.zero_add] at hsize
  have hvarint := Varint.size_mono hsize
  rw [hkey]
  simp only [Field.messageSize]
  omega

theorem Schema.Lawful.messageSize_of_read (h : nested.Lawful height)
    (hr : (Field.readMessage nested depth key m).run input = .ok (m', rest)) :
    Field.messageSize nested key.number m' + rest.length ≤
      Field.messageSize nested key.number m + key.size + input.length := by
  obtain ⟨n, hkey, hsize, hlength⟩ := h.exists_of_readMessage hr
  have hvarint : Varint.size (nested.size m') ≤ Varint.size (nested.size m) + Varint.size n :=
    Nat.le_trans (Varint.size_mono hsize) (Varint.size_add_le _ n)
  rw [hkey]
  simp only [Field.messageSize]
  omega

theorem merges_writeMessage {field : Key → σ → Reader σ} {v v' : σ}
    (hn : Key.IsSound ⟨number, .lengthDelimited⟩)
    (hf : ∀ rest, (field ⟨number, .lengthDelimited⟩ v).run (delimit (nested.write m) ++ rest) =
      .ok (v', rest)) :
    Merges field (Field.writeMessage nested number m) v v' :=
  merges_field hn hf

theorem sound_message {p : Part σ (Option τ)} (hs : nested.Lawful height) (hp : p.Lawful)
    (hn : Key.IsSound ⟨number, .lengthDelimited⟩) (hi : p.get initial = none) :
    (Field.message name number nested p).Sound initial p.copy (height + 1) where
  size_initial := by simp only [Field.message, hi]
  length_write v := by
    simp only [Field.message]
    cases p.get v with
    | none => rfl
    | some m => exact hs.length_writeMessage number m
  merges {depth field v w} hd hsize hw hf := by
    have hnone : p.get w = none := by
      rw [← hw]
      simp only [Part.copy, hp.get_set, hi]
    unfold Part.copy at hw ⊢
    rw [hi] at hw
    simp only [Field.message] at hsize ⊢
    cases hv : p.get v with
    | none =>
      rw [hw]
      exact .nil field w
    | some m =>
      have hm : nested.size m < UInt64.size := by
        simp only [hv, Field.messageSize] at hsize
        omega
      refine merges_writeMessage hn fun rest => hf _ _ _ _ (List.mem_singleton.2 rfl) ?_
      simp only [Field.message, Reader.run_bind, hnone, Option.getD_none,
        hs.run_readMessage hd hm rest, Reader.run_pure]
  copies {depth key v input v' rest} _ hr := by
    simp only [Field.message, run_bind_eq_ok_iff] at hr
    obtain ⟨m, bytes, -, hr⟩ := hr
    cases hr
    simp only [Part.copy, hp.get_set]
  copy_self := hp.set_get
  copy_copy _ _ _ := hp.set_set _ _ _
  frugal {depth key v input v' rest} hkey hr := by
    obtain rfl : key.number = number := List.mem_singleton.1 hkey
    simp only [Field.message, run_bind_eq_ok_iff] at hr ⊢
    obtain ⟨m, bytes, hm, hr⟩ := hr
    cases hr
    simp only [hp.get_set]
    cases hv : p.get v with
    | none =>
      rw [hv, Option.getD_none] at hm
      have hle := hs.messageSize_of_initial hm
      simp only
      omega
    | some m₀ =>
      rw [hv, Option.getD_some] at hm
      exact hs.messageSize_of_read hm

theorem sound_messages {p : Part σ (List τ)} (hs : nested.Lawful height) (hp : p.Lawful)
    (hn : Key.IsSound ⟨number, .lengthDelimited⟩) (hi : p.get initial = []) :
    (Field.messages name number nested p).Sound initial p.copy (height + 1) where
  size_initial := by
    simp only [Field.messages, hi]
    rfl
  length_write v := length_flatMap fun m _ => hs.length_writeMessage number m
  merges {depth field v w} hd hsize hw hf := by
    have hstart : p.set [] w = w := by
      unfold Part.copy at hw
      rwa [hi] at hw
    have hstep : ∀ before, ∀ m ∈ p.get v,
        Merges field (Field.writeMessage nested number m) (p.set before w)
          (p.set (before ++ [m]) w) := by
      intro before m hm
      have hle : Field.messageSize nested number m ≤
        total (Field.messageSize nested number) (p.get v) := le_total hm
      refine merges_writeMessage hn fun rest => hf _ _ _ _ (List.mem_singleton.2 rfl) ?_
      have hsmall : nested.size m < UInt64.size := by
        simp only [Field.messages] at hsize
        unfold Field.messageSize at hle hsize
        omega
      simp only [Field.messages, Reader.run_bind, hs.run_readMessage hd hsmall rest,
        Reader.run_pure, hp.get_set, hp.set_set]
    have hall := merges_flatMap hstep []
    rwa [hstart, List.nil_append] at hall
  copies {depth key v input v' rest} _ hr := by
    simp only [Field.messages, run_bind_eq_ok_iff] at hr
    obtain ⟨m, bytes, -, hr⟩ := hr
    cases hr
    simp only [Part.copy, hp.get_set]
  copy_self := hp.set_get
  copy_copy _ _ _ := hp.set_set _ _ _
  frugal {depth key v input v' rest} hkey hr := by
    obtain rfl : key.number = number := List.mem_singleton.1 hkey
    simp only [Field.messages, run_bind_eq_ok_iff] at hr ⊢
    obtain ⟨m, bytes, hm, hr⟩ := hr
    cases hr
    have hle := hs.messageSize_of_initial hm
    rw [hp.get_set, total_append, total_singleton]
    omega

end Message

/-! ### Choices -/

section Choice

variable {ω : Type}

/-- Whether the alternatives of a choice are read as what is written for them. -/
structure Choice.Lawful (alternatives : List (Field.Alternative ω)) (size : ω → Nat)
    (write : ω → Bytes) : Prop where
  length_write : ∀ c, (write c).length = size c
  read : ∀ c, size c < UInt64.size → ∃ key a bytes, key.IsSound ∧
    alternatives.find? (·.number = key.number) = some a ∧ write c = key.write ++ bytes ∧
      ∀ rest, (a.read key).run (bytes ++ rest) = .ok (c, rest)
  frugal : ∀ a ∈ alternatives, ∀ {key input c rest}, key.number = a.number →
    (a.read key).run input = .ok (c, rest) → size c + rest.length ≤ key.size + input.length

theorem run_alternative_eq_ok_iff {kind : Scalar α} {embed : α → ω} {key : Key} {c : ω} :
    ((Field.Alternative.of number kind embed).read key).run input = .ok (c, rest) ↔
      ∃ x, (kind.readField key).run input = .ok (x, rest) ∧ c = embed x := by
  simp only [Field.Alternative.of, run_bind_eq_ok_iff]
  constructor
  · rintro ⟨x, bytes, hx, hr⟩
    cases hr
    exact ⟨x, hx, rfl⟩
  · rintro ⟨x, hx, rfl⟩
    exact ⟨x, rest, hx, rfl⟩

/-- A payload that is written is read back by the alternative that its number finds. -/
theorem Scalar.Lawful.exists_alternative {kind : Scalar α} {embed : α → ω} {x : α}
    {alternatives : List (Field.Alternative ω)} (hk : kind.Lawful)
    (hn : Key.IsSound ⟨number, kind.wireType⟩)
    (ha : alternatives.find? (·.number = number) = some (.of number kind embed))
    (hx : kind.fieldSize number x < UInt64.size) :
    ∃ key a bytes, key.IsSound ∧ alternatives.find? (·.number = key.number) = some a ∧
      kind.writeField number x = key.write ++ bytes ∧
        ∀ rest, (a.read key).run (bytes ++ rest) = .ok (embed x, rest) := by
  refine ⟨_, _, _, hn, ha, rfl, fun rest => run_alternative_eq_ok_iff.2 ⟨x, ?_, rfl⟩⟩
  refine hk.run_readField number ?_ rest
  unfold Scalar.fieldSize at hx
  omega

theorem Scalar.Lawful.exists_of_alternative {kind : Scalar α} {embed : α → ω} {key : Key} {c : ω}
    (hk : kind.Lawful) (hkey : key.number = number)
    (hr : ((Field.Alternative.of number kind embed).read key).run input = .ok (c, rest)) :
    ∃ x, c = embed x ∧ kind.fieldSize number x + rest.length ≤ key.size + input.length := by
  obtain ⟨x, hx, hc⟩ := run_alternative_eq_ok_iff.1 hr
  exact ⟨x, hc, hkey ▸ hk.fieldSize_add_length_le hx⟩

theorem sound_choice {alternatives : List (Field.Alternative ω)} {size : ω → Nat}
    {write : ω → Bytes} {p : Part σ (Option ω)} (hc : Choice.Lawful alternatives size write)
    (hp : p.Lawful) (hi : p.get initial = none) :
    (Field.choice name alternatives size write p).Sound initial p.copy 0 where
  size_initial := by simp only [Field.choice, hi]
  length_write v := by
    simp only [Field.choice]
    cases p.get v with
    | none => rfl
    | some c => exact hc.length_write c
  merges {depth field v w} _ hsize hw hf := by
    unfold Part.copy at hw ⊢
    rw [hi] at hw
    simp only [Field.choice] at hsize ⊢
    cases hv : p.get v with
    | none =>
      rw [hw]
      exact .nil field w
    | some c =>
      obtain ⟨key, a, bytes, hkey, ha, hwrite, hread⟩ := hc.read c (by simpa only [hv] using hsize)
      have hmem : key.number ∈ alternatives.map (·.number) := by
        have hnumber : a.number = key.number := by simpa using List.find?_some ha
        exact hnumber ▸ List.mem_map_of_mem (List.mem_of_find?_eq_some ha)
      simp only [hwrite]
      refine merges_field hkey fun rest => hf _ _ _ _ hmem ?_
      simp only [Field.choice, ha, Reader.run_bind, hread rest, Reader.run_pure]
  copies {depth key v input v' rest} hkey hr := by
    simp only [Field.choice] at hr
    split at hr
    next hnone =>
      obtain ⟨a, ha, hnumber⟩ := List.mem_map.1 hkey
      exact absurd hnumber (by simpa using List.find?_eq_none.1 hnone a ha)
    next a ha =>
      simp only [run_bind_eq_ok_iff] at hr
      obtain ⟨c, bytes, -, hr⟩ := hr
      cases hr
      simp only [Part.copy, hp.get_set]
  copy_self := hp.set_get
  copy_copy _ _ _ := hp.set_set _ _ _
  frugal {depth key v input v' rest} hkey hr := by
    simp only [Field.choice] at hr ⊢
    split at hr
    next hnone =>
      obtain ⟨a, ha, hnumber⟩ := List.mem_map.1 hkey
      exact absurd hnumber (by simpa using List.find?_eq_none.1 hnone a ha)
    next a ha =>
      simp only [run_bind_eq_ok_iff] at hr
      obtain ⟨c, bytes, hread, hr⟩ := hr
      cases hr
      have hnumber : a.number = key.number := by simpa using List.find?_some ha
      have hle := hc.frugal a (List.mem_of_find?_eq_some ha) hnumber.symm hread
      simp only [hp.get_set]
      omega

end Choice

end LeaderRouting.Wire
