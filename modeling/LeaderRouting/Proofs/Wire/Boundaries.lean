import LeaderRouting.Proofs.Wire.Grammar
import LeaderRouting.Proofs.Wire.Schemas
import Mathlib.Logic.Relation

/-!
Boundaries between fields.  Where reading has come to a boundary, it has come there whatever follows,
and it goes on from what it has read.  So a field that a message type does not have can stand at any
boundary, and nothing is read otherwise for it.
-/

namespace LeaderRouting.Wire

variable {σ τ α : Type} {field : Key → σ → Reader σ} {v v' : σ} {input rest bytes bytes' : Bytes}
  {key : Key} {number stop : Nat}

/-- Whether reading one field after another comes from one value and input to another value and what
is left of the input. -/
inductive ComesTo (field : Key → σ → Reader σ) : σ → Bytes → σ → Bytes → Prop
  | here (v : σ) (input : Bytes) : ComesTo field v input v input
  | further {v v₁ v' : σ} {input bytes rest₁ rest : Bytes} {key : Key}
    (announced : Key.read.run input = .ok (key, bytes))
    (read : (field key v).run bytes = .ok (v₁, rest₁)) (comes : ComesTo field v₁ rest₁ v' rest) :
    ComesTo field v input v' rest

/-! ### Fields one after another -/

/-- One field behind any tag that announces it. -/
theorem merges_of_tag {tag payload : Bytes} (hk : Key.read.run tag = .ok (key, []))
    (hf : ∀ more, (field key v).run (payload ++ more) = .ok (v', more)) :
    Merges field (tag ++ payload) v v' := by
  intro stop more hstop
  have hkey := Key.local_read.append hk (payload ++ more)
  have hlt := Key.length_lt_of_read hkey
  rw [List.append_assoc]
  refine mergeFields_of_field ?_ hkey (hf more)
  rw [List.length_append] at hlt
  omega

theorem comesTo_of_mergeFields (h : mergeFields stop field v input = .ok (v', rest)) :
    rest.length = stop ∧ ComesTo field v input v' rest := by
  fun_induction mergeFields stop field v input with
  | case1 v input _ hlength =>
    cases h
    exact ⟨hlength, .here _ _⟩
  | case2 => cases h
  | case3 => cases h
  | case4 => cases h
  | case5 v input _ key bytes hk v₁ rest₁ hf _ _ ih =>
    obtain ⟨hlength, hcomes⟩ := ih h
    exact ⟨hlength, .further hk hf hcomes⟩

/-- Where reading comes to does not depend on what follows there. -/
theorem ComesTo.exists_taken (h : ComesTo field v input v' rest)
    (hlocal : ∀ key v, (field key v).Local) : ∃ taken, input = taken ++ rest ∧
      Merges field taken v v' ∧ ∀ more, ComesTo field v (taken ++ more) v' more := by
  induction h with
  | here v input => exact ⟨[], rfl, .nil field v, fun more => .here v more⟩
  | @further v v₁ v' input bytes rest₁ rest key hk hf _ ih =>
    obtain ⟨taken, rfl, hmerges, hcomes⟩ := ih
    obtain ⟨tag, rfl, htag⟩ := Key.local_read.exact hk
    obtain ⟨payload, rfl, hread⟩ := (hlocal key v).exact hf
    have hfield := (hlocal key v).append hread
    refine ⟨tag ++ payload ++ taken, by simp only [List.append_assoc],
      (merges_of_tag htag hfield).append hmerges, fun more => ?_⟩
    rw [List.append_assoc, List.append_assoc]
    exact .further (Key.local_read.append htag _) (hfield _) (hcomes more)

/-! ### Readers of fields -/

theorem local_within {r : Reader α} {l : Location} (h : r.Local) : (r.within l).Local where
  exists_taken hr := by
    obtain ⟨taken, hinput, htaken⟩ := h.exists_taken (run_within_eq_ok_iff.1 hr)
    exact ⟨taken, hinput, fun more => run_within_eq_ok_iff.2 (htaken more)⟩

/-- A nested message ends as many bytes before the end of the input as its length says, so it ends in
the same place if the input is longer. -/
theorem local_readNested (hlocal : ∀ key v, (field key v).Local) (v : σ) :
    (readNested field v).Local := by
  refine Varint.local_read.bind fun length => ⟨fun {input v' rest} h => ?_⟩
  obtain ⟨left, input', hleft, h⟩ := run_bind_eq_ok_iff.1 h
  cases hleft
  split_ifs at h with hshort
  · cases h
  · obtain ⟨hstop, hcomes⟩ := comesTo_of_mergeFields h
    obtain ⟨taken, rfl, hmerges, -⟩ := hcomes.exists_taken hlocal
    have hlength : taken.length = length := by
      rw [List.length_append] at hshort hstop
      omega
    refine ⟨taken, rfl, fun more => run_bind_eq_ok_iff.2 ⟨_, _, Reader.run_remaining _, ?_⟩⟩
    have hleft : (taken ++ more).length - length = more.length := by
      rw [List.length_append, hlength, Nat.add_sub_cancel_left]
    rw [if_neg (by rw [List.length_append]; omega)]
    change mergeFields ((taken ++ more).length - length) field v (taken ++ more) = _
    rw [hleft, hmerges more.length more (Nat.le_refl _), mergeFields_of_length_eq]

namespace Scalar

@[simp] theorem local_read_bytes : Scalar.bytes.read.Local :=
  local_readDelimited

@[simp] theorem local_read_text : text.read.Local :=
  local_text

@[simp] theorem local_read_uint64 : uint64.read.Local :=
  Varint.local_read.bind fun _ => local_pure _

@[simp] theorem local_read_int64 : int64.read.Local :=
  Varint.local_read.bind fun _ => local_pure _

@[simp] theorem local_read_bool : bool.read.Local :=
  Varint.local_read.bind fun _ => local_pure _

theorem local_readField {kind : Scalar α} (h : kind.read.Local) (key : Key) :
    (kind.readField key).Local :=
  (local_expect _ _).bind fun _ => h

end Scalar

/-- Whether what is read into the field depends only on the bytes that it is read from. -/
def Field.IsLocal (f : Field σ) : Prop :=
  ∀ depth key v, (f.read depth key v).Local

def Schema.IsLocal (s : Schema σ) : Prop :=
  ∀ f ∈ s.fields, f.IsLocal

namespace Schema.IsLocal

variable {s : Schema σ}

theorem of_fields (h : s.fields.Forall Field.IsLocal) : s.IsLocal :=
  List.forall_iff_forall_mem.1 h

theorem local_readField (h : s.IsLocal) (depth : Nat) (key : Key) (v : σ) :
    (s.readField depth key v).Local := by
  unfold readField
  split
  next f hf => exact local_within (h f (List.mem_of_find?_eq_some hf) depth key v)
  · exact (local_skipField depth key).bind fun _ => local_pure v

theorem local_readMessage (h : s.IsLocal) (depth : Nat) (key : Key) (m : σ) :
    (Field.readMessage s depth key m).Local := by
  refine (local_expect _ _).bind fun _ => ?_
  cases depth with
  | zero => exact local_fail _
  | succ depth => exact local_readNested (h.local_readField depth) m

theorem local_readEntry (h : s.IsLocal) (depth : Nat) (key : Key) (e : String × σ) :
    (Field.readEntry s depth key e).Local := by
  unfold Field.readEntry
  split
  · exact (Scalar.local_readField Scalar.local_text key).bind fun _ => local_pure _
  · exact (h.local_readMessage depth key e.2).bind fun _ => local_pure _
  · exact (local_skipField depth key).bind fun _ => local_pure e

end Schema.IsLocal

namespace Field

variable {name : String} {nested : Schema τ}

@[simp] theorem isLocal_scalar [DecidableEq α] {kind : Scalar α} {p : Part σ α}
    (h : kind.read.Local) : (scalar name number kind p).IsLocal :=
  fun _ key _ => (Scalar.local_readField h key).bind fun _ => local_pure _

@[simp] theorem isLocal_repeated {kind : Scalar α} {p : Part σ (List α)} (h : kind.read.Local) :
    (repeated name number kind p).IsLocal :=
  fun _ key _ => (Scalar.local_readField h key).bind fun _ => local_pure _

@[simp] theorem isLocal_message {p : Part σ (Option τ)} (h : nested.IsLocal) :
    (message name number nested p).IsLocal :=
  fun depth key _ => (h.local_readMessage depth key _).bind fun _ => local_pure _

@[simp] theorem isLocal_messages {p : Part σ (List τ)} (h : nested.IsLocal) :
    (messages name number nested p).IsLocal :=
  fun depth key _ => (h.local_readMessage depth key _).bind fun _ => local_pure _

@[simp] theorem local_alternative {ω : Type} {kind : Scalar α} {embed : α → ω} (h : kind.read.Local)
    (key : Key) : ((Alternative.of number kind embed).read key).Local :=
  (Scalar.local_readField h key).bind fun _ => local_pure _

@[simp] theorem isLocal_choice {ω : Type} {as : List (Alternative ω)} {size : ω → Nat}
    {write : ω → Bytes} {p : Part σ (Option ω)} (h : ∀ a ∈ as, ∀ key, (a.read key).Local) :
    (choice name as size write p).IsLocal := by
  intro depth key v
  unfold choice
  dsimp only
  split
  · exact local_pure v
  next a ha => exact (h a (List.mem_of_find?_eq_some ha) key).bind fun _ => local_pure _

@[simp] theorem isLocal_entries [DecidableEq τ] {p : Part σ (TextMap τ)} (h : nested.IsLocal) :
    (entries name number nested p).IsLocal := by
  intro depth key v
  cases depth with
  | zero => exact local_fail _
  | succ depth => exact (local_readNested (h.local_readEntry depth) _).bind fun _ => local_pure _

end Field

/-! ### Boundaries -/

namespace Schema

variable {s : Schema σ}

/-- Whether the decoder of the input comes to stand before `rest`, between two fields. -/
def IsBoundary (s : Schema σ) (input rest : Bytes) : Prop :=
  ∃ v, ComesTo (s.readField depthLimit) s.initial input v rest

/-- Whether no field of the message type has the number. -/
def Lacks (s : Schema σ) (number : Nat) : Prop :=
  ∀ f ∈ s.fields, number ∉ f.numbers

/-- Whether the second bytes are the first with one more field, which the message type does not have,
behind bytes that can be decoded by themselves. -/
inductive Inserts (s : Schema σ) : Bytes → Bytes → Prop
  | field {a u b : Bytes} {v : σ} {number : Nat} (decodes : s.decode a = .ok v)
    (one : IsField number u) (lacks : s.Lacks number) : Inserts s (a ++ b) (a ++ u ++ b)

/-- Whether the second bytes are the first with any number of such fields. -/
def Extends (s : Schema σ) : Bytes → Bytes → Prop :=
  Relation.ReflTransGen s.Inserts

theorem comesTo_of_decode (h : s.decode input = .ok v) :
    ComesTo (s.readField depthLimit) s.initial input v [] := by
  unfold decode at h
  split at h
  · cases h
  next v' rest hm =>
    cases h
    obtain ⟨hlength, hcomes⟩ := comesTo_of_mergeFields hm
    obtain rfl := List.length_eq_zero_iff.1 hlength
    exact hcomes

/-- No bytes at all can be decoded, so a field can always stand in front. -/
theorem Extends.prepend {u : Bytes} (one : IsField number u) (lacks : s.Lacks number)
    (bytes : Bytes) : s.Extends bytes (u ++ bytes) :=
  .single (.field (decode_of_merges (.nil _ _)) one lacks)

theorem IsLocal.merges_of_decode (hs : s.IsLocal) (h : s.decode input = .ok v) :
    Merges (s.readField depthLimit) input s.initial v := by
  obtain ⟨taken, hinput, hmerges, -⟩ :=
    (comesTo_of_decode h).exists_taken (hs.local_readField depthLimit)
  rw [List.append_nil] at hinput
  exact hinput ▸ hmerges

/-- The boundaries of an input are the places before which it can be decoded by itself. -/
theorem IsLocal.isBoundary_iff (hs : s.IsLocal) {a b : Bytes} :
    s.IsBoundary (a ++ b) b ↔ ∃ v, s.decode a = .ok v := by
  constructor
  · rintro ⟨v, hcomes⟩
    obtain ⟨taken, htaken, hmerges, -⟩ := hcomes.exists_taken (hs.local_readField depthLimit)
    obtain rfl := List.append_cancel_right htaken
    exact ⟨v, decode_of_merges hmerges⟩
  · rintro ⟨v, h⟩
    obtain ⟨taken, htaken, -, hcomes⟩ :=
      (comesTo_of_decode h).exists_taken (hs.local_readField depthLimit)
    rw [List.append_nil] at htaken
    exact ⟨v, htaken ▸ hcomes b⟩

/-- A field that the message type does not have is passed over, and nothing is read from it. -/
theorem merges_of_lacks {u : Bytes} (hu : IsField number u) (hn : s.Lacks number) (v : σ) :
    Merges (s.readField depthLimit) u v v := by
  obtain ⟨wireType, tag, payload, htag, hpayload, rfl⟩ := hu
  refine merges_of_tag (Key.run_read_eq_ok_nil_iff.2 htag) fun more => ?_
  have hskip := (local_skipField depthLimit _).append (run_skipField_eq_ok_nil_iff.2 hpayload) more
  have hnone : s.fields.find? (·.numbers.contains number) = none := by
    simpa [List.find?_eq_none, Lacks] using hn
  simp only [readField, hnone]
  exact run_bind_eq_ok_iff.2 ⟨(), more, hskip, rfl⟩

theorem IsLocal.decode_of_inserts (hs : s.IsLocal) (h : s.Inserts bytes bytes') :
    s.decode bytes' = s.decode bytes := by
  cases h with
  | @field a u b v number decodes one lacks =>
    have ha := hs.merges_of_decode decodes
    have hu := merges_of_lacks one lacks v
    unfold decode
    rw [List.append_assoc, ha 0 (u ++ b) (Nat.zero_le _), hu 0 b (Nat.zero_le _),
      ha 0 b (Nat.zero_le _)]

theorem IsLocal.decode_of_extends (hs : s.IsLocal) (h : s.Extends bytes bytes') :
    s.decode bytes' = s.decode bytes := by
  induction h with
  | refl => rfl
  | tail _ hinserts ih => exact (hs.decode_of_inserts hinserts).trans ih

end Schema

end LeaderRouting.Wire
