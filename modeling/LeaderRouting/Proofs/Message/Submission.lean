import LeaderRouting.Transport
import LeaderRouting.Proofs.Message.RoundTrip
import LeaderRouting.Proofs.Wire.Locality

/-!
A request arrives as it was submitted, and its response brings the result that was sent, or no success
at all.
-/

namespace LeaderRouting

open Wire Message

variable {input rest : Bytes} {key : Key}

/-! ### Requests -/

namespace Request

/-- The bytes that a request is submitted as. -/
def encode (r : Request) : Bytes :=
  SubmitRequestMessage.schema.write r.toMessage

theorem decode_encode {r : Request} (h : r.encode.length < UInt64.size) :
    SubmitRequestMessage.schema.decode r.encode = .ok r.toMessage :=
  SubmitRequestMessage.lawful.decode_write (by decide)
    (SubmitRequestMessage.lawful.length_write r.toMessage ▸ h)

theorem values_toMessage (r : Request) :
    r.toMessage.arguments.map (·.value) = r.arguments.map some := by
  simp [toMessage]

theorem toMessage_injective : Function.Injective toMessage := by
  intro r r' h
  have hvalues : r.arguments.map some = r'.arguments.map some := by
    rw [← r.values_toMessage, h, values_toMessage]
  have harguments : r.arguments = r'.arguments :=
    List.map_injective_iff.2 (fun _ _ h => Option.some.inj h) hvalues
  have hid : r.id.text = r'.id.text := congrArg SubmitRequestMessage.id h
  have hoperation : r.operation = r'.operation := congrArg SubmitRequestMessage.operation h
  obtain ⟨⟨id⟩, operation, arguments⟩ := r
  obtain ⟨⟨id'⟩, operation', arguments'⟩ := r'
  simp_all

theorem eq_of_encode_eq {r r' : Request} (h : r.encode.length < UInt64.size)
    (he : r.encode = r'.encode) : r = r' := by
  have hdecode := decode_encode h
  rw [he, decode_encode (he ▸ h)] at hdecode
  exact (toMessage_injective (Except.ok.inj hdecode)).symm

end Request

/-! ### Results -/

namespace Response

/-- The bytes of a response to request `id` with `result`. -/
def encode (id : String) (result : Bytes) : Bytes :=
  SubmitResponseMessage.schema.write ⟨id, some (.ok result)⟩

theorem length_lt_encode (id : String) (result : Bytes) : result.length < (encode id result).length := by
  have hsize : (encode id result).length
      = SubmitResponseMessage.schema.size ⟨id, some (.ok result)⟩ :=
    SubmitResponseMessage.lawful.length_write _
  have hresult : Scalar.bytes.fieldSize 2 result
      ≤ SubmitResponseMessage.schema.size ⟨id, some (.ok result)⟩ := by
    simp [Schema.size, SubmitResponseMessage.schema, total, Field.choice]
  rw [Scalar.fieldSize] at hresult
  have hvarint : 0 < Varint.size result.length := Nat.succ_pos _
  simp only [Scalar.bytes] at hresult
  omega

theorem decode_encode {id : String} {result : Bytes} (h : (encode id result).length < UInt64.size) :
    SubmitResponseMessage.schema.decode (encode id result) = .ok ⟨id, some (.ok result)⟩ :=
  SubmitResponseMessage.lawful.decode_write (by decide)
    (SubmitResponseMessage.lawful.length_write _ ▸ h)

end Response

/-! ### What comes on the wire -/

/-- Whether a field of a response is a result or an error. -/
def IsAlternative (f : Key × Bytes) : Bool :=
  f.1.number = 2 ∨ f.1.number = 3

/-- The results and errors among the fields of a response. -/
def alternatives (fields : List (Key × Bytes)) : List (Key × Bytes) :=
  fields.filter IsAlternative

/-- What the payload of a result or an error holds. -/
inductive Outcome.IsBroughtBy : Outcome → Key × Bytes → Prop
  | ok {result payload : Bytes} : readDelimited.run payload = .ok (result, []) →
    IsBroughtBy (.ok result) (⟨2, .lengthDelimited⟩, payload)
  | error {message : String} {payload : Bytes} : Scalar.text.read.run payload = .ok (message, []) →
    IsBroughtBy (.error message) (⟨3, .lengthDelimited⟩, payload)

theorem Outcome.IsBroughtBy.isAlternative {o : Outcome} {f : Key × Bytes} (h : o.IsBroughtBy f) :
    IsAlternative f = true := by
  cases h <;> rfl

theorem Outcome.IsBroughtBy.number_eq_two_iff {o : Outcome} {f : Key × Bytes} (h : o.IsBroughtBy f) :
    f.1.number = 2 ↔ ∃ result, o = .ok result := by
  cases h <;> simp

theorem run_skipField_of_readDelimited {payload : Bytes} {number depth : Nat}
    (h : readDelimited.run input = .ok (payload, rest)) :
    (skipField (depth + 1) ⟨number, .lengthDelimited⟩).run input = .ok ((), rest) := by
  obtain ⟨n, middle, hn, htake⟩ := run_bind_eq_ok_iff.1 h
  exact run_bind_eq_ok_iff.2 ⟨n, middle, hn, run_bind_eq_ok_iff.2 ⟨payload, rest, htake, rfl⟩⟩

theorem exists_readDelimited_of_text {t : String} (h : Scalar.text.read.run input = .ok (t, rest)) :
    ∃ payload, readDelimited.run input = .ok (payload, rest) := by
  obtain ⟨payload, middle, hpayload, ht⟩ := run_bind_eq_ok_iff.1 h
  split at ht
  · cases ht
  · cases ht
    exact ⟨payload, hpayload⟩

/-- A delimited field is passed over as it is read, and its payload can be read alone. -/
theorem exists_delimited {α : Type} {kind : Scalar α} {x : α} (hw : kind.wireType = .lengthDelimited)
    (hlocal : kind.read.Local)
    (hd : ∀ {input rest x}, kind.read.run input = .ok (x, rest) →
      ∃ payload, readDelimited.run input = .ok (payload, rest))
    (h : (kind.readField key).run input = .ok (x, rest)) :
    key = ⟨key.number, .lengthDelimited⟩ ∧ ∃ payload, input = payload ++ rest ∧
      (skipField Schema.depthLimit key).run payload = .ok ((), []) ∧
      kind.read.run payload = .ok (x, []) := by
  obtain ⟨u, middle, hu, hx⟩ := run_bind_eq_ok_iff.1 h
  obtain ⟨hkey, rfl⟩ := eq_of_run_expect hu
  rw [hw] at hkey
  obtain ⟨payload, rfl, hread⟩ := hlocal.exact hx
  obtain ⟨_, hdelimited⟩ := hd hread
  have hkey' : key = ⟨key.number, .lengthDelimited⟩ := by rw [← hkey]
  refine ⟨hkey', payload, rfl, ?_, hread⟩
  rw [hkey']
  exact run_skipField_of_readDelimited hdelimited

theorem exists_of_choice {σ ω : Type} {name : String} {as : List (Field.Alternative ω)}
    {size : ω → Nat} {write : ω → Bytes} {p : Part σ (Option ω)} {depth : Nat} {v v' : σ}
    (hn : key.number ∈ as.map (·.number))
    (h : ((Field.choice name as size write p).read depth key v).run input = .ok (v', rest)) :
    ∃ a ∈ as, ∃ c, a.number = key.number ∧ (a.read key).run input = .ok (c, rest) ∧
      v' = p.set (some c) v := by
  simp only [Field.choice] at h
  split at h
  next hnone =>
    obtain ⟨a, ha, hkey⟩ := List.mem_map.1 hn
    simp_all
  next a ha =>
    obtain ⟨c, middle, hc, hset⟩ := run_bind_eq_ok_iff.1 h
    cases hset
    exact ⟨a, List.mem_of_find?_eq_some ha, c, by simpa using List.find?_some ha, hc, rfl⟩

namespace SubmitResponse

variable {v v' m : SubmitResponseMessage} {fields : List (Key × Bytes)}

/-- One field: whatever it is, it is passed over as it is read, and only results and errors are kept. -/
theorem readField_cases
    (h : (SubmitResponseMessage.schema.readField Schema.depthLimit key v).run input = .ok (v', rest)) :
    ∃ payload, input = payload ++ rest ∧
      (skipField Schema.depthLimit key).run payload = .ok ((), []) ∧
      ((IsAlternative (key, payload) = false ∧ v'.result = v.result) ∨
        ∃ o, v'.result = some o ∧ o.IsBroughtBy (key, payload)) := by
  simp only [Schema.readField, SubmitResponseMessage.schema] at h
  split at h
  next f hf =>
    have hmem := List.mem_of_find?_eq_some hf
    have hnumber := List.find?_some hf
    rw [run_within_eq_ok_iff] at h
    simp only [List.mem_cons, List.not_mem_nil, or_false] at hmem
    obtain rfl | rfl := hmem
    · obtain ⟨t, middle, ht, hset⟩ := run_bind_eq_ok_iff.1 h
      cases hset
      obtain ⟨-, payload, hinput, hskip, -⟩ :=
        exists_delimited rfl Scalar.local_text exists_readDelimited_of_text ht
      refine ⟨payload, hinput, hskip, .inl ⟨?_, rfl⟩⟩
      have hone : key.number = 1 := by simpa [Field.scalar] using hnumber
      simp [IsAlternative, hone]
    · obtain ⟨a, ha, o, hkey, ho, rfl⟩ := exists_of_choice (List.contains_iff_mem.1 hnumber) h
      simp only [List.mem_cons, List.not_mem_nil, or_false] at ha
      obtain rfl | rfl := ha
      · obtain ⟨result, hresult, rfl⟩ := run_alternative_eq_ok_iff.1 ho
        obtain ⟨hkey', payload, hinput, hskip, hread⟩ :=
          exists_delimited rfl local_readDelimited (fun h => ⟨_, h⟩) hresult
        refine ⟨payload, hinput, hskip, .inr ⟨_, rfl, ?_⟩⟩
        rw [hkey', ← hkey]
        exact .ok hread
      · obtain ⟨message, hmessage, rfl⟩ := run_alternative_eq_ok_iff.1 ho
        obtain ⟨hkey', payload, hinput, hskip, hread⟩ :=
          exists_delimited rfl Scalar.local_text exists_readDelimited_of_text hmessage
        refine ⟨payload, hinput, hskip, .inr ⟨_, rfl, ?_⟩⟩
        rw [hkey', ← hkey]
        exact .error hread
  next hf =>
    obtain ⟨u, middle, hskip, hset⟩ := run_bind_eq_ok_iff.1 h
    cases hset
    obtain ⟨payload, hinput, htaken⟩ := (local_skipField _ _).exact hskip
    refine ⟨payload, hinput, htaken, .inl ⟨?_, rfl⟩⟩
    simp [Field.scalar, Field.choice, Field.Alternative.of] at hf
    simp [IsAlternative, hf]

/-- Fields one after another: the last result or error is the one that stays. -/
theorem exists_contents
    (h : mergeFields 0 (SubmitResponseMessage.schema.readField Schema.depthLimit) v input =
      .ok (m, rest)) :
    ∃ fields, Contents input fields ∧
      ((alternatives fields = [] ∧ m.result = v.result) ∨
        ∃ f o, (alternatives fields).getLast? = some f ∧ m.result = some o ∧ o.IsBroughtBy f) := by
  fun_induction mergeFields 0 (SubmitResponseMessage.schema.readField Schema.depthLimit) v input with
  | case1 v input _ hlength =>
    cases h
    obtain rfl := List.length_eq_zero_iff.1 hlength
    exact ⟨[], .nil, .inl ⟨rfl, rfl⟩⟩
  | case2 => cases h
  | case3 => cases h
  | case4 => cases h
  | case5 v input _ key bytes hk v' rest' hf _ _ ih =>
    obtain ⟨fields, hfields, hlast⟩ := ih h
    obtain ⟨tag, rfl, htag⟩ := Key.local_read.exact hk
    obtain ⟨payload, rfl, hskip, hresult⟩ := readField_cases hf
    refine ⟨(key, payload) :: fields, .cons htag hskip hfields, ?_⟩
    rcases hlast with ⟨hnone, hkept⟩ | ⟨f, o, hf, hm, ho⟩
    · rcases hresult with ⟨hother, hsame⟩ | ⟨o, hset, ho⟩
      · refine .inl ⟨?_, hkept.trans hsame⟩
        simpa [alternatives, hother] using hnone
      · refine .inr ⟨(key, payload), o, ?_, hkept.trans hset, ho⟩
        unfold alternatives at hnone ⊢
        rw [List.filter_cons_of_pos ho.isAlternative, hnone]
        rfl
    · refine .inr ⟨f, o, ?_, hm, ho⟩
      unfold alternatives at hf ⊢
      rw [List.filter_cons]
      split
      · rw [List.getLast?_cons, hf]
        rfl
      · exact hf

theorem exists_contents_of_decode (h : SubmitResponseMessage.schema.decode input = .ok m) :
    ∃ fields, Contents input fields ∧
      ((alternatives fields = [] ∧ m.result = none) ∨
        ∃ f o, (alternatives fields).getLast? = some f ∧ m.result = some o ∧ o.IsBroughtBy f) := by
  simp only [Schema.decode] at h
  split at h
  · cases h
  next hrun =>
    cases h
    exact exists_contents hrun

end SubmitResponse

theorem Response.ofMessage_eq_ok_iff {m : SubmitResponseMessage} {response : Response} :
    Response.ofMessage m = .ok response ↔
      response.id = ⟨m.id⟩ ∧ m.result = some (.ok response.result) := by
  obtain ⟨id, result⟩ := response
  unfold Response.ofMessage
  split <;> simp_all [eq_comm]

theorem Response.exists_ofMessage_iff {m : SubmitResponseMessage} :
    (∃ response, Response.ofMessage m = .ok response) ↔ ∃ result, m.result = some (.ok result) := by
  simp only [Response.ofMessage_eq_ok_iff]
  exact ⟨fun ⟨response, _, h⟩ => ⟨response.result, h⟩, fun ⟨result, h⟩ => ⟨⟨⟨m.id⟩, result⟩, rfl, h⟩⟩

/-- Whether submits get through, in both directions. -/
structure CarriesSubmits : Prop where
  /-- A request is read with its id, its operation and its arguments; a request is never as long as
  the bound. -/
  heard : ∀ r : Request, r.encode.length < UInt64.size →
    ∃ m, SubmitRequestMessage.schema.decode r.encode = .ok m ∧ m.id = r.id.text ∧
      m.operation = r.operation ∧ m.arguments.map (·.value) = r.arguments.map some
  told_apart : ∀ {r r' : Request}, r.encode.length < UInt64.size → r.encode = r'.encode → r = r'
  /-- Whoever knows the kind of message that the result is reads it from the response. -/
  answered : ∀ (kind : MessageKind) {value : kind.Value} {result : Bytes} (id : String),
    kind.IsEncoding value result → (Response.encode id result).length < UInt64.size →
      ∃ m response, SubmitResponseMessage.schema.decode (Response.encode id result) = .ok m ∧
        Response.ofMessage m = .ok response ∧ response.id = ⟨id⟩ ∧
          kind.schema.decode response.result = .ok value
  /-- Whatever bytes are read as a response are fields in just one way, and it is a success exactly if
  the last result or error among them is a result.  Then it brings this result. -/
  settled : ∀ {input m}, SubmitResponseMessage.schema.decode input = .ok m →
    ∃ fields, Contents input fields ∧ (∀ fields', Contents input fields' → fields' = fields) ∧
      ((∃ response, Response.ofMessage m = .ok response) ↔
        ∃ f, (alternatives fields).getLast? = some f ∧ f.1.number = 2) ∧
      ∀ response, Response.ofMessage m = .ok response → response.id = ⟨m.id⟩ ∧
        ∃ f, (alternatives fields).getLast? = some f ∧ Outcome.IsBroughtBy (.ok response.result) f

theorem carriesSubmits : CarriesSubmits where
  heard r h := ⟨r.toMessage, Request.decode_encode h, rfl, rfl, r.values_toMessage⟩
  told_apart h he := Request.eq_of_encode_eq h he
  answered kind value result id hv h := by
    have hresult : result.length < UInt64.size := Nat.lt_trans (Response.length_lt_encode id result) h
    exact ⟨_, ⟨⟨id⟩, result⟩, Response.decode_encode h, rfl, rfl, hv.decode_eq (hv.length_eq ▸ hresult)⟩
  settled {input m} h := by
    obtain ⟨fields, hfields, hlast⟩ := SubmitResponse.exists_contents_of_decode h
    refine ⟨fields, hfields, fun fields' h' => h'.unique hfields, ?_, fun response hr => ?_⟩
    · rw [Response.exists_ofMessage_iff]
      rcases hlast with ⟨hnone, hm⟩ | ⟨f, o, hf, hm, ho⟩
      · simp [hnone, hm]
      · simp [hf, hm, ho.number_eq_two_iff]
    · obtain ⟨hid, hresult⟩ := Response.ofMessage_eq_ok_iff.1 hr
      rcases hlast with ⟨-, hm⟩ | ⟨f, o, hf, hm, ho⟩
      · simp [hm] at hresult
      · obtain rfl : o = .ok response.result := by simpa [hm] using hresult
        exact ⟨hid, f, hf, ho⟩

/-- A request with every kind of argument, initial values among them. -/
def variedRequest : Request :=
  ⟨⟨""⟩, "op", [.text "", .integer 0, .integer Int64.minValue, .blob [], .blob [7]]⟩

/-- A varied request, an empty result, and a response where an error stands before the result and a
field of a later version behind it. -/
theorem carriesSubmits_of_varied :
    (∃ m, SubmitRequestMessage.schema.decode variedRequest.encode = .ok m ∧ m.id = "" ∧
      m.operation = "op" ∧ m.arguments.map (·.value) = variedRequest.arguments.map some) ∧
    (∃ m response, SubmitResponseMessage.schema.decode (Response.encode "r" []) = .ok m ∧
      Response.ofMessage m = .ok response ∧ response.id = ⟨"r"⟩ ∧
        EmptyResult.schema.decode response.result = .ok {}) ∧
    ∃ fields, Contents [26, 1, 120, 18, 1, 7, 32, 5] fields ∧
      ∃ f, (alternatives fields).getLast? = some f ∧ f.1.number = 2 := by
  refine ⟨carriesSubmits.heard variedRequest (by decide +kernel),
    carriesSubmits.answered .emptyResult "r" rfl (by decide +kernel), ?_⟩
  have hread : SubmitResponseMessage.schema.decode [26, 1, 120, 18, 1, 7, 32, 5] =
      .ok ⟨"", some (.ok [7])⟩ := by decide +kernel
  obtain ⟨fields, hfields, -, hsuccess, -⟩ := carriesSubmits.settled hread
  exact ⟨fields, hfields, hsuccess.1 ⟨_, rfl⟩⟩

end LeaderRouting
