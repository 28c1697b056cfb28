import LeaderRouting.Proofs.Wire.Entries

/-!
Message types from their fields.  A schema is read as it is written when each of its fields is, the
parts that they write are apart from each other, and no two of them share a number.
-/

namespace LeaderRouting.Wire

/-- How some of the fields of a message stand to it as a whole. -/
structure Field.AllSound {σ : Type} (fs : List (Field σ)) (initial : σ) (copy : σ → σ → σ)
    (height : Nat) : Prop where
  size_initial : total (·.size initial) fs = 0
  length_write : ∀ v, (fs.flatMap (·.write v)).length = total (·.size v) fs
  merges : ∀ {depth field v w}, height ≤ depth → total (·.size v) fs < UInt64.size →
    copy initial w = w → (∀ f ∈ fs, f.IsHandled depth field) →
    Merges field (fs.flatMap (·.write v)) w (copy v w)
  copies : ∀ {f}, f ∈ fs → ∀ {depth key v input v' rest}, key.number ∈ f.numbers →
    (f.read depth key v).run input = .ok (v', rest) → copy v' v = v'
  copy_self : ∀ v, copy v v = v
  frugal : ∀ {f}, f ∈ fs → ∀ {depth key v input v' rest}, key.number ∈ f.numbers →
    (f.read depth key v).run input = .ok (v', rest) →
      total (·.size v') fs + rest.length ≤ total (·.size v) fs + key.size + input.length

/-- Whether a field and some others write parts of the message that have nothing in common. -/
structure Field.Apart {σ : Type} (f : Field σ) (fs : List (Field σ)) (copy copies : σ → σ → σ) :
    Prop where
  comm : ∀ u v w, copies u (copy v w) = copy v (copies u w)
  size_first : ∀ v w, f.size (copies v w) = f.size w
  size_rest : ∀ v w, total (·.size (copy v w)) fs = total (·.size w) fs

theorem Field.Apart.of_eq {σ : Type} {f : Field σ} {fs : List (Field σ)} {copy copies : σ → σ → σ}
    (comm : (fun u v w => copies u (copy v w)) = fun u v w => copy v (copies u w))
    (size_first : (fun v w => f.size (copies v w)) = fun _ w => f.size w)
    (size_rest : (fun v w => total (·.size (copy v w)) fs) = fun _ w => total (·.size w) fs) :
    f.Apart fs copy copies where
  comm u v w := congrFun (congrFun (congrFun comm u) v) w
  size_first v w := congrFun (congrFun size_first v) w
  size_rest v w := congrFun (congrFun size_rest v) w

namespace Field.AllSound

variable {σ : Type} {f : Field σ} {fs : List (Field σ)} {initial : σ} {copy copies : σ → σ → σ}
  {height height' : Nat}

theorem nil : AllSound [] initial (fun _ w => w) height where
  size_initial := rfl
  length_write _ := rfl
  merges _ _ _ _ := .nil _ _
  copies hf := absurd hf (by simp)
  copy_self _ := rfl
  frugal hf := absurd hf (by simp)

theorem cons (hf : f.Sound initial copy height') (hfs : AllSound fs initial copies height)
    (ha : f.Apart fs copy copies) (hh : height' ≤ height) :
    AllSound (f :: fs) initial (fun v w => copies v (copy v w)) height where
  size_initial := by
    have hfirst := hf.size_initial
    have hrest := hfs.size_initial
    simp only [total, List.foldr_cons] at hrest ⊢
    omega
  length_write v := by
    rw [List.flatMap_cons, List.length_append, hf.length_write, hfs.length_write]
    rfl
  merges {depth field v w} hd hsize hw hhandled := by
    have hfirst : copy initial w = w := by
      rw [← hw, ha.comm, hf.copy_copy]
    have hrest : copies initial (copy v w) = copy v w := by
      rw [hfirst] at hw
      rw [ha.comm, hw]
    have hsum : total (·.size v) (f :: fs) = f.size v + total (·.size v) fs := rfl
    rw [List.flatMap_cons]
    exact (hf.merges (Nat.le_trans hh hd) (by omega) hfirst (hhandled f (by simp))).append
      (hfs.merges hd (by omega) hrest fun g hg => hhandled g (List.mem_cons_of_mem f hg))
  copies {g} hg {depth key v input v' rest} hkey hr := by
    rcases List.mem_cons.1 hg with rfl | hg
    · rw [hf.copies hkey hr, hfs.copy_self]
    · rw [ha.comm, hfs.copies hg hkey hr, hf.copy_self]
  copy_self v := by rw [hf.copy_self, hfs.copy_self]
  frugal {g} hg {depth key v input v' rest} hkey hr := by
    have hsum : ∀ u, total (·.size u) (f :: fs) = f.size u + total (·.size u) fs := fun _ => rfl
    rcases List.mem_cons.1 hg with rfl | hg
    · have hle := hf.frugal hkey hr
      have hrest : total (·.size v') fs = total (·.size v) fs := by
        rw [← hf.copies hkey hr, ha.size_rest]
      simp only [hsum]
      omega
    · have hle := hfs.frugal hg hkey hr
      have hfirst : f.size v' = f.size v := by
        rw [← hfs.copies hg hkey hr, ha.size_first]
      simp only [hsum]
      omega

end Field.AllSound

section Find

variable {σ : Type} {fs : List (Field σ)} {f : Field σ} {n : Nat}

/-- Where no two fields share a number, the number of a field finds it. -/
theorem find?_of_mem_numbers (hd : (fs.flatMap (·.numbers)).Nodup) (hf : f ∈ fs)
    (hn : n ∈ f.numbers) : fs.find? (·.numbers.contains n) = some f := by
  induction fs with
  | nil => simp at hf
  | cons g fs ih =>
    rw [List.flatMap_cons, List.nodup_append] at hd
    obtain ⟨-, hrest, hapart⟩ := hd
    rcases List.mem_cons.1 hf with rfl | hf
    · exact List.find?_cons_of_pos (by simpa using hn)
    · have hother : n ∉ g.numbers := fun hg =>
        hapart n hg n (List.mem_flatMap.2 ⟨f, hf, hn⟩) rfl
      rw [List.find?_cons_of_neg (by simpa using hother), ih hrest hf]

end Find

namespace Schema

variable {σ : Type} {s : Schema σ} {copy : σ → σ → σ} {height : Nat} {v : σ} {input rest : Bytes}

/-- A field is read by the schema as it is read alone. -/
theorem isHandled_of_mem {f : Field σ} (hd : (s.fields.flatMap (·.numbers)).Nodup)
    (hf : f ∈ s.fields) (depth : Nat) : f.IsHandled depth (s.readField depth) := by
  intro key v input ⟨v', rest⟩ hkey hr
  simp only [Schema.readField, find?_of_mem_numbers hd hf hkey]
  exact run_within_eq_ok_iff.2 hr

theorem lawful_of_fields (hs : Field.AllSound s.fields s.initial copy height)
    (hd : (s.fields.flatMap (·.numbers)).Nodup) (hc : ∀ v, copy v s.initial = v) :
    s.Lawful height where
  size_initial := hs.size_initial
  length_write v := hs.length_write v
  merges {depth v} hdepth hsize := by
    have hall := hs.merges hdepth hsize (hc s.initial) fun f hf => isHandled_of_mem hd hf depth
    rwa [hc] at hall
  frugal depth := by
    intro key v input v' rest hr
    simp only [Schema.readField] at hr
    split at hr
    next f hfind =>
      have hkey : key.number ∈ f.numbers := by simpa using List.find?_some hfind
      exact hs.frugal (List.mem_of_find?_eq_some hfind) hkey (run_within_eq_ok_iff.1 hr)
    next =>
      simp only [run_bind_eq_ok_iff] at hr
      obtain ⟨u, bytes, hskip, hr⟩ := hr
      cases hr
      have hle := (skipField depth key).length_le hskip
      omega

theorem decode_of_merges (h : Merges (s.readField depthLimit) input s.initial v) :
    s.decode input = .ok v := by
  have hrun : mergeFields 0 (s.readField depthLimit) s.initial input = .ok (v, []) := by
    have hnil := h 0 [] (Nat.le_refl 0)
    rw [List.append_nil] at hnil
    rw [hnil]
    exact mergeFields_of_length_eq _ v []
  rw [Schema.decode, hrun]

/-- What is written is read back. -/
theorem Lawful.decode_write (h : s.Lawful height) (hh : height ≤ depthLimit)
    (hv : s.size v < UInt64.size) : s.decode (s.write v) = .ok v :=
  decode_of_merges (h.merges hh hv)

/-- What is read is not written at greater length than it was read at. -/
theorem Lawful.size_le_of_decode (h : s.Lawful height) (hv : s.decode input = .ok v) :
    s.size v ≤ input.length := by
  simp only [Schema.decode] at hv
  split at hv
  · cases hv
  next v' rest hrun =>
    cases hv
    obtain ⟨hsize, -⟩ := (h.frugal depthLimit).mergeFields hrun
    rw [h.size_initial] at hsize
    omega

end Schema

end LeaderRouting.Wire
