import LeaderRouting.Proofs.Wire.Fields
import Mathlib.Data.List.Perm.Basic

/-! Maps on the wire: their entries may come in any order. -/

namespace LeaderRouting

namespace TextMap

variable {β : Type} {key : String} {value : β} {l : List (String × β)} {m : TextMap β}

theorem eq_of_perm {m' : TextMap β} (h : m.entries.Perm m'.entries) : m = m' := by
  have he : m.entries = m'.entries :=
    h.eq_of_pairwise (fun a b _ _ hab hba => absurd (String.lt_trans hab hba) (String.lt_irrefl a.1))
      m.sorted m'.sorted
  cases m
  cases m'
  simpa using he

theorem insertEntry_perm (h : ∀ e ∈ l, e.1 ≠ key) :
    (insertEntry key value l).Perm ((key, value) :: l) := by
  fun_induction insertEntry key value l with
  | case1 => exact .refl _
  | case2 => exact .refl _
  | case3 e r _ heq => exact absurd heq.symm (h e (by simp))
  | case4 e r _ _ ih =>
    exact ((ih fun e' he' => h e' (List.mem_cons_of_mem e he')).cons e).trans (.swap _ _ _)

/-- Entries under keys that are new and not repeated are all kept. -/
theorem foldl_insert_perm (h : ((m.entries ++ l).map (·.1)).Nodup) :
    (l.foldl (fun m e => m.insert e.1 e.2) m).entries.Perm (m.entries ++ l) := by
  induction l generalizing m with
  | nil => rw [List.append_nil, List.foldl_nil]
  | cons e l ih =>
    have hnew : ∀ e' ∈ m.entries, e'.1 ≠ e.1 := by
      rw [List.map_append, List.nodup_append] at h
      exact fun e' he' => h.2.2 e'.1 (List.mem_map_of_mem he') e.1 (by simp)
    have hinsert : (m.insert e.1 e.2).entries.Perm (e :: m.entries) := insertEntry_perm hnew
    have hperm : ((m.insert e.1 e.2).entries ++ l).Perm (m.entries ++ e :: l) :=
      (hinsert.append_right l).trans List.perm_middle.symm
    rw [List.foldl_cons]
    exact (ih ((hperm.map (·.1)).nodup_iff.2 h)).trans hperm

/-- A map is made again of its entries, in whatever order they come. -/
theorem ofList_of_perm (h : l.Perm m.entries) : ofList l = m := by
  have hkeys : (l.map (·.1)).Nodup := by
    rw [(h.map (·.1)).nodup_iff, List.Nodup, List.pairwise_map]
    exact m.sorted.imp fun {a b} hlt => String.ne_of_lt hlt
  exact eq_of_perm ((foldl_insert_perm (m := empty) hkeys).trans h)

open Wire in
theorem total_insertEntry_le (f : String × β → Nat) (key : String) (value : β)
    (l : List (String × β)) : total f (insertEntry key value l) ≤ total f l + f (key, value) := by
  fun_induction insertEntry key value l with
  | case1 => simp [total]
  | case2 => simp [total]; omega
  | case3 => simp [total]; omega
  | case4 e r _ _ ih =>
    simp only [total, List.foldr_cons] at ih ⊢
    omega

end TextMap

namespace Wire

variable {σ τ : Type} [DecidableEq τ] {nested : Schema τ} {height depth number : Nat}
  {e : String × τ} {initial : σ} {name : String}

/-! ### Entries -/

/-- The bytes that an entry takes with its key and its length. -/
def Field.entryCost (nested : Schema τ) (number : Nat) (e : String × τ) : Nat :=
  Key.size ⟨number, .lengthDelimited⟩ + Varint.size (entrySize nested e) + entrySize nested e

theorem Schema.Lawful.length_entryBytes (h : nested.Lawful height) (e : String × τ) :
    (Field.entryBytes nested e).length = Field.entrySize nested e := by
  rw [Field.entryBytes, Field.entrySize, List.length_append]
  split_ifs <;> simp [Scalar.lawful_text.length_writeField, h.length_writeMessage]

theorem Schema.Lawful.length_writeEntries (h : nested.Lawful height) (number : Nat)
    (l : List (String × τ)) :
    (Field.writeEntries number nested l).length = total (Field.entryCost nested number) l := by
  refine length_flatMap fun e _ => ?_
  rw [List.length_append, Key.length_write, length_delimit, h.length_entryBytes, Field.entryCost,
    Nat.add_assoc]

theorem Schema.Lawful.merges_entryBytes (h : nested.Lawful height) (hd : height < depth)
    (he : Field.entrySize nested e < UInt64.size) :
    Merges (Field.readEntry nested depth) (Field.entryBytes nested e) ("", nested.initial) e := by
  obtain ⟨key, value⟩ := e
  have hkey : Merges (Field.readEntry nested depth)
      (if key = "" then [] else Scalar.text.writeField 1 key) ("", nested.initial)
      (key, nested.initial) := by
    split_ifs with hk
    · rw [hk]
      exact .nil _ _
    · have hsmall : Scalar.text.size key < UInt64.size := by
        simp only [Field.entrySize, if_neg hk, Scalar.fieldSize] at he
        omega
      refine merges_writeField ⟨by decide, by decide⟩ fun rest => ?_
      simp only [Field.readEntry, Reader.run_bind, Reader.run_pure,
        Scalar.lawful_text.run_readField 1 hsmall rest]
  have hvalue : Merges (Field.readEntry nested depth)
      (if value = nested.initial then [] else Field.writeMessage nested 2 value)
      (key, nested.initial) (key, value) := by
    split_ifs with hv
    · rw [hv]
      exact .nil _ _
    · have hsmall : nested.size value < UInt64.size := by
        simp only [Field.entrySize, if_neg hv, Field.messageSize] at he
        omega
      refine merges_writeMessage ⟨by decide, by decide⟩ fun rest => ?_
      simp only [Field.readEntry, Reader.run_bind, Reader.run_pure,
        h.run_readMessage hd hsmall rest]
  exact hkey.append hvalue

theorem Schema.Lawful.frugal_readEntry (h : nested.Lawful height) (depth : Nat) :
    Frugal (Field.entrySize nested) (Field.readEntry nested depth) := by
  rintro ⟨number, w⟩ e input e' rest hr
  unfold Field.readEntry at hr
  split at hr
  next hnumber =>
    obtain rfl : number = 1 := hnumber
    simp only [run_bind_eq_ok_iff] at hr
    obtain ⟨key, bytes, hread, hr⟩ := hr
    cases hr
    have hle : Scalar.text.fieldSize 1 key + rest.length ≤ Key.size ⟨1, w⟩ + input.length :=
      Scalar.lawful_text.fieldSize_add_length_le hread
    simp only [Field.entrySize]
    split_ifs <;> omega
  next hnumber =>
    obtain rfl : number = 2 := hnumber
    simp only [run_bind_eq_ok_iff] at hr
    obtain ⟨value, bytes, hread, hr⟩ := hr
    cases hr
    simp only [Field.entrySize]
    by_cases hv : e.2 = nested.initial
    · rw [hv] at hread
      have hle : Field.messageSize nested 2 value + rest.length ≤ Key.size ⟨2, w⟩ + input.length :=
        h.messageSize_of_initial hread
      rw [if_pos hv]
      split_ifs <;> omega
    · have hle : Field.messageSize nested 2 value + rest.length ≤
          Field.messageSize nested 2 e.2 + Key.size ⟨2, w⟩ + input.length :=
        h.messageSize_of_read hread
      rw [if_neg hv]
      split_ifs <;> omega
  · simp only [run_bind_eq_ok_iff] at hr
    obtain ⟨u, bytes, hskip, hr⟩ := hr
    cases hr
    have hle := (skipField depth _).length_le hskip
    omega

/-! ### Maps -/

section Map

variable {p : Part σ (TextMap τ)} {field : Key → σ → Reader σ} {l : List (String × τ)}

/-- Entries are put into the map one after another, in whatever order they come. -/
theorem Schema.Lawful.merges_writeEntries (h : nested.Lawful height) (hp : p.Lawful)
    (hn : Key.IsSound ⟨number, .lengthDelimited⟩) (hd : height + 2 ≤ depth)
    (hf : (Field.entries name number nested p).IsHandled depth field)
    (hl : total (Field.entryCost nested number) l < UInt64.size) (m : TextMap τ) (w : σ) :
    Merges field (Field.writeEntries number nested l) (p.set m w)
      (p.set (l.foldl (fun m e => m.insert e.1 e.2) m) w) := by
  induction l generalizing m with
  | nil => exact .nil field _
  | cons e l ih =>
    obtain ⟨depth, rfl⟩ : ∃ d, depth = d + 1 := Nat.exists_eq_add_one.2 (by omega)
    have hcost : total (Field.entryCost nested number) (e :: l) =
      Field.entryCost nested number e + total (Field.entryCost nested number) l := rfl
    have hentry : Field.entrySize nested e ≤ Field.entryCost nested number e := Nat.le_add_left _ _
    have hsmall : Field.entrySize nested e < UInt64.size := by omega
    have hfirst : Merges field (Key.write ⟨number, .lengthDelimited⟩ ++
        delimit (Field.entryBytes nested e)) (p.set m w) (p.set (m.insert e.1 e.2) w) := by
      refine merges_field hn fun rest => hf _ _ _ _ (List.mem_singleton.2 rfl) ?_
      have hmerges : Merges (Field.readEntry nested depth) (Field.entryBytes nested e)
          ("", nested.initial) e := h.merges_entryBytes (by omega) hsmall
      have hnested := run_readNested hmerges (by rwa [h.length_entryBytes]) rest
      simp only [Field.entries, Reader.run_bind, hnested, Reader.run_pure, hp.get_set, hp.set_set]
    exact hfirst.append (ih (by omega) (m.insert e.1 e.2))

theorem sound_entries (h : nested.Lawful height) (hp : p.Lawful)
    (hn : Key.IsSound ⟨number, .lengthDelimited⟩) (hi : p.get initial = .empty) :
    (Field.entries name number nested p).Sound initial p.copy (height + 2) where
  size_initial := by
    simp only [Field.entries, hi]
    rfl
  length_write v := h.length_writeEntries number _
  merges {depth field v w} hd hsize hw hf := by
    have hstart : p.set .empty w = w := by
      unfold Part.copy at hw
      rwa [hi] at hw
    have hall := h.merges_writeEntries hp hn hd hf hsize .empty w
    have hmap : TextMap.ofList (p.get v).entries = p.get v := TextMap.ofList_of_perm (.refl _)
    rw [hstart] at hall
    unfold TextMap.ofList at hmap
    rwa [hmap] at hall
  copies {depth key v input v' rest} _ hr := by
    cases depth with
    | zero => cases hr
    | succ depth =>
      simp only [Field.entries, run_bind_eq_ok_iff] at hr
      obtain ⟨e, bytes, -, hr⟩ := hr
      cases hr
      simp only [Part.copy, hp.get_set]
  copy_self := hp.set_get
  copy_copy _ _ _ := hp.set_set _ _ _
  frugal {depth key v input v' rest} hkey hr := by
    obtain rfl : key.number = number := List.mem_singleton.1 hkey
    cases depth with
    | zero => cases hr
    | succ depth =>
      simp only [Field.entries, run_bind_eq_ok_iff] at hr
      obtain ⟨e, bytes, he, hr⟩ := hr
      cases hr
      obtain ⟨n, hsize, hlength⟩ := (h.frugal_readEntry depth).readNested he
      have hempty : Field.entrySize nested ("", nested.initial) = 0 := by simp [Field.entrySize]
      have hvarint : Varint.size (Field.entrySize nested e) ≤ Varint.size n :=
        Varint.size_mono (by omega)
      have htotal := TextMap.total_insertEntry_le (Field.entryCost nested key.number) e.1 e.2
        (p.get v).entries
      have hkeysize : Key.size ⟨key.number, .lengthDelimited⟩ = key.size :=
        Key.size_mk hn.1 _ _
      have hgoal : total (Field.entryCost nested key.number) ((p.get v).insert e.1 e.2).entries +
          rest.length ≤ total (Field.entryCost nested key.number) (p.get v).entries + key.size +
            input.length := by
        have hcost : Field.entryCost nested key.number (e.1, e.2) = Key.size ⟨key.number, .lengthDelimited⟩ +
          Varint.size (Field.entrySize nested e) + Field.entrySize nested e := rfl
        simp only [TextMap.insert]
        omega
      have hget := hp.get_set ((p.get v).insert e.1 e.2) v
      simp only [Field.entries, hget]
      exact hgoal

end Map

end Wire

end LeaderRouting
