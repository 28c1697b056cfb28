/-!
Finite maps from texts, kept in the order of their keys, so that equal maps are equal values.
-/

namespace LeaderRouting

variable {β : Type}

namespace TextMap

/-- Puts `value` at `key` in an ordered list of entries, in place of what was there. -/
def insertEntry (key : String) (value : β) : List (String × β) → List (String × β)
  | [] => [(key, value)]
  | e :: r =>
    if key < e.1 then (key, value) :: e :: r
    else if key = e.1 then (key, value) :: r
    else e :: insertEntry key value r

theorem mem_insertEntry {key : String} {value : β} {l : List (String × β)} {e : String × β}
    (h : e ∈ insertEntry key value l) : e = (key, value) ∨ e ∈ l := by
  fun_induction insertEntry key value l <;> grind

theorem pairwise_insertEntry {key : String} {value : β} {l : List (String × β)}
    (h : l.Pairwise fun a b => a.1 < b.1) :
    (insertEntry key value l).Pairwise fun a b => a.1 < b.1 := by
  fun_induction insertEntry key value l with
  | case1 => simp
  | case2 e r hlt =>
    refine List.pairwise_cons.2 ⟨fun x hx => ?_, h⟩
    rcases List.mem_cons.1 hx with rfl | hx
    · exact hlt
    · exact String.lt_trans hlt (List.rel_of_pairwise_cons h hx)
  | case3 r e hlt heq =>
    exact List.pairwise_cons.2 ⟨fun x hx => heq ▸ List.rel_of_pairwise_cons h hx, h.of_cons⟩
  | case4 e r hlt hne ih =>
    refine List.pairwise_cons.2 ⟨fun x hx => ?_, ih h.of_cons⟩
    rcases mem_insertEntry hx with rfl | hx
    · exact Std.lt_of_le_of_ne (Std.not_lt.1 hlt) (Ne.symm hne)
    · exact List.rel_of_pairwise_cons h hx

end TextMap

structure TextMap (β : Type) where
  entries : List (String × β)
  sorted : entries.Pairwise fun a b => a.1 < b.1
  deriving DecidableEq

namespace TextMap

def empty : TextMap β :=
  ⟨[], List.Pairwise.nil⟩

def insert (m : TextMap β) (key : String) (value : β) : TextMap β :=
  ⟨insertEntry key value m.entries, pairwise_insertEntry m.sorted⟩

def ofList (l : List (String × β)) : TextMap β :=
  l.foldl (fun m e => m.insert e.1 e.2) empty

end TextMap

end LeaderRouting
