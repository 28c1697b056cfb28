import LeaderRouting.Net.Ipv6
import LeaderRouting.Proofs.Net.Numeral

/-!
Addresses are read as they are written.  What follows must not look like more of the address: no digit
after an IPv4 address, and neither a digit, a dot nor a further group after an IPv6 address.
-/

namespace LeaderRouting.Net

variable {rest : List Char}

/-! ### IPv4 -/

namespace Ipv4

theorem read_write (ip : Ipv4) (hr : EndsNumber 10 rest) : read (ip.write ++ rest) = some (ip, rest) := by
  have hoctet : ∀ (n : UInt8) {r : List Char}, EndsNumber 10 r →
      NumberForm.octet.read (NumberForm.octet.write n.toNat ++ r) = some (n.toNat, r) :=
    fun n _ h => NumberForm.fits_octet.read_write n.toNat_lt h
  have hdot : ∀ r, EndsNumber 10 ('.' :: r) := fun r => endsNumber_cons.2 rfl
  simp only [write, read, List.append_assoc, List.cons_append]
  simp [hoctet, hdot, hr]

/-- There is no address where the first number is not followed by a dot. -/
theorem read_eq_none {input : List Char}
    (h : (input.dropWhile (isDigitOf 10)).head? ≠ some '.') : read input = none := by
  cases hn : NumberForm.octet.read input with
  | none => simp [read, hn]
  | some found =>
    obtain ⟨n, rest⟩ := found
    have hrest : rest = input.dropWhile (isDigitOf 10) := NumberForm.rest_eq_of_read hn
    have hdot : after? '.' rest = none := by
      rw [← hrest] at h
      cases rest with
      | nil => rfl
      | cons c rest => exact after?_cons_of_ne (by simpa using h)
    simp [read, hn, hdot]

theorem groups_ofGroups (high low : UInt16) : (ofGroups high low).groups = [high, low] := by
  have hhigh : high.toNat < 65536 := high.toNat_lt
  have hlow : low.toNat < 65536 := low.toNat_lt
  have hjoin : ∀ {g : UInt16}, g.toNat < 65536 →
      UInt16.ofNat (g.toNat / 256 % 256 * 256 + g.toNat % 256 % 256) = g := by
    intro g hg
    have hsum : g.toNat / 256 % 256 * 256 + g.toNat % 256 % 256 = g.toNat := by omega
    rw [hsum, UInt16.ofNat_toNat]
  simp only [groups, ofGroups, UInt8.toNat_ofNat', hjoin hhigh, hjoin hlow]

end Ipv4

/-! ### Groups -/

namespace Ipv6

variable {left : Nat} {first : Bool} {gs : List UInt16}

/-- Whether nothing that could belong to an address stands at the front. -/
structure Closes (rest : List Char) : Prop where
  no_digit : EndsNumber 16 rest
  no_dot : rest.head? ≠ some '.'
  no_group : ∀ r ∈ after? ':' rest, EndsNumber 16 r

theorem closes_doubleColon (rest : List Char) : Closes (':' :: ':' :: rest) where
  no_digit := endsNumber_cons.2 rfl
  no_dot := by simp
  no_group r hr := by
    obtain rfl : ':' :: rest = r := by simpa using hr
    exact endsNumber_cons.2 rfl

/-- A number that is written as a group is not mistaken for an IPv4 address. -/
theorem read_ipv4_group (g : UInt16) (hend : EndsNumber 16 rest) (hdot : rest.head? ≠ some '.') :
    Ipv4.read (NumberForm.group.write g.toNat ++ rest) = none := by
  apply Ipv4.read_eq_none
  have hstop : rest.dropWhile (isDigitOf 10) = rest := (hend.mono (by decide)).dropWhile
  rw [List.dropWhile_append]
  split
  · rwa [hstop]
  next hne =>
    intro hhead
    have hmem : '.' ∈ NumberForm.group.write g.toNat := by
      refine (List.dropWhile_suffix (isDigitOf 10)).mem (List.mem_of_mem_head? ?_)
      rw [List.head?_append, Option.or_of_isSome (by simpa using hne)] at hhead
      exact hhead
    exact absurd (NumberForm.fits_group.isDigitOf hmem) (by decide)

theorem read_ipv4_eq_none (hend : EndsNumber 16 rest) : Ipv4.read rest = none := by
  have hoctet : NumberForm.octet.read rest = none := NumberForm.read_eq_none (hend.mono (by decide))
  simp [Ipv4.read, hoctet]

/-- No group is read where none stands. -/
theorem readGroups_stop (h : ∀ r ∈ separated first rest, EndsNumber 16 r) :
    readGroups left first rest = ([], false, rest) := by
  cases left with
  | zero => rfl
  | succ left =>
    have hdotted : (separated first rest).bind Ipv4.read = none :=
      Option.bind_eq_none_iff.2 fun r hr => read_ipv4_eq_none (h r hr)
    have hgroup : (separated first rest).bind NumberForm.group.read = none :=
      Option.bind_eq_none_iff.2 fun r hr => NumberForm.read_eq_none (h r hr)
    simp [readGroups, hdotted, hgroup]

theorem readGroups_group {input : List Char} (g : UInt16) (hend : EndsNumber 16 rest)
    (hdot : rest.head? ≠ some '.')
    (hs : separated first input = some (NumberForm.group.write g.toNat ++ rest)) :
    readGroups (left + 1) first input =
      (g :: (readGroups left false rest).1, (readGroups left false rest).2) := by
  have hread : NumberForm.group.read (NumberForm.group.write g.toNat ++ rest) = some (g.toNat, rest) :=
    NumberForm.fits_group.read_write g.toNat_lt hend
  simp [readGroups, hs, read_ipv4_group g hend hdot, hread]

/-- Groups as they stand after the first one. -/
def writeFurther (gs : List UInt16) : List Char :=
  gs.flatMap fun g => ':' :: NumberForm.group.write g.toNat

theorem writeGroups_cons (g : UInt16) (gs : List UInt16) :
    writeGroups (g :: gs) = NumberForm.group.write g.toNat ++ writeFurther gs := by
  induction gs generalizing g with
  | nil => simp [writeGroups, writeFurther]
  | cons g' gs ih =>
    rw [writeGroups, ih g']
    · simp [writeFurther]
    · simp

theorem head_writeFurther (gs : List UInt16) (h : Closes rest) :
    EndsNumber 16 (writeFurther gs ++ rest) ∧ (writeFurther gs ++ rest).head? ≠ some '.' := by
  cases gs with
  | nil => exact ⟨h.no_digit, h.no_dot⟩
  | cons g gs => exact ⟨endsNumber_cons.2 rfl, by simp [writeFurther]⟩

theorem readGroups_writeFurther (hl : gs.length ≤ left) (h : Closes rest) :
    readGroups left false (writeFurther gs ++ rest) = (gs, false, rest) := by
  induction gs generalizing left with
  | nil => exact readGroups_stop h.no_group
  | cons g gs ih =>
    obtain ⟨left, rfl⟩ := Nat.exists_eq_add_one.2 (Nat.lt_of_lt_of_le (by simp) hl)
    obtain ⟨hend, hdot⟩ := head_writeFurther gs h
    rw [readGroups_group g hend hdot (by simp [separated, writeFurther]),
      ih (by simpa using hl)]

theorem readGroups_writeGroups (hl : gs.length ≤ left) (h : Closes rest) :
    readGroups left true (writeGroups gs ++ rest) = (gs, false, rest) := by
  cases gs with
  | nil =>
    refine readGroups_stop fun r hr => ?_
    obtain rfl : rest = r := by simpa [separated, writeGroups] using hr
    exact h.no_digit
  | cons g gs =>
    obtain ⟨left, rfl⟩ := Nat.exists_eq_add_one.2 (Nat.lt_of_lt_of_le (by simp) hl)
    obtain ⟨hend, hdot⟩ := head_writeFurther gs h
    rw [writeGroups_cons, List.append_assoc, readGroups_group g hend hdot rfl,
      readGroups_writeFurther (by simpa using hl) h]

/-! ### Zero groups -/

theorem take_leadingZeros (gs : List UInt16) :
    gs.take (leadingZeros gs) = List.replicate (leadingZeros gs) 0 := by
  induction gs with
  | nil => rfl
  | cons g gs ih =>
    by_cases hg : g = 0
    · simpa [leadingZeros, hg, List.replicate_succ] using ih
    · simp [leadingZeros, hg]

theorem leadingZeros_le (gs : List UInt16) : leadingZeros gs ≤ gs.length :=
  (List.takeWhile_sublist _).length_le

/-- The run that is left out is a run of zeros inside the address. -/
theorem longestZeroRun_spec (gs : List UInt16) :
    (longestZeroRun gs).1 + (longestZeroRun gs).2 ≤ gs.length ∧
      (gs.drop (longestZeroRun gs).1).take (longestZeroRun gs).2 =
        List.replicate (longestZeroRun gs).2 0 := by
  induction gs with
  | nil => simp [longestZeroRun]
  | cons g gs ih =>
    obtain ⟨hle, hzeros⟩ := ih
    simp only [longestZeroRun]
    split
    · exact ⟨by simpa using leadingZeros_le (g :: gs), take_leadingZeros (g :: gs)⟩
    · exact ⟨by simp; omega, by simpa using hzeros⟩

/-- An address is its groups around the run of zeros that is left out. -/
theorem ofEnds_take_drop {ip : Ipv6} {start length : Nat}
    (hrun : longestZeroRun ip.groups = (start, length))
    (h : (ip.groups.take start).length + (ip.groups.drop (start + length)).length ≤ 8) :
    ofEnds (ip.groups.take start) (ip.groups.drop (start + length)) h = ip := by
  obtain ⟨hle, hzeros⟩ := longestZeroRun_spec ip.groups
  rw [hrun] at hle hzeros
  have hgap : 8 - (ip.groups.take start).length - (ip.groups.drop (start + length)).length = length := by
    simp only [List.length_take, List.length_drop, ip.length_groups] at hle ⊢
    omega
  have hgroups : ip.groups.take start ++ List.replicate length 0 ++ ip.groups.drop (start + length)
      = ip.groups := by
    rw [← hzeros, List.append_assoc, ← List.drop_drop, List.take_append_drop, List.take_append_drop]
  cases ip
  simp_all [ofEnds]

/-! ### IPv6 -/

theorem read_full {input : List Char} {ip : Ipv6}
    (h : readGroups 8 true input = (ip.groups, false, rest)) : read input = some (ip, rest) := by
  simp [read, h, ip.length_groups]

theorem read_gap {input middle : List Char} {head tail : List UInt16} {dotted : Bool}
    (hfront : readGroups 8 true input = (head, false, ':' :: ':' :: middle)) (hhead : head.length < 8)
    (hback : readGroups (7 - head.length) true middle = (tail, dotted, rest))
    (hle : head.length + tail.length ≤ 8) : read input = some (ofEnds head tail hle, rest) := by
  simp [read, hfront, hback, Nat.ne_of_lt hhead]

theorem readGroups_mapped (high low : UInt16) (h : Closes rest) :
    readGroups 7 true (NumberForm.group.write 0xffff ++ ':' :: ((Ipv4.ofGroups high low).write ++ rest))
      = ([0xffff, high, low], true, rest) := by
  have hip : Ipv4.read ((Ipv4.ofGroups high low).write ++ rest) = some (Ipv4.ofGroups high low, rest) :=
    Ipv4.read_write _ (h.no_digit.mono (by decide))
  have hdotted : readGroups 6 false (':' :: ((Ipv4.ofGroups high low).write ++ rest))
      = ([high, low], true, rest) := by
    simp [readGroups, separated, hip, Ipv4.groups_ofGroups]
  rw [show NumberForm.group.write 0xffff = NumberForm.group.write (0xffff : UInt16).toNat from rfl,
    readGroups_group 0xffff (endsNumber_cons.2 rfl) (by simp) rfl, hdotted]

theorem read_write (ip : Ipv6) (h : Closes rest) : read (ip.write ++ rest) = some (ip, rest) := by
  unfold write
  split
  next high low hgroups =>
    have hfront : readGroups 8 true (':' :: ':' :: (NumberForm.group.write 0xffff ++ ':' ::
        ((Ipv4.ofGroups high low).write ++ rest))) = ([], false, ':' :: ':' ::
          (NumberForm.group.write 0xffff ++ ':' :: ((Ipv4.ofGroups high low).write ++ rest))) :=
      readGroups_stop fun r hr => by
        obtain rfl := by simpa [separated] using hr
        exact endsNumber_cons.2 rfl
    have hip : ofEnds [] [0xffff, high, low] (by simp) = ip := by
      cases ip
      simp_all [ofEnds, List.replicate]
    simpa [hip] using read_gap hfront (by simp) (readGroups_mapped high low h) (by simp)
  next =>
    cases hrun : longestZeroRun ip.groups with
    | mk start length =>
      have hle : start + length ≤ 8 := by
        have := (longestZeroRun_spec ip.groups).1
        rwa [hrun, ip.length_groups] at this
      have hlen := ip.length_groups
      by_cases hgap : 2 ≤ length
      · have hfront : readGroups 8 true (writeGroups (ip.groups.take start) ++ ':' :: ':' ::
            (writeGroups (ip.groups.drop (start + length)) ++ rest)) = (ip.groups.take start, false,
              ':' :: ':' :: (writeGroups (ip.groups.drop (start + length)) ++ rest)) :=
          readGroups_writeGroups (by simp; omega) (closes_doubleColon _)
        have hback : readGroups (7 - (ip.groups.take start).length) true
            (writeGroups (ip.groups.drop (start + length)) ++ rest)
              = (ip.groups.drop (start + length), false, rest) :=
          readGroups_writeGroups (by simp; omega) h
        have hread := read_gap hfront (by simp; omega) hback (by simp; omega)
        rw [ofEnds_take_drop hrun] at hread
        simpa [hrun, hgap] using hread
      · simp only [hgap, if_false]
        exact read_full (readGroups_writeGroups (Nat.le_of_eq hlen) h)

end Ipv6

end LeaderRouting.Net
