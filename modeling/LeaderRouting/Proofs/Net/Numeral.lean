import LeaderRouting.Net.Numeral
import Mathlib.Tactic.IntervalCases
import Mathlib.Tactic.SplitIfs

/-!
Numbers are read as they are written, whatever follows that is not a digit.
-/

namespace LeaderRouting.Net

variable {base n d : Nat} {c : Char} {digits rest : List Char}

theorem digitValue_digitChar (h : d < 16) : digitValue d.digitChar = some d := by
  interval_cases d <;> rfl

theorem isDigitOf_digitChar (hb : base ≤ 16) (h : d < base) : isDigitOf base d.digitChar = true := by
  simp [isDigitOf, digitValue_digitChar (Nat.lt_of_lt_of_le h hb), h]

theorem isDigitOf_mono {base' : Nat} (hb : base ≤ base') (h : isDigitOf base' c = false) :
    isDigitOf base c = false := by
  unfold isDigitOf at h ⊢
  split at h <;> simp_all
  omega

theorem valueOf_concat (digits : List Char) (c : Char) :
    valueOf base (digits ++ [c]) = valueOf base digits * base + (digitValue c).getD 0 := by
  simp [valueOf]

/-! ### The digits of a number -/

theorem isDigitOf_of_mem_toDigits (h1 : 1 < base) (hb : base ≤ 16) (hc : c ∈ Nat.toDigits base n) :
    isDigitOf base c = true := by
  induction n using Nat.strongRecOn with
  | ind n ih =>
    rw [Nat.toDigits_eq_if h1] at hc
    split_ifs at hc with hn
    · rw [List.mem_singleton.1 hc]
      exact isDigitOf_digitChar hb hn
    · rcases List.mem_append.1 hc with hc | hc
      · exact ih (n / base) (Nat.div_lt_self (by omega) h1) hc
      · rw [List.mem_singleton.1 hc]
        exact isDigitOf_digitChar hb (Nat.mod_lt n (by omega))

theorem valueOf_toDigits (h1 : 1 < base) (hb : base ≤ 16) : valueOf base (Nat.toDigits base n) = n := by
  induction n using Nat.strongRecOn with
  | ind n ih =>
    rw [Nat.toDigits_eq_if h1]
    split_ifs with hn
    · simp [valueOf, digitValue_digitChar (Nat.lt_of_lt_of_le hn hb)]
    · have hlast : n % base < base := Nat.mod_lt n (by omega)
      rw [valueOf_concat, ih (n / base) (Nat.div_lt_self (by omega) h1),
        digitValue_digitChar (Nat.lt_of_lt_of_le hlast hb)]
      exact Nat.div_add_mod' n base

/-- Only zero is written with a zero in front. -/
theorem eq_zero_of_head?_toDigits (h1 : 1 < base) (h : (Nat.toDigits base n).head? = some '0') :
    n = 0 := by
  induction n using Nat.strongRecOn with
  | ind n ih =>
    rw [Nat.toDigits_eq_if h1] at h
    split_ifs at h with hn
    · simpa using h
    · rw [List.head?_append, Option.or_of_isSome (by simp [Nat.toDigits_ne_nil])] at h
      have hquot := ih (n / base) (Nat.div_lt_self (by omega) h1) h
      have := Nat.div_eq_zero_iff.1 hquot
      omega

/-! ### Forms -/

/-- Whether no digit stands at the front. -/
def EndsNumber (base : Nat) (rest : List Char) : Prop :=
  ∀ c ∈ rest.head?, isDigitOf base c = false

@[simp] theorem endsNumber_nil : EndsNumber base [] := by
  simp [EndsNumber]

@[simp] theorem endsNumber_cons : EndsNumber base (c :: rest) ↔ isDigitOf base c = false := by
  simp [EndsNumber]

theorem EndsNumber.mono {base' : Nat} (h : EndsNumber base' rest) (hb : base ≤ base') :
    EndsNumber base rest :=
  fun c hc => isDigitOf_mono hb (h c hc)

theorem EndsNumber.takeWhile (h : EndsNumber base rest) : rest.takeWhile (isDigitOf base) = [] := by
  cases rest with
  | nil => rfl
  | cons c rest => simp [endsNumber_cons.1 h]

theorem EndsNumber.dropWhile (h : EndsNumber base rest) :
    rest.dropWhile (isDigitOf base) = rest := by
  cases rest with
  | nil => rfl
  | cons c rest => simp [endsNumber_cons.1 h]

namespace NumberForm

variable {form : NumberForm}

/-- What makes a form admit every number below its bound, as it writes them. -/
structure Fits (form : NumberForm) : Prop where
  one_lt_base : 1 < form.base
  base_le : form.base ≤ 16
  bound_le : ∀ m ∈ form.maxDigits, 0 < m ∧ form.bound ≤ form.base ^ m

theorem fits_octet : octet.Fits := ⟨by decide, by decide, by decide⟩

theorem fits_group : group.Fits := ⟨by decide, by decide, by decide⟩

theorem fits_port : port.Fits := ⟨by decide, by decide, by decide⟩

theorem fits_scope : scope.Fits := ⟨by decide, by decide, by decide⟩

theorem Fits.isDigitOf (h : form.Fits) (hc : c ∈ form.write n) : isDigitOf form.base c = true :=
  isDigitOf_of_mem_toDigits h.one_lt_base h.base_le hc

theorem Fits.admits_write (h : form.Fits) (hn : n < form.bound) : form.Admits (form.write n) := by
  refine ⟨Nat.toDigits_ne_nil, fun m hm => ?_, fun _ hzero => ?_, ?_⟩
  · obtain ⟨hpos, hbound⟩ := h.bound_le m hm
    exact (Nat.length_toDigits_le_iff h.one_lt_base hpos).2 (Nat.lt_of_lt_of_le hn hbound)
  · obtain rfl := eq_zero_of_head?_toDigits h.one_lt_base hzero
    simp [write]
  · rw [write, valueOf_toDigits h.one_lt_base h.base_le]
    exact hn

theorem Fits.read_write (h : form.Fits) (hn : n < form.bound) (hr : EndsNumber form.base rest) :
    form.read (form.write n ++ rest) = some (n, rest) := by
  have hdigits : ∀ c ∈ form.write n, Net.isDigitOf form.base c = true := fun c hc => h.isDigitOf hc
  have htake : (form.write n ++ rest).takeWhile (Net.isDigitOf form.base) = form.write n := by
    rw [List.takeWhile_append_of_pos hdigits, hr.takeWhile, List.append_nil]
  have hdrop : (form.write n ++ rest).dropWhile (Net.isDigitOf form.base) = rest := by
    rw [List.dropWhile_append_of_pos hdigits, hr.dropWhile]
  have hvalue : valueOf form.base (form.write n) = n := valueOf_toDigits h.one_lt_base h.base_le
  simp only [read, htake, hdrop, hvalue, h.admits_write hn, if_true]

/-- Where no digit stands there is no number. -/
theorem read_eq_none (h : EndsNumber form.base rest) : form.read rest = none := by
  simp [read, h.takeWhile, Admits]

theorem rest_eq_of_read {input : List Char} (h : form.read input = some (n, rest)) :
    rest = input.dropWhile (Net.isDigitOf form.base) := by
  simp only [read] at h
  split_ifs at h
  cases h
  rfl

end NumberForm

@[simp] theorem after?_cons_self (rest : List Char) : after? c (c :: rest) = some rest := by
  simp [after?]

theorem after?_cons_of_ne {c' : Char} (h : c ≠ c') : after? c' (c :: rest) = none := by
  simp [after?, h]

end LeaderRouting.Net
