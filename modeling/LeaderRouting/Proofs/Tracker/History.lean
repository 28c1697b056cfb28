import LeaderRouting.Proofs.Tracker.Serial

/-!
The history of published values: what readers are shown after some of the facts, and in which order
leaders are published.
-/

namespace LeaderRouting

namespace Gateway

def Fact.published? : Fact → Option Published
  | .published v => some v
  | _ => none

def Fact.isAnswer : Fact → Bool
  | .answered _ _ => true
  | _ => false

/-- The values that were published, in order. -/
def publications (fs : List Fact) : List Published :=
  fs.filterMap Fact.published?

/-- What readers are shown once these facts have happened. -/
def shown (fs : List Fact) : Published :=
  (publications fs).getLast?.getD .notElected

/-- How many calls were answered. -/
def answers (fs : List Fact) : Nat :=
  fs.countP Fact.isAnswer

@[simp] theorem publications_append (fs gs : List Fact) :
    publications (fs ++ gs) = publications fs ++ publications gs :=
  List.filterMap_append

@[simp] theorem answers_append (fs gs : List Fact) : answers (fs ++ gs) = answers fs + answers gs :=
  List.countP_append

theorem shown_append_of_silent {fs gs : List Fact} (h : publications gs = []) :
    shown (fs ++ gs) = shown fs := by
  simp [shown, h]

theorem shown_append_of_spoken {fs gs : List Fact} {v : Published} (h : publications gs = [v]) :
    shown (fs ++ gs) = v := by
  simp [shown, h]

theorem published_mem_iff {fs : List Fact} {v : Published} :
    .published v ∈ fs ↔ v ∈ publications fs := by
  unfold publications
  rw [List.mem_filterMap]
  constructor
  · exact fun h => ⟨_, h, rfl⟩
  · rintro ⟨f, hf, hv⟩
    cases f <;> simp_all [Fact.published?]

/-- A leader that readers are shown was published. -/
theorem published_of_shown {fs : List Fact} {s : Snapshot} (h : shown fs = .elected s) :
    .published (.elected s) ∈ fs := by
  rw [published_mem_iff]
  unfold shown at h
  cases hv : (publications fs).getLast? with
  | none => simp [hv] at h
  | some v =>
    obtain rfl : v = .elected s := by simpa [hv] using h
    exact List.mem_of_getLast? hv

/-! ### What comes before a fact -/

/-- Whether `P` holds of each of the facts and those before it. -/
def Preceded (P : List Fact → Fact → Prop) (fs : List Fact) : Prop :=
  ∀ before f, before ++ [f] <+: fs → P before f

section Preceded

variable {P Q : List Fact → Fact → Prop} {fs news : List Fact} {f : Fact}

theorem preceded_nil : Preceded P [] := by
  intro before f h
  simp at h

theorem preceded_of_forall (h : ∀ f ∈ fs, ∀ before, P before f) : Preceded P fs :=
  fun before f hf => h f (hf.subset (by simp)) before

theorem Preceded.mono (h : Preceded P fs)
    (hPQ : ∀ before f, before ++ [f] <+: fs → P before f → Q before f) : Preceded Q fs :=
  fun before f hf => hPQ before f hf (h before f hf)

theorem Preceded.append (h : Preceded P fs) (hn : Preceded (fun before => P (fs ++ before)) news) :
    Preceded P (fs ++ news) := by
  intro before f hf
  rcases List.prefix_or_prefix_of_prefix hf (List.prefix_append fs news) with hf' | ⟨part, hp⟩
  · exact h before f hf'
  · -- Either the fact is the last of the old ones, or it is one of the new ones.
    rcases part.eq_nil_or_concat with rfl | ⟨part, f', rfl⟩
    · exact h before f (by simp [← hp])
    · rw [List.concat_eq_append, ← List.append_assoc] at hp
      obtain ⟨rfl, he⟩ := List.append_inj' hp rfl
      obtain rfl := List.singleton_inj.1 he
      rw [List.append_assoc, List.prefix_append_right_inj] at hf
      exact hn part f' hf

theorem preceded_singleton (h : P [] f) : Preceded P [f] := by
  intro before f' hf
  obtain ⟨rest, hr⟩ := hf
  cases before with
  | nil =>
    obtain rfl : f' = f := by simpa using (List.cons.inj hr).1
    exact h
  | cons => simp at hr

theorem Preceded.concat (h : Preceded P fs) (hf : P fs f) : Preceded P (fs ++ [f]) :=
  h.append (preceded_singleton (by simpa using hf))

end Preceded

end Gateway

open Gateway

namespace Serial

/-- Whether one state comes from another by adding facts to the trace, no answers among them, by which
just these values are published. -/
structure Adds (vs : List Published) (t t' : Serial) : Prop where
  trace : ∃ news, t'.trace = t.trace ++ news ∧ publications news = vs ∧ answers news = 0
  value : t'.value = vs.getLast?.getD t.value

variable {t t₁ t' : Serial} {vs ws : List Published} {s : Snapshot}

theorem Adds.refl (t : Serial) : Adds [] t t :=
  ⟨⟨[], by simp [publications, answers]⟩, rfl⟩

theorem Adds.trans (h₁ : Adds vs t t₁) (h₂ : Adds ws t₁ t') : Adds (vs ++ ws) t t' := by
  obtain ⟨news₁, e₁, rfl, a₁⟩ := h₁.trace
  obtain ⟨news₂, e₂, rfl, a₂⟩ := h₂.trace
  have htrace : t'.trace = t.trace ++ (news₁ ++ news₂) := by
    rw [e₂, e₁, List.append_assoc]
  refine ⟨⟨news₁ ++ news₂, htrace, publications_append _ _, by simp [a₁, a₂]⟩, ?_⟩
  rw [h₂.value, h₁.value, List.getLast?_append]
  cases (publications news₂).getLast? <;> simp

theorem adds_note {f : Fact} (hp : f.published? = none) (ha : f.isAnswer = false) :
    Adds [] t (t.note f) :=
  ⟨⟨[f], rfl, by simp [publications, hp], by simp [answers, ha]⟩, rfl⟩

theorem adds_publish (t : Serial) (v : Published) : Adds [v] t (t.publish v) :=
  ⟨⟨[.published v], rfl, rfl, rfl⟩, rfl⟩

theorem adds_install (t : Serial) (s : Snapshot) : Adds [.elected s] t (t.install s) := by
  have h := adds_publish { t with writer := { t.writer with current := some s } } (.elected s)
  exact ⟨h.trace, h.value⟩

theorem adds_close (t : Serial) (n : Nat) : Adds [] t (t.close n) := by
  unfold close
  split
  · exact .refl t
  next k _ =>
    split_ifs
    · exact .refl t
    · exact ⟨⟨[.closed n k.member], rfl, rfl, rfl⟩, rfl⟩

theorem adds_closePrevious (t : Serial) (previous : Option Snapshot) :
    Adds [] t (t.closePrevious previous) := by
  cases previous with
  | none => exact .refl t
  | some s => exact adds_close t s.connection

theorem adds_connect (t : Serial) (c : CallId) (l : Leader) :
    Adds [.elected ⟨l, t.connections.length⟩] t (t.connect c l) := by
  have hopened : Adds [] t (note
      { t with connections := t.connections ++ [⟨l.member, false, false, 0⟩] }
      (.opened c t.connections.length l.member)) :=
    ⟨⟨[.opened c t.connections.length l.member], rfl, rfl, rfl⟩, rfl⟩
  exact (hopened.trans (adds_install _ _)).trans (adds_closePrevious _ _)

/-- What an operation does to the writer and to what is published: nothing, a leader with a higher
term, or the end of all announcements. -/
theorem perform_cases (t : Serial) (op : Operation) :
    Adds [] t (t.perform op).1 ∧ (t.perform op).1.writer = t.writer ∨
    (∃ s, Adds [.elected s] t (t.perform op).1 ∧ t.writer.closed = false ∧
      t.writer.term < s.leader.term ∧
      (t.perform op).1.writer = { t.writer with current := some s }) ∨
    Adds [.closed] t (t.perform op).1 ∧ t.writer.closed = false ∧
      (t.perform op).1.writer = ⟨none, true⟩ := by
  unfold perform
  split
  next l _ =>
    unfold elect
    split_ifs with hc hl
    · exact .inl ⟨.refl t, rfl⟩
    · exact .inl ⟨.refl t, rfl⟩
    · have hc : t.writer.closed = false := by simpa using hc
      have hl : t.writer.term < l.term := Term.not_le.1 hl
      split
      next s _ => exact .inr (.inl ⟨⟨l, s.connection⟩, adds_install t _, hc, hl, rfl⟩)
      · exact .inl ⟨adds_note rfl rfl, rfl⟩
      · refine .inr (.inl ⟨_, adds_connect t op.call l, hc, hl, ?_⟩)
        simp [connect, install, publish, note]
  · unfold shutDown
    split_ifs with hc
    · exact .inl ⟨.refl t, rfl⟩
    · have hclosed : Adds [.closed] t ({ t with writer := ⟨none, true⟩ }.publish .closed) :=
        ⟨⟨[.published .closed], rfl, rfl, rfl⟩, rfl⟩
      refine .inr (.inr ⟨hclosed.trans (adds_closePrevious _ _), by simpa using hc, ?_⟩)
      simp [publish, note]

/-- An operation publishes at most once. -/
theorem exists_adds (t : Serial) (op : Operation) :
    ∃ vs, vs.length ≤ 1 ∧ Adds vs t (t.perform op).1 := by
  rcases perform_cases t op with h | ⟨s, h, -⟩ | h
  · exact ⟨[], by simp, h.1⟩
  · exact ⟨[.elected s], by simp, h⟩
  · exact ⟨[.closed], by simp, h.1⟩

/-! ### What readers are shown -/

/-- What was published last is what readers are shown. -/
theorem value_replay (ops : List Operation) : (replay ops).value = shown (replay ops).trace := by
  induction ops using List.reverseRecOn with
  | nil => rfl
  | append_singleton ops op ih =>
    obtain ⟨vs, -, ⟨news, ht, rfl, -⟩, hv⟩ := exists_adds (replay ops) op
    rw [replay_concat]
    simp only [apply, note, hv, ht, ih]
    rw [shown_append_of_silent rfl, shown, shown, publications_append, List.getLast?_append]
    cases (publications news).getLast? <;> rfl

theorem answers_replay (ops : List Operation) : answers (replay ops).trace = ops.length := by
  induction ops using List.reverseRecOn with
  | nil => rfl
  | append_singleton ops op ih =>
    obtain ⟨vs, -, ⟨news, ht, -, ha⟩, -⟩ := exists_adds (replay ops) op
    rw [replay_concat, List.length_append, ← ih]
    simp only [apply, note, ht, answers_append, ha]
    rfl

/-- What a reader has seen of the trace shows it the state after some of the operations: all that are
answered, and at most the next one. -/
theorem shown_of_prefix_replay (ops : List Operation) {seen : List Fact}
    (h : seen <+: (replay ops).trace) :
    ∃ n, answers seen ≤ n ∧ n ≤ answers seen + 1 ∧ n ≤ ops.length ∧
      shown seen = (replay (ops.take n)).value := by
  induction ops using List.reverseRecOn with
  | nil =>
    obtain rfl : seen = [] := List.prefix_nil.1 h
    exact ⟨0, Nat.le_refl _, Nat.zero_le _, Nat.le_refl _, rfl⟩
  | append_singleton ops op ih =>
    obtain ⟨vs, hvs, ⟨news, ht, hp, ha⟩, hv⟩ := exists_adds (replay ops) op
    have htrace : (replay (ops ++ [op])).trace =
        (replay ops).trace ++ news ++ [.answered op.call ((replay ops).answer op)] := by
      simp [apply, note, ht]
    -- What was seen ends with the last answer, before the last operation began, or within it.
    rcases List.prefix_concat_iff.1 (htrace ▸ h) with he | hseen
    · have hn : answers seen = (ops ++ [op]).length := by
        rw [he, ← htrace, answers_replay]
      refine ⟨(ops ++ [op]).length, Nat.le_of_eq hn, by omega, Nat.le_refl _, ?_⟩
      rw [List.take_length, value_replay, htrace, he]
    · have hbegun : (replay ops).trace <+: (replay ops).trace ++ news := List.prefix_append _ news
      rcases List.prefix_or_prefix_of_prefix hseen hbegun with hs | ⟨part, rfl⟩
      · obtain ⟨n, h₁, h₂, h₃, h₄⟩ := ih hs
        refine ⟨n, h₁, h₂, by simp only [List.length_append]; omega, ?_⟩
        rw [List.take_append_of_le_length h₃, h₄]
      · obtain ⟨rest, rfl⟩ := (List.prefix_append_right_inj _).1 hseen
        have hpart : answers ((replay ops).trace ++ part) = ops.length := by
          rw [answers_append] at ha
          rw [answers_append, answers_replay]
          omega
        rw [publications_append] at hp
        -- The operation publishes once at most: later than what was seen, or as part of it.
        cases hq : publications part with
        | nil =>
          refine ⟨ops.length, Nat.le_of_eq hpart, by omega, by simp, ?_⟩
          rw [shown_append_of_silent hq, List.take_left, value_replay]
        | cons v tail =>
          rw [hq] at hp
          have hlen : tail = [] ∧ publications rest = [] := by
            rw [← hp] at hvs
            simpa using hvs
          refine ⟨ops.length + 1, by omega, by omega, by simp, ?_⟩
          rw [hlen.1] at hq hp
          rw [hlen.2] at hp
          rw [shown_append_of_spoken hq, List.take_of_length_le (by simp), replay_concat]
          simp only [apply, note, hv, ← hp]
          rfl

theorem shown_of_isPrefix {ops : List Operation} (ht : Adds [] (replay ops) t) {seen : List Fact}
    (h : seen <+: t.trace) :
    ∃ n, answers seen ≤ n ∧ n ≤ answers seen + 1 ∧ n ≤ ops.length ∧
      shown seen = (replay (ops.take n)).value := by
  obtain ⟨⟨news, he, hp, ha⟩, -⟩ := ht
  rw [he] at h
  rcases List.prefix_or_prefix_of_prefix h (List.prefix_append _ news) with hs | ⟨part, rfl⟩
  · exact shown_of_prefix_replay ops hs
  · obtain ⟨rest, rfl⟩ := (List.prefix_append_right_inj _).1 h
    rw [publications_append, List.append_eq_nil_iff] at hp
    rw [answers_append] at ha
    refine ⟨ops.length, ?_, ?_, Nat.le_refl _, ?_⟩
    · rw [answers_append, answers_replay]
      omega
    · rw [answers_append, answers_replay]
      omega
    · rw [shown_append_of_silent hp.1, List.take_length, value_replay]

/-! ### The order of publications -/

/-- Leaders are published under rising terms, and nothing is published after the shutdown. -/
theorem publications_replay (ops : List Operation) :
    ∃ ss : List Snapshot,
      publications (replay ops).trace =
        ss.map .elected ++ (if (replay ops).writer.closed then [.closed] else []) ∧
      ss.Pairwise (fun s s' => s.leader.term < s'.leader.term) ∧
      (∀ s ∈ ss, .zero < s.leader.term) ∧
      ((replay ops).writer.closed = false →
        ∀ s ∈ ss, s.leader.term ≤ (replay ops).writer.term) := by
  induction ops using List.reverseRecOn with
  | nil => exact ⟨[], rfl, .nil, by simp, by simp⟩
  | append_singleton ops op ih =>
    obtain ⟨ss, hp, hrise, hpos, hle⟩ := ih
    have hw : (replay (ops ++ [op])).writer = ((replay ops).perform op).1.writer := by
      simp [apply]
    have happend : ∀ vs, Adds vs (replay ops) ((replay ops).perform op).1 →
        publications (replay (ops ++ [op])).trace = publications (replay ops).trace ++ vs := by
      rintro vs ⟨⟨news, ht, rfl, -⟩, -⟩
      simp [apply, note, ht, publications, Fact.published?]
    rw [hw]
    rcases perform_cases (replay ops) op with
      ⟨hadds, he⟩ | ⟨s, hadds, hc, hl, he⟩ | ⟨hadds, hc, he⟩
    · rw [happend _ hadds, he, List.append_nil]
      exact ⟨ss, hp, hrise, hpos, hle⟩
    · -- The writer's term is above all that were published before.
      have hlt : ∀ s' ∈ ss, s'.leader.term < s.leader.term := fun s' hs' =>
        Term.lt_of_le_of_lt (hle hc s' hs') hl
      rw [happend _ hadds, he, hp, hc]
      refine ⟨ss ++ [s], by simp, ?_, ?_, fun _ s' hs' => ?_⟩
      · rw [List.pairwise_append]
        exact ⟨hrise, List.pairwise_singleton _ _, by simpa using hlt⟩
      · intro s' hs'
        rcases List.mem_append.1 hs' with hs' | hs'
        · exact hpos s' hs'
        · obtain rfl := List.mem_singleton.1 hs'
          exact Term.zero_lt_of_lt hl
      · rcases List.mem_append.1 hs' with hs' | hs'
        · exact Term.le_of_lt (hlt s' hs')
        · obtain rfl := List.mem_singleton.1 hs'
          exact Term.le_refl _
    · rw [happend _ hadds, he, hp, hc]
      exact ⟨ss, by simp, hrise, hpos, by simp⟩

end Serial

end LeaderRouting
