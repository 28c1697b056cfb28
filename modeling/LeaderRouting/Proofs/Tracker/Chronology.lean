import LeaderRouting.Proofs.Tracker.Linearizability

/-!
The order in which readers see leaders.  Terms only rise, a term has one leader and one connection,
and after the shutdown there is no leader any more.
-/

namespace LeaderRouting

open Gateway

/-- Whether a value can be published when the other one was published earlier. -/
def Published.Precedes : Published → Published → Prop
  | notElected, elected _ | notElected, closed | elected _, closed => True
  | elected s, elected s' => s.leader.term < s'.leader.term
  | _, _ => False

/-- What holds of two values of which a reader sees the second one later. -/
structure Published.Succeeds (later earlier : Published) : Prop where
  terms : ∀ s s', earlier = elected s → later = elected s' →
    s.leader.term ≤ s'.leader.term ∧ (s.leader.term = s'.leader.term → s = s')
  closed : earlier = closed → later = closed
  notElected : later = notElected → earlier = notElected

theorem Published.succeeds_of_precedes {p q : Published} (h : q = p ∨ p.Precedes q) :
    q.Succeeds p := by
  rcases h with rfl | h
  · refine ⟨fun s s' hs hs' => ?_, id, id⟩
    obtain rfl := elected.inj (hs.symm.trans hs')
    exact ⟨Term.le_refl _, fun _ => rfl⟩
  · refine ⟨?_, ?_, ?_⟩
    · rintro s s' rfl rfl
      have hlt : s.leader.term < s'.leader.term := h
      exact ⟨Term.le_of_lt hlt, fun he => absurd (he ▸ hlt) (Term.lt_irrefl _)⟩
    · rintro rfl
      cases q <;> exact h.elim
    · rintro rfl
      cases p <;> exact h.elim

/-- Of two nonempty beginnings of a list the longer one ends where the shorter one does, or later. -/
theorem getLast_of_isPrefix {α : Type} {R : α → α → Prop} {xs ys zs : List α} (h : zs.Pairwise R)
    (hy : ys <+: zs) (hx : xs <+: ys) (hn : xs ≠ []) (hm : ys ≠ []) :
    ys.getLast hm = xs.getLast hn ∨ R (xs.getLast hn) (ys.getLast hm) := by
  obtain ⟨rest, rfl⟩ := hx
  by_cases hr : rest = []
  · subst hr
    simp
  · refine .inr ?_
    rw [List.getLast_append_of_ne_nil _ hr]
    exact (List.pairwise_append.1 (h.sublist hy.sublist)).2.2 _ (List.getLast_mem hn) _
      (List.getLast_mem hr)

namespace Gateway

/-- The values that readers could ever see, in order. -/
def history (g : Gateway) : List Published :=
  .notElected :: publications g.facts

theorem leader?_eq_some_iff {g : Gateway} {l : Leader} :
    g.leader? = some l ↔ ∃ s, g.channel.value = .elected s ∧ s.leader = l := by
  unfold leader?
  cases g.channel.value <;> simp [Published.snapshot?]

theorem shown_eq_getLast (fs : List Fact) :
    shown fs = (Published.notElected :: publications fs).getLast (by simp) := by
  unfold shown
  rw [← Option.some_inj, ← List.getLast?_eq_some_getLast, List.getLast?_cons]

variable {g g₁ g' : Gateway} {c : CallId}

/-! ### The journal only grows -/

theorem facts_prefix_outline (h : Outline g g') : g.facts <+: g'.facts := by
  cases h with
  | start => exact facts_enrol g _ ▸ List.prefix_append _ _
  | around => exact List.prefix_rfl
  | abandon => exact facts_giveUp g _ ▸ List.prefix_append _ _
  | turn _ _ h =>
    obtain ⟨news, hn, -⟩ := h.facts
    exact ⟨news, hn.symm⟩

theorem facts_prefix_release (g : Gateway) : g.facts <+: g.release.facts := by
  obtain ⟨g₁, ht, -, -, hj⟩ := exists_turn_release g 0
  obtain ⟨news, hn, -⟩ := UpToAnswer.facts (.inl ht)
  have hfacts : g₁.facts = g.facts := congrArg (List.map Entry.fact) hj
  exact ⟨news, by rw [← hfacts, ← hn]⟩

theorem facts_prefix_run {actions : List Action} (h : g.run? actions = some g') :
    g.facts <+: g'.facts := by
  refine run?_induction (P := fun g' => g.facts <+: g'.facts) List.prefix_rfl ?_ h
  intro a _ g₁ g₂ hp hc
  exact hp.trans ((facts_prefix_outline (outline_of_transition hc.transition)).trans
    (facts_prefix_release g₂))

theorem exists_call?_of_run {actions : List Action} {k : Call} (h : g.run? actions = some g')
    (hk : g.call? c = some k) : ∃ k', g'.call? c = some k' ∧ k'.task = k.task := by
  refine run?_induction (P := fun g' => ∃ k', g'.call? c = some k' ∧ k'.task = k.task)
    ⟨k, hk, rfl⟩ ?_ h
  rintro a _ g₁ g₂ ⟨k₁, hk₁, ht₁⟩ hc
  obtain ⟨k₂, hk₂, ht₂⟩ := hc.exists_call? hk₁
  obtain ⟨k₃, hk₃, ht₃, -⟩ := exists_call?_release hk₂
  exact ⟨k₃, hk₃, ht₃.trans (ht₂.trans ht₁)⟩

theorem run?_append (g : Gateway) (as bs : List Action) :
    g.run? (as ++ bs) = (g.run? as).bind fun g' => g'.run? bs := by
  induction as generalizing g with
  | nil => rfl
  | cons a rest ih =>
    simp only [List.cons_append, run?]
    cases g.step? a with
    | none => rfl
    | some g₁ => exact ih g₁

theorem Reachable.run {actions : List Action} (hg : g.Reachable) (h : g.run? actions = some g') :
    g'.Reachable := by
  obtain ⟨settings, handles, before, hb⟩ := hg
  exact ⟨settings, handles, before ++ actions, by rw [run?_append, hb]; exact h⟩

theorem Reachable.step {a : Action} (hg : g.Reachable) (hs : g.step? a = some g₁) : g₁.Reachable :=
  have hone : g.run? [a] = some g₁ := by simp [run?, hs]
  hg.run hone

/-- What holds before a run and is kept by every step from a state that can be reached holds after
it. -/
theorem Reachable.run_induction {P : Gateway → Prop} {actions : List Action} (hg : g.Reachable)
    (start : P g)
    (step : ∀ a ∈ actions, ∀ g g₁, g.Reachable → g₁.release.Reachable → P g → Course g a g₁ →
      P g₁.release)
    (h : g.run? actions = some g') : P g' := by
  induction actions generalizing g with
  | nil =>
    obtain rfl := Option.some.inj h
    exact start
  | cons a rest ih =>
    obtain ⟨g₁, h₁, hr⟩ := Option.bind_eq_some_iff.1 h
    obtain ⟨g₂, hc, rfl⟩ := exists_course_of_step? h₁
    have hone : g.run? [a] = some g₂.release := by simp [run?, h₁]
    exact ih (hg.run hone) (step a (by simp) g g₂ hg (hg.run hone) start hc)
      (fun b hb => step b (List.mem_cons_of_mem a hb)) hr

/-- What holds of a new gateway and is kept by every step from a state that can be reached holds of
every state. -/
theorem Reachable.induction_of_reachable {P : Gateway → Prop}
    (create : ∀ settings handles, P (create settings handles))
    (step : ∀ a g g₁, g.Reachable → g₁.release.Reachable → P g → Course g a g₁ → P g₁.release)
    (hg : g.Reachable) : P g := by
  obtain ⟨settings, handles, actions, h⟩ := hg
  exact Reachable.run_induction ⟨settings, handles, [], rfl⟩ (create settings handles)
    (fun a _ => step a) h

/-! ### What readers see -/

/-- Whether readers have seen leaders under rising terms, until the shutdown if there was one. -/
structure Chronological (g : Gateway) : Prop where
  history : ∃ (ss : List Snapshot) (closing : List Published),
    g.history = .notElected :: ss.map .elected ++ closing ∧
      (closing = [] ∨ closing = [.closed]) ∧
      ss.Pairwise fun s s' => s.leader.term < s'.leader.term
  /-- Of two reads at moments of the past. -/
  reads : ∀ i j, i ≤ j → (shown (g.facts.take j)).Succeeds (shown (g.facts.take i))
  /-- Of a read now and one at any later time. -/
  later : ∀ actions g', g.run? actions = some g' → g'.channel.value.Succeeds g.channel.value
  leaders : ∀ actions g' l l', g.run? actions = some g' → g.leader? = some l → g'.leader? = some l' →
    l.term ≤ l'.term ∧ (l.term = l'.term → l = l')

theorem Serialized.history (h : g.Serialized) : ∃ (ss : List Snapshot) (closing : List Published),
    g.history = .notElected :: ss.map .elected ++ closing ∧
      (closing = [] ∨ closing = [.closed]) ∧
      ss.Pairwise fun s s' => s.leader.term < s'.leader.term := by
  obtain ⟨ss, hp, hrise, -, -⟩ := Serial.publications_replay g.completed
  obtain ⟨⟨news, ht, hn, -⟩, -⟩ := h.adds
  have ht : g.trace = (Serial.replay g.completed).trace ++ news := ht
  have hfacts : publications g.facts = publications (Serial.replay g.completed).trace := by
    rw [← publications_filter g.served g.facts]
    exact (congrArg publications ht).trans (by rw [publications_append, hn, List.append_nil])
  refine ⟨ss, if (Serial.replay g.completed).writer.closed then [.closed] else [], ?_, ?_, hrise⟩
  · unfold Gateway.history
    rw [hfacts, hp]
    rfl
  · split_ifs
    · exact .inr rfl
    · exact .inl rfl

theorem Serialized.pairwise_history (h : g.Serialized) : g.history.Pairwise Published.Precedes := by
  obtain ⟨ss, closing, he, hc, hrise⟩ := h.history
  rw [he, List.cons_append, List.pairwise_cons, List.pairwise_append]
  refine ⟨fun p hp => ?_, ?_, ?_, fun p hp q hq => ?_⟩
  · rcases List.mem_append.1 hp with hp | hp
    · obtain ⟨s, -, rfl⟩ := List.mem_map.1 hp
      trivial
    · rcases hc with rfl | rfl
      · simp at hp
      · obtain rfl := List.mem_singleton.1 hp
        trivial
  · exact List.pairwise_map.2 hrise
  · rcases hc with rfl | rfl
    · exact .nil
    · exact List.pairwise_singleton _ _
  · obtain ⟨s, -, rfl⟩ := List.mem_map.1 hp
    rcases hc with rfl | rfl
    · simp at hq
    · obtain rfl := List.mem_singleton.1 hq
      trivial

/-- Where one beginning of the journal is part of another, what is shown after it comes first. -/
theorem Serialized.succeeds (h : g.Serialized) {earlier later : List Fact} (hl : later <+: g.facts)
    (he : earlier <+: later) : (shown later).Succeeds (shown earlier) := by
  have hpre : ∀ {fs gs : List Fact}, fs <+: gs →
      Published.notElected :: publications fs <+: .notElected :: publications gs := fun hp =>
    (List.cons_prefix_cons.2 ⟨rfl, hp.filterMap _⟩)
  rw [shown_eq_getLast, shown_eq_getLast]
  exact Published.succeeds_of_precedes
    (getLast_of_isPrefix h.pairwise_history (hpre hl) (hpre he) _ _)

theorem chronological_of_reachable (hg : g.Reachable) : g.Chronological := by
  have h := serialized_of_reachable hg
  have hlater : ∀ actions g', g.run? actions = some g' →
      g'.channel.value.Succeeds g.channel.value := by
    intro actions g' hr
    have h' := serialized_of_reachable (hg.run hr)
    rw [h.value, h'.value]
    exact h'.succeeds List.prefix_rfl (facts_prefix_run hr)
  exact {
    history := h.history
    reads i j hij := h.succeeds (List.take_prefix j g.facts) (List.take_prefix_take_left hij)
    later := hlater
    leaders actions g' l l' hr hl hl' := by
      have hs := hlater actions g' hr
      obtain ⟨s, hv, rfl⟩ := leader?_eq_some_iff.1 hl
      obtain ⟨s', hv', rfl⟩ := leader?_eq_some_iff.1 hl'
      obtain ⟨hle, heq⟩ := hs.terms s s' hv hv'
      exact ⟨hle, fun ht => congrArg Snapshot.leader (heq ht)⟩ }

/-- A leader that is elected again, and a shutdown. -/
def renewal : List Action :=
  elect 0 .tracker ⟨.numbered "a" 1, ⟨1⟩⟩ .silent ++
    undertake 1 .tracker (.notice (.direct ⟨.numbered "a" 1, ⟨2⟩⟩)) .silent 2 ++
    undertake 2 .tracker .shutdown .silent 2

theorem chronological_of_renewal :
    ∃ g, (create (.ofOptions {}) [.tracker]).run? renewal = some g ∧
      g.history.length = 4 ∧ g.Chronological :=
  ⟨_, rfl, rfl, chronological_of_reachable ⟨.ofOptions {}, [.tracker], renewal, rfl⟩⟩

end Gateway

end LeaderRouting
