import LeaderRouting.Proofs.Submission.Records
import LeaderRouting.Proofs.Tracker.Ascent

/-!
How long connections live.  That of the tracked leader stays open as long as anybody is left who shares
the gateway, whoever that is and in whatever order the others went, and is closed, once, when the last
one goes.
-/

namespace LeaderRouting.Gateway

/-- Whether nothing refers to an open connection, or keeps a tracker, that should have been let go. -/
structure Tidy (g : Gateway) : Prop where
  referenced : ∀ n x, g.connections[n]? = some x → x.closed = false → g.isReferenced n = true
  abandoned : g.connections ≠ [] → g.trackerHeld = false → g.channel.abandoned = true

/-- Whether connections live as long as anybody is left, by a handle or an unfinished call, and no
longer, unless someone keeps a snapshot by itself. -/
structure Scoped (g : Gateway) (actions : List Action) : Prop where
  /-- Without a shutdown the last connection is that of the leader that is shown. -/
  current : (∀ k ∈ g.calls, k.task ≠ .shutdown) → g.connections ≠ [] →
    ∃ s, g.channel.value = .elected s ∧ s.connection + 1 = g.connections.length
  /-- It is open as long as anybody is left, be it without the tracker. -/
  stays : ¬g.IsDeserted → ∀ s, g.channel.value = .elected s →
    g.connections[s.connection]? = some ⟨s.leader.member, false, false, 0⟩ ∧
      .closed s.connection ∉ turnovers g.facts
  /-- It is closed in the step with which the last one goes. -/
  moment : ∀ a g' s, ¬g.IsDeserted → g.step? a = some g' → g'.IsDeserted →
    g'.channel.value = .elected s → (∀ p ∈ g'.held, p.2.connection ≠ s.connection) →
    .closed s.connection ∉ turnovers g.facts ∧
      (turnovers g'.facts).count (.closed s.connection) = 1
  /-- Once nobody is left, every connection that was ever opened is closed, and was so once. -/
  closed : g.IsDeserted → ∀ n, .opened n ∈ turnovers g.facts →
    ((turnovers g.facts).count (.closed n) = 1 ∧
      ∃ x, g.connections[n]? = some x ∧ x.IsReleased) ∨ ∃ p ∈ g.held, p.2.connection = n
  /-- It is never closed again. -/
  once : ∀ n, (turnovers g.facts).count (.closed n) ≤ 1
  /-- Nobody comes back. -/
  final : g.IsDeserted → ∀ later g', g.run? later = some g' → g'.IsDeserted
  /-- No snapshot is kept by itself unless someone asked for it. -/
  held : (∀ name, .hold name ∉ actions) → g.held = []

variable {g g₁ g' : Gateway} {a : Action} {actions : List Action} {k : Call} {n i : Nat}
  {s : Snapshot} {x : Connection}

/-! ### What is let go of -/

theorem snapshots_closeConnection (g : Gateway) (n : Nat) :
    (g.closeConnection n).snapshots = g.snapshots := by
  unfold closeConnection
  split
  · rfl
  · split_ifs <;> rfl

theorem open_closeConnection (hx : (g.closeConnection n).connections[i]? = some x)
    (ho : x.closed = false) : i ≠ n ∧ g.connections[i]? = some x := by
  unfold closeConnection connection? at hx
  split at hx
  next hn =>
    refine ⟨?_, hx⟩
    rintro rfl
    rw [hn] at hx
    cases hx
  next y hy =>
    split_ifs at hx with hc
    · refine ⟨?_, hx⟩
      rintro rfl
      obtain rfl := Option.some.inj (hy.symm.trans hx)
      rw [hc] at ho
      cases ho
    · simp only [log, enter, List.getElem?_set] at hx
      split_ifs at hx with hi
      · obtain rfl := Option.some.inj hx
        rw [Connection.closed_close] at ho
        cases ho
      · exact ⟨Ne.symm hi, hx⟩

/-- Of these connections only those stay open that something refers to. -/
theorem open_foldl {l : List Nat}
    (hx : (l.foldl (fun g n => if g.isReferenced n then g else g.closeConnection n) g).connections[i]? =
      some x) (ho : x.closed = false) :
    g.connections[i]? = some x ∧ (i ∈ l → g.isReferenced i = true) := by
  induction l generalizing g with
  | nil => exact ⟨hx, by simp⟩
  | cons n l ih =>
    rw [List.foldl_cons] at hx
    obtain ⟨hopen, hl⟩ := ih hx
    split_ifs at hopen hl with hn
    · refine ⟨hopen, fun hi => ?_⟩
      rcases List.mem_cons.1 hi with rfl | hi
      · exact hn
      · exact hl hi
    · obtain ⟨hne, hopen⟩ := open_closeConnection hopen ho
      refine ⟨hopen, fun hi => ?_⟩
      have hkept := hl ((List.mem_cons.1 hi).resolve_left hne)
      rwa [isReferenced, snapshots_closeConnection] at hkept

theorem snapshots_releaseConnections (g : Gateway) : g.releaseConnections.snapshots = g.snapshots :=
  releaseConnections_induction (P := fun g' => g'.snapshots = g.snapshots) rfl
    fun g₁ n h => (snapshots_closeConnection g₁ n).trans h

theorem tidy_release (g : Gateway) : g.release.Tidy where
  referenced n x hx ho := by
    obtain ⟨hopen, hreferenced⟩ := open_foldl hx ho
    unfold release isReferenced
    rw [snapshots_releaseConnections]
    exact hreferenced (List.mem_range.2 (List.getElem?_eq_some_iff.1 hopen).1)
  abandoned _ ht := by
    rw [trackerHeld_eq, isKept_release, ← trackerHeld_eq] at ht
    rw [abandoned_release]
    unfold releaseTracker
    split_ifs with h
    · simpa [ht] using h
    · rfl

theorem tidy_of_reachable (hg : g.Reachable) : g.Tidy :=
  hg.induction (fun _ _ => ⟨by simp [create], by simp [create]⟩) fun _ g₁ _ _ => tidy_release g₁

/-! ### Whoever is left -/

theorem channelHeld_eq_false_iff : g.channelHeld = false ↔ g.IsDeserted := by
  simp [channelHeld, IsDeserted]

theorem hasSubscriber_of_not_isDeserted (h : ¬g.IsDeserted) : g.hasSubscriber = true := by
  rw [← channelHeld_eq_false_iff, Bool.not_eq_false] at h
  simp [hasSubscriber, h]

theorem trackerHeld_of_isDeserted (h : g.IsDeserted) : g.trackerHeld = false := by
  obtain ⟨hhandles, hcalls⟩ := h
  simp only [trackerHeld, hhandles, List.any_nil, Bool.false_or, List.any_eq_false]
  intro k hk
  simp [hcalls k hk]

/-- Once nobody is left, only a snapshot that someone keeps by itself keeps a connection open. -/
theorem Tidy.exists_held (h : g.Tidy) (hd : g.IsDeserted) (hx : g.connections[n]? = some x)
    (ho : x.closed = false) : ∃ p ∈ g.held, p.2.connection = n := by
  obtain ⟨s, hs, hn⟩ := List.any_eq_true.1 (h.referenced n x hx ho)
  have hne : g.connections ≠ [] := by
    rintro he
    simp [he] at hx
  have habandoned := h.abandoned hne (trackerHeld_of_isDeserted hd)
  have hchannel := channelHeld_eq_false_iff.2 hd
  simp only [snapshots, habandoned, if_true, hchannel, Bool.false_eq_true, if_false, List.nil_append,
    List.mem_append, List.mem_filterMap, List.mem_map] at hs
  rcases hs with ⟨k, hk, hs⟩ | ⟨p, hp, rfl⟩
  · rw [Phase.snapshot?_of_ended (hd.2 k hk)] at hs
    cases hs
  · exact ⟨p, hp, by simpa using hn⟩

/-- Nobody comes to share a gateway that nobody shares. -/
theorem isDeserted_of_run (hg : g.Reachable) (hr : g.run? actions = some g') (hd : g.IsDeserted) :
    g'.IsDeserted := by
  refine hg.run_induction (P := IsDeserted) hd ?_ hr
  intro a _ g g₁ hg _ hd hc
  have hrooted := (serialized_of_reachable hg).toRooted
  have houtline := outline_of_transition hc.transition
  rw [← channelHeld_eq_false_iff, channelHeld_eq, Bool.eq_false_iff] at hd ⊢
  rw [isKept_release]
  exact fun hkept => hd
    (isKept_of_outline (fun _ _ _ _ => rfl) hrooted houtline (hrooted.outline houtline).ids hkept)

theorem held_subset_of_act? (h : g.act? a = some g₁) (hn : ∀ name, a ≠ .hold name) :
    g₁.held ⊆ g.held := by
  cases a with
  | hold name => exact absurd rfl (hn name)
  | letGo name =>
    obtain rfl := Option.some.inj h
    exact List.filter_sublist.subset
  | run c env =>
    simp only [act?, runCall?] at h
    split at h
    · cases h
    next k hk =>
      simp only [Option.ite_none_right_eq_some, Option.some.injEq] at h
      obtain ⟨hr, rfl⟩ := h
      rw [(turn_proceed env hk hr).held]
      exact List.Subset.refl _
  | start c handle task seen =>
    simp only [act?, start?, Option.ite_none_right_eq_some, Option.some.injEq] at h
    obtain ⟨-, rfl⟩ := h
    exact List.Subset.refl _
  | abandon c =>
    simp only [act?, abandon?] at h
    split at h
    · cases h
    · simp only [Option.ite_none_right_eq_some, Option.some.injEq] at h
      obtain ⟨-, rfl⟩ := h
      exact List.Subset.refl _
  | share source target =>
    simp only [act?, share?, Option.ite_none_right_eq_some, Option.some.injEq] at h
    obtain ⟨-, rfl⟩ := h
    exact List.Subset.refl _
  | drop handle =>
    simp only [act?, drop?, Option.ite_none_right_eq_some, Option.some.injEq] at h
    obtain ⟨-, rfl⟩ := h
    exact List.Subset.refl _
  | advance time =>
    obtain ⟨-, rfl⟩ := advance?_eq_some_iff.1 h
    exact List.Subset.refl _

theorem held_subset_of_run (hr : g.run? actions = some g') (hn : ∀ name, .hold name ∉ actions) :
    g'.held ⊆ g.held := by
  induction actions generalizing g with
  | nil =>
    obtain rfl := Option.some.inj hr
    exact List.Subset.refl _
  | cons a actions ih =>
    obtain ⟨g₁, hs, hr⟩ := Option.bind_eq_some_iff.1 hr
    obtain ⟨g₂, ha, rfl⟩ := Option.map_eq_some_iff.1 hs
    have hstep := held_subset_of_act? ha fun name he => hn name (he ▸ List.mem_cons_self)
    have hrest := ih hr fun name hm => hn name (List.mem_cons_of_mem a hm)
    rw [held_release] at hrest
    exact List.Subset.trans hrest hstep

/-! ### Connections over time -/

theorem Serialized.closed_notMem (h : g.Serialized) (hx : g.connections[n]? = some x)
    (ho : x.releases = 0) : .closed n ∉ turnovers g.facts := by
  rw [← List.count_eq_zero, h.count_closed hx, ho]

/-- A connection that is to be opened has not been closed. -/
theorem Serialized.closed_notMem_of_le (h : g.Serialized) (hn : g.connections.length ≤ n) :
    .closed n ∉ turnovers g.facts := by
  intro hm
  have hlt : Turnover.connection (.closed n) < g.connections.length :=
    connection_lt_of_mem_relay (h.turnovers_prefix.subset hm)
  exact absurd hlt (Nat.not_lt.2 hn)

theorem Serialized.stays (h : g.Serialized) (hd : ¬g.IsDeserted) (hv : g.channel.value = .elected s) :
    g.connections[s.connection]? = some ⟨s.leader.member, false, false, 0⟩ ∧
      .closed s.connection ∉ turnovers g.facts := by
  have hx := h.connection_of_elected (hasSubscriber_of_not_isDeserted hd) hv
  exact ⟨hx, h.closed_notMem hx rfl⟩

/-- Without a shutdown there is a leader once there was one. -/
theorem Serialized.exists_elected (h : g.Serialized) (hn : ∀ k ∈ g.calls, k.task ≠ .shutdown)
    (hne : g.connections ≠ []) :
    ∃ s, g.channel.value = .elected s ∧ s.connection + 1 = g.connections.length := by
  have hlive : g.writer.closed = false := by
    by_contra hc
    rw [h.writer, Bool.not_eq_false] at hc
    obtain ⟨op, hop, hu⟩ := Serial.exists_shutdown_of_closed hc
    obtain ⟨k, -, hk, -, hupdate, -⟩ := exists_call?_of_completed hop
    exact hn k (mem_of_call? hk) (Task.eq_shutdown_of_update? (hu ▸ hupdate))
  cases hc : g.writer.current with
  | none => exact absurd (List.eq_nil_of_length_eq_zero (h.length_of_vacant hlive hc)) hne
  | some s => exact ⟨s, (h.elected_iff s).2 hc, (h.length_of_current hc).symm⟩

/-- Once nobody is left, a connection is released unless someone keeps a snapshot of it. -/
theorem isReleased_of_isDeserted (hg : g.Reachable) (hd : g.IsDeserted)
    (hx : g.connections[n]? = some x) : x.IsReleased ∨ ∃ p ∈ g.held, p.2.connection = n := by
  rcases (serialized_of_reachable hg).open_or_released hx with ho | hr
  · exact .inr ((tidy_of_reachable hg).exists_held hd hx (by rw [ho]))
  · exact .inl hr

theorem closed_of_isDeserted (hg : g.Reachable) (hd : g.IsDeserted)
    (hn : n < g.connections.length) :
    ((turnovers g.facts).count (.closed n) = 1 ∧
      ∃ x, g.connections[n]? = some x ∧ x.IsReleased) ∨ ∃ p ∈ g.held, p.2.connection = n := by
  have hx : g.connections[n]? = some g.connections[n] := List.getElem?_eq_getElem hn
  refine (isReleased_of_isDeserted hg hd hx).imp_left fun hr => ⟨?_, _, hx, hr⟩
  rw [(serialized_of_reachable hg).count_closed hx, hr.2.2]

/-- The connection that is current in the end was not closed before, unless it is new. -/
theorem closed_notMem_of_step (hg : g.Reachable) (hd : ¬g.IsDeserted) (hs : g.step? a = some g')
    (hv : g'.channel.value = .elected s) : .closed s.connection ∉ turnovers g.facts := by
  have hser := serialized_of_reachable hg
  have hg' := hg.step hs
  have hser' := serialized_of_reachable hg'
  have hr : g.run? [a] = some g' := by simp [run?, hs]
  have hcurrent' := (hser'.elected_iff s).1 hv
  have hlength' := hser'.length_of_current hcurrent'
  rcases Nat.lt_or_ge s.connection g.connections.length with hlt | hge
  · have hlive' : g'.writer.closed = false := by
      by_contra hc
      rw [hser'.vacant (by simpa using hc)] at hcurrent'
      cases hcurrent'
    have hlive := (term_le_of_run hg hr hlive').1
    -- No connection was opened meanwhile.
    have hle : g.connections.length ≤ s.connection + 1 := by
      by_contra hlonger
      have hgrown := lt_length_of_run hg hr (Nat.not_le.1 hlonger)
      omega
    cases hc : g.writer.current with
    | none =>
      have hvacant := hser.length_of_vacant hlive hc
      omega
    | some s₀ =>
      have hlength := hser.length_of_current hc
      have he : s₀.connection = s.connection := by omega
      exact he ▸ (hser.stays hd ((hser.elected_iff s₀).2 hc)).2
  · exact hser.closed_notMem_of_le hge

/-! ### Every run -/

theorem scoped_of_run (settings : Settings) (handles : List Handle)
    (hr : (create settings handles).run? actions = some g) : g.Scoped actions := by
  have hg : g.Reachable := ⟨settings, handles, actions, hr⟩
  have h := serialized_of_reachable hg
  exact {
    current := h.exists_elected
    stays hd _ := h.stays hd
    moment a g' s hd hs hd' hv hn := by
      have hg' := hg.step hs
      have hcurrent := ((serialized_of_reachable hg').elected_iff s).1 hv
      have hlength := (serialized_of_reachable hg').length_of_current hcurrent
      refine ⟨closed_notMem_of_step hg hd hs hv, ?_⟩
      rcases closed_of_isDeserted hg' hd' (n := s.connection) (by omega) with hc | ⟨p, hp, he⟩
      · exact hc.1
      · exact absurd he (hn p hp)
    closed hd n ho := closed_of_isDeserted hg hd
      (connection_lt_of_mem_relay (x := .opened n) (h.turnovers_prefix.subset ho))
    once n := List.nodup_iff_count_le_one.1 h.nodup_turnovers _
    final hd _ _ hrun := isDeserted_of_run hg hrun hd
    held hn := List.eq_nil_of_subset_nil (held_subset_of_run hr hn) }

/-- Two leaders in turn.  The tracker goes first, then the client while its request is in flight, which
is given up in the end. -/
def departure : List Action :=
  elect 0 .tracker ⟨.numbered "a" 1, ⟨1⟩⟩ .silent ++ elect 1 .tracker ⟨.numbered "b" 2, ⟨2⟩⟩ .silent ++
    [.share .tracker .submitter, .drop .tracker] ++
    ask 2 .submitter .silent 3 ++ [.drop .submitter, .abandon 2]

theorem scoped_of_departure :
    ∃ g, (create (.ofOptions {}) [.tracker]).run? departure = some g ∧ g.IsDeserted ∧
      turnovers g.facts = [.opened 0, .opened 1, .closed 0, .closed 1] ∧ g.Scoped departure :=
  ⟨_, rfl, ⟨rfl, by decide⟩, rfl, scoped_of_run (.ofOptions {}) [.tracker] rfl⟩

end LeaderRouting.Gateway
