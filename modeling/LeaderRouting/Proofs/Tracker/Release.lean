import LeaderRouting.Proofs.Tracker.Atomicity

/-!
What is let go of at the end of a step.  As long as anybody receives what is published, no connection
is; afterwards it is at most that to the last leader.
-/

namespace LeaderRouting

theorem Connection.closed_close (k : Connection) : k.close.closed = true := by
  unfold close mark
  split_ifs <;> simp [*, retire, release]

namespace Serial

/-- Whether no connection is open but that to the current leader. -/
def OnlyCurrentOpen (t : Serial) : Prop :=
  ∀ n k, t.connections[n]? = some k → k.closed = false →
    ∃ s, t.writer.current = some s ∧ s.connection = n

variable {t : Serial}

theorem close_close (t : Serial) (n : Nat) : (t.close n).close n = t.close n := by
  cases h : t.connections[n]? with
  | none => simp [close, h]
  | some k =>
    have hn := (List.getElem?_eq_some_iff.1 h).1
    by_cases hk : k.closed = true
    · simp [close, h, hk]
    · refine close_of_closed (k := k.close) ?_ k.closed_close
      have he : (t.close n).connections = t.connections.set n k.close := by
        simp [close, h, hk, note]
      rw [he, List.getElem?_set_self hn]

theorem letGo_letGo (t : Serial) : t.letGo.letGo = t.letGo := by
  have hw : t.letGo.writer = t.writer := writer_closePrevious _ _
  unfold letGo at hw ⊢
  rw [hw]
  cases t.writer.current with
  | none => rfl
  | some s => exact close_close t s.connection

/-- Where only the current connection is open, closing any is closing that one, or nothing. -/
theorem close_of_onlyCurrentOpen (h : t.OnlyCurrentOpen) (n : Nat) :
    t.close n = t ∨ t.close n = t.letGo := by
  cases hk : t.connections[n]? with
  | none => exact .inl (by simp [close, hk])
  | some k =>
    by_cases hc : k.closed = true
    · exact .inl (close_of_closed hk hc)
    · obtain ⟨s, hs, rfl⟩ := h n k hk (by simpa using hc)
      exact .inr (by simp [letGo, hs, closePrevious])

theorem onlyCurrentOpen_close (h : t.OnlyCurrentOpen) (n : Nat) : (t.close n).OnlyCurrentOpen := by
  intro i k hk hc
  rw [writer_close]
  refine h i k ?_ hc
  unfold close at hk
  split at hk
  · exact hk
  · split_ifs at hk
    · exact hk
    · simp only [note, List.getElem?_set] at hk
      split_ifs at hk
      · obtain rfl := Option.some.inj hk
        simp [Connection.closed_close] at hc
      · exact hk

theorem Coherent.onlyCurrentOpen (h : t.Coherent) : t.OnlyCurrentOpen := by
  intro n k hk hc
  by_contra hn
  have hr := h.others n k hk fun s hs he => hn ⟨s, hs, he⟩
  simp [hr.1] at hc

theorem onlyCurrentOpen_letGo (h : t.OnlyCurrentOpen) : t.letGo.OnlyCurrentOpen := by
  unfold letGo
  cases t.writer.current with
  | none => exact h
  | some s => exact onlyCurrentOpen_close h s.connection

end Serial

namespace Gateway

variable {g g₁ g' : Gateway} {c : CallId} {k : Call}

/-! ### The tracker -/

theorem isKept_wakeAll (g : Gateway) (kind : Handle → Bool) :
    g.wakeAll.isKept kind = g.isKept kind := by
  simp [isKept, wakeAll, List.any_map, Function.comp_def]

theorem tracked_releaseTracker (g : Gateway) : g.releaseTracker.tracked = g.tracked := by
  unfold releaseTracker
  split_ifs <;> rfl

theorem keeps_releaseTracker (g : Gateway) : Keeps g g.releaseTracker := by
  unfold releaseTracker
  split_ifs
  · exact .refl g
  · exact (keeps_setChannel _).trans keeps_wakeAll

theorem isKept_releaseTracker (g : Gateway) (kind : Handle → Bool) :
    g.releaseTracker.isKept kind = g.isKept kind := by
  unfold releaseTracker
  split_ifs
  · rfl
  · exact isKept_wakeAll { g with channel := { g.channel with abandoned := true } } kind

theorem Rooted.releaseTracker (h : g.Rooted) : g.releaseTracker.Rooted := by
  unfold Gateway.releaseTracker
  split_ifs with hh
  · exact h
  · have hroles := role_wakeAll { g with channel := { g.channel with abandoned := true } }
    refine ⟨ids_eq_of_roles hroles ▸ h.ids, owned_of_roles hroles h.owned, fun ht => ?_⟩
    rw [trackerHeld_eq, isKept_wakeAll] at ht
    have ht : g.trackerHeld = true := ht
    simp [ht] at hh

theorem abandoned_releaseTracker (h : g.channel.abandoned = true) :
    g.releaseTracker.channel.abandoned = true := by
  simp [releaseTracker, h]

/-! ### Connections -/

/-- What holds of a state, and goes on to hold when a connection is closed, holds once the connections
that nothing refers to are closed. -/
theorem releaseConnections_induction {P : Gateway → Prop} (h : P g)
    (close : ∀ g n, P g → P (g.closeConnection n)) : P g.releaseConnections := by
  unfold releaseConnections
  generalize List.range g.connections.length = l
  induction l generalizing g with
  | nil => exact h
  | cons n l ih =>
    rw [List.foldl_cons]
    split_ifs
    · exact ih h
    · exact ih (close g n h)

theorem keeps_releaseConnections (g : Gateway) : Keeps g g.releaseConnections :=
  releaseConnections_induction (.refl g) fun _ n h => h.trans (keeps_closeConnection n)

theorem turn_releaseConnections (c : CallId) (g : Gateway) : Turn c g g.releaseConnections :=
  releaseConnections_induction (.refl c g) fun _ n h => h.trans (turn_closeConnection n)

/-- Closing a connection changes neither calls nor the writer nor what is published. -/
theorem frame_closeConnection (g : Gateway) (n : Nat) :
    (g.closeConnection n).calls = g.calls ∧ (g.closeConnection n).handles = g.handles ∧
      (g.closeConnection n).channel = g.channel ∧ (g.closeConnection n).writer = g.writer := by
  unfold closeConnection
  split
  · exact ⟨rfl, rfl, rfl, rfl⟩
  · split_ifs <;> exact ⟨rfl, rfl, rfl, rfl⟩

theorem frame_releaseConnections (g : Gateway) :
    g.releaseConnections.calls = g.calls ∧ g.releaseConnections.handles = g.handles ∧
      g.releaseConnections.channel = g.channel ∧ g.releaseConnections.writer = g.writer := by
  refine releaseConnections_induction (P := fun g' => g'.calls = g.calls ∧ g'.handles = g.handles ∧
    g'.channel = g.channel ∧ g'.writer = g.writer) ⟨rfl, rfl, rfl, rfl⟩ ?_
  rintro g₁ n ⟨h₁, h₂, h₃, h₄⟩
  obtain ⟨e₁, e₂, e₃, e₄⟩ := frame_closeConnection g₁ n
  exact ⟨e₁.trans h₁, e₂.trans h₂, e₃.trans h₃, e₄.trans h₄⟩

theorem Rooted.closeConnection (h : g.Rooted) (n : Nat) : (g.closeConnection n).Rooted := by
  obtain ⟨h₁, h₂, h₃, -⟩ := frame_closeConnection g n
  refine ⟨h₁ ▸ h.ids, h₁ ▸ h.owned, fun ht => h₃ ▸ h.kept ?_⟩
  unfold trackerHeld at ht ⊢
  rwa [h₁, h₂] at ht

theorem Rooted.releaseConnections (h : g.Rooted) : g.releaseConnections.Rooted :=
  releaseConnections_induction h fun _ n h => h.closeConnection n

/-- Where only the current connection is open, it is the only one that can be closed. -/
theorem tracked_releaseConnections (h : g.tracked.OnlyCurrentOpen) :
    g.releaseConnections.tracked = g.tracked ∨ g.releaseConnections.tracked = g.tracked.letGo := by
  have hclose : ∀ n, g.tracked.close n = g.tracked ∨ g.tracked.close n = g.tracked.letGo :=
    Serial.close_of_onlyCurrentOpen h
  -- Once it is closed, nothing is left to close.
  have hgone : ∀ n, g.tracked.letGo.close n = g.tracked.letGo := by
    intro n
    have hl := Serial.close_of_onlyCurrentOpen (Serial.onlyCurrentOpen_letGo h) n
    rwa [Serial.letGo_letGo, or_self] at hl
  refine releaseConnections_induction
    (P := fun g' => g'.tracked = g.tracked ∨ g'.tracked = g.tracked.letGo) (.inl rfl) ?_
  rintro g₁ n (h₁ | h₁) <;> rw [tracked_closeConnection, h₁]
  · exact hclose n
  · exact .inr (hgone n)

/-- Where every open connection is referred to, nothing is let go. -/
theorem releaseConnections_eq_self
    (h : ∀ n k, g.connections[n]? = some k → k.closed = false → g.isReferenced n = true) :
    g.releaseConnections = g := by
  unfold releaseConnections
  generalize List.range g.connections.length = l
  induction l with
  | nil => rfl
  | cons n l ih =>
    rw [List.foldl_cons]
    split_ifs with hn
    · exact ih
    · have he : g.closeConnection n = g := by
        unfold closeConnection connection?
        cases hk : g.connections[n]? with
        | none => rfl
        | some k =>
          have hc : k.closed = true := by
            by_contra hc
            exact hn (h n k hk (by simpa using hc))
          simp [hc]
      rw [he]
      exact ih

/-! ### Both -/

theorem keeps_release (g : Gateway) : Keeps g g.release :=
  (keeps_releaseTracker g).trans (keeps_releaseConnections _)

/-- Apart from the tracker, letting go is like a turn, whoever's it is. -/
theorem exists_turn_release (g : Gateway) (c : CallId) : ∃ g₁, Turn c g₁ g.release ∧
    g₁.settings = g.settings ∧ g₁.now = g.now ∧ g₁.journal = g.journal := by
  refine ⟨g.releaseTracker, turn_releaseConnections c _, ?_⟩
  unfold releaseTracker
  split_ifs <;> exact ⟨rfl, rfl, rfl⟩

theorem settings_release (g : Gateway) : g.release.settings = g.settings := by
  obtain ⟨g₁, ht, hs, -, -⟩ := exists_turn_release g 0
  exact ht.settings.trans hs

theorem now_release (g : Gateway) : g.release.now = g.now := by
  obtain ⟨g₁, ht, -, hn, -⟩ := exists_turn_release g 0
  exact ht.now.trans hn

theorem writer_release (g : Gateway) : g.release.writer = g.writer := by
  unfold release
  rw [(frame_releaseConnections _).2.2.2]
  unfold releaseTracker
  split_ifs <;> rfl

theorem abandoned_release (g : Gateway) :
    g.release.channel.abandoned = g.releaseTracker.channel.abandoned := by
  unfold release
  rw [(frame_releaseConnections _).2.2.1]

theorem handles_release (g : Gateway) : g.release.handles = g.handles := by
  unfold release
  rw [(frame_releaseConnections _).2.1]
  unfold releaseTracker
  split_ifs <;> rfl

theorem held_closeConnection (g : Gateway) (n : Nat) : (g.closeConnection n).held = g.held := by
  unfold closeConnection
  split
  · rfl
  · split_ifs <;> rfl

theorem held_release (g : Gateway) : g.release.held = g.held := by
  have hconnections : g.release.held = g.releaseTracker.held :=
    releaseConnections_induction (P := fun g' => g'.held = g.releaseTracker.held) rfl
      fun g₁ n h => (held_closeConnection g₁ n).trans h
  rw [hconnections]
  unfold releaseTracker
  split_ifs <;> rfl

theorem value_release (g : Gateway) : g.release.channel.value = g.channel.value ∧
    g.release.channel.version = g.channel.version := by
  unfold release
  rw [(frame_releaseConnections _).2.2.1]
  unfold releaseTracker
  split_ifs <;> exact ⟨rfl, rfl⟩

/-- Letting go wakes at most those who sleep. -/
theorem call?_release (g : Gateway) (c : CallId) :
    g.release.call? c = g.call? c ∨ g.release.call? c = (g.call? c).map Call.wake := by
  have hcalls : g.release.call? c = g.releaseTracker.call? c := by
    unfold release call?
    rw [(frame_releaseConnections _).1]
  rw [hcalls]
  unfold releaseTracker
  split_ifs
  · exact .inl rfl
  · exact .inr (call?_wakeAll { g with channel := { g.channel with abandoned := true } } c)

/-- Letting go does nothing to a call but to wake it. -/
theorem exists_call?_release (hk : g.call? c = some k) : ∃ k', g.release.call? c = some k' ∧
    k'.task = k.task ∧ (k'.phase = k.phase ∨ k'.phase = k.phase.wake) := by
  rcases call?_release g c with he | he
  · exact ⟨k, he.trans hk, rfl, .inl rfl⟩
  · exact ⟨k.wake, by rw [he, hk]; rfl, rfl, .inr rfl⟩

/-- Letting go makes no calls. -/
theorem exists_call?_of_release (hk : g.release.call? c = some k) : ∃ k₁, g.call? c = some k₁ ∧
    k.task = k₁.task ∧ (k.phase = k₁.phase ∨ k.phase = k₁.phase.wake) := by
  rcases call?_release g c with he | he <;> rw [hk] at he
  · exact ⟨k, he.symm, rfl, .inl rfl⟩
  · obtain ⟨k₁, hk₁, rfl⟩ := Option.map_eq_some_iff.1 he.symm
    exact ⟨k₁, hk₁, rfl, .inr rfl⟩

theorem Rooted.release (h : g.Rooted) : g.release.Rooted :=
  h.releaseTracker.releaseConnections

theorem Disciplined.release (h : g.Disciplined) : g.release.Disciplined :=
  h.congr h.toRooted.release (keeps_release g).lock (writer_release g) (keeps_release g).callFacts
    fun d task st _ => by rw [(keeps_release g).standing]

theorem completed_release (g : Gateway) : g.release.completed = g.completed := by
  have h := keeps_release g
  exact completed_of_standing (served_congr h.callFacts) (fun d _ => h.standing d)
    (refusal?_congr h.callFacts)

theorem isKept_release (g : Gateway) (kind : Handle → Bool) :
    g.release.isKept kind = g.isKept kind := by
  obtain ⟨hcalls, hhandles, -, -⟩ := frame_releaseConnections g.releaseTracker
  rw [← isKept_releaseTracker g kind]
  unfold release isKept
  rw [hcalls, hhandles]

theorem hasSubscriber_of_release (hs : g.release.hasSubscriber = true) :
    g.hasSubscriber = true := by
  unfold hasSubscriber at hs ⊢
  rw [channelHeld_eq, isKept_release, ← channelHeld_eq, abandoned_release] at hs
  cases ha : g.channel.abandoned with
  | false => rfl
  | true => simpa [abandoned_releaseTracker ha] using hs

/-- Who may keep a snapshot. -/
theorem mem_snapshots {s : Snapshot} (h : s ∈ g.snapshots) : g.writer.current = some s ∨
    g.channel.value.snapshot? = some s ∨ (∃ k ∈ g.calls, k.phase.snapshot? = some s) ∨
      ∃ name, (name, s) ∈ g.held := by
  simp only [snapshots, List.mem_append, List.mem_filterMap, List.mem_map, Prod.exists,
    exists_eq_right] at h
  rcases h with ((h | h) | h) | h
  · split_ifs at h
    · simp at h
    · exact .inl (by simpa using h)
  · split_ifs at h
    · exact .inr (.inl (by simpa using h))
    · simp at h
  · exact .inr (.inr (.inl h))
  · exact .inr (.inr (.inr h))

/-- The leader that is tracked and shown is referred to as long as anybody receives what is
published. -/
theorem isReferenced_of_current {s : Snapshot} (hs : g.hasSubscriber = true)
    (hc : g.writer.current = some s) (hv : g.channel.value = .elected s) :
    g.isReferenced s.connection = true := by
  refine List.any_eq_true.2 ⟨s, ?_, by simp⟩
  unfold snapshots
  cases ha : g.channel.abandoned with
  | false => simp [hc]
  | true =>
    have hheld : g.channelHeld = true := by simpa [hasSubscriber, ha] using hs
    simp [hheld, hv, Published.snapshot?]

/-- While anybody receives what is published, the only connection that is open is referred to: the
writer knows it, or readers are shown it. -/
theorem release_eq_releaseTracker (h : g.tracked.OnlyCurrentOpen)
    (hv : ∀ s, g.writer.current = some s → g.channel.value = .elected s)
    (hs : g.release.hasSubscriber = true) : g.release = g.releaseTracker := by
  have ht := tracked_releaseTracker g
  have hw : g.releaseTracker.writer = g.writer := congrArg Serial.writer ht
  have hvalue : g.releaseTracker.channel.value = g.channel.value := congrArg Serial.value ht
  have hheard : g.releaseTracker.hasSubscriber = true := by
    unfold hasSubscriber at hs ⊢
    rwa [abandoned_release, channelHeld_eq, isKept_release, ← isKept_releaseTracker,
      ← channelHeld_eq] at hs
  refine releaseConnections_eq_self fun n k hk hc => ?_
  obtain ⟨s, hcurrent, rfl⟩ := (ht ▸ h) n k hk hc
  exact isReferenced_of_current hheard hcurrent (hvalue.trans (hv s (hw ▸ hcurrent)))

theorem tracked_release (h : g.tracked.OnlyCurrentOpen)
    (hv : ∀ s, g.writer.current = some s → g.channel.value = .elected s) :
    g.release.tracked = g.tracked ∨
      g.release.hasSubscriber = false ∧ g.release.tracked = g.tracked.letGo := by
  have ht := tracked_releaseTracker g
  cases hs : g.release.hasSubscriber with
  | true =>
    rw [release_eq_releaseTracker h hv hs]
    exact .inl ht
  | false =>
    have hr := tracked_releaseConnections (g := g.releaseTracker) (ht ▸ h)
    rw [ht] at hr
    exact hr.imp id fun he => ⟨rfl, he⟩

end Gateway

end LeaderRouting
