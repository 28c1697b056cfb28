import LeaderRouting.Proofs.Tracker.Linearizability

/-!
The published value and the writer's copy of it never disagree, and of all connections only that to
the published leader is open.
-/

namespace LeaderRouting

open Gateway

namespace Serial

variable {t : Serial}

/-- Once the current connection is closed, every connection is. -/
theorem Coherent.isReleased_letGo (h : t.Coherent) {n : Nat} {k : Connection}
    (hk : t.letGo.connections[n]? = some k) : k.IsReleased := by
  refine isReleased_closePrevious (fun _ => False) ?_ ?_ hk id
  · exact fun s hs => (h.current s hs).2
  · exact fun i k hk _ hs => h.others i k hk hs

end Serial

namespace Gateway

/-- Whether the published value is whole: it is what the writer knows, its leader can be reached, and
no other connection is open. -/
structure Intact (g : Gateway) : Prop where
  elected : ∀ s, g.channel.value = .elected s ↔ g.writer.current = some s
  closed : g.channel.value = .closed ↔ g.writer.closed = true
  notElected : g.channel.value = .notElected ↔ g.writer.closed = false ∧ g.writer.current = none
  vacant : g.writer.closed = true → g.writer.current = none
  term : ∀ s, g.channel.value = .elected s → .zero < s.leader.term
  /-- As long as anybody receives what is published, be it only the tracker itself, the leader's
  connection is to the leader and open. -/
  live : g.hasSubscriber = true → ∀ s, g.channel.value = .elected s →
    g.connections[s.connection]? = some ⟨s.leader.member, false, false, 0⟩
  others : ∀ n k, g.connections[n]? = some k →
    (∀ s, g.channel.value = .elected s → s.connection ≠ n) → k.IsReleased
  /-- Whoever is about to publish is heard. -/
  heard : ∀ c k, g.call? c = some k → k.phase.contends = true → g.hasSubscriber = true

variable {g : Gateway}

theorem Serialized.heard (h : g.Serialized) {c : CallId} {k : Call} (hk : g.call? c = some k)
    (hc : k.phase.contends = true) : g.hasSubscriber = true := by
  have hs := standing?_of_call? hk
  have hu : ∃ u, k.task.update? = some u := by
    cases hp : k.phase with
    | queued u => exact ⟨u, h.queued c k.task u (by rw [hs, hp]; rfl)⟩
    | opening l openedAt => exact ⟨_, (h.opening c k.task l (by rw [hs, hp]; rfl)).1⟩
    | _ => simp [hp, Phase.contends] at hc
  obtain ⟨u, hu⟩ := hu
  have ha : g.channel.abandoned = false := by
    refine h.abandoned_of_call hk ?_ hu
    cases hp : k.phase <;> simp [hp, Phase.contends] at hc <;> rfl
  simp [hasSubscriber, ha]

/-- Every connection but the current one is released. -/
theorem Serialized.isReleased (h : g.Serialized) {n : Nat} {k : Connection}
    (hk : g.connections[n]? = some k)
    (hn : ∀ s, g.writer.current = some s → s.connection ≠ n) : k.IsReleased := by
  have hcoherent := Serial.coherent_replay g.completed
  rcases h.serial with he | ⟨-, he⟩
  · have hc : g.connections = (Serial.replay g.completed).connections :=
      congrArg Serial.connections he
    exact hcoherent.others n k (hc ▸ hk) (h.writer ▸ hn)
  · have hc : g.connections = (Serial.replay g.completed).letGo.connections :=
      congrArg Serial.connections he
    exact hcoherent.isReleased_letGo (hc ▸ hk)

/-- An open connection was never released. -/
theorem Serialized.releases_of_open (h : g.Serialized) {n : Nat} {k : Connection}
    (hk : g.connections[n]? = some k) (ho : k.closed = false) : k.releases = 0 := by
  obtain ⟨s, hs, rfl⟩ := h.onlyCurrentOpen n k hk ho
  have hcoherent := Serial.coherent_replay g.completed
  rcases h.serial with he | ⟨-, he⟩
  · have hc : g.connections = (Serial.replay g.completed).connections :=
      congrArg Serial.connections he
    have hs : (Serial.replay g.completed).writer.current = some s := he ▸ hs
    obtain rfl := Option.some.inj ((hc ▸ hk).symm.trans (hcoherent.current s hs).2)
    rfl
  · have hc : g.connections = (Serial.replay g.completed).letGo.connections :=
      congrArg Serial.connections he
    simp [(hcoherent.isReleased_letGo (hc ▸ hk)).1] at ho

/-- Whoever has begun a call and is not through with it receives what is published. -/
theorem hasSubscriber_of_call {c : CallId} {k : Call} (hk : g.call? c = some k)
    (hu : k.phase.ended = false) : g.hasSubscriber = true := by
  have hkept : (g.calls.any fun k => !k.phase.ended) = true :=
    List.any_eq_true.2 ⟨k, mem_of_call? hk, by simp [hu]⟩
  simp [hasSubscriber, channelHeld, hkept]

/-- As long as anybody receives what is published, the connection to the leader that readers are shown
is open. -/
theorem Serialized.connection_of_elected (h : g.Serialized) (hs : g.hasSubscriber = true)
    {s : Snapshot} (hv : g.channel.value = .elected s) :
    g.connections[s.connection]? = some ⟨s.leader.member, false, false, 0⟩ := by
  have he := h.serial.resolve_right (by simp [hs])
  have hc : g.connections = (Serial.replay g.completed).connections :=
    congrArg Serial.connections he
  have hcurrent : (Serial.replay g.completed).writer.current = some s :=
    h.writer ▸ (h.elected_iff s).1 hv
  exact hc ▸ ((Serial.coherent_replay g.completed).current s hcurrent).2

theorem intact_of_reachable (hg : g.Reachable) : g.Intact := by
  have h := serialized_of_reachable hg
  have hcoherent := Serial.coherent_replay g.completed
  have hcurrent : ∀ s, g.channel.value = .elected s →
      (Serial.replay g.completed).writer.current = some s := by
    intro s hs
    rw [← h.writer]
    exact (h.elected_iff s).1 hs
  exact {
    elected := h.elected_iff
    closed := h.closed_iff
    notElected := by
      rw [h.view]
      exact Writer.view_eq_notElected_iff
    vacant := h.vacant
    term s hs := (hcoherent.current s (hcurrent s hs)).1
    live hs s hv := h.connection_of_elected hs hv
    others n k hk hn := h.isReleased hk fun s hs => hn s ((h.elected_iff s).2 hs)
    heard _ _ hk hc := h.heard hk hc }

/-- Two leaders in turn, and a third one to which no connection opens. -/
def succession : List Action :=
  elect 0 .tracker ⟨.numbered "a" 1, ⟨1⟩⟩ .silent ++ elect 1 .tracker ⟨.numbered "b" 2, ⟨2⟩⟩ .silent ++
    elect 2 .tracker ⟨.numbered "a" 1, ⟨3⟩⟩ (.refusing fun _ => true)

theorem intact_of_succession :
    ∃ g, (create (.ofOptions {}) [.tracker]).run? succession = some g ∧
      g.connections.map (·.closed) = [true, false] ∧ g.Intact :=
  ⟨_, rfl, rfl, intact_of_reachable ⟨.ofOptions {}, [.tracker], succession, rfl⟩⟩

end Gateway

end LeaderRouting
