import LeaderRouting.Proofs.Tracker.Attendance
import LeaderRouting.Proofs.Tracker.History

/-!
Linearizability of the tracked leader.  However calls are interleaved, wait, are refused a connection
or are given up, the outcome is that of the completed calls alone, each done all at once, in the order
in which the lock served them.
-/

namespace LeaderRouting

open Gateway

namespace Serial

theorem adds_letGo (t : Serial) : Adds [] t t.letGo :=
  adds_closePrevious t t.writer.current

theorem trace_subset_apply (t : Serial) (op : Operation) : t.trace ⊆ (t.apply op).trace := by
  obtain ⟨vs, -, ⟨news, ht, -⟩, -⟩ := exists_adds t op
  simp only [apply, note, ht, List.append_assoc]
  exact List.subset_append_left _ _

/-- The answer to each operation is on record. -/
theorem answered_mem_replay {ops : List Operation} {n : Nat} {op : Operation}
    (h : ops[n]? = some op) :
    .answered op.call ((replay (ops.take n)).answer op) ∈ (replay ops).trace := by
  induction ops using List.reverseRecOn with
  | nil => simp at h
  | append_singleton ops last ih =>
    rw [replay_concat]
    rcases Nat.lt_or_ge n ops.length with hn | hn
    · rw [List.getElem?_append_left hn] at h
      rw [List.take_append_of_le_length (Nat.le_of_lt hn)]
      exact trace_subset_apply _ _ (ih h)
    · have hlt := (List.getElem?_eq_some_iff.1 h).1
      obtain rfl : n = ops.length := by
        rw [List.length_append, List.length_singleton] at hlt
        omega
      obtain rfl : last = op := by simpa using h
      simp [apply, note]

end Serial

namespace Gateway

/-- Whether the tracked leader is what the completed operations leave when they are done one after
another, less its connection once nobody receives what is published. -/
structure Serialized (g : Gateway) : Prop extends Disciplined g where
  serial : g.tracked = Serial.replay g.completed ∨
    g.hasSubscriber = false ∧ g.tracked = (Serial.replay g.completed).letGo

variable {g g₁ : Gateway}

theorem serialized_create (settings : Settings) (handles : List Handle) :
    (create settings handles).Serialized :=
  ⟨disciplined_create settings handles, .inl rfl⟩

theorem Serialized.onlyCurrentOpen (h : g.Serialized) : g.tracked.OnlyCurrentOpen := by
  have hc := (Serial.coherent_replay g.completed).onlyCurrentOpen
  rcases h.serial with he | ⟨-, he⟩ <;> rw [he]
  · exact hc
  · exact Serial.onlyCurrentOpen_letGo hc

theorem Serialized.writer (h : g.Serialized) : g.writer = (Serial.replay g.completed).writer := by
  rcases h.serial with he | ⟨-, he⟩
  · exact congrArg Serial.writer he
  · exact (congrArg Serial.writer he).trans (Serial.writer_closePrevious _ _)

theorem Serialized.view (h : g.Serialized) : g.channel.value = g.writer.view := by
  rw [h.writer, ← (Serial.coherent_replay g.completed).value]
  rcases h.serial with he | ⟨-, he⟩
  · exact congrArg Serial.value he
  · exact (congrArg Serial.value he).trans (Serial.value_closePrevious _ _)

theorem Serialized.vacant (h : g.Serialized) (hc : g.writer.closed = true) :
    g.writer.current = none := by
  rw [h.writer] at hc ⊢
  exact (Serial.coherent_replay g.completed).closed hc

theorem Serialized.elected_iff (h : g.Serialized) (s : Snapshot) :
    g.channel.value = .elected s ↔ g.writer.current = some s := by
  rw [h.view]
  exact Writer.view_eq_elected_iff h.vacant s

theorem Serialized.closed_iff (h : g.Serialized) :
    g.channel.value = .closed ↔ g.writer.closed = true := by
  rw [h.view]
  exact Writer.view_eq_closed_iff

theorem Serialized.transition (h : g.Serialized) (ht : Transition g g₁) : g₁.Serialized := by
  obtain ⟨hd, ⟨he, hc⟩ | ⟨op, ha, he, hc, -⟩⟩ := h.toDisciplined.transition ht
  · refine ⟨hd, ?_⟩
    rw [he, hc]
    refine h.serial.imp_right fun ⟨hs, hg⟩ => ⟨?_, hg⟩
    rw [Bool.eq_false_iff] at hs ⊢
    exact fun hs' => hs (hasSubscriber_of_outline h.toRooted (outline_of_transition ht) hs')
  · have hs := h.serial.resolve_right (by simp [hasSubscriber, ha])
    exact ⟨hd, .inl (by rw [he, hc, hs, Serial.replay_concat])⟩

theorem Serialized.release (h : g.Serialized) : g.release.Serialized := by
  refine ⟨h.toDisciplined.release, ?_⟩
  rw [completed_release]
  have hr := tracked_release h.onlyCurrentOpen fun s => (h.elected_iff s).2
  rcases h.serial with he | ⟨hs, he⟩ <;> rcases hr with ht | ⟨hn, ht⟩
  · exact .inl (ht.trans he)
  · exact .inr ⟨hn, by rw [ht, he]⟩
  · refine .inr ⟨?_, ht.trans he⟩
    rw [Bool.eq_false_iff] at hs ⊢
    exact fun hs' => hs (hasSubscriber_of_release hs')
  · exact .inr ⟨hn, by rw [ht, he, Serial.letGo_letGo]⟩

theorem serialized_of_reachable (hg : g.Reachable) : g.Serialized :=
  Reachable.induction serialized_create (fun _ _ h ht => (h.transition ht).release) hg

/-- What holds of a new gateway and is kept by every step of a disciplined one holds of every
state. -/
theorem Reachable.induction_of_disciplined {P : Gateway → Prop}
    (create : ∀ settings handles, P (create settings handles))
    (step : ∀ g g₁, g.Disciplined → P g → Transition g g₁ → P g₁.release) (hg : g.Reachable) :
    P g := by
  have h : g.Serialized ∧ P g := by
    refine Reachable.induction (P := fun g => g.Serialized ∧ P g) ?_ ?_ hg
    · exact fun settings handles => ⟨serialized_create settings handles, create settings handles⟩
    · intro g g₁ h ht
      exact ⟨(h.1.transition ht).release, step g g₁ h.1.toDisciplined h.2 ht⟩
  exact h.2

theorem attended_of_reachable (hg : g.Reachable) : g.Attended := by
  refine Reachable.induction_of_disciplined ?_ ?_ hg
  · simp [Attended, create, call?]
  · exact fun g g₁ hd h ht => (h.transition hd ht).release

/-! ### Reading the journal -/

theorem publications_filter (served : List CallId) (fs : List Fact) :
    publications (fs.filter (Fact.isTraced served)) = publications fs := by
  unfold publications
  rw [List.filterMap_filter]
  congr 1
  funext f
  cases f <;> simp [Fact.isTraced, Fact.published?]

theorem Serialized.adds (h : g.Serialized) :
    Serial.Adds [] (Serial.replay g.completed) g.tracked := by
  rcases h.serial with he | ⟨-, he⟩ <;> rw [he]
  · exact .refl _
  · exact Serial.adds_letGo _

/-- Readers are shown what was published last. -/
theorem Serialized.value (h : g.Serialized) : g.channel.value = shown g.facts := by
  obtain ⟨⟨news, ht, hp, -⟩, hv⟩ := h.adds
  have hv : g.channel.value = (Serial.replay g.completed).value := hv
  have hs : shown g.trace = shown (Serial.replay g.completed).trace := by
    have ht : g.trace = (Serial.replay g.completed).trace ++ news := ht
    rw [ht, shown_append_of_silent hp]
  rw [hv, Serial.value_replay, ← hs]
  unfold shown trace
  rw [publications_filter]

theorem Serialized.shown_take (h : g.Serialized) (i : Nat) :
    ∃ n, answers ((g.facts.take i).filter (Fact.isTraced g.served)) ≤ n ∧
      n ≤ answers ((g.facts.take i).filter (Fact.isTraced g.served)) + 1 ∧
      n ≤ g.completed.length ∧
      shown (g.facts.take i) = (Serial.replay (g.completed.take n)).value := by
  have hpre : (g.facts.take i).filter (Fact.isTraced g.served) <+: g.tracked.trace :=
    (List.take_prefix i g.facts).filter _
  have hs : shown ((g.facts.take i).filter (Fact.isTraced g.served)) = shown (g.facts.take i) := by
    unfold shown
    rw [publications_filter]
  rw [← hs]
  exact Serial.shown_of_isPrefix h.adds hpre

/-! ### Completed calls -/

theorem operation?_eq_some_iff {c : CallId} {op : Operation} :
    g.operation? c = some op ↔ ∃ k a, g.call? c = some k ∧ k.phase = .finished a ∧
      k.task.update? = some op.update ∧ op = ⟨c, k.task, op.update, g.refusal? c⟩ := by
  unfold operation?
  constructor
  · intro h
    obtain ⟨k, hk, h⟩ := Option.bind_eq_some_iff.1 h
    obtain ⟨u, hu, h⟩ := Option.bind_eq_some_iff.1 h
    obtain ⟨a, ha, rfl⟩ := Option.map_eq_some_iff.1 h
    refine ⟨k, a, hk, ?_, hu, rfl⟩
    cases hp : k.phase <;> simp_all [Phase.answer?]
  · rintro ⟨k, a, hk, hp, hu, ho⟩
    rw [ho]
    simp [hk, hp, hu, Phase.answer?]

theorem map_call_completed (g : Gateway) :
    g.completed.map (·.call) = g.served.filter fun c => (g.operation? c).isSome := by
  unfold completed
  rw [List.map_filterMap, ← List.filterMap_eq_filter]
  refine List.filterMap_congr fun c _ => ?_
  cases h : g.operation? c with
  | none => simp [Option.guard, h]
  | some op =>
    obtain ⟨k, a, -, -, -, ho⟩ := operation?_eq_some_iff.1 h
    have hcall : op.call = c := by rw [ho]
    simp [Option.guard, h, hcall]

/-- A call that has ended is told what its operation would be told if all completed operations came
one after another. -/
theorem Serialized.answer {n : Nat} {op : Operation} (h : g.Serialized)
    (ho : g.completed[n]? = some op) :
    ∃ k, g.call? op.call = some k ∧
      k.phase = .finished ((Serial.replay (g.completed.take n)).answer op) := by
  have hmem : Fact.answered op.call ((Serial.replay (g.completed.take n)).answer op) ∈ g.trace := by
    obtain ⟨⟨news, ht, -, -⟩, -⟩ := h.adds
    have ht : g.trace = (Serial.replay g.completed).trace ++ news := ht
    rw [ht]
    exact List.mem_append_left _ (Serial.answered_mem_replay ho)
  obtain ⟨c, -, ho⟩ := List.mem_filterMap.1 (List.mem_of_getElem? ho)
  obtain ⟨k, -, hk, -, -, he⟩ := operation?_eq_some_iff.1 ho
  have hc : op.call = c := by rw [he]
  exact ⟨k, hc ▸ hk, h.finished_of_answered (hc ▸ hk) (List.mem_filter.1 hmem).1⟩

/-- A call that has ended with the answer to its update was served. -/
theorem Attended.mem_served {c : CallId} {k : Call} {u : Update} {a : Answer} (ht : g.Attended)
    (hk : g.call? c = some k) (hu : k.task.update? = some u) (hp : k.phase = .finished a) :
    c ∈ g.served := by
  obtain rfl := id_of_call? hk
  rcases ht k.id k hk with hn | hn | hn | hn | hn
  · simp [hu] at hn
  · simp [hp] at hn
  · simp [hp, Phase.contends] at hn
  · simp [hp] at hn
  · exact hn

theorem Attended.exists_completed {c : CallId} {k : Call} {u : Update} {a : Answer}
    (ht : g.Attended) (hk : g.call? c = some k) (hu : k.task.update? = some u)
    (hp : k.phase = .finished a) :
    ∃ n : Nat, g.completed[n]? = some (Operation.mk c k.task u (g.refusal? c)) := by
  have ho : g.operation? c = some ⟨c, k.task, u, g.refusal? c⟩ :=
    operation?_eq_some_iff.2 ⟨k, a, hk, hp, hu, rfl⟩
  exact List.mem_iff_getElem?.1 (List.mem_filterMap.2 ⟨c, ht.mem_served hk hu hp, ho⟩)

/-! ### Linearizability -/

/-- Whether calls that change the tracked leader have taken effect one at a time. -/
structure Linearized (g : Gateway) : Prop where
  /-- The writer, the published value, the connections, and the record of connections opened, refused
  and closed, of values published and of answers given are what the completed operations leave one
  after another.  Once nobody receives what is published the connection may be closed on top. -/
  state : g.tracked = Serial.replay g.completed ∨
    g.hasSubscriber = false ∧ g.tracked = (Serial.replay g.completed).letGo
  /-- The operations stand in the order in which their calls got the lock. -/
  order : g.completed.map (·.call) = g.served.filter fun c => (g.operation? c).isSome
  once : g.served.Nodup
  /-- Each is that of a call that has ended with an answer, with the connection it got or did not. -/
  sound : ∀ op ∈ g.completed, ∃ k a, g.call? op.call = some k ∧ k.phase = .finished a ∧
    k.task.update? = some op.update ∧ op = ⟨op.call, k.task, op.update, g.refusal? op.call⟩
  /-- All calls that have ended with an answer are among them, and each was told what it would be told
  had the operations come one after another. -/
  answers : ∀ c k u a, g.call? c = some k → k.task.update? = some u → k.phase = .finished a →
    ∃ n : Nat, g.completed[n]? = some ⟨c, k.task, u, g.refusal? c⟩ ∧
      a = (Serial.replay (g.completed.take n)).answer ⟨c, k.task, u, g.refusal? c⟩
  /-- A call that was given up has no part in this and does not keep the lock. -/
  dropped : ∀ c k, g.call? c = some k → k.phase = .abandoned →
    (∀ op ∈ g.completed, op.call ≠ c) ∧ c ∉ g.lock.queue
  /-- The lock is kept only by a call that can go on, or does so once its connection opens. -/
  held : ∀ c, g.lock.holder = some c → ∃ k, g.call? c = some k ∧
    (g.canRun k = true ∨ ∃ l openedAt, k.phase = .opening l openedAt)
  free : g.lock.holder = none → g.lock.waiting = []
  value : g.channel.value = shown g.facts
  /-- At any moment readers are shown the state after all operations that are answered by then, or
  after one more. -/
  reads : ∀ i, ∃ n, Gateway.answers ((g.facts.take i).filter (Fact.isTraced g.served)) ≤ n ∧
    n ≤ Gateway.answers ((g.facts.take i).filter (Fact.isTraced g.served)) + 1 ∧
    n ≤ g.completed.length ∧
    shown (g.facts.take i) = (Serial.replay (g.completed.take n)).value

theorem Disciplined.holder (h : g.Disciplined) {c : CallId} (hc : g.lock.holder = some c) :
    ∃ k, g.call? c = some k ∧
      (g.canRun k = true ∨ ∃ l openedAt, k.phase = .opening l openedAt) := by
  obtain ⟨task, st, hs, hst⟩ := (h.mem_line c).1 (by simp [Lock.queue, hc])
  obtain ⟨k, hk, he⟩ := Option.map_eq_some_iff.1 hs
  obtain ⟨rfl, rfl⟩ := Prod.mk.inj he
  refine ⟨k, hk, ?_⟩
  rw [Phase.contends_standing] at hst
  cases hp : k.phase with
  | queued u =>
    obtain rfl := id_of_call? hk
    exact .inl (by simp [canRun, hp, hc])
  | opening l openedAt => exact .inr ⟨l, openedAt, rfl⟩
  | _ => simp [hp, Phase.contends] at hst

/-- Every completed operation is that of a call that has ended with an answer. -/
theorem exists_call?_of_completed {op : Operation} (hop : op ∈ g.completed) :
    ∃ k a, g.call? op.call = some k ∧ k.phase = .finished a ∧ k.task.update? = some op.update ∧
      op = ⟨op.call, k.task, op.update, g.refusal? op.call⟩ := by
  obtain ⟨c, -, ho⟩ := List.mem_filterMap.1 hop
  obtain ⟨k, a, hk, hp, hu, he⟩ := operation?_eq_some_iff.1 ho
  have hc : op.call = c := by rw [he]
  exact ⟨k, a, hc ▸ hk, hp, hu, hc ▸ he⟩

theorem linearized_of_reachable (hg : g.Reachable) : g.Linearized := by
  have h := serialized_of_reachable hg
  exact {
    state := h.serial
    order := map_call_completed g
    once := h.once
    sound _ := exists_call?_of_completed
    answers c k u a hk hu hp := by
      obtain ⟨n, hn⟩ := (attended_of_reachable hg).exists_completed hk hu hp
      obtain ⟨k', hk', hp'⟩ := h.answer hn
      obtain rfl := Option.some.inj (hk.symm.trans hk')
      exact ⟨n, hn, Phase.finished.inj (hp.symm.trans hp')⟩
    dropped c k hk hp := by
      constructor
      · rintro op hop rfl
        obtain ⟨k', a, hk', hp', -⟩ := exists_call?_of_completed hop
        obtain rfl := Option.some.inj (hk.symm.trans hk')
        simp [hp] at hp'
      · rw [h.mem_line, standing?_of_call? hk, hp]
        simp [Phase.standing, Standing.contends]
    held _ := h.holder
    free := h.fair
    value := h.value
    reads := h.shown_take }

/-- Two announcements of one member; the first is given up while its connection opens, and the second
then gets the lock and a connection. -/
def overtaking : List Action :=
  let announce (c : CallId) (t : Term) : Action :=
    .start c .tracker (.notice (.direct ⟨.numbered "a" 1, t⟩)) 0
  [announce 0 ⟨1⟩, announce 1 ⟨2⟩, .run 0 .silent, .run 1 .silent, .run 0 .silent, .abandon 0,
    .run 1 .silent, .run 1 .silent]

theorem linearized_of_overtaking :
    ∃ g, (create (.ofOptions {}) [.tracker]).run? overtaking = some g ∧
      g.completed.map (·.call) = [1] ∧ g.Linearized :=
  ⟨_, rfl, rfl, linearized_of_reachable ⟨.ofOptions {}, [.tracker], overtaking, rfl⟩⟩

end Gateway

end LeaderRouting
