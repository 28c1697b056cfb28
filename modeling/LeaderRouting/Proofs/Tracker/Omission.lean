import LeaderRouting.Proofs.Tracker.Futility

/-!
Only notices that raise the tracked term count.  Where others are left out of a history, whatever the
rest of it has left behind stays the same.
-/

namespace LeaderRouting

open Gateway

/-- What is kept of a list stands behind what is kept of all that stood before it. -/
theorem exists_getElem?_filter {α : Type} {xs : List α} {n : Nat} {x : α} (keep : α → Bool)
    (hn : xs[n]? = some x) (hk : keep x = true) :
    ∃ m, (xs.filter keep)[m]? = some x ∧ (xs.filter keep).take m = (xs.take n).filter keep := by
  obtain ⟨hlt, rfl⟩ := List.getElem?_eq_some_iff.1 hn
  have hsplit : xs.filter keep =
      (xs.take n).filter keep ++ xs[n] :: (xs.drop (n + 1)).filter keep := by
    rw [← List.filter_cons_of_pos hk, ← List.drop_eq_getElem_cons hlt, ← List.filter_append,
      List.take_append_drop]
  exact ⟨((xs.take n).filter keep).length, by simp [hsplit], by rw [hsplit, List.take_left]⟩

namespace Gateway

/-- Whether a call was given up, or brought a notice that did nothing to the tracked leader. -/
def IsFruitless (g : Gateway) (c : CallId) : Prop :=
  ∃ k, g.call? c = some k ∧ (k.phase = .abandoned ∨
    ∃ n r, k.task = .notice n ∧ k.phase = .finished (n.report r) ∧ isFruitless r = true)

/-- Whether the notices and shutdowns that have come to an end are those of the first state without
the calls of `D`.  Those that got the lock got it in the same order, and with the same connections
opened and refused. -/
structure IsWithout (D : CallId → Bool) (g g' : Gateway) : Prop where
  completed : g'.completed = g.completed.filter fun op => !D op.call
  ended : ∀ c task, task.concernsTracker = true →
    (g'.HasEnded c task ↔ g.HasEnded c task ∧ D c = false)

variable {g g' : Gateway} {c : CallId} {k : Call} {D : CallId → Bool} {op : Operation} {n : Nat}
  {task : Task} {a : Answer}

theorem Serialized.standing?_of_completed (h : g.Serialized) (ho : g.completed[n]? = some op) :
    g.standing? op.call =
      some (op.task, .finished ((Serial.replay (g.completed.take n)).answer op)) := by
  obtain ⟨k, hk, hp⟩ := h.answer ho
  obtain ⟨k', a, hk', -, -, hop⟩ := exists_call?_of_completed (List.mem_of_getElem? ho)
  obtain rfl := Option.some.inj (hk.symm.trans hk')
  have ht : op.task = k.task := congrArg Operation.task hop
  rw [ht]
  exact standing?_of_phase hk hp

/-- A completed operation of a call that did nothing would have done nothing in its place. -/
theorem Serialized.isFruitless (h : g.Serialized) (ho : g.completed[n]? = some op)
    (hf : g.IsFruitless op.call) : (Serial.replay (g.completed.take n)).IsFruitless op := by
  obtain ⟨k, hk, hp⟩ := h.answer ho
  obtain ⟨k', a, hk', -, hu, hop⟩ := exists_call?_of_completed (List.mem_of_getElem? ho)
  obtain ⟨k₁, hk₁, hend⟩ := hf
  obtain rfl := Option.some.inj (hk.symm.trans hk')
  obtain rfl := Option.some.inj (hk.symm.trans hk₁)
  rcases hend with he | ⟨m, r, ht, hr, hfruitless⟩
  · simp [hp] at he
  · have htask : op.task = .notice m := by rw [hop, ht]
    have hreport : m.report r = m.report
        (((Serial.replay (g.completed.take n)).perform op).2.mapError .connect) := by
      have hanswer := Phase.finished.inj (hr.symm.trans hp)
      rw [Serial.answer, htask, outcome_notice] at hanswer
      exact hanswer
    refine ⟨?_, Notice.isFruitless_of_report hreport hfruitless⟩
    rw [ht] at hu
    simp only [Task.update?] at hu
    split at hu
    next l _ => exact ⟨l, (Option.some.inj hu).symm⟩
    · cases hu

theorem Serialized.keepsFruitful (h : g.Serialized) (hD : ∀ c, D c = true → g.IsFruitless c) :
    Serial.KeepsFruitful (fun op => !D op.call) g.completed :=
  fun _ _ ho hk => h.isFruitless ho (hD _ (by simpa using hk))

/-- The same holds of what was completed first. -/
theorem Serialized.keepsFruitful_take (h : g.Serialized) (hD : ∀ c, D c = true → g.IsFruitless c)
    (n : Nat) : Serial.KeepsFruitful (fun op => !D op.call) (g.completed.take n) := by
  have hall := h.keepsFruitful hD
  rw [← List.take_append_drop n g.completed] at hall
  exact hall.of_append

/-! ### What the others leave behind -/

/-- What the calls other than those of `D` were told, and all that they have left behind, where
they have come to their ends in both states. -/
structure Unchanged (D : CallId → Bool) (g g' : Gateway) : Prop where
  answers : ∀ c task a, task.concernsTracker = true → D c = false →
    g.standing? c = some (task, .finished a) → g'.standing? c = some (task, .finished a)
  publications : publications g'.facts = publications g.facts
  writer : g'.writer = g.writer
  value : g'.channel.value = g.channel.value
  /-- The connections, and in which order they were opened and closed and values were published.  Once
  nobody receives what is published, the last connection may have been closed on top. -/
  tracked : Serial.Same g.tracked g'.tracked ∨
    g.hasSubscriber = false ∧ Serial.Same g.tracked g'.tracked.letGo ∨
    g'.hasSubscriber = false ∧ Serial.Same g.tracked.letGo g'.tracked
  events : g.hasSubscriber = true → g'.hasSubscriber = true →
    g'.connections = g.connections ∧
      g'.facts.filter Fact.isEvent = g.facts.filter Fact.isEvent

theorem filter_isEvent_trace (g : Gateway) :
    g.tracked.trace.filter Fact.isEvent = g.facts.filter Fact.isEvent := by
  unfold tracked trace
  rw [List.filter_filter]
  refine List.filter_congr fun f _ => ?_
  cases f <;> simp [Fact.isEvent, Fact.isTraced]

theorem publications_isEvent (fs : List Fact) :
    publications (fs.filter Fact.isEvent) = publications fs := by
  unfold publications
  rw [List.filterMap_filter]
  congr 1
  funext f
  cases f <;> simp [Fact.isEvent, Fact.published?]

theorem Serialized.publications_eq_replay (h : g.Serialized) :
    publications g.facts = publications (Serial.replay g.completed).trace := by
  obtain ⟨⟨news, ht, hp, -⟩, -⟩ := h.adds
  have ht : g.trace = (Serial.replay g.completed).trace ++ news := ht
  rw [← publications_filter g.served g.facts]
  exact (congrArg publications ht).trans (by rw [publications_append, hp, List.append_nil])

/-- A call that has come to its end in both states was told the same if it asked for the lock. -/
theorem IsWithout.answer (hg : g.Reachable) (hg' : g'.Reachable)
    (hD : ∀ c, D c = true → g.IsFruitless c) (hw : IsWithout D g g') {u : Update}
    (hu : task.update? = some u) (hc : D c = false)
    (hs : g.standing? c = some (task, .finished a)) : g'.standing? c = some (task, .finished a) := by
  have h := serialized_of_reachable hg
  obtain ⟨k, hk, he⟩ := Option.map_eq_some_iff.1 hs
  obtain ⟨rfl, hp⟩ := Prod.mk.inj he
  have hp : k.phase = .finished a := by
    cases hphase : k.phase <;> simp_all [Phase.standing]
  obtain ⟨n, hn⟩ := (attended_of_reachable hg).exists_completed hk hu hp
  obtain ⟨m, hm, htake⟩ :=
    exists_getElem?_filter (fun op : Operation => !D op.call) hn (by simpa using hc)
  rw [← hw.completed] at hm htake
  have hend := h.standing?_of_completed hn
  have hend' := (serialized_of_reachable hg').standing?_of_completed hm
  have hsame := Serial.same_replay_filter (h.keepsFruitful_take hD n)
  rwa [htake, hsame.answer, ← hend, hs] at hend'

/-- What a notice that names no leader is told is known from the notice. -/
theorem eq_of_outright (hg : g.Reachable) (hg' : g'.Reachable) (ht : task.concernsTracker = true)
    (hu : task.update? = none) {a' : Answer} (hs : g.standing? c = some (task, .finished a))
    (hs' : g'.standing? c = some (task, .finished a')) : a' = a := by
  obtain ⟨n, r', rfl, hr'⟩ := Task.exists_notice ht hu
  have hreport : ∀ {g : Gateway} {a}, g.Reachable →
      g.standing? c = some (.notice n, .finished a) → a = n.report r' := by
    intro g a hg hs
    obtain ⟨k, hk, he⟩ := Option.map_eq_some_iff.1 hs
    obtain ⟨ht, hp⟩ := Prod.mk.inj he
    have hgoes := goesThrough_of_reachable hg hk ht
    generalize k.phase = p at hp hgoes
    cases hgoes with
    | finished hr =>
      rw [← hr r' hr']
      exact (Standing.finished.inj hp).symm
    | _ => simp [Phase.standing] at hp
  rw [hreport hg hs, hreport hg' hs']

theorem IsWithout.unchanged (hg : g.Reachable) (hg' : g'.Reachable)
    (hD : ∀ c, D c = true → g.IsFruitless c) (hw : IsWithout D g g') : Unchanged D g g' := by
  have h := serialized_of_reachable hg
  have h' := serialized_of_reachable hg'
  have hsame : Serial.Same (Serial.replay g.completed) (Serial.replay g'.completed) := by
    rw [hw.completed]
    exact Serial.same_replay_filter (h.keepsFruitful hD)
  have htracked : Serial.Same g.tracked g'.tracked ∨
      g.hasSubscriber = false ∧ Serial.Same g.tracked g'.tracked.letGo ∨
      g'.hasSubscriber = false ∧ Serial.Same g.tracked.letGo g'.tracked := by
    rcases h.serial with he | ⟨hn, he⟩ <;> rcases h'.serial with he' | ⟨hn', he'⟩ <;> rw [he, he']
    · exact .inl hsame
    · exact .inr (.inr ⟨hn', hsame.letGo⟩)
    · exact .inr (.inl ⟨hn, hsame.letGo⟩)
    · exact .inl hsame.letGo
  refine ⟨fun c task a ht hc hs => ?_, ?_, ?_, ?_, htracked, fun hs hs' => ?_⟩
  · cases hu : task.update? with
    | some u => exact hw.answer hg hg' hD hu hc hs
    | none =>
      obtain ⟨a', hs'⟩ := (hw.ended c task ht).2 ⟨⟨a, hs⟩, hc⟩
      rw [hs', eq_of_outright hg hg' ht hu hs hs']
  · rw [h.publications_eq_replay, h'.publications_eq_replay, ← publications_isEvent,
      ← publications_isEvent (Serial.replay g.completed).trace, hsame.events]
  · rw [h.writer, h'.writer, hsame.writer]
  · rw [h.view, h'.view, h.writer, h'.writer, hsame.writer]
  · have hsame : Serial.Same g.tracked g'.tracked := by
      rcases htracked with hsame | ⟨hn, -⟩ | ⟨hn, -⟩
      · exact hsame
      · simp [hs] at hn
      · simp [hs'] at hn
    rw [← filter_isEvent_trace, ← filter_isEvent_trace g, hsame.events]
    exact ⟨hsame.connections, rfl⟩

/-! ### Leaving calls out -/

/-- The notices that never asked for the lock, but for those of `D`. -/
def asides (g : Gateway) (D : CallId → Bool) : List Attempt :=
  (g.calls.filter fun k => k.task.concernsTracker && k.task.update?.isNone &&
    k.phase.answer?.isSome && !D k.id).map fun k => ⟨k.id, k.task, none⟩

/-- All that is left to do without the calls of `D`. -/
def remainder (g : Gateway) (D : CallId → Bool) : List Attempt :=
  g.asides D ++ (g.completed.filter fun op => !D op.call).map fun op =>
    ⟨op.call, op.task, op.refusal⟩

theorem hasEnded_iff : g.HasEnded c task ↔
    ∃ k, g.call? c = some k ∧ k.task = task ∧ ∃ a, k.phase = .finished a := by
  constructor
  · rintro ⟨a, hs⟩
    obtain ⟨k, hk, he⟩ := Option.map_eq_some_iff.1 hs
    obtain ⟨ht, hp⟩ := Prod.mk.inj he
    refine ⟨k, hk, ht, a, ?_⟩
    cases hphase : k.phase <;> simp_all [Phase.standing]
  · rintro ⟨k, hk, rfl, a, hp⟩
    exact ⟨a, standing?_of_phase hk hp⟩

theorem mem_asides_iff (h : g.Rooted) {x : Attempt} : x ∈ g.asides D ↔
    (x.task.concernsTracker = true ∧ x.task.update? = none ∧ g.HasEnded x.call x.task ∧
      D x.call = false) ∧ x.refusal = none := by
  unfold asides
  rw [List.mem_map]
  constructor
  · rintro ⟨k, hm, rfl⟩
    obtain ⟨hk, hp⟩ := List.mem_filter.1 hm
    simp only [Bool.and_eq_true, Bool.not_eq_true', Option.isNone_iff_eq_none] at hp
    obtain ⟨⟨⟨ht, hu⟩, ha⟩, hd⟩ := hp
    refine ⟨⟨ht, hu, hasEnded_iff.2 ⟨k, call?_of_mem h.ids hk, rfl, ?_⟩, hd⟩, rfl⟩
    cases hphase : k.phase <;> simp_all [Phase.answer?]
  · obtain ⟨c, task, refusal⟩ := x
    rintro ⟨⟨ht, hu, he, hd⟩, rfl⟩
    obtain ⟨k, hk, rfl, a, hp⟩ := hasEnded_iff.1 he
    obtain rfl := id_of_call? hk
    refine ⟨k, List.mem_filter.2 ⟨mem_of_call? hk, ?_⟩, rfl⟩
    simp [ht, hu, hd, hp, Phase.answer?]

theorem HasEnded.exists_completed (ht : g.Attended) {u : Update} (hu : task.update? = some u)
    (h : g.HasEnded c task) : ∃ op ∈ g.completed, op.call = c ∧ op.task = task := by
  obtain ⟨k, hk, rfl, a, hp⟩ := hasEnded_iff.1 h
  obtain ⟨n, hn⟩ := ht.exists_completed hk hu hp
  exact ⟨_, List.mem_of_getElem? hn, rfl, rfl⟩

theorem update?_of_completed {op : Operation} (ho : op ∈ g.completed) :
    op.task.update? = some op.update := by
  obtain ⟨k, a, -, -, hu, he⟩ := exists_call?_of_completed ho
  rw [he]
  exact hu

theorem mem_remainder_iff (h : g.Rooted) (ha : g.Attended) :
    (∃ x ∈ g.remainder D, x.call = c ∧ x.task = task) ↔
      task.concernsTracker = true ∧ g.HasEnded c task ∧ D c = false := by
  unfold remainder
  simp only [List.mem_append, List.mem_map, List.mem_filter]
  constructor
  · rintro ⟨x, hx | ⟨op, ⟨ho, hd⟩, rfl⟩, rfl, rfl⟩
    · obtain ⟨⟨ht, -, he, hd⟩, -⟩ := (mem_asides_iff h).1 hx
      exact ⟨ht, he, hd⟩
    · exact ⟨concernsTracker_of_update? (update?_of_completed ho), hasEnded_of_completed ho,
        by simpa using hd⟩
  · rintro ⟨ht, he, hd⟩
    cases hu : task.update? with
    | none => exact ⟨⟨c, task, none⟩, .inl ((mem_asides_iff h).2 ⟨⟨ht, hu, he, hd⟩, rfl⟩), rfl, rfl⟩
    | some u =>
      obtain ⟨op, ho, rfl, rfl⟩ := he.exists_completed ha hu
      exact ⟨⟨op.call, op.task, op.refusal⟩, .inr ⟨op, ⟨ho, by simpa using hd⟩, rfl⟩, rfl, rfl⟩

theorem filterMap_remainder (h : g.Rooted) : (g.remainder D).filterMap Attempt.operation? =
    g.completed.filter fun op => !D op.call := by
  have hasides : (g.asides D).filterMap Attempt.operation? = [] := by
    refine List.filterMap_eq_nil_iff.2 fun x hx => ?_
    simp [Attempt.operation?, ((mem_asides_iff h).1 hx).1.2.1]
  unfold remainder
  rw [List.filterMap_append, hasides, List.nil_append, List.filterMap_map]
  refine (List.filterMap_congr fun op ho => ?_).trans List.filterMap_some
  simp [Attempt.operation?, update?_of_completed (List.mem_filter.1 ho).1]

theorem nodup_remainder (h : g.Disciplined) : ((g.remainder D).map (·.call)).Nodup := by
  have hasides : ((g.asides D).map (·.call)).Nodup := by
    unfold asides
    rw [List.map_map]
    exact h.ids.sublist (List.filter_sublist.map _)
  have hcompleted : (g.completed.map (·.call)).Nodup := by
    rw [map_call_completed]
    exact h.once.filter _
  unfold remainder
  rw [List.map_append, List.map_map, List.nodup_append]
  refine ⟨hasides, hcompleted.sublist (List.filter_sublist.map _), ?_⟩
  rintro _ hx _ hop rfl
  obtain ⟨x, hx, he⟩ := List.mem_map.1 hx
  obtain ⟨op, hm, he'⟩ := List.mem_map.1 hop
  have ho := (List.mem_filter.1 hm).1
  -- A call has one task, which asks for the lock or does not.
  obtain ⟨⟨-, hu, ⟨a, hs⟩, -⟩, -⟩ := (mem_asides_iff h.toRooted).1 hx
  obtain ⟨a', hs'⟩ := hasEnded_of_completed ho
  have he : op.call = x.call := he'.trans he.symm
  rw [← he, hs'] at hs
  have htask : op.task = x.task := (Prod.mk.inj (Option.some.inj hs)).1
  have hup := update?_of_completed ho
  rw [htask, hu] at hup
  cases hup

/-- Without calls that did nothing, the others can come in the same order and find the same. -/
theorem exists_isWithout (hg : g.Reachable) (hD : ∀ c, D c = true → g.IsFruitless c) :
    ∃ g' : Gateway, g'.Reachable ∧ IsWithout D g g' := by
  have h := serialized_of_reachable hg
  have hmem : ∀ c task, (∃ x ∈ g.remainder D, x.call = c ∧ x.task = task) ↔
      task.concernsTracker = true ∧ g.HasEnded c task ∧ D c = false :=
    fun _ _ => mem_remainder_iff h.toRooted (attended_of_reachable hg)
  have hops := filterMap_remainder (D := D) h.toRooted
  have hconsistent : Serial.IsConsistent ((g.remainder D).filterMap Attempt.operation?) := by
    rw [hops]
    exact (isConsistent_of_reachable hg).filter (h.keepsFruitful hD)
  have hconcerns : ∀ x ∈ g.remainder D, x.task.concernsTracker = true :=
    fun x hx => ((hmem x.call x.task).1 ⟨x, hx, rfl, rfl⟩).1
  obtain ⟨g', hcalm, hcompleted, hended, -⟩ := exists_calm g.settings (g.remainder D)
    (nodup_remainder h.toDisciplined) hconcerns hconsistent
  refine ⟨g', hcalm.reachable, hcompleted.trans hops, fun c task ht => ?_⟩
  rw [hended, hmem]
  exact and_iff_right ht

/-! ### Steps -/

/-- Whoever gives up leaves the tracked leader as it is. -/
theorem Reachable.untouched_abandon (hg : g.Reachable) (hs : g.step? (.abandon c) = some g') :
    g.Untouched g' := by
  have h := serialized_of_reachable hg
  obtain ⟨g₁, hc, rfl⟩ := exists_course_of_step? hs
  have h₁ := h.transition hc.transition
  cases hc with
  | abandon => exact Untouched.release (untouched_of_eq rfl rfl rfl) h₁
  | around _ hn => cases hn

/-- A step of a notice does nothing to the tracked leader, or raises it to the notice's. -/
theorem Reachable.untouched_or_raised {n : Notice} {env : Surroundings} (hg : g.Reachable)
    (hk : g.call? c = some k) (ht : k.task = .notice n) (hs : g.step? (.run c env) = some g') :
    g.Untouched g' ∨ ∃ l v, n.leader = .ok (some l) ∧
      (v = Verdict.newLeader ∨ v = .termRefreshed) ∧
      g'.standing? c = some (k.task, .finished (n.report (.ok v))) ∧ g.Raised l g' := by
  rcases hg.notice_step hk ht hs with ⟨-, -, -, -, -, hu⟩ | ⟨r, k', hk', hp, hsettles⟩
  · exact .inl hu
  · cases hsettles with
    | @raised l v _ hl _ hv hr =>
      have hone : g.run? [.run c env] = some g' := by simp [run?, hs]
      obtain ⟨k₁, hk₁, htask⟩ := exists_call?_of_run hone hk
      obtain rfl := Option.some.inj (hk'.symm.trans hk₁)
      exact .inr ⟨l, v, hl, hv, htask ▸ standing?_of_phase hk' hp, hr⟩
    | noLeader _ hu => exact .inl hu
    | meaningless _ hu => exact .inl hu
    | closed _ _ hu => exact .inl hu
    | stale _ _ _ hu => exact .inl hu
    | refused _ _ _ _ hu => exact .inl hu

theorem Calm.exists_success {n : Notice} {l : Leader} (h : g.Calm) (hf : g.call? c = none)
    (hl : n.leader = .ok (some l)) (hc : g.writer.closed = false) (ht : g.writer.term < l.term) :
    ∃ g' v, OnlyBy c g g' ∧ (v = Verdict.newLeader ∨ v = .termRefreshed) ∧
      g'.standing? c = some (.notice n, .finished (n.report (.ok v))) ∧
      g'.writer.current.map (·.leader) = some l := by
  have hw := (serialized_of_reachable h.reachable).writer
  have hu : (Task.notice n).update? = some (.elect l) := by simp [Task.update?, hl]
  have hsuccess : ∃ v, (v = Verdict.newLeader ∨ v = .termRefreshed) ∧
      ((Serial.replay g.completed).perform ⟨c, .notice n, .elect l, none⟩).2 = .ok v ∧
      ((Serial.replay g.completed).apply ⟨c, .notice n, .elect l, none⟩).writer.current.map
        (·.leader) = some l :=
    Serial.perform_of_higher rfl rfl (hw ▸ hc) (hw ▸ ht)
  obtain ⟨v, hv, hverdict, hcurrent⟩ := hsuccess
  have hr : none = refusalOf
      ((Serial.replay g.completed).perform ⟨c, .notice n, .elect l, none⟩).2 := by
    rw [hverdict]
    rfl
  obtain ⟨g', hcalm, ho, hcompleted⟩ := h.exists_completed hf hu hr
  have h' := serialized_of_reachable hcalm.reachable
  have hlast : g'.completed[g.completed.length]? = some ⟨c, .notice n, .elect l, none⟩ := by
    simp [hcompleted]
  refine ⟨g', v, ho, hv, ?_, ?_⟩
  · rw [h'.standing?_of_completed hlast, hcompleted, List.take_left, Serial.answer, hverdict,
      outcome_notice]
    rfl
  · rw [h'.writer, hcompleted, Serial.replay_concat]
    exact hcurrent

/-- What the first of the completed operations have left behind, but for those of `D`. -/
def leftWithout (g : Gateway) (D : CallId → Bool) (n : Nat) : Serial :=
  Serial.replay ((g.completed.take n).filter fun op => !D op.call)

/-- Whether only notices that raised the tracked term have had an effect. -/
structure CountsOnlySuccesses (g : Gateway) : Prop where
  /-- Calls that did nothing could as well not have come: the others can come without them, and
  however they do, if in the same order and finding the same members reachable, all is as it is. -/
  omission : ∀ D : CallId → Bool, (∀ c, D c = true → g.IsFruitless c) →
    (∃ g' : Gateway, g'.Reachable ∧ IsWithout D g g') ∧
      ∀ g' : Gateway, g'.Reachable → IsWithout D g g' → Unchanged D g g'
  /-- What a call was told, and what it left behind, is what it would have been had those before it
  that did nothing not come. -/
  redelivery : ∀ D : CallId → Bool, (∀ c, D c = true → g.IsFruitless c) →
    ∀ n op, g.completed[n]? = some op →
      g.standing? op.call = some (op.task, .finished ((g.leftWithout D n).answer op)) ∧
      Serial.Same ((g.leftWithout D n).apply op) (Serial.replay (g.completed.take (n + 1)))
  /-- In particular, a notice under a higher term succeeds if its member can be reached. -/
  success : ∀ n op l, g.completed[n]? = some op → op.update = .elect l → op.refusal = none →
    (Serial.replay (g.completed.take n)).writer.closed = false →
    (Serial.replay (g.completed.take n)).writer.term < l.term →
    ∃ v, (v = Verdict.newLeader ∨ v = .termRefreshed) ∧
      g.standing? op.call = some (op.task, .finished (op.task.outcome (.ok v))) ∧
      (Serial.replay (g.completed.take (n + 1))).writer.current.map (·.leader) = some l
  /-- Such a notice can come whenever nobody wants the lock, however many have failed before. -/
  retry : ∀ c n l, g.Calm → g.call? c = none → n.leader = .ok (some l) → g.writer.closed = false →
    g.writer.term < l.term → ∃ g' v, OnlyBy c g g' ∧ (v = Verdict.newLeader ∨ v = .termRefreshed) ∧
      g'.standing? c = some (.notice n, .finished (n.report (.ok v))) ∧
      g'.writer.current.map (·.leader) = some l
  /-- A step of a notice does nothing to the tracked leader, or raises it to the notice's. -/
  steps : ∀ c k n env g', g.call? c = some k → k.task = .notice n →
    g.step? (.run c env) = some g' → g.Untouched g' ∨
      ∃ l v, n.leader = .ok (some l) ∧ (v = Verdict.newLeader ∨ v = .termRefreshed) ∧
        g'.standing? c = some (k.task, .finished (n.report (.ok v))) ∧ g.Raised l g'
  /-- A term that is not above the tracked one changes nothing. -/
  stale : ∀ c k n l env g', g.call? c = some k → k.task = .notice n → n.leader = .ok (some l) →
    l.term ≤ g.writer.term → g.step? (.run c env) = some g' → g.Untouched g'
  dropped : ∀ c g', g.step? (.abandon c) = some g' → g.Untouched g'
  /-- Nobody who has ended keeps the lock or a place in line for it. -/
  lock : ∀ c ∈ g.lock.queue, ∃ k, g.call? c = some k ∧ k.phase.ended = false

theorem countsOnlySuccesses_of_reachable (hg : g.Reachable) : g.CountsOnlySuccesses := by
  have h := serialized_of_reachable hg
  exact {
    omission D hD := ⟨exists_isWithout hg hD, fun g' hg' hw => hw.unchanged hg hg' hD⟩
    redelivery D hD n op ho := by
      have hsame : Serial.Same (Serial.replay (g.completed.take n)) (g.leftWithout D n) :=
        Serial.same_replay_filter (h.keepsFruitful_take hD n)
      rw [Serial.replay_take_succ ho, hsame.answer]
      exact ⟨h.standing?_of_completed ho, hsame.symm.apply op⟩
    success n op l ho hl hr hc ht := by
      have hs := h.standing?_of_completed ho
      obtain ⟨v, hv, hverdict, hw⟩ := Serial.perform_of_higher hl hr hc ht
      refine ⟨v, hv, ?_, ?_⟩
      · rw [hs, Serial.answer, hverdict]
      · rw [Serial.replay_take_succ ho]
        exact hw
    retry c n l hcalm hf hl hc ht := hcalm.exists_success hf hl hc ht
    steps c k n env g' hk ht hs := hg.untouched_or_raised hk ht hs
    stale c k n l env g' hk ht hl hle hs := by
      refine (hg.untouched_or_raised hk ht hs).resolve_right ?_
      rintro ⟨l', v, hl', -, -, hr⟩
      obtain rfl := Option.some.inj (Except.ok.inj (hl.symm.trans hl'))
      exact Term.not_le.2 hr.higher hle
    dropped c g' hs := hg.untouched_abandon hs
    lock c hc := by
      obtain ⟨task, st, hs, hst⟩ := (h.mem_line c).1 hc
      obtain ⟨k, hk, he⟩ := Option.map_eq_some_iff.1 hs
      obtain ⟨rfl, rfl⟩ := Prod.mk.inj he
      refine ⟨k, hk, ?_⟩
      rw [Phase.contends_standing] at hst
      cases hp : k.phase <;> simp [hp, Phase.contends] at hst <;> rfl }

/-- A connection is refused, the same notice comes again and again, and one is given up while its
connection opens. -/
def redelivery : List Action :=
  elect 0 .tracker ⟨.numbered "a" 1, ⟨1⟩⟩ (.refusing fun _ => true) ++
    elect 1 .tracker ⟨.numbered "a" 1, ⟨1⟩⟩ .silent ++
    undertake 2 .tracker (.notice (.direct ⟨.numbered "a" 1, ⟨1⟩⟩)) .silent 2 ++
    undertake 3 .tracker (.notice (.direct ⟨.numbered "b" 2, ⟨2⟩⟩)) .silent 2 ++ [.abandon 3]

theorem countsOnlySuccesses_of_redelivery :
    ∃ g, (create (.ofOptions {}) [.tracker]).run? redelivery = some g ∧
      g.IsFruitless 0 ∧ g.IsFruitless 2 ∧ g.IsFruitless 3 ∧ g.CountsOnlySuccesses :=
  ⟨_, rfl, ⟨_, rfl, .inr ⟨_, .error (.connect .disconnected), rfl, rfl, rfl⟩⟩,
    ⟨_, rfl, .inr ⟨_, .ok .stale, rfl, rfl, rfl⟩⟩, ⟨_, rfl, .inl rfl⟩,
    countsOnlySuccesses_of_reachable ⟨.ofOptions {}, [.tracker], redelivery, rfl⟩⟩

end Gateway

end LeaderRouting
