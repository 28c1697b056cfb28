import LeaderRouting.Proofs.Tracker.Futility

/-!
The tracked term over time.  Operations are only ever added to those that are completed, and until the
shutdown none of them lowers the tracked term, so that a term which is stale stays so.
-/

namespace LeaderRouting

open Gateway

namespace Serial

variable {t : Serial} {op : Operation} {ops more : List Operation} {l : Leader}

theorem replay_append (ops more : List Operation) :
    replay (ops ++ more) = more.foldl apply (replay ops) :=
  List.foldl_append

/-- An operation that leaves the gateway running found it running, and has not lowered the term. -/
theorem term_le_apply (hc : (t.apply op).writer.closed = false) :
    t.writer.closed = false ∧ t.writer.term ≤ (t.apply op).writer.term := by
  simp only [apply, writer_note] at hc ⊢
  rcases perform_cases t op with ⟨-, he⟩ | ⟨s, -, hclosed, hl, he⟩ | ⟨-, -, he⟩ <;> rw [he] at hc ⊢
  · exact ⟨hc, Term.le_refl _⟩
  · exact ⟨hclosed, Term.le_of_lt hl⟩
  · cases hc

theorem term_le_foldl (hc : (ops.foldl apply t).writer.closed = false) :
    t.writer.closed = false ∧ t.writer.term ≤ (ops.foldl apply t).writer.term := by
  induction ops generalizing t with
  | nil => exact ⟨hc, Term.le_refl _⟩
  | cons op ops ih =>
    obtain ⟨hclosed, hle⟩ := ih hc
    obtain ⟨hclosed, hle'⟩ := term_le_apply hclosed
    exact ⟨hclosed, Term.le_trans hle' hle⟩

theorem perform_of_stale (hu : op.update = .elect l) (hc : t.writer.closed = false)
    (hl : l.term ≤ t.writer.term) : t.perform op = (t, .ok .stale) := by
  simp [perform, hu, elect, hc, hl]

/-- An operation that comes later is stale if it is under a term that is stale already. -/
theorem answer_of_stale (hu : op.update = .elect l) (hl : l.term ≤ (replay ops).writer.term)
    (hc : (replay (ops ++ more)).writer.closed = false) (n : Nat) :
    (replay (ops ++ more.take n)).answer op = op.task.outcome (.ok .stale) := by
  have hsplit : replay (ops ++ more) = (more.drop n).foldl apply (replay (ops ++ more.take n)) := by
    rw [← replay_append, List.append_assoc, List.take_append_drop]
  have hclosed : (replay (ops ++ more.take n)).writer.closed = false :=
    (term_le_foldl (hsplit ▸ hc)).1
  have hle : (replay ops).writer.term ≤ (replay (ops ++ more.take n)).writer.term := by
    rw [replay_append] at hclosed ⊢
    exact (term_le_foldl hclosed).2
  rw [answer, perform_of_stale hu hclosed (Term.le_trans hl hle)]

end Serial

namespace Gateway

variable {g g₁ g' : Gateway} {a : Action} {actions : List Action} {c : CallId} {k : Call} {u : Update}
  {l : Leader} {answer : Answer}

/-! ### Completed operations -/

/-- What is completed stays completed. -/
theorem Disciplined.completed_course (h : g.Disciplined) (hc : Course g a g₁) :
    g.completed <+: g₁.release.completed := by
  rw [completed_release]
  rcases (h.transition hc.transition).2 with ⟨-, he⟩ | ⟨op, -, -, he, -⟩
  · exact he ▸ List.prefix_rfl
  · exact he ▸ List.prefix_append _ _

theorem completed_of_run (hg : g.Reachable) (hr : g.run? actions = some g') :
    g.completed <+: g'.completed :=
  hg.run_induction (P := fun g' => g.completed <+: g'.completed) List.prefix_rfl
    (fun _ _ _ _ hg _ h hc => h.trans ((serialized_of_reachable hg).completed_course hc)) hr

/-- The operation of a call that has ended during a run is among those that the run has completed. -/
theorem exists_completed_of_run (hg : g.Reachable) (hr : g.run? actions = some g')
    {more : List Operation} (hmore : g'.completed = g.completed ++ more)
    (hk : g'.call? c = some k) (hu : k.task.update? = some u) (hp : k.phase = .finished answer)
    (hnew : ∀ k, g.call? c = some k → k.phase.ended = false) :
    ∃ n op, more[n]? = some op ∧ op.task = k.task ∧ op.update = u ∧
      answer = (Serial.replay (g.completed ++ more.take n)).answer op := by
  have hg' := hg.run hr
  obtain ⟨n, hn⟩ := (attended_of_reachable hg').exists_completed hk hu hp
  obtain ⟨k', hk', hp'⟩ := (serialized_of_reachable hg').answer hn
  obtain rfl := Option.some.inj (hk.symm.trans hk')
  rw [hmore] at hn hp'
  have hle : g.completed.length ≤ n := by
    by_contra hlt
    rw [List.getElem?_append_left (by omega)] at hn
    obtain ⟨k₀, a, hk₀, hp₀, -⟩ := exists_call?_of_completed (List.mem_of_getElem? hn)
    have hunended := hnew k₀ hk₀
    simp [hp₀, Phase.ended] at hunended
  rw [List.getElem?_append_right hle] at hn
  refine ⟨_, _, hn, rfl, rfl, ?_⟩
  rw [List.take_append, List.take_of_length_le hle] at hp'
  exact Phase.finished.inj (hp.symm.trans hp')

/-! ### Stale notices -/

/-- A call that ends during a run, while the gateway is not shut down, is told that its term is stale
if it was so at the start of the run. -/
theorem stale_of_run (hg : g.Reachable) (hr : g.run? actions = some g')
    (hlive : g'.writer.closed = false) (hk : g'.call? c = some k)
    (hu : k.task.update? = some (.elect l)) (hl : l.term ≤ g.writer.term)
    (hp : k.phase = .finished answer) (hnew : ∀ k, g.call? c = some k → k.phase.ended = false) :
    answer = k.task.outcome (.ok .stale) := by
  obtain ⟨more, hmore⟩ := completed_of_run hg hr
  obtain ⟨n, op, -, htask, hupdate, rfl⟩ :=
    exists_completed_of_run hg hr hmore.symm hk hu hp hnew
  rw [(serialized_of_reachable hg).writer] at hl
  rw [(serialized_of_reachable (hg.run hr)).writer, ← hmore] at hlive
  rw [Serial.answer_of_stale hupdate hl hlive, htask]

/-- Until the shutdown the tracked term only rises. -/
theorem term_le_of_run (hg : g.Reachable) (hr : g.run? actions = some g')
    (hlive : g'.writer.closed = false) :
    g.writer.closed = false ∧ g.writer.term ≤ g'.writer.term := by
  obtain ⟨more, hmore⟩ := completed_of_run hg hr
  rw [(serialized_of_reachable (hg.run hr)).writer, ← hmore, Serial.replay_append] at hlive ⊢
  rw [(serialized_of_reachable hg).writer]
  exact Serial.term_le_foldl hlive

/-- A notice under a term that is stale is told so as soon as it has the lock. -/
theorem Reachable.stale_step (hg : g.Reachable) (hlive : g.writer.closed = false)
    (hk : g.call? c = some k) (hp : k.phase = .queued (.elect l)) (hh : g.lock.holder = some c)
    (hl : l.term ≤ g.writer.term) (env : Surroundings) :
    ∃ g' k', g.step? (.run c env) = some g' ∧ g'.call? c = some k' ∧ k'.task = k.task ∧
      k'.phase = .finished (k.task.outcome (.ok .stale)) ∧ g.Untouched g' := by
  obtain rfl := id_of_call? hk
  have hser := serialized_of_reachable hg
  have hr : g.canRun k = true := by simp [canRun, hp, hh]
  have hd : g.writer.decide l = .ignored := by
    simp [Writer.decide, hlive, hl]
  have hproceed : g.proceed env k = ((g.enter (.locked k.id)).log
      (.noticeStale l g.writer.term)).concludeUpdate k (.ok .stale) := by
    have hw : (g.enter (.locked k.id)).writer = g.writer := rfl
    unfold proceed
    simp only [hp, consider, hw, hd]
  have huntouched : g.Untouched (g.proceed env k) :=
    hproceed ▸ untouched_concludeUpdate ((g.enter _).log _) k _ rfl rfl rfl
  have hcall : (g.proceed env k).call? k.id =
      some { k with phase := .finished (k.task.outcome (.ok .stale)) } := by
    rw [hproceed, call?_concludeUpdate, show ((g.enter _).log _).call? k.id = some k from hk]
    rfl
  obtain ⟨k', hk', htask, hphase⟩ := exists_call?_release hcall
  refine ⟨(g.proceed env k).release, k', by simp [step?, act?, runCall?, hk, hr], hk', htask,
    hphase.elim id id, huntouched.release ?_⟩
  exact hser.transition (transition_proceed hk hr)

end Gateway

end LeaderRouting
