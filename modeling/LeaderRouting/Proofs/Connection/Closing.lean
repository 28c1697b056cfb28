import LeaderRouting.Proofs.Connection.Stages

/-!
Closing shared connections.  Whatever the calls on a connection do in turn, and in whatever order its
references go, its channel is released once, after it was retired, which is after it was marked; and no
request that finds it marked is sent.
-/

namespace LeaderRouting

/-- A connection after each of the effects of a close that is made all at once, in turn. -/
def Connection.effects (x : Connection) : List Connection :=
  if x.closed then [x] else [x, x.mark, x.mark.retire, x.mark.retire.release]

theorem Connection.head?_effects (x : Connection) : x.effects.head? = some x := by
  unfold effects
  split_ifs <;> rfl

theorem Connection.getLast?_effects (x : Connection) : x.effects.getLast? = some x.close := by
  unfold effects close
  split_ifs <;> rfl

/-- Whether the effects of a close have come in order so far, and none twice. -/
structure Connection.IsOrdered (x : Connection) : Prop where
  retired : 0 < x.releases → x.retired = true
  closed : x.retired = true → x.closed = true
  once : x.releases ≤ 1

namespace Connection.IsOrdered

variable {x : Connection}

theorem mark (h : x.IsOrdered) : x.mark.IsOrdered where
  retired := h.retired
  closed _ := rfl
  once := h.once

theorem retire (h : x.IsOrdered) (hx : x.closed = true) : x.retire.IsOrdered where
  retired _ := rfl
  closed _ := hx
  once := h.once

theorem release (h : x.IsOrdered) (hx : x.retired = true) (hn : x.releases = 0) :
    x.release.IsOrdered where
  retired _ := hx
  closed := h.closed
  once := Nat.le_of_eq (congrArg (· + 1) hn)

theorem releases_eq (h : x.IsOrdered) (hx : x.closed = false) : x.releases = 0 := by
  by_contra hn
  have hclosed := h.closed (h.retired (Nat.pos_of_ne_zero hn))
  rw [hx] at hclosed
  cases hclosed

/-- The effects of a close that is made all at once come in order as well. -/
theorem effects (h : x.IsOrdered) : ∀ y ∈ x.effects, y.IsOrdered := by
  unfold Connection.effects
  cases hx : x.closed with
  | true => simpa using h
  | false =>
    have hretired := h.mark.retire rfl
    simp only [Bool.false_eq_true, if_false, List.forall_mem_cons]
    exact ⟨h, h.mark, hretired, hretired.release rfl (h.releases_eq hx), nofun⟩

end Connection.IsOrdered

namespace Pool

/-- Whether a call has taken the first step of closing a connection. -/
def HasBegunClose (p : Pool) (c : CallId) (n : Nat) : Prop :=
  ∃ k, p.call? c = some k ∧ k.task = .close n ∧ k.phase ≠ .created ∧ k.phase ≠ .abandoned

def HasReturnedFromClose (p : Pool) (c : CallId) (n : Nat) : Prop :=
  ∃ k answer, p.call? c = some k ∧ k.task = .close n ∧ k.phase = .finished answer

/-- Whether the fact is that the request of a call was handed to a connection. -/
def Fact.sends (c : CallId) (n : Nat) : Fact → Bool
  | .submitted d m _ _ => d = c && m = n
  | _ => false

/-- Every time that the request of a call was handed to a connection. -/
def sendings (p : Pool) (c : CallId) (n : Nat) : List Entry :=
  p.journal.filter (·.fact.sends c n)

variable {p p' : Pool} {a : Action} {actions : List Action} {c d : CallId} {k : Call} {n : Nat}
  {x : Connection} {env : Surroundings} {task : Task} {phase : Phase}

/-! ### Stages in order -/

theorem Stage.isOrdered {closer : Option (CallId × Phase)} (h : Stage x closer) : x.IsOrdered := by
  cases h <;> exact ⟨by simp, by simp, by simp⟩

/-- Once a close has begun and none is under way, the channel was released. -/
theorem Staged.closures_of_returned (h : p.Staged) (hp : p.Honest) (hbegun : ∃ c, p.HasBegunClose c n)
    (hreturned : ∀ c, p.HasBegunClose c n → p.HasReturnedFromClose c n) : p.closures n = 1 := by
  obtain ⟨c, hc⟩ := hbegun
  obtain ⟨k, answer, hk, ht, hphase⟩ := hreturned c hc
  obtain ⟨x, hx, hclosed⟩ := hp.returned c k n answer hk ht hphase
  obtain ⟨closer, hstage, hwho⟩ := h.stage n x hx
  cases closer with
  | none =>
    rw [h.counted, hx, hstage.eq_released hclosed]
    rfl
  | some dq =>
    obtain ⟨d, phase⟩ := dq
    obtain ⟨hclosing, k', hk', ht', hp'⟩ := (hwho d phase).2 rfl
    have hbegun : p.HasBegunClose d n := by
      refine ⟨k', hk', ht', ?_, ?_⟩ <;> rintro he <;> rw [← hp', he] at hclosing <;> cases hclosing
    obtain ⟨k'', answer', hk'', -, hfinished⟩ := hreturned d hbegun
    obtain rfl := Option.some.inj (hk'.symm.trans hk'')
    rw [← hp', hfinished] at hclosing
    cases hclosing

/-- Nobody is closing what nothing refers to. -/
theorem not_isClosing_of_unreferenced (hr : p.isReferenced n = false) : ¬p.IsClosing n c phase := by
  rintro ⟨hphase, k, hk, ht, rfl⟩
  have hunended : k.phase.ended = false := by
    cases hp : k.phase <;> first | rfl | (rw [hp] at hphase; cases hphase)
  have hreferenced : p.isReferenced n = true := by
    simp only [isReferenced, Bool.or_eq_true, List.any_eq_true]
    exact .inr ⟨k, mem_of_call? hk, by simp [hunended, ht, Task.connection?]⟩
  rw [hr] at hreferenced
  cases hreferenced

theorem Staged.closures_of_unreferenced (h : p.Staged) (hr : p.isReferenced n = false)
    (hx : p.connection? n = some x) (hclosed : x.closed = true) : p.closures n = 1 := by
  obtain ⟨closer, hstage, hwho⟩ := h.stage n x hx
  cases closer with
  | none =>
    rw [h.counted, hx, hstage.eq_released hclosed]
    rfl
  | some dq => exact absurd ((hwho dq.1 dq.2).2 rfl) (not_isClosing_of_unreferenced hr)

/-! ### Handing requests over -/

theorem sendings_enter_of_other {f : Fact} (h : f.sends c n = false) :
    (p.enter f).sendings c n = p.sendings c n := by
  simp [sendings, enter, h]

theorem sendings_congr (h : p'.journal = p.journal) : p'.sendings c n = p.sendings c n := by
  unfold sendings
  rw [h]

/-- Only a request that was let in is handed over, and only to the connection that let it in. -/
theorem Turn.sendings_cases (h : Turn p c env task phase p') :
    p'.sendings d n = p.sendings d n ∨ d = c ∧
      ∃ operation arguments request, task = .submit n operation arguments ∧
        phase = .admitted request := by
  have hfinish : ∀ (q : Pool) answer, (q.finish c answer).sendings d n = q.sendings d n :=
    fun q answer => sendings_enter_of_other (p := q.setPhase c (.finished answer)) rfl
  cases h with
  | dial | letIn | watch => exact .inl rfl
  | mark | retire => exact .inl (sendings_congr (journal_change p _ _))
  | pass | turnAway | answer | observe => exact .inl (hfinish p _)
  | refuse => exact .inl ((hfinish _ _).trans (sendings_enter_of_other rfl))
  | @install name member =>
    exact .inl ((hfinish _ _).trans (sendings_enter_of_other (f := .opened _ member) rfl))
  | release =>
    exact .inl ((hfinish _ _).trans
      ((sendings_enter_of_other rfl).trans (sendings_congr (journal_change p _ _))))
  | @handOver m operation arguments request member =>
    by_cases hs : d = c ∧ m = n
    · obtain ⟨rfl, rfl⟩ := hs
      exact .inr ⟨rfl, operation, arguments, request, rfl, rfl⟩
    · refine .inl (sendings_enter_of_other (f := .submitted c m member request) ?_)
      simp only [Fact.sends, Bool.and_eq_false_iff, decide_eq_false_iff_not]
      rcases not_and_or.1 hs with hd | hm
      · exact .inl (Ne.symm hd)
      · exact .inr hm

theorem sendings_release (p : Pool) (c : CallId) (n : Nat) : p.release.sendings c n = p.sendings c n := by
  refine release_induction (P := fun q => q.sendings c n = p.sendings c n) rfl fun q m hq _ => ?_
  refine Eq.trans ?_ hq
  rcases q.closeConnection_cases m with he | ⟨x, -, -, he⟩ <;> rw [he]
  exact (sendings_enter_of_other rfl).trans (sendings_congr (journal_change q _ _))

/-- Whether every request that was handed over is one of a call that is past that. -/
def Accounted (p : Pool) : Prop :=
  ∀ c n, p.sendings c n ≠ [] → ∃ k, p.call? c = some k ∧ k.phase.isPast = true

theorem Accounted.turn (h : p.Accounted) (hk : p.call? c = some k)
    (ht : Turn p c env k.task k.phase p') : p'.Accounted := by
  obtain ⟨phase', -, hpast, hmoves⟩ := ht.exists_moves
  intro d n hd
  by_cases he : d = c
  · subst he
    refine ⟨_, hmoves.call?_self hk, hpast fun hcreated => ?_⟩
    rcases ht.sendings_cases with hs | ⟨-, _, _, request, -, hadmitted⟩
    · obtain ⟨k', hk', hbefore⟩ := h d n (hs ▸ hd)
      obtain rfl := Option.some.inj (hk.symm.trans hk')
      rw [hcreated] at hbefore
      cases hbefore
    · exact nomatch hcreated.symm.trans hadmitted
  · rcases ht.sendings_cases with hs | ⟨hd, -⟩
    · obtain ⟨k', hk', hbefore⟩ := h d n (hs ▸ hd)
      exact ⟨k', (hmoves.call?_of_ne he).trans hk', hbefore⟩
    · exact absurd hd he

theorem Accounted.course (h : p.Accounted) (hc : Course p a p') : p'.Accounted := by
  cases hc with
  | start =>
    intro d n hd
    obtain ⟨k, hk, hpast⟩ := h d n hd
    exact ⟨k, by rw [call?_enrol, hk, Option.some_or], hpast⟩
  | run found turn => exact h.turn found turn
  | @abandon c k found =>
    intro d n hd
    obtain ⟨k', hk', hpast⟩ := h d n hd
    have hmoves := moves_setPhase (p := p) rfl c .abandoned
    by_cases he : d = c
    · subst he
      exact ⟨_, hmoves.call?_self hk', rfl⟩
    · exact ⟨k', (hmoves.call?_of_ne he).trans hk', hpast⟩
  | around => exact h

theorem Accounted.release (h : p.Accounted) : p.release.Accounted := by
  intro c n hs
  rw [sendings_release] at hs
  rw [call?_release]
  exact h c n hs

theorem accounted_of_reachable (hp : p.Reachable) : p.Accounted :=
  (hp.induction (P := Accounted) (fun _ _ hs => absurd rfl hs)
    fun _ _ _ _ h hc => (h.course hc).release).2

/-! ### Requests that are too late -/

/-- Whether a request that comes too late is in such a phase, whatever steps it takes. -/
structure Excludes (Q : Phase → Prop) : Prop where
  created : Q .created
  abandoned : Q .abandoned
  refused : ∀ id, Q (.finished (.replied id (.error .disconnected)))
  answered : ∀ id repliedAt reply, Q (.inFlight id repliedAt reply) → Q (.finished (.replied id reply))
  admitted : ∀ request, ¬Q (.admitted request)

/-- Whether a connection is marked, and a call that is to send a request over it is in such a phase. -/
structure Late (Q : Phase → Prop) (p : Pool) (c : CallId) (n : Nat) : Prop where
  closed : ∃ x, p.connection? n = some x ∧ x.closed = true
  phase : ∀ k operation arguments, p.call? c = some k → k.task = .submit n operation arguments →
    Q k.phase

/-- At a marked connection a request is turned away, or it was sent before. -/
theorem Turn.phase_of_closed {operation : String} {arguments : List Argument}
    (h : Turn p c env (.submit n operation arguments) phase p') (hx : p.connection? n = some x)
    (hc : x.closed = true) (hphase : ∀ request, phase ≠ .admitted request) :
    phase = .created ∧ Moves c (.finished (.replied env.requestId (.error .disconnected))) p p' ∨
      ∃ id repliedAt reply, phase = .inFlight id repliedAt reply ∧
        Moves c (.finished (.replied id reply)) p p' := by
  cases h with
  | turnAway => exact .inl ⟨rfl, moves_finish rfl c _⟩
  | letIn request found unmarked =>
    obtain rfl := Option.some.inj (found.symm.trans hx)
    rw [hc] at unmarked
    cases unmarked
  | handOver => exact absurd rfl (hphase _)
  | answer => exact .inr ⟨_, _, _, rfl, moves_finish rfl c _⟩

namespace Late

variable {Q : Phase → Prop}

theorem of_course (h : Late Q p c n) (hQ : Excludes Q) (hc : Course p a p') : Late Q p' c n where
  closed := hc.lasts.exists_closed h.closed
  phase k' operation arguments hk' ht := by
    cases hc with
    | start =>
      rcases enrol_cases hk' with hk' | ⟨-, rfl⟩
      · exact h.phase k' operation arguments hk' ht
      · exact hQ.created
    | @run d k env _ found turn =>
      obtain ⟨phase', -, -, hmoves⟩ := turn.exists_moves
      rcases hmoves.cases found hk' with ⟨rfl, rfl⟩ | ⟨-, hk'⟩
      · obtain ⟨x, hx, hclosed⟩ := h.closed
        have hbefore := h.phase k operation arguments found ht
        have houtside : ∀ request, k.phase ≠ .admitted request :=
          fun request he => hQ.admitted request (he ▸ hbefore)
        rw [show k.task = _ from ht] at turn
        rcases turn.phase_of_closed hx hclosed houtside with ⟨-, hq⟩ | ⟨_, _, _, hp, hq⟩
        · exact hmoves.unique hq found ▸ hQ.refused env.requestId
        · exact hmoves.unique hq found ▸ hQ.answered _ _ _ (hp ▸ hbefore)
      · exact h.phase k' operation arguments hk' ht
    | abandon found =>
      rcases (moves_setPhase rfl _ _).cases found hk' with ⟨-, rfl⟩ | ⟨-, hk'⟩
      · exact hQ.abandoned
      · exact h.phase k' operation arguments hk' ht
    | around => exact h.phase k' operation arguments hk' ht

theorem release (h : Late Q p c n) : Late Q p.release c n where
  closed := (lasts_release p).exists_closed h.closed
  phase k operation arguments hk ht := h.phase k operation arguments (call?_release p c ▸ hk) ht

/-- Its request is not handed over in this step. -/
theorem sendings_eq (h : Late Q p c n) (hQ : Excludes Q) (hc : Course p a p') :
    p'.sendings c n = p.sendings c n := by
  cases hc with
  | run found turn =>
    rcases turn.sendings_cases (d := c) (n := n) with hs | ⟨rfl, operation, arguments, request, ht, hp⟩
    · exact hs
    · exact absurd (hp ▸ h.phase _ operation arguments found ht) (hQ.admitted request)
  | _ => rfl

/-- Nor in any later one. -/
theorem run? (h : Late Q p c n) (hQ : Excludes Q) (hp : p.Coherent) (hr : p.run? actions = some p') :
    Late Q p' c n ∧ p'.sendings c n = p.sendings c n := by
  refine (hp.run?_induction (P := fun q => Late Q q c n ∧ q.sendings c n = p.sendings c n) ⟨h, rfl⟩
    ?_ hr).2
  rintro a q q₁ - ⟨hq, hs⟩ hc
  exact ⟨(hq.of_course hQ hc).release,
    (sendings_release q₁ c n).trans ((hq.sendings_eq hQ hc).trans hs)⟩

end Late

/-! ### Every reachable state -/

/-- A request that has yet to look at the mark, or has found it. -/
def Phase.IsTurnedAway (phase : Phase) : Prop :=
  phase = .created ∨ phase = .abandoned ∨
    ∃ id, phase = .finished (.replied id (.error .disconnected))

theorem excludes_isTurnedAway : Excludes Phase.IsTurnedAway where
  created := .inl rfl
  abandoned := .inr (.inl rfl)
  refused id := .inr (.inr ⟨id, rfl⟩)
  answered id repliedAt reply h := by rcases h with h | h | ⟨_, h⟩ <;> cases h
  admitted request h := by rcases h with h | h | ⟨_, h⟩ <;> cases h

theorem excludes_ne_admitted : Excludes fun phase => ∀ request, phase ≠ .admitted request where
  created := nofun
  abandoned := nofun
  refused := nofun
  answered := nofun
  admitted request h := h request rfl

/-- Whether shared connections are closed once and in order, and nothing is sent over a connection by
whoever comes to it after its close has begun. -/
structure ClosesOnce (p : Pool) : Prop where
  /-- In the whole run. -/
  once : ∀ n, p.closures n ≤ 1
  /-- As soon as a close has begun, and every close that has begun has returned. -/
  returned : ∀ n, (∃ c, p.HasBegunClose c n) →
    (∀ c, p.HasBegunClose c n → p.HasReturnedFromClose c n) → p.closures n = 1
  /-- As soon as there are no references. -/
  deserted : ∀ n < p.connections.length, p.isReferenced n = false → p.closures n = 1
  ordered : ∀ n x, p.connection? n = some x → p.closures n = x.releases ∧ x.IsOrdered
  /-- Also between the effects of the close that comes with the last reference. -/
  dropped : ∀ n x, p.connection? n = some x → x.effects.head? = some x ∧
    x.effects.getLast? = some x.close ∧ ∀ y ∈ x.effects, y.IsOrdered
  /-- A request that looks at the mark once it is there fails in the step in which it looks, for
  good. -/
  fails : ∀ c k n operation arguments x, p.call? c = some k → k.task = .submit n operation arguments →
    k.phase = .created → p.connection? n = some x → x.closed = true → ∀ env, ∃ p₁ k₁,
      p.step? (.run c env) = some p₁ ∧
      k₁.phase = .finished (.replied env.requestId (.error .disconnected)) ∧
      ∀ actions p', p₁.run? actions = some p' → p'.call? c = some k₁
  /-- And it was not sent, nor will it be, whatever happens. -/
  turnsAway : ∀ c n x, p.connection? n = some x → x.closed = true →
    (∀ k, p.call? c = some k → k.phase = .created) → ∀ actions p', p.run? actions = some p' →
      (∀ k operation arguments, p'.call? c = some k → k.task = .submit n operation arguments →
        k.phase.IsTurnedAway) ∧ p'.sendings c n = []
  /-- Whoever is told that a connection was retired is told so after it was marked. -/
  observed : ∀ c k n answer, p.call? c = some k → k.task = .awaitRetired n →
    k.phase = .finished answer → ∃ x, p.connection? n = some x ∧ x.retired = true ∧ x.closed = true
  /-- From its mark on, no request is sent over a connection but those that were let in before. -/
  final : ∀ n x, p.connection? n = some x → x.closed = true → ∀ c,
    (∀ k request, p.call? c = some k → k.phase ≠ .admitted request) → ∀ actions p',
      p.run? actions = some p' → p'.sendings c n = p.sendings c n

theorem Coherent.step?_of_closed (hp : p.Coherent) (hk : p.call? c = some k) {operation : String}
    {arguments : List Argument} (ht : k.task = .submit n operation arguments)
    (hphase : k.phase = .created) (hx : p.connection? n = some x) (hclosed : x.closed = true)
    (env : Surroundings) : ∃ p' k', p.step? (.run c env) = some p' ∧ p'.call? c = some k' ∧
      k'.phase = .finished (.replied env.requestId (.error .disconnected)) := by
  have hr : p.canRun k = true := by simp [canRun, hphase]
  have hturn : Turn p c env k.task k.phase _ := hp.turn_proceed hk hr
  rw [ht, hphase] at hturn
  have hstep : p.step? (.run c env) = some (p.proceed env k).release := by
    simp [step?, act?, runCall?, hk, hr]
  have houtside : ∀ request, Phase.created ≠ .admitted request := by
    intro request he
    cases he
  rcases hturn.phase_of_closed hx hclosed houtside with ⟨-, hmoves⟩ | ⟨_, _, _, hflight, -⟩
  · exact ⟨_, _, hstep, (call?_release _ c).trans (hmoves.call?_self hk), rfl⟩
  · cases hflight

theorem Coherent.call?_of_run (hp : p.Coherent) (hk : p.call? c = some k)
    (he : k.phase.ended = true) (hr : p.run? actions = some p') : p'.call? c = some k :=
  (hp.run?_induction (P := fun q => q.call? c = some k) hk
    (fun _ _ q₁ _ hq hc => (call?_release q₁ c).trans (hc.call?_of_ended hq he)) hr).2

theorem closesOnce_of_reachable (hp : p.Reachable) : p.ClosesOnce := by
  have hcoherent := (hp.induction (P := fun _ => True) trivial fun _ _ _ _ _ _ => trivial).1
  have hstaged := staged_of_reachable hp
  have hhonest := honest_of_reachable hp
  exact {
    once n := by
      rw [hstaged.counted]
      cases hx : p.connection? n with
      | none => exact Nat.zero_le 1
      | some x =>
        obtain ⟨_, hstage, -⟩ := hstaged.stage n x hx
        exact hstage.isOrdered.once
    returned n := hstaged.closures_of_returned hhonest
    deserted n hn hr := by
      obtain ⟨x, hx, hclosed⟩ := exists_closed_of_reachable hp hn hr
      exact hstaged.closures_of_unreferenced hr hx hclosed
    ordered n x hx := by
      obtain ⟨_, hstage, -⟩ := hstaged.stage n x hx
      exact ⟨by rw [hstaged.counted, hx]; rfl, hstage.isOrdered⟩
    dropped n x hx := by
      obtain ⟨_, hstage, -⟩ := hstaged.stage n x hx
      exact ⟨x.head?_effects, x.getLast?_effects, hstage.isOrdered.effects⟩
    fails c k n operation arguments x hk ht hphase hx hclosed env := by
      obtain ⟨p₁, k₁, hstep, hk₁, hfailed⟩ := hcoherent.step?_of_closed hk ht hphase hx hclosed env
      obtain ⟨p₂, hc, rfl⟩ := hcoherent.exists_course hstep
      have hended : k₁.phase.ended = true := by
        rw [hfailed]
        rfl
      exact ⟨_, k₁, hstep, hfailed, fun actions p' hr =>
        (hcoherent.course hc).release.call?_of_run hk₁ hended hr⟩
    turnsAway c n x hx hclosed hcreated actions p' hr := by
      have hlate : Late Phase.IsTurnedAway p c n :=
        ⟨⟨x, hx, hclosed⟩, fun k _ _ hk _ => .inl (hcreated k hk)⟩
      obtain ⟨hlate', hsame⟩ := hlate.run? excludes_isTurnedAway hcoherent hr
      refine ⟨hlate'.phase, hsame.trans ?_⟩
      by_contra hsent
      obtain ⟨k, hk, hpast⟩ := accounted_of_reachable hp c n hsent
      rw [hcreated k hk] at hpast
      cases hpast
    observed c k n answer hk ht hphase := by
      obtain ⟨x, hx, hretired⟩ := hhonest.observed c k n answer hk ht hphase
      obtain ⟨_, hstage, -⟩ := hstaged.stage n x hx
      exact ⟨x, hx, hretired, hstage.isOrdered.closed hretired⟩
    final n x hx hclosed c houtside actions p' hr := by
      have hlate : Late (fun phase => ∀ request, phase ≠ .admitted request) p c n :=
        ⟨⟨x, hx, hclosed⟩, fun k _ _ hk _ request => houtside k request hk⟩
      exact (hlate.run? excludes_ne_admitted hcoherent hr).2 }

/-- Two closes of one connection with two names, between the steps of two requests and of one who waits
for its retirement. -/
def contention : List Action :=
  let env := { Surroundings.silent with requestId := ⟨"r"⟩ }
  [.start 0 (.connect "x" (.numbered "a" 1)), .run 0 env, .run 0 env, .share "x" "y",
    .start 1 (.close 0), .start 2 (.close 0), .start 3 (.submit 0 "op" []), .start 4 (.awaitRetired 0),
    .start 5 (.submit 0 "op" []), .run 4 env, .run 3 env, .run 1 env, .run 2 env, .run 5 env,
    .drop "x", .run 1 env, .run 4 env, .run 3 env, .run 1 env, .drop "y", .abandon 3]

/-- The request that was let in before the mark is sent, and the other is not. -/
theorem closesOnce_of_contention :
    ∃ p, ({} : Pool).run? contention = some p ∧ p.isReferenced 0 = false ∧ p.closures 0 = 1 ∧
      (p.sendings 3 0).length = 1 ∧ p.sendings 5 0 = [] ∧
      (p.call? 5).map (·.phase) = some (.finished (.replied ⟨"r"⟩ (.error .disconnected))) ∧
      p.ClosesOnce :=
  ⟨_, rfl, rfl, rfl, rfl, rfl, rfl, closesOnce_of_reachable ⟨contention, rfl⟩⟩

end Pool

end LeaderRouting
