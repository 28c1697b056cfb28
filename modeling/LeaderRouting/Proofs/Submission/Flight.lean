import LeaderRouting.Proofs.Gateway.Time
import LeaderRouting.Proofs.Submission.Dealings

/-!
Requests in flight, where they are not cancelled with their connection.  How such a request ends, and
when, is settled at the moment at which it is handed over: its reply counts if it is there in time,
and nothing else does, whatever becomes of the connection, the leader and the gateway meanwhile.
-/

namespace LeaderRouting

open Gateway

namespace Reply

/-- Whether the reply is there before, or just when, the timeout has passed. -/
def isInTime (reply : Reply) (timeout : Duration) : Bool :=
  reply.delay.any (· ≤ timeout.ceilMillis)

/-- How many milliseconds a request is in flight to which this is the reply. -/
def wait (reply : Reply) (timeout : Duration) : Nat :=
  match reply.delay with
  | none => timeout.ceilMillis
  | some delay => min delay timeout.ceilMillis

/-- The answer of a call whose request gets this reply. -/
def answer (reply : Reply) (task : Task) (request : RequestId) (timeout : Duration) : Answer :=
  if reply.isInTime timeout then task.conclusion request reply.feedback.result
  else task.failed (.submissionTimeout request timeout)

end Reply

namespace Gateway

/-- When the request is no longer in flight. -/
def InFlight.due (f : InFlight) : Nat :=
  match f.repliedAt with
  | none => f.deadline
  | some t => min t f.deadline

def InFlight.answer (f : InFlight) (task : Task) (timeout : Duration) : Answer :=
  if f.repliedAt.any (· ≤ f.deadline) then task.conclusion f.request f.feedback.result
  else task.failed (.submissionTimeout f.request timeout)

/-- Whether the fact is that the call was given an answer. -/
def Fact.answers (c : CallId) : Fact → Bool
  | .answered d _ => d = c
  | _ => false

/-- The answers that the call was given, with the moments at which it was given them. -/
def answersTo (g : Gateway) (c : CallId) : List Entry :=
  g.journal.filter (·.fact.answers c)

/-- Whether the call has come to this phase, and has been given these answers. -/
structure Stands (g : Gateway) (c : CallId) (task : Task) (p : Phase) (es : List Entry) : Prop where
  call : ∃ k, g.call? c = some k ∧ k.task = task ∧ k.phase = p
  answers : g.answersTo c = es

/-- Whether the call, the answer for which is settled, has still to wait for it. -/
structure Aloft (g : Gateway) (c : CallId) (task : Task) (due : Nat) (answer : Answer) : Prop where
  flight : ∃ f, g.Stands c task (.inFlight f) []
  early : g.now ≤ due
  /-- Until the moment has come nothing makes the call go on. -/
  able : ∀ k, g.call? c = some k → (g.canRun k = true ↔ g.now = due)
  /-- Then its next step ends it. -/
  ends : g.now = due → ∀ env, ∃ g', g.step? (.run c env) = some g' ∧
    g'.Stands c task (.finished answer) [⟨due, .answered c answer⟩]
  /-- Time does not stop before. -/
  clock : (∀ k ∈ g.calls, g.canRun k = false) →
    g.now < due ∧ (g.step? (.advance (g.now + 1))).isSome = true

/-- Whether the call has been given the answer that is settled for it, once and at the moment that is
settled for it. -/
structure Landed (g : Gateway) (c : CallId) (task : Task) (due : Nat) (answer : Answer) : Prop where
  ended : g.Stands c task (.finished answer) [⟨due, .answered c answer⟩]
  late : due ≤ g.now

variable {g g₁ g' : Gateway} {a : Action} {c d : CallId} {k : Call} {task : Task} {p : Phase}
  {es : List Entry} {f : InFlight} {sub : Submission} {env : Surroundings}

/-! ### The reply that is settled at the hand-over -/

theorem due_flight (g : Gateway) (env : Surroundings) (a : Admission) : (g.flight env a).due =
    g.now + (env.reply a.member a.request).wait g.settings.submitTimeout := by
  unfold flight InFlight.due Reply.wait
  cases (env.reply a.member a.request).delay with
  | none => rfl
  | some delay => exact Nat.add_min_add_left g.now delay g.settings.submitTimeout.ceilMillis

theorem answer_flight (g : Gateway) (env : Surroundings) (a : Admission) (task : Task) :
    (g.flight env a).answer task g.settings.submitTimeout =
      (env.reply a.member a.request).answer task a.request.id g.settings.submitTimeout := by
  unfold flight InFlight.answer Reply.answer Reply.isInTime
  cases (env.reply a.member a.request).delay <;> simp

theorem timer?_of_inFlight (hp : k.phase = .inFlight f) : timer? k = some f.due := by
  unfold timer? InFlight.due
  rw [hp]
  cases h : f.repliedAt <;> simp [h]

/-- The moment has come when the reply is there or the timeout has passed. -/
theorem isDue_or_isDue_iff :
    (g.isDue f.repliedAt || g.isDue (some f.deadline)) = true ↔ f.due ≤ g.now := by
  unfold InFlight.due
  rw [Bool.or_eq_true]
  cases f.repliedAt with
  | none => simp [isDue]
  | some t =>
    simp only [isDue, decide_eq_true_eq]
    omega

theorem isSuperseded_eq_false (hcancel : g.settings.cancelInFlightOnSwap = false) (f : InFlight) :
    g.isSuperseded f = false := by
  unfold isSuperseded
  rw [hcancel, Bool.false_and]

/-- A call whose request is in flight, and not superseded, goes on when the moment has come. -/
theorem canRun_iff_of_inFlight (hp : k.phase = .inFlight f) (hsup : g.isSuperseded f = false) :
    g.canRun k = true ↔ f.due ≤ g.now := by
  unfold canRun
  simp only [hp, hsup, Bool.or_false]
  exact isDue_or_isDue_iff

/-- At the moment at which the request is no longer in flight, a reply is there just if it is there in
time. -/
theorem isDue_of_due (hnow : g.now = f.due) :
    g.isDue f.repliedAt = f.repliedAt.any (· ≤ f.deadline) := by
  unfold InFlight.due at hnow
  cases h : f.repliedAt with
  | none => rfl
  | some t =>
    simp only [h] at hnow
    simp only [isDue, Option.any_some, decide_eq_decide]
    omega

/-! ### Answers in the journal -/

/-- A turn ends with an answer at most. -/
theorem Turn.answersTo (h : Turn c g g') (d : CallId) : g'.answersTo d = g.answersTo d := by
  obtain ⟨news, hn, ht⟩ := h.journal
  unfold Gateway.answersTo
  rw [hn, List.filter_append, List.append_right_eq_self, List.filter_eq_nil_iff]
  intro e he
  have hturn := (ht e he).2
  cases hf : e.fact <;> simp_all [Fact.answers, Fact.DuringTurnOf]

theorem answersTo_finish (g : Gateway) (c d : CallId) (a : Answer) :
    (g.finish c a).answersTo d =
      g.answersTo d ++ if d = c then [⟨g.now, .answered c a⟩] else [] := by
  have hline : ((a.line?.map fun line => Entry.mk g.now (.logged line)).toList).filter
      (·.fact.answers d) = [] := by
    cases a.line? <;> simp [Fact.answers]
  unfold answersTo
  rw [journal_finish, List.filter_append, List.filter_append, hline, List.append_nil]
  split_ifs with hd
  · simp [Fact.answers, hd]
  · simp [Fact.answers, Ne.symm hd]

theorem UpToAnswer.answersTo (h : UpToAnswer c (Turn c g) g') (hd : d ≠ c) :
    g'.answersTo d = g.answersTo d := by
  rcases h with h | ⟨g₁, a, h, rfl⟩
  · exact h.answersTo d
  · rw [answersTo_finish, if_neg hd, List.append_nil, h.answersTo]

theorem answersTo_release (g : Gateway) (c : CallId) : g.release.answersTo c = g.answersTo c := by
  obtain ⟨g₁, ht, -, -, hj⟩ := exists_turn_release g c
  exact (ht.answersTo c).trans (congrArg (List.filter _) hj)

/-- A call that ends in its turn is given its answer then. -/
theorem UpToAnswer.answered (h : UpToAnswer c (Turn c g) g') (hk : g.call? c = some k)
    (hu : k.phase.ended = false) {k' : Call} (hk' : g'.call? c = some k') {a : Answer}
    (hp : k'.phase = .finished a) : g'.answersTo c = g.answersTo c ++ [⟨g.now, .answered c a⟩] := by
  rcases h with h | ⟨g₁, a', h, rfl⟩
  · have hended := h.unended (by simp [hasEnded, hk', hp, Phase.ended])
    simp [hasEnded, hk, hu] at hended
  · rw [call?_finish, if_pos rfl] at hk'
    obtain ⟨k₀, -, rfl⟩ := Option.map_eq_some_iff.1 hk'
    obtain rfl := Phase.finished.inj hp
    rw [answersTo_finish, if_pos rfl, h.answersTo, h.now]

/-! ### What a step does to a call -/

/-- A call in a phase that no waking changes stays there while others come, go and have their turns. -/
theorem Stands.congr (h : g.Stands c task p es) (hw : p.wake = p)
    (hc : g₁.call? c = g.call? c ∨ g₁.call? c = (g.call? c).map Call.wake)
    (ha : g₁.answersTo c = g.answersTo c) : g₁.Stands c task p es := by
  obtain ⟨⟨k, hk, ht, hp⟩, hes⟩ := h
  refine ⟨?_, ha.trans hes⟩
  rcases hc with hc | hc
  · exact ⟨k, hc.trans hk, ht, hp⟩
  · exact ⟨k.wake, by rw [hc, hk]; rfl, ht, (congrArg Phase.wake hp).trans hw⟩

theorem Stands.release (h : g.Stands c task p es) (hw : p.wake = p) : g.release.Stands c task p es :=
  h.congr hw (call?_release g c) (answersTo_release g c)

/-- Only the call itself, and its caller, bring it on. -/
theorem Stands.course (h : g.Stands c task p es) (hw : p.wake = p) (hc : Course g a g₁) :
    g₁.Stands c task p es ∨
      (∃ env k, g.call? c = some k ∧ g.canRun k = true ∧ g₁ = g.proceed env k) ∨
      (a = .abandon c ∧ p.isWaiting = true ∧ g₁.Stands c task .abandoned es) := by
  obtain ⟨⟨k, hk, ht, hp⟩, hes⟩ := h
  cases hc with
  | around => exact .inl ⟨⟨k, hk, ht, hp⟩, hes⟩
  | advance => exact .inl ⟨⟨k, hk, ht, hp⟩, hes⟩
  | @start d handle task' seen hf =>
    refine .inl ⟨⟨k, ?_, ht, hp⟩, ?_⟩
    · rw [call?_enrol, hk, Option.some_or]
    · rw [← hes]
      simp [answersTo, enrol, enter, Fact.answers]
  | @abandon d k' hk' hwait =>
    have hes' : (g.giveUp d).answersTo c = es := by
      rw [← hes]
      simp [answersTo, giveUp, enter, setPhase, Fact.answers]
    have hcall := call?_giveUp g d c
    split_ifs at hcall with hd
    · subst hd
      obtain rfl := Option.some.inj (hk.symm.trans hk')
      exact .inr (.inr ⟨rfl, hp ▸ hwait, ⟨{ k with phase := .abandoned },
        by rw [hcall, hk]; rfl, ht, rfl⟩, hes'⟩)
    · exact .inl ⟨⟨k, hcall.trans hk, ht, hp⟩, hes'⟩
  | @run d k' env hk' hr =>
    by_cases hd : c = d
    · subst hd
      exact .inr (.inl ⟨env, k', hk', hr, rfl⟩)
    · have hturn := turn_proceed env hk' hr
      have hstands : g.Stands c task p es := ⟨⟨k, hk, ht, hp⟩, hes⟩
      exact .inl (hstands.congr hw (hturn.others hd) (hturn.answersTo hd))

/-- A call that has ended stays as it is. -/
theorem Stands.course_of_ended (h : g.Stands c task p es) (hu : p.ended = true)
    (hc : Course g a g₁) : g₁.Stands c task p es := by
  have hw : p.wake = p := by cases p <;> first | rfl | simp [Phase.ended] at hu
  obtain ⟨k, hk, -, hp⟩ := h.call
  rcases h.course hw hc with h | ⟨env, k', hk', hr, -⟩ | ⟨-, hwait, -⟩
  · exact h
  · obtain rfl := Option.some.inj (hk.symm.trans hk')
    simp [hp ▸ ended_of_canRun hr] at hu
  · simp [Phase.ended_of_isWaiting hwait] at hu

theorem stands_finish (hk : g.call? c = some k) (ht : k.task = task) (hn : g.answersTo c = [])
    (answer : Answer) :
    (g.finish c answer).Stands c task (.finished answer) [⟨g.now, .answered c answer⟩] := by
  refine ⟨⟨{ k with phase := .finished answer }, ?_, ht, rfl⟩, ?_⟩
  · rw [call?_finish, if_pos rfl, hk]
    rfl
  · rw [answersTo_finish, if_pos rfl, hn, List.nil_append]

/-- A call that is answered in its turn is answered at the moment of its turn. -/
theorem Turn.stands_finish (h : Turn c g g₁) (hk : g₁.call? c = some k) (hn : g.answersTo c = [])
    (answer : Answer) :
    (g₁.finish c answer).Stands c k.task (.finished answer) [⟨g.now, .answered c answer⟩] :=
  h.now ▸ Gateway.stands_finish hk rfl ((h.answersTo c).trans hn) answer

/-- When the moment has come the call ends with what is settled, unless it notices first that its
request is superseded. -/
theorem Stands.land (h : g.Stands c task (.inFlight f) []) (hnow : g.now = f.due)
    (hk : g.call? c = some k) (hcut : (g.isSuperseded f && (env.closedFirst ||
      !(g.isDue f.repliedAt || g.isDue (some f.deadline)))) = false) :
    (g.proceed env k).Stands c task (.finished (f.answer task g.settings.submitTimeout))
      [⟨f.due, .answered c (f.answer task g.settings.submitTimeout)⟩] := by
  obtain ⟨⟨k', hk', rfl, hp⟩, hes⟩ := h
  obtain rfl := Option.some.inj (hk.symm.trans hk')
  obtain rfl := id_of_call? hk
  unfold InFlight.answer
  rw [← isDue_of_due hnow, ← hnow]
  unfold proceed Gateway.land
  simp only [hp, hcut, Bool.false_eq_true, ↓reduceIte]
  split_ifs
  · obtain ⟨line, he⟩ := conclude_eq (g.enter (.replied k.id f.feedback)) k f.snapshot f.request
      f.feedback.result
    have hreplied : Turn k.id g (g.enter (.replied k.id f.feedback)) := turn_enter rfl
    have hturn := hreplied.trans (aside_logIfAny line).toTurn
    rw [he]
    exact hturn.stands_finish (by cases line <;> exact hk) hes _
  · exact Turn.stands_finish (turn_log _) hk hes _

theorem Stands.aloft (h : g.Stands c task (.inFlight f) [])
    (hcancel : g.settings.cancelInFlightOnSwap = false) (hearly : g.now ≤ f.due) :
    g.Aloft c task f.due (f.answer task g.settings.submitTimeout) := by
  obtain ⟨k, hk, ht, hp⟩ := h.call
  have hsup := isSuperseded_eq_false hcancel f
  have hable := canRun_iff_of_inFlight hp hsup
  refine ⟨⟨f, h⟩, hearly, fun k' hk' => ?_, fun hnow env => ?_, fun hidle => ⟨?_, ?_⟩⟩
  · obtain rfl := Option.some.inj (hk.symm.trans hk')
    rw [hable]
    omega
  · refine ⟨(g.proceed env k).release, ?_, (h.land hnow hk (by rw [hsup]; rfl)).release rfl⟩
    simp [step?, act?, runCall?, hk, hable, hnow]
  · exact now_lt_timer (hidle k (mem_of_call? hk)) (timer?_of_inFlight hp)
  · exact isSome_advance hidle

/-! ### What a run does to a request in flight -/

/-- What has become of a request after some actions. -/
inductive Fate (g : Gateway) (c : CallId) (task : Task) (f : InFlight) (answer : Answer)
    (actions : List Action) : Prop
  | aloft (flight : g.Stands c task (.inFlight f) []) (early : g.now ≤ f.due)
  | landed (landed : g.Landed c task f.due answer)
  | givenUp (asked : .abandon c ∈ actions) (gone : g.Stands c task .abandoned [])

theorem Fate.course {actions : List Action}
    (h : g.Fate c task f (f.answer task g.settings.submitTimeout) actions)
    (hcancel : g.settings.cancelInFlightOnSwap = false) (ha : a ∈ actions) (hc : Course g a g₁) :
    g₁.release.Fate c task f (f.answer task g.settings.submitTimeout) actions := by
  cases h with
  | landed hl =>
    refine .landed ⟨(hl.ended.course_of_ended rfl hc).release rfl, ?_⟩
    exact now_release g₁ ▸ Nat.le_trans hl.late hc.now_le
  | givenUp hasked hgone => exact .givenUp hasked ((hgone.course_of_ended rfl hc).release rfl)
  | aloft hflight hearly =>
    obtain ⟨k, hk, ht, hp⟩ := hflight.call
    have hearly₁ := hc.now_le_timer hk (timer?_of_inFlight hp) hearly
    rcases hflight.course rfl hc with h | ⟨env, k', hk', hr, rfl⟩ | ⟨rfl, -, hgone⟩
    · exact .aloft (h.release rfl) (now_release g₁ ▸ hearly₁)
    · -- It can go on at the last moment only, as its connection is not looked at.
      obtain rfl := Option.some.inj (hk.symm.trans hk')
      have hsup := isSuperseded_eq_false hcancel f
      have hdue := (canRun_iff_of_inFlight hp hsup).1 hr
      have hnow : g.now = f.due := Nat.le_antisymm hearly hdue
      refine .landed ⟨(hflight.land hnow hk (by rw [hsup]; rfl)).release rfl, ?_⟩
      exact now_release (g.proceed env k) ▸ Nat.le_trans hdue hc.now_le
    · exact .givenUp ha (hgone.release rfl)

theorem Stands.fate {actions : List Action} (h : g.Stands c task (.inFlight f) [])
    (hcancel : g.settings.cancelInFlightOnSwap = false) (hearly : g.now ≤ f.due)
    (hr : g.run? actions = some g') : g'.settings = g.settings ∧
      g'.Fate c task f (f.answer task g.settings.submitTimeout) actions := by
  refine run?_induction (P := fun g' => g'.settings = g.settings ∧
    g'.Fate c task f (f.answer task g.settings.submitTimeout) actions) ⟨rfl, .aloft h hearly⟩ ?_ hr
  rintro a ha g₁ g₂ ⟨hset, hfate⟩ hc
  refine ⟨(settings_release g₂).trans (hc.settings.trans hset), ?_⟩
  rw [← hset] at hfate hcancel ⊢
  exact hfate.course hcancel ha hc

/-! ### Handing a request over -/

/-- A turn that does not end its call comes without an answer. -/
theorem UpToAnswer.toTurn (h : UpToAnswer c (Turn c g) g') (hk : g'.call? c = some k)
    (hu : k.phase.ended = false) : Turn c g g' := by
  rcases h with h | ⟨g₁, a, -, rfl⟩
  · exact h
  · rw [call?_finish, if_pos rfl] at hk
    obtain ⟨k₀, -, rfl⟩ := Option.map_eq_some_iff.1 hk
    simp [Phase.ended] at hu

/-- A call that has not ended was given no answer. -/
theorem Disciplined.answersTo_eq_nil (h : g.Disciplined) (hk : g.call? c = some k)
    (hu : k.phase.ended = false) : g.answersTo c = [] := by
  refine List.filter_eq_nil_iff.2 fun e he hf => ?_
  have hmem : e.fact ∈ g.facts := List.mem_map_of_mem he
  cases hfact : e.fact with
  | answered d a =>
    obtain rfl : d = c := by simpa [hfact, Fact.answers] using hf
    have hp := h.finished_of_answered hk (hfact ▸ hmem)
    simp [hp, Phase.ended] at hu
  | _ => simp [hfact, Fact.answers] at hf

/-- A request that a step hands over is in flight after it. -/
theorem stands_of_handOver (hd : g.Disciplined) (hk : g.call? c = some k)
    (hs : k.task.submission? = some sub) (hstep : g.step? (.run c env) = some g₁) {n : Nat}
    {m : Member} {r : Request}
    (handed : g₁.dealings c = g.dealings c ++ [.submitted c n m r]) : g₁.settings = g.settings ∧
      g₁.now = g.now ∧ ∃ s : Snapshot, s.connection = n ∧
        g₁.Stands c k.task (.inFlight (g.flight env ⟨s, m, r⟩)) [] := by
  obtain rfl := id_of_call? hk
  simp only [step?, act?, runCall?, hk, Option.map_eq_some_iff, Option.ite_none_right_eq_some,
    Option.some.injEq] at hstep
  obtain ⟨_, ⟨hr, rfl⟩, rfl⟩ := hstep
  have hu := ended_of_canRun hr
  have hturn := turn_proceed env hk hr
  refine ⟨(settings_release _).trans hturn.settings, (now_release _).trans hturn.now, ?_⟩
  obtain ⟨p, fs, hleg, hcomes⟩ := takes_proceed env hk hs (hd.free_of_submission hk hs) hu
  rw [dealings_release, hcomes.dealings] at handed
  have hnews := List.append_cancel_left handed
  generalize hphase : k.phase = before at hleg
  cases hleg with
  | @handOver a =>
    simp only [Fact.ofRequest, decide_true, List.filter_cons_of_pos, List.filter_nil,
      List.cons.injEq, Fact.submitted.injEq, true_and, and_true] at hnews
    obtain ⟨rfl, rfl, rfl⟩ := hnews
    obtain ⟨k₁, hk₁, htask⟩ := hturn.exists_call? hk
    have hp := hcomes.phase k₁ hk₁
    have hquiet := (hturn.toTurn hk₁ (by rw [hp]; rfl)).answersTo k.id
    have hnone := hd.answersTo_eq_nil hk hu
    have hstands : (g.proceed env k).Stands k.id k.task (.inFlight (g.flight env a)) [] :=
      ⟨⟨k₁, hk₁, htask, hp⟩, hquiet.trans hnone⟩
    exact ⟨a.snapshot, rfl, hstands.release rfl⟩
  | _ => simp [Fact.ofRequest] at hnews

/-- Without cancelling, the answer and the end of a request are settled at the moment at which it is
handed over, by its reply and the timeout: no continuation of the run makes it end otherwise, unless
its caller gives it up. -/
theorem lands_of_handOver (hg : g.Reachable) (hcancel : g.settings.cancelInFlightOnSwap = false)
    (hk : g.call? c = some k) (hs : k.task.submission?.isSome = true)
    (hstep : g.step? (.run c env) = some g₁) {n : Nat} {m : Member} {r : Request}
    (handed : g₁.dealings c = g.dealings c ++ [.submitted c n m r]) {actions : List Action}
    (hr : g₁.run? actions = some g') :
    let timeout := g.settings.submitTimeout
    let due := g.now + (env.reply m r).wait timeout
    let answer := (env.reply m r).answer k.task r.id timeout
    g'.Aloft c k.task due answer ∨ g'.Landed c k.task due answer ∨
      (.abandon c ∈ actions ∧ g'.Stands c k.task .abandoned []) := by
  intro timeout due answer
  obtain ⟨sub, hsub⟩ := Option.isSome_iff_exists.1 hs
  have hd := (serialized_of_reachable hg).toDisciplined
  obtain ⟨hset, hnow, s, -, hstands⟩ := stands_of_handOver hd hk hsub hstep handed
  have hdue : (g.flight env ⟨s, m, r⟩).due = due := due_flight g env ⟨s, m, r⟩
  have hanswer : (g.flight env ⟨s, m, r⟩).answer k.task g₁.settings.submitTimeout = answer :=
    hset ▸ answer_flight g env ⟨s, m, r⟩ k.task
  have hearly : g₁.now ≤ (g.flight env ⟨s, m, r⟩).due := by
    rw [hdue, hnow]
    exact Nat.le_add_right _ _
  obtain ⟨hset', hfate⟩ := hstands.fate (hset ▸ hcancel) hearly hr
  rw [hanswer] at hfate
  cases hfate with
  | aloft hflight hearly' =>
    have haloft := hflight.aloft (hset' ▸ hset ▸ hcancel) hearly'
    rw [hset', hanswer, hdue] at haloft
    exact .inl haloft
  | landed hlanded => exact .inr (.inl (hdue ▸ hlanded))
  | givenUp hasked hgone => exact .inr (.inr ⟨hasked, hgone⟩)

/-- A request whose reply comes just when the timeout has passed. -/
def lateReply : Surroundings :=
  { Surroundings.replying ⟨some 2000, .connection .disconnected⟩ with closedFirst := true }

/-- A call whose request is let in by the connection of the leader. -/
def letInByLeader : List Action :=
  elect 0 .gateway ⟨.numbered "a" 1, ⟨1⟩⟩ lateReply ++
    ask 1 .gateway lateReply 2

/-- Its connection is closed for a new leader, and the gateway is shut down. -/
def replaced : List Action :=
  elect 2 .gateway ⟨.numbered "b" 2, ⟨2⟩⟩ lateReply ++ undertake 3 .gateway .shutdown lateReply 2 ++
    [.advance 2000, .run 1 lateReply]

theorem lands_of_replaced :
    ∃ g g₁ g' k m r, (create (.ofOptions {}) [.gateway]).run? letInByLeader = some g ∧
      g.call? 1 = some k ∧ g.step? (.run 1 lateReply) = some g₁ ∧
      g₁.dealings 1 = g.dealings 1 ++ [.submitted 1 0 m r] ∧ g₁.run? replaced = some g' ∧
      let answer := k.task.failed (.submissionFailed ⟨""⟩ (.transport .disconnected))
      g'.answersTo 1 = [⟨2000, .answered 1 answer⟩] ∧
        (g'.Aloft 1 k.task 2000 answer ∨ g'.Landed 1 k.task 2000 answer ∨
          (.abandon 1 ∈ replaced ∧ g'.Stands 1 k.task .abandoned [])) :=
  ⟨_, _, _, _, _, _, rfl, rfl, rfl, rfl, rfl, rfl, @lands_of_handOver _ _ _ 1 _ lateReply
    ⟨.ofOptions {}, [.gateway], letInByLeader, rfl⟩ rfl rfl rfl rfl 0
    (.numbered "a" 1) ⟨⟨""⟩, "", []⟩ rfl replaced rfl⟩

end Gateway

end LeaderRouting
