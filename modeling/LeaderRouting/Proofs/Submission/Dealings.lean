import LeaderRouting.Proofs.Submission.Legs
import LeaderRouting.Proofs.Tracker.Linearizability

/-!
What passes between a call and a store.  A call hands over at most one request, and takes at most one
reply for it; its phase tells how far it has come with this, and its answer what the reply was.
-/

namespace LeaderRouting.Gateway

/-- How the dealings of a call with a store go with its phase. -/
inductive Dealings (c : CallId) (task : Task) : List Fact → Phase → Prop
  | unsent {p : Phase} (ashore : ∀ f, p ≠ .inFlight f) : Dealings c task [] p
  | waiting (n : Nat) (m : Member) (r : Request) (f : InFlight) :
      Dealings c task [.submitted c n m r] (.inFlight f)
  | unanswered (n : Nat) (m : Member) (r : Request) {e : GatewayError}
      (vague : e.mayHaveExecuted = true) :
      Dealings c task [.submitted c n m r] (.finished (task.failed e))
  | answered (n : Nat) (m : Member) (r : Request) (x : Feedback) (request : RequestId) :
      Dealings c task [.submitted c n m r, .replied c x]
        (.finished (task.conclusion request x.result))
  | abandoned (fs : List Fact) : Dealings c task fs .abandoned

variable {g g₁ g' : Gateway} {a : Action} {c d : CallId} {k : Call} {f : Fact} {p : Phase}

theorem dealings_enrol (g : Gateway) (k : Call) (c : CallId) :
    (g.enrol k).dealings c = g.dealings c :=
  (dealings_enter { g with calls := g.calls ++ [k] } c _).trans (List.append_nil _)

theorem dealings_giveUp (g : Gateway) (d c : CallId) : (g.giveUp d).dealings c = g.dealings c :=
  (dealings_enter (setPhase { g with lock := g.lock.withdraw d } d .abandoned) c _).trans
    (List.append_nil _)

/-- Only the call that has its turn deals with a store. -/
theorem UpToAnswer.dealings (h : UpToAnswer c (Turn c g) g') (hd : d ≠ c) :
    g'.dealings d = g.dealings d := by
  obtain ⟨news, hn, ht⟩ := h.facts
  unfold Gateway.dealings
  rw [hn, List.filter_append, List.append_right_eq_self, List.filter_eq_nil_iff]
  intro f hf
  rcases ht f hf with hf | ⟨a, rfl⟩
  · cases f <;> simp_all [Fact.ofRequest, Fact.DuringTurnOf, eq_comm]
  · simp [Fact.ofRequest]

/-- A call that has ended deals with nobody. -/
theorem Course.dealings (h : Course g a g₁) (hk : g.call? c = some k)
    (hu : k.phase.ended = true) : g₁.dealings c = g.dealings c := by
  cases h with
  | start => exact dealings_enrol g _ c
  | abandon => exact dealings_giveUp g _ c
  | @run d k' env hk' hr =>
    refine (turn_proceed env hk' hr).dealings ?_
    rintro rfl
    obtain rfl := Option.some.inj (hk.symm.trans hk')
    simp [ended_of_canRun hr] at hu
  | around => rfl
  | advance => rfl

theorem Dealings.wake {task : Task} {fs : List Fact} (h : Dealings c task fs p) :
    Dealings c task fs p.wake := by
  cases h with
  | unsent ha =>
    refine .unsent fun f => ?_
    cases p <;> simp_all [Phase.wake]
  | waiting n m r f => exact .waiting n m r f
  | unanswered n m r hv => exact .unanswered n m r hv
  | answered n m r x request => exact .answered n m r x request
  | abandoned fs => exact .abandoned fs

/-! ### Every step -/

theorem Dealings.eq_nil {task : Task} {fs : List Fact} (h : Dealings c task fs p)
    (hp : ∀ f, p ≠ .inFlight f) (hu : p.ended = false) : fs = [] := by
  cases h with
  | unsent => rfl
  | waiting n m r f => exact absurd rfl (hp f)
  | _ => simp [Phase.ended] at hu

/-- Each leg takes a call from one phase with its dealings to another with those it then has. -/
theorem Dealings.leg {task : Task} {env : Surroundings} {sub : Submission} {p p' : Phase}
    {fs news : List Fact} (h : Dealings c task fs p) (hl : Leg g env c task sub p p' news) :
    Dealings c task (fs ++ news.filter (Fact.ofRequest c)) p' := by
  -- Until a request is in flight nothing has passed.
  have hnil : (∀ f, p ≠ .inFlight f) → p.ended = false → fs = [] := h.eq_nil
  cases hl with
  | seek hp hp' =>
    rw [hnil (Phase.ne_inFlight_of_seeks hp) (Phase.ended_of_seeks hp)]
    exact .unsent (Phase.ne_inFlight_of_seeks hp')
  | found hp =>
    rw [hnil (Phase.ne_inFlight_of_seeks hp) (Phase.ended_of_seeks hp)]
    exact .unsent (by simp)
  | turnedAway hp =>
    rw [hnil (Phase.ne_inFlight_of_seeks hp) (Phase.ended_of_seeks hp)]
    exact .unsent (by simp)
  | disconnected | overtaken | letIn =>
    rw [hnil (by simp) rfl]
    exact .unsent (by simp)
  | handOver =>
    rw [hnil (by simp) rfl]
    simpa [Fact.ofRequest] using Dealings.waiting _ _ _ _
  | superseded =>
    cases h with
    | unsent ha => exact absurd rfl (ha _)
    | waiting n m r => exact .unanswered n m r rfl
  | replied =>
    cases h with
    | unsent ha => exact absurd rfl (ha _)
    | waiting n m r => simpa [Fact.ofRequest] using Dealings.answered n m r _ _
  | timedOut =>
    cases h with
    | unsent ha => exact absurd rfl (ha _)
    | waiting n m r => exact .unanswered n m r rfl

theorem dealings_proceed (env : Surroundings) (hk : g.call? k.id = some k)
    (hs : k.task.submission?.isSome = true) (hu : k.phase.ended = false)
    (hd : Dealings k.id k.task (g.dealings k.id) k.phase) (hf : k.phase.contends = false)
    {k' : Call} (hk' : (g.proceed env k).call? k.id = some k') :
    Dealings k.id k.task ((g.proceed env k).dealings k.id) k'.phase := by
  obtain ⟨sub, hsub⟩ := Option.isSome_iff_exists.1 hs
  obtain ⟨p, news, hleg, hcomes⟩ := takes_proceed env hk hsub hf hu
  rw [hcomes.phase k' hk', hcomes.dealings]
  exact hd.leg hleg

/-- Whether what calls have dealt with stores is accounted for by their phases. -/
structure Accounted (g : Gateway) : Prop where
  unknown : ∀ c, g.call? c = none → g.dealings c = []
  known : ∀ c k, g.call? c = some k → k.task.submission?.isSome = true →
    Dealings c k.task (g.dealings c) k.phase

theorem accounted_create (settings : Settings) (handles : List Handle) :
    (create settings handles).Accounted :=
  ⟨fun _ _ => rfl, by simp [create, call?]⟩

theorem Accounted.turn (h : g.Accounted) (hk : g.call? c = some k)
    (ht : UpToAnswer c (Turn c g) g')
    (hc : ∀ k', g'.call? c = some k' → k.task.submission?.isSome = true →
      Dealings c k.task (g'.dealings c) k'.phase) : g'.Accounted := by
  constructor
  · intro d hd
    have hr := role_call? ht.roles d
    rw [hd] at hr
    have hn : g.call? d = none := by simpa using hr.symm
    have hne : d ≠ c := by
      rintro rfl
      simp [hk] at hn
    rw [ht.dealings hne, h.unknown d hn]
  · intro d k' hk' hs
    by_cases hd : d = c
    · subst hd
      rw [ht.task hk hk'] at hs ⊢
      exact hc k' hk' hs
    · rw [ht.dealings hd]
      rcases ht.others hd with he | he <;> rw [hk'] at he
      · exact h.known d k' he.symm hs
      · obtain ⟨k₀, hk₀, rfl⟩ := Option.map_eq_some_iff.1 he.symm
        exact (h.known d k₀ hk₀ hs).wake

theorem submission?_of_update? {task : Task} {u : Update} (h : task.update? = some u) :
    task.submission? = none := by
  cases task <;> first | rfl | simp [Task.update?] at h

theorem update?_of_submission? {task : Task} {sub : Submission} (h : task.submission? = some sub) :
    task.update? = none := by
  cases task <;> first | rfl | simp [Task.submission?] at h

theorem Task.concernsTracker_of_submission? {task : Task} (h : task.submission?.isSome = true) :
    task.concernsTracker = false := by
  cases task <;> simp_all [Task.submission?, Task.concernsTracker]

/-- A call that sends a request does not ask for the lock. -/
theorem Disciplined.free_of_submission (h : g.Disciplined) (hk : g.call? c = some k)
    {sub : Submission} (hs : k.task.submission? = some sub) : k.phase.contends = false := by
  have hu : ∀ u, k.task.update? ≠ some u := by simp [update?_of_submission? hs]
  cases hp : k.phase with
  | queued u => exact absurd (h.queued c k.task u (standing?_of_phase hk hp)) (hu u)
  | opening l openedAt => exact absurd (h.opening c k.task l (standing?_of_phase hk hp)).1 (hu _)
  | _ => rfl

theorem Accounted.turn_of_update (h : g.Accounted) (hk : g.call? c = some k) {u : Update}
    (hu : k.task.update? = some u) (ht : UpToAnswer c (Turn c g) g') : g'.Accounted :=
  h.turn hk ht fun _ _ hs => by simp [submission?_of_update? hu] at hs

theorem Accounted.transition (h : g.Accounted) (hd : g.Disciplined) (ht : Transition g g') :
    g'.Accounted := by
  cases ht with
  | start hf =>
    constructor
    · intro d hn
      rw [call?_enrol, Option.or_eq_none_iff] at hn
      rw [dealings_enrol, h.unknown d hn.1]
    · intro d k hk hs
      rw [call?_enrol, Option.or_eq_some_iff] at hk
      rw [dealings_enrol]
      rcases hk with hk | ⟨hn, hk⟩
      · exact h.known d k hk hs
      · rw [h.unknown d hn]
        obtain rfl := Option.some.inj (Option.ite_none_right_eq_some.1 hk).2
        exact .unsent (by simp)
  | around => exact ⟨h.unknown, h.known⟩
  | abandon =>
    constructor
    · intro d hn
      rw [call?_giveUp] at hn
      rw [dealings_giveUp]
      split_ifs at hn
      · exact h.unknown d (by simpa using hn)
      · exact h.unknown d hn
    · intro d k' hk' hs
      rw [call?_giveUp] at hk'
      rw [dealings_giveUp]
      split_ifs at hk'
      · obtain ⟨k₀, -, rfl⟩ := Option.map_eq_some_iff.1 hk'
        exact .abandoned _
      · exact h.known d k' hk' hs
  | @aside c k env hk hf hu hb =>
    obtain rfl := id_of_call? hk
    have ht : UpToAnswer k.id (Turn k.id g) (g.proceed env k) :=
      (aside_proceed env hf hb).mono fun _ h => h.toTurn
    exact h.turn hk ht fun k' hk' hs =>
      dealings_proceed env hk hs hu (h.known k.id k hk hs) hf hk'
  | request hk hp hu => exact h.turn_of_update hk hu (.inl (turn_request hk _ _))
  | @consider c k l env hk hp _ =>
    obtain rfl := id_of_call? hk
    have hu := hd.queued k.id k.task (.elect l) (standing?_of_phase hk hp)
    exact h.turn_of_update hk hu (turn_consider (turn_enter (f := .locked k.id) rfl) env l)
  | @shutDown c k hk hp _ =>
    obtain rfl := id_of_call? hk
    have hu := hd.queued k.id k.task .shutdown (standing?_of_phase hk hp)
    exact h.turn_of_update hk hu (turn_shutDown (turn_enter (f := .locked k.id) rfl))
  | @completeOpen c k l openedAt env hk hp =>
    obtain rfl := id_of_call? hk
    have hu := (hd.opening k.id k.task l (standing?_of_phase hk hp)).1
    exact h.turn_of_update hk hu (turn_completeOpen env l)

theorem dealings_release (g : Gateway) (c : CallId) : g.release.dealings c = g.dealings c := by
  obtain ⟨g₁, ht, -, -, hj⟩ := exists_turn_release g (c + 1)
  have hfacts : g₁.facts = g.facts := congrArg (List.map Entry.fact) hj
  have hd : g₁.dealings c = g.dealings c := congrArg (List.filter (Fact.ofRequest c)) hfacts
  have hne : c ≠ c + 1 := Nat.ne_of_lt (Nat.lt_succ_self c)
  exact (UpToAnswer.dealings (.inl ht) hne).trans hd

theorem Accounted.release (h : g.Accounted) : g.release.Accounted := by
  constructor
  · intro c hc
    rw [dealings_release]
    refine h.unknown c ?_
    rcases call?_release g c with he | he <;> rw [hc] at he
    · exact he.symm
    · exact Option.map_eq_none_iff.1 he.symm
  · intro c k hk hs
    rw [dealings_release]
    rcases call?_release g c with he | he <;> rw [hk] at he
    · exact h.known c k he.symm hs
    · obtain ⟨k₀, hk₀, rfl⟩ := Option.map_eq_some_iff.1 he.symm
      exact (h.known c k₀ hk₀ hs).wake

theorem accounted_of_reachable (hg : g.Reachable) : g.Accounted := by
  refine Reachable.induction_of_disciplined accounted_create ?_ hg
  exact fun g g₁ hd h ht => (h.transition hd ht).release

end LeaderRouting.Gateway
