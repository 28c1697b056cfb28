import LeaderRouting.Proofs.Submission.Routing
import LeaderRouting.Proofs.Tracker.Coherence
import LeaderRouting.Proofs.Waiting.Outcome

/-!
The shutdown is terminal.  Once the writer is closed nothing is opened, closed or published any more,
and whoever waits for a leader, or asks for a change of it, is turned away as soon as it can go on.
-/

namespace LeaderRouting.Gateway

/-- Whether a connection is opened, refused or closed, or a value published. -/
def Fact.isPublic (f : Fact) : Bool :=
  f.ofConnection || f.published?.isSome

/-- Whether the tracked leader and the connections are as before, and nothing happened to them. -/
structure Rests (g g' : Gateway) : Prop where
  writer : g'.writer = g.writer
  connections : g'.connections = g.connections
  value : g'.channel.value = g.channel.value
  silent : Notes (·.isPublic = false) g g'

/-- How a call stands, after the shutdown, that asks for a change of the tracked leader. -/
inductive Rejected (leave : Prop) (task : Task) (u : Update) : Phase → Prop
  | created : Rejected leave task u .created
  | queued : Rejected leave task u (.queued u)
  | told : Rejected leave task u (.finished (task.outcome (.ok .closed)))
  | givenUp (asked : leave) : Rejected leave task u .abandoned

/-- What has become, since the shutdown, of a call that waited for a leader at that moment or began
later, at the time `since`. -/
inductive Ousted (leave : Prop) (g : Gateway) (c : CallId) (task : Task) (since : Nat) : Prop
  | waits {k : Call} (found : g.call? c = some k) (same : k.task = task)
      (seeks : k.phase.seeks = true) (now : g.now = since)
  | told (told : g.Stands c task (.finished (task.failed .closed))
      [⟨since, .answered c (task.failed .closed)⟩])
  | givenUp (asked : leave) {es : List Entry} (gone : g.Stands c task .abandoned es)

/-- How many steps a call has still to take that waits for a leader, if there is nothing more to wait
for. -/
def Phase.looks : Phase → Nat
  | created | reading _ => 1
  | checking _ => 2
  | suspended _ _ => 3
  | _ => 0

variable {g g₁ g₂ g' : Gateway} {a : Action} {c d : CallId} {k : Call} {task : Task} {u : Update}
  {p : Phase} {leave : Prop} {since : Nat} {env : Surroundings}

/-! ### Nothing happens to the tracked leader -/

theorem Rests.refl (g : Gateway) : Rests g g :=
  ⟨rfl, rfl, rfl, .refl g⟩

theorem Rests.trans (h₁ : Rests g g₁) (h₂ : Rests g₁ g₂) : Rests g g₂ where
  writer := h₂.writer.trans h₁.writer
  connections := h₂.connections.trans h₁.connections
  value := h₂.value.trans h₁.value
  silent := h₁.silent.trans h₂.silent

theorem rests_enter {f : Fact} (hf : f.isPublic = false) : Rests g (g.enter f) :=
  ⟨rfl, rfl, rfl, notes_enter hf⟩

theorem rests_log (line : LogLine) : Rests g (g.log line) :=
  rests_enter rfl

theorem rests_finish (c : CallId) (answer : Answer) : Rests g (g.finish c answer) where
  writer := writer_finish g c answer
  connections := by
    unfold finish logIfAny
    cases answer.line? <;> rfl
  value := by rw [channel_finish]
  silent := notes_finish (fun _ => rfl) c answer rfl

theorem rests_concludeUpdate (k : Call) (r : Except TransportError Verdict) :
    Rests g (g.concludeUpdate k r) := by
  rw [concludeUpdate_eq]
  have hlock : Rests g { g with lock := g.lock.release } := ⟨rfl, rfl, rfl, .refl g⟩
  exact hlock.trans (rests_finish k.id _)

theorem UpToAnswer.rests (h : UpToAnswer c (Aside c g) g') : Rests g g' := by
  have haside : ∀ g₁, Aside c g g₁ → Rests g g₁ := by
    intro g₁ h₁
    obtain ⟨news, hn, ht⟩ := h₁.facts
    refine ⟨h₁.writer, h₁.connections, by rw [h₁.channel], news, hn, fun f hf => ?_⟩
    obtain ⟨-, ht⟩ := ht f hf
    cases f <;> first | rfl | simp [Fact.ofTracker] at ht
  rcases h with h | ⟨g₁, answer, h, rfl⟩
  · exact haside g' h
  · exact (haside g₁ h).trans (rests_finish c answer)

/-- A call that waits for its connection holds the lock, so the writer cannot be closed meanwhile. -/
theorem Disciplined.not_opening (h : g.Disciplined) (hc : g.writer.closed = true)
    (hk : g.call? c = some k) {l : Leader} {openedAt : Option Nat}
    (hp : k.phase = .opening l openedAt) : False := by
  have hdecide := (h.opening c k.task l (standing?_of_phase hk hp)).2.2.1
  simp [Writer.decide, hc] at hdecide

theorem consider_of_closed (hc : g.writer.closed = true) (env : Surroundings) (k : Call)
    (l : Leader) : g.consider env k l = (g.log (.noticeDropped l)).concludeUpdate k (.ok .closed) := by
  simp [consider, Writer.decide, hc]

theorem shutDown_of_closed (hc : g.writer.closed = true) (k : Call) :
    g.shutDown k = g.concludeUpdate k (.ok .closed) :=
  if_pos hc

/-- After the shutdown no step opens, closes or publishes anything. -/
theorem Disciplined.rests (h : g.Disciplined) (hc : g.writer.closed = true)
    (ht : Transition g g₁) : Rests g g₁ := by
  cases ht with
  | start => exact ⟨rfl, rfl, rfl, [_], facts_enrol g _, by simp [Fact.isPublic, Fact.ofConnection,
      Fact.published?]⟩
  | around => exact ⟨rfl, rfl, rfl, notes_of_facts rfl⟩
  | abandon => exact ⟨rfl, rfl, rfl, [_], facts_giveUp g _, by simp [Fact.isPublic,
      Fact.ofConnection, Fact.published?]⟩
  | @aside c k env hk hf _ hb =>
    obtain rfl := id_of_call? hk
    exact (aside_proceed env hf hb).rests
  | @request c k u line hk _ _ =>
    have hline : Rests g (g.logIfAny line) := by
      cases line with
      | none => exact .refl g
      | some line => exact rests_log line
    exact hline.trans ⟨rfl, rfl, rfl, notes_of_facts rfl⟩
  | @consider c k l env _ _ _ =>
    have hlocked : Rests g (g.enter (.locked c)) := rests_enter rfl
    have hclosed : (g.enter (.locked c)).writer.closed = true := hc
    rw [consider_of_closed hclosed]
    exact (hlocked.trans (rests_log _)).trans (rests_concludeUpdate k _)
  | @shutDown c k _ _ _ =>
    have hlocked : Rests g (g.enter (.locked c)) := rests_enter rfl
    have hclosed : (g.enter (.locked c)).writer.closed = true := hc
    rw [shutDown_of_closed hclosed]
    exact hlocked.trans (rests_concludeUpdate k _)
  | completeOpen _ hk hp => exact (h.not_opening hc hk hp).elim

/-- After the shutdown nothing is left to let go of but the tracker. -/
theorem Serialized.rests_release (h : g.Serialized) (hc : g.writer.closed = true) :
    Rests g g.release := by
  have ht := tracked_releaseTracker g
  have hrelease : g.release = g.releaseTracker := by
    refine releaseConnections_eq_self fun n x hx ho => ?_
    have hx : g.connections[n]? = some x := by
      have hconnections : g.releaseTracker.connections = g.connections :=
        congrArg Serial.connections ht
      rwa [hconnections] at hx
    have hreleased := h.isReleased hx (by simp [h.vacant hc])
    simp [hreleased.1] at ho
  rw [hrelease]
  refine ⟨congrArg Serial.writer ht, congrArg Serial.connections ht, congrArg Serial.value ht,
    notes_of_facts ?_⟩
  unfold releaseTracker
  split_ifs <;> rfl

theorem Course.rests (hg : g.Reachable) (hc : g.writer.closed = true) (h : Course g a g₁) :
    Rests g g₁.release := by
  have hser := serialized_of_reachable hg
  have hstep := hser.toDisciplined.rests hc h.transition
  have hclosed : g₁.writer.closed = true := hstep.writer ▸ hc
  exact hstep.trans ((hser.transition h.transition).rests_release hclosed)

/-- What holds at the shutdown and is kept by every step after it holds ever after. -/
theorem Reachable.closed_induction {P : Gateway → Prop} {actions : List Action} (hg : g.Reachable)
    (hc : g.writer.closed = true) (start : P g)
    (step : ∀ a ∈ actions, ∀ g g₁, g.Reachable → g.writer.closed = true → P g → Course g a g₁ →
      P g₁.release) (hr : g.run? actions = some g') : P g' := by
  refine (hg.run_induction (P := fun g => g.writer.closed = true ∧ P g) ⟨hc, start⟩ ?_ hr).2
  rintro a ha g₁ g₂ hg₁ _ ⟨hc₁, hp⟩ hcourse
  exact ⟨(hcourse.rests hg₁ hc₁).writer ▸ hc₁, step a ha g₁ g₂ hg₁ hc₁ hp hcourse⟩

theorem rests_of_run {actions : List Action} (hg : g.Reachable)
    (hc : g.writer.closed = true) (hr : g.run? actions = some g') : Rests g g' :=
  hg.closed_induction hc (.refl g)
    (fun _ _ _ _ hg₁ hc₁ hrests hcourse => hrests.trans (hcourse.rests hg₁ hc₁)) hr

/-! ### Asking for a change of the tracked leader -/

theorem Rejected.wake (h : Rejected leave task u p) : Rejected leave task u p.wake := by
  cases h with
  | created => exact .created
  | queued => exact .queued
  | told => exact .told
  | givenUp ha => exact .givenUp ha

/-- Whoever gets the lock is turned away. -/
theorem call?_proceed_of_queued (hc : g.writer.closed = true) (hk : g.call? k.id = some k)
    (hp : k.phase = .queued u) (env : Surroundings) :
    (g.proceed env k).call? k.id =
      some { k with phase := .finished (k.task.outcome (.ok .closed)) } := by
  have hdepart : ∀ g₁ : Gateway, g₁.call? k.id = some k →
      (g₁.concludeUpdate k (.ok .closed)).call? k.id =
        some { k with phase := .finished (k.task.outcome (.ok .closed)) } := by
    intro g₁ hk₁
    rw [concludeUpdate_eq, depart, call?_finish, if_pos rfl]
    exact (congrArg _ hk₁).trans rfl
  have hclosed : (g.enter (.locked k.id)).writer.closed = true := hc
  unfold proceed
  rw [hp]
  cases u with
  | elect l =>
    dsimp only
    rw [consider_of_closed hclosed]
    exact hdepart ((g.enter (.locked k.id)).log (.noticeDropped l)) hk
  | shutdown =>
    dsimp only
    rw [shutDown_of_closed hclosed]
    exact hdepart (g.enter (.locked k.id)) hk

/-- A call that asks for a change, and has not ended, has yet to get the lock. -/
theorem Serialized.rejected (h : g.Serialized) (hatt : g.Attended) (hc : g.writer.closed = true)
    (hk : g.call? c = some k) (hu : k.task.update? = some u) (hunended : k.phase.ended = false) :
    Rejected leave k.task u k.phase := by
  cases hp : k.phase with
  | created => exact .created
  | queued u' =>
    have hq := h.queued c k.task u' (standing?_of_phase hk hp)
    obtain rfl := Option.some.inj (hu.symm.trans hq)
    exact .queued
  | opening l openedAt => exact (h.not_opening hc hk hp).elim
  | finished answer => simp [hp, Phase.ended] at hunended
  | abandoned => simp [hp, Phase.ended] at hunended
  | _ =>
    obtain rfl := id_of_call? hk
    rcases hatt k.id k hk with hn | hn | hn | hn | hn
    · simp [hu] at hn
    · simp [hp] at hn
    · simp [hp, Phase.contends] at hn
    · simp [hp] at hn
    · exact absurd hn (h.not_served (standing?_of_phase hk hp) rfl)

/-- The end of the call is the end of its way: no step takes it elsewhere. -/
theorem Rejected.course (h : Rejected leave task u k.phase) (hc : g.writer.closed = true)
    (hk : g.call? c = some k) (htask : k.task = task) (hu : task.update? = some u)
    (hleave : a = .abandon c → leave) (hcourse : Course g a g₁) :
    ∃ k₁, g₁.call? c = some k₁ ∧ k₁.task = task ∧ Rejected leave task u k₁.phase := by
  cases hcourse with
  | around => exact ⟨k, hk, htask, h⟩
  | advance => exact ⟨k, hk, htask, h⟩
  | start => exact ⟨k, by rw [call?_enrol, hk, Option.some_or], htask, h⟩
  | @abandon d k' hk' hw =>
    by_cases hd : c = d
    · subst hd
      exact ⟨{ k with phase := .abandoned }, by rw [call?_giveUp, if_pos rfl, hk]; rfl, htask,
        .givenUp (hleave rfl)⟩
    · exact ⟨k, by rw [call?_giveUp, if_neg hd, hk], htask, h⟩
  | @run d k' env hk' hr =>
    have hturn := turn_proceed env hk' hr
    by_cases hd : c = d
    · subst hd
      obtain rfl := Option.some.inj (hk.symm.trans hk')
      obtain rfl := id_of_call? hk
      subst htask
      generalize hp : k.phase = p at h
      cases h with
      | created =>
        obtain ⟨line, he⟩ := exists_begin_eq (g := g) hu
        have hproceed : g.proceed env k = (g.logIfAny line).requestLock k u := by
          unfold proceed
          rw [hp]
          exact he
        refine ⟨{ k with phase := .queued u }, ?_, rfl, .queued⟩
        have hline : (g.logIfAny line).call? k.id = some k := by cases line <;> exact hk
        rw [hproceed]
        unfold requestLock
        rw [call?_setPhase_self]
        exact (congrArg _ hline).trans rfl
      | queued => exact ⟨_, call?_proceed_of_queued hc hk hp env, rfl, .told⟩
      | told => simp [canRun, hp] at hr
      | givenUp => simp [canRun, hp] at hr
    · rcases hturn.others hd with he | he
      · exact ⟨k, he.trans hk, htask, h⟩
      · exact ⟨k.wake, by rw [he, hk]; rfl, htask, h.wake⟩

/-! ### Waiting for a leader -/

/-- Once the gateway has shut down, a call that waits gets nearer to its end with each step. -/
theorem Watch.closing {seen n : Nat} (hw : Watch g k p seen n) (h : g.VigilantAt k.id)
    (hk : g.call? k.id = some k) (ht : k.task.concernsTracker = false) (hp : k.phase.seeks = true)
    (hv : g.channel.value = .closed) : p = .finished (k.task.failed .closed) ∨
      (p.seeks = true ∧ p.looks < k.phase.looks) := by
  have hstirred : g.isStirred = true := by simp [isStirred, hv]
  cases hw with
  | begun _ hn => simp [hv] at hn
  | looked _ hn => simp [hv] at hn
  | caughtUp hb => exact .inr ⟨rfl, by rw [hb]; exact Nat.lt_succ_self 1⟩
  | slept hb hl =>
    have hzero : g.channel.version = 0 := hl.trans (h.unseen hk ht hb)
    simp [h.counted.1 hzero] at hv
  | woke hb => exact .inr ⟨rfl, by rw [hb]; exact Nat.lt_succ_self 2⟩
  | dozed hb => exact absurd ((h.woken hk ht hb).trans hstirred) Bool.false_ne_true
  | led _ hs => simp [hv] at hs
  | supplied _ hs => simp [hv] at hs
  | turnedAway => exact .inl rfl
  | expired hb => exact absurd ((h.woken hk ht hb).trans hstirred) Bool.false_ne_true
  | past hb => simp [hp] at hb

theorem Phase.looks_wake (p : Phase) : p.wake.looks = p.looks := by
  cases p <;> rfl

/-- What a call comes to that waits for a leader, if nothing stops it: it is told within a few steps of
its own that the gateway has shut down. -/
theorem soon_of_closed {m : Nat} (hm : k.phase.looks ≤ m) (hg : g.Reachable)
    (hc : g.writer.closed = true) (hk : g.call? c = some k) (ht : k.task.concernsTracker = false)
    (hp : k.phase.seeks = true) (env : Surroundings) :
    ∃ n ≤ m, ∃ g', g.run? (List.replicate n (.run c env)) = some g' ∧
      g'.Stands c k.task (.finished (k.task.failed .closed))
        [⟨g.now, .answered c (k.task.failed .closed)⟩] := by
  induction m generalizing g k with
  | zero =>
    cases hphase : k.phase <;> simp [hphase, Phase.looks, Phase.seeks] at hm hp
  | succ m ih =>
    obtain rfl := id_of_call? hk
    have hser := serialized_of_reachable hg
    have hat := vigilantAt_of_reachable hg k.id
    have hv := hser.closed_iff.2 hc
    have hr : g.canRun k = true := hat.able hk ht hp (by simp [isStirred, hv])
    obtain ⟨p, seen, j, hw, hcall, -, -⟩ :=
      watches_proceed env hk hr (hser.toDisciplined.free hk ht) ht
    have hstep : g.step? (.run k.id env) = some (g.proceed env k).release := by
      simp [step?, act?, runCall?, hk, hr]
    obtain ⟨k₁, hk₁, htask, hphase⟩ := exists_call?_release hcall
    rcases hw.closing hat hk ht hp hv with rfl | ⟨hseeks, hlt⟩
    · refine ⟨1, by omega, _, by simp [run?, hstep], ⟨k₁, hk₁, htask, ?_⟩, ?_⟩
      · exact hphase.elim id id
      · rw [answersTo_release, (turn_proceed env hk hr).answered hk (ended_of_canRun hr) hcall rfl,
          hser.toDisciplined.answersTo_eq_nil hk (ended_of_canRun hr), List.nil_append]
    · have hrun : g.run? [.run k.id env] = some (g.proceed env k).release := by simp [run?, hstep]
      have hseeks₁ : k₁.phase.seeks = true := by
        rcases hphase with he | he <;> rw [he]
        · exact hseeks
        · rwa [Phase.seeks_wake]
      have hlooks : k₁.phase.looks = p.looks := by
        rcases hphase with he | he <;> rw [he]
        exact Phase.looks_wake p
      have hnow : (g.proceed env k).release.now = g.now :=
        (now_release _).trans (turn_proceed env hk hr).now
      obtain ⟨n, hn, g', hg', hstands⟩ := ih (by omega) (hg.run hrun)
        ((rests_of_run hg hc hrun).writer ▸ hc) hk₁ (htask ▸ ht) hseeks₁
      refine ⟨n + 1, by omega, g', ?_, by rwa [htask, hnow] at hstands⟩
      rw [List.replicate_succ, run?, hstep]
      exact hg'

/-- A call that waits after the shutdown goes on waiting, until it is told of it. -/
theorem Ousted.course (h : Ousted leave g c task since) (hg : g.Reachable)
    (hc : g.writer.closed = true) (ht : task.concernsTracker = false)
    (hleave : a = .abandon c → leave) (hcourse : Course g a g₁) :
    Ousted leave g₁.release c task since := by
  cases h with
  | told told => exact .told ((told.course_of_ended rfl hcourse).release rfl)
  | givenUp asked gone => exact .givenUp asked ((gone.course_of_ended rfl hcourse).release rfl)
  | @waits k hk htask hp hnow =>
    subst htask
    obtain rfl := id_of_call? hk
    have hser := serialized_of_reachable hg
    have hat := vigilantAt_of_reachable hg k.id
    have hv := hser.closed_iff.2 hc
    have hr : g.canRun k = true := hat.able hk ht hp (by simp [isStirred, hv])
    obtain ⟨k₁, hk₁, htask, hheeds, hans, -⟩ := hat.heeds hser hk ht hp hcourse
    generalize hp₁ : k₁.phase = p₁ at hheeds hans
    cases hheeds with
    | waits hafter =>
      obtain ⟨k₂, hk₂, htask₂, hphase⟩ := exists_call?_release hk₁
      refine .waits hk₂ (htask₂.trans htask) ?_
        ((now_release g₁).trans ((hcourse.now_eq hk hr).trans hnow))
      rcases hphase with he | he <;> rw [he, hp₁]
      · exact hafter
      · rwa [Phase.seeks_wake]
    | givenUp hasked =>
      exact .givenUp (hleave hasked) (Stands.release ⟨⟨k₁, hk₁, htask, hp₁⟩, rfl⟩ rfl)
    | led _ hs => simp [hv] at hs
    | supplied _ hs => simp [hv] at hs
    | turnedAway =>
      exact .told (Stands.release ⟨⟨k₁, hk₁, htask, hp₁⟩, hnow ▸ hans _ rfl⟩ rfl)
    | expired _ _ _ hsilent =>
      have hpublished := published_mem_iff.1 (hser.closed_published hv)
      simp [hsilent] at hpublished

/-- A call that waits after the shutdown hands nothing over. -/
theorem Ousted.unsent (h : Ousted leave g c task since) (hg : g.Reachable)
    (ht : task.concernsTracker = false) (hd : g.dealings c = []) (hcourse : Course g a g₁) :
    g₁.release.dealings c = [] := by
  rw [dealings_release]
  have hended : ∀ {p : Phase} {es : List Entry}, g.Stands c task p es → p.ended = true →
      g₁.dealings c = [] := by
    rintro p es ⟨⟨k, hk, -, rfl⟩, -⟩ hu
    exact (hcourse.dealings hk hu).trans hd
  cases h with
  | told told => exact hended told rfl
  | givenUp _ gone => exact hended gone rfl
  | waits hk htask hp =>
    obtain ⟨-, -, -, -, -, hnone⟩ := (vigilantAt_of_reachable hg c).heeds
      (serialized_of_reachable hg) hk (htask ▸ ht) hp hcourse
    exact hnone

theorem journal_release (g : Gateway) : g.journal ⊆ g.release.journal := by
  obtain ⟨g₁, ht, -, -, hj⟩ := exists_turn_release g 0
  exact hj ▸ UpToAnswer.journal (.inl ht)

theorem Course.journal (h : Course g a g₁) : g.journal ⊆ g₁.journal := by
  cases h with
  | start => exact List.subset_append_left _ _
  | abandon => exact List.subset_append_left _ _
  | run hk hr => exact (turn_proceed _ hk hr).journal
  | around => exact List.Subset.refl _
  | advance => exact List.Subset.refl _

/-! ### Calls come and stay -/

/-- A call that is new has begun just now. -/
theorem Course.begun (h : Course g a g₁) (hn : g.call? c = none) (hk : g₁.call? c = some k) :
    k.phase = .created ∧ ⟨g.now, .started c⟩ ∈ g₁.journal ∧ g₁.now = g.now ∧
      g₁.dealings c = g.dealings c := by
  cases h with
  | start =>
    rw [call?_enrol, hn, Option.none_or] at hk
    split_ifs at hk with hc
    obtain rfl := Option.some.inj hk
    exact ⟨rfl, List.mem_append_right _ (List.mem_singleton.2 (by rw [← hc])), rfl,
      dealings_enrol g _ c⟩
  | abandon =>
    rw [call?_giveUp, hn] at hk
    simp at hk
  | run hk' hr =>
    obtain ⟨k', hk', -⟩ := exists_call?_of_roles (turn_proceed _ hk' hr).roles hk
    simp [hn] at hk'
  | around => exact absurd (hn.symm.trans hk) (by simp)
  | advance => exact absurd (hn.symm.trans hk) (by simp)

/-! ### After the shutdown -/

/-- What holds after some actions that follow the shutdown. -/
structure ShutDown (g : Gateway) (actions : List Action) (g' : Gateway) : Prop where
  leader : g'.leader? = none
  rests : Rests g g'
  /-- Every connection, be it the last one or not, is closed, and was closed once. -/
  released : ∀ n x, g'.connections[n]? = some x → x.IsReleased ∧
    (turnovers g'.facts).count (.closed n) = 1
  /-- Calls that waited for a leader at the shutdown. -/
  waiting : ∀ c k, g.call? c = some k → k.task.concernsTracker = false → k.phase.seeks = true →
    Ousted (.abandon c ∈ actions) g' c k.task g.now ∧ g'.dealings c = []
  /-- Calls that have begun since. -/
  later : ∀ c k, g.call? c = none → g'.call? c = some k → k.task.concernsTracker = false →
    ∃ begun, ⟨begun, .started c⟩ ∈ g'.journal ∧
      Ousted (.abandon c ∈ actions) g' c k.task begun ∧ g'.dealings c = []
  /-- Whoever still waits can go on, and three steps of its own end its wait. -/
  soon : ∀ c k, g'.call? c = some k → k.task.concernsTracker = false → k.phase.seeks = true →
    g'.canRun k = true ∧ ∀ env, ∃ n ≤ 3, ∃ g'', g'.run? (List.replicate n (.run c env)) = some g'' ∧
      g''.Stands c k.task (.finished (k.task.failed .closed))
        [⟨g'.now, .answered c (k.task.failed .closed)⟩]
  /-- Calls that ask for a change of the tracked leader, further shutdowns among them, and had not ended
  at the shutdown. -/
  rejected : ∀ c k u, g'.call? c = some k → k.task.update? = some u →
    (∀ k₀, g.call? c = some k₀ → k₀.phase.ended = false) →
      Rejected (.abandon c ∈ actions) k.task u k.phase
  /-- Whoever gets the lock is told so at once. -/
  served : ∀ c k u, g'.call? c = some k → k.phase = .queued u → g'.lock.holder = some c → ∀ env,
    ∃ g'' k', g'.step? (.run c env) = some g'' ∧ g''.call? c = some k' ∧
      k'.phase = .finished (k.task.outcome (.ok .closed))
  /-- Time passes only when every call has ended but those whose requests were handed over. -/
  complete : (∀ k ∈ g'.calls, g'.canRun k = false) → ∀ k ∈ g'.calls,
    (k.task.concernsTracker = false ∨ k.task.update?.isSome = true) →
      k.phase.ended = true ∨ ∃ f, k.phase = .inFlight f

/-- Whether the shutdown is the end. -/
structure Terminal (g : Gateway) : Prop where
  /-- It has taken effect at the latest when it has returned. -/
  effect : ∀ c k answer, g.call? c = some k → k.task = .shutdown → k.phase = .finished answer →
    g.writer.closed = true
  after : g.writer.closed = true → ∀ actions g', g.run? actions = some g' → ShutDown g actions g'
  /-- Whoever is told of it has not handed a request over. -/
  unsent : ∀ c k, g.call? c = some k → k.task.submission?.isSome = true →
    k.phase = .finished (k.task.failed .closed) → submissions c g.facts = 0

section Run

variable {actions : List Action} (hg : g.Reachable) (hc : g.writer.closed = true)
  (hr : g.run? actions = some g')

include hg hc hr

theorem ousted_of_waiting (hk : g.call? c = some k) (ht : k.task.concernsTracker = false)
    (hp : k.phase.seeks = true) :
    Ousted (.abandon c ∈ actions) g' c k.task g.now ∧ g'.dealings c = [] := by
  refine hg.closed_induction (P := fun g' => Ousted (.abandon c ∈ actions) g' c k.task g.now ∧
    g'.dealings c = []) hc ⟨.waits hk rfl hp rfl, ?_⟩ ?_ hr
  · exact (((vigilantAt_of_reachable hg c).known k hk ht).1 hp).2
  · rintro a ha g₁ g₂ hg₁ hc₁ ⟨hout, hnone⟩ hcourse
    exact ⟨hout.course hg₁ hc₁ ht (fun he => he ▸ ha) hcourse, hout.unsent hg₁ ht hnone hcourse⟩

theorem ousted_of_later (hn : g.call? c = none) : ∀ k, g'.call? c = some k →
    k.task.concernsTracker = false → ∃ begun, ⟨begun, .started c⟩ ∈ g'.journal ∧
      Ousted (.abandon c ∈ actions) g' c k.task begun ∧ g'.dealings c = [] := by
  refine hg.closed_induction (P := fun g' => ∀ k, g'.call? c = some k →
    k.task.concernsTracker = false → ∃ begun, ⟨begun, .started c⟩ ∈ g'.journal ∧
      Ousted (.abandon c ∈ actions) g' c k.task begun ∧ g'.dealings c = []) hc (by simp [hn]) ?_ hr
  intro a ha g₁ g₂ hg₁ hc₁ ih hcourse k₃ hk₃ ht
  obtain ⟨k₂, hk₂, htask₂, hphase⟩ := exists_call?_of_release hk₃
  cases hk₁ : g₁.call? c with
  | none =>
    obtain ⟨hp, hstart, hnow, hdeal⟩ := hcourse.begun hk₁ hk₂
    have hp₃ : k₃.phase = .created :=
      hphase.elim (fun he => he.trans hp) fun he => by rw [he, hp]; rfl
    refine ⟨g₁.now, journal_release g₂ hstart,
      .waits hk₃ rfl (by rw [hp₃]; rfl) ((now_release g₂).trans hnow), ?_⟩
    rw [dealings_release, hdeal, (accounted_of_reachable hg₁).unknown c hk₁]
  | some k₁ =>
    obtain ⟨k₂', hk₂', htask⟩ := hcourse.exists_call? hk₁
    obtain rfl := Option.some.inj (hk₂.symm.trans hk₂')
    rw [htask₂, htask] at ht ⊢
    obtain ⟨begun, hb, hout, hnone⟩ := ih k₁ hk₁ ht
    exact ⟨begun, journal_release g₂ (hcourse.journal hb),
      hout.course hg₁ hc₁ ht (fun he => he ▸ ha) hcourse, hout.unsent hg₁ ht hnone hcourse⟩

theorem rejected_of_run (hu : ∀ k, g.call? c = some k → k.phase.ended = false) : ∀ k,
    g'.call? c = some k → k.task.update? = some u →
      Rejected (.abandon c ∈ actions) k.task u k.phase := by
  refine hg.closed_induction (P := fun g' => ∀ k, g'.call? c = some k → k.task.update? = some u →
    Rejected (.abandon c ∈ actions) k.task u k.phase) hc ?_ ?_ hr
  · exact fun k hk hupdate => (serialized_of_reachable hg).rejected (attended_of_reachable hg) hc hk
      hupdate (hu k hk)
  · intro a ha g₁ g₂ hg₁ hc₁ ih hcourse k₃ hk₃ hupdate
    obtain ⟨k₂, hk₂, htask₂, hphase⟩ := exists_call?_of_release hk₃
    rw [htask₂] at hupdate ⊢
    have hrejected : Rejected (.abandon c ∈ actions) k₂.task u k₂.phase := by
      cases hk₁ : g₁.call? c with
      | none => exact (hcourse.begun hk₁ hk₂).1 ▸ .created
      | some k₁ =>
        obtain ⟨k₂', hk₂', htask⟩ := hcourse.exists_call? hk₁
        obtain rfl := Option.some.inj (hk₂.symm.trans hk₂')
        rw [htask] at hupdate ⊢
        obtain ⟨k₂', hk₂', -, h⟩ := (ih k₁ hk₁ hupdate).course hc₁ hk₁ rfl hupdate
          (fun he => he ▸ ha) hcourse
        obtain rfl := Option.some.inj (hk₂.symm.trans hk₂')
        exact h
    rcases hphase with he | he <;> rw [he]
    · exact hrejected
    · exact hrejected.wake

end Run

/-- Once nothing can go on without time passing, only requests that were handed over are left. -/
theorem complete_of_closed (hg : g.Reachable) (hc : g.writer.closed = true)
    (hidle : ∀ k ∈ g.calls, g.canRun k = false) (hm : k ∈ g.calls)
    (hkind : k.task.concernsTracker = false ∨ k.task.update?.isSome = true) :
    k.phase.ended = true ∨ ∃ f, k.phase = .inFlight f := by
  have hser := serialized_of_reachable hg
  have hv := hser.closed_iff.2 hc
  have hk := call?_of_mem hser.ids hm
  have hcannot := hidle k hm
  have hseeks : k.phase.seeks = true → k.task.concernsTracker = false → False := fun hp ht => by
    have hable := (vigilantAt_of_reachable hg k.id).able hk ht hp (by simp [isStirred, hv])
    simp [hable] at hcannot
  by_cases hu : k.phase.ended = true
  · exact .inl hu
  have hu : k.phase.ended = false := by simpa using hu
  rcases hkind with ht | hupdate
  · have hfree := hser.toDisciplined.free hk ht
    cases hp : k.phase with
    | inFlight f => exact .inr ⟨f, rfl⟩
    | sending s => simp [canRun, hp] at hcannot
    | admitted a => simp [canRun, hp] at hcannot
    | queued u => simp [hp, Phase.contends] at hfree
    | opening l openedAt => simp [hp, Phase.contends] at hfree
    | finished answer => simp [hp, Phase.ended] at hu
    | abandoned => simp [hp, Phase.ended] at hu
    | _ => exact (hseeks (by rw [hp]; rfl) ht).elim
  · obtain ⟨u, hupdate⟩ := Option.isSome_iff_exists.1 hupdate
    have hrejected : Rejected True k.task u k.phase :=
      hser.rejected (attended_of_reachable hg) hc hk hupdate hu
    generalize hp : k.phase = p at hrejected
    cases hrejected with
    | created => simp [canRun, hp] at hcannot
    | queued =>
      -- Somebody holds the lock, and can go on with it.
      have hline : k.id ∈ g.lock.queue :=
        (hser.mem_line k.id).2 ⟨_, _, standing?_of_phase hk hp, rfl⟩
      cases hh : g.lock.holder with
      | none => simp [Lock.queue, hh, hser.fair hh] at hline
      | some d =>
        obtain ⟨k', hk', hable | ⟨l, openedAt, hp'⟩⟩ := hser.toDisciplined.holder hh
        · simp [hidle k' (mem_of_call? hk')] at hable
        · exact (hser.not_opening hc hk' hp').elim
    | told => exact .inl rfl
    | givenUp => exact .inl rfl

theorem shutDown_of_run {actions : List Action} (hg : g.Reachable) (hc : g.writer.closed = true)
    (hr : g.run? actions = some g') : ShutDown g actions g' := by
  have hg' := hg.run hr
  have hser := serialized_of_reachable hg'
  have hrests := rests_of_run hg hc hr
  have hc' : g'.writer.closed = true := hrests.writer ▸ hc
  have hv := hser.closed_iff.2 hc'
  exact {
    leader := by simp [leader?, hv, Published.snapshot?]
    rests := hrests
    released n x hx := by
      have hreleased := hser.isReleased hx (by simp [hser.vacant hc'])
      exact ⟨hreleased, turnovers_trace g' ▸ (hser.counted n x hx).symm.trans hreleased.2.2⟩
    waiting c k hk ht hp := ousted_of_waiting hg hc hr hk ht hp
    later c k hn hk ht := ousted_of_later hg hc hr hn k hk ht
    soon c k hk ht hp := by
      refine ⟨(vigilantAt_of_reachable hg' c).able hk ht hp (by simp [isStirred, hv]), fun env => ?_⟩
      refine soon_of_closed ?_ hg' hc' hk ht hp env
      cases k.phase <;> simp [Phase.looks]
    rejected c k u hk hu hunended := rejected_of_run hg hc hr hunended k hk hu
    served c k u hk hp hholder env := by
      obtain rfl := id_of_call? hk
      have hr : g'.canRun k = true := by simp [canRun, hp, hholder]
      have hstep : g'.step? (.run k.id env) = some (g'.proceed env k).release := by
        simp [step?, act?, runCall?, hk, hr]
      obtain ⟨k₁, hk₁, -, hphase⟩ :=
        exists_call?_release (call?_proceed_of_queued hc' hk hp env)
      exact ⟨_, k₁, hstep, hk₁, hphase.elim id id⟩
    complete hidle k hm hkind := complete_of_closed hg' hc' hidle hm hkind }

theorem terminal_of_reachable (hg : g.Reachable) : g.Terminal where
  effect c k answer hk ht hp := by
    have hser := serialized_of_reachable hg
    have hanswered := (hser.answered c answer).2 ⟨_, standing?_of_phase hk hp⟩
    obtain ⟨before, rest, hfacts⟩ := List.append_of_mem (List.mem_filter.1 hanswered).1
    have hbefore : before ++ [.answered c answer] <+: g.facts := ⟨rest, by simp [hfacts]⟩
    exact (hser.settled (attended_of_reachable hg) hbefore hk ht).1
  after hc actions g' hr := shutDown_of_run hg hc hr
  unsent c k hk hs hp := by
    obtain rfl := id_of_call? hk
    exact (accounted_of_reachable hg).unsent hk hs hp (.inl rfl)

/-- While a connection opens, a call waits for a leader, and a shutdown and another election stand in
line; then the connection opens and the shutdown has its turn. -/
def closing : List Action :=
  undertake 0 .gateway (.notice (.direct ⟨.numbered "a" 1, ⟨1⟩⟩)) .silent 2 ++
    undertake 1 .gateway (.wait none) .silent 3 ++ undertake 2 .gateway .shutdown .silent 1 ++
    undertake 3 .gateway (.notice (.direct ⟨.numbered "b" 2, ⟨2⟩⟩)) .silent 1 ++
    [.run 0 .silent, .run 2 .silent]

/-- The call that waits and the election that stands in line go on. -/
def afterClosing : List Action :=
  [.run 1 .silent, .run 3 .silent, .run 1 .silent, .run 1 .silent]

theorem terminal_of_closing :
    ∃ g g', (create (.ofOptions {}) [.gateway]).run? closing = some g ∧
      g.writer.closed = true ∧ g.run? afterClosing = some g' ∧
      g'.answersTo 1 = [⟨0, .answered 1 (.leader (.error .closed))⟩] ∧
      g'.answersTo 3 = [⟨0, .answered 3 (.verdict (.ok .closed))⟩] ∧ g.Terminal :=
  ⟨_, _, rfl, rfl, rfl, rfl, rfl, terminal_of_reachable
    ⟨.ofOptions {}, [.gateway], closing, rfl⟩⟩

end LeaderRouting.Gateway
