import LeaderRouting.Proofs.Tracker.Chronology
import LeaderRouting.Proofs.Waiting.Vigil

/-!
How a wait for a leader ends.  Nobody sleeps through what is published or through the end of the
tracker, and what a waiting call is told is what was true at the moment at which it was told.
-/

namespace LeaderRouting.Gateway

/-- What a step of the gateway can do to a call that waits for a leader: the phase it then is in. -/
inductive Heeds (g : Gateway) (a : Action) (k : Call) : Phase → Prop
  | waits {p : Phase} (after : p.seeks = true) : Heeds g a k p
  | givenUp (asked : a = .abandon k.id) : Heeds g a k .abandoned
  /-- A wait ends with the leader that is published. -/
  | led {s : Snapshot} (content : k.task.submission? = none) (shown : g.channel.value = .elected s) :
      Heeds g a k (.finished (.leader (.ok s.leader)))
  /-- A request goes on to be sent, over the connection that is published. -/
  | supplied {s : Snapshot} (sends : k.task.submission?.isSome = true)
      (shown : g.channel.value = .elected s) : Heeds g a k (.sending s)
  | turnedAway (cause : .published .closed ∈ g.facts ∨ g.channel.abandoned = true) :
      Heeds g a k (.finished (k.task.failed .closed))
  | expired {limit : Duration} {begun : Nat} (limited : g.waitLimit k = some limit)
      (start : ⟨begun, .started k.id⟩ ∈ g.journal) (due : g.now = begun + limit.ceilMillis)
      (silent : publications g.facts = []) :
      Heeds g a k (.finished (k.task.failed (.noLeaderAvailable limit)))

/-- What holds of the calls that wait for a leader, or have waited for one. -/
structure Vigilant (g : Gateway) : Prop where
  /-- While nothing can go on without time passing, whoever sleeps does so because nothing was published
  and somebody is left who could publish something. -/
  awake : (∀ k ∈ g.calls, g.canRun k = false) → ∀ k ∈ g.calls, k.task.concernsTracker = false →
    ∀ deadline woken, k.phase = .suspended deadline woken →
      g.channel.value = .notElected ∧ g.channel.abandoned = false
  /-- Whatever happens, a call that waits goes on waiting, or is told what is true at the moment. -/
  outcome : ∀ c k, g.call? c = some k → k.task.concernsTracker = false → k.phase.seeks = true →
    ∀ a g', g.step? a = some g' → ∃ k', g'.call? c = some k' ∧ k'.task = k.task ∧
      Heeds g a k k'.phase ∧
      ∀ answer, k'.phase = .finished answer → g'.answersTo c = [⟨g.now, .answered c answer⟩]
  once : ∀ c k, g.call? c = some k → k.task.concernsTracker = false → sleeps c g.facts ≤ 1
  /-- A leader that is there when a call begins is found at once, however short the call would wait. -/
  prompt : ∀ c k s, g.call? c = some k → k.task.concernsTracker = false → k.phase = .created →
    g.channel.value = .elected s → ∀ env, ∃ g' k', g.step? (.run c env) = some g' ∧
      g'.call? c = some k' ∧ sleeps c g'.facts = 0 ∧
      k'.phase = if k.task.submission?.isSome then .sending s else .finished (.leader (.ok s.leader))

variable {g g₁ g' : Gateway} {a : Action} {c : CallId} {k : Call} {p : Phase}

theorem vigilantAt_of_reachable (hg : g.Reachable) (c : CallId) : g.VigilantAt c := by
  refine Reachable.induction_of_reachable (P := fun g => g.VigilantAt c) ?_ ?_ hg
  · exact fun settings handles => ⟨by simp [Channel.IsCounted, create], fun _ => ⟨rfl, rfl⟩,
      by simp [create, call?]⟩
  · intro a g g₁ hg _ h hc
    exact (h.course (serialized_of_reachable hg).toDisciplined hc).release

/-- As long as readers are shown no leader, nothing was published. -/
theorem Serialized.publications_eq_nil (h : g.Serialized) (hv : g.channel.value = .notElected) :
    publications g.facts = [] := by
  by_contra hn
  have hlast : (publications g.facts).getLast hn = .notElected := by
    rw [← hv, h.value, shown, List.getLast?_eq_some_getLast hn]
    rfl
  have hpairs := h.pairwise_history
  rw [Gateway.history, List.pairwise_cons] at hpairs
  exact hpairs.1 _ (hlast ▸ List.getLast_mem hn)

theorem Serialized.closed_published (h : g.Serialized) (hv : g.channel.value = .closed) :
    .published .closed ∈ g.facts := by
  rw [published_mem_iff]
  rw [h.value, shown] at hv
  cases hl : (publications g.facts).getLast? with
  | none => simp [hl] at hv
  | some v =>
    obtain rfl : v = .closed := by simpa [hl] using hv
    exact List.mem_of_getLast? hl

theorem Phase.wake_eq_finished {answer : Answer} : p.wake = .finished answer ↔ p = .finished answer := by
  cases p <;> simp [Phase.wake]

/-- Whoever sleeps is woken just if there is something to wake up for. -/
theorem VigilantAt.woken {deadline : Option Nat} {woken : Bool} (h : g.VigilantAt c)
    (hk : g.call? c = some k) (ht : k.task.concernsTracker = false)
    (hp : k.phase = .suspended deadline woken) : woken = g.isStirred := by
  obtain ⟨-, begun, -, hv⟩ := h.known k hk ht
  rw [hp] at hv
  generalize g.isStirred = stirred at hv ⊢
  generalize k.seen = seen at hv
  generalize sleeps c g.facts = m at hv
  cases hv with
  | asleep => rfl
  | past after => simp [Phase.seeks] at after

/-- Whoever is about to sleep has seen nothing that was published. -/
theorem VigilantAt.unseen {deadline : Option Nat} (h : g.VigilantAt c) (hk : g.call? c = some k)
    (ht : k.task.concernsTracker = false) (hp : k.phase = .checking deadline) : k.seen = 0 := by
  obtain ⟨-, begun, -, hv⟩ := h.known k hk ht
  rw [hp] at hv
  generalize k.seen = seen at hv ⊢
  cases hv with
  | checking => rfl
  | past after => simp [Phase.seeks] at after

/-- Once there is something to wake up for, every call that waits can go on. -/
theorem VigilantAt.able (h : g.VigilantAt c) (hk : g.call? c = some k)
    (ht : k.task.concernsTracker = false) (hp : k.phase.seeks = true) (hs : g.isStirred = true) :
    g.canRun k = true := by
  unfold Gateway.canRun
  cases hphase : k.phase with
  | suspended deadline woken => simp [h.woken hk ht hphase, hs]
  | created => rfl
  | reading deadline => rfl
  | checking deadline => rfl
  | _ => simp [hphase, Phase.seeks] at hp

/-! ### What a call is told -/

theorem Heeds.wake (h : Heeds g a k p) : Heeds g a k p.wake := by
  cases h with
  | waits after => exact .waits (by rwa [Phase.seeks_wake])
  | givenUp asked => exact .givenUp asked
  | led hs hv => exact .led hs hv
  | supplied hs hv => exact .supplied hs hv
  | turnedAway ho => exact .turnedAway ho
  | expired hl hb hd hn => exact .expired hl hb hd hn

/-- A call that gives up waiting does so at the end of its wait, and before anything was published. -/
theorem Heeds.of_expired {deadline : Option Nat} {limit : Duration} (hser : g.Serialized)
    (h : g.VigilantAt k.id) (hk : g.call? k.id = some k) (ht : k.task.concernsTracker = false)
    (hr : g.canRun k = true) (hp : k.phase = .suspended deadline false)
    (hl : g.waitLimit k = some limit) :
    Heeds g a k (.finished (k.task.failed (.noLeaderAvailable limit))) := by
  obtain ⟨-, begun, hb, hv⟩ := h.known k hk ht
  have hdue : g.isDue deadline = true := by simpa [canRun, hp] using hr
  rw [hp, hl] at hv
  generalize hst : g.isStirred = stirred at hv
  generalize k.seen = seen at hv
  generalize sleeps k.id g.facts = m at hv
  cases hv with
  | asleep early =>
    simp only [waitEnd, Option.map_some, isDue, decide_eq_true_eq] at hdue
    have hearly : g.now ≤ begun + limit.ceilMillis := early _ rfl
    simp only [isStirred, Bool.or_eq_false_iff, decide_eq_false_iff_not, not_not] at hst
    exact .expired hl hb (Nat.le_antisymm hearly hdue) (hser.publications_eq_nil hst.1)
  | past after => simp [Phase.seeks] at after

/-- What a step of a waiting call comes to. -/
theorem Watch.heeds {seen n : Nat} (hw : Watch g k p seen n) (hser : g.Serialized)
    (h : g.VigilantAt k.id) (hk : g.call? k.id = some k) (ht : k.task.concernsTracker = false)
    (hr : g.canRun k = true) (hp : k.phase.seeks = true) : Heeds g a k p := by
  cases hw with
  | begun => exact .waits rfl
  | looked => exact .waits rfl
  | caughtUp => exact .waits rfl
  | slept => exact .waits rfl
  | woke => exact .waits rfl
  | dozed => exact .waits hp
  | led _ hv hs => exact .led hs hv
  | supplied _ hv hs => exact .supplied hs hv
  | turnedAway _ ho => exact .turnedAway (ho.imp hser.closed_published And.right)
  | expired hb hl => exact .of_expired hser h hk ht hr hb hl
  | past before => simp [hp] at before

/-- Only its own steps, and its caller, end the wait of a call. -/
theorem VigilantAt.heeds (h : g.VigilantAt c) (hser : g.Serialized) (hk : g.call? c = some k)
    (ht : k.task.concernsTracker = false) (hp : k.phase.seeks = true) (hc : Course g a g₁) :
    ∃ k', g₁.call? c = some k' ∧ k'.task = k.task ∧ Heeds g a k k'.phase ∧
      (∀ answer, k'.phase = .finished answer → g₁.answersTo c = [⟨g.now, .answered c answer⟩]) ∧
      g₁.dealings c = [] := by
  have hnone := ((h.known k hk ht).1 hp).2
  have hstays : ∀ k', k'.phase.seeks = true → k'.task = k.task → g₁.call? c = some k' →
      g₁.dealings c = g.dealings c → ∃ k', g₁.call? c = some k' ∧ k'.task = k.task ∧
        Heeds g a k k'.phase ∧
        (∀ answer, k'.phase = .finished answer → g₁.answersTo c = [⟨g.now, .answered c answer⟩]) ∧
        g₁.dealings c = [] :=
    fun k' hp' htask hk' hd => ⟨k', hk', htask, .waits hp',
      fun answer he => by simp [he, Phase.seeks] at hp', hd.trans hnone⟩
  cases hc with
  | around => exact hstays k hp rfl hk rfl
  | advance => exact hstays k hp rfl hk rfl
  | start =>
    exact hstays k hp rfl (by rw [call?_enrol, hk, Option.some_or]) (dealings_enrol g _ c)
  | @abandon d k' hk' =>
    by_cases hd : c = d
    · subst hd
      have hgone : (g.giveUp c).call? c = some { k with phase := .abandoned } := by
        rw [call?_giveUp, if_pos rfl, hk]
        rfl
      exact ⟨_, hgone, rfl, .givenUp (by rw [id_of_call? hk]), by simp,
        (dealings_giveUp g c c).trans hnone⟩
    · exact hstays k hp rfl (by rw [call?_giveUp, if_neg hd, hk]) (dealings_giveUp g d c)
  | @run d k' env hk' hr =>
    have hturn := turn_proceed env hk' hr
    by_cases hd : c = d
    · subst hd
      obtain rfl := Option.some.inj (hk.symm.trans hk')
      obtain rfl := id_of_call? hk
      have hfree := hser.toDisciplined.free hk ht
      obtain ⟨p, seen, m, hw, hcall, -, hdeal⟩ := watches_proceed env hk hr hfree ht
      refine ⟨_, hcall, rfl, hw.heeds hser h hk ht hr hp, fun answer he => ?_, (hdeal hp).trans hnone⟩
      have hanswered := hturn.answered hk (Phase.ended_of_seeks hp) hcall he
      rwa [hser.toDisciplined.answersTo_eq_nil hk (Phase.ended_of_seeks hp)] at hanswered
    · rcases hturn.others hd with he | he
      · exact hstays k hp rfl (he.trans hk) (hturn.dealings hd)
      · exact hstays k.wake (by simpa [Call.wake] using hp) rfl (by rw [he, hk]; rfl)
          (hturn.dealings hd)

/-- A call that begins when there is a leader takes it. -/
theorem VigilantAt.prompt (h : g.VigilantAt c) (hser : g.Serialized) (hk : g.call? c = some k)
    (ht : k.task.concernsTracker = false) (hp : k.phase = .created) {s : Snapshot}
    (hv : g.channel.value = .elected s) (env : Surroundings) :
    ∃ k', (g.proceed env k).call? c = some k' ∧ sleeps c (g.proceed env k).facts = 0 ∧
      k'.phase =
        if k.task.submission?.isSome then .sending s else .finished (.leader (.ok s.leader)) := by
  obtain rfl := id_of_call? hk
  have hr : g.canRun k = true := by simp [canRun, hp]
  have hzero : sleeps k.id g.facts = 0 := by
    obtain ⟨-, begun, -, hvigil⟩ := h.known k hk ht
    rw [hp] at hvigil
    generalize sleeps k.id g.facts = m at hvigil ⊢
    cases hvigil with
    | created => rfl
    | past after => simp [Phase.seeks] at after
  obtain ⟨p, seen, m, hw, hcall, hm, -⟩ := watches_proceed env hk hr (hser.toDisciplined.free hk ht) ht
  refine ⟨_, hcall, ?_⟩
  cases hw with
  | led _ hs hn =>
    obtain rfl := Published.elected.inj (hv.symm.trans hs)
    exact ⟨hm.trans hzero, by simp [hn]⟩
  | supplied _ hs hn =>
    obtain rfl := Published.elected.inj (hv.symm.trans hs)
    exact ⟨hm.trans hzero, by simp [hn]⟩
  | turnedAway _ ho => simp [hv, hp] at ho
  | begun _ hn => simp [hv] at hn
  | past before => simp [hp, Phase.seeks] at before
  | dozed before => simp [hp] at before
  | _ => simp_all

/-! ### Every state -/

theorem vigilant_of_reachable (hg : g.Reachable) : g.Vigilant := by
  have hser := serialized_of_reachable hg
  have hat := vigilantAt_of_reachable hg
  exact {
    awake hidle k hm ht deadline woken hp := by
      have hk := call?_of_mem hser.ids hm
      have hcannot := hidle k hm
      simp only [canRun, hp, Bool.or_eq_false_iff] at hcannot
      have hunstirred : g.isStirred = false := ((hat k.id).woken hk ht hp).symm.trans hcannot.1
      simpa [isStirred] using hunstirred
    outcome c k hk ht hp a g' hstep := by
      obtain ⟨g₁, hc, rfl⟩ := exists_course_of_step? hstep
      obtain ⟨k₁, hk₁, htask, hheeds, hans, -⟩ := (hat c).heeds hser hk ht hp hc
      obtain ⟨k₂, hk₂, htask₂, hphase⟩ := exists_call?_release hk₁
      rw [answersTo_release]
      refine ⟨k₂, hk₂, htask₂.trans htask, ?_, fun answer ha => hans answer ?_⟩
      · rcases hphase with he | he <;> rw [he]
        · exact hheeds
        · exact hheeds.wake
      · rcases hphase with he | he
        · exact he ▸ ha
        · exact Phase.wake_eq_finished.1 (he ▸ ha)
    once c k hk ht := by
      obtain ⟨-, begun, -, hv⟩ := (hat c).known k hk ht
      exact hv.sleeps_le
    prompt c k s hk ht hp hv env := by
      obtain ⟨k₁, hk₁, hzero, hphase⟩ := (hat c).prompt hser hk ht hp hv env
      have hnotes : Notes (fun f => f.isSleep c = false) (g.proceed env k) (g.proceed env k).release :=
        notes_release (fun _ => rfl) (fun _ _ => rfl) _
      obtain ⟨k₂, hk₂, -, hp₂⟩ := exists_call?_release hk₁
      have hp₂ : k₂.phase = k₁.phase := hp₂.elim id fun he => by
        rw [he, hphase]
        split_ifs <;> rfl
      exact ⟨_, k₂, by simp [step?, act?, runCall?, hk, canRun, hp], hk₂, hnotes.sleeps.trans hzero,
        hp₂.trans hphase⟩ }

/-- Two calls wait, one of them for five milliseconds and the other for ever; then a leader is
elected. -/
def electedLate : List Action :=
  undertake 0 .gateway (.wait (some (.ofMillis 5))) .silent 3 ++
    undertake 1 .gateway (.wait none) .silent 3 ++ [.advance 5, .run 0 .silent] ++
    elect 2 .gateway ⟨.numbered "a" 1, ⟨1⟩⟩ .silent ++ List.replicate 3 (.run 1 .silent)

theorem vigilant_of_electedLate :
    ∃ g l, (create (.ofOptions {}) [.gateway]).run? electedLate = some g ∧
      g.answersTo 0 = [⟨5, .answered 0 (.leader (.error (.noLeaderAvailable (.ofMillis 5))))⟩] ∧
      g.answersTo 1 = [⟨5, .answered 1 (.leader (.ok l))⟩] ∧
      sleeps 0 g.facts = 1 ∧ sleeps 1 g.facts = 1 ∧ g.Vigilant :=
  ⟨_, _, rfl, rfl, rfl, rfl, rfl, vigilant_of_reachable
    ⟨.ofOptions {}, [.gateway], electedLate, rfl⟩⟩

end LeaderRouting.Gateway
