import LeaderRouting.Proofs.Submission.Coupling
import LeaderRouting.Proofs.Submission.Independence

/-!
What it changes to cancel requests with their connection.  Of one schedule, a request that would have
ended after its connection was closed is superseded at that moment; all else comes to the same.
-/

namespace LeaderRouting

/-- The settings, with requests cancelled with their connection or not. -/
def Settings.cancelling (s : Settings) (cancels : Bool) : Settings :=
  { s with cancelInFlightOnSwap := cancels }

namespace Gateway

def Action.isRun : Action → Bool
  | .run _ _ => true
  | _ => false

/-- What is done to a gateway from outside, and when. -/
def commands (actions : List Action) : List Action :=
  actions.filter fun a => !a.isRun

/-- Whether a connection was closed once the next one was published, which a call had opened that is
told that it elects a new leader, or the end was, by a call that asks for it. -/
def IsRelieved (g : Gateway) (before : List Fact) (n : Nat) : Prop :=
  (∃ s c m task, s.connection = n + 1 ∧ .published (.elected s) ∈ before ∧
      .opened c (n + 1) m ∈ g.facts ∧
        g.standing? c = some (task, .finished (task.outcome (.ok .newLeader)))) ∨
    (.published .closed ∈ before ∧ ∃ k ∈ g.calls, k.task = .shutdown)

/-- Whether a call is where it is in the other state, and was answered as there, at the same moment. -/
def IsUnchanged (g g' : Gateway) (c : CallId) : Prop :=
  g'.call? c = g.call? c ∧ g'.answersTo c = g.answersTo c

/-- Whether the second state is the first as it would be had requests been cancelled with their
connection. -/
structure OnlySupersedes (g g' : Gateway) : Prop where
  now : g'.now = g.now
  writer : g'.writer = g.writer
  lock : g'.lock = g.lock
  channel : g'.channel = g.channel
  connections : g'.connections = g.connections
  handles : g'.handles = g.handles
  held : g'.held = g.held
  /-- The lock was given to the same calls, the same connections were opened, refused and closed, and
  the same values published, at the same moments and in the same order. -/
  tracker : (g'.journal.filter fun e => e.fact.ofTracker) =
    g.journal.filter fun e => e.fact.ofTracker
  /-- Neither a notice that renews a term, nor one that is outdated or fails, closes a connection. -/
  closes : ∀ before n m, before ++ [.closed n m] <+: g.facts → g.IsRelieved before n
  /-- Notices, shutdowns and waits come to the same, -/
  others : ∀ c k, g.call? c = some k → k.task.submission? = none → IsUnchanged g g' c
  /-- and so does a request whose connection is not closed before it ends. -/
  unaffected : ∀ c, (∀ request time, ¬g.SeveredAt c request time) →
    (∀ task request time, ¬g.TurnedAwayAt c task request time) → IsUnchanged g g' c
  /-- A request that is handed over, and whose connection is closed after it was let in, and at an
  earlier moment than it ends, is superseded at the moment of the close. -/
  superseded : ∀ c k request time, g.call? c = some k → k.task.submission?.isSome = true →
    g.SeveredAt c request time → time < g.now →
      (∀ e ∈ g.journal, e.fact.ends c = true → time < e.time) →
        g'.Told c k.task (.submissionFailed request .superseded) time
  /-- No other request is, but for one that was never handed over, as the connection to the leader that
  it had found was closed by then. -/
  only : ∀ c task request time, task.submission?.isSome = true →
    g'.Told c task (.submissionFailed request .superseded) time →
      g.SeveredAt c request time ∨ g.TurnedAwayAt c task request time
  /-- There is nothing in between, also where the close and the end come at one moment. -/
  either : ∀ c, IsUnchanged g g' c ∨ ∃ k request time, g.call? c = some k ∧
    g'.Told c k.task (.submissionFailed request .superseded) time

variable {hidden hidden' : CallId → Bool} {g g₁ g' g₁' : Gateway} {a : Action} {c : CallId} {k : Call}
  {task : Task} {request : RequestId} {n t : Nat} {m : Member}

/-! ### Schedules for both -/

theorem commands_append (actions rest : List Action) :
    commands (actions ++ rest) = commands actions ++ commands rest :=
  List.filter_append actions rest

/-- A call that is left out has ended. -/
theorem Coupled.finished (h : Coupled hidden g g') (hm : k ∈ g'.calls) (hc : hidden k.id = true) :
    ∃ answer, k.phase = .finished answer := by
  obtain ⟨task, request, t, hd⟩ := h.diverted k.id hc
  obtain ⟨k', hk', -, hp⟩ := hd.told.call
  have hk := call?_of_mem (serialized_of_reachable h.reachable').ids hm
  obtain rfl := Option.some.inj (hk.symm.trans hk')
  exact ⟨_, hp⟩

theorem Coupled.mem_calls (h : Coupled hidden g g') (hm : k ∈ g'.calls) (hc : hidden k.id = false) :
    k ∈ g.calls := by
  have hk := call?_of_mem (serialized_of_reachable h.reachable').ids hm
  exact mem_of_call? ((h.alike.call? hc).symm.trans hk)

/-- Once nothing can go on in the first state, only requests can in the second that are to notice that
they are superseded.  They can do so first. -/
theorem Coupled.exists_polls (h : Coupled hidden g g') (hk : g.IsSpared fun _ => true)
    (hidle : ∀ k ∈ g.calls, g.canRun k = false) :
    ∃ polls hidden' g₁', commands polls = [] ∧ g.follow? polls = some g ∧
      g'.follow? polls = some g₁' ∧ Coupled hidden' g g₁' ∧ ∀ k ∈ g₁'.calls, g₁'.canRun k = false := by
  generalize hn : (g.calls.filter fun k => !hidden k.id).length = n
  -- Each such call is left out from then on.
  induction n using Nat.strongRecOn generalizing hidden g' with
  | _ n ih =>
    by_cases hdone : ∀ k ∈ g'.calls, g'.canRun k = false
    · exact ⟨[], hidden, g', rfl, rfl, rfl, h, hdone⟩
    obtain ⟨k, hm, hr⟩ : ∃ k ∈ g'.calls, g'.canRun k = true := by simpa using hdone
    have hc : hidden k.id = false := by
      by_contra hc
      obtain ⟨answer, hp⟩ := h.finished hm (by simpa using hc)
      simp [canRun, hp] at hr
    have hmem := h.mem_calls hm hc
    have hcall := call?_of_mem (serialized_of_reachable h.reachable).ids hmem
    let env := { Surroundings.silent with closedFirst := true }
    have hcut : g'.isCut env k = true := by
      by_contra hcut
      have hsame : g'.isCut env k = g.isCut env k := by
        rw [isCut_eq_false h.lasts]
        simpa using hcut
      rw [h.alike.canRun hsame, hidle k hmem] at hr
      exact Bool.false_ne_true hr
    obtain ⟨g₁', hs'⟩ : ∃ g₁', g'.attempt? (.run k.id env) = some g₁' := ⟨_, rfl⟩
    have hs : g.attempt? (.run k.id env) = some g := by
      simp [attempt?, step, step?, act?, runCall?, hcall, hidle k hmem]
    obtain ⟨-, he⟩ := (serialized_of_reachable h.reachable).attempt hs hk
    have hcoupled := h.go (h.aligned_of_isCut hc hcall hcut) hs hs' (he ▸ hk.mono fun _ _ => rfl)
    have hfewer : (g.calls.filter fun d => !including k.id hidden d.id).length < n := by
      have hsplit : (g.calls.filter fun d => !including k.id hidden d.id) =
          (g.calls.filter fun d => !hidden d.id).filter fun d => decide (d.id ≠ k.id) := by
        rw [List.filter_filter]
        congr 1
        funext d
        simp [including, Bool.and_comm]
      rw [hsplit, ← hn, List.length_filter_lt_length_iff_exists]
      exact ⟨k, List.mem_filter.2 ⟨hmem, by simp [hc]⟩, by simp⟩
    obtain ⟨polls, hidden', g₂', hpolls, hr, hr', h₂⟩ := ih _ hfewer hcoupled rfl
    refine ⟨.run k.id env :: polls, hidden', g₂', hpolls, ?_, ?_, h₂⟩
    · simp [follow?, hs, hr]
    · simp [follow?, hs', hr']

/-- Time can pass in the second state where it can in the first, once nothing can go on there. -/
theorem Coupled.exists_advance {time : Nat} (h : Coupled hidden g g')
    (hs : g.advance? time = some g₁) (hidle : ∀ k ∈ g'.calls, g'.canRun k = false) :
    ∃ g₁', g'.advance? time = some g₁' := by
  obtain ⟨⟨hlater, -, hquiet⟩, -⟩ := advance?_eq_some_iff.1 hs
  refine ⟨_, advance?_eq_some_iff.2 ⟨⟨h.alike.now ▸ hlater, hidle, fun k hm => ?_⟩, rfl⟩⟩
  cases hc : hidden k.id with
  | true =>
    obtain ⟨answer, hp⟩ := h.finished hm hc
    simp [isQuietUntil, timer?, hp]
  | false => exact hquiet k (h.mem_calls hm hc)

/-- Each step is one in both, after requests have noticed that they are superseded. -/
theorem Coupled.exists_attempt (h : Coupled hidden g g') (hs : g.step? a = some g₁)
    (hk : g₁.IsSpared fun _ => true) :
    ∃ polls hidden' g₁', commands polls = [] ∧ g.follow? (polls ++ [a]) = some g₁ ∧
      g'.follow? (polls ++ [a]) = some g₁' ∧ Coupled hidden' g₁ g₁' := by
  have hser := serialized_of_reachable h.reachable
  obtain ⟨hspared, hact, -⟩ := hser.spared_step hs hk
  have hlives := hser.kept (hspared.isKept hser.toRooted)
  have hattempt := attempt?_of_step? hs
  have hafter : ∀ hidden', (g.acted a).IsSpared hidden' := fun _ =>
    (hser.attempt hattempt hk).2 ▸ hk.mono fun _ _ => rfl
  by_cases ht : ∃ time, a = .advance time
  · obtain ⟨time, rfl⟩ := ht
    have hadvance : g.advance? time = some g₁ := hact
    obtain ⟨⟨-, hidle, -⟩, -⟩ := advance?_eq_some_iff.1 hadvance
    obtain ⟨polls, hidden', g₂', hpolls, hr, hr', h₂, hidle'⟩ := h.exists_polls hspared hidle
    obtain ⟨g₃, hadvance'⟩ := h₂.exists_advance hadvance hidle'
    have hact' : g₂'.act? (.advance time) = some g₃ := hadvance'
    obtain ⟨g₁', hs'⟩ : ∃ g₁', g₂'.attempt? (.advance time) = some g₁' :=
      ⟨g₃.release, by simp [attempt?, step?, hact']⟩
    obtain ⟨hidden₁, h₁⟩ := h₂.attempt hlives hattempt hs' fun hidden' _ => hafter hidden'
    refine ⟨polls, hidden₁, g₁', hpolls, ?_, ?_, h₁⟩
    · simp [follow?_append, hr, follow?, hattempt]
    · simp [follow?_append, hr', follow?, hs']
  · obtain ⟨g₁', hs'⟩ : ∃ g₁', g'.attempt? a = some g₁' := by
      cases a with
      | advance time => exact absurd ⟨time, rfl⟩ ht
      | _ => exact ⟨_, rfl⟩
    obtain ⟨hidden', h₁⟩ := h.attempt hlives hattempt hs' fun hidden' _ => hafter hidden'
    exact ⟨[], hidden', g₁', rfl, by simp [follow?, hattempt], by simp [follow?, hs'], h₁⟩

/-- Every run without cancelling is a schedule for both, once superseded requests are given the
occasion to notice. -/
theorem Coupled.exists_schedule {actions : List Action} (h : Coupled hidden g g')
    (hr : g.run? actions = some g₁) (hk : g₁.IsSpared fun _ => true) :
    ∃ schedule hidden' g₁', actions.Sublist schedule ∧ commands schedule = commands actions ∧
      g.follow? schedule = some g₁ ∧ g'.follow? schedule = some g₁' ∧ Coupled hidden' g₁ g₁' := by
  induction actions generalizing hidden g g' with
  | nil =>
    obtain rfl := Option.some.inj hr
    exact ⟨[], hidden, g', .refl _, rfl, rfl, rfl, h⟩
  | cons a rest ih =>
    obtain ⟨g₂, hs, hr⟩ := Option.bind_eq_some_iff.1 hr
    have hser₂ := serialized_of_reachable (h.reachable.step hs)
    obtain ⟨polls, hidden', g₂', hpolls, hf, hf', h₂⟩ := h.exists_attempt hs (hser₂.spared_run hr hk)
    obtain ⟨schedule, hidden₁, g₁', hsub, hcommands, hr, hr', h₁⟩ := ih h₂ hr
    refine ⟨(polls ++ [a]) ++ schedule, hidden₁, g₁', ?_, ?_, ?_, ?_, h₁⟩
    · exact (hsub.cons_cons a).trans (by simp)
    · rw [commands_append, commands_append, hpolls, hcommands, List.nil_append]
      exact (commands_append [a] rest).symm
    · rw [follow?_append, hf]
      exact hr
    · rw [follow?_append, hf']
      exact hr'

/-! ### Two runs of one schedule -/

/-- A connection is closed for the next one or in a shutdown, as long as anybody is left. -/
theorem Serialized.isRelieved (h : g.Serialized) (hk : ¬g.IsDeserted) {before : List Fact}
    (hb : before ++ [.closed n m] <+: g.facts) : g.IsRelieved before n := by
  rcases h.timely.of_trace rfl hb n m rfl with ⟨hn, s, hs, hp⟩ | ⟨-, hp | hdeserted⟩
  · obtain ⟨c, m', ho⟩ := h.exists_opened hn
    obtain ⟨task, ht⟩ := h.told_of_opened ho
    exact .inl ⟨s, c, m', task, hs, (List.mem_filter.1 hp).1, ho, ht⟩
  · have hp := (List.mem_filter.1 hp).1
    exact .inr ⟨hp, h.exists_shutdown (hb.subset (List.mem_append_left _ hp))⟩
  · exact absurd hdeserted hk

theorem SeveredAt.on_record (h : g.SeveredAt c request t) : ∃ n m m' r, r.id = request ∧
    .admitted c n m' r ∈ g.facts ∧ .submitted c n m' r ∈ g.facts ∧ ⟨t, .closed n m⟩ ∈ g.journal := by
  obtain ⟨before, after, n, m, hj, ⟨m', r, hid, hadmitted, hsubmitted⟩, -⟩ := h
  refine ⟨n, m, m', r, hid, ?_, hsubmitted, ?_⟩
  · rw [facts, hj, List.map_append]
    exact List.mem_append_left _ hadmitted
  · rw [hj]
    simp

theorem SeveredAt.unique {request' : RequestId} {t' : Nat} (hg : g.Reachable)
    (hk : g.call? c = some k) (hs : k.task.submission?.isSome = true)
    (h : g.SeveredAt c request t) (h' : g.SeveredAt c request' t') : request = request' ∧ t = t' := by
  obtain ⟨n, m, _, r, rfl, hadmitted, -, hclosed⟩ := h.on_record
  obtain ⟨n', m', _, r', rfl, hadmitted', -, hclosed'⟩ := h'.on_record
  obtain ⟨rfl, rfl⟩ := admitted_unique hg hk hs hadmitted hadmitted'
  exact ⟨rfl, closed_unique hg hclosed hclosed'⟩

/-- A request that was handed over was not turned away. -/
theorem SeveredAt.not_turnedAwayAt {request' : RequestId} {t' : Nat} (h : g.SeveredAt c request t) :
    ¬g.TurnedAwayAt c task request' t' := by
  intro h'
  obtain ⟨n, m, m', r, -, -, hsubmitted, -⟩ := h.on_record
  have hmem : .submitted c n m' r ∈ g.dealings c :=
    List.mem_filter.2 ⟨hsubmitted, by simp [Fact.ofRequest]⟩
  simp [h'.unsent] at hmem

theorem Coupled.superseded (h : Coupled hidden g g') (hk : g.call? c = some k)
    (hs : k.task.submission?.isSome = true) (hsevered : g.SeveredAt c request t) (ht : t < g.now)
    (hends : ∀ e ∈ g.journal, e.fact.ends c = true → t < e.time) :
    g'.Told c k.task (.submissionFailed request .superseded) t := by
  cases hc : hidden c with
  | true =>
    obtain ⟨task, request', t', hd⟩ := h.diverted c hc
    obtain ⟨k', hk', rfl⟩ := hd.known
    obtain rfl := Option.some.inj (hk.symm.trans hk')
    rcases hd.cause with hcause | hcause
    · obtain ⟨rfl, rfl⟩ := hsevered.unique h.reachable hk hs hcause
      exact hd.told
    · exact absurd hcause hsevered.not_turnedAwayAt
  | false =>
    -- The call would have ended by then, in both.
    obtain ⟨n, m, m', r, -, hadmitted, -, hclosed⟩ := hsevered.on_record
    have hseen : ∀ f : Fact, f.caller? = some c → f.isSeen hidden = true := fun f hf => by
      simp [Fact.isSeen, hf, hc]
    have hadmitted' : .admitted c n m' r ∈ g'.facts := by
      obtain ⟨e, he, hfact⟩ := List.mem_map.1 hadmitted
      exact List.mem_map.2 ⟨e, (h.alike.mem_journal (hseen _ (by rw [hfact]; rfl))).2 he, hfact⟩
    have hclosed' : ⟨t, .closed n m⟩ ∈ g'.journal :=
      (h.alike.mem_journal (by simp [Fact.isSeen, Fact.ofTracker])).2 hclosed
    obtain ⟨e, he, hend, hle⟩ := ended_of_closed h.reachable' h.cancels
      ((h.alike.call? hc).trans hk) hs hadmitted' hclosed' (h.alike.now.symm ▸ ht)
    have hcaller : e.fact.caller? = some c := by
      cases hf : e.fact <;> simp_all [Fact.ends, Fact.caller?]
    have hmem : e ∈ g.journal := (h.alike.mem_journal (hseen _ hcaller)).1 he
    exact absurd (hends e hmem hend) (Nat.not_lt.2 hle)

/-- Nobody is superseded in the second state but those that are left out. -/
theorem Coupled.cause (h : Coupled hidden g g') (hs : task.submission?.isSome = true)
    (htold : g'.Told c task (.submissionFailed request .superseded) t) :
    g.SeveredAt c request t ∨ g.TurnedAwayAt c task request t := by
  obtain ⟨k, hk, rfl, hp⟩ := htold.call
  cases hc : hidden c with
  | true =>
    obtain ⟨task, request', t', hd⟩ := h.diverted c hc
    obtain ⟨k', hk', rfl, hp'⟩ := hd.told.call
    obtain rfl := Option.some.inj (hk.symm.trans hk')
    have he := Task.failed_inj hs (Phase.finished.inj (hp.symm.trans hp'))
    have ht := htold.answers.symm.trans hd.told.answers
    simp only [GatewayError.submissionFailed.injEq, and_true] at he
    simp only [List.cons.injEq, Entry.mk.injEq, and_true] at ht
    obtain ⟨rfl, -⟩ := ht
    exact he ▸ hd.cause
  | false =>
    have htold' : g.Told c k.task (.submissionFailed request .superseded) t :=
      ⟨⟨k, (h.alike.call? hc).symm.trans hk, rfl, hp⟩,
        (h.alike.answersTo hc).symm.trans htold.answers⟩
    exact absurd htold' (not_told_superseded h.reachable h.lasts hs)

theorem Coupled.onlySupersedes (h : Coupled hidden g g') (hk : g'.IsSpared fun _ => false) :
    g.OnlySupersedes g' := by
  have hdiverted : ∀ c, IsUnchanged g g' c ∨
      ∃ task request time, Diverted g g' c task request time := by
    intro c
    cases hc : hidden c with
    | true => exact .inr (h.diverted c hc)
    | false => exact .inl ⟨h.alike.call? hc, h.alike.answersTo hc⟩
  have hleft : ¬g.IsDeserted := by
    rintro ⟨hnone, hended⟩
    rcases h.isSpared hk with hk | ⟨c, k, -, hk, hu, -⟩
    · simp [hnone] at hk
    · simp [hended k (mem_of_call? hk)] at hu
  exact {
    now := h.alike.now
    writer := h.alike.writer
    lock := h.alike.lock
    channel := h.alike.channel
    connections := h.alike.connections
    handles := h.alike.handles
    held := h.alike.held
    tracker := h.alike.journal_filter fun f hf => by simp [Fact.isSeen, hf]
    closes before n m hb := (serialized_of_reachable h.reachable).isRelieved hleft hb
    others c k hk hs := by
      rcases hdiverted c with h | ⟨task, request, t, hd⟩
      · exact h
      · obtain ⟨k', hk', rfl⟩ := hd.known
        obtain rfl := Option.some.inj (hk.symm.trans hk')
        simpa [hs] using hd.sends
    unaffected c hsevered hturned := by
      rcases hdiverted c with h | ⟨task, request, t, hd⟩
      · exact h
      · exact (hd.cause.elim (hsevered request t) (hturned task request t)).elim
    superseded c k request t hk hs := h.superseded hk hs
    only c task request t := h.cause
    either c := by
      rcases hdiverted c with h | ⟨task, request, t, hd⟩
      · exact .inl h
      · obtain ⟨k, hk, rfl⟩ := hd.known
        exact .inr ⟨k, request, t, hk, hd.told⟩ }

theorem isSpared_of_trackerHeld (hg : g.Reachable) (hk : g.trackerHeld = true) :
    g.IsSpared fun _ => false := by
  rw [trackerHeld_eq, isKept_iff (serialized_of_reachable hg).ids] at hk
  exact hk.imp_right fun ⟨c, k, _, hk⟩ => ⟨c, k, rfl, hk⟩

theorem coupled_create (settings : Settings) (handles : List Handle) :
    Coupled (fun _ => false) (create (settings.cancelling false) handles)
      (create (settings.cancelling true) handles) where
  alike := ⟨rfl, rfl, rfl, rfl, rfl, rfl, rfl, rfl, rfl, rfl, rfl⟩
  diverted := by simp
  reachable := ⟨_, handles, [], rfl⟩
  reachable' := ⟨_, handles, [], rfl⟩
  lasts := rfl
  cancels := rfl

/-- To cancel requests with their connection changes nothing but those requests: any schedule, followed
with and without it, comes to the same but for them, as long as the tracker lives.  The tracker may end
with the last request that keeps it, and so earlier where that is superseded.  Every run without
cancelling that leaves a handle to keep the tracker is such a schedule, once the requests that would be
superseded are given the occasion to notice. -/
theorem onlySupersedes_of_schedule (settings : Settings) (handles : List Handle) :
    (∀ actions g, (create (settings.cancelling false) handles).run? actions = some g →
      g.handles.any Handle.ownsTracker = true →
        ∃ schedule g', actions.Sublist schedule ∧ commands schedule = commands actions ∧
          (create (settings.cancelling false) handles).follow? schedule = some g ∧
          (create (settings.cancelling true) handles).follow? schedule = some g' ∧
          g'.trackerHeld = true) ∧
    ∀ schedule g g', (create (settings.cancelling false) handles).follow? schedule = some g →
      (create (settings.cancelling true) handles).follow? schedule = some g' →
        g'.trackerHeld = true → g.OnlySupersedes g' := by
  have hstart := coupled_create settings handles
  constructor
  · intro actions g hr hk
    obtain ⟨schedule, hidden, g', hsub, hcommands, hf, hf', h⟩ := hstart.exists_schedule hr (.inl hk)
    refine ⟨schedule, g', hsub, hcommands, hf, hf', ?_⟩
    unfold trackerHeld
    rw [h.alike.handles, hk, Bool.true_or]
  · intro schedule g g' hr hr' hk
    have hg' := hstart.reachable'.follow hr'
    obtain ⟨hidden, h⟩ := hstart.follow hr hr' (isSpared_of_trackerHeld hg' hk)
    exact h.onlySupersedes (isSpared_of_trackerHeld hg' hk)

/-- A swap at 3 while a request is in flight, the reply to which comes at 50, and the occasion to notice
the swap if it is given. -/
def swapInFlight (noticing : Bool) : List Action :=
  let env := .replying ⟨some 50, .connection .disconnected⟩
  elect 0 .gateway ⟨.numbered "a" 1, ⟨1⟩⟩ env ++
    ask 1 .gateway env 3 ++ [.advance 3] ++
    elect 2 .gateway ⟨.numbered "b" 2, ⟨2⟩⟩ env ++ (if noticing then [.run 1 env] else []) ++
    [.advance 50, .run 1 env]

theorem onlySupersedes_of_swapInFlight :
    let lasting := create (.ofOptions {}) [.gateway]
    let cancelling := create (.ofOptions { cancelInFlightOnSwap := some true }) [.gateway]
    (∃ g schedule g', lasting.run? (swapInFlight false) = some g ∧
      (swapInFlight false).Sublist schedule ∧
      commands schedule = commands (swapInFlight false) ∧
      lasting.follow? schedule = some g ∧ cancelling.follow? schedule = some g' ∧
      g'.trackerHeld = true) ∧
    ∃ g g', lasting.follow? (swapInFlight true) = some g ∧
      cancelling.follow? (swapInFlight true) = some g' ∧
      (g.answersTo 1).map (·.time) = [50] ∧ (g'.answersTo 1).map (·.time) = [3] ∧
      g.OnlySupersedes g' := by
  obtain ⟨hextends, hcompare⟩ :=
    onlySupersedes_of_schedule (.ofOptions {}) [.gateway]
  constructor
  · obtain ⟨schedule, g', h⟩ := hextends (swapInFlight false) _ rfl rfl
    exact ⟨_, schedule, g', rfl, h⟩
  · exact ⟨_, _, rfl, rfl, rfl, rfl, hcompare (swapInFlight true) _ _ rfl rfl rfl⟩

end Gateway

end LeaderRouting
