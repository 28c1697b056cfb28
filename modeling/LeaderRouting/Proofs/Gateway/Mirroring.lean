import LeaderRouting.Proofs.Gateway.Pairing
import LeaderRouting.Proofs.Gateway.Time
import LeaderRouting.Proofs.Tracker.Chronology

/-!
Two runs that differ in what one call is to do, and in what it is told.  As long as this call comes
equally far in both, whatever can be done in the one can be done in the other.
-/

namespace LeaderRouting.Gateway

/-- Whether two calls have come equally far, but for being woken, and own the same. -/
structure Call.Abreast (k k' : Call) : Prop where
  owns : k'.owner.ownsTracker = k.owner.ownsTracker
  ended : k'.phase.ended = k.phase.ended
  phase : k.phase.ended = false → k'.phase.wake = k.phase.wake

/-- Whether two states show the same but for one call, how this stands in the second being given by how
it stands in the first. -/
structure Mirrored (R : Call → Call → Prop) (c : CallId) (g g' : Gateway) : Prop where
  settings : g'.settings = g.settings
  alike : Alike (· == c) g g'
  call : ∃ k k', g.call? c = some k ∧ g'.call? c = some k' ∧ R k k'

/-- Two states of such a kind that can both be reached. -/
structure Mirrored.Sound (R : Call → Call → Prop) (c : CallId) (g g' : Gateway) : Prop extends
    Mirrored R c g g' where
  reachable : g.Reachable
  reachable' : g'.Reachable

/-- Whether calls that stand to each other in a way come equally far, and stand so still after their
next steps. -/
structure KeepsPace (R : Call → Call → Prop) (c : CallId) : Prop where
  abreast : ∀ {k k'}, R k k' → k.Abreast k'
  wake : ∀ {k k'}, R k k' → R k.wake k' ∧ R k k'.wake
  abandon : ∀ {k k'}, R k k' → R { k with phase := .abandoned } { k' with phase := .abandoned }
  phase : ∀ {g g' k k'}, Mirrored.Sound R c g g' → g.call? c = some k → g'.call? c = some k' →
    R k k' → k.phase.ended = false → k'.phase = k.phase
  run : ∀ {g g' k k' env}, Mirrored.Sound R c g g' → g.call? c = some k → g'.call? c = some k' →
    R k k' → k'.phase = k.phase → g.canRun k = true → g'.canRun k' = true →
      Mirrored R c (g.proceed env k) (g'.proceed env k')

variable {R : Call → Call → Prop} {g g' g₁ g₁' : Gateway} {c : CallId} {k k' : Call} {a : Action}
  {env : Surroundings}

/-! ### Calls that have come equally far -/

theorem Call.Abreast.snapshot?_eq (h : k.Abreast k') : k'.phase.snapshot? = k.phase.snapshot? := by
  cases hu : k.phase.ended with
  | false => rw [← k'.phase.snapshot?_wake, h.phase hu, k.phase.snapshot?_wake]
  | true => rw [Phase.snapshot?_of_ended hu, Phase.snapshot?_of_ended (h.ended.trans hu)]

theorem canRun_congr (g : Gateway) (hid : k'.id = k.id) (hp : k'.phase = k.phase) :
    g.canRun k' = g.canRun k := by
  unfold canRun
  rw [hid, hp]

theorem isQuietUntil_congr (hp : k'.phase = k.phase) (time : Nat) :
    isQuietUntil time k' = isQuietUntil time k := by
  unfold isQuietUntil timer?
  rw [hp]

theorem canRun_of_ended (g : Gateway) (hu : k.phase.ended = true) : g.canRun k = false := by
  by_contra hr
  simp [ended_of_canRun (Bool.not_eq_false _ ▸ hr)] at hu

theorem isQuietUntil_of_ended (hu : k.phase.ended = true) (time : Nat) :
    isQuietUntil time k = true := by
  unfold isQuietUntil timer?
  cases hp : k.phase <;> first | rfl | simp [hp, Phase.ended] at hu

/-- A call that holds the lock or stands in line for it keeps the tracker. -/
theorem Disciplined.abandoned_of_contends (h : g.Disciplined) (hk : g.call? c = some k)
    (hc : k.phase.contends = true) : g.channel.abandoned = false := by
  cases hp : k.phase with
  | queued u =>
    exact h.abandoned_of_call hk (by rw [hp]; rfl) (h.queued _ _ u (standing?_of_phase hk hp))
  | opening l openedAt =>
    exact h.abandoned_of_call hk (by rw [hp]; rfl) (h.opening _ _ l (standing?_of_phase hk hp)).1
  | _ => simp [hp, Phase.contends] at hc

/-! ### Steps in both states -/

/-- The call stands as it did where it was woken at most. -/
theorem Mirrored.of_alike (h : Mirrored R c g g') (hR : KeepsPace R c)
    (ha : Alike (· == c) g₁ g₁') (hs : g₁.settings = g.settings) (hs' : g₁'.settings = g'.settings)
    (hk : ∀ k, g.call? c = some k → g₁.call? c = some k ∨ g₁.call? c = some k.wake)
    (hk' : ∀ k, g'.call? c = some k → g₁'.call? c = some k ∨ g₁'.call? c = some k.wake) :
    Mirrored R c g₁ g₁' where
  settings := hs'.trans (h.settings.trans hs.symm)
  alike := ha
  call := by
    obtain ⟨k, k', hcall, hcall', hpair⟩ := h.call
    rcases hk k hcall with he | he <;> rcases hk' k' hcall' with he' | he'
    · exact ⟨k, k', he, he', hpair⟩
    · exact ⟨k, k'.wake, he, he', (hR.wake hpair).2⟩
    · exact ⟨k.wake, k', he, he', (hR.wake hpair).1⟩
    · exact ⟨k.wake, k'.wake, he, he', (hR.wake (hR.wake hpair).1).2⟩

theorem Mirrored.Sound.run (h : Mirrored.Sound R c g g') (hR : KeepsPace R c)
    (hact : g.act? (.run c env) = some g₁) :
    ∃ g₁', g'.act? (.run c env) = some g₁' ∧ Mirrored R c g₁ g₁' := by
  obtain ⟨k, k', hk, hk', hpair⟩ := h.call
  simp only [act?, runCall?, hk, Option.ite_none_right_eq_some, Option.some.injEq] at hact
  obtain ⟨hr, rfl⟩ := hact
  have hphase := hR.phase h hk hk' hpair (ended_of_canRun hr)
  have hid : k'.id = k.id := (id_of_call? hk').trans (id_of_call? hk).symm
  have hr' : g'.canRun k' = true := by
    rw [canRun_congr g' hid hphase, h.alike.canRun_of_settings h.settings, hr]
  exact ⟨g'.proceed env k', by simp [act?, runCall?, hk', hr'],
    hR.run h hk hk' hpair hphase hr hr'⟩

theorem Mirrored.Sound.abandon (h : Mirrored.Sound R c g g') (hR : KeepsPace R c)
    (hact : g.act? (.abandon c) = some g₁) :
    ∃ g₁', g'.act? (.abandon c) = some g₁' ∧ Mirrored R c g₁ g₁' := by
  obtain ⟨k, k', hk, hk', hpair⟩ := h.call
  simp only [act?, abandon?, hk, Option.ite_none_right_eq_some, Option.some.injEq] at hact
  obtain ⟨hw, rfl⟩ := hact
  have hphase := hR.phase h hk hk' hpair (Phase.ended_of_isWaiting hw)
  have hcall : ∀ {g : Gateway} {k : Call}, g.call? c = some k →
      (g.giveUp c).call? c = some { k with phase := .abandoned } := by
    intro g k hk
    rw [call?_giveUp, if_pos rfl, hk]
    rfl
  refine ⟨g'.giveUp c, by simp [act?, abandon?, hk', hphase, hw, giveUp], h.settings, ?_, ?_⟩
  · unfold giveUp
    rw [h.alike.lock]
    exact ((h.alike.setLock (g.lock.withdraw c)).setPhase c .abandoned).enter (.abandoned c)
  · exact ⟨_, _, hcall hk, hcall hk', hR.abandon hpair⟩

/-- Time passes in both or in neither. -/
theorem Mirrored.Sound.advance {time : Nat} (h : Mirrored.Sound R c g g') (hR : KeepsPace R c)
    (hact : g.act? (.advance time) = some g₁) :
    ∃ g₁', g'.act? (.advance time) = some g₁' ∧ Mirrored R c g₁ g₁' := by
  obtain ⟨⟨hlater, hidle, hquiet⟩, rfl⟩ := advance?_eq_some_iff.1 hact
  obtain ⟨k, k', hk, hk', hpair⟩ := h.call
  have hids := (serialized_of_reachable h.reachable').ids
  have hcalls : ∀ x ∈ g'.calls, g'.canRun x = false ∧ isQuietUntil time x = true := by
    intro x hx
    by_cases he : x.id = c
    · have hfound : g'.call? c = some x := he ▸ call?_of_mem hids hx
      obtain rfl := Option.some.inj (hk'.symm.trans hfound)
      have hm := mem_of_call? hk
      cases hu : k.phase.ended with
      | true =>
        have hu' := ((hR.abreast hpair).ended).trans hu
        exact ⟨canRun_of_ended g' hu', isQuietUntil_of_ended hu' time⟩
      | false =>
        have hphase := hR.phase h hk hk' hpair hu
        have hid : k'.id = k.id := (id_of_call? hk').trans (id_of_call? hk).symm
        exact ⟨by rw [canRun_congr g' hid hphase, h.alike.canRun_of_settings h.settings, hidle k hm],
          by rw [isQuietUntil_congr hphase, hquiet k hm]⟩
    · have hmem : x ∈ g'.calls.filter fun x => !(x.id == c) := by simp [List.mem_filter, hx, he]
      rw [h.alike.calls] at hmem
      have hm := (List.mem_filter.1 hmem).1
      exact ⟨by rw [h.alike.canRun_of_settings h.settings, hidle x hm], hquiet x hm⟩
  refine ⟨{ g' with now := time }, advance?_eq_some_iff.2 ⟨⟨?_, ?_, ?_⟩, rfl⟩, h.settings, ?_, ?_⟩
  · rwa [h.alike.now]
  · exact fun x hx => (hcalls x hx).1
  · exact fun x hx => (hcalls x hx).2
  · exact { h.alike with now := rfl }
  · exact ⟨k, k', hk, hk', hpair⟩

/-- Whatever is done in the one state can be done in the other. -/
theorem Mirrored.Sound.act (h : Mirrored.Sound R c g g') (hR : KeepsPace R c)
    (hact : g.act? a = some g₁) : ∃ g₁', g'.act? a = some g₁' ∧ Mirrored R c g₁ g₁' := by
  by_cases ha : a.caller? = some c
  · cases a with
    | start d handle task seen =>
      obtain rfl := Option.some.inj ha
      obtain ⟨k, -, hk, -⟩ := h.call
      simp [act?, start?, hk] at hact
    | run d env =>
      obtain rfl := Option.some.inj ha
      exact h.run hR hact
    | abandon d =>
      obtain rfl := Option.some.inj ha
      exact h.abandon hR hact
    | _ => cases ha
  · have hothers : (∀ time, a ≠ .advance time) →
        ∃ g₁', g'.act? a = some g₁' ∧ Mirrored R c g₁ g₁' := by
      intro ht
      have hv : a.caller?.any (· == c) = false := by
        cases hcaller : a.caller? with
        | none => rfl
        | some d =>
          have hd : d ≠ c := fun hd => ha (hd ▸ hcaller)
          simpa using hd
      have hlives := fun d k => (serialized_of_reachable h.reachable).abandoned_of_contends
        (c := d) (k := k)
      have hrel := h.alike.act? hlives hv (fun _ env k _ _ => h.alike.isCut h.settings env k) ht
      rw [hact] at hrel
      generalize hact' : g'.act? a = o at hrel
      cases hrel with
      | some halike =>
        have hc := course_of_act? hact
        have hc' := course_of_act? hact'
        exact ⟨_, rfl, h.toMirrored.of_alike hR halike hc.settings hc'.settings
          (fun k hk => hc.call?_of_ne ha hk) fun k hk => hc'.call?_of_ne ha hk⟩
    cases a with
    | advance time => exact h.advance hR hact
    | _ => exact hothers (by simp)

/-! ### Letting go in both states -/

/-- A call among the others. -/
theorem any_calls {P : Call → Bool} (hids : (g.calls.map (·.id)).Nodup) (hk : g.call? c = some k) :
    g.calls.any P = ((g.calls.filter fun x => !(x.id == c)).any P || P k) := by
  rw [Bool.eq_iff_iff, Bool.or_eq_true, List.any_eq_true, List.any_eq_true]
  constructor
  · rintro ⟨x, hx, hP⟩
    by_cases he : x.id = c
    · have hfound : g.call? c = some x := he ▸ call?_of_mem hids hx
      obtain rfl := Option.some.inj (hk.symm.trans hfound)
      exact .inr hP
    · exact .inl ⟨x, List.mem_filter.2 ⟨hx, by simpa using he⟩, hP⟩
  · rintro (⟨x, hx, hP⟩ | hP)
    · exact ⟨x, (List.mem_filter.1 hx).1, hP⟩
    · exact ⟨k, mem_of_call? hk, hP⟩

theorem Mirrored.any_calls (h : Mirrored R c g g') (hr : g.Rooted) (hr' : g'.Rooted)
    {P : Call → Bool} (hP : ∀ k k', R k k' → P k' = P k) : g'.calls.any P = g.calls.any P := by
  obtain ⟨k, k', hk, hk', hpair⟩ := h.call
  rw [Gateway.any_calls hr.ids hk, Gateway.any_calls hr'.ids hk', h.alike.calls, hP k k' hpair]

theorem Mirrored.isKept (h : Mirrored R c g g') (hR : KeepsPace R c) (hr : g.Rooted)
    (hr' : g'.Rooted) {kind : Handle → Bool}
    (hkind : ∀ x y : Handle, x.ownsTracker = y.ownsTracker → kind x = kind y) :
    g'.isKept kind = g.isKept kind := by
  unfold Gateway.isKept
  rw [h.alike.handles, h.any_calls hr hr']
  intro k k' hpair
  rw [(hR.abreast hpair).ended, hkind _ _ (hR.abreast hpair).owns]

theorem any_snapshots (P : Snapshot → Bool) : g.snapshots.any P =
    ((if g.channel.abandoned then [] else g.writer.current.toList).any P ||
      (if g.channelHeld then g.channel.value.snapshot?.toList else []).any P ||
      g.calls.any (fun k => k.phase.snapshot?.any P) || (g.held.map (·.2)).any P) := by
  have hcalls : (g.calls.filterMap (·.phase.snapshot?)).any P =
      g.calls.any fun k => k.phase.snapshot?.any P := by
    rw [List.any_filterMap]
    rfl
  unfold Gateway.snapshots
  rw [List.any_append, List.any_append, List.any_append, hcalls]

/-- The same connections are referred to in both. -/
theorem Mirrored.isReferenced (h : Mirrored R c g g') (hR : KeepsPace R c) (hr : g.Rooted)
    (hr' : g'.Rooted) (n : Nat) : g'.isReferenced n = g.isReferenced n := by
  have hkept : g'.channelHeld = g.channelHeld := by
    rw [channelHeld_eq, channelHeld_eq, h.isKept hR hr hr' fun _ _ _ => rfl]
  unfold Gateway.isReferenced
  rw [any_snapshots, any_snapshots, h.alike.channel, h.alike.writer, h.alike.held, hkept,
    h.any_calls hr hr']
  intro k k' hpair
  rw [(hR.abreast hpair).snapshot?_eq]

theorem Mirrored.releaseTracker (h : Mirrored R c g g') (hR : KeepsPace R c) (hr : g.Rooted)
    (hr' : g'.Rooted) : Mirrored R c g.releaseTracker g'.releaseTracker := by
  unfold Gateway.releaseTracker
  rw [trackerHeld_eq, trackerHeld_eq, h.alike.channel, h.isKept hR hr hr' fun _ _ => id]
  split_ifs
  · exact h
  · have halike := (h.alike.setChannel { g.channel with abandoned := true }).wakeAll
    have hwoken : ∀ (g : Gateway) k, g.call? c = some k →
        g.wakeAll.call? c = some k ∨ g.wakeAll.call? c = some k.wake := by
      intro g k hk
      exact .inr (by rw [call?_wakeAll, hk]; rfl)
    exact h.of_alike hR halike rfl rfl
      (hwoken { g with channel := { g.channel with abandoned := true } })
      (hwoken { g' with channel := { g.channel with abandoned := true } })

theorem Mirrored.closeConnection (h : Mirrored R c g g') (hR : KeepsPace R c) (n : Nat) :
    Mirrored R c (g.closeConnection n) (g'.closeConnection n) := by
  have hcalls : ∀ (g : Gateway) k, g.call? c = some k → (g.closeConnection n).call? c = some k := by
    intro g k hk
    unfold call?
    rw [(frame_closeConnection g n).1]
    exact hk
  exact h.of_alike hR (h.alike.closeConnection n) (turn_closeConnection (c := c) n).settings
    (turn_closeConnection (c := c) n).settings (fun k hk => .inl (hcalls g k hk))
    fun k hk => .inl (hcalls g' k hk)

theorem Mirrored.release (h : Mirrored R c g g') (hR : KeepsPace R c) (hr : g.Rooted)
    (hr' : g'.Rooted) : Mirrored R c g.release g'.release := by
  unfold Gateway.release releaseConnections
  have ht := h.releaseTracker hR hr hr'
  rw [ht.alike.connections]
  generalize List.range g.releaseTracker.connections.length = ns
  generalize hg : g.releaseTracker = x, hg' : g'.releaseTracker = x' at ht
  have hx : x.Rooted := hg ▸ hr.releaseTracker
  have hx' : x'.Rooted := hg' ▸ hr'.releaseTracker
  clear hg hg'
  induction ns generalizing x x' with
  | nil => exact ht
  | cons n ns ih =>
    rw [List.foldl_cons, List.foldl_cons, ht.isReferenced hR hx hx' n]
    split_ifs
    · exact ih x x' ht hx hx'
    · exact ih _ _ (ht.closeConnection hR n) (hx.closeConnection n) (hx'.closeConnection n)

/-! ### Runs -/

theorem Mirrored.Sound.step (h : Mirrored.Sound R c g g') (hR : KeepsPace R c)
    (hs : g.step? a = some g₁) : ∃ g₁', g'.step? a = some g₁' ∧ Mirrored.Sound R c g₁ g₁' := by
  obtain ⟨x, hact, rfl⟩ := Option.map_eq_some_iff.1 hs
  obtain ⟨x', hact', hx⟩ := h.act hR hact
  have hs' : g'.step? a = some x'.release := by rw [step?, hact', Option.map_some]
  have hr := (serialized_of_reachable h.reachable).transition (course_of_act? hact).transition
  have hr' := (serialized_of_reachable h.reachable').transition (course_of_act? hact').transition
  exact ⟨x'.release, hs', hx.release hR hr.toRooted hr'.toRooted, h.reachable.step hs,
    h.reachable'.step hs'⟩

theorem Mirrored.Sound.run? {actions : List Action} (h : Mirrored.Sound R c g g')
    (hR : KeepsPace R c) (hr : g.run? actions = some g₁) :
    ∃ g₁', g'.run? actions = some g₁' ∧ Mirrored.Sound R c g₁ g₁' := by
  induction actions generalizing g g' with
  | nil =>
    obtain rfl := Option.some.inj hr
    exact ⟨g', rfl, h⟩
  | cons a rest ih =>
    obtain ⟨g₂, hs, hr⟩ := Option.bind_eq_some_iff.1 hr
    obtain ⟨g₂', hs', h₂⟩ := h.step hR hs
    obtain ⟨g₁', hr', h₁⟩ := ih h₂ hr
    exact ⟨g₁', by rw [Gateway.run?, hs', Option.bind_some, hr'], h₁⟩

/-- Where a call can be started, another can be in its place. -/
theorem Reachable.mirrored_start {handle handle' : Handle} {task task' : Task} {seen seen' : Nat}
    (hg : g.Reachable) (hR : KeepsPace R c) (hh : handle' ∈ g.handles)
    (ho : task'.concernsTracker = true → handle'.ownsTracker = true)
    (hv : seen' ≤ g.channel.version)
    (hpair : (task.concernsTracker = true → handle.ownsTracker = true) →
      R ⟨c, task, handle, seen, .created⟩ ⟨c, task', handle', seen', .created⟩)
    (hs : g.step? (.start c handle task seen) = some g₁) :
    ∃ g₁', g.step? (.start c handle' task' seen') = some g₁' ∧ Mirrored.Sound R c g₁ g₁' := by
  obtain ⟨x, hc, rfl⟩ := exists_course_of_step? hs
  have hser := serialized_of_reachable hg
  cases hc with
  | start hf _ howns _ =>
    let k : Call := ⟨c, task, handle, seen, .created⟩
    let k' : Call := ⟨c, task', handle', seen', .created⟩
    have howns' : handle'.ownsTracker = true ∨ task'.concernsTracker = false := by
      cases ht : task'.concernsTracker with
      | true => exact .inl (ho ht)
      | false => exact .inr rfl
    have hact : g.act? (.start c handle' task' seen') = some (g.enrol k') := by
      simp [act?, start?, hh, howns', hf, hv, enrol, k']
    have hs' : g.step? (.start c handle' task' seen') = some (g.enrol k').release := by
      rw [step?, hact, Option.map_some]
    have hfound : ∀ k : Call, k.id = c → (g.enrol k).call? c = some k := by
      intro k hk
      rw [call?_enrol, hf, Option.none_or, if_pos hk]
    have halike : Alike (· == c) (g.enrol k) (g.enrol k') :=
      (alike_enrol (by simp [k])).symm.trans (alike_enrol (by simp [k']))
    have hmirrored : Mirrored R c (g.enrol k) (g.enrol k') :=
      ⟨rfl, halike, k, k', hfound k rfl, hfound k' rfl, hpair howns⟩
    have hr : (g.enrol k).Rooted := (hser.transition (.start hf ‹_› howns)).toRooted
    have hr' : (g.enrol k').Rooted := (hser.transition (course_of_act? hact).transition).toRooted
    exact ⟨_, hs', hmirrored.release hR hr hr', hg.step hs, hg.step hs'⟩
  | around _ hn => cases hn

/-- Where a run goes on with a call, one goes on alike with another in its place. -/
theorem Reachable.mirrored_run {handle handle' : Handle} {task task' : Task} {seen seen' : Nat}
    {rest : List Action} (hg : g.Reachable) (hR : KeepsPace R c) (hh : handle' ∈ g.handles)
    (ho : task'.concernsTracker = true → handle'.ownsTracker = true)
    (hv : seen' ≤ g.channel.version)
    (hpair : (task.concernsTracker = true → handle.ownsTracker = true) →
      R ⟨c, task, handle, seen, .created⟩ ⟨c, task', handle', seen', .created⟩)
    (hr : g.run? (.start c handle task seen :: rest) = some g₁) :
    ∃ g₁', g.run? (.start c handle' task' seen' :: rest) = some g₁' ∧ Mirrored.Sound R c g₁ g₁' := by
  obtain ⟨g₂, hs, hr⟩ := Option.bind_eq_some_iff.1 hr
  obtain ⟨g₂', hs', h⟩ := hg.mirrored_start hR hh ho hv hpair hs
  obtain ⟨g₁', hr', h₁⟩ := h.run? hR hr
  exact ⟨g₁', by rw [Gateway.run?, hs', Option.bind_some, hr'], h₁⟩

end LeaderRouting.Gateway
