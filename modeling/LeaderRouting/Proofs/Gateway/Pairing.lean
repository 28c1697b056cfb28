import LeaderRouting.Proofs.Gateway.Alike
import LeaderRouting.Proofs.Tracker.Linearizability

/-!
Steps taken in two states that look alike.  A step of a call that is left out does not show, and any
other step shows the same in both, as long as the tracker lives and the step does not end a request
for its closed connection in one of them only.
-/

namespace LeaderRouting.Gateway

/-- Whether something else keeps the tracker than calls that are left out. -/
def IsSpared (hidden : CallId → Bool) (g : Gateway) : Prop :=
  g.IsKeptBy Handle.ownsTracker fun c => hidden c = false

/-- Whether the next step of a call is to notice that its connection was closed for another leader. -/
def isCut (g : Gateway) (env : Surroundings) (k : Call) : Bool :=
  match k.phase with
  | .sending s =>
    match g.connection? s.connection with
    | none => false
    | some x => x.closed && (g.settings.cancelInFlightOnSwap && x.retired && env.closedFirst)
  | .inFlight f => g.isSuperseded f &&
      (env.closedFirst || !(g.isDue f.repliedAt || g.isDue (some f.deadline)))
  | _ => false

variable {hidden : CallId → Bool} {g g' g₁ : Gateway} {a : Action} {c : CallId} {k : Call}
  {env : Surroundings}

/-! ### Steps that do not show -/

theorem isSeen_of_duringTurn {f : Fact} (hc : hidden c = true) (hf : f.DuringTurnOf c)
    (ht : f.ofTracker = false) : f.isSeen hidden = false := by
  cases f <;> simp_all [Fact.DuringTurnOf, Fact.ofTracker, Fact.isSeen, Fact.caller?]

theorem alike_aside (hc : hidden c = true) (h : Aside c g g₁) : Alike hidden g g₁ where
  submitTimeout := by rw [h.settings]
  leaderWaitTimeout := by rw [h.settings]
  now := h.now
  writer := h.writer
  lock := h.lock
  channel := h.channel
  connections := h.connections
  handles := h.handles
  held := h.held
  calls := by rw [filter_of_hidden hc, filter_of_hidden hc g.calls, h.rest]
  journal := by
    obtain ⟨news, hn, ht⟩ := h.journal
    obtain ⟨news', hn', ht'⟩ := h.facts
    obtain rfl : news' = news.map (·.fact) := by
      have he : g₁.facts = g.facts ++ news.map (·.fact) := by
        unfold facts
        rw [hn, List.map_append]
      exact (List.append_cancel_left (he.symm.trans hn')).symm
    rw [hn, List.filter_append, List.append_right_eq_self, List.filter_eq_nil_iff]
    intro e he
    have hf := ht' e.fact (List.mem_map_of_mem he)
    simp [isSeen_of_duringTurn hc hf.1 hf.2]

/-- A turn that stays aside does not show where its call is left out. -/
theorem UpToAnswer.alike (hc : hidden c = true) (h : UpToAnswer c (Aside c g) g₁) :
    Alike hidden g g₁ := by
  rcases h with h | ⟨g₂, answer, h, rfl⟩
  · exact alike_aside hc h
  · exact (alike_aside hc h).trans (alike_finish hc answer)

theorem alike_enrol (hc : hidden k.id = true) : Alike hidden g (g.enrol k) := by
  have hsame : Alike hidden g g := .refl g
  exact { hsame with
    calls := by simp [enrol, enter, hc]
    journal := by simp [enrol, enter, Fact.isSeen, Fact.ofTracker, Fact.caller?, hc] }

/-- To give up a call that does not stand in line for the lock does not show where it is left out. -/
theorem alike_giveUp (hc : hidden c = true) (hl : c ∉ g.lock.queue) :
    Alike hidden g (g.giveUp c) := by
  have hsame : Alike hidden g g := .refl g
  exact { hsame with
    lock := Lock.withdraw_eq_self hl
    calls := by
      have hphase := filter_ne_setPhase { g with lock := g.lock.withdraw c } c .abandoned
      rw [filter_of_hidden hc, filter_of_hidden hc g.calls]
      exact congrArg _ hphase
    journal := by simp [giveUp, enter, setPhase, Fact.isSeen, Fact.ofTracker, Fact.caller?, hc] }

/-- Whatever a call does that does not concern the tracker, and whatever is done to it, does not show
where it is left out. -/
theorem Course.alike (hd : g.Disciplined) (h : Course g a g₁) (ha : a.caller? = some c)
    (hc : hidden c = true)
    (ht : ∀ k, g₁.call? c = some k → k.task.concernsTracker = false) : Alike hidden g g₁ := by
  cases h with
  | start =>
    obtain rfl := Option.some.inj ha
    exact alike_enrol hc
  | @run d k env hk hr =>
    obtain rfl := Option.some.inj ha
    obtain ⟨k₁, hk₁, htask⟩ := (turn_proceed env hk hr).exists_call? hk
    have hfree := htask ▸ ht k₁ hk₁
    obtain rfl := id_of_call? hk
    exact (aside_proceed env (hd.free hk hfree)
      fun _ => update?_of_concernsTracker hfree).alike hc
  | @abandon d k hk hw =>
    obtain rfl := Option.some.inj ha
    refine alike_giveUp hc ?_
    have hfree := ht { k with phase := .abandoned } (by rw [call?_giveUp, if_pos rfl, hk]; rfl)
    rw [hd.mem_line]
    simp [standing?_of_call? hk, hd.free hk hfree, Phase.contends_standing]
  | around _ hn => simp [hn] at ha
  | advance => simp [Action.caller?] at ha

/-! ### Steps taken in both -/

namespace Alike

theorem isDue (h : Alike hidden g g') (time : Option Nat) : g'.isDue time = g.isDue time := by
  unfold Gateway.isDue
  rw [h.now]

/-- Where requests are cancelled with their connection in both, or in neither, the same ones are. -/
theorem isCut (h : Alike hidden g g') (hs : g'.settings = g.settings) (env : Surroundings)
    (k : Call) : g'.isCut env k = g.isCut env k := by
  unfold Gateway.isCut Gateway.isSuperseded connection?
  simp only [h.connections, h.isRetired, h.isDue, hs]

theorem canRun_of_settings (h : Alike hidden g g') (hs : g'.settings = g.settings) (k : Call) :
    g'.canRun k = g.canRun k := by
  unfold Gateway.canRun Gateway.isSuperseded
  simp only [h.isDue, h.isRetired, h.lock, hs]

theorem canRun (h : Alike hidden g g') (hcut : g'.isCut env k = g.isCut env k) :
    g'.canRun k = g.canRun k := by
  unfold Gateway.canRun
  unfold Gateway.isCut at hcut
  split
  · rfl
  · rfl
  · rfl
  · rfl
  · rfl
  · rw [h.lock]
  · exact h.isDue _
  · rw [h.isDue]
  next f hp =>
    simp only [hp, h.isDue] at hcut ⊢
    -- A request whose moment has not come goes on just if it is cut.
    cases hdue : g.isDue f.repliedAt || g.isDue (some f.deadline) with
    | true => simp
    | false => simpa [hdue] using hcut
  · rfl
  · rfl

theorem send {s : Snapshot} (h : Alike hidden g g') (hp : k.phase = .sending s)
    (hcut : g'.isCut env k = g.isCut env k) (sub : Submission) :
    Alike hidden (g.send env k s sub) (g'.send env k s sub) := by
  have hlogged := h.log (.requestSent sub.operation env.requestId s.leader)
    (.requestSent sub.operation env.requestId s.leader)
  have hconnection : ∀ line, (g'.log line).connection? s.connection = g.connection? s.connection := by
    intro line
    unfold Gateway.log Gateway.enter connection?
    rw [h.connections]
  have hconnection' : ∀ line, (g.log line).connection? s.connection = g.connection? s.connection :=
    fun _ => rfl
  unfold Gateway.isCut connection? at hcut
  rw [h.connections] at hcut
  unfold Gateway.send
  simp only [hp, hconnection, hconnection'] at hcut ⊢
  unfold connection?
  cases hx : g.connections[s.connection]? with
  | none => exact hlogged.conclude k s _ _
  | some x =>
    simp only [hx] at hcut ⊢
    cases hc : x.closed with
    | false =>
      simp only [Bool.false_eq_true, ↓reduceIte]
      exact hlogged.letIn k _
    | true =>
      have hsettings : ∀ (g : Gateway) line, (g.log line).settings = g.settings := fun _ _ => rfl
      simp only [hc, Bool.true_and] at hcut
      simp only [↓reduceIte, hsettings, hcut]
      split_ifs
      · exact hlogged.supersede k s _
      · exact hlogged.conclude k s _ _

theorem land {f : InFlight} (h : Alike hidden g g') (hp : k.phase = .inFlight f)
    (hcut : g'.isCut env k = g.isCut env k) :
    Alike hidden (g.land env k f) (g'.land env k f) := by
  unfold Gateway.isCut at hcut
  unfold Gateway.land
  simp only [hp, h.isDue] at hcut ⊢
  rw [hcut]
  split_ifs
  · exact h.supersede k _ _
  · exact (h.enter _).conclude k _ _ _
  · rw [h.submitTimeout]
    exact (h.log _ _).fail k _

/-- Whatever a call does next, it does in both, unless its request is cut in one of them only. -/
theorem proceed (h : Alike hidden g g')
    (ha : k.phase.contends = true → g.channel.abandoned = false)
    (hcut : g'.isCut env k = g.isCut env k) :
    Alike hidden (g.proceed env k) (g'.proceed env k) := by
  unfold Gateway.proceed
  split
  · exact h.begin k
  next hp =>
    have hlives : g.channel.abandoned = false := ha (by rw [hp]; rfl)
    cases ‹Update› with
    | elect l => exact (h.enter _).consider hlives env rfl (.inr rfl) l
    | shutdown => exact (h.enter _).shutDown hlives k
  next hp => exact h.completeOpen (ha (by rw [hp]; rfl)) env rfl (.inr rfl) _
  · exact h.look k _
  · exact h.check k _
  · exact h.wakeUp k _ _
  next hp =>
    split
    · exact h
    · exact h.send hp hcut _
  · exact h.handOver env k _
  next hp => exact h.land hp hcut
  · exact h
  · exact h

theorem enrol (h : Alike hidden g g') (k : Call) : Alike hidden (g.enrol k) (g'.enrol k) := by
  have hcalls : Alike hidden { g with calls := g.calls ++ [k] } { g' with calls := g'.calls ++ [k] } :=
    { h with calls := by rw [List.filter_append, List.filter_append, h.calls] }
  exact hcalls.enter (.started k.id)

/-- Every action but the passing of time is possible in both or in neither, unless it is by a call
that is left out or one whose request is cut in one of them only. -/
theorem act? (h : Alike hidden g g')
    (ha : ∀ c k, g.call? c = some k → k.phase.contends = true → g.channel.abandoned = false)
    (hv : a.caller?.any hidden = false)
    (hcut : ∀ c env k, a = .run c env → g.call? c = some k → g'.isCut env k = g.isCut env k)
    (ht : ∀ time, a ≠ .advance time) : Option.Rel (Alike hidden) (g.act? a) (g'.act? a) := by
  have hcall : ∀ c, a.caller? = some c → g'.call? c = g.call? c :=
    fun c hc => h.call? (by simpa [hc] using hv)
  cases a with
  | start c handle task seen =>
    have hpossible : (g'.handles.contains handle && (handle.ownsTracker || !task.concernsTracker)
        && (g'.call? c).isNone && decide (seen ≤ g'.channel.version)) =
        (g.handles.contains handle && (handle.ownsTracker || !task.concernsTracker)
        && (g.call? c).isNone && decide (seen ≤ g.channel.version)) := by
      rw [h.handles, hcall c rfl, h.channel]
    simp only [Gateway.act?, start?, hpossible]
    split_ifs
    · exact .some (h.enrol ⟨c, task, handle, seen, .created⟩)
    · exact .none
  | run c env =>
    simp only [Gateway.act?, runCall?, hcall c rfl]
    cases hk : g.call? c with
    | none => exact .none
    | some k =>
      have hcut := hcut c env k rfl hk
      simp only [h.canRun hcut]
      split_ifs
      · exact .some (h.proceed (ha c k hk) hcut)
      · exact .none
  | abandon c =>
    simp only [Gateway.act?, abandon?, hcall c rfl, h.lock]
    cases hk : g.call? c with
    | none => exact .none
    | some k =>
      dsimp only
      split_ifs
      · exact .some (((h.setLock _).setPhase c _).enter _)
      · exact .none
  | share source target =>
    simp only [Gateway.act?, share?, h.handles]
    split_ifs
    · exact .some { h with handles := rfl }
    · exact .none
  | drop handle =>
    simp only [Gateway.act?, drop?, h.handles]
    split_ifs
    · exact .some { h with handles := rfl }
    · exact .none
  | hold name =>
    have hvalue : g'.channel.value = g.channel.value := by rw [h.channel]
    have hpossible : g'.handles.contains .subscriber = g.handles.contains .subscriber := by
      rw [h.handles]
    simp only [Gateway.act?, hold?, hpossible, hvalue]
    split
    · split_ifs
      · exact .some { h with held := by rw [h.held] }
      · exact .none
    · exact .none
  | letGo name => exact .some { h with held := by rw [h.held] }
  | advance time => exact absurd rfl (ht time)

end Alike

/-! ### While the tracker is kept -/

theorem IsSpared.isKept (h : g.IsSpared hidden) (hr : g.Rooted) :
    g.isKept Handle.ownsTracker = true := by
  rw [isKept_iff hr.ids]
  exact h.imp_right fun ⟨c, k, _, hk⟩ => ⟨c, k, trivial, hk⟩

theorem IsSpared.mono {hidden' : CallId → Bool} (h : g.IsSpared hidden')
    (hh : ∀ c, hidden c = true → hidden' c = true) : g.IsSpared hidden := by
  refine h.imp_right fun ⟨c, k, hc, hk⟩ => ⟨c, k, ?_, hk⟩
  exact Bool.eq_false_iff.2 (mt (hh c) (Bool.eq_false_iff.1 hc))

theorem Alike.isSpared (h : Alike hidden g g') (hs : g.IsSpared hidden) : g'.IsSpared hidden := by
  rcases hs with hs | ⟨c, k, hc, hk, hu, ho⟩
  · exact .inl (h.handles ▸ hs)
  · exact .inr ⟨c, k, hc, (h.call? hc).trans hk, hu, ho⟩

/-- Nothing is let go as long as something keeps the tracker. -/
theorem Serialized.release_eq_self (h : g.Serialized) (hk : g.isKept Handle.ownsTracker = true) :
    g.release = g := by
  have htracker : g.releaseTracker = g := by
    unfold releaseTracker
    rw [trackerHeld_eq, hk, Bool.or_true, if_pos rfl]
  have hheard : g.release.hasSubscriber = true := by
    unfold hasSubscriber
    rw [abandoned_release, htracker, h.kept hk]
    rfl
  rw [release_eq_releaseTracker h.onlyCurrentOpen (fun s => (h.elected_iff s).2) hheard, htracker]

/-- What keeps the tracker after a step has kept it before, so that the step lets nothing go. -/
theorem Serialized.spared_step (h : g.Serialized) (hs : g.step? a = some g₁)
    (hk : g₁.IsSpared hidden) : g.IsSpared hidden ∧ g.act? a = some g₁ ∧ Course g a g₁ := by
  obtain ⟨g₂, hact, rfl⟩ := Option.map_eq_some_iff.1 hs
  have hc := course_of_act? hact
  have hser := h.transition hc.transition
  have hkept := hk.isKept hser.release.toRooted
  rw [isKept_release] at hkept
  rw [hser.release_eq_self hkept] at hk ⊢
  exact ⟨hk.of_outline (fun _ _ => id) (outline_of_transition hc.transition), hact, hc⟩

theorem Serialized.spared_run {actions : List Action} (h : g.Serialized)
    (hr : g.run? actions = some g₁) (hk : g₁.IsSpared hidden) : g.IsSpared hidden := by
  induction actions generalizing g with
  | nil => exact Option.some.inj hr ▸ hk
  | cons a rest ih =>
    obtain ⟨g₂, hs, hr⟩ := Option.bind_eq_some_iff.1 hr
    obtain ⟨g₃, hc, rfl⟩ := exists_course_of_step? hs
    exact (h.spared_step hs (ih (h.transition hc.transition).release hr)).1

/-- A step that something survives which keeps the tracker lets nothing go in the other state. -/
theorem Serialized.step?_of_alike {g₁' : Gateway} (h : g'.Serialized) (ha : g'.act? a = some g₁')
    (h₁ : Alike hidden g₁ g₁') (hk : g₁.IsSpared hidden) : g'.step? a = some g₁' := by
  have hser := h.transition (course_of_act? ha).transition
  have hself := hser.release_eq_self ((h₁.isSpared hk).isKept hser.toRooted)
  rw [Gateway.step?, ha, Option.map_some, hself]

end LeaderRouting.Gateway
