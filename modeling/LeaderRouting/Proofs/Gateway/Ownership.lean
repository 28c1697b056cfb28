import LeaderRouting.Proofs.Gateway.Transition

/-!
Who keeps the tracker.  A call that concerns the tracker keeps it until it ends, so nothing is ever
published or changed by a tracker that is gone.
-/

namespace LeaderRouting.Gateway

structure Rooted (g : Gateway) : Prop where
  ids : (g.calls.map (·.id)).Nodup
  owned : ∀ k ∈ g.calls, k.task.concernsTracker = true → k.owner.ownsTracker = true
  kept : g.trackerHeld = true → g.channel.abandoned = false

variable {g g₁ g' : Gateway} {a : Action} {c d : CallId} {k : Call}

/-! ### Whole turns -/

/-- The state after the holder of the lock has ended. -/
def depart (g : Gateway) (c : CallId) (a : Answer) : Gateway :=
  { g with lock := g.lock.release }.finish c a

theorem concludeUpdate_eq (g : Gateway) (k : Call) (r : Except TransportError Verdict) :
    g.concludeUpdate k r = g.depart k.id (k.task.outcome r) := by
  unfold concludeUpdate depart Task.outcome
  dsimp only
  split <;> simp only [*]

theorem turn_concludeUpdate (h : Turn k.id g g₁) (r : Except TransportError Verdict) :
    UpToAnswer k.id (Turn k.id g) (g₁.concludeUpdate k r) := by
  rw [concludeUpdate_eq]
  exact .inr ⟨_, _, h.trans (turn_setLock _), rfl⟩

theorem turn_consider (h : Turn k.id g g₁) (env : Surroundings) (l : Leader) :
    UpToAnswer k.id (Turn k.id g) (g₁.consider env k l) := by
  unfold consider
  split
  · exact turn_concludeUpdate (h.trans (turn_log _)) _
  · exact turn_concludeUpdate (h.trans (turn_log _)) _
  · exact turn_concludeUpdate ((h.trans (turn_log _)).trans (turn_install _)) _
  · exact .inl ((h.trans (turn_log _)).trans (turn_setPhase rfl))

theorem turn_shutDown (h : Turn k.id g g₁) : UpToAnswer k.id (Turn k.id g) (g₁.shutDown k) := by
  unfold shutDown
  split_ifs
  · exact turn_concludeUpdate h _
  · exact turn_concludeUpdate ((((h.trans (turn_setWriter _)).trans (turn_publish _)).trans
      (turn_closePrevious _)).trans (turn_log _)) _

theorem turn_completeOpen (env : Surroundings) (l : Leader) :
    UpToAnswer k.id (Turn k.id g) (g.completeOpen env k l) := by
  unfold completeOpen
  dsimp only
  split
  · exact turn_concludeUpdate
      ((turn_enter (f := .refused k.id l.member _) rfl).trans (turn_log _)) _
  · have hopened := (turn_setConnections (c := k.id) (g := g)
      (g.connections ++ [⟨l.member, false, false, 0⟩])).trans
      (turn_enter (f := .opened k.id g.connections.length l.member) rfl)
    exact turn_concludeUpdate (((hopened.trans (turn_log _)).trans (turn_install _)).trans
      (turn_closePrevious _)) _

theorem turn_request (h : g.call? c = some k) (line : Option LogLine) (u : Update) :
    Turn c g ((g.logIfAny line).requestLock k u) := by
  obtain rfl := id_of_call? h
  exact ((aside_logIfAny line).toTurn.trans (turn_setLock _)).trans (turn_setPhase rfl)

/-- Whatever a call does, it is a turn of that call. -/
theorem turn_proceed (env : Surroundings) (hk : g.call? c = some k) (hr : g.canRun k = true) :
    UpToAnswer c (Turn c g) (g.proceed env k) := by
  obtain rfl := id_of_call? hk
  have haside : k.phase.contends = false → (k.phase = .created → k.task.update? = none) →
      UpToAnswer k.id (Turn k.id g) (g.proceed env k) := fun hf hb =>
    (aside_proceed env hf hb).mono fun _ h => h.toTurn
  cases hp : k.phase with
  | created =>
    cases hu : k.task.update? with
    | none => exact haside (by rw [hp]; rfl) fun _ => hu
    | some u =>
      obtain ⟨line, he⟩ := exists_begin_eq (g := g) hu
      have he : g.proceed env k = (g.logIfAny line).requestLock k u := by
        unfold proceed
        rw [hp]
        exact he
      exact he ▸ .inl (turn_request hk line u)
  | queued u =>
    have hlocked : Turn k.id g (g.enter (.locked k.id)) := turn_enter (f := .locked k.id) rfl
    unfold proceed
    rw [hp]
    cases u with
    | elect l => exact turn_consider hlocked env l
    | shutdown => exact turn_shutDown hlocked
  | opening l openedAt =>
    unfold proceed
    rw [hp]
    exact turn_completeOpen env l
  | finished a => simp [canRun, hp] at hr
  | abandoned => simp [canRun, hp] at hr
  | _ => exact haside (by rw [hp]; rfl) (by simp [hp])

/-- What a step is to everybody but the call whose step it is: a new call, a change of handles, a call
that is given up, or a turn. -/
inductive Outline (g : Gateway) : Gateway → Prop
  | start {k : Call} (fresh : g.call? k.id = none) (created : k.phase = .created)
      (kept : k.owner ∈ g.handles)
      (owned : k.task.concernsTracker = true → k.owner.ownsTracker = true) :
      Outline g (g.enrol k)
  | around {handles : List Handle} {held : List (String × Snapshot)} {now : Nat}
      (origin : ∀ h' ∈ handles, ∃ h ∈ g.handles, h'.ownsTracker = true → h.ownsTracker = true) :
      Outline g { g with handles, held, now }
  | abandon {c : CallId} {k : Call} (found : g.call? c = some k) (unended : k.phase.ended = false) :
      Outline g (g.giveUp c)
  | turn {c : CallId} {k : Call} {g' : Gateway} (found : g.call? c = some k)
      (unended : k.phase.ended = false) (turn : UpToAnswer c (Turn c g) g') : Outline g g'

theorem outline_of_transition (h : Transition g g') : Outline g g' := by
  cases h with
  | @start c handle task seen hf hh ho =>
    exact .start (k := Call.mk c task handle seen .created) hf rfl hh ho
  | around ho => exact .around ho
  | abandon hk hw => exact .abandon hk (Phase.ended_of_isWaiting hw)
  | aside env hk hf hu hb =>
    obtain rfl := id_of_call? hk
    exact .turn hk hu ((aside_proceed env hf hb).mono fun _ h => h.toTurn)
  | request hk hp _ => exact .turn hk (by rw [hp]; rfl) (.inl (turn_request hk _ _))
  | @consider c k l env hk hp _ =>
    obtain rfl := id_of_call? hk
    exact .turn hk (by rw [hp]; rfl) (turn_consider (turn_enter (f := .locked k.id) rfl) env _)
  | @shutDown c k hk hp _ =>
    obtain rfl := id_of_call? hk
    exact .turn hk (by rw [hp]; rfl) (turn_shutDown (turn_enter (f := .locked k.id) rfl))
  | completeOpen env hk hp =>
    obtain rfl := id_of_call? hk
    exact .turn hk (by rw [hp]; rfl) (turn_completeOpen env _)

/-! ### The answer at the end of a turn -/

theorem journal_finish (g : Gateway) (c : CallId) (a : Answer) :
    (g.finish c a).journal = g.journal ++
      (a.line?.map fun line => ⟨g.now, .logged line⟩).toList ++ [⟨g.now, .answered c a⟩] := by
  unfold finish logIfAny
  cases a.line? <;> simp [enter, setPhase, log]

theorem call?_finish (g : Gateway) (c d : CallId) (a : Answer) :
    (g.finish c a).call? d =
      if d = c then (g.call? d).map ({ · with phase := .finished a }) else g.call? d := by
  have h : (g.finish c a).call? d = ((g.logIfAny a.line?).setPhase c (.finished a)).call? d := rfl
  rw [h, call?_setPhase]
  unfold logIfAny
  cases a.line? <;> rfl

theorem roles_finish (g : Gateway) (c : CallId) (a : Answer) :
    (g.finish c a).calls.map Call.role = g.calls.map Call.role := by
  have h : (g.finish c a).calls = ((g.logIfAny a.line?).setPhase c (.finished a)).calls := rfl
  rw [h, role_setPhase]
  unfold logIfAny
  cases a.line? <;> rfl

@[simp] theorem lock_finish (g : Gateway) (c : CallId) (a : Answer) :
    (g.finish c a).lock = g.lock := by
  unfold finish logIfAny
  cases a.line? <;> rfl

@[simp] theorem writer_finish (g : Gateway) (c : CallId) (a : Answer) :
    (g.finish c a).writer = g.writer := by
  unfold finish logIfAny
  cases a.line? <;> rfl

@[simp] theorem channel_finish (g : Gateway) (c : CallId) (a : Answer) :
    (g.finish c a).channel = g.channel := by
  unfold finish logIfAny
  cases a.line? <;> rfl

@[simp] theorem handles_finish (g : Gateway) (c : CallId) (a : Answer) :
    (g.finish c a).handles = g.handles := by
  unfold finish logIfAny
  cases a.line? <;> rfl

@[simp] theorem held_finish (g : Gateway) (c : CallId) (a : Answer) : (g.finish c a).held = g.held := by
  unfold finish logIfAny
  cases a.line? <;> rfl

@[simp] theorem settings_finish (g : Gateway) (c : CallId) (a : Answer) :
    (g.finish c a).settings = g.settings := by
  unfold finish logIfAny
  cases a.line? <;> rfl

@[simp] theorem now_finish (g : Gateway) (c : CallId) (a : Answer) :
    (g.finish c a).now = g.now := by
  unfold finish logIfAny
  cases a.line? <;> rfl

/-- A call other than the one that has its turn is as before, or was woken. -/
theorem UpToAnswer.others (h : UpToAnswer c (Turn c g) g') (hd : d ≠ c) :
    g'.call? d = g.call? d ∨ g'.call? d = (g.call? d).map Call.wake := by
  rcases h with h | ⟨g₁, a, h, rfl⟩
  · exact h.others d hd
  · rw [call?_finish, if_neg hd]
    exact h.others d hd

theorem UpToAnswer.roles (h : UpToAnswer c (Turn c g) g') :
    g'.calls.map Call.role = g.calls.map Call.role := by
  rcases h with h | ⟨g₁, a, h, rfl⟩
  · exact h.roles
  · rw [roles_finish, h.roles]

/-- A turn loses no call and leaves each its task. -/
theorem UpToAnswer.exists_call? (h : UpToAnswer c (Turn c g) g') (hk : g.call? d = some k) :
    ∃ k', g'.call? d = some k' ∧ k'.task = k.task := by
  have hrole := role_call? h.roles d
  rw [hk] at hrole
  obtain ⟨k', hk', hrole⟩ := Option.map_eq_some_iff.1 hrole
  simp only [Call.role, Prod.mk.injEq] at hrole
  exact ⟨k', hk', hrole.2.1⟩

/-- Calls stay, and so do their tasks. -/
theorem Course.exists_call? (h : Course g a g₁) (hk : g.call? c = some k) :
    ∃ k₁, g₁.call? c = some k₁ ∧ k₁.task = k.task := by
  cases h with
  | start => exact ⟨k, by rw [call?_enrol, hk, Option.some_or], rfl⟩
  | @abandon d =>
    rw [call?_giveUp, hk]
    split_ifs
    · exact ⟨_, rfl, rfl⟩
    · exact ⟨k, rfl, rfl⟩
  | run hk' hr => exact (turn_proceed _ hk' hr).exists_call? hk
  | around => exact ⟨k, hk, rfl⟩
  | advance => exact ⟨k, hk, rfl⟩

/-- A call that did not act is as it was, or was woken. -/
theorem Course.call?_of_ne (h : Course g a g₁) (ha : a.caller? ≠ some c) (hk : g.call? c = some k) :
    g₁.call? c = some k ∨ g₁.call? c = some k.wake := by
  cases h with
  | start => exact .inl (by rw [call?_enrol, hk, Option.some_or])
  | @abandon d =>
    have hd : c ≠ d := fun hd => ha (congrArg some hd.symm)
    exact .inl (by rw [call?_giveUp, if_neg hd, hk])
  | @run d _ env hk' hr =>
    have hd : c ≠ d := fun hd => ha (congrArg some hd.symm)
    have hothers := (turn_proceed env hk' hr).others hd
    rwa [hk] at hothers
  | around => exact .inl hk
  | advance => exact .inl hk

/-- No call comes but the one that is started. -/
theorem Course.call?_eq_none (h : Course g a g₁) (hn : g.call? c = none) (ha : a.caller? ≠ some c) :
    g₁.call? c = none := by
  cases h with
  | @start d =>
    have hd : d ≠ c := fun hd => ha (congrArg some hd)
    rw [call?_enrol, hn, Option.none_or, if_neg hd]
  | abandon =>
    rw [call?_giveUp, hn]
    split_ifs <;> rfl
  | @run _ _ env hk hr =>
    have hrole := role_call? (turn_proceed env hk hr).roles c
    rwa [hn, Option.map_none, Option.map_eq_none_iff] at hrole
  | around => exact hn
  | advance => exact hn

theorem UpToAnswer.task (h : UpToAnswer c (Turn c g) g') (hk : g.call? d = some k) {k' : Call}
    (hk' : g'.call? d = some k') : k'.task = k.task := by
  obtain ⟨k₁, hk₁, htask⟩ := h.exists_call? hk
  obtain rfl := Option.some.inj (hk₁.symm.trans hk')
  exact htask

theorem UpToAnswer.settings (h : UpToAnswer c (Turn c g) g') : g'.settings = g.settings := by
  rcases h with h | ⟨g₁, a, h, rfl⟩
  · exact h.settings
  · rw [settings_finish, h.settings]

theorem UpToAnswer.now (h : UpToAnswer c (Turn c g) g') : g'.now = g.now := by
  rcases h with h | ⟨g₁, a, h, rfl⟩
  · exact h.now
  · rw [now_finish, h.now]

theorem UpToAnswer.handles (h : UpToAnswer c (Turn c g) g') : g'.handles = g.handles := by
  rcases h with h | ⟨g₁, a, h, rfl⟩
  · exact h.handles
  · rw [handles_finish, h.handles]

theorem UpToAnswer.held (h : UpToAnswer c (Turn c g) g') : g'.held = g.held := by
  rcases h with h | ⟨g₁, a, h, rfl⟩
  · exact h.held
  · rw [held_finish, h.held]

theorem UpToAnswer.abandoned (h : UpToAnswer c (Turn c g) g') :
    g'.channel.abandoned = g.channel.abandoned := by
  rcases h with h | ⟨g₁, a, h, rfl⟩
  · exact h.abandoned
  · rw [channel_finish, h.abandoned]

/-! ### Keeping the tracker -/

theorem ids_eq_of_roles (h : g'.calls.map Call.role = g.calls.map Call.role) :
    g'.calls.map (·.id) = g.calls.map (·.id) := by
  have hr := congrArg (List.map Prod.fst) h
  rw [List.map_map, List.map_map] at hr
  exact hr

theorem owned_of_roles (h : g'.calls.map Call.role = g.calls.map Call.role)
    (ho : ∀ k ∈ g.calls, k.task.concernsTracker = true → k.owner.ownsTracker = true) :
    ∀ k ∈ g'.calls, k.task.concernsTracker = true → k.owner.ownsTracker = true := by
  intro k hk ht
  have hm : k.role ∈ g.calls.map Call.role := h ▸ List.mem_map_of_mem hk
  obtain ⟨k₀, hk₀, hr⟩ := List.mem_map.1 hm
  simp only [Call.role, Prod.mk.injEq] at hr
  rw [← hr.2.2]
  exact ho k₀ hk₀ (by rw [hr.2.1]; exact ht)

/-- Whether a handle of some kind is left, or a call on one that has not ended. -/
def isKept (g : Gateway) (kind : Handle → Bool) : Bool :=
  g.handles.any kind || g.calls.any fun k => !k.phase.ended && kind k.owner

/-- Whether a handle of some kind is left, or one of some calls, on such a handle, has not ended. -/
def IsKeptBy (g : Gateway) (kind : Handle → Bool) (among : CallId → Prop) : Prop :=
  g.handles.any kind = true ∨
    ∃ c k, among c ∧ g.call? c = some k ∧ k.phase.ended = false ∧ kind k.owner = true

/-- Whether a handle is of the kind if one is that was made from it. -/
def IsInherited (kind : Handle → Bool) : Prop :=
  ∀ h h' : Handle, (h'.ownsTracker = true → h.ownsTracker = true) → kind h' = true → kind h = true

theorem trackerHeld_eq (g : Gateway) : g.trackerHeld = g.isKept Handle.ownsTracker :=
  rfl

theorem channelHeld_eq (g : Gateway) : g.channelHeld = g.isKept fun _ => true := by
  unfold channelHeld isKept
  cases g.handles <;> simp

theorem isKept_iff {kind : Handle → Bool} (hn : (g.calls.map (·.id)).Nodup) :
    g.isKept kind = true ↔ g.IsKeptBy kind fun _ => True := by
  unfold isKept
  rw [Bool.or_eq_true]
  refine or_congr_right ⟨fun h => ?_, fun ⟨c, k, _, hk, hu, ho⟩ => ?_⟩
  · obtain ⟨k, hk, hp⟩ := List.any_eq_true.1 h
    exact ⟨k.id, k, trivial, call?_of_mem hn hk, by simpa using hp⟩
  · exact List.any_eq_true.2 ⟨k, mem_of_call? hk, by simp [hu, ho]⟩

/-- No step brings back what nothing keeps. -/
theorem IsKeptBy.of_outline {kind : Handle → Bool} {among : CallId → Prop} (hi : IsInherited kind)
    (h : Outline g g') (ht : g'.IsKeptBy kind among) : g.IsKeptBy kind among := by
  cases h with
  | @start k hf hp hk ho =>
    rcases ht with ht | ⟨d, k', hd, hk', hu, ho'⟩
    · exact .inl ht
    · rw [call?_enrol, Option.or_eq_some_iff] at hk'
      rcases hk' with hk' | ⟨-, hk'⟩
      · exact .inr ⟨d, k', hd, hk', hu, ho'⟩
      · split_ifs at hk'
        obtain rfl := Option.some.inj hk'
        exact .inl (List.any_eq_true.2 ⟨_, hk, ho'⟩)
  | around ho =>
    rcases ht with ht | ht
    · obtain ⟨h', hh', ht'⟩ := List.any_eq_true.1 ht
      obtain ⟨h, hh, hs⟩ := ho h' hh'
      exact .inl (List.any_eq_true.2 ⟨h, hh, hi h h' hs ht'⟩)
    · exact .inr ht
  | @abandon c k hk hu =>
    rcases ht with ht | ⟨d, k', hd, hk', hu', ho'⟩
    · exact .inl ht
    · rw [call?_giveUp] at hk'
      split_ifs at hk' with hd'
      · obtain ⟨k₀, -, rfl⟩ := Option.map_eq_some_iff.1 hk'
        simp [Phase.ended] at hu'
      · exact .inr ⟨d, k', hd, hk', hu', ho'⟩
  | @turn c k _ hk hu h =>
    rcases ht with ht | ⟨d, k', hd, hk', hu', ho'⟩
    · exact .inl (h.handles ▸ ht)
    · obtain ⟨k₀, hk₀, he⟩ := exists_call?_of_roles h.roles hk'
      have ho : kind k₀.owner = true := by
        simp only [Call.role, Prod.mk.injEq] at he
        rw [he.2.2]
        exact ho'
      by_cases hd' : d = c
      · subst hd'
        obtain rfl := Option.some.inj (hk.symm.trans hk₀)
        exact .inr ⟨d, k, hd, hk, hu, ho⟩
      · -- Waking a call does not end it.
        refine .inr ⟨d, k₀, hd, hk₀, ?_, ho⟩
        rcases h.others hd' with he | he <;> rw [hk', hk₀] at he
        · obtain rfl := Option.some.inj he
          exact hu'
        · obtain rfl := Option.some.inj he
          simpa [Call.wake] using hu'

theorem isKept_of_outline {kind : Handle → Bool} (hi : IsInherited kind) (hr : g.Rooted)
    (h : Outline g g') (hn : (g'.calls.map (·.id)).Nodup) (ht : g'.isKept kind = true) :
    g.isKept kind = true := by
  rw [isKept_iff hr.ids]
  exact ((isKept_iff hn).1 ht).of_outline hi h

theorem Outline.abandoned (h : Outline g g') : g'.channel.abandoned = g.channel.abandoned := by
  cases h with
  | turn _ _ h => exact h.abandoned
  | _ => rfl

theorem Rooted.outline (hr : g.Rooted) (h : Outline g g') : g'.Rooted := by
  have hids : (g'.calls.map (·.id)).Nodup := by
    cases h with
    | @start k hf hp hk ho =>
      simp only [enrol, enter, List.map_append, List.map_cons, List.map_nil]
      refine List.nodup_append.2 ⟨hr.ids, by simp, ?_⟩
      rintro a ha b hb rfl
      obtain ⟨k', hk', he⟩ := List.mem_map.1 ha
      rw [List.mem_singleton.1 hb] at he
      have hk := call?_of_mem hr.ids hk'
      simp [he, hf] at hk
    | around ho => exact hr.ids
    | abandon hk hu =>
      exact ids_eq_of_roles (roles_giveUp g _) ▸ hr.ids
    | turn hk hu h => exact ids_eq_of_roles h.roles ▸ hr.ids
  refine ⟨hids, ?_, fun ht => ?_⟩
  · cases h with
    | @start k hf hp hk ho =>
      intro k' hk'
      rcases List.mem_append.1 hk' with hk' | hk'
      · exact hr.owned k' hk'
      · obtain rfl := List.mem_singleton.1 hk'
        exact ho
    | around ho => exact hr.owned
    | abandon hk hu => exact owned_of_roles (roles_giveUp g _) hr.owned
    | turn hk hu h => exact owned_of_roles h.roles hr.owned
  · rw [trackerHeld_eq] at ht
    rw [h.abandoned]
    exact hr.kept (isKept_of_outline (fun _ _ => id) hr h hids ht)

/-- Nobody comes to receive what is published unless somebody did before. -/
theorem hasSubscriber_of_outline (hr : g.Rooted) (h : Outline g g')
    (hs : g'.hasSubscriber = true) : g.hasSubscriber = true := by
  unfold hasSubscriber at hs ⊢
  rw [h.abandoned, Bool.or_eq_true] at hs
  rw [Bool.or_eq_true]
  refine hs.imp_right fun hc => ?_
  rw [channelHeld_eq] at hc ⊢
  exact isKept_of_outline (fun _ _ _ _ => rfl) hr h (hr.outline h).ids hc

theorem concernsTracker_of_update? {task : Task} {u : Update} (h : task.update? = some u) :
    task.concernsTracker = true := by
  cases task <;> first | rfl | simp [Task.update?] at h

theorem update?_of_concernsTracker {task : Task} (h : task.concernsTracker = false) :
    task.update? = none := by
  cases task <;> first | rfl | simp [Task.concernsTracker] at h

/-- A call that asks for the lock keeps the tracker. -/
theorem Rooted.abandoned_of_call (hr : g.Rooted) (hk : g.call? c = some k)
    (hu : k.phase.ended = false) {u : Update} (ht : k.task.update? = some u) :
    g.channel.abandoned = false :=
  hr.kept ((isKept_iff hr.ids).2
    (.inr ⟨c, k, trivial, hk, hu, hr.owned k (mem_of_call? hk) (concernsTracker_of_update? ht)⟩))

end LeaderRouting.Gateway
