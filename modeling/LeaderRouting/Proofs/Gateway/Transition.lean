import LeaderRouting.Proofs.Gateway.Steps

/-! The kinds of steps that a gateway takes, as far as the lock and the tracked leader go. -/

namespace LeaderRouting.Gateway

/-- The state with one more call. -/
def enrol (g : Gateway) (k : Call) : Gateway :=
  { g with calls := g.calls ++ [k] }.enter (.started k.id)

/-- The state after a call was given up. -/
def giveUp (g : Gateway) (c : CallId) : Gateway :=
  ({ g with lock := g.lock.withdraw c }.setPhase c .abandoned).enter (.abandoned c)

/-- The call that an action starts, runs or gives up. -/
def Action.caller? : Action → Option CallId
  | .start c _ _ _ | .run c _ | .abandon c => some c
  | _ => none

/-- The course of one action, before what is no longer kept is let go. -/
inductive Course (g : Gateway) : Action → Gateway → Prop
  | start {c : CallId} {handle : Handle} {task : Task} {seen : Nat} (fresh : g.call? c = none)
      (kept : handle ∈ g.handles)
      (owned : task.concernsTracker = true → handle.ownsTracker = true)
      (recent : seen ≤ g.channel.version) :
      Course g (.start c handle task seen) (g.enrol ⟨c, task, handle, seen, .created⟩)
  | run {c : CallId} {k : Call} {env : Surroundings} (found : g.call? c = some k)
      (able : g.canRun k = true) : Course g (.run c env) (g.proceed env k)
  | abandon {c : CallId} {k : Call} (found : g.call? c = some k)
      (waiting : k.phase.isWaiting = true) : Course g (.abandon c) (g.giveUp c)
  /-- Handles and held snapshots change.  Every handle comes from one that owns the tracker if it
  does. -/
  | around {a : Action} {handles : List Handle} {held : List (String × Snapshot)}
      (origin : ∀ h' ∈ handles, ∃ h ∈ g.handles, h'.ownsTracker = true → h.ownsTracker = true)
      (callerless : a.caller? = none) : Course g a { g with handles, held }
  | advance {time : Nat} (later : g.now < time) (idle : ∀ k ∈ g.calls, g.canRun k = false)
      (quiet : ∀ k ∈ g.calls, isQuietUntil time k = true) :
      Course g (.advance time) { g with now := time }

/-- One step as far as the lock and the tracked leader go, before what is no longer kept is let go. -/
inductive Transition (g : Gateway) : Gateway → Prop
  | start {c : CallId} {handle : Handle} {task : Task} {seen : Nat} (fresh : g.call? c = none)
      (kept : handle ∈ g.handles)
      (owned : task.concernsTracker = true → handle.ownsTracker = true) :
      Transition g (g.enrol ⟨c, task, handle, seen, .created⟩)
  /-- Handles, held snapshots and time change.  Every handle comes from one that owns the tracker if it
  does. -/
  | around {handles : List Handle} {held : List (String × Snapshot)} {now : Nat}
      (origin : ∀ h' ∈ handles, ∃ h ∈ g.handles, h'.ownsTracker = true → h.ownsTracker = true) :
      Transition g { g with handles, held, now }
  | abandon {c : CallId} {k : Call} (found : g.call? c = some k)
      (waiting : k.phase.isWaiting = true) : Transition g (g.giveUp c)
  | aside {c : CallId} {k : Call} (env : Surroundings) (found : g.call? c = some k)
      (free : k.phase.contends = false) (unended : k.phase.ended = false)
      (begins : k.phase = .created → k.task.update? = none) : Transition g (g.proceed env k)
  | request {c : CallId} {k : Call} {u : Update} {line : Option LogLine} (found : g.call? c = some k)
      (phase : k.phase = .created) (update : k.task.update? = some u) :
      Transition g ((g.logIfAny line).requestLock k u)
  | consider {c : CallId} {k : Call} {l : Leader} (env : Surroundings) (found : g.call? c = some k)
      (phase : k.phase = .queued (.elect l)) (holds : g.lock.holder = some c) :
      Transition g ((g.enter (.locked c)).consider env k l)
  | shutDown {c : CallId} {k : Call} (found : g.call? c = some k)
      (phase : k.phase = .queued .shutdown) (holds : g.lock.holder = some c) :
      Transition g ((g.enter (.locked c)).shutDown k)
  | completeOpen {c : CallId} {k : Call} {l : Leader} {openedAt : Option Nat} (env : Surroundings)
      (found : g.call? c = some k) (phase : k.phase = .opening l openedAt) :
      Transition g (g.completeOpen env k l)

variable {g g' : Gateway} {c : CallId} {k : Call} {env : Surroundings} {a : Action}

/-! ### Starting and giving up -/

theorem call?_enrol (g : Gateway) (k : Call) (d : CallId) :
    (g.enrol k).call? d = (g.call? d).or (if k.id = d then some k else none) :=
  call?_append g k d

theorem call?_giveUp (g : Gateway) (c d : CallId) :
    (g.giveUp c).call? d =
      if d = c then (g.call? d).map ({ · with phase := .abandoned }) else g.call? d :=
  call?_setPhase { g with lock := g.lock.withdraw c } c d .abandoned

theorem roles_giveUp (g : Gateway) (c : CallId) :
    (g.giveUp c).calls.map Call.role = g.calls.map Call.role :=
  role_setPhase { g with lock := g.lock.withdraw c } c .abandoned

theorem facts_enter (g : Gateway) (f : Fact) : (g.enter f).facts = g.facts ++ [f] := by
  simp [facts, enter]

theorem facts_enrol (g : Gateway) (k : Call) : (g.enrol k).facts = g.facts ++ [.started k.id] :=
  facts_enter { g with calls := g.calls ++ [k] } _

theorem facts_giveUp (g : Gateway) (c : CallId) : (g.giveUp c).facts = g.facts ++ [.abandoned c] :=
  facts_enter (setPhase { g with lock := g.lock.withdraw c } c .abandoned) _

/-! ### Every step is a transition -/

/-- A call that asks for the lock gets in line before it does anything else. -/
theorem exists_begin_eq {u : Update} (hu : k.task.update? = some u) :
    ∃ line, g.begin k = (g.logIfAny line).requestLock k u := by
  unfold begin
  split
  next notice ht =>
    unfold beginNotice
    rw [ht] at hu
    simp only [Task.update?] at hu
    split at hu
    next l hl =>
      obtain rfl := Option.some.inj hu
      exact ⟨notice.line?, by simp only [hl]⟩
    · simp at hu
  next ht =>
    rw [ht] at hu
    obtain rfl := Option.some.inj hu
    exact ⟨none, rfl⟩
  all_goals simp [*, Task.update?] at hu

theorem transition_begin {u : Update} (hk : g.call? c = some k) (hp : k.phase = .created)
    (hu : k.task.update? = some u) : Transition g (g.begin k) := by
  obtain ⟨line, he⟩ := exists_begin_eq (g := g) hu
  exact he ▸ .request hk hp hu

theorem transition_proceed (hk : g.call? c = some k) (hr : g.canRun k = true) :
    Transition g (g.proceed env k) := by
  obtain rfl := id_of_call? hk
  unfold canRun at hr
  cases hp : k.phase with
  | created =>
    cases hu : k.task.update? with
    | none =>
      exact .aside env hk (by rw [hp]; rfl) (by rw [hp]; rfl) fun _ => hu
    | some u =>
      unfold proceed
      rw [hp]
      exact transition_begin hk hp hu
  | queued u =>
    rw [hp] at hr
    have hl : g.lock.holder = some k.id := by simpa using hr
    unfold proceed
    rw [hp]
    cases u with
    | elect l => exact .consider env hk hp hl
    | shutdown => exact .shutDown hk hp hl
  | opening l openedAt =>
    unfold proceed
    rw [hp]
    exact .completeOpen env hk hp
  | finished a => simp [hp] at hr
  | abandoned => simp [hp] at hr
  | _ =>
    exact .aside env hk (by rw [hp]; rfl) (by rw [hp]; rfl) (by simp [hp])

/-- Time passes just if no call can run and no timer goes off before. -/
theorem advance?_eq_some_iff {time : Nat} : g.advance? time = some g' ↔
    (g.now < time ∧ (∀ k ∈ g.calls, g.canRun k = false) ∧
      ∀ k ∈ g.calls, isQuietUntil time k = true) ∧ { g with now := time } = g' := by
  unfold advance?
  rw [Option.ite_none_right_eq_some]
  simp [and_assoc]

/-- Every action takes one of these courses. -/
theorem course_of_act? (h : g.act? a = some g') : Course g a g' := by
  cases a with
  | start c handle task seen =>
    simp only [act?, start?, Bool.and_eq_true, Bool.or_eq_true, Bool.not_eq_true', decide_eq_true_eq,
      List.contains_iff_mem, Option.isNone_iff_eq_none, Option.ite_none_right_eq_some,
      Option.some.injEq] at h
    obtain ⟨⟨⟨⟨hh, ho⟩, hf⟩, hs⟩, rfl⟩ := h
    refine .start hf hh (fun hc => ?_) hs
    exact ho.resolve_right (by simp [hc])
  | run c env =>
    simp only [act?, runCall?] at h
    split at h
    · simp at h
    next k hk =>
      simp only [Option.ite_none_right_eq_some, Option.some.injEq] at h
      obtain ⟨hr, rfl⟩ := h
      exact .run hk hr
  | abandon c =>
    simp only [act?, abandon?] at h
    split at h
    · simp at h
    next k hk =>
      simp only [Option.ite_none_right_eq_some, Option.some.injEq] at h
      obtain ⟨hw, rfl⟩ := h
      exact .abandon hk hw
  | share source target =>
    simp only [act?, share?, Bool.and_eq_true, Bool.or_eq_true, Bool.not_eq_true',
      List.contains_iff_mem, Option.ite_none_right_eq_some, Option.some.injEq] at h
    obtain ⟨⟨hs, ho⟩, rfl⟩ := h
    refine .around (fun h' hh => ?_) rfl
    rcases List.mem_append.1 hh with hh | hh
    · exact ⟨h', hh, id⟩
    · obtain rfl := List.mem_singleton.1 hh
      exact ⟨source, hs, fun ht => ho.resolve_right (by simp [ht])⟩
  | drop handle =>
    simp only [act?, drop?, List.contains_iff_mem, Option.ite_none_right_eq_some,
      Option.some.injEq] at h
    obtain ⟨-, rfl⟩ := h
    exact .around (fun h' hh => ⟨h', List.mem_of_mem_erase hh, id⟩) rfl
  | hold name =>
    simp only [act?, hold?] at h
    split at h
    · simp only [Option.ite_none_right_eq_some, Option.some.injEq] at h
      obtain ⟨-, rfl⟩ := h
      exact .around (fun h' hh => ⟨h', hh, id⟩) rfl
    · simp at h
  | letGo name =>
    obtain rfl := Option.some.inj h
    exact .around (fun h' hh => ⟨h', hh, id⟩) rfl
  | advance time =>
    obtain ⟨⟨hl, hi, hq⟩, rfl⟩ := advance?_eq_some_iff.1 h
    exact .advance hl hi hq

theorem Course.transition (h : Course g a g') : Transition g g' := by
  cases h with
  | start hf hh ho => exact .start hf hh ho
  | run hk hr => exact transition_proceed hk hr
  | abandon hk hw => exact .abandon hk hw
  | around ho => exact .around ho
  | advance => exact .around fun h' hh => ⟨h', hh, id⟩

/-- Every step is the course of its action, after which what is no longer kept is let go. -/
theorem exists_course_of_step? (h : g.step? a = some g') :
    ∃ g₁, Course g a g₁ ∧ g' = g₁.release := by
  obtain ⟨g₁, h₁, rfl⟩ := Option.map_eq_some_iff.1 h
  exact ⟨g₁, course_of_act? h₁, rfl⟩

/-- What holds before a run and is kept by every step holds after it. -/
theorem run?_induction {P : Gateway → Prop} {actions : List Action} (start : P g)
    (step : ∀ a ∈ actions, ∀ g g₁, P g → Course g a g₁ → P g₁.release)
    (h : g.run? actions = some g') : P g' := by
  induction actions generalizing g with
  | nil =>
    obtain rfl := Option.some.inj h
    exact start
  | cons a rest ih =>
    obtain ⟨g₁, h₁, hr⟩ := Option.bind_eq_some_iff.1 h
    obtain ⟨g₂, hc, rfl⟩ := exists_course_of_step? h₁
    exact ih (step a (by simp) _ _ start hc) (fun b hb => step b (List.mem_cons_of_mem a hb)) hr

/-- What holds of a new gateway and is kept by every step holds of every state. -/
theorem Reachable.induction {P : Gateway → Prop}
    (create : ∀ settings handles, P (create settings handles))
    (step : ∀ g g₁, P g → Transition g g₁ → P g₁.release) {g : Gateway} (hg : g.Reachable) :
    P g := by
  obtain ⟨settings, handles, actions, h⟩ := hg
  exact run?_induction (create settings handles) (fun a _ g g₁ hp hc => step g g₁ hp hc.transition) h

end LeaderRouting.Gateway
