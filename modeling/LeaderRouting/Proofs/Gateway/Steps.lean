import LeaderRouting.Proofs.Gateway.Turn

/-!
What the steps of calls do.  Waiting for a leader and sending a request stay aside of the tracked
leader; so does a call that asks for the lock, apart from its place in line.
-/

namespace LeaderRouting.Gateway

/-- The change of the tracked leader that the task asks for, if it asks for one. -/
def Task.update? : Task → Option Update
  | .notice n =>
    match n.leader with
    | .ok (some l) => some (.elect l)
    | _ => none
  | .shutdown => some .shutdown
  | _ => none

/-- What the caller is told about the outcome of its update. -/
def Task.outcome : Task → Except TransportError Verdict → Answer
  | .notice n, r => n.answer r
  | _, _ => .done

/-- Only a shutdown asks for one. -/
theorem Task.eq_shutdown_of_update? {task : Task} (h : task.update? = some .shutdown) :
    task = .shutdown := by
  cases task with
  | shutdown => rfl
  | notice n =>
    cases hl : n.leader with
    | ok o => cases o <;> simp [update?, hl] at h
    | error e => simp [update?, hl] at h
  | _ => simp [update?] at h

variable {g g₁ g₂ : Gateway} {call : Call} {c : CallId}

theorem UpToAnswer.after (h : Aside c g g₁) (h₂ : UpToAnswer c (Aside c g₁) g₂) :
    UpToAnswer c (Aside c g) g₂ :=
  h₂.mono fun _ h₂ => h.trans h₂

theorem aside_finish (h : Aside c g g₁) (a : Answer) : UpToAnswer c (Aside c g) (g₁.finish c a) :=
  .inr ⟨g₁, a, h, rfl⟩

/-! ### Waiting for a leader -/

theorem aside_found (g : Gateway) (call : Call) (s : Snapshot) :
    UpToAnswer call.id (Aside call.id g) (g.found call s) := by
  unfold found
  split
  · exact aside_finish (.refl _ g) _
  · exact .inl (aside_setPhase rfl rfl)

theorem aside_fail (h : Aside call.id g g₁) (e : GatewayError) :
    UpToAnswer call.id (Aside call.id g) (g₁.fail call e) :=
  aside_finish h _

theorem aside_beginWait (g : Gateway) (call : Call) :
    UpToAnswer call.id (Aside call.id g) (g.beginWait call) := by
  unfold beginWait
  split
  · exact aside_found g call _
  · exact aside_fail (.refl _ g) _
  · exact .inl ((aside_log _).trans (aside_setPhase rfl rfl))

theorem aside_look (g : Gateway) (call : Call) (deadline : Option Nat) :
    UpToAnswer call.id (Aside call.id g) (g.look call deadline) := by
  unfold look
  split
  · exact aside_found g call _
  · exact aside_fail (.refl _ g) _
  · exact .inl (aside_setPhase rfl rfl)

theorem aside_check (g : Gateway) (call : Call) (deadline : Option Nat) :
    UpToAnswer call.id (Aside call.id g) (g.check call deadline) := by
  unfold check
  split_ifs
  · exact .inl ((aside_setSeen _).trans (aside_setPhase rfl rfl))
  · exact aside_fail (.refl _ g) _
  · exact .inl ((aside_setPhase rfl rfl).trans (aside_enter rfl rfl))

theorem aside_wakeUp (g : Gateway) (call : Call) (deadline : Option Nat) (woken : Bool) :
    UpToAnswer call.id (Aside call.id g) (g.wakeUp call deadline woken) := by
  unfold wakeUp
  split_ifs
  · exact .inl (aside_setPhase rfl rfl)
  · split
    · exact .inl (.refl _ g)
    · exact aside_fail (.refl _ g) _

/-! ### Sending a request -/

theorem aside_conclude (g : Gateway) (call : Call) (s : Snapshot) (request : RequestId)
    (r : Except TransportError Response) :
    UpToAnswer call.id (Aside call.id g) (g.conclude call s request r) := by
  unfold conclude
  split
  · exact aside_fail (aside_log _) _
  · split
    · exact aside_finish (.refl _ g) _
    · exact aside_fail (aside_log _) _

theorem aside_supersede (g : Gateway) (call : Call) (s : Snapshot) (request : RequestId) :
    UpToAnswer call.id (Aside call.id g) (g.supersede call s request) :=
  aside_fail (aside_log _) _

theorem aside_letIn (g : Gateway) (call : Call) (a : Admission) : Aside call.id g (g.letIn call a) :=
  (aside_enter (f := .admitted call.id a.snapshot.connection a.member a.request) rfl rfl).trans
    (aside_setPhase rfl rfl)

theorem aside_handOver (g : Gateway) (env : Surroundings) (call : Call) (a : Admission) :
    Aside call.id g (g.handOver env call a) :=
  (aside_enter (f := .submitted call.id a.snapshot.connection a.member a.request) rfl rfl).trans
    (aside_setPhase rfl rfl)

theorem aside_send (g : Gateway) (env : Surroundings) (call : Call) (s : Snapshot)
    (sub : Submission) : UpToAnswer call.id (Aside call.id g) (g.send env call s sub) := by
  unfold send
  dsimp only
  apply UpToAnswer.after (aside_log (.requestSent sub.operation env.requestId s.leader))
  split
  · exact aside_conclude _ call s _ _
  · split_ifs
    · exact aside_supersede _ call s _
    · exact aside_conclude _ call s _ _
    · exact .inl (aside_letIn _ call _)

theorem aside_land (g : Gateway) (env : Surroundings) (call : Call) (f : InFlight) :
    UpToAnswer call.id (Aside call.id g) (g.land env call f) := by
  unfold land
  dsimp only
  split_ifs
  · exact aside_supersede g call _ _
  · exact .after (aside_enter (f := .replied call.id f.feedback) rfl rfl)
      (aside_conclude _ call _ _ _)
  · exact aside_fail (aside_log _) _

/-! ### Turns that stay aside -/

/-- A call that has to do with the lock neither now nor after its next step stays aside. -/
theorem aside_proceed (env : Surroundings) (h : call.phase.contends = false)
    (hu : call.phase = .created → call.task.update? = none) :
    UpToAnswer call.id (Aside call.id g) (g.proceed env call) := by
  unfold proceed
  split
  next hp =>
    have hn := hu hp
    unfold begin
    split
    next notice ht =>
      rw [ht] at hn
      unfold beginNotice
      dsimp only
      apply UpToAnswer.after (aside_logIfAny notice.line?)
      split
      next l hl => simp [Task.update?, hl] at hn
      · exact aside_finish (.refl _ _) _
      · exact aside_finish (.refl _ _) _
    next ht => simp [ht, Task.update?] at hn
    all_goals exact aside_beginWait g call
  next hp => simp [hp, Phase.contends] at h
  next hp => simp [hp, Phase.contends] at h
  · exact aside_look g call _
  · exact aside_check g call _
  · exact aside_wakeUp g call _ _
  · split
    · exact .inl (.refl _ g)
    · exact aside_send g env call _ _
  · exact .inl (aside_handOver g env call _)
  · exact aside_land g env call _
  · exact .inl (.refl _ g)
  · exact .inl (.refl _ g)

end LeaderRouting.Gateway
