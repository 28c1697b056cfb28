import LeaderRouting.Proofs.Tracker.Linearizability

/-!
Who is woken by what.  What changes what is published wakes everybody who sleeps until something is;
what wakes somebody has changed it.
-/

namespace LeaderRouting

/-- Whether the version tells that there is a value to see. -/
def Channel.IsCounted (ch : Channel) : Prop :=
  ch.version = 0 ↔ ch.value = .notElected

theorem Channel.isCounted_publish {ch : Channel} {p : Published} (hp : p ≠ .notElected) :
    (ch.publish p).IsCounted := by
  simp [IsCounted, publish, hp]

namespace Gateway

/-- Whether there is something to wake up for: a value was published, or nobody is left who could
publish one. -/
def isStirred (g : Gateway) : Bool :=
  decide (g.channel.value ≠ .notElected) || g.channel.abandoned

/-- What a step does to the published value and to all calls for which `others` holds. -/
inductive Rouses (others : CallId → Prop) (g g' : Gateway) : Prop
  | silent (channel : g'.channel = g.channel) (still : ∀ d, others d → g'.call? d = g.call? d)
  | loud (stirred : g'.isStirred = true) (seen : g.channel.version ≤ g'.channel.version)
      (counted : g.channel.IsCounted → g'.channel.IsCounted)
      (woken : ∀ d, others d → g'.call? d = (g.call? d).map Call.wake)

variable {others : CallId → Prop} {g g₁ g₂ g' : Gateway} {a : Action} {c d : CallId} {k : Call}

theorem Rouses.refl (g : Gateway) : Rouses others g g :=
  .silent rfl fun _ _ => rfl

theorem Rouses.trans (h₁ : Rouses others g g₁) (h₂ : Rouses others g₁ g₂) : Rouses others g g₂ := by
  cases h₁ with
  | silent hc₁ ho₁ =>
    cases h₂ with
    | silent hc₂ ho₂ => exact .silent (hc₂.trans hc₁) fun d hd => (ho₂ d hd).trans (ho₁ d hd)
    | loud hs hv hn ho₂ =>
      exact .loud hs (hc₁ ▸ hv) (hc₁ ▸ hn) fun d hd => by rw [ho₂ d hd, ho₁ d hd]
  | loud hs hv hn ho₁ =>
    cases h₂ with
    | silent hc₂ ho₂ =>
      refine .loud ?_ (hc₂ ▸ hv) (hc₂ ▸ hn) fun d hd => (ho₂ d hd).trans (ho₁ d hd)
      unfold isStirred at hs ⊢
      rwa [hc₂]
    | loud hs₂ hv₂ hn₂ ho₂ =>
      refine .loud hs₂ (Nat.le_trans hv hv₂) (hn₂ ∘ hn) fun d hd => ?_
      rw [ho₂ d hd, ho₁ d hd]
      cases g.call? d <;> simp [Call.wake]

theorem Rouses.counted (h : Rouses others g g') (hg : g.channel.IsCounted) :
    g'.channel.IsCounted := by
  cases h with
  | silent hc => exact hc ▸ hg
  | loud _ _ hn => exact hn hg

/-! ### Primitive changes -/

theorem rouses_setPhase (c : CallId) (p : Phase) : Rouses (· ≠ c) g (g.setPhase c p) :=
  .silent rfl fun _ hd => call?_setPhase_of_ne hd p

theorem rouses_finish (c : CallId) (a : Answer) : Rouses (· ≠ c) g (g.finish c a) :=
  .silent (channel_finish g c a) fun _ hd => by rw [call?_finish, if_neg hd]

theorem rouses_logIfAny (line : Option LogLine) : Rouses others g (g.logIfAny line) := by
  cases line <;> exact .silent rfl fun _ _ => rfl

/-- Nobody ever publishes that there was no election. -/
theorem rouses_publish {p : Published} (hp : p ≠ .notElected) : Rouses others g (g.publish p) := by
  unfold publish
  split_ifs
  · refine .loud ?_ (Nat.le_succ _) (fun _ => Channel.isCounted_publish hp) fun d _ =>
      call?_wakeAll _ d
    have hstirred : ((({ g with channel := g.channel.publish p }.enter (.published p)).wakeAll).isStirred)
        = (decide (p ≠ .notElected) || g.channel.abandoned) := rfl
    simp [hstirred, hp]
  · exact .refl g

theorem rouses_closeConnection (n : Nat) : Rouses others g (g.closeConnection n) := by
  obtain ⟨hcalls, -, hchannel, -⟩ := frame_closeConnection g n
  exact .silent hchannel fun d _ => by unfold call?; rw [hcalls]

theorem rouses_install (s : Snapshot) : Rouses others g (g.install s) :=
  have hwriter : Rouses others g { g with writer := { g.writer with current := some s } } :=
    .silent rfl fun _ _ => rfl
  hwriter.trans (rouses_publish (by simp))

theorem rouses_closePrevious (previous : Option Snapshot) :
    Rouses others g (g.closePrevious previous) := by
  cases previous with
  | none => exact .refl g
  | some s => exact rouses_closeConnection s.connection

theorem rouses_concludeUpdate (k : Call) (r : Except TransportError Verdict) :
    Rouses (· ≠ k.id) g (g.concludeUpdate k r) := by
  rw [concludeUpdate_eq]
  have hlock : Rouses (· ≠ k.id) g { g with lock := g.lock.release } := .silent rfl fun _ _ => rfl
  exact hlock.trans (rouses_finish k.id _)

/-! ### Changing the tracked leader -/

theorem rouses_consider (env : Surroundings) (k : Call) (l : Leader) :
    Rouses (· ≠ k.id) g (g.consider env k l) := by
  have hlog : ∀ line, Rouses (· ≠ k.id) g (g.log line) := fun _ => .silent rfl fun _ _ => rfl
  unfold consider
  split
  · exact (hlog _).trans (rouses_concludeUpdate k _)
  · exact (hlog _).trans (rouses_concludeUpdate k _)
  · exact ((hlog _).trans (rouses_install _)).trans (rouses_concludeUpdate k _)
  · exact (hlog _).trans (rouses_setPhase k.id _)

theorem rouses_shutDown (k : Call) : Rouses (· ≠ k.id) g (g.shutDown k) := by
  unfold shutDown
  split_ifs
  · exact rouses_concludeUpdate k _
  · have hwriter : Rouses (· ≠ k.id) g { g with writer := ⟨none, true⟩ } := .silent rfl fun _ _ => rfl
    have hclosed := (hwriter.trans (rouses_publish (p := .closed) (by simp))).trans
      (rouses_closePrevious g.writer.current)
    have hlog : ∀ (g : Gateway) line, Rouses (· ≠ k.id) g (g.log line) := fun _ _ =>
      .silent rfl fun _ _ => rfl
    exact (hclosed.trans (hlog _ .trackerShutDown)).trans (rouses_concludeUpdate k _)

theorem rouses_completeOpen (env : Surroundings) (k : Call) (l : Leader) :
    Rouses (· ≠ k.id) g (g.completeOpen env k l) := by
  unfold completeOpen
  dsimp only
  split
  next e _ =>
    have hnoted : Rouses (· ≠ k.id) g
        ((g.enter (.refused k.id l.member e)).log (.connectFailed l.member e)) :=
      .silent rfl fun _ _ => rfl
    exact hnoted.trans (rouses_concludeUpdate k _)
  · have hnoted : Rouses (· ≠ k.id) g
        (({ g with connections := g.connections ++ [Connection.mk l.member false false 0] }.enter
          (.opened k.id g.connections.length l.member)).log (.connectionOpened l.member)) :=
      .silent rfl fun _ _ => rfl
    have hinstalled := hnoted.trans (rouses_install (Snapshot.mk l g.connections.length))
    exact (hinstalled.trans (rouses_closePrevious g.writer.current)).trans
      (rouses_concludeUpdate k (.ok .newLeader))

/-! ### Every step -/

theorem UpToAnswer.rouses (h : UpToAnswer c (Aside c g) g') : Rouses (· ≠ c) g g' := by
  have haside : ∀ g₁, Aside c g g₁ → Rouses (· ≠ c) g g₁ := fun _ h =>
    .silent h.channel fun _ => h.alone
  rcases h with h | ⟨g₁, a, h, rfl⟩
  · exact haside g' h
  · exact (haside g₁ h).trans (rouses_finish c a)

/-- Whatever a call does, it rouses the others if it changes what is published, and only then. -/
theorem rouses_proceed (env : Surroundings) (hk : g.call? c = some k) (hr : g.canRun k = true) :
    Rouses (· ≠ c) g (g.proceed env k) := by
  obtain rfl := id_of_call? hk
  have henter : ∀ f, Rouses (· ≠ k.id) g (g.enter f) := fun _ => .silent rfl fun _ _ => rfl
  cases hp : k.phase with
  | created =>
    cases hu : k.task.update? with
    | none => exact (aside_proceed env (by rw [hp]; rfl) fun _ => hu).rouses
    | some u =>
      obtain ⟨line, he⟩ := exists_begin_eq (g := g) hu
      have he : g.proceed env k = (g.logIfAny line).requestLock k u := by
        unfold proceed
        rw [hp]
        exact he
      rw [he]
      have hlock : Rouses (· ≠ k.id) (g.logIfAny line)
          { g.logIfAny line with lock := (g.logIfAny line).lock.request k.id } :=
        .silent rfl fun _ _ => rfl
      exact ((rouses_logIfAny line).trans hlock).trans (rouses_setPhase k.id _)
  | queued u =>
    unfold proceed
    rw [hp]
    cases u with
    | elect l => exact (henter _).trans (rouses_consider env k l)
    | shutdown => exact (henter _).trans (rouses_shutDown k)
  | opening l openedAt =>
    unfold proceed
    rw [hp]
    exact rouses_completeOpen env k l
  | finished a => simp [canRun, hp] at hr
  | abandoned => simp [canRun, hp] at hr
  | _ => exact (aside_proceed env (by rw [hp]; rfl) (by simp [hp])).rouses

/-- When the tracker goes, everybody is roused. -/
theorem rouses_release (g : Gateway) : Rouses others g g.release := by
  have htracker : Rouses others g g.releaseTracker := by
    unfold releaseTracker
    split_ifs
    · exact .refl g
    · exact .loud (by simp [isStirred, wakeAll]) (Nat.le_refl _) id fun d _ => call?_wakeAll _ d
  exact releaseConnections_induction htracker fun _ n h => h.trans (rouses_closeConnection n)

end Gateway

end LeaderRouting
