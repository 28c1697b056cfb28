import LeaderRouting.Proofs.Submission.Superseding

/-!
A schedule followed where requests are cancelled with their connection, and where they are not.  At every
moment the two states show the same but for the requests that were superseded in the one.
-/

namespace LeaderRouting.Gateway

/-- An action of a schedule.  It is passed over where it is not possible, but time passes only if it
can. -/
def attempt? (g : Gateway) : Action → Option Gateway
  | .advance time => g.step? (.advance time)
  | a => some (g.step a)

/-- The state after a schedule, if time can pass whenever it is to. -/
def follow? (g : Gateway) : List Action → Option Gateway
  | [] => some g
  | a :: rest => (g.attempt? a).bind fun g => g.follow? rest

/-- The state after an action that is passed over where it is not possible, before anything is let
go. -/
def acted (g : Gateway) (a : Action) : Gateway :=
  (g.act? a).getD g

/-- The calls that are left out, and one more. -/
def including (c : CallId) (hidden : CallId → Bool) (d : CallId) : Bool :=
  hidden d || decide (d = c)

/-- Whether two states show the same once the calls are left out that were superseded in the second. -/
structure Aligned (hidden : CallId → Bool) (g g' : Gateway) : Prop where
  alike : Alike hidden g g'
  diverted : ∀ c, hidden c = true → ∃ task request time, Diverted g g' c task request time

/-- How a state without cancelling and one with it go together. -/
structure Coupled (hidden : CallId → Bool) (g g' : Gateway) : Prop extends Aligned hidden g g' where
  reachable : g.Reachable
  reachable' : g'.Reachable
  lasts : g.settings.cancelInFlightOnSwap = false
  cancels : g'.settings.cancelInFlightOnSwap = true

variable {hidden hidden' : CallId → Bool} {g g₁ g' g₁' : Gateway} {a : Action} {c : CallId} {k : Call}
  {env : Surroundings} {task : Task} {request : RequestId} {n t : Nat} {m : Member}

/-! ### Attempts -/

theorem acted_cases (g : Gateway) (a : Action) : g.acted a = g ∨ Course g a (g.acted a) := by
  unfold acted
  cases h : g.act? a with
  | none => exact .inl rfl
  | some g₁ => exact .inr (course_of_act? h)

theorem acted_run (hk : g.call? c = some k) (hr : g.canRun k = true) :
    g.acted (.run c env) = g.proceed env k := by
  simp [acted, act?, runCall?, hk, hr]

theorem settings_acted (g : Gateway) (a : Action) : (g.acted a).settings = g.settings := by
  rcases acted_cases g a with he | hc
  · rw [he]
  · exact hc.settings

/-- An attempt either is a step or changes nothing. -/
theorem attempt?_cases (hs : g.attempt? a = some g₁) :
    g.step? a = some g₁ ∨ g.act? a = none ∧ g₁ = g := by
  have hskip : some (g.step a) = some g₁ → g.step? a = some g₁ ∨ g.act? a = none ∧ g₁ = g := by
    intro he
    unfold step step? at *
    cases hact : g.act? a with
    | none => exact .inr ⟨rfl, by simpa [hact] using he.symm⟩
    | some g₂ => exact .inl (by simpa [hact] using he)
  cases a with
  | advance time => exact .inl hs
  | _ => exact hskip hs

theorem attempt?_of_step? (hs : g.step? a = some g₁) : g.attempt? a = some g₁ := by
  cases a with
  | advance time => exact hs
  | _ => simp [attempt?, step, hs]

theorem exists_advance {time : Nat} (hs : g.attempt? (.advance time) = some g₁) :
    ∃ g₂, g.advance? time = some g₂ := by
  obtain ⟨g₂, hact, -⟩ := Option.map_eq_some_iff.1 hs
  exact ⟨g₂, hact⟩

theorem acted_advance {time : Nat} (hs : g.advance? time = some g₁) :
    g.acted (.advance time) = { g with now := time } := by
  obtain ⟨-, rfl⟩ := advance?_eq_some_iff.1 hs
  simp [acted, act?, hs]

theorem Reachable.attempt (hg : g.Reachable) (hs : g.attempt? a = some g₁) : g₁.Reachable := by
  rcases attempt?_cases hs with hs | ⟨-, rfl⟩
  · exact hg.step hs
  · exact hg

theorem Serialized.attempt (h : g.Serialized) (hs : g.attempt? a = some g₁)
    (hk : g₁.IsSpared hidden) : g.IsSpared hidden ∧ g₁ = g.acted a := by
  rcases attempt?_cases hs with hs | ⟨hact, rfl⟩
  · obtain ⟨hspared, hact, -⟩ := h.spared_step hs hk
    exact ⟨hspared, by simp [acted, hact]⟩
  · exact ⟨hk, by simp [acted, hact]⟩

/-- An attempt after which something keeps the tracker lets nothing go. -/
theorem Serialized.attempt?_eq (h : g.Serialized) (hs : g.attempt? a = some g₁)
    (hk : (g.acted a).IsSpared hidden) : g₁ = g.acted a := by
  rcases attempt?_cases hs with hs | ⟨hact, rfl⟩
  · obtain ⟨g₂, hact, rfl⟩ := Option.map_eq_some_iff.1 hs
    have he : g.acted a = g₂ := by simp [acted, hact]
    have hser := h.transition (course_of_act? hact).transition
    rw [he] at hk ⊢
    exact hser.release_eq_self (hk.isKept hser.toRooted)
  · simp [acted, hact]

theorem Reachable.follow {actions : List Action} (hg : g.Reachable)
    (hr : g.follow? actions = some g₁) : g₁.Reachable := by
  induction actions generalizing g with
  | nil => exact Option.some.inj hr ▸ hg
  | cons a rest ih =>
    obtain ⟨g₂, hs, hr⟩ := Option.bind_eq_some_iff.1 hr
    exact ih (hg.attempt hs) hr

/-- What keeps the tracker after a schedule has kept it before. -/
theorem Reachable.spared_follow {actions : List Action} (hg : g.Reachable)
    (hr : g.follow? actions = some g₁) (hk : g₁.IsSpared hidden) : g.IsSpared hidden := by
  induction actions generalizing g with
  | nil => exact Option.some.inj hr ▸ hk
  | cons a rest ih =>
    obtain ⟨g₂, hs, hr⟩ := Option.bind_eq_some_iff.1 hr
    exact ((serialized_of_reachable hg).attempt hs (ih (hg.attempt hs) hr)).1

theorem follow?_append (g : Gateway) (actions rest : List Action) :
    g.follow? (actions ++ rest) = (g.follow? actions).bind fun g => g.follow? rest := by
  induction actions generalizing g with
  | nil => rfl
  | cons a actions ih =>
    simp only [List.cons_append, follow?, Option.bind_assoc, ih]

/-! ### What one action does in both -/

/-- An action that is about a request changes nothing that shows where its call is left out. -/
theorem alike_acted (hg : g.Reachable) (ha : a.caller? = some c) (hc : hidden c = true)
    (hk : g.call? c = some k) (hs : k.task.submission?.isSome = true) :
    Alike hidden g (g.acted a) := by
  rcases acted_cases g a with he | hcourse
  · rw [he]
    exact .refl g
  · refine hcourse.alike (serialized_of_reachable hg).toDisciplined ha hc fun k₁ hk₁ => ?_
    obtain ⟨k₂, hk₂, htask⟩ := hcourse.exists_call? hk
    obtain rfl := Option.some.inj (hk₁.symm.trans hk₂)
    exact htask ▸ Task.concernsTracker_of_submission? hs

theorem Diverted.acted (h : Diverted g g' c task request t) (a : Action) :
    Diverted (g.acted a) (g'.acted a) c task request t := by
  have hfirst : Diverted (g.acted a) g' c task request t := by
    rcases acted_cases g a with he | hc
    · rwa [he]
    · exact h.course hc
  rcases acted_cases g' a with he | hc
  · rwa [he]
  · exact hfirst.course' hc

theorem Aligned.diverted_acted (h : Aligned hidden g g') (a : Action) (hc : hidden c = true) :
    ∃ task request t, Diverted (g.acted a) (g'.acted a) c task request t := by
  obtain ⟨task, request, t, hd⟩ := h.diverted c hc
  exact ⟨task, request, t, hd.acted a⟩

theorem Coupled.aligned_of_hidden (h : Coupled hidden g g') (ha : a.caller? = some c)
    (hc : hidden c = true) : Aligned hidden (g.acted a) (g'.acted a) where
  alike := by
    obtain ⟨task, request, t, hd⟩ := h.diverted c hc
    obtain ⟨k, hk, rfl⟩ := hd.known
    obtain ⟨k', hk', ht, -⟩ := hd.told.call
    have hfirst := alike_acted h.reachable ha hc hk hd.sends
    have hsecond := alike_acted h.reachable' ha hc hk' (ht ▸ hd.sends)
    exact (hfirst.symm.trans h.alike).trans hsecond
  diverted _ := h.diverted_acted a

/-- A call whose request is cut in the one state goes other ways from then on. -/
theorem Coupled.diverted_of_isCut (h : Coupled hidden g g') (hc : hidden c = false)
    (hk : g.call? c = some k) (hs : k.task.submission?.isSome = true)
    (hcut : g'.isCut env k = true) :
    ∃ request, Diverted (g.acted (.run c env)) (g'.acted (.run c env)) c k.task request g.now := by
  have hk' : g'.call? c = some k := (h.alike.call? hc).trans hk
  have hd' := (serialized_of_reachable h.reachable').toDisciplined
  obtain rfl := id_of_call? hk
  have hknown : ∃ k₁, (g.acted (.run k.id env)).call? k.id = some k₁ ∧ k₁.task = k.task := by
    rcases acted_cases g (.run k.id env) with he | hcourse
    · exact ⟨k, he.symm ▸ hk, rfl⟩
    · exact hcourse.exists_call? hk
  rw [acted_run hk' (canRun_of_isCut hcut)]
  rcases exists_of_isCut hcut with ⟨s, hp⟩ | ⟨f, hp⟩
  · obtain ⟨sub, hsub⟩ := Option.isSome_iff_exists.1 hs
    have hturned := turnedAwayAt_of_isCut h.reachable h.alike h.lasts hk hsub hp hcut
    refine ⟨env.requestId, hknown, hs, ?_, ?_⟩
    · exact h.alike.now ▸ told_of_isCut_sending hd' hk' hsub hp hcut
    · rw [acted_run hk (by simp [canRun, hp])]
      exact .inr hturned
  · have hsevered := severedAt_of_isCut h.reachable h.reachable' h.alike hc h.cancels hk hp hcut
    refine ⟨f.request, hknown, hs, ?_, .inl ?_⟩
    · exact h.alike.now ▸ told_of_isCut_inFlight hd' hk' hp hcut
    · rcases acted_cases g (.run k.id env) with he | hcourse
      · rwa [he]
      · exact hsevered.course hcourse

theorem Coupled.aligned_of_isCut (h : Coupled hidden g g') (hc : hidden c = false)
    (hk : g.call? c = some k) (hcut : g'.isCut env k = true) :
    Aligned (including c hidden) (g.acted (.run c env)) (g'.acted (.run c env)) := by
  have hself : including c hidden c = true := by simp [including]
  have hk' : g'.call? c = some k := (h.alike.call? hc).trans hk
  have hs := (carries_of_reachable h.reachable hk).sends (snapshot?_of_isCut hcut)
  refine ⟨?_, fun d hd => ?_⟩
  · have hwider : Alike (including c hidden) g g' :=
      h.alike.mono fun d hd => by simp [including, hd]
    have hfirst := alike_acted (a := .run c env) h.reachable rfl hself hk hs
    have hsecond := alike_acted (a := .run c env) h.reachable' rfl hself hk' hs
    exact (hfirst.symm.trans hwider).trans hsecond
  · rcases Bool.or_eq_true_iff.1 hd with hd | hd
    · exact h.diverted_acted _ hd
    · obtain rfl : d = c := by simpa using hd
      obtain ⟨request, hd⟩ := h.diverted_of_isCut hc hk hs hcut
      exact ⟨k.task, request, g.now, hd⟩

/-- Time passes alike in both. -/
theorem Coupled.aligned_of_advance {time : Nat} (h : Coupled hidden g g')
    (hs : g.advance? time = some g₁) (hs' : g'.advance? time = some g₁') :
    Aligned hidden (g.acted (.advance time)) (g'.acted (.advance time)) where
  alike := by
    rw [acted_advance hs, acted_advance hs']
    exact { h.alike with now := rfl }
  diverted _ := h.diverted_acted _

/-- Any other action does the same in both, if it cuts no request in one of them only. -/
theorem Coupled.aligned_of_same (h : Coupled hidden g g') (hlives : g.channel.abandoned = false)
    (hv : a.caller?.any hidden = false)
    (hcut : ∀ c env k, a = .run c env → g.call? c = some k → g'.isCut env k = g.isCut env k)
    (ht : ∀ time, a ≠ .advance time) : Aligned hidden (g.acted a) (g'.acted a) where
  alike := by
    have hrel := h.alike.act? (fun _ _ _ _ => hlives) hv hcut ht
    unfold Gateway.acted
    generalize g.act? a = o, g'.act? a = o' at hrel
    cases hrel with
    | some hrel => exact hrel
    | none => exact h.alike
  diverted _ := h.diverted_acted a

/-- Whatever is done in both, they go on together. -/
theorem Coupled.exists_aligned (h : Coupled hidden g g') (hlives : g.channel.abandoned = false)
    (hs : ∀ time, a = .advance time →
      (∃ g₁, g.advance? time = some g₁) ∧ ∃ g₁', g'.advance? time = some g₁') :
    ∃ hidden', Aligned hidden' (g.acted a) (g'.acted a) := by
  by_cases ht : ∃ time, a = .advance time
  · obtain ⟨time, rfl⟩ := ht
    obtain ⟨⟨g₁, hs⟩, g₁', hs'⟩ := hs time rfl
    exact ⟨hidden, h.aligned_of_advance hs hs'⟩
  have ht : ∀ time, a ≠ .advance time := fun time he => ht ⟨time, he⟩
  cases hv : a.caller?.any hidden with
  | true =>
    obtain ⟨c, hcaller, hc⟩ := (Option.any_eq_true _ _).1 hv
    exact ⟨hidden, h.aligned_of_hidden hcaller hc⟩
  | false =>
    by_cases hcut : ∃ c env k, a = .run c env ∧ g.call? c = some k ∧ g'.isCut env k = true
    · obtain ⟨c, env, k, rfl, hk, hcut⟩ := hcut
      exact ⟨_, h.aligned_of_isCut (by simpa [Action.caller?] using hv) hk hcut⟩
    · refine ⟨hidden, h.aligned_of_same hlives hv (fun c env k he hk => ?_) ht⟩
      rw [isCut_eq_false h.lasts]
      by_contra hcut'
      exact hcut ⟨c, env, k, he, hk, by simpa using hcut'⟩

/-! ### Schedules -/

/-- Calls that are left out have ended in the second state, so that they do not keep the tracker
there. -/
theorem Aligned.isSpared (h : Aligned hidden g g') (hk : g'.IsSpared fun _ => false) :
    g.IsSpared hidden := by
  refine h.alike.symm.isSpared (hk.imp_right fun ⟨c, k, _, hk, hu, ho⟩ => ⟨c, k, ?_, hk, hu, ho⟩)
  by_contra hc
  obtain ⟨task, request, t, hd⟩ := h.diverted c (by simpa using hc)
  obtain ⟨k', hk', -, hp⟩ := hd.told.call
  obtain rfl := Option.some.inj (hk.symm.trans hk')
  simp [hp, Phase.ended] at hu

theorem Coupled.go (h : Coupled hidden g g') (ha : Aligned hidden' (g.acted a) (g'.acted a))
    (hs : g.attempt? a = some g₁) (hs' : g'.attempt? a = some g₁')
    (hk : (g.acted a).IsSpared hidden') : Coupled hidden' g₁ g₁' := by
  obtain rfl := (serialized_of_reachable h.reachable).attempt?_eq hs hk
  obtain rfl := (serialized_of_reachable h.reachable').attempt?_eq hs' (ha.alike.isSpared hk)
  exact ⟨ha, h.reachable.attempt hs, h.reachable'.attempt hs',
    (settings_acted g a).symm ▸ h.lasts, (settings_acted g' a).symm ▸ h.cancels⟩

/-- The two states go on together as long as something keeps the tracker in both. -/
theorem Coupled.attempt (h : Coupled hidden g g') (hlives : g.channel.abandoned = false)
    (hs : g.attempt? a = some g₁) (hs' : g'.attempt? a = some g₁')
    (hk : ∀ hidden', Aligned hidden' (g.acted a) (g'.acted a) → (g.acted a).IsSpared hidden') :
    ∃ hidden', Coupled hidden' g₁ g₁' := by
  obtain ⟨hidden', ha⟩ := h.exists_aligned (a := a) hlives (by
    rintro time rfl
    exact ⟨exists_advance hs, exists_advance hs'⟩)
  exact ⟨hidden', h.go ha hs hs' (hk hidden' ha)⟩

theorem Coupled.follow {actions : List Action} (h : Coupled hidden g g')
    (hr : g.follow? actions = some g₁) (hr' : g'.follow? actions = some g₁')
    (hk : g₁'.IsSpared fun _ => false) : ∃ hidden', Coupled hidden' g₁ g₁' := by
  induction actions generalizing hidden g g' with
  | nil =>
    obtain rfl := Option.some.inj hr
    obtain rfl := Option.some.inj hr'
    exact ⟨hidden, h⟩
  | cons a rest ih =>
    obtain ⟨g₂, hs, hr⟩ := Option.bind_eq_some_iff.1 hr
    obtain ⟨g₂', hs', hr'⟩ := Option.bind_eq_some_iff.1 hr'
    have hser' := serialized_of_reachable h.reachable'
    have hk₂ := (h.reachable'.attempt hs').spared_follow hr' hk
    obtain ⟨hspared, rfl⟩ := hser'.attempt hs' hk₂
    have hlives : g.channel.abandoned = false := by
      rw [← h.alike.channel]
      exact hser'.kept (hspared.isKept hser'.toRooted)
    obtain ⟨hidden', h₂⟩ := h.attempt hlives hs hs' fun hidden' ha => ha.isSpared hk₂
    exact ih h₂ hr hr'

end LeaderRouting.Gateway
