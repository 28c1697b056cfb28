import LeaderRouting.Proofs.Gateway.Pairing
import LeaderRouting.Proofs.Submission.Records

/-!
Requests that are cancelled with their connection.  Such a request ends at the moment at which its
connection is closed; without cancelling it would have gone on, or failed for another reason.
-/

namespace LeaderRouting.Gateway

/-- Whether the call has failed, for this reason and at this moment. -/
def Told (g : Gateway) (c : CallId) (task : Task) (e : GatewayError) (time : Nat) : Prop :=
  g.Stands c task (.finished (task.failed e)) [⟨time, .answered c (task.failed e)⟩]

/-- Whether the call's request was handed over to a connection that was closed, after it had let the
request in, at this moment and before the call ended. -/
def SeveredAt (g : Gateway) (c : CallId) (request : RequestId) (time : Nat) : Prop :=
  ∃ before after n m, g.journal = before ++ ⟨time, .closed n m⟩ :: after ∧
    (∃ m' r, r.id = request ∧ .admitted c n m' r ∈ before.map (·.fact) ∧
      .submitted c n m' r ∈ g.facts) ∧
    ∀ e ∈ before, e.fact.ends c = false

/-- Whether the call has handed nothing over, and has failed at this moment since the connection to the
leader that it had found was closed. -/
structure TurnedAwayAt (g : Gateway) (c : CallId) (task : Task) (request : RequestId) (time : Nat) :
    Prop where
  told : g.Told c task (.submissionFailed request (.transport .disconnected)) time
  unsent : g.dealings c = []
  gone : ∃ s m t, SeenSince c s g.facts ∧ ⟨t, .closed s.connection m⟩ ∈ g.journal ∧ t ≤ time

variable {g g₁ g' : Gateway} {a : Action} {c : CallId} {k : Call} {n : Nat} {m m' : Member} {t : Nat}
  {env : Surroundings} {task : Task} {r : Request} {request : RequestId} {e : GatewayError}

/-! ### Nothing outlives its connection -/

/-- A request that was let in is about to be handed over, or in flight. -/
theorem exists_passage (hg : g.Reachable) (hk : g.call? c = some k)
    (hs : k.task.submission?.isSome = true) (hu : k.phase.ended = false)
    (hadmitted : .admitted c n m r ∈ g.facts) :
    (∃ a, k.phase = .admitted a) ∨ ∃ f, k.phase = .inFlight f ∧ f.snapshot.connection = n := by
  obtain ⟨sub, hsub, herrand⟩ := exists_errand hg hk hs
  have hacc := accounted_of_reachable hg
  have hlet : admissions c g.facts ≠ 0 := fun hz => not_mem_of_admissions hz hadmitted
  by_cases hflight : ∃ f, k.phase = .inFlight f
  · obtain ⟨f, hp⟩ := hflight
    obtain rfl := id_of_call? hk
    obtain ⟨m', r', hdealings, -⟩ := (carries_of_reachable hg hk).flight f hp
    have hmem : .submitted k.id f.snapshot.connection m' r' ∈ g.dealings k.id := by simp [hdealings]
    have hadmitted' := admitted_of_submitted hg hk hs (List.mem_filter.1 hmem).1
    exact .inr ⟨f, hp, (admitted_unique hg hk hs hadmitted' hadmitted).1⟩
  · have hz := (hacc.submissions hk hsub hu).2 fun f hp => hflight ⟨f, hp⟩
    rw [herrand.paired, hz, Nat.zero_add] at hlet
    cases hp : k.phase with
    | admitted a => exact .inl ⟨a, rfl⟩
    | _ => simp [hp, Phase.credit] at hlet

/-- A request whose connection is closed goes on at once where it is cancelled with it. -/
theorem canRun_of_closed (hg : g.Reachable) (hcancel : g.settings.cancelInFlightOnSwap = true)
    (hk : g.call? c = some k) (hs : k.task.submission?.isSome = true) (hu : k.phase.ended = false)
    (hadmitted : .admitted c n m r ∈ g.facts) (hclosed : .closed n m' ∈ g.facts) :
    g.canRun k = true := by
  unfold canRun
  rcases exists_passage hg hk hs hu hadmitted with ⟨a, hp⟩ | ⟨f, hp, rfl⟩
  · rw [hp]
  · have hretired := (serialized_of_reachable hg).isRetired_of_closed hclosed
    rw [hp]
    simp [isSuperseded, hcancel, hretired]

/-- No request is let in by a connection that was closed before. -/
theorem admitted_before_closed (hg : g₁.Reachable) (hk : g₁.call? c = some k)
    (hs : k.task.submission?.isSome = true) {before after : List Fact}
    (hfacts : g₁.facts = before ++ after) (hclosed : .closed n m' ∈ before)
    (hadmitted : .admitted c n m r ∈ g₁.facts) : .admitted c n m r ∈ before := by
  rw [hfacts] at hadmitted
  refine (List.mem_append.1 hadmitted).resolve_right fun hm => ?_
  obtain ⟨earlier, later, he⟩ := List.append_of_mem hm
  have hlook : (before ++ earlier) ++ [.admitted c n m r] <+: g₁.facts :=
    ⟨later, by rw [hfacts, he]; simp⟩
  obtain ⟨_, -, herrand⟩ := exists_errand hg hk hs
  exact (herrand.routed _ _ hlook n m r rfl).2.2 m' (List.mem_append_left _ hclosed)

theorem connection_lt_of_admitted (hg : g.Reachable) (hk : g.call? c = some k)
    (hs : k.task.submission?.isSome = true) (hadmitted : .admitted c n m r ∈ g.facts) :
    n < g.connections.length := by
  obtain ⟨look, rest, hfacts⟩ := List.append_of_mem hadmitted
  have hlook : look ++ [.admitted c n m r] <+: g.facts := ⟨rest, by simp [hfacts]⟩
  obtain ⟨_, -, herrand⟩ := exists_errand hg hk hs
  obtain ⟨-, ⟨s, ⟨-, moment, -, hmoment, hv⟩, rfl, -⟩, -⟩ := herrand.routed look _ hlook n m r rfl
  have hpublished : .published (.elected s) ∈ g.facts :=
    hlook.subset (List.mem_append_left _ (hmoment.subset (published_of_shown hv)))
  have hlt := (List.getElem?_eq_some_iff.1 ((serialized_of_reachable hg).recorded hpublished)).1
  rwa [List.length_map] at hlt

theorem exists_closed_of_retired (hg : g.Reachable) (hn : n < g.connections.length)
    (hr : g.isRetired n = true) : ∃ m t, ⟨t, .closed n m⟩ ∈ g.journal := by
  have h := serialized_of_reachable hg
  have hx : g.connections[n]? = some g.connections[n] := List.getElem?_eq_getElem hn
  have hreleased : g.connections[n].IsReleased := by
    refine (h.open_or_released hx).resolve_left fun he => ?_
    unfold isRetired connection? at hr
    rw [hx, he] at hr
    simp at hr
  obtain ⟨m, hm⟩ := (h.isReleased_iff hx).1 hreleased
  obtain ⟨e, he, hfact⟩ := List.mem_map.1 hm
  exact ⟨m, e.time, hfact ▸ he⟩

/-- Where requests are cancelled with their connection, each has ended by the moment of its close once
that moment has passed. -/
theorem ended_of_closed (hg : g.Reachable) (hcancel : g.settings.cancelInFlightOnSwap = true)
    (hk : g.call? c = some k) (hs : k.task.submission?.isSome = true)
    (hadmitted : .admitted c n m r ∈ g.facts) (hclosed : ⟨t, .closed n m'⟩ ∈ g.journal)
    (ht : t < g.now) : ∃ e ∈ g.journal, e.fact.ends c = true ∧ e.time ≤ t := by
  refine Reachable.induction_of_reachable (P := fun g => g.settings.cancelInFlightOnSwap = true →
    ∀ k, g.call? c = some k → k.task.submission?.isSome = true → .admitted c n m r ∈ g.facts →
      ⟨t, .closed n m'⟩ ∈ g.journal → t < g.now →
        ∃ e ∈ g.journal, e.fact.ends c = true ∧ e.time ≤ t) ?_ ?_ hg hcancel k hk hs hadmitted
          hclosed ht
  · simp [create, call?]
  clear! g k
  intro a g g₁ hg hg₁ ih hc hcancel k hk hs hadmitted hclosed ht
  obtain ⟨news, hnews, htimes⟩ := hc.exists_news_release
  have hfacts : g₁.release.facts = g.facts ++ news.map (·.fact) := by
    unfold facts
    rw [hnews, List.map_append]
  -- The close is not among the news, as its moment has passed.
  have hclosed : ⟨t, .closed n m'⟩ ∈ g.journal := by
    rw [hnews] at hclosed
    refine (List.mem_append.1 hclosed).resolve_right fun hm => ?_
    exact absurd (htimes _ hm) (Nat.ne_of_lt ht)
  have hmem : .closed n m' ∈ g.facts := List.mem_map_of_mem hclosed
  have hadmitted := admitted_before_closed hg₁ hk hs hfacts hmem hadmitted
  obtain ⟨k₀, hk₀⟩ := exists_call?_of_fact hg hadmitted rfl
  have hs₀ : k₀.task.submission?.isSome = true := by
    obtain ⟨k₁, hk₁, htask₁⟩ := hc.exists_call? hk₀
    obtain ⟨k₂, hk₂, htask₂, -⟩ := exists_call?_release hk₁
    obtain rfl := Option.some.inj (hk.symm.trans hk₂)
    rw [← htask₁, ← htask₂]
    exact hs
  have hcancel : g.settings.cancelInFlightOnSwap = true := by
    rwa [settings_release, hc.settings] at hcancel
  have hended : ∃ e ∈ g.journal, e.fact.ends c = true ∧ e.time ≤ t := by
    rcases Nat.lt_or_ge t g.now with hlt | hge
    · exact ih hcancel k₀ hk₀ hs₀ hadmitted hclosed hlt
    · -- Time has passed just now, so that the call had nothing left to do.
      have hended : k₀.phase.ended = true := by
        by_contra hu
        have hable := canRun_of_closed hg hcancel hk₀ hs₀ (by simpa using hu) hadmitted hmem
        have hnow := hc.now_eq hk₀ hable
        rw [now_release, hnow] at ht
        exact absurd ht (Nat.not_lt.2 hge)
      obtain ⟨e, he, hends⟩ := (ended_iff hg hk₀).1 hended
      exact ⟨e, he, hends, Nat.le_trans (time_le_now hg he) hge⟩
  obtain ⟨e, he, hends⟩ := hended
  exact ⟨e, hnews ▸ List.mem_append_left _ he, hends⟩

/-! ### How a request ends whose connection is closed -/

theorem told_finish {task : Task} (hk : g.call? c = some k) (ht : k.task = task)
    (hn : g.answersTo c = []) (e : GatewayError) :
    (g.finish c (task.failed e)).Told c task e g.now :=
  stands_finish hk ht hn _

theorem answersTo_log (g : Gateway) (c : CallId) (line : LogLine) :
    (g.log line).answersTo c = g.answersTo c := by
  have hturn : Turn c g (g.log line) := turn_log line
  exact hturn.answersTo c

theorem told_supersede (hk : g.call? k.id = some k) (hn : g.answersTo k.id = []) (s : Snapshot)
    (request : RequestId) :
    (g.supersede k s request).Told k.id k.task (.submissionFailed request .superseded) g.now :=
  told_finish (g := g.log (.requestSuperseded s.leader.member request)) hk rfl
    ((answersTo_log _ _ _).trans hn) _

theorem isCut_eq_false (hcancel : g.settings.cancelInFlightOnSwap = false) (env : Surroundings)
    (k : Call) : g.isCut env k = false := by
  unfold isCut isSuperseded
  cases k.phase with
  | sending s =>
    dsimp only
    split <;> simp [hcancel]
  | inFlight f => simp [hcancel]
  | _ => rfl

/-- A request in flight that is cut is superseded. -/
theorem told_of_isCut_inFlight {f : InFlight} (hd : g.Disciplined) (hk : g.call? k.id = some k)
    (hp : k.phase = .inFlight f) (hcut : g.isCut env k = true) :
    (g.proceed env k).Told k.id k.task (.submissionFailed f.request .superseded) g.now := by
  have hn := hd.answersTo_eq_nil hk (by rw [hp]; rfl)
  unfold isCut at hcut
  unfold proceed land
  simp only [hp] at hcut ⊢
  rw [if_pos hcut]
  exact told_supersede hk hn _ _

/-- What comes of a request whose connection is closed before it is handed over. -/
theorem send_of_closed {s : Snapshot} {x : Connection} (hp : k.phase = .sending s)
    (hx : g.connections[s.connection]? = some x) (hc : x.closed = true) (sub : Submission) :
    g.send env k s sub =
      if g.isCut env k then
        (g.log (.requestSent sub.operation env.requestId s.leader)).supersede k s env.requestId
      else (g.log (.requestSent sub.operation env.requestId s.leader)).conclude k s env.requestId
        (.error .disconnected) := by
  have hlogged : (g.log (.requestSent sub.operation env.requestId s.leader)).connection?
      s.connection = some x := hx
  have hconnection : g.connection? s.connection = some x := hx
  unfold send isCut
  simp only [hp, hlogged, hconnection, hc, if_true, Bool.true_and]
  rfl

theorem exists_closed_of_isCut {s : Snapshot} (hp : k.phase = .sending s)
    (hcut : g.isCut env k = true) :
    ∃ x, g.connections[s.connection]? = some x ∧ x.closed = true := by
  unfold isCut connection? at hcut
  simp only [hp] at hcut
  cases hx : g.connections[s.connection]? with
  | none => simp [hx] at hcut
  | some x =>
    simp only [hx, Bool.and_eq_true] at hcut
    exact ⟨x, rfl, hcut.1⟩

/-- A request that is cut before it is handed over is superseded. -/
theorem told_of_isCut_sending {s : Snapshot} {sub : Submission} (hd : g.Disciplined)
    (hk : g.call? k.id = some k) (hs : k.task.submission? = some sub) (hp : k.phase = .sending s)
    (hcut : g.isCut env k = true) :
    (g.proceed env k).Told k.id k.task (.submissionFailed env.requestId .superseded) g.now := by
  have hn := hd.answersTo_eq_nil hk (by rw [hp]; rfl)
  obtain ⟨x, hx, hc⟩ := exists_closed_of_isCut hp hcut
  unfold proceed
  simp only [hp, hs]
  rw [send_of_closed hp hx hc sub, if_pos hcut]
  exact told_supersede (g := g.log _) hk ((answersTo_log _ _ _).trans hn) s env.requestId

/-- A request that is not handed over as its connection is closed, and is not cut, fails for that. -/
theorem told_of_refused {s : Snapshot} {x : Connection} {sub : Submission} (hd : g.Disciplined)
    (hk : g.call? k.id = some k) (hs : k.task.submission? = some sub) (hp : k.phase = .sending s)
    (hx : g.connections[s.connection]? = some x) (hc : x.closed = true)
    (hcut : g.isCut env k = false) :
    (g.proceed env k).Told k.id k.task
      (.submissionFailed env.requestId (.transport .disconnected)) g.now := by
  have hn := hd.answersTo_eq_nil hk (by rw [hp]; rfl)
  unfold proceed
  simp only [hp, hs]
  rw [send_of_closed hp hx hc sub, if_neg (by rw [hcut]; exact Bool.false_ne_true)]
  exact told_finish (g := (g.log _).log _) hk rfl
    (((answersTo_log _ _ _).trans (answersTo_log _ _ _)).trans hn) _

/-! ### Where nothing is cancelled -/

/-- What holds of a request's call when it starts, and is kept by every leg of its way, holds wherever
the call is. -/
theorem phase_induction {P : Phase → Prop} {sub : Submission} (hg : g.Reachable)
    (hk : g.call? c = some k) (hs : k.task.submission? = some sub) (created : P .created)
    (abandoned : P .abandoned) (wake : ∀ p, P p → P p.wake)
    (leg : ∀ (g₀ : Gateway) env p p' fs, g₀.settings = g.settings →
      Leg g₀ env c k.task sub p p' fs → P p → P p') : P k.phase := by
  obtain ⟨settings, hsettings⟩ : ∃ settings, g.settings = settings := ⟨_, rfl⟩
  obtain ⟨task, htask⟩ : ∃ task, k.task = task := ⟨_, rfl⟩
  rw [htask] at hs
  rw [hsettings, htask] at leg
  refine Reachable.induction_of_reachable (P := fun g => g.settings = settings → ∀ k,
    g.call? c = some k → k.task = task → P k.phase) ?_ ?_ hg hsettings k hk htask
  · simp [create, call?]
  clear! g k
  intro a g g₁ hg _ ih hc hsettings k hk htask
  have hbefore : g.settings = settings := by rw [← hc.settings, ← settings_release, hsettings]
  have ih := ih hbefore
  have hstep : ∀ k, g₁.call? c = some k → k.task = task → P k.phase := by
    intro k hk htask
    rcases hc.call?_cases hk with (hp | hp) | ⟨env, k₀, hk₀, hr, rfl⟩ | ⟨k₀, hk₀, rfl | rfl, -⟩
    · exact hp ▸ created
    · exact hp ▸ abandoned
    · obtain rfl := id_of_call? hk₀
      obtain rfl := ((turn_proceed env hk₀ hr).task hk₀ hk).symm.trans htask
      obtain ⟨p, fs, hleg, hcomes⟩ := takes_proceed env hk₀ hs
        ((serialized_of_reachable hg).free_of_submission hk₀ hs) (ended_of_canRun hr)
      rw [hcomes.phase k hk]
      exact leg g env _ p fs hbefore hleg (ih k₀ hk₀ rfl)
    · exact ih k hk₀ htask
    · exact wake _ (ih k₀ hk₀ htask)
  rcases call?_release g₁ c with he | he <;> rw [hk] at he
  · exact hstep k he.symm htask
  · obtain ⟨k₁, hk₁, rfl⟩ := Option.map_eq_some_iff.1 he.symm
    exact wake _ (hstep k₁ hk₁ htask)

theorem Task.conclusion_ne_superseded {r : Except TransportError Response}
    (hs : task.submission?.isSome = true) (request request' : RequestId) :
    task.conclusion request r ≠ task.failed (.submissionFailed request' .superseded) := by
  unfold Task.conclusion
  split
  · exact fun he => by simpa using failed_inj hs he
  · split
    next a ha => exact delivered_ne_failed hs ha
    · exact fun he => by simpa using failed_inj hs he

/-- No request is superseded where none is cancelled with its connection. -/
theorem not_told_superseded (hg : g.Reachable) (hcancel : g.settings.cancelInFlightOnSwap = false)
    (hs : task.submission?.isSome = true) :
    ¬g.Told c task (.submissionFailed request .superseded) t := by
  intro h
  obtain ⟨k, hk, rfl, hp⟩ := h.call
  obtain ⟨sub, hsub⟩ := Option.isSome_iff_exists.1 hs
  refine phase_induction (P := fun p => ∀ request,
    p ≠ .finished (k.task.failed (.submissionFailed request .superseded))) hg hk hsub ?_ ?_ ?_ ?_ _ hp
  · simp
  · simp
  · intro p hne
    cases p <;> simp_all [Phase.wake]
  · intro g₀ env p p' fs hsettings hleg _ request he
    have hne : ∀ e, (∀ request, e ≠ .submissionFailed request .superseded) →
        p' ≠ .finished (k.task.failed e) := by
      rintro e hne rfl
      exact hne request (Task.failed_inj hs (Phase.finished.inj he))
    cases hleg with
    | seek _ hafter =>
      subst he
      simp [Phase.seeks] at hafter
    | found | letIn | handOver => simp at he
    | turnedAway _ hearly => exact hne _ (by rcases hearly with rfl | ⟨d, rfl⟩ <;> simp) rfl
    | disconnected => exact hne _ (by simp) rfl
    | overtaken hcancels => simp [hsettings, hcancel] at hcancels
    | superseded hnoticed => simp [isSuperseded, hsettings, hcancel] at hnoticed
    | replied => exact Task.conclusion_ne_superseded hs _ _ (Phase.finished.inj he)
    | timedOut => exact hne _ (by simp) rfl

/-! ### The same call in two states -/

theorem exists_of_isCut (hcut : g.isCut env k = true) :
    (∃ s, k.phase = .sending s) ∨ ∃ f, k.phase = .inFlight f := by
  unfold isCut at hcut
  split at hcut
  next s hp => exact .inl ⟨s, hp⟩
  next f hp => exact .inr ⟨f, hp⟩
  · simp at hcut

theorem canRun_of_isCut (hcut : g.isCut env k = true) : g.canRun k = true := by
  unfold isCut at hcut
  unfold canRun
  split at hcut
  next s hp => simp [hp]
  next f hp =>
    simp only [Bool.and_eq_true] at hcut
    simp [hp, hcut.1]
  · simp at hcut

theorem snapshot?_of_isCut (hcut : g.isCut env k = true) : k.phase.snapshot?.isSome = true := by
  rcases exists_of_isCut hcut with ⟨s, hp⟩ | ⟨f, hp⟩ <;> simp [hp, Phase.snapshot?]

/-- A request in flight was let in and handed over. -/
theorem exists_handed_of_inFlight {f : InFlight} (hg : g.Reachable) (hk : g.call? c = some k)
    (hp : k.phase = .inFlight f) : ∃ m r, r.id = f.request ∧
      .admitted c f.snapshot.connection m r ∈ g.facts ∧
        .submitted c f.snapshot.connection m r ∈ g.facts := by
  obtain rfl := id_of_call? hk
  have hcarries := carries_of_reachable hg hk
  have hs := hcarries.sends (by rw [hp]; rfl)
  obtain ⟨m, r, hdealings, hid⟩ := hcarries.flight f hp
  have hmem : .submitted k.id f.snapshot.connection m r ∈ g.dealings k.id := by simp [hdealings]
  have hsubmitted := (List.mem_filter.1 hmem).1
  exact ⟨m, r, hid, admitted_of_submitted hg hk hs hsubmitted, hsubmitted⟩

/-- A request in flight is cut at the very moment at which its connection is closed. -/
theorem closed_now_of_isCut {f : InFlight} (hg : g.Reachable)
    (hcancel : g.settings.cancelInFlightOnSwap = true) (hk : g.call? c = some k)
    (hp : k.phase = .inFlight f) (hcut : g.isCut env k = true) :
    ∃ m, ⟨g.now, .closed f.snapshot.connection m⟩ ∈ g.journal := by
  obtain ⟨_, _, -, hadmitted, -⟩ := exists_handed_of_inFlight hg hk hp
  have hs := (carries_of_reachable hg hk).sends (snapshot?_of_isCut hcut)
  have hretired : g.isRetired f.snapshot.connection = true := by
    unfold isCut isSuperseded at hcut
    simp only [hp, Bool.and_eq_true] at hcut
    exact hcut.1.2
  obtain ⟨m', t, hclosed⟩ :=
    exists_closed_of_retired hg (connection_lt_of_admitted hg hk hs hadmitted) hretired
  obtain rfl : t = g.now := by
    refine Nat.le_antisymm (time_le_now hg hclosed) (Nat.le_of_not_lt fun ht => ?_)
    obtain ⟨e, he, hends, -⟩ := ended_of_closed hg hcancel hk hs hadmitted hclosed ht
    have hended := (ended_iff hg hk).2 ⟨e, he, hends⟩
    simp [hp, Phase.ended] at hended
  exact ⟨m', hclosed⟩

/-- A request that is cut while it is in flight was handed over to a connection that is closed now,
also where it is not cancelled for that. -/
theorem severedAt_of_isCut {hidden : CallId → Bool} {f : InFlight} (hg : g.Reachable)
    (hg' : g'.Reachable) (h : Alike hidden g g') (hc : hidden c = false)
    (hcancel : g'.settings.cancelInFlightOnSwap = true) (hk : g.call? c = some k)
    (hp : k.phase = .inFlight f) (hcut : g'.isCut env k = true) :
    g.SeveredAt c f.request g.now := by
  have hk' : g'.call? c = some k := (h.call? hc).trans hk
  have hs := (carries_of_reachable hg hk).sends (snapshot?_of_isCut hcut)
  obtain ⟨m, r, hid, hadmitted, hsubmitted⟩ := exists_handed_of_inFlight hg hk hp
  -- In the other state the call has to notice at once that its connection is closed.
  obtain ⟨m', hclosed'⟩ := closed_now_of_isCut hg' hcancel hk' hp hcut
  rw [h.now] at hclosed'
  have hclosed : ⟨g.now, .closed f.snapshot.connection m'⟩ ∈ g.journal :=
    (h.mem_journal (by simp [Fact.isSeen, Fact.ofTracker])).1 hclosed'
  obtain ⟨before, after, hjournal⟩ := List.append_of_mem hclosed
  refine ⟨before, after, _, m', hjournal, ⟨m, r, hid, ?_, hsubmitted⟩, fun e he => ?_⟩
  · have hfacts : g.facts = (before.map (·.fact) ++ [.closed f.snapshot.connection m']) ++
        after.map (·.fact) := by simp [facts, hjournal]
    have hclosing : .closed f.snapshot.connection m' ∈
        before.map (·.fact) ++ [.closed f.snapshot.connection m'] := by simp
    simpa using admitted_before_closed hg hk hs hfacts hclosing hadmitted
  · by_contra hends
    have hmem : e ∈ g.journal := hjournal ▸ List.mem_append_left _ he
    have hended := (ended_iff hg hk).2 ⟨e, hmem, by simpa using hends⟩
    simp [hp, Phase.ended] at hended

/-- A request that is cut before it is handed over is not handed over where it is not cut either. -/
theorem turnedAwayAt_of_isCut {hidden : CallId → Bool} {s : Snapshot} {sub : Submission}
    (hg : g.Reachable) (h : Alike hidden g g') (hcancel : g.settings.cancelInFlightOnSwap = false)
    (hk : g.call? c = some k) (hs : k.task.submission? = some sub) (hp : k.phase = .sending s)
    (hcut : g'.isCut env k = true) :
    (g.proceed env k).TurnedAwayAt c k.task env.requestId g.now := by
  have hser := serialized_of_reachable hg
  obtain rfl := id_of_call? hk
  obtain ⟨x, hx, hc⟩ := exists_closed_of_isCut hp hcut
  rw [h.connections] at hx
  have htold := told_of_refused hser.toDisciplined hk hs hp hx hc (isCut_eq_false hcancel env k)
  have hturn := turn_proceed env hk (by simp [canRun, hp])
  obtain ⟨news, hnews, -⟩ := hturn.exists_news
  have hjournal : g.journal ⊆ (g.proceed env k).journal := hnews ▸ List.subset_append_left _ _
  refine ⟨htold, ?_, ?_⟩
  · have hunsent := ((accounted_of_reachable hg).known k.id k hk (by rw [hs]; rfl)).eq_nil
      (by simp [hp]) (by rw [hp]; rfl)
    obtain ⟨p, fs, hleg, hcomes⟩ :=
      takes_proceed env hk hs (hser.free_of_submission hk hs) (by rw [hp]; rfl)
    obtain ⟨k', hk', -, hp'⟩ := htold.call
    obtain rfl := (hcomes.phase k' hk').symm.trans hp'
    rw [hcomes.dealings, hunsent, List.nil_append]
    rw [hp] at hleg
    generalize hafter : Phase.finished _ = after at hleg
    cases hleg with
    | letIn => simp at hafter
    | _ => rfl
  · have hseen : SeenSince k.id s g.facts :=
      ((underwayAt_of_reachable hg k.id).known k sub hk hs).sighted s hp
    have hreleased : x.IsReleased := by
      refine (hser.open_or_released hx).resolve_left fun he => ?_
      rw [he] at hc
      simp at hc
    obtain ⟨m, hm⟩ := (hser.isReleased_iff hx).1 hreleased
    obtain ⟨e, he, hfact⟩ := List.mem_map.1 hm
    have hseen : SeenSince k.id s (g.proceed env k).facts := by
      have hfacts : (g.proceed env k).facts = g.facts ++ news.map (·.fact) := by simp [facts, hnews]
      exact hfacts ▸ hseen.append _
    exact ⟨s, m, e.time, hseen, hjournal (hfact ▸ he), time_le_now hg he⟩

/-! ### Calls that have gone other ways -/

/-- Whether a call has been superseded in the second of two states, and what has happened to it in the
first. -/
structure Diverted (g g' : Gateway) (c : CallId) (task : Task) (request : RequestId) (time : Nat) :
    Prop where
  known : ∃ k, g.call? c = some k ∧ k.task = task
  sends : task.submission?.isSome = true
  told : g'.Told c task (.submissionFailed request .superseded) time
  cause : g.SeveredAt c request time ∨ g.TurnedAwayAt c task request time

theorem SeveredAt.course (h : g.SeveredAt c request t) (hc : Course g a g₁) :
    g₁.SeveredAt c request t := by
  obtain ⟨before, after, n, m, hjournal, ⟨m', r, hid, hadmitted, hsubmitted⟩, hends⟩ := h
  obtain ⟨news, hn, -⟩ := hc.exists_news
  have hfacts : g₁.facts = g.facts ++ news.map (·.fact) := by simp [facts, hn]
  exact ⟨before, after ++ news, n, m, by rw [hn, hjournal]; simp,
    ⟨m', r, hid, hadmitted, hfacts ▸ List.mem_append_left _ hsubmitted⟩, hends⟩

theorem TurnedAwayAt.course (h : g.TurnedAwayAt c task request t) (hc : Course g a g₁) :
    g₁.TurnedAwayAt c task request t := by
  obtain ⟨news, hn, -⟩ := hc.exists_news
  have hjournal : g.journal ⊆ g₁.journal := hn ▸ List.subset_append_left _ _
  obtain ⟨k, hk, -, hp⟩ := h.told.call
  obtain ⟨s, m, t', hs, hm, ht⟩ := h.gone
  have hfacts : g₁.facts = g.facts ++ news.map (·.fact) := by simp [facts, hn]
  refine ⟨h.told.course_of_ended rfl hc, ?_, s, m, t', hfacts ▸ hs.append _, hjournal hm, ht⟩
  rw [hc.dealings hk (by rw [hp]; rfl), h.unsent]

/-- Nothing brings a call back to its way. -/
theorem Diverted.course (h : Diverted g g' c task request t) (hc : Course g a g₁) :
    Diverted g₁ g' c task request t where
  known := by
    obtain ⟨k, hk, ht⟩ := h.known
    obtain ⟨k₁, hk₁, ht₁⟩ := hc.exists_call? hk
    exact ⟨k₁, hk₁, ht₁.trans ht⟩
  sends := h.sends
  told := h.told
  cause := h.cause.imp (·.course hc) (·.course hc)

theorem Diverted.course' {g₁' : Gateway} (h : Diverted g g' c task request t)
    (hc : Course g' a g₁') : Diverted g g₁' c task request t :=
  { h with told := h.told.course_of_ended rfl hc }

end LeaderRouting.Gateway
