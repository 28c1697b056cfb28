import LeaderRouting.Proofs.Gateway.Mirroring
import LeaderRouting.Proofs.Tracker.Notices

/-!
The ways in which the news of a leader arrives are one.  Two runs in which a call brings the same news
in different ways go alike, step by step, and the call is told the same in the words of each way.
-/

namespace LeaderRouting

open Wire Message

namespace Notice

/-- Whether the notice brings the news of an event. -/
inductive Conveys : Notice → LeaderElectEvent → Prop
  | message {payload : Bytes} {event : LeaderElectEvent}
      (decodes : LeaderElectEvent.schema.decode payload = .ok event) :
      Conveys (.message payload) event
  | served (event : LeaderElectEvent) : Conveys (.served event) event
  | direct {l : Leader} {event : LeaderElectEvent}
      (names : Announcement.leader event = .ok (some l)) : Conveys (.direct l) event

theorem Conveys.leader_eq {n : Notice} {event : LeaderElectEvent} (h : n.Conveys event) :
    n.leader = Announcement.leader event := by
  cases h with
  | message hd => simp only [leader, Announcement.decode, hd]
  | served => rfl
  | direct hl => exact hl.symm

/-- Whether two calls that bring the notices have come equally far. -/
inductive Matches (n n' : Notice) : Gateway.Phase → Gateway.Phase → Prop
  | same {p : Gateway.Phase} (through : n.GoesThrough p) (unended : p.ended = false) :
      Matches n n' p p
  | abandoned : Matches n n' .abandoned .abandoned
  | finished (r : Except NoticeError Verdict) :
      Matches n n' (.finished (n.report r)) (.finished (n'.report r))

/-- Whether two calls bring the notices and have come equally far. -/
structure Pairs (n n' : Notice) (k k' : Gateway.Call) : Prop where
  task : k.task = .notice n
  task' : k'.task = .notice n'
  owned : k.owner.ownsTracker = true
  owned' : k'.owner.ownsTracker = true
  phase : n.Matches n' k.phase k'.phase

variable {n n' : Notice} {p p' : Gateway.Phase}

theorem Matches.wake_eq (h : n.Matches n' p p') : p.wake = p ∧ p'.wake = p' := by
  cases h with
  | same hp => exact ⟨hp.wake_eq, hp.wake_eq⟩
  | abandoned => exact ⟨rfl, rfl⟩
  | finished => exact ⟨rfl, rfl⟩

theorem Matches.ended_eq (h : n.Matches n' p p') : p'.ended = p.ended := by
  cases h <;> rfl

theorem Matches.phase_eq (h : n.Matches n' p p') (hu : p.ended = false) : p' = p := by
  cases h with
  | same => rfl
  | abandoned => cases hu
  | finished => cases hu

theorem next_congr (hl : n'.leader = n.leader) (w : Writer) (now : Nat) (env : Surroundings)
    (p : Gateway.Phase) : n'.next w now env p = n.next w now env p := by
  unfold next
  rw [hl]

/-- The next step takes both equally far. -/
theorem GoesThrough.matches_next (h : n.GoesThrough p) (hu : p.ended = false)
    (hl : n'.leader = n.leader) (w : Writer) (now : Nat) (env : Surroundings) :
    n.Matches n' (n.phase (n.next w now env p)) (n'.phase (n'.next w now env p)) := by
  rw [next_congr hl]
  cases hn : n.next w now env p with
  | inl p' =>
    have hnext := h.next w now env
    rw [hn] at hnext
    exact .same hnext (h.exists_of_next hu hn).1
  | inr r => exact .finished r

end Notice

namespace Gateway

/-- Whether two states show the same but for how one call brings its news: apart from this call, from
what the journal says of it and from log lines, all is the same, and the call has come equally far in
both. -/
structure Retold (c : CallId) (n n' : Notice) (g g' : Gateway) : Prop where
  settings : g'.settings = g.settings
  alike : Alike (· == c) g g'
  call : ∃ k k', g.call? c = some k ∧ g'.call? c = some k' ∧ n.Pairs n' k k'

variable {g g' g₁ g₁' : Gateway} {c : CallId} {n n' : Notice} {k k' : Call} {a : Action}
  {env : Surroundings}

/-! ### Steps of the call -/

theorem alike_logIfAny {hidden : CallId → Bool} (g : Gateway) (line : Option LogLine) :
    Alike hidden g (g.logIfAny line) := by
  cases line with
  | none => exact .refl g
  | some line =>
    have hsame : Alike hidden g g := .refl g
    have hline : (Fact.logged line).isSeen hidden = false := rfl
    exact { hsame with journal := by simp [logIfAny, log, enter, hline] }

/-- What the next step of a notice does to all but its call does not depend on how it was brought. -/
theorem Alike.proceed_notice {hidden : CallId → Bool} (h : Alike hidden g g')
    (hc : hidden k.id = true) (hid : k'.id = k.id) (ht : k.task = .notice n)
    (ht' : k'.task = .notice n') (hl : n'.leader = n.leader) (hp : n.GoesThrough k.phase)
    (hphase : k'.phase = k.phase)
    (ha : k.phase.contends = true → g.channel.abandoned = false) :
    Alike hidden (g.proceed env k) (g'.proceed env k') := by
  unfold Gateway.proceed
  rw [hphase]
  generalize k.phase = p at hp ha
  cases hp with
  | created =>
    have hlogged := (alike_logIfAny g n.line?).symm.trans (h.trans (alike_logIfAny g' n'.line?))
    simp only [Gateway.begin, ht, ht', Gateway.beginNotice, hl]
    split
    · exact hlogged.requestLock hid _
    · rw [hid]
      exact hlogged.finish_of_hidden hc _ _
    · rw [hid]
      exact hlogged.finish_of_hidden hc _ _
  | queued =>
    dsimp only
    rw [hid]
    exact (h.enter _).consider (ha rfl) env hid (.inl hc) _
  | opening => exact h.completeOpen (ha rfl) env hid (.inl hc) _
  | finished => exact h
  | abandoned => exact h

/-! ### Runs -/

theorem retold_iff : Retold c n n' g g' ↔ Mirrored (n.Pairs n') c g g' :=
  ⟨fun h => ⟨h.settings, h.alike, h.call⟩, fun h => ⟨h.settings, h.alike, h.call⟩⟩

/-- However the same news is brought, it comes equally far with each step. -/
theorem keepsPace_pairs (hl : n'.leader = n.leader) (c : CallId) : KeepsPace (n.Pairs n') c where
  abreast h := ⟨h.owned'.trans h.owned.symm, h.phase.ended_eq,
    fun hu => congrArg Phase.wake (h.phase.phase_eq hu)⟩
  wake {k k'} h := by
    obtain ⟨hp, hp'⟩ := h.phase.wake_eq
    have hw : k.wake = k := by rw [Call.wake, hp]
    have hw' : k'.wake = k' := by rw [Call.wake, hp']
    rw [hw, hw']
    exact ⟨h, h⟩
  abandon h := ⟨h.task, h.task', h.owned, h.owned', .abandoned⟩
  phase _ _ _ h hu := h.phase.phase_eq hu
  run {g g' k k' env} h hk hk' hpair hphase hr hr' := by
    obtain ⟨ht, ht', ho, ho', hm⟩ := hpair
    have hp := goesThrough_of_reachable h.reachable hk ht
    have hp' := goesThrough_of_reachable h.reachable' hk' ht'
    have hid : k'.id = k.id := (id_of_call? hk').trans (id_of_call? hk).symm
    have hc : (k.id == c) = true := by simp [id_of_call? hk]
    have hlives := (serialized_of_reachable h.reachable).abandoned_of_contends hk
    have halike : Alike (· == c) (g.proceed env k) (g'.proceed env k') :=
      h.alike.proceed_notice hc hid ht ht' hl hp hphase hlives
    refine ⟨?_, halike, ?_⟩
    · exact (turn_proceed env hk' hr').settings.trans
        (h.settings.trans (turn_proceed env hk hr).settings.symm)
    · refine ⟨_, _, call?_proceed hk ht hp env, call?_proceed hk' ht' hp' env, ht, ht', ho, ho', ?_⟩
      have hsame : n'.next g'.writer g'.now env k'.phase = n'.next g.writer g.now env k.phase := by
        rw [h.alike.writer, h.alike.now, hphase]
      dsimp only
      rw [hsame]
      exact hp.matches_next (ended_of_canRun hr) hl _ _ _

/-! ### One transition -/

/-- Whether the ways in which the news of a leader arrives are one transition, and whoever brings it is
told exactly what it did. -/
structure Announced (g : Gateway) : Prop where
  /-- However an event is brought, and on whatever handle, any run can go on alike, with the same
  tracked leader, published value and connections, and with answers that say the same. -/
  uniform : ∀ {event n n' c handle handle' seen seen' rest g₁}, n.Conveys event → n'.Conveys event →
    handle' ∈ g.handles → handle'.ownsTracker = true → seen' ≤ g.channel.version →
    g.run? (.start c handle (.notice n) seen :: rest) = some g₁ →
    ∃ g₁', g.run? (.start c handle' (.notice n') seen' :: rest) = some g₁' ∧ Retold c n n' g₁ g₁'
  /-- Until its last step a notice leaves the tracked leader as it is; by its last it raises the tracked
  term to its own or leaves all as it is, and it is answered which of these it did and why.  Only one
  that names a leader takes more than one step. -/
  settles : ∀ {c k n env g'}, g.call? c = some k → k.task = .notice n →
    g.step? (.run c env) = some g' →
    (∃ l k', n.leader = .ok (some l) ∧ g'.call? c = some k' ∧ k'.phase.ended = false ∧
        g.Untouched g') ∨
      ∃ r k', g'.call? c = some k' ∧ k'.phase = .finished (n.report r) ∧ g.Settles env n r g'
  /-- The server accepts an event just if the event raises the tracked term. -/
  accepted : ∀ {c k event env g' k' ack}, g.call? c = some k → k.task = .notice (.served event) →
    g.step? (.run c env) = some g' → g'.call? c = some k' →
    k'.phase = .finished (.acknowledged (.ok ack)) →
    (ack.accepted = true ↔ g.writer.term < g'.writer.term) ∧
      (ack.accepted = true → ∃ l, Announcement.leader event = .ok (some l) ∧ g.Raised l g') ∧
      (ack.accepted = false → g.Untouched g')
  /-- Bytes that do not decode are turned down at once, and nothing else happens. -/
  undecodable : ∀ {c k payload e env g'}, g.call? c = some k →
    k.task = .notice (.message payload) → LeaderElectEvent.schema.decode payload = .error e →
    g.step? (.run c env) = some g' → ∃ k', g'.call? c = some k' ∧
      k'.phase = .finished (.handled (.error (.announcement (.malformed e)))) ∧ g.Untouched g'

/-- A notice that makes no sense is told so, and nothing else happens. -/
theorem Settles.of_leader_eq_error {r : Except NoticeError Verdict} {e : AnnouncementError}
    (h : g.Settles env n r g') (hl : n.leader = .error e) :
    r = .error (.announcement e) ∧ g.Untouched g' := by
  cases h with
  | meaningless hl' hu =>
    obtain rfl := Except.error.inj (hl'.symm.trans hl)
    exact ⟨rfl, hu⟩
  | _ => simp_all

theorem Settles.accepted {event : LeaderElectEvent} {r : Except NoticeError Verdict}
    {ack : LeaderElectAck} (h : g.Settles env (.served event) r g')
    (hr : (Notice.served event).report r = .acknowledged (.ok ack)) :
    (ack.accepted = true ↔ g.writer.term < g'.writer.term) ∧
      (ack.accepted = true → ∃ l, Announcement.leader event = .ok (some l) ∧ g.Raised l g') ∧
      (ack.accepted = false → g.Untouched g') := by
  have hsame : g.Untouched g' → ack.accepted = false →
      (ack.accepted = true ↔ g.writer.term < g'.writer.term) ∧
      (ack.accepted = true → ∃ l, Announcement.leader event = .ok (some l) ∧ g.Raised l g') ∧
      (ack.accepted = false → g.Untouched g') := by
    intro hu ha
    rw [ha, hu.writer]
    simp [hu, Term.lt_irrefl]
  cases h with
  | @raised l v _ hl _ hv hr' =>
    obtain rfl : Notice.ack v = ack := Except.ok.inj (Answer.acknowledged.inj hr)
    have ha : (Notice.ack v).accepted = true := by
      rcases hv with rfl | rfl <;> rfl
    rw [ha]
    simp only [true_iff, forall_const, Bool.true_eq_false, false_implies, and_true]
    exact ⟨hr'.term_lt, _, hl, hr'⟩
  | noLeader _ hu =>
    obtain rfl : Notice.ack .noLeader = ack := Except.ok.inj (Answer.acknowledged.inj hr)
    exact hsame hu rfl
  | closed _ _ hu =>
    obtain rfl : Notice.ack .closed = ack := Except.ok.inj (Answer.acknowledged.inj hr)
    exact hsame hu rfl
  | stale _ _ _ hu =>
    obtain rfl : Notice.ack .stale = ack := Except.ok.inj (Answer.acknowledged.inj hr)
    exact hsame hu rfl
  | meaningless => cases Answer.acknowledged.inj hr
  | refused => cases Answer.acknowledged.inj hr

theorem announced_of_reachable (hg : g.Reachable) : g.Announced where
  uniform {event n n' c handle handle' seen seen' rest g₁} hn hn' hh ho hv hr := by
    have hR := keepsPace_pairs (hn'.leader_eq.trans hn.leader_eq.symm) c
    obtain ⟨g₁', hr', h₁⟩ := hg.mirrored_run hR hh (fun _ => ho) hv
      (fun ho' => ⟨rfl, rfl, ho' rfl, ho, .same .created rfl⟩) hr
    exact ⟨g₁', hr', retold_iff.2 h₁.toMirrored⟩
  settles hk ht hs := hg.notice_step hk ht hs
  accepted {c k event env g' k' ack} hk ht hs hk' hp := by
    rcases hg.notice_step hk ht hs with ⟨-, k₁, -, hk₁, hu, -⟩ | ⟨r, k₁, hk₁, hr, hsettles⟩
    · obtain rfl := Option.some.inj (hk₁.symm.trans hk')
      simp [hp, Phase.ended] at hu
    · obtain rfl := Option.some.inj (hk₁.symm.trans hk')
      exact hsettles.accepted (Phase.finished.inj (hr.symm.trans hp))
  undecodable {c k payload e env g'} hk ht hd hs := by
    have hl : (Notice.message payload).leader = .error (.malformed e) := by
      simp only [Notice.leader, Announcement.decode, hd]
    rcases hg.notice_step hk ht hs with ⟨l, -, hl', -⟩ | ⟨r, k', hk', hr, hsettles⟩
    · simp [hl] at hl'
    · obtain ⟨rfl, hu⟩ := hsettles.of_leader_eq_error hl
      exact ⟨k', hk', hr, hu⟩

/-- A leader is elected by an encoded event, and the server then gets an event for a later term. -/
def reelection : List Action :=
  let served := Announcement.ofLeader ⟨.numbered "a" 1, ⟨2⟩⟩
  elect 0 .notifier ⟨.numbered "a" 1, ⟨1⟩⟩ .silent ++
    undertake 1 .server (.notice (.served served)) .silent 1

theorem announced_of_reelection :
    ∃ g, (create (.ofOptions {}) [.notifier, .server]).run? reelection = some g ∧
      g.leader?.map (·.term) = some ⟨1⟩ ∧ g.Announced :=
  ⟨_, rfl, rfl, announced_of_reachable
    ⟨.ofOptions {}, [.notifier, .server], reelection, rfl⟩⟩

end Gateway

end LeaderRouting
