import LeaderRouting.Proofs.Tracker.Chronology

/-!
What becomes of a notice, step by step.  It leaves the tracked leader as it is until its last step, and
then raises the tracked term to its own or has done nothing.
-/

namespace LeaderRouting

open Gateway

/-- What the writer decides about a candidate, and why. -/
theorem Writer.decide_cases (w : Writer) (l : Leader) :
    w.decide l = .dropped ∧ w.closed = true ∨
      w.decide l = .ignored ∧ w.closed = false ∧ l.term ≤ w.term ∨
      (∃ s, w.decide l = .renew s ∧ w.closed = false ∧ w.term < l.term ∧
        s.leader.member = l.member) ∨
      w.decide l = .connect ∧ w.closed = false ∧ w.term < l.term := by
  unfold decide
  split_ifs with hc hl
  · exact .inl ⟨rfl, hc⟩
  · exact .inr (.inl ⟨rfl, by simpa using hc, hl⟩)
  · have hc : w.closed = false := by simpa using hc
    have hl : w.term < l.term := Term.not_le.1 hl
    cases w.current with
    | none => exact .inr (.inr (.inr ⟨rfl, hc, hl⟩))
    | some s =>
      dsimp only
      split_ifs with hm
      · exact .inr (.inr (.inl ⟨s, rfl, hc, hl, hm⟩))
      · exact .inr (.inr (.inr ⟨rfl, hc, hl⟩))

namespace Notice

/-- What whoever brought the notice is told about what became of it. -/
def report (n : Notice) : Except NoticeError Verdict → Answer
  | .ok v => n.answer (.ok v)
  | .error (.connect e) => n.answer (.error e)
  | .error (.announcement e) => n.refusal e

/-- What a notice comes to next, at a moment and with what the writer knows then: a phase, or its end. -/
def next (n : Notice) (w : Writer) (now : Nat) (env : Surroundings) :
    Phase → Phase ⊕ Except NoticeError Verdict
  | .created =>
    match n.leader with
    | .ok (some l) => .inl (.queued (.elect l))
    | .ok none => .inr (.ok .noLeader)
    | .error e => .inr (.error (.announcement e))
  | .queued (.elect l) =>
    match w.decide l with
    | .dropped => .inr (.ok .closed)
    | .ignored => .inr (.ok .stale)
    | .renew _ => .inr (.ok .termRefreshed)
    | .connect => .inl (.opening l (env.openDelay.map (now + ·)))
  | .opening l _ =>
    match env.refusal l.member with
    | some e => .inr (.error (.connect e))
    | none => .inr (.ok .newLeader)
  | p => .inl p

/-- The phase of a call that brings the notice. -/
def phase (n : Notice) : Phase ⊕ Except NoticeError Verdict → Phase
  | .inl p => p
  | .inr r => .finished (n.report r)

/-- What becomes of the notice whatever is tracked, if it names no leader. -/
def outright? (n : Notice) : Option (Except NoticeError Verdict) :=
  match n.leader with
  | .ok (some _) => none
  | .ok none => some (.ok .noLeader)
  | .error e => some (.error (.announcement e))

theorem next_created {n : Notice} {r : Except NoticeError Verdict} (h : n.outright? = some r)
    (w : Writer) (now : Nat) (env : Surroundings) : n.next w now env .created = .inr r := by
  unfold outright? at h
  simp only [Notice.next]
  split at h
  · cases h
  · exact congrArg _ (Option.some.inj h)
  · exact congrArg _ (Option.some.inj h)

/-- The phases that a call which brings the notice goes through. -/
inductive GoesThrough (n : Notice) : Phase → Prop
  | created : GoesThrough n .created
  | queued {l : Leader} (names : n.leader = .ok (some l)) : GoesThrough n (.queued (.elect l))
  | opening {l : Leader} {openedAt : Option Nat} (names : n.leader = .ok (some l)) :
      GoesThrough n (.opening l openedAt)
  | finished {r : Except NoticeError Verdict} (settled : ∀ r', n.outright? = some r' → r = r') :
      GoesThrough n (.finished (n.report r))
  | abandoned : GoesThrough n .abandoned

theorem GoesThrough.wake_eq {n : Notice} {p : Phase} (h : n.GoesThrough p) : p.wake = p := by
  cases h <;> rfl

/-- Only a notice that names a leader goes on. -/
theorem GoesThrough.exists_of_next {n : Notice} {p p' : Phase} {w : Writer} {now : Nat}
    {env : Surroundings} (h : n.GoesThrough p) (hu : p.ended = false)
    (hn : n.next w now env p = .inl p') : p'.ended = false ∧ ∃ l, n.leader = .ok (some l) := by
  cases h with
  | created =>
    simp only [Notice.next] at hn
    split at hn <;> cases hn
    next l hl => exact ⟨rfl, l, hl⟩
  | @queued l hl =>
    simp only [Notice.next] at hn
    split at hn <;> cases hn
    exact ⟨rfl, l, hl⟩
  | opening =>
    simp only [Notice.next] at hn
    split at hn <;> cases hn
  | finished => cases hu
  | abandoned => cases hu

theorem GoesThrough.next {n : Notice} {p : Phase} (h : n.GoesThrough p) (w : Writer) (now : Nat)
    (env : Surroundings) : n.GoesThrough (n.phase (n.next w now env p)) := by
  have hnames : ∀ l r r', n.leader = .ok (some l) → n.outright? = some r' → r = r' := by
    intro l r r' hl hr
    simp [outright?, hl] at hr
  cases h with
  | created =>
    simp only [Notice.next]
    split
    next hl => exact .queued hl
    next hl => exact .finished fun r' hr => by simpa [outright?, hl] using hr
    next hl => exact .finished fun r' hr => by simpa [outright?, hl] using hr
  | queued hl =>
    simp only [Notice.next]
    split
    · exact .finished fun r' => hnames _ _ r' hl
    · exact .finished fun r' => hnames _ _ r' hl
    · exact .finished fun r' => hnames _ _ r' hl
    · exact .opening hl
  | opening hl =>
    simp only [Notice.next]
    split <;> exact .finished fun r' => hnames _ _ r' hl
  | finished hr => exact .finished hr
  | abandoned => exact .abandoned

end Notice

/-- A call that concerns the tracker and asks for no change brings a notice that names no leader. -/
theorem Gateway.Task.exists_notice {task : Task} (ht : task.concernsTracker = true)
    (hu : task.update? = none) : ∃ n r, task = .notice n ∧ n.outright? = some r := by
  cases task with
  | notice n =>
    cases hl : n.leader with
    | error e => exact ⟨n, _, rfl, by simp only [Notice.outright?, hl]; rfl⟩
    | ok o =>
      cases o with
      | none => exact ⟨n, _, rfl, by simp only [Notice.outright?, hl]; rfl⟩
      | some l => simp [update?, hl] at hu
  | shutdown => cases hu
  | _ => cases ht

namespace Gateway

variable {g g₁ : Gateway} {c d : CallId} {k : Call} {n : Notice} {l : Leader} {env : Surroundings}
  {r : Except NoticeError Verdict} {p : Phase}

/-- Whether the tracked leader is the same, for the writer and for readers.  Connections may be let go
once nobody receives what is published. -/
structure Untouched (g g' : Gateway) : Prop where
  writer : g'.writer = g.writer
  value : g'.channel.value = g.channel.value
  version : g'.channel.version = g.channel.version
  connections : g'.hasSubscriber = true → g'.connections = g.connections

/-- Whether a leader has come to be tracked, under a higher term than there was before. -/
structure Raised (g : Gateway) (l : Leader) (g' : Gateway) : Prop where
  higher : g.writer.term < l.term
  writer : g'.writer.current.map (·.leader) = some l
  leader : g'.leader? = some l

/-- What a notice comes to in its last step, and why. -/
inductive Settles (g : Gateway) (env : Surroundings) (n : Notice) :
    Except NoticeError Verdict → Gateway → Prop
  | raised {l : Leader} {v : Verdict} {g' : Gateway} (names : n.leader = .ok (some l))
      (live : g.writer.closed = false) (verdict : v = .newLeader ∨ v = .termRefreshed)
      (raised : g.Raised l g') : Settles g env n (.ok v) g'
  | noLeader {g' : Gateway} (names : n.leader = .ok none) (same : g.Untouched g') :
      Settles g env n (.ok .noLeader) g'
  | meaningless {e : AnnouncementError} {g' : Gateway} (names : n.leader = .error e)
      (same : g.Untouched g') : Settles g env n (.error (.announcement e)) g'
  | closed {l : Leader} {g' : Gateway} (names : n.leader = .ok (some l))
      (closed : g.writer.closed = true) (same : g.Untouched g') :
      Settles g env n (.ok .closed) g'
  | stale {l : Leader} {g' : Gateway} (names : n.leader = .ok (some l))
      (live : g.writer.closed = false) (low : l.term ≤ g.writer.term) (same : g.Untouched g') :
      Settles g env n (.ok .stale) g'
  | refused {l : Leader} {e : TransportError} {g' : Gateway} (names : n.leader = .ok (some l))
      (live : g.writer.closed = false) (higher : g.writer.term < l.term)
      (refusal : env.refusal l.member = some e) (same : g.Untouched g') :
      Settles g env n (.error (.connect e)) g'

/-! ### The end of a step -/

theorem connections_finish (g : Gateway) (c : CallId) (a : Answer) :
    (g.finish c a).connections = g.connections := by
  unfold finish logIfAny
  cases a.line? <;> rfl

theorem connections_concludeUpdate (g : Gateway) (k : Call) (r : Except TransportError Verdict) :
    (g.concludeUpdate k r).connections = g.connections := by
  rw [concludeUpdate_eq]
  exact connections_finish _ _ _

theorem writer_concludeUpdate (g : Gateway) (k : Call) (r : Except TransportError Verdict) :
    (g.concludeUpdate k r).writer = g.writer := by
  rw [concludeUpdate_eq]
  exact writer_finish _ _ _

theorem channel_concludeUpdate (g : Gateway) (k : Call) (r : Except TransportError Verdict) :
    (g.concludeUpdate k r).channel = g.channel := by
  rw [concludeUpdate_eq]
  exact channel_finish _ _ _

theorem call?_concludeUpdate (g : Gateway) (k : Call) (r : Except TransportError Verdict) :
    (g.concludeUpdate k r).call? k.id =
      (g.call? k.id).map ({ · with phase := .finished (k.task.outcome r) }) := by
  rw [concludeUpdate_eq, depart, call?_finish, if_pos rfl]
  rfl

/-- A call that is given a new phase next is not changed by being woken. -/
theorem map_call?_install (g : Gateway) (s : Snapshot) (d : CallId) (p : Phase) :
    ((g.install s).call? d).map ({ · with phase := p }) =
      (g.call? d).map ({ · with phase := p }) := by
  unfold install publish
  split_ifs
  · rw [call?_wakeAll, Option.map_map]
    rfl
  · rfl

theorem call?_closePrevious (g : Gateway) (previous : Option Snapshot) (d : CallId) :
    (g.closePrevious previous).call? d = g.call? d := by
  cases previous with
  | none => rfl
  | some s =>
    unfold call? closePrevious
    rw [(frame_closeConnection g s.connection).1]

theorem writer_closePrevious (g : Gateway) (previous : Option Snapshot) :
    (g.closePrevious previous).writer = g.writer := by
  cases previous with
  | none => rfl
  | some s => exact (frame_closeConnection g s.connection).2.2.2

theorem channel_closePrevious (g : Gateway) (previous : Option Snapshot) :
    (g.closePrevious previous).channel = g.channel := by
  cases previous with
  | none => rfl
  | some s => exact (frame_closeConnection g s.connection).2.2.1

/-! ### The phases of a notice -/

theorem outcome_notice (n : Notice) (r : Except TransportError Verdict) :
    (Task.notice n).outcome r = n.report (r.mapError .connect) := by
  cases r <;> rfl

/-- Whether a call is the same up to its phase. -/
def IsAt (g : Gateway) (k : Call) : Prop :=
  ∀ p, (g.call? k.id).map ({ · with phase := p }) = some { k with phase := p }

theorem isAt_of_call? (hk : g.call? k.id = some k) : g.IsAt k :=
  fun _ => by rw [hk, Option.map_some]

theorem IsAt.install (h : g.IsAt k) (s : Snapshot) : (g.install s).IsAt k :=
  fun p => (map_call?_install g s k.id p).trans (h p)

theorem IsAt.closePrevious (h : g.IsAt k) (previous : Option Snapshot) :
    (g.closePrevious previous).IsAt k :=
  fun p => (congrArg _ (call?_closePrevious g previous k.id)).trans (h p)

theorem IsAt.concludeUpdate (h : g.IsAt k) (ht : k.task = .notice n)
    (r : Except TransportError Verdict) : (g.concludeUpdate k r).call? k.id =
      some { k with phase := n.phase (.inr (r.mapError .connect)) } := by
  have houtcome : k.task.outcome r = n.report (r.mapError .connect) := by
    rw [ht, outcome_notice]
  rw [call?_concludeUpdate, h, houtcome]
  rfl

theorem call?_consider (hk : g.call? k.id = some k) (ht : k.task = .notice n) (env : Surroundings)
    (l : Leader) : (g.consider env k l).call? k.id =
      some { k with phase := n.phase (n.next g.writer g.now env (.queued (.elect l))) } := by
  have hat : ∀ line, (g.log line).IsAt k := fun _ => isAt_of_call? hk
  unfold consider
  simp only [Notice.next]
  cases g.writer.decide l with
  | dropped => exact (hat _).concludeUpdate ht _
  | ignored => exact (hat _).concludeUpdate ht _
  | renew s => exact ((hat _).install _).concludeUpdate ht _
  | connect => exact (call?_setPhase_self _ _ _).trans (hat _ _)

theorem call?_completeOpen (hk : g.call? k.id = some k) (ht : k.task = .notice n)
    (env : Surroundings) (l : Leader) (openedAt : Option Nat) :
    (g.completeOpen env k l).call? k.id =
      some { k with phase := n.phase (n.next g.writer g.now env (.opening l openedAt)) } := by
  have hat : g.IsAt k := isAt_of_call? hk
  unfold completeOpen
  simp only [Notice.next]
  cases env.refusal l.member with
  | some e =>
    refine IsAt.concludeUpdate ?_ ht _
    exact hat
  | none =>
    refine IsAt.concludeUpdate (IsAt.closePrevious (IsAt.install ?_ _) _) ht _
    exact hat

theorem call?_beginNotice (hk : g.call? k.id = some k) (n : Notice) (env : Surroundings) :
    (g.beginNotice k n).call? k.id =
      some { k with phase := n.phase (n.next g.writer g.now env .created) } := by
  have hat : (g.logIfAny n.line?).IsAt k := isAt_of_call? (by cases n.line? <;> exact hk)
  unfold beginNotice
  simp only [Notice.next]
  cases n.leader with
  | error e => exact ((call?_finish _ _ _ _).trans (if_pos rfl)).trans (hat _)
  | ok l =>
    cases l with
    | none => exact ((call?_finish _ _ _ _).trans (if_pos rfl)).trans (hat _)
    | some l => exact (call?_setPhase_self _ _ _).trans (hat _)

/-- Where a notice goes next does not depend on how it was brought. -/
theorem call?_proceed (hk : g.call? c = some k) (ht : k.task = .notice n)
    (hp : n.GoesThrough k.phase) (env : Surroundings) : (g.proceed env k).call? c =
      some { k with phase := n.phase (n.next g.writer g.now env k.phase) } := by
  obtain rfl := id_of_call? hk
  obtain ⟨d, task, owner, seen, p⟩ := k
  obtain rfl : task = .notice n := ht
  cases hp with
  | created => exact call?_beginNotice hk n env
  | queued => exact call?_consider (g := g.enter (.locked d)) hk rfl env _
  | opening => exact call?_completeOpen hk rfl env _ _
  | finished => exact hk
  | abandoned => exact hk

/-- A call that brings a notice goes through no other phases. -/
theorem goesThrough_of_reachable (hg : g.Reachable) (hk : g.call? c = some k)
    (ht : k.task = .notice n) : n.GoesThrough k.phase := by
  refine Reachable.induction_of_reachable (P := fun g => ∀ k, g.call? c = some k →
    k.task = .notice n → n.GoesThrough k.phase) ?_ ?_ hg k hk ht
  · simp [create, call?]
  intro a g g₁ hg _ ih hc k hk ht
  obtain ⟨k₁, hk₁, htask, hphase⟩ := exists_call?_of_release hk
  rw [htask] at ht
  have hgoes : n.GoesThrough k₁.phase := by
    by_cases ha : a.caller? = some c
    · cases hc with
      | start hf =>
        obtain rfl := Option.some.inj ha
        rw [call?_enrol, hf, Option.none_or, if_pos rfl] at hk₁
        obtain rfl := Option.some.inj hk₁
        exact .created
      | run hk₀ hr =>
        obtain rfl := Option.some.inj ha
        have ht₀ := ((turn_proceed _ hk₀ hr).task hk₀ hk₁).symm.trans ht
        have hgoes := ih _ hk₀ ht₀
        rw [call?_proceed hk₀ ht₀ hgoes] at hk₁
        obtain rfl := Option.some.inj hk₁
        exact hgoes.next _ _ _
      | abandon =>
        obtain rfl := Option.some.inj ha
        rw [call?_giveUp, if_pos rfl] at hk₁
        obtain ⟨k₀, -, rfl⟩ := Option.map_eq_some_iff.1 hk₁
        exact .abandoned
      | around _ hn => simp [hn] at ha
      | advance => simp [Action.caller?] at ha
    · cases hk₀ : g.call? c with
      | none =>
        rw [hc.call?_eq_none hk₀ ha] at hk₁
        cases hk₁
      | some k₀ =>
        rcases hc.call?_of_ne ha hk₀ with he | he
        · obtain rfl := Option.some.inj (he.symm.trans hk₁)
          exact ih _ hk₀ ht
        · obtain rfl := Option.some.inj (he.symm.trans hk₁)
          have hgoes := ih _ hk₀ ht
          rw [Call.wake, hgoes.wake_eq]
          exact hgoes
  rcases hphase with hp | hp
  · rwa [hp]
  · rwa [hp, hgoes.wake_eq]

/-! ### What the steps of a notice do -/

theorem untouched_of_eq (hw : g₁.writer = g.writer) (hc : g₁.channel = g.channel)
    (hk : g₁.connections = g.connections) : g.Untouched g₁ :=
  ⟨hw, by rw [hc], by rw [hc], fun _ => hk⟩

theorem untouched_finish (g₁ : Gateway) (c : CallId) (a : Answer) (hw : g₁.writer = g.writer)
    (hc : g₁.channel = g.channel) (hk : g₁.connections = g.connections) :
    g.Untouched (g₁.finish c a) :=
  untouched_of_eq ((writer_finish _ _ _).trans hw) ((channel_finish _ _ _).trans hc)
    ((connections_finish _ _ _).trans hk)

theorem untouched_concludeUpdate (g₁ : Gateway) (k : Call) (r : Except TransportError Verdict)
    (hw : g₁.writer = g.writer) (hc : g₁.channel = g.channel)
    (hk : g₁.connections = g.connections) : g.Untouched (g₁.concludeUpdate k r) :=
  untouched_of_eq ((writer_concludeUpdate _ _ _).trans hw) ((channel_concludeUpdate _ _ _).trans hc)
    ((connections_concludeUpdate _ _ _).trans hk)

/-- While the tracker lives, readers are shown what is installed. -/
theorem value_install (ha : g.channel.abandoned = false) (s : Snapshot) :
    (g.install s).channel.value = .elected s := by
  have hs : { g with writer := { g.writer with current := some s } }.hasSubscriber = true := by
    simp [hasSubscriber, ha]
  unfold install publish
  rw [if_pos hs]
  rfl

theorem writer_install (g : Gateway) (s : Snapshot) :
    (g.install s).writer = { g.writer with current := some s } := by
  unfold install publish
  split_ifs <;> rfl

theorem connections_install (g : Gateway) (s : Snapshot) :
    (g.install s).connections = g.connections := by
  unfold install publish
  split_ifs <;> rfl

theorem raised_of_elected {s : Snapshot} (hl : g.writer.term < l.term) (hs : s.leader = l)
    (hw : g₁.writer.current = some s) (hv : g₁.channel.value = .elected s) : g.Raised l g₁ where
  higher := hl
  writer := by
    rw [hw, ← hs]
    rfl
  leader := by
    rw [leader?, hv, ← hs]
    rfl

theorem untouched_logIfAny (g : Gateway) (line : Option LogLine) :
    (g.logIfAny line).writer = g.writer ∧ (g.logIfAny line).channel = g.channel ∧
      (g.logIfAny line).connections = g.connections := by
  cases line <;> exact ⟨rfl, rfl, rfl⟩

theorem untouched_beginNotice (hn : n.next g.writer g.now env .created = .inl p) :
    g.Untouched (g.beginNotice k n) := by
  obtain ⟨hw, hc, hk⟩ := untouched_logIfAny g n.line?
  unfold beginNotice
  simp only [Notice.next] at hn
  split
  · exact untouched_of_eq hw hc hk
  next hl => simp [hl] at hn
  next hl => simp [hl] at hn

theorem settles_beginNotice (hn : n.next g.writer g.now env .created = .inr r) :
    g.Settles env n r (g.beginNotice k n) := by
  obtain ⟨hw, hc, hk⟩ := untouched_logIfAny g n.line?
  unfold beginNotice
  simp only [Notice.next] at hn
  split
  next hl => simp [hl] at hn
  next hl =>
    simp only [hl] at hn
    obtain rfl := Sum.inr.inj hn
    exact .noLeader hl (untouched_finish _ _ _ hw hc hk)
  next hl =>
    simp only [hl] at hn
    obtain rfl := Sum.inr.inj hn
    exact .meaningless hl (untouched_finish _ _ _ hw hc hk)

theorem Raised.term_lt (h : g.Raised l g₁) : g.writer.term < g₁.writer.term := by
  obtain ⟨s, hs, hl⟩ := Option.map_eq_some_iff.1 h.writer
  have hterm : g₁.writer.term = l.term := by
    rw [← hl, Writer.term, hs]
  rw [hterm]
  exact h.higher

/-- A notice that is considered and does not end leaves the tracked leader as it is. -/
theorem untouched_consider (hn : n.next g.writer g.now env (.queued (.elect l)) = .inl p) :
    g.Untouched ((g.enter (.locked k.id)).consider env k l) := by
  have hw : (g.enter (.locked k.id)).writer = g.writer := rfl
  unfold consider
  rw [hw]
  simp only [Notice.next] at hn
  cases hd : g.writer.decide l with
  | connect => exact untouched_of_eq rfl rfl rfl
  | _ => simp [hd] at hn

theorem settles_consider (ha : g.channel.abandoned = false) (hl : n.leader = .ok (some l))
    (hn : n.next g.writer g.now env (.queued (.elect l)) = .inr r) :
    g.Settles env n r ((g.enter (.locked k.id)).consider env k l) := by
  have hw : (g.enter (.locked k.id)).writer = g.writer := rfl
  unfold consider
  rw [hw]
  simp only [Notice.next] at hn
  rcases g.writer.decide_cases l with ⟨hd, hc⟩ | ⟨hd, hc, ht⟩ | ⟨s, hd, hc, ht, hm⟩ | ⟨hd, -, -⟩ <;>
    simp only [hd] at hn ⊢
  · obtain rfl := Sum.inr.inj hn
    exact .closed hl hc (untouched_concludeUpdate ((g.enter _).log _) k _ rfl rfl rfl)
  · obtain rfl := Sum.inr.inj hn
    exact .stale hl hc ht (untouched_concludeUpdate ((g.enter _).log _) k _ rfl rfl rfl)
  · obtain rfl := Sum.inr.inj hn
    have hs : (s.renew l.term).leader = l := by simp [Snapshot.renew, hm]
    refine .raised hl hc (.inr rfl) (raised_of_elected ht hs ?_ ?_)
    · rw [writer_concludeUpdate, writer_install]
    · rw [channel_concludeUpdate]
      exact value_install (by exact ha) _
  · cases hn

theorem settles_completeOpen {openedAt : Option Nat} (ha : g.channel.abandoned = false)
    (hl : n.leader = .ok (some l)) (hd : g.writer.decide l = .connect)
    (hn : n.next g.writer g.now env (.opening l openedAt) = .inr r) :
    g.Settles env n r (g.completeOpen env k l) := by
  have hcause : g.writer.closed = false ∧ g.writer.term < l.term := by
    rcases g.writer.decide_cases l with ⟨he, -⟩ | ⟨he, -⟩ | ⟨s, he, -⟩ | ⟨-, hc, ht⟩
    · simp [hd] at he
    · simp [hd] at he
    · simp [hd] at he
    · exact ⟨hc, ht⟩
  unfold completeOpen
  simp only [Notice.next] at hn ⊢
  cases he : env.refusal l.member with
  | some e =>
    simp only [he] at hn
    obtain rfl := Sum.inr.inj hn
    exact .refused hl hcause.1 hcause.2 he
      (untouched_concludeUpdate ((g.enter _).log _) k _ rfl rfl rfl)
  | none =>
    simp only [he] at hn
    obtain rfl := Sum.inr.inj hn
    refine .raised hl hcause.1 (.inl rfl)
      (raised_of_elected (s := ⟨l, g.connections.length⟩) hcause.2 rfl ?_ ?_)
    · rw [writer_concludeUpdate, writer_closePrevious, writer_install]
    · rw [channel_concludeUpdate, channel_closePrevious]
      exact value_install (by exact ha) _

/-- The next step of a notice leaves the tracked leader as it is, or is its last. -/
theorem untouched_proceed (hk : g.call? c = some k) (ht : k.task = .notice n)
    (hp : n.GoesThrough k.phase) (hn : n.next g.writer g.now env k.phase = .inl p) :
    g.Untouched (g.proceed env k) := by
  obtain rfl := id_of_call? hk
  obtain ⟨d, task, owner, seen, phase⟩ := k
  obtain rfl : task = .notice n := ht
  cases hp with
  | created => exact untouched_beginNotice hn
  | queued => exact untouched_consider hn
  | opening =>
    simp only [Notice.next] at hn
    split at hn <;> cases hn
  | finished => exact untouched_of_eq rfl rfl rfl
  | abandoned => exact untouched_of_eq rfl rfl rfl

theorem Disciplined.settles_proceed (h : g.Disciplined) (hk : g.call? c = some k)
    (ht : k.task = .notice n) (hp : n.GoesThrough k.phase)
    (hn : n.next g.writer g.now env k.phase = .inr r) : g.Settles env n r (g.proceed env k) := by
  obtain rfl := id_of_call? hk
  have hlives : ∀ l, n.leader = .ok (some l) → k.phase.ended = false →
      g.channel.abandoned = false := by
    intro l hl hu
    have hupdate : k.task.update? = some (.elect l) := by simp [ht, Task.update?, hl]
    exact h.abandoned_of_call hk hu hupdate
  have hopening : ∀ l openedAt, k.phase = .opening l openedAt → g.writer.decide l = .connect :=
    fun l _ hp => (h.opening _ _ _ (standing?_of_phase hk hp)).2.2.1
  obtain ⟨d, task, owner, seen, phase⟩ := k
  obtain rfl : task = .notice n := ht
  cases hp with
  | created => exact settles_beginNotice hn
  | queued hl => exact settles_consider (hlives _ hl rfl) hl hn
  | opening hl => exact settles_completeOpen (hlives _ hl rfl) hl (hopening _ _ rfl) hn
  | finished => cases hn
  | abandoned => cases hn

/-! ### Whole steps -/

theorem Serialized.connections_release (h : g.Serialized) (hs : g.release.hasSubscriber = true) :
    g.release.connections = g.connections := by
  rw [release_eq_releaseTracker h.onlyCurrentOpen (fun s => (h.elected_iff s).2) hs]
  exact congrArg Serial.connections (tracked_releaseTracker g)

theorem Untouched.release (hu : g.Untouched g₁) (h : g₁.Serialized) : g.Untouched g₁.release where
  writer := (writer_release g₁).trans hu.writer
  value := (value_release g₁).1.trans hu.value
  version := (value_release g₁).2.trans hu.version
  connections hs := (h.connections_release hs).trans (hu.connections (hasSubscriber_of_release hs))

theorem Raised.release (h : g.Raised l g₁) : g.Raised l g₁.release where
  higher := h.higher
  writer := by rw [writer_release, h.writer]
  leader := by
    unfold leader?
    rw [(value_release g₁).1]
    exact h.leader

theorem Settles.release (hs : g.Settles env n r g₁) (h : g₁.Serialized) :
    g.Settles env n r g₁.release := by
  cases hs with
  | raised hl hc hv hr => exact .raised hl hc hv hr.release
  | noLeader hl hu => exact .noLeader hl (hu.release h)
  | meaningless hl hu => exact .meaningless hl (hu.release h)
  | closed hl hc hu => exact .closed hl hc (hu.release h)
  | stale hl hc ht hu => exact .stale hl hc ht (hu.release h)
  | refused hl hc ht hr hu => exact .refused hl hc ht hr (hu.release h)

/-- A step of a notice that is not its last leaves the tracked leader as it is; by its last it settles
and is answered.  Only one that names a leader takes more than one step. -/
theorem Reachable.notice_step {g' : Gateway} (hg : g.Reachable) (hk : g.call? c = some k)
    (ht : k.task = .notice n) (hs : g.step? (.run c env) = some g') :
    (∃ l k', n.leader = .ok (some l) ∧ g'.call? c = some k' ∧ k'.phase.ended = false ∧
        g.Untouched g') ∨
      ∃ r k', g'.call? c = some k' ∧ k'.phase = .finished (n.report r) ∧
        g.Settles env n r g' := by
  have h := serialized_of_reachable hg
  have hp := goesThrough_of_reachable hg hk ht
  obtain ⟨g₁, hc, rfl⟩ := exists_course_of_step? hs
  have h₁ := h.transition hc.transition
  cases hc with
  | run hk' hr =>
    obtain rfl := Option.some.inj (hk.symm.trans hk')
    have hcall := call?_proceed hk ht hp env
    obtain ⟨k', hk', -, hphase⟩ := exists_call?_release hcall
    have hnext := hp.next g.writer g.now env
    have hphase : k'.phase = n.phase (n.next g.writer g.now env k.phase) :=
      hphase.elim id fun he => he.trans hnext.wake_eq
    cases hn : n.next g.writer g.now env k.phase with
    | inl p =>
      obtain ⟨hu, l, hl⟩ := hp.exists_of_next (ended_of_canRun hr) hn
      refine .inl ⟨l, k', hl, hk', ?_, (untouched_proceed hk ht hp hn).release h₁⟩
      rw [hphase, hn]
      exact hu
    | inr r =>
      refine .inr ⟨r, k', hk', ?_, (h.settles_proceed hk ht hp hn).release h₁⟩
      rw [hphase, hn]
      rfl
  | around _ hn => cases hn

end Gateway

end LeaderRouting
