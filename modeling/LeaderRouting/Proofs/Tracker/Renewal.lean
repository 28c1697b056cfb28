import LeaderRouting.Proofs.Submission.Landing
import LeaderRouting.Proofs.Tracker.Ascent
import LeaderRouting.Proofs.Tracker.Turnover

/-!
A leader that is elected again.  It gets the newer term and nothing else changes: the connection stays,
the requests in flight over it end as they would have, and the transport hears nothing.  So it is however
often this happens, and what closes the connection in the end closes it once.
-/

namespace LeaderRouting

open Gateway

@[simp] theorem Snapshot.leader_renew (s : Snapshot) (term : Term) :
    (s.renew term).leader = ⟨s.leader.member, term⟩ :=
  rfl

/-- Whether the operations are announcements of one member, under these terms. -/
def OnlyAnnounce (m : Member) (ts : List Term) (ops : List Operation) : Prop :=
  ops.map (·.update) = ts.map fun t => .elect ⟨m, t⟩

theorem OnlyAnnounce.take {m : Member} {ts : List Term} {ops : List Operation}
    (h : OnlyAnnounce m ts ops) (i : Nat) : OnlyAnnounce m (ts.take i) (ops.take i) := by
  unfold OnlyAnnounce at h ⊢
  rw [List.map_take, h, List.map_take]

theorem OnlyAnnounce.update {m : Member} {ts : List Term} {ops : List Operation}
    (h : OnlyAnnounce m ts ops) {i : Nat} {op : Operation} {t : Term} (hop : ops[i]? = some op)
    (ht : ts[i]? = some t) : op.update = .elect ⟨m, t⟩ := by
  have hmapped : (ops.map (·.update))[i]? = some op.update := by simp [hop]
  rw [h, List.getElem?_map, ht] at hmapped
  exact (Option.some.inj hmapped).symm

namespace Serial

variable {t : Serial} {s : Snapshot} {op : Operation} {ops : List Operation} {ts : List Term}

/-- An announcement of the tracked member gives it the term if that is newer, and is stale otherwise. -/
theorem perform_of_member (hw : t.writer = ⟨some s, false⟩) {term : Term}
    (hu : op.update = .elect ⟨s.leader.member, term⟩) :
    t.perform op = if s.leader.term < term then
      (t.install (s.renew term), .ok .termRefreshed) else (t, .ok .stale) := by
  simp only [perform, hu, elect, hw, Bool.false_eq_true, if_false]
  split_ifs with hle hlt hlt
  · exact absurd hle (Term.not_le.2 hlt)
  · rfl
  · simp [Option.filter, Snapshot.renew]
  · exact absurd (Term.not_le.1 hle) hlt

/-- It leaves the member the higher one of the two terms, and its connection. -/
theorem apply_of_member (hw : t.writer = ⟨some s, false⟩) {term : Term}
    (hu : op.update = .elect ⟨s.leader.member, term⟩) :
    (t.apply op).writer = ⟨some (s.renew (max s.leader.term term)), false⟩ ∧
      (t.apply op).connections = t.connections ∧
      turnovers (t.apply op).trace = turnovers t.trace := by
  have hperform := perform_of_member hw hu
  rw [Term.max_eq]
  unfold apply
  split_ifs at hperform ⊢ <;> rw [hperform]
  · simp [install, publish, note, hw, Fact.turnover?]
  · simp [note, hw, Fact.turnover?, Snapshot.renew]

/-- So it is with any number of them. -/
theorem foldl_apply_of_member (hw : t.writer = ⟨some s, false⟩)
    (hops : OnlyAnnounce s.leader.member ts ops) :
    (ops.foldl apply t).writer = ⟨some (s.renew (ts.foldl max s.leader.term)), false⟩ ∧
      (ops.foldl apply t).connections = t.connections ∧
      turnovers (ops.foldl apply t).trace = turnovers t.trace := by
  induction ops generalizing t s ts with
  | nil =>
    obtain rfl : ts = [] := by simpa [OnlyAnnounce] using hops.symm
    exact ⟨hw, rfl, rfl⟩
  | cons op ops ih =>
    cases ts with
    | nil => simp [OnlyAnnounce] at hops
    | cons term ts =>
      simp only [OnlyAnnounce, List.map_cons, List.cons.injEq] at hops
      obtain ⟨hwriter, hconnections, hturnovers⟩ := apply_of_member hw hops.1
      obtain ⟨hwriter', hconnections', hturnovers'⟩ := ih hwriter hops.2
      exact ⟨hwriter', hconnections'.trans hconnections, hturnovers'.trans hturnovers⟩

end Serial

namespace Gateway

/-- Whether the fact is that the transport was asked for a connection, that one was closed, or that a
request was let in, sent or answered. -/
def Fact.ofTransport : Fact → Bool
  | .opened _ _ _ | .refused _ _ _ | .closed _ _ | .admitted _ _ _ _ | .submitted _ _ _ _
  | .replied _ _ => true
  | _ => false

def transport (g : Gateway) : List Fact :=
  g.facts.filter Fact.ofTransport

/-- Gives the tracked leader a newer term.  Were there no leader, the term would be stale. -/
def refreshTerm (g : Gateway) (call : Call) (term : Term) : Gateway :=
  match g.writer.current with
  | none => g.concludeUpdate call (.ok .stale)
  | some s =>
    ((g.log (.termRefreshed s.leader term)).install (s.renew term)).concludeUpdate call
      (.ok .termRefreshed)

/-- Whether a call that has the lock brings the news that the tracked leader was elected again, under a
newer term. -/
structure Renews (g : Gateway) (k : Call) (s : Snapshot) (l : Leader) : Prop where
  found : g.call? k.id = some k
  phase : k.phase = .queued (.elect l)
  holds : g.lock.holder = some k.id
  member : l.member = s.leader.member
  higher : s.leader.term < l.term

/-- Whether the tracked leader has the new term, and nothing else has happened. -/
structure Renewed (g : Gateway) (k : Call) (s : Snapshot) (l : Leader) (g' : Gateway) : Prop where
  told : g'.call? k.id = some { k with phase := .finished (k.task.outcome (.ok .termRefreshed)) }
  writer : g'.writer = ⟨some ⟨l, s.connection⟩, false⟩
  value : g'.channel.value = .elected ⟨l, s.connection⟩
  connections : g'.connections = g.connections
  isOpen : g'.connections[s.connection]? = some ⟨l.member, false, false, 0⟩
  /-- The transport has not been dealt with. -/
  silent : g'.transport = g.transport
  /-- Other calls are at most woken, if they sleep until something is published. -/
  others : ∀ d ≠ k.id, g'.call? d = g.call? d ∨ g'.call? d = (g.call? d).map Call.wake
  settings : g'.settings = g.settings
  now : g'.now = g.now
  handles : g'.handles = g.handles
  held : g'.held = g.held
  /-- The tracker and those who read it have let go of the old snapshot. -/
  dropped : s ∈ g'.snapshots →
    (∃ k' ∈ g.calls, k'.phase.snapshot? = some s) ∨ ∃ name, (name, s) ∈ g.held
  kept : g'.isReferenced s.connection = true

/-- What a step does that renews the tracked leader, and what it leaves. -/
structure Refreshes (g : Gateway) (env : Surroundings) (k : Call) (s : Snapshot) (l : Leader)
    (g₁ : Gateway) : Prop where
  considered : g₁ = (g.enter (.locked k.id)).refreshTerm k l.term
  renewed : g.Renewed k s l g₁
  /-- Nothing is let go of afterwards, unless the call was the last that kept the gateway. -/
  released : g₁.release.hasSubscriber = true → g.Renewed k s l g₁.release
  deserted : g₁.release.hasSubscriber = false → g₁.release.IsDeserted
  /-- From then on until the shutdown, every notice is stale that is not under a term newer still. -/
  stale : ∀ actions g' c k' l' answer, g₁.release.run? actions = some g' →
    g'.writer.closed = false → g'.call? c = some k' → k'.task.update? = some (.elect l') →
    l'.term ≤ l.term → (∀ k, g₁.release.call? c = some k → k.phase.ended = false) →
    k'.phase = .finished answer → answer = k'.task.outcome (.ok .stale)
  /-- It is told so as soon as it has the lock, and does nothing. -/
  ignored : ∀ actions g' c k' l' env, g₁.release.run? actions = some g' →
    g'.writer.closed = false → g'.call? c = some k' → k'.phase = .queued (.elect l') →
    g'.lock.holder = some c → l'.term ≤ l.term →
    ∃ g'' k'', g'.step? (.run c env) = some g'' ∧ g''.call? c = some k'' ∧ k''.task = k'.task ∧
      k''.phase = .finished (k'.task.outcome (.ok .stale)) ∧ g'.Untouched g''

/-- Whether a request in flight still waits for the answer that is settled for it, or has got it, or was
given up by its caller. -/
def Unharmed (g : Gateway) (c : CallId) (task : Task) (n : Nat) (request : RequestId) (due : Nat)
    (answer : Answer) (actions : List Action) : Prop :=
  g.Pending c task n request due answer ∨ g.Landed c task due answer ∨
    .abandon c ∈ actions ∧ g.Stands c task .abandoned []

/-- What any number of announcements of the tracked member, under these terms, come to. -/
structure RenewedBy (g : Gateway) (s : Snapshot) (ts : List Term) (ops : List Operation)
    (actions : List Action) (g' : Gateway) : Prop where
  writer : g'.writer = ⟨some (s.renew (ts.foldl max s.leader.term)), false⟩
  value : g'.channel.value = .elected (s.renew (ts.foldl max s.leader.term))
  /-- Each that is under a newer term than all before is told that the term was refreshed. -/
  told : ∀ i op t, ops[i]? = some op → ts[i]? = some t → ∃ k, g'.call? op.call = some k ∧
    k.phase = .finished (k.task.outcome (.ok
      (if (ts.take i).foldl max s.leader.term < t then .termRefreshed else .stale)))
  /-- As long as anybody is left, no connection is opened or closed. -/
  connections : g'.hasSubscriber = true →
    g'.connections = g.connections ∧ turnovers g'.facts = turnovers g.facts ∧
      g'.connections[s.connection]? = some ⟨s.leader.member, false, false, 0⟩
  flights : ∀ c k f, g.call? c = some k → k.phase = .inFlight f →
    f.snapshot.connection = s.connection → g'.Unharmed c k.task s.connection f.request f.due
      (f.answer k.task g.settings.submitTimeout) actions

/-- Whether the leader of a snapshot can be elected again without anything but its term being
changed. -/
structure Renewable (g : Gateway) (s : Snapshot) : Prop where
  refresh : ∀ k l env, g.Renews k s l →
    ∃ g₁, g.act? (.run k.id env) = some g₁ ∧ g.Refreshes env k s l g₁
  /-- So it is any number of times in a row, whatever else happens in between. -/
  row : ∀ actions g' ops ts, g.run? actions = some g' → g'.completed = g.completed ++ ops →
    OnlyAnnounce s.leader.member ts ops → g.RenewedBy s ts ops actions g'
  /-- Once a new leader has a connection, or the gateway was shut down, the connection is closed, and
  was so once. -/
  closes : ∀ actions g', g.run? actions = some g' →
    g.connections.length < g'.connections.length ∨ g'.writer.closed = true →
    (turnovers g'.facts).count (.closed s.connection) = 1 ∧
      ∃ x, g'.connections[s.connection]? = some x ∧ x.IsReleased
  /-- Before that it is not, as long as anybody is left. -/
  stays : ∀ actions g', g.run? actions = some g' →
    g'.connections.length = g.connections.length → g'.writer.closed = false →
    g'.hasSubscriber = true → (turnovers g'.facts).count (.closed s.connection) = 0 ∧
      ∃ x, g'.connections[s.connection]? = some x ∧ x.closed = false ∧ x.retired = false

variable {g g₁ g' : Gateway} {a : Action} {actions : List Action} {c : CallId} {k : Call} {n : Nat}
  {l : Leader} {s : Snapshot} {env : Surroundings} {ops : List Operation} {ts : List Term}

/-! ### One refresh -/

theorem transport_of_notes (h : Notes (·.ofTransport = false) g g₁) : g₁.transport = g.transport := by
  obtain ⟨news, e, hn⟩ := h
  unfold transport
  rw [e, List.filter_append, List.append_right_eq_self, List.filter_eq_nil_iff]
  intro f hf
  simp [hn f hf]

/-- The tracker refreshes the term only where it has found the leader to refresh. -/
theorem consider_of_member (hc : g.writer.closed = false) (ht : g.writer.term < l.term)
    (hm : g.writer.current.any (·.leader.member = l.member) = true) (env : Surroundings) (k : Call) :
    g.consider env k l = g.refreshTerm k l.term ∧ g.writer.current.isSome = true := by
  cases hs : g.writer.current with
  | none => simp [hs] at hm
  | some s =>
    have hmember : s.leader.member = l.member := by simpa [hs] using hm
    have hd : g.writer.decide l = .renew s := by
      simp [Writer.decide, hc, Term.not_le.2 ht, hs, hmember]
    unfold consider refreshTerm
    simp only [hd, hs, Option.isSome_some, and_self]

theorem Renews.proceed (h : g.Renews k s l) (hw : g.writer = ⟨some s, false⟩) (env : Surroundings) :
    g.proceed env k = (g.enter (.locked k.id)).refreshTerm k l.term := by
  have hconsider := consider_of_member (g := g.enter (.locked k.id)) (l := l)
    (congrArg Writer.closed hw) (by exact hw ▸ h.higher)
    (by simp [show (g.enter (.locked k.id)).writer = ⟨some s, false⟩ from hw, h.member]) env k
  unfold Gateway.proceed
  simp only [h.phase, hconsider.1]

theorem Renews.renew (h : g.Renews k s l) : s.renew l.term = ⟨l, s.connection⟩ := by
  simp [Snapshot.renew, ← h.member]

theorem turn_refreshTerm (h : Turn k.id g g₁) (term : Term) :
    UpToAnswer k.id (Turn k.id g) (g₁.refreshTerm k term) := by
  unfold refreshTerm
  split
  · exact turn_concludeUpdate h _
  · exact turn_concludeUpdate ((h.trans (turn_log _)).trans (turn_install _)) _

/-- Refreshing the term is no business of the transport. -/
theorem notes_refreshTerm (g : Gateway) (k : Call) (term : Term) :
    Notes (·.ofTransport = false) g (g.refreshTerm k term) := by
  have hl : ∀ line, (Fact.logged line).ofTransport = false := fun _ => rfl
  unfold refreshTerm
  split
  · exact notes_concludeUpdate hl k _ rfl
  next s _ =>
    have hinstalled : Notes (·.ofTransport = false) g
        ((g.log (.termRefreshed s.leader term)).install (s.renew term)) :=
      (notes_log hl _).trans (notes_install _ rfl)
    exact hinstalled.trans (notes_concludeUpdate hl k _ rfl)

/-- The old snapshot is kept only by those who kept it before. -/
theorem Renews.dropped (h : g.Renews k s l) (hids : (g'.calls.map (·.id)).Nodup)
    (hcurrent : g'.writer.current = some ⟨l, s.connection⟩)
    (hvalue : g'.channel.value = .elected ⟨l, s.connection⟩) (hheld : g'.held = g.held)
    (htold : ∀ k', g'.call? k.id = some k' → k'.phase.snapshot? = none)
    (hothers : ∀ d ≠ k.id, g'.call? d = g.call? d ∨ g'.call? d = (g.call? d).map Call.wake)
    (hs : s ∈ g'.snapshots) :
    (∃ k' ∈ g.calls, k'.phase.snapshot? = some s) ∨ ∃ name, (name, s) ∈ g.held := by
  have hne : (⟨l, s.connection⟩ : Snapshot) ≠ s := by
    intro he
    have hterm : l.term = s.leader.term := congrArg (·.leader.term) he
    exact Term.lt_irrefl _ (hterm ▸ h.higher)
  rcases mem_snapshots hs with hs | hs | ⟨k', hk', hs⟩ | hs
  · exact absurd (Option.some.inj (hcurrent.symm.trans hs)) hne
  · rw [hvalue] at hs
    exact absurd (Option.some.inj hs) hne
  · have hcall := call?_of_mem hids hk'
    by_cases hd : k'.id = k.id
    · simp [htold k' (hd ▸ hcall)] at hs
    · rcases hothers _ hd with he | he <;> rw [hcall] at he
      · exact .inl ⟨k', mem_of_call? he.symm, hs⟩
      · obtain ⟨k₀, hk₀, rfl⟩ := Option.map_eq_some_iff.1 he.symm
        exact .inl ⟨k₀, mem_of_call? hk₀, by simpa [Call.wake] using hs⟩
  · exact .inr (hheld ▸ hs)

/-- What holds of the step by which the tracked leader is renewed, before anything is let go. -/
theorem Renews.renewed (h : g.Renews k s l) (hser : g.Serialized) (hw : g.writer = ⟨some s, false⟩) :
    g.Renewed k s l ((g.enter (.locked k.id)).refreshTerm k l.term) := by
  have hk := h.found
  have hu : k.phase.ended = false := by rw [h.phase]; rfl
  have hupdate : k.task.update? = some (.elect l) :=
    hser.queued _ _ _ (standing?_of_phase hk h.phase)
  have ha : g.channel.abandoned = false := hser.abandoned_of_call hk hu hupdate
  have hr : g.canRun k = true := by simp [canRun, h.phase, h.holds]
  have hlocked : Turn k.id g (g.enter (.locked k.id)) := turn_enter (f := .locked k.id) rfl
  have hturn := turn_refreshTerm hlocked l.term
  have hnotes := (notes_enter (Q := (·.ofTransport = false)) (g := g) (f := .locked k.id) rfl).trans
    (notes_refreshTerm (g.enter (.locked k.id)) k l.term)
  have hrooted := hser.toRooted.outline (.turn hk hu hturn)
  have hrefresh : (g.enter (.locked k.id)).refreshTerm k l.term =
      (((g.enter (.locked k.id)).log (.termRefreshed s.leader l.term)).install
        ⟨l, s.connection⟩).concludeUpdate k (.ok .termRefreshed) := by
    have hcurrent : (g.enter (.locked k.id)).writer.current = some s := congrArg Writer.current hw
    unfold refreshTerm
    simp only [hcurrent, h.renew]
  have hcall : ((g.enter (.locked k.id)).refreshTerm k l.term).call? k.id =
      some { k with phase := .finished (k.task.outcome (.ok .termRefreshed)) } := by
    have hlogged : ((g.enter (.locked k.id)).log (.termRefreshed s.leader l.term)).call? k.id =
        some k := hk
    rw [hrefresh, call?_concludeUpdate, map_call?_install, hlogged]
    rfl
  have hwriter : ((g.enter (.locked k.id)).refreshTerm k l.term).writer =
      ⟨some ⟨l, s.connection⟩, false⟩ := by
    have hclosed : g.writer.closed = false := congrArg Writer.closed hw
    rw [hrefresh, writer_concludeUpdate, writer_install]
    exact congrArg (Writer.mk _) hclosed
  have hvalue : ((g.enter (.locked k.id)).refreshTerm k l.term).channel.value =
      .elected ⟨l, s.connection⟩ := by
    rw [hrefresh, channel_concludeUpdate]
    exact value_install (by exact ha) _
  have hconnections : ((g.enter (.locked k.id)).refreshTerm k l.term).connections =
      g.connections := by
    rw [hrefresh, connections_concludeUpdate, connections_install]
    rfl
  exact {
    told := hcall
    writer := hwriter
    value := hvalue
    connections := hconnections
    isOpen := by
      rw [hconnections, h.member]
      refine hser.connection_of_elected (hasSubscriber_of_call hk hu) ((hser.elected_iff s).2 ?_)
      exact congrArg Writer.current hw
    silent := transport_of_notes hnotes
    others _ := hturn.others
    settings := hturn.settings
    now := hturn.now
    handles := hturn.handles
    held := hturn.held
    dropped := h.dropped hrooted.ids (congrArg Writer.current hwriter) hvalue hturn.held
      (fun k' hk' => by rw [← Option.some.inj (hcall.symm.trans hk')]; rfl) fun _ => hturn.others
    kept := by
      have hsubscriber : ((g.enter (.locked k.id)).refreshTerm k l.term).hasSubscriber = true := by
        simp [hasSubscriber, hturn.abandoned, ha]
      exact isReferenced_of_current (s := ⟨l, s.connection⟩) hsubscriber
        (congrArg Writer.current hwriter) hvalue }

/-- As long as anybody is left, nothing is let go of after the step. -/
theorem Renewed.release (h : g.Renewed k s l g₁) (hr : g.Renews k s l) (hser : g₁.Serialized)
    (hs : g₁.release.hasSubscriber = true) : g.Renewed k s l g₁.release := by
  have he := release_eq_releaseTracker hser.onlyCurrentOpen (fun s => (hser.elected_iff s).2) hs
  have hjournal : g₁.release.journal = g₁.journal := by
    rw [he]
    unfold releaseTracker
    split_ifs <;> rfl
  have hheld : g₁.release.held = g.held := (held_release g₁).trans h.held
  have hconnections : g₁.release.connections = g.connections :=
    (hser.connections_release hs).trans h.connections
  have hwriter := (writer_release g₁).trans h.writer
  have hvalue := (value_release g₁).1.trans h.value
  have htold : g₁.release.call? k.id =
      some { k with phase := .finished (k.task.outcome (.ok .termRefreshed)) } := by
    rcases call?_release g₁ k.id with he | he <;> rw [he, h.told]
    rfl
  have hothers : ∀ d ≠ k.id,
      g₁.release.call? d = g.call? d ∨ g₁.release.call? d = (g.call? d).map Call.wake := by
    intro d hd
    rcases call?_release g₁ d with he | he <;> rcases h.others d hd with ho | ho <;> rw [he, ho]
    · exact .inl rfl
    · exact .inr rfl
    · exact .inr rfl
    · refine .inr ?_
      rw [Option.map_map]
      congr 1
      funext k
      simp [Call.wake]
  exact {
    told := htold
    writer := hwriter
    value := hvalue
    connections := hconnections
    isOpen := by
      rw [hconnections, ← h.connections]
      exact h.isOpen
    silent := by
      rw [← h.silent]
      unfold transport facts
      rw [hjournal]
    others := hothers
    settings := (settings_release g₁).trans h.settings
    now := (now_release g₁).trans h.now
    handles := (handles_release g₁).trans h.handles
    held := hheld
    dropped := hr.dropped hser.toRooted.release.ids (congrArg Writer.current hwriter) hvalue hheld
      (fun k' hk' => by rw [← Option.some.inj (htold.symm.trans hk')]; rfl) hothers
    kept := isReferenced_of_current (s := ⟨l, s.connection⟩) hs (congrArg Writer.current hwriter)
      hvalue }

theorem Renews.refreshes (h : g.Renews k s l) (hg : g.Reachable) (hw : g.writer = ⟨some s, false⟩)
    (env : Surroundings) :
    ∃ g₁, g.act? (.run k.id env) = some g₁ ∧ g.Refreshes env k s l g₁ := by
  have hser := serialized_of_reachable hg
  have hr : g.canRun k = true := by simp [canRun, h.phase, h.holds]
  have hact : g.act? (.run k.id env) = some (g.proceed env k) := by
    simp [act?, runCall?, h.found, hr]
  have hrenewed : g.Renewed k s l (g.proceed env k) := h.proceed hw env ▸ h.renewed hser hw
  have hser₁ := hser.transition (course_of_act? hact).transition
  have hg₁ : (g.proceed env k).release.Reachable := hg.step (by rw [step?, hact]; rfl)
  have hterm : (g.proceed env k).release.writer.term = l.term := by
    rw [writer_release, hrenewed.writer, Writer.term]
  refine ⟨_, hact, {
    considered := h.proceed hw env
    renewed := hrenewed
    released := hrenewed.release h hser₁
    deserted := isDeserted_of_not_hasSubscriber
    stale := ?_
    ignored := ?_ }⟩
  · intro actions g' c k' l' answer hrun hlive hk' hu hl hnew hp
    exact stale_of_run hg₁ hrun hlive hk' hu (hterm ▸ hl) hp hnew
  · intro actions g' c k' l' env' hrun hlive hk' hp hh hl
    have hle := (term_le_of_run hg₁ hrun hlive).2
    exact (hg₁.run hrun).stale_step hlive hk' hp hh (Term.le_trans hl (hterm ▸ hle)) env'

/-! ### Any number of refreshes in a row -/

/-- Nobody comes to receive what is published who did not do so before. -/
theorem hasSubscriber_of_run (hg : g.Reachable) (hr : g.run? actions = some g')
    (hs : g'.hasSubscriber = true) : g.hasSubscriber = true := by
  refine hg.run_induction (P := fun g' => g'.hasSubscriber = true → g.hasSubscriber = true) id ?_ hr hs
  intro a _ g₁ g₂ hg₁ _ ih hc hs
  exact ih (hasSubscriber_of_outline (serialized_of_reachable hg₁).toRooted
    (outline_of_transition hc.transition) (hasSubscriber_of_release hs))

/-- What the tracked leader is after announcements of its member alone. -/
theorem Serialized.renewedBy (h : g.Serialized) (h' : g'.Serialized) (hw : g.writer = ⟨some s, false⟩)
    (hcompleted : g'.completed = g.completed ++ ops)
    (hops : OnlyAnnounce s.leader.member ts ops) :
    g'.writer = ⟨some (s.renew (ts.foldl max s.leader.term)), false⟩ ∧
      (g.hasSubscriber = true → g'.hasSubscriber = true →
        g'.connections = g.connections ∧ turnovers g'.facts = turnovers g.facts) := by
  have hreplayed : (Serial.replay g.completed).writer = ⟨some s, false⟩ := h.writer ▸ hw
  obtain ⟨hwriter, hconnections, hturnovers⟩ := Serial.foldl_apply_of_member hreplayed hops
  rw [← Serial.replay_append, ← hcompleted] at hwriter hconnections hturnovers
  refine ⟨h'.writer.trans hwriter, fun hs hs' => ?_⟩
  have he := h.serial.resolve_right (by simp [hs])
  have he' := h'.serial.resolve_right (by simp [hs'])
  have htrace : g.trace = (Serial.replay g.completed).trace := congrArg Serial.trace he
  have htrace' : g'.trace = (Serial.replay g'.completed).trace := congrArg Serial.trace he'
  constructor
  · exact (congrArg Serial.connections he').trans
      (hconnections.trans (congrArg Serial.connections he).symm)
  · rw [← turnovers_trace g', ← turnovers_trace g, htrace, htrace', hturnovers]

/-- What each of the announcements is told. -/
theorem Serialized.told_of_member (h : g.Serialized) (h' : g'.Serialized)
    (hw : g.writer = ⟨some s, false⟩) (hcompleted : g'.completed = g.completed ++ ops)
    (hops : OnlyAnnounce s.leader.member ts ops) {i : Nat}
    {op : Operation} {t : Term} (hop : ops[i]? = some op) (ht : ts[i]? = some t) :
    ∃ k, g'.call? op.call = some k ∧ k.phase = .finished (k.task.outcome (.ok
      (if (ts.take i).foldl max s.leader.term < t then .termRefreshed else .stale))) := by
  have hi : g'.completed[g.completed.length + i]? = some op := by
    rw [hcompleted, List.getElem?_append_right (Nat.le_add_right _ _), Nat.add_sub_cancel_left, hop]
  obtain ⟨k, hk, hp⟩ := h'.answer hi
  refine ⟨k, hk, ?_⟩
  obtain ⟨k', -, hk', -, -, he⟩ := exists_call?_of_completed (List.mem_of_getElem? hi)
  obtain rfl := Option.some.inj (hk.symm.trans hk')
  have htask : op.task = k.task := by rw [he]
  -- The operations before this one leave the highest of their terms.
  have hwriter := (Serial.foldl_apply_of_member (t := Serial.replay g.completed) (h.writer ▸ hw)
    (hops.take i)).1
  rw [← Serial.replay_append] at hwriter
  have hperform := Serial.perform_of_member hwriter (hops.update hop ht)
  rw [Snapshot.leader_renew] at hperform
  rw [hp, hcompleted, List.take_length_add_append, Serial.answer, htask, hperform]
  split_ifs <;> rfl

theorem Unharmed.course {task : Task} {request : RequestId} {due : Nat} {answer : Answer}
    (h : g.Unharmed c task n request due answer actions) (hg : g.Reachable)
    (hg₁ : g₁.release.Reachable) (ha : a ∈ actions) (hc : Course g a g₁)
    (hopen : g.hasSubscriber = true → g.isRetired n = false) :
    g₁.release.Unharmed c task n request due answer actions := by
  rcases h with h | h | ⟨hasked, hgone⟩
  · obtain ⟨f, hflight, -⟩ := h.flight
    obtain ⟨k, hk, -, hp⟩ := hflight.call
    have hretired := hopen (hasSubscriber_of_call hk (by rw [hp]; rfl))
    rcases h.course hg hg₁ hc with h | h | ⟨he, -⟩ | ⟨rfl, h⟩
    · exact .inl h
    · exact .inr (.inl h)
    · rw [hretired] at he
      cases he
    · exact .inr (.inr ⟨ha, h⟩)
  · exact .inr (.inl (h.course hc))
  · exact .inr (.inr ⟨hasked, (hgone.course_of_ended rfl hc).release rfl⟩)

/-- The connection of the leader that is tracked is not retired as long as anybody is left. -/
theorem Serialized.isRetired_of_current (h : g.Serialized) (hs : g.hasSubscriber = true)
    (hc : g.writer.current = some s) : g.isRetired s.connection = false := by
  unfold isRetired connection?
  rw [h.connection_of_elected hs ((h.elected_iff s).2 hc)]

/-- A request in flight ends as it would have, whatever announcements of the tracked member there are
meanwhile. -/
theorem unharmed_of_run {f : InFlight} (hg : g.Reachable) (hw : g.writer = ⟨some s, false⟩)
    (hk : g.call? c = some k) (hp : k.phase = .inFlight f) (hn : f.snapshot.connection = s.connection)
    (hr : g.run? actions = some g') (hcompleted : g'.completed = g.completed ++ ops)
    (hops : OnlyAnnounce s.leader.member ts ops) :
    g'.Unharmed c k.task s.connection f.request f.due (f.answer k.task g.settings.submitTimeout)
      actions := by
  have hser := serialized_of_reachable hg
  have hstands : g.Stands c k.task (.inFlight f) [] :=
    ⟨⟨k, hk, rfl, hp⟩, hser.answersTo_eq_nil hk (by rw [hp]; rfl)⟩
  have hpending := hn ▸ hstands.pending hg (hg.now_le_due hk hp)
  have hrun := hg.run_induction (P := fun g' => g.completed <+: g'.completed ∧
    ∀ ops ts, g'.completed = g.completed ++ ops → OnlyAnnounce s.leader.member ts ops →
      g'.Unharmed c k.task s.connection f.request f.due (f.answer k.task g.settings.submitTimeout)
        actions) ⟨List.prefix_rfl, fun _ _ _ _ => .inl hpending⟩ ?_ hr
  · exact hrun.2 ops ts hcompleted hops
  intro a ha g₁ g₂ hg₁ hg₂ ⟨⟨ops₁, hops₁⟩, ih⟩ hc
  have hser₁ := serialized_of_reachable hg₁
  obtain ⟨more, hmore⟩ := hser₁.completed_course hc
  refine ⟨⟨ops₁ ++ more, by rw [← List.append_assoc, hops₁, hmore]⟩, fun ops ts hcompleted hops => ?_⟩
  -- What was completed before the step are announcements of the member, too.
  obtain rfl : ops = ops₁ ++ more := by
    rw [← hmore, ← hops₁, List.append_assoc] at hcompleted
    exact (List.append_cancel_left hcompleted).symm
  have hearlier := hops.take ops₁.length
  rw [List.take_left] at hearlier
  have hwriter := (hser.renewedBy hser₁ hw hops₁.symm hearlier).1
  exact (ih ops₁ _ hops₁.symm hearlier).course hg₁ hg₂ ha hc fun hs =>
    hser₁.isRetired_of_current (s := s.renew ((ts.take ops₁.length).foldl max s.leader.term)) hs
      (congrArg Writer.current hwriter)

theorem renewedBy_of_run (hg : g.Reachable) (hw : g.writer = ⟨some s, false⟩)
    (hr : g.run? actions = some g') (hcompleted : g'.completed = g.completed ++ ops)
    (hops : OnlyAnnounce s.leader.member ts ops) :
    g.RenewedBy s ts ops actions g' := by
  have hser := serialized_of_reachable hg
  have hser' := serialized_of_reachable (hg.run hr)
  obtain ⟨hwriter, hkept⟩ := hser.renewedBy hser' hw hcompleted hops
  have hvalue := (hser'.elected_iff _).2 (congrArg Writer.current hwriter)
  exact {
    writer := hwriter
    value := hvalue
    told _ _ _ := hser.told_of_member hser' hw hcompleted hops
    connections hs := by
      obtain ⟨hconnections, hturnovers⟩ := hkept (hasSubscriber_of_run hg hr hs) hs
      have hopen := hser'.connection_of_elected
        (s := s.renew (ts.foldl max s.leader.term)) hs hvalue
      exact ⟨hconnections, hturnovers, hopen⟩
    flights _ _ _ hk hp hn := unharmed_of_run hg hw hk hp hn hr hcompleted hops }

/-! ### The end of the connection -/

theorem closed_of_run (hg : g.Reachable) (hc : g.writer.current = some s)
    (hr : g.run? actions = some g')
    (hend : g.connections.length < g'.connections.length ∨ g'.writer.closed = true) :
    (turnovers g'.facts).count (.closed s.connection) = 1 ∧
      ∃ x, g'.connections[s.connection]? = some x ∧ x.IsReleased := by
  have hser' := serialized_of_reachable (hg.run hr)
  have hlength := (serialized_of_reachable hg).length_of_current hc
  have hlt : s.connection < g'.connections.length := lt_length_of_run hg hr (by omega)
  have hx : g'.connections[s.connection]? = some g'.connections[s.connection] :=
    List.getElem?_eq_getElem hlt
  have hreleased : g'.connections[s.connection].IsReleased := by
    refine hser'.isReleased hx fun s' hs' he => ?_
    rcases hend with hlonger | hclosed
    · have hlength' := hser'.length_of_current hs'
      omega
    · rw [hser'.vacant hclosed] at hs'
      cases hs'
  exact ⟨(hser'.count_closed hx).trans hreleased.2.2, _, hx, hreleased⟩

theorem open_of_run (hg : g.Reachable) (hc : g.writer.current = some s)
    (hr : g.run? actions = some g') (hlength : g'.connections.length = g.connections.length)
    (hlive : g'.writer.closed = false) (hs : g'.hasSubscriber = true) :
    (turnovers g'.facts).count (.closed s.connection) = 0 ∧
      ∃ x, g'.connections[s.connection]? = some x ∧ x.closed = false ∧ x.retired = false := by
  have hser' := serialized_of_reachable (hg.run hr)
  rw [(serialized_of_reachable hg).length_of_current hc] at hlength
  cases hc' : g'.writer.current with
  | none =>
    have hvacant := hser'.length_of_vacant hlive hc'
    omega
  | some s' =>
    have hlength' := hser'.length_of_current hc'
    obtain he : s'.connection = s.connection := by omega
    have hx := he ▸ hser'.connection_of_elected hs ((hser'.elected_iff s').2 hc')
    exact ⟨hser'.count_closed hx, _, hx, rfl, rfl⟩

/-! ### Every state -/

theorem renewable_of_current (hg : g.Reachable) (hc : g.writer.current = some s) :
    g.Renewable s := by
  have hlive : g.writer.closed = false := by
    by_contra hclosed
    rw [(serialized_of_reachable hg).vacant (by simpa using hclosed)] at hc
    cases hc
  have hw : g.writer = ⟨some s, false⟩ := by rw [← hc, ← hlive]
  exact {
    refresh _ _ env h := h.refreshes hg hw env
    row _ _ _ _ := renewedBy_of_run hg hw
    closes _ _ := closed_of_run hg hc
    stays _ _ := open_of_run hg hc }

/-- A leader with a request in flight, and the news that it was elected again, which has the lock. -/
def confirmation : List Action :=
  elect 0 .gateway ⟨.numbered "a" 1, ⟨1⟩⟩ .silent ++
    ask 1 .gateway .silent 3 ++
    undertake 2 .gateway (.notice (.direct ⟨.numbered "a" 1, ⟨2⟩⟩)) .silent 1

theorem renewable_of_confirmation :
    ∃ g s k l, (create (.ofOptions { cancelInFlightOnSwap := some true }) [.gateway]).run?
        confirmation = some g ∧
      g.writer.current = some s ∧ g.call? 2 = some k ∧ g.Renews k s l ∧ g.Renewable s :=
  ⟨_, ⟨⟨.numbered "a" 1, ⟨1⟩⟩, 0⟩, _, ⟨.numbered "a" 1, ⟨2⟩⟩,
    rfl, rfl, rfl, ⟨rfl, rfl, rfl, rfl, by decide⟩,
    renewable_of_current
      ⟨.ofOptions { cancelInFlightOnSwap := some true }, [.gateway], confirmation, rfl⟩ rfl⟩

end Gateway

end LeaderRouting
