import LeaderRouting.Proofs.Gateway.Ownership

/-!
States that look alike once some calls are left out of account, together with what the journal says of
them, and with all log lines.  Whatever is done to both of two such states leaves them looking alike.
-/

namespace LeaderRouting.Gateway

/-- Whether the fact is about the tracked leader, or about a call that is not left out. -/
def Fact.isSeen (hidden : CallId → Bool) (f : Fact) : Bool :=
  f.ofTracker || f.caller?.any (!hidden ·)

/-- Whether two states show the same once some calls are left out.  Whether requests are cancelled with
their connection does not show. -/
structure Alike (hidden : CallId → Bool) (g g' : Gateway) : Prop where
  submitTimeout : g'.settings.submitTimeout = g.settings.submitTimeout
  leaderWaitTimeout : g'.settings.leaderWaitTimeout = g.settings.leaderWaitTimeout
  now : g'.now = g.now
  writer : g'.writer = g.writer
  lock : g'.lock = g.lock
  channel : g'.channel = g.channel
  connections : g'.connections = g.connections
  handles : g'.handles = g.handles
  held : g'.held = g.held
  calls : (g'.calls.filter fun k => !hidden k.id) = g.calls.filter fun k => !hidden k.id
  journal : (g'.journal.filter fun e => e.fact.isSeen hidden) =
    g.journal.filter fun e => e.fact.isSeen hidden

variable {hidden : CallId → Bool} {g g' g₁ : Gateway} {c : CallId} {k k' : Call} {f : Fact}
  {env : Surroundings}

/-- What is done to calls one by one is done to those that are not left out. -/
theorem filter_map_calls {f : Call → Call} (hf : ∀ k, (f k).id = k.id) (ks : List Call) :
    ((ks.map f).filter fun k => !hidden k.id) = (ks.filter fun k => !hidden k.id).map f := by
  rw [List.filter_map]
  congr 2
  funext k
  simp [hf]

theorem filter_of_hidden (hc : hidden c = true) (ks : List Call) :
    (ks.filter fun k => !hidden k.id) = (ks.filter (·.id ≠ c)).filter fun k => !hidden k.id := by
  rw [List.filter_filter]
  congr 1
  funext k
  by_cases hk : k.id = c <;> simp [hk, hc]

theorem alike_finish (hc : hidden c = true) (answer : Answer) : Alike hidden g (g.finish c answer) where
  submitTimeout := by rw [settings_finish]
  leaderWaitTimeout := by rw [settings_finish]
  now := now_finish g c answer
  writer := writer_finish g c answer
  lock := lock_finish g c answer
  channel := channel_finish g c answer
  connections := by
    unfold finish logIfAny
    cases answer.line? <;> rfl
  handles := handles_finish g c answer
  held := by
    unfold finish logIfAny
    cases answer.line? <;> rfl
  calls := by
    have hphase := filter_ne_setPhase (g.logIfAny answer.line?) c (.finished answer)
    have hlogged : (g.logIfAny answer.line?).calls = g.calls := by
      unfold logIfAny
      cases answer.line? <;> rfl
    rw [filter_of_hidden hc, filter_of_hidden hc g.calls, ← hlogged]
    exact congrArg _ hphase
  journal := by
    rw [journal_finish]
    cases answer.line? <;>
      simp [Fact.isSeen, Fact.ofTracker, Fact.caller?, hc]

namespace Alike

theorem refl (g : Gateway) : Alike hidden g g :=
  ⟨rfl, rfl, rfl, rfl, rfl, rfl, rfl, rfl, rfl, rfl, rfl⟩

theorem symm (h : Alike hidden g g') : Alike hidden g' g where
  submitTimeout := h.submitTimeout.symm
  leaderWaitTimeout := h.leaderWaitTimeout.symm
  now := h.now.symm
  writer := h.writer.symm
  lock := h.lock.symm
  channel := h.channel.symm
  connections := h.connections.symm
  handles := h.handles.symm
  held := h.held.symm
  calls := h.calls.symm
  journal := h.journal.symm

theorem trans (h : Alike hidden g g') (h₁ : Alike hidden g' g₁) : Alike hidden g g₁ where
  submitTimeout := h₁.submitTimeout.trans h.submitTimeout
  leaderWaitTimeout := h₁.leaderWaitTimeout.trans h.leaderWaitTimeout
  now := h₁.now.trans h.now
  writer := h₁.writer.trans h.writer
  lock := h₁.lock.trans h.lock
  channel := h₁.channel.trans h.channel
  connections := h₁.connections.trans h.connections
  handles := h₁.handles.trans h.handles
  held := h₁.held.trans h.held
  calls := h₁.calls.trans h.calls
  journal := h₁.journal.trans h.journal

/-- Calls that are not left out are the same. -/
theorem call? (h : Alike hidden g g') (hc : hidden c = false) : g'.call? c = g.call? c := by
  have hfind : ∀ g : Gateway, g.call? c = (g.calls.filter fun k => !hidden k.id).find? (·.id = c) := by
    intro g
    rw [List.find?_filter]
    unfold Gateway.call?
    congr 1
    funext k
    by_cases hk : k.id = c <;> simp [hk, hc]
  rw [hfind, hfind, h.calls]

/-- What looks alike does so still when more is left out. -/
theorem mono {hidden' : CallId → Bool} (h : Alike hidden g g')
    (hh : ∀ c, hidden c = true → hidden' c = true) : Alike hidden' g g' := by
  have hcalls : ∀ ks : List Call, (ks.filter fun k => !hidden' k.id) =
      (ks.filter fun k => !hidden k.id).filter fun k => !hidden' k.id := by
    intro ks
    rw [List.filter_filter]
    congr 1
    funext k
    cases hk : hidden k.id with
    | false => simp
    | true => simp [hh _ hk]
  have hjournal : ∀ es : List Entry, (es.filter fun e => e.fact.isSeen hidden') =
      (es.filter fun e => e.fact.isSeen hidden).filter fun e => e.fact.isSeen hidden' := by
    intro es
    rw [List.filter_filter]
    congr 1
    funext e
    unfold Fact.isSeen
    cases e.fact.ofTracker with
    | true => rfl
    | false =>
      cases hf : e.fact.caller? with
      | none => rfl
      | some c =>
        cases hc : hidden c with
        | false => simp [hc]
        | true => simp [hc, hh c hc]
  exact { h with
    calls := by rw [hcalls, hcalls g.calls, h.calls]
    journal := by rw [hjournal, hjournal g.journal, h.journal] }

/-- What is seen is on record in both, at the same moments and in the same order. -/
theorem journal_filter (h : Alike hidden g g') {P : Fact → Bool}
    (hP : ∀ f, P f = true → f.isSeen hidden = true) :
    (g'.journal.filter fun e => P e.fact) = g.journal.filter fun e => P e.fact := by
  have hseen : ∀ es : List Entry, (es.filter fun e => P e.fact) =
      (es.filter fun e => e.fact.isSeen hidden).filter fun e => P e.fact := by
    intro es
    rw [List.filter_filter]
    congr 1
    funext e
    cases he : P e.fact with
    | false => simp
    | true => simp [hP _ he]
  rw [hseen, hseen g.journal, h.journal]

theorem mem_journal (h : Alike hidden g g') {e : Entry} (he : e.fact.isSeen hidden = true) :
    e ∈ g'.journal ↔ e ∈ g.journal := by
  have hmem := congrArg (e ∈ ·) h.journal
  simpa [List.mem_filter, he] using hmem

/-! ### Primitive changes -/

theorem enter (h : Alike hidden g g') (f : Fact) : Alike hidden (g.enter f) (g'.enter f) := by
  refine { h with journal := ?_ }
  simp only [Gateway.enter, List.filter_append, h.journal, h.now]

theorem log (h : Alike hidden g g') (line line' : LogLine) :
    Alike hidden (g.log line) (g'.log line') := by
  have hline : ∀ line, (Fact.logged line).isSeen hidden = false := fun _ => rfl
  refine { h with journal := ?_ }
  simp [Gateway.log, Gateway.enter, hline, h.journal]

theorem logIfAny (h : Alike hidden g g') (line : Option LogLine) :
    Alike hidden (g.logIfAny line) (g'.logIfAny line) := by
  cases line with
  | none => exact h
  | some line => exact h.log line line

theorem mapCalls (h : Alike hidden g g') {f : Call → Call} (hf : ∀ k, (f k).id = k.id) :
    Alike hidden { g with calls := g.calls.map f } { g' with calls := g'.calls.map f } := by
  refine { h with calls := ?_ }
  rw [filter_map_calls hf, filter_map_calls hf, h.calls]

theorem setPhase (h : Alike hidden g g') (c : CallId) (p : Phase) :
    Alike hidden (g.setPhase c p) (g'.setPhase c p) :=
  h.mapCalls fun k => by split_ifs <;> rfl

theorem setSeen (h : Alike hidden g g') (c : CallId) (version : Nat) :
    Alike hidden (g.setSeen c version) (g'.setSeen c version) :=
  h.mapCalls fun k => by split_ifs <;> rfl

theorem wakeAll (h : Alike hidden g g') : Alike hidden g.wakeAll g'.wakeAll :=
  have hid : ∀ k, (Call.wake k).id = k.id := fun _ => rfl
  h.mapCalls hid

theorem setLock (h : Alike hidden g g') (l : Lock) :
    Alike hidden { g with lock := l } { g' with lock := l } :=
  { h with lock := rfl }

theorem setWriter (h : Alike hidden g g') (w : Writer) :
    Alike hidden { g with writer := w } { g' with writer := w } :=
  { h with writer := rfl }

theorem setChannel (h : Alike hidden g g') (ch : Channel) :
    Alike hidden { g with channel := ch } { g' with channel := ch } :=
  { h with channel := rfl }

theorem setConnections (h : Alike hidden g g') (ks : List Connection) :
    Alike hidden { g with connections := ks } { g' with connections := ks } :=
  { h with connections := rfl }

theorem finish (h : Alike hidden g g') (c : CallId) (a : Answer) :
    Alike hidden (g.finish c a) (g'.finish c a) :=
  ((h.logIfAny a.line?).setPhase c _).enter _

/-- What a call that is left out answers does not show. -/
theorem finish_of_hidden (h : Alike hidden g g') (hc : hidden c = true) (a a' : Answer) :
    Alike hidden (g.finish c a) (g'.finish c a') :=
  ((alike_finish hc a).symm.trans h).trans (alike_finish hc a')

/-- While the tracker lives, what it publishes is heard. -/
theorem publish (h : Alike hidden g g') (ha : g.channel.abandoned = false) (p : Published) :
    Alike hidden (g.publish p) (g'.publish p) := by
  have hs : g.hasSubscriber = true := by simp [hasSubscriber, ha]
  have hs' : g'.hasSubscriber = true := by simp [hasSubscriber, h.channel, ha]
  unfold Gateway.publish
  rw [if_pos hs, if_pos hs', h.channel]
  exact ((h.setChannel (g.channel.publish p)).enter (.published p)).wakeAll

theorem closeConnection (h : Alike hidden g g') (n : Nat) :
    Alike hidden (g.closeConnection n) (g'.closeConnection n) := by
  unfold Gateway.closeConnection connection?
  rw [h.connections]
  split
  · exact h
  · split_ifs
    · exact h
    next x _ _ =>
      exact ((h.setConnections (g.connections.set n x.close)).enter (.closed n x.member)).log _ _

/-! ### Changing the tracked leader -/

theorem install (h : Alike hidden g g') (ha : g.channel.abandoned = false) (s : Snapshot) :
    Alike hidden (g.install s) (g'.install s) := by
  unfold Gateway.install
  rw [h.writer]
  exact (h.setWriter { g.writer with current := some s }).publish ha (.elected s)

theorem closePrevious (h : Alike hidden g g') (previous : Option Snapshot) :
    Alike hidden (g.closePrevious previous) (g'.closePrevious previous) := by
  cases previous with
  | none => exact h
  | some s => exact h.closeConnection s.connection

/-- The calls may have been told in different ways, as long as one that is not left out is the same
in both. -/
theorem concludeUpdate (h : Alike hidden g g') (hk : k'.id = k.id)
    (ht : hidden k.id = true ∨ k'.task = k.task) (r : Except TransportError Verdict) :
    Alike hidden (g.concludeUpdate k r) (g'.concludeUpdate k' r) := by
  have hreleased := h.setLock g.lock.release
  rw [concludeUpdate_eq, concludeUpdate_eq, depart, depart, hk, h.lock]
  rcases ht with hc | ht
  · exact hreleased.finish_of_hidden hc _ _
  · rw [ht]
    exact hreleased.finish k.id _

theorem consider (h : Alike hidden g g') (ha : g.channel.abandoned = false) (env : Surroundings)
    (hk : k'.id = k.id) (ht : hidden k.id = true ∨ k'.task = k.task) (l : Leader) :
    Alike hidden (g.consider env k l) (g'.consider env k' l) := by
  unfold Gateway.consider
  rw [h.writer, h.now]
  split
  · exact (h.log _ _).concludeUpdate hk ht _
  · exact (h.log _ _).concludeUpdate hk ht _
  · exact ((h.log _ _).install ha _).concludeUpdate hk ht _
  · rw [hk]
    exact (h.log _ _).setPhase k.id _

theorem completeOpen (h : Alike hidden g g') (ha : g.channel.abandoned = false)
    (env : Surroundings) (hk : k'.id = k.id) (ht : hidden k.id = true ∨ k'.task = k.task)
    (l : Leader) : Alike hidden (g.completeOpen env k l) (g'.completeOpen env k' l) := by
  unfold Gateway.completeOpen
  dsimp only
  have hcurrent : g'.writer.current = g.writer.current := by rw [h.writer]
  rw [h.connections, hcurrent, hk]
  split
  · exact ((h.enter _).log _ _).concludeUpdate hk ht _
  · have hopened := ((h.setConnections (g.connections ++ [⟨l.member, false, false, 0⟩])).enter
      (.opened k.id g.connections.length l.member)).log (.connectionOpened l.member)
        (.connectionOpened l.member)
    exact ((hopened.install ha (Snapshot.mk l g.connections.length)).closePrevious
      g.writer.current).concludeUpdate hk ht (.ok .newLeader)

theorem shutDown (h : Alike hidden g g') (ha : g.channel.abandoned = false) (k : Call) :
    Alike hidden (g.shutDown k) (g'.shutDown k) := by
  unfold Gateway.shutDown
  dsimp only
  rw [h.writer]
  split_ifs
  · exact h.concludeUpdate rfl (.inr rfl) _
  · have hclosed := ((h.setWriter ⟨none, true⟩).publish ha .closed).closePrevious g.writer.current
    exact (hclosed.log .trackerShutDown .trackerShutDown).concludeUpdate rfl (.inr rfl) (.ok .closed)

theorem requestLock (h : Alike hidden g g') (hk : k'.id = k.id) (u : Update) :
    Alike hidden (g.requestLock k u) (g'.requestLock k' u) := by
  unfold Gateway.requestLock
  rw [h.lock, hk]
  exact (h.setLock (g.lock.request k.id)).setPhase k.id (.queued u)

theorem beginNotice (h : Alike hidden g g') (k : Call) (notice : Notice) :
    Alike hidden (g.beginNotice k notice) (g'.beginNotice k notice) := by
  have hlogged := h.logIfAny notice.line?
  unfold Gateway.beginNotice
  dsimp only
  split
  · exact hlogged.requestLock rfl _
  · exact hlogged.finish k.id _
  · exact hlogged.finish k.id _

/-! ### Waiting for a leader -/

theorem found (h : Alike hidden g g') (k : Call) (s : Snapshot) :
    Alike hidden (g.found k s) (g'.found k s) := by
  unfold Gateway.found
  split
  · exact h.finish k.id _
  · exact h.setPhase k.id _

theorem fail (h : Alike hidden g g') (k : Call) (e : GatewayError) :
    Alike hidden (g.fail k e) (g'.fail k e) :=
  h.finish k.id _

theorem waitLimit (h : Alike hidden g g') (k : Call) : g'.waitLimit k = g.waitLimit k := by
  unfold Gateway.waitLimit
  rw [h.leaderWaitTimeout]

theorem beginWait (h : Alike hidden g g') (k : Call) :
    Alike hidden (g.beginWait k) (g'.beginWait k) := by
  unfold Gateway.beginWait
  rw [h.channel, h.now, h.waitLimit k]
  split
  · exact h.found k _
  · exact h.fail k _
  · exact (h.log _ _).setPhase k.id _

theorem look (h : Alike hidden g g') (k : Call) (deadline : Option Nat) :
    Alike hidden (g.look k deadline) (g'.look k deadline) := by
  unfold Gateway.look
  rw [h.channel]
  split
  · exact h.found k _
  · exact h.fail k _
  · exact h.setPhase k.id _

theorem check (h : Alike hidden g g') (k : Call) (deadline : Option Nat) :
    Alike hidden (g.check k deadline) (g'.check k deadline) := by
  unfold Gateway.check
  rw [h.channel]
  split_ifs
  · exact (h.setSeen k.id _).setPhase k.id _
  · exact h.fail k _
  · exact (h.setPhase k.id _).enter _

theorem wakeUp (h : Alike hidden g g') (k : Call) (deadline : Option Nat) (woken : Bool) :
    Alike hidden (g.wakeUp k deadline woken) (g'.wakeUp k deadline woken) := by
  unfold Gateway.wakeUp
  rw [h.waitLimit k]
  split_ifs
  · exact h.setPhase k.id _
  · split
    · exact h
    · exact h.fail k _

theorem begin (h : Alike hidden g g') (k : Call) : Alike hidden (g.begin k) (g'.begin k) := by
  unfold Gateway.begin
  split
  · exact h.beginNotice k _
  · exact h.requestLock rfl .shutdown
  all_goals exact h.beginWait k

/-! ### Sending a request -/

theorem conclude (h : Alike hidden g g') (k : Call) (s : Snapshot) (request : RequestId)
    (r : Except TransportError Response) :
    Alike hidden (g.conclude k s request r) (g'.conclude k s request r) := by
  unfold Gateway.conclude
  split
  · exact (h.log _ _).fail k _
  · split
    · exact h.finish k.id _
    · exact (h.log _ _).fail k _

theorem supersede (h : Alike hidden g g') (k : Call) (s : Snapshot) (request : RequestId) :
    Alike hidden (g.supersede k s request) (g'.supersede k s request) :=
  (h.log _ _).fail k _

theorem letIn (h : Alike hidden g g') (k : Call) (a : Admission) :
    Alike hidden (g.letIn k a) (g'.letIn k a) :=
  (h.enter _).setPhase k.id _

theorem handOver (h : Alike hidden g g') (env : Surroundings) (k : Call) (a : Admission) :
    Alike hidden (g.handOver env k a) (g'.handOver env k a) := by
  unfold Gateway.handOver
  dsimp only
  rw [h.now, h.submitTimeout]
  exact (h.enter _).setPhase k.id _

theorem isRetired (h : Alike hidden g g') (n : Nat) : g'.isRetired n = g.isRetired n := by
  unfold Gateway.isRetired connection?
  rw [h.connections]

end Alike

end LeaderRouting.Gateway
