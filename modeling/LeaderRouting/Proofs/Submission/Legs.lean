import LeaderRouting.Proofs.Gateway.Standing

/-!
The legs of a request's way: from which phase to which a step takes a call that sends a request, and
what the journal says of the request's passage meanwhile.
-/

namespace LeaderRouting

/-- The request as it is handed over. -/
def Submission.request (sub : Submission) (env : Surroundings) : Request :=
  ⟨env.requestId, sub.operation, sub.arguments⟩

namespace Gateway

/-- Whether the fact is that the call handed a request over, or took what came back for it. -/
def Fact.ofRequest (c : CallId) : Fact → Bool
  | .submitted d _ _ _ | .replied d _ => d = c
  | _ => false

def dealings (g : Gateway) (c : CallId) : List Fact :=
  g.facts.filter (Fact.ofRequest c)

/-- Whether the fact is about the passage of the call's request, which begins when a connection lets it
in. -/
def Fact.ofPassage (c : CallId) : Fact → Bool
  | .admitted d _ _ _ | .submitted d _ _ _ | .replied d _ => d = c
  | _ => false

def passages (g : Gateway) (c : CallId) : List Fact :=
  g.facts.filter (Fact.ofPassage c)

/-- The answer of a call whose request came to this result. -/
def Task.conclusion (task : Task) (request : RequestId) (r : Except TransportError Response) :
    Answer :=
  match r with
  | .error e => task.failed (.submissionFailed request (.transport e))
  | .ok response =>
    match task.delivered response.result with
    | .ok a => a
    | .error e => task.failed (.submissionFailed request (.undecodable e))

/-- Whether a call in this phase is still after a leader. -/
def Phase.seeks : Phase → Bool
  | created | reading _ | checking _ | suspended _ _ => true
  | _ => false

/-- The request in flight, from the moment at which it is handed over. -/
def flight (g : Gateway) (env : Surroundings) (a : Admission) : InFlight where
  snapshot := a.snapshot
  request := a.request.id
  repliedAt := (env.reply a.member a.request).delay.map (g.now + ·)
  feedback := (env.reply a.member a.request).feedback
  deadline := g.now + g.settings.submitTimeout.ceilMillis

/-- One step of a call that sends a request: the phases before and after, and the passage. -/
inductive Leg (g : Gateway) (env : Surroundings) (c : CallId) (task : Task) (sub : Submission) :
    Phase → Phase → List Fact → Prop
  | seek {p p' : Phase} (before : p.seeks = true) (after : p'.seeks = true) :
      Leg g env c task sub p p' []
  | found {p : Phase} {s : Snapshot} (before : p.seeks = true)
      (shown : g.channel.value = .elected s) : Leg g env c task sub p (.sending s) []
  | turnedAway {p : Phase} {e : GatewayError} (before : p.seeks = true)
      (early : e = .closed ∨ ∃ d, e = .noLeaderAvailable d) :
      Leg g env c task sub p (.finished (task.failed e)) []
  /-- The connection is closed, or there is none. -/
  | disconnected {s : Snapshot} : Leg g env c task sub (.sending s) (.finished (task.failed
      (.submissionFailed env.requestId (.transport .disconnected)))) []
  /-- The connection is closed, and the call notices that a new leader has replaced the old one. -/
  | overtaken {s : Snapshot} (cancels : g.settings.cancelInFlightOnSwap = true) :
      Leg g env c task sub (.sending s)
        (.finished (task.failed (.submissionFailed env.requestId .superseded))) []
  | letIn {s : Snapshot} {x : Connection} (found : g.connections[s.connection]? = some x)
      (isOpen : x.closed = false) : Leg g env c task sub (.sending s)
        (.admitted ⟨s, x.member, sub.request env⟩)
        [.admitted c s.connection x.member (sub.request env)]
  /-- Whether or not the connection was closed meanwhile. -/
  | handOver {a : Admission} : Leg g env c task sub (.admitted a) (.inFlight (g.flight env a))
      [.submitted c a.snapshot.connection a.member a.request]
  | superseded {f : InFlight} (noticed : g.isSuperseded f = true) : Leg g env c task sub (.inFlight f)
      (.finished (task.failed (.submissionFailed f.request .superseded))) []
  | replied {f : InFlight} (due : g.isDue f.repliedAt = true) : Leg g env c task sub (.inFlight f)
      (.finished (task.conclusion f.request f.feedback.result)) [.replied c f.feedback]
  | timedOut {f : InFlight} (late : g.isDue f.repliedAt = false) : Leg g env c task sub (.inFlight f)
      (.finished (task.failed (.submissionTimeout f.request g.settings.submitTimeout))) []

variable {g g₁ g₂ : Gateway} {c d : CallId} {k : Call} {f : Fact} {p : Phase} {fs : List Fact}
  {env : Surroundings} {sub : Submission}

theorem Phase.ended_of_seeks (h : p.seeks = true) : p.ended = false := by
  cases p <;> first | rfl | simp [seeks] at h

theorem Phase.ne_inFlight_of_seeks (h : p.seeks = true) (f : InFlight) : p ≠ .inFlight f := by
  rintro rfl
  simp [seeks] at h

/-! ### Passages and dealings -/

theorem passages_enter (g : Gateway) (c : CallId) (f : Fact) :
    (g.enter f).passages c = g.passages c ++ if f.ofPassage c then [f] else [] := by
  unfold passages
  rw [facts_enter, List.filter_append]
  cases h : f.ofPassage c <;> simp [h]

@[simp] theorem passages_log (g : Gateway) (c : CallId) (line : LogLine) :
    (g.log line).passages c = g.passages c := by
  unfold log
  rw [passages_enter]
  exact List.append_nil _

@[simp] theorem passages_logIfAny (g : Gateway) (c : CallId) (line : Option LogLine) :
    (g.logIfAny line).passages c = g.passages c := by
  cases line with
  | none => rfl
  | some line => exact passages_log g c line

@[simp] theorem passages_finish (g : Gateway) (c d : CallId) (a : Answer) :
    (g.finish d a).passages c = g.passages c := by
  unfold finish
  rw [passages_enter]
  exact (List.append_nil _).trans (passages_logIfAny g c a.line?)

theorem filter_passages (fs : List Fact) (c : CallId) :
    (fs.filter (Fact.ofPassage c)).filter (Fact.ofRequest c) = fs.filter (Fact.ofRequest c) := by
  rw [List.filter_filter]
  congr 1
  funext f
  cases f <;> simp [Fact.ofPassage, Fact.ofRequest]

/-- Dealings are part of the passage. -/
theorem dealings_eq (g : Gateway) (c : CallId) :
    g.dealings c = (g.passages c).filter (Fact.ofRequest c) :=
  (filter_passages g.facts c).symm

theorem dealings_enter (g : Gateway) (c : CallId) (f : Fact) :
    (g.enter f).dealings c = g.dealings c ++ if f.ofRequest c then [f] else [] := by
  unfold dealings
  rw [facts_enter, List.filter_append]
  cases h : f.ofRequest c <;> simp [h]

@[simp] theorem dealings_log (g : Gateway) (c : CallId) (line : LogLine) :
    (g.log line).dealings c = g.dealings c := by
  rw [dealings_eq, passages_log, ← dealings_eq]

@[simp] theorem dealings_logIfAny (g : Gateway) (c : CallId) (line : Option LogLine) :
    (g.logIfAny line).dealings c = g.dealings c := by
  rw [dealings_eq, passages_logIfAny, ← dealings_eq]

@[simp] theorem dealings_finish (g : Gateway) (c d : CallId) (a : Answer) :
    (g.finish d a).dealings c = g.dealings c := by
  rw [dealings_eq, passages_finish, ← dealings_eq]

/-! ### Where a step leads -/

/-- Whether a call has come to this phase, and what has become of its request on the way. -/
structure Comes (c : CallId) (g g₁ : Gateway) (p : Phase) (fs : List Fact) : Prop where
  phase : ∀ k, g₁.call? c = some k → k.phase = p
  passages : g₁.passages c = g.passages c ++ fs

theorem Comes.dealings (h : Comes c g g₁ p fs) :
    g₁.dealings c = g.dealings c ++ fs.filter (Fact.ofRequest c) := by
  rw [dealings_eq, h.passages, List.filter_append, ← dealings_eq]

theorem comes_setPhase (h : g₁.passages c = g.passages c ++ fs) (p : Phase) :
    Comes c g (g₁.setPhase c p) p fs := by
  refine ⟨fun k hk => ?_, h⟩
  rw [call?_setPhase_self] at hk
  obtain ⟨k₀, -, rfl⟩ := Option.map_eq_some_iff.1 hk
  rfl

theorem comes_finish (h : g₁.passages c = g.passages c ++ fs) (a : Answer) :
    Comes c g (g₁.finish c a) (.finished a) fs := by
  refine ⟨fun k hk => ?_, by rw [passages_finish, h]⟩
  rw [call?_finish, if_pos rfl] at hk
  obtain ⟨k₀, -, rfl⟩ := Option.map_eq_some_iff.1 hk
  rfl

/-- Whether a call has taken a leg. -/
def Takes (g : Gateway) (env : Surroundings) (k : Call) (sub : Submission) (g₁ : Gateway) : Prop :=
  ∃ p fs, Leg g env k.id k.task sub k.phase p fs ∧ Comes k.id g g₁ p fs

theorem conclude_eq (g : Gateway) (k : Call) (s : Snapshot) (request : RequestId)
    (r : Except TransportError Response) :
    ∃ line, g.conclude k s request r =
      (g.logIfAny line).finish k.id (k.task.conclusion request r) := by
  cases r with
  | error e => exact ⟨some _, rfl⟩
  | ok response =>
    unfold conclude Task.conclusion
    dsimp only
    cases k.task.delivered response.result with
    | ok a => exact ⟨none, rfl⟩
    | error e => exact ⟨some _, rfl⟩

theorem comes_conclude (h : g₁.passages k.id = g.passages k.id ++ fs) (s : Snapshot)
    (request : RequestId) (r : Except TransportError Response) :
    Comes k.id g (g₁.conclude k s request r) (.finished (k.task.conclusion request r)) fs := by
  obtain ⟨line, he⟩ := conclude_eq g₁ k s request r
  exact he ▸ comes_finish ((passages_logIfAny g₁ k.id line).trans h) _

theorem takes_found (hs : k.task.submission? = some sub) (hp : k.phase.seeks = true) {s : Snapshot}
    (hv : g.channel.value = .elected s) : Takes g env k sub (g.found k s) := by
  have he : g.found k s = g.setPhase k.id (.sending s) := by simp [found, hs]
  exact ⟨_, _, .found hp hv, he ▸ comes_setPhase (List.append_nil _).symm _⟩

theorem takes_fail (hp : k.phase.seeks = true) {e : GatewayError}
    (he : e = .closed ∨ ∃ d, e = .noLeaderAvailable d) : Takes g env k sub (g.fail k e) :=
  ⟨_, _, .turnedAway hp he, comes_finish (List.append_nil _).symm _⟩

theorem takes_seek (hp : k.phase.seeks = true) (hp' : p.seeks = true)
    (h : g₁.passages k.id = g.passages k.id) : Takes g env k sub (g₁.setPhase k.id p) :=
  ⟨_, _, .seek hp hp', comes_setPhase (h.trans (List.append_nil _).symm) _⟩

theorem takes_beginWait (hs : k.task.submission? = some sub) (hp : k.phase.seeks = true) :
    Takes g env k sub (g.beginWait k) := by
  unfold beginWait
  split
  next s hv => exact takes_found hs hp hv
  · exact takes_fail hp (.inl rfl)
  · exact takes_seek hp rfl (passages_log g k.id _)

theorem takes_look (hs : k.task.submission? = some sub) (hp : k.phase.seeks = true)
    (deadline : Option Nat) : Takes g env k sub (g.look k deadline) := by
  unfold look
  split
  next s hv => exact takes_found hs hp hv
  · exact takes_fail hp (.inl rfl)
  · exact takes_seek hp rfl rfl

theorem takes_check (hp : k.phase.seeks = true) (deadline : Option Nat) :
    Takes g env k sub (g.check k deadline) := by
  unfold check
  split_ifs
  · exact takes_seek hp rfl rfl
  · exact takes_fail hp (.inl rfl)
  · have hasleep : Takes g env k sub (g.setPhase k.id (.suspended deadline false)) :=
      takes_seek hp rfl rfl
    obtain ⟨p, fs, hleg, hphase, hdeal⟩ := hasleep
    refine ⟨p, fs, hleg, hphase, ?_⟩
    rw [passages_enter]
    exact (List.append_nil _).trans hdeal

theorem takes_wakeUp (hk : g.call? k.id = some k) (hp : k.phase.seeks = true)
    (deadline : Option Nat) (woken : Bool) : Takes g env k sub (g.wakeUp k deadline woken) := by
  unfold wakeUp
  split_ifs
  · exact takes_seek hp rfl rfl
  · split
    · refine ⟨k.phase, [], .seek hp hp, fun k' hk' => ?_, (List.append_nil _).symm⟩
      obtain rfl := Option.some.inj (hk.symm.trans hk')
      rfl
    · exact takes_fail hp (.inr ⟨_, rfl⟩)

/-- An open connection lets the request in. -/
theorem send_of_open {s : Snapshot} {x : Connection} (hx : g.connections[s.connection]? = some x)
    (ho : x.closed = false) (env : Surroundings) (k : Call) (sub : Submission) :
    g.send env k s sub = (g.log (.requestSent sub.operation env.requestId s.leader)).letIn k
      ⟨s, x.member, sub.request env⟩ := by
  have hconnection : (g.log (.requestSent sub.operation env.requestId s.leader)).connection?
      s.connection = some x := hx
  unfold send
  simp only [hconnection, ho, Bool.false_eq_true, ↓reduceIte]
  rfl

/-- A request is let in only if the connection is open. -/
theorem takes_send {s : Snapshot} (hp : k.phase = .sending s) :
    Takes g env k sub (g.send env k s sub) := by
  have hlog : (g.log (.requestSent sub.operation env.requestId s.leader)).passages k.id =
      g.passages k.id ++ [] := (passages_log g k.id _).trans (List.append_nil _).symm
  unfold Takes
  rw [hp]
  unfold send
  dsimp only
  split
  · exact ⟨_, _, .disconnected, comes_conclude hlog s _ _⟩
  next x hx =>
    split_ifs with hclosed hcancel
    · simp only [Bool.and_eq_true] at hcancel
      exact ⟨_, _, .overtaken hcancel.1.1, comes_finish ((passages_log _ _ _).trans hlog) _⟩
    · exact ⟨_, _, .disconnected, comes_conclude hlog s _ _⟩
    · refine ⟨_, _, .letIn hx (by simpa using hclosed), comes_setPhase ?_ _⟩
      rw [passages_enter, hlog, if_pos (by simp [Fact.ofPassage]), List.append_nil]
      rfl

/-- A request that was let in is handed over, and then it is in flight. -/
theorem takes_handOver {a : Admission} (hp : k.phase = .admitted a) :
    Takes g env k sub (g.handOver env k a) := by
  unfold Takes
  rw [hp]
  refine ⟨_, _, .handOver, comes_setPhase ?_ _⟩
  rw [passages_enter, if_pos (by simp [Fact.ofPassage])]

/-- The reply counts before the deadline. -/
theorem takes_land {x : InFlight} (hp : k.phase = .inFlight x) :
    Takes g env k sub (g.land env k x) := by
  unfold Takes
  rw [hp]
  unfold land
  dsimp only
  split_ifs with hsup hdue
  · simp only [Bool.and_eq_true] at hsup
    exact ⟨_, _, .superseded hsup.1, comes_finish
      ((passages_log g k.id _).trans (List.append_nil _).symm) _⟩
  · refine ⟨_, _, .replied hdue, comes_conclude ?_ _ _ _⟩
    rw [passages_enter, if_pos (by simp [Fact.ofPassage])]
  · exact ⟨_, _, .timedOut (by simpa using hdue), comes_finish
      ((passages_log g k.id _).trans (List.append_nil _).symm) _⟩

/-- Every step of a call that sends a request, and does not contend for the lock, is one of these. -/
theorem takes_proceed (env : Surroundings) (hk : g.call? k.id = some k)
    (hs : k.task.submission? = some sub) (hf : k.phase.contends = false)
    (hu : k.phase.ended = false) : Takes g env k sub (g.proceed env k) := by
  unfold proceed
  cases hp : k.phase with
  | created =>
    have hseeks : k.phase.seeks = true := by rw [hp]; rfl
    unfold begin
    cases ht : k.task with
    | submit s => exact takes_beginWait hs hseeks
    | table op => exact takes_beginWait hs hseeks
    | _ => simp [ht, Task.submission?] at hs
  | reading deadline => exact takes_look hs (by rw [hp]; rfl) deadline
  | checking deadline => exact takes_check (by rw [hp]; rfl) deadline
  | suspended deadline woken => exact takes_wakeUp hk (by rw [hp]; rfl) deadline woken
  | sending s =>
    simp only [hs]
    exact takes_send hp
  | admitted a => exact takes_handOver hp
  | inFlight x => exact takes_land hp
  | queued u => simp [hp, Phase.contends] at hf
  | opening l openedAt => simp [hp, Phase.contends] at hf
  | finished a => simp [hp, Phase.ended] at hu
  | abandoned => simp [hp, Phase.ended] at hu

end Gateway

end LeaderRouting
