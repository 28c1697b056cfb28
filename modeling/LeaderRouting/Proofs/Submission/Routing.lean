import LeaderRouting.Proofs.Submission.Execution
import LeaderRouting.Proofs.Tracker.Coherence
import LeaderRouting.Proofs.Tracker.Turnover

/-!
The route of a request.  It is let in at most once, by an open connection, to a leader that readers
were shown since the call began.  The hand-over is the next that the call does, but others may close
the connection in between.  The call's end tells whether the request was handed over at all.
-/

namespace LeaderRouting

open Gateway

/-- Whether the error is one of those that turn a call away before it hands its request over. -/
def GatewayError.isEarly : GatewayError → Bool
  | closed | noLeaderAvailable _ => true
  | submissionFailed _ (.transport .disconnected) | submissionFailed _ .superseded => true
  | _ => false

/-! ### Snapshots and their connections -/

namespace Serial

/-- The members that connections were opened to. -/
def members (t : Serial) : List Member :=
  t.connections.map (·.member)

/-- Whether every leader that was ever published is the member that its connection is to. -/
def Recorded (t : Serial) : Prop :=
  ∀ s, .published (.elected s) ∈ t.trace → t.members[s.connection]? = some s.leader.member

variable {t : Serial} {s : Snapshot} {f : Fact}

theorem members_close (t : Serial) (n : Nat) : (t.close n).members = t.members := by
  unfold close members
  split
  · rfl
  next k hk =>
    split_ifs with hc
    · rfl
    · obtain ⟨hn, hk⟩ := List.getElem?_eq_some_iff.1 hk
      have hlt : n < (t.connections.map (·.member)).length := by simpa using hn
      have hm : k.close.member = (t.connections.map (·.member))[n] := by
        simp [hk, Connection.close, hc, Connection.mark, Connection.retire, Connection.release]
      simp only [note, List.map_set, hm, List.set_getElem_self]

theorem members_closePrevious (t : Serial) (previous : Option Snapshot) :
    (t.closePrevious previous).members = t.members := by
  cases previous with
  | none => rfl
  | some s => exact members_close t s.connection

theorem recorded_note (h : t.Recorded) (hf : ∀ s, f ≠ .published (.elected s)) :
    (t.note f).Recorded := by
  intro s hs
  refine h s ((List.mem_append.1 hs).resolve_right fun hm => ?_)
  exact hf s (List.mem_singleton.1 hm).symm

theorem recorded_install (h : t.Recorded) (hs : t.members[s.connection]? = some s.leader.member) :
    (t.install s).Recorded := by
  intro s' hs'
  rcases List.mem_append.1 hs' with hm | hm
  · exact h s' hm
  · obtain rfl : s' = s := by simpa using hm
    exact hs

theorem recorded_closePrevious (h : t.Recorded) (previous : Option Snapshot) :
    (t.closePrevious previous).Recorded := by
  intro s hs
  rw [members_closePrevious]
  obtain ⟨⟨news, ht, hp, -⟩, -⟩ := adds_closePrevious t previous
  rw [ht, published_mem_iff, publications_append, hp, List.append_nil, ← published_mem_iff] at hs
  exact h s hs

theorem recorded_replay (ops : List Operation) : (replay ops).Recorded := by
  induction ops using List.reverseRecOn with
  | nil => simp [Recorded, replay]
  | append_singleton ops op ih =>
    rw [replay_concat]
    refine recorded_note ?_ (by simp)
    unfold perform
    split
    next l _ =>
      unfold elect
      split_ifs with hc
      · exact ih
      · exact ih
      · split
        next s hs =>
          obtain ⟨hs, hm⟩ := Option.filter_eq_some_iff.1 hs
          refine recorded_install ih ?_
          simp only [members, List.getElem?_map, ((coherent_replay ops).current s hs).2]
          simpa using hm
        · exact recorded_note ih (by simp)
        · have hopened : Recorded { replay ops with
              connections := (replay ops).connections ++ [⟨l.member, false, false, 0⟩] } := by
            intro s hs
            have hold := ih s hs
            have hlt := (List.getElem?_eq_some_iff.1 hold).1
            simp only [members, List.map_append] at hold hlt ⊢
            rwa [List.getElem?_append_left hlt]
          refine recorded_closePrevious (recorded_install (recorded_note hopened (by simp)) ?_) _
          simp [members, note]
    · unfold shutDown
      split_ifs
      · exact ih
      · refine recorded_closePrevious ?_ _
        have hshut : Recorded { replay ops with writer := ⟨none, true⟩, value := .closed } := ih
        exact recorded_note hshut (by simp)

end Serial

namespace Gateway

variable {g g₁ : Gateway} {a : Action} {c d : CallId} {k k' : Call} {s : Snapshot} {n : Nat}
  {fs news : List Fact} {sub : Submission} {x : Connection}

/-- A leader that was ever published is the member that its connection is to. -/
theorem Serialized.recorded (h : g.Serialized) (hs : .published (.elected s) ∈ g.facts) :
    (g.connections.map (·.member))[s.connection]? = some s.leader.member := by
  have hr := Serial.recorded_replay g.completed s (h.trace_subset hs rfl (by simp))
  have hmembers : g.tracked.members = (Serial.replay g.completed).members := by
    rcases h.serial with he | ⟨-, he⟩ <;> rw [he]
    exact Serial.members_closePrevious _ _
  exact (congrArg (·[s.connection]?) hmembers).trans hr

/-- The close of an open connection is not on record. -/
theorem Serialized.not_closed (h : g.Serialized) (hx : g.connections[n]? = some x)
    (ho : x.closed = false) (m : Member) : .closed n m ∉ g.facts := by
  intro hm
  have hcount : x.releases = (turnovers g.facts).count (.closed n) :=
    turnovers_trace g ▸ h.counted n x hx
  have hmem : .closed n ∈ turnovers g.facts := closed_mem_turnovers_iff.2 ⟨m, hm⟩
  have hpos := List.count_pos_iff.2 hmem
  have hzero := h.releases_of_open hx ho
  omega

/-! ### Errands -/

/-- Whether the fact is that the call handed a request over. -/
def Fact.isSubmitted (c : CallId) : Fact → Bool
  | .submitted d _ _ _ => d = c
  | _ => false

/-- How often the call has handed a request over. -/
def submissions (c : CallId) (fs : List Fact) : Nat :=
  fs.countP (Fact.isSubmitted c)

/-- Whether the fact is that a request of the call was let in. -/
def Fact.isAdmitted (c : CallId) : Fact → Bool
  | .admitted d _ _ _ => d = c
  | _ => false

/-- How often a request of the call was let in. -/
def admissions (c : CallId) (fs : List Fact) : Nat :=
  fs.countP (Fact.isAdmitted c)

/-- How many requests were let in that are yet to be handed over. -/
def Phase.credit : Phase → Nat
  | .admitted _ => 1
  | _ => 0

/-- Whether readers were shown the snapshot at some moment since the call began. -/
def SeenSince (c : CallId) (s : Snapshot) (fs : List Fact) : Prop :=
  ∃ start moment, start ++ [.started c] <+: moment ∧ moment <+: fs ∧ shown moment = .elected s

/-- Whether the call's request is let in, if that is what the fact says, for a leader seen since the
call began, by its connection, and before that is closed. -/
def IsRouted (c : CallId) (sub : Submission) (look : List Fact) (f : Fact) : Prop :=
  ∀ n m r, f = .admitted c n m r → (r.operation = sub.operation ∧ r.arguments = sub.arguments) ∧
    (∃ s, SeenSince c s look ∧ s.connection = n ∧ s.leader.member = m) ∧ ∀ m', .closed n m' ∉ look

/-- Whether this request was let in, and the call has done nothing since. -/
def IsLetIn (c : CallId) (n : Nat) (m : Member) (r : Request) (fs : List Fact) : Prop :=
  ∃ look between, fs = look ++ .admitted c n m r :: between ∧ ∀ f ∈ between, f.caller? ≠ some c

/-- What the journal says of a call that sends a request. -/
structure Errand (c : CallId) (k : Call) (sub : Submission) (fs : List Fact) : Prop where
  begun : ∃ start rest, fs = start ++ .started c :: rest ∧ .started c ∉ start ∧ .started c ∉ rest
  sighted : ∀ s, k.phase = .sending s → SeenSince c s fs
  routed : Preceded (IsRouted c sub) fs
  letIn : ∀ a, k.phase = .admitted a → IsLetIn c a.snapshot.connection a.member a.request fs
  handed : Preceded (fun sent f => ∀ n m r, f = .submitted c n m r → IsLetIn c n m r sent) fs
  once : submissions c fs ≤ 1
  paired : admissions c fs = submissions c fs + k.phase.credit
  early : ∀ a, k.phase = .finished a → submissions c fs = 0 →
    ∃ e, a = k.task.failed e ∧ e.isEarly = true

theorem SeenSince.append (h : SeenSince c s fs) (news : List Fact) : SeenSince c s (fs ++ news) := by
  obtain ⟨start, moment, hs, hm, hv⟩ := h
  exact ⟨start, moment, hs, hm.trans (List.prefix_append fs news), hv⟩

theorem IsLetIn.append {m : Member} {r : Request} (h : IsLetIn c n m r fs)
    (hn : ∀ f ∈ news, f.caller? ≠ some c) : IsLetIn c n m r (fs ++ news) := by
  obtain ⟨look, between, rfl, hb⟩ := h
  exact ⟨look, between ++ news, by simp, fun f hf => (List.mem_append.1 hf).elim (hb f) (hn f)⟩

theorem submissions_append (c : CallId) (fs gs : List Fact) :
    submissions c (fs ++ gs) = submissions c fs + submissions c gs :=
  List.countP_append

theorem admissions_append (c : CallId) (fs gs : List Fact) :
    admissions c (fs ++ gs) = admissions c fs + admissions c gs :=
  List.countP_append

theorem submissions_submitted (c : CallId) (n : Nat) (m : Member) (r : Request) :
    submissions c [.submitted c n m r] = 1 := by
  simp [submissions, Fact.isSubmitted]

theorem admissions_admitted (c : CallId) (n : Nat) (m : Member) (r : Request) :
    admissions c [.admitted c n m r] = 1 := by
  simp [admissions, Fact.isAdmitted]

theorem not_mem_of_submissions {m : Member} {r : Request} (h : submissions c fs = 0) :
    .submitted c n m r ∉ fs := fun hm => by
  simpa [Fact.isSubmitted] using List.countP_eq_zero.1 h _ hm

theorem not_mem_of_admissions {m : Member} {r : Request} (h : admissions c fs = 0) :
    .admitted c n m r ∉ fs := fun hm => by
  simpa [Fact.isAdmitted] using List.countP_eq_zero.1 h _ hm

/-- Where nothing is of the call, nothing of it is let in or handed over. -/
theorem passes_of_others (hn : ∀ f ∈ fs, f.caller? ≠ some c) :
    submissions c fs = 0 ∧ admissions c fs = 0 := by
  constructor
  all_goals
    refine List.countP_eq_zero.2 fun f hf => ?_
    have hne := hn f hf
    cases f <;> simp_all [Fact.isSubmitted, Fact.isAdmitted, Fact.caller?]

theorem countP_filter_of_imp {p q : Fact → Bool} (h : ∀ f, p f = true → q f = true)
    (fs : List Fact) : (fs.filter q).countP p = fs.countP p := by
  rw [List.countP_filter]
  refine List.countP_congr fun f _ => ?_
  simpa using h f

/-- All that a call hands over is part of its dealings. -/
theorem submissions_dealings (g : Gateway) (c : CallId) :
    submissions c (g.dealings c) = submissions c g.facts :=
  countP_filter_of_imp (fun f hf => by cases f <;> simp_all [Fact.isSubmitted, Fact.ofRequest]) _

theorem submissions_passages (c : CallId) (fs : List Fact) :
    submissions c (fs.filter (Fact.ofPassage c)) = submissions c fs :=
  countP_filter_of_imp (fun f hf => by cases f <;> simp_all [Fact.isSubmitted, Fact.ofPassage]) fs

theorem admissions_passages (c : CallId) (fs : List Fact) :
    admissions c (fs.filter (Fact.ofPassage c)) = admissions c fs :=
  countP_filter_of_imp (fun f hf => by cases f <;> simp_all [Fact.isAdmitted, Fact.ofPassage]) fs

theorem begun_append (h : ∃ start rest, fs = start ++ .started c :: rest ∧ .started c ∉ start ∧
      .started c ∉ rest) (hn : .started c ∉ news) :
    ∃ start rest, fs ++ news = start ++ .started c :: rest ∧ .started c ∉ start ∧
      .started c ∉ rest := by
  obtain ⟨start, rest, rfl, hs, hr⟩ := h
  exact ⟨start, rest ++ news, by simp, hs, fun hm => (List.mem_append.1 hm).elim hr hn⟩

/-- News that neither begin the call nor pass its request on leave its errand as it was. -/
theorem Errand.append (h : Errand c k sub fs) (hb : .started c ∉ news)
    (hs : submissions c news = 0) (ha : admissions c news = 0) (hc : k'.phase.credit = k.phase.credit)
    (sighted : ∀ s, k'.phase = .sending s → SeenSince c s (fs ++ news))
    (letIn : ∀ a, k'.phase = .admitted a →
      IsLetIn c a.snapshot.connection a.member a.request (fs ++ news))
    (early : ∀ a, k'.phase = .finished a → submissions c fs = 0 →
      ∃ e, a = k'.task.failed e ∧ e.isEarly = true) : Errand c k' sub (fs ++ news) := by
  refine ⟨begun_append h.begun hb, sighted, ?_, letIn, ?_, ?_, ?_, ?_⟩
  · refine h.routed.append (preceded_of_forall fun f hf before n m r he => ?_)
    exact absurd (he ▸ hf) (not_mem_of_admissions ha)
  · refine h.handed.append (preceded_of_forall fun f hf before n m r he => ?_)
    exact absurd (he ▸ hf) (not_mem_of_submissions hs)
  · rw [submissions_append, hs]
    exact h.once
  · rw [submissions_append, admissions_append, hs, ha, hc]
    exact h.paired
  · intro a he hz
    rw [submissions_append, hs] at hz
    exact early a he hz

/-- News of other calls leave an errand as it was. -/
theorem Errand.stay (h : Errand c k sub fs) (hn : ∀ f ∈ news, f.caller? ≠ some c) :
    Errand c k sub (fs ++ news) := by
  obtain ⟨hs, ha⟩ := passes_of_others hn
  exact h.append (fun hm => hn _ hm rfl) hs ha rfl (fun s hs => (h.sighted s hs).append news)
    (fun a ha => (h.letIn a ha).append hn) h.early

theorem Errand.wake (h : Errand c k sub fs) : Errand c k.wake sub fs := by
  have hphase : ∀ p : Phase, (∀ deadline woken, p ≠ .suspended deadline woken) →
      k.phase.wake = p → k.phase = p := by
    rintro p hp rfl
    cases hk : k.phase with
    | suspended deadline woken => exact absurd (congrArg Phase.wake hk) (hp deadline true)
    | _ => rfl
  have hcredit : k.phase.wake.credit = k.phase.credit := by
    cases k.phase <;> rfl
  exact {
    begun := h.begun
    sighted s hs := h.sighted s (hphase _ (by simp) hs)
    routed := h.routed
    letIn a ha := h.letIn a (hphase _ (by simp) ha)
    handed := h.handed
    once := h.once
    paired := h.paired.trans (congrArg _ hcredit.symm)
    early a ha := h.early a (hphase _ (by simp) ha) }

/-- Whatever is handed over was let in, where the route was right. -/
theorem Errand.exists_look {n : Nat} {m : Member} {r : Request} {sent : List Fact}
    (h : Errand c k sub fs) (hs : sent ++ [.submitted c n m r] <+: fs) :
    ∃ look between, sent = look ++ .admitted c n m r :: between ∧
      (∀ f ∈ between, f.caller? ≠ some c) ∧ IsRouted c sub look (.admitted c n m r) := by
  obtain ⟨look, between, rfl, hb⟩ := h.handed sent _ hs n m r rfl
  refine ⟨look, between, rfl, hb, h.routed look _ (List.IsPrefix.trans ?_ hs)⟩
  exact ⟨between ++ [.submitted c n m r], by simp⟩

/-- The request that is handed over is the one that the call is to send. -/
theorem Errand.carried {n : Nat} {m : Member} {r : Request} (h : Errand c k sub fs)
    (hm : .submitted c n m r ∈ fs) : r.operation = sub.operation ∧ r.arguments = sub.arguments := by
  obtain ⟨sent, rest, hfacts⟩ := List.append_of_mem hm
  have hsent : sent ++ [.submitted c n m r] <+: fs := ⟨rest, by simp [hfacts]⟩
  obtain ⟨look, between, -, -, hrouted⟩ := h.exists_look hsent
  exact (hrouted n m r rfl).1

/-! ### A step of the call itself -/

/-- A request is let in by an open connection, to the member that the call has seen. -/
theorem Serialized.isRouted (h : g.Serialized) (he : Errand c k sub g.facts)
    (hp : k.phase = .sending s) (hx : g.connections[s.connection]? = some x) (ho : x.closed = false)
    (env : Surroundings) {part : List Fact} (hn : ∀ f ∈ part, f.ofConnection = false) :
    IsRouted c sub (g.facts ++ part)
      (.admitted c s.connection x.member (sub.request env)) := by
  rintro n m r ⟨⟩
  have hseen := he.sighted s hp
  refine ⟨⟨rfl, rfl⟩, ⟨s, hseen.append part, rfl, ?_⟩, fun m' hm => ?_⟩
  · obtain ⟨start, moment, -, hm, hv⟩ := hseen
    have hpublished : .published (.elected s) ∈ g.facts := hm.subset (published_of_shown hv)
    have hr := h.recorded hpublished
    rw [List.getElem?_map, hx] at hr
    exact (Option.some.inj hr).symm
  · rcases List.mem_append.1 hm with hm | hm
    · exact h.not_closed hx ho m' hm
    · simpa [Fact.ofConnection] using hn _ hm

/-- What a step of a call that sends a request comes to: the leg that it takes, and the news. -/
structure Strides (g g' : Gateway) (env : Surroundings) (k : Call) (sub : Submission) (p : Phase)
    (news : List Fact) : Prop where
  leg : Leg g env k.id k.task sub k.phase p (news.filter (Fact.ofPassage k.id))
  facts : g'.facts = g.facts ++ news
  about : ∀ f ∈ news, f.DuringTurnOf k.id ∨ ∃ a, f = .answered k.id a
  letIn : ∀ s x, k.phase = .sending s → g.connections[s.connection]? = some x → x.closed = false →
    ∃ line, news = [.logged line, .admitted k.id s.connection x.member (sub.request env)]
  handed : ∀ a, k.phase = .admitted a →
    news = [.submitted k.id a.snapshot.connection a.member a.request]
  known : ∀ k', g'.call? k.id = some k' → k'.task = k.task ∧ k'.phase = p

theorem exists_strides (hd : g.Disciplined) (env : Surroundings) (hk : g.call? k.id = some k)
    (hs : k.task.submission? = some sub) (hr : g.canRun k = true) :
    ∃ p news, Strides g (g.proceed env k) env k sub p news := by
  have hturn := turn_proceed env hk hr
  obtain ⟨p, passage, hleg, hcomes⟩ :=
    takes_proceed env hk hs (hd.free_of_submission hk hs) (ended_of_canRun hr)
  obtain ⟨news, hnews, habout⟩ := hturn.facts
  have hfilter : news.filter (Fact.ofPassage k.id) = passage := by
    have hpassages := hcomes.passages
    unfold passages at hpassages
    rw [hnews, List.filter_append] at hpassages
    exact List.append_cancel_left hpassages
  refine ⟨p, news, hfilter ▸ hleg, hnews, habout, fun s x hp hx ho => ?_, fun a hp => ?_,
    fun k' hk' => ⟨hturn.task hk hk', hcomes.phase k' hk'⟩⟩
  · have hproceed : g.proceed env k = g.send env k s sub := by
      unfold proceed
      simp only [hp, hs]
    rw [hproceed, send_of_open hx ho] at hnews
    have hentered := (facts_enter (g.log (.requestSent sub.operation env.requestId s.leader))
      (.admitted k.id s.connection x.member (sub.request env))).symm.trans hnews
    rw [log, facts_enter, List.append_assoc] at hentered
    exact ⟨_, (List.append_cancel_left hentered).symm⟩
  · have hproceed : g.proceed env k = g.handOver env k a := by
      unfold proceed
      rw [hp]
    have hentered := facts_enter g (.submitted k.id a.snapshot.connection a.member a.request)
    exact List.append_cancel_left ((hproceed ▸ hnews).symm.trans hentered)

theorem Leg.sighted {env : Surroundings} {task : Task} {p p' : Phase}
    (h : Leg g env c task sub p p' fs) (hp : p' = .sending s) : g.channel.value = .elected s := by
  cases h with
  | seek _ hp' => simp [hp, Phase.seeks] at hp'
  | found _ hv => rwa [← Phase.sending.inj hp]
  | _ => simp at hp

theorem Leg.early {env : Surroundings} {task : Task} {p p' : Phase} {a : Answer}
    (h : Leg g env c task sub p p' fs) (hp : p' = .finished a) :
    (∃ f, p = .inFlight f) ∨ ∃ e, a = task.failed e ∧ e.isEarly = true := by
  cases h with
  | seek _ hp' => simp [hp, Phase.seeks] at hp'
  | turnedAway _ he =>
    refine .inr ⟨_, (Phase.finished.inj hp).symm, ?_⟩
    rcases he with rfl | ⟨d, rfl⟩ <;> rfl
  | disconnected => exact .inr ⟨_, (Phase.finished.inj hp).symm, rfl⟩
  | overtaken => exact .inr ⟨_, (Phase.finished.inj hp).symm, rfl⟩
  | superseded => exact .inl ⟨_, rfl⟩
  | replied => exact .inl ⟨_, rfl⟩
  | timedOut => exact .inl ⟨_, rfl⟩
  | _ => simp at hp

theorem Phase.credit_of_seeks {p : Phase} (h : p.seeks = true) : p.credit = 0 := by
  cases p <;> first | rfl | simp [seeks] at h

/-- One leg lets the request in, over an open connection; another one hands over what was let in. -/
theorem Leg.passes {env : Surroundings} {task : Task} {p p' : Phase}
    (h : Leg g env c task sub p p' fs) :
    (submissions c fs = 0 ∧ admissions c fs = 0 ∧ p.credit = 0 ∧ p'.credit = 0) ∨
    (∃ s x, p = .sending s ∧ g.connections[s.connection]? = some x ∧ x.closed = false ∧
      p' = .admitted ⟨s, x.member, sub.request env⟩ ∧
      fs = [.admitted c s.connection x.member (sub.request env)]) ∨
    ∃ a, p = .admitted a ∧ p' = .inFlight (g.flight env a) ∧
      fs = [.submitted c a.snapshot.connection a.member a.request] := by
  cases h with
  | seek hp hp' => exact .inl ⟨rfl, rfl, Phase.credit_of_seeks hp, Phase.credit_of_seeks hp'⟩
  | found hp => exact .inl ⟨rfl, rfl, Phase.credit_of_seeks hp, rfl⟩
  | turnedAway hp => exact .inl ⟨rfl, rfl, Phase.credit_of_seeks hp, rfl⟩
  | letIn hx ho => exact .inr (.inl ⟨_, _, rfl, hx, ho, rfl, rfl⟩)
  | handOver => exact .inr (.inr ⟨_, rfl, rfl, rfl⟩)
  | _ => exact .inl ⟨rfl, rfl, rfl, rfl⟩

/-- A call whose request is in flight has handed it over, and before that it has not. -/
theorem Accounted.submissions (h : g.Accounted) (hk : g.call? c = some k)
    (hs : k.task.submission? = some sub) (hu : k.phase.ended = false) :
    Gateway.submissions c g.facts = 0 ↔ ∀ f, k.phase ≠ .inFlight f := by
  have hd := h.known c k hk (by simp [hs])
  rw [← submissions_dealings]
  constructor
  · intro hz f hp
    rw [hp] at hd
    generalize g.dealings c = fs at hd hz
    cases hd with
    | unsent ha => exact ha f rfl
    | waiting n m r => simp [Gateway.submissions, Fact.isSubmitted] at hz
  · intro hp
    rw [hd.eq_nil hp hu]
    rfl

/-- No request is let in twice. -/
theorem Errand.admissions_le_one (h : Errand k.id k sub g.facts) (hacc : g.Accounted)
    (hk : g.call? k.id = some k) (hs : k.task.submission? = some sub) :
    admissions k.id g.facts ≤ 1 := by
  rw [h.paired]
  cases hp : k.phase with
  | admitted a =>
    rw [(hacc.submissions hk hs (by rw [hp]; rfl)).2 (by simp [hp])]
    exact Nat.le_refl 1
  | _ => exact h.once

/-- A call that goes to its leader is let in. -/
theorem Errand.enters {m : Member} {r : Request} (h : Errand c k sub fs) (hp : k.phase = .sending s)
    (hz : submissions c fs = 0) (hr : IsRouted c sub fs (.admitted c s.connection m r))
    (hp' : k'.phase = .admitted ⟨s, m, r⟩) :
    Errand c k' sub (fs ++ [.admitted c s.connection m r]) where
  begun := begun_append h.begun (by simp)
  sighted := by simp [hp']
  routed := h.routed.concat hr
  letIn a ha := by
    obtain rfl := Phase.admitted.inj (hp'.symm.trans ha)
    exact ⟨fs, [], rfl, by simp⟩
  handed := h.handed.concat (by simp)
  once := by
    rw [submissions_append, hz]
    exact Nat.zero_le 1
  paired := by
    rw [admissions_append, h.paired, submissions_append, admissions_admitted, hz, hp, hp']
    rfl
  early := by simp [hp']

/-- A call that was let in hands its request over. -/
theorem Errand.leaves {a : Admission} {f : InFlight} (h : Errand c k sub fs)
    (hp : k.phase = .admitted a) (hz : submissions c fs = 0) (hp' : k'.phase = .inFlight f) :
    Errand c k' sub (fs ++ [.submitted c a.snapshot.connection a.member a.request]) where
  begun := begun_append h.begun (by simp)
  sighted := by simp [hp']
  routed := h.routed.concat (by rintro n m r ⟨⟩)
  letIn := by simp [hp']
  handed := h.handed.concat fun n m r he => by
    obtain ⟨-, rfl, rfl, rfl⟩ := Fact.submitted.inj he
    exact h.letIn a hp
  once := Nat.le_of_eq (by rw [submissions_append, submissions_submitted, hz])
  paired := by
    rw [admissions_append, h.paired, submissions_append, submissions_submitted, hz, hp, hp']
    rfl
  early := by simp [hp']

/-- Each leg keeps the errand. -/
theorem Errand.proceed {g' : Gateway} {env : Surroundings} {p : Phase} (h : g.Serialized)
    (hacc : g.Accounted) (hk : g.call? k.id = some k) (hs : k.task.submission? = some sub)
    (hu : k.phase.ended = false) (he : Errand k.id k sub g.facts)
    (hg : Strides g g' env k sub p news) (hk' : g'.call? k.id = some k') :
    Errand k.id k' sub (g.facts ++ news) := by
  obtain ⟨htask, hphase⟩ := hg.known k' hk'
  rcases hg.leg.passes with ⟨hz, ha, hc, hc'⟩ | ⟨s, x, hp, hx, ho, hp', -⟩ | ⟨a, hp, hp', -⟩
  · rw [submissions_passages] at hz
    rw [admissions_passages] at ha
    rw [← hphase] at hc'
    refine he.append (fun hm => ?_) hz ha (hc'.trans hc.symm) (fun s hsend => ?_) (fun a ha => ?_)
      (fun a ha hz => ?_)
    · simpa [Fact.DuringTurnOf] using hg.about _ hm
    · -- What is published now is a moment since the call began.
      have hv := hg.leg.sighted (hphase ▸ hsend)
      obtain ⟨start, rest, hfacts, -⟩ := he.begun
      refine SeenSince.append ⟨start, g.facts, ?_, List.prefix_rfl, h.value ▸ hv⟩ news
      rw [hfacts]
      exact ⟨rest, by simp⟩
    · simp [ha, Phase.credit] at hc'
    · rw [htask]
      refine (hg.leg.early (hphase ▸ ha)).resolve_left ?_
      rintro ⟨f, hf⟩
      exact (hacc.submissions hk hs hu).1 hz f hf
  · have hzero := (hacc.submissions hk hs hu).2 (by simp [hp])
    obtain ⟨line, rfl⟩ := hg.letIn s x hp hx ho
    have hlogged : Errand k.id k sub (g.facts ++ [.logged line]) := he.stay (by simp [Fact.caller?])
    rw [List.append_cons]
    refine hlogged.enters hp ?_ (h.isRouted he hp hx ho env (by simp [Fact.ofConnection]))
      (hphase.trans hp')
    rw [submissions_append, hzero]
    rfl
  · have hzero := (hacc.submissions hk hs hu).2 (by simp [hp])
    rw [hg.handed a hp]
    exact he.leaves hp hzero (hphase.trans hp')

/-! ### Every step -/

/-- Whether the call is not known yet, or the journal says of it what it says of an errand. -/
structure UnderwayAt (g : Gateway) (c : CallId) : Prop where
  unknown : g.call? c = none → ∀ f ∈ g.facts, f.caller? ≠ some c
  known : ∀ k sub, g.call? c = some k → k.task.submission? = some sub → Errand c k sub g.facts

/-- News of other calls leave a call as it was, or wake it. -/
theorem UnderwayAt.other {g' : Gateway} (h : g.UnderwayAt c) (hfacts : g'.facts = g.facts ++ news)
    (hn : ∀ f ∈ news, f.caller? ≠ some c)
    (hc : g'.call? c = g.call? c ∨ g'.call? c = (g.call? c).map Call.wake) : g'.UnderwayAt c := by
  constructor
  · intro hnone f hf
    rw [hfacts] at hf
    refine (List.mem_append.1 hf).elim (h.unknown ?_ f) (hn f)
    rcases hc with hc | hc <;> rw [hnone] at hc
    · exact hc.symm
    · exact Option.map_eq_none_iff.1 hc.symm
  · intro k sub hk hs
    rw [hfacts]
    rcases hc with hc | hc <;> rw [hk] at hc
    · exact (h.known k sub hc.symm hs).stay hn
    · obtain ⟨k₀, hk₀, rfl⟩ := Option.map_eq_some_iff.1 hc.symm
      exact ((h.known k₀ sub hk₀ hs).wake).stay hn

/-- A call that has just begun has done nothing yet. -/
theorem errand_start (hn : ∀ f ∈ fs, f.caller? ≠ some c) (hp : k.phase = .created) :
    Errand c k sub (fs ++ [.started c]) := by
  obtain ⟨hs, ha⟩ := passes_of_others hn
  replace hs : submissions c (fs ++ [.started c]) = 0 := by rw [submissions_append, hs]; rfl
  replace ha : admissions c (fs ++ [.started c]) = 0 := by rw [admissions_append, ha]; rfl
  exact {
    begun := ⟨fs, [], rfl, fun hm => hn _ hm rfl, by simp⟩
    sighted := by simp [hp]
    routed := preceded_of_forall fun f hf before n m r he =>
      absurd (he ▸ hf) (not_mem_of_admissions ha)
    letIn := by simp [hp]
    handed := preceded_of_forall fun f hf before n m r he =>
      absurd (he ▸ hf) (not_mem_of_submissions hs)
    once := by omega
    paired := by rw [hs, ha, hp]; rfl
    early := by simp [hp] }

theorem UnderwayAt.course (hd : g.Serialized) (hacc : g.Accounted) (h : g.UnderwayAt c)
    (hc : Course g a g₁) : g₁.UnderwayAt c := by
  cases hc with
  | around => exact ⟨h.unknown, h.known⟩
  | advance => exact ⟨h.unknown, h.known⟩
  | @start d handle task seen hf hh ho =>
    have hfacts := facts_enrol g ⟨d, task, handle, seen, .created⟩
    have hcall := call?_enrol g ⟨d, task, handle, seen, .created⟩ c
    by_cases he : c = d
    · subst he
      simp only [hf, Option.none_or, if_pos] at hcall
      refine ⟨by simp [hcall], fun k sub hk hs => ?_⟩
      obtain rfl := Option.some.inj (hcall.symm.trans hk)
      exact hfacts ▸ errand_start (h.unknown hf) rfl
    · rw [if_neg (Ne.symm he), Option.or_none] at hcall
      exact h.other hfacts (by simp [Fact.caller?, Ne.symm he]) (.inl hcall)
  | @abandon d k hk hw =>
    have hfacts := facts_giveUp g d
    have hcall := call?_giveUp g d c
    split_ifs at hcall with he
    · subst he
      refine ⟨by simp [hcall, hk], fun k' sub hk' hs => ?_⟩
      rw [hcall, hk] at hk'
      obtain rfl := Option.some.inj hk'
      rw [hfacts]
      have hcredit : k.phase.credit = 0 := by
        cases hp : k.phase <;> simp_all [Phase.isWaiting, Phase.credit]
      exact (h.known k sub hk hs).append (by simp) (by simp [submissions, Fact.isSubmitted])
        (by simp [admissions, Fact.isAdmitted]) hcredit.symm (by simp) (by simp) (by simp)
    · exact h.other hfacts (by simp [Fact.caller?, Ne.symm he]) (.inl hcall)
  | @run d k env hk hr =>
    have ht := turn_proceed env hk hr
    by_cases he : c = d
    · subst he
      obtain rfl := id_of_call? hk
      have hu : k.phase.ended = false := ended_of_canRun hr
      refine ⟨fun hnone => ?_, fun k' sub hk' hs' => ?_⟩
      · obtain ⟨k', hk', -⟩ := ht.exists_call? hk
        simp [hnone] at hk'
      · have hs : k.task.submission? = some sub := ht.task hk hk' ▸ hs'
        obtain ⟨p, news, hg⟩ := exists_strides hd.toDisciplined env hk hs hr
        exact hg.facts ▸ (h.known k sub hk hs).proceed hd hacc hk hs hu hg hk'
    · obtain ⟨news, hfacts, hn⟩ := ht.facts
      refine h.other hfacts (fun f hf hcaller => ?_) (ht.others he)
      rcases hn f hf with hf | ⟨a, rfl⟩
      · exact he (caller?_of_duringTurn hf hcaller)
      · exact he (Option.some.inj hcaller).symm

theorem UnderwayAt.release (h : g.UnderwayAt c) : g.release.UnderwayAt c := by
  have hnotes : Notes (fun f => f.caller? = none) g g.release :=
    notes_release (fun _ => rfl) (fun _ _ => rfl) g
  obtain ⟨news, hfacts, hn⟩ := hnotes
  exact h.other hfacts (fun f hf => by simp [hn f hf]) (call?_release g c)

theorem underwayAt_of_reachable (hg : g.Reachable) (c : CallId) : g.UnderwayAt c := by
  refine Reachable.induction_of_reachable (P := (·.UnderwayAt c)) ?_ ?_ hg
  · exact fun settings handles => ⟨by simp [create, facts], by simp [create, call?]⟩
  · intro a g g₁ hg _ h hc
    exact (h.course (serialized_of_reachable hg) (accounted_of_reachable hg) hc).release

theorem exists_errand (hg : g.Reachable) (hk : g.call? c = some k)
    (hs : k.task.submission?.isSome = true) :
    ∃ sub, k.task.submission? = some sub ∧ Errand c k sub g.facts := by
  obtain ⟨sub, hsub⟩ := Option.isSome_iff_exists.1 hs
  exact ⟨sub, hsub, (underwayAt_of_reachable hg c).known k sub hk hsub⟩

/-! ### The route -/

/-- How a call that sends a request is routed, as far as the journal goes. -/
structure Routed (g : Gateway) (c : CallId) (k : Call) : Prop where
  begun : ∃ start rest, g.facts = start ++ .started c :: rest ∧ .started c ∉ start ∧
    .started c ∉ rest
  /-- The request is let in at most once, and handed over at most once, whatever comes of it. -/
  once : admissions c g.facts ≤ 1 ∧ submissions c g.facts ≤ 1
  carried : ∀ sub n m r, k.task.submission? = some sub → .submitted c n m r ∈ g.facts →
    r.operation = sub.operation ∧ r.arguments = sub.arguments
  /-- It goes to a leader that was published at some moment between the start of the call and the
  hand-over, over that leader's connection, and under a term not below the one that was published when
  the call started. -/
  route : ∀ sent n m r, sent ++ [.submitted c n m r] <+: g.facts → ∃ start moment s,
    start ++ [.started c] <+: moment ∧ moment <+: sent ∧ shown moment = .elected s ∧
      s.connection = n ∧ s.leader.member = m ∧
      ∀ s₀, shown start = .elected s₀ → s₀.leader.term ≤ s.leader.term
  /-- The last that the call does before the hand-over is to look at the connection, which lets the
  request in. -/
  letIn : ∀ sent n m r, sent ++ [.submitted c n m r] <+: g.facts → ∃ look between,
    sent = look ++ .admitted c n m r :: between ∧ ∀ f ∈ between, f.caller? ≠ some c
  /-- The connection was not closed before that look. -/
  alive : ∀ look n m r, look ++ [.admitted c n m r] <+: g.facts → ∀ m', .closed n m' ∉ look
  /-- No shutdown has returned before that look. -/
  unshut : ∀ look n m r, look ++ [.admitted c n m r] <+: g.facts →
    ∀ d k' a, .answered d a ∈ look → g.call? d = some k' → k'.task ≠ .shutdown
  /-- Whoever is told that there is no leader, that the gateway is shut down, or that the connection is
  closed, and the latter not in a reply, has handed nothing over. -/
  unsent : ∀ e, k.phase = .finished (k.task.failed e) → (e = .closed ∨ (∃ d, e = .noLeaderAvailable d) ∨
    ((∃ id, e = .submissionFailed id (.transport .disconnected)) ∧ ∀ x, .replied c x ∉ g.facts)) →
      submissions c g.facts = 0
  /-- Whoever gets a result, or is told of a timeout, has handed the request over. -/
  sent : ∀ a, k.phase = .finished a → ((∀ e, a ≠ k.task.failed e) ∨
    ∃ id timeout, a = k.task.failed (.submissionTimeout id timeout)) → submissions c g.facts = 1

/-- An error that follows a reply says that the submission has failed. -/
theorem Task.submissionFailed_of_conclusion {task : Task} {e : GatewayError}
    (hs : task.submission?.isSome = true) {request : RequestId} {r : Except TransportError Response}
    (he : task.conclusion request r = task.failed e) :
    ∃ cause, e = .submissionFailed request cause := by
  unfold conclusion at he
  split at he
  · exact ⟨_, (failed_inj hs he).symm⟩
  · split at he
    next a ha => exact absurd he (delivered_ne_failed hs ha)
    · exact ⟨_, (failed_inj hs he).symm⟩

/-- After a shutdown has returned, every connection is closed, and its close is on record before. -/
theorem Serialized.closed_before (h : g.Serialized) (hatt : g.Attended) {before : List Fact}
    {a : Answer} (hb : before ++ [.answered c a] <+: g.facts) (hk : g.call? c = some k)
    (ht : k.task = .shutdown) (hn : n < g.connections.length) : ∃ m, .closed n m ∈ before := by
  obtain ⟨hclosed, hsettled⟩ := h.settled hatt hb hk ht
  have hx : g.connections[n]? = some g.connections[n] := List.getElem?_eq_getElem hn
  have hreleased := h.isReleased hx (by simp [h.vacant hclosed])
  have hcount : g.connections[n].releases = (turnovers g.facts).count (.closed n) :=
    turnovers_trace g ▸ h.counted n _ hx
  refine closed_mem_turnovers_iff.1 ?_
  rw [← hsettled, ← List.count_pos_iff, ← hcount, hreleased.2.2]
  exact Nat.one_pos

/-- Whoever is told that nothing was handed over has handed nothing over. -/
theorem Accounted.unsent (h : g.Accounted) (hk : g.call? k.id = some k)
    (hs : k.task.submission?.isSome = true) {e : GatewayError}
    (hp : k.phase = .finished (k.task.failed e))
    (he : e = .closed ∨ (∃ d, e = .noLeaderAvailable d) ∨
      ((∃ id, e = .submissionFailed id (.transport .disconnected)) ∧
        ∀ x, .replied k.id x ∉ g.facts)) : Gateway.submissions k.id g.facts = 0 := by
  have hd := h.known k.id k hk hs
  rw [hp] at hd
  rw [← submissions_dealings]
  have hmem : ∀ x, .replied k.id x ∈ g.dealings k.id → .replied k.id x ∈ g.facts := fun x hx =>
    (List.mem_filter.1 hx).1
  generalize g.dealings k.id = fs at hd hmem
  generalize ha : k.task.failed e = a at hd
  cases hd with
  | unsent => rfl
  | unanswered n m r hv =>
    obtain rfl := Task.failed_inj hs ha
    rcases he with rfl | ⟨d, rfl⟩ | ⟨⟨id, rfl⟩, -⟩ <;> simp [GatewayError.mayHaveExecuted] at hv
  | answered n m r x request =>
    obtain ⟨cause, hcause⟩ := Task.submissionFailed_of_conclusion hs ha.symm
    rcases he with rfl | ⟨d, rfl⟩ | ⟨-, hx⟩
    · simp at hcause
    · simp at hcause
    · exact absurd (hmem x (by simp)) (hx x)

/-- What is let in later than a shutdown returns would go over a connection that was closed before. -/
theorem Serialized.unshut (h : g.Serialized) (hatt : g.Attended) {look : List Fact} {m : Member}
    {r : Request} (hlook : look ++ [.admitted c n m r] <+: g.facts)
    (hrouted : IsRouted c sub look (.admitted c n m r)) {a : Answer} (ha : .answered d a ∈ look)
    (hk : g.call? d = some k) : k.task ≠ .shutdown := by
  intro ht
  obtain ⟨-, ⟨s, ⟨start, moment, -, hmoment, hv⟩, rfl, -⟩, hclosed⟩ := hrouted n m r rfl
  have hpublished : .published (.elected s) ∈ g.facts :=
    hlook.subset (List.mem_append_left _ (hmoment.subset (published_of_shown hv)))
  have hlt := (List.getElem?_eq_some_iff.1 (h.recorded hpublished)).1
  rw [List.length_map] at hlt
  obtain ⟨before, after, rfl⟩ := List.append_of_mem ha
  have hb : before ++ [.answered d a] <+: g.facts :=
    List.IsPrefix.trans ⟨after ++ [.admitted c s.connection m r], by simp⟩ hlook
  obtain ⟨m', hm'⟩ := h.closed_before hatt hb hk ht hlt
  exact hclosed m' (by simp [hm'])

theorem routed_of_reachable (hg : g.Reachable) (hk : g.call? c = some k)
    (hs : k.task.submission?.isSome = true) : g.Routed c k := by
  obtain rfl := id_of_call? hk
  have h := serialized_of_reachable hg
  have hacc := accounted_of_reachable hg
  obtain ⟨sub, hsub, he⟩ := exists_errand hg hk hs
  exact {
    begun := he.begun
    once := ⟨he.admissions_le_one hacc hk hsub, he.once⟩
    carried sub' n m r hsub' hm := by
      obtain rfl := Option.some.inj (hsub.symm.trans hsub')
      exact he.carried hm
    route sent n m r hsent := by
      obtain ⟨look, between, rfl, -, hrouted⟩ := he.exists_look hsent
      obtain ⟨-, ⟨s, ⟨start, moment, hstart, hmoment, hv⟩, hn, hm⟩, -⟩ := hrouted n m r rfl
      have hsent' : moment <+: look ++ .admitted k.id n m r :: between :=
        hmoment.trans (List.prefix_append look _)
      refine ⟨start, moment, s, hstart, hsent', hv, hn, hm, fun s₀ hv₀ => ?_⟩
      have hprefix : moment <+: g.facts := hsent'.trans ((List.prefix_append _ _).trans hsent)
      have hearlier : start <+: moment := (List.prefix_append start _).trans hstart
      exact ((h.succeeds hprefix hearlier).terms s₀ s hv₀ hv).1
    letIn sent n m r hsent := he.handed sent _ hsent n m r rfl
    alive look n m r hlook := (he.routed look _ hlook n m r rfl).2.2
    unshut look n m r hlook d k' a ha hk' :=
      h.unshut (attended_of_reachable hg) hlook (he.routed look _ hlook) ha hk'
    unsent e hp he := hacc.unsent hk hs hp he
    sent a hp ha := by
      have hone := he.once
      have hsome : submissions k.id g.facts ≠ 0 := by
        intro hz
        obtain ⟨e, hae, hearly⟩ := he.early a hp hz
        rcases ha with hsuccess | ⟨id, timeout, ht⟩
        · exact hsuccess e hae
        · obtain rfl := Task.failed_inj hs (ht.symm.trans hae)
          simp [GatewayError.isEarly] at hearly
      omega }

/-- A request whose leader is elected again before the call has sent it, and that gets no reply. -/
def renewedUnderway : List Action :=
  elect 0 .gateway ⟨.numbered "a" 1, ⟨1⟩⟩ .silent ++
    ask 1 .gateway .silent 1 ++
    undertake 2 .gateway (.notice (.direct ⟨.numbered "a" 1, ⟨2⟩⟩)) .silent 2 ++
    [.run 1 .silent, .run 1 .silent, .advance 2000, .run 1 .silent]

theorem routed_of_renewedUnderway :
    ∃ g k, (create (.ofOptions {}) [.gateway]).run? renewedUnderway = some g ∧
      g.call? 1 = some k ∧ submissions 1 g.facts = 1 ∧ g.Routed 1 k :=
  ⟨_, _, rfl, rfl, rfl,
    routed_of_reachable ⟨.ofOptions {}, [.gateway], renewedUnderway, rfl⟩ rfl rfl⟩

/-- A shutdown that begins, and returns, after a request was let in and before it is handed over. -/
def shutInBetween : List Action :=
  elect 0 .gateway ⟨.numbered "a" 1, ⟨1⟩⟩ .silent ++
    ask 1 .gateway .silent 2 ++
    undertake 2 .gateway .shutdown .silent 2 ++ [.run 1 .silent]

/-- A request in flight whose connection is closed for a new leader, and then says so in its reply. -/
def cutOff : List Action :=
  let env := .replying ⟨some 50, .connection .disconnected⟩
  elect 0 .gateway ⟨.numbered "a" 1, ⟨1⟩⟩ env ++
    ask 1 .gateway env 3 ++
    elect 2 .gateway ⟨.numbered "b" 2, ⟨2⟩⟩ env ++ [.advance 50, .run 1 env]

/-- Whether the fact is about a connection, a request or an answer. -/
def Fact.isOutward : Fact → Bool
  | .opened _ _ _ | .closed _ _ | .admitted _ _ _ _ | .submitted _ _ _ _ | .replied _ _
  | .answered _ _ => true
  | _ => false

/-- A request can be handed over after its connection was closed and the shutdown has returned, and a
call that is told of a closed connection can have handed its request over. -/
theorem handedOver_late_of_shutInBetween_of_cutOff :
    let a := Member.numbered "a" 1
    let b := Member.numbered "b" 2
    let r : Request := ⟨⟨""⟩, "", []⟩
    (∃ g, (create (.ofOptions {}) [.gateway]).run? shutInBetween = some g ∧
      (g.call? 2).map (·.task) = some .shutdown ∧
      g.facts.filter Fact.isOutward = [.opened 0 0 a, .answered 0 (.verdict (.ok .newLeader)),
        .admitted 1 0 a r, .closed 0 a, .answered 2 .done, .submitted 1 0 a r]) ∧
    ∃ g k, (create (.ofOptions {}) [.gateway]).run? cutOff = some g ∧
      g.call? 1 = some k ∧
      k.phase = .finished (k.task.failed (.submissionFailed r.id (.transport .disconnected))) ∧
      g.facts.filter Fact.isOutward = [.opened 0 0 a, .answered 0 (.verdict (.ok .newLeader)),
        .admitted 1 0 a r, .submitted 1 0 a r, .opened 2 1 b, .closed 0 a,
        .answered 2 (.verdict (.ok .newLeader)), .replied 1 (.connection .disconnected),
        .answered 1 (k.task.failed (.submissionFailed r.id (.transport .disconnected)))] :=
  ⟨⟨_, rfl, rfl, rfl⟩, _, _, rfl, rfl, rfl, rfl⟩

end Gateway

end LeaderRouting
