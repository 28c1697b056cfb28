import LeaderRouting.Proofs.Submission.Flight
import LeaderRouting.Proofs.Tracker.Deeds
import LeaderRouting.Proofs.Waiting.Rousing

/-!
Waiting for a leader.  A call looks at the published value, goes to sleep if nothing was ever
published, and looks again when it is woken; it does so once at most, as what was published once is
never taken back.
-/

namespace LeaderRouting.Gateway

/-- Whether the fact is that the call went to sleep. -/
def Fact.isSleep (c : CallId) : Fact → Bool
  | .slept d => d = c
  | _ => false

/-- How often the call has gone to sleep. -/
def sleeps (c : CallId) (fs : List Fact) : Nat :=
  fs.countP (Fact.isSleep c)

/-- When a call gives up waiting that began at some time. -/
def waitEnd (begun : Nat) (limit : Option Duration) : Option Nat :=
  limit.map fun d => begun + d.ceilMillis

/-- One step of a call that does not concern the tracker: the phase to which it comes, the version it
has then seen, and how often it goes to sleep. -/
inductive Watch (g : Gateway) (k : Call) : Phase → Nat → Nat → Prop
  | begun (before : k.phase = .created) (unled : g.channel.value = .notElected) :
      Watch g k (.reading (waitEnd g.now (g.waitLimit k))) k.seen 0
  | looked {deadline : Option Nat} (before : k.phase = .reading deadline)
      (unled : g.channel.value = .notElected) : Watch g k (.checking deadline) k.seen 0
  | caughtUp {deadline : Option Nat} (before : k.phase = .checking deadline)
      (newer : g.channel.version ≠ k.seen) : Watch g k (.reading deadline) g.channel.version 0
  | slept {deadline : Option Nat} (before : k.phase = .checking deadline)
      (latest : g.channel.version = k.seen) (kept : g.channel.abandoned = false) :
      Watch g k (.suspended deadline false) k.seen 1
  | woke {deadline : Option Nat} (before : k.phase = .suspended deadline true) :
      Watch g k (.checking deadline) k.seen 0
  /-- Nothing makes a call go on that waits for ever. -/
  | dozed {deadline : Option Nat} (before : k.phase = .suspended deadline false)
      (limitless : g.waitLimit k = none) : Watch g k k.phase k.seen 0
  | led {s : Snapshot} (before : k.phase.seeks = true) (shown : g.channel.value = .elected s)
      (content : k.task.submission? = none) : Watch g k (.finished (.leader (.ok s.leader))) k.seen 0
  | supplied {s : Snapshot} (before : k.phase.seeks = true) (shown : g.channel.value = .elected s)
      (sends : k.task.submission?.isSome = true) : Watch g k (.sending s) k.seen 0
  | turnedAway (before : k.phase.seeks = true)
      (cause : g.channel.value = .closed ∨
        (∃ deadline, k.phase = .checking deadline) ∧ g.channel.abandoned = true) :
      Watch g k (.finished (k.task.failed .closed)) k.seen 0
  | expired {deadline : Option Nat} {limit : Duration} (before : k.phase = .suspended deadline false)
      (limited : g.waitLimit k = some limit) :
      Watch g k (.finished (k.task.failed (.noLeaderAvailable limit))) k.seen 0
  /-- A call that has found its leader does not wait any more. -/
  | past {p : Phase} {seen : Nat} (before : k.phase.seeks = false) (after : p.seeks = false) :
      Watch g k p seen 0

/-- How a call that does not concern the tracker has waited since it began, at a time at which there
is, or is not, something to wake up for. -/
inductive Vigil (stirred : Bool) (now begun : Nat) (limit : Option Duration) :
    Phase → (seen sleeps : Nat) → Prop
  | created {seen : Nat} (prompt : now = begun) : Vigil stirred now begun limit .created seen 0
  | reading {seen m : Nat} (early : ∀ due ∈ waitEnd begun limit, now ≤ due) (once : m ≤ 1)
      (rested : m = 0 ∨ stirred = true) :
      Vigil stirred now begun limit (.reading (waitEnd begun limit)) seen m
  | checking {m : Nat} (early : ∀ due ∈ waitEnd begun limit, now ≤ due) (once : m ≤ 1)
      (rested : m = 0 ∨ stirred = true) :
      Vigil stirred now begun limit (.checking (waitEnd begun limit)) 0 m
  | asleep (early : ∀ due ∈ waitEnd begun limit, now ≤ due) :
      Vigil stirred now begun limit (.suspended (waitEnd begun limit) stirred) 0 1
  | past {p : Phase} {seen m : Nat} (after : p.seeks = false) (once : m ≤ 1) :
      Vigil stirred now begun limit p seen m

variable {g g₁ g' : Gateway} {a : Action} {c d : CallId} {k : Call} {f : Fact} {p : Phase}
  {fs : List Fact} {env : Surroundings} {stirred : Bool} {now begun seen m n : Nat}
  {limit : Option Duration}

/-! ### How often a call sleeps -/

theorem sleeps_append (c : CallId) (fs gs : List Fact) :
    sleeps c (fs ++ gs) = sleeps c fs + sleeps c gs :=
  List.countP_append

theorem Notes.sleeps (h : Notes (fun f => f.isSleep c = false) g g') :
    Gateway.sleeps c g'.facts = Gateway.sleeps c g.facts := by
  obtain ⟨news, hn, hq⟩ := h
  rw [hn, sleeps_append, Nat.add_eq_left]
  exact List.countP_eq_zero.2 fun f hf => by simp [hq f hf]

theorem notes_conclude {Q : Fact → Prop} (hl : ∀ line, Q (.logged line))
    (ha : ∀ a, Q (.answered k.id a)) (s : Snapshot) (request : RequestId)
    (r : Except TransportError Response) : Notes Q g (g.conclude k s request r) := by
  obtain ⟨line, he⟩ := conclude_eq g k s request r
  have hline : Notes Q g (g.logIfAny line) := by
    cases line with
    | none => exact .refl g
    | some line => exact notes_log hl line
  exact he ▸ hline.trans (notes_finish hl k.id _ (ha _))

/-- Who sends a request does not go to sleep over it. -/
theorem notes_send (s : Snapshot) (sub : Submission) :
    Notes (fun f => f.isSleep c = false) g (g.send env k s sub) := by
  have hl : ∀ line, (Fact.logged line).isSleep c = false := fun _ => rfl
  have hlog : Notes (fun f => f.isSleep c = false) g
      (g.log (.requestSent sub.operation env.requestId s.leader)) := notes_log hl _
  unfold send
  dsimp only
  refine hlog.trans ?_
  split
  · exact notes_conclude hl (fun _ => rfl) s _ _
  · split_ifs
    · exact (notes_log hl _).trans (notes_finish hl k.id _ rfl)
    · exact notes_conclude hl (fun _ => rfl) s _ _
    · exact notes_enter (f := .admitted k.id s.connection _ _) rfl

theorem notes_land (f : InFlight) : Notes (fun f => f.isSleep c = false) g (g.land env k f) := by
  have hl : ∀ line, (Fact.logged line).isSleep c = false := fun _ => rfl
  unfold land
  dsimp only
  split_ifs
  · exact (notes_log hl _).trans (notes_finish hl k.id _ rfl)
  · have hreplied : Notes (fun f => f.isSleep c = false) g (g.enter (.replied k.id f.feedback)) :=
      notes_enter rfl
    exact hreplied.trans (notes_conclude hl (fun _ => rfl) f.snapshot _ _)
  · exact (notes_log hl _).trans (notes_finish hl k.id _ rfl)

/-! ### Every step of the call itself -/

/-- Whether a call has made one of these steps, without dealing with a store if it waits. -/
def Watches (g : Gateway) (k : Call) (g₁ : Gateway) : Prop :=
  ∃ p n m, Watch g k p n m ∧ g₁.call? k.id = some { k with phase := p, seen := n } ∧
    sleeps k.id g₁.facts = sleeps k.id g.facts + m ∧
    (k.phase.seeks = true → g₁.dealings k.id = g.dealings k.id)

theorem watches_setPhase (hk : g.call? k.id = some k) (hc : g₁.call? k.id = g.call? k.id)
    (hs : sleeps k.id g₁.facts = sleeps k.id g.facts) (hd : g₁.dealings k.id = g.dealings k.id)
    (hw : Watch g k p k.seen 0) : Watches g k (g₁.setPhase k.id p) :=
  ⟨p, k.seen, 0, hw, by rw [call?_setPhase_self, hc, hk]; rfl, hs, fun _ => hd⟩

theorem watches_finish (hk : g.call? k.id = some k) {answer : Answer}
    (hw : Watch g k (.finished answer) k.seen 0) : Watches g k (g.finish k.id answer) := by
  have hnotes : Notes (fun f => f.isSleep k.id = false) g (g.finish k.id answer) :=
    notes_finish (fun _ => rfl) k.id answer rfl
  refine ⟨_, _, _, hw, ?_, hnotes.sleeps, fun _ => dealings_finish g k.id k.id answer⟩
  rw [call?_finish, if_pos rfl, hk]
  rfl

theorem watches_found (hk : g.call? k.id = some k) (hp : k.phase.seeks = true) {s : Snapshot}
    (hv : g.channel.value = .elected s) : Watches g k (g.found k s) := by
  unfold found
  split
  next hs => exact watches_finish hk (.led hp hv hs)
  next sub hs => exact watches_setPhase hk rfl rfl rfl (.supplied hp hv (by simp [hs]))

theorem watches_beginWait (hk : g.call? k.id = some k) (hp : k.phase = .created) :
    Watches g k (g.beginWait k) := by
  have hseeks : k.phase.seeks = true := by rw [hp]; rfl
  unfold beginWait
  split
  next s hv => exact watches_found hk hseeks hv
  next hv => exact watches_finish hk (.turnedAway hseeks (.inl hv))
  next hv =>
    have hnotes : Notes (fun f => f.isSleep k.id = false) g (g.log .awaitingLeader) :=
      notes_log (fun _ => rfl) _
    exact watches_setPhase hk rfl hnotes.sleeps (dealings_log g k.id _) (.begun hp hv)

theorem watches_look {deadline : Option Nat} (hk : g.call? k.id = some k)
    (hp : k.phase = .reading deadline) : Watches g k (g.look k deadline) := by
  have hseeks : k.phase.seeks = true := by rw [hp]; rfl
  unfold look
  split
  next s hv => exact watches_found hk hseeks hv
  next hv => exact watches_finish hk (.turnedAway hseeks (.inl hv))
  next hv => exact watches_setPhase hk rfl rfl rfl (.looked hp hv)

theorem watches_check {deadline : Option Nat} (hk : g.call? k.id = some k)
    (hp : k.phase = .checking deadline) : Watches g k (g.check k deadline) := by
  have hseeks : k.phase.seeks = true := by rw [hp]; rfl
  unfold check
  split_ifs with hv ha
  · refine ⟨_, _, _, .caughtUp hp hv, ?_, rfl, fun _ => rfl⟩
    rw [call?_setPhase_self, call?_setSeen, if_pos rfl, hk]
    rfl
  · exact watches_finish hk (.turnedAway hseeks (.inr ⟨⟨deadline, hp⟩, ha⟩))
  · refine ⟨_, _, _, .slept hp (not_not.1 hv) (by simpa using ha), ?_, ?_, fun _ => ?_⟩
    · exact (call?_setPhase_self g k.id (.suspended deadline false)).trans (by rw [hk]; rfl)
    · rw [facts_enter, sleeps_append]
      simp [sleeps, Fact.isSleep, facts, setPhase]
    · exact (dealings_enter _ k.id _).trans (List.append_nil _)

theorem watches_wakeUp {deadline : Option Nat} {woken : Bool} (hk : g.call? k.id = some k)
    (hp : k.phase = .suspended deadline woken) : Watches g k (g.wakeUp k deadline woken) := by
  cases woken with
  | true => exact watches_setPhase hk rfl rfl rfl (.woke hp)
  | false =>
    unfold wakeUp
    rw [if_neg (by simp)]
    split
    next hw => exact ⟨_, _, _, .dozed hp hw, hk, rfl, fun _ => rfl⟩
    next limit hw => exact watches_finish hk (.expired hp hw)

theorem Leg.past {task : Task} {sub : Submission} {p p' : Phase}
    (h : Leg g env c task sub p p' fs) (hp : p.seeks = false) : p'.seeks = false := by
  cases h with
  | seek before => simp [before] at hp
  | found before => simp [before] at hp
  | turnedAway before => simp [before] at hp
  | _ => rfl

/-- A call that has found its leader goes on without looking for another. -/
theorem watches_past (hk : g.call? k.id = some k) (hp : k.phase.seeks = false)
    (hroles : g₁.calls.map Call.role = g.calls.map Call.role)
    (hphase : ∀ k₁, g₁.call? k.id = some k₁ → k₁.phase.seeks = false)
    (hs : sleeps k.id g₁.facts = sleeps k.id g.facts) : Watches g k g₁ := by
  have hr := role_call? hroles k.id
  rw [hk] at hr
  obtain ⟨k₁, hk₁, he⟩ := Option.map_eq_some_iff.1 hr
  refine ⟨k₁.phase, k₁.seen, 0, .past hp (hphase k₁ hk₁), ?_, hs, by simp [hp]⟩
  simp only [Call.role, Prod.mk.injEq] at he
  rw [hk₁, ← he.1, ← he.2.1, ← he.2.2]

/-- Every step of a call that does not concern the tracker is one of these. -/
theorem watches_proceed (env : Surroundings) (hk : g.call? k.id = some k)
    (hr : g.canRun k = true) (hf : k.phase.contends = false)
    (ht : k.task.concernsTracker = false) : Watches g k (g.proceed env k) := by
  have hroles := (turn_proceed env hk hr).roles
  unfold proceed at hroles ⊢
  cases hp : k.phase with
  | created =>
    unfold begin
    cases hk' : k.task with
    | notice n => simp [hk', Task.concernsTracker] at ht
    | shutdown => simp [hk', Task.concernsTracker] at ht
    | _ => exact watches_beginWait hk hp
  | reading deadline => exact watches_look hk hp
  | checking deadline => exact watches_check hk hp
  | suspended deadline woken => exact watches_wakeUp hk hp
  | sending s =>
    have hpast : k.phase.seeks = false := by rw [hp]; rfl
    simp only [hp] at hroles
    cases hs : k.task.submission? with
    | none => exact ⟨k.phase, k.seen, 0, .past hpast hpast, hk, rfl, fun _ => rfl⟩
    | some sub =>
      have htakes : Takes g env k sub (g.send env k s sub) := takes_send hp
      obtain ⟨p, fs, hleg, hcomes⟩ := htakes
      simp only [hs] at hroles
      exact watches_past hk hpast hroles (fun k₁ hk₁ => hcomes.phase k₁ hk₁ ▸ hleg.past hpast)
        (notes_send s sub).sleeps
  | admitted a =>
    have hpast : k.phase.seeks = false := by rw [hp]; rfl
    have hquiet : Notes (fun f => f.isSleep k.id = false) g
        (g.enter (.submitted k.id a.snapshot.connection a.member a.request)) := notes_enter rfl
    simp only [hp] at hroles
    have htakes : Takes g env k ⟨"", [], .emptyResult⟩ (g.handOver env k a) := takes_handOver hp
    obtain ⟨p, fs, hleg, hcomes⟩ := htakes
    exact watches_past hk hpast hroles (fun k₁ hk₁ => hcomes.phase k₁ hk₁ ▸ hleg.past hpast)
      hquiet.sleeps
  | inFlight f =>
    have hpast : k.phase.seeks = false := by rw [hp]; rfl
    simp only [hp] at hroles
    have htakes : Takes g env k ⟨"", [], .emptyResult⟩ (g.land env k f) := takes_land hp
    obtain ⟨p, fs, hleg, hcomes⟩ := htakes
    exact watches_past hk hpast hroles (fun k₁ hk₁ => hcomes.phase k₁ hk₁ ▸ hleg.past hpast)
      (notes_land f).sleeps
  | queued u => simp [hp, Phase.contends] at hf
  | opening l openedAt => simp [hp, Phase.contends] at hf
  | finished a => simp [canRun, hp] at hr
  | abandoned => simp [canRun, hp] at hr

/-! ### Keeping vigil -/

@[simp] theorem Phase.seeks_wake (p : Phase) : p.wake.seeks = p.seeks := by
  cases p <;> rfl

theorem Vigil.sleeps_le (h : Vigil stirred now begun limit p seen m) : m ≤ 1 := by
  cases h <;> omega

theorem Vigil.wake (h : Vigil stirred now begun limit p seen m) :
    Vigil true now begun limit p.wake seen m := by
  cases h with
  | created hp => exact .created hp
  | reading he ho => exact .reading he ho (.inr rfl)
  | checking he ho => exact .checking he ho (.inr rfl)
  | asleep he => exact .asleep he
  | past ho hm => exact .past (Phase.seeks_wake p ▸ ho) hm

/-- What a call that waits finds out agrees with what is published. -/
theorem Vigil.watch (h : Vigil g.isStirred g.now begun (g.waitLimit k) k.phase k.seen m)
    (hw : Watch g k p seen n) (hc : g.channel.IsCounted)
    (hs : k.phase.seeks = true → k.seen ≤ g.channel.version) :
    Vigil g.isStirred g.now begun (g.waitLimit k) p seen (m + n) := by
  have hm := h.sleeps_le
  have hstirred : g.channel.version ≠ 0 → g.isStirred = true := fun hv => by
    have hvalue : g.channel.value ≠ .notElected := fun he => hv (hc.2 he)
    simp [isStirred, hvalue]
  generalize hp : k.phase = before at h
  cases hw with
  | begun hb =>
    rw [hp] at hb
    subst hb
    cases h with
    | created hn =>
      subst hn
      refine .reading (fun due hd => ?_) (Nat.zero_le 1) (.inl rfl)
      obtain ⟨d, -, rfl⟩ := Option.map_eq_some_iff.1 hd
      exact Nat.le_add_right _ _
    | past ho => simp [Phase.seeks] at ho
  | looked hb hv =>
    rw [hp] at hb
    subst hb
    have hzero : k.seen = 0 := by
      have hz := hc.2 hv
      have hle := hs (by rw [hp]; rfl)
      omega
    cases h with
    | reading he ho hr =>
      rw [hzero]
      exact .checking he ho hr
    | past ho => simp [Phase.seeks] at ho
  | caughtUp hb hv =>
    rw [hp] at hb
    subst hb
    generalize hseen : k.seen = x at h hv
    cases h with
    | checking he ho => exact .reading he ho (.inr (hstirred hv))
    | past ho => simp [Phase.seeks] at ho
  | slept hb hv ha =>
    rw [hp] at hb
    subst hb
    generalize hseen : k.seen = x at h hv
    cases h with
    | checking he ho hr =>
      have hunstirred : g.isStirred = false := by
        simp [isStirred, ha, hc.1 hv]
      obtain rfl := hr.resolve_right (by simp [hunstirred])
      have hvigil : Vigil g.isStirred g.now begun (g.waitLimit k) (.suspended _ g.isStirred) 0 1 :=
        .asleep he
      rwa [hunstirred] at hvigil ⊢
    | past ho => simp [Phase.seeks] at ho
  | woke hb =>
    rw [hp] at hb
    generalize hseen : k.seen = x at h
    generalize hst : g.isStirred = stirred at h
    cases h with
    | asleep he =>
      obtain ⟨rfl, rfl⟩ := Phase.suspended.inj hb
      exact .checking he (Nat.le_refl 1) (.inr rfl)
    | past ho => simp [hb, Phase.seeks] at ho
    | _ => simp at hb
  | dozed => exact hp ▸ h
  | led => exact .past rfl hm
  | supplied => exact .past rfl hm
  | turnedAway => exact .past rfl hm
  | expired => exact .past rfl hm
  | past _ ha => exact .past ha hm

/-- Who seeks a leader has sought one before. -/
theorem Watch.seeks (h : Watch g k p seen n) (hp : p.seeks = true) : k.phase.seeks = true := by
  cases h with
  | begun before => rw [before]; rfl
  | looked before => rw [before]; rfl
  | caughtUp before => rw [before]; rfl
  | slept before => rw [before]; rfl
  | woke before => rw [before]; rfl
  | dozed => exact hp
  | past _ after => simp [after] at hp
  | _ => simp [Phase.seeks] at hp

theorem Watch.seen_le (h : Watch g k p seen n) (hp : p.seeks = true)
    (hs : k.phase.seeks = true → k.seen ≤ g.channel.version) : seen ≤ g.channel.version := by
  have hle := hs (h.seeks hp)
  cases h with
  | caughtUp => exact Nat.le_refl _
  | past _ after => simp [after] at hp
  | _ => exact hle

/-! ### Every state -/

/-- Whether a call, if it does not concern the tracker, has waited as it should since it began. -/
structure VigilantAt (g : Gateway) (c : CallId) : Prop where
  counted : g.channel.IsCounted
  unknown : g.call? c = none → sleeps c g.facts = 0 ∧ g.dealings c = []
  known : ∀ k, g.call? c = some k → k.task.concernsTracker = false →
    (k.phase.seeks = true → k.seen ≤ g.channel.version ∧ g.dealings c = []) ∧
    ∃ begun, ⟨begun, .started c⟩ ∈ g.journal ∧
      Vigil g.isStirred g.now begun (g.waitLimit k) k.phase k.seen (sleeps c g.facts)

/-- What others do leaves a call waiting as it was, or wakes it. -/
theorem VigilantAt.rouses {others : CallId → Prop} (h : g.VigilantAt c) (hr : Rouses others g g')
    (hc : others c) (hs : sleeps c g'.facts = sleeps c g.facts)
    (hd : g'.dealings c = g.dealings c) (hj : g.journal ⊆ g'.journal) (hn : g'.now = g.now)
    (hset : g'.settings = g.settings) : g'.VigilantAt c := by
  have hlimit : ∀ k, g'.waitLimit k = g.waitLimit k := fun k => by simp [waitLimit, hset]
  refine ⟨hr.counted h.counted, fun hnone => ?_, fun k hk ht => ?_⟩ <;> rw [hs, hd]
  · refine h.unknown ?_
    cases hr with
    | silent _ hstill => exact hstill c hc ▸ hnone
    | loud _ _ _ hw => simpa [hw c hc] using hnone
  · rw [hn, hlimit]
    cases hr with
    | silent hchannel hstill =>
      obtain ⟨hseeks, begun, hb, hv⟩ := h.known k (hstill c hc ▸ hk) ht
      have hstirred : g'.isStirred = g.isStirred := by simp [isStirred, hchannel]
      exact ⟨hchannel ▸ hseeks, begun, hj hb, hstirred ▸ hv⟩
    | loud hstirred hversion _ hw =>
      rw [hw c hc] at hk
      obtain ⟨k₀, hk₀, rfl⟩ := Option.map_eq_some_iff.1 hk
      obtain ⟨hseeks, begun, hb, hv⟩ := h.known k₀ hk₀ ht
      refine ⟨fun hp => ?_, begun, hj hb, hstirred ▸ hv.wake⟩
      exact (hseeks (Phase.seeks_wake k₀.phase ▸ hp)).imp_left (Nat.le_trans · hversion)

theorem UpToAnswer.channel (h : UpToAnswer c (Aside c g) g') : g'.channel = g.channel := by
  rcases h with h | ⟨g₁, a, h, rfl⟩
  · exact h.channel
  · rw [channel_finish, h.channel]

theorem UpToAnswer.journal (h : UpToAnswer c (Turn c g) g') : g.journal ⊆ g'.journal := by
  rcases h with h | ⟨g₁, a, h, rfl⟩
  · obtain ⟨news, hn, -⟩ := h.journal
    exact hn ▸ List.subset_append_left _ _
  · obtain ⟨news, hn, -⟩ := h.journal
    rw [journal_finish, hn, List.append_assoc, List.append_assoc]
    exact List.subset_append_left _ _

/-- While one call has its turn, no other goes to sleep. -/
theorem UpToAnswer.sleeps (h : UpToAnswer c (Turn c g) g') (hd : d ≠ c) :
    Gateway.sleeps d g'.facts = Gateway.sleeps d g.facts := by
  obtain ⟨news, hn, ht⟩ := h.facts
  refine Notes.sleeps ⟨news, hn, fun f hf => ?_⟩
  rcases ht f hf with hf | ⟨a, rfl⟩
  · cases f <;> simp_all [Fact.isSleep, Fact.DuringTurnOf, eq_comm]
  · rfl

theorem VigilantAt.release (h : g.VigilantAt c) : g.release.VigilantAt c := by
  have hnotes : Notes (fun f => f.isSleep c = false) g g.release :=
    notes_release (fun _ => rfl) (fun _ _ => rfl) g
  obtain ⟨g₁, ht, -, -, hj⟩ := exists_turn_release g c
  have hrouses : Rouses (fun _ => True) g g.release := rouses_release g
  exact h.rouses hrouses trivial hnotes.sleeps (dealings_release g c)
    (hj ▸ UpToAnswer.journal (.inl ht)) (now_release g) (settings_release g)

/-- Time passes only while nobody looks, and nobody sleeps beyond the end of its wait. -/
theorem Vigil.advance {time : Nat} (h : Vigil stirred g.now begun limit k.phase seen m)
    (hidle : g.canRun k = false) (hquiet : isQuietUntil time k = true) :
    Vigil stirred time begun limit k.phase seen m := by
  unfold canRun at hidle
  unfold isQuietUntil timer? at hquiet
  generalize k.phase = p at h hidle hquiet
  cases h with
  | created => simp at hidle
  | reading => simp at hidle
  | checking => simp at hidle
  | asleep he =>
    refine .asleep fun due hd => ?_
    simpa [Option.mem_def.1 hd] using hquiet
  | past ho hm => exact .past ho hm

theorem VigilantAt.course (h : g.VigilantAt c) (hd : g.Disciplined) (hc : Course g a g₁) :
    g₁.VigilantAt c := by
  cases hc with
  | @start d handle task seen hf _ _ hs =>
    by_cases he : c = d
    · subst he
      have hsleeps : sleeps c (g.enrol ⟨c, task, handle, seen, .created⟩).facts = 0 := by
        rw [facts_enrol, sleeps_append, (h.unknown hf).1]
        rfl
      have hdealings : (g.enrol ⟨c, task, handle, seen, .created⟩).dealings c = [] :=
        (dealings_enrol g _ c).trans (h.unknown hf).2
      refine ⟨h.counted, fun _ => ⟨hsleeps, hdealings⟩, fun k hk _ => ?_⟩
      rw [call?_enrol, hf, Option.none_or, if_pos rfl] at hk
      obtain rfl := Option.some.inj hk
      refine ⟨fun _ => ⟨hs, hdealings⟩, g.now, ?_, hsleeps ▸ .created rfl⟩
      exact List.mem_append_right _ (List.mem_singleton.2 rfl)
    · have hstill : Rouses (· ≠ d) g (g.enrol ⟨d, task, handle, seen, .created⟩) := by
        refine .silent rfl fun e he => ?_
        rw [call?_enrol, if_neg (Ne.symm he), Option.or_none]
      refine h.rouses hstill he ?_ (dealings_enrol g _ c) (List.subset_append_left _ _) rfl rfl
      rw [facts_enrol, sleeps_append]
      rfl
  | around => exact ⟨h.counted, h.unknown, h.known⟩
  | advance later idle quiet =>
    refine ⟨h.counted, h.unknown, fun k hk ht => ?_⟩
    obtain ⟨hseeks, begun, hb, hv⟩ := h.known k hk ht
    have hm := mem_of_call? hk
    exact ⟨hseeks, begun, hb, hv.advance (idle k hm) (quiet k hm)⟩
  | @abandon d k hk hw =>
    have hsleeps : sleeps c (g.giveUp d).facts = sleeps c g.facts := by
      rw [facts_giveUp, sleeps_append]
      rfl
    have hjournal : g.journal ⊆ (g.giveUp d).journal := List.subset_append_left _ _
    by_cases he : c = d
    · subst he
      refine ⟨h.counted, fun hn => ?_, fun k' hk' ht => ?_⟩
      · rw [call?_giveUp, if_pos rfl, hk] at hn
        simp at hn
      · rw [call?_giveUp, if_pos rfl, hk] at hk'
        obtain rfl := Option.some.inj hk'
        obtain ⟨-, begun, hb, hv⟩ := h.known k hk ht
        exact ⟨by simp [Phase.seeks], begun, hjournal hb, .past rfl (hsleeps ▸ hv.sleeps_le)⟩
    · have hstill : Rouses (· ≠ d) g (g.giveUp d) :=
        .silent rfl fun e he => by rw [call?_giveUp, if_neg he]
      exact h.rouses hstill he hsleeps (dealings_giveUp g d c) hjournal rfl rfl
  | @run d k env hk hr =>
    have hturn := turn_proceed env hk hr
    have hrouses := rouses_proceed env hk hr
    by_cases he : c = d
    · subst he
      obtain rfl := id_of_call? hk
      refine ⟨hrouses.counted h.counted, fun hn => ?_, fun k' hk' ht => ?_⟩
      · obtain ⟨k', hk', -⟩ := hturn.exists_call? hk
        simp [hk'] at hn
      · have ht₀ : k.task.concernsTracker = false := by rwa [hturn.task hk hk'] at ht
        have hfree := hd.free hk ht₀
        have haside := aside_proceed (g := g) env hfree fun _ => update?_of_concernsTracker ht₀
        obtain ⟨p, seen, m, hw, hcall, hm, hdeal⟩ := watches_proceed env hk hr hfree ht₀
        obtain rfl := Option.some.inj (hcall.symm.trans hk')
        obtain ⟨hseeks, begun, hb, hv⟩ := h.known k hk ht₀
        have hseen := fun hp => (hseeks hp).1
        have hchannel : (g.proceed env k).channel = g.channel := haside.channel
        have hstirred : (g.proceed env k).isStirred = g.isStirred := by simp [isStirred, hchannel]
        have hlimit : (g.proceed env k).waitLimit { k with phase := p, seen := seen } =
            g.waitLimit k := by simp [waitLimit, hturn.settings]
        refine ⟨fun hp => ⟨hchannel ▸ hw.seen_le hp hseen, ?_⟩, begun, hturn.journal hb, ?_⟩
        · have hbefore := hw.seeks hp
          exact (hdeal hbefore).trans (hseeks hbefore).2
        rw [hstirred, hturn.now, hlimit, hm]
        exact hv.watch hw h.counted hseen
    · exact h.rouses hrouses he (hturn.sleeps he) (hturn.dealings he) hturn.journal hturn.now
        hturn.settings

end LeaderRouting.Gateway
