import LeaderRouting.Proofs.Tracker.Chronology
import LeaderRouting.Proofs.Tracker.Deeds
import Mathlib.Data.List.Nodup

/-!
The turnover of connections.  Each is open, and readers have been shown it, before the one that it
replaces is closed; the last one is closed by the shutdown, or when nobody is left.
-/

namespace LeaderRouting

open Gateway

inductive Turnover
  | opened (connection : Nat)
  | closed (connection : Nat)
  deriving DecidableEq

def Turnover.connection : Turnover → Nat
  | opened n | closed n => n

namespace Gateway

def Fact.turnover? : Fact → Option Turnover
  | .opened _ n _ => some (.opened n)
  | .closed n _ => some (.closed n)
  | _ => none

/-- The connections that were opened and closed, in order. -/
def turnovers (fs : List Fact) : List Turnover :=
  fs.filterMap Fact.turnover?

/-- The close of the last of this many connections. -/
def lastClosed : Nat → List Turnover
  | 0 => []
  | n + 1 => [.closed n]

/-- The turnover of this many connections, of which the last one stays. -/
def relay : Nat → List Turnover
  | 0 => []
  | n + 1 => relay n ++ .opened n :: lastClosed n

/-- Whether a close of one of this many connections comes after the publication of the next one, or,
if it is the last one, after that of the end, or once nobody is left. -/
def IsTimely (opens : Nat) (deserted : Prop) (before : List Fact) (f : Fact) : Prop :=
  ∀ n m, f = .closed n m →
    (n + 1 < opens ∧ ∃ s, s.connection = n + 1 ∧ .published (.elected s) ∈ before) ∨
      (n + 1 = opens ∧ (.published .closed ∈ before ∨ deserted))

variable {fs : List Fact} {f : Fact} {n : Nat}

@[simp] theorem turnovers_append (fs gs : List Fact) :
    turnovers (fs ++ gs) = turnovers fs ++ turnovers gs :=
  List.filterMap_append

@[simp] theorem turnovers_nil : turnovers [] = [] :=
  rfl

@[simp] theorem turnovers_cons (f : Fact) (fs : List Fact) :
    turnovers (f :: fs) = f.turnover?.toList ++ turnovers fs := by
  unfold turnovers
  cases hf : f.turnover? <;> simp [hf]

theorem closed_mem_turnovers_iff : .closed n ∈ turnovers fs ↔ ∃ m, .closed n m ∈ fs := by
  constructor
  · intro h
    obtain ⟨f, hf, ht⟩ := List.mem_filterMap.1 h
    cases f with
    | closed i m =>
      obtain rfl : i = n := by simpa [Fact.turnover?] using ht
      exact ⟨m, hf⟩
    | _ => simp [Fact.turnover?] at ht
  · rintro ⟨m, hm⟩
    exact List.mem_filterMap.2 ⟨_, hm, rfl⟩

theorem exists_opened_of_mem_turnovers (h : .opened n ∈ turnovers fs) : ∃ c m, .opened c n m ∈ fs := by
  obtain ⟨f, hf, ht⟩ := List.mem_filterMap.1 h
  cases f with
  | opened c i m =>
    obtain rfl : i = n := by simpa [Fact.turnover?] using ht
    exact ⟨c, m, hf⟩
  | _ => simp [Fact.turnover?] at ht

theorem connection_lt_of_mem_relay {x : Turnover} (h : x ∈ relay n ++ lastClosed n) :
    x.connection < n := by
  induction n with
  | zero => simp [relay, lastClosed] at h
  | succ n ih =>
    simp only [relay, lastClosed, List.append_assoc, List.mem_append, List.mem_cons,
      List.not_mem_nil, or_false] at h ih
    rcases h with h | (rfl | h) | rfl
    · exact Nat.lt_succ_of_lt (ih (.inl h))
    · exact Nat.lt_succ_self n
    · exact Nat.lt_succ_of_lt (ih (.inr h))
    · exact Nat.lt_succ_self n

theorem opened_mem_relay {i : Nat} (h : i < n) : .opened i ∈ relay n := by
  induction n with
  | zero => exact absurd h (Nat.not_lt_zero i)
  | succ n ih =>
    rcases Nat.lt_succ_iff_lt_or_eq.1 h with h | rfl
    · exact List.mem_append_left _ (ih h)
    · simp [relay]

theorem nodup_relay (n : Nat) : (relay n ++ lastClosed n).Nodup := by
  induction n with
  | zero => exact .nil
  | succ n ih =>
    have hnew : ∀ x : Turnover, x.connection = n → x ∉ relay n ++ lastClosed n := by
      intro x hx hm
      exact absurd (connection_lt_of_mem_relay hm) (by omega)
    have hrelay : relay (n + 1) ++ lastClosed (n + 1) =
        relay n ++ .opened n :: (lastClosed n ++ [.closed n]) :=
      List.append_assoc _ _ _
    rw [hrelay, List.nodup_middle, List.nodup_cons, ← List.append_assoc]
    refine ⟨?_, ?_⟩
    · simpa using hnew (.opened n) rfl
    · refine List.nodup_append.2 ⟨ih, by simp, ?_⟩
      rintro x hx y hy rfl
      exact hnew x (by rw [List.mem_singleton.1 hy]; rfl) hx

end Gateway

namespace Serial

/-- Whether each connection was released as often as its close is on record. -/
def Counted (t : Serial) : Prop :=
  ∀ n k, t.connections[n]? = some k → k.releases = (turnovers t.trace).count (.closed n)

/-- Whether the connections opened so far have replaced one another, and the current one is the last
one. -/
structure Relayed (t : Serial) : Prop where
  current : ∀ s, t.writer.current = some s → t.connections.length = s.connection + 1
  vacant : t.writer.closed = false → t.writer.current = none → t.connections.length = 0
  order : turnovers t.trace = relay t.connections.length ++
    if t.writer.closed then lastClosed t.connections.length else []
  timely : Preceded (IsTimely t.connections.length False) t.trace
  counted : t.Counted

variable {t : Serial} {s : Snapshot} {f : Fact} {ops : List Operation}

/-! ### Releases -/

theorem counted_note (h : t.Counted) (hf : ∀ n, f.turnover? ≠ some (.closed n)) :
    (t.note f).Counted := by
  intro n k hk
  have hnone : f.turnover?.toList.count (.closed n) = 0 :=
    List.count_eq_zero.2 (by simpa using hf n)
  simp only [note, turnovers_append, turnovers_cons, turnovers_nil, List.append_nil,
    List.count_append, hnone, Nat.add_zero]
  exact h n k hk

theorem counted_publish (h : t.Counted) (w : Writer) (v : Published) :
    ({ t with writer := w }.publish v).Counted :=
  counted_note (t := { t with writer := w, value := v }) h (by simp [Fact.turnover?])

theorem counted_close (h : t.Counted) (n : Nat) : (t.close n).Counted := by
  unfold close
  split
  · exact h
  next k hk =>
    split_ifs with hc
    · exact h
    · intro i k' hk'
      simp only [note, List.getElem?_set, turnovers_append, turnovers_cons, Fact.turnover?,
        Option.toList_some, turnovers_nil, List.count_append] at hk' ⊢
      split_ifs at hk' with hi
      · obtain rfl := Option.some.inj hk'
        subst hi
        simp [h n k hk, Connection.close, hc, Connection.mark, Connection.retire, Connection.release]
      · simp [h i k' hk', hi]

theorem counted_closePrevious (h : t.Counted) (previous : Option Snapshot) :
    (t.closePrevious previous).Counted := by
  cases previous with
  | none => exact h
  | some s => exact counted_close h s.connection

/-- A connection that was just opened has not been released. -/
theorem counted_open (h : t.Relayed) (hc : t.writer.closed = false) (m : Member) :
    Counted { t with connections := t.connections ++ [⟨m, false, false, 0⟩] } := by
  intro n k hk
  rcases Nat.lt_or_ge n t.connections.length with hn | hn
  · rw [List.getElem?_append_left hn] at hk
    exact h.counted n k hk
  · have hr : k.releases = 0 := by
      rw [List.getElem?_append_right hn, List.getElem?_singleton] at hk
      split_ifs at hk
      obtain rfl := Option.some.inj hk
      rfl
    have hlast : ¬Turnover.connection (.closed n) < t.connections.length := Nat.not_lt.2 hn
    refine hr.trans (List.count_eq_zero.2 fun hmem => hlast (connection_lt_of_mem_relay ?_)).symm
    rw [h.order, hc] at hmem
    exact List.mem_append_left _ (by simpa using hmem)

theorem turnovers_closing (h : t.Relayed) (hc : t.writer.closed = false) :
    turnovers (closing t.writer.current) = lastClosed t.connections.length := by
  cases hs : t.writer.current with
  | none =>
    rw [h.vacant hc hs]
    rfl
  | some s =>
    rw [h.current s hs]
    rfl

theorem length_closePrevious (t : Serial) (previous : Option Snapshot) :
    (t.closePrevious previous).connections.length = t.connections.length := by
  cases previous with
  | none => rfl
  | some s =>
    simp only [closePrevious, close]
    split
    · rfl
    · split_ifs <;> simp [note]

theorem isTimely_of_not_closed (hf : f.turnover? = none) (opens : Nat) (deserted : Prop)
    (before : List Fact) : IsTimely opens deserted before f := by
  rintro n m rfl
  simp [Fact.turnover?] at hf

theorem relayed_note (h : t.Relayed) (hf : f.turnover? = none) : (t.note f).Relayed where
  current := h.current
  vacant := h.vacant
  order := by
    have ht : turnovers (t.note f).trace = turnovers t.trace := by simp [note, hf]
    rw [ht]
    exact h.order
  timely := h.timely.concat (isTimely_of_not_closed hf _ _ _)
  counted := counted_note h.counted (by simp [hf])

theorem relayed_renew (h : t.Relayed) (hs : t.writer.current = some s) (l : Leader) :
    (t.install ⟨l, s.connection⟩).Relayed := by
  have hinstalled : Relayed { t with
      writer := { t.writer with current := some ⟨l, s.connection⟩ }
      value := .elected ⟨l, s.connection⟩ } := by
    refine ⟨?_, by simp, h.order, h.timely, h.counted⟩
    rintro _ ⟨⟩
    exact h.current s hs
  exact relayed_note hinstalled rfl

/-- The current connection is closed in time if its successor was published, or the end was, or if
nobody is left. -/
theorem isTimely_closing {before : List Fact} {opens : Nat} {deserted : Prop}
    (h : ∀ s, t.writer.current = some s → ∀ m,
      IsTimely opens deserted before (.closed s.connection m)) :
    Preceded (fun part => IsTimely opens deserted (before ++ part)) (closing t.writer.current) := by
  cases hs : t.writer.current with
  | none => exact preceded_nil
  | some s => exact preceded_singleton (by simpa using h s hs s.leader.member)

theorem relayed_connect (hcoherent : t.Coherent) (h : t.Relayed) (hc : t.writer.closed = false)
    (hp : .published .closed ∉ t.trace) (c : CallId) (l : Leader) : (t.connect c l).Relayed := by
  have hlength : (t.connect c l).connections.length = t.connections.length + 1 := by
    simp [connect, length_closePrevious, install, publish, note]
  have htrace := trace_connect hcoherent c l
  refine ⟨?_, by simp, ?_, ?_, ?_⟩
  · rw [writer_connect, hlength]
    rintro _ ⟨⟩
    rfl
  · rw [htrace, hlength, writer_connect]
    simp [h.order, hc, relay, turnovers_closing h hc, Fact.turnover?]
  · rw [htrace, hlength]
    have hold : Preceded (IsTimely (t.connections.length + 1) False) t.trace := by
      refine h.timely.mono fun before f hf ht n m he => ?_
      rcases ht n m he with ⟨hn, hs⟩ | ⟨-, hclosed | hfalse⟩
      · exact .inl ⟨by omega, hs⟩
      · obtain ⟨rest, hr⟩ := hf
        exact absurd (hr ▸ by simp [hclosed]) hp
      · exact hfalse.elim
    have hopened : Preceded (IsTimely (t.connections.length + 1) False) (t.trace ++
        [.opened c t.connections.length l.member,
          .published (.elected ⟨l, t.connections.length⟩)]) := by
      have he := (hold.concat (f := .opened c t.connections.length l.member) (by simp [IsTimely]))
      simpa using he.concat (f := .published (.elected ⟨l, t.connections.length⟩))
        (isTimely_of_not_closed rfl _ _ _)
    refine hopened.append (isTimely_closing fun s hs m n m' he => ?_)
    obtain ⟨rfl, -⟩ := Fact.closed.inj he
    have hn := h.current s hs
    exact .inl ⟨by omega, ⟨l, t.connections.length⟩, hn, by simp⟩
  · have hopened := counted_note (counted_open h hc l.member)
      (f := .opened c t.connections.length l.member) (by simp [Fact.turnover?])
    exact counted_closePrevious (counted_publish hopened _ _) t.writer.current

theorem relayed_shutDown (hcoherent : t.Coherent) (h : t.Relayed) : t.shutDown.Relayed := by
  have htrace := trace_shutDown hcoherent
  cases hc : t.writer.closed with
  | true =>
    have he : t.shutDown = t := by simp [shutDown, hc]
    rwa [he]
  | false =>
    have hlength : t.shutDown.connections.length = t.connections.length := by
      simp [shutDown, hc, length_closePrevious, publish, note]
    have hwriter : t.shutDown.writer = ⟨none, true⟩ := by simp [shutDown, hc, publish, note]
    simp only [hc, Bool.false_eq_true, if_false] at htrace
    refine ⟨by simp [hwriter], by simp [hwriter], ?_, ?_, ?_⟩
    · have hp : turnovers (.published .closed :: closing t.writer.current) =
          turnovers (closing t.writer.current) := rfl
      rw [htrace, hlength, hwriter, turnovers_append, h.order, hp, turnovers_closing h hc]
      simp [hc]
    · rw [htrace, hlength, List.append_cons]
      refine (h.timely.concat (isTimely_of_not_closed rfl _ _ _)).append
        (isTimely_closing fun s hs m n m' he => ?_)
      obtain ⟨rfl, -⟩ := Fact.closed.inj he
      exact .inr ⟨(h.current s hs).symm, .inl (by simp)⟩
    · simp only [shutDown, hc, Bool.false_eq_true, if_false]
      exact counted_closePrevious (counted_publish h.counted _ _) t.writer.current

theorem published_closed_iff (ops : List Operation) :
    .published .closed ∈ (replay ops).trace ↔ (replay ops).writer.closed = true := by
  obtain ⟨ss, hp, -⟩ := publications_replay ops
  rw [published_mem_iff, hp]
  cases (replay ops).writer.closed <;> simp

theorem relayed_replay (ops : List Operation) : (replay ops).Relayed := by
  induction ops using List.reverseRecOn with
  | nil => exact ⟨by simp [replay], fun _ _ => rfl, rfl, preceded_nil, by simp [Counted, replay]⟩
  | append_singleton ops op ih =>
    have hcoherent := coherent_replay ops
    rw [replay_concat]
    refine relayed_note ?_ rfl
    unfold perform
    split
    next l _ =>
      unfold elect
      split_ifs with hc
      · exact ih
      · exact ih
      · have hc : (replay ops).writer.closed = false := by simpa using hc
        split
        next s hs => exact relayed_renew ih (Option.filter_eq_some_iff.1 hs).1 l
        · exact relayed_note ih rfl
        · exact relayed_connect hcoherent ih hc (by simp [published_closed_iff, hc]) op.call l
    · exact relayed_shutDown hcoherent ih

/-! ### Operations and what they leave -/

/-- After the shutdown no operation does anything. -/
theorem perform_of_closed (hc : t.writer.closed = true) (op : Operation) :
    (t.perform op).1 = t := by
  unfold perform
  split
  · simp [elect, hc]
  · simp [shutDown, hc]

theorem closed_of_shutdown {op : Operation} (hop : op ∈ ops) (hu : op.update = .shutdown) :
    (replay ops).writer.closed = true := by
  induction ops using List.reverseRecOn with
  | nil => simp at hop
  | append_singleton ops last ih =>
    rw [replay_concat]
    simp only [apply, writer_note]
    rcases List.mem_append.1 hop with hop | hop
    · rw [perform_of_closed (ih hop)]
      exact ih hop
    · obtain rfl := List.mem_singleton.1 hop
      unfold perform
      rw [hu]
      simp only [shutDown]
      split_ifs with hc
      · exact hc
      · simp [publish, note]

theorem exists_shutdown_of_closed (hc : (replay ops).writer.closed = true) :
    ∃ op ∈ ops, op.update = .shutdown := by
  induction ops using List.reverseRecOn with
  | nil => simp [replay] at hc
  | append_singleton ops op ih =>
    cases hu : op.update with
    | shutdown => exact ⟨op, by simp, hu⟩
    | elect l =>
      have hkept : (replay (ops ++ [op])).writer.closed = (replay ops).writer.closed := by
        rw [replay_concat]
        simp only [apply, writer_note, perform, hu]
        unfold elect
        split_ifs
        · rfl
        · rfl
        · split <;> simp [install, publish, note]
      obtain ⟨op', hop, hu'⟩ := ih (hkept ▸ hc)
      exact ⟨op', List.mem_append_left _ hop, hu'⟩

theorem exists_of_answered {c : CallId} {a : Answer} (h : .answered c a ∈ (replay ops).trace) :
    ∃ op ∈ ops, op.call = c := by
  induction ops using List.reverseRecOn with
  | nil => simp [replay] at h
  | append_singleton ops op ih =>
    obtain ⟨vs, -, ⟨news, ht, -, hn⟩, -⟩ := exists_adds (replay ops) op
    rw [replay_concat] at h
    simp only [apply, note, ht, List.mem_append, List.mem_singleton] at h
    rcases h with (h | h) | h
    · obtain ⟨op', hop, hc⟩ := ih h
      exact ⟨op', List.mem_append_left _ hop, hc⟩
    · exact absurd rfl (List.countP_eq_zero.1 hn _ h)
    · exact ⟨op, by simp, (Fact.answered.inj h).1.symm⟩

/-- Once a shutdown is answered, no connection is opened or closed any more. -/
theorem settled_replay (hn : (ops.map (·.call)).Nodup) :
    Preceded (fun before f => ∀ op ∈ ops, op.update = .shutdown → ∀ a, f = .answered op.call a →
      turnovers (replay ops).trace = turnovers before) (replay ops).trace := by
  induction ops using List.reverseRecOn with
  | nil => exact preceded_nil
  | append_singleton ops op ih =>
    rw [List.map_append, List.nodup_append] at hn
    obtain ⟨hn, -, hd⟩ := hn
    obtain ⟨vs, -, ⟨news, ht, -, hnews⟩, -⟩ := exists_adds (replay ops) op
    have htrace : (replay (ops ++ [op])).trace =
        (replay ops).trace ++ news ++ [.answered op.call ((replay ops).answer op)] := by
      simp [apply, note, ht]
    have hturnovers : turnovers (replay (ops ++ [op])).trace =
        turnovers ((replay ops).perform op).1.trace := by
      rw [htrace, ht, turnovers_append]
      simp [Fact.turnover?]
    rw [hturnovers, htrace]
    refine Preceded.concat (Preceded.append ((ih hn).mono ?_) ?_) ?_
    · intro before f hf hP op' hop hu a he
      have hop : op' ∈ ops := by
        refine (List.mem_append.1 hop).resolve_right fun hlast => ?_
        -- An earlier answer is not that of the last operation.
        obtain ⟨rest, hr⟩ := hf
        have hanswered : .answered op'.call a ∈ (replay ops).trace := by
          rw [← hr, he]
          simp
        obtain ⟨earlier, hearlier, hc⟩ := exists_of_answered hanswered
        rw [List.mem_singleton.1 hlast] at hc
        exact hd _ (List.mem_map_of_mem hearlier) op.call (by simp) hc
      rw [perform_of_closed (closed_of_shutdown hop hu)]
      exact hP op' hop hu a he
    · intro before f hf op' _ _ a he
      refine absurd rfl (List.countP_eq_zero.1 hnews (.answered op'.call a) ?_)
      obtain ⟨rest, hr⟩ := hf
      rw [← hr, he]
      simp
    · intro op' _ _ a _
      rw [ht]

/-- Only an operation that is told that its candidate is the new leader opens a connection. -/
theorem newLeader_of_opens (hcoherent : t.Coherent) {op : Operation} {c : CallId} {n : Nat}
    {m : Member} (h : .opened c n m ∈ (t.perform op).1.trace) :
    .opened c n m ∈ t.trace ∨ op.call = c ∧ (t.perform op).2 = .ok .newLeader := by
  have hclosing : Fact.opened c n m ∉ closing t.writer.current := by
    cases t.writer.current <;> simp [closing]
  unfold perform at h ⊢
  split at h
  next l _ =>
    unfold elect at h ⊢
    split_ifs at h ⊢
    · exact .inl h
    · exact .inl h
    · split at h
      · exact .inl (by simpa [install, publish, note] using h)
      · exact .inl (by simpa [note] using h)
      · simp only [trace_connect hcoherent, List.mem_append, List.mem_cons, Fact.opened.injEq,
          reduceCtorEq, List.not_mem_nil, or_false, hclosing] at h
        exact h.imp_right fun h => ⟨h.1.symm, rfl⟩
  · rw [trace_shutDown hcoherent, List.mem_append] at h
    refine .inl (h.resolve_right ?_)
    split_ifs <;> simp [hclosing]

theorem exists_of_opened {c : CallId} {n : Nat} {m : Member}
    (h : .opened c n m ∈ (replay ops).trace) : ∃ (i : Nat) (op : Operation), ops[i]? = some op ∧
      op.call = c ∧ ((replay (ops.take i)).perform op).2 = .ok .newLeader := by
  induction ops using List.reverseRecOn with
  | nil => simp [replay] at h
  | append_singleton ops op ih =>
    rw [replay_concat] at h
    have h : .opened c n m ∈ ((replay ops).perform op).1.trace := by
      simpa [apply, note] using h
    rcases newLeader_of_opens (coherent_replay ops) h with h | ⟨hc, hp⟩
    · obtain ⟨i, op', hi, hc, hp⟩ := ih h
      have hlt := (List.getElem?_eq_some_iff.1 hi).1
      refine ⟨i, op', by rwa [List.getElem?_append_left hlt], hc, ?_⟩
      rwa [List.take_append_of_le_length (Nat.le_of_lt hlt)]
    · exact ⟨ops.length, op, by simp, hc, by rwa [List.take_left]⟩

end Serial

namespace Gateway

variable {g g₁ : Gateway} {a : Action} {c : CallId} {k : Call}

/-- Whether an action opens or closes a connection of the tracker: as the last step of a call that is
told that its candidate is the new leader, or as that of the first shutdown. -/
inductive Moves (g : Gateway) : Action → Gateway → Prop
  | swap {c : CallId} {k : Call} {env : Surroundings} {l : Leader} {openedAt : Option Nat}
      {g' : Gateway} (found : g.call? c = some k) (phase : k.phase = .opening l openedAt)
      (accepted : env.refusal l.member = none)
      (told : g'.standing? c = some (k.task, .finished (k.task.outcome (.ok .newLeader)))) :
      Moves g (.run c env) g'
  | shutDown {c : CallId} {k : Call} {env : Surroundings} {g' : Gateway}
      (found : g.call? c = some k) (task : k.task = .shutdown) (first : g.writer.closed = false) :
      Moves g (.run c env) g'

/-- Whether no handle and no unfinished call is left. -/
def IsDeserted (g : Gateway) : Prop :=
  g.handles = [] ∧ ∀ k ∈ g.calls, k.phase.ended = true

/-- Whether connections take turns: each is opened before the one that it replaces is closed. -/
structure Relayed (g : Gateway) : Prop where
  order : ∃ last, (last = [] ∨ last = lastClosed g.connections.length) ∧
    turnovers g.facts = relay g.connections.length ++ last
  /-- So it was at every moment. -/
  moments : ∀ i, turnovers (g.facts.take i) <+:
    relay g.connections.length ++ lastClosed g.connections.length
  once : (turnovers g.facts).Nodup
  /-- A close on record is a release of the connection's channel, and there is no other. -/
  released : ∀ n k, g.connections[n]? = some k →
    k.releases = (turnovers g.facts).count (.closed n)
  replaced : ∀ before n m, before ++ [.closed n m] <+: g.facts → n + 1 < g.connections.length →
    ∃ s, s.connection = n + 1 ∧ .published (.elected s) ∈ before
  last : ∀ before n m, before ++ [.closed n m] <+: g.facts → n + 1 = g.connections.length →
    .published .closed ∈ before ∨ g.IsDeserted
  /-- The end is published by a call that asks for it. -/
  shutdown : .published .closed ∈ g.facts → ∃ k ∈ g.calls, k.task = .shutdown
  openers : ∀ c n m, .opened c n m ∈ g.facts →
    ∃ task, g.standing? c = some (task, .finished (task.outcome (.ok .newLeader)))
  /-- What a step adds to the record: nothing unless it replaces a leader or is the first shutdown, and
  then the close of the last connection if nobody is left. -/
  steps : ∀ a g', g.step? a = some g' → ∃ news last,
    turnovers g'.facts = turnovers g.facts ++ news ++ last ∧ (news = [] ∨ Moves g a g') ∧
      (last = [] ∨ g'.IsDeserted)
  /-- After a shutdown has returned no connection is opened or closed. -/
  settled : ∀ before c k answer, before ++ [.answered c answer] <+: g.facts → g.call? c = some k →
    k.task = .shutdown → turnovers g.facts = turnovers before

/-! ### Reading the journal -/

theorem turnovers_filter (served : List CallId) (fs : List Fact) :
    turnovers (fs.filter (Fact.isTraced served)) = turnovers fs := by
  unfold turnovers
  rw [List.filterMap_filter]
  congr 1
  funext f
  cases f <;> simp [Fact.isTraced, Fact.turnover?]

theorem turnovers_trace (g : Gateway) : turnovers g.trace = turnovers g.facts :=
  turnovers_filter g.served g.facts

theorem isDeserted_of_not_hasSubscriber (h : g.hasSubscriber = false) : g.IsDeserted := by
  simp only [hasSubscriber, channelHeld, Bool.or_eq_false_iff, Bool.not_eq_false',
    List.isEmpty_iff, List.any_eq_false, Bool.not_eq_true', Bool.not_eq_false] at h
  exact h.2

/-- What holds of every fact of the trace holds of it in the journal, where others come in between. -/
theorem Preceded.of_trace {P : List Fact → Fact → Prop} (h : Preceded P g.trace) {before : List Fact}
    {f : Fact} (hf : f.isTraced g.served = true) (hb : before ++ [f] <+: g.facts) :
    P (before.filter (Fact.isTraced g.served)) f := by
  refine h _ f ?_
  have hb := hb.filter (Fact.isTraced g.served)
  rwa [List.filter_append, List.filter_cons_of_pos hf, List.filter_nil] at hb

theorem Serialized.trace_cases (h : g.Serialized) :
    g.connections.length = (Serial.replay g.completed).connections.length ∧
      (g.trace = (Serial.replay g.completed).trace ∨
        g.IsDeserted ∧ g.trace = (Serial.replay g.completed).trace ++
          Serial.closing (Serial.replay g.completed).writer.current) := by
  rcases h.serial with he | ⟨hs, he⟩
  · exact ⟨congrArg (·.connections.length) he, .inl (congrArg Serial.trace he)⟩
  · refine ⟨?_, .inr ⟨isDeserted_of_not_hasSubscriber hs, ?_⟩⟩
    · exact (congrArg (·.connections.length) he).trans (Serial.length_closePrevious _ _)
    · have hcoherent := Serial.coherent_replay g.completed
      exact (congrArg Serial.trace he).trans
        (Serial.trace_closePrevious fun s hs => (hcoherent.current s hs).2)

theorem Serialized.order (h : g.Serialized) :
    ∃ last, (last = [] ∨ last = lastClosed g.connections.length) ∧
      turnovers g.facts = relay g.connections.length ++ last := by
  have hr := Serial.relayed_replay g.completed
  obtain ⟨hlength, ht⟩ := h.trace_cases
  rw [← turnovers_trace, hlength]
  cases hc : (Serial.replay g.completed).writer.closed with
  | true =>
    have hnone := (Serial.coherent_replay g.completed).closed hc
    refine ⟨_, .inr rfl, ?_⟩
    rcases ht with ht | ⟨-, ht⟩ <;> simp [ht, hr.order, hc, hnone, Serial.closing]
  | false =>
    rcases ht with ht | ⟨-, ht⟩
    · exact ⟨[], .inl rfl, by simp [ht, hr.order, hc]⟩
    · refine ⟨_, .inr rfl, ?_⟩
      rw [ht, turnovers_append, Serial.turnovers_closing hr hc, hr.order]
      simp [hc]

theorem Serialized.counted (h : g.Serialized) : g.tracked.Counted := by
  have hr := (Serial.relayed_replay g.completed).counted
  rcases h.serial with he | ⟨-, he⟩ <;> rw [he]
  · exact hr
  · exact Serial.counted_closePrevious hr _

theorem Serialized.timely (h : g.Serialized) :
    Preceded (IsTimely g.connections.length g.IsDeserted) g.trace := by
  have hr := Serial.relayed_replay g.completed
  obtain ⟨hlength, ht⟩ := h.trace_cases
  have hreplayed : Preceded (IsTimely g.connections.length g.IsDeserted)
      (Serial.replay g.completed).trace := by
    refine hr.timely.mono fun before f _ hf n m he => ?_
    rw [hlength]
    exact (hf n m he).imp_right fun ⟨hn, hclosed⟩ => ⟨hn, hclosed.imp_right False.elim⟩
  rcases ht with ht | ⟨hd, ht⟩ <;> rw [ht]
  · exact hreplayed
  · refine hreplayed.append (Serial.isTimely_closing fun s hs m n m' he => ?_)
    obtain ⟨rfl, -⟩ := Fact.closed.inj he
    exact .inr ⟨by rw [hlength, hr.current s hs], .inr hd⟩

/-! ### What a step adds -/

theorem turnovers_of_notes {Q : Fact → Prop} (h : Notes Q g g₁)
    (hQ : ∀ f, Q f → f.turnover? = none) : turnovers g₁.facts = turnovers g.facts := by
  obtain ⟨news, e, hn⟩ := h
  have hnews : turnovers news = [] := List.filterMap_eq_nil_iff.2 fun f hf => hQ f (hn f hf)
  rw [e, turnovers_append, hnews, List.append_nil]

theorem turnover?_of_not_ofConnection {f : Fact} (h : f.ofConnection = false) :
    f.turnover? = none := by
  cases f <;> first | rfl | simp [Fact.ofConnection] at h

/-- A call whose connection opens is told that its candidate is the new leader. -/
theorem told_completeOpen {env : Surroundings} {l : Leader} (hk : g.call? k.id = some k)
    (ha : env.refusal l.member = none) : (g.completeOpen env k l).standing? k.id =
      some (k.task, .finished (k.task.outcome (.ok .newLeader))) := by
  have hkeeps := ((((keeps_setConnections (g := g)
    (g.connections ++ [⟨l.member, false, false, 0⟩])).trans
    (keeps_enter (f := .opened k.id g.connections.length l.member) rfl)).trans
    (keeps_log (.connectionOpened l.member))).trans
    (keeps_install ⟨l, g.connections.length⟩)).trans (keeps_closePrevious g.writer.current)
  unfold completeOpen
  simp only [ha]
  rw [concludeUpdate_eq, standing?_depart, if_pos rfl]
  exact congrArg _ ((hkeeps.standing k.id).trans (standing?_of_call? hk))

/-- Apart from what is let go of at its end, only these steps open or close a connection. -/
theorem turnovers_of_course (hd : g.Disciplined) (h : Course g a g₁) :
    turnovers g₁.facts = turnovers g.facts ∨ Moves g a g₁ := by
  have hplain : ∀ f : Fact, f.ofConnection = false → f.turnover? = none := fun _ =>
    turnover?_of_not_ofConnection
  have hl : ∀ line, (Fact.logged line).turnover? = none := fun _ => rfl
  cases deed_of_course h with
  | other hn => exact .inl (turnovers_of_notes hn hplain)
  | @shutDown c k env hk hp =>
    cases hc : g.writer.closed with
    | false =>
      have hu := hd.queued c k.task .shutdown (standing?_of_phase hk hp)
      exact .inr (.shutDown hk (Task.eq_shutdown_of_update? hu) hc)
    | true =>
      have he : (g.enter (.locked c)).shutDown k =
          (g.enter (.locked c)).concludeUpdate k (.ok .closed) :=
        if_pos hc
      have hlocked : Notes (·.turnover? = none) g (g.enter (.locked c)) := notes_enter rfl
      exact .inl (turnovers_of_notes
        (he ▸ hlocked.trans (notes_concludeUpdate hl k _ rfl)) fun _ => id)
  | @completeOpen c k env l openedAt hk hp =>
    obtain rfl := id_of_call? hk
    cases ha : env.refusal l.member with
    | none => exact .inr (.swap hk hp ha (told_completeOpen hk ha))
    | some e =>
      have he : g.completeOpen env k l =
          ((g.enter (.refused k.id l.member e)).log (.connectFailed l.member e)).concludeUpdate k
            (.error e) := by
        simp only [completeOpen, ha]
      have hrefused : Notes (·.turnover? = none) g (g.enter (.refused k.id l.member e)) :=
        notes_enter rfl
      exact .inl (turnovers_of_notes (he ▸ (hrefused.trans (notes_log hl _)).trans
        (notes_concludeUpdate hl k _ rfl)) fun _ => id)

/-- Nothing is let go of before nobody is left. -/
theorem Serialized.turnovers_release (h : g.Serialized) :
    ∃ last, turnovers g.release.facts = turnovers g.facts ++ last ∧
      (last = [] ∨ g.release.IsDeserted) := by
  obtain ⟨rest, hr⟩ := facts_prefix_release g
  refine ⟨turnovers rest, by rw [← hr, turnovers_append], ?_⟩
  rcases tracked_release h.onlyCurrentOpen fun s => (h.elected_iff s).2 with ht | ⟨hs, -⟩
  · have ht : g.release.trace = g.trace := congrArg Serial.trace ht
    have he : turnovers g.facts ++ turnovers rest = turnovers g.facts := by
      rw [← turnovers_append, hr, ← turnovers_trace, ht, turnovers_trace]
    exact .inl (List.append_right_eq_self.1 he)
  · exact .inr (isDeserted_of_not_hasSubscriber hs)

theorem Moves.release (h : Moves g a g₁) : Moves g a g₁.release := by
  cases h with
  | swap hk hp ha ht => exact .swap hk hp ha (((keeps_release g₁).standing _).trans ht)
  | shutDown hk ht hc => exact .shutDown hk ht hc

theorem Serialized.steps (h : g.Serialized) {g' : Gateway} (hs : g.step? a = some g') :
    ∃ news last, turnovers g'.facts = turnovers g.facts ++ news ++ last ∧
      (news = [] ∨ Moves g a g') ∧ (last = [] ∨ g'.IsDeserted) := by
  obtain ⟨g₁, hc, rfl⟩ := exists_course_of_step? hs
  obtain ⟨news, hn⟩ := facts_prefix_outline (outline_of_transition hc.transition)
  obtain ⟨last, hlast, hl⟩ := (h.transition hc.transition).turnovers_release
  refine ⟨turnovers news, last, by rw [hlast, ← hn, turnovers_append], ?_, hl⟩
  refine (turnovers_of_course h.toDisciplined hc).imp (fun he => ?_) Moves.release
  rw [← hn, turnovers_append] at he
  exact List.append_right_eq_self.1 he

/-! ### Every state -/

theorem Serialized.trace_subset (h : g.Serialized) {f : Fact} (hf : f ∈ g.facts)
    (ht : f.isTraced g.served = true) (hc : ∀ n m, f ≠ .closed n m) :
    f ∈ (Serial.replay g.completed).trace := by
  have hf : f ∈ g.trace := List.mem_filter.2 ⟨hf, ht⟩
  rcases h.trace_cases.2 with he | ⟨-, he⟩ <;> rw [he] at hf
  · exact hf
  · refine (List.mem_append.1 hf).resolve_right fun hm => ?_
    cases hs : (Serial.replay g.completed).writer.current with
    | none => simp [hs, Serial.closing] at hm
    | some s => exact hc _ _ (by simpa [hs, Serial.closing] using hm)

/-- Once a shutdown has returned, the writer is closed and no connection is opened or closed. -/
theorem Serialized.settled (h : g.Serialized) (hatt : g.Attended) {before : List Fact} {a : Answer}
    (hb : before ++ [.answered c a] <+: g.facts) (hk : g.call? c = some k)
    (ht : k.task = .shutdown) :
    g.writer.closed = true ∧ turnovers g.facts = turnovers before := by
  have hu : k.task.update? = some .shutdown := by rw [ht]; rfl
  have hp : k.phase = .finished a := h.finished_of_answered hk (hb.subset (by simp))
  obtain ⟨n, hn⟩ := hatt.exists_completed hk hu hp
  have hop := List.mem_of_getElem? hn
  have hnodup : (g.completed.map (·.call)).Nodup := map_call_completed g ▸ h.once.filter _
  have hclosed := Serial.closed_of_shutdown hop rfl
  have htrace : g.trace = (Serial.replay g.completed).trace := by
    rcases h.trace_cases.2 with he | ⟨-, he⟩
    · exact he
    · simpa [(Serial.coherent_replay g.completed).closed hclosed, Serial.closing] using he
  have hsettled := (htrace ▸ Serial.settled_replay hnodup).of_trace (f := .answered c a)
    (by simpa [Fact.isTraced] using hatt.mem_served hk hu hp) hb _ hop rfl a rfl
  refine ⟨h.writer ▸ hclosed, ?_⟩
  rw [← turnovers_trace, hsettled, turnovers_filter]

theorem Serialized.turnovers_prefix (h : g.Serialized) :
    turnovers g.facts <+: relay g.connections.length ++ lastClosed g.connections.length := by
  obtain ⟨last, hlast, horder⟩ := h.order
  rw [horder]
  rcases hlast with rfl | rfl
  · simp
  · exact List.prefix_rfl

/-- Every connection is opened once at most, and closed once at most. -/
theorem Serialized.nodup_turnovers (h : g.Serialized) : (turnovers g.facts).Nodup :=
  (nodup_relay g.connections.length).sublist h.turnovers_prefix.sublist

theorem Serialized.exists_opened {n : Nat} (h : g.Serialized) (hn : n < g.connections.length) :
    ∃ c m, .opened c n m ∈ g.facts := by
  obtain ⟨last, -, horder⟩ := h.order
  refine exists_opened_of_mem_turnovers ?_
  rw [horder]
  exact List.mem_append_left _ (opened_mem_relay hn)

/-- The current connection is the last one. -/
theorem Serialized.length_of_current {s : Snapshot} (h : g.Serialized) (hc : g.writer.current = some s) :
    g.connections.length = s.connection + 1 := by
  rw [h.trace_cases.1]
  exact (Serial.relayed_replay g.completed).current s (h.writer ▸ hc)

theorem Serialized.length_of_vacant (h : g.Serialized) (hc : g.writer.closed = false)
    (hn : g.writer.current = none) : g.connections.length = 0 := by
  rw [h.trace_cases.1]
  exact (Serial.relayed_replay g.completed).vacant (h.writer ▸ hc) (h.writer ▸ hn)

/-- Connections stay on record. -/
theorem lt_length_of_run {g' : Gateway} {actions : List Action} {n : Nat} (hg : g.Reachable) (hr : g.run? actions = some g')
    (hn : n < g.connections.length) : n < g'.connections.length := by
  obtain ⟨c, m, ho⟩ := (serialized_of_reachable hg).exists_opened hn
  have ho : .opened c n m ∈ g'.facts := (facts_prefix_run hr).subset ho
  have hmem : .opened n ∈ turnovers g'.facts := List.mem_filterMap.2 ⟨_, ho, rfl⟩
  have hser' := serialized_of_reachable (hg.run hr)
  exact connection_lt_of_mem_relay (hser'.turnovers_prefix.subset hmem)

theorem Serialized.count_closed {n : Nat} (h : g.Serialized) {x : Connection} (hx : g.connections[n]? = some x) :
    (turnovers g.facts).count (.closed n) = x.releases := by
  rw [← turnovers_trace]
  exact (h.counted n x hx).symm

/-- Whoever has opened a connection was told that its candidate is the new leader. -/
theorem Serialized.told_of_opened {n : Nat} {m : Member} (h : g.Serialized)
    (ho : .opened c n m ∈ g.facts) :
    ∃ task, g.standing? c = some (task, .finished (task.outcome (.ok .newLeader))) := by
  obtain ⟨i, op, hi, rfl, hp⟩ := Serial.exists_of_opened (h.trace_subset ho rfl (by simp))
  obtain ⟨k, -, hk, -, -, he⟩ := exists_call?_of_completed (List.mem_of_getElem? hi)
  obtain ⟨k', hk', hphase⟩ := h.answer hi
  obtain rfl := Option.some.inj (hk.symm.trans hk')
  have ht : op.task = k.task := by rw [he]
  rw [Serial.answer, hp, ht] at hphase
  exact ⟨k.task, standing?_of_phase hk hphase⟩

theorem Serialized.exists_shutdown (h : g.Serialized) (hp : .published .closed ∈ g.facts) :
    ∃ k ∈ g.calls, k.task = .shutdown := by
  have hp := h.trace_subset hp rfl (by simp)
  obtain ⟨op, hop, hu⟩ := Serial.exists_shutdown_of_closed
    ((Serial.published_closed_iff g.completed).1 hp)
  obtain ⟨k, -, hk, -, hupdate, -⟩ := exists_call?_of_completed hop
  exact ⟨k, mem_of_call? hk, Task.eq_shutdown_of_update? (hu ▸ hupdate)⟩

theorem relayed_of_reachable (hg : g.Reachable) : g.Relayed := by
  have h := serialized_of_reachable hg
  exact {
    order := h.order
    moments i := ((List.take_prefix i g.facts).filterMap _).trans h.turnovers_prefix
    once := h.nodup_turnovers
    released n k hk := turnovers_trace g ▸ h.counted n k hk
    replaced before n m hb hn := by
      rcases h.timely.of_trace rfl hb n m rfl with ⟨-, s, hs, hp⟩ | ⟨he, -⟩
      · exact ⟨s, hs, (List.mem_filter.1 hp).1⟩
      · omega
    last before n m hb hn := by
      rcases h.timely.of_trace rfl hb n m rfl with ⟨he, -⟩ | ⟨-, hp⟩
      · omega
      · exact hp.imp_left fun hp => (List.mem_filter.1 hp).1
    shutdown := h.exists_shutdown
    openers _ _ _ := h.told_of_opened
    steps a g' := h.steps
    settled before c k answer hb hk ht := (h.settled (attended_of_reachable hg) hb hk ht).2 }

/-- A swap while a request is in flight on the connection that is replaced, then a shutdown. -/
def handover : List Action :=
  elect 0 .gateway ⟨.numbered "a" 1, ⟨1⟩⟩ .silent ++
    ask 1 .gateway .silent 3 ++
    elect 2 .gateway ⟨.numbered "b" 2, ⟨2⟩⟩ .silent ++ undertake 3 .gateway .shutdown .silent 2

theorem relayed_of_handover :
    ∃ g, (create (.ofOptions {}) [.gateway]).run? handover = some g ∧
      turnovers g.facts = [.opened 0, .opened 1, .closed 0, .closed 1] ∧ g.Relayed :=
  ⟨_, rfl, rfl, relayed_of_reachable ⟨.ofOptions {}, [.gateway], handover, rfl⟩⟩

end Gateway

end LeaderRouting
