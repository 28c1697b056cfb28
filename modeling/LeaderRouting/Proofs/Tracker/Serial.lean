import LeaderRouting.Proofs.Gateway.Steps
import Mathlib.Data.List.Induction

/-!
The tracked leader as it would be if calls came one after another, each done all at once, and the
invariant of its states.  What is published agrees with what the writer knows, and of all connections
that were ever opened only the current one is open.
-/

namespace LeaderRouting

open Gateway

/-- A call's change of the tracked leader, and why a connection to its candidate does not open, if it
does not. -/
structure Operation where
  call : CallId
  task : Task
  update : Update
  refusal : Option TransportError

/-- What readers are shown while the writer is in this state. -/
def Writer.view (w : Writer) : Published :=
  if w.closed then .closed
  else
    match w.current with
    | none => .notElected
    | some s => .elected s

theorem Writer.view_eq_elected_iff {w : Writer} (h : w.closed = true → w.current = none)
    (s : Snapshot) : w.view = .elected s ↔ w.current = some s := by
  unfold view
  cases hc : w.closed with
  | true => simp [h hc]
  | false => cases w.current <;> simp

theorem Writer.view_eq_closed_iff {w : Writer} : w.view = .closed ↔ w.closed = true := by
  unfold view
  cases w.closed with
  | true => simp
  | false => cases w.current <;> simp

theorem Writer.view_eq_notElected_iff {w : Writer} :
    w.view = .notElected ↔ w.closed = false ∧ w.current = none := by
  unfold view
  cases w.closed with
  | true => simp
  | false => cases w.current <;> simp

/-- Whether all of the connection's closing is done, and was done once. -/
def Connection.IsReleased (k : Connection) : Prop :=
  k.closed = true ∧ k.retired = true ∧ k.releases = 1

structure Serial where
  writer : Writer := {}
  value : Published := .notElected
  connections : List Connection := []
  /-- What has happened to connections and to the published value, and the answers. -/
  trace : List Fact := []

namespace Serial

def note (t : Serial) (f : Fact) : Serial :=
  { t with trace := t.trace ++ [f] }

def publish (t : Serial) (v : Published) : Serial :=
  { t with value := v }.note (.published v)

def install (t : Serial) (s : Snapshot) : Serial :=
  { t with writer := { t.writer with current := some s } }.publish (.elected s)

/-- Closes a connection; a second time nothing happens. -/
def close (t : Serial) (n : Nat) : Serial :=
  match t.connections[n]? with
  | none => t
  | some k =>
    if k.closed then t
    else { t with connections := t.connections.set n k.close }.note (.closed n k.member)

def closePrevious (t : Serial) (previous : Option Snapshot) : Serial :=
  match previous with
  | none => t
  | some s => t.close s.connection

/-- Opens a connection to the candidate, which then takes the place of the current leader. -/
def connect (t : Serial) (c : CallId) (candidate : Leader) : Serial :=
  let n := t.connections.length
  let opened : Serial :=
    { t with connections := t.connections ++ [⟨candidate.member, false, false, 0⟩] }
  ((opened.note (.opened c n candidate.member)).install ⟨candidate, n⟩).closePrevious
    t.writer.current

/-- What an announcement does, and what its caller is told.  After a shutdown it is dropped; a term
that is not above the tracked one is stale; the tracked member gets the new term and keeps its
connection; any other member becomes the leader if a connection to it opens. -/
def elect (t : Serial) (c : CallId) (candidate : Leader) (refusal : Option TransportError) :
    Serial × Except TransportError Verdict :=
  if t.writer.closed then (t, .ok .closed)
  else if candidate.term ≤ t.writer.term then (t, .ok .stale)
  else
    match t.writer.current.filter (·.leader.member = candidate.member), refusal with
    | some s, _ => (t.install ⟨candidate, s.connection⟩, .ok .termRefreshed)
    | none, some e => (t.note (.refused c candidate.member e), .error e)
    | none, none => (t.connect c candidate, .ok .newLeader)

/-- Only the first shutdown has an effect. -/
def shutDown (t : Serial) : Serial :=
  if t.writer.closed then t
  else ({ t with writer := ⟨none, true⟩ }.publish .closed).closePrevious t.writer.current

def perform (t : Serial) (op : Operation) : Serial × Except TransportError Verdict :=
  match op.update with
  | .elect candidate => t.elect op.call candidate op.refusal
  | .shutdown => (t.shutDown, .ok .closed)

/-- What the operation's caller is told. -/
def answer (t : Serial) (op : Operation) : Answer :=
  op.task.outcome (t.perform op).2

/-- One operation, done all at once, up to its answer. -/
def apply (t : Serial) (op : Operation) : Serial :=
  (t.perform op).1.note (.answered op.call (t.answer op))

/-- Operations one after another, from the state in which no leader was ever elected. -/
def replay (ops : List Operation) : Serial :=
  ops.foldl apply {}

/-- Closes the current connection, as whoever lets go of it last does. -/
def letGo (t : Serial) : Serial :=
  t.closePrevious t.writer.current

@[simp] theorem replay_concat (ops : List Operation) (op : Operation) :
    replay (ops ++ [op]) = (replay ops).apply op := by
  simp [replay]

/-! ### Connections -/

structure Coherent (t : Serial) : Prop where
  value : t.value = t.writer.view
  closed : t.writer.closed = true → t.writer.current = none
  current : ∀ s, t.writer.current = some s → .zero < s.leader.term ∧
    t.connections[s.connection]? = some ⟨s.leader.member, false, false, 0⟩
  others : ∀ n k, t.connections[n]? = some k →
    (∀ s, t.writer.current = some s → s.connection ≠ n) → k.IsReleased

variable {t : Serial} {s : Snapshot} {n : Nat}

@[simp] theorem writer_note (t : Serial) (f : Fact) : (t.note f).writer = t.writer :=
  rfl

@[simp] theorem writer_close (t : Serial) (n : Nat) : (t.close n).writer = t.writer := by
  unfold close
  split
  · rfl
  · split_ifs <;> rfl

@[simp] theorem value_close (t : Serial) (n : Nat) : (t.close n).value = t.value := by
  unfold close
  split
  · rfl
  · split_ifs <;> rfl

theorem close_of_open {m : Member} (h : t.connections[n]? = some ⟨m, false, false, 0⟩) :
    t.close n =
      { t with connections := t.connections.set n ⟨m, true, true, 1⟩ }.note (.closed n m) := by
  simp [close, h, Connection.close, Connection.mark, Connection.retire, Connection.release]

theorem close_of_closed {k : Connection} (h : t.connections[n]? = some k) (hk : k.closed = true) :
    t.close n = t := by
  simp [close, h, hk]

/-- What stands at the other places once a connection is closed. -/
theorem connections_close_of_open {m : Member} (h : t.connections[n]? = some ⟨m, false, false, 0⟩)
    (i : Nat) : (t.close n).connections[i]? =
      if i = n then some ⟨m, true, true, 1⟩ else t.connections[i]? := by
  have hn : n < t.connections.length := (List.getElem?_eq_some_iff.1 h).1
  rw [close_of_open h]
  simp only [note, List.getElem?_set]
  split_ifs with h₁ h₂ h₂ <;> first | rfl | omega

/-- Closing the connection that was current before leaves every connection closed but those that
`keep` holds of. -/
theorem isReleased_closePrevious (keep : Nat → Prop) {previous : Option Snapshot}
    (hp : ∀ s, previous = some s →
      t.connections[s.connection]? = some ⟨s.leader.member, false, false, 0⟩)
    (ho : ∀ n k, t.connections[n]? = some k → ¬keep n →
      (∀ s, previous = some s → s.connection ≠ n) → k.IsReleased)
    {k : Connection} (hk : (t.closePrevious previous).connections[n]? = some k) (hn : ¬keep n) :
    k.IsReleased := by
  cases previous with
  | none => exact ho n k hk hn (by simp)
  | some s =>
    simp only [closePrevious, connections_close_of_open (hp s rfl)] at hk
    split_ifs at hk with h
    · obtain rfl := Option.some.inj hk
      exact ⟨rfl, rfl, rfl⟩
    · refine ho n k hk hn fun s' hs' => ?_
      obtain rfl := Option.some.inj hs'
      exact fun he => h he.symm

@[simp] theorem writer_closePrevious (t : Serial) (previous : Option Snapshot) :
    (t.closePrevious previous).writer = t.writer := by
  cases previous <;> simp [closePrevious]

@[simp] theorem value_closePrevious (t : Serial) (previous : Option Snapshot) :
    (t.closePrevious previous).value = t.value := by
  cases previous <;> simp [closePrevious]

/-- The facts that the close of the connection that was current before leaves behind. -/
def closing (previous : Option Snapshot) : List Fact :=
  (previous.map fun s => .closed s.connection s.leader.member).toList

theorem trace_closePrevious {previous : Option Snapshot}
    (hp : ∀ s, previous = some s →
      t.connections[s.connection]? = some ⟨s.leader.member, false, false, 0⟩) :
    (t.closePrevious previous).trace = t.trace ++ closing previous := by
  cases previous with
  | none => simp [closePrevious, closing]
  | some s => simp [closePrevious, close_of_open (hp s rfl), note, closing]

/-! ### Coherence -/

theorem coherent_note (h : t.Coherent) (f : Fact) : (t.note f).Coherent :=
  { h with }

theorem coherent_initial : Coherent {} where
  value := rfl
  closed _ := rfl
  current := by simp
  others := by simp

/-- A leader elected again keeps its connection. -/
theorem coherent_renew (h : t.Coherent) (hc : t.writer.closed = false)
    (hs : t.writer.current = some s) {l : Leader} (hm : s.leader.member = l.member)
    (hl : t.writer.term < l.term) : (t.install ⟨l, s.connection⟩).Coherent where
  value := by simp [install, publish, note, Writer.view, hc]
  closed := by simp [install, publish, note, hc]
  current := by
    simp only [install, publish, note, Option.some.injEq, forall_eq']
    exact ⟨Term.zero_lt_of_lt hl, hm ▸ (h.current s hs).2⟩
  others n k hk hn := h.others n k hk fun s' hs' => by
    obtain rfl := Option.some.inj (hs.symm.trans hs')
    exact hn ⟨l, s.connection⟩ rfl

@[simp] theorem writer_connect (t : Serial) (c : CallId) (l : Leader) :
    (t.connect c l).writer = { t.writer with current := some ⟨l, t.connections.length⟩ } := by
  simp [connect, install, publish, note]

/-- Opening a connection moves no other. -/
theorem Coherent.current_append (h : t.Coherent) (k : Connection)
    (hs : t.writer.current = some s) :
    (t.connections ++ [k])[s.connection]? = some ⟨s.leader.member, false, false, 0⟩ := by
  have hk := (h.current s hs).2
  rwa [List.getElem?_append_left (List.getElem?_eq_some_iff.1 hk).1]

theorem coherent_connect (h : t.Coherent) (hc : t.writer.closed = false) (c : CallId) {l : Leader}
    (hl : t.writer.term < l.term) : (t.connect c l).Coherent := by
  have hv : (t.connect c l).value = .elected ⟨l, t.connections.length⟩ := by
    simp [connect, install, publish, note]
  have hprev := fun s => h.current_append ⟨l.member, false, false, 0⟩ (s := s)
  refine ⟨?_, ?_, ?_, ?_⟩
  · simp [hv, Writer.view, hc]
  · simp [hc]
  · rw [writer_connect]
    simp only [Option.some.injEq, forall_eq']
    refine ⟨Term.zero_lt_of_lt hl, ?_⟩
    unfold connect
    cases hs : t.writer.current with
    | none => simp [closePrevious, install, publish, note]
    | some s =>
      have hk := (h.current s hs).2
      have hlt := (List.getElem?_eq_some_iff.1 hk).1
      simp only [closePrevious]
      rw [connections_close_of_open (m := s.leader.member) (hprev s hs), if_neg (by omega)]
      simp [install, publish, note]
  · intro n k hk hn
    rw [writer_connect] at hn
    refine isReleased_closePrevious (· = t.connections.length) hprev ?_ hk
      (fun he => hn _ rfl he.symm)
    intro i k hk hi hs
    refine h.others i k ?_ hs
    have hlt := (List.getElem?_eq_some_iff.1 hk).1
    simp only [install, publish, note, List.length_append, List.length_singleton] at hlt hk
    rwa [List.getElem?_append_left (by omega)] at hk

theorem coherent_shutDown (h : t.Coherent) : t.shutDown.Coherent := by
  unfold shutDown
  split_ifs with hc
  · exact h
  · refine ⟨by simp [publish, note, Writer.view], by simp [publish, note],
      by simp [publish, note], ?_⟩
    intro n k hk _
    refine isReleased_closePrevious (fun _ => False) ?_ ?_ hk id
    · exact fun s hs => (h.current s hs).2
    · exact fun i k hk _ hs => h.others i k hk hs

/-- A connection is opened and published before the one that it replaces is closed. -/
theorem trace_connect (h : t.Coherent) (c : CallId) (l : Leader) : (t.connect c l).trace =
    t.trace ++ [.opened c t.connections.length l.member,
      .published (.elected ⟨l, t.connections.length⟩)] ++ closing t.writer.current := by
  unfold connect
  rw [trace_closePrevious]
  · simp [install, publish, note]
  · exact fun s => h.current_append ⟨l.member, false, false, 0⟩

theorem trace_shutDown (h : t.Coherent) : t.shutDown.trace = t.trace ++
    if t.writer.closed then [] else .published .closed :: closing t.writer.current := by
  unfold shutDown
  split_ifs
  · simp
  · rw [trace_closePrevious]
    · simp [publish, note]
    · exact fun s hs => (h.current s hs).2

theorem coherent_elect (h : t.Coherent) (c : CallId) (l : Leader)
    (refusal : Option TransportError) : (t.elect c l refusal).1.Coherent := by
  unfold elect
  split_ifs with hc hl
  · exact h
  · exact h
  · have hc : t.writer.closed = false := by simpa using hc
    have hl : t.writer.term < l.term := Term.not_le.1 hl
    split
    next s hs =>
      obtain ⟨hs, hm⟩ := Option.filter_eq_some_iff.1 hs
      exact coherent_renew h hc hs (by simpa using hm) hl
    · exact coherent_note h _
    · exact coherent_connect h hc c hl

theorem coherent_apply (h : t.Coherent) (op : Operation) : (t.apply op).Coherent := by
  refine coherent_note ?_ _
  unfold perform
  split
  · exact coherent_elect h _ _ _
  · exact coherent_shutDown h

/-- Whatever operations come in whatever order, the state stays coherent. -/
theorem coherent_replay (ops : List Operation) : (replay ops).Coherent := by
  induction ops using List.reverseRecOn with
  | nil => exact coherent_initial
  | append_singleton ops op ih =>
    rw [replay_concat]
    exact coherent_apply ih op

end Serial

end LeaderRouting
