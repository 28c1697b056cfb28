import LeaderRouting.Connection.Pool
import Mathlib.Tactic.Common

/-!
The steps that calls on shared connections take, one kind after another, and what each of them leaves
alone.
-/

namespace LeaderRouting.Pool

/-- Whether a call with this task can be in this phase. -/
def Task.fits : Task → Phase → Bool
  | _, .created | _, .finished _ | _, .abandoned => true
  | .connect _ _, .opening _ => true
  | .close _, .marked | .close _, .retiring => true
  | .submit _ _ _, .admitted _ | .submit _ _ _, .inFlight _ _ _ => true
  | .awaitRetired _, .watching => true
  | _, _ => false

/-- Whether a call in this phase has begun, and a request has been handed over. -/
def Phase.isPast : Phase → Bool
  | created | admitted _ => false
  | _ => true

theorem Phase.not_isWaiting_of_ended {phase : Phase} (h : phase.ended = true) :
    phase.isWaiting = false := by
  cases phase <;> first | rfl | cases h

/-- Whether calls are in phases of their tasks, and all references are to connections that exist. -/
structure Coherent (p : Pool) : Prop where
  fits : ∀ c k, p.call? c = some k → k.task.fits k.phase = true
  known : ∀ c k n, p.call? c = some k → k.task.connection? = some n → n < p.connections.length
  named : ∀ r ∈ p.names, r.2 < p.connections.length

/-- The state with one more call. -/
def enrol (p : Pool) (c : CallId) (task : Task) : Pool :=
  { p with calls := p.calls ++ [⟨c, task, .created⟩] }

/-- The state with a new connection under a name. -/
def install (p : Pool) (name : String) (member : Member) : Pool :=
  let n := p.connections.length
  let opened := { p with connections := p.connections ++ [Connection.mk member false false 0] }
  (opened.enter (.opened n member)).giveName name n

/-- The call that an action starts, runs or gives up. -/
def Action.caller? : Action → Option CallId
  | .start c _ | .run c _ | .abandon c => some c
  | _ => none

/-- Whether one call has come to another phase, and all other calls are as they were. -/
def Moves (c : CallId) (phase : Phase) (p p' : Pool) : Prop :=
  ∀ d, p'.call? d = if d = c then (p.call? d).map ({ · with phase }) else p.call? d

/-- The turns that a call can have, by its task and its phase. -/
inductive Turn (p : Pool) (c : CallId) (env : Surroundings) : Task → Phase → Pool → Prop
  | dial {name : String} {member : Member} (openedAt : Option Nat) :
    Turn p c env (.connect name member) .created (p.setPhase c (.opening openedAt))
  | refuse {name : String} {member : Member} {openedAt : Option Nat} (cause : TransportError) :
    Turn p c env (.connect name member) (.opening openedAt)
      ((p.enter (.refused member)).finish c (.refused cause))
  | install {name : String} {member : Member} {openedAt : Option Nat} :
    Turn p c env (.connect name member) (.opening openedAt) ((p.install name member).finish c .opened)
  /-- A close that finds the connection marked is done. -/
  | pass {n : Nat} {x : Connection} (found : p.connection? n = some x) (closed : x.closed = true) :
    Turn p c env (.close n) .created (p.finish c .closed)
  | mark {n : Nat} {x : Connection} (found : p.connection? n = some x) (unmarked : x.closed = false) :
    Turn p c env (.close n) .created ((p.change n Connection.mark).setPhase c .marked)
  | retire {n : Nat} {x : Connection} (found : p.connection? n = some x) :
    Turn p c env (.close n) .marked ((p.change n Connection.retire).setPhase c .retiring)
  | release {n : Nat} {x : Connection} (found : p.connection? n = some x) :
    Turn p c env (.close n) .retiring
      (((p.change n Connection.release).enter (.closed n x.member)).finish c .closed)
  /-- A request that finds the connection marked is not sent. -/
  | turnAway {n : Nat} {operation : String} {arguments : List Argument} {x : Connection}
    (found : p.connection? n = some x) (closed : x.closed = true) :
    Turn p c env (.submit n operation arguments) .created
      (p.finish c (.replied env.requestId (.error .disconnected)))
  | letIn {n : Nat} {operation : String} {arguments : List Argument} {x : Connection}
    (request : Request) (found : p.connection? n = some x) (unmarked : x.closed = false) :
    Turn p c env (.submit n operation arguments) .created (p.setPhase c (.admitted request))
  | handOver {n : Nat} {operation : String} {arguments : List Argument} {request : Request}
    (member : Member) (repliedAt : Option Nat) (reply : Except TransportError Response) :
    Turn p c env (.submit n operation arguments) (.admitted request)
      ((p.enter (.submitted c n member request)).setPhase c (.inFlight request.id repliedAt reply))
  | answer {n : Nat} {operation : String} {arguments : List Argument} {id : RequestId}
    {repliedAt : Option Nat} {reply : Except TransportError Response} :
    Turn p c env (.submit n operation arguments) (.inFlight id repliedAt reply)
      (p.finish c (.replied id reply))
  | watch {n : Nat} : Turn p c env (.awaitRetired n) .created (p.setPhase c .watching)
  | observe {n : Nat} {x : Connection} (found : p.connection? n = some x)
    (retired : x.retired = true) : Turn p c env (.awaitRetired n) .watching (p.finish c .retired)

/-- The course of one action, before connections that nothing refers to are closed. -/
inductive Course (p : Pool) : Action → Pool → Prop
  | start {c : CallId} {task : Task} (fresh : p.call? c = none) (able : p.canStart task = true) :
    Course p (.start c task) (p.enrol c task)
  | run {c : CallId} {k : Call} {env : Surroundings} {p' : Pool} (found : p.call? c = some k)
    (turn : Turn p c env k.task k.phase p') : Course p (.run c env) p'
  | abandon {c : CallId} {k : Call} (found : p.call? c = some k)
    (waiting : k.phase.isWaiting = true) : Course p (.abandon c) (p.setPhase c .abandoned)
  /-- Names change, all for connections that had one, and time passes. -/
  | around {a : Action} {names : List (String × Nat)} {now : Nat}
    (origin : ∀ r ∈ names, ∃ r' ∈ p.names, r'.2 = r.2) (callerless : a.caller? = none) :
    Course p a { p with names, now }

variable {p p' : Pool} {a : Action} {c d : CallId} {k : Call} {n m : Nat} {x : Connection}
  {env : Surroundings}

/-! ### Looking calls and connections up -/

theorem id_of_call? (h : p.call? c = some k) : k.id = c := by
  simpa using List.find?_some h

theorem mem_of_call? (h : p.call? c = some k) : k ∈ p.calls :=
  List.mem_of_find?_eq_some h

theorem call?_enrol (p : Pool) (c : CallId) (task : Task) (d : CallId) :
    (p.enrol c task).call? d =
      (p.call? d).or (if c = d then some ⟨c, task, .created⟩ else none) := by
  unfold call? enrol
  rw [List.find?_append]
  simp [List.find?_singleton]

theorem enrol_cases {task : Task} {k : Call} (hk : (p.enrol c task).call? d = some k) :
    p.call? d = some k ∨ p.call? d = none ∧ k = ⟨d, task, .created⟩ := by
  rw [call?_enrol] at hk
  rcases Option.or_eq_some_iff.1 hk with hk | ⟨hn, hk⟩
  · exact .inl hk
  · split_ifs at hk with hd
    exact .inr ⟨hn, hd ▸ (Option.some.inj hk).symm⟩

theorem call?_congr (h : p'.calls = p.calls) (d : CallId) : p'.call? d = p.call? d := by
  unfold call?
  rw [h]

theorem moves_setPhase (h : p'.calls = p.calls) (c : CallId) (phase : Phase) :
    Moves c phase p (p'.setPhase c phase) := by
  intro d
  have hid : ∀ k : Call, (if k.id = c then { k with phase } else k).id = k.id := by
    intro k
    split_ifs <;> rfl
  have hmap : (p'.setPhase c phase).call? d =
      (p'.call? d).map fun k => if k.id = c then { k with phase } else k := by
    simp only [call?, setPhase, List.find?_map]
    congr 2
    funext k
    simp [hid]
  rw [hmap, call?_congr h]
  cases hk : p.call? d with
  | none => simp
  | some k =>
    obtain rfl := id_of_call? hk
    split_ifs <;> simp [*]

theorem moves_finish (h : p'.calls = p.calls) (c : CallId) (answer : Answer) :
    Moves c (.finished answer) p (p'.finish c answer) :=
  moves_setPhase h c (.finished answer)

/-- A call is found in the phase to which it has come. -/
theorem Moves.call?_self {phase : Phase} (h : Moves c phase p p') (hk : p.call? c = some k) :
    p'.call? c = some { k with phase } := by
  rw [h, if_pos rfl, hk, Option.map_some]

theorem Moves.call?_of_ne {phase : Phase} (h : Moves c phase p p') (hd : d ≠ c) :
    p'.call? d = p.call? d := by
  rw [h, if_neg hd]

theorem Moves.unique {phase phase' : Phase} (h : Moves c phase p p') (h' : Moves c phase' p p')
    (hk : p.call? c = some k) : phase = phase' := by
  have hself := (h.call?_self hk).symm.trans (h'.call?_self hk)
  exact congrArg Call.phase (Option.some.inj hself)

theorem Moves.cases {phase : Phase} {k' : Call} (h : Moves c phase p p') (hk : p.call? c = some k)
    (hk' : p'.call? d = some k') : d = c ∧ k' = { k with phase } ∨ d ≠ c ∧ p.call? d = some k' := by
  by_cases hd : d = c
  · subst hd
    exact .inl ⟨rfl, Option.some.inj (hk'.symm.trans (h.call?_self hk))⟩
  · exact .inr ⟨hd, h.call?_of_ne hd ▸ hk'⟩

@[simp] theorem calls_change (p : Pool) (n : Nat) (f : Connection → Connection) :
    (p.change n f).calls = p.calls := by
  unfold change
  split <;> rfl

@[simp] theorem names_change (p : Pool) (n : Nat) (f : Connection → Connection) :
    (p.change n f).names = p.names := by
  unfold change
  split <;> rfl

@[simp] theorem journal_change (p : Pool) (n : Nat) (f : Connection → Connection) :
    (p.change n f).journal = p.journal := by
  unfold change
  split <;> rfl

theorem connection?_change (h : p.connection? n = some x) (f : Connection → Connection) (m : Nat) :
    (p.change n f).connection? m = if m = n then some (f x) else p.connection? m := by
  have hlt : n < p.connections.length := (List.getElem?_eq_some_iff.1 h).1
  unfold change
  rw [h]
  dsimp only [connection?]
  rw [List.getElem?_set]
  split_ifs with hm hm' hm'
  · rfl
  · exact absurd hm.symm hm'
  · exact absurd hm'.symm hm
  · rfl

@[simp] theorem length_change (p : Pool) (n : Nat) (f : Connection → Connection) :
    (p.change n f).connections.length = p.connections.length := by
  unfold change
  split
  · rfl
  · exact List.length_set

theorem connection?_install (p : Pool) (name : String) (member : Member) (m : Nat) :
    (p.install name member).connection? m =
      if m = p.connections.length then some ⟨member, false, false, 0⟩ else p.connection? m := by
  have hlist : (p.install name member).connections =
      p.connections ++ [⟨member, false, false, 0⟩] := rfl
  unfold connection?
  rw [hlist]
  split_ifs with hm
  · rw [hm, List.getElem?_concat_length]
  · rcases Nat.lt_or_ge m p.connections.length with hlt | hge
    · exact List.getElem?_append_left hlt
    · have hlong : p.connections.length + 1 ≤ m :=
        Nat.succ_le_of_lt (Nat.lt_of_le_of_ne hge (Ne.symm hm))
      rw [List.getElem?_eq_none hge, List.getElem?_eq_none (by simpa using hlong)]

@[simp] theorem length_install (p : Pool) (name : String) (member : Member) :
    (p.install name member).connections.length = p.connections.length + 1 :=
  List.length_append

theorem exists_connection? (h : n < p.connections.length) : ∃ x, p.connection? n = some x :=
  ⟨_, List.getElem?_eq_getElem h⟩

theorem lt_of_connection? (h : p.connection? n = some x) : n < p.connections.length :=
  (List.getElem?_eq_some_iff.1 h).1

/-! ### Every step has its course -/

namespace Coherent

/-- A call that keeps a connection finds it. -/
theorem exists_connection? (h : p.Coherent) (hk : p.call? c = some k)
    (hn : k.task.connection? = some n) : ∃ x, p.connection? n = some x :=
  Pool.exists_connection? (h.known c k n hk hn)

theorem turn_proceed (h : p.Coherent) (hk : p.call? c = some k) (hr : p.canRun k = true) :
    Turn p c env k.task k.phase (p.proceed env k) := by
  obtain rfl := id_of_call? hk
  have hfits := h.fits k.id k hk
  have hexists := fun n => h.exists_connection? (n := n) hk
  cases ht : k.task with
  | connect name member =>
    simp only [proceed, ht]
    rw [ht] at hfits
    cases hp : k.phase with
    | created => exact .dial _
    | opening openedAt =>
      simp only [completeOpen]
      cases env.refusal member with
      | some cause => exact .refuse cause
      | none => exact .install
    | finished | abandoned => simp [canRun, hp] at hr
    | _ => simp [Task.fits, hp] at hfits
  | close n =>
    obtain ⟨x, hx⟩ := hexists n (by rw [ht]; rfl)
    simp only [proceed, ht, hx, carryOn]
    rw [ht] at hfits
    cases hp : k.phase with
    | created =>
      simp only [begin, ht, Pool.mark]
      split_ifs with hc
      · exact .pass hx hc
      · exact .mark hx (by simpa using hc)
    | marked => exact .retire hx
    | retiring =>
      simp only [releaseChannel, hx]
      exact .release hx
    | finished | abandoned => simp [canRun, hp] at hr
    | _ => simp [Task.fits, hp] at hfits
  | submit n operation arguments =>
    obtain ⟨x, hx⟩ := hexists n (by rw [ht]; rfl)
    simp only [proceed, ht, hx, carryOn]
    rw [ht] at hfits
    cases hp : k.phase with
    | created =>
      simp only [begin, ht, inspect]
      split_ifs with hc
      · exact .turnAway hx hc
      · exact .letIn _ hx (by simpa using hc)
    | admitted request => exact .handOver _ _ _
    | inFlight id repliedAt reply => exact .answer
    | finished | abandoned => simp [canRun, hp] at hr
    | _ => simp [Task.fits, hp] at hfits
  | awaitRetired n =>
    obtain ⟨x, hx⟩ := hexists n (by rw [ht]; rfl)
    simp only [proceed, ht, hx, carryOn]
    rw [ht] at hfits
    cases hp : k.phase with
    | created =>
      simp only [begin, ht]
      exact .watch
    | watching =>
      have hretired : x.retired = true := by
        simpa [canRun, hp, isRetired, ht, Task.connection?, hx] using hr
      exact .observe hx hretired
    | finished | abandoned => simp [canRun, hp] at hr
    | _ => simp [Task.fits, hp] at hfits

theorem course_of_act? (h : p.Coherent) (ha : p.act? a = some p') : Course p a p' := by
  cases a with
  | start c task =>
    simp only [act?, start?] at ha
    split_ifs at ha with hc
    simp only [Bool.and_eq_true, Option.isNone_iff_eq_none] at hc
    obtain rfl := Option.some.inj ha
    exact .start hc.1 hc.2
  | run c env =>
    simp only [act?, runCall?] at ha
    split at ha
    · cases ha
    next k hk =>
      split_ifs at ha with hr
      obtain rfl := Option.some.inj ha
      exact .run hk (h.turn_proceed hk hr)
  | abandon c =>
    simp only [act?, abandon?] at ha
    split at ha
    · cases ha
    next k hk =>
      split_ifs at ha with hw
      obtain rfl := Option.some.inj ha
      exact .abandon hk hw
  | share name as =>
    obtain ⟨n, hn, rfl⟩ := Option.map_eq_some_iff.1 ha
    refine .around (fun r hr => ?_) rfl
    rcases List.mem_append.1 hr with hr | hr
    · exact ⟨r, (List.mem_filter.1 hr).1, rfl⟩
    · obtain rfl := List.mem_singleton.1 hr
      obtain ⟨before, after, he, -⟩ := List.lookup_eq_some_iff.1 hn
      exact ⟨(name, n), he ▸ List.mem_append_right _ (List.mem_cons_self ..), rfl⟩
  | drop name =>
    obtain rfl := Option.some.inj ha
    exact .around (fun r hr => ⟨r, (List.mem_filter.1 hr).1, rfl⟩) rfl
  | advance time =>
    simp only [act?, advance?] at ha
    split_ifs at ha
    obtain rfl := Option.some.inj ha
    exact .around (fun r hr => ⟨r, hr, rfl⟩) rfl

end Coherent

/-! ### What a step leaves alone -/

theorem Turn.unended {task : Task} {phase : Phase} (h : Turn p c env task phase p') :
    phase.ended = false := by
  cases h <;> rfl

/-- A turn takes the call to another phase of its task; only the first may leave a request yet to be
handed over. -/
theorem Turn.exists_moves {task : Task} {phase : Phase} (h : Turn p c env task phase p') :
    ∃ phase', task.fits phase' = true ∧ (phase ≠ .created → phase'.isPast = true) ∧
      Moves c phase' p p' := by
  cases h with
  | dial | watch | handOver => exact ⟨_, rfl, fun _ => rfl, moves_setPhase rfl c _⟩
  | letIn => exact ⟨_, rfl, fun hp => absurd rfl hp, moves_setPhase rfl c _⟩
  | mark => exact ⟨.marked, rfl, fun _ => rfl, moves_setPhase (calls_change p _ _) c _⟩
  | retire => exact ⟨.retiring, rfl, fun _ => rfl, moves_setPhase (calls_change p _ _) c _⟩
  | pass | turnAway | answer | observe | refuse | install =>
    exact ⟨_, rfl, fun _ => rfl, moves_finish rfl c _⟩
  | release => exact ⟨.finished .closed, rfl, fun _ => rfl, moves_finish (calls_change p _ _) c _⟩

/-- What a call answered is final. -/
theorem Course.call?_of_ended (h : Course p a p') (hk : p.call? d = some k)
    (he : k.phase.ended = true) : p'.call? d = some k := by
  cases h with
  | start => rw [call?_enrol, hk, Option.some_or]
  | run found turn =>
    obtain ⟨phase, -, -, hmoves⟩ := turn.exists_moves
    refine (hmoves.call?_of_ne ?_).trans hk
    rintro rfl
    obtain rfl := Option.some.inj (found.symm.trans hk)
    rw [turn.unended] at he
    cases he
  | abandon found waiting =>
    refine ((moves_setPhase rfl _ _).call?_of_ne ?_).trans hk
    rintro rfl
    obtain rfl := Option.some.inj (found.symm.trans hk)
    rw [Phase.not_isWaiting_of_ended he] at waiting
    cases waiting
  | around => exact hk

/-- Calls keep their tasks, and only a start makes a call. -/
theorem Course.exists_call? (h : Course p a p') (hk : p'.call? d = some k) :
    (∃ k₀, p.call? d = some k₀ ∧ k.task = k₀.task) ∨
      p.call? d = none ∧ p.canStart k.task = true ∧ k.phase = .created := by
  cases h with
  | start fresh able =>
    rcases enrol_cases hk with hk | ⟨hn, rfl⟩
    · exact .inl ⟨k, hk, rfl⟩
    · exact .inr ⟨hn, able, rfl⟩
  | run found turn =>
    obtain ⟨phase, -, -, hmoves⟩ := turn.exists_moves
    rcases hmoves.cases found hk with ⟨rfl, rfl⟩ | ⟨-, hk⟩
    · exact .inl ⟨_, found, rfl⟩
    · exact .inl ⟨k, hk, rfl⟩
  | abandon found =>
    rcases (moves_setPhase rfl _ _).cases found hk with ⟨rfl, rfl⟩ | ⟨-, hk⟩
    · exact .inl ⟨_, found, rfl⟩
    · exact .inl ⟨k, hk, rfl⟩
  | around => exact .inl ⟨k, hk, rfl⟩

theorem Turn.length_le {task : Task} {phase : Phase} (h : Turn p c env task phase p') :
    p.connections.length ≤ p'.connections.length := by
  cases h with
  | mark | retire | release => exact Nat.le_of_eq (length_change p _ _).symm
  | @install name member => exact length_install p name member ▸ Nat.le_succ _
  | _ => exact Nat.le_refl _

theorem Course.length_le (h : Course p a p') : p.connections.length ≤ p'.connections.length := by
  cases h with
  | run found turn => exact turn.length_le
  | _ => exact Nat.le_refl _

theorem Turn.names {task : Task} {phase : Phase} (h : Turn p c env task phase p') {r : String × Nat}
    (hr : r ∈ p'.names) : r ∈ p.names ∨ r.2 < p'.connections.length := by
  cases h with
  | mark | retire | release => exact .inl (names_change p _ _ ▸ hr)
  | @install name member =>
    rcases List.mem_append.1 hr with hr | hr
    · exact .inl (List.mem_filter.1 hr).1
    · obtain rfl := List.mem_singleton.1 hr
      exact .inr (length_install p name member ▸ Nat.lt_succ_self _)
  | _ => exact .inl hr

/-- Every name is for a connection that had one, or for one that exists. -/
theorem Course.names (h : Course p a p') {r : String × Nat} (hr : r ∈ p'.names) :
    (∃ r' ∈ p.names, r'.2 = r.2) ∨ r.2 < p'.connections.length := by
  cases h with
  | run found turn => exact (turn.names hr).imp_left fun hr => ⟨r, hr, rfl⟩
  | around origin => exact .inl (origin r hr)
  | _ => exact .inl ⟨r, hr, rfl⟩

theorem Coherent.lt_of_canStart (h : p.Coherent) {task : Task} (hs : p.canStart task = true)
    (hn : task.connection? = some n) : n < p.connections.length := by
  simp only [canStart, hn, List.any_eq_true, decide_eq_true_eq] at hs
  obtain ⟨r, hr, rfl⟩ := hs
  exact h.named r hr

theorem Coherent.course (h : p.Coherent) (hc : Course p a p') : p'.Coherent where
  fits d k hk := by
    cases hc with
    | @start c task =>
      rcases enrol_cases hk with hk | ⟨-, rfl⟩
      · exact h.fits d k hk
      · cases task <;> rfl
    | run found turn =>
      obtain ⟨phase, hfits, -, hmoves⟩ := turn.exists_moves
      rcases hmoves.cases found hk with ⟨-, rfl⟩ | ⟨-, hk⟩
      · exact hfits
      · exact h.fits d k hk
    | @abandon _ k₀ found =>
      rcases (moves_setPhase rfl _ _).cases found hk with ⟨-, rfl⟩ | ⟨-, hk⟩
      · cases k₀.task <;> rfl
      · exact h.fits d k hk
    | around => exact h.fits d k hk
  known d k n hk hn := by
    refine Nat.lt_of_lt_of_le ?_ hc.length_le
    rcases hc.exists_call? hk with ⟨k₀, hk₀, htask⟩ | ⟨-, hs, -⟩
    · exact h.known d k₀ n hk₀ (htask ▸ hn)
    · exact h.lt_of_canStart hs hn
  named r hr := by
    rcases hc.names hr with ⟨r', hr', he⟩ | hlt
    · exact he ▸ Nat.lt_of_lt_of_le (h.named r' hr') hc.length_le
    · exact hlt

/-! ### Closing what nothing refers to -/

/-- A connection that is not marked goes through all of its close. -/
theorem closeConnection_eq (h : p.connection? n = some x) (hx : x.closed = false) :
    p.closeConnection n = (p.change n Connection.close).enter (.closed n x.member) := by
  unfold closeConnection change
  rw [h]
  dsimp only
  rw [if_neg (by simp [hx])]

theorem closeConnection_cases (p : Pool) (n : Nat) : p.closeConnection n = p ∨
    ∃ x, p.connection? n = some x ∧ x.closed = false ∧
      p.closeConnection n = (p.change n Connection.close).enter (.closed n x.member) := by
  cases hx : p.connection? n with
  | none =>
    unfold closeConnection
    rw [hx]
    exact .inl rfl
  | some x =>
    cases hc : x.closed with
    | false => exact .inr ⟨x, rfl, hc, closeConnection_eq hx hc⟩
    | true =>
      unfold closeConnection
      rw [hx]
      exact .inl (if_pos hc)

@[simp] theorem calls_closeConnection (p : Pool) (n : Nat) : (p.closeConnection n).calls = p.calls := by
  rcases p.closeConnection_cases n with he | ⟨x, -, -, he⟩ <;> rw [he]
  exact calls_change p n _

@[simp] theorem names_closeConnection (p : Pool) (n : Nat) : (p.closeConnection n).names = p.names := by
  rcases p.closeConnection_cases n with he | ⟨x, -, -, he⟩ <;> rw [he]
  exact names_change p n _

@[simp] theorem length_closeConnection (p : Pool) (n : Nat) :
    (p.closeConnection n).connections.length = p.connections.length := by
  rcases p.closeConnection_cases n with he | ⟨x, -, -, he⟩ <;> rw [he]
  exact length_change p n _

@[simp] theorem call?_closeConnection (p : Pool) (n : Nat) (d : CallId) :
    (p.closeConnection n).call? d = p.call? d :=
  call?_congr (calls_closeConnection p n) d

theorem isReferenced_closeConnection (p : Pool) (n m : Nat) :
    (p.closeConnection n).isReferenced m = p.isReferenced m := by
  simp only [isReferenced, calls_closeConnection, names_closeConnection]

/-- Closes those among some connections that nothing refers to. -/
def sweep (p : Pool) (ns : List Nat) : Pool :=
  ns.foldl (fun p n => if p.isReferenced n then p else p.closeConnection n) p

theorem sweep_cons (p : Pool) (n : Nat) (ns : List Nat) :
    p.sweep (n :: ns) = (if p.isReferenced n then p else p.closeConnection n).sweep ns :=
  rfl

/-- What closing connections that nothing refers to keeps, holds afterwards. -/
theorem sweep_induction {P : Pool → Prop} (start : P p)
    (close : ∀ q n, P q → q.isReferenced n = false → P (q.closeConnection n)) (ns : List Nat) :
    P (p.sweep ns) := by
  induction ns generalizing p with
  | nil => exact start
  | cons n ns ih =>
    rw [sweep_cons]
    split_ifs with hn
    · exact ih start
    · exact ih (close p n start (by simpa using hn))

theorem release_induction {P : Pool → Prop} (start : P p)
    (close : ∀ q n, P q → q.isReferenced n = false → P (q.closeConnection n)) : P p.release :=
  sweep_induction start close _

theorem call?_release (p : Pool) (d : CallId) : p.release.call? d = p.call? d :=
  release_induction (P := fun q => q.call? d = p.call? d) rfl fun q n hq _ =>
    (call?_closeConnection q n d).trans hq

theorem Coherent.release (h : p.Coherent) : p.release.Coherent :=
  release_induction h fun q n hq _ => {
    fits := fun d k hk => hq.fits d k (call?_closeConnection q n d ▸ hk)
    known := fun d k m hk hm =>
      length_closeConnection q n ▸ hq.known d k m (call?_closeConnection q n d ▸ hk) hm
    named := fun r hr => length_closeConnection q n ▸ hq.named r (names_closeConnection q n ▸ hr) }

/-! ### Runs -/

/-- The states that shared connections can be in. -/
def Reachable (p : Pool) : Prop :=
  ∃ actions, ({} : Pool).run? actions = some p

theorem Coherent.exists_course (h : p.Coherent) (hs : p.step? a = some p') :
    ∃ p₁, Course p a p₁ ∧ p' = p₁.release := by
  obtain ⟨p₁, h₁, rfl⟩ := Option.map_eq_some_iff.1 hs
  exact ⟨p₁, h.course_of_act? h₁, rfl⟩

/-- What holds before a run and is kept by every step holds after it. -/
theorem Coherent.run?_induction {P : Pool → Prop} {actions : List Action} (h : p.Coherent)
    (start : P p) (step : ∀ a p p₁, p.Coherent → P p → Course p a p₁ → P p₁.release)
    (hr : p.run? actions = some p') : p'.Coherent ∧ P p' := by
  induction actions generalizing p with
  | nil =>
    obtain rfl := Option.some.inj hr
    exact ⟨h, start⟩
  | cons a rest ih =>
    obtain ⟨p₁, h₁, hr⟩ := Option.bind_eq_some_iff.1 hr
    obtain ⟨p₂, hc, rfl⟩ := h.exists_course h₁
    exact ih (h.course hc).release (step a _ _ h start hc) hr

theorem coherent_initial : ({} : Pool).Coherent where
  fits c k hk := by cases hk
  known c k n hk := by cases hk
  named r hr := by cases hr

/-- What holds when there are no connections yet and is kept by every step holds of every state. -/
theorem Reachable.induction {P : Pool → Prop} (start : P {})
    (step : ∀ a p p₁, p.Coherent → P p → Course p a p₁ → P p₁.release) (hp : p.Reachable) :
    p.Coherent ∧ P p := by
  obtain ⟨actions, hr⟩ := hp
  exact coherent_initial.run?_induction start step hr

end LeaderRouting.Pool
