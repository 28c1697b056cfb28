import LeaderRouting.Gateway.Step
import Mathlib.Tactic.Common

/-! Looking calls up after a step, and the order in which calls stand in line for the lock. -/

namespace LeaderRouting

theorem filter_ne_eq_self {c : CallId} {l : List CallId} (h : c ∉ l) : l.filter (· ≠ c) = l :=
  List.filter_eq_self.2 fun d hd => by simpa using fun he : d = c => h (he ▸ hd)

namespace Lock

/-- The holder and those in line behind it. -/
def queue (l : Lock) : List CallId :=
  l.holder.toList ++ l.waiting

/-- Nobody waits for a lock that is free. -/
def IsFair (l : Lock) : Prop :=
  l.holder = none → l.waiting = []

theorem queue_of_holder {l : Lock} {c : CallId} (h : l.holder = some c) :
    l.queue = c :: l.waiting := by
  simp [queue, h]

theorem queue_request {l : Lock} (h : l.IsFair) (c : CallId) :
    (l.request c).queue = l.queue ++ [c] := by
  unfold request
  cases hh : l.holder with
  | none => simp [queue, hh, h hh]
  | some d => simp [queue, hh]

theorem isFair_request {l : Lock} (c : CallId) : (l.request c).IsFair := by
  unfold request IsFair
  cases hh : l.holder with
  | none => simp
  | some d => simp

theorem queue_release (l : Lock) : l.release.queue = l.waiting := by
  unfold release queue
  cases l.waiting <;> simp

theorem isFair_release (l : Lock) : l.release.IsFair := by
  unfold release IsFair
  cases l.waiting <;> simp

/-- Giving up takes a call out of the line and leaves the order of the others. -/
theorem queue_withdraw {l : Lock} (hn : l.queue.Nodup) (c : CallId) :
    (l.withdraw c).queue = l.queue.filter (· ≠ c) := by
  unfold withdraw
  split_ifs with h
  · rw [queue_release, queue_of_holder h]
    rw [queue_of_holder h, List.nodup_cons] at hn
    rw [List.filter_cons_of_neg (by simp), filter_ne_eq_self hn.1]
  · cases hh : l.holder with
    | none => simp [queue, hh]
    | some d =>
      have hd : d ≠ c := fun he => h (by rw [hh, he])
      simp [queue, hh, hd]

theorem withdraw_eq_self {l : Lock} {c : CallId} (h : c ∉ l.queue) : l.withdraw c = l := by
  have hh : l.holder ≠ some c := fun hh => h (by simp [queue, hh])
  have hw : c ∉ l.waiting := fun hw => h (by simp [queue, hw])
  unfold withdraw
  rw [if_neg hh, filter_ne_eq_self hw]

theorem isFair_withdraw {l : Lock} (h : l.IsFair) (c : CallId) : (l.withdraw c).IsFair := by
  unfold withdraw
  split_ifs with hc
  · exact isFair_release l
  · intro hn
    simp [h hn]

end Lock

namespace Gateway

/-- Whether a call in this phase holds the writer's lock or is in line for it. -/
def Phase.contends : Phase → Bool
  | queued _ | opening _ _ => true
  | _ => false

@[simp] theorem Phase.contends_wake (p : Phase) : p.wake.contends = p.contends := by
  cases p <;> rfl

@[simp] theorem Phase.ended_wake (p : Phase) : p.wake.ended = p.ended := by
  cases p <;> rfl

@[simp] theorem Phase.snapshot?_wake (p : Phase) : p.wake.snapshot? = p.snapshot? := by
  cases p <;> rfl

@[simp] theorem Phase.wake_wake (p : Phase) : p.wake.wake = p.wake := by
  cases p <;> rfl

/-- Only a call that goes on waits. -/
theorem Phase.snapshot?_of_ended {p : Phase} (h : p.ended = true) : p.snapshot? = none := by
  cases p <;> first | rfl | simp [ended] at h

theorem Phase.ended_of_isWaiting {p : Phase} (h : p.isWaiting = true) : p.ended = false := by
  cases p <;> first | rfl | simp [isWaiting] at h

def Call.wake (k : Call) : Call :=
  { k with phase := k.phase.wake }

/-- What stays the same about a call as long as it is known. -/
def Call.role (k : Call) : CallId × Task × Handle :=
  (k.id, k.task, k.owner)

def contends (g : Gateway) (c : CallId) : Bool :=
  (g.call? c).any (·.phase.contends)

variable {g : Gateway} {c d : CallId} {k : Call}

/-- Only a call that goes on can run. -/
theorem ended_of_canRun (h : g.canRun k = true) : k.phase.ended = false := by
  cases hp : k.phase <;> simp [canRun, hp] at h <;> rfl

theorem id_of_call? (h : g.call? c = some k) : k.id = c := by
  simpa using List.find?_some h

theorem mem_of_call? (h : g.call? c = some k) : k ∈ g.calls :=
  List.mem_of_find?_eq_some h

/-- Where ids are not shared, a call is found under its id. -/
theorem call?_of_mem (hn : (g.calls.map (·.id)).Nodup) (hk : k ∈ g.calls) :
    g.call? k.id = some k := by
  unfold call?
  generalize g.calls = l at hn hk
  induction l with
  | nil => simp at hk
  | cons a l ih =>
    rw [List.map_cons, List.nodup_cons] at hn
    rcases List.mem_cons.1 hk with rfl | hk
    · simp
    · have ha : a.id ≠ k.id := fun he => hn.1 (he ▸ List.mem_map_of_mem hk)
      simp [ha, ih hn.2 hk]

theorem call?_append (g : Gateway) (k : Call) (d : CallId) :
    { g with calls := g.calls ++ [k] }.call? d =
      (g.call? d).or (if k.id = d then some k else none) := by
  unfold call?
  rw [List.find?_append]
  simp [List.find?_singleton]

theorem call?_map (g : Gateway) {f : Call → Call} (hf : ∀ k, (f k).id = k.id) (d : CallId) :
    { g with calls := g.calls.map f }.call? d = (g.call? d).map f := by
  simp only [call?, List.find?_map]
  congr 2
  funext k
  simp [hf]

theorem call?_setPhase (g : Gateway) (c d : CallId) (p : Phase) :
    (g.setPhase c p).call? d =
      if d = c then (g.call? d).map ({ · with phase := p }) else g.call? d := by
  have hm : (g.setPhase c p).call? d =
      (g.call? d).map fun k => if k.id = c then { k with phase := p } else k :=
    call?_map g (fun k => by split_ifs <;> rfl) d
  rw [hm]
  cases h : g.call? d with
  | none => simp
  | some k =>
    obtain rfl := id_of_call? h
    split_ifs <;> simp [*]

theorem call?_setPhase_self (g : Gateway) (c : CallId) (p : Phase) :
    (g.setPhase c p).call? c = (g.call? c).map ({ · with phase := p }) := by
  simp [call?_setPhase]

theorem call?_setPhase_of_ne (h : d ≠ c) (p : Phase) : (g.setPhase c p).call? d = g.call? d := by
  simp [call?_setPhase, h]

theorem call?_setSeen (g : Gateway) (c d : CallId) (version : Nat) :
    (g.setSeen c version).call? d =
      if d = c then (g.call? d).map ({ · with seen := version }) else g.call? d := by
  have hm : (g.setSeen c version).call? d =
      (g.call? d).map fun k => if k.id = c then { k with seen := version } else k :=
    call?_map g (fun k => by split_ifs <;> rfl) d
  rw [hm]
  cases h : g.call? d with
  | none => simp
  | some k =>
    obtain rfl := id_of_call? h
    split_ifs <;> simp [*]

@[simp] theorem call?_wakeAll (g : Gateway) (d : CallId) :
    g.wakeAll.call? d = (g.call? d).map Call.wake :=
  have hw : ∀ k, (Call.wake k).id = k.id := fun _ => rfl
  call?_map g hw d

/-- What is done to one call is not done to the others. -/
theorem filter_ne_map {l : List Call} {c : CallId} {f : Call → Call}
    (hf : ∀ k, f k = if k.id = c then f k else k) (hid : ∀ k, (f k).id = k.id) :
    (l.map f).filter (·.id ≠ c) = l.filter (·.id ≠ c) := by
  induction l with
  | nil => rfl
  | cons k l ih =>
    rw [List.map_cons, List.filter_cons, List.filter_cons, ih, hid]
    split_ifs with hk
    · rw [hf, if_neg (by simpa using hk)]
    · rfl

theorem filter_ne_setPhase (g : Gateway) (c : CallId) (p : Phase) :
    (g.setPhase c p).calls.filter (·.id ≠ c) = g.calls.filter (·.id ≠ c) :=
  filter_ne_map (fun k => by split_ifs <;> rfl) fun k => by split_ifs <;> rfl

theorem filter_ne_setSeen (g : Gateway) (c : CallId) (version : Nat) :
    (g.setSeen c version).calls.filter (·.id ≠ c) = g.calls.filter (·.id ≠ c) :=
  filter_ne_map (fun k => by split_ifs <;> rfl) fun k => by split_ifs <;> rfl

theorem role_setPhase (g : Gateway) (c : CallId) (p : Phase) :
    (g.setPhase c p).calls.map Call.role = g.calls.map Call.role := by
  simp only [setPhase, List.map_map]
  congr 1
  funext k
  dsimp only [Function.comp]
  split_ifs <;> rfl

theorem role_setSeen (g : Gateway) (c : CallId) (version : Nat) :
    (g.setSeen c version).calls.map Call.role = g.calls.map Call.role := by
  simp only [setSeen, List.map_map]
  congr 1
  funext k
  dsimp only [Function.comp]
  split_ifs <;> rfl

theorem role_wakeAll (g : Gateway) : g.wakeAll.calls.map Call.role = g.calls.map Call.role := by
  simp only [wakeAll, List.map_map]
  rfl

end Gateway

end LeaderRouting
