import LeaderRouting.Proofs.Gateway.Calls

/-!
Turns: what one call does while it is its turn, seen from outside.  It changes no other call, except
that it may wake sleepers, and whatever it adds to the journal is about itself.  Turns that stay aside
leave the tracked leader, the lock and all other calls alone.
-/

namespace LeaderRouting.Gateway

def facts (g : Gateway) : List Fact :=
  g.journal.map (·.fact)

/-- Whether a fact may come up while a call has its turn.  The answer is no such fact, as it ends the
turn. -/
def Fact.DuringTurnOf (c : CallId) : Fact → Prop
  | .started _ | .abandoned _ | .answered _ _ => False
  | .locked d | .opened d _ _ | .refused d _ _ | .slept d | .admitted d _ _ _ | .submitted d _ _ _
  | .replied d _ => d = c
  | .published _ | .closed _ _ | .logged _ => True

/-- Whether a fact is about the lock, the connections or the published value. -/
def Fact.ofTracker : Fact → Bool
  | .locked _ | .opened _ _ _ | .refused _ _ _ | .published _ | .closed _ _ => true
  | _ => false

/-- The call that did what the fact says, or to which it was done. -/
def Fact.caller? : Fact → Option CallId
  | .started c | .locked c | .opened c _ _ | .refused c _ _ | .slept c | .admitted c _ _ _
  | .submitted c _ _ _ | .replied c _ | .answered c _ | .abandoned c => some c
  | .published _ | .closed _ _ | .logged _ => none

def hasEnded (g : Gateway) (c : CallId) : Bool :=
  (g.call? c).any (·.phase.ended)

/-- A turn of a call, up to its answer. -/
structure Turn (c : CallId) (g g' : Gateway) : Prop where
  settings : g'.settings = g.settings
  now : g'.now = g.now
  handles : g'.handles = g.handles
  held : g'.held = g.held
  abandoned : g'.channel.abandoned = g.channel.abandoned
  roles : g'.calls.map Call.role = g.calls.map Call.role
  others : ∀ d ≠ c, g'.call? d = g.call? d ∨ g'.call? d = (g.call? d).map Call.wake
  unended : g'.hasEnded c = true → g.hasEnded c = true
  journal : ∃ news, g'.journal = g.journal ++ news ∧
    ∀ e ∈ news, e.time = g.now ∧ e.fact.DuringTurnOf c

/-- A turn that is not about the tracked leader, and wakes nobody. -/
structure Aside (c : CallId) (g g' : Gateway) : Prop extends Turn c g g' where
  rest : g'.calls.filter (·.id ≠ c) = g.calls.filter (·.id ≠ c)
  writer : g'.writer = g.writer
  lock : g'.lock = g.lock
  channel : g'.channel = g.channel
  connections : g'.connections = g.connections
  updates : g'.facts.filter Fact.ofTracker = g.facts.filter Fact.ofTracker
  contends : g'.contends c = true → g.contends c = true

/-- Whether a state satisfies `R`, or does so up to the answer of a call. -/
def UpToAnswer (c : CallId) (R : Gateway → Prop) (g : Gateway) : Prop :=
  R g ∨ ∃ g₁ a, R g₁ ∧ g = g₁.finish c a

theorem UpToAnswer.mono {c : CallId} {R S : Gateway → Prop} {g : Gateway} (h : UpToAnswer c R g)
    (hRS : ∀ g, R g → S g) : UpToAnswer c S g := by
  rcases h with h | ⟨g₁, a, h, rfl⟩
  · exact .inl (hRS _ h)
  · exact .inr ⟨g₁, a, hRS _ h, rfl⟩

variable {c : CallId} {g g₁ g₂ : Gateway} {f : Fact} {p : Phase}

/-- Where roles stay, calls are found under the ids under which they were found before. -/
theorem role_call? (h : g₁.calls.map Call.role = g.calls.map Call.role) (d : CallId) :
    (g₁.call? d).map Call.role = (g.call? d).map Call.role := by
  have hr : ∀ g : Gateway, (g.call? d).map Call.role =
      (g.calls.map Call.role).find? (fun r => decide (r.1 = d)) := by
    intro g
    rw [List.find?_map]
    rfl
  rw [hr, hr, h]

theorem exists_call?_of_roles (h : g₁.calls.map Call.role = g.calls.map Call.role)
    {d : CallId} {k₁ : Call} (hk : g₁.call? d = some k₁) :
    ∃ k, g.call? d = some k ∧ k.role = k₁.role := by
  have hr := role_call? h d
  rw [hk] at hr
  simpa [eq_comm] using hr

theorem caller?_of_duringTurn (h : f.DuringTurnOf c) {d : CallId} (hd : f.caller? = some d) :
    d = c := by
  cases f <;> simp_all [Fact.DuringTurnOf, Fact.caller?]

/-! ### Composing turns -/

theorem Turn.refl (c : CallId) (g : Gateway) : Turn c g g where
  settings := rfl
  now := rfl
  handles := rfl
  held := rfl
  abandoned := rfl
  roles := rfl
  others _ _ := .inl rfl
  unended := id
  journal := ⟨[], by simp⟩

theorem Turn.trans (h₁ : Turn c g g₁) (h₂ : Turn c g₁ g₂) : Turn c g g₂ where
  settings := h₂.settings.trans h₁.settings
  now := h₂.now.trans h₁.now
  handles := h₂.handles.trans h₁.handles
  held := h₂.held.trans h₁.held
  abandoned := h₂.abandoned.trans h₁.abandoned
  roles := h₂.roles.trans h₁.roles
  others d hd := by
    -- To be woken twice is to be woken once.
    have hw : ∀ o : Option Call, (o.map Call.wake).map Call.wake = o.map Call.wake := by
      intro o
      cases o <;> simp [Call.wake]
    rcases h₁.others d hd with e₁ | e₁ <;> rcases h₂.others d hd with e₂ | e₂ <;>
      simp [e₁, e₂, hw]
  unended h := h₁.unended (h₂.unended h)
  journal := by
    obtain ⟨news₁, e₁, hn₁⟩ := h₁.journal
    obtain ⟨news₂, e₂, hn₂⟩ := h₂.journal
    refine ⟨news₁ ++ news₂, by rw [e₂, e₁, List.append_assoc], ?_⟩
    intro e he
    rcases List.mem_append.1 he with he | he
    · exact hn₁ e he
    · exact h₁.now ▸ hn₂ e he

theorem Aside.refl (c : CallId) (g : Gateway) : Aside c g g where
  toTurn := .refl c g
  rest := rfl
  writer := rfl
  lock := rfl
  channel := rfl
  connections := rfl
  updates := rfl
  contends := id

theorem Aside.trans (h₁ : Aside c g g₁) (h₂ : Aside c g₁ g₂) : Aside c g g₂ where
  toTurn := h₁.toTurn.trans h₂.toTurn
  rest := h₂.rest.trans h₁.rest
  writer := h₂.writer.trans h₁.writer
  lock := h₂.lock.trans h₁.lock
  channel := h₂.channel.trans h₁.channel
  connections := h₂.connections.trans h₁.connections
  updates := h₂.updates.trans h₁.updates
  contends h := h₁.contends (h₂.contends h)

/-- All other calls are as they were. -/
theorem Aside.alone (h : Aside c g g₁) {d : CallId} (hd : d ≠ c) : g₁.call? d = g.call? d := by
  have hfind : ∀ g : Gateway, g.call? d = (g.calls.filter (·.id ≠ c)).find? (·.id = d) := by
    intro g
    rw [List.find?_filter]
    unfold call?
    congr 1
    funext k
    by_cases hk : k.id = d <;> simp [hk, hd]
  rw [hfind, hfind, h.rest]

/-! ### Primitive changes -/

theorem turn_enter (hf : f.DuringTurnOf c) : Turn c g (g.enter f) where
  __ := Turn.refl c g
  journal := ⟨[⟨g.now, f⟩], rfl, by simpa using hf⟩

theorem turn_log (line : LogLine) : Turn c g (g.log line) :=
  turn_enter trivial

theorem turn_setPhase (hp : p.ended = false) : Turn c g (g.setPhase c p) where
  __ := Turn.refl c g
  roles := role_setPhase g c p
  others _ hd := .inl (call?_setPhase_of_ne hd p)
  unended := by
    unfold hasEnded
    rw [call?_setPhase_self]
    cases g.call? c <;> simp [hp]

theorem turn_setSeen (version : Nat) : Turn c g (g.setSeen c version) where
  __ := Turn.refl c g
  roles := role_setSeen g c version
  others _ hd := .inl (by rw [call?_setSeen, if_neg hd])
  unended := by
    unfold hasEnded
    rw [call?_setSeen, if_pos rfl]
    cases g.call? c <;> simp

theorem turn_wakeAll : Turn c g g.wakeAll where
  __ := Turn.refl c g
  roles := role_wakeAll g
  others d _ := .inr (call?_wakeAll g d)
  unended := by
    unfold hasEnded
    rw [call?_wakeAll]
    cases g.call? c <;> simp [Call.wake]

theorem turn_setLock (l : Lock) : Turn c g { g with lock := l } where
  __ := Turn.refl c g

theorem turn_setWriter (w : Writer) : Turn c g { g with writer := w } where
  __ := Turn.refl c g

theorem turn_setConnections (ks : List Connection) : Turn c g { g with connections := ks } where
  __ := Turn.refl c g

theorem turn_publish (v : Published) : Turn c g (g.publish v) := by
  unfold publish
  split_ifs
  · have hc : Turn c g { g with channel := g.channel.publish v } := { Turn.refl c g with }
    exact (hc.trans (turn_enter (f := .published v) trivial)).trans turn_wakeAll
  · exact .refl c g

theorem turn_closeConnection (n : Nat) : Turn c g (g.closeConnection n) := by
  unfold closeConnection
  split
  · exact .refl c g
  · split_ifs
    · exact .refl c g
    next k _ _ =>
      have hclosed : Turn c g ({ g with connections := g.connections.set n k.close }.enter
          (.closed n k.member)) :=
        (turn_setConnections _).trans (turn_enter trivial)
      exact hclosed.trans (turn_log _)

theorem turn_install (s : Snapshot) : Turn c g (g.install s) :=
  (turn_setWriter _).trans (turn_publish _)

theorem turn_closePrevious (previous : Option Snapshot) : Turn c g (g.closePrevious previous) := by
  cases previous with
  | none => exact .refl c g
  | some s => exact turn_closeConnection s.connection

theorem aside_enter (hf : f.DuringTurnOf c) (ht : f.ofTracker = false) : Aside c g (g.enter f) where
  __ := Aside.refl c g
  toTurn := turn_enter hf
  updates := by simp [facts, enter, ht]

theorem aside_log (line : LogLine) : Aside c g (g.log line) :=
  aside_enter trivial rfl

theorem aside_logIfAny (line : Option LogLine) : Aside c g (g.logIfAny line) := by
  cases line with
  | none => exact .refl c g
  | some line => exact aside_log line

theorem aside_setPhase (hp : p.ended = false) (hc : p.contends = false) :
    Aside c g (g.setPhase c p) where
  __ := Aside.refl c g
  toTurn := turn_setPhase hp
  rest := filter_ne_setPhase g c p
  updates := rfl
  contends := by
    unfold Gateway.contends
    rw [call?_setPhase_self]
    cases g.call? c <;> simp [hc]

theorem aside_setSeen (version : Nat) : Aside c g (g.setSeen c version) where
  __ := Aside.refl c g
  toTurn := turn_setSeen version
  rest := filter_ne_setSeen g c version
  updates := rfl
  contends := by
    unfold Gateway.contends
    rw [call?_setSeen, if_pos rfl]
    cases g.call? c <;> simp

end LeaderRouting.Gateway
