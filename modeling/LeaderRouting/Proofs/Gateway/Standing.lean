import LeaderRouting.Proofs.Gateway.Ownership

/-!
Where calls stand with respect to the lock, and how this agrees with the lock and the journal.  Only
the call that holds the lock is ever served, and a call is served once.
-/

namespace LeaderRouting.Gateway

/-- How far a call has come as seen from the lock. -/
inductive Standing
  /-- Neither in line nor holding the lock. -/
  | outside
  | queued (update : Update)
  /-- Holds the lock while a connection to the candidate opens. -/
  | opening (candidate : Leader)
  | finished (answer : Answer)
  | abandoned

def Phase.standing : Phase → Standing
  | queued u => .queued u
  | opening l _ => .opening l
  | finished a => .finished a
  | abandoned => .abandoned
  | _ => .outside

def Standing.contends : Standing → Bool
  | queued _ | opening _ => true
  | _ => false

/-- Whether a call that stands there may have been served by the lock. -/
def Standing.isPast : Standing → Bool
  | opening _ | finished _ | abandoned => true
  | _ => false

/-- What a call is to do, and where it stands. -/
def standing? (g : Gateway) (c : CallId) : Option (Task × Standing) :=
  (g.call? c).map fun k => (k.task, k.phase.standing)

def Fact.locked? : Fact → Option CallId
  | .locked c => some c
  | _ => none

/-- The calls that the lock has served, in this order. -/
def served (g : Gateway) : List CallId :=
  g.facts.filterMap Fact.locked?

@[simp] theorem Phase.standing_wake (p : Phase) : p.wake.standing = p.standing := by
  cases p <;> rfl

@[simp] theorem Phase.contends_standing (p : Phase) : p.standing.contends = p.contends := by
  cases p <;> rfl

variable {g g₁ g' : Gateway} {c d : CallId} {k : Call} {task : Task} {p : Phase}

theorem Phase.standing_eq_outside (hc : p.contends = false) (hu : p.ended = false) :
    p.standing = .outside := by
  cases p <;> simp [contends, ended] at hc hu <;> rfl

theorem Phase.standing_ne_finished (hu : p.ended = false) (a : Answer) :
    p.standing ≠ .finished a := by
  intro ha
  cases p <;> simp [standing, ended] at ha hu

theorem standing?_of_call? (h : g.call? c = some k) :
    g.standing? c = some (k.task, k.phase.standing) := by
  simp [standing?, h]

theorem standing?_of_phase (h : g.call? c = some k) (hp : k.phase = p) :
    g.standing? c = some (k.task, p.standing) :=
  hp ▸ standing?_of_call? h

theorem standing?_setPhase (g : Gateway) (c d : CallId) (p : Phase) :
    (g.setPhase c p).standing? d =
      if d = c then (g.standing? d).map fun r => (r.1, p.standing) else g.standing? d := by
  unfold standing?
  rw [call?_setPhase]
  split_ifs <;> simp [Function.comp_def]

theorem standing?_finish (g : Gateway) (c d : CallId) (a : Answer) :
    (g.finish c a).standing? d =
      if d = c then (g.standing? d).map fun r => (r.1, .finished a) else g.standing? d := by
  unfold standing?
  rw [call?_finish]
  split_ifs <;> simp [Function.comp_def, Phase.standing]

theorem standing?_wakeAll (g : Gateway) (d : CallId) : g.wakeAll.standing? d = g.standing? d := by
  unfold standing?
  rw [call?_wakeAll]
  simp [Function.comp_def, Call.wake]

theorem standing?_enrol (hf : g.call? k.id = none) (d : CallId) :
    (g.enrol k).standing? d =
      if d = k.id then some (k.task, k.phase.standing) else g.standing? d := by
  unfold standing?
  rw [call?_enrol]
  by_cases he : d = k.id
  · simp [he, hf]
  · simp [he, Ne.symm he]

theorem standing?_giveUp (g : Gateway) (c d : CallId) :
    (g.giveUp c).standing? d =
      if d = c then (g.standing? d).map fun r => (r.1, .abandoned) else g.standing? d :=
  standing?_setPhase { g with lock := g.lock.withdraw c } c d .abandoned

theorem standing?_depart (g : Gateway) (c d : CallId) (a : Answer) :
    (g.depart c a).standing? d =
      if d = c then (g.standing? d).map fun r => (r.1, .finished a) else g.standing? d :=
  standing?_finish { g with lock := g.lock.release } c d a

/-- Only the call that has its turn moves. -/
theorem UpToAnswer.standing? (h : UpToAnswer c (Turn c g) g') (hd : d ≠ c) :
    g'.standing? d = g.standing? d := by
  unfold Gateway.standing?
  rcases h.others hd with he | he <;> simp [he, Function.comp_def, Call.wake]

theorem Aside.standing? (h : Aside c g g') (hk : g.call? c = some k) (hf : k.phase.contends = false)
    (hu : k.phase.ended = false) : g'.standing? c = g.standing? c := by
  have hr := role_call? h.roles c
  rw [hk] at hr
  obtain ⟨k', hk', he⟩ := Option.map_eq_some_iff.1 hr
  simp only [Call.role, Prod.mk.injEq] at he
  have hc : k'.phase.contends = false := by
    by_contra hc
    have hg := h.contends (by simp [Gateway.contends, hk', hc])
    simp [Gateway.contends, hk, hf] at hg
  have he' : k'.phase.ended = false := by
    by_contra hc
    have hg := h.unended (by simp [hasEnded, hk', hc])
    simp [hasEnded, hk, hu] at hg
  rw [standing?_of_call? hk, standing?_of_call? hk', Phase.standing_eq_outside hc he',
    Phase.standing_eq_outside hf hu, he.2.1]

/-! ### Facts about the lock and about answers -/

theorem facts_finish (g : Gateway) (c : CallId) (a : Answer) :
    (g.finish c a).facts = g.facts ++ (a.line?.map Fact.logged).toList ++ [.answered c a] := by
  unfold facts
  rw [journal_finish]
  cases a.line? <;> simp

/-- The facts by which a call is served, refused or answered. -/
def Fact.ofCall : Fact → Bool
  | .locked _ | .refused _ _ _ | .answered _ _ => true
  | _ => false

def callFacts (g : Gateway) : List Fact :=
  g.facts.filter Fact.ofCall

theorem served_eq (g : Gateway) : g.served = g.callFacts.filterMap Fact.locked? := by
  unfold served callFacts
  rw [List.filterMap_filter]
  congr 1
  funext f
  cases f <;> rfl

theorem callFacts_enter (f : Fact) :
    (g.enter f).callFacts = g.callFacts ++ if f.ofCall then [f] else [] := by
  unfold callFacts
  rw [facts_enter, List.filter_append]
  cases hf : f.ofCall <;> simp [hf]

theorem callFacts_finish (g : Gateway) (c : CallId) (a : Answer) :
    (g.finish c a).callFacts = g.callFacts ++ [.answered c a] := by
  unfold callFacts
  rw [facts_finish]
  cases a.line? <;> simp [Fact.ofCall]

theorem callFacts_enrol (g : Gateway) (k : Call) : (g.enrol k).callFacts = g.callFacts := by
  simp [callFacts, facts_enrol, Fact.ofCall]

theorem callFacts_giveUp (g : Gateway) (c : CallId) : (g.giveUp c).callFacts = g.callFacts := by
  simp [callFacts, facts_giveUp, Fact.ofCall]

theorem callFacts_depart (g : Gateway) (c : CallId) (a : Answer) :
    (g.depart c a).callFacts = g.callFacts ++ [.answered c a] :=
  callFacts_finish { g with lock := g.lock.release } c a

theorem served_congr (h : g'.callFacts = g.callFacts) : g'.served = g.served := by
  rw [served_eq, h, ← served_eq]

/-- An answer serves nobody. -/
theorem served_finish (g : Gateway) (c : CallId) (a : Answer) :
    (g.finish c a).served = g.served := by
  rw [served_eq, callFacts_finish, List.filterMap_append, ← served_eq]
  simp [Fact.locked?]

theorem served_depart (g : Gateway) (c : CallId) (a : Answer) :
    (g.depart c a).served = g.served :=
  served_finish { g with lock := g.lock.release } c a

/-- A turn adds facts about its call only, and at last its answer. -/
theorem UpToAnswer.facts (h : UpToAnswer c (Turn c g) g') :
    ∃ news, g'.facts = g.facts ++ news ∧
      ∀ f ∈ news, f.DuringTurnOf c ∨ ∃ a, f = .answered c a := by
  have hturn : ∀ g₁, Turn c g g₁ → ∃ news, g₁.facts = g.facts ++ news ∧
      ∀ f ∈ news, f.DuringTurnOf c := by
    intro g₁ h₁
    obtain ⟨news, hn, ht⟩ := h₁.journal
    refine ⟨news.map (·.fact), by simp [Gateway.facts, hn], fun f hf => ?_⟩
    obtain ⟨e, he, rfl⟩ := List.mem_map.1 hf
    exact (ht e he).2
  rcases h with h | ⟨g₁, a, h, rfl⟩
  · obtain ⟨news, hn, ht⟩ := hturn g' h
    exact ⟨news, hn, fun f hf => .inl (ht f hf)⟩
  · obtain ⟨news, hn, ht⟩ := hturn g₁ h
    refine ⟨news ++ ((a.line?.map Fact.logged).toList ++ [.answered c a]), ?_, fun f hf => ?_⟩
    · rw [facts_finish, hn, List.append_assoc, List.append_assoc]
    · rcases List.mem_append.1 hf with hf | hf
      · exact .inl (ht f hf)
      · rcases List.mem_append.1 hf with hf | hf
        · obtain ⟨line, -, rfl⟩ := by simpa using hf
          exact .inl trivial
        · exact .inr ⟨a, List.mem_singleton.1 hf⟩

/-- A turn that stays aside adds nothing about the lock, the connections or the published value. -/
theorem Aside.facts (h : Aside c g g') : ∃ news, g'.facts = g.facts ++ news ∧
    ∀ f ∈ news, f.DuringTurnOf c ∧ f.ofTracker = false := by
  obtain ⟨news, hn, ht⟩ := h.journal
  have hf : g'.facts = g.facts ++ news.map (·.fact) := by simp [Gateway.facts, hn]
  have hu := h.updates
  rw [hf, List.filter_append, List.append_right_eq_self, List.filter_eq_nil_iff] at hu
  refine ⟨_, hf, fun f hmem => ⟨?_, by simpa using hu f hmem⟩⟩
  obtain ⟨e, he, rfl⟩ := List.mem_map.1 hmem
  exact (ht e he).2

theorem Aside.callFacts (h : Aside c g g') : g'.callFacts = g.callFacts := by
  obtain ⟨news, hn, ht⟩ := h.facts
  unfold Gateway.callFacts
  rw [hn, List.filter_append, List.append_right_eq_self, List.filter_eq_nil_iff]
  intro f hf
  obtain ⟨hd, hu⟩ := ht f hf
  cases f <;> simp_all [Fact.ofCall, Fact.ofTracker, Fact.DuringTurnOf]

end LeaderRouting.Gateway
