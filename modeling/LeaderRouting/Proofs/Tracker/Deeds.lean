import LeaderRouting.Proofs.Tracker.Release

/-!
What the journal gets to know of a step.  Only a call that holds the lock opens or replaces a
connection, or fails to; apart from that a connection is closed when it is let go of.
-/

namespace LeaderRouting.Gateway

/-- Whether all that the journal has gained are facts of which `Q` holds. -/
def Notes (Q : Fact → Prop) (g g' : Gateway) : Prop :=
  ∃ news, g'.facts = g.facts ++ news ∧ ∀ f ∈ news, Q f

/-- Whether a connection is opened, refused or closed. -/
def Fact.ofConnection : Fact → Bool
  | .opened _ _ _ | .refused _ _ _ | .closed _ _ => true
  | _ => false

variable {Q R : Fact → Prop} {g g₁ g₂ : Gateway} {c : CallId} {k : Call} {f : Fact} {a : Action}
  {env : Surroundings} {l : Leader}

/-! ### Composing and primitive changes -/

theorem Notes.refl (g : Gateway) : Notes Q g g :=
  ⟨[], by simp⟩

theorem Notes.trans (h₁ : Notes Q g g₁) (h₂ : Notes Q g₁ g₂) : Notes Q g g₂ := by
  obtain ⟨news₁, e₁, hn₁⟩ := h₁
  obtain ⟨news₂, e₂, hn₂⟩ := h₂
  refine ⟨news₁ ++ news₂, by rw [e₂, e₁, List.append_assoc], fun f hf => ?_⟩
  exact (List.mem_append.1 hf).elim (hn₁ f) (hn₂ f)

theorem Notes.mono (h : Notes Q g g₁) (hQR : ∀ f, Q f → R f) : Notes R g g₁ := by
  obtain ⟨news, e, hn⟩ := h
  exact ⟨news, e, fun f hf => hQR f (hn f hf)⟩

theorem Notes.facts (h : Notes Q g g₁) (hf : f ∈ g₁.facts) : f ∈ g.facts ∨ Q f := by
  obtain ⟨news, e, hn⟩ := h
  rw [e, List.mem_append] at hf
  exact hf.imp_right (hn f)

theorem notes_of_facts (h : g₁.facts = g.facts) : Notes Q g g₁ :=
  ⟨[], by simp [h]⟩

theorem notes_enter (h : Q f) : Notes Q g (g.enter f) :=
  ⟨[f], facts_enter g f, by simpa using h⟩

theorem notes_log (h : ∀ line, Q (.logged line)) (line : LogLine) : Notes Q g (g.log line) :=
  notes_enter (h line)

theorem notes_publish (v : Published) (h : Q (.published v)) : Notes Q g (g.publish v) := by
  unfold publish
  split_ifs
  · exact notes_enter (g := { g with channel := g.channel.publish v }) h
  · exact .refl g

theorem notes_install (s : Snapshot) (h : Q (.published (.elected s))) :
    Notes Q g (g.install s) :=
  notes_publish (g := { g with writer := { g.writer with current := some s } }) _ h

theorem notes_closeConnection (hl : ∀ line, Q (.logged line)) (hc : ∀ n m, Q (.closed n m))
    (n : Nat) : Notes Q g (g.closeConnection n) := by
  unfold closeConnection
  split
  · exact .refl g
  · split_ifs
    · exact .refl g
    next k _ _ =>
      have hclosed : Notes Q g
          ({ g with connections := g.connections.set n k.close }.enter (.closed n k.member)) :=
        notes_enter (g := { g with connections := g.connections.set n k.close }) (hc n k.member)
      exact hclosed.trans (notes_log hl _)

theorem notes_closePrevious (hl : ∀ line, Q (.logged line)) (hc : ∀ n m, Q (.closed n m))
    (previous : Option Snapshot) : Notes Q g (g.closePrevious previous) := by
  cases previous with
  | none => exact .refl g
  | some s => exact notes_closeConnection hl hc s.connection

theorem notes_finish (hl : ∀ line, Q (.logged line)) (c : CallId) (a : Answer)
    (ha : Q (.answered c a)) : Notes Q g (g.finish c a) := by
  refine ⟨_, (facts_finish g c a).trans (List.append_assoc _ _ _), fun f hf => ?_⟩
  rcases List.mem_append.1 hf with hf | hf
  · obtain ⟨line, -, rfl⟩ := by simpa using hf
    exact hl line
  · obtain rfl := List.mem_singleton.1 hf
    exact ha

theorem notes_concludeUpdate (hl : ∀ line, Q (.logged line)) (k : Call)
    (r : Except TransportError Verdict) (ha : Q (.answered k.id (k.task.outcome r))) :
    Notes Q g (g.concludeUpdate k r) := by
  rw [concludeUpdate_eq]
  exact notes_finish (g := { g with lock := g.lock.release }) hl k.id _ ha

theorem notes_release (hl : ∀ line, Q (.logged line)) (hc : ∀ n m, Q (.closed n m))
    (g : Gateway) : Notes Q g g.release := by
  have htracker : Notes Q g g.releaseTracker := by
    refine notes_of_facts ?_
    unfold releaseTracker
    split_ifs <;> rfl
  exact releaseConnections_induction htracker fun g₁ n h => h.trans (notes_closeConnection hl hc n)

/-! ### What a call does while it holds the lock -/

/-- The facts of a step that leaves all connections alone may be any others. -/
theorem UpToAnswer.notes (h : UpToAnswer c (Aside c g) g₁) :
    Notes (·.ofConnection = false) g g₁ := by
  have hturn : ∀ g₂, Aside c g g₂ → Notes (·.ofConnection = false) g g₂ := by
    intro g₂ h₂
    obtain ⟨news, e, hn⟩ := h₂.facts
    refine ⟨news, e, fun f hf => ?_⟩
    have ht := (hn f hf).2
    cases f <;> first | rfl | simp [Fact.ofTracker] at ht
  rcases h with h | ⟨g₂, a, h, rfl⟩
  · exact hturn g₁ h
  · exact (hturn g₂ h).trans (notes_finish (fun _ => rfl) c a rfl)

theorem notes_consider (g : Gateway) (env : Surroundings) (k : Call) (l : Leader) :
    Notes (·.ofConnection = false) g (g.consider env k l) := by
  have hl : ∀ line, (Fact.logged line).ofConnection = false := fun _ => rfl
  unfold consider
  split
  · exact (notes_log hl _).trans (notes_concludeUpdate hl k _ rfl)
  · exact (notes_log hl _).trans (notes_concludeUpdate hl k _ rfl)
  next s _ =>
    have hinstalled : Notes (·.ofConnection = false) g
        ((g.log (.termRefreshed s.leader l.term)).install (s.renew l.term)) :=
      (notes_log hl _).trans (notes_install _ rfl)
    exact hinstalled.trans (notes_concludeUpdate hl k _ rfl)
  · exact notes_log (g := g) hl _

theorem notes_shutDown (hQ : ∀ f, f.ofConnection = false → Q f) (hc : ∀ n m, Q (.closed n m))
    (g : Gateway) (k : Call) : Notes Q g (g.shutDown k) := by
  have hl : ∀ line, Q (.logged line) := fun _ => hQ _ rfl
  unfold shutDown
  split_ifs
  · exact notes_concludeUpdate hl k _ (hQ _ rfl)
  · have hpublished : Notes Q g ({ g with writer := ⟨none, true⟩ }.publish .closed) :=
      notes_publish (g := { g with writer := ⟨none, true⟩ }) _ (hQ _ rfl)
    have hclosed := hpublished.trans (notes_closePrevious hl hc g.writer.current)
    exact (hclosed.trans (notes_log hl .trackerShutDown)).trans
      (notes_concludeUpdate hl k _ (hQ _ rfl))

theorem notes_completeOpen (hQ : ∀ f, f.ofConnection = false → Q f) (hc : ∀ n m, Q (.closed n m))
    (hopened : ∀ c n, env.refusal l.member = none → Q (.opened c n l.member))
    (hrefused : ∀ c e, env.refusal l.member = some e → Q (.refused c l.member e))
    (g : Gateway) (k : Call) : Notes Q g (g.completeOpen env k l) := by
  have hl : ∀ line, Q (.logged line) := fun _ => hQ _ rfl
  unfold completeOpen
  dsimp only
  split
  next e he =>
    exact ((notes_enter (hrefused k.id e he)).trans (notes_log hl _)).trans
      (notes_concludeUpdate hl k _ (hQ _ rfl))
  next he =>
    have hnew : Notes Q g ({ g with connections := g.connections ++
        [Connection.mk l.member false false 0] }.enter
          (.opened k.id g.connections.length l.member)) :=
      notes_enter (g := { g with connections := g.connections ++ [_] }) (hopened _ _ he)
    have hinstalled := (hnew.trans (notes_log hl (.connectionOpened l.member))).trans
      (notes_install (Snapshot.mk l g.connections.length) (hQ _ rfl))
    exact (hinstalled.trans (notes_closePrevious hl hc g.writer.current)).trans
      (notes_concludeUpdate hl k _ (hQ _ rfl))

/-- What an action does to connections, before what is no longer kept is let go: nothing, or what a
shutdown or a call whose connection opens does. -/
inductive Deed (g : Gateway) : Action → Gateway → Prop
  | other {a : Action} {g₁ : Gateway} (news : Notes (·.ofConnection = false) g g₁) : Deed g a g₁
  | shutDown {c : CallId} {k : Call} {env : Surroundings} (found : g.call? c = some k)
      (phase : k.phase = .queued .shutdown) :
      Deed g (.run c env) ((g.enter (.locked c)).shutDown k)
  | completeOpen {c : CallId} {k : Call} {env : Surroundings} {l : Leader} {openedAt : Option Nat}
      (found : g.call? c = some k) (phase : k.phase = .opening l openedAt) :
      Deed g (.run c env) (g.completeOpen env k l)

theorem deed_of_course (h : Course g a g₁) : Deed g a g₁ := by
  cases h with
  | start hf hh ho => exact .other (notes_enter (g := { g with calls := g.calls ++ [_] }) rfl)
  | @abandon c k _ _ =>
    exact .other (notes_enter (g := setPhase { g with lock := g.lock.withdraw c } c .abandoned) rfl)
  | around => exact .other (.refl g)
  | advance => exact .other (.refl g)
  | @run c k env hk hr =>
    obtain rfl := id_of_call? hk
    cases hp : k.phase with
    | queued u =>
      cases u with
      | elect l =>
        have he : g.proceed env k = (g.enter (.locked k.id)).consider env k l := by
          unfold proceed
          rw [hp]
        rw [he]
        have hlocked : Notes (·.ofConnection = false) g (g.enter (.locked k.id)) := notes_enter rfl
        exact .other (hlocked.trans (notes_consider _ env k l))
      | shutdown =>
        have he : g.proceed env k = (g.enter (.locked k.id)).shutDown k := by
          unfold proceed
          rw [hp]
        rw [he]
        exact .shutDown hk hp
    | opening l openedAt =>
      have he : g.proceed env k = g.completeOpen env k l := by
        unfold proceed
        rw [hp]
      rw [he]
      exact .completeOpen hk hp
    | created =>
      cases hu : k.task.update? with
      | none =>
        exact .other (aside_proceed env (by rw [hp]; rfl) fun _ => hu).notes
      | some u =>
        obtain ⟨line, he⟩ := exists_begin_eq (g := g) hu
        have he : g.proceed env k = (g.logIfAny line).requestLock k u := by
          unfold proceed
          rw [hp]
          exact he
        rw [he]
        refine .other ?_
        have hlogged : Notes (·.ofConnection = false) g (g.logIfAny line) := by
          cases line with
          | none => exact .refl g
          | some line => exact notes_log (fun _ => rfl) line
        exact hlogged
    | _ => exact .other (aside_proceed env (by rw [hp]; rfl) (by simp [hp])).notes

end LeaderRouting.Gateway
