import LeaderRouting.Proofs.Tracker.Release

/-!
A call that asks for a change of the tracked leader ends with an answer only after the lock has served
it.
-/

namespace LeaderRouting.Gateway

/-- Whether a call asks for no change of the tracked leader, or has yet to be served, or was. -/
def Call.IsAttended (served : List CallId) (k : Call) : Prop :=
  k.task.update? = none ∨ k.phase = .created ∨ k.phase.contends = true ∨ k.phase = .abandoned ∨
    k.id ∈ served

def Attended (g : Gateway) : Prop :=
  ∀ c k, g.call? c = some k → k.IsAttended g.served

variable {g g₁ g' : Gateway} {c : CallId} {k : Call} {cs cs' : List CallId}

theorem Call.IsAttended.mono (h : k.IsAttended cs) (hs : cs ⊆ cs') : k.IsAttended cs' :=
  h.imp_right <| Or.imp_right <| Or.imp_right <| Or.imp_right (hs ·)

theorem Call.IsAttended.wake (h : k.IsAttended cs) : k.wake.IsAttended cs := by
  rcases h with h | h | h | h | h
  · exact .inl h
  · exact .inr (.inl (by simp [Call.wake, h, Phase.wake]))
  · exact .inr (.inr (.inl (by simp [Call.wake, h])))
  · exact .inr (.inr (.inr (.inl (by simp [Call.wake, h, Phase.wake]))))
  · exact .inr (.inr (.inr (.inr h)))

/-- Nobody is forgotten once served. -/
theorem UpToAnswer.served_subset (h : UpToAnswer c (Turn c g) g') : g.served ⊆ g'.served := by
  obtain ⟨news, hn, -⟩ := h.facts
  unfold served
  rw [hn, List.filterMap_append]
  exact List.subset_append_left _ _

theorem Attended.turn (h : g.Attended) (ht : UpToAnswer c (Turn c g) g')
    (hc : ∀ k, g'.call? c = some k → k.IsAttended g'.served) : g'.Attended := by
  intro d k' hk'
  by_cases hd : d = c
  · exact hc k' (hd ▸ hk')
  · have hs := ht.served_subset
    rcases ht.others hd with he | he <;> rw [hk'] at he
    · exact (h d k' he.symm).mono hs
    · obtain ⟨k, hk, rfl⟩ := Option.map_eq_some_iff.1 he.symm
      exact ((h d k hk).mono hs).wake

theorem Attended.turn_of_served (h : g.Attended) (ht : UpToAnswer c (Turn c g) g')
    (hc : c ∈ g'.served) : g'.Attended :=
  h.turn ht fun k hk => .inr (.inr (.inr (.inr (by rwa [id_of_call? hk]))))

theorem Attended.aside (h : g.Attended) (hk : g.call? c = some k) (hf : k.phase.contends = false)
    (hu : k.phase.ended = false) (hb : k.phase = .created → k.task.update? = none)
    (ha : UpToAnswer c (Aside c g) g') : g'.Attended := by
  have ht : UpToAnswer c (Turn c g) g' := ha.mono fun _ h => h.toTurn
  refine h.turn ht fun k' hk' => ?_
  obtain ⟨k₀, hk₀, hrole⟩ := exists_call?_of_roles ht.roles hk'
  obtain rfl := Option.some.inj (hk.symm.trans hk₀)
  simp only [Call.role, Prod.mk.injEq] at hrole
  obtain ⟨hid, htask, -⟩ := hrole
  rcases h c k hk with hn | hn | hn | hn | hn
  · exact .inl (htask ▸ hn)
  · exact .inl (htask ▸ hb hn)
  · simp [hf] at hn
  · simp [hn, Phase.ended] at hu
  · exact .inr (.inr (.inr (.inr (hid ▸ ht.served_subset hn))))

theorem Attended.transition (h : g.Attended) (hd : g.Disciplined) (ht : Transition g g') :
    g'.Attended := by
  cases ht with
  | @start c handle task seen hf _ _ =>
    intro d k hk
    rw [served_congr (callFacts_enrol g _)]
    rw [call?_enrol, Option.or_eq_some_iff] at hk
    rcases hk with hk | ⟨-, hk⟩
    · exact h d k hk
    · obtain rfl := Option.some.inj (Option.ite_none_right_eq_some.1 hk).2
      exact .inr (.inl rfl)
  | around => exact h
  | @abandon c k hk _ =>
    intro d k' hk'
    rw [served_congr (callFacts_giveUp g c)]
    rw [call?_giveUp] at hk'
    split_ifs at hk'
    · obtain ⟨k₀, -, rfl⟩ := Option.map_eq_some_iff.1 hk'
      exact .inr (.inr (.inr (.inl rfl)))
    · exact h d k' hk'
  | aside env hk hf hu hb =>
    obtain rfl := id_of_call? hk
    exact h.aside hk hf hu hb (aside_proceed env hf hb)
  | @request c k u line hk hp hu =>
    refine h.turn (.inl (turn_request hk line u)) fun k' hk' => ?_
    obtain rfl := id_of_call? hk
    have hphase := call?_setPhase_self
      { g.logIfAny line with lock := (g.logIfAny line).lock.request k.id } k.id (.queued u)
    have hphase := hphase.symm.trans hk'
    obtain ⟨k₀, -, rfl⟩ := Option.map_eq_some_iff.1 hphase
    exact .inr (.inr (.inl rfl))
  | @consider c k l env hk hp _ =>
    obtain rfl := id_of_call? hk
    refine h.turn_of_served (turn_consider (turn_enter (f := .locked k.id) rfl) env l) ?_
    exact (turn_consider (.refl k.id (g.enter (.locked k.id))) env l).served_subset
      (by simp [served, facts_enter, Fact.locked?])
  | @shutDown c k hk hp _ =>
    obtain rfl := id_of_call? hk
    refine h.turn_of_served (turn_shutDown (turn_enter (f := .locked k.id) rfl)) ?_
    exact (turn_shutDown (.refl k.id (g.enter (.locked k.id)))).served_subset
      (by simp [served, facts_enter, Fact.locked?])
  | @completeOpen c k l openedAt env hk hp =>
    obtain rfl := id_of_call? hk
    have hs : g.standing? k.id = some (k.task, .opening l) := standing?_of_phase hk hp
    refine h.turn_of_served (turn_completeOpen env l) ((turn_completeOpen env l).served_subset ?_)
    exact List.mem_of_getLast? (hd.opening k.id k.task l hs).2.2.2

theorem Attended.release (h : g.Attended) : g.release.Attended := by
  intro c k hk
  rw [served_congr (keeps_release g).callFacts]
  rcases call?_release g c with he | he <;> rw [hk] at he
  · exact h c k he.symm
  · obtain ⟨k₀, hk₀, rfl⟩ := Option.map_eq_some_iff.1 he.symm
    exact (h c k₀ hk₀).wake

end LeaderRouting.Gateway
