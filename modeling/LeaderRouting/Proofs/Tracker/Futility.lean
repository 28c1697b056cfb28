import LeaderRouting.Proofs.Tracker.Sequence

/-!
Operations that do nothing to the tracked leader.  Those that come after them do the same, and fail or
succeed as before, if they are left out.
-/

namespace LeaderRouting

open Gateway

/-- Whether a notice that came to this did nothing to the tracked leader. -/
def isFruitless : Except NoticeError Verdict → Bool
  | .ok .newLeader | .ok .termRefreshed => false
  | _ => true

/-- What a notice is told says whether it did anything. -/
theorem Notice.isFruitless_of_report {n : Notice} {r r' : Except NoticeError Verdict}
    (h : n.report r = n.report r') (hr : isFruitless r = true) : isFruitless r' = true := by
  have hfruitful : ∀ v, v = .newLeader ∨ v = .termRefreshed → n.report r ≠ n.report (.ok v) := by
    rintro v (rfl | rfl) he <;> cases n <;> rcases r with (_ | _) | (_ | _) <;>
      first | (cases hr; done) | cases he
  match r' with
  | .error _ | .ok .stale | .ok .noLeader | .ok .closed => rfl
  | .ok .newLeader => exact absurd h (hfruitful _ (.inl rfl))
  | .ok .termRefreshed => exact absurd h (hfruitful _ (.inr rfl))

/-- Whether a connection is opened or closed, or a value is published. -/
def Gateway.Fact.isEvent : Fact → Bool
  | .opened _ _ _ | .published _ | .closed _ _ => true
  | _ => false

namespace Serial

/-- Whether two states are the same, with the connections opened and closed and the values published on
the way. -/
structure Same (t t' : Serial) : Prop where
  writer : t'.writer = t.writer
  value : t'.value = t.value
  connections : t'.connections = t.connections
  events : t'.trace.filter Fact.isEvent = t.trace.filter Fact.isEvent

variable {t t' t₁ : Serial} {op : Operation} {ops : List Operation} {keep : Operation → Bool}

namespace Same

theorem refl (t : Serial) : Same t t :=
  ⟨rfl, rfl, rfl, rfl⟩

theorem symm (h : Same t t') : Same t' t :=
  ⟨h.writer.symm, h.value.symm, h.connections.symm, h.events.symm⟩

theorem trans (h : Same t t') (h₁ : Same t' t₁) : Same t t₁ :=
  ⟨h₁.writer.trans h.writer, h₁.value.trans h.value, h₁.connections.trans h.connections,
    h₁.events.trans h.events⟩

theorem note (h : Same t t') (f : Fact) : Same (t.note f) (t'.note f) where
  writer := h.writer
  value := h.value
  connections := h.connections
  events := by simp only [Serial.note, List.filter_append, h.events]

/-- What is no event is not seen. -/
theorem note_of_not {f : Fact} (hf : f.isEvent = false) : Same t (t.note f) where
  writer := rfl
  value := rfl
  connections := rfl
  events := by simp [Serial.note, hf]

theorem publish (h : Same t t') (v : Published) : Same (t.publish v) (t'.publish v) :=
  have hv : Same { t with value := v } { t' with value := v } := { h with value := rfl }
  hv.note (.published v)

theorem install (h : Same t t') (s : Snapshot) : Same (t.install s) (t'.install s) :=
  have hw : Same { t with writer := { t.writer with current := some s } }
      { t' with writer := { t'.writer with current := some s } } :=
    { h with writer := by rw [h.writer] }
  hw.publish (.elected s)

theorem close (h : Same t t') (n : Nat) : Same (t.close n) (t'.close n) := by
  unfold Serial.close
  rw [h.connections]
  split
  · exact h
  · split_ifs
    · exact h
    next k _ _ =>
      have hk : Same { t with connections := t.connections.set n k.close }
          { t' with connections := t.connections.set n k.close } := { h with connections := rfl }
      exact hk.note (.closed n k.member)

theorem closePrevious (h : Same t t') (previous : Option Snapshot) :
    Same (t.closePrevious previous) (t'.closePrevious previous) := by
  cases previous with
  | none => exact h
  | some s => exact h.close s.connection

theorem connect (h : Same t t') (c : CallId) (l : Leader) :
    Same (t.connect c l) (t'.connect c l) := by
  unfold Serial.connect
  dsimp only
  have hcurrent : t'.writer.current = t.writer.current := by rw [h.writer]
  rw [h.connections, hcurrent]
  have hk : Same { t with connections := t.connections ++ [⟨l.member, false, false, 0⟩] }
      { t' with connections := t.connections ++ [⟨l.member, false, false, 0⟩] } :=
    { h with connections := rfl }
  exact ((hk.note _).install _).closePrevious t.writer.current

theorem shutDown (h : Same t t') : Same t.shutDown t'.shutDown := by
  unfold Serial.shutDown
  rw [h.writer]
  split_ifs
  · exact h
  · have hw : Same { t with writer := ⟨none, true⟩ } { t' with writer := ⟨none, true⟩ } :=
      { h with writer := rfl }
    exact (hw.publish .closed).closePrevious t.writer.current

/-- An operation does the same to both, and has the same outcome. -/
theorem perform (h : Same t t') (op : Operation) :
    Same (t.perform op).1 (t'.perform op).1 ∧ (t'.perform op).2 = (t.perform op).2 := by
  unfold Serial.perform
  split
  · rw [elect_eq, elect_eq, h.writer]
    split
    · exact ⟨h, rfl⟩
    · exact ⟨h, rfl⟩
    · exact ⟨h.install _, rfl⟩
    · exact ⟨h.note _, rfl⟩
    · exact ⟨h.connect _ _, rfl⟩
  · exact ⟨h.shutDown, rfl⟩

theorem answer (h : Same t t') (op : Operation) : t'.answer op = t.answer op := by
  unfold Serial.answer
  rw [(h.perform op).2]

theorem apply (h : Same t t') (op : Operation) : Same (t.apply op) (t'.apply op) := by
  unfold Serial.apply
  rw [h.answer op]
  exact (h.perform op).1.note _

end Same

/-- Whether an operation, done here, would do nothing to the tracked leader. -/
def IsFruitless (t : Serial) (op : Operation) : Prop :=
  (∃ l, op.update = .elect l) ∧ isFruitless ((t.perform op).2.mapError .connect) = true

theorem IsFruitless.same (h : t.IsFruitless op) : Same t (t.apply op) := by
  obtain ⟨⟨l, hl⟩, hr⟩ := h
  have hsame : Same t (t.perform op).1 := by
    unfold perform at hr ⊢
    simp only [hl, elect_eq] at hr ⊢
    generalize t.writer.decide l = d, op.refusal = o at hr ⊢
    cases d with
    | dropped => exact .refl t
    | ignored => exact .refl t
    | renew s => cases hr
    | connect =>
      cases o with
      | none => cases hr
      | some e => exact .note_of_not rfl
  exact hsame.trans (.note_of_not rfl)

theorem Same.letGo (h : Same t t') : Same t.letGo t'.letGo := by
  have hc := h.closePrevious t.writer.current
  unfold Serial.letGo
  rwa [h.writer]

theorem replay_take_succ {n : Nat} (ho : ops[n]? = some op) :
    replay (ops.take (n + 1)) = (replay (ops.take n)).apply op := by
  rw [List.take_add_one, ho]
  exact replay_concat _ _

/-- A higher term succeeds where the candidate can be reached. -/
theorem perform_of_higher {l : Leader} (hl : op.update = .elect l) (hr : op.refusal = none)
    (hc : t.writer.closed = false) (ht : t.writer.term < l.term) :
    ∃ v, (v = Verdict.newLeader ∨ v = .termRefreshed) ∧ (t.perform op).2 = .ok v ∧
      (t.apply op).writer.current.map (·.leader) = some l := by
  unfold apply perform
  simp only [hl, hr, elect_eq, writer_note]
  rcases t.writer.decide_cases l with ⟨-, he⟩ | ⟨-, -, he⟩ | ⟨s, hd, -, -, hm⟩ | ⟨hd, -, -⟩
  · simp [hc] at he
  · exact absurd he (Term.not_le.2 ht)
  · rw [hd]
    refine ⟨_, .inr rfl, rfl, ?_⟩
    simp [install, publish, note, Snapshot.renew, hm]
  · rw [hd]
    refine ⟨_, .inl rfl, rfl, ?_⟩
    simp

/-- Whether the operations that are not kept would do nothing. -/
def KeepsFruitful (keep : Operation → Bool) (ops : List Operation) : Prop :=
  ∀ n op, ops[n]? = some op → keep op = false → (replay (ops.take n)).IsFruitless op

theorem KeepsFruitful.of_append {later : List Operation} (h : KeepsFruitful keep (ops ++ later)) :
    KeepsFruitful keep ops := by
  intro n op hn hk
  have hlt := (List.getElem?_eq_some_iff.1 hn).1
  have hfruitless := h n op (by rwa [List.getElem?_append_left hlt]) hk
  rwa [List.take_append_of_le_length (Nat.le_of_lt hlt)] at hfruitless

theorem KeepsFruitful.last (h : KeepsFruitful keep (ops ++ [op])) (hk : keep op = false) :
    (replay ops).IsFruitless op := by
  have hlast := h ops.length op (by simp) hk
  rwa [List.take_left] at hlast

/-- Operations that do nothing can be left out. -/
theorem same_replay_filter (hf : KeepsFruitful keep ops) :
    Same (replay ops) (replay (ops.filter keep)) := by
  induction ops using List.reverseRecOn with
  | nil => exact .refl _
  | append_singleton ops op ih =>
    have hearlier := ih hf.of_append
    rw [replay_concat, List.filter_append]
    cases hk : keep op with
    | true =>
      simp only [List.filter_cons, hk, if_true, List.filter_nil, replay_concat]
      exact hearlier.apply op
    | false =>
      simp only [List.filter_cons, hk, Bool.false_eq_true, if_false, List.filter_nil,
        List.append_nil]
      exact (hf.last hk).same.symm.trans hearlier

/-- Without those that do nothing, the others fail or succeed as they did. -/
theorem IsConsistent.filter (h : IsConsistent ops) (hf : KeepsFruitful keep ops) :
    IsConsistent (ops.filter keep) := by
  induction ops using List.reverseRecOn with
  | nil => exact h
  | append_singleton ops op ih =>
    obtain ⟨hearlier, hop⟩ := isConsistent_concat.1 h
    have hkept := ih hearlier hf.of_append
    rw [List.filter_append]
    cases hk : keep op with
    | false => simpa [hk] using hkept
    | true =>
      simp only [List.filter_cons, hk, if_true, List.filter_nil]
      refine isConsistent_concat.2 ⟨hkept, ?_⟩
      rw [((same_replay_filter hf.of_append).perform op).2]
      exact hop

end Serial

end LeaderRouting
