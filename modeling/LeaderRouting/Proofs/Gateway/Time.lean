import LeaderRouting.Proofs.Gateway.Ownership

/-!
How time passes.  No step goes beyond the next timer of a call, and while no call can go on, time can.
-/

namespace LeaderRouting.Gateway

variable {g g₁ : Gateway} {a : Action} {c : CallId} {k : Call} {due : Nat}

/-- No step goes beyond a timer. -/
theorem Course.now_le_timer (h : Course g a g₁) (hk : g.call? c = some k)
    (ht : timer? k = some due) (hn : g.now ≤ due) : g₁.now ≤ due := by
  cases h with
  | run hd hr => exact (turn_proceed _ hd hr).now ▸ hn
  | advance _ _ quiet => simpa [isQuietUntil, ht] using quiet k (mem_of_call? hk)
  | _ => exact hn

theorem Course.now_le (h : Course g a g₁) : g.now ≤ g₁.now := by
  cases h with
  | run hd hr => exact (turn_proceed _ hd hr).now ▸ Nat.le_refl _
  | advance later => exact Nat.le_of_lt later
  | _ => exact Nat.le_refl g.now

/-- Time does not pass while a call can go on. -/
theorem Course.now_eq (h : Course g a g₁) (hk : g.call? c = some k) (hr : g.canRun k = true) :
    g₁.now = g.now := by
  cases h with
  | run hk' hr' => exact (turn_proceed _ hk' hr').now
  | advance _ idle => simp [idle k (mem_of_call? hk)] at hr
  | _ => rfl

theorem Course.settings (h : Course g a g₁) : g₁.settings = g.settings := by
  cases h with
  | run hd hr => exact (turn_proceed _ hd hr).settings
  | _ => rfl

/-- A call that cannot go on has no timer that has gone off. -/
theorem now_lt_timer (h : g.canRun k = false) (ht : timer? k = some due) : g.now < due := by
  unfold canRun at h
  unfold timer? at ht
  cases hp : k.phase with
  | opening l openedAt =>
    simp only [hp] at h ht
    simpa [isDue, ht] using h
  | suspended deadline woken =>
    simp only [hp] at h ht
    simp only [isDue, ht, Bool.or_eq_false_iff, decide_eq_false_iff_not] at h
    exact Nat.lt_of_not_le h.2
  | inFlight f =>
    simp only [hp] at h ht
    cases hr : f.repliedAt <;>
      simp only [hr, isDue, Bool.or_eq_false_iff, decide_eq_false_iff_not, Option.some.injEq] at h ht
        <;> omega
  | _ => simp [hp] at ht

/-- While no call can go on, time can. -/
theorem isSome_advance (h : ∀ k ∈ g.calls, g.canRun k = false) :
    (g.step? (.advance (g.now + 1))).isSome = true := by
  have hquiet : ∀ k ∈ g.calls, isQuietUntil (g.now + 1) k = true := by
    intro k hk
    unfold isQuietUntil
    cases ht : timer? k with
    | none => rfl
    | some due => exact decide_eq_true (now_lt_timer (h k hk) ht)
  have hadvance : g.advance? (g.now + 1) = some { g with now := g.now + 1 } :=
    advance?_eq_some_iff.2 ⟨⟨Nat.lt_succ_self _, h, hquiet⟩, rfl⟩
  simp [step?, act?, hadvance]

end LeaderRouting.Gateway
