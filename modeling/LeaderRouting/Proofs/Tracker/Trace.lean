import LeaderRouting.Proofs.Gateway.Discipline
import LeaderRouting.Proofs.Tracker.Serial
import Mathlib.Data.List.Basic

/-!
What a gateway has done to the tracked leader, read off its journal: the operations that were carried
out, in the order in which the lock served their calls, and the trace that they have left.
-/

namespace LeaderRouting.Gateway

def Fact.refusal? (c : CallId) : Fact → Option TransportError
  | .refused d _ e => if d = c then some e else none
  | _ => none

/-- Why the connection to the call's candidate did not open. -/
def refusal? (g : Gateway) (c : CallId) : Option TransportError :=
  g.facts.findSome? (Fact.refusal? c)

/-- The operation that a call has carried out, if it asked for a change of the tracked leader and has
ended with an answer. -/
def operation? (g : Gateway) (c : CallId) : Option Operation :=
  (g.call? c).bind fun k => k.task.update?.bind fun u =>
    k.phase.answer?.map fun _ => ⟨c, k.task, u, g.refusal? c⟩

/-- The operations of all calls that have ended with an answer, in the order in which the lock served
the calls. -/
def completed (g : Gateway) : List Operation :=
  g.served.filterMap g.operation?

/-- Whether a fact belongs to the trace, where the lock has served the given calls. -/
def Fact.isTraced (served : List CallId) : Fact → Bool
  | .opened _ _ _ | .refused _ _ _ | .published _ | .closed _ _ => true
  | .answered c _ => served.contains c
  | _ => false

/-- What has happened to connections and to the published value, and the answers of the calls that
the lock has served. -/
def trace (g : Gateway) : List Fact :=
  g.facts.filter (Fact.isTraced g.served)

/-- A gateway as far as the tracked leader goes. -/
def tracked (g : Gateway) : Serial where
  writer := g.writer
  value := g.channel.value
  connections := g.connections
  trace := g.trace

variable {g g₁ g' : Gateway} {c : CallId} {f : Fact} {k : Call}

/-! ### The trace -/

theorem served_enter (hf : f.locked? = none) : (g.enter f).served = g.served := by
  simp [served, facts_enter, hf]

theorem trace_enter (hf : f.locked? = none) :
    (g.enter f).trace = g.trace ++ if f.isTraced g.served then [f] else [] := by
  unfold trace
  rw [served_enter hf, facts_enter, List.filter_append]
  cases ht : f.isTraced g.served <;> simp [ht]

theorem tracked_enter (hf : f.locked? = none) (ht : f.isTraced g.served = true) :
    (g.enter f).tracked = g.tracked.note f := by
  unfold tracked Serial.note
  rw [trace_enter hf, if_pos ht]
  rfl

theorem tracked_enter_of_not (hf : f.locked? = none) (ht : f.isTraced g.served = false) :
    (g.enter f).tracked = g.tracked := by
  unfold tracked
  rw [trace_enter hf, if_neg (by simp [ht]), List.append_nil]
  rfl

@[simp] theorem tracked_log (g : Gateway) (line : LogLine) : (g.log line).tracked = g.tracked :=
  tracked_enter_of_not rfl rfl

@[simp] theorem tracked_logIfAny (g : Gateway) (line : Option LogLine) :
    (g.logIfAny line).tracked = g.tracked := by
  cases line with
  | none => rfl
  | some line => exact tracked_log g line

/-- The answer of a call belongs to the trace if the lock has served the call. -/
theorem tracked_finish (g : Gateway) (c : CallId) (a : Answer) :
    (g.finish c a).tracked =
      if c ∈ g.served then g.tracked.note (.answered c a) else g.tracked := by
  have hs : ((g.logIfAny a.line?).setPhase c (.finished a)).served = g.served :=
    served_congr (keeps_logIfAny a.line?).callFacts
  have ht : ((g.logIfAny a.line?).setPhase c (.finished a)).tracked = g.tracked :=
    tracked_logIfAny g a.line?
  unfold finish
  split_ifs with hc
  · rw [tracked_enter rfl (by simpa [Fact.isTraced, hs] using hc), ht]
  · rw [tracked_enter_of_not rfl (by simpa [Fact.isTraced, hs] using hc), ht]

/-- Being served leaves no trace, as long as the call has not been answered. -/
theorem tracked_locked (hc : ∀ a, Fact.answered c a ∉ g.facts) :
    (g.enter (.locked c)).tracked = g.tracked := by
  have ht : (g.enter (.locked c)).trace = g.trace := by
    have hs : (g.enter (.locked c)).served = g.served ++ [c] := by
      simp [served, facts_enter, Fact.locked?]
    unfold trace
    rw [hs, facts_enter, List.filter_append]
    simp only [List.filter_cons, Fact.isTraced, Bool.false_eq_true, if_false, List.filter_nil,
      List.append_nil]
    refine List.filter_congr fun f hf => ?_
    cases f with
    | answered d a =>
      have hd : d ≠ c := fun he => hc a (he ▸ hf)
      simp [Fact.isTraced, hd]
    | _ => rfl
  unfold tracked
  rw [ht]
  rfl

/-! ### Changes of the tracked leader -/

theorem tracked_publish (ha : g.channel.abandoned = false) (v : Published) :
    (g.publish v).tracked = g.tracked.publish v := by
  have hp : g.publish v =
      ({ g with channel := g.channel.publish v }.enter (.published v)).wakeAll := by
    simp [publish, hasSubscriber, ha]
  have hw : ∀ g : Gateway, g.wakeAll.tracked = g.tracked := fun _ => rfl
  rw [hp, hw, tracked_enter rfl rfl]
  rfl

theorem tracked_install (ha : g.channel.abandoned = false) (s : Snapshot) :
    (g.install s).tracked = g.tracked.install s :=
  tracked_publish (g := { g with writer := { g.writer with current := some s } }) ha (.elected s)

theorem tracked_closeConnection (g : Gateway) (n : Nat) :
    (g.closeConnection n).tracked = g.tracked.close n := by
  unfold closeConnection Serial.close connection?
  cases h : g.connections[n]? with
  | none => simp [tracked, h]
  | some k =>
    simp only [tracked, h]
    split_ifs
    · rfl
    · exact (tracked_log _ _).trans
        (tracked_enter (g := { g with connections := g.connections.set n k.close })
          (f := .closed n k.member) rfl rfl)

theorem tracked_closePrevious (g : Gateway) (previous : Option Snapshot) :
    (g.closePrevious previous).tracked = g.tracked.closePrevious previous := by
  cases previous with
  | none => rfl
  | some s => exact tracked_closeConnection g s.connection

/-! ### Completed operations -/

theorem refusal?_eq (g : Gateway) (c : CallId) :
    g.refusal? c = g.callFacts.findSome? (Fact.refusal? c) := by
  unfold refusal? callFacts
  rw [← List.head?_filterMap, ← List.head?_filterMap, List.filterMap_filter]
  congr 2
  funext f
  cases f <;> rfl

theorem refusal?_congr (h : g'.callFacts = g.callFacts) (c : CallId) :
    g'.refusal? c = g.refusal? c := by
  rw [refusal?_eq, refusal?_eq, h]

def Standing.answer? : Standing → Option Answer
  | finished a => some a
  | _ => none

theorem operation?_eq (g : Gateway) (c : CallId) :
    g.operation? c = (g.standing? c).bind fun r => r.1.update?.bind fun u =>
      r.2.answer?.map fun _ => ⟨c, r.1, u, g.refusal? c⟩ := by
  unfold operation? standing?
  cases g.call? c with
  | none => rfl
  | some k => cases hp : k.phase <;> simp [hp, Phase.answer?, Phase.standing, Standing.answer?]

theorem operation?_congr (hs : g'.standing? c = g.standing? c)
    (hr : g'.refusal? c = g.refusal? c) : g'.operation? c = g.operation? c := by
  rw [operation?_eq, operation?_eq, hs, hr]

theorem completed_congr (hs : g'.served = g.served)
    (ho : ∀ c ∈ g.served, g'.operation? c = g.operation? c) : g'.completed = g.completed := by
  unfold completed
  rw [hs]
  exact List.filterMap_congr ho

end LeaderRouting.Gateway
