import LeaderRouting.Proofs.Tracker.Deeds
import LeaderRouting.Proofs.Tracker.Linearizability
import Mathlib.Data.List.Perm.Basic

/-!
The highest term wins.  Once all announcements are processed, the tracked leader is the one with the
highest term among those that could be reached, whatever the order and the interleaving were; of
several with that term it is the one that was processed first.
-/

namespace LeaderRouting

open Gateway

/-- Whether no leader in the list has a higher term, and none before this one has the same. -/
def Leader.Wins (l : Leader) (ls : List Leader) : Prop :=
  ∃ earlier later, ls = earlier ++ l :: later ∧ (∀ e ∈ earlier, e.term < l.term) ∧
    ∀ e ∈ later, e.term ≤ l.term

/-- Whether a leader can be tracked if the connections to these members are refused. -/
def Leader.electable (refused : Member → Bool) (l : Leader) : Bool :=
  .zero < l.term && !refused l.member

theorem Leader.electable_iff {refused : Member → Bool} {l : Leader} :
    l.electable refused = true ↔ .zero < l.term ∧ refused l.member = false := by
  simp [electable]

/-- Whether all leaders with the highest term are one member. -/
def Unanimous (ls : List Leader) : Prop :=
  ∀ l ∈ ls, ∀ l' ∈ ls, (∀ e ∈ ls, e.term ≤ l.term) → l'.term = l.term → l'.member = l.member

/-- Whether the leader is the one that wins, and there is none only if there is nobody to win. -/
def Leads (o : Option Leader) (ls : List Leader) : Prop :=
  (∀ l, o = some l → l.Wins ls) ∧ (o = none → ls = [])

variable {l l' : Leader} {ls : List Leader} {o : Option Leader}

theorem Leader.Wins.mem (h : l.Wins ls) : l ∈ ls := by
  obtain ⟨earlier, later, rfl, -⟩ := h
  simp

theorem Leader.Wins.le (h : l.Wins ls) : ∀ e ∈ ls, e.term ≤ l.term := by
  obtain ⟨earlier, later, rfl, he, hl⟩ := h
  intro e hm
  rcases List.mem_append.1 hm with hm | hm
  · exact Term.le_of_lt (he e hm)
  · rcases List.mem_cons.1 hm with rfl | hm
    · exact Term.le_refl _
    · exact hl e hm

/-- Of two winners neither can come before the other. -/
theorem Leader.Wins.unique (h : l.Wins ls) (h' : l'.Wins ls) : l = l' := by
  have hle := h.le l' h'.mem
  have hle' := h'.le l h.mem
  obtain ⟨xs, ys, rfl, hx, -⟩ := h
  obtain ⟨xs', ys', he, hx', -⟩ := h'
  rcases List.append_eq_append_iff.1 he with ⟨between, rfl, hr⟩ | ⟨between, rfl, hr⟩
  · cases between with
    | nil => exact (List.cons.inj hr).1
    | cons e between =>
      obtain ⟨rfl, -⟩ := List.cons.inj hr
      exact absurd hle (Term.not_le.2 (hx' l (by simp)))
  · cases between with
    | nil => exact (List.cons.inj hr).1.symm
    | cons e between =>
      obtain ⟨rfl, -⟩ := List.cons.inj hr
      exact absurd hle' (Term.not_le.2 (hx l' (by simp)))

theorem Leader.wins_concat (h : ∀ e ∈ ls, e.term < l.term) : l.Wins (ls ++ [l]) :=
  ⟨ls, [], rfl, h, by simp⟩

theorem Leader.Wins.concat (h : l.Wins ls) (hle : l'.term ≤ l.term) : l.Wins (ls ++ [l']) := by
  obtain ⟨earlier, later, rfl, he, hl⟩ := h
  refine ⟨earlier, later ++ [l'], by simp, he, fun e hm => ?_⟩
  rcases List.mem_append.1 hm with hm | hm
  · exact hl e hm
  · obtain rfl := List.mem_singleton.1 hm
    exact hle

theorem Leads.eq_some_iff (h : Leads o ls) : o = some l ↔ l.Wins ls := by
  refine ⟨h.1 l, fun hl => ?_⟩
  cases ho : o with
  | none => simpa [h.2 ho] using hl.mem
  | some l' => rw [(h.1 l' ho).unique hl]

theorem Leads.eq_none_iff (h : Leads o ls) : o = none ↔ ls = [] := by
  refine ⟨h.2, fun hn => ?_⟩
  cases ho : o with
  | none => rfl
  | some l => simpa [hn] using (h.1 l ho).mem

/-- Where those with the highest term agree, the order does not matter. -/
theorem Leads.eq_of_perm {o' : Option Leader} {ls' : List Leader} (h : Leads o ls)
    (h' : Leads o' ls') (hp : ls'.Perm ls) (hu : Unanimous ls) : o' = o := by
  cases ho : o with
  | none =>
    rw [h'.eq_none_iff]
    exact List.perm_nil.1 (h.2 ho ▸ hp)
  | some l =>
    cases ho' : o' with
    | none =>
      have hm := (h.1 l ho).mem
      rw [← hp.mem_iff, h'.2 ho'] at hm
      simp at hm
    | some l' =>
      have hl := h.1 l ho
      have hl' := h'.1 l' ho'
      have hm' : l' ∈ ls := hp.mem_iff.1 hl'.mem
      have ht : l'.term = l.term :=
        Term.le_antisymm (hl.le l' hm') (hl'.le l (hp.mem_iff.2 hl.mem))
      have hm := hu l hl.mem l' hm' hl.le ht
      obtain ⟨m, t⟩ := l
      obtain ⟨m', t'⟩ := l'
      simp only at hm ht
      rw [hm, ht]

/-! ### Announcements one after another -/

/-- The leader that is to be tracked, if there is one. -/
def Gateway.Update.candidate? : Update → Option Leader
  | elect l => some l
  | shutdown => none

/-- Whether a connection that was opened or refused is one that was to be. -/
def Gateway.Fact.Agrees (refused : Member → Bool) : Fact → Prop
  | .opened _ _ m => refused m = false
  | .refused _ m _ => refused m = true
  | _ => True

namespace Serial

variable {refused : Member → Bool} {t : Serial} {es : List Leader}

/-- What is tracked under a lower term than a new leader's has won over nobody with that term. -/
theorem term_lt_of_leads (h : Leads (t.writer.current.map (·.leader)) es)
    (hl : t.writer.term < l.term) : ∀ e ∈ es, e.term < l.term := by
  intro e he
  cases hs : t.writer.current with
  | none =>
    rw [h.2 (by simp [hs])] at he
    simp at he
  | some s =>
    have hterm : t.writer.term = s.leader.term := by simp [Writer.term, hs]
    exact Term.lt_of_le_of_lt ((h.1 s.leader (by simp [hs])).le e he) (hterm ▸ hl)

theorem leads_of_stale (h : Leads (t.writer.current.map (·.leader)) es)
    (hl : l.term ≤ t.writer.term) :
    Leads (t.writer.current.map (·.leader)) (es ++ [l].filter (·.electable refused)) := by
  cases he : l.electable refused with
  | false => simpa [he] using h
  | true =>
    have hz : .zero < l.term := (Leader.electable_iff.1 he).1
    cases hs : t.writer.current with
    | none =>
      have hterm : t.writer.term = .zero := by simp [Writer.term, hs]
      exact absurd (hterm ▸ hl) (Term.not_le.2 hz)
    | some s =>
      have hterm : t.writer.term = s.leader.term := by simp [Writer.term, hs]
      have hw := (h.1 s.leader (by simp [hs])).concat (hterm ▸ hl)
      exact ⟨by simpa [he] using hw, by simp⟩

/-- An announcement is measured against the tracked leader, or it is in vain. -/
theorem leads_elect (hcoherent : t.Coherent) (hc : t.writer.closed = false)
    (h : Leads (t.writer.current.map (·.leader)) es)
    (hes : ∀ e ∈ es, e.electable refused = true) (c : CallId) (refusal : Option TransportError)
    (hf : ∀ f ∈ (t.elect c l refusal).1.trace, f.Agrees refused) :
    (t.elect c l refusal).1.writer.closed = false ∧
      Leads ((t.elect c l refusal).1.writer.current.map (·.leader))
        (es ++ [l].filter (·.electable refused)) := by
  have hwon : t.writer.term < l.term → refused l.member = false →
      Leads (some l) (es ++ [l].filter (·.electable refused)) := by
    intro hl hr
    have he : l.electable refused = true := Leader.electable_iff.2 ⟨Term.zero_lt_of_lt hl, hr⟩
    exact ⟨by simpa [he] using Leader.wins_concat (term_lt_of_leads h hl), by simp⟩
  unfold elect at hf ⊢
  rw [if_neg (by simp [hc])] at hf ⊢
  by_cases hl : l.term ≤ t.writer.term
  · rw [if_pos hl]
    exact ⟨hc, leads_of_stale h hl⟩
  · rw [if_neg hl] at hf ⊢
    have hl : t.writer.term < l.term := Term.not_le.1 hl
    cases hs : t.writer.current.filter (·.leader.member = l.member) with
    | some s =>
      -- The tracked member was connected to before.
      obtain ⟨hs, hm⟩ := Option.filter_eq_some_iff.1 hs
      have hm : s.leader.member = l.member := by simpa using hm
      have hr := (Leader.electable_iff.1 (hes s.leader (h.1 s.leader (by simp [hs])).mem)).2
      exact ⟨hc, hwon hl (hm ▸ hr)⟩
    | none =>
      simp only [hs] at hf ⊢
      cases refusal with
      | some e =>
        have hr : refused l.member = true := hf (.refused c l.member e) (by simp [note])
        exact ⟨hc, by simpa [Leader.electable, hr] using h⟩
      | none =>
        have hr : refused l.member = false :=
          hf (.opened c t.connections.length l.member) (by simp [trace_connect hcoherent])
        rw [writer_connect]
        exact ⟨hc, hwon hl hr⟩

/-- The leaders that the operations announce. -/
def candidates (ops : List Operation) : List Leader :=
  ops.filterMap (·.update.candidate?)

theorem leads_replay (ops : List Operation) (hops : ∀ op ∈ ops, op.update ≠ .shutdown)
    (hf : ∀ f ∈ (replay ops).trace, f.Agrees refused) :
    (replay ops).writer.closed = false ∧ Leads ((replay ops).writer.current.map (·.leader))
      ((candidates ops).filter (·.electable refused)) := by
  induction ops using List.reverseRecOn with
  | nil => exact ⟨rfl, by simp [replay], fun _ => rfl⟩
  | append_singleton ops op ih =>
    rw [replay_concat] at hf ⊢
    obtain ⟨hc, h⟩ := ih (fun op' hop => hops op' (List.mem_append_left _ hop))
      fun f hm => hf f (trace_subset_apply _ _ hm)
    have hop := hops op (by simp)
    obtain ⟨c, task, u, refusal⟩ := op
    cases u with
    | shutdown => exact absurd rfl hop
    | elect l =>
      have hsplit : (candidates (ops ++ [⟨c, task, .elect l, refusal⟩])).filter
          (·.electable refused) = (candidates ops).filter (·.electable refused) ++
            [l].filter (·.electable refused) := by
        simp [candidates, Update.candidate?]
      rw [hsplit]
      refine leads_elect (coherent_replay ops) hc h ?_ c refusal fun f hm => ?_
      · exact fun e he => (List.mem_filter.1 he).2
      · exact hf f (List.mem_append_left _ hm)

end Serial

namespace Gateway

/-- The leader that the task announces, if it announces one. -/
def Task.candidate? (task : Task) : Option Leader :=
  task.update?.bind Update.candidate?

/-- The leaders that were announced, each as often as it was. -/
def announced (g : Gateway) : List Leader :=
  g.calls.filterMap (·.task.candidate?)

/-- The leaders that were announced, in the order in which the lock served the announcements. -/
def processed (g : Gateway) : List Leader :=
  g.served.filterMap fun c => (g.call? c).bind (·.task.candidate?)

/-- Whether connections to these members are refused at any time, and no others. -/
def Steady (refused : Member → Bool) (actions : List Action) : Prop :=
  ∀ c env, .run c env ∈ actions → ∀ m, (env.refusal m).isSome = refused m

/-- Whether a run without a shutdown has come to a state in which all announcements are processed,
none of them given up, and whether the same members have refused connections all the time. -/
structure Settled (refused : Member → Bool) (g : Gateway) : Prop where
  run : ∃ settings handles actions, Steady refused actions ∧
    (create settings handles).run? actions = some g
  unshut : ∀ k ∈ g.calls, k.task ≠ .shutdown
  done : ∀ k ∈ g.calls, k.task.candidate?.isSome = true → k.phase.answer?.isSome = true

variable {g g₁ : Gateway} {a : Action} {refused : Member → Bool} {c : CallId} {k : Call}

theorem Fact.agrees_of_not_ofConnection {f : Fact} (h : f.ofConnection = false) :
    f.Agrees refused := by
  cases f <;> trivial

theorem notes_agrees_of_course (h : Course g a g₁)
    (hs : ∀ c env, a = .run c env → ∀ m, (env.refusal m).isSome = refused m) :
    Notes (Fact.Agrees refused) g g₁ := by
  have hplain : ∀ f : Fact, f.ofConnection = false → f.Agrees refused := fun _ =>
    Fact.agrees_of_not_ofConnection
  cases deed_of_course h with
  | other hn => exact hn.mono hplain
  | shutDown hk hp =>
    exact (notes_enter (hplain _ rfl)).trans (notes_shutDown hplain (fun _ _ => trivial) _ _)
  | @completeOpen c k env l openedAt hk hp =>
    have hr := hs c env rfl l.member
    refine notes_completeOpen hplain (fun _ _ => trivial) ?_ ?_ g k
    · intro _ _ he
      exact (hr.symm.trans (by simp [he]) : refused l.member = false)
    · intro _ e he
      exact (hr.symm.trans (by simp [he]) : refused l.member = true)

theorem agrees_of_run {settings : Settings} {handles : List Handle} {actions : List Action}
    (hs : Steady refused actions) (h : (create settings handles).run? actions = some g) :
    ∀ f ∈ g.facts, f.Agrees refused := by
  refine run?_induction (P := fun g => ∀ f ∈ g.facts, f.Agrees refused) ?_ ?_ h
  · simp [create, facts]
  · intro a ha g₁ g₂ hg hc f hf
    have hn := notes_agrees_of_course hc fun c env he => hs c env (he ▸ ha)
    have hr : Notes (Fact.Agrees refused) g₂ g₂.release :=
      notes_release (fun _ => trivial) (fun _ _ => trivial) g₂
    exact ((hn.trans hr).facts hf).elim (hg f) id

/-! ### What is processed -/

theorem Settled.reachable (h : g.Settled refused) : g.Reachable := by
  obtain ⟨settings, handles, actions, -, hr⟩ := h.run
  exact ⟨settings, handles, actions, hr⟩

theorem update?_of_candidate? {task : Task} {l : Leader} (h : task.candidate? = some l) :
    task.update? = some (.elect l) := by
  obtain ⟨u, hu, hl⟩ := Option.bind_eq_some_iff.1 h
  cases u with
  | elect l' => rw [hu, Option.some.inj hl]
  | shutdown => simp [Update.candidate?] at hl

theorem Settled.finished (h : g.Settled refused) {l : Leader} (hk : g.call? c = some k)
    (hl : k.task.candidate? = some l) : ∃ a, k.phase = .finished a := by
  have ha := h.done k (mem_of_call? hk) (by simp [hl])
  cases hp : k.phase with
  | finished a => exact ⟨a, rfl⟩
  | _ => simp [hp, Phase.answer?] at ha

/-- What is processed is what is announced, in another order. -/
theorem Settled.perm (h : g.Settled refused) : g.processed.Perm g.announced := by
  have hd := serialized_of_reachable h.reachable
  have hatt := attended_of_reachable h.reachable
  let named (c : CallId) : Option Leader := (g.call? c).bind (·.task.candidate?)
  have hannounced : g.announced = (g.calls.map (·.id)).filterMap named := by
    rw [List.filterMap_map]
    refine List.filterMap_congr fun k hk => ?_
    simp [named, call?_of_mem hd.ids hk]
  have hfilter : ∀ cs : List CallId, cs.filterMap named =
      (cs.filter fun c => (named c).isSome).filterMap named := by
    intro cs
    rw [List.filterMap_filter]
    refine List.filterMap_congr fun c _ => ?_
    cases named c <;> simp
  have hp : (g.served.filter fun c => (named c).isSome).Perm
      ((g.calls.map (·.id)).filter fun c => (named c).isSome) := by
    refine (List.perm_ext_iff_of_nodup (hd.once.filter _) (hd.ids.filter _)).2 fun c => ?_
    simp only [List.mem_filter]
    refine and_congr_left fun hn => ?_
    obtain ⟨l, hl⟩ := Option.isSome_iff_exists.1 hn
    obtain ⟨k, hk, hl⟩ := Option.bind_eq_some_iff.1 hl
    obtain ⟨a, ha⟩ := h.finished hk hl
    have hserved := hatt.mem_served hk (update?_of_candidate? hl) ha
    have hid : c ∈ g.calls.map (·.id) := List.mem_map.2 ⟨k, mem_of_call? hk, id_of_call? hk⟩
    exact ⟨fun _ => hid, fun _ => hserved⟩
  rw [processed, hannounced, hfilter g.served, hfilter (g.calls.map (·.id))]
  exact hp.filterMap named

theorem Settled.candidates_completed (h : g.Settled refused) :
    Serial.candidates g.completed = g.processed := by
  unfold Serial.candidates completed processed
  rw [List.filterMap_filterMap]
  refine List.filterMap_congr fun c _ => ?_
  cases hk : g.call? c with
  | none => simp [operation?, hk]
  | some k =>
    cases hu : k.task.update? with
    | none => simp [operation?, hk, hu, Task.candidate?]
    | some u =>
      cases u with
      | shutdown => simp [operation?, hk, hu, Task.candidate?, Update.candidate?]
      | elect l =>
        have hl : k.task.candidate? = some l := by simp [Task.candidate?, hu, Update.candidate?]
        obtain ⟨a, ha⟩ := h.finished hk hl
        simp [operation?, hk, hu, ha, hl, Phase.answer?, Update.candidate?]

/-! ### The leader that is tracked in the end -/

/-- Whether the tracked leader is the first with the highest term of those that could be reached. -/
structure TracksHighest (refused : Member → Bool) (g : Gateway) : Prop where
  processed : g.processed.Perm g.announced
  tracked : g.writer.current.map (·.leader) = g.leader?
  leader : ∀ l, g.leader? = some l ↔ l.Wins (g.processed.filter (·.electable refused))
  /-- Its term is the highest of all that were announced by members that can be tracked. -/
  highest : ∀ l, g.leader? = some l → l ∈ g.announced ∧ l.electable refused = true ∧
    ∀ e ∈ g.announced, e.electable refused = true → e.term ≤ l.term
  vacant : g.leader? = none ↔ ∀ e ∈ g.announced, e.electable refused = false
  /-- The same announcements in any other order lead to the same leader, if they name one member under
  the highest term. -/
  order : ∀ g' : Gateway, g'.Settled refused → g'.announced.Perm g.announced →
    Unanimous (g.announced.filter (·.electable refused)) → g'.leader? = g.leader?

theorem leader?_eq (hg : g.Reachable) : g.writer.current.map (·.leader) = g.leader? := by
  have h := serialized_of_reachable hg
  unfold leader?
  cases hs : g.writer.current with
  | some s => simp [(h.elected_iff s).2 hs, Published.snapshot?]
  | none =>
    cases hv : g.channel.value with
    | elected s => simp [(h.elected_iff s).1 hv] at hs
    | _ => rfl

theorem Settled.leads (h : g.Settled refused) :
    Leads g.leader? (g.processed.filter (·.electable refused)) := by
  have hs := serialized_of_reachable h.reachable
  obtain ⟨settings, handles, actions, hsteady, hrun⟩ := h.run
  obtain ⟨⟨news, ht, -⟩, -⟩ := hs.adds
  have ht : g.trace = (Serial.replay g.completed).trace ++ news := ht
  have hops : ∀ op ∈ g.completed, op.update ≠ .shutdown := by
    intro op hop hu
    obtain ⟨k, a, hk, -, hupdate, -⟩ := exists_call?_of_completed hop
    rw [hu] at hupdate
    exact h.unshut k (mem_of_call? hk) (Task.eq_shutdown_of_update? hupdate)
  have hfacts : ∀ f ∈ (Serial.replay g.completed).trace, f.Agrees refused := by
    intro f hf
    have hf : f ∈ g.trace := ht ▸ List.mem_append_left _ hf
    exact agrees_of_run hsteady hrun f (List.mem_filter.1 hf).1
  have hl := (Serial.leads_replay g.completed hops hfacts).2
  rwa [← hs.writer, leader?_eq h.reachable, h.candidates_completed] at hl

theorem tracksHighest_of_settled (h : g.Settled refused) : g.TracksHighest refused := by
  have hl := h.leads
  have hmem : ∀ e, e ∈ g.processed.filter (·.electable refused) ↔
      e ∈ g.announced ∧ e.electable refused = true := by
    intro e
    rw [List.mem_filter, h.perm.mem_iff]
  exact {
    processed := h.perm
    tracked := leader?_eq h.reachable
    leader l := hl.eq_some_iff
    highest l hs := by
      have hw := hl.1 l hs
      obtain ⟨hm, he⟩ := (hmem l).1 hw.mem
      exact ⟨hm, he, fun e hm' he' => hw.le e ((hmem e).2 ⟨hm', he'⟩)⟩
    vacant := by
      rw [hl.eq_none_iff, List.filter_eq_nil_iff]
      simp [h.perm.mem_iff]
    order g' h' hp hu := by
      have hfilter := h.perm.filter (·.electable refused)
      have hperm := ((h'.perm.trans hp).trans h.perm.symm).filter (·.electable refused)
      refine hl.eq_of_perm h'.leads hperm ?_
      intro l hl l' hl' hle
      refine hu l (hfilter.mem_iff.1 hl) l' (hfilter.mem_iff.1 hl') fun e he => ?_
      exact hle e (hfilter.mem_iff.2 he) }

/-- Three announcements that wait for each other: a refused one under the highest term, and two under
one term by members that can be reached. -/
def rivalry : List Action :=
  let env := .refusing (·.id = "c")
  let announce (c : CallId) (m : Member) (t : Term) : Action :=
    .start c .tracker (.notice (.direct ⟨m, t⟩)) 0
  [announce 0 (.numbered "c" 3) ⟨9⟩, announce 1 (.numbered "a" 1) ⟨2⟩,
    announce 2 (.numbered "b" 2) ⟨2⟩, .run 2 env, .run 0 env, .run 1 env,
    .run 2 env, .run 2 env, .run 0 env, .run 0 env, .run 1 env]

theorem steady_rivalry : Steady (·.id = "c") rivalry := by
  intro c env hm m
  have he : env = .refusing (·.id = "c") := by
    simp only [rivalry, List.mem_cons, reduceCtorEq, Action.run.injEq, List.not_mem_nil, or_false,
      false_or] at hm
    rcases hm with hm | hm | hm | hm | hm | hm | hm | hm <;> exact hm.2
  rw [he]
  by_cases hc : m.id = "c" <;> simp [Surroundings.refusing, hc]

theorem tracksHighest_of_rivalry :
    ∃ g, (create (.ofOptions {}) [.tracker]).run? rivalry = some g ∧
      g.leader?.map (·.member.id) = some "b" ∧ g.TracksHighest (·.id = "c") :=
  ⟨_, rfl, rfl, tracksHighest_of_settled
    ⟨⟨.ofOptions {}, [.tracker], rivalry, steady_rivalry, rfl⟩, by decide, by decide⟩⟩

end Gateway

end LeaderRouting
