import LeaderRouting.Proofs.Submission.Dealings

/-!
What the error of a request says about its execution.  A caller may take it that the store executed
nothing if the error says so, except where the reply was no answer to the request at all.
-/

namespace LeaderRouting

/-- Whether what came back leaves open whether the store executed the request, and is yet turned into
an error that denies it: a response without a result, bytes that are no response, or a failure of the
connection itself that is no status. -/
def Feedback.isMisread : Feedback → Bool
  | store (.response m) => m.result.isNone
  | store (.garbled _) => true
  | store (.status _) => false
  | connection (.rpc _) => false
  | connection _ => true

namespace Gateway

/-- Whether the store certainly did not execute the operation of the call: nothing was handed over to
a connection, or the store's reply was an error. -/
def IsUnexecuted (g : Gateway) (c : CallId) : Prop :=
  (∀ n m r, .submitted c n m r ∉ g.facts) ∨
    ∃ id message, .replied c (.store (.response ⟨id, some (.error message)⟩)) ∈ g.facts

variable {g : Gateway} {c : CallId} {k : Call} {e : GatewayError}

theorem mem_dealings_iff {f : Fact} (hf : f.ofRequest c = true) :
    f ∈ g.dealings c ↔ f ∈ g.facts := by
  simp [dealings, hf]

theorem isUnexecuted_of_unsent (h : g.dealings c = []) : g.IsUnexecuted c := by
  refine .inl fun n m r hf => ?_
  rw [← mem_dealings_iff (c := c) (by simp [Fact.ofRequest]), h] at hf
  simp at hf

/-- Where a reply was taken, it has to be an error. -/
theorem isUnexecuted_iff_of_reply {n : Nat} {m : Member} {r : Request} {x : Feedback}
    (h : g.dealings c = [.submitted c n m r, .replied c x]) : g.IsUnexecuted c ↔
      ∃ id message, x = .store (.response ⟨id, some (.error message)⟩) := by
  have hs : .submitted c n m r ∈ g.facts :=
    (mem_dealings_iff (c := c) (by simp [Fact.ofRequest])).1 (by simp [h])
  have hr : ∀ y, .replied c y ∈ g.facts ↔ x = y := by
    intro y
    rw [← mem_dealings_iff (c := c) (by simp [Fact.ofRequest]), h]
    simp [eq_comm]
  unfold IsUnexecuted
  simp only [hr]
  exact or_iff_right fun hn => hn n m r hs

theorem Task.failed_inj {task : Task} (h : task.submission?.isSome = true) {e e' : GatewayError}
    (he : task.failed e = task.failed e') : e = e' := by
  cases task with
  | submit s => simpa [failed] using he
  | table op => simpa [failed] using he
  | _ => simp [submission?] at h

theorem Task.delivered_ne_failed {task : Task} (h : task.submission?.isSome = true)
    {payload : Wire.Bytes} {a : Answer} (ha : task.delivered payload = .ok a) :
    a ≠ task.failed e := by
  cases task with
  | submit s =>
    cases hm : s.result.schema.decode payload <;>
      simp only [delivered, hm, Except.map, reduceCtorEq, Except.ok.injEq] at ha
    simp [← ha, failed]
  | table op =>
    cases hm : op.submission.result.schema.decode payload <;>
      simp only [delivered, hm, Except.map, reduceCtorEq, Except.ok.injEq] at ha
    simp [← ha, failed]
  | _ => simp [submission?] at h

/-- An error that follows a reply denies the execution just if the reply was an error of the store, or
is misread. -/
theorem Task.mayHaveExecuted_of_conclusion {task : Task} (h : task.submission?.isSome = true)
    {request : RequestId} {x : Feedback} (he : task.conclusion request x.result = task.failed e) :
    e.mayHaveExecuted = false ↔ x.isMisread = true ∨
      ∃ id message, x = .store (.response ⟨id, some (.error message)⟩) := by
  have hfailed : ∀ e', task.failed e' = task.failed e → e = e' := fun e' he' =>
    (failed_inj h he').symm
  cases x with
  | store reply =>
    cases reply with
    | response m =>
      obtain ⟨id, result⟩ := m
      cases result with
      | none =>
        obtain rfl := hfailed _ he
        simp [GatewayError.mayHaveExecuted, Feedback.isMisread]
      | some outcome =>
        cases outcome with
        | error message =>
          obtain rfl := hfailed _ he
          simp [GatewayError.mayHaveExecuted]
        | ok payload =>
          simp only [conclusion, Feedback.result, StoreReply.result, Response.ofMessage] at he
          split at he
          next a ha => exact absurd he (delivered_ne_failed h ha)
          next d _ =>
            obtain rfl := hfailed _ he
            simp [GatewayError.mayHaveExecuted, Feedback.isMisread]
    | garbled d =>
      obtain rfl := hfailed _ he
      simp [GatewayError.mayHaveExecuted, Feedback.isMisread]
    | status s =>
      obtain rfl := hfailed _ he
      simp [GatewayError.mayHaveExecuted, Feedback.isMisread]
  | connection cause =>
    obtain rfl := hfailed _ he
    cases cause <;> simp [GatewayError.mayHaveExecuted, Feedback.isMisread]

/-- When a call ends with an error, the error denies an execution that may have taken place just if
what came back for the request was misread. -/
theorem denied_wrongly_iff (hg : g.Reachable) (hk : g.call? c = some k)
    (hs : k.task.submission?.isSome = true) (hp : k.phase = .finished (k.task.failed e)) :
    e.mayHaveExecuted = false ∧ ¬g.IsUnexecuted c ↔
      ∃ x, .replied c x ∈ g.facts ∧ x.isMisread = true := by
  have hd := (accounted_of_reachable hg).known c k hk hs
  have hmem : ∀ x, .replied c x ∈ g.facts ↔ .replied c x ∈ g.dealings c := fun x =>
    (mem_dealings_iff (by simp [Fact.ofRequest])).symm
  simp only [hmem]
  rw [hp] at hd
  generalize hfs : g.dealings c = fs at hd
  generalize ha : k.task.failed e = a at hd
  cases hd with
  | unsent => simp [isUnexecuted_of_unsent hfs]
  | unanswered n m r hv =>
    obtain rfl := Task.failed_inj hs ha
    simp [hv]
  | answered n m r x request =>
    have hmisread : x.isMisread = true →
        ¬∃ id message, x = .store (.response ⟨id, some (.error message)⟩) := by
      rintro hx ⟨id, message, rfl⟩
      simp [Feedback.isMisread] at hx
    rw [Task.mayHaveExecuted_of_conclusion hs ha.symm, isUnexecuted_iff_of_reply hfs]
    simp only [List.mem_cons, List.not_mem_nil, Fact.replied.injEq, reduceCtorEq, true_and, false_or,
      or_false, exists_eq_left]
    constructor
    · rintro ⟨hx | hx, hn⟩
      · exact hx
      · exact absurd hx hn
    · exact fun hx => ⟨.inl hx, hmisread hx⟩

/-- A request to which the store responds without a result. -/
def emptyResponse : List Action :=
  let env := .replying ⟨some 0, .store (.response ⟨"", none⟩)⟩
  elect 0 .gateway ⟨.numbered "a" 1, ⟨1⟩⟩ env ++
    ask 1 .gateway env 4

theorem denied_wrongly_iff_of_emptyResponse :
    ∃ g k e, (create (.ofOptions {}) [.gateway]).run? emptyResponse = some g ∧
      g.call? 1 = some k ∧ k.phase = .finished (k.task.failed e) ∧
      (e.mayHaveExecuted = false ∧ ¬g.IsUnexecuted 1 ↔
        ∃ x, .replied 1 x ∈ g.facts ∧ x.isMisread = true) :=
  ⟨_, _, .submissionFailed ⟨""⟩ (.transport (.remote "Response to request  has no result")),
    rfl, rfl, rfl,
    denied_wrongly_iff ⟨.ofOptions {}, [.gateway], emptyResponse, rfl⟩ rfl rfl rfl⟩

/-- The store may have executed what the error denies. -/
theorem denied_wrongly_of_emptyResponse :
    ∃ g k e, (create (.ofOptions {}) [.gateway]).run? emptyResponse = some g ∧
      g.call? 1 = some k ∧ k.task.submission?.isSome = true ∧
      k.phase = .finished (k.task.failed e) ∧ e.mayHaveExecuted = false ∧ ¬g.IsUnexecuted 1 := by
  refine ⟨_, _, .submissionFailed ⟨""⟩ (.transport (.remote "Response to request  has no result")),
    rfl, rfl, rfl, rfl, rfl, ?_⟩
  rw [isUnexecuted_iff_of_reply rfl]
  simp [Surroundings.replying]

end Gateway

end LeaderRouting
