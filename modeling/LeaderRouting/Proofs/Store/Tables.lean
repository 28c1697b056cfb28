import LeaderRouting.Proofs.Store.Specification
import LeaderRouting.Proofs.Store.Transparency
import LeaderRouting.Proofs.Submission.HandingOver
import LeaderRouting.Proofs.Submission.Landing

/-!
The operations of the store's tables, from the call to the answer.  An operation is one request, which
the table of operations says, and its caller is told what the table says of the reply; all that can go
wrong with the request goes wrong with the operation in the same words.
-/

namespace LeaderRouting

open Wire Message

namespace TableOperation

/-- What the caller of an operation is to be told if this is the reply to its request. -/
inductive Answers (op : TableOperation) (reply : Reply) (request : RequestId) (timeout : Duration) :
    Except GatewayError TableResult → Prop
  | read {response : Response} {v : TableResult} (inTime : reply.isInTime timeout = true)
      (returned : reply.feedback.result = .ok response) (reads : op.Reads response.result (.ok v)) :
      Answers op reply request timeout (.ok v)
  | undecodable {response : Response} {e : DecodeError} (inTime : reply.isInTime timeout = true)
      (returned : reply.feedback.result = .ok response)
      (reads : op.Reads response.result (.error e)) :
      Answers op reply request timeout (.error (.submissionFailed request (.undecodable e)))
  | failed {e : TransportError} (inTime : reply.isInTime timeout = true)
      (returned : reply.feedback.result = .error e) :
      Answers op reply request timeout (.error (.submissionFailed request (.transport e)))
  | late (late : reply.isInTime timeout = false) :
      Answers op reply request timeout (.error (.submissionTimeout request timeout))

variable {op : TableOperation} {reply : Reply} {request : RequestId} {timeout : Duration}
  {payload : Bytes} {answer : Except GatewayError TableResult}

theorem Reads.decode_eq {r : Except DecodeError TableResult} (h : op.Reads payload r) :
    (op.submission.result.schema.decode payload).map op.interpret = r :=
  h.unique (op.reads_decode payload)

theorem conclusion_table (op : TableOperation) (request : RequestId) (response : Response) :
    (Gateway.Task.table op).conclusion request (.ok response) =
      .table (((op.submission.result.schema.decode response.result).map op.interpret).mapError
        fun e => .submissionFailed request (.undecodable e)) := by
  unfold Gateway.Task.conclusion
  dsimp only
  rw [delivered_table]
  cases op.submission.result.schema.decode response.result <;> rfl

/-- The caller is told what it is to be told. -/
theorem Answers.answer_eq (h : op.Answers reply request timeout answer) :
    reply.answer (.table op) request timeout = .table answer := by
  unfold Reply.answer
  cases h with
  | read inTime returned reads =>
    rw [if_pos inTime, returned, conclusion_table, reads.decode_eq]
    rfl
  | undecodable inTime returned reads =>
    rw [if_pos inTime, returned, conclusion_table, reads.decode_eq]
    rfl
  | failed inTime returned =>
    rw [if_pos inTime, returned]
    rfl
  | late late =>
    rw [if_neg (by simp [late])]
    rfl

/-- Whatever the reply is, there is one thing that the caller is to be told. -/
theorem exists_answers_iff (op : TableOperation) (reply : Reply) (request : RequestId)
    (timeout : Duration) : ∃ answer,
      (∀ answer', op.Answers reply request timeout answer' ↔ answer' = answer) ∧
        reply.answer (.table op) request timeout = .table answer := by
  have hexists : ∃ answer, op.Answers reply request timeout answer := by
    cases hlate : reply.isInTime timeout with
    | false => exact ⟨_, .late hlate⟩
    | true =>
      cases hr : reply.feedback.result with
      | error e => exact ⟨_, .failed hlate hr⟩
      | ok response =>
        have hreads := op.reads_decode response.result
        cases hd : (op.submission.result.schema.decode response.result).map op.interpret with
        | ok v => exact ⟨_, .read hlate hr (hd ▸ hreads)⟩
        | error e => exact ⟨_, .undecodable hlate hr (hd ▸ hreads)⟩
  obtain ⟨answer, h⟩ := hexists
  refine ⟨answer, fun answer' => ⟨fun h' => ?_, fun he => he ▸ h⟩, h.answer_eq⟩
  exact Gateway.Answer.table.inj (h'.answer_eq.symm.trans h.answer_eq)

end TableOperation

namespace Gateway

/-- How a gateway serves the operations of the store's tables. -/
structure ServesTables (g : Gateway) : Prop where
  /-- While there is a leader, a call that nothing comes in the way of hands one request over to it. -/
  prompt : ∀ (op : TableOperation) c handle seen s, g.channel.value = .elected s →
    handle ∈ g.handles → g.call? c = none → seen ≤ g.channel.version → ∀ env env' env'', ∃ g' r,
      g.run? [.start c handle (.table op) seen, .run c env, .run c env', .run c env''] = some g' ∧
        g'.dealings c = [.submitted c s.connection s.leader.member r] ∧
        op.Requests r.operation r.arguments
  /-- Whatever comes in its way, a call that begins while there is a leader hands one request over, or
  is told why not. -/
  handed : ∀ (op : TableOperation) c handle seen s, g.channel.value = .elected s → ∀ actions g',
    g.run? (.start c handle (.table op) seen :: actions) = some g' →
      g'.HandedOver c (.table op) op.Requests actions
  /-- No operation sends a second request, whatever becomes of the first, -/
  once : ∀ c k op, g.call? c = some k → k.task = .table op → submissions c g.facts ≤ 1
  /-- nor any other than its own. -/
  carried : ∀ c k op, g.call? c = some k → k.task = .table op →
    ∀ n m r, .submitted c n m r ∈ g.facts → op.Requests r.operation r.arguments
  /-- What is to live longer is not given less time. -/
  lasting : ∀ c c' k k' table table' ttl ttl', g.call? c = some k → g.call? c' = some k' →
    k.task = .table (.createTableWithTtl table ttl) →
    k'.task = .table (.createTableWithTtl table' ttl') → ttl.nanoseconds ≤ ttl'.nanoseconds →
    ∀ n m r n' m' r', .submitted c n m r ∈ g.facts → .submitted c' n' m' r' ∈ g.facts → ∃ i i',
      r.arguments = [.text table, .integer i] ∧ r'.arguments = [.text table', .integer i'] ∧ i ≤ i'
  /-- Once the request is handed over, its caller is told the one thing that is to be told for the
  reply, unless the request is superseded or given up. -/
  returned : ∀ c k op, g.call? c = some k → k.task = .table op → ∀ env g₁ n m r,
    g.step? (.run c env) = some g₁ → g₁.dealings c = g.dealings c ++ [.submitted c n m r] →
    ∃ answer, (∀ answer', op.Answers (env.reply m r) r.id g.settings.submitTimeout answer' ↔
        answer' = answer) ∧
      ∀ actions g', g₁.run? actions = some g' → g'.Returns c (.table op) n r.id
        (g.now + (env.reply m r).wait g.settings.submitTimeout) (.table answer) actions
  /-- An operation goes as the submission of its request does, and fails in the same words, -/
  echoes : ∀ (op : TableOperation) c handle seen actions g₁,
    g.run? (.start c handle (.submit op.submission) seen :: actions) = some g₁ → ∃ g',
      g.run? (.start c handle (.table op) seen :: actions) = some g' ∧ op.Echoes c g₁ g'
  /-- and it does not go in any other way. -/
  echoed : ∀ (op : TableOperation) c handle seen actions g',
    g.run? (.start c handle (.table op) seen :: actions) = some g' → ∃ g₁,
      g.run? (.start c handle (.submit op.submission) seen :: actions) = some g₁ ∧ op.Echoes c g₁ g'

variable {g : Gateway} {c : CallId} {k : Call} {op : TableOperation}

theorem submission?_of_table (ht : k.task = .table op) : k.task.submission? = some op.submission := by
  rw [ht]
  rfl

/-- A call for an operation has handed over what the table of operations says. -/
theorem Errand.requests {fs : List Fact} {n : Nat} {m : Member} {r : Request}
    (h : Errand c k op.submission fs) (hm : .submitted c n m r ∈ fs) :
    op.Requests r.operation r.arguments := by
  obtain ⟨hoperation, harguments⟩ := h.carried hm
  rw [hoperation, harguments]
  exact op.requests_submission

theorem servesTables_of_reachable (hg : g.Reachable) : g.ServesTables := by
  have herrand : ∀ c k op, g.call? c = some k → k.task = .table op →
      Errand c k op.submission g.facts := fun c k op hk ht =>
    (underwayAt_of_reachable hg c).known k _ hk (submission?_of_table ht)
  have hcarried : ∀ c k op, g.call? c = some k → k.task = .table op →
      ∀ n m r, .submitted c n m r ∈ g.facts → op.Requests r.operation r.arguments :=
    fun c k op hk ht _ _ _ hm => (herrand c k op hk ht).requests hm
  exact {
    prompt op c handle seen s hv hh hf hseen env env' env'' := by
      have hs : (Task.table op).submission? = some op.submission := rfl
      obtain ⟨g', hr, hdealings⟩ := exists_dealings_of_start hg hv hh hf hseen hs env env' env''
      exact ⟨g', _, hr, hdealings, op.requests_submission⟩
    handed op c handle seen s hv actions g' hr :=
      handedOver_of_start hg hv rfl op.requests_submission hr
    once c k op hk ht := (herrand c k op hk ht).once
    carried := hcarried
    lasting c c' k k' table table' ttl ttl' hk hk' ht ht' hle n m r n' m' r' hm hm' :=
      (hcarried c k _ hk ht n m r hm).ttl_mono (hcarried c' k' _ hk' ht' n' m' r' hm') hle
    returned c k op hk ht env g₁ n m r hstep handed := by
      obtain ⟨answer, hiff, hanswer⟩ :=
        op.exists_answers_iff (env.reply m r) r.id g.settings.submitTimeout
      refine ⟨answer, hiff, fun actions g' hr => ?_⟩
      have hs := Option.isSome_of_eq_some (submission?_of_table ht)
      have hreturns := returns_of_handOver hg hk hs hstep handed hr
      rwa [ht, hanswer] at hreturns
    echoes op c handle seen actions g₁ hr := op.exists_echo hg hr
    echoed op c handle seen actions g' hr := op.exists_echoed hg hr }

/-- A leader is elected, and after seven milliseconds it reports that it has created a table. -/
def tableCreated : List Action :=
  let env := .replying ⟨some 7, .store (.response ⟨"", some (.ok [8, 1])⟩)⟩
  elect 0 .gateway ⟨.numbered "a" 1, ⟨1⟩⟩ env ++
    undertake 1 .client (.table (.createTableWithTtl "t" (.ofMillis 5))) env 3 ++
    [.advance 7, .run 1 env]

theorem servesTables_of_tableCreated :
    ∃ g, (create (.ofOptions {}) [.gateway, .client]).run? tableCreated = some g ∧
      g.facts.filter (Fact.isSubmitted 1) =
        [.submitted 1 0 (.numbered "a" 1) ⟨⟨""⟩, "createTable", [.text "t", .integer 5]⟩] ∧
      g.answersTo 1 = [⟨7, .answered 1 (.table (.ok (.created true)))⟩] ∧ g.ServesTables :=
  ⟨_, rfl, by with_unfolding_all rfl, by with_unfolding_all rfl, servesTables_of_reachable
    ⟨.ofOptions {}, [.gateway, .client], tableCreated, rfl⟩⟩

end Gateway

end LeaderRouting
