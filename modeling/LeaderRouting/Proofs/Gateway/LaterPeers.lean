import LeaderRouting.Proofs.Gateway.Revision
import LeaderRouting.Proofs.Message.LaterFields

/-!
Peers of later versions.  They announce leaders, and answer requests, in messages with fields that this
version does not have, and everything goes as if those fields were not there.
-/

namespace LeaderRouting

open Wire Message

namespace Gateway

/-- Whether the bytes of a task become longer by fields that their message type does not have. -/
structure Task.Lengthens (f : Bytes → Bytes) (task : Task) : Prop where
  announced : ∀ payload, task = .notice (.message payload) →
    LeaderElectEvent.schema.Extends payload (f payload)
  delivered : ∀ sub, task.submission? = some sub → ∀ payload,
    sub.result.schema.Extends payload (f payload)

/-- Whether the bytes of every call that starts become longer by such fields. -/
def Action.Lengthens (φ : CallId → Bytes → Bytes) : Action → Prop
  | .start c _ task _ => task.Lengthens (φ c)
  | _ => True

theorem Task.Lengthens.tolerates {f : Bytes → Bytes} {task : Task} (h : task.Lengthens f) :
    task.Tolerates f where
  announced payload ht := Announcement.decode_of_extends (h.announced payload ht)
  delivered sub hs payload := sub.result.decode_of_extends (h.delivered sub hs payload)

theorem Action.Lengthens.tolerates {φ : CallId → Bytes → Bytes} {a : Action} (h : a.Lengthens φ) :
    a.Tolerates φ := by
  cases a with
  | start c handle task seen => exact Task.Lengthens.tolerates h
  | _ => trivial

/-- Whether two states differ in nothing that anybody is told, that is tracked, or that connections are
given. -/
structure SameEffects (g g' : Gateway) : Prop where
  settings : g'.settings = g.settings
  now : g'.now = g.now
  writer : g'.writer = g.writer
  lock : g'.lock = g.lock
  channel : g'.channel = g.channel
  connections : g'.connections = g.connections
  handles : g'.handles = g.handles
  held : g'.held = g.held
  answers : ∀ c, (g'.call? c).map (·.phase.answer?) = (g.call? c).map (·.phase.answer?)
  /-- Only what a call takes as its reply may be other bytes. -/
  journal : List.Forall₂ (fun e e' => e' = e ∨ ∃ c feedback feedback',
    e = ⟨e.time, .replied c feedback⟩ ∧ e' = ⟨e.time, .replied c feedback'⟩) g.journal g'.journal

theorem sameEffects_revise (φ : CallId → Bytes → Bytes) (g : Gateway) :
    SameEffects g (g.revise φ) where
  settings := rfl
  now := rfl
  writer := rfl
  lock := rfl
  channel := rfl
  connections := rfl
  handles := rfl
  held := rfl
  answers c := answer?_call?_revise φ g c
  journal := by
    refine List.forall₂_map_right_iff.2 (List.forall₂_same.2 fun e _ => ?_)
    obtain ⟨time, fact⟩ := e
    cases fact with
    | replied c feedback => exact .inr ⟨c, feedback, feedback.revise (φ c), rfl, rfl⟩
    | _ => exact .inl rfl

end Gateway

open Gateway

/-- Whether fields of later versions are as good as not there. -/
structure IgnoresLaterFields : Prop where
  /-- One field that the message type does not have, behind bytes that can be decoded by themselves,
  changes neither the message nor the error. -/
  passed : ∀ (kind : MessageKind) {a u b : Bytes} {v : kind.Value} {number : Nat},
    kind.schema.decode a = .ok v → IsField number u → kind.schema.Lacks number →
      kind.schema.decode (a ++ u ++ b) = kind.schema.decode (a ++ b)
  /-- The boundaries of a message are just the places before which it can be decoded by itself. -/
  boundary : ∀ (kind : MessageKind) {a b : Bytes},
    kind.schema.IsBoundary (a ++ b) b ↔ ∃ v, kind.schema.decode a = .ok v
  /-- Nor do any number of fields, at any boundaries. -/
  extended : ∀ (kind : MessageKind) {bytes bytes' : Bytes}, kind.schema.Extends bytes bytes' →
    kind.schema.decode bytes' = kind.schema.decode bytes
  announced : ∀ {payload payload' : Bytes}, LeaderElectEvent.schema.Extends payload payload' →
    Announcement.decode payload' = Announcement.decode payload
  /-- A run goes the same way, step by step, with longer messages that announce leaders and longer
  results that come back. -/
  runs : ∀ (settings : Settings) (handles : List Handle) {φ : CallId → Bytes → Bytes}
    {actions : List Action}, (∀ a ∈ actions, a.Lengthens φ) →
      (create settings handles).run? (actions.map (Action.revise φ)) =
        ((create settings handles).run? actions).map (Gateway.revise φ)
  effects : ∀ (φ : CallId → Bytes → Bytes) (g : Gateway), SameEffects g (g.revise φ)

theorem ignoresLaterFields : IgnoresLaterFields where
  passed kind _ _ _ _ _ ha hu hn := kind.isLocal_schema.decode_of_inserts (.field ha hu hn)
  boundary kind _ _ := kind.isLocal_schema.isBoundary_iff
  extended kind _ _ h := kind.decode_of_extends h
  announced h := Announcement.decode_of_extends h
  runs _ _ _ _ h := run?_create_revise fun a ha => (h a ha).tolerates
  effects φ g := sameEffects_revise φ g

/-- A group with the number 9 that holds a number and an empty group. -/
def nestedGroup : Bytes :=
  [75, 8, 1, 19, 20, 76]

theorem isField_nestedGroup : IsField 9 nestedGroup := by
  refine ⟨.startGroup, [75], [8, 1, 19, 20, 76], ?_, ?_, rfl⟩
  · exact Key.run_read_eq_ok_nil_iff.1 (by decide +kernel)
  · exact run_skipField_eq_ok_nil_iff.1 (by decide +kernel)

/-- A leader is announced, and asked to drop a table. -/
def announcedAndAsked : List Action :=
  let env := .replying ⟨some 0, .store (.response ⟨"", some (.ok [])⟩)⟩
  let payload := LeaderElectEvent.schema.write ⟨some (Member.numbered "a" 1).toMessage, 5⟩
  undertake 0 .notifier (.notice (.message payload)) env 3 ++
    undertake 1 .client (.table (.dropTable "t")) env 4

theorem lacks_leaderElectEvent : LeaderElectEvent.schema.Lacks 9 := by
  simp [Schema.Lacks, LeaderElectEvent.schema, Field.scalar, Field.message]

theorem lengthens_undertake {φ : CallId → Bytes → Bytes} {c : CallId} {task : Task}
    (h : task.Lengthens (φ c)) (handle : Handle) (env : Surroundings) (steps : Nat) :
    ∀ a ∈ undertake c handle task env steps, a.Lengthens φ := by
  intro a ha
  obtain rfl | ha := List.mem_cons.1 ha
  · exact h
  · obtain rfl := List.eq_of_mem_replicate ha
    trivial

theorem lengthens_announcedAndAsked :
    ∀ a ∈ announcedAndAsked, a.Lengthens fun _ bytes => nestedGroup ++ bytes := by
  have hresult : EmptyResult.schema.Lacks 9 := by simp [Schema.Lacks, EmptyResult.schema]
  refine List.forall_mem_append.2
    ⟨lengthens_undertake ⟨fun payload _ => ?announced, fun _ h => ?_⟩ _ _ _,
      lengthens_undertake ⟨fun _ h => ?_, fun sub h payload => ?delivered⟩ _ _ _⟩
  case announced => exact .prepend isField_nestedGroup lacks_leaderElectEvent payload
  case delivered =>
    cases h
    exact .prepend isField_nestedGroup hresult payload
  all_goals cases h

/-- The group stands between two terms, in front of an announcement, and in front of a result. -/
theorem ignoresLaterFields_of_nestedGroup :
    LeaderElectEvent.schema.decode ([16, 5] ++ nestedGroup ++ [16, 6]) = .ok ⟨none, 6⟩ ∧
    ∃ g g', (create (.ofOptions {}) [.notifier, .client]).run? announcedAndAsked =
        some g ∧
      g.leader?.map (·.term) = some ⟨5⟩ ∧
      (g.call? 1).bind (·.phase.answer?) = some (.table (.ok .done)) ∧
      (create (.ofOptions {}) [.notifier, .client]).run?
        (announcedAndAsked.map (Action.revise fun _ bytes => nestedGroup ++ bytes)) = some g' ∧
      SameEffects g g' := by
  have hfirst : LeaderElectEvent.schema.decode [16, 5] = .ok ⟨none, 5⟩ := by decide +kernel
  have hlast : LeaderElectEvent.schema.decode ([16, 5] ++ [16, 6]) = .ok ⟨none, 6⟩ := by
    decide +kernel
  have hpassed := ignoresLaterFields.passed .leaderElectEvent (b := [16, 6]) hfirst
    isField_nestedGroup lacks_leaderElectEvent
  refine ⟨hpassed.trans hlast, ?_⟩
  have hrun := ignoresLaterFields.runs (.ofOptions {}) [.notifier, .client]
    lengthens_announcedAndAsked
  have hterm : ((create (.ofOptions {}) [.notifier, .client]).run?
      announcedAndAsked).map (fun g => g.leader?.map (·.term)) = some (some ⟨5⟩) := by
    decide +kernel
  have hanswer : ((create (.ofOptions {}) [.notifier, .client]).run?
      announcedAndAsked).map (fun g => (g.call? 1).bind (·.phase.answer?)) =
        some (some (.table (.ok .done))) := by
    with_unfolding_all rfl
  obtain ⟨g, hg, hterm⟩ := Option.map_eq_some_iff.1 hterm
  rw [hg] at hanswer hrun
  exact ⟨g, _, hg, hterm, Option.some.inj hanswer, hrun, ignoresLaterFields.effects _ g⟩

end LeaderRouting
