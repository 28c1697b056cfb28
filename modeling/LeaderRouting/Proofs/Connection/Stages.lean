import LeaderRouting.Proofs.Connection.Course

/-!
How far the closing of a shared connection has come.  At most one call is at it at any time, and what
the connection shows is what this call has done so far.
-/

namespace LeaderRouting.Pool

/-- Whether a call in this phase has begun to close a connection and has yet to go on. -/
def Phase.isClosing : Phase → Bool
  | marked | retiring => true
  | _ => false

theorem Phase.isClosing_of_isWaiting {phase : Phase} (h : phase.isWaiting = true) :
    phase.isClosing = false := by
  cases phase <;> first | rfl | cases h

/-- Whether a call is on its way through the close of a connection, in this phase. -/
def IsClosing (p : Pool) (n : Nat) (c : CallId) (phase : Phase) : Prop :=
  phase.isClosing = true ∧ ∃ k, p.call? c = some k ∧ k.task = .close n ∧ k.phase = phase

def Fact.closes (n : Nat) : Fact → Bool
  | .closed m _ => m = n
  | _ => false

/-- How often the channel of a connection was released in the whole run. -/
def closures (p : Pool) (n : Nat) : Nat :=
  p.journal.countP (·.fact.closes n)

/-- The connection as it is while its close is at this point, in the hands of one call or of none. -/
inductive Stage : Connection → Option (CallId × Phase) → Prop
  | untouched (member : Member) : Stage ⟨member, false, false, 0⟩ none
  | marked (member : Member) (c : CallId) : Stage ⟨member, true, false, 0⟩ (some (c, .marked))
  | retired (member : Member) (c : CallId) : Stage ⟨member, true, true, 0⟩ (some (c, .retiring))
  | released (member : Member) : Stage ⟨member, true, true, 1⟩ none

/-- Whether every connection is at the point to which its calls have brought it. -/
structure Staged (p : Pool) : Prop where
  stage : ∀ n x, p.connection? n = some x →
    ∃ closer, Stage x closer ∧ ∀ c phase, p.IsClosing n c phase ↔ closer = some (c, phase)
  counted : ∀ n, p.closures n = (p.connection? n).elim 0 (·.releases)

variable {p p' : Pool} {a : Action} {c d : CallId} {k : Call} {n m : Nat} {x x' : Connection}
  {env : Surroundings} {task : Task} {phase phase' : Phase}

/-! ### Stages -/

theorem Stage.eq_untouched {closer : Option (CallId × Phase)} (h : Stage x closer)
    (hx : x.closed = false) : x = ⟨x.member, false, false, 0⟩ ∧ closer = none := by
  cases h with
  | untouched => exact ⟨rfl, rfl⟩
  | _ => cases hx

theorem Stage.eq_marked (h : Stage x (some (c, .marked))) : x = ⟨x.member, true, false, 0⟩ := by
  cases h
  rfl

theorem Stage.eq_retired (h : Stage x (some (c, .retiring))) : x = ⟨x.member, true, true, 0⟩ := by
  cases h
  rfl

/-- A connection that nobody is closing, and that was marked, has been released. -/
theorem Stage.eq_released (h : Stage x none) (hx : x.closed = true) :
    x = ⟨x.member, true, true, 1⟩ := by
  cases h with
  | untouched => cases hx
  | released => rfl

/-! ### Counting and following -/

theorem closures_enter (p : Pool) (f : Fact) (n : Nat) :
    (p.enter f).closures n = p.closures n + if f.closes n = true then 1 else 0 := by
  simp [closures, enter, List.countP_append, List.countP_singleton]

@[simp] theorem closures_change (p : Pool) (n : Nat) (f : Connection → Connection) (m : Nat) :
    (p.change n f).closures m = p.closures m := by
  simp only [closures, journal_change]

@[simp] theorem closures_finish (p : Pool) (c : CallId) (answer : Answer) (n : Nat) :
    (p.finish c answer).closures n = p.closures n :=
  closures_enter (p.setPhase c (.finished answer)) (.answered c answer) n

theorem isClosing_congr (h : p'.calls = p.calls) : p'.IsClosing n d phase ↔ p.IsClosing n d phase := by
  unfold IsClosing
  rw [call?_congr h]

/-- Where one call has come to another phase, it is closing just if this phase belongs to a close. -/
theorem isClosing_iff_of_moves (h : Moves c phase' p p') (hk : p.call? c = some k) :
    p'.IsClosing n d phase ↔ if d = c then phase'.isClosing = true ∧ k.task = .close n ∧ phase' = phase
      else p.IsClosing n d phase := by
  unfold IsClosing
  split_ifs with hd
  · subst hd
    rw [h.call?_self hk]
    constructor
    · rintro ⟨hphase, k', hk', htask, rfl⟩
      obtain rfl := Option.some.inj hk'
      exact ⟨hphase, htask, rfl⟩
    · rintro ⟨hphase, htask, rfl⟩
      exact ⟨hphase, _, rfl, htask, rfl⟩
  · rw [h.call?_of_ne hd]

/-- A call that was not closing, and still is not, makes no difference to who is. -/
theorem isClosing_iff_of_idle (h : Moves c phase' p p') (hk : p.call? c = some k)
    (hidle : k.task = .close n → k.phase.isClosing = false ∧ phase'.isClosing = false) :
    p'.IsClosing n d phase ↔ p.IsClosing n d phase := by
  rw [isClosing_iff_of_moves h hk]
  split_ifs with hd
  · subst hd
    constructor
    · rintro ⟨hphase, htask, -⟩
      rw [(hidle htask).2] at hphase
      cases hphase
    · rintro ⟨hphase, k', hk', htask, rfl⟩
      obtain rfl := Option.some.inj (hk.symm.trans hk')
      rw [(hidle htask).1] at hphase
      cases hphase
  · rfl

namespace Staged

/-! ### Steps -/

theorem of_still (h : p.Staged)
    (hclosing : ∀ n d phase, p'.IsClosing n d phase ↔ p.IsClosing n d phase)
    (hconnections : ∀ n, p'.connection? n = p.connection? n)
    (hclosures : ∀ n, p'.closures n = p.closures n) : p'.Staged where
  stage n x hx := by
    obtain ⟨closer, hstage, hwho⟩ := h.stage n x (hconnections n ▸ hx)
    exact ⟨closer, hstage, fun c phase => (hclosing n c phase).trans (hwho c phase)⟩
  counted n := by rw [hclosures, hconnections, h.counted]

/-- A call that has nothing to do with closing goes on, or a close has nothing left to do. -/
theorem of_idle (h : p.Staged) (hk : p.call? c = some k) (hmoves : Moves c phase' p p')
    (hidle : ∀ n, k.task = .close n → k.phase.isClosing = false ∧ phase'.isClosing = false)
    (hconnections : ∀ n, p'.connection? n = p.connection? n)
    (hclosures : ∀ n, p'.closures n = p.closures n) : p'.Staged :=
  h.of_still (fun n _ _ => isClosing_iff_of_idle hmoves hk (hidle n)) hconnections hclosures

/-- One connection is at another point, or new. -/
theorem of_point (h : p.Staged)
    (hconnections : ∀ m, p'.connection? m = if m = n then some x' else p.connection? m)
    (hclosures : ∀ m, p'.closures m = if m = n then x'.releases else p.closures m)
    (hothers : ∀ m ≠ n, ∀ d phase, p'.IsClosing m d phase ↔ p.IsClosing m d phase)
    {closer : Option (CallId × Phase)} (hstage : Stage x' closer)
    (hwho : ∀ d phase, p'.IsClosing n d phase ↔ closer = some (d, phase)) : p'.Staged where
  stage m y hy := by
    rw [hconnections] at hy
    split_ifs at hy with hm
    · subst hm
      obtain rfl := Option.some.inj hy
      exact ⟨closer, hstage, hwho⟩
    · obtain ⟨closer', hstage', hwho'⟩ := h.stage m y hy
      exact ⟨closer', hstage', fun d phase => (hothers m hm d phase).trans (hwho' d phase)⟩
  counted m := by
    rw [hclosures, hconnections]
    split_ifs
    · rfl
    · exact h.counted m

/-- The one call that closes a connection takes it from one point to another. -/
theorem of_effect (h : p.Staged) (hk : p.call? c = some k) (htask : k.task = .close n)
    (hmoves : Moves c phase' p p')
    (hconnections : ∀ m, p'.connection? m = if m = n then some x' else p.connection? m)
    (hclosures : ∀ m, p'.closures m = if m = n then x'.releases else p.closures m)
    (halone : ∀ d phase, p.IsClosing n d phase → d = c)
    (hstage : Stage x' (if phase'.isClosing = true then some (c, phase') else none)) :
    p'.Staged := by
  refine h.of_point hconnections hclosures (fun m hm d phase => ?_) hstage fun d phase => ?_
  · exact isClosing_iff_of_idle hmoves hk fun he => absurd (Task.close.inj (htask.symm.trans he)).symm hm
  · rw [isClosing_iff_of_moves hmoves hk]
    by_cases hd : d = c
    · subst hd
      rw [if_pos rfl]
      split_ifs with hp <;> simp [hp, htask]
    · have hnot : ¬p.IsClosing n d phase := fun hclosing => hd (halone d phase hclosing)
      rw [if_neg hd]
      split_ifs <;> simp [hnot, Ne.symm hd]

/-- Nobody is closing a connection that is not marked. -/
theorem of_unmarked (h : p.Staged) (hx : p.connection? n = some x) (hc : x.closed = false) :
    x = ⟨x.member, false, false, 0⟩ ∧ ∀ d phase, ¬p.IsClosing n d phase := by
  obtain ⟨closer, hstage, hwho⟩ := h.stage n x hx
  obtain ⟨he, rfl⟩ := hstage.eq_untouched hc
  exact ⟨he, fun d phase hclosing => nomatch (hwho d phase).1 hclosing⟩

/-- A call that is closing a connection is the only one, and the connection shows how far it is. -/
theorem of_isClosing (h : p.Staged) (hx : p.connection? n = some x) (hc : p.IsClosing n c phase) :
    Stage x (some (c, phase)) ∧ ∀ d phase', p.IsClosing n d phase' → d = c := by
  obtain ⟨closer, hstage, hwho⟩ := h.stage n x hx
  obtain rfl := (hwho c phase).1 hc
  refine ⟨hstage, fun d phase' hd => ?_⟩
  exact (Prod.mk.inj (Option.some.inj ((hwho d phase').1 hd))).1.symm

theorem closures_eq (h : p.Staged) (hx : p.connection? n = some x) (m : Nat) :
    p.closures m = if m = n then x.releases else p.closures m := by
  split_ifs with hm
  · rw [hm, h.counted, hx]
    rfl
  · rfl

/-- A new connection is nobody's business yet. -/
theorem of_install (h : p.Staged) (hp : p.Coherent) (hk : p.call? c = some k) {name : String}
    {member : Member} (htask : k.task = .connect name member) :
    ((p.install name member).finish c .opened).Staged := by
  have hclosing : ∀ n d phase, ((p.install name member).finish c .opened).IsClosing n d phase ↔
      p.IsClosing n d phase := fun _ _ _ =>
    isClosing_iff_of_idle (moves_finish rfl c _) hk fun he => nomatch htask.symm.trans he
  refine h.of_point (connection?_install p name member) (fun m => ?_) (fun m _ => hclosing m)
    (.untouched member) fun d phase => (hclosing _ d phase).trans ⟨?_, nofun⟩
  · have hclosures : ((p.install name member).finish c .opened).closures m = p.closures m :=
      (closures_finish _ c _ m).trans (closures_enter _ (.opened _ member) m)
    rw [hclosures]
    split_ifs with hm
    · rw [h.counted, show p.connection? m = none from List.getElem?_eq_none (Nat.le_of_eq hm.symm)]
      rfl
    · rfl
  · rintro ⟨-, k, hk, ht, -⟩
    exact absurd rfl (Nat.ne_of_lt (hp.known d k _ hk (by rw [ht]; rfl)))

theorem turn (h : p.Staged) (hp : p.Coherent) (hk : p.call? c = some k)
    (ht : Turn p c env k.task k.phase p') : p'.Staged := by
  obtain ⟨id, task, phase⟩ := k
  dsimp only at ht
  cases ht with
  | dial | letIn | watch =>
    exact h.of_idle hk (moves_setPhase rfl c _) nofun (fun _ => rfl) fun _ => rfl
  | handOver member =>
    exact h.of_idle hk (moves_setPhase rfl c _) nofun (fun _ => rfl) fun n =>
      closures_enter p (.submitted c _ member _) n
  | turnAway | answer | observe =>
    exact h.of_idle hk (moves_finish rfl c _) nofun (fun _ => rfl) fun n => closures_finish p c _ n
  | refuse =>
    exact h.of_idle hk (moves_finish rfl c _) nofun (fun _ => rfl) fun n =>
      (closures_finish _ c _ n).trans (closures_enter p (.refused _) n)
  | pass =>
    exact h.of_idle hk (moves_finish rfl c _) (fun _ _ => ⟨rfl, rfl⟩) (fun _ => rfl) fun n =>
      closures_finish p c _ n
  | install => exact h.of_install hp hk rfl
  | @mark n x found unmarked =>
    obtain ⟨he, hnobody⟩ := h.of_unmarked found unmarked
    refine h.of_effect hk rfl (moves_setPhase (calls_change p _ _) c _)
      (connection?_change found Connection.mark) (fun m => ?_)
      (fun d phase hd => absurd hd (hnobody d phase)) ?_
    · exact (closures_change p n _ m).trans (h.closures_eq found m)
    · rw [he]
      exact .marked x.member c
  | @retire n x found =>
    have hclosing : p.IsClosing n c .marked := ⟨rfl, _, hk, rfl, rfl⟩
    obtain ⟨hstage, halone⟩ := h.of_isClosing found hclosing
    have he := hstage.eq_marked
    refine h.of_effect hk rfl (moves_setPhase (calls_change p _ _) c _)
      (connection?_change found Connection.retire) (fun m => ?_) halone ?_
    · exact (closures_change p n _ m).trans (h.closures_eq found m)
    · rw [he]
      exact .retired x.member c
  | @release n x found =>
    have hclosing : p.IsClosing n c .retiring := ⟨rfl, _, hk, rfl, rfl⟩
    obtain ⟨hstage, halone⟩ := h.of_isClosing found hclosing
    have he := hstage.eq_retired
    refine h.of_effect hk rfl (moves_finish (calls_change p _ _) c _)
      (connection?_change found Connection.release) (fun m => ?_) halone ?_
    · rw [closures_finish, closures_enter, closures_change, h.closures_eq found]
      by_cases hm : m = n
      · simp [hm, Fact.closes, Connection.release]
      · simp [hm, Ne.symm hm, Fact.closes]
    · rw [he]
      exact .released x.member

theorem course (h : p.Staged) (hp : p.Coherent) (hc : Course p a p') : p'.Staged := by
  cases hc with
  | @start c task fresh able =>
    refine h.of_still (fun n d phase => ?_) (fun _ => rfl) fun _ => rfl
    unfold IsClosing
    rw [call?_enrol]
    -- The new call has yet to begin.
    split_ifs with hd
    · subst hd
      rw [fresh]
      refine ⟨?_, fun ⟨_, _, hk, _⟩ => nomatch hk⟩
      rintro ⟨hphase, k, hk, -, rfl⟩
      obtain rfl := Option.some.inj hk
      cases hphase
    · rw [Option.or_none]
  | run found turn => exact h.turn hp found turn
  | @abandon c k found waiting =>
    refine h.of_idle found (moves_setPhase rfl c _) (fun _ _ => ⟨?_, rfl⟩) (fun _ => rfl) fun _ => rfl
    exact Phase.isClosing_of_isWaiting waiting
  | around => exact h.of_still (fun _ _ _ => Iff.rfl) (fun _ => rfl) fun _ => rfl

/-! ### Closing what nothing refers to -/

/-- Nobody can be at the close of a connection that nothing refers to, which is closed all at once. -/
theorem closeConnection (h : p.Staged) (n : Nat) : (p.closeConnection n).Staged := by
  rcases p.closeConnection_cases n with he | ⟨x, hx, hc, he⟩
  · exact he.symm ▸ h
  · rw [he]
    obtain ⟨hshape, hnobody⟩ := h.of_unmarked hx hc
    have hclosing : ∀ m d phase, ((p.change n Connection.close).enter (.closed n x.member)).IsClosing m
        d phase ↔ p.IsClosing m d phase := fun m d phase => isClosing_congr (calls_change p n _)
    have hclosed : x.close = ⟨x.member, true, true, 1⟩ := by
      rw [hshape]
      rfl
    have hstage : Stage x.close none := by
      rw [hclosed]
      exact .released x.member
    refine h.of_point (connection?_change hx Connection.close) (fun m => ?_) (fun m _ => hclosing m)
      hstage fun d phase => (hclosing n d phase).trans ⟨?_, nofun⟩
    · rw [closures_enter, closures_change, h.closures_eq hx]
      by_cases hm : m = n
      · rw [hclosed, hshape]
        simp [hm, Fact.closes]
      · simp [hm, Ne.symm hm, Fact.closes]
    · exact fun hd => absurd hd (hnobody d phase)

theorem release (h : p.Staged) : p.release.Staged :=
  release_induction h fun _ n hq _ => hq.closeConnection n

end Staged

theorem staged_initial : ({} : Pool).Staged where
  stage n x hx := by cases hx
  counted n := rfl

theorem staged_of_reachable (hp : p.Reachable) : p.Staged :=
  (hp.induction staged_initial fun _ _ _ hcoherent hstaged hc => (hstaged.course hcoherent hc).release).2

/-! ### What lasts -/

/-- Whether connections stay, and what they show by their marks and their retirement lasts. -/
def Lasts (p p' : Pool) : Prop :=
  ∀ n x, p.connection? n = some x → ∃ x', p'.connection? n = some x' ∧
    (x.closed = true → x'.closed = true) ∧ (x.retired = true → x'.retired = true)

theorem Lasts.refl (p : Pool) : Lasts p p :=
  fun _ x hx => ⟨x, hx, id, id⟩

theorem Lasts.trans {p₁ : Pool} (h : Lasts p p') (h₁ : Lasts p' p₁) : Lasts p p₁ := by
  intro n x hx
  obtain ⟨x', hx', hclosed, hretired⟩ := h n x hx
  obtain ⟨x'', hx'', hclosed', hretired'⟩ := h₁ n x' hx'
  exact ⟨x'', hx'', hclosed' ∘ hclosed, hretired' ∘ hretired⟩

theorem Lasts.exists_closed (h : Lasts p p') (hx : ∃ x, p.connection? n = some x ∧ x.closed = true) :
    ∃ x, p'.connection? n = some x ∧ x.closed = true := by
  obtain ⟨x, hx, hclosed⟩ := hx
  obtain ⟨x', hx', hlasts, -⟩ := h n x hx
  exact ⟨x', hx', hlasts hclosed⟩

theorem Lasts.exists_retired (h : Lasts p p')
    (hx : ∃ x, p.connection? n = some x ∧ x.retired = true) :
    ∃ x, p'.connection? n = some x ∧ x.retired = true := by
  obtain ⟨x, hx, hretired⟩ := hx
  obtain ⟨x', hx', -, hlasts⟩ := h n x hx
  exact ⟨x', hx', hlasts hretired⟩

theorem lasts_change (hx : p.connection? n = some x) {f : Connection → Connection}
    (hclosed : x.closed = true → (f x).closed = true)
    (hretired : x.retired = true → (f x).retired = true) : Lasts p (p.change n f) := by
  intro m y hy
  rw [connection?_change hx]
  split_ifs with hm
  · subst hm
    obtain rfl := Option.some.inj (hx.symm.trans hy)
    exact ⟨f x, rfl, hclosed, hretired⟩
  · exact ⟨y, hy, id, id⟩

theorem Turn.lasts (h : Turn p c env task phase p') : Lasts p p' := by
  cases h with
  | mark found => exact lasts_change found (fun _ => rfl) id
  | retire found => exact lasts_change found id fun _ => rfl
  | release found => exact lasts_change found id id
  | @install name member =>
    intro n x hx
    refine ⟨x, ?_, id, id⟩
    exact (connection?_install p name member n).trans
      ((if_neg (Nat.ne_of_lt (lt_of_connection? hx))).trans hx)
  | _ => exact .refl p

theorem Course.lasts (h : Course p a p') : Lasts p p' := by
  cases h with
  | run found turn => exact turn.lasts
  | _ => exact .refl p

theorem lasts_closeConnection (p : Pool) (n : Nat) : Lasts p (p.closeConnection n) := by
  rcases p.closeConnection_cases n with he | ⟨x, hx, hc, he⟩
  · exact he.symm ▸ .refl p
  · rw [he]
    refine lasts_change hx (fun hclosed => ?_) fun hretired => ?_
    · rw [hclosed] at hc
      cases hc
    · simp [Connection.close, hc, Connection.mark, Connection.retire, Connection.release]

theorem lasts_sweep (p : Pool) (ns : List Nat) : Lasts p (p.sweep ns) :=
  sweep_induction (P := Lasts p) (.refl p) (fun q n hq _ => hq.trans (lasts_closeConnection q n)) ns

theorem lasts_release (p : Pool) : Lasts p p.release :=
  lasts_sweep p _

/-! ### What answers say -/

/-- Whether a close that returned leaves its connection marked, and whoever was told that a connection
was retired can rely on it. -/
structure Honest (p : Pool) : Prop where
  returned : ∀ c k n answer, p.call? c = some k → k.task = .close n → k.phase = .finished answer →
    ∃ x, p.connection? n = some x ∧ x.closed = true
  observed : ∀ c k n answer, p.call? c = some k → k.task = .awaitRetired n →
    k.phase = .finished answer → ∃ x, p.connection? n = some x ∧ x.retired = true

/-- What a call is told by its turn, if this is the last one, is true of the connection. -/
theorem Turn.exists_told (h : Turn p c env k.task k.phase p') (hs : p.Staged)
    (hk : p.call? c = some k) : ∃ phase', Moves c phase' p p' ∧ ∀ answer, phase' = .finished answer →
      (∀ n, k.task = .close n → ∃ x, p'.connection? n = some x ∧ x.closed = true) ∧
      ∀ n, k.task = .awaitRetired n → ∃ x, p'.connection? n = some x ∧ x.retired = true := by
  obtain ⟨id, task, phase⟩ := k
  dsimp only at h
  cases h with
  | dial | letIn | handOver | watch => exact ⟨_, moves_setPhase rfl c _, nofun⟩
  | mark | retire => exact ⟨_, moves_setPhase (calls_change p _ _) c _, nofun⟩
  | refuse | install | turnAway | answer =>
    exact ⟨_, moves_finish rfl c _, fun _ _ => ⟨nofun, nofun⟩⟩
  | pass found closed =>
    refine ⟨_, moves_finish rfl c _, fun _ _ => ⟨fun n he => ?_, nofun⟩⟩
    obtain rfl := Task.close.inj he
    exact ⟨_, found, closed⟩
  | release found =>
    refine ⟨_, moves_finish (calls_change p _ _) c _, fun _ _ => ⟨fun n he => ?_, nofun⟩⟩
    obtain rfl := Task.close.inj he
    have hstage := (hs.of_isClosing found ⟨rfl, _, hk, rfl, rfl⟩).1
    refine ⟨_, (connection?_change found Connection.release _).trans (if_pos rfl), ?_⟩
    rw [hstage.eq_retired]
    rfl
  | observe found retired =>
    refine ⟨_, moves_finish rfl c _, fun _ _ => ⟨nofun, fun n he => ?_⟩⟩
    obtain rfl := Task.awaitRetired.inj he
    exact ⟨_, found, retired⟩

namespace Honest

theorem of_lasts (h : p.Honest) (hl : Lasts p p')
    (hnew : ∀ c k answer, p'.call? c = some k → k.phase = .finished answer →
      p.call? c = some k ∨ (∀ n, k.task = .close n → ∃ x, p'.connection? n = some x ∧ x.closed = true) ∧
        ∀ n, k.task = .awaitRetired n → ∃ x, p'.connection? n = some x ∧ x.retired = true) :
    p'.Honest where
  returned c k n answer hk ht hp := by
    rcases hnew c k answer hk hp with hk | ⟨hclosed, -⟩
    · exact hl.exists_closed (h.returned c k n answer hk ht hp)
    · exact hclosed n ht
  observed c k n answer hk ht hp := by
    rcases hnew c k answer hk hp with hk | ⟨-, hretired⟩
    · exact hl.exists_retired (h.observed c k n answer hk ht hp)
    · exact hretired n ht

theorem turn (h : p.Honest) (hs : p.Staged) (hk : p.call? c = some k)
    (ht : Turn p c env k.task k.phase p') : p'.Honest := by
  obtain ⟨phase', hmoves, htold⟩ := ht.exists_told hs hk
  refine h.of_lasts ht.lasts fun d k' answer hk' hp => ?_
  rcases hmoves.cases hk hk' with ⟨-, rfl⟩ | ⟨-, hk'⟩
  · exact .inr (htold answer hp)
  · exact .inl hk'

theorem course (h : p.Honest) (hs : p.Staged) (hc : Course p a p') : p'.Honest := by
  cases hc with
  | start =>
    refine h.of_lasts (.refl p) fun d k answer hk hp => ?_
    rcases enrol_cases hk with hk | ⟨-, rfl⟩
    · exact .inl hk
    · cases hp
  | run found turn => exact h.turn hs found turn
  | abandon found =>
    refine h.of_lasts (.refl p) fun d k' answer hk' hp => ?_
    rcases (moves_setPhase rfl _ _).cases found hk' with ⟨-, rfl⟩ | ⟨-, hk'⟩
    · cases hp
    · exact .inl hk'
  | around => exact ⟨h.returned, h.observed⟩

theorem release (h : p.Honest) : p.release.Honest :=
  h.of_lasts (lasts_release p) fun _ _ _ hk _ => .inl (call?_release p _ ▸ hk)

end Honest

theorem honest_initial : ({} : Pool).Honest where
  returned c k n answer hk := by cases hk
  observed c k n answer hk := by cases hk

theorem honest_of_reachable (hp : p.Reachable) : p.Honest :=
  (hp.induction (P := fun p => p.Staged ∧ p.Honest) ⟨staged_initial, honest_initial⟩
    fun _ _ _ hcoherent h hc =>
      ⟨(h.1.course hcoherent hc).release, (h.2.course h.1 hc).release⟩).2.2

/-! ### What nothing refers to -/

theorem isReferenced_release (p : Pool) (n : Nat) : p.release.isReferenced n = p.isReferenced n :=
  release_induction (P := fun q => q.isReferenced n = p.isReferenced n) rfl fun q m hq _ =>
    (isReferenced_closeConnection q m n).trans hq

theorem length_release (p : Pool) : p.release.connections.length = p.connections.length :=
  release_induction (P := fun q => q.connections.length = p.connections.length) rfl fun q m hq _ =>
    (length_closeConnection q m).trans hq

theorem exists_closed_closeConnection (hn : n < p.connections.length) :
    ∃ x, (p.closeConnection n).connection? n = some x ∧ x.closed = true := by
  obtain ⟨x, hx⟩ := exists_connection? hn
  cases hc : x.closed with
  | true => exact (lasts_closeConnection p n).exists_closed ⟨x, hx, hc⟩
  | false =>
    refine ⟨x.close, ?_, ?_⟩
    · rw [closeConnection_eq hx hc]
      exact (connection?_change hx Connection.close n).trans (if_pos rfl)
    · simp [Connection.close, hc, Connection.mark, Connection.retire, Connection.release]

/-- Every connection among those looked at that nothing refers to is closed afterwards. -/
theorem exists_closed_sweep {ns : List Nat} (hmem : n ∈ ns) (hn : n < p.connections.length)
    (hr : p.isReferenced n = false) :
    ∃ x, (p.sweep ns).connection? n = some x ∧ x.closed = true := by
  induction ns generalizing p with
  | nil => cases hmem
  | cons m ns ih =>
    rw [sweep_cons]
    rcases List.mem_cons.1 hmem with rfl | hmem
    · rw [hr, if_neg Bool.false_ne_true]
      exact (lasts_sweep _ ns).exists_closed (exists_closed_closeConnection hn)
    · split_ifs
      · exact ih hmem hn hr
      · exact ih hmem (by rwa [length_closeConnection]) (by rwa [isReferenced_closeConnection])

theorem exists_closed_release (hn : n < p.connections.length) (hr : p.isReferenced n = false) :
    ∃ x, p.release.connection? n = some x ∧ x.closed = true :=
  exists_closed_sweep (List.mem_range.2 hn) hn hr

/-- Between steps, what nothing refers to is closed. -/
theorem exists_closed_of_reachable (hp : p.Reachable) (hn : n < p.connections.length)
    (hr : p.isReferenced n = false) : ∃ x, p.connection? n = some x ∧ x.closed = true := by
  refine (hp.induction (P := fun p => ∀ n < p.connections.length, p.isReferenced n = false →
    ∃ x, p.connection? n = some x ∧ x.closed = true) nofun ?_).2 n hn hr
  intro a q q₁ _ _ _ n hn hr
  rw [length_release] at hn
  rw [isReferenced_release] at hr
  exact exists_closed_release hn hr

end LeaderRouting.Pool
