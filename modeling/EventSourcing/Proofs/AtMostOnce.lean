import EventSourcing.Proofs.Atomicity

/-!
# Replayed commands take effect at most once

A snapshot has the number of the last command that took effect, and a command of a replay with this
number or a smaller one is passed over. So whatever is replayed, and in whatever order, the numbers of
the commands that take effect rise, and what was replayed to its end is replayed again in vain.
-/

namespace EventSourcing

open EventSourcing.Sequential

theorem SnapshotTable.Reachable.putBack {S : Type} [Snapshot S] {table table' : SnapshotTable S}
    {previous : Option S} {persisted : S} (h : table.Reachable)
    (hb : table.putBack previous persisted = .ok table') : table'.Reachable := by
  cases previous with
  | none => exact h.delete hb
  | some previous =>
      obtain rfl := Except.ok.inj hb
      exact h.persist rfl

namespace Saga

variable {σ C E S : Type} [PayloadKind C] [PayloadKind E] [Snapshot S]
  {saga : Saga (Sequential σ) C E S} {table : Cell σ (SnapshotTable S)}

/-! ## One command -/

section

variable {command : Envelope C} {s : Session σ}

/-- A saga has nothing to do with a command: it does not handle its type, or it is reflected
already. -/
def PassesOver (saga : Saga (Sequential σ) C E S) (table : Cell σ (SnapshotTable S))
    (command : Envelope C) (state : σ) : Prop :=
  saga.handles command.payloadType = false ∨
    reflects ((table.get state).find command.entity.id) command = true

/-- A saga accepts a command, every event of the outcome is taken by every view, and the snapshot is
there in the end. -/
structure Applies (saga : Saga (Sequential σ) C E S) (table : Cell σ (SnapshotTable S))
    (command : Envelope C) (s : Session σ) (state' : σ) : Prop where
  delivered : ∃ outcome events table',
    (runOn (saga.decide ((table.get s.state).find command.entity.id) command) s).1 = .ok outcome ∧
    command.Derived outcome.events events ∧
    EventQueue.Rounds saga.events.dispatcher.subscribers events
      (table.set table'
        (runOn (saga.decide ((table.get s.state).find command.entity.id) command) s).2.state)
      state'
  stored : ∃ snapshot, (table.get state').find command.entity.id = some snapshot ∧
    Snapshot.version snapshot = command.sequenceNo

/-- How a saga can be done with a command: with which result, in which session. -/
inductive Ending (saga : Saga (Sequential σ) C E S) (table : Cell σ (SnapshotTable S))
    (command : Envelope C) (s : Session σ) : Except DomainError Unit × Session σ → Prop
  | passedOver (hp : saga.PassesOver table command s.state) (trace : List Trace.Entry) :
      Ending saga table command s (.ok (), { s with trace })
  | failed {failure : DomainError} {s' : Session σ}
      (hf : ∀ id, (table.get s'.state).find id = (table.get s.state).find id) :
      Ending saga table command s (.error failure, s')
  | applied {s' : Session σ} (hp : ¬ saga.PassesOver table command s.state)
      (ha : saga.Applies table command s s'.state) :
      Ending saga table command s (.ok (), s')

theorem exec_handle_of_passesOver (h : saga.snapshots = SnapshotTable.store table)
    (hp : saga.PassesOver table command s.state) :
    ∃ trace, exec (saga.handle command) s = (.ok (), { s with trace }) := by
  unfold handle
  split
  · rename_i hh
    have hr := hp.resolve_left (by simp [hh])
    simp only [h, SnapshotTable.store, exec_bind, exec_sure, runOn_look, hr, if_true, exec_note]
    exact ⟨_, rfl⟩
  · exact ⟨s.trace, rfl⟩

theorem applies_of_ok (h : saga.Housed table) (hreach : (table.get s.state).Reachable)
    (hp : ¬ saga.PassesOver table command s.state)
    (hok : (exec (saga.handle command) s).1 = .ok ()) :
    saga.Applies table command s (exec (saga.handle command) s).2.state := by
  obtain ⟨hh, hr⟩ := not_or.1 hp
  rw [Bool.not_eq_false] at hh
  rw [Bool.not_eq_true] at hr
  cases hd : runOn (saga.decide ((table.get s.state).find command.entity.id) command) s with
  | mk decision s' =>
      cases decision with
      | error refusal =>
          have hrefused := (handle_of_refusal h.snapshots hh hr hd).1
          cases hrefused.symm.trans hok
      | ok outcome =>
          have hfind := find_of_handle h hh hreach hr hd command.entity.id
          rw [if_pos ⟨hok, rfl⟩] at hfind
          have happlied := application_of_handle h hh hr hd
          rw [hok] at happlied
          refine ⟨?_, _, hfind, Snapshot.version_withVersion _ _⟩
          rw [hd]
          cases happlied with
          | applied _ he hy =>
              obtain ⟨given, hgiven⟩ := EventQueue.distribution hy
              cases hgiven with
              | through hrounds => exact ⟨outcome, _, _, rfl, he, hrounds⟩

theorem ending (h : saga.Housed table) (hreach : (table.get s.state).Reachable) :
    saga.Ending table command s (exec (saga.handle command) s) := by
  by_cases hp : saga.PassesOver table command s.state
  · obtain ⟨trace, ht⟩ := exec_handle_of_passesOver h.snapshots hp
    rw [ht]
    exact .passedOver hp trace
  · have hfailed {failure : DomainError} (hf : (exec (saga.handle command) s).1 = .error failure) :=
      find_of_failed h hreach hf
    have happlied := applies_of_ok h hreach hp
    generalize exec (saga.handle command) s = handled at hfailed happlied ⊢
    obtain ⟨failure | ⟨⟩, s'⟩ := handled
    · exact .failed (hfailed rfl)
    · exact .applied hp (happlied rfl)

omit [PayloadKind C] in
theorem reachable_of_application (h : saga.Housed table) {state state' : σ} {outcome : Outcome S E}
    {result : Except DomainError Unit} (hreach : (table.get state).Reachable)
    (ha : Application saga table command outcome state result state') :
    (table.get state').Reachable := by
  cases ha with
  | applied hp _ hy =>
      rw [h.table_of_publishAll hy]
      exact hreach.persist hp
  | undone hp _ hy =>
      have hbetween := h.table_of_publishAll hy
      unfold restored
      split
      · rename_i hback
        rw [hbetween] at hback
        rw [table.get_set]
        exact (hreach.persist hp).putBack hback
      · rw [hbetween]
        exact hreach.persist hp

theorem reachable_of_handle (h : saga.Housed table) (hreach : (table.get s.state).Reachable) :
    (table.get (exec (saga.handle command) s).2.state).Reachable := by
  by_cases hp : saga.PassesOver table command s.state
  · obtain ⟨trace, ht⟩ := exec_handle_of_passesOver h.snapshots hp
    rw [ht]
    exact hreach
  obtain ⟨hh, hr⟩ := not_or.1 hp
  rw [Bool.not_eq_false] at hh
  rw [Bool.not_eq_true] at hr
  cases hd : runOn (saga.decide ((table.get s.state).find command.entity.id) command) s with
  | mk decision s' =>
      have hkept : table.get s'.state = table.get s.state := by
        rw [← h.decide_keeps _ command s, hd]
      rw [← hkept] at hreach
      cases decision with
      | error refusal =>
          rw [(handle_of_refusal h.snapshots hh hr hd).2]
          exact hreach
      | ok outcome => exact reachable_of_application h hreach (application_of_handle h hh hr hd)

end

/-! ## Versions -/

/-- A snapshot is found for an entity, and its version is at least a number. -/
def IsPast (table : Cell σ (SnapshotTable S)) (entity n : Int64) (state : σ) : Prop :=
  ∃ snapshot, (table.get state).find entity = some snapshot ∧
    n.toInt ≤ (Snapshot.version snapshot).toInt

section

variable {command : Envelope C} {s : Session σ} {handled : Except DomainError Unit × Session σ}

omit [PayloadKind C] in
theorem reflects_iff (hr : command.isReplay = true) {state : σ} :
    reflects ((table.get state).find command.entity.id) command = true ↔
      IsPast table command.entity.id command.sequenceNo state := by
  unfold reflects IsPast
  rw [hr, Bool.true_and, Option.any_eq_true]
  simp

omit [PayloadKind C] in
theorem Applies.isPast {state' : σ} (h : saga.Applies table command s state') :
    IsPast table command.entity.id command.sequenceNo state' := by
  obtain ⟨snapshot, hf, hv⟩ := h.stored
  exact ⟨snapshot, hf, hv ▸ Int.le_refl _⟩

theorem Ending.isPast (h : saga.Ending table command s handled) (hr : command.isReplay = true)
    {n : Int64} (hn : IsPast table command.entity.id n s.state) :
    IsPast table command.entity.id n handled.2.state := by
  cases h with
  | passedOver => exact hn
  | failed hf =>
      unfold IsPast
      rw [hf]
      exact hn
  | applied hp ha =>
      -- The command was not reflected, so its number is greater than the version before.
      obtain ⟨before, hb, hle⟩ := hn
      obtain ⟨after, hafter, hv⟩ := ha.stored
      refine ⟨after, hafter, hv ▸ Int.le_trans hle (Int.not_lt.1 fun hlt => hp (.inr ?_))⟩
      exact (reflects_iff hr).2 ⟨before, hb, Int.le_of_lt hlt⟩

/-- A command of a replay takes effect if it is not passed over and does not fail. -/
theorem Ending.changed_iff (h : saga.Ending table command s handled)
    (hr : command.isReplay = true) :
    (table.get handled.2.state).find command.entity.id ≠
        (table.get s.state).find command.entity.id ↔
      handled.1 = .ok () ∧ ¬ saga.PassesOver table command s.state := by
  cases h with
  | passedOver hp => simp [hp]
  | failed hf => simp [hf]
  | applied hp ha =>
      refine iff_of_true (fun hsame => hp (.inr ?_)) ⟨rfl, hp⟩
      obtain ⟨snapshot, hf, hv⟩ := ha.stored
      exact (reflects_iff hr).2 ⟨snapshot, hsame ▸ hf, hv ▸ Int.le_refl _⟩

end

/-! ## Commands one after the other -/

/-- Hands commands to a saga, whether it fails at some of them or not. -/
def delivery (saga : Saga (Sequential σ) C E S) (commands : List (Envelope C)) :
    Sequential σ (List (Except DomainError Unit)) :=
  Host.together (commands.map fun command => Host.attempt (saga.handle command))

def delivered (saga : Saga (Sequential σ) C E S) (s : Session σ) (commands : List (Envelope C)) :
    Session σ :=
  (runOn (saga.delivery commands) s).2

/-- The commands that change the snapshot of their entity for good. -/
def effective [DecidableEq S] (saga : Saga (Sequential σ) C E S) (table : Cell σ (SnapshotTable S)) :
    Session σ → List (Envelope C) → List (Envelope C)
  | _, [] => []
  | s, command :: commands =>
    let handled := (exec (saga.handle command) s).2
    if (table.get handled.state).find command.entity.id = (table.get s.state).find command.entity.id
    then effective saga table handled commands
    else command :: effective saga table handled commands

/-- Commands of a replay, all for one entity. -/
def Replayed (entity : Int64) (commands : List (Envelope C)) : Prop :=
  ∀ command ∈ commands, command.entity.id = entity ∧ command.isReplay = true

instance (entity : Int64) (commands : List (Envelope C)) : Decidable (Replayed entity commands) :=
  inferInstanceAs (Decidable (∀ command ∈ commands, _))

section

variable {entity : Int64} {s : Session σ} {commands : List (Envelope C)}

theorem delivered_cons (saga : Saga (Sequential σ) C E S) (s : Session σ) (command : Envelope C)
    (commands : List (Envelope C)) :
    saga.delivered s (command :: commands) =
      saga.delivered (exec (saga.handle command) s).2 commands := rfl

theorem delivered_append (saga : Saga (Sequential σ) C E S) (s : Session σ)
    (front rest : List (Envelope C)) :
    saga.delivered s (front ++ rest) = saga.delivered (saga.delivered s front) rest := by
  induction front generalizing s with
  | nil => rfl
  | cons command front ih =>
      rw [List.cons_append, delivered_cons, delivered_cons, ih]

theorem reachable_delivered (h : saga.Housed table) (hreach : (table.get s.state).Reachable)
    (commands : List (Envelope C)) :
    (table.get (saga.delivered s commands).state).Reachable := by
  induction commands generalizing s with
  | nil => exact hreach
  | cons command commands ih => exact ih (reachable_of_handle h hreach)

theorem isPast_delivered (h : saga.Housed table) (hreach : (table.get s.state).Reachable)
    (hc : Replayed entity commands) {n : Int64} (hn : IsPast table entity n s.state) :
    IsPast table entity n (saga.delivered s commands).state := by
  induction commands generalizing s with
  | nil => exact hn
  | cons command commands ih =>
      obtain ⟨⟨he, hr⟩, hc⟩ := List.forall_mem_cons.1 hc
      subst he
      exact ih (reachable_of_handle h hreach) hc ((ending h hreach).isPast hr hn)

theorem not_isPast_of_mem_effective [DecidableEq S] (h : saga.Housed table)
    (hreach : (table.get s.state).Reachable) (hc : Replayed entity commands)
    {command : Envelope C} (hm : command ∈ saga.effective table s commands) :
    ¬ IsPast table entity command.sequenceNo s.state := by
  induction commands generalizing s with
  | nil => cases hm
  | cons first commands ih =>
      obtain ⟨⟨he, hr⟩, hc⟩ := List.forall_mem_cons.1 hc
      subst he
      have hend : saga.Ending table first s (exec (saga.handle first) s) := ending h hreach
      have hlater (hm : command ∈ saga.effective table (exec (saga.handle first) s).2 commands) :
          ¬ IsPast table first.entity.id command.sequenceNo s.state := by
        intro hn
        exact ih (reachable_of_handle h hreach) hc hm (hend.isPast hr hn)
      rw [effective] at hm
      split at hm
      · exact hlater hm
      · rename_i hchanged
        rcases List.mem_cons.1 hm with rfl | hm
        · intro hn
          exact ((hend.changed_iff hr).1 hchanged).2 (.inr ((reflects_iff hr).2 hn))
        · exact hlater hm

/-- Whatever the order, the numbers of the commands that take effect rise. -/
theorem pairwise_effective [DecidableEq S] (h : saga.Housed table)
    (hreach : (table.get s.state).Reachable) (hc : Replayed entity commands) :
    ((saga.effective table s commands).map fun command => command.sequenceNo.toInt).Pairwise
      (· < ·) := by
  induction commands generalizing s with
  | nil => exact .nil
  | cons first commands ih =>
      obtain ⟨⟨he, hr⟩, hc⟩ := List.forall_mem_cons.1 hc
      subst he
      have hreach' : (table.get (exec (saga.handle first) s).2.state).Reachable :=
        reachable_of_handle h hreach
      have hrest := ih hreach' hc
      rw [effective]
      split
      · exact hrest
      · rename_i hchanged
        have hend : saga.Ending table first s (exec (saga.handle first) s) := ending h hreach
        obtain ⟨hok, hp⟩ := (hend.changed_iff hr).1 hchanged
        have happlied := applies_of_ok h hreach hp hok
        refine List.pairwise_cons.2 ⟨fun n hn => ?_, hrest⟩
        obtain ⟨command, hm, rfl⟩ := List.mem_map.1 hn
        apply Int.not_le.1
        intro hle
        have hnot := not_isPast_of_mem_effective h hreach' hc hm
        obtain ⟨snapshot, hf, hv⟩ := happlied.stored
        exact hnot ⟨snapshot, hf, hv ▸ hle⟩

/-! ## A second time -/

theorem passesOver_delivered (h : saga.Housed table) (hreach : (table.get s.state).Reachable)
    (hc : Replayed entity commands)
    (hok : ∀ result ∈ (runOn (saga.delivery commands) s).1, result = .ok ()) :
    ∀ command ∈ commands, saga.PassesOver table command (saga.delivered s commands).state := by
  induction commands generalizing s with
  | nil => simp
  | cons first commands ih =>
      have hreach' : (table.get (exec (saga.handle first) s).2.state).Reachable :=
        reachable_of_handle h hreach
      obtain ⟨⟨he, hr⟩, hc⟩ := List.forall_mem_cons.1 hc
      subst he
      obtain ⟨hfirst, hrest⟩ := List.forall_mem_cons.1 hok
      rw [delivered_cons]
      refine List.forall_mem_cons.2 ⟨?_, ih hreach' hc hrest⟩
      have hpast (hn : IsPast table first.entity.id first.sequenceNo
          (exec (saga.handle first) s).2.state) :=
        (reflects_iff hr).2 (isPast_delivered h hreach' hc hn)
      by_cases hp : saga.PassesOver table first s.state
      · rcases hp with hh | hp
        · exact .inl hh
        · exact .inr (hpast ((ending h hreach).isPast hr ((reflects_iff hr).1 hp)))
      · exact .inr (hpast (applies_of_ok h hreach hp hfirst).isPast)

theorem runOn_delivery_of_passesOver (h : saga.snapshots = SnapshotTable.store table)
    (hp : ∀ command ∈ commands, saga.PassesOver table command s.state) :
    ∃ trace, runOn (saga.delivery commands) s =
      (commands.map fun _ => .ok (), { s with trace }) := by
  induction commands generalizing s with
  | nil => exact ⟨s.trace, rfl⟩
  | cons first commands ih =>
      obtain ⟨hfirst, hrest⟩ := List.forall_mem_cons.1 hp
      obtain ⟨trace, ht⟩ := exec_handle_of_passesOver h hfirst
      obtain ⟨trace', hrun⟩ := ih (s := { s with trace }) hrest
      refine ⟨trace', ?_⟩
      unfold delivery at hrun ⊢
      rw [List.map_cons, runOn_together_cons, runOn_attemptThis, ht, hrun]
      rfl

end

/-! ## The saga of accounts -/

/-- Whatever its views make of the events, and in whatever order it is given the commands of a replay:
the numbers of those that take effect rise, and the version of the account never falls. A command that
the account is past changes nothing, and nothing is told of it; of the others those take effect that do
not fail, and then every event is taken by every view. What was taken to its end without a failure is
passed over when it comes again. -/
theorem applied_at_most_once (accounts : Cell σ (SnapshotTable Account))
    (events : EventQueue (Sequential σ) Account.Event)
    (hk : ∀ view ∈ events.dispatcher.subscribers, view.Keeps accounts.get) (s : Session σ)
    (hreach : (accounts.get s.state).Reachable) (entity : Int64)
    (commands : List (Envelope Account.Command)) (hc : Replayed entity commands) :
    let saga := Account.saga (SnapshotTable.store accounts) events
    let reached := saga.delivered s
    let found (t : Session σ) := (accounts.get t.state).find entity
    ((saga.effective accounts s commands).map fun command => command.sequenceNo.toInt).Pairwise
      (· < ·) ∧
    (∀ front rest, commands = front ++ rest → ∀ account, found (reached front) = some account →
      ∃ later, found (reached commands) = some later ∧
        account.version.toInt ≤ later.version.toInt) ∧
    (∀ front command rest, commands = front ++ command :: rest →
      let t := reached front
      let handled := exec (saga.handle command) t
      (IsPast accounts entity command.sequenceNo t.state →
        ∃ trace, handled = (.ok (), { t with trace })) ∧
      (found handled.2 ≠ found t ↔
        handled.1 = .ok () ∧ ¬ IsPast accounts entity command.sequenceNo t.state) ∧
      (found handled.2 ≠ found t → saga.Applies accounts command t handled.2.state)) ∧
    ((∀ result ∈ (runOn (saga.delivery commands) s).1, result = .ok ()) →
      ∃ trace, runOn (saga.delivery commands) (reached commands) =
        (commands.map fun _ => .ok (), { reached commands with trace })) := by
  intro saga reached found
  have h : saga.Housed accounts := housed_account hk
  refine ⟨pairwise_effective h hreach hc, ?_, ?_, fun hok => ?_⟩
  · rintro front rest rfl account hf
    have hrest : Replayed entity rest := fun command hm => hc command (List.mem_append_right _ hm)
    have hpast : IsPast accounts entity account.version (reached front).state :=
      ⟨account, hf, Int.le_refl _⟩
    have hlater := isPast_delivered h (reachable_delivered h hreach front) hrest hpast
    rw [← delivered_append] at hlater
    exact hlater
  · rintro front command rest rfl
    intro t handled
    obtain ⟨rfl, hr⟩ := hc command (by simp)
    have hend : saga.Ending accounts command t handled :=
      ending h (reachable_delivered h hreach front)
    have hpassed : saga.PassesOver accounts command t.state ↔
        IsPast accounts command.entity.id command.sequenceNo t.state := by
      unfold PassesOver
      rw [Account.saga_handles, reflects_iff hr]
      simp
    have hchanged := hend.changed_iff hr
    rw [hpassed] at hchanged
    refine ⟨fun hp => exec_handle_of_passesOver h.snapshots (hpassed.2 hp), hchanged, fun hne => ?_⟩
    obtain ⟨hok, hp⟩ := hchanged.1 hne
    exact applies_of_ok h (reachable_delivered h hreach front) (mt hpassed.1 hp) hok
  · exact runOn_delivery_of_passesOver h.snapshots (passesOver_delivered h hreach hc hok)

/-- A view that takes no withdrawals. -/
def savers {σ : Type} : Subscriber (Sequential σ) Account.Event where
  name := "savers"
  handle event :=
    if event.payloadType = "account.withdrawn" then throw (.ruleViolation "nothing is paid out")
    else pure ()

/-- Commands of a replay for one account, out of order and some of them twice. -/
def shuffled : List (Envelope Account.Command) :=
  let command (sequenceNo : Int64) (payload : Account.Command) : Envelope Account.Command :=
    ((Envelope.new (.existing 1) payload (.new ⟨7⟩ Books.epoch)).atSequenceNo sequenceNo).intoReplay
  [command 3 (.create ⟨"Ada", 10⟩), command 2 (.deposit ⟨1⟩), command 8 (.withdraw ⟨4⟩),
    command 5 (.deposit ⟨2⟩), command 3 (.create ⟨"Ada", 10⟩), command 5 (.deposit ⟨2⟩),
    command 7 (.deposit ⟨6⟩)]

/-- A withdrawal that is not taken by the view is undone, so that a smaller number counts later. -/
theorem applied_at_most_once_of_shuffled :
    let saga := Account.saga (SnapshotTable.store Cell.first)
      (.ofSubscribers [.recorder "events" Cell.second, savers])
    let start : Session (SnapshotTable Account × List (Envelope Account.Event)) :=
      { state := ({}, []) }
    ((saga.effective Cell.first start shuffled).map fun command => command.sequenceNo.toInt) =
        [3, 5, 7] ∧
      [3, 5, 7].Pairwise (fun a b : Int => a < b) := by
  intro saga start
  have hk : ∀ view ∈ saga.events.dispatcher.subscribers, view.Keeps (Cell.first.get) := by
    intro view hv
    rcases List.mem_pair.1 hv with rfl | rfl
    · exact Subscriber.recorder_keeps _ fun _ _ => rfl
    · intro event s
      simp only [savers]
      split <;> rfl
  obtain ⟨hrise, -⟩ := applied_at_most_once Cell.first saga.events hk start .empty 1 shuffled
    (by decide +kernel)
  have heffective : ((saga.effective Cell.first start shuffled).map fun command =>
      command.sequenceNo.toInt) = [3, 5, 7] := by decide +kernel
  exact ⟨heffective, heffective ▸ hrise⟩

end Saga

end EventSourcing
