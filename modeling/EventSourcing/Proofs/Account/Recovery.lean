import EventSourcing.Proofs.Account.Page
import EventSourcing.Proofs.Account.Refusals
import Mathlib.Data.List.Induction

/-!
# Recovering what was lost

Accounts and summaries that were lost are built anew by a replay, as long as the history opens the
account once. The history is not looked at when an account is opened, only the account is: an account
that was lost can be opened a second time before it is built anew, and then no replay gets past the
second opening.
-/

namespace EventSourcing

open EventSourcing.Sequential
open Account (Command Event)

/-! ## Histories that open an account once -/

namespace Account

/-- No record but the first opens the account. -/
def OpensOnce (history : List StoredCommand) : Prop :=
  ∀ record ∈ history.tail, record.commandType ≠ "account.create"

instance (history : List StoredCommand) : Decidable (OpensOnce history) :=
  inferInstanceAs (Decidable (∀ record ∈ history.tail, record.commandType ≠ "account.create"))

theorem opensOnce_concat_iff {history : List StoredCommand} {record : StoredCommand} :
    OpensOnce (history ++ [record]) ↔
      OpensOnce history ∧ (history ≠ [] → record.commandType ≠ "account.create") := by
  cases history with
  | nil => simp [OpensOnce]
  | cons first rest => simp [OpensOnce, or_imp, forall_and]

theorem exists_of_not_opensOnce {history : List StoredCommand} (h : ¬OpensOnce history) :
    ∃ front record rest, history = front ++ record :: rest ∧ front ≠ [] ∧ OpensOnce front ∧
      record.commandType = "account.create" := by
  induction history using List.reverseRecOn with
  | nil => exact absurd (List.forall_mem_nil _) h
  | append_singleton history last ih =>
      by_cases ho : OpensOnce history
      · rw [opensOnce_concat_iff, not_and] at h
        obtain ⟨hn, ht⟩ := Classical.not_imp.1 (h ho)
        exact ⟨history, last, [], rfl, hn, ho, not_not.1 ht⟩
      · obtain ⟨front, record, rest, rfl, hfront⟩ := ih ho
        exact ⟨front, record, rest ++ [last], by simp, hfront⟩

theorem exists_create {payload : Command} (h : typeName payload = "account.create") :
    ∃ created, payload = .create created := by
  cases payload with
  | create created => exact ⟨created, rfl⟩
  | deposit | withdraw | close => simp [typeName] at h

theorem Decision.payloadType_of_none {payload : Command} {outcome : Outcome Account Event}
    (h : Decision none payload outcome) : typeName payload = "account.create" := by
  cases h with
  | opened => rfl
  | paidIn hc | paidOut hc | closed hc => cases hc

/-- What is known of an entity whose account may have been lost: its records can be read, and as long
as they open the account once they describe it, and it is lost or up to date. -/
structure Recoverable (entity : Int64) (history : List StoredCommand) (stored : Option Account) :
    Prop where
  valid : history ≠ [] → (EntityReference.existing entity).validate = .ok ()
  readable : ∀ record ∈ history, ∃ command, commandDecoders.decodeStored record = .ok command
  fronts : ∀ front rest, history = front ++ rest → OpensOnce front →
    ∃ account, ofHistory front = .ok account
  stored : OpensOnce history → stored = none ∨ UpToDate entity history stored

theorem recoverable_nil (entity : Int64) : Recoverable entity [] none where
  valid h := absurd rfl h
  readable := List.forall_mem_nil _
  fronts front rest h _ := by
    obtain rfl : front = [] := (List.append_eq_nil_iff.1 h.symm).1
    exact ⟨none, rfl⟩
  stored _ := .inl rfl

variable {history : List StoredCommand} {stored : Option Account} {command : Envelope Command}
  {outcome : Outcome Account Event} {record : StoredCommand}

/-- What is decided on a lost account was decided on the history as well, if it opens the account
once. -/
theorem Recoverable.upToDate_of_rule (h : Recoverable command.entity.id history stored)
    (hd : rule stored command = .ok outcome) (ht : record.commandType = command.payloadType)
    (ho : OpensOnce (history ++ [record])) : UpToDate command.entity.id history stored := by
  obtain ⟨hfront, hlast⟩ := opensOnce_concat_iff.1 ho
  rcases h.stored hfront with rfl | hu
  · have hcreate : record.commandType = "account.create" :=
      ht.trans (decision_of_rule hd).payloadType_of_none
    obtain rfl : history = [] := not_not.1 fun hn => hlast hn hcreate
    exact upToDate_nil _
  · exact hu

theorem Recoverable.concat (h : Recoverable command.entity.id history stored)
    (hv : command.entity.validate = .ok ()) (hd : rule stored command = .ok outcome)
    (hr : RecordOf record command) (ht : record.commandType = command.payloadType) :
    Recoverable command.entity.id (history ++ [record])
      (some (Snapshot.stamped command.entity.id command.sequenceNo outcome.snapshot)) := by
  have hnext (ho : OpensOnce (history ++ [record])) := (h.upToDate_of_rule hd ht ho).concat hd hr
  refine ⟨fun _ => EntityReference.validate_existing_iff.2 hv, fun r hm => ?_,
    fun front rest hfront ho => ?_, fun ho => .inr (hnext ho)⟩
  · rcases List.mem_append.1 hm with hm | hm
    · exact h.readable r hm
    · rw [List.mem_singleton.1 hm]
      exact ⟨_, hr.payload⟩
  · rcases List.eq_nil_or_concat rest with rfl | ⟨rest, last, rfl⟩
    · rw [List.append_nil] at hfront
      subst hfront
      obtain ⟨account, ha, -⟩ := hnext ho
      exact ⟨account, ha⟩
    · rw [List.concat_eq_append, ← List.append_assoc] at hfront
      exact h.fronts front rest (List.append_inj' hfront rfl).1 ho

end Account

theorem Folio.rule_of_absorb {folio folio' : Folio} {command : Envelope Command}
    (h : folio.absorb command = .ok folio') :
    ∃ outcome, Account.rule folio.account command = .ok outcome ∧ folio'.account =
      some (Snapshot.stamped command.entity.id command.sequenceNo outcome.snapshot) := by
  obtain ⟨outcome, hd, hrest⟩ := ok_of_bind h
  obtain ⟨summary, -, hend⟩ := ok_of_bind hrest
  cases hend
  exact ⟨outcome, hd, rfl⟩

namespace Books

variable {books books' : Books} {entity : Int64} {now : Instant}

/-! ## Building anew -/

theorem folio_of_lost (hn : books.accounts.find entity = none) :
    (books.folio entity).Follows entity [] := by
  rw [folio, hn]
  exact Folio.follows_nil entity _

/-- The beginning of a history that the rules accept is handed out to a lost account. -/
theorem redelivered_of_lost {history : List StoredCommand} {account : Option Account}
    (hv : (EntityReference.existing entity).validate = .ok ())
    (hn : books.accounts.find entity = none) (hg : CommandLog.Gapless entity history)
    (ha : Account.ofHistory history = .ok account) {result : Except DomainError Unit}
    (hr : CommandBus.Redelivery (serviceAt now).bus history books result books') :
    result = .ok () ∧ (books'.folio entity).Follows entity history := by
  have hlost := folio_of_lost hn
  rw [← List.nil_append history] at ha hg
  obtain ⟨folio', hw, hf⟩ := hlost.catchUp ha hg
  obtain ⟨hok, -, -, hfolio⟩ :=
    redelivered hv (fun _ hm => hg.entityId_of_mem hm) hlost.belongsTo hw hr
  exact ⟨hok, hfolio ▸ hf⟩

theorem redelivery_of_reopened {front rest : List StoredCommand} {record : StoredCommand}
    {account : Option Account} (hv : (EntityReference.existing entity).validate = .ok ())
    (hn : books.accounts.find entity = none)
    (hg : CommandLog.Gapless entity (front ++ record :: rest))
    (ha : Account.ofHistory front = .ok account) (hf : front ≠ []) {command : Envelope Command}
    (hc : Account.commandDecoders.decodeStored record = .ok command)
    (ht : record.commandType = "account.create") {result : Except DomainError Unit}
    (hr : CommandBus.Redelivery (serviceAt now).bus (front ++ record :: rest) books result
      books') : result = .error (Account.Refusal.alreadyExists entity).toError := by
  rw [List.append_cons] at hg
  have hrecord := Account.recordOf_of_decodeStored hc
  obtain ⟨he, hnumber⟩ := hg.front.last
  rcases hr.of_append with ⟨failure, rfl, hfront⟩ | ⟨between, hfront, hlast⟩
  · cases (redelivered_of_lost hv hn hg.front.front ha hfront).1
  obtain ⟨-, hfollows⟩ := redelivered_of_lost hv hn hg.front.front ha hfront
  -- The account is there again, so that the next record cannot open it.
  have haccept : (between.folio entity).accept command =
      .error (Account.Refusal.alreadyExists entity).toError := by
    obtain ⟨found, hfound⟩ := Option.isSome_iff_exists.1 (hfollows.account.isSome_iff.2 hf)
    obtain ⟨created, hp⟩ :=
      Account.exists_create ((Account.payloadType_of_decodeStored hc).trans ht)
    refine Folio.accept_of_refused _
      (hfollows.account.reflects_next hg.front.front (hrecord.sequenceNo ▸ hnumber)) ?_
    rw [hfound, Account.rule, hp, ← he, hrecord.entityId]
    rfl
  cases hlast with
  | unreadable _ hu => cases hc.symm.trans hu
  | refused hd' hd =>
      cases hc.symm.trans hd'
      obtain ⟨rfl, hdel⟩ := delivered_of_record hv he hfollows.belongsTo hc hd
      exact congrArg Except.error (Except.error.inj (hdel.accept_of_error.symm.trans haccept))
  | onward hd' hd =>
      cases hc.symm.trans hd'
      obtain ⟨rfl, hdel⟩ := delivered_of_record hv he hfollows.belongsTo hc hd
      cases hdel.accept_of_ok.symm.trans haccept

/-! ## What always holds -/

structure Recoverable (books : Books) : Prop where
  filed : books.Filed
  recoverable : ∀ entity,
    Account.Recoverable entity (books.commands.load entity) (books.accounts.find entity)

theorem recoverable_empty : Recoverable {} := by
  refine ⟨kept_empty.filed, fun entity => ?_⟩
  have hload : CommandLog.load {} entity = [] := by simp [CommandLog.load]
  rw [hload]
  exact Account.recoverable_nil entity

theorem Recoverable.of_same (h : books.Recoverable)
    (hl : books'.commands.load entity = books.commands.load entity)
    (hf : books'.folio entity = books.folio entity) :
    Account.Recoverable entity (books'.commands.load entity) (books'.accounts.find entity) := by
  have hfind : books'.accounts.find entity = books.accounts.find entity :=
    congrArg Folio.account hf
  rw [hl, hfind]
  exact h.recoverable entity

theorem Recoverable.of_recorded (h : books.Recoverable) {command : Envelope Command}
    (hv : command.validate = .ok ()) (live : command.isReplay = false)
    (hd : (serviceAt now).bus.HandsOut command books (.ok ()) books') {log' : CommandLog}
    (ha : books.commands.append (Account.entry command now) = .ok log') :
    Account.Recoverable command.entity.id (log'.load command.entity.id)
      (books'.accounts.find command.entity.id) := by
  have haccept := (h.filed.delivered hv hd).accept_of_ok
  rw [Folio.accept_eq_absorb _ (by simp [Saga.reflects, live])] at haccept
  obtain ⟨outcome, hrule, hstored⟩ := Folio.rule_of_absorb haccept
  change books'.accounts.find command.entity.id = _ at hstored
  rw [Account.load_of_append_entry ha, if_pos rfl, hstored]
  exact (h.recoverable command.entity.id).concat (Envelope.validate_entity hv) hrule
    (Account.recordOf_entry command now) rfl

theorem Recoverable.publication (h : books.Recoverable) {command : Envelope Command}
    (live : command.isReplay = false) {result : Except DomainError (Envelope Command)}
    (hp : CommandBus.Publication (serviceAt now).bus commandsPart command books result books') :
    books'.Recoverable := by
  refine ⟨h.filed.publication hp, fun entity => ?_⟩
  by_cases he : entity = command.entity.id
  · subst he
    cases result with
    | error failure =>
        obtain ⟨hcommands, hfolio⟩ := h.filed.same_of_refused live hp
        exact h.of_same (by rw [hcommands]) (hfolio _)
    | ok accepted =>
        cases hp with
        | passedOn _ hr => exact nomatch live.symm.trans hr
        | @recorded n record handed log' hv _ _ hd hw ha =>
            obtain rfl := Account.eq_entry hw
            have hve : (command.atSequenceNo n).validate = .ok () := hv
            have hlive : (command.atSequenceNo n).isReplay = false := live
            exact h.of_recorded hve hlive hd ha
  · obtain ⟨hload, hfolio⟩ := h.filed.elsewhere_of_publication live hp he
    exact h.of_same hload hfolio

theorem Recoverable.replaying (h : books.Recoverable) {result : Except DomainError Nat}
    (hr : CommandBus.Replaying (serviceAt now).bus commandsPart entity books result books') :
    books'.Recoverable := by
  refine ⟨h.filed.replaying hr, fun other => ?_⟩
  cases hr with
  | malformed | nothing | disordered => exact h.recoverable other
  | walked hv hc hr =>
    change CommandBus.Redelivery _ (books.commands.load entity) books _ books' at hr
    have hg := h.filed.ordered entity
    have hload : books'.commands = books.commands := hr.keeps (bus_over now).keeps
    by_cases he : other = entity
    · subst he
      rw [hload]
      refine { h.recoverable other with stored := fun ho => ?_ }
      rcases (h.recoverable other).stored ho with hlost | hu
      · obtain ⟨account, ha⟩ :=
          (h.recoverable other).fronts _ [] (List.append_nil _).symm ho
        exact .inr (redelivered_of_lost hv hlost hg ha hr).2.account
      · rw [eq_of_redelivery hg hu (List.Subset.refl _) hr]
        exact .inr hu
    · exact h.of_same (by rw [hload]) (h.filed.elsewhere_of_redelivery hv
        (fun _ hm => hg.entityId_of_mem hm) hr he)

theorem Recoverable.undergo {s : Session Books} (h : s.state.Recoverable) (incident : Incident) :
    (undergo s incident).state.Recoverable := by
  cases incident with
  | request request =>
      rcases performed (yields_exec ((serviceAt request.now).perform request.operation) s) with
        ⟨_, _, live, -, -, hp⟩ | ⟨_, -, -, hr⟩
      · exact h.publication live hp
      · exact h.replaying hr
  | clearAccounts =>
      have hlost (entity : Int64) : s.state.clearAccounts.accounts.find entity = none :=
        SnapshotTable.find_clear s.state.accounts entity
      exact ⟨h.filed.clearAccounts, fun entity =>
        { h.recoverable entity with stored := fun _ => .inl (hlost entity) }⟩
  | clearSummaries => exact ⟨h.filed.clearSummaries, h.recoverable⟩

theorem Recoverable.foldl {s : Session Books} (h : s.state.Recoverable)
    (incidents : List Incident) : (incidents.foldl Books.undergo s).state.Recoverable := by
  induction incidents generalizing s with
  | nil => exact h
  | cons incident incidents ih => exact ih (h.undergo incident)

theorem recoverable_undergone (start : Session Books) (incidents : List Incident) :
    (undergone start incidents).state.Recoverable :=
  Recoverable.foldl (s := { start with state := {} }) recoverable_empty incidents

/-! ## What a replay recovers -/

theorem Recoverable.rebuilt (h : books.Recoverable)
    (hv : (EntityReference.existing entity).validate = .ok ())
    (hn : books.accounts.find entity = none)
    (ho : Account.OpensOnce (books.commands.load entity)) {result : Except DomainError Nat}
    (hr : CommandBus.Replaying (serviceAt now).bus commandsPart entity books result books') :
    result = .ok (books.commands.load entity).length ∧
      (books'.folio entity).Follows entity (books.commands.load entity) := by
  have hg := h.filed.ordered entity
  cases hr with
  | malformed hf => cases hv.symm.trans hf
  | nothing _ hh =>
      change books.commands.load entity = [] at hh
      rw [hh]
      exact ⟨rfl, folio_of_lost hn⟩
  | disordered _ hc => cases hc.symm.trans hg.checkHistory
  | walked _ _ hr =>
      obtain ⟨account, ha⟩ := (h.recoverable entity).fronts _ [] (List.append_nil _).symm ho
      obtain ⟨rfl, hf⟩ := redelivered_of_lost hv hn hg ha hr
      exact ⟨rfl, hf⟩

theorem Recoverable.stuck (h : books.Recoverable)
    (hv : (EntityReference.existing entity).validate = .ok ())
    (hn : books.accounts.find entity = none)
    (ho : ¬Account.OpensOnce (books.commands.load entity)) {result : Except DomainError Nat}
    (hr : CommandBus.Replaying (serviceAt now).bus commandsPart entity books result books') :
    result = .error (Account.Refusal.alreadyExists entity).toError := by
  have hg := h.filed.ordered entity
  obtain ⟨front, record, rest, hload, hf, honce, ht⟩ := Account.exists_of_not_opensOnce ho
  have hm : record ∈ books.commands.load entity := by simp [hload]
  cases hr with
  | malformed hf => cases hv.symm.trans hf
  | nothing _ hh => exact absurd (hload.symm.trans hh) (by simp)
  | disordered _ hc => cases hc.symm.trans hg.checkHistory
  | walked _ _ hr =>
      change CommandBus.Redelivery _ (books.commands.load entity) books _ books' at hr
      obtain ⟨account, ha⟩ := (h.recoverable entity).fronts front _ hload honce
      obtain ⟨command, hc⟩ := (h.recoverable entity).readable record hm
      rw [hload] at hg hr
      obtain rfl := redelivery_of_reopened hv hn hg ha hf hc ht hr
      rfl

/-- Whatever was asked for and lost before: once all accounts and summaries are lost, a replay builds
the account and the summary of an entity anew if its history opens the account once, and is refused if
the account was opened again while it was lost. -/
theorem rebuilt_of_lost (start : Session Books) (incidents : List Incident) (entity : Int64)
    (hv : 0 < entity.toInt) (now : Instant) :
    let emptied := undergone start (incidents ++ [.clearAccounts, .clearSummaries])
    let history := emptied.state.commands.load entity
    let rebuilt := (serve emptied ⟨now, .replay entity⟩).state
    (Account.OpensOnce history →
      answer emptied ⟨now, .replay entity⟩ = .ok (.replayed history.length) ∧
        (history ≠ [] → ∃ account summary, rebuilt.accounts.find entity = some account ∧
          rebuilt.summaries.find entity = some summary ∧
          account.version.toInt = history.length ∧ summary.version.toInt = history.length)) ∧
    (¬Account.OpensOnce history →
      answer emptied ⟨now, .replay entity⟩ =
        .error (Account.Refusal.alreadyExists entity).toError) := by
  intro emptied history rebuilt
  have h : emptied.state.Recoverable := recoverable_undergone start _
  have hvalid : (EntityReference.existing entity).validate = .ok () :=
    EntityReference.validate_eq_ok_iff.2 hv
  have hn : emptied.state.accounts.find entity = none := by
    have hclears : emptied =
        undergo (undergo (undergone start incidents) .clearAccounts) .clearSummaries := by
      simp only [emptied, undergone, List.foldl_append, List.foldl_cons, List.foldl_nil]
    rw [hclears]
    exact SnapshotTable.find_clear _ entity
  obtain ⟨result, hresult, hr⟩ := replaying_of_answer emptied now entity
  refine ⟨fun ho => ?_, fun ho => ?_⟩
  · obtain ⟨rfl, hf⟩ := h.rebuilt hvalid hn ho hr
    refine ⟨hresult, fun hne => ?_⟩
    obtain ⟨account, ha⟩ := Option.isSome_iff_exists.1 (hf.account.isSome_iff.2 hne)
    have hversion : account.version.toInt = history.length := by
      rw [(hf.account.id ha).2]
      exact (h.filed.ordered entity).toInt_lastOf
    exact ⟨account, _, ha, hf.summary account ha, hversion, hversion⟩
  · obtain rfl := h.stuck hvalid hn ho hr
    exact hresult

/-- A deposit that came while the account was lost is no obstacle. -/
theorem rebuilt_of_refused_deposit :
    let incidents := [.request ⟨epoch, .openAccount 1 "Ann" 5⟩, .clearAccounts,
      .request ⟨epoch, .deposit 1 7⟩]
    let emptied := undergone { state := {} } (incidents ++ [.clearAccounts, .clearSummaries])
    0 < (1 : Int64).toInt ∧ Account.OpensOnce (emptied.state.commands.load 1) ∧
      answer emptied ⟨epoch, .replay 1⟩ =
        .ok (.replayed (emptied.state.commands.load 1).length) := by
  intro incidents emptied
  have hpos : 0 < (1 : Int64).toInt := by decide
  have ho : Account.OpensOnce (emptied.state.commands.load 1) := by decide +kernel
  exact ⟨hpos, ho, ((rebuilt_of_lost { state := {} } incidents 1 hpos epoch).1 ho).1⟩

/-- An account that was lost and opened again is there twice in the log, which no replay accepts. -/
theorem not_rebuilt_of_reopened :
    let incidents := [.request ⟨epoch, .openAccount 1 "Ann" 5⟩, .clearAccounts,
      .request ⟨epoch, .openAccount 1 "Ann" 5⟩]
    let emptied := undergone { state := {} } (incidents ++ [.clearAccounts, .clearSummaries])
    (emptied.state.commands.load 1).length = 2 ∧
      answer emptied ⟨epoch, .replay 1⟩ =
        .error (.ruleViolation "account 1 already exists") := by
  decide +kernel

end Books

end EventSourcing
