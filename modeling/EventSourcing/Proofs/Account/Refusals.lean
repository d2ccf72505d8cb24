import EventSourcing.Proofs.Account.Agreement

/-!
# Refused requests

Accounts and summaries may be lost at any time, so that an entity has an account without a summary or
a summary without an account. Still everything is stored under the id of its entity, and a request
that is refused leaves the books as they were.
-/

namespace EventSourcing

open EventSourcing.Sequential
open Account (Command Event)

namespace Books

/-- What happens to the books: a request is served, or all accounts or all summaries are lost. -/
inductive Incident where
  | request (request : Request)
  | clearAccounts
  | clearSummaries
  deriving DecidableEq

def undergo (s : Session Books) : Incident → Session Books
  | .request request => serve s request
  | .clearAccounts => { s with state := s.state.clearAccounts }
  | .clearSummaries => { s with state := s.state.clearSummaries }

/-- The session after some incidents, from empty books. -/
def undergone (start : Session Books) (incidents : List Incident) : Session Books :=
  incidents.foldl undergo { start with state := {} }

/-! ## Everything is stored under the id of its entity -/

structure Filed (books : Books) : Prop where
  ordered : books.commands.Ordered
  belongsTo : ∀ entity, (books.folio entity).BelongsTo entity

variable {books books' : Books}

theorem Kept.filed (h : books.Kept) : books.Filed := ⟨h.ordered, h.belongsTo⟩

theorem Filed.clearAccounts (h : books.Filed) : books.clearAccounts.Filed := by
  refine ⟨h.ordered, fun entity account ha => ?_⟩
  simp [folio, Books.clearAccounts, SnapshotTable.find_clear] at ha

theorem Filed.clearSummaries (h : books.Filed) : books.clearSummaries.Filed := by
  refine ⟨h.ordered, fun entity account ha => ⟨(h.belongsTo entity account ha).1, fun _ hs => ?_⟩⟩
  simp [folio, Books.clearSummaries, SnapshotTable.find_clear] at hs

theorem Filed.of_delivered (h : books.Filed) {command : Envelope Command}
    {result : Except DomainError Unit} (hd : Delivered command books result books') :
    books'.Filed := by
  refine ⟨hd.commands ▸ h.ordered, fun entity => ?_⟩
  by_cases he : entity = command.entity.id
  · subst he
    rw [hd.own]
    cases ha : (books.folio command.entity.id).accept command with
    | error failure => exact h.belongsTo command.entity.id
    | ok folio => exact (h.belongsTo command.entity.id).accept ha
  · rw [hd.others entity he]
    exact h.belongsTo entity

theorem Filed.delivered (h : books.Filed) {now : Instant} {command : Envelope Command}
    (hv : command.validate = .ok ()) {result : Except DomainError Unit}
    (hd : (serviceAt now).bus.HandsOut command books result books') :
    Delivered command books result books' :=
  delivered_of_handsOut (Envelope.validate_entity hv) (h.belongsTo command.entity.id) hd

theorem Filed.publication (h : books.Filed) {now : Instant} {command : Envelope Command}
    {result : Except DomainError (Envelope Command)}
    (hp : CommandBus.Publication (serviceAt now).bus commandsPart command books result books') :
    books'.Filed := by
  cases hp with
  | malformed | exhausted => exact h
  | refusedReplay hv _ hd | passedOn hv _ hd => exact h.of_delivered (h.delivered hv hd)
  | @refused n _ _ hv _ _ hd =>
      have hve : (command.atSequenceNo n).validate = .ok () := hv
      exact h.of_delivered (h.delivered hve hd)
  | unwritten _ _ _ _ hw => cases hw
  | @recorded n _ _ _ hv _ _ hd _ ha =>
      have hve : (command.atSequenceNo n).validate = .ok () := hv
      exact ⟨h.ordered.append ha, (h.of_delivered (h.delivered hve hd)).belongsTo⟩

/-- A live command for one entity does not touch the others. -/
theorem Filed.elsewhere_of_publication (h : books.Filed) {now : Instant}
    {command : Envelope Command} (live : command.isReplay = false)
    {result : Except DomainError (Envelope Command)}
    (hp : CommandBus.Publication (serviceAt now).bus commandsPart command books result books')
    {entity : Int64} (he : entity ≠ command.entity.id) :
    books'.commands.load entity = books.commands.load entity ∧
      books'.folio entity = books.folio entity := by
  cases hp with
  | malformed | exhausted => exact ⟨rfl, rfl⟩
  | refusedReplay _ hr | passedOn _ hr =>
      rw [live] at hr
      cases hr
  | @refused n _ _ hv _ _ hd =>
      have hve : (command.atSequenceNo n).validate = .ok () := hv
      have hdel := h.delivered hve hd
      exact ⟨by rw [hdel.commands], hdel.others entity he⟩
  | unwritten _ _ _ _ hw => cases hw
  | @recorded n record handed log' hv _ _ hd hw ha =>
      obtain rfl := Account.eq_entry hw
      have hve : (command.atSequenceNo n).validate = .ok () := hv
      have hload : log'.load entity = if entity = command.entity.id then
          books.commands.load entity ++ [Account.entry (command.atSequenceNo n) now]
        else books.commands.load entity := Account.load_of_append_entry ha entity
      exact ⟨hload.trans (if_neg he), (h.delivered hve hd).others entity he⟩

theorem Filed.redelivery (h : books.Filed) {now : Instant} {entity : Int64}
    {history : List StoredCommand} {result : Except DomainError Unit}
    (hv : (EntityReference.existing entity).validate = .ok ())
    (hids : ∀ record ∈ history, record.entityId = entity)
    (hr : CommandBus.Redelivery (serviceAt now).bus history books result books') :
    books'.Filed := by
  induction hr with
  | done | unreadable => exact h
  | refused hc hd =>
      have hm := hids _ List.mem_cons_self
      exact h.of_delivered (delivered_of_record hv hm (h.belongsTo entity) hc hd).2
  | onward hc hd _ ih =>
      have hm := hids _ List.mem_cons_self
      exact ih (h.of_delivered (delivered_of_record hv hm (h.belongsTo entity) hc hd).2)
        fun _ hr => hids _ (List.mem_cons_of_mem _ hr)

theorem Filed.elsewhere_of_redelivery (h : books.Filed) {now : Instant} {entity : Int64}
    {history : List StoredCommand} {result : Except DomainError Unit}
    (hv : (EntityReference.existing entity).validate = .ok ())
    (hids : ∀ record ∈ history, record.entityId = entity)
    (hr : CommandBus.Redelivery (serviceAt now).bus history books result books') {other : Int64}
    (he : other ≠ entity) : books'.folio other = books.folio other := by
  induction hr with
  | done | unreadable => rfl
  | refused hc hd =>
      obtain ⟨rfl, hdel⟩ :=
        delivered_of_record hv (hids _ List.mem_cons_self) (h.belongsTo entity) hc hd
      exact hdel.others other he
  | onward hc hd _ ih =>
      obtain ⟨rfl, hdel⟩ :=
        delivered_of_record hv (hids _ List.mem_cons_self) (h.belongsTo entity) hc hd
      exact (ih (h.of_delivered hdel) fun _ hr => hids _ (List.mem_cons_of_mem _ hr)).trans
        (hdel.others other he)

theorem Filed.replaying (h : books.Filed) {now : Instant} {entity : Int64}
    {result : Except DomainError Nat}
    (hr : CommandBus.Replaying (serviceAt now).bus commandsPart entity books result books') :
    books'.Filed := by
  cases hr with
  | malformed | nothing | disordered => exact h
  | walked hv _ hr => exact h.redelivery hv (fun _ hm => (h.ordered entity).entityId_of_mem hm) hr

theorem Filed.undergo {s : Session Books} (h : s.state.Filed) (incident : Incident) :
    (undergo s incident).state.Filed := by
  cases incident with
  | request request =>
      rcases performed (yields_exec ((serviceAt request.now).perform request.operation) s) with
        ⟨_, _, -, -, -, hp⟩ | ⟨_, -, -, hr⟩
      · exact h.publication hp
      · exact h.replaying hr
  | clearAccounts => exact h.clearAccounts
  | clearSummaries => exact h.clearSummaries

theorem Filed.foldl {s : Session Books} (h : s.state.Filed) (incidents : List Incident) :
    (incidents.foldl Books.undergo s).state.Filed := by
  induction incidents generalizing s with
  | nil => exact h
  | cons incident incidents ih => exact ih (h.undergo incident)

theorem filed_undergone (start : Session Books) (incidents : List Incident) :
    (undergone start incidents).state.Filed :=
  Filed.foldl (s := { start with state := {} }) kept_empty.filed incidents

/-! ## What a refusal leaves behind -/

theorem Filed.same_of_refused (h : books.Filed) {now : Instant} {command : Envelope Command}
    (live : command.isReplay = false) {failure : DomainError}
    (hp : CommandBus.Publication (serviceAt now).bus commandsPart command books (.error failure)
      books') :
    books'.commands = books.commands ∧ ∀ entity, books'.folio entity = books.folio entity := by
  cases hp with
  | malformed | exhausted => exact ⟨rfl, fun _ => rfl⟩
  | refusedReplay _ hr =>
      rw [live] at hr
      cases hr
  | @refused n _ _ hv _ _ hd =>
      have hve : (command.atSequenceNo n).validate = .ok () := hv
      have hdel := h.delivered hve hd
      exact ⟨hdel.commands, hdel.same_of_error⟩
  | unwritten _ _ _ _ hw => cases hw

/-- Whatever was asked for and lost before: a request, other than for a replay, that fails leaves
every history, every next number, every account and every summary as it was. -/
theorem unchanged_of_refused (start : Session Books) (incidents : List Incident) (request : Request)
    (hop : ∀ entity, request.operation ≠ .replay entity) {failure : DomainError}
    (hf : (exec ((serviceAt request.now).perform request.operation)
      (undergone start incidents)).1 = .error failure) (entity : Int64) :
    let before := (undergone start incidents).state
    let after := (serve (undergone start incidents) request).state
    after.commands.load entity = before.commands.load entity ∧
      after.commands.nextSequenceNo? entity = before.commands.nextSequenceNo? entity ∧
      after.accounts.find entity = before.accounts.find entity ∧
      after.summaries.find entity = before.summaries.find entity := by
  intro before after
  have hsame : after.commands = before.commands ∧ after.folio entity = before.folio entity := by
    rcases performed (yields_exec ((serviceAt request.now).perform request.operation)
      (undergone start incidents)) with ⟨_, r, live, -, hr, hp⟩ | ⟨_, hreplay, -, -⟩
    · rw [hf] at hr
      cases r with
      | error refusal =>
          obtain ⟨hc, hsame⟩ := (filed_undergone start incidents).same_of_refused live hp
          exact ⟨hc, hsame entity⟩
      | ok command => cases hr
    · exact absurd hreplay (hop _)
  exact ⟨by rw [hsame.1], by rw [hsame.1], congrArg Folio.account hsame.2,
    congrArg Folio.summary hsame.2⟩

/-- An account whose summary was lost takes no deposit, though it was stored with the new balance
before its event failed. -/
theorem unchanged_of_lost_summary :
    let incidents := [.request ⟨epoch, .openAccount 1 "Ada" 5⟩, .clearSummaries]
    let before := undergone { state := {} } incidents
    (exec ((serviceAt epoch).perform (.deposit 1 7)) before).1 =
        .error (.notFound "account summary" 1) ∧
      (before.state.accounts.find 1).isSome ∧
      (serve before ⟨epoch, .deposit 1 7⟩).state.accounts.find 1 = before.state.accounts.find 1 := by
  intro incidents before
  have hf : (exec ((serviceAt epoch).perform (.deposit 1 7)) before).1 =
      .error (.notFound "account summary" 1) := by decide +kernel
  exact ⟨hf, by decide +kernel,
    (unchanged_of_refused { state := {} } incidents ⟨epoch, .deposit 1 7⟩ nofun hf 1).2.2.1⟩

end Books

end EventSourcing
