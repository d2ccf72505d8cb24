import EventSourcing.Proofs.Account.Agreement
import EventSourcing.Proofs.Errands

/-!
# The page of an entity

All that the books say of an entity: its records, apart from the ids of their commands, and its
folio. What a request comes to, and what it leaves on the page of its entity, follows from the page
alone.
-/

namespace EventSourcing

open EventSourcing.Sequential
open Account (Command Event)

/-! ## Leaving ids out -/

def Envelope.anonymous {P : Type} (envelope : Envelope P) : Envelope P :=
  { envelope with metadata.eventId := ⟨0⟩ }

def StoredCommand.anonymous (record : StoredCommand) : StoredCommand :=
  { record with metadata.eventId := ⟨0⟩ }

def AccountService.Receipt.anonymous : AccountService.Receipt → AccountService.Receipt
  | .accepted command => .accepted command.anonymous
  | .replayed count => .replayed count

theorem Decoders.decodeStored_anonymous {C : Type} (decoders : Decoders C) (record : StoredCommand) :
    decoders.decodeStored record.anonymous =
      (decoders.decodeStored record).map Envelope.anonymous := by
  simp only [decodeStored, decode, StoredCommand.anonymous]
  cases decoders.entries[record.commandType]? with
  | none => rfl
  | some read =>
      simp only
      cases read record.payload <;> rfl

namespace CommandLog

theorem lastOf_anonymous (stream : List StoredCommand) :
    lastOf (stream.map StoredCommand.anonymous) = lastOf stream := by
  simp only [lastOf, List.getLast?_map]
  cases stream.getLast? <;> rfl

theorem gapless_anonymous_iff {entity : Int64} {stream : List StoredCommand} :
    Gapless entity (stream.map StoredCommand.anonymous) ↔ Gapless entity stream := by
  simp only [Gapless, List.getElem?_map, Option.map_eq_some_iff]
  constructor
  · exact fun h k record hr => h k record.anonymous ⟨record, hr, rfl⟩
  · rintro h k _ ⟨record, hr, rfl⟩
    exact h k record hr

end CommandLog

namespace Account

theorem after_anonymous (current : Option Account) (record : StoredCommand) :
    after current record.anonymous = after current record := by
  simp only [after, Decoders.decodeStored_anonymous]
  cases commandDecoders.decodeStored record <;> rfl

theorem ofHistory_anonymous (history : List StoredCommand) :
    ofHistory (history.map StoredCommand.anonymous) = ofHistory history := by
  simp only [ofHistory, List.foldlM_map, after_anonymous]

theorem movesMoney_anonymous (record : StoredCommand) :
    movesMoney record.anonymous = movesMoney record := by
  simp only [movesMoney, Decoders.decodeStored_anonymous]
  rcases commandDecoders.decodeStored record with _ | ⟨_, _, _, _ | _ | _ | _⟩ <;> rfl

theorem opensWithMoney_anonymous (record : StoredCommand) :
    opensWithMoney record.anonymous = opensWithMoney record := by
  simp only [opensWithMoney, Decoders.decodeStored_anonymous]
  rcases commandDecoders.decodeStored record with _ | ⟨_, _, _, _ | _ | _ | _⟩ <;> rfl

theorem transactions_anonymous (history : List StoredCommand) :
    transactions (history.map StoredCommand.anonymous) = transactions history := by
  simp only [transactions, List.countP_map, List.any_map, Function.comp_def, movesMoney_anonymous,
    opensWithMoney_anonymous]

end Account

theorem Account.upToDate_anonymous_iff {entity : Int64} {history : List StoredCommand}
    {stored : Option Account} :
    UpToDate entity (history.map StoredCommand.anonymous) stored ↔
      UpToDate entity history stored := by
  simp only [UpToDate, ofHistory_anonymous, CommandLog.lastOf_anonymous]

theorem Folio.follows_anonymous_iff {folio : Folio} {entity : Int64} {history : List StoredCommand} :
    folio.Follows entity (history.map StoredCommand.anonymous) ↔ folio.Follows entity history := by
  constructor
  · rintro ⟨ha, hs⟩
    exact ⟨Account.upToDate_anonymous_iff.1 ha, Account.transactions_anonymous history ▸ hs⟩
  · rintro ⟨ha, hs⟩
    exact ⟨Account.upToDate_anonymous_iff.2 ha, (Account.transactions_anonymous history).symm ▸ hs⟩

/-! ## Pages -/

structure Page where
  records : List StoredCommand := []
  folio : Folio := {}

namespace Page

/-- What a page says is settled, and its records are without a gap. -/
structure Fits (entity : Int64) (page : Page) : Prop where
  ordered : CommandLog.Gapless entity page.records
  settled : Books.Settled page.folio entity page.records

/-- What the publication of a live command comes to. -/
def publish (page : Page) (now : Instant) (command : Envelope Command) :
    Except DomainError (Envelope Command) × Page :=
  match Word.succ? (CommandLog.lastOf page.records) with
  | none => (.error (.store (exhaustedText command.entity.id)), page)
  | some n =>
    match page.folio.accept (command.atSequenceNo n) with
    | .error failure => (.error failure, page)
    | .ok folio =>
      (.ok (command.atSequenceNo n),
        ⟨page.records ++ [Account.entry (command.atSequenceNo n) now], folio⟩)

variable {page : Page} {now : Instant} {command : Envelope Command} {n : Int64}

theorem publish_of_exhausted (command : Envelope Command)
    (hn : Word.succ? (CommandLog.lastOf page.records) = none) :
    page.publish now command = (.error (.store (exhaustedText command.entity.id)), page) := by
  simp only [publish, hn]

theorem publish_of_refused (command : Envelope Command)
    (hn : Word.succ? (CommandLog.lastOf page.records) = some n)
    {failure : DomainError} (ha : page.folio.accept (command.atSequenceNo n) = .error failure) :
    page.publish now command = (.error failure, page) := by
  simp only [publish, hn, ha]

theorem publish_of_accepted (command : Envelope Command)
    (hn : Word.succ? (CommandLog.lastOf page.records) = some n)
    {folio : Folio} (ha : page.folio.accept (command.atSequenceNo n) = .ok folio) :
    page.publish now command =
      (.ok (command.atSequenceNo n),
        ⟨page.records ++ [Account.entry (command.atSequenceNo n) now], folio⟩) := by
  simp only [publish, hn, ha]

theorem Fits.publish (h : page.Fits command.entity.id)
    (hv : command.entity.validate = .ok ()) (live : command.isReplay = false) (now : Instant) :
    (page.publish now command).2.Fits command.entity.id := by
  unfold Page.publish
  split
  · exact h
  rename_i n hn
  split
  · exact h
  rename_i folio ha
  have hnumber : n.toInt = page.records.length + 1 := by
    rw [Word.succ?_eq_some_iff.1 hn, h.ordered.toInt_lastOf]
  have hsettled : Books.Settled page.folio (command.atSequenceNo n).entity.id page.records :=
    h.settled
  exact ⟨h.ordered.concat rfl hnumber, hsettled.concat hv live ha now⟩

end Page

/-! ## Requests -/

namespace Books

open AccountService (Receipt)

def page (books : Books) (entity : Int64) : Page where
  records := (books.commands.load entity).map StoredCommand.anonymous
  folio := books.folio entity

variable {books books' : Books}

theorem Kept.fits (h : books.Kept) (entity : Int64) : (books.page entity).Fits entity := by
  obtain ⟨hfollows, hbare, hvalid⟩ := h.settled entity
  refine ⟨CommandLog.gapless_anonymous_iff.2 (h.ordered entity),
    Folio.follows_anonymous_iff.2 hfollows, hbare, fun hn => hvalid ?_⟩
  rintro he
  exact hn (by rw [page, he]; rfl)

theorem eq_of_commandOf {operation : AccountService.Operation} {id : Uuid} {now : Instant}
    {command : Envelope Command} (h : commandOf operation id now = some command) :
    command.entity.id = operation.account ∧ command.isReplay = false ∧
      commandOf operation ⟨0⟩ now = some command.anonymous := by
  cases operation <;> cases h <;> exact ⟨rfl, rfl, rfl⟩

/-- What a request comes to, from the page of its account. -/
def Request.outcome (request : Request) (page : Page) : Except DomainError Receipt × Page :=
  match commandOf request.operation ⟨0⟩ request.now with
  | some command =>
    match command.validate with
    | .error failure => (.error failure, page)
    | .ok () =>
      let (result, page) := page.publish request.now command
      (result.map .accepted, page)
  | none =>
    match (EntityReference.existing request.operation.account).validate with
    | .error failure => (.error failure, page)
    | .ok () => (.ok (.replayed page.records.length), page)

def Request.errand (request : Request) : Errand Page (Except DomainError Receipt) :=
  ⟨request.operation.account, request.outcome⟩

section

variable {request : Request} {eventId : Uuid} {command : Envelope Command}

theorem Request.outcome_of_malformed
    (hc : commandOf request.operation eventId request.now = some command) {failure : DomainError}
    (hv : command.validate = .error failure) (page : Page) :
    request.outcome page = (.error failure, page) := by
  have hva : command.anonymous.validate = .error failure := hv
  simp only [outcome, (eq_of_commandOf hc).2.2, hva]

theorem Request.outcome_of_valid
    (hc : commandOf request.operation eventId request.now = some command)
    (hv : command.validate = .ok ()) (page : Page) :
    request.outcome page = ((page.publish request.now command.anonymous).1.map .accepted,
      (page.publish request.now command.anonymous).2) := by
  have hva : command.anonymous.validate = .ok () := hv
  simp only [outcome, (eq_of_commandOf hc).2.2, hva]

theorem Request.outcome_of_replay (hop : request.operation = .replay request.operation.account)
    (page : Page) :
    request.outcome page =
      match (EntityReference.existing request.operation.account).validate with
      | .error failure => (.error failure, page)
      | .ok () => (.ok (.replayed page.records.length), page) := by
  have hnone : commandOf request.operation ⟨0⟩ request.now = none := by
    rw [hop]
    rfl
  simp only [outcome, hnone]

end

theorem Request.fits_outcome (request : Request) {page : Page}
    (h : page.Fits request.operation.account) :
    (request.outcome page).2.Fits request.operation.account := by
  unfold outcome
  split
  · rename_i command hc
    obtain ⟨he, live, -⟩ := eq_of_commandOf hc
    rw [← he] at h ⊢
    split
    · exact h
    · rename_i hv
      exact h.publish (Envelope.validate_entity hv) live request.now
  · split <;> exact h

/-! ## One request after the other -/

/-- What a request is answered. -/
def answer (s : Session Books) (request : Request) : Except DomainError Receipt :=
  (exec ((serviceAt request.now).perform request.operation) s).1

theorem replaying_of_answer (s : Session Books) (now : Instant) (entity : Int64) :
    ∃ result, answer s ⟨now, .replay entity⟩ = result.map .replayed ∧
      CommandBus.Replaying (serviceAt now).bus commandsPart entity s.state result
        (Books.serve s ⟨now, .replay entity⟩).state := by
  rcases performed (yields_exec ((serviceAt now).perform (.replay entity)) s) with
    ⟨_, _, -, ⟨_, hcommand⟩, -, -⟩ | ⟨result, -, hresult, hr⟩
  · cases hcommand
  · exact ⟨result, hresult, hr⟩

theorem page_of_folio {other : Int64} (hl : books'.commands.load other = books.commands.load other)
    (hf : books'.folio other = books.folio other) : books'.page other = books.page other := by
  rw [page, page, hl, hf]

theorem Kept.page_of_publication (h : books.Kept) {now : Instant} {command : Envelope Command}
    (hv : command.validate = .ok ()) (live : command.isReplay = false)
    {result : Except DomainError (Envelope Command)}
    (hp : CommandBus.Publication (serviceAt now).bus commandsPart command books result books') :
    ((books.page command.entity.id).publish now command.anonymous).1 =
        result.map Envelope.anonymous ∧
      ((books.page command.entity.id).publish now command.anonymous).2 =
        books'.page command.entity.id ∧
      ∀ other, other ≠ command.entity.id → books'.page other = books.page other := by
  have hnext : Word.succ? (CommandLog.lastOf (books.page command.entity.id).records) =
      books.commands.nextSequenceNo? command.entity.id := by
    rw [page, CommandLog.lastOf_anonymous]
    rfl
  have hve (n : Int64) : (command.atSequenceNo n).entity.validate = .ok () :=
    Envelope.validate_entity hv
  cases hp with
  | malformed hf =>
      rw [hv] at hf
      cases hf
  | refusedReplay _ hr | passedOn _ hr =>
      rw [live] at hr
      cases hr
  | exhausted _ _ hn =>
      rw [Page.publish_of_exhausted command.anonymous (hnext.trans hn)]
      exact ⟨rfl, rfl, fun _ _ => rfl⟩
  | @refused n failure _ _ _ hn hd =>
      have hdel := delivered_of_handsOut (hve n) (h.belongsTo command.entity.id) hd
      have hsame (entity : Int64) : books'.page entity = books.page entity :=
        page_of_folio (by rw [hdel.commands]) (hdel.same_of_error entity)
      rw [Page.publish_of_refused command.anonymous (hnext.trans hn) hdel.accept_of_error]
      exact ⟨rfl, (hsame _).symm, fun other _ => hsame other⟩
  | unwritten _ _ _ _ hw => cases hw
  | @recorded n record handed log' _ _ hn hd hw ha =>
      obtain rfl := Account.eq_entry hw
      have hdel := delivered_of_handsOut (hve n) (h.belongsTo command.entity.id) hd
      have hload : ∀ entity, log'.load entity = if entity = command.entity.id then
          books.commands.load entity ++ [Account.entry (command.atSequenceNo n) now]
        else books.commands.load entity := Account.load_of_append_entry ha
      rw [Page.publish_of_accepted command.anonymous (hnext.trans hn) hdel.accept_of_ok]
      refine ⟨rfl, ?_, fun other hne => page_of_folio ?_ (hdel.others other hne)⟩
      · change Page.mk (_ ++ [_]) _ = Page.mk ((log'.load command.entity.id).map _) _
        rw [hload, if_pos rfl, List.map_append]
        rfl
      · exact (hload other).trans (if_neg hne)

theorem Kept.count_of_replaying (h : books.Kept) {now : Instant} {entity : Int64}
    (hv : (EntityReference.existing entity).validate = .ok ()) {result : Except DomainError Nat}
    (hr : CommandBus.Replaying (serviceAt now).bus commandsPart entity books result books') :
    result = .ok (books.commands.load entity).length := by
  by_cases hn : books.commands.load entity = []
  · rw [hn]
    cases hr with
    | malformed hf =>
        rw [hv] at hf
        cases hf
    | nothing => rfl
    | disordered _ hc => cases hc.symm.trans (h.ordered entity).checkHistory
    | walked _ _ hr =>
        change CommandBus.Redelivery _ (books.commands.load entity) books _ books' at hr
        rw [hn] at hr
        cases hr
        exact congrArg (fun records => Except.ok (List.length records)) hn
  · exact (h.caughtUp hn rfl (fun _ _ => rfl) (List.append_nil _).symm (h.settled entity).follows
      hr).1

/-- Served alone, a request comes to what follows from the page of its account. -/
theorem Kept.served {s : Session Books} (h : s.state.Kept) (request : Request) :
    (request.outcome (s.state.page request.operation.account)).1 =
        (answer s request).map Receipt.anonymous ∧
      (Books.serve s request).state.page = request.errand.revise s.state.page := by
  have hperformed := performed (yields_exec ((serviceAt request.now).perform request.operation) s)
  unfold answer Books.serve
  generalize (exec ((serviceAt request.now).perform request.operation) s).1 = result at hperformed ⊢
  generalize (exec ((serviceAt request.now).perform request.operation) s).2.state = books'
    at hperformed ⊢
  rcases hperformed with ⟨command, r, live, ⟨eventId, hc⟩, rfl, hp⟩ | ⟨r, hop, rfl, hr⟩
  · have he := (eq_of_commandOf hc).1
    cases hv : command.validate with
    | error failure =>
        obtain ⟨rfl, rfl⟩ := hp.of_malformed hv
        have houtcome := Request.outcome_of_malformed hc hv
        exact ⟨congrArg Prod.fst (houtcome _),
          Errand.eq_revise (congrArg Prod.snd (houtcome _)).symm fun _ _ => rfl⟩
    | ok =>
        obtain ⟨hresult, hown, hothers⟩ := h.page_of_publication hv live hp
        have houtcome := Request.outcome_of_valid hc hv
        rw [he] at hresult hown hothers
        refine ⟨?_, Errand.eq_revise ?_ hothers⟩
        · rw [houtcome, hresult]
          cases r <;> rfl
        · exact hown.symm.trans (congrArg Prod.snd (houtcome _)).symm
  · obtain rfl := h.eq_of_replaying hr
    have houtcome := Request.outcome_of_replay hop
    cases hv : (EntityReference.existing request.operation.account).validate with
    | error failure =>
        obtain ⟨rfl, -⟩ := hr.of_malformed hv
        rw [hv] at houtcome
        exact ⟨congrArg Prod.fst (houtcome _),
          Errand.eq_revise (congrArg Prod.snd (houtcome _)).symm fun _ _ => rfl⟩
    | ok =>
        obtain rfl := h.count_of_replaying hv hr
        rw [hv] at houtcome
        refine ⟨?_, Errand.eq_revise (congrArg Prod.snd (houtcome _)).symm fun _ _ => rfl⟩
        rw [houtcome]
        simp only [page, List.length_map]
        rfl

def answers (s : Session Books) : List Request → List (Except DomainError Receipt)
  | [] => []
  | request :: requests => answer s request :: answers (serve s request) requests

/-- The errands of some requests, by their places. -/
def errands (requests : List Request) (i : Nat) : Errand Page (Except DomainError Receipt) :=
  match requests[i]? with
  | some request => request.errand
  | none => ⟨0, fun page => (.ok (.replayed 0), page)⟩

theorem errands_of_getElem? {requests : List Request} {i : Nat} {request : Request}
    (hi : requests[i]? = some request) : errands requests i = request.errand := by
  rw [errands, hi]

/-- Requests served one after the other come to what their errands come to. -/
theorem Kept.one_by_one {requests : List Request} {order : List Nat}
    (horder : ∀ i ∈ order, i < requests.length) {s : Session Books} (h : s.state.Kept) :
    ((order.filterMap (requests[·]?)).foldl Books.serve s).state.page =
        Errand.pagesAfter (errands requests) s.state.page order ∧
      (Errand.results (errands requests) s.state.page order).map Prod.snd =
        (answers s (order.filterMap (requests[·]?))).map (Except.map Receipt.anonymous) := by
  induction order generalizing s with
  | nil => exact ⟨rfl, rfl⟩
  | cons i order ih =>
      obtain ⟨request, hi⟩ : ∃ request, requests[i]? = some request :=
        ⟨_, List.getElem?_eq_getElem (horder i List.mem_cons_self)⟩
      obtain ⟨hresult, hpages⟩ := h.served request
      have herrand := errands_of_getElem? hi
      obtain ⟨hrest, hresults⟩ := ih (fun j hj => horder j (List.mem_cons_of_mem _ hj))
        (h.serve request)
      rw [hpages] at hrest hresults
      rw [List.filterMap_cons_some hi]
      refine ⟨?_, ?_⟩
      · rw [List.foldl_cons, hrest, Errand.pagesAfter, Errand.pagesAfter, List.foldl_cons, herrand]
      · rw [Errand.results, List.map_cons, answers, List.map_cons, herrand, hresults]
        exact congrArg (· :: _) hresult

end Books

/-! ## What a request may fail with -/

theorem Account.rule_ne_store {current : Option Account} {command : Envelope Command}
    {text : String} : rule current command ≠ .error (.store text) := by
  unfold rule
  split
  · nofun
  · rename_i refusal _
    cases refusal <;> nofun

theorem AccountSummary.after_ne_store {entity : Int64} {current : Option AccountSummary}
    {event : Event} {text : String} : after entity current event ≠ .error (.store text) := by
  cases event <;> cases current <;> nofun

theorem Folio.accept_ne_store {folio : Folio} {command : Envelope Command} {text : String} :
    folio.accept command ≠ .error (.store text) := by
  intro h
  cases hr : Saga.reflects folio.account command with
  | true => exact nomatch (accept_of_reflects folio hr).symm.trans h
  | false =>
      cases hd : Account.rule folio.account command with
      | error refusal =>
          cases (accept_of_refused folio hr hd).symm.trans h
          exact Account.rule_ne_store hd
      | ok outcome =>
          obtain ⟨event, he⟩ := (Account.decision_of_rule hd).events
          cases ha : AccountSummary.after command.entity.id folio.summary event with
          | error failure =>
              cases (accept_of_unprojected folio hr hd he ha).symm.trans h
              exact AccountSummary.after_ne_store ha
          | ok model => exact nomatch (accept_of_projected folio hr hd he ha).symm.trans h

theorem EntityReference.validate_ne_store {reference : EntityReference} {text : String} :
    reference.validate ≠ .error (.store text) := by
  unfold validate
  split <;> nofun

theorem Envelope.validate_ne_store {P : Type} [PayloadKind P] {envelope : Envelope P}
    {text : String} : envelope.validate ≠ .error (.store text) := by
  unfold validate
  split
  · nofun
  · exact EntityReference.validate_ne_store

theorem Page.publish_eq_store {page : Page} {now : Instant} {command : Envelope Command}
    {text : String} (h : (page.publish now command).1 = .error (.store text)) :
    text = exhaustedText command.entity.id := by
  unfold Page.publish at h
  split at h
  · cases h
    rfl
  · split at h
    · rename_i ha
      cases h
      exact absurd ha Folio.accept_ne_store
    · cases h

theorem Books.Request.outcome_eq_store {request : Books.Request} {page : Page} {text : String}
    (h : (request.outcome page).1 = .error (.store text)) :
    text = exhaustedText request.operation.account := by
  unfold outcome at h
  split at h
  · rename_i command hc
    split at h
    · rename_i hv
      cases h
      exact absurd hv Envelope.validate_ne_store
    · have hp : (page.publish request.now command).1 = .error (.store text) := by
        generalize page.publish request.now command = published at h ⊢
        obtain ⟨result | result, _⟩ := published
        · cases h
          rfl
        · cases h
      rw [← (eq_of_commandOf hc).1]
      exact Page.publish_eq_store hp
  · split at h
    · rename_i hv
      cases h
      exact absurd hv EntityReference.validate_ne_store
    · cases h

theorem head?_toList_append {start : String} {c : Char} (h : start.toList.head? = some c)
    (rest : String) : (start ++ rest).toList.head? = some c := by
  rw [String.toList_append, List.head?_append, h]
  rfl

/-- That no number is left is not what an append is refused for. -/
theorem exhaustedText_ne_message (entity : Int64) (fault : AppendFault) :
    exhaustedText entity ≠ fault.message := by
  intro h
  have hn : (exhaustedText entity).toList.head? = some 'n' := head?_toList_append (by decide) _
  rw [h] at hn
  cases fault with
  | duplicate sequenceNo entity =>
      have hd : (AppendFault.duplicate sequenceNo entity).message.toList.head? = some 'd' :=
        head?_toList_append (head?_toList_append (head?_toList_append (by decide) _) _) _
      rw [hd] at hn
      simp at hn
  | gap entity expected found =>
      have hs : (AppendFault.gap entity expected found).message.toList.head? = some 's' :=
        head?_toList_append (head?_toList_append (head?_toList_append
          (head?_toList_append (head?_toList_append (by decide) _) _) _) _) _
      rw [hs] at hn
      simp at hn

end EventSourcing
