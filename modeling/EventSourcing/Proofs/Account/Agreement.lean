import EventSourcing.Proofs.Account.Bookkeeping

/-!
# Three books that agree

Whatever the service is asked to do, the log, the accounts and the summaries tell the same story, and
a replay tells it again, from whichever point the account and the summary were left at.
-/

namespace EventSourcing

open EventSourcing.Sequential
open Account (Command Event)

namespace Books

/-! ## What always holds -/

/-- A folio follows its records, has no summary without an account, and has records only under a
valid id. -/
structure Settled (folio : Folio) (entity : Int64) (history : List StoredCommand) : Prop where
  follows : folio.Follows entity history
  bare : folio.account = none → folio.summary = none
  valid : history ≠ [] → (EntityReference.existing entity).validate = .ok ()

theorem Settled.concat {folio folio' : Folio} {command : Envelope Command}
    {history : List StoredCommand} (h : Settled folio command.entity.id history)
    (hv : command.entity.validate = .ok ()) (live : command.isReplay = false)
    (ha : folio.accept command = .ok folio') (now : Instant) :
    Settled folio' command.entity.id (history ++ [Account.entry command now]) := by
  rw [Folio.accept_eq_absorb _ (by simp [Saga.reflects, live])] at ha
  have hfollows := h.follows.concat ha (Account.recordOf_entry command now)
  refine ⟨hfollows, fun hnone => ?_, fun _ => ?_⟩
  · exact absurd (hfollows.account_eq_none_iff.1 hnone) (by simp)
  · exact EntityReference.validate_existing_iff.2 hv

structure Kept (books : Books) : Prop where
  ordered : books.commands.Ordered
  settled : ∀ entity, Settled (books.folio entity) entity (books.commands.load entity)

theorem kept_empty : Kept {} := by
  refine ⟨CommandLog.ordered_empty, fun entity => ?_⟩
  have hload : CommandLog.load {} entity = [] := by simp [CommandLog.load]
  have hfolio : folio {} entity = {} := by simp [folio, SnapshotTable.find]
  rw [hfolio, hload]
  exact ⟨Folio.follows_nil entity none, fun _ => rfl, fun hn => absurd rfl hn⟩

variable {books books' : Books}

theorem Kept.of_same (h : books.Kept) (hc : books'.commands = books.commands)
    (hf : ∀ entity, books'.folio entity = books.folio entity) : books'.Kept := by
  refine ⟨hc ▸ h.ordered, fun entity => ?_⟩
  rw [hc, hf]
  exact h.settled entity

theorem Kept.belongsTo (h : books.Kept) (entity : Int64) :
    (books.folio entity).BelongsTo entity := (h.settled entity).follows.belongsTo

/-! ## Publishing -/

theorem Kept.same_of_refused (h : books.Kept) {now : Instant} {command : Envelope Command}
    {failure : DomainError} (hv : command.entity.validate = .ok ())
    (hd : (serviceAt now).bus.HandsOut command books (.error failure) books') :
    books'.commands = books.commands ∧ ∀ entity, books'.folio entity = books.folio entity := by
  have hdel := delivered_of_handsOut hv (h.belongsTo command.entity.id) hd
  exact ⟨hdel.commands, hdel.same_of_error⟩

theorem Kept.of_recorded (h : books.Kept) {now : Instant} {command : Envelope Command}
    (hv : command.entity.validate = .ok ()) (live : command.isReplay = false)
    (hd : (serviceAt now).bus.HandsOut command books (.ok ()) books') {log' : CommandLog}
    (ha : books.commands.append (Account.entry command now) = .ok log') :
    Kept { books' with commands := log' } := by
  have hdel := delivered_of_handsOut hv (h.belongsTo command.entity.id) hd
  have hload := Account.load_of_append_entry ha
  refine ⟨h.ordered.append ha, fun entity => ?_⟩
  change Settled (books'.folio entity) entity (log'.load entity)
  by_cases he : entity = command.entity.id
  · subst he
    rw [hload, if_pos rfl]
    exact (h.settled command.entity.id).concat hv live hdel.accept_of_ok now
  · rw [hload, if_neg he, hdel.others entity he]
    exact h.settled entity

theorem Kept.publication (h : books.Kept) {now : Instant} {command : Envelope Command}
    (live : command.isReplay = false) {result : Except DomainError (Envelope Command)}
    (hp : CommandBus.Publication (serviceAt now).bus commandsPart command books result books') :
    books'.Kept := by
  cases hp with
  | malformed | exhausted => exact h
  | refusedReplay _ hr | passedOn _ hr =>
      rw [live] at hr
      cases hr
  | @refused n failure _ hv hr hn hd =>
      have hve : (command.atSequenceNo n).entity.validate = .ok () := Envelope.validate_entity hv
      obtain ⟨hc, hf⟩ := h.same_of_refused hve hd
      exact h.of_same hc hf
  | unwritten _ _ _ _ hw => cases hw
  | @recorded n record handed log' hv hr hn hd hw ha =>
      obtain rfl := Account.eq_entry hw
      have hve : (command.atSequenceNo n).entity.validate = .ok () := Envelope.validate_entity hv
      exact h.of_recorded hve live hd ha

/-! ## Replaying -/

/-- Let the folio of an entity with records follow any beginning of them, and all else be as it was.
Then a replay brings all back. -/
theorem Kept.caughtUp (h : books.Kept) {now : Instant} {entity : Int64} {before after : Books}
    (hn : books.commands.load entity ≠ []) (hc : before.commands = books.commands)
    (ho : ∀ other, other ≠ entity → before.folio other = books.folio other)
    {past rest : List StoredCommand} (hp : books.commands.load entity = past ++ rest)
    (hf : (before.folio entity).Follows entity past) {result : Except DomainError Nat}
    (hr : CommandBus.Replaying (serviceAt now).bus commandsPart entity before result after) :
    result = .ok (books.commands.load entity).length ∧ after.commands = books.commands ∧
      ∀ other, after.folio other = books.folio other := by
  have hs := h.settled entity
  have hg := h.ordered entity
  have hload : (commandsPart.get before).load entity = books.commands.load entity := by
    rw [← hc]
    rfl
  cases hr with
  | malformed hv =>
      rw [hs.valid hn] at hv
      cases hv
  | nothing _ hh => exact absurd (hload.symm.trans hh) hn
  | disordered _ hcheck =>
      rw [hload, hg.checkHistory] at hcheck
      cases hcheck
  | walked hv _ hr =>
      -- The folio alone catches up with its records, and the bus does what the folio does.
      obtain ⟨account, ha, -⟩ := hs.follows.account
      rw [hp] at ha hg
      obtain ⟨folio', hw, hf'⟩ := hf.catchUp ha hg
      rw [← hp, ← hload] at hw
      have hids : ∀ record ∈ (commandsPart.get before).load entity, record.entityId = entity := by
        intro record hm
        rw [hload, hp] at hm
        exact hg.entityId_of_mem hm
      obtain ⟨rfl, hcommands, hothers, hfolio⟩ := redelivered hv hids hf.belongsTo hw hr
      refine ⟨by rw [hload]; rfl, hcommands.trans hc, fun other => ?_⟩
      by_cases he : other = entity
      · subst he
        rw [hfolio]
        rw [← hp] at hf'
        exact hf'.unique hs.follows hn
      · exact (hothers other he).trans (ho other he)

/-- Where the account reflects a stream already, handing out its records changes nothing. -/
theorem eq_of_redelivery {now : Instant} {entity : Int64} {stream : List StoredCommand}
    (hg : CommandLog.Gapless entity stream)
    (hu : Account.UpToDate entity stream (books.accounts.find entity))
    {history : List StoredCommand} (hs : history ⊆ stream) {result : Except DomainError Unit}
    (hr : CommandBus.Redelivery (serviceAt now).bus history books result books') :
    books' = books := by
  have hown {record : StoredCommand} (hm : record ∈ stream) {command : Envelope Command}
      (hc : Account.commandDecoders.decodeStored record = .ok command) :
      Saga.reflects (books.accounts.find command.entity.id) command = true := by
    obtain ⟨rfl, hr⟩ := hu.reflects_of_decodeStored hg hm hc
    exact hr
  induction hr with
  | done | unreadable => rfl
  | refused hc hd => exact eq_of_handsOut_reflected (hown (hs List.mem_cons_self) hc) hd
  | onward hc hd _ ih =>
      obtain rfl := eq_of_handsOut_reflected (hown (hs List.mem_cons_self) hc) hd
      exact ih hu (fun _ hm => hs (List.mem_cons_of_mem _ hm)) hown

/-- A replay finds all reflected already and changes nothing. -/
theorem Kept.eq_of_replaying (h : books.Kept) {now : Instant} {entity : Int64}
    {result : Except DomainError Nat}
    (hr : CommandBus.Replaying (serviceAt now).bus commandsPart entity books result books') :
    books' = books := by
  cases hr with
  | malformed | nothing | disordered => rfl
  | walked _ _ hr =>
      exact eq_of_redelivery (h.ordered entity) (h.settled entity).follows.account
        (List.Subset.refl _) hr

/-! ## Requests -/

structure Request where
  now : Instant
  operation : AccountService.Operation
  deriving DecidableEq

def serve (s : Session Books) (request : Request) : Session Books :=
  (exec ((serviceAt request.now).perform request.operation) s).2

/-- The session after some requests, one after the other, on empty books. -/
def reached (start : Session Books) (requests : List Request) : Session Books :=
  requests.foldl serve { start with state := {} }

/-- The command of an operation, for an id and a time; a replay has none. -/
def commandOf (operation : AccountService.Operation) (id : Uuid) (now : Instant) :
    Option (Envelope Command) :=
  match operation with
  | .openAccount account holder initialBalance =>
    some (.new (.fresh account) (.create ⟨holder, initialBalance⟩) (.new id now))
  | .deposit account amount => some (.new (.existing account) (.deposit ⟨amount⟩) (.new id now))
  | .withdraw account amount => some (.new (.existing account) (.withdraw ⟨amount⟩) (.new id now))
  | .close account => some (.new (.existing account) (.close ⟨⟩) (.new id now))
  | .depositCorrelated account amount correlation =>
    some ((Envelope.new (.existing account) (.deposit ⟨amount⟩) (.new id now)).withProperty
      AccountService.correlationId correlation)
  | .replay _ => none

/-- An operation publishes a live command for its account, or replays its account. -/
theorem performed {now : Instant} {operation : AccountService.Operation}
    {result : Except DomainError AccountService.Receipt}
    (h : Yields ((serviceAt now).perform operation) books result books') :
    (∃ (command : Envelope Command) (r : Except DomainError (Envelope Command)),
        command.isReplay = false ∧ (∃ id, commandOf operation id now = some command) ∧
        result = r.map .accepted ∧
        CommandBus.Publication (serviceAt now).bus commandsPart command books r books') ∨
      ∃ r : Except DomainError Nat, operation = .replay operation.account ∧
        result = r.map .replayed ∧
        CommandBus.Replaying (serviceAt now).bus commandsPart operation.account books r books' := by
  cases operation with
  | openAccount id holder initialBalance =>
      obtain ⟨r, hr, hp⟩ := h.of_map
      obtain ⟨id', hp⟩ := CommandBus.Yields.of_command hp
      exact .inl ⟨_, r, rfl, ⟨id', rfl⟩, hr, CommandBus.publication (bus_over now) hp⟩
  | deposit id amount | withdraw id amount | close id =>
      obtain ⟨r, hr, hp⟩ := h.of_map
      obtain ⟨id', hp⟩ := CommandBus.Yields.of_command hp
      exact .inl ⟨_, r, rfl, ⟨id', rfl⟩, hr, CommandBus.publication (bus_over now) hp⟩
  | depositCorrelated id amount correlation =>
      obtain ⟨r, hr, hp⟩ := h.of_map
      obtain ⟨id', hp⟩ := CommandBus.Yields.of_command hp
      exact .inl ⟨_, r, rfl, ⟨id', rfl⟩, hr, CommandBus.publication (bus_over now) hp⟩
  | replay id =>
      obtain ⟨r, hr, hp⟩ := h.of_map
      exact .inr ⟨r, rfl, hr, CommandBus.replaying (bus_over now) hp⟩

theorem Kept.serve {s : Session Books} (h : s.state.Kept) (request : Request) :
    (serve s request).state.Kept := by
  rcases performed (yields_exec ((serviceAt request.now).perform request.operation) s) with
    ⟨command, _, live, -, -, hp⟩ | ⟨_, -, -, hr⟩
  · exact h.publication live hp
  · exact h.eq_of_replaying hr ▸ h

theorem Kept.foldl {s : Session Books} (h : s.state.Kept) (requests : List Request) :
    (requests.foldl Books.serve s).state.Kept := by
  induction requests generalizing s with
  | nil => exact h
  | cons request requests ih => exact ih (h.serve request)

theorem kept_reached (start : Session Books) (requests : List Request) :
    (reached start requests).state.Kept := Kept.foldl kept_empty requests

theorem load_serve {s : Session Books} (h : s.state.Kept) (request : Request) (entity : Int64) :
    ∃ more, (serve s request).state.commands.load entity =
      s.state.commands.load entity ++ more ∧ more.length ≤ 1 := by
  rcases performed (yields_exec ((serviceAt request.now).perform request.operation) s) with
    ⟨command, _, -, -, -, hp⟩ | ⟨_, -, -, hr⟩
  · exact hp.load (bus_over request.now) entity
  · exact ⟨[], by rw [List.append_nil, Books.serve, h.eq_of_replaying hr], Nat.zero_le 1⟩

theorem load_foldl {s : Session Books} (h : s.state.Kept) (requests : List Request)
    (entity : Int64) :
    ∃ more, (requests.foldl serve s).state.commands.load entity =
      s.state.commands.load entity ++ more := by
  induction requests generalizing s with
  | nil => exact ⟨[], (List.append_nil _).symm⟩
  | cons request requests ih =>
      obtain ⟨more, hm, -⟩ := load_serve h request entity
      obtain ⟨rest, hr⟩ := ih (h.serve request)
      exact ⟨more ++ rest, by rw [List.foldl_cons, hr, hm, List.append_assoc]⟩

/-! ## What the books say -/

/-- Whatever the service was asked to do, the account of an entity is the one that its records
describe, the summary is that of the account, and both are there if there are records. -/
theorem stores_agree (start : Session Books) (requests : List Request) (entity : Int64) :
    let books := (reached start requests).state
    ∃ (account : Option Account) (version : Int64),
      Account.ofHistory (books.commands.load entity) = .ok account ∧
      version.toInt = (books.commands.load entity).length ∧
      (account = none ↔ books.commands.load entity = []) ∧
      books.accounts.find entity = account.map (Account.asOf entity version) ∧
      books.summaries.find entity = (account.map fun a =>
        { id := some entity
          version := version
          holder := a.holder
          balance := a.balance
          transactionCount := .ofNat (Account.transactions (books.commands.load entity))
          isClosed := a.isClosed }) ∧
      (Account.transactions (books.commands.load entity) < UInt32.size →
        ∀ summary, books.summaries.find entity = some summary →
          summary.transactionCount.toNat = Account.transactions (books.commands.load entity)) := by
  intro books
  have h : books.Kept := kept_reached start requests
  have hs := h.settled entity
  obtain ⟨account, ha, hf⟩ := hs.follows.account
  refine ⟨account, _, ha, (h.ordered entity).toInt_lastOf, ?_, hf, ?_, fun hcount summary hfound => ?_⟩
  · rw [← Option.not_isSome_iff_eq_none, Account.isSome_of_ofHistory ha, not_not]
  · cases account with
    | none => exact hs.bare hf
    | some found => exact hs.follows.summary _ hf
  · cases account with
    | none => cases (hs.bare hf).symm.trans hfound
    | some found =>
        cases (hs.follows.summary _ hf).symm.trans hfound
        exact UInt32.toNat_ofNat_of_lt' hcount

end Books

/-! ## Catching up -/

def SnapshotTable.put {S : Type} (table : SnapshotTable S) (id : Int64) (s : Option S) :
    SnapshotTable S :=
  match s with
  | some s => { table with entries := table.entries.insert id s }
  | none => { table with entries := table.entries.erase id }

theorem SnapshotTable.find_put {S : Type} (table : SnapshotTable S) (id key : Int64)
    (s : Option S) : (table.put id s).find key = if id = key then s else table.find key := by
  cases s <;> simp [put, find, Std.ExtTreeMap.getElem?_insert, Std.ExtTreeMap.getElem?_erase]

namespace Books

def withFolio (books : Books) (entity : Int64) (folio : Folio) : Books :=
  { books with
    accounts := books.accounts.put entity folio.account
    summaries := books.summaries.put entity folio.summary }

theorem folio_withFolio (books : Books) (entity other : Int64) (folio : Folio) :
    (books.withFolio entity folio).folio other =
      if entity = other then folio else books.folio other := by
  simp only [Books.folio, withFolio, SnapshotTable.find_put]
  split <;> rfl

/-- If the folio of an entity is replaced by another one, a replay of the entity succeeds with all its
records, brings the folio back and leaves everything else as it was. -/
def CatchesUp (s : Session Books) (now : Instant) (entity : Int64) (folio : Folio) : Prop :=
  let outcome := exec ((serviceAt now).replay entity)
    { s with state := s.state.withFolio entity folio }
  outcome.1 = .ok (s.state.commands.load entity).length ∧
    outcome.2.state.commands = s.state.commands ∧
    ∀ other, outcome.2.state.folio other = s.state.folio other

theorem Kept.catchesUp {s : Session Books} (h : s.state.Kept) {entity : Int64}
    (hn : s.state.commands.load entity ≠ []) {past rest : List StoredCommand}
    (hp : s.state.commands.load entity = past ++ rest) {folio : Folio}
    (hf : folio.Follows entity past) (now : Instant) : CatchesUp s now entity folio := by
  have hr := CommandBus.replaying (bus_over now) <|
    yields_exec ((serviceAt now).bus.replay entity)
      { s with state := s.state.withFolio entity folio }
  refine h.caughtUp hn ?_ (fun other hne => ?_) hp ?_ hr
  · rfl
  · rw [folio_withFolio, if_neg (Ne.symm hne)]
  · rw [folio_withFolio, if_pos rfl]
    exact hf

/-- The number of records takes every value on its way to the last. -/
theorem Kept.exists_length_eq {s : Session Books} (h : s.state.Kept) (requests : List Request)
    {entity : Int64} {k : Nat} (hl : (s.state.commands.load entity).length ≤ k)
    (hk : k ≤ ((requests.foldl Books.serve s).state.commands.load entity).length) :
    ∃ i, (((requests.take i).foldl Books.serve s).state.commands.load entity).length = k := by
  induction requests generalizing s with
  | nil => exact ⟨0, Nat.le_antisymm hl hk⟩
  | cons request requests ih =>
      obtain ⟨more, hm, hone⟩ := load_serve h request entity
      rcases Nat.eq_or_lt_of_le hl with he | hlt
      · exact ⟨0, he⟩
      · have hnext : ((Books.serve s request).state.commands.load entity).length ≤ k := by
          rw [hm, List.length_append]
          omega
        obtain ⟨i, hi⟩ := ih (h.serve request) hnext hk
        exact ⟨i + 1, hi⟩

/-- A replay catches up from wherever the account and the summary of an entity were left at: from what
they were after any number of its commands, and from no account with any summary. -/
theorem replay_catches_up (start : Session Books) (requests : List Request) (entity : Int64)
    (hn : (reached start requests).state.commands.load entity ≠ []) (now : Instant) :
    (∀ i, CatchesUp (reached start requests) now entity
        ((reached start (requests.take i)).state.folio entity)) ∧
      (∀ k ≤ ((reached start requests).state.commands.load entity).length,
        ∃ i, ((reached start (requests.take i)).state.commands.load entity).length = k) ∧
      ∀ summary, CatchesUp (reached start requests) now entity ⟨none, summary⟩ := by
  have h := kept_reached start requests
  refine ⟨fun i => ?_, fun k hk => ?_, fun summary => ?_⟩
  -- What was recorded after `i` requests is a beginning of what is recorded now.
  · have hi := kept_reached start (requests.take i)
    obtain ⟨rest, hr⟩ := load_foldl hi (requests.drop i) entity
    rw [reached, ← List.foldl_append, List.take_append_drop] at hr
    exact h.catchesUp hn hr (hi.settled entity).follows now
  · exact Kept.exists_length_eq kept_empty requests (by simp [CommandLog.load]) hk
  · exact h.catchesUp hn (List.nil_append _).symm (Folio.follows_nil entity summary) now

def epoch : Instant := .epoch

/-- An account that is opened, and three payments. -/
def fourRequests : List Request :=
  [⟨epoch, .openAccount 1 "Ada" 5⟩, ⟨epoch, .deposit 1 7⟩, ⟨epoch, .withdraw 1 2⟩,
    ⟨epoch, .deposit 1 1⟩]

/-- Of four commands an account and its summary reflect two: a replay brings both up to the fourth. So
it does if the account is lost and the summary is as old. -/
theorem catchesUp_of_behind :
    let behind : Folio := ⟨some ⟨some 1, 2, "Ada", 12, false⟩, some ⟨some 1, 2, "Ada", 12, 2, false⟩⟩
    (reached { state := {} } fourRequests).state.commands.load 1 ≠ [] ∧
      (reached { state := {} } fourRequests).state.folio 1 =
        ⟨some ⟨some 1, 4, "Ada", 11, false⟩, some ⟨some 1, 4, "Ada", 11, 4, false⟩⟩ ∧
      CatchesUp (reached { state := {} } fourRequests) epoch 1 behind ∧
      CatchesUp (reached { state := {} } fourRequests) epoch 1 ⟨none, behind.summary⟩ := by
  intro behind
  have hn : (reached { state := {} } fourRequests).state.commands.load 1 ≠ [] := by decide +kernel
  have hbehind : (reached { state := {} } (fourRequests.take 2)).state.folio 1 = behind := by
    decide +kernel
  obtain ⟨hresumed, -, hanew⟩ := replay_catches_up { state := {} } fourRequests 1 hn epoch
  refine ⟨hn, by decide +kernel, ?_, hanew behind.summary⟩
  exact hbehind ▸ hresumed 2

end Books

end EventSourcing
