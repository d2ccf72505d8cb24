import EventSourcing.Proofs.Account.Page
import EventSourcing.Proofs.Account.Refusals
import Mathlib.Computability.RegularExpressions
import Mathlib.Data.List.Induction
import Mathlib.Order.CompletePartialOrder

/-!
# The life cycle of an account

An account is opened once, then amounts are paid in and out, and at last it may be closed. The types
of its records spell out just this, and nothing happens to an account that is closed.
-/

namespace EventSourcing

open EventSourcing.Sequential
open Account (Command Event)
open RegularExpression (char)

/-! ## The types of records -/

namespace Account

/-- The types of the records of an account that is open. -/
def openWords : RegularExpression String :=
  char "account.create" * (char "account.deposit" + char "account.withdraw").star

/-- The types of the records of an entity: none, or those of an account that may be closed at last. -/
def lifeCycle : RegularExpression String := 1 + openWords * (1 + char "account.close")

/-- The words that end in a state: no account, an open one, a closed one. -/
def wordsOf (current : Option Account) : RegularExpression String :=
  match current with
  | none => 1
  | some account => if account.isClosed then openWords * char "account.close" else openWords

theorem wordsOf_le_lifeCycle (current : Option Account) :
    (wordsOf current).matches' ≤ lifeCycle.matches' := by
  simp only [lifeCycle, RegularExpression.matches'_add, RegularExpression.matches'_mul, mul_add]
  cases current with
  | none => exact le_sup_left
  | some account =>
      simp only [wordsOf]
      split
      · exact le_sup_of_le_right le_sup_right
      · exact le_sup_of_le_right (le_sup_of_le_left (mul_one _).ge)

theorem wordsOf_open {account : Account} (h : account.isClosed = false) :
    wordsOf (some account) = openWords := if_neg (Bool.eq_false_iff.1 h)

theorem mem_openWords_of_create : ["account.create"] ∈ openWords.matches' := by
  simp only [openWords, RegularExpression.matches'_mul, RegularExpression.matches'_star,
    RegularExpression.matches'_char]
  exact Language.append_mem_mul (a := ["account.create"]) rfl (Language.nil_mem_kstar _)

theorem concat_mem_openWords {word : List String} {letter : String}
    (hw : word ∈ openWords.matches')
    (hl : letter = "account.deposit" ∨ letter = "account.withdraw") :
    word ++ [letter] ∈ openWords.matches' := by
  simp only [openWords, RegularExpression.matches'_mul, RegularExpression.matches'_star,
    RegularExpression.matches'_add, RegularExpression.matches'_char] at hw ⊢
  rw [← kstar_mul_kstar, ← mul_assoc]
  have hletter : [letter] ∈ ({["account.deposit"]} + {["account.withdraw"]} : Language String) :=
    hl.imp (congrArg fun l => [l]) (congrArg fun l => [l])
  exact Language.append_mem_mul hw ((le_kstar : _ ≤ (_ : Language String)) hletter)

variable {current : Option Account} {payload : Command} {outcome : Outcome Account Event}

theorem Decision.isClosed_iff (h : Decision current payload outcome) :
    outcome.snapshot.isClosed = true ↔ typeName payload = "account.close" := by
  cases h with
  | opened => simp [typeName]
  | paidIn _ ho | paidOut _ ho => simp [typeName, ho]
  | closed => simp [typeName]

/-- An accepted command leads from a word of the state before to a word of the state after. -/
theorem Decision.concat_mem_wordsOf (h : Decision current payload outcome) {word : List String}
    (hw : word ∈ (wordsOf current).matches') :
    word ++ [typeName payload] ∈ (wordsOf (some outcome.snapshot)).matches' := by
  cases h with
  | opened hc =>
      subst hc
      obtain rfl : word = [] := hw
      exact mem_openWords_of_create
  | paidIn hc ho =>
      subst hc
      rw [wordsOf_open ho] at hw
      rw [wordsOf_open]
      · exact concat_mem_openWords hw (.inl rfl)
      · exact ho
  | paidOut hc ho =>
      subst hc
      rw [wordsOf_open ho] at hw
      rw [wordsOf_open]
      · exact concat_mem_openWords hw (.inr rfl)
      · exact ho
  | closed hc ho =>
      subst hc
      rw [wordsOf_open ho] at hw
      exact Language.append_mem_mul hw rfl

/-- The types of the records make a word of the state that they lead to. -/
theorem types_mem_of_ofHistory {history : List StoredCommand} {account : Option Account}
    (h : ofHistory history = .ok account) :
    history.map StoredCommand.commandType ∈ (wordsOf account).matches' := by
  induction history using List.reverseRecOn generalizing account with
  | nil =>
      cases h
      exact Set.mem_singleton _
  | append_singleton front record ih =>
      obtain ⟨current, next, hfront, hafter, hend⟩ := after_of_ofHistory h
      cases hend
      obtain ⟨command, outcome, hc, hd, rfl⟩ := accepted_of_after hafter
      rw [List.map_append, List.map_singleton, ← payloadType_of_decodeStored hc]
      exact (decision_of_rule hd).concat_mem_wordsOf (ih hfront)

/-- An account is closed if its last record says so. -/
theorem isClosed_iff_of_ofHistory {history : List StoredCommand} {account : Option Account}
    (h : ofHistory history = .ok account) :
    account.any Account.isClosed = true ↔
      history.getLast?.map StoredCommand.commandType = some "account.close" := by
  rcases List.eq_nil_or_concat history with rfl | ⟨front, record, rfl⟩
  · cases h
    simp
  · rw [List.concat_eq_append] at h ⊢
    obtain ⟨current, next, -, hafter, hend⟩ := after_of_ofHistory h
    cases hend
    obtain ⟨command, outcome, hc, hd, rfl⟩ := accepted_of_after hafter
    rw [List.getLast?_concat, Option.map_some, Option.some.injEq, ← payloadType_of_decodeStored hc,
      Option.any_some]
    exact (decision_of_rule hd).isClosed_iff

/-! ## Commands for a closed account -/

/-- What a command for a closed account is refused with. -/
def Command.refusalOfClosed (entity : Int64) : Command → Refusal
  | .create _ => .alreadyExists entity
  | .deposit _ | .withdraw _ | .close _ => .closed entity

theorem Command.exists_message_of_closed (entity : Int64) (payload : Command) :
    ∃ message, (payload.refusalOfClosed entity).toError = .ruleViolation message := by
  cases payload <;> exact ⟨_, rfl⟩

theorem rule_of_closed {account : Account} (h : account.isClosed = true)
    (command : Envelope Command) :
    rule (some account) command =
      .error (command.payload.refusalOfClosed command.entity.id).toError := by
  unfold rule
  cases command.payload with
  | create => rfl
  | deposit | withdraw | close =>
      simp [decide, payingIn, payingOut, closing, requireOpen, h, bind, Except.bind,
        Command.refusalOfClosed]

end Account

theorem Folio.accept_of_closed {folio : Folio} {account : Account}
    (ha : folio.account = some account) (h : account.isClosed = true) {command : Envelope Command}
    (live : command.isReplay = false) :
    folio.accept command =
      .error (command.payload.refusalOfClosed command.entity.id).toError :=
  accept_of_refused folio (by simp [Saga.reflects, live]) (by rw [ha, Account.rule_of_closed h])

namespace Books

open AccountService (Receipt)

variable {books books' : Books} {entity : Int64}

/-! ## Closed accounts -/

/-- The account of an entity is closed. -/
def Closed (books : Books) (entity : Int64) : Prop :=
  ∃ account, books.accounts.find entity = some account ∧ account.isClosed = true

theorem Kept.validate_of_closed (h : books.Kept) (hc : books.Closed entity) :
    (EntityReference.existing entity).validate = .ok () := by
  obtain ⟨account, ha, -⟩ := hc
  refine (h.settled entity).valid fun hn => ?_
  have hnone := (h.settled entity).follows.account_eq_none_iff.2 hn
  exact nomatch ha.symm.trans hnone

/-- A live command for a closed account is refused, or there is no number left for it. -/
theorem Closed.publication {now : Instant} {command : Envelope Command} (h : books.Kept)
    (hc : books.Closed command.entity.id) (hv : command.validate = .ok ())
    (live : command.isReplay = false) {result : Except DomainError (Envelope Command)}
    (hp : CommandBus.Publication (serviceAt now).bus commandsPart command books result books') :
    result = .error (match books.commands.nextSequenceNo? command.entity.id with
      | none => .store (exhaustedText command.entity.id)
      | some _ => (command.payload.refusalOfClosed command.entity.id).toError) := by
  obtain ⟨account, ha, hclosed⟩ := hc
  have haccept (n : Int64) : (books.folio command.entity.id).accept (command.atSequenceNo n) =
      .error (command.payload.refusalOfClosed command.entity.id).toError := by
    have hlive : (command.atSequenceNo n).isReplay = false := live
    exact Folio.accept_of_closed ha hclosed hlive
  cases hp with
  | malformed hf => exact nomatch hv.symm.trans hf
  | refusedReplay _ hr | passedOn _ hr => exact nomatch live.symm.trans hr
  | exhausted _ _ hn =>
      change books.commands.nextSequenceNo? command.entity.id = none at hn
      rw [hn]
  | @refused n failure _ _ _ hn hd =>
      change books.commands.nextSequenceNo? command.entity.id = some n at hn
      have hve : (command.atSequenceNo n).validate = .ok () := hv
      have hdel := h.filed.delivered hve hd
      cases hdel.accept_of_error.symm.trans (haccept n)
      rw [hn]
  | unwritten _ _ _ _ hw => cases hw
  | @recorded n _ _ _ _ _ _ hd _ =>
      have hve : (command.atSequenceNo n).validate = .ok () := hv
      have hdel := h.filed.delivered hve hd
      exact nomatch hdel.accept_of_ok.symm.trans (haccept n)

theorem Closed.serve {s : Session Books} (h : s.state.Kept) (hc : s.state.Closed entity)
    (request : Request) :
    (Books.serve s request).state.commands.load entity = s.state.commands.load entity ∧
      (Books.serve s request).state.folio entity = s.state.folio entity := by
  rcases performed (yields_exec ((serviceAt request.now).perform request.operation) s) with
    ⟨command, r, live, -, -, hp⟩ | ⟨_, -, -, hr⟩
  · by_cases he : entity = command.entity.id
    · subst he
      obtain ⟨failure, rfl⟩ : ∃ failure, r = .error failure := by
        cases hv : command.validate with
        | error failure => exact ⟨_, (hp.of_malformed hv).1⟩
        | ok => exact ⟨_, hc.publication h hv live hp⟩
      obtain ⟨hcommands, hfolio⟩ := h.filed.same_of_refused live hp
      exact ⟨congrArg (CommandLog.load · _) hcommands, hfolio _⟩
    · exact h.filed.elsewhere_of_publication live hp he
  · rw [Books.serve, h.eq_of_replaying hr]
    exact ⟨rfl, rfl⟩

theorem Closed.of_folio (hc : books.Closed entity)
    (hf : books'.folio entity = books.folio entity) : books'.Closed entity := by
  obtain ⟨account, ha, hclosed⟩ := hc
  exact ⟨account, (congrArg Folio.account hf).trans ha, hclosed⟩

theorem Closed.foldl {s : Session Books} (h : s.state.Kept) (hc : s.state.Closed entity)
    (requests : List Request) :
    (requests.foldl Books.serve s).state.commands.load entity = s.state.commands.load entity ∧
      (requests.foldl Books.serve s).state.folio entity = s.state.folio entity := by
  induction requests generalizing s with
  | nil => exact ⟨rfl, rfl⟩
  | cons request requests ih =>
      -- The account is still closed, so that what comes later finds the same again.
      obtain ⟨hload, hfolio⟩ := hc.serve h request
      obtain ⟨hloads, hfolios⟩ := ih (h.serve request) (hc.of_folio hfolio)
      exact ⟨hloads.trans hload, hfolios.trans hfolio⟩

/-! ## Requests for a closed account -/

theorem isBlankText_commandType (payload : Command) :
    Text.isBlankText (typeName payload) = false := by
  cases payload with
  | create => exact (by decide : Text.isBlankText "account.create" = false)
  | deposit => exact (by decide : Text.isBlankText "account.deposit" = false)
  | withdraw => exact (by decide : Text.isBlankText "account.withdraw" = false)
  | close => exact (by decide : Text.isBlankText "account.close" = false)

theorem validate_of_commandOf {operation : AccountService.Operation} {id : Uuid} {now : Instant}
    {command : Envelope Command} (h : commandOf operation id now = some command)
    (hv : (EntityReference.existing operation.account).validate = .ok ()) :
    command.validate = .ok () := by
  have hname : command.name = typeName command.payload := by
    cases operation <;> cases h <;> rfl
  rw [← (eq_of_commandOf h).1, EntityReference.validate_existing_iff] at hv
  rw [Envelope.validate, hname, isBlankText_commandType]
  exact hv

theorem Closed.answer_replay {s : Session Books} (h : s.state.Kept) (hc : s.state.Closed entity)
    (now : Instant) :
    answer s ⟨now, .replay entity⟩ = .ok (.replayed (s.state.commands.load entity).length) := by
  obtain ⟨result, hresult, hr⟩ := replaying_of_answer s now entity
  obtain rfl := h.count_of_replaying (h.validate_of_closed hc) hr
  exact hresult

theorem Closed.answer_operation {s : Session Books} (h : s.state.Kept)
    (hc : s.state.Closed entity) (now : Instant) {operation : AccountService.Operation}
    (he : operation.account = entity) (hop : operation ≠ .replay entity) :
    ((s.state.commands.load entity).length < Int64.maxValue.toInt →
        ∃ message, answer s ⟨now, operation⟩ = .error (.ruleViolation message)) ∧
      ((s.state.commands.load entity).length = Int64.maxValue.toInt →
        answer s ⟨now, operation⟩ = .error (.store (exhaustedText entity))) := by
  subst he
  rcases performed (yields_exec ((serviceAt now).perform operation) s) with
    ⟨command, r, live, ⟨_, hcommand⟩, hresult, hp⟩ | ⟨_, hreplay, -, -⟩
  · have hv := validate_of_commandOf hcommand (h.validate_of_closed hc)
    rw [← (eq_of_commandOf hcommand).1] at hc ⊢
    obtain rfl := hc.publication h hv live hp
    have hnone : s.state.commands.nextSequenceNo? command.entity.id = none ↔ _ :=
      h.ordered.nextSequenceNo?_eq_none_iff
    refine ⟨fun hlt => ?_, fun heq => ?_⟩
    · obtain ⟨n, hn⟩ := Option.ne_none_iff_exists'.1 (mt hnone.1 (Int.ne_of_lt hlt))
      rw [hn] at hresult
      obtain ⟨message, hm⟩ := command.payload.exists_message_of_closed command.entity.id
      exact ⟨message, hresult.trans (congrArg Except.error hm)⟩
    · rw [hnone.2 heq] at hresult
      exact hresult
  · exact absurd hreplay hop

/-! ## What the books say -/

/-- Whatever the service was asked to do: the types of the records of an entity make a word of the life
cycle, and account and summary are closed if the last of them says so. Then nothing more happens to
the entity: whatever comes later, its records, its account and its summary stay, each replay succeeds
with all records, and each other request is refused, at last because there is no number left. -/
theorem closed_for_good (start : Session Books) (requests : List Request) (entity : Int64) :
    let books := (reached start requests).state
    let history := books.commands.load entity
    let closed := history.getLast?.map StoredCommand.commandType = some "account.close"
    history.map StoredCommand.commandType ∈ Account.lifeCycle.matches' ∧
    ((books.accounts.find entity).any Account.isClosed = true ↔ closed) ∧
    ((books.summaries.find entity).any AccountSummary.isClosed = true ↔ closed) ∧
    (closed → ∀ more,
      let later := reached start (requests ++ more)
      later.state.commands.load entity = history ∧
      later.state.accounts.find entity = books.accounts.find entity ∧
      later.state.summaries.find entity = books.summaries.find entity ∧
      ∀ now, answer later ⟨now, .replay entity⟩ = .ok (.replayed history.length) ∧
        ∀ operation, operation.account = entity → operation ≠ .replay entity →
          (history.length < Int64.maxValue.toInt →
            ∃ message, answer later ⟨now, operation⟩ = .error (.ruleViolation message)) ∧
          (history.length = Int64.maxValue.toInt →
            answer later ⟨now, operation⟩ = .error (.store (exhaustedText entity)))) := by
  intro books history closed
  have h : books.Kept := kept_reached start requests
  have hs := h.settled entity
  obtain ⟨account, ha, hf⟩ := hs.follows.account
  change Account.ofHistory history = .ok account at ha
  change books.accounts.find entity = _ at hf
  have hclosed : account.any Account.isClosed = true ↔ closed :=
    Account.isClosed_iff_of_ofHistory ha
  have haccount : (books.accounts.find entity).any Account.isClosed = true ↔ closed := by
    rw [hf, ← hclosed, Option.any_map]
    rfl
  refine ⟨Account.wordsOf_le_lifeCycle account (Account.types_mem_of_ofHistory ha), haccount, ?_,
    fun hc more => ?_⟩
  · rw [← haccount]
    cases hfound : books.accounts.find entity with
    | none => rw [show books.summaries.find entity = none from hs.bare hfound]; rfl
    | some found =>
        rw [show books.summaries.find entity = _ from hs.follows.summary found hfound]
        rfl
  · intro later
    have hclose : books.Closed entity := by
      obtain ⟨found, hfound, hc⟩ := (Option.any_eq_true _ _).1 (haccount.2 hc)
      exact ⟨found, hfound, hc⟩
    have hlater : later = more.foldl Books.serve (reached start requests) := List.foldl_append
    have hkept : later.state.Kept := kept_reached start (requests ++ more)
    obtain ⟨hload, hfolio⟩ := hclose.foldl h more
    rw [← hlater] at hload hfolio
    have hstill := hclose.of_folio hfolio
    refine ⟨hload, congrArg Folio.account hfolio, congrArg Folio.summary hfolio, fun now => ?_⟩
    rw [show history = _ from hload.symm]
    exact ⟨hstill.answer_replay hkept now, fun operation => hstill.answer_operation hkept now⟩

/-- A closed account stays as it was though a deposit was asked for; another one is refused by a rule,
and a replay goes over all records. -/
theorem closed_for_good_of_close :
    let requests := [⟨epoch, .openAccount 1 "Ada" 5⟩, ⟨epoch, .close 1⟩]
    ((reached { state := {} } requests).state.commands.load 1).getLast?.map
        StoredCommand.commandType = some "account.close" ∧
      (reached { state := {} } (requests ++ [⟨epoch, .deposit 1 7⟩])).state.commands.load 1 =
        (reached { state := {} } requests).state.commands.load 1 ∧
      answer (reached { state := {} } (requests ++ [⟨epoch, .deposit 1 7⟩])) ⟨epoch, .replay 1⟩ =
        .ok (.replayed ((reached { state := {} } requests).state.commands.load 1).length) ∧
      ∃ message, answer (reached { state := {} } (requests ++ [⟨epoch, .deposit 1 7⟩]))
        ⟨epoch, .deposit 1 7⟩ = .error (.ruleViolation message) := by
  intro requests
  have hc : ((reached { state := {} } requests).state.commands.load 1).getLast?.map
      StoredCommand.commandType = some "account.close" := by decide +kernel
  have hlength : ((reached { state := {} } requests).state.commands.load 1).length = 2 := by
    decide +kernel
  obtain ⟨hload, -, -, hanswers⟩ := (closed_for_good { state := {} } requests 1).2.2.2 hc
    [⟨epoch, .deposit 1 7⟩]
  have hrefused := ((hanswers epoch).2 (.deposit 1 7) rfl nofun).1 (by rw [hlength]; decide)
  exact ⟨hc, hload, (hanswers epoch).1, hrefused⟩

end Books

end EventSourcing
