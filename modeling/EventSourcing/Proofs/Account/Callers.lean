import EventSourcing.Proofs.Account.Working
import EventSourcing.Proofs.Interplay

/-!
# The service with many callers

Calls of the service that run side by side, on the same stores and with one table of locks. However
their steps are interleaved, they come to what they come to one after the other, in the order in
which they were let through to their entities.
-/

namespace EventSourcing

open Account (Command)

namespace Books

open AccountService (Receipt)

/-! ## One call -/

/-- A call through the gate keeps to the errand of its request, if it does so alone on the page. -/
theorem outside_of_works {γ : Type} {request : Request} {span : Trace.Span} {entity : Int64}
    (he : request.operation.account = entity) {body : Fallible (Interleaved Shared) γ}
    {receipt : γ → Receipt}
    (h : ∀ page, page.Fits entity → sharedPlace.Works entity body.run page fun result page' =>
      (result.map receipt).map Receipt.anonymous = (request.outcome page).1 ∧
        page' = (request.outcome page).2) :
    sharedPlace.Outside Page.Fits (Except.map Receipt.anonymous) request.errand
      (ExceptT.run do
        return receipt (← Host.during span
          (ExceptT.mk ((Gate.locked Cell.second).hold entity body.run)))) := by
  subst he
  refine .quiet (fun _ => rfl) fun _ => ?_
  change sharedPlace.Outside _ _ _ (((Gate.locked Cell.second).hold _ body.run >>= _) >>= _)
  rw [bind_assoc]
  refine Workplace.outside_of_hold fun page hp => (h page hp).mono fun result page' hends => ?_
  refine ⟨hends.2, ?_⟩
  cases result with
  | ok c => exact .quiet (fun _ => rfl) fun _ => .done hends.1
  | error failure => exact .quiet (fun _ => rfl) fun _ => .done hends.1

theorem outside_publish {request : Request} (id : Uuid) {command : Envelope Command}
    (hc : commandOf request.operation id request.now = some command) :
    sharedPlace.Outside Page.Fits (Except.map Receipt.anonymous) request.errand
      (ExceptT.run do return .accepted (← (sharedAt request.now).bus.publish command)) := by
  obtain ⟨he, live, -⟩ := eq_of_commandOf hc
  unfold CommandBus.publish
  cases hv : command.validate with
  | error failure => exact .refused (Request.outcome_of_malformed hc hv)
  | ok =>
      refine outside_of_works he.symm fun page hp => ?_
      rw [Request.outcome_of_valid hc hv]
      refine works_publishAlone (Envelope.validate_entity hv) live hp fun result hr => ⟨?_, rfl⟩
      rw [← hr]
      cases result <;> rfl

theorem outside_replay {request : Request} {entity : Int64}
    (hop : request.operation = .replay entity) :
    sharedPlace.Outside Page.Fits (Except.map Receipt.anonymous) request.errand
      (ExceptT.run do return .replayed (← (sharedAt request.now).bus.replay entity)) := by
  have he : request.operation.account = entity := by rw [hop]; rfl
  have houtcome := Request.outcome_of_replay (he ▸ hop)
  rw [he] at houtcome
  unfold CommandBus.replay
  cases hv : (EntityReference.existing entity).validate with
  | error failure =>
      rw [hv] at houtcome
      exact .refused houtcome
  | ok =>
      rw [hv] at houtcome
      refine outside_of_works he fun page hp => ?_
      rw [houtcome]
      exact works_replayAlone hv hp ⟨rfl, rfl⟩

theorem outside_perform (request : Request) :
    sharedPlace.Outside Page.Fits (Except.map Receipt.anonymous) request.errand
      ((sharedAt request.now).perform request.operation).run := by
  cases hop : request.operation with
  | replay id => exact outside_replay hop
  | openAccount | deposit | withdraw | close | depositCorrelated =>
      -- The command gets its id first.
      refine .quiet (fun _ => rfl) fun s => ?_
      exact outside_publish s.ids.draw.1 (by rw [hop]; rfl)

/-! ## Many calls -/

/-- The calls of some requests, side by side on the books of a session. -/
def calls (s : Session Books) (requests : List Request) :
    Pool (Session Shared) (Except DomainError Receipt) where
  routines := requests.map fun request => ((sharedAt request.now).perform request.operation).run
  state := { s with state := (s.state, {}) }

variable {s : Session Books} {requests : List Request}

theorem fits_errands (requests : List Request) (i : Nat) {page : Page}
    (h : page.Fits (errands requests i).entity) :
    ((errands requests i).outcome page).2.Fits (errands requests i).entity := by
  cases hi : requests[i]? with
  | some request =>
      rw [errands_of_getElem? hi] at h ⊢
      exact request.fits_outcome h
  | none =>
      rw [errands, hi] at h ⊢
      exact h

def undertaking (h : s.state.Kept) (requests : List Request) :
    Undertaking Shared Page (Except DomainError Receipt) (Except DomainError Receipt) where
  place := sharedPlace
  fit := Page.Fits
  seen := Except.map Receipt.anonymous
  errands := errands requests
  start := s.state.page
  fit_start := h.fits
  fit_outcome i _ := fits_errands requests i

theorem underway_calls (h : s.state.Kept) (ht : s.state.Tidy) (requests : List Request) :
    (undertaking h requests).Underway (calls s requests).routines (s.state, {}) {} := by
  refine .start rfl ht rfl fun i r hr => ?_
  obtain ⟨request, hi, rfl⟩ := Option.map_eq_some_iff.1 (List.getElem?_map ▸ hr)
  change sharedPlace.Outside _ _ (errands requests i) _
  rw [errands_of_getElem? hi]
  exact outside_perform request

/-! ## One after the other -/

/-- Replies and books are those of requests that are served one after the other, apart from the ids
of their commands. -/
structure Serial (s : Session Books) (served : List Request)
    (replies : List (Except DomainError Receipt)) (books : Books) : Prop where
  replies : replies.map (Except.map Receipt.anonymous) =
    (answers s served).map (Except.map Receipt.anonymous)
  records : ∀ entity, (books.commands.load entity).map StoredCommand.anonymous =
    ((served.foldl serve s).state.commands.load entity).map StoredCommand.anonymous
  accounts : books.accounts = (served.foldl serve s).state.accounts
  summaries : books.summaries = (served.foldl serve s).state.summaries

theorem Serial.of_page {served : List Request} {replies : List (Except DomainError Receipt)}
    {books : Books}
    (hr : replies.map (Except.map Receipt.anonymous) =
      (answers s served).map (Except.map Receipt.anonymous))
    (hp : books.page = (served.foldl serve s).state.page) (ht : books.Tidy)
    (ht' : (served.foldl serve s).state.Tidy) : Serial s served replies books where
  replies := hr
  records entity := congrArg Page.records (congrFun hp entity)
  accounts := ht.accounts.eq_of_find ht'.accounts fun entity =>
    congrArg (fun page => page.folio.account) (congrFun hp entity)
  summaries := ht.summaries.eq_of_find ht'.summaries fun entity =>
    congrArg (fun page => page.folio.summary) (congrFun hp entity)

theorem Serial.ordered {served : List Request} {replies : List (Except DomainError Receipt)}
    {books : Books} (hs : Serial s served replies books) (h : s.state.Kept) :
    books.commands.Ordered := fun entity => by
  rw [← CommandLog.gapless_anonymous_iff, hs.records, CommandLog.gapless_anonymous_iff]
  exact (h.foldl served).ordered entity

/-- However calls are interleaved, all of them can be brought to an end, and in the end the replies
and the books are those of the requests one after the other, in the order in which the calls were let
through to their entities; a call that was never let through may stand anywhere. No record was
refused, and those of each entity are numbered without a gap. -/
theorem serial_of_watched (start : Session Books) (earlier requests : List Request)
    (schedule : List Nat) {pool : Pool (Session Shared) (Except DomainError Receipt)}
    {watch : Watch}
    (hw : (calls (reached start earlier) requests).watched? Cell.second {} schedule =
      some (pool, watch)) :
    (∃ more last results, pool.follow? more = some last ∧ last.results? = some results) ∧
      (∃ order, order.Perm (List.range requests.length) ∧ watch.entered.Sublist order) ∧
      ∀ results, pool.results? = some results →
        (∀ order, order.Perm (List.range requests.length) → watch.entered.Sublist order →
          Serial (reached start earlier) (order.filterMap (requests[·]?))
            (order.filterMap (results[·]?)) pool.state.state.1) ∧
        (∀ result ∈ results, ∀ fault : AppendFault, result ≠ .error (.store fault.message)) ∧
        pool.state.state.1.commands.Ordered := by
  have hkept := kept_reached start earlier
  have htidy := tidy_reached start earlier
  have hunder := (underway_calls hkept htidy requests).watched hw
  obtain ⟨hlength, hnodup, hlt⟩ := Pool.entered_of_watched? hw
  simp only [calls, List.length_map] at hlength hlt
  have horder : ∃ order, order.Perm (List.range requests.length) ∧ watch.entered.Sublist order :=
    List.subperm_iff.1 <| List.subperm_of_subset hnodup fun i hi => List.mem_range.2 (hlt i hi)
  refine ⟨hunder.exists_end, horder, fun results hr => ?_⟩
  have hcount : results.length = requests.length := by
    rw [← hlength, Pool.routines_of_results? hr, List.length_map]
  have hserial (order : List Nat) (hperm : order.Perm (List.range requests.length))
      (hsub : watch.entered.Sublist order) :
      Serial (reached start earlier) (order.filterMap (requests[·]?))
        (order.filterMap (results[·]?)) pool.state.state.1 := by
    have hall (i : Nat) (hi : i ∈ order) : i < requests.length := List.mem_range.1 (hperm.subset hi)
    obtain ⟨hpages, hreplies⟩ := hunder.one_by_one hr hsub (hperm.nodup_iff.2 List.nodup_range)
      fun i hi => hcount ▸ hall i hi
    obtain ⟨hserved, hanswers⟩ := Kept.one_by_one hall hkept
    exact .of_page (hreplies.trans hanswers) (hpages.trans hserved.symm) hunder.ground
      (htidy.foldl hkept _)
  obtain ⟨order, hperm, hsub⟩ := horder
  refine ⟨hserial, fun result hmem fault hfault => ?_, (hserial order hperm hsub).ordered hkept⟩
  subst hfault
  obtain ⟨i, hi⟩ := List.getElem?_of_mem hmem
  obtain ⟨page, hpage⟩ := hunder.exists_outcome hr hi
  have hlt : i < requests.length := hcount ▸ (List.getElem?_eq_some_iff.1 hi).1
  change ((errands requests i).outcome page).1 = _ at hpage
  rw [errands_of_getElem? (List.getElem?_eq_getElem hlt)] at hpage
  exact exhaustedText_ne_message _ fault (Request.outcome_eq_store hpage).symm

/-- A deposit asks for the account while it is being opened and has to wait. -/
theorem serial_of_contended :
    let requests := [⟨epoch, .deposit 1 7⟩, ⟨epoch, .openAccount 1 "Ada" 5⟩]
    let schedule := List.replicate 3 1 ++ List.replicate 4 0 ++ List.replicate 20 1 ++
      List.replicate 20 0
    ∃ pool watch results,
      (calls (reached { state := {} } []) requests).watched? Cell.second {} schedule =
          some (pool, watch) ∧
        pool.results? = some results ∧ results.all Except.isOk = true ∧ watch.entered = [1, 0] ∧
        Serial (reached { state := {} } []) ([1, 0].filterMap (requests[·]?))
          ([1, 0].filterMap (results[·]?)) pool.state.state.1 := by
  intro requests schedule
  have hrun : (((calls (reached { state := {} } []) requests).watched? Cell.second {} schedule).bind
      fun last => last.1.results?.map fun results =>
        (results.all Except.isOk, last.2.entered)) = some (true, [1, 0]) := by
    decide +kernel
  obtain ⟨⟨pool, watch⟩, hw, hlast⟩ := Option.bind_eq_some_iff.1 hrun
  obtain ⟨results, hr, hseen⟩ := Option.map_eq_some_iff.1 hlast
  obtain ⟨hok, hentered⟩ := Prod.mk.inj hseen
  have hserial := (serial_of_watched { state := {} } [] requests schedule hw).2.2 results hr
  exact ⟨pool, watch, results, hw, hr, hok, hentered,
    hserial.1 [1, 0] (List.Perm.swap 0 1 []) (hentered ▸ List.Sublist.refl _)⟩

end Books

end EventSourcing
