import EventSourcing.Proofs.Account.Page

/-!
# Entities do not interfere

The requests for one entity make its page, and they are answered from its page. What is asked for
other entities, before or in between, makes no difference.
-/

namespace EventSourcing

open AccountService (Receipt)

/-! ## One page -/

namespace Page

/-- The page after some requests for its entity, one after the other. -/
def afterAll (page : Page) (requests : List Books.Request) : Page :=
  requests.foldl (fun page request => (request.outcome page).2) page

/-- What requests for the entity of a page come to, one after the other. -/
def outcomes (page : Page) : List Books.Request → List (Except DomainError Receipt)
  | [] => []
  | request :: requests =>
    (request.outcome page).1 :: (request.outcome page).2.outcomes requests

end Page

namespace Books

/-! ## The requests for an entity -/

def Request.isFor (entity : Int64) (request : Request) : Bool := request.operation.account == entity

def requestsFor (entity : Int64) (requests : List Request) : List Request :=
  requests.filter (Request.isFor entity)

/-- The answers to the requests for an entity, among those to all requests. -/
def answersFor (entity : Int64) (s : Session Books) (requests : List Request) :
    List (Except DomainError Receipt) :=
  ((requests.zip (answers s requests)).filter fun served => served.1.isFor entity).map Prod.snd

theorem requestsFor_cons (entity : Int64) (request : Request) (requests : List Request) :
    requestsFor entity (request :: requests) =
      if request.isFor entity then request :: requestsFor entity requests
      else requestsFor entity requests := List.filter_cons

theorem answersFor_cons (entity : Int64) (s : Session Books) (request : Request)
    (requests : List Request) :
    answersFor entity s (request :: requests) =
      if request.isFor entity then
        answer s request :: answersFor entity (serve s request) requests
      else answersFor entity (serve s request) requests := by
  simp only [answersFor, answers, List.zip_cons_cons, List.filter_cons]
  split <;> rfl

theorem Request.page_revise (request : Request) (pages : Int64 → Page) (entity : Int64) :
    request.errand.revise pages entity =
      if request.isFor entity then (request.outcome (pages entity)).2 else pages entity := by
  by_cases he : request.operation.account = entity
  · subst he
    simp [isFor, Errand.revise, errand]
  · have hne : entity ≠ request.errand.entity := Ne.symm he
    simp [isFor, Errand.revise, he, hne]

/-- The page of an entity and the answers for it follow from the requests for it alone. -/
theorem Kept.served_apart {s : Session Books} (h : s.state.Kept) (requests : List Request)
    (entity : Int64) :
    (requests.foldl Books.serve s).state.page entity =
        (s.state.page entity).afterAll (requestsFor entity requests) ∧
      (answersFor entity s requests).map (Except.map Receipt.anonymous) =
        (s.state.page entity).outcomes (requestsFor entity requests) := by
  induction requests generalizing s with
  | nil => exact ⟨rfl, rfl⟩
  | cons request requests ih =>
      obtain ⟨hanswer, hpages⟩ := h.served request
      obtain ⟨hpage, hanswers⟩ := ih (h.serve request)
      rw [hpages, request.page_revise] at hpage hanswers
      rw [requestsFor_cons, answersFor_cons]
      cases he : request.isFor entity with
      | true =>
          rw [he, if_pos rfl] at hpage hanswers
          rw [eq_of_beq he] at hanswer
          rw [if_pos rfl, if_pos rfl, List.map_cons, hanswers, ← hanswer]
          exact ⟨hpage, rfl⟩
      | false =>
          rw [he, if_neg Bool.false_ne_true] at hpage hanswers
          exact ⟨hpage, hanswers⟩

/-! ## Two runs -/

/-- If two runs from empty books make the same requests for each entity, at the same times and in the
same order, then the requests for an entity are answered the same in both, and in the end both have
the same records, account and summary for it, all apart from the ids of commands. The order of
requests for different entities is not seen. -/
theorem same_of_requestsFor (start start' : Session Books) (requests requests' : List Request)
    (h : ∀ entity, requestsFor entity requests = requestsFor entity requests') (entity : Int64) :
    let empty : Session Books := { start with state := {} }
    let empty' : Session Books := { start' with state := {} }
    let books := (reached start requests).state
    let books' := (reached start' requests').state
    (answersFor entity empty requests).map (Except.map Receipt.anonymous) =
        (answersFor entity empty' requests').map (Except.map Receipt.anonymous) ∧
      (books.commands.load entity).map StoredCommand.anonymous =
        (books'.commands.load entity).map StoredCommand.anonymous ∧
      books.accounts.find entity = books'.accounts.find entity ∧
      books.summaries.find entity = books'.summaries.find entity := by
  intro empty empty' books books'
  obtain ⟨hpage, hanswers⟩ := Kept.served_apart (s := empty) kept_empty requests entity
  obtain ⟨hpage', hanswers'⟩ := Kept.served_apart (s := empty') kept_empty requests' entity
  have hsame : books.page entity = books'.page entity := by
    calc books.page entity
      _ = (empty.state.page entity).afterAll (requestsFor entity requests) := hpage
      _ = (empty'.state.page entity).afterAll (requestsFor entity requests') := by rw [h]
      _ = books'.page entity := hpage'.symm
  refine ⟨?_, congrArg Page.records hsame, congrArg (fun page => page.folio.account) hsame,
    congrArg (fun page => page.folio.summary) hsame⟩
  rw [hanswers, hanswers', h]

/-- Two accounts, whose requests are made in turn or those for the second account first. -/
theorem same_of_reordered :
    let requests : List Request := [⟨epoch, .openAccount 1 "Ada" 5⟩, ⟨epoch, .openAccount 2 "Bob" 1⟩,
      ⟨epoch, .deposit 1 7⟩, ⟨epoch, .withdraw 2 9⟩, ⟨epoch, .replay 1⟩]
    let requests' : List Request := [⟨epoch, .openAccount 2 "Bob" 1⟩, ⟨epoch, .withdraw 2 9⟩,
      ⟨epoch, .openAccount 1 "Ada" 5⟩, ⟨epoch, .deposit 1 7⟩, ⟨epoch, .replay 1⟩]
    (∀ entity, requestsFor entity requests = requestsFor entity requests') ∧
      (reached { state := {} } requests).state.commands.load 1 ≠
        (reached { state := {} } requests').state.commands.load 1 ∧
      (reached { state := {} } requests).state.accounts.find 1 =
        (reached { state := {} } requests').state.accounts.find 1 := by
  intro requests requests'
  have h (entity : Int64) : requestsFor entity requests = requestsFor entity requests' := by
    by_cases h1 : 1 = entity
    · subst h1
      rfl
    by_cases h2 : 2 = entity
    · subst h2
      rfl
    simp [requests, requests', requestsFor, Request.isFor, AccountService.Operation.account, h1, h2]
  exact ⟨h, by decide +kernel, (same_of_requestsFor { state := {} } { state := {} } _ _ h 1).2.2.1⟩

end Books

end EventSourcing
