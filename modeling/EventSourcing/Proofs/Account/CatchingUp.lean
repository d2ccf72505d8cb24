import EventSourcing.Proofs.Account.Folio

/-!
# Catching up with a history

A folio that follows the beginning of a history follows all of it once all records have been given to
it: those of the beginning are reflected already, the others are decided as they were at first.
-/

namespace EventSourcing

open Account (Command Event)

/-! ## Histories that describe an account -/

namespace Account

variable {history : List StoredCommand} {account : Option Account}

theorem exists_of_ofHistory (h : ofHistory history = .ok account) {record : StoredCommand}
    (hr : record ∈ history) :
    ∃ command, commandDecoders.decodeStored record = .ok command := by
  obtain ⟨front, rest, rfl⟩ := List.append_of_mem hr
  obtain ⟨_, _, -, hn, -⟩ := after_of_ofHistory h
  obtain ⟨command, _, hc, -⟩ := accepted_of_after hn
  exact ⟨command, hc⟩

/-- What the rules accept for an account they accept for the account as it is stored. -/
theorem exists_rule_asOf {current : Option Account} {command : Envelope Command}
    {outcome : Outcome Account Event} (h : rule current command = .ok outcome) (id version : Int64) :
    ∃ stored, rule (current.map (asOf id version)) command = .ok stored := by
  cases current with
  | none => exact ⟨outcome, h⟩
  | some found =>
      unfold rule at h ⊢
      rw [Option.map_some, decide_asOf]
      cases hd : decide (some found) command.entity.id command.payload with
      | error refusal =>
          rw [hd] at h
          cases h
      | ok plain => exact ⟨_, rfl⟩

/-- The next record is decided on the stored account as it was at first. -/
theorem UpToDate.exists_rule {entity : Int64} {past : List StoredCommand} {stored : Option Account}
    (h : UpToDate entity past stored) {record : StoredCommand} {current next : Option Account}
    (ha : ofHistory past = .ok current) (hn : after current record = .ok next) :
    ∃ command outcome, commandDecoders.decodeStored record = .ok command ∧
      rule stored command = .ok outcome := by
  obtain ⟨command, _, hc, hd, -⟩ := accepted_of_after hn
  obtain ⟨_, ha', rfl⟩ := h
  cases ha.symm.trans ha'
  obtain ⟨outcome, hs⟩ := exists_rule_asOf hd entity (CommandLog.lastOf past)
  exact ⟨command, outcome, hc, hs⟩

end Account

/-! ## Walking through a history -/

namespace Folio

def walk (folio : Folio) (history : List StoredCommand) : Except DomainError Folio :=
  history.foldlM (fun folio record => do
    folio.accept (← Account.commandDecoders.decodeStored record)) folio

theorem walk_append (folio : Folio) (front rest : List StoredCommand) :
    folio.walk (front ++ rest) = (do (← folio.walk front).walk rest) := by
  simp only [walk, List.foldlM_append]

theorem walk_cons {folio folio' : Folio} {record : StoredCommand} {command : Envelope Command}
    (hc : Account.commandDecoders.decodeStored record = .ok command)
    (ha : folio.accept command = .ok folio') (rest : List StoredCommand) :
    folio.walk (record :: rest) = folio'.walk rest := by
  simp only [walk, List.foldlM_cons, hc, ha, bind, Except.bind]

theorem accept_of_walk_cons {folio last : Folio} {record : StoredCommand}
    {rest : List StoredCommand} (h : folio.walk (record :: rest) = .ok last) :
    ∃ command next, Account.commandDecoders.decodeStored record = .ok command ∧
      folio.accept command = .ok next ∧ next.walk rest = .ok last := by
  rw [walk, List.foldlM_cons] at h
  obtain ⟨next, hn, hrest⟩ := ok_of_bind h
  obtain ⟨command, hc, ha⟩ := ok_of_bind hn
  exact ⟨command, next, hc, ha, hrest⟩

variable {folio : Folio} {entity : Int64}

theorem Follows.walk_of_subset {past : List StoredCommand} (h : folio.Follows entity past)
    (hg : CommandLog.Gapless entity past) {history : List StoredCommand} (hs : history ⊆ past) :
    folio.walk history = .ok folio := by
  induction history with
  | nil => rfl
  | cons record history ih =>
      have hm := hs List.mem_cons_self
      obtain ⟨account, ha, -⟩ := h.account
      obtain ⟨command, hc⟩ := Account.exists_of_ofHistory ha hm
      have hr := (h.account.reflects_of_decodeStored hg hm hc).2
      rw [walk_cons hc (accept_of_reflects folio hr)]
      exact ih fun _ hx => hs (List.mem_cons_of_mem _ hx)

theorem Follows.accept_next {past : List StoredCommand} (h : folio.Follows entity past)
    {record : StoredCommand} {account next : Option Account}
    (ha : Account.ofHistory past = .ok account) (hn : Account.after account record = .ok next)
    (hg : CommandLog.Gapless entity (past ++ [record])) :
    ∃ command folio', Account.commandDecoders.decodeStored record = .ok command ∧
      folio.accept command = .ok folio' ∧ folio'.Follows entity (past ++ [record]) := by
  obtain ⟨command, outcome, hc, hs⟩ := h.account.exists_rule ha hn
  have hrecord := Account.recordOf_of_decodeStored hc
  obtain ⟨he, hseq⟩ := hg.last
  rw [hrecord.sequenceNo] at hseq
  rw [hrecord.entityId] at he
  subst he
  have hr := h.account.reflects_next hg.front hseq
  have habsorb := h.absorb_of_rule hs
  exact ⟨command, _, hc, (accept_eq_absorb folio hr).trans habsorb, h.concat habsorb hrecord⟩

theorem Follows.walk_rest {past rest : List StoredCommand} (h : folio.Follows entity past)
    {account : Option Account} (ha : Account.ofHistory (past ++ rest) = .ok account)
    (hg : CommandLog.Gapless entity (past ++ rest)) :
    ∃ folio', folio.walk rest = .ok folio' ∧ folio'.Follows entity (past ++ rest) := by
  -- One record after the other moves from what remains to what is past.
  induction rest generalizing past folio with
  | nil => exact ⟨folio, rfl, by rwa [List.append_nil]⟩
  | cons record rest ih =>
      obtain ⟨current, next, hcurrent, hn, -⟩ := Account.after_of_ofHistory ha
      rw [List.append_cons] at ha hg ⊢
      obtain ⟨command, folio', hc, hacc, hf⟩ := h.accept_next hcurrent hn hg.front
      rw [walk_cons hc hacc]
      exact ih hf ha hg

/-- Whatever of a history a folio follows already, the whole history brings it up to date. -/
theorem Follows.catchUp {past rest : List StoredCommand} (h : folio.Follows entity past)
    {account : Option Account} (ha : Account.ofHistory (past ++ rest) = .ok account)
    (hg : CommandLog.Gapless entity (past ++ rest)) :
    ∃ folio', folio.walk (past ++ rest) = .ok folio' ∧ folio'.Follows entity (past ++ rest) := by
  rw [walk_append, h.walk_of_subset hg.front (List.Subset.refl past)]
  exact h.walk_rest ha hg

end Folio

end EventSourcing
