import EventSourcing.Account.Rules
import EventSourcing.Account.Summary
import EventSourcing.Json.Form

/-!
# Accounts and summaries as JSON

What is absent when an account or a summary is read is as in a new one.
-/

namespace EventSourcing

def idJson : Option Int64 → Json
  | some id => toJson id
  | none => .null

instance : JsonForm Account where
  toJson account := .record [
    ("balance", toJson account.balance),
    ("holder", toJson account.holder),
    ("id", idJson account.id),
    ("is_closed", toJson account.isClosed),
    ("version", toJson account.version)]
  ofJson json := do
    let id ← ofField? "id" json
    let version ← ofFieldD "version" json 0
    let holder ← ofFieldD "holder" json ""
    let balance ← ofFieldD "balance" json 0
    let isClosed ← ofFieldD "is_closed" json false
    return { id, version, holder, balance, isClosed }

instance : JsonForm AccountSummary where
  toJson summary := .record [
    ("balance", toJson summary.balance),
    ("holder", toJson summary.holder),
    ("id", idJson summary.id),
    ("is_closed", toJson summary.isClosed),
    ("transaction_count", toJson summary.transactionCount),
    ("version", toJson summary.version)]
  ofJson json := do
    let id ← ofField? "id" json
    let version ← ofFieldD "version" json 0
    let holder ← ofFieldD "holder" json ""
    let balance ← ofFieldD "balance" json 0
    let transactionCount ← ofFieldD "transaction_count" json 0
    let isClosed ← ofFieldD "is_closed" json false
    return { id, version, holder, balance, transactionCount, isClosed }

end EventSourcing
