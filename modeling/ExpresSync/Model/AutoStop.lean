import ExpresSync.Model.LagoWebhooks

/-!
# Stopping the sessions of an ended subscription

`auto-stop.service.ts`, as the reaction to an ended subscription uses it.  For every row that names
the subscription the sweep lists the transactions in progress with the tag of the row, and it asks
StEvE to stop each of them, unless it remembers to have done so in the last minute.

The reaction does not wait for the sweep, which here finds the rows as the reaction leaves them.
The rows of `charger_operation_log` and the notification are left out.
-/

namespace ExpresSync

/-! ## What has been stopped -/

/-- `recentlyStopped`: the transactions, and when they were stopped. -/
abbrev RecentStops : Type := KeyedLog (Prod.fst : ℕ × ℕ → ℕ)

namespace RecentStops

/-- `RECENT_TTL_MS` -/
def recentTtlMs : ℕ := 60000

variable (recentlyStopped : RecentStops) (txId now : ℕ)

/-- `markRecent` -/
def markRecent : RecentStops :=
  let marked := recentlyStopped.upsert (txId, now)
  if 256 < marked.entries.length then
    marked.remove fun entry => decide (entry.2 + recentTtlMs < now)
  else marked

/-- What `wasRecentlyStopped` returns. -/
def wasRecentlyStopped : Bool :=
  (recentlyStopped.get? txId).any fun entry => decide (now ≤ entry.2 + recentTtlMs)

/-- What `wasRecentlyStopped` leaves: an entry that is too old is deleted. -/
def checked : RecentStops :=
  if recentlyStopped.wasRecentlyStopped txId now then recentlyStopped
  else recentlyStopped.remove fun entry => decide (entry.1 = txId)

end RecentStops

/-! ## The sweep -/

/-- What `stopOne` returns. -/
structure StopOutcome where
  transactionPk : ℕ
  chargeBoxId : String
  ok : Bool
  error : Option String
deriving DecidableEq

structure AutoStopResult where
  attempted : ℕ
  succeeded : ℕ
  failed : ℕ
  results : List StopOutcome
deriving DecidableEq

namespace AutoStopResult

def empty : AutoStopResult := ⟨0, 0, 0, []⟩

/-- The result with one more attempt. -/
def add (result : AutoStopResult) (outcome : StopOutcome) : AutoStopResult where
  attempted := result.attempted + 1
  succeeded := if outcome.ok then result.succeeded + 1 else result.succeeded
  failed := if outcome.ok then result.failed else result.failed + 1
  results := result.results ++ [outcome]

end AutoStopResult

/-- A sweep in progress. -/
structure Sweep where
  recentlyStopped : RecentStops
  result : AutoStopResult
  /-- How many transactions it has looked at. -/
  looks : ℕ

/-- What a sweep meets. -/
structure SweepInputs where
  /-- The transactions of StEvE. -/
  transactions : KeyedLog StEvETransaction.id
  /-- The call of `getTransactions` for the tag is answered. -/
  answers : String → Bool
  /-- What `remoteStop` settles to for the transaction looked at. -/
  remoteStop : ℕ → Except String Unit
  startedAt : ℕ
  /-- `Date.now()` when a transaction is looked at. -/
  lookedAt : ℕ → ℕ
  /-- `Date.now()` when it has been stopped. -/
  stoppedAt : ℕ → ℕ
  startedAt_le : ∀ look, startedAt ≤ lookedAt look

namespace SweepInputs

variable (inputs : SweepInputs)

/-- `getTransactions({ ocppIdTag, type: "ACTIVE" })`; the empty string does not restrict it. -/
def getTransactions (ocppIdTag : String) : List StEvETransaction :=
  inputs.transactions.entries.filter fun tx =>
    tx.stopTimestamp.isNone && (ocppIdTag = "" || tx.ocppIdTag = ocppIdTag)

/-- `stopOne` -/
def stopOne (look : ℕ) (tx : StEvETransaction) : StopOutcome :=
  match inputs.remoteStop look with
  | .ok () => ⟨tx.id, tx.chargeBoxId, true, none⟩
  | .error error => ⟨tx.id, tx.chargeBoxId, false, some error⟩

/-- The turn of one transaction. -/
def visit (sweep : Sweep) (tx : StEvETransaction) : Sweep :=
  let recentlyStopped := sweep.recentlyStopped.checked tx.id (inputs.lookedAt sweep.looks)
  if sweep.recentlyStopped.wasRecentlyStopped tx.id (inputs.lookedAt sweep.looks) then
    { sweep with recentlyStopped := recentlyStopped, looks := sweep.looks + 1 }
  else
    let outcome := inputs.stopOne sweep.looks tx
    { recentlyStopped :=
        if outcome.ok then recentlyStopped.markRecent tx.id (inputs.stoppedAt sweep.looks)
        else recentlyStopped
      result := sweep.result.add outcome
      looks := sweep.looks + 1 }

/-- The turn of one row; a call that fails is skipped. -/
def visitMapping (sweep : Sweep) (m : UserMapping) : Sweep :=
  if inputs.answers m.steveOcppIdTag then
    (inputs.getTransactions m.steveOcppIdTag).foldl inputs.visit sweep
  else sweep

/-- `stopActiveTransactionsForMappings`. -/
def stopActiveTransactionsForMappings (userMappings : List UserMapping) (mappingIds : List ℕ)
    (recentlyStopped : RecentStops) : Sweep :=
  (userMappings.filter fun m => mappingIds.contains m.id).foldl inputs.visitMapping
    ⟨recentlyStopped, .empty, 0⟩

/-- `stopActiveTransactionsForSubscription`. -/
def stopActiveTransactionsForSubscription (userMappings : List UserMapping)
    (externalSubscriptionId : String) (recentlyStopped : RecentStops) : Sweep :=
  let rows := userMappings.filter fun m =>
    m.lagoSubscriptionExternalId == some externalSubscriptionId
  inputs.stopActiveTransactionsForMappings userMappings (rows.map (·.id)) recentlyStopped

end SweepInputs

/-- The sweep of `handleSubscriptionStateChange` for a subscription that has ended.  It is not
reached when no row is switched off. -/
def SweepInputs.stopsEnded (inputs : SweepInputs) (externalSubscriptionId : String)
    (table : MappingTable) (recentlyStopped : RecentStops) : Sweep :=
  if table.rows.any (·.flips externalSubscriptionId false) then
    inputs.stopActiveTransactionsForSubscription
      (handleSubscriptionStateChange externalSubscriptionId false table).1.userMappings
      externalSubscriptionId recentlyStopped
  else ⟨recentlyStopped, .empty, 0⟩

end ExpresSync
