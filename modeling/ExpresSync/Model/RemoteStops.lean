import ExpresSync.Model.AutoStop
import ExpresSync.Model.ScanPairing

/-!
# The pair-intent watchdog

`pair-intent-watchdog.ts`: the fallback for scans that the `pre-authorize` hook has missed.  It
hears of transactions that have started and stops one when a pairing at its charger is armed, or has
just been matched to its card.

A call of `handleTxStarted` checks the transactions that were stopped recently, waits for its query,
and goes on with the answer; in between it is a call in flight, and pairings are armed, matched and
consumed.  The `updated_at` column of `verifications` is kept here, beside the other columns: every
insert and update of `PairingWorld` sets it.
-/

namespace ExpresSync

/-- `MATCH_WINDOW_MS` -/
def matchWindowMs : ℕ := 10 * 1000

/-- `RECENT_TTL_MS` -/
def recentTtlMs : ℕ := 60 * 1000

/-- The payload of `tx.started` as the handler takes it. -/
structure TxStartedPayload where
  chargeBoxId : String
  transactionId : Option ℕ
  idTag : Option String
deriving DecidableEq

/-- A call that waits for its query. -/
structure TxStartedCall where
  chargeBoxId : String
  transactionId : ℕ
  idTag : Option String
  /-- `Date.now()`, from which `cutoffIso` is computed. -/
  calledAt : ℕ
deriving DecidableEq

/-- The condition of the query.  A tag that is not known is compared with nothing. -/
def Verification.interceptedBy (call : TxStartedCall) (now updatedAt : ℕ) (row : Verification) :
    Bool :=
  row.likeCharger call.chargeBoxId && row.isLive now &&
    (row.value.status == some .armed ||
      (row.value.status == some .matched || row.value.status == some .consumed) &&
        decide (call.calledAt < updatedAt + matchWindowMs) &&
          (call.idTag.isNone || row.value.matchedIdTag == call.idTag))

/-- The rows an action writes, and whose `updated_at` it sets. -/
def PairingAction.writes (w : PairingWorld) (id : ℕ) : PairingAction → Bool
  | .armInserts _ _ | .armsDevice _ _ _ => id == w.table.next
  | .preAuthorizes _ _ _ target => target == some id
  | .logsIn identifier idTag =>
      (w.table.get? id).any (Verification.consumableBy identifier idTag w.now)
  | .scanResult identifier _ => (w.table.get? id).any (Verification.claimableBy identifier w.now)
  | .waits _ | .armStarts _ _ | .armFails _ | .releases _ | .cleansUp _ => false

/-- The pairings, and the watchdog of one process. -/
structure WatchdogWorld where
  pairing : PairingWorld
  /-- `updated_at`, by the row's id. -/
  updatedAt : ℕ → ℕ
  recentlyStopped : List ℕ
  /-- The timers of `markRecent`: when they are due, and the transaction they forget. -/
  timers : List (ℕ × ℕ)
  calls : List TxStartedCall
  /-- The calls that have issued a RemoteStop, in their order. -/
  stopped : List TxStartedCall

inductive WatchdogAction where
  | pairs (action : PairingAction)
  | txStarted (payload : TxStartedPayload)
  /-- The query of the call `i` is answered, or fails. -/
  | queryAnswered (i : ℕ) (ok : Bool)
  | timerFires (i : ℕ)

namespace WatchdogWorld

variable (w : WatchdogWorld)

/-- `handleTxStarted` up to its query. -/
def handleTxStarted (payload : TxStartedPayload) : WatchdogWorld :=
  match payload.transactionId with
  | none => w
  | some transactionId =>
      -- Zero is no transaction either.
      if transactionId = 0 ∨ transactionId ∈ w.recentlyStopped then w
      else
        let call : TxStartedCall :=
          { chargeBoxId := payload.chargeBoxId
            transactionId := transactionId
            idTag := payload.idTag
            calledAt := w.pairing.now }
        { w with calls := w.calls ++ [call] }

/-- Some row meets the condition of the query. -/
def findsIntent (call : TxStartedCall) : Bool :=
  w.pairing.table.rows.any fun row =>
    row.interceptedBy call w.pairing.now (w.updatedAt row.id)

/-- `handleTxStarted` after its query: the transaction is remembered and stopped.  Whether the
operation could be logged makes no difference. -/
def stop (call : TxStartedCall) : WatchdogWorld :=
  { w with
    recentlyStopped := call.transactionId :: w.recentlyStopped
    timers := w.timers ++ [(w.pairing.now + recentTtlMs, call.transactionId)]
    stopped := w.stopped ++ [call] }

def step : WatchdogAction → Option WatchdogWorld
  | .pairs action =>
      (w.pairing.step action).map fun pairing =>
        { w with
          pairing := pairing
          updatedAt :=
            fun id => if action.writes w.pairing id then w.pairing.now else w.updatedAt id }
  | .txStarted payload => some (w.handleTxStarted payload)
  | .queryAnswered i ok =>
      w.calls[i]?.map fun call =>
        let rest := { w with calls := w.calls.eraseIdx i }
        if ok && w.findsIntent call then rest.stop call else rest
  | .timerFires i =>
      (w.timers[i]?).bind fun (due, transactionId) =>
        if due ≤ w.pairing.now then
          some { w with
            recentlyStopped := w.recentlyStopped.filter fun id => id ≠ transactionId
            timers := w.timers.eraseIdx i }
        else none

/-- The watchdog has just been started. -/
def startedBeside (pairing : PairingWorld) (updatedAt : ℕ → ℕ) : WatchdogWorld :=
  ⟨pairing, updatedAt, [], [], [], []⟩

end WatchdogWorld

end ExpresSync

/-!
# RemoteStops of a process

The pair-intent watchdog and the auto-stop service both stop transactions, and each remembers those
that it has stopped in a collection of its own.  The watchdog remembers a transaction before it
writes to the operation log and calls StEvE, the service after StEvE has answered and the log is
written; between the two other calls go on.

The requests with which `remoteStop` tries again when StEvE cannot be reached count as one with the
first.
-/

namespace ExpresSync

/-- What a sweep of `stopActiveTransactionsForMappings` waits for; `rest` are the transactions of
the tag that come after. -/
inductive StopSweepPoint where
  | listing (ocppIdTag : String)
  /-- The row of the operation log, before the RemoteStop. -/
  | logging (txId : ℕ) (rest : List ℕ)
  | stopping (txId : ℕ) (rest : List ℕ)
  /-- The row of the operation log, after the RemoteStop. -/
  | recording (txId : ℕ) (ok : Bool) (rest : List ℕ)

structure StopSweep where
  /-- The tags of the rows that come after. -/
  tags : List String
  point : StopSweepPoint

structure RemoteStopWorld where
  watchdog : WatchdogWorld
  /-- `recentlyStopped` of the auto-stop service. -/
  recentlyStopped : RecentStops
  sweeps : List StopSweep
  /-- The transactions that the watchdog is about to stop. -/
  decided : List ℕ
  /-- The RemoteStops that have been sent, and when. -/
  sent : List (ℕ × ℕ)

inductive RemoteStopAction where
  | watchdog (action : WatchdogAction)
  /-- The watchdog has written to the operation log, or could not, and sends the RemoteStop `i`. -/
  | watchdogSends (i : ℕ)
  /-- A webhook, or whoever else calls the service, has rows with these tags. -/
  | sweeps (tags : List String)
  /-- `getTransactions` of the sweep `i` is answered, or fails. -/
  | listed (i : ℕ) (answer : Option (List ℕ))
  | sends (i : ℕ)
  /-- StEvE answers the RemoteStop of the sweep `i`, or the request fails. -/
  | answered (i : ℕ) (ok : Bool)
  | recorded (i : ℕ)

/-- The first transaction that was not stopped recently, and those after it. -/
def RecentStops.nextStop (recentlyStopped : RecentStops) (now : ℕ) :
    List ℕ → Option (ℕ × List ℕ)
  | [] => none
  | txId :: rest =>
      if recentlyStopped.wasRecentlyStopped txId now then recentlyStopped.nextStop now rest
      else some (txId, rest)

namespace RemoteStopWorld

variable (w : RemoteStopWorld)

def now : ℕ := w.watchdog.pairing.now

/-- A sweep goes on with the transactions `txs`, and then with the next tag. -/
def proceed (tags : List String) (txs : List ℕ) : RemoteStopWorld :=
  match w.recentlyStopped.nextStop w.now txs with
  | some (txId, rest) =>
      { w with
        recentlyStopped := w.recentlyStopped.checked txId w.now
        sweeps := w.sweeps ++ [⟨tags, .logging txId rest⟩] }
  | none =>
      match tags with
      | [] => w
      | tag :: tags => { w with sweeps := w.sweeps ++ [⟨tags, .listing tag⟩] }

/-- The sweep `i` leaves the point at which it has waited. -/
def leave (i : ℕ) : RemoteStopWorld := { w with sweeps := w.sweeps.eraseIdx i }

/-- What the service remembers once it knows how a RemoteStop has gone. -/
def remembered (txId : ℕ) (ok : Bool) : RecentStops :=
  if ok then w.recentlyStopped.markRecent txId w.now else w.recentlyStopped

def step : RemoteStopAction → Option RemoteStopWorld
  | .watchdog action =>
      (w.watchdog.step action).map fun watchdog =>
        { w with
          watchdog
          decided := w.decided ++ (watchdog.stopped.drop w.watchdog.stopped.length).map
            TxStartedCall.transactionId }
  | .watchdogSends i =>
      w.decided[i]?.map fun txId =>
        { w with decided := w.decided.eraseIdx i, sent := w.sent ++ [(txId, w.now)] }
  | .sweeps tags => some (w.proceed tags [])
  | .listed i answer =>
      w.sweeps[i]?.bind fun call =>
        match call.point with
        -- A call that fails is skipped.
        | .listing _ => some ((w.leave i).proceed call.tags (answer.getD []))
        | _ => none
  | .sends i =>
      w.sweeps[i]?.bind fun call =>
        match call.point with
        | .logging txId rest =>
            some { w with
              sweeps := w.sweeps.eraseIdx i ++ [⟨call.tags, .stopping txId rest⟩]
              sent := w.sent ++ [(txId, w.now)] }
        | _ => none
  | .answered i ok =>
      w.sweeps[i]?.bind fun call =>
        match call.point with
        | .stopping txId rest =>
            some { w with
              sweeps := w.sweeps.eraseIdx i ++ [⟨call.tags, .recording txId ok rest⟩] }
        | _ => none
  | .recorded i =>
      w.sweeps[i]?.bind fun call =>
        match call.point with
        | .recording txId ok rest =>
            some ({ w.leave i with recentlyStopped := w.remembered txId ok }.proceed call.tags rest)
        | _ => none

/-- Nothing has been stopped. -/
def start (watchdog : WatchdogWorld) : RemoteStopWorld := ⟨watchdog, .empty, [], [], []⟩

end RemoteStopWorld

end ExpresSync
