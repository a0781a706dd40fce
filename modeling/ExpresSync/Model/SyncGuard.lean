import ExpresSync.Foundation.SerialTable
import ExpresSync.Foundation.Transition

/-!
# The guard of a sync

`getRunningSync` and `createSyncRun` of `sync-db.ts`, at the start of every `runSync`: one call
looks for a running record and resets it when it is too old, then inserts its own.  Each statement
is a step, so that calls interleave.  A process may also end at any point, and leaves its record
as it is.
-/

namespace ExpresSync

/-- `STALE_SYNC_TIMEOUT_MS` -/
def staleSyncTimeoutMs : ℕ := 30 * 60 * 1000

inductive SyncRunStatus where
  | running
  | completed
  | failed
deriving DecidableEq

/-- What the guard reads of a row of `sync_runs`. -/
structure SyncRunRow where
  id : ℕ
  status : SyncRunStatus
  startedAt : ℕ
deriving DecidableEq

abbrev SyncRunTable := SerialTable SyncRunRow.id

/-- `UPDATE sync_runs SET status = … WHERE id = …` -/
def SyncRunTable.mark (runs : SyncRunTable) (id : ℕ) (status : SyncRunStatus) : SyncRunTable :=
  runs.update (fun row => decide (row.id = id)) (fun row => { row with status := status })
    fun _ => rfl

/-- Where a call of `runSync` stands. -/
inductive RunSyncPoint where
  /-- Before the query of `getRunningSync`. -/
  | checking
  /-- It has read a running record. -/
  | judging (runningSync : SyncRunRow)
  /-- It takes the record for stale, and is about to mark it. -/
  | resetting (id : ℕ)
  /-- `getRunningSync` has returned `null`. -/
  | creating
  /-- It has a record of its own. -/
  | syncing (id : ℕ)
  /-- Another sync was running. -/
  | skipped
  | ended
deriving DecidableEq

structure SyncGuardWorld where
  now : ℕ
  runs : SyncRunTable
  calls : List RunSyncPoint

inductive SyncGuardAction where
  | waits (ms : ℕ)
  /-- Somebody calls `runSync`. -/
  | called
  /-- `SELECT … WHERE status = 'running' LIMIT 1`, with the row that it returns. -/
  | reads (call : ℕ) (row : Option SyncRunRow)
  | judges (call : ℕ)
  /-- `markSyncFailed` for the stale record. -/
  | resets (call : ℕ)
  /-- `createSyncRun` -/
  | creates (call : ℕ)
  /-- `markSyncComplete` or `markSyncFailed` at the end of the run. -/
  | marks (call : ℕ) (succeeded : Bool)
  /-- The process of the call ends, or a statement of it fails. -/
  | stops (call : ℕ)
deriving DecidableEq

namespace SyncGuardWorld

variable (w : SyncGuardWorld)

/-- A table, and no calls yet. -/
def start (runs : SyncRunTable) : SyncGuardWorld := ⟨0, runs, []⟩

def setCall (call : ℕ) (point : RunSyncPoint) : SyncGuardWorld :=
  { w with calls := w.calls.set call point }

/-- What the query may return. -/
def MayRead : Option SyncRunRow → Prop
  | none => ∀ row ∈ w.runs.rows, row.status ≠ .running
  | some row => row ∈ w.runs.rows ∧ row.status = .running

instance (row : Option SyncRunRow) : Decidable (w.MayRead row) :=
  match row with
  | none => inferInstanceAs (Decidable (∀ row ∈ w.runs.rows, row.status ≠ .running))
  | some row => inferInstanceAs (Decidable (row ∈ w.runs.rows ∧ row.status = .running))

def step (w : SyncGuardWorld) : SyncGuardAction → Option SyncGuardWorld
  | .waits ms => some { w with now := w.now + ms }
  | .called => some { w with calls := w.calls ++ [.checking] }
  | .reads call row =>
      if w.calls[call]? = some .checking ∧ w.MayRead row then
        some (w.setCall call (row.elim .creating .judging))
      else none
  | .judges call =>
      match w.calls[call]? with
      | some (.judging runningSync) =>
          if staleSyncTimeoutMs < w.now - runningSync.startedAt then
            some (w.setCall call (.resetting runningSync.id))
          else some (w.setCall call .skipped)
      | _ => none
  | .resets call =>
      match w.calls[call]? with
      | some (.resetting id) =>
          some { w.setCall call .creating with runs := w.runs.mark id .failed }
      | _ => none
  | .creates call =>
      match w.calls[call]? with
      | some .creating =>
          some { w.setCall call (.syncing w.runs.next) with
            runs := w.runs.insert (fun id => ⟨id, .running, w.now⟩) fun _ => rfl }
      | _ => none
  | .marks call succeeded =>
      match w.calls[call]? with
      | some (.syncing id) =>
          some { w.setCall call .ended with
            runs := w.runs.mark id (if succeeded then .completed else .failed) }
      | _ => none
  | .stops call =>
      if call < w.calls.length then some (w.setCall call .ended) else none

/-- The calls that are past the guard and not yet completed. -/
def underWay : List ℕ :=
  w.calls.filterMap fun point =>
    match point with
    | .syncing id => some id
    | _ => none

/-- At most one run is past the guard and not yet completed. -/
def AtMostOne : Prop := w.underWay.length ≤ 1

instance : Decidable w.AtMostOne := inferInstanceAs (Decidable (_ ≤ _))

end SyncGuardWorld

end ExpresSync
