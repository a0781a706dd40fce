import ExpresSync.Foundation.Transition
import ExpresSync.Model.IncrementalBilling
import ExpresSync.Model.SyncRun

/-!
# The two billing paths, running

The emitter's process, the sync worker, the database and Lago as one transition system.  An
action is one stretch of code between two `await`s, or something the environment does: time
passes, a process restarts, StEvE or Lago answers, a request reaches Lago, a transaction
commits, an administrator edits the mappings.  Every order of actions is a run.

A request and its answer are separate actions, so a request may take effect although its answer
never arrives.  Sync runs do not overlap (`isSyncing`, `getRunningSync`), so there is at most one.
`firstSampleAt` is a history variable: no action reads it.
-/

namespace ExpresSync

/-- What a sync run is doing. -/
inductive SyncPhase where
  /-- There are events to send; the writes come afterwards, in one transaction. -/
  | sending (run : SyncRun)
  /-- There was nothing to send; the skipped transactions are saved one by one. -/
  | saving (run : SyncRun) (remaining : List ProcessedTransaction)

/-- The run of a phase. -/
def SyncPhase.run : SyncPhase → SyncRun
  | sending run => run
  | saving run _ => run

/-- The state of all parties. -/
structure World where
  /-- Epoch milliseconds. -/
  clock : ℕ
  /-- The emitter's objects. -/
  heap : List TxObject
  /-- The emitter's module-wide `subscriptionCache`. -/
  subscriptionCache : SubscriptionResolutionCache
  db : Db
  /-- The events Lago has accepted. -/
  lago : LagoEvents
  sync : Option SyncPhase
  /-- When the first sample of a transaction arrived. -/
  firstSampleAt : ℕ → Option ℕ

/-- Both processes have just started and nothing has been billed. -/
def World.initial (userMappings : List UserMapping) (clock : ℕ) : World where
  clock := clock
  heap := []
  subscriptionCache := SubscriptionResolutionCache.empty
  db := Db.empty userMappings
  lago := KeyedLog.empty
  sync := none
  firstSampleAt := fun _ => none

/-- What a suspended flush is waiting for. -/
inductive FlushEvent where
  /-- `steveClient.getTransactions` settles. -/
  | steveAnswers (answer : Except String (List StEvETransaction))
  /-- The `user_mappings` query settles. -/
  | mappingSelected (row : Except String (Option UserMapping))
  /-- `lagoClient.getSubscriptions` settles. -/
  | subscriptionsListed (answer : SubscriptionsAnswer)
  /-- The flush goes on after `resolveBillingContext`. -/
  | resumes
  /-- The event reaches Lago. -/
  | lagoReceives
  /-- `createBatchEvents` settles. -/
  | postAnswered (ok : Bool)
  /-- The transaction of `persistFlush` commits. -/
  | commits
  /-- `persistFlush` settles. -/
  | persistAnswered (ok : Bool)

/-- A step of one of the parties. -/
inductive Action where
  | tick (ms : ℕ)
  /-- The administrator edits `user_mappings`. -/
  | editMappings (userMappings : List UserMapping)
  | sample (sample : MeterSample)
  | sweep
  /-- The emitter's process is restarted. -/
  | restart
  /-- Something happens to the flush of the object with index `i`. -/
  | flush (i : ℕ) (event : FlushEvent)
  | syncReads (inputs : SyncInputs) (runId : ℕ)
  /-- A batch of the sync run reaches Lago. -/
  | syncLagoReceives (batch : ℕ)
  /-- The sync run has its answers for all batches and writes. -/
  | syncPersists (successfulBatchIndices : List ℕ)
  /-- The sync run makes its next single upsert. -/
  | syncSaves
  /-- The sync run ends without (further) writes. -/
  | syncEnds

namespace World

/-- Replace an object. -/
def setObject (w : World) (i : ℕ) (obj : TxObject) : World := { w with heap := w.heap.set i obj }

/-- What the `user_mappings` query, which has a `limit 1` and no order, may return. -/
def MayReturn (db : Db) (idTag : String) : Except String (Option UserMapping) → Prop
  | .error _ => True
  | .ok none => ∀ m ∈ db.userMappings, m.steveOcppIdTag ≠ idTag
  | .ok (some m) => m ∈ db.userMappings ∧ m.steveOcppIdTag = idTag

instance (db : Db) (idTag : String) (row : Except String (Option UserMapping)) :
    Decidable (MayReturn db idTag row) :=
  match row with
  | .error _ => inferInstanceAs (Decidable True)
  | .ok none => inferInstanceAs (Decidable (∀ m ∈ db.userMappings, m.steveOcppIdTag ≠ idTag))
  | .ok (some m) => inferInstanceAs (Decidable (m ∈ db.userMappings ∧ m.steveOcppIdTag = idTag))

/-- The first sample of a transaction is noted. -/
def noteFirstSample (w : World) (sample : MeterSample) : ℕ → Option ℕ :=
  if sample.kwh.isSome ∧ (w.firstSampleAt sample.steveTransactionId).isNone then
    Function.update w.firstSampleAt sample.steveTransactionId (some w.clock)
  else w.firstSampleAt

/-- A flush has been persisted and its process is told so. -/
def flushDone (w : World) (i : ℕ) (obj : TxObject) (final : Bool) (args : FlushPersistArgs) :
    World :=
  let w' := w.setObject i (obj.flushSucceeded args)
  if final then { w' with heap := deleteState w'.heap obj.st.steveTransactionId } else w'

/-- A flush moves from one point to the next. -/
def stepFlush (w : World) (i : ℕ) (obj : TxObject) (flush : Flush) : FlushEvent → Option World
  | .steveAnswers answer =>
      match flush.point with
      | .steveTransaction => some (w.setObject i (obj.steveAnswered flush answer))
      | _ => none
  | .mappingSelected row =>
      match flush.point with
      | .userMapping idTag =>
          if MayReturn w.db idTag row then
            some (w.setObject i (obj.mappingSelected flush w.subscriptionCache row))
          else none
      | _ => none
  | .subscriptionsListed answer =>
      match flush.point with
      | .subscriptions mapping =>
          let (resolved, cache) := resolveFromLago mapping w.subscriptionCache answer
          some { w.setObject i (obj.subscriptionResolved flush resolved) with
            subscriptionCache := cache }
      | _ => none
  | .resumes =>
      match flush.point with
      | .resolved billable => some (w.setObject i (obj.resumeFlush flush billable w.clock))
      | _ => none
  | .lagoReceives =>
      match flush.point with
      | .posting post => some { w with lago := w.lago.record post.event }
      | _ => none
  | .postAnswered ok =>
      match flush.point with
      | .posting post =>
          if ok = true → w.lago.Has post.event.transactionId then
            some (w.setObject i (obj.postAnswered flush post ok))
          else none
      | _ => none
  | .commits =>
      match flush.point with
      | .persisting args =>
          (w.db.persistFlush (obj.persistState flush.final args)
              (obj.persistEventRow flush.final args)).map fun db =>
            { w.setObject i { obj with flushing := some { flush with point := .persisted args } }
              with
              db := db }
      | _ => none
  | .persistAnswered ok =>
      match flush.point with
      | .persisting _ => if ok then none else some (w.setObject i { obj with flushing := none })
      | .persisted args =>
          if ok then some (w.flushDone i obj flush.final args)
          else some (w.setObject i { obj with flushing := none })
      | _ => none

/-- One step. -/
def step (w : World) : Action → Option World
  | .tick ms => some { w with clock := w.clock + ms }
  | .editMappings userMappings => some { w with db := { w.db with userMappings := userMappings } }
  | .sample sample =>
      some { w with
        heap := enqueueMeterSample w.heap sample w.clock
        firstSampleAt := w.noteFirstSample sample }
  | .sweep => some { w with heap := ExpresSync.sweep w.heap w.clock }
  | .restart =>
      some { w with heap := [], subscriptionCache := SubscriptionResolutionCache.empty }
  | .flush i event =>
      match w.heap[i]? with
      | none => none
      | some obj =>
          match obj.flushing with
          | none => none
          | some flush => w.stepFlush i obj flush event
  | .syncReads inputs runId =>
      match w.sync with
      | some _ => none
      | none =>
          match readSync inputs w.db runId w.clock with
          | .error _ => some w
          | .ok run =>
              if run.transactionsToSend.isEmpty then
                some { w with sync := some (.saving run run.transactionsSkipped) }
              else some { w with sync := some (.sending run) }
  | .syncLagoReceives batch =>
      match w.sync with
      | some (.sending run) =>
        some { w with lago := w.lago.recordAll (batchAt run.lagoEvents batch) }
      | _ => none
  | .syncPersists successfulBatchIndices =>
      match w.sync with
      | some (.sending run) =>
          if ∀ batch ∈ successfulBatchIndices, ∀ event ∈ batchAt run.lagoEvents batch,
              w.lago.Has event.transactionId then
            match run.persistSent successfulBatchIndices w.db with
            | some db => some { w with db := db, sync := none }
            | none => some { w with sync := none }
          else none
      | _ => none
  | .syncSaves =>
      match w.sync with
      | some (.saving run (pt :: remaining)) =>
          match w.db.upsertSyncState (run.stateUpdate pt) with
          | some db => some { w with db := db, sync := some (.saving run remaining) }
          | none => some { w with sync := none }
      | _ => none
  | .syncEnds =>
      match w.sync with
      | some _ => some { w with sync := none }
      | none => none

/-- The processed transactions whose rows an action of the sync worker writes. -/
def syncWrites (w : World) : Action → List ProcessedTransaction
  | .syncPersists successfulBatchIndices =>
      match w.sync with
      | some (.sending run) =>
          run.successfullySent successfulBatchIndices ++ run.transactionsSkipped
      | _ => []
  | .syncSaves =>
      match w.sync with
      | some (.saving _ (pt :: _)) => [pt]
      | _ => []
  | _ => []

end World

/-! ## Pieces of concrete runs -/

namespace Scenario

/-- The transaction of the concrete runs, with the given meter values. -/
def transaction (id : ℕ) (startValue : String) (stopValue : Option String) : StEvETransaction where
  id := id
  chargeBoxId := "CB-1"
  connectorId := 1
  ocppIdTag := "CARD-1"
  startTimestamp := 0
  startValue := startValue
  stopTimestamp := stopValue.map fun _ => 3600000
  stopValue := stopValue

/-- A card whose mapping names its subscription. -/
def cardMapping : UserMapping where
  id := 1
  steveOcppTagPk := 11
  steveOcppIdTag := "CARD-1"
  lagoCustomerExternalId := none
  lagoSubscriptionExternalId := some "sub-1"
  displayName := none
  tagType := .evCard
  isActive := true
  steveParentIdTag := none
  steveExpiryDate := none
  userId := none

/-- The mapping of the same card when it names its customer only. -/
def customerMapping : UserMapping where
  id := 2
  steveOcppTagPk := 12
  steveOcppIdTag := "CARD-1"
  lagoCustomerExternalId := some "customer-1"
  lagoSubscriptionExternalId := none
  displayName := none
  tagType := .evCard
  isActive := true
  steveParentIdTag := none
  steveExpiryDate := none
  userId := none

/-- A sample of a transaction. -/
def meter (id : ℕ) (kwh : ℚ) (isFinal : Bool) : Action :=
  .sample ⟨id, "CB-1", some kwh, isFinal, none⟩

/-- The look-ups of a flush go through. -/
def lookUps (i id : ℕ) : List Action :=
  [.flush i (.steveAnswers (.ok [transaction id "0" none])),
    .flush i (.mappingSelected (.ok (some cardMapping)))]

/-- The look-ups of a flush that has to ask Lago. -/
def lookUpsAtLago (i id : ℕ) (answer : SubscriptionsAnswer) : List Action :=
  [.flush i (.steveAnswers (.ok [transaction id "0" none])),
    .flush i (.mappingSelected (.ok (some customerMapping))),
    .flush i (.subscriptionsListed answer)]

/-- A flush goes through once its transaction is resolved. -/
def settles (i : ℕ) : List Action :=
  [.flush i .resumes, .flush i .lagoReceives, .flush i (.postAnswered true), .flush i .commits,
    .flush i (.persistAnswered true)]

/-- A sync pass over completed transactions, with everything going through. -/
def syncPass (runId : ℕ) (completed : List StEvETransaction) : List Action :=
  [.syncReads ⟨completed, [], fun _ => .ok [], true⟩ runId, .syncLagoReceives 0, .syncPersists [0]]

/-- A sync pass that finds nothing to send or save. -/
def emptyPass (runId : ℕ) (completed : List StEvETransaction) : List Action :=
  [.syncReads ⟨completed, [], fun _ => .ok [], true⟩ runId, .syncEnds]

end Scenario

end ExpresSync
