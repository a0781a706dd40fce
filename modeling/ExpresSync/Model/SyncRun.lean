import ExpresSync.Foundation.Chunks
import ExpresSync.Model.TransactionProcessor
import Mathlib.Data.List.Basic
import Mathlib.Data.List.Nodup

/-!
# The events of the post-transaction sync

`buildLagoEvents` and `batchEvents`.  A transaction without subscription makes `buildLagoEvent`
throw; `buildLagoEvent_ok` shows that no transaction selected for sending does.
-/

namespace ExpresSync

/-- `BATCH_SIZE`, the most events Lago takes in one request. -/
def batchSize : ℕ := 100

lemma batchSize_pos : 0 < batchSize := by decide

/-- `computeDurationMinutes`; timestamps are always valid dates here. -/
def computeDurationMinutes (startTimestamp : ℕ) (stopTimestamp : Option ℕ) : ℤ :=
  match stopTimestamp with
  | none => 0
  | some stopMs =>
      if stopMs ≤ startTimestamp then 0
      else mathRound ((stopMs - startTimestamp : ℚ) / 60000)

/-- `buildLagoEvent`, when the clock reads `now` and the enrichment flag is `safeEnrichment`. -/
def buildLagoEvent (safeEnrichment : Bool) (now : ℕ) (processed : ProcessedTransaction) :
    Except String LagoEvent :=
  if truthy processed.lagoSubscriptionExternalId then
    let kwh := processed.kwhDelta.map (toFixed 3)
    .ok
      { transactionId := processed.lagoEventTransactionId
        externalSubscriptionId := processed.lagoSubscriptionExternalId.getD ""
        code := lagoMetricCode
        timestamp := processed.stopTimestamp.getD now / 1000
        properties :=
          { value := kwh
            kwh := kwh
            chargerId := if safeEnrichment then some processed.chargeBoxId else none
            session :=
              if safeEnrichment then
                some
                  { connectorId := processed.connectorId
                    sessionDurationMinutes :=
                      computeDurationMinutes processed.startTimestamp processed.stopTimestamp
                    startTimestamp := processed.startTimestamp
                    stopTimestamp := processed.stopTimestamp }
              else none } }
  else
    .error ("Cannot build Lago event: no subscription ID for transaction " ++
      Nat.repr processed.steveTransactionId)

/-- `buildLagoEvents`. -/
def buildLagoEvents (safeEnrichment : Bool) (now : ℕ) (processed : List ProcessedTransaction) :
    Except String (List LagoEvent) :=
  processed.mapM (buildLagoEvent safeEnrichment now)

/-- The slice of a batch. -/
def batchAt {ε : Type*} (events : List ε) (index : ℕ) : List ε :=
  (events.drop (index * batchSize)).take batchSize

/-- `batchEvents`: the slices `events.slice(i, i + batchSize)` for `i = 0, batchSize, …`. -/
def batchEvents {ε : Type*} (events : List ε) : List (List ε) :=
  (List.range ((events.length + batchSize - 1) / batchSize)).map (batchAt events)

/-- The event a transaction selected for sending is sent as. -/
structure IsEventOf (pt : ProcessedTransaction) (event : LagoEvent) : Prop where
  transactionId : event.transactionId = pt.lagoEventTransactionId
  value : event.properties.value = pt.kwhDelta.map (toFixed 3)
  subscription : pt.lagoSubscriptionExternalId = some event.externalSubscriptionId

lemma isEventOf_of_buildLagoEvent {safeEnrichment : Bool} {now : ℕ} {pt : ProcessedTransaction}
    {event : LagoEvent} (h : buildLagoEvent safeEnrichment now pt = .ok event) :
    IsEventOf pt event := by
  unfold buildLagoEvent at h
  split at h
  · next htruthy =>
      obtain ⟨externalId, hid⟩ := exists_of_truthy htruthy
      obtain rfl := Except.ok.inj h
      exact ⟨rfl, rfl, by simp [hid]⟩
  · simp at h

/-- A transaction whose skip reason is empty has a subscription, so its event can be built. -/
lemma buildLagoEvent_ok {tx : TransactionWithCompletion} {syncState : Option TransactionSyncState}
    {mapping : UserMapping} {resolved : Option ResolvedSubscription} {pt : ProcessedTransaction}
    (h : billTransaction tx syncState mapping resolved = some pt)
    (hsend : pt.shouldSendToLago = true) (safeEnrichment : Bool) (now : ℕ) :
    ∃ event, buildLagoEvent safeEnrichment now pt = .ok event := by
  obtain ⟨_, _, _, _, _, hsub, _, ⟨_, _, hnot⟩ | ⟨_, _, _, _, hskip⟩⟩ := billTransaction_spec h
  · simp [hsend] at hnot
  · have htruthy : truthy pt.lagoSubscriptionExternalId = true := by
      rw [hsub]
      exact (subscriptionSkipReason_isNone (hskip.symm.trans hsend)).1
    exact ⟨_, by rw [buildLagoEvent, if_pos htruthy]⟩

end ExpresSync

/-!
# A run of the sync

`runSync` reads once (transactions, mappings, sync states), decides everything from that read,
sends the events in batches and then writes.  `readSync` is everything up to the first batch and
`persistSent` is the write of a run that had something to send; a run that had not upserts its
`transactionsSkipped` one by one.  Between read and write the run is suspended, and the rows it
has read may be replaced by the emitter.

Segments, logs, notifications, the charging-profile hook, tag sync and the Lago reconcile block
touch neither the two billing tables nor the events and are left out.
-/

namespace ExpresSync

/-- `allTransactions.set(tx.id, { ...tx, isCompleted: true })`. -/
def setTransaction (allTransactions : List TransactionWithCompletion) (tx : StEvETransaction) :
    List TransactionWithCompletion :=
  if tx.id ∈ allTransactions.map (·.id) then
    allTransactions.map fun t => if t.id = tx.id then { tx with isCompleted := true } else t
  else allTransactions ++ [{ tx with isCompleted := true }]

/-- The map of all completed transactions. -/
def transactionMap (recentlyCompleted : List StEvETransaction) : List TransactionWithCompletion :=
  recentlyCompleted.foldl setTransaction []

/-- A run between its read and its writes. -/
structure SyncRun where
  id : ℕ
  /-- The rows as they were read. -/
  syncStates : ℕ → Option TransactionSyncState
  processed : List ProcessedTransaction
  /-- The events built for the transactions to send. -/
  lagoEvents : List LagoEvent
  /-- History: the transactions whose look-up Lago did not answer. -/
  failedLookups : List ℕ

/-! ## Sending -/

/-- `RETRY_DELAYS_MS`. -/
def retryDelaysMs : List ℕ := [1000, 4000, 16000]

/-- The attempts to send a batch, from number `attempt` on: one follows each delay that is left,
unless the one before succeeded.  `post` is what `createBatchEvents` answers at each attempt. -/
def sendBatchFrom (post : ℕ → Except String Unit) (attempt : ℕ) : List ℕ → Except String Unit
  | [] => post attempt
  | _ :: delays =>
      match post attempt with
      | .ok () => .ok ()
      | .error _ => sendBatchFrom post (attempt + 1) delays

/-- The outcome of a batch: `lastErr` once no attempt is left. -/
def sendBatch (post : ℕ → Except String Unit) : Except String Unit :=
  sendBatchFrom post 0 retryDelaysMs

/-- What the loop over the batches collects. -/
structure SentBatches where
  successfulBatchIndices : List ℕ
  errors : List String
deriving DecidableEq

/-- One round of the loop over the batches. -/
def SentBatches.send (sent : SentBatches) (post : ℕ → Except String Unit) (i : ℕ) : SentBatches :=
  match sendBatch post with
  | .ok () => { sent with successfulBatchIndices := sent.successfulBatchIndices ++ [i] }
  | .error message =>
      { sent with
        errors := sent.errors ++
          ["Failed to send batch " ++ Nat.repr (i + 1) ++ " after " ++
            Nat.repr (retryDelaysMs.length + 1) ++ " attempts: " ++ message] }

/-- The loop over the batches; `post i attempt` is what Lago answers to an attempt of batch `i`. -/
def sendBatches {ε : Type*} (post : ℕ → ℕ → Except String Unit) (eventBatches : List (List ε)) :
    SentBatches :=
  (List.range eventBatches.length).foldl (fun sent i => sent.send (post i) i) ⟨[], []⟩

/-- The world outside the database that a run reads. -/
structure SyncInputs where
  /-- What `getRecentlyCompletedTransactions` returns. -/
  recentlyCompleted : List StEvETransaction
  /-- What `getOcppTags` returns. -/
  allTags : List StEvEOcppTag
  /-- What Lago answers while a transaction is processed, if it is asked. -/
  getSubscriptions : ℕ → SubscriptionsAnswer
  /-- `SAFE_ENRICHMENT`. -/
  safeEnrichment : Bool

namespace SyncInputs

/-- The mapping lookup of a run. -/
def mappings (inputs : SyncInputs) (db : Db) : String → Option UserMapping :=
  buildMappingLookupWithInheritance db.getActiveMappings inputs.allTags

/-- The processed transactions of a run that reads `db`. -/
def process (inputs : SyncInputs) (db : Db) : List ProcessedTransaction :=
  processTransactions (transactionMap inputs.recentlyCompleted) db.transactionSyncState
    (inputs.mappings db) inputs.getSubscriptions

/-- History: the transactions of a run that reads `db` whose look-up fails. -/
def failedLookups (inputs : SyncInputs) (db : Db) : List ℕ :=
  failedLookupsLoop db.transactionSyncState (inputs.mappings db) inputs.getSubscriptions
    (transactionMap inputs.recentlyCompleted) SubscriptionResolutionCache.empty

end SyncInputs

/-- `runSync` up to the first batch; an error of `buildLagoEvents` ends the run. -/
def readSync (inputs : SyncInputs) (db : Db) (runId now : ℕ) : Except String SyncRun :=
  (buildLagoEvents inputs.safeEnrichment now
      ((inputs.process db).filter (·.shouldSendToLago))).map fun lagoEvents =>
    { id := runId
      syncStates := db.transactionSyncState
      processed := inputs.process db
      lagoEvents := lagoEvents
      failedLookups := inputs.failedLookups db }

namespace SyncRun

variable (run : SyncRun)

/-- `transactionsToSend`. -/
def transactionsToSend : List ProcessedTransaction := run.processed.filter (·.shouldSendToLago)

/-- `transactionsSkipped`. -/
def transactionsSkipped : List ProcessedTransaction :=
  run.processed.filter fun pt => !pt.shouldSendToLago

/-- The upsert computed for a processed transaction. -/
def stateUpdate (pt : ProcessedTransaction) : NewTransactionSyncState where
  steveTransactionId := pt.steveTransactionId
  lastSyncedMeterValue := pt.meterValueTo
  totalKwhBilled :=
    (priorBilledKwh (run.syncStates pt.steveTransactionId) + pt.kwhDelta).map (toFixed 6)
  lastSyncRunId := some run.id
  isFinalized := pt.isFinal

/-- The event row computed for a transaction that was sent. -/
def eventRecord (pt : ProcessedTransaction) : NewSyncedTransactionEvent where
  steveTransactionId := pt.steveTransactionId
  lagoEventTransactionId := pt.lagoEventTransactionId
  userMappingId := some pt.userMappingId
  kwhDelta := pt.kwhDelta.map (toFixed 6)
  meterValueFrom := pt.meterValueFrom
  meterValueTo := pt.meterValueTo
  isFinal := pt.isFinal
  syncRunId := some run.id

/-- `successfullySentTransactions`: the transactions whose index falls into a successful batch. -/
def successfullySent (successfulBatchIndices : List ℕ) : List ProcessedTransaction :=
  (run.transactionsToSend.zipIdx.filter fun p =>
    successfulBatchIndices.contains (p.2 / batchSize)).map (·.1)

/-- The writes of a run that had something to send. -/
def persistSent (successfulBatchIndices : List ℕ) (db : Db) : Option Db :=
  let successfullySentTransactions := run.successfullySent successfulBatchIndices
  db.atomicUpsertSyncStatesAndCreateEvents
    ((successfullySentTransactions ++ run.transactionsSkipped).map run.stateUpdate)
    (successfullySentTransactions.map run.eventRecord)

end SyncRun

/-! ## What a run knows about its transactions -/

lemma setTransaction_ids_nodup {allTransactions : List TransactionWithCompletion}
    {tx : StEvETransaction} (h : (allTransactions.map (·.id)).Nodup) :
    ((setTransaction allTransactions tx).map (·.id)).Nodup := by
  unfold setTransaction
  split
  · have hids : (allTransactions.map fun t =>
        if t.id = tx.id then { tx with isCompleted := true } else t).map (·.id) =
          allTransactions.map (·.id) := by
      rw [List.map_map]
      apply List.map_congr_left
      intro t _
      by_cases heq : t.id = tx.id <;> simp [heq]
    rw [hids]
    exact h
  · next hnew =>
      rw [List.map_append, List.map_singleton, List.nodup_append]
      refine ⟨h, List.nodup_singleton _, ?_⟩
      intro id hid id' hid' heq
      obtain rfl : id' = tx.id := by simpa using hid'
      exact hnew (heq ▸ hid)

/-- The map has one entry for each transaction id. -/
lemma transactionMap_ids_nodup (recentlyCompleted : List StEvETransaction) :
    ((transactionMap recentlyCompleted).map (·.id)).Nodup := by
  have hkeep : ∀ (txs : List StEvETransaction) (m : List TransactionWithCompletion),
      (m.map (·.id)).Nodup → ((txs.foldl setTransaction m).map (·.id)).Nodup := by
    intro txs
    induction txs with
    | nil => exact fun _ h => h
    | cons tx txs ih => exact fun _ h => ih _ (setTransaction_ids_nodup h)
  exact hkeep recentlyCompleted [] List.nodup_nil

/-- Every entry of the map is a transaction StEvE returned. -/
lemma mem_transactionMap {recentlyCompleted : List StEvETransaction}
    {tx : TransactionWithCompletion}
    (h : tx ∈ transactionMap recentlyCompleted) : tx.toStEvETransaction ∈ recentlyCompleted := by
  have hkeep : ∀ (txs : List StEvETransaction) (m : List TransactionWithCompletion),
      tx ∈ txs.foldl setTransaction m → tx ∈ m ∨ tx.toStEvETransaction ∈ txs := by
    intro txs
    induction txs with
    | nil => exact fun _ h => Or.inl h
    | cons tx' txs ih =>
        intro m hm
        rcases ih _ hm with hm | hm
        · unfold setTransaction at hm
          split at hm
          · obtain ⟨t, ht, rfl⟩ := List.mem_map.mp hm
            split
            · exact Or.inr List.mem_cons_self
            · exact Or.inl ht
          · rcases List.mem_append.mp hm with hm | hm
            · exact Or.inl hm
            · obtain rfl := List.mem_singleton.mp hm
              exact Or.inr List.mem_cons_self
        · exact Or.inr (List.mem_cons_of_mem _ hm)
  rcases hkeep recentlyCompleted [] h with h | h
  · simp at h
  · exact h

/-- Everything a run decides about a transaction: it was read as not finalized, has a mapping
and a resolved (or missing) subscription, and was billed from the row as read; `P` is whatever the
caches of the run have in common. -/
lemma SyncInputs.mem_process_cache {P : SubscriptionResolutionCache → Prop} {inputs : SyncInputs}
    {db : Db} {pt : ProcessedTransaction} (h : pt ∈ inputs.process db)
    (hempty : P SubscriptionResolutionCache.empty)
    (hkeep : ∀ tx ∈ transactionMap inputs.recentlyCompleted, ∀ m cache, P cache →
      P (resolveSubscription m cache (inputs.getSubscriptions tx.id)).2) :
    ∃ tx ∈ transactionMap inputs.recentlyCompleted, ∃ m cache, P cache ∧
      pt.steveTransactionId = tx.id ∧ db.finalized tx.id = false ∧
      inputs.mappings db tx.ocppIdTag = some m ∧
      billTransaction tx (db.transactionSyncState tx.id) m
        (resolveSubscription m cache (inputs.getSubscriptions tx.id)).1 = some pt := by
  obtain ⟨tx, hmem, cache, hP, hpt⟩ :=
    mem_processTransactionsLoop h hempty fun tx hmem cache hP => by
    rcases processTransaction_cache tx (db.transactionSyncState tx.id)
      (inputs.mappings db tx.ocppIdTag) cache (inputs.getSubscriptions tx.id)
        with hsame | ⟨m, -, hm⟩
    · rw [hsame]
      exact hP
    · rw [hm]
      exact hkeep tx hmem m cache hP
  obtain ⟨hfinal, m, hm, hbill⟩ := processTransaction_spec hpt
  obtain ⟨_, _, hid, _⟩ := billTransaction_spec hbill
  exact ⟨tx, hmem, m, cache, hP, hid, hfinal, hm, hbill⟩

lemma SyncInputs.mem_process {inputs : SyncInputs} {db : Db} {pt : ProcessedTransaction}
    (h : pt ∈ inputs.process db) :
    ∃ tx ∈ transactionMap inputs.recentlyCompleted, ∃ m cache,
      pt.steveTransactionId = tx.id ∧ db.finalized tx.id = false ∧
      inputs.mappings db tx.ocppIdTag = some m ∧
      billTransaction tx (db.transactionSyncState tx.id) m
        (resolveSubscription m cache (inputs.getSubscriptions tx.id)).1 = some pt := by
  obtain ⟨tx, hmem, m, cache, -, hrest⟩ :=
    SyncInputs.mem_process_cache (P := fun _ => True) h trivial fun _ _ _ _ _ => trivial
  exact ⟨tx, hmem, m, cache, hrest⟩

/-- No transaction is processed twice in a run. -/
lemma SyncInputs.process_ids_nodup (inputs : SyncInputs) (db : Db) :
    ((inputs.process db).map (·.steveTransactionId)).Nodup :=
  (transactionMap_ids_nodup inputs.recentlyCompleted).sublist (processTransactionsLoop_ids _ _)

lemma readSync_eq_ok {inputs : SyncInputs} {db : Db} {runId now : ℕ} {run : SyncRun}
    (h : readSync inputs db runId now = .ok run) :
    run.id = runId ∧ run.syncStates = db.transactionSyncState ∧
      run.processed = inputs.process db ∧
      buildLagoEvents inputs.safeEnrichment now run.transactionsToSend = .ok run.lagoEvents := by
  unfold readSync at h
  cases hbuild : buildLagoEvents inputs.safeEnrichment now
      ((inputs.process db).filter (·.shouldSendToLago)) with
  | error e => simp [hbuild, Except.map] at h
  | ok events =>
      rw [hbuild] at h
      obtain rfl := Except.ok.inj h
      exact ⟨rfl, rfl, rfl, hbuild⟩

end ExpresSync
