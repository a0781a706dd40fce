import ExpresSync.Model.MappingResolver
import ExpresSync.Model.SyncDb

/-!
# The incremental billing emitter

`enqueueMeterSample`, `flush`, `resolveBillingContext` and `sweep` of the emitter.  A `flush` is
suspended at every `await`; `FlushPoint` lists the suspension points with the local variables
that are live there, and each function below runs a flush from one point to the next.  Between
two points the webhook handler may change the same record, which is why the record `st` and the
suspended flush are kept side by side in a `TxObject`.

The records live on a heap that is never compacted: an object that has left the `state` map
(evicted, expired, deleted after its last flush) may still be held by a suspended flush.  `held`
says that the object is the value of its transaction in the `state` map; the order of the heap is
the insertion order of that map.

The sweep timer, the `transaction.billing` events, the logs and `endedEmitted`, which nothing
reads, are left out.
-/

namespace ExpresSync

/-! ## Tunables -/

/-- `FLUSH_INTERVAL_MS`. -/
def flushIntervalMs : ℕ := 60000

/-- `FLUSH_KWH_THRESHOLD`. -/
def flushKwhThreshold : ℚ := 1

/-- `STATE_TTL_MS`. -/
def stateTtlMs : ℕ := 30 * 60000

/-- `STATE_CAP`. -/
def stateCap : ℕ := 5000

/-- The tolerance of the monotonic guard, in Wh. -/
def monotonicGuardWh : ℤ := 50

/-! ## State -/

/-- The per-transaction scratchpad. -/
structure TxBillingState where
  steveTransactionId : ℕ
  chargeBoxId : String
  /-- Wh, set on the first sample. -/
  startMeterValueWh : Option ℤ
  /-- Wh, the last reported value. -/
  lastMeterValueWh : Option ℤ
  /-- Wh, at the most recent successful flush. -/
  lastBilledMeterValueWh : ℤ
  /-- kWh sent for this session. -/
  totalBilledKwh : ℚ
  /-- kWh accumulated since the last flush. -/
  pendingDeltaKwh : ℚ
  lastSampleAt : ℕ
  lastFlushAt : ℕ
  resolved : Bool
  userMappingId : Option ℕ
  lagoCustomerExternalId : Option String
  lagoSubscriptionExternalId : Option String
  planCode : Option String

/-- A sample as the webhook receiver hands it over; `kwh` is `none` when it is missing or not a
finite number. -/
structure MeterSample where
  steveTransactionId : ℕ
  chargeBoxId : String
  kwh : Option ℚ
  isFinal : Bool
  userMappingId : Option ℕ

/-- `Math.round(sample.kwh * 1000)`. -/
def meterWh (kwh : ℚ) : ℤ := mathRound (kwh * 1000)

/-- The local variables of a flush while Lago is being called. -/
structure PostedFlush where
  flushKwh : ℚ
  now : ℕ
  event : LagoEvent

/-- The local variables of a flush while the database is being called. -/
structure FlushPersistArgs where
  lagoEventTransactionId : LagoEventTransactionId
  flushKwh : ℚ
  newTotal : ℚ
  meterValueFromWh : ℤ
  meterValueToWh : ℤ
  userMappingId : Option ℕ
  now : ℕ

/-- Where a flush is suspended. -/
inductive FlushPoint where
  /-- In `resolveBillingContext`, at `steveClient.getTransactions`. -/
  | steveTransaction
  /-- In `resolveBillingContext`, at the `user_mappings` query. -/
  | userMapping (idTag : String)
  /-- In `resolveSubscription`, at `lagoClient.getSubscriptions`. -/
  | subscriptions (mapping : UserMapping)
  /-- `resolveBillingContext` has returned. -/
  | resolved (billable : Bool)
  /-- At `lagoClient.createBatchEvents`. -/
  | posting (post : PostedFlush)
  /-- At `persistFlush`, before the database transaction has committed. -/
  | persisting (args : FlushPersistArgs)
  /-- At `persistFlush`, after the commit. -/
  | persisted (args : FlushPersistArgs)

/-- A suspended flush. -/
structure Flush where
  final : Bool
  point : FlushPoint

/-- A record with the flush that is in flight for it (`st.flushing`), if any. -/
structure TxObject where
  st : TxBillingState
  held : Bool
  flushing : Option Flush

/-! ## Flush, from point to point -/

namespace TxObject

/-- `flush` up to its first `await`. -/
def startFlush (obj : TxObject) (final : Bool) : TxObject :=
  if obj.flushing.isSome then obj
  else if obj.st.pendingDeltaKwh ≤ 0 ∧ final = false then obj
  else if obj.st.resolved then
    { obj with
      flushing := some ⟨final, .resolved obj.st.lagoSubscriptionExternalId.isSome⟩ }
  else
    { obj with
      st := { obj.st with resolved := true }
      flushing := some ⟨final, .steveTransaction⟩ }

/-- `resolveBillingContext` returns. -/
def returnResolved (obj : TxObject) (flush : Flush) (billable : Bool) : TxObject :=
  { obj with flushing := some { flush with point := .resolved billable } }

/-- The `catch` of `resolveBillingContext`. -/
def resolveFailed (obj : TxObject) (flush : Flush) : TxObject :=
  { obj with st := { obj.st with resolved := false } }.returnResolved flush false

/-- `resolveBillingContext` after `resolveSubscription` has returned. -/
def subscriptionResolved (obj : TxObject) (flush : Flush) (resolved : Option ResolvedSubscription) :
    TxObject :=
  match resolved with
  | none => obj.returnResolved flush false
  | some subscription =>
      { obj with
        st :=
          { obj.st with
            lagoSubscriptionExternalId := some subscription.externalId
            planCode := subscription.planCode } }.returnResolved flush
        (!isNonUsagePlan subscription.planCode)

/-- `steveClient.getTransactions` settles. -/
def steveAnswered (obj : TxObject) (flush : Flush)
    (answer : Except String (List StEvETransaction)) : TxObject :=
  match answer with
  | .error _ => obj.resolveFailed flush
  | .ok [] => obj.returnResolved flush false
  | .ok (tx :: _) =>
      let obj' :=
        { obj with
          st := { obj.st with startMeterValueWh := obj.st.startMeterValueWh <|> tx.startMeter } }
      if tx.ocppIdTag = "" then obj'.returnResolved flush false
      else { obj' with flushing := some { flush with point := .userMapping tx.ocppIdTag } }

/-- The `user_mappings` query settles; the subscription is resolved at once unless Lago has to be
asked. -/
def mappingSelected (obj : TxObject) (flush : Flush)
    (subscriptionCache : SubscriptionResolutionCache)
    (row : Except String (Option UserMapping)) : TxObject :=
  match row with
  | .error _ => obj.resolveFailed flush
  | .ok none => obj.returnResolved flush false
  | .ok (some mapping) =>
      let obj' :=
        { obj with
          st :=
            { obj.st with
              userMappingId := some mapping.id
              lagoCustomerExternalId := mapping.lagoCustomerExternalId } }
      match resolveWithoutLago mapping subscriptionCache with
      | some resolved => obj'.subscriptionResolved flush resolved
      | none => { obj' with flushing := some { flush with point := .subscriptions mapping } }

/-- The identifier `flush` sends its event under. -/
def flushKey (obj : TxObject) (now : ℕ) : LagoEventTransactionId :=
  .incremental obj.st.steveTransactionId (now / 1000)

/-- The emitter's `buildEvent`. -/
def buildEvent (obj : TxObject) (subscriptionId : String) (kwh : ℚ) (now : ℕ) : LagoEvent where
  transactionId := obj.flushKey now
  externalSubscriptionId := subscriptionId
  code := lagoMetricCode
  timestamp := now / 1000
  properties :=
    { value := .fin (toFixed 3 kwh)
      kwh := .fin (toFixed 3 kwh)
      chargerId := some obj.st.chargeBoxId
      session := none }

/-- `flush` from the end of `resolveBillingContext` to its next `await`: the pending delta is
dropped when the transaction is not billable, and sent otherwise. -/
def resumeFlush (obj : TxObject) (flush : Flush) (billable : Bool) (now : ℕ) : TxObject :=
  if billable && truthy obj.st.lagoSubscriptionExternalId then
    let flushKwh := roundTo 6 obj.st.pendingDeltaKwh
    { obj with
      flushing := some
        { flush with
          point := .posting
            { flushKwh := flushKwh
              now := now
              event := obj.buildEvent (obj.st.lagoSubscriptionExternalId.getD "") flushKwh now } } }
  else { obj with st := { obj.st with pendingDeltaKwh := 0 }, flushing := none }

/-- What `flush` computes for `persistFlush` after the POST. -/
def persistArgs (obj : TxObject) (post : PostedFlush) : FlushPersistArgs where
  lagoEventTransactionId := post.event.transactionId
  flushKwh := post.flushKwh
  newTotal := roundTo 6 (obj.st.totalBilledKwh + post.flushKwh)
  meterValueFromWh :=
    if 0 < obj.st.lastBilledMeterValueWh then obj.st.lastBilledMeterValueWh
    else obj.st.startMeterValueWh.getD 0
  meterValueToWh := obj.st.lastMeterValueWh.getD 0
  userMappingId := obj.st.userMappingId
  now := post.now

/-- `createBatchEvents` settles; a rejected call ends the flush and keeps the pending delta. -/
def postAnswered (obj : TxObject) (flush : Flush) (post : PostedFlush) (ok : Bool) : TxObject :=
  if ok then
    { obj with flushing := some { flush with point := .persisting (obj.persistArgs post) } }
  else { obj with flushing := none }

/-- The end of a successful `flush`. -/
def flushSucceeded (obj : TxObject) (args : FlushPersistArgs) : TxObject where
  st :=
    { obj.st with
      totalBilledKwh := args.newTotal
      lastBilledMeterValueWh := args.meterValueToWh
      pendingDeltaKwh := 0
      lastFlushAt := args.now }
  held := obj.held
  flushing := none

/-- The row `persistFlush` upserts. -/
def persistState (obj : TxObject) (final : Bool) (args : FlushPersistArgs) :
    NewTransactionSyncState where
  steveTransactionId := obj.st.steveTransactionId
  lastSyncedMeterValue := .fin args.meterValueToWh
  totalKwhBilled := .fin (toFixed 6 args.newTotal)
  lastSyncRunId := none
  isFinalized := final

/-- The event row `persistFlush` appends. -/
def persistEventRow (obj : TxObject) (final : Bool) (args : FlushPersistArgs) :
    NewSyncedTransactionEvent where
  steveTransactionId := obj.st.steveTransactionId
  lagoEventTransactionId := args.lagoEventTransactionId
  userMappingId := args.userMappingId
  kwhDelta := .fin (toFixed 6 args.flushKwh)
  meterValueFrom := .fin args.meterValueFromWh
  meterValueTo := .fin args.meterValueToWh
  isFinal := final
  syncRunId := none

/-! ## Samples -/

/-- `st` after a sample that passed the monotonic guard and is not the first one. -/
def accumulate (st : TxBillingState) (sample : MeterSample) (last meterValueWh : ℤ) (now : ℕ) :
    TxBillingState :=
  { st with
    pendingDeltaKwh :=
      if last < meterValueWh then st.pendingDeltaKwh + (meterValueWh - last : ℚ) / 1000
      else st.pendingDeltaKwh
    lastMeterValueWh := some meterValueWh
    lastSampleAt := now
    userMappingId := st.userMappingId <|> sample.userMappingId }

/-- `st` after the first sample: the meter is anchored and nothing is billed. -/
def anchor (st : TxBillingState) (meterValueWh : ℤ) (now : ℕ) : TxBillingState :=
  { st with
    lastMeterValueWh := some meterValueWh
    startMeterValueWh := st.startMeterValueWh <|> some meterValueWh
    lastBilledMeterValueWh :=
      if st.lastBilledMeterValueWh = 0 then meterValueWh else st.lastBilledMeterValueWh
    lastSampleAt := now }

/-- Whether a sample triggers a flush. -/
def flushDue (st : TxBillingState) (sample : MeterSample) (now : ℕ) : Bool :=
  sample.isFinal || decide (flushIntervalMs ≤ now - st.lastFlushAt) ||
    decide (flushKwhThreshold ≤ st.pendingDeltaKwh)

/-- The part of `enqueueMeterSample` that works on the record. -/
def takeSample (obj : TxObject) (sample : MeterSample) (meterValueWh : ℤ) (now : ℕ) : TxObject :=
  match obj.st.lastMeterValueWh with
  | none => { obj with st := anchor obj.st meterValueWh now }
  | some last =>
      if meterValueWh < last - monotonicGuardWh then obj
      else
        let obj' := { obj with st := accumulate obj.st sample last meterValueWh now }
        if flushDue obj'.st sample now then obj'.startFlush sample.isFinal else obj'

/-- `sweep` at one object of the `state` map. -/
def sweep (obj : TxObject) (now : ℕ) : TxObject :=
  if obj.held = false then obj
  else if stateTtlMs < now - obj.st.lastSampleAt then { obj with held := false }
  else if 0 < obj.st.pendingDeltaKwh ∧ flushIntervalMs ≤ now - obj.st.lastFlushAt then
    obj.startFlush false
  else obj

end TxObject

/-- `createState`. -/
def createState (sample : MeterSample) (now : ℕ) : TxBillingState where
  steveTransactionId := sample.steveTransactionId
  chargeBoxId := sample.chargeBoxId
  startMeterValueWh := none
  lastMeterValueWh := none
  lastBilledMeterValueWh := 0
  totalBilledKwh := 0
  pendingDeltaKwh := 0
  lastSampleAt := now
  lastFlushAt := 0
  resolved := false
  userMappingId := sample.userMappingId
  lagoCustomerExternalId := none
  lagoSubscriptionExternalId := none
  planCode := none

/-! ## The `state` map -/

/-- `state.delete(id)`. -/
def deleteState (heap : List TxObject) (steveTransactionId : ℕ) : List TxObject :=
  heap.map fun obj =>
    if obj.st.steveTransactionId = steveTransactionId then { obj with held := false } else obj

/-- The index of `state.get(id)`. -/
def stateIndex (heap : List TxObject) (steveTransactionId : ℕ) : Option ℕ :=
  heap.findIdx? fun obj => obj.held && obj.st.steveTransactionId == steveTransactionId

/-- The entry `rememberState` evicts: the first one with the oldest last sample. -/
def oldestState (heap : List TxObject) : Option TxObject :=
  (heap.filter (·.held)).foldl
    (fun oldest obj =>
      match oldest with
      | none => some obj
      | some o => if obj.st.lastSampleAt < o.st.lastSampleAt then some obj else some o)
    none

/-- The eviction of `rememberState`. -/
def evict (heap : List TxObject) : List TxObject :=
  if stateCap ≤ (heap.filter (·.held)).length then
    match oldestState heap with
    | none => heap
    | some oldest => deleteState heap oldest.st.steveTransactionId
  else heap

/-- A new object with its first sample taken. -/
def firstSample (sample : MeterSample) (meterValueWh : ℤ) (now : ℕ) : TxObject :=
  TxObject.takeSample ⟨createState sample now, true, none⟩ sample meterValueWh now

/-- `enqueueMeterSample`. -/
def enqueueMeterSample (heap : List TxObject) (sample : MeterSample) (now : ℕ) : List TxObject :=
  match sample.kwh with
  | none => heap
  | some kwh =>
      match stateIndex heap sample.steveTransactionId with
      | some i => heap.modify i fun obj => obj.takeSample sample (meterWh kwh) now
      | none => evict heap ++ [firstSample sample (meterWh kwh) now]

/-- `sweep`. -/
def sweep (heap : List TxObject) (now : ℕ) : List TxObject := heap.map fun obj => obj.sweep now

end ExpresSync
