import ExpresSync.Model.Types
import Mathlib.Logic.Function.Basic
import Mathlib.Algebra.Order.Ring.Abs

/-!
# The billing tables

`transaction_sync_state` holds one row per StEvE transaction: the running total, and whether the
transaction is settled.  `synced_transaction_events` is the audit log of what was sent to Lago,
with a `UNIQUE` key.  Both writers replace the row of a transaction by absolute values; they
differ in what they do about an event that is there already (`persistFlush` skips it,
`atomicUpsertSyncStatesAndCreateEvents` fails as a whole).

A statement that PostgreSQL refuses returns `none`: a value that is no `integer` or does not fit
`numeric(12,6)`, or a duplicate key.
-/

namespace ExpresSync

/-! ## Columns -/

/-- What an `integer` column stores for a JavaScript number. -/
def pgInteger : JsNumber → Option ℤ
  | .nan => none
  | .fin x => if x.den = 1 ∧ -2 ^ 31 ≤ x.num ∧ x.num < 2 ^ 31 then some x.num else none

/-- What a `numeric(12,6)` column stores for a number written with six decimals; `NaN` is a legal
`numeric`. -/
def pgNumeric : JsNumber → Option JsNumber
  | .nan => some .nan
  | .fin x => if |x| < 10 ^ 6 then some (.fin x) else none

lemma pgInteger_eq_some {x : JsNumber} {n : ℤ} (h : pgInteger x = some n) : x = .fin n := by
  cases x with
  | nan => simp [pgInteger] at h
  | fin q =>
      simp only [pgInteger] at h
      split at h
      · next hq =>
          obtain rfl : q.num = n := by simpa using h
          rw [JsNumber.fin.injEq]
          exact (Rat.den_eq_one_iff q).mp hq.1 |>.symm
      · simp at h

lemma pgNumeric_eq_some {x y : JsNumber} (h : pgNumeric x = some y) : y = x := by
  cases x with
  | nan => simpa [pgNumeric, eq_comm] using h
  | fin q =>
      simp only [pgNumeric] at h
      split at h
      · simpa [eq_comm] using h
      · simp at h

/-! ## `transaction_sync_state` -/

/-- A row of `transaction_sync_state`. -/
structure TransactionSyncState where
  steveTransactionId : ℕ
  /-- Wh. -/
  lastSyncedMeterValue : ℤ
  totalKwhBilled : JsNumber
  lastSyncRunId : Option ℕ
  isFinalized : Bool
deriving DecidableEq

/-- The values of an upsert, as the callers compute them. -/
structure NewTransactionSyncState where
  steveTransactionId : ℕ
  lastSyncedMeterValue : JsNumber
  /-- Written by `toFixed(6)`. -/
  totalKwhBilled : JsNumber
  lastSyncRunId : Option ℕ
  isFinalized : Bool
deriving DecidableEq

/-- The row the database stores for an upsert, `none` when it refuses the values. -/
def NewTransactionSyncState.toRow (data : NewTransactionSyncState) : Option TransactionSyncState :=
  (pgInteger data.lastSyncedMeterValue).bind fun lastSyncedMeterValue =>
    (pgNumeric data.totalKwhBilled).map fun totalKwhBilled =>
      { steveTransactionId := data.steveTransactionId
        lastSyncedMeterValue := lastSyncedMeterValue
        totalKwhBilled := totalKwhBilled
        lastSyncRunId := data.lastSyncRunId
        isFinalized := data.isFinalized }

lemma NewTransactionSyncState.toRow_eq_some {data : NewTransactionSyncState}
    {row : TransactionSyncState} (h : data.toRow = some row) :
    row.steveTransactionId = data.steveTransactionId ∧
      data.lastSyncedMeterValue = .fin row.lastSyncedMeterValue ∧
      row.totalKwhBilled = data.totalKwhBilled ∧ row.isFinalized = data.isFinalized := by
  obtain ⟨meter, hmeter, h⟩ := Option.bind_eq_some_iff.mp h
  obtain ⟨total, htotal, rfl⟩ := Option.map_eq_some_iff.mp h
  exact ⟨rfl, pgInteger_eq_some hmeter, pgNumeric_eq_some htotal, rfl⟩

/-- `Number(syncState?.totalKwhBilled ?? 0)`. -/
def priorBilledKwh (syncState : Option TransactionSyncState) : JsNumber :=
  (syncState.map (·.totalKwhBilled)).getD (.fin 0)

/-! ## `synced_transaction_events` -/

/-- A row of `synced_transaction_events`. -/
structure SyncedTransactionEvent where
  steveTransactionId : ℕ
  lagoEventTransactionId : LagoEventTransactionId
  userMappingId : Option ℕ
  kwhDelta : JsNumber
  /-- Wh. -/
  meterValueFrom : ℤ
  meterValueTo : ℤ
  isFinal : Bool
  syncRunId : Option ℕ
deriving DecidableEq

/-- The values of an inserted event, as the callers compute them. -/
structure NewSyncedTransactionEvent where
  steveTransactionId : ℕ
  lagoEventTransactionId : LagoEventTransactionId
  userMappingId : Option ℕ
  /-- Written by `toFixed(6)`. -/
  kwhDelta : JsNumber
  meterValueFrom : JsNumber
  meterValueTo : JsNumber
  isFinal : Bool
  syncRunId : Option ℕ
deriving DecidableEq

/-- The row the database stores for an event, `none` when it refuses the values. -/
def NewSyncedTransactionEvent.toRow (data : NewSyncedTransactionEvent) :
    Option SyncedTransactionEvent :=
  (pgNumeric data.kwhDelta).bind fun kwhDelta =>
    (pgInteger data.meterValueFrom).bind fun meterValueFrom =>
      (pgInteger data.meterValueTo).map fun meterValueTo =>
        { steveTransactionId := data.steveTransactionId
          lagoEventTransactionId := data.lagoEventTransactionId
          userMappingId := data.userMappingId
          kwhDelta := kwhDelta
          meterValueFrom := meterValueFrom
          meterValueTo := meterValueTo
          isFinal := data.isFinal
          syncRunId := data.syncRunId }

lemma NewSyncedTransactionEvent.toRow_key {data : NewSyncedTransactionEvent}
    {row : SyncedTransactionEvent} (h : data.toRow = some row) :
    row.lagoEventTransactionId = data.lagoEventTransactionId := by
  obtain ⟨kwhDelta, -, h⟩ := Option.bind_eq_some_iff.mp h
  obtain ⟨meterValueFrom, -, h⟩ := Option.bind_eq_some_iff.mp h
  obtain ⟨meterValueTo, -, rfl⟩ := Option.map_eq_some_iff.mp h
  rfl

/-! ## The database -/

/-- The tables both billing paths share. -/
structure Db where
  userMappings : List UserMapping
  /-- By `steve_transaction_id`, which is `UNIQUE`. -/
  transactionSyncState : ℕ → Option TransactionSyncState
  syncedTransactionEvents : KeyedLog SyncedTransactionEvent.lagoEventTransactionId

namespace Db

/-- A database without transactions. -/
def empty (userMappings : List UserMapping) : Db := ⟨userMappings, fun _ => none, KeyedLog.empty⟩

/-- `getActiveMappings`. -/
def getActiveMappings (db : Db) : List UserMapping := db.userMappings.filter (·.isActive)

/-- The running total of a transaction. -/
def billedTotal (db : Db) (steveTransactionId : ℕ) : JsNumber :=
  priorBilledKwh (db.transactionSyncState steveTransactionId)

/-- The row of the transaction exists and is finalized. -/
def finalized (db : Db) (steveTransactionId : ℕ) : Bool :=
  ((db.transactionSyncState steveTransactionId).map (·.isFinalized)).getD false

/-- Insert the row of a transaction, or replace it. -/
def putRow (db : Db) (row : TransactionSyncState) : Db :=
  { db with
    transactionSyncState :=
      Function.update db.transactionSyncState row.steveTransactionId (some row) }

/-- `upsertSyncState`. -/
def upsertSyncState (db : Db) (data : NewTransactionSyncState) : Option Db :=
  data.toRow.map db.putRow

/-- The upserts of one database transaction. -/
def upsertAll (db : Db) : List NewTransactionSyncState → Option Db
  | [] => some db
  | data :: states => (db.upsertSyncState data).bind fun db' => db'.upsertAll states

/-- `atomicUpsertSyncStatesAndCreateEvents`: all upserts and one multi-row insert, or nothing. -/
def atomicUpsertSyncStatesAndCreateEvents (db : Db) (states : List NewTransactionSyncState)
    (events : List NewSyncedTransactionEvent) : Option Db :=
  (db.upsertAll states).bind fun db' =>
    (events.mapM NewSyncedTransactionEvent.toRow).bind fun rows =>
      (db'.syncedTransactionEvents.insertAll? rows).map fun log =>
        { db' with syncedTransactionEvents := log }

/-- `persistFlush`: the upsert, and the event unless its key is taken. -/
def persistFlush (db : Db) (state : NewTransactionSyncState)
    (eventRow : NewSyncedTransactionEvent) :
    Option Db :=
  (db.upsertSyncState state).bind fun db' =>
    eventRow.toRow.map fun row =>
      { db' with syncedTransactionEvents := db'.syncedTransactionEvents.record row }

/-! ### Reading a row -/

lemma billedTotal_of_row {db : Db} {id : ℕ} {row : TransactionSyncState}
    (h : db.transactionSyncState id = some row) : db.billedTotal id = row.totalKwhBilled := by
  simp [billedTotal, priorBilledKwh, h]

lemma finalized_of_row {db : Db} {id : ℕ} {row : TransactionSyncState}
    (h : db.transactionSyncState id = some row) : db.finalized id = row.isFinalized := by
  simp [finalized, h]

lemma same_row {db db' : Db} {id : ℕ}
    (h : db'.transactionSyncState id = db.transactionSyncState id) :
    db'.billedTotal id = db.billedTotal id ∧ db'.finalized id = db.finalized id := by
  simp [billedTotal, finalized, h]

/-! ### Effect of the writers -/

@[simp] lemma putRow_self (db : Db) (row : TransactionSyncState) :
    (db.putRow row).transactionSyncState row.steveTransactionId = some row := by
  simp [putRow]

lemma putRow_of_ne (db : Db) {row : TransactionSyncState} {id : ℕ}
    (h : id ≠ row.steveTransactionId) :
    (db.putRow row).transactionSyncState id = db.transactionSyncState id :=
  Function.update_of_ne h _ _

/-- An upsert writes the row of its own transaction and nothing else. -/
lemma upsertSyncState_spec {db db' : Db} {data : NewTransactionSyncState}
    (h : db.upsertSyncState data = some db') :
    ∃ row, data.toRow = some row ∧ db' = db.putRow row := by
  obtain ⟨row, hrow, rfl⟩ := Option.map_eq_some_iff.mp h
  exact ⟨row, hrow, rfl⟩

/-- The row of a transaction after some upserts is the old one, or the one an upsert of that
transaction wrote. -/
lemma upsertAll_spec {db db' : Db} {states : List NewTransactionSyncState}
    (h : db.upsertAll states = some db') :
    db'.syncedTransactionEvents = db.syncedTransactionEvents ∧
      db'.userMappings = db.userMappings ∧
      ∀ id, (db'.transactionSyncState id = db.transactionSyncState id ∧
          ∀ data ∈ states, data.steveTransactionId ≠ id) ∨
        ∃ data ∈ states, data.steveTransactionId = id ∧
          db'.transactionSyncState id = data.toRow ∧ data.toRow.isSome := by
  induction states generalizing db with
  | nil =>
      obtain rfl : db = db' := by simpa [upsertAll] using h
      exact ⟨rfl, rfl, fun id => Or.inl ⟨rfl, by simp⟩⟩
  | cons data states ih =>
      obtain ⟨mid, hmid, hrest⟩ := Option.bind_eq_some_iff.mp h
      obtain ⟨row, hrow, rfl⟩ := upsertSyncState_spec hmid
      obtain ⟨hevents, hmappings, hrows⟩ := ih hrest
      refine ⟨hevents, hmappings, fun id => ?_⟩
      have hid := (NewTransactionSyncState.toRow_eq_some hrow).1
      rcases hrows id with ⟨hsame, hnone⟩ | ⟨data', hmem, hid', hval, hsome⟩
      · by_cases heq : id = row.steveTransactionId
        · refine Or.inr ⟨data, List.mem_cons_self, by rw [heq, hid], ?_, by simp [hrow]⟩
          rw [hsame, heq, putRow_self, hrow]
        · refine Or.inl ⟨by rw [hsame, putRow_of_ne _ heq], ?_⟩
          intro data' hmem
          rcases List.mem_cons.mp hmem with rfl | hmem
          · exact fun hc => heq (by rw [← hc, hid])
          · exact hnone data' hmem
      · exact Or.inr ⟨data', List.mem_cons_of_mem _ hmem, hid', hval, hsome⟩

/-- The upserts go through exactly when every row is acceptable. -/
lemma upsertAll_isSome (db : Db) {states : List NewTransactionSyncState} :
    (db.upsertAll states).isSome ↔ ∀ data ∈ states, data.toRow.isSome := by
  induction states generalizing db with
  | nil => simp [upsertAll]
  | cons data states ih =>
      cases hrow : data.toRow with
      | none => simp [upsertAll, upsertSyncState, hrow]
      | some row => simp [upsertAll, upsertSyncState, hrow, ih]

end Db

end ExpresSync
