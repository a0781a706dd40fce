import ExpresSync.Properties.BatchBookkeeping

/-!
# What the running total records

`total_kwh_billed` is meant to hold the energy Lago has been sent.  Both branches of `runSync` add
the `kwhDelta` of every transaction whose row they write, sent or not.  `recordsAccepted_iff` says
for which runs the column still moves by exactly what Lago accepted: those in which something is in
the way of the row of each transaction that is skipped with energy left, whose events are whole Wh,
and whose rows fit when an event was accepted.
-/

namespace ExpresSync

/-! ## A run from its read to its end -/

/-- `batchUpsertSyncStates`: one upsert after the other, and the first that is refused ends it. -/
def Db.batchUpsertSyncStates (db : Db) : List NewTransactionSyncState → Db
  | [] => db
  | state :: states =>
      match db.upsertSyncState state with
      | none => db
      | some db' => db'.batchUpsertSyncStates states

/-- The rows fit their column: a total that is a number has at most six decimals. -/
def Db.TotalsFit (db : Db) : Prop := ∀ id total, db.billedTotal id = .fin total → OnGrid 6 total

namespace SyncRun

variable (run : SyncRun)

/-- The batches of a run that Lago accepted. -/
def successfulBatches (post : ℕ → ℕ → Except String Unit) : List ℕ :=
  (sendBatches post (batchEvents run.lagoEvents)).successfulBatchIndices

/-- The database after a run that has read it: without events the skipped transactions are saved
one by one, else everything is written in one transaction, or nothing. -/
def finish (post : ℕ → ℕ → Except String Unit) (db : Db) : Db :=
  if run.transactionsToSend.isEmpty then
    db.batchUpsertSyncStates (run.transactionsSkipped.map run.stateUpdate)
  else (run.persistSent (run.successfulBatches post) db).getD db

/-- Lago accepts an attempt at the batch of the event. -/
def LagoAccepts (post : ℕ → ℕ → Except String Unit) (event : LagoEvent) : Prop :=
  ∃ i batch, (batchEvents run.lagoEvents)[i]? = some batch ∧ event ∈ batch ∧ Accepted (post i)

/-- From `db` to `db'`, the running total of a transaction grows by the kWh of its event when Lago
accepts it, and stays as it is when Lago accepts no event of the transaction. -/
structure RecordsAccepted (post : ℕ → ℕ → Except String Unit) (db db' : Db) : Prop where
  accepted : ∀ event, run.LagoAccepts post event → ∃ before kwh : ℚ,
    event.properties.value = .fin kwh ∧
      db.billedTotal event.transactionId.steveTransactionId = .fin before ∧
      db'.billedTotal event.transactionId.steveTransactionId = .fin (before + kwh)
  untouched : ∀ id, (∀ event, run.LagoAccepts post event →
    event.transactionId.steveTransactionId ≠ id) → db'.billedTotal id = db.billedTotal id

/-! ## The condition -/

/-- The rows that a run has for its transactions fit their columns, and no event row of a
transaction that counts as sent is there already. -/
structure RowsFit (post : ℕ → ℕ → Except String Unit) (db : Db) : Prop where
  states : ∀ pt ∈ run.successfullySent (run.successfulBatches post) ++ run.transactionsSkipped,
    (run.stateUpdate pt).toRow.isSome
  events : ∀ pt ∈ run.successfullySent (run.successfulBatches post),
    ¬db.syncedTransactionEvents.Has pt.lagoEventTransactionId ∧ (run.eventRecord pt).toRow.isSome

/-- Nothing is in the way of the row of a skipped transaction: it fits, and so do the rows that are
written before it, or with it. -/
def TakesRow (post : ℕ → ℕ → Except String Unit) (db : Db) (pt : ProcessedTransaction) : Prop :=
  if run.transactionsToSend.isEmpty then
    pt ∈ run.transactionsSkipped.takeWhile fun pt => (run.stateUpdate pt).toRow.isSome
  else run.RowsFit post db

/-- A run that records only what it sends. -/
structure SendsWhatItRecords (post : ℕ → ℕ → Except String Unit) (db : Db) : Prop where
  /-- When an event was accepted, nothing is in the way of the write. -/
  fits : run.successfullySent (run.successfulBatches post) ≠ [] → run.RowsFit post db
  /-- What was billed before is a whole number of Wh, so that the event is not rounded. -/
  whole : ∀ pt ∈ run.successfullySent (run.successfulBatches post),
    ∃ prior, db.billedTotal pt.steveTransactionId = .fin prior ∧ OnGrid 3 prior
  /-- Something is in the way of the row of a transaction that is skipped for want of a subscription
  or for its plan, unless its total is `NaN` already. -/
  covered : ∀ pt ∈ run.transactionsSkipped, run.TakesRow post db pt →
    pt.skipReason = some .alreadyBilledIncrementally ∨
      db.billedTotal pt.steveTransactionId = .nan

end SyncRun

/-! ## Which rows are written -/

/-- The transactions whose rows a run writes. -/
def SyncRun.written (run : SyncRun) (post : ℕ → ℕ → Except String Unit) (db : Db) :
    List ProcessedTransaction :=
  if run.transactionsToSend.isEmpty then
    run.transactionsSkipped.takeWhile fun pt => (run.stateUpdate pt).toRow.isSome
  else if (run.persistSent (run.successfulBatches post) db).isSome then
    run.successfullySent (run.successfulBatches post) ++ run.transactionsSkipped
  else []

/-- The upserts of a batch up to the first that is refused are those of one transaction. -/
lemma Db.upsertAll_takeWhile (db : Db) (states : List NewTransactionSyncState) :
    db.upsertAll (states.takeWhile fun state => state.toRow.isSome) =
      some (db.batchUpsertSyncStates states) := by
  induction states generalizing db with
  | nil => rfl
  | cons state states ih =>
      cases hrow : state.toRow with
      | none => simp [hrow, upsertAll, batchUpsertSyncStates, upsertSyncState]
      | some row =>
          simp only [List.takeWhile_cons, hrow, Option.isSome_some, if_true, upsertAll,
            batchUpsertSyncStates, upsertSyncState, Option.map_some, Option.bind_some]
          exact ih _

/-- What a run that has read the database knows about what it processes. -/
structure ReadsFrom (run : SyncRun) (db : Db) : Prop where
  states : run.syncStates = db.transactionSyncState
  eventsMatch : run.EventsMatch
  ids : (run.processed.map (·.steveTransactionId)).Nodup
  keys : ∀ pt ∈ run.processed,
    pt.lagoEventTransactionId.steveTransactionId = pt.steveTransactionId
  bills : ∀ pt ∈ run.processed, ∃ tx mapping resolved, pt.steveTransactionId = tx.id ∧
    billTransaction tx (db.transactionSyncState tx.id) mapping resolved = some pt

lemma readsFrom_of_readSync {inputs : SyncInputs} {db : Db} {runId now : ℕ} {run : SyncRun}
    (h : readSync inputs db runId now = .ok run) : ReadsFrom run db := by
  obtain ⟨-, hstates, hprocessed, -⟩ := readSync_eq_ok h
  have hbills : ∀ pt ∈ run.processed, ∃ tx mapping resolved, pt.steveTransactionId = tx.id ∧
      billTransaction tx (db.transactionSyncState tx.id) mapping resolved = some pt := by
    intro pt hpt
    rw [hprocessed] at hpt
    obtain ⟨tx, -, m, cache, hid, -, -, hbill⟩ := SyncInputs.mem_process hpt
    exact ⟨tx, m, _, hid, hbill⟩
  refine ⟨hstates, World.readSync_eventsMatch h, ?_, ?_, hbills⟩
  · rw [hprocessed]
    exact inputs.process_ids_nodup db
  · intro pt hpt
    obtain ⟨tx, mapping, resolved, hid, hbill⟩ := hbills pt hpt
    rw [hid]
    exact billTransaction_key hbill

section Read

variable {run : SyncRun} {db : Db} {post : ℕ → ℕ → Except String Unit} {pt : ProcessedTransaction}

lemma SyncRun.written_subset (run : SyncRun) (post : ℕ → ℕ → Except String Unit) (db : Db) :
    run.written post db ⊆ run.processed := by
  intro pt hpt
  unfold written at hpt
  split at hpt
  · exact (mem_transactionsSkipped.mp (List.takeWhile_subset _ hpt)).1
  · split at hpt
    · rcases List.mem_append.mp hpt with hsent | hskipped
      · exact (mem_processed_of_successfullySent hsent).1
      · exact (mem_transactionsSkipped.mp hskipped).1
    · simp at hpt

/-- The write of a run goes through exactly when its rows fit. -/
lemma SyncRun.persistSent_isSome_iff (hread : ReadsFrom run db) :
    (run.persistSent (run.successfulBatches post) db).isSome = true ↔ run.RowsFit post db := by
  have hnodup := run.successfullySent_keys_nodup hread.ids hread.keys (run.successfulBatches post)
  rw [persistSent_isSome db hnodup]
  constructor
  · rintro ⟨hevents, hstates⟩
    exact ⟨hstates, hevents⟩
  · exact fun h => ⟨h.events, h.states⟩

/-- The row of a skipped transaction is written exactly when nothing is in its way. -/
lemma SyncRun.mem_written_of_skipped (hread : ReadsFrom run db)
    (hskipped : pt ∈ run.transactionsSkipped) :
    pt ∈ run.written post db ↔ run.TakesRow post db pt := by
  unfold written TakesRow
  split
  · exact Iff.rfl
  · rw [← persistSent_isSome_iff hread]
    split
    · next hcommits => exact iff_of_true (List.mem_append_right _ hskipped) hcommits
    · next hrefused => exact iff_of_false List.not_mem_nil hrefused

/-- The upserts of a run are those of the transactions whose rows it writes. -/
lemma SyncRun.finish_upserts (run : SyncRun) (post : ℕ → ℕ → Except String Unit) (db : Db) :
    ∃ mid, db.upsertAll ((run.written post db).map run.stateUpdate) = some mid ∧
      (run.finish post db).transactionSyncState = mid.transactionSyncState := by
  unfold finish written
  split
  · refine ⟨_, ?_, rfl⟩
    rw [← Db.upsertAll_takeWhile, List.takeWhile_map]
    rfl
  · cases hpersist : run.persistSent (run.successfulBatches post) db with
    | none => exact ⟨db, rfl, rfl⟩
    | some db' =>
        obtain ⟨mid, hmid, h⟩ := Option.bind_eq_some_iff.mp hpersist
        obtain ⟨rows, -, h⟩ := Option.bind_eq_some_iff.mp h
        obtain ⟨log, -, rfl⟩ := Option.map_eq_some_iff.mp h
        exact ⟨mid, hmid, rfl⟩

/-- The running total of a transaction whose row is written is the old one and the delta. -/
lemma SyncRun.finish_total (hread : ReadsFrom run db) (hpt : pt ∈ run.written post db) :
    (run.finish post db).billedTotal pt.steveTransactionId =
      (db.billedTotal pt.steveTransactionId + pt.kwhDelta).map (toFixed 6) := by
  obtain ⟨mid, hmid, hrows⟩ := run.finish_upserts post db
  have hmem := run.written_subset post db hpt
  rcases (Db.upsertAll_spec hmid).2.2 pt.steveTransactionId with
    ⟨-, hnone⟩ | ⟨data, hdata, hid, hval, hsome⟩
  · exact absurd rfl (hnone _ (List.mem_map_of_mem hpt))
  · obtain ⟨pt', hpt', rfl⟩ := List.mem_map.mp hdata
    obtain rfl : pt' = pt :=
      List.inj_on_of_nodup_map hread.ids (run.written_subset post db hpt') hmem hid
    obtain ⟨row, hrow⟩ := Option.isSome_iff_exists.mp hsome
    have hfinal : (run.finish post db).transactionSyncState pt'.steveTransactionId = some row := by
      rw [hrows, hval, hrow]
    rw [Db.billedTotal_of_row hfinal, (NewTransactionSyncState.toRow_eq_some hrow).2.2.1]
    simp only [stateUpdate, hread.states, Db.billedTotal]

/-- A transaction whose row is not written keeps its running total. -/
lemma SyncRun.finish_total_of_not_written {id : ℕ}
    (hid : ∀ pt ∈ run.written post db, pt.steveTransactionId ≠ id) :
    (run.finish post db).billedTotal id = db.billedTotal id := by
  obtain ⟨mid, hmid, hrows⟩ := run.finish_upserts post db
  rcases (Db.upsertAll_spec hmid).2.2 id with ⟨hsame, -⟩ | ⟨data, hdata, hdataId, -⟩
  · simp only [Db.billedTotal, hrows, hsame]
  · obtain ⟨pt, hpt, rfl⟩ := List.mem_map.mp hdata
    exact absurd hdataId (hid pt hpt)

/-! ## Which events are accepted -/

/-- The event of a transaction that counts as sent is accepted. -/
lemma SyncRun.accepts_of_successfullySent (hread : ReadsFrom run db)
    (hpt : pt ∈ run.successfullySent (run.successfulBatches post)) :
    ∃ event, run.LagoAccepts post event ∧ IsEventOf pt event := by
  obtain ⟨i, hi, event, hevent, hof⟩ := exists_event_of_successfullySent hread.eventsMatch hpt
  obtain ⟨hlt, haccepted⟩ := mem_successfulBatchIndices.mp hi
  have hbatch : (batchEvents run.lagoEvents)[i]? = some (batchAt run.lagoEvents i) := by
    have hget := List.getElem?_eq_getElem hlt
    obtain ⟨-, heq⟩ := Chunks.getElem?_chunks.mp hget
    rw [hget, heq]
    rfl
  exact ⟨event, ⟨i, _, hbatch, hevent, haccepted⟩, hof⟩

/-- An accepted event is that of a transaction that counts as sent. -/
lemma SyncRun.LagoAccepts.successfullySent (hread : ReadsFrom run db) {event : LagoEvent}
    (h : run.LagoAccepts post event) :
    ∃ pt ∈ run.successfullySent (run.successfulBatches post), IsEventOf pt event := by
  obtain ⟨i, batch, hbatch, hmem, haccepted⟩ := h
  obtain ⟨hi, rfl⟩ := Chunks.getElem?_chunks.mp hbatch
  obtain ⟨index, hget, hdiv⟩ := (Chunks.mem_chunkAt_iff batchSize_pos).mp hmem
  obtain ⟨hlt, hevent⟩ := List.getElem?_eq_some_iff.mp hget
  have hlt' : index < run.transactionsToSend.length := hread.eventsMatch.length_eq ▸ hlt
  have hof := hread.eventsMatch.get hlt' hlt
  refine ⟨run.transactionsToSend[index], mem_successfullySent.mpr
    ⟨index, List.getElem?_eq_getElem hlt', ?_⟩, ?_⟩
  · rw [hdiv]
    exact mem_successfulBatchIndices.mpr ⟨hi, haccepted⟩
  · rw [← hevent]
    exact hof

/-- The event of a transaction names it. -/
lemma IsEventOf.steveTransactionId (hread : ReadsFrom run db) (hmem : pt ∈ run.processed)
    {event : LagoEvent} (h : IsEventOf pt event) :
    event.transactionId.steveTransactionId = pt.steveTransactionId := by
  rw [h.transactionId, hread.keys pt hmem]

end Read

/-! ## What a processed transaction adds -/

/-- The ways a processed transaction comes out, next to the running total of its row. -/
inductive BillOutcome (total : JsNumber) (pt : ProcessedTransaction) : Prop
  /-- The running total covers the session. -/
  | covered (hreason : pt.skipReason = some .alreadyBilledIncrementally)
      (hkwh : pt.kwhDelta = .fin 0) (hskip : pt.shouldSendToLago = false)
  /-- A value is `NaN`, and the transaction is billed for it all the same. -/
  | nan (hreason : pt.skipReason ≠ some .alreadyBilledIncrementally) (hkwh : pt.kwhDelta = .nan)
      (hmeter : ∀ prior, total = .fin prior → pt.meterValueFrom = .nan ∨ pt.meterValueTo = .nan)
  /-- The rest of the session is billed. -/
  | rest {prior full : ℚ} (hreason : pt.skipReason ≠ some .alreadyBilledIncrementally)
      (hprior : total = .fin prior) (hfull : OnGrid 3 full)
      (hkwh : pt.kwhDelta = .fin (full - prior)) (hgt : alreadyBilledToleranceKwh < full - prior)

lemma subscriptionSkipReason_ne (resolved : Option ResolvedSubscription) :
    subscriptionSkipReason resolved ≠ some .alreadyBilledIncrementally := by
  unfold subscriptionSkipReason
  split_ifs <;> simp

/-- The energy of a delta, when it is a number, is a whole number of Wh. -/
lemma kwhDelta_grid {tx : TransactionWithCompletion} {delta : MeterDelta} {full : ℚ}
    (h : calculateDelta tx = some delta) (hfull : delta.kwhDelta = .fin full) : OnGrid 3 full := by
  unfold calculateDelta at h
  split at h
  · simp at h
  · dsimp only at h
    split at h
    · simp at h
    · obtain rfl := Option.some.inj h
      cases hstart : tx.startMeter with
      | none =>
          rw [hstart] at hfull
          cases hstop : tx.stopMeter <;> rw [hstop] at hfull <;> cases hfull
      | some start =>
          cases hstop : tx.stopMeter with
          | none =>
              rw [hstart, hstop] at hfull
              cases hfull
          | some stop =>
              rw [hstart, hstop] at hfull
              obtain rfl := JsNumber.fin.inj hfull
              exact ⟨stop - start, by push_cast; norm_num⟩

/-- How a transaction comes out when its row fits its column. -/
lemma billOutcome {tx : TransactionWithCompletion} {syncState : Option TransactionSyncState}
    {mapping : UserMapping} {resolved : Option ResolvedSubscription} {pt : ProcessedTransaction}
    (h : billTransaction tx syncState mapping resolved = some pt)
    (hfit : ∀ prior, priorBilledKwh syncState = .fin prior → OnGrid 6 prior) :
    BillOutcome (priorBilledKwh syncState) pt := by
  obtain ⟨fullDelta, hdelta, -, -, -, -, hto, hcase⟩ := billTransaction_spec h
  rcases hcase with ⟨hle, hzero, hskip⟩ | ⟨hgt, hkwh, hfrom, hkey, -⟩
  · refine .covered ?_ hzero hskip
    unfold billTransaction at h
    rw [hdelta] at h
    dsimp only at h
    rw [if_pos hle] at h
    obtain rfl := Option.some.inj h
    rfl
  · have hreason : pt.skipReason ≠ some .alreadyBilledIncrementally := by
      rw [billTransaction_skipReason h (by rw [hkey]; simp)]
      exact subscriptionSkipReason_ne resolved
    cases hprior : priorBilledKwh syncState with
    | nan =>
        refine .nan hreason ?_ fun prior hfin => by cases hfin
        rw [hkwh, remainingKwh, hprior]
        cases fullDelta.kwhDelta <;> rfl
    | fin prior =>
        cases hfull : fullDelta.kwhDelta with
        | nan =>
            have hnan : pt.kwhDelta = .nan := by
              rw [hkwh, remainingKwh, hprior, hfull]
              rfl
            rcases billTransaction_delta h hprior with ⟨kwh, hfin, -⟩ | ⟨-, hmeter⟩
            · rw [hnan] at hfin
              cases hfin
            · exact .nan hreason hnan fun _ _ => hmeter
        | fin full =>
            have hgrid := kwhDelta_grid hdelta hfull
            have hrest : remainingKwh fullDelta syncState = .fin (full - prior) := by
              rw [remainingKwh, hprior, hfull, JsNumber.fin_sub_fin, JsNumber.map_fin,
                roundTo_of_onGrid ((hgrid.mono (by norm_num)).sub (hfit prior hprior))]
            rw [hrest] at hkwh hgt
            exact .rest hreason rfl hgrid hkwh (not_le.mp hgt)

/-- The event of a rest is more than nothing. -/
lemma toFixed_pos_of_rest {kwh : ℚ} (h : alreadyBilledToleranceKwh < kwh) : 0 < toFixed 3 kwh := by
  have htol : toFixed 3 alreadyBilledToleranceKwh = alreadyBilledToleranceKwh :=
    toFixed_of_onGrid ⟨1, by norm_num [alreadyBilledToleranceKwh]⟩
  calc (0 : ℚ) < alreadyBilledToleranceKwh := by norm_num [alreadyBilledToleranceKwh]
    _ = toFixed 3 alreadyBilledToleranceKwh := htol.symm
    _ ≤ toFixed 3 kwh := toFixed_mono h.le

/-! ## The two directions -/

section Ledger

variable {run : SyncRun} {db : Db} {post : ℕ → ℕ → Except String Unit} {pt : ProcessedTransaction}

lemma ReadsFrom.outcome (hread : ReadsFrom run db) (hfit : db.TotalsFit)
    (hpt : pt ∈ run.processed) : BillOutcome (db.billedTotal pt.steveTransactionId) pt := by
  obtain ⟨tx, mapping, resolved, hid, hbill⟩ := hread.bills pt hpt
  rw [hid]
  exact billOutcome hbill fun prior hprior => hfit tx.id prior hprior

/-- Where the rows of a run fit, that of every transaction that was sent is written. -/
lemma SyncRun.written_of_sent (hread : ReadsFrom run db)
    (hpt : pt ∈ run.successfullySent (run.successfulBatches post))
    (hfits : run.RowsFit post db) : pt ∈ run.written post db := by
  have hsend : run.transactionsToSend.isEmpty = false := by
    have hmem := mem_transactionsToSend.mpr (mem_processed_of_successfullySent hpt)
    cases hnil : run.transactionsToSend with
    | nil => simp [hnil] at hmem
    | cons first others => rfl
  have hcommits := (persistSent_isSome_iff hread).mpr hfits
  simp only [written, hsend, hcommits, Bool.false_eq_true, if_false, if_true]
  exact List.mem_append_left _ hpt

/-- A row written for a transaction to be sent is that of one that was sent. -/
lemma SyncRun.sent_of_written (hpt : pt ∈ run.written post db)
    (hsend : pt.shouldSendToLago = true) :
    pt ∈ run.successfullySent (run.successfulBatches post) := by
  have hnot : pt ∉ run.transactionsSkipped := fun hskipped => by
    rw [(mem_transactionsSkipped.mp hskipped).2] at hsend
    cases hsend
  unfold written at hpt
  split at hpt
  · exact absurd (List.takeWhile_subset _ hpt) hnot
  · split at hpt
    · exact (List.mem_append.mp hpt).resolve_right hnot
    · simp at hpt

/-- A transaction that was sent and one that was skipped are two. -/
lemma ReadsFrom.ne_of_skipped (hread : ReadsFrom run db) {sent skipped : ProcessedTransaction}
    (hsent : sent ∈ run.successfullySent (run.successfulBatches post))
    (hskipped : skipped ∈ run.processed) (hskip : skipped.shouldSendToLago = false) :
    sent.steveTransactionId ≠ skipped.steveTransactionId := by
  intro heq
  obtain ⟨hmem, hsend⟩ := SyncRun.mem_processed_of_successfullySent hsent
  obtain rfl : sent = skipped := List.inj_on_of_nodup_map hread.ids hmem hskipped heq
  rw [hsend] at hskip
  cases hskip

/-- A run that records only what it sends moves every total by what was accepted. -/
lemma recordsAccepted_of_sendsWhatItRecords (hread : ReadsFrom run db) (hfit : db.TotalsFit)
    (h : run.SendsWhatItRecords post db) : run.RecordsAccepted post db (run.finish post db) := by
  constructor
  · intro event hevent
    obtain ⟨pt, hsent, hof⟩ := hevent.successfullySent hread
    have hmem := (SyncRun.mem_processed_of_successfullySent hsent).1
    have hfits := h.fits (List.ne_nil_of_mem hsent)
    have hwritten := SyncRun.written_of_sent hread hsent hfits
    have hrow := (hfits.events pt hsent).2
    obtain ⟨prior, hprior, hwhole⟩ := h.whole pt hsent
    have hid := hof.steveTransactionId hread hmem
    rw [hid]
    cases hread.outcome hfit hmem with
    | covered hreason hkwh hskip =>
        rw [(SyncRun.mem_processed_of_successfullySent hsent).2] at hskip
        cases hskip
    | nan hreason hkwh hmeter =>
        -- The event row of such a transaction is refused.
        rcases hmeter prior hprior with hfrom | hto
        · simp [SyncRun.eventRecord, NewSyncedTransactionEvent.toRow, hfrom, pgInteger] at hrow
        · simp [SyncRun.eventRecord, NewSyncedTransactionEvent.toRow, hto, pgInteger] at hrow
    | rest hreason hprior' hfull hkwh hgt =>
        next prior' full =>
        obtain rfl : prior = prior' := JsNumber.fin.inj (hprior.symm.trans hprior')
        have hgrid : OnGrid 3 (full - prior) := hfull.sub hwhole
        refine ⟨prior, full - prior, ?_, hprior, ?_⟩
        · rw [hof.value, hkwh, JsNumber.map_fin, toFixed_of_onGrid hgrid]
        · rw [SyncRun.finish_total hread hwritten, hprior, hkwh, JsNumber.fin_add_fin,
            JsNumber.map_fin, toFixed_of_onGrid ((hwhole.add hgrid).mono (by norm_num))]
  · intro id hnone
    by_cases hwritten : ∃ pt ∈ run.written post db, pt.steveTransactionId = id
    · obtain ⟨pt, hpt, rfl⟩ := hwritten
      have hmem := run.written_subset post db hpt
      have hskip : pt.shouldSendToLago = false := by
        by_contra hsend
        obtain ⟨event, haccepts, hof⟩ := SyncRun.accepts_of_successfullySent hread
          (SyncRun.sent_of_written hpt (by simpa using hsend))
        exact hnone event haccepts (hof.steveTransactionId hread hmem)
      have hskipped := SyncRun.mem_transactionsSkipped.mpr ⟨hmem, hskip⟩
      have htakes := (SyncRun.mem_written_of_skipped hread hskipped).mp hpt
      rw [SyncRun.finish_total hread hpt]
      rcases h.covered pt hskipped htakes with hcovered | hnan
      · cases hread.outcome hfit hmem with
        | covered hreason hkwh hskip =>
            cases htotal : db.billedTotal pt.steveTransactionId with
            | nan => rw [hkwh]; rfl
            | fin total =>
                rw [hkwh, JsNumber.fin_add_fin, JsNumber.map_fin, add_zero,
                  toFixed_of_onGrid (hfit _ total htotal)]
        | nan hreason hkwh hmeter => exact absurd hcovered hreason
        | rest hreason hprior hfull hkwh hgt => exact absurd hcovered hreason
      · rw [hnan]
        rfl
    · exact SyncRun.finish_total_of_not_written fun pt hpt heq => hwritten ⟨pt, hpt, heq⟩

/-- What an accepted event says about the transaction it was sent for: it has a rest to bill, and
its total grows by what the event carries. -/
lemma SyncRun.RecordsAccepted.grows (hread : ReadsFrom run db) (hfit : db.TotalsFit)
    (h : run.RecordsAccepted post db (run.finish post db))
    (hpt : pt ∈ run.successfullySent (run.successfulBatches post)) :
    ∃ prior full : ℚ, db.billedTotal pt.steveTransactionId = .fin prior ∧ OnGrid 3 full ∧
      pt.kwhDelta = .fin (full - prior) ∧ 0 < toFixed 3 (full - prior) ∧
      (run.finish post db).billedTotal pt.steveTransactionId =
        .fin (prior + toFixed 3 (full - prior)) := by
  obtain ⟨hmem, hsend⟩ := mem_processed_of_successfullySent hpt
  obtain ⟨event, haccepts, hof⟩ := accepts_of_successfullySent hread hpt
  obtain ⟨before, kwh, hvalue, hbefore, hafter⟩ := h.accepted event haccepts
  rw [hof.steveTransactionId hread hmem] at hbefore hafter
  rw [hof.value] at hvalue
  cases hread.outcome hfit hmem with
  | covered hreason hkwh hskip =>
      rw [hsend] at hskip
      cases hskip
  | nan hreason hkwh hmeter =>
      rw [hkwh] at hvalue
      cases hvalue
  | rest hreason hprior hfull hkwh hgt =>
      next prior full =>
      obtain rfl : before = prior := JsNumber.fin.inj (hbefore.symm.trans hprior)
      rw [hkwh, JsNumber.map_fin] at hvalue
      obtain rfl : toFixed 3 (full - before) = kwh := JsNumber.fin.inj hvalue
      exact ⟨before, full, hbefore, hfull, hkwh, toFixed_pos_of_rest hgt, hafter⟩

/-- A run that moves every total by what was accepted records only what it sends. -/
lemma sendsWhatItRecords_of_recordsAccepted (hread : ReadsFrom run db) (hfit : db.TotalsFit)
    (h : run.RecordsAccepted post db (run.finish post db)) : run.SendsWhatItRecords post db := by
  have hfits : run.successfullySent (run.successfulBatches post) ≠ [] →
      run.RowsFit post db := by
    intro hne
    rw [← SyncRun.persistSent_isSome_iff hread]
    obtain ⟨pt, hpt⟩ := List.exists_mem_of_ne_nil _ hne
    obtain ⟨prior, full, hprior, -, -, hpos, hafter⟩ := h.grows hread hfit hpt
    by_contra hrefused
    have hsame : (run.finish post db).billedTotal pt.steveTransactionId = .fin prior := by
      rw [← hprior]
      apply SyncRun.finish_total_of_not_written
      intro pt' hpt'
      have hsend : run.transactionsToSend ≠ [] := List.ne_nil_of_mem
        (SyncRun.mem_transactionsToSend.mpr (SyncRun.mem_processed_of_successfullySent hpt))
      simp [SyncRun.written, hsend, hrefused] at hpt'
    have heq := JsNumber.fin.inj (hsame.symm.trans hafter)
    linarith
  refine ⟨hfits, ?_, ?_⟩
  · intro pt hpt
    obtain ⟨prior, full, hprior, hfull, hkwh, -, hafter⟩ := h.grows hread hfit hpt
    have hwritten := SyncRun.written_of_sent hread hpt (hfits (List.ne_nil_of_mem hpt))
    have hsum : OnGrid 6 (prior + (full - prior)) := by
      rw [add_sub_cancel]
      exact hfull.mono (by norm_num)
    rw [SyncRun.finish_total hread hwritten, hprior, hkwh, JsNumber.fin_add_fin, JsNumber.map_fin,
      toFixed_of_onGrid hsum] at hafter
    have heq : full - prior = toFixed 3 (full - prior) := by
      have := JsNumber.fin.inj hafter
      linarith
    have hrest : OnGrid 3 (full - prior) := by
      rw [heq]
      exact onGrid_toFixed 3 _
    refine ⟨prior, hprior, ?_⟩
    have hdiff := hfull.sub hrest
    rwa [sub_sub_cancel] at hdiff
  · intro pt hskipped htakes
    obtain ⟨hmem, hskip⟩ := SyncRun.mem_transactionsSkipped.mp hskipped
    have hpt := (SyncRun.mem_written_of_skipped hread hskipped).mpr htakes
    have hsame := h.untouched pt.steveTransactionId fun event haccepts heq => by
      obtain ⟨sent, hsent, hof⟩ := haccepts.successfullySent hread
      have hsentMem := (SyncRun.mem_processed_of_successfullySent hsent).1
      rw [hof.steveTransactionId hread hsentMem] at heq
      exact hread.ne_of_skipped hsent hmem hskip heq
    rw [SyncRun.finish_total hread hpt] at hsame
    cases hread.outcome hfit hmem with
    | covered hreason hkwh _ => exact Or.inl hreason
    | nan hreason hkwh hmeter =>
        right
        rw [← hsame, hkwh]
        cases db.billedTotal pt.steveTransactionId <;> rfl
    | rest hreason hprior hfull hkwh hgt =>
        next prior full =>
        have hsum : OnGrid 6 (prior + (full - prior)) := by
          rw [add_sub_cancel]
          exact hfull.mono (by norm_num)
        rw [hprior, hkwh, JsNumber.fin_add_fin, JsNumber.map_fin, toFixed_of_onGrid hsum] at hsame
        have heq := JsNumber.fin.inj hsame
        have htol : (0 : ℚ) < alreadyBilledToleranceKwh := by norm_num [alreadyBilledToleranceKwh]
        linarith

end Ledger

/-- Whatever a run finds and whatever Lago answers, the running totals move by exactly what Lago
accepted if and only if the run records only what it sends. -/
theorem recordsAccepted_iff (inputs : SyncInputs) (db : Db) (hfit : db.TotalsFit) (runId now : ℕ)
    (post : ℕ → ℕ → Except String Unit) :
    ∃ run, readSync inputs db runId now = .ok run ∧
      (run.RecordsAccepted post db (run.finish post db) ↔ run.SendsWhatItRecords post db) := by
  obtain ⟨run, hrun⟩ := readSync_isOk inputs db runId now
  have hread := readsFrom_of_readSync hrun
  exact ⟨run, hrun, sendsWhatItRecords_of_recordsAccepted hread hfit,
    recordsAccepted_of_sendsWhatItRecords hread hfit⟩

lemma Db.empty_totalsFit (userMappings : List UserMapping) : (Db.empty userMappings).TotalsFit := by
  intro id total h
  obtain rfl : (0 : ℚ) = total := JsNumber.fin.inj h
  exact OnGrid.zero 6

namespace Scenario

/-- A run that finds one finished session of a customer without an active subscription. -/
def unsubscribedInputs : SyncInputs :=
  ⟨[transaction 7 "0" (some "1500")], [], fun _ => .ok [], true⟩

/-- Lago accepts every attempt. -/
def lagoUp : ℕ → ℕ → Except String Unit := fun _ _ => .ok ()

end Scenario

open Scenario in
theorem recordsAccepted_of_unsubscribed :
    ∃ run, readSync unsubscribedInputs (Db.empty [customerMapping]) 1 0 = .ok run ∧
      (run.RecordsAccepted lagoUp (Db.empty [customerMapping])
          (run.finish lagoUp (Db.empty [customerMapping])) ↔
        run.SendsWhatItRecords lagoUp (Db.empty [customerMapping])) :=
  recordsAccepted_iff _ _ (Db.empty_totalsFit _) _ _ _

open Scenario in
/-- The 1.5 kWh of a session without a subscription are recorded as billed although no event was
sent for it. -/
theorem not_recordsAccepted_of_unsubscribed :
    ¬∀ (inputs : SyncInputs) (db : Db) (runId now : ℕ) (post : ℕ → ℕ → Except String Unit)
      (run : SyncRun), db.TotalsFit → readSync inputs db runId now = .ok run →
        run.RecordsAccepted post db (run.finish post db) := by
  intro h
  obtain ⟨run, hrun⟩ := readSync_isOk unsubscribedInputs (Db.empty [customerMapping]) 1 0
  have hrecords := h _ _ 1 0 lagoUp run (Db.empty_totalsFit [customerMapping]) hrun
  have hcomputed : (readSync unsubscribedInputs (Db.empty [customerMapping]) 1 0).toOption.any
      (fun run => run.lagoEvents.isEmpty && decide ((run.finish lagoUp
        (Db.empty [customerMapping])).billedTotal 7 = .fin (3 / 2))) = true := by
    decide +kernel
  rw [hrun] at hcomputed
  simp only [Except.toOption, Option.any_some, Bool.and_eq_true, List.isEmpty_iff,
    decide_eq_true_eq] at hcomputed
  obtain ⟨hevents, htotal⟩ := hcomputed
  have hsame := hrecords.untouched 7 fun event haccepts => by
    obtain ⟨i, batch, hbatch, hmem, -⟩ := haccepts
    have hflat : event ∈ (batchEvents run.lagoEvents).flatten :=
      List.mem_flatten.mpr ⟨batch, List.mem_of_getElem? hbatch, hmem⟩
    simp [hevents, batchEvents, batchAt] at hflat
  rw [htotal] at hsame
  have hzero := JsNumber.fin.inj hsame
  norm_num at hzero

end ExpresSync
