import ExpresSync.Properties.SyncWedge

/-!
# Which batch carried which transaction

A run cuts its events into batches, sends each of them up to four times, and afterwards decides
from the *index* of a transaction whether its event was accepted.  `batchBookkeeping_exact` shows
that this is right for every list of transactions and every outcome of every attempt.
-/

namespace ExpresSync

/-- Lago accepted one of the attempts that are made of a batch. -/
def Accepted (post : ℕ → Except String Unit) : Prop :=
  ∃ attempt ≤ retryDelaysMs.length, post attempt = .ok ()

/-- The books of a run are right for the outcomes `post`. -/
structure BatchBookkeeping (run : SyncRun) (post : ℕ → ℕ → Except String Unit) : Prop where
  /-- The batches hold the events, in order. -/
  flatten : (batchEvents run.lagoEvents).flatten = run.lagoEvents
  /-- No event is in two batches. -/
  oneBatch : ∀ event ∈ run.lagoEvents,
    ∃! i : ℕ, ∃ batch, (batchEvents run.lagoEvents)[i]? = some batch ∧ event ∈ batch
  /-- Only transactions to send count as sent. -/
  sent_subset :
    run.successfullySent (sendBatches post (batchEvents run.lagoEvents)).successfulBatchIndices ⊆
      run.transactionsToSend
  /-- A transaction counts as sent exactly when the batch with its own event was accepted, and
  what is then written depends on that alone. -/
  sent : ∀ pt ∈ run.transactionsToSend,
    ∃ event ∈ run.lagoEvents, IsEventOf pt event ∧
      ∀ (i : ℕ) (batch : List LagoEvent),
        (batchEvents run.lagoEvents)[i]? = some batch → event ∈ batch →
          let successful := (sendBatches post (batchEvents run.lagoEvents)).successfulBatchIndices
          (pt ∈ run.successfullySent successful ↔ Accepted (post i)) ∧
            ∀ db db', run.persistSent successful db = some db' →
              (Accepted (post i) →
                db'.transactionSyncState pt.steveTransactionId = (run.stateUpdate pt).toRow ∧
                  db'.syncedTransactionEvents.Has pt.lagoEventTransactionId) ∧
              (¬Accepted (post i) →
                db'.transactionSyncState pt.steveTransactionId =
                    db.transactionSyncState pt.steveTransactionId ∧
                  (db'.syncedTransactionEvents.Has pt.lagoEventTransactionId →
                    db.syncedTransactionEvents.Has pt.lagoEventTransactionId))

/-! ## The attempts -/

lemma sendBatchFrom_ok {post : ℕ → Except String Unit} {attempt : ℕ} {delays : List ℕ} :
    sendBatchFrom post attempt delays = .ok () ↔
      ∃ k ≤ delays.length, post (attempt + k) = .ok () := by
  induction delays generalizing attempt with
  | nil => simp [sendBatchFrom]
  | cons delay delays ih =>
      cases hpost : post attempt with
      | ok u =>
          rw [sendBatchFrom, hpost]
          exact iff_of_true rfl ⟨0, Nat.zero_le _, hpost⟩
      | error message =>
          rw [sendBatchFrom, hpost]
          simp only
          rw [ih]
          constructor
          · rintro ⟨k, hk, hok⟩
            exact ⟨k + 1, by simpa using hk, by rw [← hok]; congr 1; omega⟩
          · rintro ⟨k, hk, hok⟩
            cases k with
            | zero => simp [hpost] at hok
            | succ k => exact ⟨k, by simpa using hk, by rw [← hok]; congr 1; omega⟩

lemma sendBatch_ok {post : ℕ → Except String Unit} : sendBatch post = .ok () ↔ Accepted post := by
  rw [sendBatch, sendBatchFrom_ok]
  simp [Accepted]

/-- A round of the loop enters the batch as successful, or reports it under its number. -/
lemma SentBatches.mem_send {sent : SentBatches} {post : ℕ → Except String Unit} {i j : ℕ} :
    j ∈ (sent.send post i).successfulBatchIndices ↔
      j ∈ sent.successfulBatchIndices ∨ j = i ∧ Accepted post := by
  rw [← sendBatch_ok, send]
  cases sendBatch post with
  | ok u => simp
  | error message => simp

/-- The loop has entered exactly the accepted batches. -/
lemma mem_successfulBatchIndices {ε : Type*} {post : ℕ → ℕ → Except String Unit}
    {eventBatches : List (List ε)} {i : ℕ} :
    i ∈ (sendBatches post eventBatches).successfulBatchIndices ↔
      i < eventBatches.length ∧ Accepted (post i) := by
  have hloop : ∀ n, i ∈ ((List.range n).foldl (fun sent i => sent.send (post i) i)
      (⟨[], []⟩ : SentBatches)).successfulBatchIndices ↔ i < n ∧ Accepted (post i) := by
    intro n
    induction n with
    | zero => simp
    | succ n ih =>
        rw [List.range_succ, List.foldl_append, List.foldl_cons, List.foldl_nil,
          SentBatches.mem_send, ih]
        constructor
        · rintro (⟨hlt, hacc⟩ | ⟨rfl, hacc⟩)
          · exact ⟨Nat.lt_succ_of_lt hlt, hacc⟩
          · exact ⟨Nat.lt_succ_self i, hacc⟩
        · rintro ⟨hlt, hacc⟩
          rcases Nat.lt_succ_iff_lt_or_eq.mp hlt with hlt | rfl
          · exact Or.inl ⟨hlt, hacc⟩
          · exact Or.inr ⟨rfl, hacc⟩
  exact hloop eventBatches.length

/-! ## Positions -/

namespace SyncRun

variable {run : SyncRun} {pt : ProcessedTransaction}

/-- The events of a run are pairwise different. -/
lemma lagoEvents_nodup (hmatch : run.EventsMatch)
    (hnodup : (run.transactionsToSend.map (·.lagoEventTransactionId)).Nodup) :
    run.lagoEvents.Nodup := by
  apply List.Nodup.of_map LagoEvent.transactionId
  rw [map_eq_of_forall₂ hmatch fun _ _ hevent => hevent.transactionId]
  exact hnodup

/-- The event with the index of a transaction is its own. -/
lemma exists_event_at (hmatch : run.EventsMatch) {index : ℕ}
    (hget : run.transactionsToSend[index]? = some pt) :
    ∃ event, run.lagoEvents[index]? = some event ∧ IsEventOf pt event := by
  obtain ⟨hlt, rfl⟩ := List.getElem?_eq_some_iff.mp hget
  have hlt' : index < run.lagoEvents.length := hmatch.length_eq ▸ hlt
  exact ⟨_, List.getElem?_eq_getElem hlt', hmatch.get hlt hlt'⟩

/-- A write of the run leaves the row and the event key of every transaction alone that it neither
sent nor skipped. -/
lemma persistSent_frame {db db' : Db} {successful : List ℕ}
    (h : run.persistSent successful db = some db')
    (hstates : ∀ pt' ∈ run.successfullySent successful ++ run.transactionsSkipped,
      pt'.steveTransactionId ≠ pt.steveTransactionId)
    (hevents : ∀ pt' ∈ run.successfullySent successful,
      pt'.lagoEventTransactionId ≠ pt.lagoEventTransactionId) :
    db'.transactionSyncState pt.steveTransactionId =
        db.transactionSyncState pt.steveTransactionId ∧
      (db'.syncedTransactionEvents.Has pt.lagoEventTransactionId →
        db.syncedTransactionEvents.Has pt.lagoEventTransactionId) := by
  obtain ⟨mid, hmid, h⟩ := Option.bind_eq_some_iff.mp h
  obtain ⟨rows, hrows, h⟩ := Option.bind_eq_some_iff.mp h
  obtain ⟨log, hlog, rfl⟩ := Option.map_eq_some_iff.mp h
  obtain ⟨hlogs, -, hstate⟩ := Db.upsertAll_spec hmid
  constructor
  · rcases hstate pt.steveTransactionId with ⟨hsame, -⟩ | ⟨data, hdata, hid, -, -⟩
    · exact hsame
    · obtain ⟨pt', hpt', rfl⟩ := List.mem_map.mp hdata
      exact absurd hid (hstates pt' hpt')
  · intro hhas
    rcases (KeyedLog.has_of_insertAll? hlog).mp hhas with hold | ⟨row, hrow, hkey⟩
    · rwa [hlogs] at hold
    · obtain ⟨data, hdata, hdataRow⟩ :=
        exists_of_forall₂_mem_right (forall₂_of_mapM_option hrows) hrow
      obtain ⟨pt', hpt', rfl⟩ := List.mem_map.mp hdata
      have hkey' := NewSyncedTransactionEvent.toRow_key hdataRow
      exact absurd (hkey'.symm.trans hkey.symm) (hevents pt' hpt')

end SyncRun

/-- Every run can be read: the events of what is to be sent can be built. -/
lemma readSync_isOk (inputs : SyncInputs) (db : Db) (runId now : ℕ) :
    ∃ run, readSync inputs db runId now = .ok run := by
  have hall : ∀ pts : List ProcessedTransaction,
      (∀ pt ∈ pts, ∃ event, buildLagoEvent inputs.safeEnrichment now pt = .ok event) →
        ∃ events, buildLagoEvents inputs.safeEnrichment now pts = .ok events := by
    intro pts
    induction pts with
    | nil => exact fun _ => ⟨[], rfl⟩
    | cons pt pts ih =>
        intro hbuild
        obtain ⟨event, hevent⟩ := hbuild pt List.mem_cons_self
        obtain ⟨events, hevents⟩ := ih fun pt' h => hbuild pt' (List.mem_cons_of_mem _ h)
        refine ⟨event :: events, ?_⟩
        rw [buildLagoEvents] at hevents ⊢
        rw [List.mapM_cons, hevent, hevents]
        rfl
  obtain ⟨events, hevents⟩ :=
    hall ((inputs.process db).filter (·.shouldSendToLago)) fun pt hpt => by
    obtain ⟨hmem, hsend⟩ := List.mem_filter.mp hpt
    obtain ⟨tx, -, m, cache, -, -, -, hbill⟩ := SyncInputs.mem_process hmem
    exact buildLagoEvent_ok hbill hsend _ _
  exact ⟨_, by rw [readSync, hevents]; rfl⟩

/-- The bookkeeping is right for every run whose events are those of its transactions, and whose
transactions carry pairwise different identifiers. -/
lemma batchBookkeeping_of_eventsMatch {run : SyncRun} (hmatch : run.EventsMatch)
    (hids : (run.processed.map (·.steveTransactionId)).Nodup)
    (hkeys : ∀ pt ∈ run.processed,
      pt.lagoEventTransactionId.steveTransactionId = pt.steveTransactionId)
    (post : ℕ → ℕ → Except String Unit) : BatchBookkeeping run post := by
  have hsub : run.transactionsToSend.Sublist run.processed := List.filter_sublist
  have hsendIds : (run.transactionsToSend.map (·.steveTransactionId)).Nodup :=
    hids.sublist (hsub.map _)
  have hsendKeys : (run.transactionsToSend.map (·.lagoEventTransactionId)).Nodup := by
    apply List.Nodup.of_map LagoEventTransactionId.steveTransactionId
    rw [List.map_map]
    convert hsendIds using 1
    exact List.map_congr_left fun pt hpt => hkeys pt (hsub.subset hpt)
  have hevents : run.lagoEvents.Nodup := SyncRun.lagoEvents_nodup hmatch hsendKeys
  refine ⟨Chunks.flatten_chunks batchSize_pos _,
    fun event hevent => Chunks.existsUnique_chunk batchSize_pos hevents hevent, ?_, ?_⟩
  · intro pt hpt
    exact SyncRun.mem_transactionsToSend.mpr (SyncRun.mem_processed_of_successfullySent hpt)
  · intro pt hpt
    obtain ⟨index, hget⟩ := List.mem_iff_getElem?.mp hpt
    obtain ⟨hlt, -⟩ := List.getElem?_eq_some_iff.mp hget
    obtain ⟨event, hevent, hof⟩ := SyncRun.exists_event_at hmatch hget
    obtain ⟨hltEvent, -⟩ := List.getElem?_eq_some_iff.mp hevent
    refine ⟨event, List.mem_of_getElem? hevent, hof, ?_⟩
    intro i batch hbatch hmem
    obtain ⟨hi, rfl⟩ := Chunks.getElem?_chunks.mp hbatch
    obtain ⟨index', hget', hdiv⟩ := (Chunks.mem_chunkAt_iff batchSize_pos).mp hmem
    obtain rfl : index = index' :=
      (List.getElem?_inj hltEvent hevents).mp (hevent.trans hget'.symm)
    have hsent : pt ∈ run.successfullySent
        (sendBatches post (batchEvents run.lagoEvents)).successfulBatchIndices ↔
          Accepted (post i) := by
      rw [SyncRun.mem_successfullySent]
      constructor
      · rintro ⟨index', hget', hbatch'⟩
        obtain rfl : index = index' :=
          (List.getElem?_inj hlt hsendIds.of_map).mp (hget.trans hget'.symm)
        rw [← hdiv]
        exact (mem_successfulBatchIndices.mp hbatch').2
      · intro haccepted
        refine ⟨index, hget, ?_⟩
        rw [hdiv]
        exact mem_successfulBatchIndices.mpr ⟨hi, haccepted⟩
    refine ⟨hsent, fun db db' hpersist => ⟨fun haccepted => ?_, fun hnot => ?_⟩⟩
    · exact SyncRun.persistSent_spec hids hpersist (hsent.mpr haccepted)
    · have hother : ∀ pt' ∈ run.processed, pt' ≠ pt →
          pt'.steveTransactionId ≠ pt.steveTransactionId := fun pt' hpt' hne heq =>
        hne (List.inj_on_of_nodup_map hids hpt' (hsub.subset hpt) heq)
      have hnotSent : ∀ pt' ∈ run.successfullySent
          (sendBatches post (batchEvents run.lagoEvents)).successfulBatchIndices,
          pt' ∈ run.processed ∧ pt' ≠ pt := fun pt' hpt' =>
        ⟨(SyncRun.mem_processed_of_successfullySent hpt').1,
          fun heq => hnot (hsent.mp (heq ▸ hpt'))⟩
      refine SyncRun.persistSent_frame hpersist ?_ ?_
      · intro pt' hpt'
        rcases List.mem_append.mp hpt' with hpt' | hskipped
        · exact hother pt' (hnotSent pt' hpt').1 (hnotSent pt' hpt').2
        · obtain ⟨hprocessed, hskip⟩ := SyncRun.mem_transactionsSkipped.mp hskipped
          refine hother pt' hprocessed ?_
          rintro rfl
          simp [(SyncRun.mem_transactionsToSend.mp hpt).2] at hskip
      · intro pt' hpt' heq
        obtain ⟨hprocessed, hne⟩ := hnotSent pt' hpt'
        apply hother pt' hprocessed hne
        rw [← hkeys pt' hprocessed, heq, hkeys pt (hsub.subset hpt)]

/-- The batch bookkeeping of every run is exact, whatever Lago answers to each attempt. -/
theorem batchBookkeeping_exact (inputs : SyncInputs) (db : Db) (runId now : ℕ)
    (post : ℕ → ℕ → Except String Unit) :
    ∃ run, readSync inputs db runId now = .ok run ∧ BatchBookkeeping run post := by
  obtain ⟨run, hread⟩ := readSync_isOk inputs db runId now
  have hprocessed := (readSync_eq_ok hread).2.2.1
  refine ⟨run, hread, batchBookkeeping_of_eventsMatch (World.readSync_eventsMatch hread) ?_ ?_ post⟩
  · rw [hprocessed]
    exact inputs.process_ids_nodup db
  · intro pt hpt
    rw [hprocessed] at hpt
    obtain ⟨tx, -, m, cache, hid, -, -, hbill⟩ := SyncInputs.mem_process hpt
    rw [hid]
    exact billTransaction_key hbill

end ExpresSync
