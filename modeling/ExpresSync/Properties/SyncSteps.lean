import ExpresSync.Model.WorldSteps
import Mathlib.Data.List.Forall2

/-!
# What a sync run writes

The counterpart of the object steps for the other writer.  `World.step_row` lists everything that
can happen to the row of one transaction: the commit of a flush, or an upsert of a sync run, which
is then traced back to the processed transaction and, when that was sent, to its accepted event.
-/

namespace ExpresSync

/-! ## The lists of a run -/

lemma forall₂_of_mapM_option {α β : Type*} {f : α → Option β} {xs : List α} {ys : List β}
    (h : xs.mapM f = some ys) : List.Forall₂ (fun x y => f x = some y) xs ys := by
  induction xs generalizing ys with
  | nil =>
      obtain rfl : [] = ys := by simpa using h
      exact .nil
  | cons x xs ih =>
      rw [List.mapM_cons] at h
      obtain ⟨y, hy, h⟩ := Option.bind_eq_some_iff.mp h
      obtain ⟨ys', hys', h⟩ := Option.bind_eq_some_iff.mp h
      obtain rfl := Option.some.inj h
      exact .cons hy (ih hys')

lemma forall₂_of_mapM_except {ε α β : Type*} {f : α → Except ε β} {xs : List α} {ys : List β}
    (h : xs.mapM f = .ok ys) : List.Forall₂ (fun x y => f x = .ok y) xs ys := by
  induction xs generalizing ys with
  | nil =>
      obtain rfl : [] = ys := by
        rw [List.mapM_nil] at h
        exact Except.ok.inj h
      exact .nil
  | cons x xs ih =>
      rw [List.mapM_cons] at h
      cases hx : f x with
      | error e => rw [hx] at h; cases h
      | ok y =>
          cases hxs : xs.mapM f with
          | error e => rw [hx, hxs] at h; cases h
          | ok ys' =>
              rw [hx, hxs] at h
              obtain rfl := Except.ok.inj h
              exact .cons hx (ih hxs)

lemma exists_of_forall₂_mem {α β : Type*} {R : α → β → Prop} {xs : List α} {ys : List β}
    (h : List.Forall₂ R xs ys) {x : α} (hx : x ∈ xs) : ∃ y ∈ ys, R x y := by
  induction h with
  | nil => simp at hx
  | cons hxy _ ih =>
      rcases List.mem_cons.mp hx with rfl | hx
      · exact ⟨_, List.mem_cons_self, hxy⟩
      · obtain ⟨y, hy, hR⟩ := ih hx
        exact ⟨y, List.mem_cons_of_mem _ hy, hR⟩

lemma exists_of_forall₂_mem_right {α β : Type*} {R : α → β → Prop} {xs : List α} {ys : List β}
    (h : List.Forall₂ R xs ys) {y : β} (hy : y ∈ ys) : ∃ x ∈ xs, R x y := by
  obtain ⟨x, hx, hR⟩ := exists_of_forall₂_mem h.flip hy
  exact ⟨x, hx, hR⟩

lemma map_eq_of_forall₂ {α β γ : Type*} {R : α → β → Prop} {f : α → γ} {g : β → γ} {xs : List α}
    {ys : List β} (h : List.Forall₂ R xs ys) (hfg : ∀ x y, R x y → g y = f x) :
    ys.map g = xs.map f := by
  induction h with
  | nil => rfl
  | cons hxy _ ih => rw [List.map_cons, List.map_cons, hfg _ _ hxy, ih]

/-- An element and the batch its index falls into. -/
lemma mem_batchAt {ε : Type*} {events : List ε} {index : ℕ} {event : ε}
    (h : events[index]? = some event) : event ∈ batchAt events (index / batchSize) :=
  (Chunks.mem_chunkAt_iff batchSize_pos).mpr ⟨index, h, rfl⟩

lemma mem_of_mem_batchAt {ε : Type*} {events : List ε} {batch : ℕ} {event : ε}
    (h : event ∈ batchAt events batch) : event ∈ events :=
  List.mem_of_mem_drop (List.mem_of_mem_take h)

namespace SyncRun

variable {run : SyncRun} {pt : ProcessedTransaction}

lemma mem_transactionsToSend : pt ∈ run.transactionsToSend ↔
    pt ∈ run.processed ∧ pt.shouldSendToLago = true := by
  simp [transactionsToSend]

lemma mem_transactionsSkipped : pt ∈ run.transactionsSkipped ↔
    pt ∈ run.processed ∧ pt.shouldSendToLago = false := by
  simp [transactionsSkipped]

/-- A transaction counts as sent when the batch of its index was successful. -/
lemma mem_successfullySent {successful : List ℕ} :
    pt ∈ run.successfullySent successful ↔
      ∃ index, run.transactionsToSend[index]? = some pt ∧ index / batchSize ∈ successful := by
  simp only [successfullySent, List.mem_map, List.mem_filter, Prod.exists, List.contains_eq_mem,
    decide_eq_true_eq]
  constructor
  · rintro ⟨pt', index, ⟨hmem, hbatch⟩, rfl⟩
    exact ⟨index, List.mk_mem_zipIdx_iff_getElem?.mp hmem, hbatch⟩
  · rintro ⟨index, hget, hbatch⟩
    exact ⟨pt, index, ⟨List.mk_mem_zipIdx_iff_getElem?.mpr hget, hbatch⟩, rfl⟩

lemma mem_processed_of_successfullySent {successful : List ℕ}
    (h : pt ∈ run.successfullySent successful) :
    pt ∈ run.processed ∧ pt.shouldSendToLago = true := by
  obtain ⟨index, hget, -⟩ := mem_successfullySent.mp h
  exact mem_transactionsToSend.mp (List.mem_of_getElem? hget)

/-- The events of a run are those of its transactions to send, in order. -/
def EventsMatch (run : SyncRun) : Prop :=
  List.Forall₂ IsEventOf run.transactionsToSend run.lagoEvents

/-- The event of a transaction that counts as sent belongs to a successful batch. -/
lemma exists_event_of_successfullySent (hmatch : run.EventsMatch) {successful : List ℕ}
    (h : pt ∈ run.successfullySent successful) :
    ∃ batch ∈ successful, ∃ event ∈ batchAt run.lagoEvents batch, IsEventOf pt event := by
  obtain ⟨index, hget, hbatch⟩ := mem_successfullySent.mp h
  obtain ⟨hlt, hpt⟩ := List.getElem?_eq_some_iff.mp hget
  have hlen := hmatch.length_eq
  obtain ⟨event, hev⟩ : ∃ event, run.lagoEvents[index]? = some event :=
    ⟨_, List.getElem?_eq_getElem (hlen ▸ hlt)⟩
  refine ⟨index / batchSize, hbatch, event, mem_batchAt hev, ?_⟩
  obtain ⟨_, hevent⟩ := List.getElem?_eq_some_iff.mp hev
  have := hmatch.get hlt (hlen ▸ hlt)
  simpa [hpt, hevent] using this

/-- What the writes of a run that had something to send do to the row of a transaction. -/
lemma persistSent_row {successful : List ℕ} {db db' : Db}
    (h : run.persistSent successful db = some db') (id : ℕ) :
    db'.transactionSyncState id = db.transactionSyncState id ∨
      ∃ pt row, pt.steveTransactionId = id ∧ (run.stateUpdate pt).toRow = some row ∧
        db'.transactionSyncState id = some row ∧
        ((pt ∈ run.successfullySent successful ∧ (run.eventRecord pt).toRow.isSome) ∨
          pt ∈ run.transactionsSkipped) := by
  obtain ⟨mid, hmid, h⟩ := Option.bind_eq_some_iff.mp h
  obtain ⟨rows, hrows, h⟩ := Option.bind_eq_some_iff.mp h
  obtain ⟨log, hlog, rfl⟩ := Option.map_eq_some_iff.mp h
  obtain ⟨-, -, hstates⟩ := Db.upsertAll_spec hmid
  rcases hstates id with ⟨hsame, -⟩ | ⟨data, hdata, hid, hval, hsome⟩
  · exact Or.inl hsame
  · obtain ⟨pt, hpt, rfl⟩ := List.mem_map.mp hdata
    obtain ⟨row, hrow⟩ := Option.isSome_iff_exists.mp hsome
    refine Or.inr ⟨pt, row, hid, hrow, by rw [← hrow]; exact hval, ?_⟩
    rcases List.mem_append.mp hpt with hsent | hskipped
    · obtain ⟨erow, -, herow⟩ := exists_of_forall₂_mem (forall₂_of_mapM_option hrows)
        (List.mem_map_of_mem hsent)
      exact Or.inl ⟨hsent, by rw [herow]; rfl⟩
    · exact Or.inr hskipped

end SyncRun

/-! ## Runs in the world -/

namespace World

variable {w w' : World} {a : Action}

/-- A property of runs that every new run has, and that depends on the run alone, holds of the run
in progress. -/
lemma forall_run_step {P : SyncRun → Prop} (hP : ∀ phase ∈ w.sync, P phase.run)
    (hread : ∀ inputs runId run, a = .syncReads inputs runId → w.sync = none →
      readSync inputs w.db runId w.clock = .ok run → P run)
    (hstep : step w a = some w') : ∀ phase ∈ w'.sync, P phase.run := by
  intro phase hphase
  cases step_shared hstep with
  | quiet hrows hevents hlago hsync =>
      rw [hsync] at hphase
      exact hP phase hphase
  | lagoReceived hobj hflush hpoint => exact hP phase hphase
  | committed hobj hflush hpoint hdb => exact hP phase hphase
  | syncRead hnone hrun hnew =>
      obtain rfl := Option.some.inj hphase
      rcases hnew with rfl | ⟨rfl, -⟩ <;> exact hread _ _ _ rfl hnone hrun
  | syncReceived hsync => exact hP phase hphase
  | syncPersisted hsync haccepted hdb => simp at hphase
  | syncSaved hsync hdb =>
      obtain rfl := Option.some.inj hphase
      have hrun := hP _ hsync
      exact hrun
  | syncEnded => simp at hphase

/-- The bookkeeping of the run in progress: its events are those of its transactions, and what it
still has to save are skipped transactions. -/
def RunInOrder (w : World) : Prop :=
  ∀ phase ∈ w.sync, phase.run.EventsMatch ∧
    ∀ run remaining, phase = .saving run remaining → remaining ⊆ run.transactionsSkipped

lemma initial_runInOrder (userMappings : List UserMapping) (clock : ℕ) :
    (initial userMappings clock).RunInOrder := fun phase h => by simp [initial] at h

lemma readSync_eventsMatch {inputs : SyncInputs} {db : Db} {runId now : ℕ} {run : SyncRun}
    (h : readSync inputs db runId now = .ok run) : run.EventsMatch :=
  (forall₂_of_mapM_except (readSync_eq_ok h).2.2.2).imp fun _ _ => isEventOf_of_buildLagoEvent

theorem RunInOrder.step (hord : w.RunInOrder) (hstep : World.step w a = some w') :
    w'.RunInOrder := by
  intro phase hphase
  cases step_shared hstep with
  | quiet hrows hevents hlago hsync =>
      rw [hsync] at hphase
      exact hord phase hphase
  | lagoReceived hobj hflush hpoint => exact hord phase hphase
  | committed hobj hflush hpoint hdb => exact hord phase hphase
  | syncRead hnone hrun hnew =>
      obtain rfl := Option.some.inj hphase
      rcases hnew with rfl | ⟨rfl, -⟩
      · exact ⟨readSync_eventsMatch hrun, fun _ _ h => by cases h⟩
      · refine ⟨readSync_eventsMatch hrun, fun run remaining h => ?_⟩
        cases h
        exact List.Subset.refl _
  | syncReceived hsync => exact hord phase hphase
  | syncPersisted hsync haccepted hdb => simp at hphase
  | syncSaved hsync hdb =>
      obtain rfl := Option.some.inj hphase
      obtain ⟨hmatch, hsub⟩ := hord _ hsync
      refine ⟨hmatch, fun run remaining h => ?_⟩
      cases h
      exact List.Subset.trans (List.subset_cons_self _ _) (hsub _ _ rfl)
  | syncEnded => simp at hphase

/-- What a step can do to the row of a transaction. -/
inductive RowStep (w : World) (id : ℕ) (a : Action) (w' : World) : Prop
  | same (hrow : w'.db.transactionSyncState id = w.db.transactionSyncState id)
  | flushed {i : ℕ} {obj : TxObject} {flush : Flush} {args : FlushPersistArgs}
      {row : TransactionSyncState} (ha : a = .flush i .commits) (hobj : w.heap[i]? = some obj)
      (hid : obj.st.steveTransactionId = id) (hflush : obj.flushing = some flush)
      (hpoint : flush.point = .persisting args)
      (hrow : w'.db.transactionSyncState id = some row)
      (htotal : row.totalKwhBilled = .fin (toFixed 6 args.newTotal))
      (hfinal : row.isFinalized = flush.final)
  | synced {phase : SyncPhase} {pt : ProcessedTransaction} {row : TransactionSyncState}
      (hphase : phase ∈ w.sync) (hmem : pt ∈ phase.run.processed) (hwrites : pt ∈ w.syncWrites a)
      (hid : pt.steveTransactionId = id)
      (hupdate : (phase.run.stateUpdate pt).toRow = some row)
      (hrow : w'.db.transactionSyncState id = some row)
      (hsent : pt.shouldSendToLago = true → (phase.run.eventRecord pt).toRow.isSome ∧
        ∃ event, IsEventOf pt event ∧ w.lago.Has event.transactionId)

theorem step_row (hord : w.RunInOrder) (hstep : World.step w a = some w') (id : ℕ) :
    RowStep w id a w' := by
  cases step_shared hstep with
  | quiet hrows hevents hlago hsync => exact .same (by rw [hrows])
  | lagoReceived hobj hflush hpoint => exact .same rfl
  | syncRead hnone hrun hnew => exact .same rfl
  | syncReceived hsync => exact .same rfl
  | syncEnded => exact .same rfl
  | committed hobj hflush hpoint hdb =>
      next i obj flush args db =>
      obtain ⟨mid, hmid, hdb⟩ := Option.bind_eq_some_iff.mp hdb
      obtain ⟨erow, -, rfl⟩ := Option.map_eq_some_iff.mp hdb
      obtain ⟨row, hrow, rfl⟩ := Db.upsertSyncState_spec hmid
      obtain ⟨hrowId, -, htotal, hfinal⟩ := NewTransactionSyncState.toRow_eq_some hrow
      by_cases hid : obj.st.steveTransactionId = id
      · refine .flushed rfl hobj hid hflush hpoint ?_ htotal hfinal
        rw [← hid, show obj.st.steveTransactionId = row.steveTransactionId from hrowId.symm]
        exact Db.putRow_self _ _
      · refine .same (Db.putRow_of_ne _ ?_)
        rw [hrowId]
        exact fun h => hid h.symm
  | syncPersisted hsync haccepted hdb =>
      next run successful db =>
      have hmatch : run.EventsMatch := (hord _ hsync).1
      rcases run.persistSent_row hdb id with hsame | ⟨pt, row, hid, hupdate, hrow, hpt⟩
      · exact .same hsame
      · rcases hpt with ⟨hsent, herow⟩ | hskipped
        · obtain ⟨hmem, -⟩ := SyncRun.mem_processed_of_successfullySent hsent
          obtain ⟨batch, hbatch, event, hevent, hof⟩ :=
            SyncRun.exists_event_of_successfullySent hmatch hsent
          exact .synced hsync hmem (by simp [syncWrites, hsync, hsent]) hid hupdate hrow
            fun _ => ⟨herow, event, hof, haccepted batch hbatch event hevent⟩
        · obtain ⟨hmem, hskip⟩ := SyncRun.mem_transactionsSkipped.mp hskipped
          exact .synced hsync hmem (by simp [syncWrites, hsync, hskipped]) hid hupdate hrow
            fun hsend => by rw [hskip] at hsend; cases hsend
  | syncSaved hsync hdb =>
      next run pt remaining db =>
      have hskipped : pt ∈ run.transactionsSkipped := (hord _ hsync).2 run _ rfl List.mem_cons_self
      obtain ⟨hmem, hskip⟩ := SyncRun.mem_transactionsSkipped.mp hskipped
      obtain ⟨row, hrow, rfl⟩ := Db.upsertSyncState_spec hdb
      have hrowId := (NewTransactionSyncState.toRow_eq_some hrow).1
      by_cases hid : pt.steveTransactionId = id
      · refine .synced hsync hmem (by simp [syncWrites, hsync]) hid hrow ?_ fun hsend => by
          rw [hskip] at hsend
          cases hsend
        rw [← hid, show pt.steveTransactionId = row.steveTransactionId from hrowId.symm]
        exact Db.putRow_self _ _
      · refine .same (Db.putRow_of_ne _ ?_)
        rw [hrowId]
        exact fun h => hid h.symm

/-- Where an event row of a transaction comes from: it was there, a flush has committed it, or a
sync run has written it together with the row of the transaction. -/
inductive RecordedStep (w : World) (key : LagoEventTransactionId) (a : Action) (w' : World) : Prop
  | old (h : w.db.syncedTransactionEvents.Has key)
  | flushed {i : ℕ} {obj : TxObject} {flush : Flush} {args : FlushPersistArgs}
      (ha : a = .flush i .commits) (hobj : w.heap[i]? = some obj)
      (hflush : obj.flushing = some flush) (hpoint : flush.point = .persisting args)
      (hkey : key = args.lagoEventTransactionId)
      (htotal : w'.db.billedTotal obj.st.steveTransactionId = .fin (toFixed 6 args.newTotal))
  | synced {phase : SyncPhase} {pt pt' : ProcessedTransaction} {row : TransactionSyncState}
      (hphase : phase ∈ w.sync) (hmem : pt ∈ phase.run.processed)
      (hsend : pt.shouldSendToLago = true) (hkey : key = pt.lagoEventTransactionId)
      (hhas : w.lago.Has key) (hmem' : pt' ∈ phase.run.processed)
      (hid : pt'.steveTransactionId = pt.steveTransactionId)
      (hupdate : (phase.run.stateUpdate pt').toRow = some row)
      (hrow : w'.db.transactionSyncState pt.steveTransactionId = some row)
      (hdone : w'.sync = none)

theorem step_recorded (hord : w.RunInOrder) (hstep : World.step w a = some w')
    {key : LagoEventTransactionId} (h : w'.db.syncedTransactionEvents.Has key) :
    RecordedStep w key a w' := by
  cases step_shared hstep with
  | quiet hrows hevents hlago hsync => exact .old (hevents ▸ h)
  | lagoReceived hobj hflush hpoint => exact .old h
  | syncRead hnone hrun hnew => exact .old h
  | syncReceived hsync => exact .old h
  | syncEnded => exact .old h
  | committed hobj hflush hpoint hdb =>
      next i obj flush args db =>
      obtain ⟨mid, hmid, hdb⟩ := Option.bind_eq_some_iff.mp hdb
      obtain ⟨erow, herow, rfl⟩ := Option.map_eq_some_iff.mp hdb
      obtain ⟨row, hrow, rfl⟩ := Db.upsertSyncState_spec hmid
      obtain ⟨hrowId, -, htotal, -⟩ := NewTransactionSyncState.toRow_eq_some hrow
      rcases KeyedLog.has_record.mp h with h | h
      · exact .old h
      · refine .flushed rfl hobj hflush hpoint
          (h.trans (NewSyncedTransactionEvent.toRow_key herow)) ?_
        rw [show obj.st.steveTransactionId = row.steveTransactionId from hrowId.symm]
        exact (Db.billedTotal_of_row (Db.putRow_self _ _)).trans htotal
  | syncSaved hsync hdb =>
      obtain ⟨row, -, rfl⟩ := Db.upsertSyncState_spec hdb
      exact .old h
  | syncPersisted hsync haccepted hdb =>
      next run successful db =>
      have hmatch : run.EventsMatch := (hord _ hsync).1
      obtain ⟨mid, hmid, hdb⟩ := Option.bind_eq_some_iff.mp hdb
      obtain ⟨rows, hrows, hdb⟩ := Option.bind_eq_some_iff.mp hdb
      obtain ⟨log, hlog, rfl⟩ := Option.map_eq_some_iff.mp hdb
      obtain ⟨hevents, -, hstates⟩ := Db.upsertAll_spec hmid
      rcases (KeyedLog.has_of_insertAll? hlog).mp h with h | ⟨erow, herow, hkey⟩
      · exact .old (hevents ▸ h)
      · obtain ⟨data, hdata, hdataRow⟩ :=
          exists_of_forall₂_mem_right (forall₂_of_mapM_option hrows) herow
        obtain ⟨pt, hpt, rfl⟩ := List.mem_map.mp hdata
        have hkeyPt : key = pt.lagoEventTransactionId :=
          hkey.trans (NewSyncedTransactionEvent.toRow_key hdataRow)
        obtain ⟨hmem, hsend⟩ := SyncRun.mem_processed_of_successfullySent hpt
        obtain ⟨batch, hbatch, event, hevent, hof⟩ :=
          SyncRun.exists_event_of_successfullySent hmatch hpt
        have hhas : w.lago.Has key := by
          rw [hkeyPt, ← hof.transactionId]
          exact haccepted batch hbatch event hevent
        rcases hstates pt.steveTransactionId with ⟨-, hnone⟩ | ⟨data, hdata, hid, hval, hsome⟩
        · exact absurd rfl (hnone (run.stateUpdate pt)
            (List.mem_map_of_mem (List.mem_append_left _ hpt)))
        · obtain ⟨pt', hpt', rfl⟩ := List.mem_map.mp hdata
          obtain ⟨row, hrow⟩ := Option.isSome_iff_exists.mp hsome
          have hmem' : pt' ∈ run.processed := by
            rcases List.mem_append.mp hpt' with hsent | hskipped
            · exact (SyncRun.mem_processed_of_successfullySent hsent).1
            · exact (SyncRun.mem_transactionsSkipped.mp hskipped).1
          exact .synced hsync hmem hsend hkeyPt hhas hmem' hid hrow (hval.trans hrow) rfl

/-- The database refuses the write a sync run is about to make. -/
def syncRefused (w : World) : Action → Bool
  | .syncPersists successful =>
      match w.sync with
      | some (.sending run) => (run.persistSent successful w.db).isNone
      | _ => false
  | .syncSaves =>
      match w.sync with
      | some (.saving run (pt :: _)) => (w.db.upsertSyncState (run.stateUpdate pt)).isNone
      | _ => false
  | _ => false

lemma db_of_syncPersists {run : SyncRun} {successful : List ℕ} {db : Db}
    (hsync : w.sync = some (.sending run)) (hdb : run.persistSent successful w.db = some db)
    (hstep : step w (.syncPersists successful) = some w') : w'.db = db := by
  simp only [step, hsync, hdb] at hstep
  split at hstep
  · rw [← Option.some.inj hstep]
  · simp at hstep

/-- A sync run that writes a transaction writes its row, unless the database refuses. -/
lemma row_of_syncWrites (hord : w.RunInOrder) (hstep : step w a = some w')
    {pt : ProcessedTransaction} (hwrites : pt ∈ w.syncWrites a) (hok : w.syncRefused a = false) :
    ∃ phase ∈ w.sync, ∃ pt' ∈ phase.run.processed, pt'.steveTransactionId = pt.steveTransactionId ∧
      ∃ row, (phase.run.stateUpdate pt').toRow = some row ∧
        w'.db.transactionSyncState pt.steveTransactionId = some row := by
  cases a with
  | syncPersists successful =>
      cases hsync : w.sync with
      | none => simp [syncWrites, hsync] at hwrites
      | some phase =>
          cases phase with
          | saving run remaining => simp [syncWrites, hsync] at hwrites
          | sending run =>
              simp only [syncWrites, hsync] at hwrites
              simp only [syncRefused, hsync] at hok
              obtain ⟨db, hdb⟩ : ∃ db, run.persistSent successful w.db = some db :=
                Option.isSome_iff_exists.mp (by simpa using hok)
              have hw := db_of_syncPersists hsync hdb hstep
              obtain ⟨mid, hmid, hdb⟩ := Option.bind_eq_some_iff.mp hdb
              obtain ⟨rows, -, hdb⟩ := Option.bind_eq_some_iff.mp hdb
              obtain ⟨log, -, rfl⟩ := Option.map_eq_some_iff.mp hdb
              obtain ⟨-, -, hstates⟩ := Db.upsertAll_spec hmid
              rcases hstates pt.steveTransactionId with ⟨-, hnone⟩ | ⟨data, hdata, hid, hval, hsome⟩
              · exact absurd rfl (hnone (run.stateUpdate pt) (List.mem_map_of_mem hwrites))
              · obtain ⟨pt', hpt', rfl⟩ := List.mem_map.mp hdata
                obtain ⟨row, hrow⟩ := Option.isSome_iff_exists.mp hsome
                have hmem : pt' ∈ run.processed := by
                  rcases List.mem_append.mp hpt' with hsent | hskipped
                  · exact (SyncRun.mem_processed_of_successfullySent hsent).1
                  · exact (SyncRun.mem_transactionsSkipped.mp hskipped).1
                exact ⟨_, rfl, pt', hmem, hid, row, hrow, by rw [hw]; exact hval.trans hrow⟩
  | syncSaves =>
      cases hsync : w.sync with
      | none => simp [syncWrites, hsync] at hwrites
      | some phase =>
          cases phase with
          | sending run => simp [syncWrites, hsync] at hwrites
          | saving run remaining =>
              cases remaining with
              | nil => simp [syncWrites, hsync] at hwrites
              | cons next remaining =>
                  obtain rfl : pt = next := by simpa [syncWrites, hsync] using hwrites
                  simp only [syncRefused, hsync] at hok
                  obtain ⟨db, hdb⟩ : ∃ db, w.db.upsertSyncState (run.stateUpdate pt) = some db :=
                    Option.isSome_iff_exists.mp (by simpa using hok)
                  have hw : w'.db = db := by
                    simp only [step, hsync, hdb] at hstep
                    rw [← Option.some.inj hstep]
                  obtain ⟨row, hrow, rfl⟩ := Db.upsertSyncState_spec hdb
                  have hmem : pt ∈ run.processed :=
                    (SyncRun.mem_transactionsSkipped.mp
                      ((hord _ hsync).2 run _ rfl List.mem_cons_self)).1
                  have hid := (NewTransactionSyncState.toRow_eq_some hrow).1
                  refine ⟨_, rfl, pt, hmem, rfl, row, hrow, ?_⟩
                  rw [hw, show pt.steveTransactionId = row.steveTransactionId from hid.symm]
                  exact Db.putRow_self _ _
  | _ => simp [syncWrites] at hwrites

lemma db_of_syncRefused (hstep : step w a = some w') (h : w.syncRefused a = true) :
    w'.db = w.db := by
  cases a with
  | syncPersists successful =>
      cases hsync : w.sync with
      | none => simp [syncRefused, hsync] at h
      | some phase =>
          cases phase with
          | saving run remaining => simp [syncRefused, hsync] at h
          | sending run =>
              have hdb : run.persistSent successful w.db = none := by
                simpa [syncRefused, hsync] using h
              simp only [step, hsync, hdb] at hstep
              split at hstep
              · rw [← Option.some.inj hstep]
              · simp at hstep
  | syncSaves =>
      cases hsync : w.sync with
      | none => simp [syncRefused, hsync] at h
      | some phase =>
          cases phase with
          | sending run => simp [syncRefused, hsync] at h
          | saving run remaining =>
              cases remaining with
              | nil => simp [syncRefused, hsync] at h
              | cons pt remaining =>
                  have hdb : w.db.upsertSyncState (run.stateUpdate pt) = none := by
                    simpa [syncRefused, hsync] using h
                  simp only [step, hsync, hdb] at hstep
                  rw [← Option.some.inj hstep]
  | _ => simp [syncRefused] at h

/-- A sync run finalizes whatever it processes. -/
def RunsFinal (w : World) : Prop :=
  ∀ phase ∈ w.sync, ∀ pt ∈ phase.run.processed, pt.isFinal = true

theorem RunsFinal.step (hfinal : w.RunsFinal) (hstep : World.step w a = some w') :
    w'.RunsFinal := by
  refine forall_run_step (P := fun run => ∀ pt ∈ run.processed, pt.isFinal = true) hfinal ?_ hstep
  intro inputs runId run _ _ hrun pt hpt
  rw [(readSync_eq_ok hrun).2.2.1] at hpt
  obtain ⟨tx, -, m, cache, -, -, -, hbill⟩ := SyncInputs.mem_process hpt
  obtain ⟨_, -, -, -, hfinal, -⟩ := billTransaction_spec hbill
  exact hfinal

end World

end ExpresSync
