import ExpresSync.Properties.SyncSteps

/-!
# A sync run and the rows it finds

A sync run inserts the event rows of everything it has sent in one transaction, together with the
rows of everything it has processed.  One event row that is there already, or one value that does
not fit its column, makes the whole transaction fail, and since nothing has changed the next run
fails in the same way.  `persistsAccepted_iff_nothingInTheWay` holds from every state of the
database: a run persists what Lago has accepted if and only if none of these is in the way.
-/

namespace ExpresSync

open Transition

/-- The run in progress, when it is waiting to write what it has sent. -/
def World.sendingRun (w : World) : Option SyncRun :=
  w.sync.bind fun phase =>
    match phase with
    | .sending run => some run
    | .saving _ _ => none

/-- When a sync run writes, every transaction whose batch was accepted gets its row and its event
row. -/
def PersistsAccepted (w : World) : Action → World → Prop
  | .syncPersists successful, w' =>
      ∀ run ∈ w.sendingRun, run.successfullySent successful ≠ [] →
        w.syncRefused (.syncPersists successful) = false ∧
          ∀ pt ∈ run.successfullySent successful,
            w'.db.transactionSyncState pt.steveTransactionId = (run.stateUpdate pt).toRow ∧
              w'.db.finalized pt.steveTransactionId = true ∧
                w'.db.syncedTransactionEvents.Has pt.lagoEventTransactionId
  | _, _ => True

/-- No transaction the run has sent has its event row already, and every value the run writes fits
its column. -/
def NothingInTheWay (w : World) : Action → Prop
  | .syncPersists successful =>
      ∀ run ∈ w.sendingRun, run.successfullySent successful ≠ [] →
        (∀ pt ∈ run.successfullySent successful,
          ¬w.db.syncedTransactionEvents.Has pt.lagoEventTransactionId ∧
            (run.eventRecord pt).toRow.isSome) ∧
          ∀ pt ∈ run.successfullySent successful ++ run.transactionsSkipped,
            (run.stateUpdate pt).toRow.isSome
  | _ => True

instance (w : World) (a : Action) (w' : World) : Decidable (PersistsAccepted w a w') := by
  unfold PersistsAccepted
  rcases a <;> infer_instance

instance (w : World) (a : Action) : Decidable (NothingInTheWay w a) := by
  unfold NothingInTheWay
  rcases a <;> infer_instance

/-! ## When the write goes through -/

lemma mapM_isSome {α β : Type*} {f : α → Option β} {xs : List α} :
    (xs.mapM f).isSome ↔ ∀ x ∈ xs, (f x).isSome := by
  induction xs with
  | nil => simp
  | cons x xs ih =>
      cases hx : f x with
      | none => simp [List.mapM_cons, hx]
      | some y =>
          cases hxs : xs.mapM f with
          | none =>
              rw [hxs] at ih
              simpa [List.mapM_cons, hx, hxs] using ih
          | some ys =>
              rw [hxs] at ih
              simpa [List.mapM_cons, hx, hxs] using ih

/-- The atomic write goes through exactly when every value fits and every event key is new. -/
lemma Db.atomicUpsert_isSome {db : Db} {states : List NewTransactionSyncState}
    {events : List NewSyncedTransactionEvent}
    (hnodup : (events.map (·.lagoEventTransactionId)).Nodup) :
    (db.atomicUpsertSyncStatesAndCreateEvents states events).isSome ↔
      (∀ data ∈ states, data.toRow.isSome) ∧ (∀ data ∈ events, data.toRow.isSome) ∧
        ∀ data ∈ events, ¬db.syncedTransactionEvents.Has data.lagoEventTransactionId := by
  unfold atomicUpsertSyncStatesAndCreateEvents
  rw [← db.upsertAll_isSome, ← mapM_isSome]
  cases hmid : db.upsertAll states with
  | none => simp
  | some mid =>
      cases hrows : events.mapM NewSyncedTransactionEvent.toRow with
      | none => simp
      | some rows =>
          have hkeys : rows.map SyncedTransactionEvent.lagoEventTransactionId =
              events.map (·.lagoEventTransactionId) :=
            map_eq_of_forall₂ (forall₂_of_mapM_option hrows) fun _ _ hrow =>
              NewSyncedTransactionEvent.toRow_key hrow
          have hfresh : (∀ row ∈ rows, ¬db.syncedTransactionEvents.Has row.lagoEventTransactionId) ↔
              ∀ data ∈ events, ¬db.syncedTransactionEvents.Has data.lagoEventTransactionId := by
            have hkey : (∀ key ∈ rows.map SyncedTransactionEvent.lagoEventTransactionId,
                ¬db.syncedTransactionEvents.Has key) ↔
                ∀ key ∈ events.map (·.lagoEventTransactionId),
                  ¬db.syncedTransactionEvents.Has key := by rw [hkeys]
            simpa only [List.forall_mem_map] using hkey
          simp only [Option.bind_some, Option.isSome_map, Option.isSome_some, true_and]
          rw [(Db.upsertAll_spec hmid).1, KeyedLog.insertAll?_isSome, hkeys, hfresh]
          exact and_iff_right hnodup

namespace SyncRun

variable {run : SyncRun}

lemma successfullySent_sublist (run : SyncRun) (successful : List ℕ) :
    (run.successfullySent successful).Sublist run.processed := by
  have hzip : (run.transactionsToSend.zipIdx.map (·.1)) = run.transactionsToSend := by simp
  have hsent : (run.successfullySent successful).Sublist run.transactionsToSend := by
    rw [← hzip]
    exact (List.filter_sublist).map _
  exact hsent.trans List.filter_sublist

/-- The identifiers of what a run has sent are pairwise different. -/
lemma successfullySent_keys_nodup (hnodup : (run.processed.map (·.steveTransactionId)).Nodup)
    (hkeys : ∀ pt ∈ run.processed,
      pt.lagoEventTransactionId.steveTransactionId = pt.steveTransactionId)
    (successful : List ℕ) :
    ((run.successfullySent successful).map (·.lagoEventTransactionId)).Nodup := by
  have hsub := run.successfullySent_sublist successful
  have hids : ((run.successfullySent successful).map (·.steveTransactionId)).Nodup :=
    hnodup.sublist (hsub.map _)
  refine List.Nodup.of_map LagoEventTransactionId.steveTransactionId ?_
  rw [List.map_map]
  convert hids using 1
  exact List.map_congr_left fun pt hpt => hkeys pt (hsub.subset hpt)

/-- The write of a run goes through exactly when nothing is in the way. -/
lemma persistSent_isSome (db : Db) {successful : List ℕ}
    (hnodup : ((run.successfullySent successful).map (·.lagoEventTransactionId)).Nodup) :
    (run.persistSent successful db).isSome ↔
      (∀ pt ∈ run.successfullySent successful,
        ¬db.syncedTransactionEvents.Has pt.lagoEventTransactionId ∧
          (run.eventRecord pt).toRow.isSome) ∧
        ∀ pt ∈ run.successfullySent successful ++ run.transactionsSkipped,
          (run.stateUpdate pt).toRow.isSome := by
  have hkeys : (((run.successfullySent successful).map run.eventRecord).map
      (·.lagoEventTransactionId)).Nodup := by
    rw [List.map_map]
    exact hnodup
  rw [persistSent, Db.atomicUpsert_isSome hkeys, List.forall_mem_map, List.forall_mem_map,
    List.forall_mem_map]
  constructor
  · rintro ⟨hstates, hrows, hfresh⟩
    exact ⟨fun pt hpt => ⟨hfresh pt hpt, hrows pt hpt⟩, hstates⟩
  · rintro ⟨hevents, hstates⟩
    exact ⟨hstates, fun pt hpt => (hevents pt hpt).2, fun pt hpt => (hevents pt hpt).1⟩

/-- What the write leaves behind for a transaction that was sent. -/
lemma persistSent_spec (hids : (run.processed.map (·.steveTransactionId)).Nodup) {db db' : Db}
    {successful : List ℕ} (h : run.persistSent successful db = some db')
    {pt : ProcessedTransaction} (hpt : pt ∈ run.successfullySent successful) :
    db'.transactionSyncState pt.steveTransactionId = (run.stateUpdate pt).toRow ∧
      db'.syncedTransactionEvents.Has pt.lagoEventTransactionId := by
  obtain ⟨mid, hmid, h⟩ := Option.bind_eq_some_iff.mp h
  obtain ⟨rows, hrows, h⟩ := Option.bind_eq_some_iff.mp h
  obtain ⟨log, hlog, rfl⟩ := Option.map_eq_some_iff.mp h
  obtain ⟨-, -, hstates⟩ := Db.upsertAll_spec hmid
  have hmem : pt ∈ run.processed := (mem_processed_of_successfullySent hpt).1
  constructor
  · rcases hstates pt.steveTransactionId with ⟨-, hnone⟩ | ⟨data, hdata, hid, hval, -⟩
    · exact absurd rfl (hnone (run.stateUpdate pt)
        (List.mem_map_of_mem (List.mem_append_left _ hpt)))
    · obtain ⟨pt', hpt', rfl⟩ := List.mem_map.mp hdata
      have hmem' : pt' ∈ run.processed := by
        rcases List.mem_append.mp hpt' with hsent | hskipped
        · exact (mem_processed_of_successfullySent hsent).1
        · exact (mem_transactionsSkipped.mp hskipped).1
      obtain rfl : pt' = pt := List.inj_on_of_nodup_map hids hmem' hmem hid
      exact hval
  · obtain ⟨row, hrow, hrowPt⟩ := exists_of_forall₂_mem (forall₂_of_mapM_option hrows)
      (List.mem_map_of_mem hpt)
    exact (KeyedLog.has_of_insertAll? hlog).mpr
      (Or.inr ⟨row, hrow, (NewSyncedTransactionEvent.toRow_key hrowPt).symm⟩)

end SyncRun

/-! ## The invariant -/

/-- What holds of the run in progress: it is in order, it finalizes what it processes, and it
processes no transaction twice. -/
structure WedgeInvariant (w : World) : Prop where
  inOrder : w.RunInOrder
  final : w.RunsFinal
  ids : ∀ phase ∈ w.sync, (phase.run.processed.map (·.steveTransactionId)).Nodup
  keys : ∀ phase ∈ w.sync, ∀ pt ∈ phase.run.processed,
    pt.lagoEventTransactionId.steveTransactionId = pt.steveTransactionId

section Steps

variable {w w' : World} {a : Action}

theorem WedgeInvariant.step (hinv : WedgeInvariant w) (hstep : World.step w a = some w') :
    WedgeInvariant w' where
  inOrder := hinv.inOrder.step hstep
  final := hinv.final.step hstep
  ids := by
    refine World.forall_run_step
      (P := fun run => (run.processed.map (·.steveTransactionId)).Nodup) hinv.ids ?_ hstep
    intro inputs runId run _ _ hrun
    rw [(readSync_eq_ok hrun).2.2.1]
    exact inputs.process_ids_nodup w.db
  keys := by
    refine World.forall_run_step (P := fun run => ∀ pt ∈ run.processed,
      pt.lagoEventTransactionId.steveTransactionId = pt.steveTransactionId) hinv.keys ?_ hstep
    intro inputs runId run _ _ hrun pt hpt
    rw [(readSync_eq_ok hrun).2.2.1] at hpt
    obtain ⟨tx, -, m, cache, hid, -, -, hbill⟩ := SyncInputs.mem_process hpt
    rw [hid]
    exact billTransaction_key hbill

/-- Step by step, a run persists what was accepted exactly when nothing is in the way. -/
lemma nothingInTheWay_iff_persistsAccepted (hinv : WedgeInvariant w)
    (hstep : World.step w a = some w') : NothingInTheWay w a ↔ PersistsAccepted w a w' := by
  cases a with
  | syncPersists successful =>
      refine forall₂_congr fun run hrun => imp_congr_right fun _ => ?_
      obtain ⟨phase, hsync, hphase⟩ := Option.bind_eq_some_iff.mp hrun
      cases phase with
      | saving run' remaining => simp at hphase
      | sending run' =>
          obtain rfl := Option.some.inj hphase
          have hids := hinv.ids _ hsync
          have hgoes := SyncRun.persistSent_isSome w.db
            (SyncRun.successfullySent_keys_nodup hids (hinv.keys _ hsync) successful)
          have hrefused : w.syncRefused (.syncPersists successful) = false ↔
              (run'.persistSent successful w.db).isSome := by
            simp [World.syncRefused, hsync]
          constructor
          · intro hfree
            obtain ⟨db, hdb⟩ := Option.isSome_iff_exists.mp (hgoes.mpr hfree)
            refine ⟨hrefused.mpr (hgoes.mpr hfree), fun pt hpt => ?_⟩
            rw [World.db_of_syncPersists hsync hdb hstep]
            obtain ⟨hrow, hhas⟩ := SyncRun.persistSent_spec hids hdb hpt
            obtain ⟨row, hsome⟩ :=
              Option.isSome_iff_exists.mp (hfree.2 pt (List.mem_append_left _ hpt))
            have hfinal := (NewTransactionSyncState.toRow_eq_some hsome).2.2.2
            refine ⟨hrow, ?_, hhas⟩
            rw [Db.finalized_of_row (hrow.trans hsome), hfinal]
            exact hinv.final _ hsync pt (SyncRun.mem_processed_of_successfullySent hpt).1
          · rintro ⟨hok, -⟩
            exact hgoes.mp (hrefused.mp hok)
  | _ => exact Iff.rfl

end Steps

/-- From every state in which no sync run is in progress, whatever the database holds: the runs
persist all that Lago has accepted exactly when nothing is in the way. -/
theorem persistsAccepted_iff_nothingInTheWay (w : World) (hidle : w.sync = none)
    (as : List Action) :
    EachStep World.step PersistsAccepted w as ↔ Meets World.step NothingInTheWay w as := by
  have hinit : WedgeInvariant w :=
    ⟨fun phase h => by simp [hidle] at h, fun phase h => by simp [hidle] at h,
      fun phase h => by simp [hidle] at h, fun phase h => by simp [hidle] at h⟩
  exact (meets_iff_eachStep (I := WedgeInvariant) (A := fun _ _ => True)
    (fun _ _ _ hinv _ _ hstep => hinv.step hstep)
    (fun _ _ _ hinv _ hstep => nothingInTheWay_iff_persistsAccepted hinv hstep) hinit
    (meets_of_forall fun _ _ => trivial)).symm

/-- A pass over two transactions that have not been billed before. -/
theorem persistsAccepted_of_first_pass :
    EachStep World.step PersistsAccepted (World.initial [Scenario.cardMapping] 0)
      (Scenario.syncPass 1 [Scenario.transaction 7 "0" (some "2000"),
        Scenario.transaction 8 "0" (some "1000")]) :=
  (persistsAccepted_iff_nothingInTheWay _ rfl _).mpr (by decide +kernel)

/-- An interim flush of a transaction is still to be written when a sync pass bills and finalizes
it: the write of the flush opens the row again. -/
def Scenario.lateFlush : List Action :=
  [meter 7 0 false, .tick 60000, meter 7 1 false] ++ lookUps 0 7 ++
    [.flush 0 .resumes, .flush 0 .lagoReceives, .flush 0 (.postAnswered true)] ++
    syncPass 1 [transaction 7 "0" (some "2000")] ++ [.flush 0 .commits]

/-- The next pass bills the transaction under the same identifier once more, whose row exists; the
other transaction of that pass is not recorded either, and the pass after that fails as well. -/
theorem not_persistsAccepted_of_late_flush :
    ¬EachStep World.step PersistsAccepted (World.initial [Scenario.cardMapping] 0)
        (Scenario.lateFlush ++ Scenario.syncPass 2 [Scenario.transaction 7 "0" (some "2000"),
          Scenario.transaction 8 "0" (some "1000")]) ∧
      (run World.step (World.initial [Scenario.cardMapping] 0)
        (Scenario.lateFlush ++
          Scenario.syncPass 2 [Scenario.transaction 7 "0" (some "2000"),
            Scenario.transaction 8 "0" (some "1000")] ++
          Scenario.syncPass 3 [Scenario.transaction 7 "0" (some "2000"),
            Scenario.transaction 8 "0" (some "1000")])).map
        (fun w => (w.db.transactionSyncState 8).isSome) = some false := by
  decide +kernel

end ExpresSync
