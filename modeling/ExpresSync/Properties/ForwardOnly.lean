import ExpresSync.Properties.ObjectTally
import ExpresSync.Properties.SyncSteps

/-!
# The row of a transaction moves forward

Both writers of `transaction_sync_state` read, compute and overwrite: the emitter from the total
it holds in memory, the sync from the row it read when its run began.  The row only moves forward
as long as the total a writer starts from is not behind the row, and no interim flush lands on a
row that is finalized already.
-/

namespace ExpresSync

open Transition

/-- From one state to the next the row of a transaction stays finalized once it is, and its
running total does not decrease. -/
def MovesForward (steveTransactionId : ℕ) (w : World) (_ : Action) (w' : World) : Prop :=
  (w.db.finalized steveTransactionId = true → w'.db.finalized steveTransactionId = true) ∧
    w.db.billedTotal steveTransactionId ≤ w'.db.billedTotal steveTransactionId

instance (id : ℕ) (w : World) (a : Action) (w' : World) : Decidable (MovesForward id w a w') := by
  unfold MovesForward
  infer_instance

/-- Who writes the row of the transaction starts from a total that is not behind it: the total in
the record of a flush that commits, the total a sync run has read.  An interim flush does not
commit on a finalized row, and no skipped transaction is saved with a delta that is not a number. -/
def WritesForward (steveTransactionId : ℕ) (w : World) : Action → Prop
  | .flush i .commits =>
      ∀ obj ∈ w.heap[i]?, obj.st.steveTransactionId = steveTransactionId →
        ∀ flush ∈ obj.flushing,
          w.db.billedTotal steveTransactionId ≤ .fin obj.st.totalBilledKwh ∧
            (w.db.finalized steveTransactionId = true → flush.final = true)
  | a =>
      ∀ phase ∈ w.sync, ∀ pt ∈ w.syncWrites a, pt.steveTransactionId = steveTransactionId →
        w.db.billedTotal steveTransactionId ≤
            priorBilledKwh (phase.run.syncStates steveTransactionId) ∧
          (pt.shouldSendToLago = false → pt.kwhDelta ≠ .nan)

instance (id : ℕ) (w : World) (a : Action) : Decidable (WritesForward id w a) := by
  unfold WritesForward
  rcases a
  case flush i event => rcases event <;> infer_instance
  all_goals infer_instance

/-! ## The invariant -/

/-- A total the database stores: a number with at most six decimals. -/
def IsStoredTotal (total : JsNumber) : Prop := ∃ r, total = .fin r ∧ OnGrid 6 r

/-- What a run knows about its transactions once it has read: they are final, and their deltas
are not negative. -/
def SyncRun.BillsForward (run : SyncRun) (steveTransactionId : ℕ) : Prop :=
  IsStoredTotal (priorBilledKwh (run.syncStates steveTransactionId)) ∧
    ∀ pt ∈ run.processed, pt.steveTransactionId = steveTransactionId → pt.isFinal = true ∧
      ((∃ d, pt.kwhDelta = .fin d ∧ 0 ≤ d) ∨
        (pt.kwhDelta = .nan ∧ (pt.meterValueFrom = .nan ∨ pt.meterValueTo = .nan)))

/-- The invariant of runs that write forward. -/
structure ForwardInvariant (steveTransactionId : ℕ) (w : World) : Prop where
  regular : w.Regular
  inOrder : w.RunInOrder
  stored : IsStoredTotal (w.db.billedTotal steveTransactionId)
  bills : ∀ phase ∈ w.sync, phase.run.BillsForward steveTransactionId

lemma initial_forwardInvariant (userMappings : List UserMapping) (clock id : ℕ) :
    ForwardInvariant id (World.initial userMappings clock) where
  regular := World.initial_regular _ _
  inOrder := World.initial_runInOrder _ _
  stored := ⟨0, rfl, OnGrid.zero 6⟩
  bills := fun phase h => by simp [World.initial] at h

section Rows

variable {id : ℕ} {w w' : World} {a : Action}

/-- The amounts of a flush that commits. -/
lemma ForwardInvariant.persisting (hinv : ForwardInvariant id w) {i : ℕ} {obj : TxObject}
    {flush : Flush} {args : FlushPersistArgs} (hobj : w.heap[i]? = some obj)
    (hflush : obj.flushing = some flush) (hpoint : flush.point = .persisting args) :
    OnGrid 3 args.newTotal ∧ obj.st.totalBilledKwh ≤ args.newTotal := by
  have hreg := hinv.regular i obj hobj
  have hargs := hreg.flight flush hflush
  rw [hpoint] at hargs
  obtain ⟨hgrid, hnonneg, -, htotal, -⟩ := hargs
  refine ⟨by rw [htotal]; exact hreg.total_grid.add hgrid, ?_⟩
  rw [htotal]
  exact le_add_of_nonneg_right hnonneg

/-- The total a sync run writes for a transaction whose row the database accepts. -/
lemma SyncRun.BillsForward.written {run : SyncRun} (hbills : run.BillsForward id)
    {pt : ProcessedTransaction} (hmem : pt ∈ run.processed) (hid : pt.steveTransactionId = id)
    {row : TransactionSyncState} (hupdate : (run.stateUpdate pt).toRow = some row)
    (hsent : pt.shouldSendToLago = true → (run.eventRecord pt).toRow.isSome)
    (hnumber : pt.shouldSendToLago = false → pt.kwhDelta ≠ .nan) :
    row.isFinalized = true ∧ IsStoredTotal row.totalKwhBilled ∧
      priorBilledKwh (run.syncStates id) ≤ row.totalKwhBilled := by
  obtain ⟨⟨r, hr, hgrid⟩, hpts⟩ := hbills
  obtain ⟨hfinal, hdelta⟩ := hpts pt hmem hid
  obtain ⟨-, hmeterTo, htotal, hrowFinal⟩ := NewTransactionSyncState.toRow_eq_some hupdate
  refine ⟨by rw [hrowFinal]; exact hfinal, ?_⟩
  rcases hdelta with ⟨d, hd, hnonneg⟩ | ⟨hnan, hmeter⟩
  · have hwritten : row.totalKwhBilled = .fin (toFixed 6 (r + d)) := by
      rw [htotal]
      simp only [SyncRun.stateUpdate, hid, hr, hd, JsNumber.fin_add_fin, JsNumber.map_fin]
    rw [hwritten, hr]
    refine ⟨⟨_, rfl, onGrid_toFixed _ _⟩, ?_⟩
    calc r = toFixed 6 r := (toFixed_of_onGrid hgrid).symm
      _ ≤ toFixed 6 (r + d) := toFixed_mono (le_add_of_nonneg_right hnonneg)
  · -- A `NaN` meter value is refused by one of the two `integer` columns.
    exfalso
    cases hsend : pt.shouldSendToLago with
    | false => exact hnumber hsend hnan
    | true =>
        rcases hmeter with hfrom | hto
        · have hrec := hsent hsend
          simp [SyncRun.eventRecord, NewSyncedTransactionEvent.toRow, hfrom, pgInteger] at hrec
        · rw [SyncRun.stateUpdate] at hmeterTo
          simp only [hto] at hmeterTo
          cases hmeterTo

/-- A step that writes forward moves the row forward and keeps its total a stored one. -/
lemma ForwardInvariant.row (hinv : ForwardInvariant id w) (hforward : WritesForward id w a)
    (hstep : World.step w a = some w') :
    IsStoredTotal (w'.db.billedTotal id) ∧ MovesForward id w a w' := by
  cases World.step_row hinv.inOrder hstep id with
  | same hrow =>
      obtain ⟨htotal, hfinal⟩ := Db.same_row hrow
      refine ⟨by rw [htotal]; exact hinv.stored, fun h => by rw [hfinal]; exact h, ?_⟩
      obtain ⟨r, hr, -⟩ := hinv.stored
      rw [htotal, hr]
      exact le_refl r
  | flushed ha hobj hid hflush hpoint hrow htotal hfinal =>
      subst ha
      obtain ⟨hbase, honly⟩ := hforward _ hobj hid _ hflush
      obtain ⟨hgrid, hle⟩ := hinv.persisting hobj hflush hpoint
      rw [MovesForward, Db.billedTotal_of_row hrow, Db.finalized_of_row hrow, htotal, hfinal,
        toFixed_six_of_grid hgrid]
      refine ⟨⟨_, rfl, hgrid.mono (by norm_num)⟩, honly, ?_⟩
      obtain ⟨r, hr, -⟩ := hinv.stored
      rw [hr] at hbase ⊢
      exact le_trans (α := ℚ) hbase hle
  | synced hphase hmem hwrites hid hupdate hrow hsent =>
      next phase pt row =>
      have hcond : w.db.billedTotal id ≤ priorBilledKwh (phase.run.syncStates id) ∧
          (pt.shouldSendToLago = false → pt.kwhDelta ≠ .nan) := by
        unfold WritesForward at hforward
        split at hforward
        · simp [World.syncWrites] at hwrites
        · exact hforward phase hphase pt hwrites hid
      obtain ⟨hfinal, hstored, hle⟩ := (hinv.bills phase hphase).written hmem hid hupdate
        (fun h => (hsent h).1) hcond.2
      rw [MovesForward, Db.billedTotal_of_row hrow, Db.finalized_of_row hrow]
      refine ⟨hstored, fun _ => hfinal, ?_⟩
      obtain ⟨r, hr, -⟩ := hinv.stored
      obtain ⟨⟨r₀, hr₀, -⟩, -⟩ := hinv.bills phase hphase
      obtain ⟨r₁, hr₁, -⟩ := hstored
      have hread := hcond.1
      rw [hr, hr₀] at hread
      rw [hr₀, hr₁] at hle
      rw [hr, hr₁]
      exact le_trans (α := ℚ) hread hle

/-- A run that reads a stored total bills forward. -/
lemma billsForward_of_read (hstored : IsStoredTotal (w.db.billedTotal id)) {inputs : SyncInputs}
    {runId now : ℕ} {run : SyncRun} (hrun : readSync inputs w.db runId now = .ok run) :
    run.BillsForward id := by
  obtain ⟨-, hstates, hprocessed, -⟩ := readSync_eq_ok hrun
  refine ⟨by rw [hstates]; exact hstored, fun pt hpt hid => ?_⟩
  rw [hprocessed] at hpt
  obtain ⟨tx, -, m, cache, htx, -, -, hbill⟩ := SyncInputs.mem_process hpt
  obtain ⟨-, -, -, -, hfinal, -⟩ := billTransaction_spec hbill
  obtain ⟨r, hr, -⟩ := hstored
  have hprior : priorBilledKwh (w.db.transactionSyncState tx.id) = .fin r := by
    rw [← htx, hid]
    exact hr
  exact ⟨hfinal, billTransaction_delta hbill hprior⟩

theorem ForwardInvariant.step (hinv : ForwardInvariant id w) (hforward : WritesForward id w a)
    (hstep : World.step w a = some w') : ForwardInvariant id w' where
  regular := hinv.regular.step hstep
  inOrder := hinv.inOrder.step hstep
  stored := (hinv.row hforward hstep).1
  bills := World.forall_run_step hinv.bills
    (fun _ _ _ _ _ hrun => billsForward_of_read hinv.stored hrun) hstep

end Rows

end ExpresSync
