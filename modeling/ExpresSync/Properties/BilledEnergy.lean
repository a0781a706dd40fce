import ExpresSync.Properties.ObjectTally
import ExpresSync.Properties.SyncSteps

/-!
# What Lago has accepted for one transaction

`billedKwh` under the deliveries of both paths, and what a sync run bills for a
transaction whose meter values are known: the metered energy less the running total it has read,
under the identifier `_final`, or nothing when that is within the tolerance.
-/

namespace ExpresSync

/-! ## The sum of the accepted events -/

section Accepted

variable {lago : LagoEvents} {id : ℕ}

lemma billedKwh_record_of_has {event : LagoEvent} (h : lago.Has event.transactionId) :
    billedKwh (lago.record event) id = billedKwh lago id := by
  rw [KeyedLog.record_of_has h]

lemma billedKwh_record_of_fresh {event : LagoEvent} (h : ¬lago.Has event.transactionId)
    (hid : event.transactionId.steveTransactionId = id) :
    billedKwh (lago.record event) id = billedKwh lago id + event.properties.value.toRat := by
  rw [billedKwh, KeyedLog.total_record h]
  simp [billedKwh, hid]

lemma billedKwh_record_of_ne {event : LagoEvent}
    (hid : event.transactionId.steveTransactionId ≠ id) :
    billedKwh (lago.record event) id = billedKwh lago id :=
  KeyedLog.total_record_of_not_sel _ (by simpa using hid)

/-- A batch adds nothing to a transaction when Lago has all its events for it already. -/
lemma billedKwh_recordAll_of_has {events : List LagoEvent}
    (h : ∀ event ∈ events, event.transactionId.steveTransactionId = id →
      lago.Has event.transactionId) :
    billedKwh (lago.recordAll events) id = billedKwh lago id :=
  KeyedLog.total_recordAll_of_has _ fun event he hsel => h event he (by simpa using hsel)

/-- The true-up identifier of the transaction is the only one under which a batch carries
anything for it. -/
def OnlyFinal (id : ℕ) (v : ℚ) (events : List LagoEvent) : Prop :=
  ∀ event ∈ events, event.transactionId.steveTransactionId = id →
    event.transactionId = .final id ∧ event.properties.value = .fin v

/-- A batch adds the true-up of a transaction if it carries it and Lago does not have it yet. -/
lemma billedKwh_recordAll (lago : LagoEvents) {v : ℚ} {events : List LagoEvent}
    (h : OnlyFinal id v events) :
    billedKwh (lago.recordAll events) id =
      billedKwh lago id +
        if ¬lago.Has (.final id) ∧ (lago.recordAll events).Has (.final id) then v else 0 := by
  induction events generalizing lago with
  | nil => simp
  | cons event events ih =>
      have htail : OnlyFinal id v events := fun e he => h e (List.mem_cons_of_mem event he)
      rw [KeyedLog.recordAll_cons, ih _ htail]
      by_cases hid : event.transactionId.steveTransactionId = id
      · obtain ⟨hkey, hvalue⟩ := h event List.mem_cons_self hid
        have hhas : (lago.record event).Has (.final id) :=
          KeyedLog.has_record.mpr (Or.inr hkey.symm)
        have hall : ((lago.record event).recordAll events).Has (.final id) :=
          KeyedLog.has_recordAll.mpr (Or.inl hhas)
        rw [if_neg (by tauto), add_zero]
        by_cases hold : lago.Has (.final id)
        · rw [if_neg (by tauto), add_zero, billedKwh_record_of_has (hkey ▸ hold)]
        · rw [if_pos ⟨hold, hall⟩, billedKwh_record_of_fresh (hkey ▸ hold) hid, hvalue]
          rfl
      · have hne : LagoEventTransactionId.final id ≠ event.transactionId := fun hc =>
          hid (by rw [← hc]; rfl)
        have hiff : (lago.record event).Has (.final id) ↔ lago.Has (.final id) := by
          rw [KeyedLog.has_record]
          tauto
        rw [billedKwh_record_of_ne hid]
        simp only [hiff]

/-- A batch leaves the incremental identifiers of a transaction alone. -/
lemma has_incremental_recordAll {v : ℚ} {events : List LagoEvent} (h : OnlyFinal id v events)
    (seconds : ℕ) :
    (lago.recordAll events).Has (.incremental id seconds) ↔ lago.Has (.incremental id seconds) := by
  rw [KeyedLog.has_recordAll]
  constructor
  · rintro (hold | ⟨event, hmem, hkey⟩)
    · exact hold
    · have hid : event.transactionId.steveTransactionId = id := by rw [← hkey]; rfl
      rw [(h event hmem hid).1] at hkey
      cases hkey
  · exact Or.inl

end Accepted

/-! ## What a sync run bills -/

/-- The energy of a session, in kWh. -/
def sessionKwh (start stop : ℤ) : ℚ := ((stop : ℚ) - start) / 1000

lemma sessionKwh_grid (start stop : ℤ) : OnGrid 3 (sessionKwh start stop) :=
  ⟨stop - start, by push_cast [sessionKwh]; norm_num⟩

/-- StEvE lists the transaction with these meter values. -/
def ListedAs (steveTransactionId : ℕ) (start stop : ℤ) (_ : World) : Action → Prop
  | .syncReads inputs _ =>
      ∀ tx ∈ inputs.recentlyCompleted, tx.id = steveTransactionId →
        tx.startMeter = some start ∧ tx.stopMeter = some stop
  | _ => True

instance (id : ℕ) (start stop : ℤ) (w : World) (a : Action) :
    Decidable (ListedAs id start stop w a) := by
  unfold ListedAs
  rcases a <;> infer_instance

/-- What a sync run that has read the total `prior` does about a transaction of `full` kWh. -/
structure SyncRun.BillsSession (run : SyncRun) (id : ℕ) (full prior : ℚ) : Prop where
  read : priorBilledKwh (run.syncStates id) = .fin prior
  grid : OnGrid 3 prior
  full_grid : OnGrid 3 full
  keys : ∀ pt ∈ run.processed, pt.lagoEventTransactionId.steveTransactionId = pt.steveTransactionId
  final : ∀ pt ∈ run.processed, pt.steveTransactionId = id → pt.isFinal = true
  covered_or_rest : ∀ pt ∈ run.processed, pt.steveTransactionId = id →
    (full - prior ≤ alreadyBilledToleranceKwh ∧ pt.kwhDelta = .fin 0 ∧
        pt.shouldSendToLago = false) ∨
      (alreadyBilledToleranceKwh < full - prior ∧ pt.kwhDelta = .fin (full - prior) ∧
        pt.lagoEventTransactionId = .final id ∧
        (pt.shouldSendToLago = false → pt.skipReason = some .noSubscription ∨
          pt.skipReason = some .nonUsagePlan))
  events : OnlyFinal id (full - prior) run.lagoEvents
  events_due : ∀ event ∈ run.lagoEvents, event.transactionId.steveTransactionId = id →
    alreadyBilledToleranceKwh < full - prior ∧
      ∃ pt ∈ run.processed, pt.steveTransactionId = id ∧ pt.shouldSendToLago = true

/-- The total a run writes for the transaction: what it has read, when that covers the session, or
else the whole session. -/
lemma SyncRun.BillsSession.stateUpdate_total {run : SyncRun} {id : ℕ} {full prior : ℚ}
    (h : run.BillsSession id full prior) {pt : ProcessedTransaction} {row : TransactionSyncState}
    (hmem : pt ∈ run.processed) (hid : pt.steveTransactionId = id)
    (hupdate : (run.stateUpdate pt).toRow = some row) :
    (full - prior ≤ alreadyBilledToleranceKwh ∧ row.totalKwhBilled = .fin prior) ∨
      (alreadyBilledToleranceKwh < full - prior ∧ row.totalKwhBilled = .fin full) := by
  obtain ⟨-, -, htotal, -⟩ := NewTransactionSyncState.toRow_eq_some hupdate
  rw [htotal]
  rcases h.covered_or_rest pt hmem hid with ⟨hcovered, hzero, -⟩ | ⟨hrest, hkwh, -⟩
  · refine Or.inl ⟨hcovered, ?_⟩
    simp only [SyncRun.stateUpdate, hid, h.read, hzero, JsNumber.fin_add_fin, JsNumber.map_fin,
      add_zero, toFixed_six_of_grid h.grid]
  · refine Or.inr ⟨hrest, ?_⟩
    have hsum : prior + (full - prior) = full := by ring
    simp only [SyncRun.stateUpdate, hid, h.read, hkwh, JsNumber.fin_add_fin, JsNumber.map_fin, hsum,
      toFixed_six_of_grid h.full_grid]

lemma truthy_of_stopMeter {tx : StEvETransaction} {stop : ℤ} (h : tx.stopMeter = some stop) :
    truthy tx.stopValue = true := by
  cases hs : tx.stopValue with
  | none => simp [StEvETransaction.stopMeter, hs] at h
  | some s =>
      by_contra hfalse
      have hempty : s = "" := by simpa [truthy] using hfalse
      rw [StEvETransaction.stopMeter, hs, hempty] at h
      have hnan : parseInt "" = none := by decide +kernel
      simp [hnan] at h

/-- What the billing step does for a transaction with known meter values. -/
lemma billTransaction_of_meters {tx : TransactionWithCompletion}
    {syncState : Option TransactionSyncState} {mapping : UserMapping}
    {resolved : Option ResolvedSubscription} {pt : ProcessedTransaction} {start stop : ℤ}
    {prior : ℚ} (h : billTransaction tx syncState mapping resolved = some pt)
    (hstart : tx.startMeter = some start) (hstop : tx.stopMeter = some stop)
    (hprior : priorBilledKwh syncState = .fin prior) (hgrid : OnGrid 3 prior) :
    (sessionKwh start stop - prior ≤ alreadyBilledToleranceKwh ∧ pt.kwhDelta = .fin 0 ∧
        pt.shouldSendToLago = false) ∨
      (alreadyBilledToleranceKwh < sessionKwh start stop - prior ∧
        pt.kwhDelta = .fin (sessionKwh start stop - prior) ∧
        pt.lagoEventTransactionId = .final tx.id ∧
        (pt.shouldSendToLago = false → pt.skipReason = some .noSubscription ∨
          pt.skipReason = some .nonUsagePlan)) := by
  obtain ⟨fullDelta, hdelta, -, -, -, -, -, hcase⟩ := billTransaction_spec h
  have hcompleted := isCompleted_of_calculateDelta hdelta
  rw [calculateDelta_of_meters hcompleted (truthy_of_stopMeter hstop) hstart hstop
    (lt_of_calculateDelta hdelta hstart hstop)] at hdelta
  obtain rfl := Option.some.inj hdelta
  have hremaining : remainingKwh ⟨.fin (((stop : ℚ) - start) / 1000), .fin start, .fin stop⟩
      syncState = .fin (sessionKwh start stop - prior) := by
    simp only [remainingKwh, hprior, JsNumber.fin_sub_fin, JsNumber.map_fin]
    rw [← sessionKwh, roundTo_six_of_grid ((sessionKwh_grid start stop).sub hgrid)]
  rw [hremaining, JsNumber.fin_le_fin] at hcase
  rcases hcase with ⟨hle, hzero, hskip⟩ | ⟨hgt, hkwh, -, hkey, hsend⟩
  · exact Or.inl ⟨hle, hzero, hskip⟩
  · refine Or.inr ⟨not_le.mp hgt, hkwh, hkey, fun hskip => ?_⟩
    have hreason := billTransaction_skipReason h (by rw [hkey]; simp)
    rw [hsend] at hskip
    rw [hreason]
    unfold subscriptionSkipReason at hskip ⊢
    split at hskip
    · split at hskip
      · next hplan => rw [if_pos (by assumption), if_pos hplan]; exact Or.inr rfl
      · simp at hskip
    · next hsub => rw [if_neg hsub]; exact Or.inl rfl

/-- What a run that has just read bills for a transaction listed with known meter values. -/
lemma billsSession_of_read {db : Db} {inputs : SyncInputs} {runId now id : ℕ} {run : SyncRun}
    {start stop : ℤ} {prior : ℚ} (hrun : readSync inputs db runId now = .ok run)
    (hlisted : ∀ tx ∈ inputs.recentlyCompleted, tx.id = id →
      tx.startMeter = some start ∧ tx.stopMeter = some stop)
    (hprior : db.billedTotal id = .fin prior) (hgrid : OnGrid 3 prior) :
    run.BillsSession id (sessionKwh start stop) prior := by
  obtain ⟨-, hstates, hprocessed, -⟩ := readSync_eq_ok hrun
  have hmatch := World.readSync_eventsMatch hrun
  have hpts : ∀ pt ∈ run.processed, ∃ tx ∈ transactionMap inputs.recentlyCompleted, ∃ m resolved,
      pt.steveTransactionId = tx.id ∧
        billTransaction tx (db.transactionSyncState tx.id) m resolved = some pt := by
    intro pt hpt
    rw [hprocessed] at hpt
    obtain ⟨tx, htx, m, cache, hid, -, -, hbill⟩ := SyncInputs.mem_process hpt
    exact ⟨tx, htx, m, _, hid, hbill⟩
  have hcases : ∀ pt ∈ run.processed, pt.steveTransactionId = id →
      (sessionKwh start stop - prior ≤ alreadyBilledToleranceKwh ∧ pt.kwhDelta = .fin 0 ∧
          pt.shouldSendToLago = false) ∨
        (alreadyBilledToleranceKwh < sessionKwh start stop - prior ∧
          pt.kwhDelta = .fin (sessionKwh start stop - prior) ∧
          pt.lagoEventTransactionId = .final id ∧
          (pt.shouldSendToLago = false → pt.skipReason = some .noSubscription ∨
            pt.skipReason = some .nonUsagePlan)) := by
    intro pt hpt hid
    obtain ⟨tx, htx, m, resolved, hid', hbill⟩ := hpts pt hpt
    have htxid : tx.id = id := hid'.symm.trans hid
    obtain ⟨hstart, hstop⟩ := hlisted tx.toStEvETransaction (mem_transactionMap htx) htxid
    have hread : priorBilledKwh (db.transactionSyncState tx.id) = .fin prior := by
      rw [htxid]
      exact hprior
    have hcase := billTransaction_of_meters hbill hstart hstop hread hgrid
    rwa [htxid] at hcase
  have hkeys : ∀ pt ∈ run.processed,
      pt.lagoEventTransactionId.steveTransactionId = pt.steveTransactionId := by
    intro pt hpt
    obtain ⟨tx, -, m, resolved, hid, hbill⟩ := hpts pt hpt
    rw [hid]
    exact billTransaction_key hbill
  have hevents : ∀ event ∈ run.lagoEvents, event.transactionId.steveTransactionId = id →
      ∃ pt ∈ run.processed, pt.steveTransactionId = id ∧ pt.shouldSendToLago = true ∧
        IsEventOf pt event := by
    intro event hevent heid
    obtain ⟨pt, hpt, hof⟩ := exists_of_forall₂_mem_right hmatch hevent
    obtain ⟨hmem, hsend⟩ := SyncRun.mem_transactionsToSend.mp hpt
    refine ⟨pt, hmem, ?_, hsend, hof⟩
    rw [← hkeys pt hmem, ← hof.transactionId]
    exact heid
  refine ⟨by rw [hstates]; exact hprior, hgrid, sessionKwh_grid _ _, hkeys, ?_, hcases, ?_, ?_⟩
  · intro pt hpt _
    obtain ⟨tx, -, m, resolved, -, hbill⟩ := hpts pt hpt
    obtain ⟨_, -, -, -, hfinal, -⟩ := billTransaction_spec hbill
    exact hfinal
  · intro event hevent heid
    obtain ⟨pt, hpt, hid, hsend, hof⟩ := hevents event hevent heid
    rcases hcases pt hpt hid with ⟨-, -, hskip⟩ | ⟨-, hkwh, hkey, -⟩
    · rw [hsend] at hskip
      cases hskip
    · refine ⟨by rw [hof.transactionId, hkey], ?_⟩
      rw [hof.value, hkwh]
      simp only [JsNumber.map_fin]
      rw [toFixed_of_onGrid ((sessionKwh_grid start stop).sub hgrid)]
  · intro event hevent heid
    obtain ⟨pt, hpt, hid, hsend, -⟩ := hevents event hevent heid
    rcases hcases pt hpt hid with ⟨-, -, hskip⟩ | ⟨hgt, -⟩
    · rw [hsend] at hskip
      cases hskip
    · exact ⟨hgt, pt, hpt, hid, hsend⟩

end ExpresSync
