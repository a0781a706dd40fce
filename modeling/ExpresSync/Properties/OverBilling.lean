import ExpresSync.Properties.BilledEnergy

/-!
# No session is billed twice

One running total lives in three places: in the emitter's record, in the row of the transaction
and, as the sum of the accepted events, in Lago.  Nobody is billed twice as long as whoever sends
starts from a total that is not behind what Lago has accepted.  Neither a fresh record (`0`, after
a restart or an eviction) nor a row that missed a write gives that; the condition below is what
does: the record is not behind the row, every accepted event has its row in
`synced_transaction_events`, and nobody else is between sending and writing.
-/

namespace ExpresSync

open Transition

/-- Lago has accepted no more than the energy of the session, up to the tolerance. -/
def NotOverBilled (steveTransactionId : ℕ) (full : ℚ) (w : World) : Prop :=
  billedKwh w.lago steveTransactionId ≤ full + alreadyBilledToleranceKwh

instance (id : ℕ) (full : ℚ) (w : World) : Decidable (NotOverBilled id full w) := by
  unfold NotOverBilled
  infer_instance

/-- The samples of a transaction lie between its start and its stop value. -/
def SamplesWithin (steveTransactionId : ℕ) (start stop : ℤ) (_ : World) : Action → Prop
  | .sample sample =>
      sample.steveTransactionId = steveTransactionId →
        ∀ kwh ∈ sample.kwh, start ≤ meterWh kwh ∧ meterWh kwh ≤ stop
  | _ => True

instance (id : ℕ) (start stop : ℤ) (w : World) (a : Action) :
    Decidable (SamplesWithin id start stop w a) := by
  unfold SamplesWithin
  rcases a <;> infer_instance

/-! ## The condition -/

/-- A flush has sent its event and not yet written it. -/
def FlushPoint.unsettled : FlushPoint → Bool
  | .posting _ => true
  | .persisting _ => true
  | _ => false

/-- The object has a flush that has sent its event and not yet written it. -/
def TxObject.unsettled (obj : TxObject) : Bool := obj.flushing.any (·.point.unsettled)

/-- Every event of the transaction that Lago has accepted has its row, those under an identifier
in `except` apart. -/
def RecordedBut (except : List LagoEventTransactionId) (id : ℕ) (w : World) : Prop :=
  ∀ key ∈ w.lago.entries.map LagoEvent.transactionId, key.steveTransactionId = id →
    w.db.syncedTransactionEvents.Has key ∨ key ∈ except

/-- No flush of the transaction is between sending and writing. -/
def NoneUnsettled (id : ℕ) (w : World) : Prop :=
  ∀ obj ∈ w.heap, obj.st.steveTransactionId = id → obj.unsettled = false

/-- The sync run in progress, if any, does not process the transaction. -/
def NotInRun (id : ℕ) (w : World) : Prop :=
  ∀ phase ∈ w.sync, ∀ pt ∈ phase.run.processed, pt.steveTransactionId ≠ id

instance (except : List LagoEventTransactionId) (id : ℕ) (w : World) :
    Decidable (RecordedBut except id w) := by
  unfold RecordedBut
  infer_instance

instance (id : ℕ) (w : World) : Decidable (NoneUnsettled id w) := by
  unfold NoneUnsettled
  infer_instance

instance (id : ℕ) (w : World) : Decidable (NotInRun id w) := by
  unfold NotInRun
  infer_instance

/-- Whoever sends does so on a complete record: a flush from a total that is not behind the row,
with every accepted event written and nobody else at it; a sync run with every accepted event
written, its own true-up of an earlier run apart, and no flush at it. -/
def SendsOnRecord (steveTransactionId : ℕ) (w : World) : Action → Prop
  | .flush i .resumes =>
      ∀ obj ∈ w.heap[i]?, obj.st.steveTransactionId = steveTransactionId →
        obj.aboutToSend = some true →
          w.db.billedTotal steveTransactionId ≤ .fin obj.st.totalBilledKwh ∧
            RecordedBut [] steveTransactionId w ∧ NoneUnsettled steveTransactionId w ∧
              NotInRun steveTransactionId w
  | .syncReads inputs _ =>
      ∀ pt ∈ inputs.process w.db, pt.steveTransactionId = steveTransactionId →
        RecordedBut [.final steveTransactionId] steveTransactionId w ∧
          NoneUnsettled steveTransactionId w
  | _ => True

instance (id : ℕ) (w : World) (a : Action) : Decidable (SendsOnRecord id w a) := by
  unfold SendsOnRecord
  rcases a
  case flush i event => rcases event <;> infer_instance
  all_goals infer_instance

/-! ## Records within the meter -/

/-- What an object has sent and has pending is no more than its samples account for, and these lie
between `start` and `stop`. -/
def TxObject.WithinMeter (obj : TxObject) (start stop : ℤ) : Prop :=
  ∃ first ∈ obj.tally.start, ∃ last ∈ obj.tally.last, start ≤ first ∧ last ≤ stop ∧
    obj.tally.total + obj.tally.pending ≤ ((last : ℚ) - first) / 1000

lemma TxObject.WithinMeter.le_session {obj : TxObject} {start stop : ℤ}
    (h : obj.WithinMeter start stop) :
    obj.tally.total + obj.tally.pending ≤ sessionKwh start stop := by
  obtain ⟨first, -, last, -, hfirst, hlast, hle⟩ := h
  have hfirst' : (start : ℚ) ≤ first := by exact_mod_cast hfirst
  have hlast' : (last : ℚ) ≤ stop := by exact_mod_cast hlast
  unfold sessionKwh
  linarith

lemma firstSample_withinMeter {sample : MeterSample} {meterValueWh start stop : ℤ} (now : ℕ)
    (hstart : start ≤ meterValueWh) (hstop : meterValueWh ≤ stop) :
    (firstSample sample meterValueWh now).WithinMeter start stop := by
  obtain ⟨htally, -, -⟩ := firstSample_eq sample meterValueWh now
  refine ⟨meterValueWh, by rw [htally]; rfl, meterValueWh, by rw [htally]; rfl, hstart, hstop, ?_⟩
  rw [htally]
  simp

/-- Samples in the assumed range keep a record within the meter, whatever its flushes do. -/
lemma TxObject.WithinMeter.step {w : World} {id i : ℕ} {a : Action} {obj obj' : TxObject}
    {start stop : ℤ} (hreg : obj.Regular) (hwithin : obj.WithinMeter start stop)
    (hobj : w.heap[i]? = some obj) (hid : obj.st.steveTransactionId = id)
    (hrise : SamplesRise id w a) (hrange : SamplesWithin id start stop w a)
    (h : ObjectStep w i a obj obj') : obj'.WithinMeter start stop := by
  obtain ⟨first, hfirst, last, hlast, hlow, hhigh, hle⟩ := hwithin
  have hsame : obj'.tally = obj.tally → obj'.WithinMeter start stop := fun htally =>
    ⟨first, by rw [htally]; exact hfirst, last, by rw [htally]; exact hlast, hlow, hhigh,
      by rw [htally]; exact hle⟩
  cases h.tallyStep hreg.anchored with
  | idle htally hflush => exact hsame htally
  | sent ha hflush hpoint hsub htally hflush' => exact hsame htally
  | answered ha hflush hpoint hhas htally hflush' => exact hsame htally
  | committed ha hflush hpoint htally hflush' => exact hsame htally
  | sampled ha hkwh hheld hid' hlast' hguard htally hflush =>
      next sample kwh last' =>
      obtain rfl : last' = last := Option.some.inj (hlast'.symm.trans hlast)
      subst ha
      have hsid : sample.steveTransactionId = id := hid'.symm.trans hid
      have hmono : last' ≤ meterWh kwh :=
        hrise hsid kwh hkwh obj (List.mem_of_getElem? hobj) hheld hid last' hlast
      refine ⟨first, by rw [htally]; exact hfirst, meterWh kwh, by rw [htally]; rfl, hlow,
        (hrange hsid kwh hkwh).2, ?_⟩
      rw [htally]
      simp only [Tally.add]
      split
      · linarith
      · next hnot => rwa [le_antisymm (not_lt.mp hnot) hmono]
  | dropped ha hflush hpoint hdrop htally hflush' =>
      refine ⟨first, by rw [htally]; exact hfirst, last, by rw [htally]; exact hlast, hlow,
        hhigh, ?_⟩
      rw [htally]
      have hnonneg := hreg.pending_nonneg
      simp only []
      linarith
  | succeeded ha hflush hpoint htally hflush' =>
      have hargs := hreg.flight _ hflush
      rw [hpoint] at hargs
      obtain ⟨-, -, hpending, hnew, -⟩ := hargs
      refine ⟨first, by rw [htally]; exact hfirst, last, by rw [htally]; exact hlast, hlow,
        hhigh, ?_⟩
      rw [htally]
      simp only [hnew]
      linarith

/-! ## The invariant -/

/-- The total a flush will write covers what Lago has accepted, before and after its own event. -/
def BackedAt (lago : LagoEvents) (id : ℕ) (t : Tally) : FlushPoint → Prop
  | .posting post =>
      (¬lago.Has post.event.transactionId → billedKwh lago id ≤ t.total) ∧
        billedKwh lago id ≤ t.total + post.flushKwh
  | .persisting args => lago.Has args.lagoEventTransactionId ∧ billedKwh lago id ≤ args.newTotal
  | _ => True

/-- What is known about the running total a sync run has read, when the run processes the
transaction. -/
def ReadCovers (id : ℕ) (w : World) (run : SyncRun) (prior : ℚ) : Prop :=
  (∃ pt ∈ run.processed, pt.steveTransactionId = id) →
    (RecordedBut [] id w → billedKwh w.lago id ≤ prior) ∧
      (¬w.lago.Has (.final id) → billedKwh w.lago id ≤ prior)

/-- The invariant of runs in which everyone sends on record. -/
structure OverBillingInvariant (id : ℕ) (start stop : ℤ) (w : World) : Prop where
  regular : w.Regular
  inOrder : w.RunInOrder
  sum : billedKwh w.lago id ≤ sessionKwh start stop
  row : ∃ r, w.db.billedTotal id = .fin r ∧ OnGrid 3 r
  accepted : ∀ key, w.db.syncedTransactionEvents.Has key → key.steveTransactionId = id →
    w.lago.Has key
  covered : RecordedBut [] id w → ∀ r, w.db.billedTotal id = .fin r → billedKwh w.lago id ≤ r
  within : ∀ (i : ℕ) (obj : TxObject), w.heap[i]? = some obj → obj.st.steveTransactionId = id →
    obj.WithinMeter start stop
  backed : ∀ (i : ℕ) (obj : TxObject), w.heap[i]? = some obj → obj.st.steveTransactionId = id →
    ∀ flush, obj.flushing = some flush → BackedAt w.lago id obj.tally flush.point
  alone : ∀ (i j : ℕ) (obj other : TxObject), w.heap[i]? = some obj → w.heap[j]? = some other →
    obj.st.steveTransactionId = id → other.st.steveTransactionId = id →
      obj.unsettled = true → other.unsettled = true → i = j
  apart : ∀ (i : ℕ) (obj : TxObject), w.heap[i]? = some obj → obj.st.steveTransactionId = id →
    obj.unsettled = true → NotInRun id w
  run : ∀ phase ∈ w.sync, ∃ prior, phase.run.BillsSession id (sessionKwh start stop) prior ∧
    ReadCovers id w phase.run prior

lemma initial_overBillingInvariant (userMappings : List UserMapping) (clock id : ℕ)
    {start stop : ℤ} (hle : start ≤ stop) :
    OverBillingInvariant id start stop (World.initial userMappings clock) where
  regular := World.initial_regular _ _
  inOrder := World.initial_runInOrder _ _
  sum := by
    have hle' : (start : ℚ) ≤ stop := by exact_mod_cast hle
    have hfull : 0 ≤ sessionKwh start stop := by
      unfold sessionKwh
      apply div_nonneg <;> linarith
    exact hfull
  row := ⟨0, rfl, OnGrid.zero 3⟩
  accepted := fun key h => absurd h (KeyedLog.not_has_empty _)
  covered := fun _ r hr => by
    obtain rfl : 0 = r := by
      simpa [World.initial, Db.billedTotal, priorBilledKwh, Db.empty] using hr
    exact le_refl 0
  within := fun i obj h => by simp [World.initial] at h
  backed := fun i obj h => by simp [World.initial] at h
  alone := fun i j obj other h => by simp [World.initial] at h
  apart := fun i obj h => by simp [World.initial] at h
  run := fun phase h => by simp [World.initial] at h

/-! ## Flushes between sending and writing -/

lemma unsettled_of_point {obj : TxObject} {flush : Flush} (h : obj.flushing = some flush) :
    obj.unsettled = flush.point.unsettled := by simp [TxObject.unsettled, h]

section Objects

variable {id i : ℕ} {w w' : World} {a : Action} {obj obj' : TxObject}

/-- A flush is between sending and writing when it was before, or because it sends now. -/
lemma unsettled_step (hreg : obj.Regular) (h : ObjectStep w i a obj obj')
    (hunsettled : obj'.unsettled = true) :
    obj.unsettled = true ∨ (a = .flush i .resumes ∧ obj.aboutToSend = some true) := by
  have hsame : obj'.flushing = obj.flushing ∨ obj'.NotSending → obj.unsettled = true := by
    rintro (hsame | hnot)
    · rw [TxObject.unsettled, ← hsame]
      exact hunsettled
    · exfalso
      cases hf : obj'.flushing with
      | none => simp [TxObject.unsettled, hf] at hunsettled
      | some flush =>
          rw [unsettled_of_point hf] at hunsettled
          have hnot' := hnot flush hf
          cases hp : flush.point <;> simp [hp, FlushPoint.unsettled, FlushPoint.Sending] at *
  cases h.tallyStep hreg.anchored with
  | idle htally hflush => exact Or.inl (hsame hflush)
  | sampled ha hkwh hheld hid' hlast hguard htally hflush => exact Or.inl (hsame hflush)
  | sent ha hflush hpoint hsub htally hflush' =>
      exact Or.inr ⟨ha, by simp [TxObject.aboutToSend, hflush, hpoint, hsub]⟩
  | dropped ha hflush hpoint hdrop htally hflush' =>
    simp [TxObject.unsettled, hflush'] at hunsettled
  | answered ha hflush hpoint hhas htally hflush' =>
      exact Or.inl (by simp [unsettled_of_point hflush, hpoint, FlushPoint.unsettled])
  | committed ha hflush hpoint htally hflush' =>
      simp [unsettled_of_point hflush', FlushPoint.unsettled] at hunsettled
  | succeeded ha hflush hpoint htally hflush' => simp [TxObject.unsettled, hflush'] at hunsettled

/-- An unsettled object after a step has an unsettled predecessor, or one about to send. -/
lemma exists_of_unsettled (hregular : w.Regular) (hstep : World.step w a = some w')
    (hobj' : w'.heap[i]? = some obj') (hid : obj'.st.steveTransactionId = id)
    (hunsettled : obj'.unsettled = true) :
    ∃ obj, w.heap[i]? = some obj ∧ obj.st.steveTransactionId = id ∧ ObjectStep w i a obj obj' ∧
      (obj.unsettled = true ∨ (a = .flush i .resumes ∧ obj.aboutToSend = some true)) := by
  rcases World.step_object hstep hobj' with ⟨obj, hobj, hos⟩ | ⟨sample, kwh, -, -, -, -, rfl⟩
  · exact ⟨obj, hobj, by rw [← hos.steveTransactionId]; exact hid, hos,
      unsettled_step (hregular i obj hobj) hos hunsettled⟩
  · obtain ⟨-, hflush, -⟩ := firstSample_eq sample (meterWh kwh) w.clock
    simp [TxObject.unsettled, hflush] at hunsettled

end Objects

section Steps

variable {id : ℕ} {start stop : ℤ} {w w' : World} {a : Action}

lemma OverBillingInvariant.alone_step (hinv : OverBillingInvariant id start stop w)
    (hsends : SendsOnRecord id w a) (hstep : World.step w a = some w') :
    ∀ (i j : ℕ) (obj other : TxObject), w'.heap[i]? = some obj → w'.heap[j]? = some other →
      obj.st.steveTransactionId = id → other.st.steveTransactionId = id →
        obj.unsettled = true → other.unsettled = true → i = j := by
  intro i j obj' other' hi hj hid hid' hun hun'
  obtain ⟨obj, hobj, hoid, -, hcase⟩ := exists_of_unsettled hinv.regular hstep hi hid hun
  obtain ⟨other, hother, hoid', -, hcase'⟩ := exists_of_unsettled hinv.regular hstep hj hid' hun'
  rcases hcase with hold | ⟨ha, habout⟩
  · rcases hcase' with hold' | ⟨ha', habout'⟩
    · exact hinv.alone i j obj other hobj hother hoid hoid' hold hold'
    · subst ha'
      have hnone := (hsends other hother hoid' habout').2.2.1 obj (List.mem_of_getElem? hobj) hoid
      rw [hold] at hnone
      cases hnone
  · subst ha
    rcases hcase' with hold' | ⟨ha', -⟩
    · have hnone := (hsends obj hobj hoid habout).2.2.1 other (List.mem_of_getElem? hother) hoid'
      rw [hold'] at hnone
      cases hnone
    · cases ha'
      rfl

/-- Whoever has a flush between sending and writing is not in a sync run. -/
lemma OverBillingInvariant.apart_step (hinv : OverBillingInvariant id start stop w)
    (hsends : SendsOnRecord id w a) (hstep : World.step w a = some w') :
    ∀ (i : ℕ) (obj : TxObject), w'.heap[i]? = some obj → obj.st.steveTransactionId = id →
      obj.unsettled = true → NotInRun id w' := by
  intro i obj' hi hid hun
  obtain ⟨obj, hobj, hoid, hos, hcase⟩ := exists_of_unsettled hinv.regular hstep hi hid hun
  have hbefore : NotInRun id w := by
    rcases hcase with hold | ⟨rfl, habout⟩
    · exact hinv.apart i obj hobj hoid hold
    · exact (hsends obj hobj hoid habout).2.2.2
  refine World.forall_run_step (P := fun run => ∀ pt ∈ run.processed, pt.steveTransactionId ≠ id)
    hbefore ?_ hstep
  rintro inputs runId run rfl hnone hrun pt hpt hptid
  rw [(readSync_eq_ok hrun).2.2.1] at hpt
  obtain ⟨-, hnoneUnsettled⟩ := hsends pt hpt hptid
  rcases hcase with hold | ⟨ha, -⟩
  · have hno := hnoneUnsettled obj (List.mem_of_getElem? hobj) hoid
    rw [hold] at hno
    cases hno
  · cases ha

lemma OverBillingInvariant.within_step (hinv : OverBillingInvariant id start stop w)
    (hrise : SamplesRise id w a) (hrange : SamplesWithin id start stop w a)
    (hstep : World.step w a = some w') :
    ∀ (i : ℕ) (obj : TxObject), w'.heap[i]? = some obj → obj.st.steveTransactionId = id →
      obj.WithinMeter start stop := by
  intro i obj' hobj' hid'
  rcases World.step_object hstep hobj' with ⟨obj, hobj, hos⟩ | ⟨sample, kwh, ha, hkwh, -, -, rfl⟩
  · have hid : obj.st.steveTransactionId = id := by rw [← hos.steveTransactionId]; exact hid'
    exact (hinv.within i obj hobj hid).step (hinv.regular i obj hobj) hobj hid hrise hrange hos
  · subst ha
    rw [(firstSample_eq sample (meterWh kwh) w.clock).2.2] at hid'
    obtain ⟨hlow, hhigh⟩ := hrange hid' kwh hkwh
    exact firstSample_withinMeter _ hlow hhigh

/-! ## What Lago accepts -/

/-- Lago forgets nothing. -/
lemma lago_has_step (hstep : World.step w a = some w') {key : LagoEventTransactionId}
    (h : w.lago.Has key) : w'.lago.Has key := by
  cases World.step_shared hstep with
  | quiet hrows hevents hlago hsync => rwa [hlago]
  | lagoReceived hobj hflush hpoint => exact KeyedLog.has_record.mpr (Or.inl h)
  | syncReceived hsync => exact KeyedLog.has_recordAll.mpr (Or.inl h)
  | committed | syncRead | syncPersisted | syncSaved | syncEnded => exact h

/-- A flush between sending and writing keeps its bound while Lago accepts nothing for the
transaction. -/
lemma BackedAt.mono {lago lago' : LagoEvents} {t : Tally} {point : FlushPoint}
    (hsum : billedKwh lago' id = billedKwh lago id)
    (hhas : ∀ key, lago.Has key → lago'.Has key) (h : BackedAt lago id t point) :
    BackedAt lago' id t point := by
  cases point with
  | posting post =>
      exact ⟨fun hfresh => by rw [hsum]; exact h.1 fun hold => hfresh (hhas _ hold),
        by rw [hsum]; exact h.2⟩
  | persisting args => exact ⟨hhas _ h.1, by rw [hsum]; exact h.2⟩
  | steveTransaction | userMapping | subscriptions | resolved | persisted => trivial

lemma BackedAt.of_settled {lago : LagoEvents} {t : Tally} {point : FlushPoint}
    (h : point.unsettled = false) : BackedAt lago id t point := by
  cases point with
  | posting | persisting => simp [FlushPoint.unsettled] at h
  | steveTransaction | userMapping | subscriptions | resolved | persisted => trivial

lemma OverBillingInvariant.row_step (hinv : OverBillingInvariant id start stop w)
    (hstep : World.step w a = some w') : ∃ r, w'.db.billedTotal id = .fin r ∧ OnGrid 3 r := by
  cases World.step_row hinv.inOrder hstep id with
  | same hrow =>
      rw [(Db.same_row hrow).1]
      exact hinv.row
  | flushed ha hobj hid hflush hpoint hrow htotal hfinal =>
      next i obj flush args row =>
      have hreg := hinv.regular i obj hobj
      have hargs := hreg.flight flush hflush
      rw [hpoint] at hargs
      have hgrid : OnGrid 3 args.newTotal := by
        rw [hargs.2.2.2.1]
        exact hreg.total_grid.add hargs.1
      rw [Db.billedTotal_of_row hrow, htotal, toFixed_six_of_grid hgrid]
      exact ⟨_, rfl, hgrid⟩
  | synced hphase hmem hwrites hid hupdate hrow hsent =>
      obtain ⟨prior, hbills, -⟩ := hinv.run _ hphase
      rw [Db.billedTotal_of_row hrow]
      rcases hbills.stateUpdate_total hmem hid hupdate with ⟨-, htotal⟩ | ⟨-, htotal⟩
      · exact ⟨prior, htotal, hbills.grid⟩
      · exact ⟨_, htotal, hbills.full_grid⟩

/-- The total a flush writes is a whole number of Wh and covers what Lago has accepted. -/
lemma OverBillingInvariant.newTotal (hinv : OverBillingInvariant id start stop w) {i : ℕ}
    {obj : TxObject} {flush : Flush} {args : FlushPersistArgs} (hobj : w.heap[i]? = some obj)
    (hid : obj.st.steveTransactionId = id) (hflush : obj.flushing = some flush)
    (hpoint : flush.point = .persisting args) :
    toFixed 6 args.newTotal = args.newTotal ∧ billedKwh w.lago id ≤ args.newTotal := by
  have hreg := hinv.regular i obj hobj
  have hargs := hreg.flight flush hflush
  have hbacked := hinv.backed i obj hobj hid flush hflush
  rw [hpoint] at hargs hbacked
  refine ⟨toFixed_six_of_grid ?_, hbacked.2⟩
  rw [hargs.2.2.2.1]
  exact hreg.total_grid.add hargs.1

lemma OverBillingInvariant.accepted_step (hinv : OverBillingInvariant id start stop w)
    (hstep : World.step w a = some w') (key : LagoEventTransactionId)
    (h : w'.db.syncedTransactionEvents.Has key) (hid : key.steveTransactionId = id) :
    w'.lago.Has key := by
  refine lago_has_step hstep ?_
  cases World.step_recorded hinv.inOrder hstep h with
  | old h => exact hinv.accepted key h hid
  | synced hphase hmem hsend hkey hhas hmem' hid' hupdate hrow hdone => exact hhas
  | flushed ha hobj hflush hpoint hkey htotal =>
      next i obj flush args =>
      have hargs := (hinv.regular i obj hobj).flight flush hflush
      rw [hpoint] at hargs
      have hoid : obj.st.steveTransactionId = id := by
        rw [← hid, hkey, hargs.2.2.2.2]
        rfl
      have hbacked := hinv.backed i obj hobj hoid flush hflush
      rw [hpoint] at hbacked
      rw [hkey]
      exact hbacked.1

/-- When every event is written after a delivery, then it was before, and Lago had them all. -/
lemma OverBillingInvariant.delivered (hinv : OverBillingInvariant id start stop w)
    (events : List LagoEvent)
    (h : RecordedBut [] id { w with lago := w.lago.recordAll events }) :
    RecordedBut [] id w ∧ billedKwh (w.lago.recordAll events) id = billedKwh w.lago id := by
  refine ⟨fun key hkey hid => h key (KeyedLog.has_recordAll.mpr (Or.inl hkey)) hid,
    billedKwh_recordAll_of_has fun event hevent hid => ?_⟩
  rcases h event.transactionId (KeyedLog.has_recordAll.mpr (Or.inr ⟨event, hevent, rfl⟩)) hid with
    hwritten | hnone
  · exact hinv.accepted _ hwritten hid
  · simp at hnone

/-- While Lago accepts nothing, a row that is complete after the step covers what Lago has. -/
lemma OverBillingInvariant.covered_step (hinv : OverBillingInvariant id start stop w)
    (hstep : World.step w a = some w') (hlago : w'.lago = w.lago) (hrecorded : RecordedBut [] id w')
    {r : ℚ} (hr : w'.db.billedTotal id = .fin r) : billedKwh w.lago id ≤ r := by
  by_cases hbefore : RecordedBut [] id w
  · cases World.step_row hinv.inOrder hstep id with
    | same hrow => exact hinv.covered hbefore r ((Db.same_row hrow).1 ▸ hr)
    | flushed ha hobj hid hflush hpoint hrow htotal hfinal =>
        obtain ⟨hfixed, hle⟩ := hinv.newTotal hobj hid hflush hpoint
        rw [Db.billedTotal_of_row hrow, htotal, hfixed] at hr
        rwa [← JsNumber.fin.inj hr]
    | synced hphase hmem hwrites hid hupdate hrow hsent =>
        obtain ⟨prior, hbills, hread⟩ := hinv.run _ hphase
        rw [Db.billedTotal_of_row hrow] at hr
        rcases hbills.stateUpdate_total hmem hid hupdate with ⟨-, htotal⟩ | ⟨-, htotal⟩
        · rw [← JsNumber.fin.inj (htotal.symm.trans hr)]
          exact (hread ⟨_, hmem, hid⟩).1 hbefore
        · rw [← JsNumber.fin.inj (htotal.symm.trans hr)]
          exact hinv.sum
  · -- The step has written the event that was missing, and the row with it.
    simp only [RecordedBut, not_forall, not_or] at hbefore
    obtain ⟨key, hkey, hid, hmissing, -⟩ := hbefore
    have hwritten : w'.db.syncedTransactionEvents.Has key := by
      rcases hrecorded key (hlago ▸ hkey) hid with hwritten | hnone
      · exact hwritten
      · simp at hnone
    cases World.step_recorded hinv.inOrder hstep hwritten with
    | old h => exact absurd h hmissing
    | flushed ha hobj hflush hpoint hkey' htotal =>
        next i obj flush args =>
        have hargs := (hinv.regular i obj hobj).flight flush hflush
        rw [hpoint] at hargs
        have hoid : obj.st.steveTransactionId = id := by
          rw [← hid, hkey', hargs.2.2.2.2]
          rfl
        obtain ⟨hfixed, hle⟩ := hinv.newTotal hobj hoid hflush hpoint
        rw [hoid, hfixed] at htotal
        rwa [← JsNumber.fin.inj (htotal.symm.trans hr)]
    | synced hphase hmem hsend hkey' hhas hmem' hid' hupdate hrow hdone =>
        next phase pt pt' row =>
        obtain ⟨prior, hbills, -⟩ := hinv.run _ hphase
        have hptid : pt.steveTransactionId = id := by
          rw [← hid, hkey', hbills.keys pt hmem]
        rw [hptid] at hid' hrow
        have hrest : alreadyBilledToleranceKwh < sessionKwh start stop - prior := by
          rcases hbills.covered_or_rest pt hmem hptid with ⟨-, -, hskip⟩ | ⟨hrest, -⟩
          · rw [hsend] at hskip
            cases hskip
          · exact hrest
        rw [Db.billedTotal_of_row hrow] at hr
        rcases hbills.stateUpdate_total hmem' hid' hupdate with ⟨hcovered, -⟩ | ⟨-, htotal'⟩
        · exact absurd hcovered (not_le.mpr hrest)
        · rw [← JsNumber.fin.inj (htotal'.symm.trans hr)]
          exact hinv.sum

/-- While Lago accepts nothing, what flushes have sent stays backed. -/
lemma OverBillingInvariant.backed_step (hinv : OverBillingInvariant id start stop w)
    (hsends : SendsOnRecord id w a) (hstep : World.step w a = some w') {i : ℕ} {obj' : TxObject}
    (hobj' : w'.heap[i]? = some obj') (hid' : obj'.st.steveTransactionId = id) (flush' : Flush)
    (hflush' : obj'.flushing = some flush') : BackedAt w.lago id obj'.tally flush'.point := by
  rcases World.step_object hstep hobj' with ⟨obj, hobj, hos⟩ | ⟨sample, kwh, -, -, -, -, rfl⟩
  swap
  · rw [(firstSample_eq sample (meterWh kwh) w.clock).2.1] at hflush'
    simp at hflush'
  have hid : obj.st.steveTransactionId = id := by rw [← hos.steveTransactionId]; exact hid'
  have hreg := hinv.regular i obj hobj
  have hbacked := hinv.backed i obj hobj hid
  have hsame : obj'.tally.total = obj.tally.total →
      obj'.flushing = obj.flushing ∨ obj'.NotSending →
        BackedAt w.lago id obj'.tally flush'.point := by
    rintro htotal (hsame | hnot)
    · have hold := hbacked flush' (hsame ▸ hflush')
      cases hp : flush'.point with
      | posting post =>
          rw [hp] at hold
          simpa only [BackedAt, htotal] using hold
      | persisting args =>
          rw [hp] at hold
          exact hold
      | steveTransaction | userMapping | subscriptions | resolved | persisted => trivial
    · refine BackedAt.of_settled ?_
      have hpoint := hnot flush' hflush'
      cases hp : flush'.point <;> simp [hp, FlushPoint.Sending, FlushPoint.unsettled] at hpoint ⊢
  cases hos.tallyStep hreg.anchored with
  | idle htally hflush => exact hsame (by rw [htally]) hflush
  | sampled ha hkwh hheld hsid hlast hguard htally hflush =>
    exact hsame (by rw [htally]; rfl) hflush
  | sent ha hflush hpoint hsub htally hnew =>
      subst ha
      obtain ⟨hle, hrecorded, -, -⟩ := hsends obj (by rw [hobj]; rfl) hid
        (by simp [TxObject.aboutToSend, hflush, hpoint, hsub])
      obtain ⟨r, hr, -⟩ := hinv.row
      have hsum : billedKwh w.lago id ≤ obj.tally.total := by
        rw [hr, JsNumber.fin_le_fin] at hle
        exact (hinv.covered hrecorded r hr).trans hle
      obtain rfl := Option.some.inj (hnew.symm.trans hflush')
      rw [htally]
      simp only [BackedAt, roundTo_six_of_grid hreg.pending_grid]
      have hnonneg := hreg.pending_nonneg
      exact ⟨fun _ => hsum, by linarith⟩
  | dropped ha hflush hpoint hdrop htally hnew =>
      rw [hnew] at hflush'
      simp at hflush'
  | answered ha hflush hpoint hhas htally hnew =>
      next flush post =>
      have hpost := hbacked flush hflush
      have hargs := hreg.flight flush hflush
      rw [hpoint] at hpost hargs
      obtain rfl := Option.some.inj (hnew.symm.trans hflush')
      have htotal : (obj.persistArgs post).newTotal = obj.tally.total + post.flushKwh :=
        roundTo_six_of_grid (hreg.total_grid.add hargs.1)
      exact ⟨hhas, by rw [htotal]; exact hpost.2⟩
  | committed ha hflush hpoint htally hnew =>
      obtain rfl := Option.some.inj (hnew.symm.trans hflush')
      trivial
  | succeeded ha hflush hpoint htally hnew =>
      rw [hnew] at hflush'
      simp at hflush'

/-- The event of a flush of the transaction reaches Lago: it is paid for by the pending delta of
its own record. -/
lemma OverBillingInvariant.lagoReceived (hinv : OverBillingInvariant id start stop w) {i : ℕ}
    {obj : TxObject} {flush : Flush} {post : PostedFlush} (hobj : w.heap[i]? = some obj)
    (hflush : obj.flushing = some flush) (hpoint : flush.point = .posting post) :
    billedKwh (w.lago.record post.event) id ≤ sessionKwh start stop ∧
      ∀ (j : ℕ) (other : TxObject), w.heap[j]? = some other → other.st.steveTransactionId = id →
        ∀ flush', other.flushing = some flush' →
          BackedAt (w.lago.record post.event) id other.tally flush'.point := by
  have hregPost := (hinv.regular i obj hobj).flight flush hflush
  rw [hpoint] at hregPost
  obtain ⟨-, hnonneg, hpending, hvalue, hkey⟩ := hregPost
  have hhas : ∀ key, w.lago.Has key → (w.lago.record post.event).Has key := fun key hold =>
    KeyedLog.has_record.mpr (Or.inl hold)
  have hquiet : billedKwh (w.lago.record post.event) id = billedKwh w.lago id →
      billedKwh (w.lago.record post.event) id ≤ sessionKwh start stop ∧
        ∀ (j : ℕ) (other : TxObject), w.heap[j]? = some other →
          other.st.steveTransactionId = id → ∀ flush', other.flushing = some flush' →
            BackedAt (w.lago.record post.event) id other.tally flush'.point := fun hsum =>
    ⟨by rw [hsum]; exact hinv.sum, fun j other hother hid' flush' hflush' =>
      (hinv.backed j other hother hid' flush' hflush').mono hsum hhas⟩
  by_cases hid : obj.st.steveTransactionId = id
  swap
  · exact hquiet (billedKwh_record_of_ne (by rw [hkey]; exact hid))
  by_cases hold : w.lago.Has post.event.transactionId
  · exact hquiet (billedKwh_record_of_has hold)
  have hsum : billedKwh (w.lago.record post.event) id = billedKwh w.lago id + post.flushKwh := by
    rw [billedKwh_record_of_fresh hold (by rw [hkey]; exact hid), hvalue]
    rfl
  have hbacked := hinv.backed i obj hobj hid flush hflush
  rw [hpoint] at hbacked
  have htotal := hbacked.1 hold
  refine ⟨?_, fun j other hother hid' flush' hflush' => ?_⟩
  · have hsession := (hinv.within i obj hobj hid).le_session
    rw [hsum]
    linarith
  · by_cases hsettled : flush'.point.unsettled = false
    · exact BackedAt.of_settled hsettled
    · -- Nobody else is between sending and writing: this is the object that has sent.
      have hij : i = j := hinv.alone i j obj other hobj hother hid hid'
        (by simp [unsettled_of_point hflush, hpoint, FlushPoint.unsettled])
        (by rw [unsettled_of_point hflush']; simpa using hsettled)
      subst hij
      obtain rfl : obj = other := Option.some.inj (hobj.symm.trans hother)
      obtain rfl : flush = flush' := Option.some.inj (hflush.symm.trans hflush')
      rw [hpoint]
      refine ⟨fun hfresh => ?_, by rw [hsum]; linarith⟩
      exact absurd (KeyedLog.has_record.mpr (Or.inr rfl)) hfresh

/-- A batch of the sync reaches Lago: its true-up is what the total it has read leaves open. -/
lemma OverBillingInvariant.syncReceived (hinv : OverBillingInvariant id start stop w)
    {run : SyncRun} (hsync : w.sync = some (.sending run)) (batch : ℕ) :
    billedKwh (w.lago.recordAll (batchAt run.lagoEvents batch)) id ≤ sessionKwh start stop ∧
      (¬(w.lago.recordAll (batchAt run.lagoEvents batch)).Has (.final id) →
        billedKwh (w.lago.recordAll (batchAt run.lagoEvents batch)) id = billedKwh w.lago id) ∧
      ∀ (j : ℕ) (other : TxObject), w.heap[j]? = some other → other.st.steveTransactionId = id →
        ∀ flush', other.flushing = some flush' →
          BackedAt (w.lago.recordAll (batchAt run.lagoEvents batch)) id other.tally
            flush'.point := by
  obtain ⟨prior, hbills, hread⟩ := hinv.run _ hsync
  have honly : OnlyFinal id (sessionKwh start stop - prior) (batchAt run.lagoEvents batch) :=
    fun event he => hbills.events event (mem_of_mem_batchAt he)
  have hsum := billedKwh_recordAll w.lago honly
  have hdue : ∀ event ∈ batchAt run.lagoEvents batch,
      event.transactionId.steveTransactionId = id →
        ∃ pt ∈ run.processed, pt.steveTransactionId = id := by
    intro event hevent hid
    obtain ⟨-, pt, hpt, hptid, -⟩ := hbills.events_due event (mem_of_mem_batchAt hevent) hid
    exact ⟨pt, hpt, hptid⟩
  refine ⟨?_, fun hnot => by rw [hsum, if_neg (fun h => hnot h.2), add_zero],
    fun j other hother hid flush hflush => ?_⟩
  · rw [hsum]
    split
    · next hnew =>
        rcases KeyedLog.has_recordAll.mp hnew.2 with hold | ⟨event, hmem, hkey⟩
        · exact absurd hold hnew.1
        · have hprior := (hread (hdue event hmem (by rw [← hkey]; rfl))).2 hnew.1
          linarith
    · rw [add_zero]
      exact hinv.sum
  · by_cases hsettled : flush.point.unsettled = false
    · exact BackedAt.of_settled hsettled
    · -- Then the run does not process the transaction and the batch carries nothing for it.
      have hnot : NotInRun id w := hinv.apart j other hother hid
        (by rw [unsettled_of_point hflush]; simpa using hsettled)
      refine (hinv.backed j other hother hid flush hflush).mono ?_
        fun key hold => KeyedLog.has_recordAll.mpr (Or.inl hold)
      refine billedKwh_recordAll_of_has fun event hevent hid' => ?_
      obtain ⟨pt, hpt, hptid⟩ := hdue event hevent hid'
      exact absurd hptid (hnot _ hsync pt hpt)

/-- While Lago accepts nothing and no run starts, what a sync run has read stays covering. -/
lemma OverBillingInvariant.run_step (hinv : OverBillingInvariant id start stop w)
    (hstep : World.step w a = some w') (hlago : w'.lago = w.lago)
    (hruns : ∀ phase ∈ w'.sync, ∃ phase₀ ∈ w.sync, phase₀.run = phase.run) :
    ∀ phase ∈ w'.sync, ∃ prior, phase.run.BillsSession id (sessionKwh start stop) prior ∧
      ReadCovers id w' phase.run prior := by
  intro phase hphase
  obtain ⟨phase₀, hphase₀, hrun⟩ := hruns phase hphase
  rw [← hrun]
  obtain ⟨prior, hbills, hread⟩ := hinv.run phase₀ hphase₀
  refine ⟨prior, hbills, fun hin => ?_⟩
  obtain ⟨hcovered, hfinal⟩ := hread hin
  rw [hlago]
  refine ⟨fun hrecorded => hcovered fun key hkey hid => ?_, hfinal⟩
  rcases hrecorded key (hlago ▸ hkey) hid with hwritten | hnone
  swap
  · exact Or.inr hnone
  cases World.step_recorded hinv.inOrder hstep hwritten with
  | old h => exact Or.inl h
  | flushed ha hobj' hflush' hpoint' hkey' htotal =>
      next j obj' flush' args' =>
      -- The object is between sending and writing, so the run leaves its transaction alone.
      have hargs := (hinv.regular j obj' hobj').flight flush' hflush'
      rw [hpoint'] at hargs
      have hoid : obj'.st.steveTransactionId = id := by
        rw [← hid, hkey', hargs.2.2.2.2]
        rfl
      obtain ⟨pt, hpt, hptid⟩ := hin
      have hnot := hinv.apart j obj' hobj' hoid
        (by simp [unsettled_of_point hflush', hpoint', FlushPoint.unsettled])
      exact absurd hptid (hnot phase₀ hphase₀ pt hpt)
  | synced hphase' hmem hsend hkey' hhas hmem' hid' hupdate hrow hdone =>
      rw [hdone] at hphase
      simp at hphase

/-- A step that meets the assumptions and sends on record keeps the invariant. -/
theorem OverBillingInvariant.step (hinv : OverBillingInvariant id start stop w)
    (hrise : SamplesRise id w a) (hrange : SamplesWithin id start stop w a)
    (hlisted : ListedAs id start stop w a) (hsends : SendsOnRecord id w a)
    (hstep : World.step w a = some w') : OverBillingInvariant id start stop w' := by
  have hregular := hinv.regular.step hstep
  have hinOrder := hinv.inOrder.step hstep
  have hrow := hinv.row_step hstep
  have haccepted := hinv.accepted_step hstep
  have hwithin := hinv.within_step hrise hrange hstep
  have halone := hinv.alone_step hsends hstep
  have hapart := hinv.apart_step hsends hstep
  -- What stays to be shown of a step that delivers nothing to Lago.
  have hkeep : ∀ hlago : w'.lago = w.lago,
      (∀ phase ∈ w'.sync, ∃ prior, phase.run.BillsSession id (sessionKwh start stop) prior ∧
        ReadCovers id w' phase.run prior) → OverBillingInvariant id start stop w' :=
    fun hlago hrun =>
      { regular := hregular
        inOrder := hinOrder
        sum := by rw [hlago]; exact hinv.sum
        row := hrow
        accepted := haccepted
        covered := fun hrecorded r hr => by
          rw [hlago]
          exact hinv.covered_step hstep hlago hrecorded hr
        within := hwithin
        backed := fun i obj hobj hid flush hflush => by
          rw [hlago]
          exact hinv.backed_step hsends hstep hobj hid flush hflush
        alone := halone
        apart := hapart
        run := hrun }
  cases World.step_shared hstep with
  | quiet hrows hevents hlago hsync =>
      refine hkeep hlago (hinv.run_step hstep hlago fun phase hphase => ?_)
      exact ⟨phase, hsync ▸ hphase, rfl⟩
  | committed hobj hflush hpoint hdb =>
      exact hkeep rfl (hinv.run_step hstep rfl fun phase hphase => ⟨phase, hphase, rfl⟩)
  | syncPersisted hsync hin hdb => exact hkeep rfl fun phase h => by simp at h
  | syncEnded => exact hkeep rfl fun phase h => by simp at h
  | syncSaved hsync hdb =>
      refine hkeep rfl (hinv.run_step hstep rfl fun phase hphase => ?_)
      obtain rfl := Option.some.inj hphase
      exact ⟨_, hsync, rfl⟩
  | syncRead hnone hrun hphase =>
      next inputs runId run phase =>
      refine hkeep rfl fun phase' h => ?_
      obtain rfl := Option.some.inj h
      obtain ⟨r, hr, hgrid⟩ := hinv.row
      have hbills := billsSession_of_read hrun hlisted hr hgrid
      have hread : ReadCovers id w run r := by
        rintro ⟨pt, hpt, hptid⟩
        rw [(readSync_eq_ok hrun).2.2.1] at hpt
        obtain ⟨hrecorded, -⟩ := hsends pt hpt hptid
        refine ⟨fun hall => hinv.covered hall r hr, fun hfinal => hinv.covered ?_ r hr⟩
        intro key hkey hid
        rcases hrecorded key hkey hid with hwritten | hexcept
        · exact Or.inl hwritten
        · obtain rfl := List.mem_singleton.mp hexcept
          exact absurd hkey hfinal
      rcases hphase with rfl | ⟨rfl, -⟩ <;> exact ⟨r, hbills, hread⟩
  | lagoReceived hobj hflush hpoint =>
      next i obj flush post =>
      obtain ⟨hsum, hbacked⟩ := hinv.lagoReceived hobj hflush hpoint
      refine ⟨hregular, hinOrder, hsum, hrow, haccepted, fun hrecorded r hr => ?_, hwithin, hbacked,
        halone, hapart, fun phase hphase => ?_⟩
      · obtain ⟨hbefore, hsame⟩ := hinv.delivered [post.event] hrecorded
        exact hsame.trans_le (hinv.covered hbefore r hr)
      · obtain ⟨prior, hbills, hread⟩ := hinv.run phase hphase
        refine ⟨prior, hbills, fun hin => ?_⟩
        obtain ⟨hcovered, hfinal⟩ := hread hin
        have hne : obj.st.steveTransactionId ≠ id := fun hid => by
          obtain ⟨pt, hpt, hptid⟩ := hin
          have hnot := hinv.apart i obj hobj hid
            (by simp [unsettled_of_point hflush, hpoint, FlushPoint.unsettled])
          exact hnot phase hphase pt hpt hptid
        have hregPost := (hinv.regular i obj hobj).flight flush hflush
        rw [hpoint] at hregPost
        have hsame : billedKwh (w.lago.record post.event) id = billedKwh w.lago id :=
          billedKwh_record_of_ne (by rw [hregPost.2.2.2.2]; exact hne)
        refine ⟨fun hrecorded => ?_, fun hnot => ?_⟩
        · exact hsame.trans_le (hcovered (hinv.delivered [post.event] hrecorded).1)
        · exact hsame.trans_le (hfinal fun h => hnot (KeyedLog.has_record.mpr (Or.inl h)))
  | syncReceived hsync =>
      next run batch =>
      obtain ⟨hsum, hsame, hbacked⟩ := hinv.syncReceived hsync batch
      refine ⟨hregular, hinOrder, hsum, hrow, haccepted, fun hrecorded r hr => ?_, hwithin, hbacked,
        halone, hapart, fun phase hphase => ?_⟩
      · obtain ⟨hbefore, hsame⟩ := hinv.delivered _ hrecorded
        exact hsame.trans_le (hinv.covered hbefore r hr)
      · obtain ⟨prior, hbills, hread⟩ := hinv.run phase hphase
        refine ⟨prior, hbills, fun hin => ?_⟩
        obtain ⟨hcovered, hfinal⟩ := hread hin
        refine ⟨fun hrecorded => ?_, fun hnot => ?_⟩
        · obtain ⟨hbefore, hsame⟩ := hinv.delivered _ hrecorded
          exact hsame.trans_le (hcovered hbefore)
        · exact (hsame hnot).trans_le
            (hfinal fun h => hnot (KeyedLog.has_recordAll.mpr (Or.inl h)))

end Steps

/-- In a run in which whoever sends does so on record, no session is billed twice. -/
theorem notOverBilled_of_sendsOnRecord (userMappings : List UserMapping) (clock : ℕ)
    (steveTransactionId : ℕ) (start stop : ℤ) (hle : start ≤ stop) (as : List Action)
    (hrise : Meets World.step (SamplesRise steveTransactionId)
      (World.initial userMappings clock) as)
    (hrange : Meets World.step (SamplesWithin steveTransactionId start stop)
      (World.initial userMappings clock) as)
    (hlisted : Meets World.step (ListedAs steveTransactionId start stop)
      (World.initial userMappings clock) as)
    (hsends : Meets World.step (SendsOnRecord steveTransactionId)
      (World.initial userMappings clock) as) :
    Always World.step (NotOverBilled steveTransactionId (sessionKwh start stop))
      (World.initial userMappings clock) as := by
  have hinit := initial_overBillingInvariant userMappings clock steveTransactionId hle
  have hgoal : ∀ w, OverBillingInvariant steveTransactionId start stop w →
      NotOverBilled steveTransactionId (sessionKwh start stop) w := by
    intro w hinv
    have htol : (0 : ℚ) ≤ alreadyBilledToleranceKwh := by norm_num [alreadyBilledToleranceKwh]
    have hsum := hinv.sum
    unfold NotOverBilled
    linarith
  refine ⟨hgoal _ hinit, Meets.eachStep ?_ ?_ hinit (meets_and.mpr ⟨hrise,
    meets_and.mpr ⟨hrange, meets_and.mpr ⟨hlisted, hsends⟩⟩⟩)⟩
  · exact fun _ _ _ hinv hC hstep => hinv.step hC.1 hC.2.1 hC.2.2.1 hC.2.2.2 hstep
  · exact fun _ _ _ hinv hC hstep => hgoal _ (hinv.step hC.1 hC.2.1 hC.2.2.1 hC.2.2.2 hstep)

/-- One kWh is billed by a flush and the rest of the session by a sync pass. -/
theorem notOverBilled_of_flush_then_sync :
    Always World.step (NotOverBilled 7 (sessionKwh 0 2000)) (World.initial [Scenario.cardMapping] 0)
      ([Scenario.meter 7 0 false, .tick 60000, Scenario.meter 7 1 false] ++ Scenario.lookUps 0 7 ++
        Scenario.settles 0 ++
        Scenario.syncPass 1 [Scenario.transaction 7 "0" (some "2000")]) :=
  notOverBilled_of_sendsOnRecord _ _ _ _ _ (by decide) _ (by decide +kernel) (by decide +kernel)
    (by decide +kernel) (by decide +kernel)

/-- The emitter restarts after the first kWh and counts the second one from zero. -/
def Scenario.restartedSession : List Action :=
  [meter 7 0 false, .tick 60000, meter 7 1 false] ++ lookUps 0 7 ++ settles 0 ++
    [.restart, .tick 60000, meter 7 1 false, .tick 60000, meter 7 2 false] ++ lookUps 0 7 ++
    settles 0 ++ syncPass 1 [transaction 7 "0" (some "2000")]

/-- After the restart the row forgets the first kWh, and the sync pass bills it again. -/
theorem not_notOverBilled_of_restart :
    Meets World.step (SamplesRise 7) (World.initial [Scenario.cardMapping] 0)
        Scenario.restartedSession ∧
      Meets World.step (SamplesWithin 7 0 2000) (World.initial [Scenario.cardMapping] 0)
        Scenario.restartedSession ∧
      Meets World.step (ListedAs 7 0 2000) (World.initial [Scenario.cardMapping] 0)
        Scenario.restartedSession ∧
      ¬Always World.step (NotOverBilled 7 (sessionKwh 0 2000))
        (World.initial [Scenario.cardMapping] 0) Scenario.restartedSession := by
  decide +kernel

end ExpresSync
