import ExpresSync.Properties.BilledEnergy

/-!
# Finalized means billed

A finalized row is never looked at again, so whoever finalizes must know that everything is
billed.  The sync knows: it finalizes what it has read as covered, or after Lago has accepted the
rest.  The emitter only knows what it has metered itself: its final flush finalizes the row
whatever was used before its first sample, and its running total counts an event even when Lago
took it for a duplicate of one sent in the same second.
-/

namespace ExpresSync

open Transition

/-- If the row is finalized, Lago has accepted the energy of the session up to the tolerance. -/
def LosslessWhenFinal (steveTransactionId : ℕ) (full : ℚ) (w : World) : Prop :=
  w.db.finalized steveTransactionId = true →
    full - alreadyBilledToleranceKwh ≤ billedKwh w.lago steveTransactionId

instance (id : ℕ) (full : ℚ) (w : World) : Decidable (LosslessWhenFinal id full w) := by
  unfold LosslessWhenFinal
  infer_instance

/-- The sync finds a subscription it may bill whenever it processes the transaction. -/
def SyncResolvesBillable (steveTransactionId : ℕ) (w : World) : Action → Prop
  | .syncReads inputs _ =>
      ∀ pt ∈ inputs.process w.db, pt.steveTransactionId = steveTransactionId →
        pt.skipReason ≠ some .noSubscription ∧ pt.skipReason ≠ some .nonUsagePlan
  | _ => True

instance (id : ℕ) (w : World) (a : Action) : Decidable (SyncResolvesBillable id w a) := by
  unfold SyncResolvesBillable
  rcases a <;> infer_instance

/-- A flush that has something to send sends it under an identifier Lago does not know, no flush
sends under one that is under way, and a final flush sends only when that completes the
session. -/
def SendsAnew (steveTransactionId : ℕ) (full : ℚ) (w : World) : Action → Prop
  | .flush i .resumes =>
      ∀ obj ∈ w.heap[i]?, obj.st.steveTransactionId = steveTransactionId →
        obj.aboutToSend = some true →
          (obj.st.pendingDeltaKwh ≠ 0 → ¬w.lago.Has (obj.flushKey w.clock)) ∧
          (∀ other ∈ w.heap, other.postingKey ≠ some (obj.flushKey w.clock)) ∧
          (obj.flushesFinal = true →
            full - alreadyBilledToleranceKwh ≤
              billedKwh w.lago steveTransactionId + obj.st.pendingDeltaKwh)
  | _ => True

instance (id : ℕ) (full : ℚ) (w : World) (a : Action) : Decidable (SendsAnew id full w a) := by
  unfold SendsAnew
  rcases a
  case flush i event => rcases event <;> infer_instance
  all_goals infer_instance

/-! ## The invariant -/

/-- What Lago has accepted covers the total a flush will note, and the session when the flush is
final. -/
def CoveredAt (lago : LagoEvents) (id : ℕ) (full : ℚ) (t : Tally) (final : Bool) : FlushPoint → Prop
  | .posting post =>
      (lago.Has post.event.transactionId → t.total + post.flushKwh ≤ billedKwh lago id ∧
          (final = true → full - alreadyBilledToleranceKwh ≤ billedKwh lago id)) ∧
        (final = true → full - alreadyBilledToleranceKwh ≤ billedKwh lago id + post.flushKwh)
  | .persisting args | .persisted args =>
      args.newTotal ≤ billedKwh lago id ∧
        (final = true → full - alreadyBilledToleranceKwh ≤ billedKwh lago id)
  | _ => True

/-- What Lago has accepted covers the running total of an object. -/
structure TxObject.Covered (obj : TxObject) (lago : LagoEvents) (full : ℚ) : Prop where
  total : obj.tally.total ≤ billedKwh lago obj.st.steveTransactionId
  flight : ∀ flush, obj.flushing = some flush →
    CoveredAt lago obj.st.steveTransactionId full obj.tally flush.final flush.point

/-- No two objects of the transaction post under the same identifier. -/
def PostsApart (id : ℕ) (w : World) : Prop :=
  ∀ (i j : ℕ) (obj other : TxObject) (key : LagoEventTransactionId),
    w.heap[i]? = some obj → w.heap[j]? = some other → obj.st.steveTransactionId = id →
      other.st.steveTransactionId = id → obj.postingKey = some key →
        other.postingKey = some key → i = j

/-- The invariant of runs in which every flush sends anew. -/
structure LosslessInvariant (id : ℕ) (full : ℚ) (w : World) : Prop where
  regular : w.Regular
  inOrder : w.RunInOrder
  nonneg : 0 ≤ billedKwh w.lago id
  row : ∃ r, w.db.billedTotal id = .fin r ∧ OnGrid 3 r ∧ r ≤ billedKwh w.lago id
  finalized : LosslessWhenFinal id full w
  trueUp : w.lago.Has (.final id) → full ≤ billedKwh w.lago id
  objects : ∀ (i : ℕ) (obj : TxObject), w.heap[i]? = some obj → obj.st.steveTransactionId = id →
    obj.Covered w.lago full
  apart : PostsApart id w
  run : ∀ phase ∈ w.sync, ∃ prior, phase.run.BillsSession id full prior ∧
    prior ≤ billedKwh w.lago id ∧
      ∀ pt ∈ phase.run.processed, pt.steveTransactionId = id →
        pt.skipReason ≠ some .noSubscription ∧ pt.skipReason ≠ some .nonUsagePlan

lemma initial_losslessInvariant (userMappings : List UserMapping) (clock id : ℕ) (full : ℚ) :
    LosslessInvariant id full (World.initial userMappings clock) where
  regular := World.initial_regular _ _
  inOrder := World.initial_runInOrder _ _
  nonneg := le_refl 0
  row := ⟨0, rfl, OnGrid.zero 3, le_refl 0⟩
  finalized := fun h => by simp [World.initial, Db.finalized, Db.empty] at h
  trueUp := fun h => absurd h (KeyedLog.not_has_empty _)
  objects := fun i obj h => by simp [World.initial] at h
  apart := fun i j obj other key h => by simp [World.initial] at h
  run := fun phase h => by simp [World.initial] at h

/-! ## Objects -/

lemma CoveredAt.of_not_sending {lago : LagoEvents} {id : ℕ} {full : ℚ} {t : Tally} {final : Bool}
    {point : FlushPoint} (h : ¬point.Sending) : CoveredAt lago id full t final point := by
  cases point with
  | posting | persisting | persisted => exact absurd trivial h
  | steveTransaction | userMapping | subscriptions | resolved => trivial

lemma CoveredAt.of_total {lago : LagoEvents} {id : ℕ} {full : ℚ} {t t' : Tally} {final : Bool}
    {point : FlushPoint} (h : CoveredAt lago id full t final point) (htotal : t'.total = t.total) :
    CoveredAt lago id full t' final point := by
  cases point with
  | posting post =>
      unfold CoveredAt
      rw [htotal]
      exact h
  | persisting args | persisted args => exact h
  | steveTransaction | userMapping | subscriptions | resolved => trivial

lemma firstSample_covered {lago : LagoEvents} {sample : MeterSample} {meterValueWh : ℤ} {now : ℕ}
    {full : ℚ} (h : 0 ≤ billedKwh lago sample.steveTransactionId) :
    (firstSample sample meterValueWh now).Covered lago full := by
  obtain ⟨htally, hflush, hid⟩ := firstSample_eq sample meterValueWh now
  refine ⟨by rw [htally, hid]; exact h, fun flush hf => ?_⟩
  rw [hflush] at hf
  simp at hf

section Objects

variable {id i : ℕ} {full : ℚ} {w w' : World} {a : Action} {obj obj' : TxObject}

/-- Unless the step delivers an event to Lago, it keeps an object covered. -/
lemma TxObject.Covered.step (hreg : obj.Regular) (hcov : obj.Covered w.lago full)
    (hobj : w.heap[i]? = some obj) (hid : obj.st.steveTransactionId = id)
    (hsends : SendsAnew id full w a) (h : ObjectStep w i a obj obj') :
    obj'.Covered w.lago full := by
  have hid' := h.steveTransactionId
  have hflight : ∀ {t : Tally}, t.total = obj.tally.total →
      (obj'.flushing = obj.flushing ∨ obj'.NotSending) →
      ∀ flush, obj'.flushing = some flush →
        CoveredAt w.lago obj.st.steveTransactionId full t flush.final flush.point := by
    intro t htotal hsame flush hflush
    rcases hsame with hsame | hnot
    · exact (hcov.flight flush (hsame ▸ hflush)).of_total htotal
    · exact CoveredAt.of_not_sending (hnot flush hflush)
  cases h.tallyStep hreg.anchored with
  | idle htally hflush =>
      exact ⟨by rw [hid', htally]; exact hcov.total, by rw [hid', htally]; exact hflight rfl hflush⟩
  | sampled ha hkwh hheld hid'' hlast hguard htally hflush =>
      exact ⟨by rw [hid', htally]; exact hcov.total, by rw [hid', htally]; exact hflight rfl hflush⟩
  | sent ha hflush hpoint hsub htally hflush' =>
      next flush =>
      subst ha
      obtain ⟨hfresh, -, hfinal⟩ := hsends obj hobj hid
        (by simp [aboutToSend, hflush, hpoint, hsub])
      refine ⟨by rw [hid', htally]; exact hcov.total, fun flush' hf => ?_⟩
      obtain rfl := Option.some.inj (hflush'.symm.trans hf)
      have hdue : flush.final = true → full - alreadyBilledToleranceKwh ≤
          billedKwh w.lago obj.st.steveTransactionId + obj.tally.pending := fun hfin => by
        rw [hid]
        exact hfinal (by simpa [flushesFinal, hflush] using hfin)
      rw [hid', htally]
      simp only [CoveredAt, roundTo_six_of_grid hreg.pending_grid]
      refine ⟨fun hhas => ?_, hdue⟩
      have hzero : obj.tally.pending = 0 := by
        by_contra hne
        exact hfresh hne hhas
      rw [hzero, add_zero] at hdue ⊢
      exact ⟨hcov.total, hdue⟩
  | dropped ha hflush hpoint hdrop htally hflush' =>
      refine ⟨by rw [hid', htally]; exact hcov.total, fun flush' hf => ?_⟩
      rw [hflush'] at hf
      simp at hf
  | answered ha hflush hpoint hhas htally hflush' =>
      next flush post =>
      have hpost := hcov.flight flush hflush
      have hregPost := hreg.flight flush hflush
      rw [hpoint] at hpost hregPost
      refine ⟨by rw [hid', htally]; exact hcov.total, fun flush' hf => ?_⟩
      obtain rfl := Option.some.inj (hflush'.symm.trans hf)
      have htotal : (obj.persistArgs post).newTotal = obj.tally.total + post.flushKwh :=
        roundTo_six_of_grid (hreg.total_grid.add hregPost.1)
      rw [hid', htally]
      simp only [CoveredAt, htotal]
      exact hpost.1 hhas
  | committed ha hflush hpoint htally hflush' =>
      next flush args =>
      have hargs := hcov.flight flush hflush
      rw [hpoint] at hargs
      refine ⟨by rw [hid', htally]; exact hcov.total, fun flush' hf => ?_⟩
      obtain rfl := Option.some.inj (hflush'.symm.trans hf)
      rw [hid', htally]
      exact hargs
  | succeeded ha hflush hpoint htally hflush' =>
      next flush args =>
      have hargs := hcov.flight flush hflush
      rw [hpoint] at hargs
      refine ⟨by rw [hid', htally]; exact hargs.1, fun flush' hf => ?_⟩
      rw [hflush'] at hf
      simp at hf

/-- What an object posts after a step it posted before, or it starts to post under an identifier
that is free. -/
lemma postingKey_step (hreg : obj.Regular) (hobj : w.heap[i]? = some obj)
    (hid : obj.st.steveTransactionId = id) (hsends : SendsAnew id full w a)
    (h : ObjectStep w i a obj obj') {key : LagoEventTransactionId}
    (hkey : obj'.postingKey = some key) :
    obj.postingKey = some key ∨
      (a = .flush i .resumes ∧ ∀ other ∈ w.heap, other.postingKey ≠ some key) := by
  have hsame : obj'.flushing = obj.flushing ∨ obj'.NotSending → obj.postingKey = some key := by
    rintro (hsame | hnot)
    · rw [TxObject.postingKey, ← hsame]
      exact hkey
    · obtain ⟨flush, hflush, hpoint⟩ := Option.bind_eq_some_iff.mp hkey
      split at hpoint
      · next post hp => exact absurd (by rw [hp]; trivial) (hnot flush hflush)
      · simp at hpoint
  cases h.tallyStep hreg.anchored with
  | idle htally hflush => exact Or.inl (hsame hflush)
  | sampled ha hkwh hheld hid' hlast hguard htally hflush => exact Or.inl (hsame hflush)
  | sent ha hflush hpoint hsub htally hflush' =>
      subst ha
      obtain ⟨-, hfree, -⟩ := hsends obj hobj hid
        (by simp [TxObject.aboutToSend, hflush, hpoint, hsub])
      have hk : key = obj.flushKey w.clock := by
        simpa [TxObject.postingKey, hflush', TxObject.buildEvent, eq_comm] using hkey
      exact Or.inr ⟨rfl, by rw [hk]; exact hfree⟩
  | dropped ha hflush hpoint hdrop htally hflush' => simp [TxObject.postingKey, hflush'] at hkey
  | answered ha hflush hpoint hhas htally hflush' => simp [TxObject.postingKey, hflush'] at hkey
  | committed ha hflush hpoint htally hflush' => simp [TxObject.postingKey, hflush'] at hkey
  | succeeded ha hflush hpoint htally hflush' => simp [TxObject.postingKey, hflush'] at hkey

/-- No step makes two objects post under the same identifier. -/
lemma PostsApart.step (hregular : w.Regular) (hapart : PostsApart id w)
    (hsends : SendsAnew id full w a) (hstep : World.step w a = some w') : PostsApart id w' := by
  intro i j obj' other' key hi hj hid hid' hkey hkey'
  -- A new object posts nothing.
  have hold : ∀ {k : ℕ} {o' : TxObject}, w'.heap[k]? = some o' → o'.postingKey = some key →
      ∃ o, w.heap[k]? = some o ∧ ObjectStep w k a o o' := by
    intro k o' hk hpost
    rcases World.step_object hstep hk with hobj | ⟨sample, kwh, -, -, -, -, rfl⟩
    · exact hobj
    · obtain ⟨-, hflush, -⟩ := firstSample_eq sample (meterWh kwh) w.clock
      simp [TxObject.postingKey, hflush] at hpost
  obtain ⟨obj, hobj, hos⟩ := hold hi hkey
  obtain ⟨other, hother, hos'⟩ := hold hj hkey'
  have hoid : obj.st.steveTransactionId = id := by rw [← hos.steveTransactionId]; exact hid
  have hoid' : other.st.steveTransactionId = id := by rw [← hos'.steveTransactionId]; exact hid'
  rcases postingKey_step (hregular i obj hobj) hobj hoid hsends hos hkey with h | ⟨ha, hfree⟩
  · rcases postingKey_step (hregular j other hother) hother hoid' hsends hos' hkey' with
      h' | ⟨-, hfree⟩
    · exact hapart i j obj other key hobj hother hoid hoid' h h'
    · exact absurd h (hfree obj (List.mem_of_getElem? hobj))
  · rcases postingKey_step (hregular j other hother) hother hoid' hsends hos' hkey'
      with h' | ⟨ha', -⟩
    · exact absurd h' (hfree other (List.mem_of_getElem? hother))
    · rw [ha] at ha'
      cases ha'
      rfl

end Objects

/-! ## Steps -/

section Steps

variable {id : ℕ} {full : ℚ} {w w' : World} {a : Action}

/-- An object stays covered while Lago accepts more, as long as an event of its own that is newly
accepted is paid for. -/
lemma TxObject.Covered.mono {obj : TxObject} {lago lago' : LagoEvents}
    (hcov : obj.Covered lago full)
    (hle : billedKwh lago obj.st.steveTransactionId ≤ billedKwh lago' obj.st.steveTransactionId)
    (hkey : ∀ flush post, obj.flushing = some flush → flush.point = .posting post →
      lago'.Has post.event.transactionId → lago.Has post.event.transactionId ∨
        billedKwh lago obj.st.steveTransactionId + post.flushKwh ≤
          billedKwh lago' obj.st.steveTransactionId) :
    obj.Covered lago' full := by
  refine ⟨hcov.total.trans hle, fun flush hflush => ?_⟩
  have hold := hcov.flight flush hflush
  cases hp : flush.point with
  | posting post =>
      rw [hp] at hold
      refine ⟨fun hhas => ?_, fun hfin => (hold.2 hfin).trans (by linarith)⟩
      rcases hkey flush post hflush hp hhas with hhas | hpaid
      · obtain ⟨htotal, hdone⟩ := hold.1 hhas
        exact ⟨htotal.trans hle, fun hfin => (hdone hfin).trans hle⟩
      · have htotal := hcov.total
        exact ⟨by linarith, fun hfin => (hold.2 hfin).trans hpaid⟩
  | persisting args | persisted args =>
      rw [hp] at hold
      exact ⟨hold.1.trans hle, fun hfin => (hold.2 hfin).trans hle⟩
  | steveTransaction | userMapping | subscriptions | resolved => trivial

/-- While Lago accepts nothing, the objects stay covered. -/
lemma LosslessInvariant.objects_step (hinv : LosslessInvariant id full w)
    (hsends : SendsAnew id full w a) (hstep : World.step w a = some w') (hlago : w'.lago = w.lago)
    (i : ℕ) (obj' : TxObject) (hobj' : w'.heap[i]? = some obj')
    (hid' : obj'.st.steveTransactionId = id) : obj'.Covered w'.lago full := by
  rw [hlago]
  rcases World.step_object hstep hobj' with ⟨obj, hobj, hos⟩ | ⟨sample, kwh, -, -, -, -, rfl⟩
  · have hid : obj.st.steveTransactionId = id := by rw [← hos.steveTransactionId]; exact hid'
    exact (hinv.objects i obj hobj hid).step (hinv.regular i obj hobj) hobj hid hsends hos
  · refine firstSample_covered ?_
    rw [(firstSample_eq sample (meterWh kwh) w.clock).2.2] at hid'
    rw [hid']
    exact hinv.nonneg

/-- An event of the emitter reaches Lago. -/
lemma LosslessInvariant.lagoReceived (hinv : LosslessInvariant id full w) {i : ℕ} {obj : TxObject}
    {flush : Flush} {post : PostedFlush} (hobj : w.heap[i]? = some obj)
    (hflush : obj.flushing = some flush) (hpoint : flush.point = .posting post) :
    billedKwh w.lago id ≤ billedKwh (w.lago.record post.event) id ∧
      ((w.lago.record post.event).Has (.final id) → w.lago.Has (.final id)) ∧
      ∀ (j : ℕ) (other : TxObject), w.heap[j]? = some other → other.st.steveTransactionId = id →
        other.Covered (w.lago.record post.event) full := by
  have hregPost := (hinv.regular i obj hobj).flight flush hflush
  rw [hpoint] at hregPost
  obtain ⟨-, hnonneg, -, hvalue, hkey⟩ := hregPost
  have hle : billedKwh w.lago id ≤ billedKwh (w.lago.record post.event) id :=
    KeyedLog.total_le_record (by rw [hvalue]; exact hnonneg)
  refine ⟨hle, fun hhas => ?_, fun j other hother hid => ?_⟩
  · rcases KeyedLog.has_record.mp hhas with hhas | hfinal
    · exact hhas
    · rw [hkey] at hfinal
      cases hfinal
  · refine (hinv.objects j other hother hid).mono (by rw [hid]; exact hle)
      fun flush' post' hflush' hpoint' hhas => ?_
    rcases KeyedLog.has_record.mp hhas with hhas | hsame
    · exact Or.inl hhas
    · -- The identifier delivered is that of `other`: then it is the object that posts it.
      have hregPost' := (hinv.regular j other hother).flight flush' hflush'
      rw [hpoint'] at hregPost'
      have hobjId : obj.st.steveTransactionId = id := by
        have hkeys := hregPost'.2.2.2.2.symm.trans (hsame.trans hkey)
        injection hkeys with hids
        rw [← hid, hids]
      have hij : i = j := hinv.apart i j obj other post.event.transactionId hobj hother hobjId hid
        (by simp [TxObject.postingKey, hflush, hpoint])
        (by simp [TxObject.postingKey, hflush', hpoint', hsame])
      subst hij
      obtain rfl : obj = other := Option.some.inj (hobj.symm.trans hother)
      obtain rfl : flush = flush' := Option.some.inj (hflush.symm.trans hflush')
      obtain rfl : post = post' := by
        rw [hpoint] at hpoint'
        injection hpoint'
      by_cases hhas : w.lago.Has post.event.transactionId
      · exact Or.inl hhas
      · right
        have htx : post.event.transactionId.steveTransactionId = id := by rw [hkey]; exact hid
        rw [hid, billedKwh_record_of_fresh hhas htx, hvalue]
        exact le_refl _

/-- A batch of the sync reaches Lago. -/
lemma LosslessInvariant.syncReceived (hinv : LosslessInvariant id full w) {run : SyncRun}
    (hsync : w.sync = some (.sending run)) (batch : ℕ) :
    billedKwh w.lago id ≤ billedKwh (w.lago.recordAll (batchAt run.lagoEvents batch)) id ∧
      ((w.lago.recordAll (batchAt run.lagoEvents batch)).Has (.final id) →
        full ≤ billedKwh (w.lago.recordAll (batchAt run.lagoEvents batch)) id) ∧
      ∀ (j : ℕ) (other : TxObject), w.heap[j]? = some other → other.st.steveTransactionId = id →
        other.Covered (w.lago.recordAll (batchAt run.lagoEvents batch)) full := by
  obtain ⟨prior, hbills, hprior, -⟩ := hinv.run _ hsync
  have honly : OnlyFinal id (full - prior) (batchAt run.lagoEvents batch) := fun event he =>
    hbills.events event (mem_of_mem_batchAt he)
  have hsum := billedKwh_recordAll w.lago honly
  have hle :
      billedKwh w.lago id ≤ billedKwh (w.lago.recordAll (batchAt run.lagoEvents batch)) id := by
    rw [hsum]
    split
    · next hnew =>
        rcases KeyedLog.has_recordAll.mp hnew.2 with hold | ⟨event, hmem, hkey⟩
        · exact absurd hold hnew.1
        · have hdue := (hbills.events_due event (mem_of_mem_batchAt hmem) (by rw [← hkey]; rfl)).1
          have htol : (0 : ℚ) ≤ alreadyBilledToleranceKwh := by norm_num [alreadyBilledToleranceKwh]
          linarith
    · linarith
  refine ⟨hle, fun hhas => ?_, fun j other hother hid => ?_⟩
  · by_cases hold : w.lago.Has (.final id)
    · exact (hinv.trueUp hold).trans hle
    · rw [hsum, if_pos ⟨hold, hhas⟩]
      linarith
  · refine (hinv.objects j other hother hid).mono (by rw [hid]; exact hle)
      fun flush post hflush hpoint hhas => ?_
    have hregPost := (hinv.regular j other hother).flight flush hflush
    rw [hpoint] at hregPost
    rw [hregPost.2.2.2.2, hid, has_incremental_recordAll honly] at hhas
    left
    rw [hregPost.2.2.2.2, hid]
    exact hhas

/-- The row of the transaction after a step: its total is covered, and it is finalized only when
the session is. -/
lemma LosslessInvariant.row_step (hinv : LosslessInvariant id full w)
    (hstep : World.step w a = some w') (hlago : w'.lago = w.lago) :
    (∃ r, w'.db.billedTotal id = .fin r ∧ OnGrid 3 r ∧ r ≤ billedKwh w'.lago id) ∧
      LosslessWhenFinal id full w' := by
  rw [LosslessWhenFinal, hlago]
  cases World.step_row hinv.inOrder hstep id with
  | same hrow =>
      obtain ⟨htotal, hfinal⟩ := Db.same_row hrow
      rw [htotal, hfinal]
      exact ⟨hinv.row, hinv.finalized⟩
  | flushed ha hobj hid hflush hpoint hrow htotal hfinal =>
      next i obj flush args row =>
      have hreg := hinv.regular i obj hobj
      have hcov := (hinv.objects i obj hobj hid).flight flush hflush
      have hargs := hreg.flight flush hflush
      rw [hpoint] at hcov hargs
      obtain ⟨hgrid, -, -, hnew, -⟩ := hargs
      have hgridNew : OnGrid 3 args.newTotal := by rw [hnew]; exact hreg.total_grid.add hgrid
      rw [Db.billedTotal_of_row hrow, Db.finalized_of_row hrow, htotal, hfinal,
        toFixed_six_of_grid hgridNew]
      rw [hid] at hcov
      exact ⟨⟨_, rfl, hgridNew, hcov.1⟩, hcov.2⟩
  | synced hphase hmem hwrites hid hupdate hrow hsent =>
      next phase pt row =>
      obtain ⟨prior, hbills, hprior, hbillable⟩ := hinv.run phase hphase
      rw [Db.billedTotal_of_row hrow, Db.finalized_of_row hrow]
      rcases hbills.stateUpdate_total hmem hid hupdate with ⟨hcovered, hwritten⟩ | ⟨hlt, hwritten⟩
      · rw [hwritten]
        exact ⟨⟨prior, rfl, hbills.grid, hprior⟩, fun _ => by linarith⟩
      · have htrue : full ≤ billedKwh w.lago id := by
          rcases hbills.covered_or_rest pt hmem hid with ⟨hcovered, -⟩ | ⟨-, -, hkey, hskip⟩
          · exact absurd hcovered (not_le.mpr hlt)
          · have hsend : pt.shouldSendToLago = true := by
              by_contra hno
              obtain ⟨hsub, hplan⟩ := hbillable pt hmem hid
              rcases hskip (by simpa using hno) with h | h
              · exact hsub h
              · exact hplan h
            obtain ⟨-, event, hof, hhas⟩ := hsent hsend
            rw [hof.transactionId, hkey] at hhas
            exact hinv.trueUp hhas
        have htol : (0 : ℚ) ≤ alreadyBilledToleranceKwh := by norm_num [alreadyBilledToleranceKwh]
        rw [hwritten]
        exact ⟨⟨full, rfl, hbills.full_grid, htrue⟩, fun _ => by linarith⟩

/-- A step that meets the assumptions and sends anew keeps the invariant. -/
theorem LosslessInvariant.step {start stop : ℤ}
    (hinv : LosslessInvariant id (sessionKwh start stop) w) (hlisted : ListedAs id start stop w a)
    (hbillable : SyncResolvesBillable id w a) (hsends : SendsAnew id (sessionKwh start stop) w a)
    (hstep : World.step w a = some w') : LosslessInvariant id (sessionKwh start stop) w' := by
  have hregular := hinv.regular.step hstep
  have hinOrder := hinv.inOrder.step hstep
  have hapart := hinv.apart.step hinv.regular hsends hstep
  have hobjects := hinv.objects_step hsends hstep
  have hrow := hinv.row_step hstep
  cases World.step_shared hstep with
  | quiet hrows hevents hlago hsync =>
      refine ⟨hregular, hinOrder, by rw [hlago]; exact hinv.nonneg, (hrow hlago).1, (hrow hlago).2,
        by rw [hlago]; exact hinv.trueUp, hobjects hlago, hapart, ?_⟩
      rw [hsync, hlago]
      exact hinv.run
  | committed hobj hflush hpoint hdb =>
      exact ⟨hregular, hinOrder, hinv.nonneg, (hrow rfl).1, (hrow rfl).2, hinv.trueUp,
        hobjects rfl, hapart, hinv.run⟩
  | syncPersisted hsync haccepted hdb =>
      exact ⟨hregular, hinOrder, hinv.nonneg, (hrow rfl).1, (hrow rfl).2, hinv.trueUp,
        hobjects rfl, hapart, fun phase h => by simp at h⟩
  | syncEnded =>
      exact ⟨hregular, hinOrder, hinv.nonneg, (hrow rfl).1, (hrow rfl).2, hinv.trueUp,
        hobjects rfl, hapart, fun phase h => by simp at h⟩
  | syncSaved hsync hdb =>
      refine ⟨hregular, hinOrder, hinv.nonneg, (hrow rfl).1, (hrow rfl).2, hinv.trueUp,
        hobjects rfl, hapart, fun phase h => ?_⟩
      obtain rfl := Option.some.inj h
      have hrun := hinv.run _ hsync
      exact hrun
  | syncRead hnone hrun hphase =>
      next inputs runId run phase =>
      refine ⟨hregular, hinOrder, hinv.nonneg, (hrow rfl).1, (hrow rfl).2, hinv.trueUp,
        hobjects rfl, hapart, fun phase' h => ?_⟩
      obtain rfl := Option.some.inj h
      obtain ⟨r, hr, hgrid, hle⟩ := hinv.row
      have hbills := billsSession_of_read hrun hlisted hr hgrid
      have hprocessed := (readSync_eq_ok hrun).2.2.1
      have hskip : ∀ pt ∈ run.processed, pt.steveTransactionId = id →
          pt.skipReason ≠ some .noSubscription ∧ pt.skipReason ≠ some .nonUsagePlan := by
        rw [hprocessed]
        exact hbillable
      rcases hphase with rfl | ⟨rfl, -⟩ <;> exact ⟨r, hbills, hle, hskip⟩
  | lagoReceived hobj hflush hpoint =>
      obtain ⟨hle, hfinal, hobjs⟩ := hinv.lagoReceived hobj hflush hpoint
      obtain ⟨r, hr, hgrid, hr'⟩ := hinv.row
      exact ⟨hregular, hinOrder, hinv.nonneg.trans hle, ⟨r, hr, hgrid, hr'.trans hle⟩,
        fun h => (hinv.finalized h).trans hle, fun h => (hinv.trueUp (hfinal h)).trans hle, hobjs,
        hapart, fun phase h => by
          obtain ⟨prior, hbills, hprior, hskip⟩ := hinv.run phase h
          exact ⟨prior, hbills, hprior.trans hle, hskip⟩⟩
  | syncReceived hsync =>
      next run batch =>
      obtain ⟨hle, hfinal, hobjs⟩ := hinv.syncReceived hsync batch
      obtain ⟨r, hr, hgrid, hr'⟩ := hinv.row
      exact ⟨hregular, hinOrder, hinv.nonneg.trans hle, ⟨r, hr, hgrid, hr'.trans hle⟩,
        fun h => (hinv.finalized h).trans hle, hfinal, hobjs, hapart, fun phase h => by
          obtain ⟨prior, hbills, hprior, hskip⟩ := hinv.run phase h
          exact ⟨prior, hbills, hprior.trans hle, hskip⟩⟩

end Steps

/-- In a run whose flushes of a transaction all send anew, its row is finalized only when Lago has
accepted the energy of the session. -/
theorem losslessWhenFinal_of_sendsAnew (userMappings : List UserMapping) (clock : ℕ)
    (steveTransactionId : ℕ) (start stop : ℤ) (as : List Action)
    (hlisted : Meets World.step (ListedAs steveTransactionId start stop)
      (World.initial userMappings clock) as)
    (hbillable : Meets World.step (SyncResolvesBillable steveTransactionId)
      (World.initial userMappings clock) as)
    (hsends : Meets World.step (SendsAnew steveTransactionId (sessionKwh start stop))
      (World.initial userMappings clock) as) :
    Always World.step (LosslessWhenFinal steveTransactionId (sessionKwh start stop))
      (World.initial userMappings clock) as := by
  have hinit := initial_losslessInvariant userMappings clock steveTransactionId
    (sessionKwh start stop)
  refine ⟨hinit.finalized, Meets.eachStep ?_ ?_ hinit (meets_and.mpr ⟨hlisted,
    meets_and.mpr ⟨hbillable, hsends⟩⟩)⟩
  · exact fun _ _ _ hinv hC hstep => hinv.step hC.1 hC.2.1 hC.2.2 hstep
  · exact fun _ _ _ hinv hC hstep => (hinv.step hC.1 hC.2.1 hC.2.2 hstep).finalized

/-- A session metered from its start: an interim flush, the final flush, and a sync pass. -/
theorem losslessWhenFinal_of_full_session :
    Always World.step (LosslessWhenFinal 7 (sessionKwh 0 2000))
      (World.initial [Scenario.cardMapping] 0)
      ([Scenario.meter 7 0 false, .tick 60000, Scenario.meter 7 1 false] ++ Scenario.lookUps 0 7 ++
        Scenario.settles 0 ++ [.tick 60000, Scenario.meter 7 2 true] ++ Scenario.settles 0 ++
        Scenario.emptyPass 1 [Scenario.transaction 7 "0" (some "2000")]) :=
  losslessWhenFinal_of_sendsAnew _ _ _ _ _ _ (by decide +kernel) (by decide +kernel)
    (by decide +kernel)

/-- The first sample arrives when 100 Wh are used already. -/
def Scenario.lateAnchor : List Action :=
  [meter 7 (1 / 10) false, .tick 60000, meter 7 2 true] ++ lookUps 0 7 ++ settles 0 ++
    emptyPass 1 [transaction 7 "0" (some "2000")]

/-- The final flush finalizes the row with 1.9 of 2 kWh, and the sync pass leaves it at that. -/
theorem not_losslessWhenFinal_of_late_anchor :
    Meets World.step (ListedAs 7 0 2000) (World.initial [Scenario.cardMapping] 0)
        Scenario.lateAnchor ∧
      Meets World.step (SyncResolvesBillable 7) (World.initial [Scenario.cardMapping] 0)
        Scenario.lateAnchor ∧
      ¬Always World.step (LosslessWhenFinal 7 (sessionKwh 0 2000))
        (World.initial [Scenario.cardMapping] 0) Scenario.lateAnchor := by
  decide +kernel

end ExpresSync
