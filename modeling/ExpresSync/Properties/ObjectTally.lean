import ExpresSync.Properties.BillingContext

/-!
# The meter bookkeeping of one record

Five fields of a record account for energy: where the meter was anchored, its last value, the
value up to which it was billed, the total sent and the delta pending.  `ObjectStep.tallyStep`
says what a step can do to them and to the part of a flush that has left the process; every
result about amounts is derived from it.  `TxObject.Regular` holds of every object of every run:
amounts are whole Wh, so that no rounding in the source ever changes one.
-/

namespace ExpresSync

/-! ## What a step does to the bookkeeping -/

/-- The bookkeeping fields of a record. -/
structure Tally where
  start : Option ℤ
  last : Option ℤ
  lastBilled : ℤ
  total : ℚ
  pending : ℚ

namespace TxObject

/-- The bookkeeping of an object. -/
def tally (obj : TxObject) : Tally where
  start := obj.st.startMeterValueWh
  last := obj.st.lastMeterValueWh
  lastBilled := obj.st.lastBilledMeterValueWh
  total := obj.st.totalBilledKwh
  pending := obj.st.pendingDeltaKwh

/-- The object has taken its first sample. -/
def Anchored (obj : TxObject) : Prop := obj.tally.start.isSome ∧ obj.tally.last.isSome

end TxObject

/-- What the suspended flush of an object is about to do when it goes on after
`resolveBillingContext`: `none` when there is no such flush, else whether it will send. -/
def TxObject.aboutToSend (obj : TxObject) : Option Bool :=
  obj.flushing.bind fun flush =>
    match flush.point with
    | .resolved billable => some (billable && truthy obj.st.lagoSubscriptionExternalId)
    | _ => none

/-- The identifier of the event an object is posting. -/
def TxObject.postingKey (obj : TxObject) : Option LagoEventTransactionId :=
  obj.flushing.bind fun flush =>
    match flush.point with
    | .posting post => some post.event.transactionId
    | _ => none

/-- The flush in flight for an object is that of the final sample. -/
def TxObject.flushesFinal (obj : TxObject) : Bool := obj.flushing.any (·.final)

/-- No flush of the object has sent an event that is not settled. -/
def TxObject.NotSending (obj : TxObject) : Prop :=
  ∀ flush, obj.flushing = some flush → ¬flush.point.Sending

lemma TxObject.notSending_of_none {obj : TxObject} (h : obj.flushing = none) : obj.NotSending :=
  fun flush hflush => by rw [h] at hflush; simp at hflush

lemma TxObject.notSending_of_point {obj : TxObject} {flush : Flush} (h : obj.flushing = some flush)
    (hpoint : ¬flush.point.Sending) : obj.NotSending := fun flush' hflush => by
  obtain rfl : flush = flush' := by rw [h] at hflush; exact Option.some.inj hflush
  exact hpoint

/-- The bookkeeping after a sample `meterValueWh`, the last one being `last`. -/
def Tally.add (t : Tally) (last meterValueWh : ℤ) : Tally :=
  { t with
    last := some meterValueWh
    pending :=
      if last < meterValueWh then t.pending + (meterValueWh - last : ℚ) / 1000 else t.pending }

/-- What a step does to the bookkeeping of an object and to what it has sent. -/
inductive TallyStep (w : World) (i : ℕ) (a : Action) (obj obj' : TxObject) : Prop
  | idle (htally : obj'.tally = obj.tally)
      (hflush : obj'.flushing = obj.flushing ∨ obj'.NotSending)
  | sampled {sample : MeterSample} {kwh : ℚ} {last : ℤ} (ha : a = .sample sample)
      (hkwh : sample.kwh = some kwh) (hheld : obj.held = true)
      (hid : obj.st.steveTransactionId = sample.steveTransactionId)
      (hlast : obj.tally.last = some last) (hguard : last - monotonicGuardWh ≤ meterWh kwh)
      (htally : obj'.tally = obj.tally.add last (meterWh kwh))
      (hflush : obj'.flushing = obj.flushing ∨ obj'.NotSending)
  | sent {flush : Flush} (ha : a = .flush i .resumes) (hflush : obj.flushing = some flush)
      (hpoint : flush.point = .resolved true)
      (hsub : truthy obj.st.lagoSubscriptionExternalId = true) (htally : obj'.tally = obj.tally)
      (hflush' : obj'.flushing = some
        { flush with
          point := .posting
            { flushKwh := roundTo 6 obj.tally.pending
              now := w.clock
              event := obj.buildEvent (obj.st.lagoSubscriptionExternalId.getD "")
                (roundTo 6 obj.tally.pending) w.clock } })
  | dropped {flush : Flush} {billable : Bool} (ha : a = .flush i .resumes)
      (hflush : obj.flushing = some flush) (hpoint : flush.point = .resolved billable)
      (hdrop : (billable && truthy obj.st.lagoSubscriptionExternalId) = false)
      (htally : obj'.tally = { obj.tally with pending := 0 }) (hflush' : obj'.flushing = none)
  | answered {flush : Flush} {post : PostedFlush} (ha : a = .flush i (.postAnswered true))
      (hflush : obj.flushing = some flush) (hpoint : flush.point = .posting post)
      (hhas : w.lago.Has post.event.transactionId) (htally : obj'.tally = obj.tally)
      (hflush' : obj'.flushing = some { flush with point := .persisting (obj.persistArgs post) })
  | committed {flush : Flush} {args : FlushPersistArgs} (ha : a = .flush i .commits)
      (hflush : obj.flushing = some flush) (hpoint : flush.point = .persisting args)
      (htally : obj'.tally = obj.tally)
      (hflush' : obj'.flushing = some { flush with point := .persisted args })
  | succeeded {flush : Flush} {args : FlushPersistArgs} (ha : a = .flush i (.persistAnswered true))
      (hflush : obj.flushing = some flush) (hpoint : flush.point = .persisted args)
      (htally : obj'.tally =
        { obj.tally with lastBilled := args.meterValueToWh, total := args.newTotal, pending := 0 })
      (hflush' : obj'.flushing = none)

namespace TxObject

variable {obj : TxObject} {flush : Flush}

@[simp] lemma startFlush_tally (final : Bool) : (obj.startFlush final).tally = obj.tally := by
  unfold startFlush
  split_ifs <;> rfl

lemma startFlush_flushing (final : Bool) :
    (obj.startFlush final).flushing = obj.flushing ∨ (obj.startFlush final).NotSending := by
  unfold startFlush
  split_ifs
  · exact Or.inl rfl
  · exact Or.inl rfl
  · exact Or.inr (notSending_of_point rfl id)
  · exact Or.inr (notSending_of_point rfl id)

lemma returnResolved_notSending (billable : Bool) :
    (obj.returnResolved flush billable).NotSending :=
  notSending_of_point rfl id

lemma subscriptionResolved_idle (resolved : Option ResolvedSubscription) :
    (obj.subscriptionResolved flush resolved).tally = obj.tally ∧
      (obj.subscriptionResolved flush resolved).NotSending := by
  cases resolved with
  | none => exact ⟨rfl, returnResolved_notSending false⟩
  | some subscription => exact ⟨rfl, returnResolved_notSending _⟩

lemma steveAnswered_idle (hanchored : obj.Anchored)
    (answer : Except String (List StEvETransaction)) :
    (obj.steveAnswered flush answer).tally = obj.tally ∧
      (obj.steveAnswered flush answer).NotSending := by
  obtain ⟨start, hstart⟩ := Option.isSome_iff_exists.mp hanchored.1
  unfold steveAnswered
  split
  · exact ⟨rfl, returnResolved_notSending false⟩
  · exact ⟨rfl, returnResolved_notSending false⟩
  · next tx _ =>
      have hkeep : (obj.st.startMeterValueWh <|> tx.startMeter) = obj.st.startMeterValueWh := by
        rw [show obj.st.startMeterValueWh = some start from hstart]
        rfl
      rw [hkeep]
      split
      · exact ⟨rfl, returnResolved_notSending false⟩
      · exact ⟨rfl, notSending_of_point rfl id⟩

lemma mappingSelected_idle (cache : SubscriptionResolutionCache)
    (row : Except String (Option UserMapping)) :
    (obj.mappingSelected flush cache row).tally = obj.tally ∧
      (obj.mappingSelected flush cache row).NotSending := by
  unfold mappingSelected
  split
  · exact ⟨rfl, returnResolved_notSending false⟩
  · exact ⟨rfl, returnResolved_notSending false⟩
  · split
    · exact subscriptionResolved_idle _
    · exact ⟨rfl, notSending_of_point rfl id⟩

end TxObject

/-- What a step does to the bookkeeping of an object that has taken its first sample. -/
theorem ObjectStep.tallyStep {w : World} {i : ℕ} {a : Action} {obj obj' : TxObject}
    (hanchored : obj.Anchored) (h : ObjectStep w i a obj obj') : TallyStep w i a obj obj' := by
  cases h with
  | unchanged => exact .idle rfl (Or.inl rfl)
  | unheld => exact .idle rfl (Or.inl rfl)
  | swept => exact .idle (TxObject.startFlush_tally _) (TxObject.startFlush_flushing _)
  | steveAnswered hflush hpoint =>
      obtain ⟨htally, hsending⟩ := TxObject.steveAnswered_idle hanchored _
      exact .idle htally (Or.inr hsending)
  | mappingSelected hflush hpoint hrow =>
      obtain ⟨htally, hsending⟩ := TxObject.mappingSelected_idle _ _
      exact .idle htally (Or.inr hsending)
  | subscriptionsListed hflush hpoint =>
      obtain ⟨htally, hsending⟩ := TxObject.subscriptionResolved_idle _
      exact .idle htally (Or.inr hsending)
  | sampled hkwh hheld hid =>
      next sample kwh =>
      obtain ⟨last, hlast⟩ := Option.isSome_iff_exists.mp hanchored.2
      unfold TxObject.takeSample
      rw [show obj.st.lastMeterValueWh = some last from hlast]
      simp only []
      split
      · exact .idle rfl (Or.inl rfl)
      · next hguard =>
          split
          · exact .sampled rfl hkwh hheld hid hlast (not_lt.mp hguard)
              (TxObject.startFlush_tally _) (TxObject.startFlush_flushing _)
          · exact .sampled rfl hkwh hheld hid hlast (not_lt.mp hguard) rfl (Or.inl rfl)
  | resumed hflush hpoint =>
      next flush billable =>
      unfold TxObject.resumeFlush
      split
      · next hsend =>
          obtain ⟨rfl, hsub⟩ := Bool.and_eq_true_iff.mp hsend
          exact .sent rfl hflush hpoint hsub rfl rfl
      · next hdrop => exact .dropped rfl hflush hpoint (by simpa using hdrop) rfl rfl
  | postAnswered hflush hpoint hok =>
      next flush post ok =>
      cases ok with
      | true => exact .answered rfl hflush hpoint (hok rfl) rfl rfl
      | false => exact .idle rfl (Or.inr (TxObject.notSending_of_none rfl))
  | committed hflush hpoint => exact .committed rfl hflush hpoint rfl rfl
  | persistFailed hflush hpoint => exact .idle rfl (Or.inr (TxObject.notSending_of_none rfl))
  | succeeded held hflush hpoint => exact .succeeded rfl hflush hpoint rfl rfl

lemma TallyStep.anchored {w : World} {i : ℕ} {a : Action} {obj obj' : TxObject}
    (h : TallyStep w i a obj obj') (hanchored : obj.Anchored) : obj'.Anchored := by
  cases h <;> rename_i htally _ <;> unfold TxObject.Anchored <;> rw [htally]
  case sampled => exact ⟨hanchored.1, rfl⟩
  all_goals exact hanchored

/-- The first sample of an object. -/
lemma firstSample_eq (sample : MeterSample) (meterValueWh : ℤ) (now : ℕ) :
    (firstSample sample meterValueWh now).tally =
        ⟨some meterValueWh, some meterValueWh, meterValueWh, 0, 0⟩ ∧
      (firstSample sample meterValueWh now).flushing = none ∧
      (firstSample sample meterValueWh now).st.steveTransactionId = sample.steveTransactionId := by
  refine ⟨?_, rfl, rfl⟩
  simp [firstSample, TxObject.takeSample, createState, TxObject.anchor, TxObject.tally]

/-! ## Amounts are whole Wh -/

/-- What is known about the local variables of a flush that has sent its event, next to the
bookkeeping `t` of its record. -/
def RegularAt (steveTransactionId : ℕ) (t : Tally) : FlushPoint → Prop
  | .posting post =>
      OnGrid 3 post.flushKwh ∧ 0 ≤ post.flushKwh ∧ post.flushKwh ≤ t.pending ∧
        post.event.properties.value = .fin post.flushKwh ∧
        post.event.transactionId = .incremental steveTransactionId (post.now / 1000)
  | .persisting args | .persisted args =>
      OnGrid 3 args.flushKwh ∧ 0 ≤ args.flushKwh ∧ args.flushKwh ≤ t.pending ∧
        args.newTotal = t.total + args.flushKwh ∧
        args.lagoEventTransactionId = .incremental steveTransactionId (args.now / 1000)
  | _ => True

/-- The amounts of an object, and those of the flush it has in flight, are whole Wh. -/
structure TxObject.Regular (obj : TxObject) : Prop where
  anchored : obj.Anchored
  total_grid : OnGrid 3 obj.tally.total
  pending_grid : OnGrid 3 obj.tally.pending
  pending_nonneg : 0 ≤ obj.tally.pending
  flight : ∀ flush, obj.flushing = some flush →
    RegularAt obj.st.steveTransactionId obj.tally flush.point

lemma RegularAt.of_not_sending {id : ℕ} {t : Tally} {point : FlushPoint} (h : ¬point.Sending) :
    RegularAt id t point := by
  cases point with
  | posting | persisting | persisted => exact absurd trivial h
  | steveTransaction | userMapping | subscriptions | resolved => trivial

lemma RegularAt.mono {id : ℕ} {t t' : Tally} {point : FlushPoint} (htotal : t'.total = t.total)
    (hpending : t.pending ≤ t'.pending) (h : RegularAt id t point) : RegularAt id t' point := by
  cases point with
  | posting post =>
      obtain ⟨hgrid, hnonneg, hle, hrest⟩ := h
      exact ⟨hgrid, hnonneg, hle.trans hpending, hrest⟩
  | persisting args | persisted args =>
      obtain ⟨hgrid, hnonneg, hle, htot, hkey⟩ := h
      exact ⟨hgrid, hnonneg, hle.trans hpending, by rw [htot, htotal], hkey⟩
  | steveTransaction | userMapping | subscriptions | resolved => trivial

lemma Tally.add_pending_grid {t : Tally} (h : OnGrid 3 t.pending) (last m : ℤ) :
    OnGrid 3 (t.add last m).pending := by
  simp only [Tally.add]
  split
  · have hdelta : OnGrid 3 ((m - last : ℚ) / 1000) := ⟨m - last, by push_cast; norm_num⟩
    exact h.add hdelta
  · exact h

lemma Tally.pending_le_add (t : Tally) (last m : ℤ) : t.pending ≤ (t.add last m).pending := by
  simp only [Tally.add]
  split
  · next hlt =>
      have hpos : (0 : ℚ) ≤ (m - last) / 1000 := by
        have : (last : ℚ) < m := by exact_mod_cast hlt
        apply div_nonneg <;> linarith
      linarith
  · exact le_refl _

/-- A quantity of whole Wh is not changed by any of the source's roundings. -/
lemma roundTo_six_of_grid {x : ℚ} (h : OnGrid 3 x) : roundTo 6 x = x :=
  roundTo_of_onGrid (h.mono (by norm_num))

lemma toFixed_six_of_grid {x : ℚ} (h : OnGrid 3 x) : toFixed 6 x = x :=
  toFixed_of_onGrid (h.mono (by norm_num))

lemma firstSample_regular (sample : MeterSample) (meterValueWh : ℤ) (now : ℕ) :
    (firstSample sample meterValueWh now).Regular := by
  obtain ⟨htally, hflush, -⟩ := firstSample_eq sample meterValueWh now
  refine ⟨⟨by rw [htally]; rfl, by rw [htally]; rfl⟩, ?_, ?_, ?_, ?_⟩
  · rw [htally]
    exact OnGrid.zero 3
  · rw [htally]
    exact OnGrid.zero 3
  · rw [htally]
  · intro flush hf
    rw [hflush] at hf
    simp at hf

/-- A step keeps the amounts of an object whole. -/
theorem TxObject.Regular.step {w : World} {i : ℕ} {a : Action} {obj obj' : TxObject}
    (hreg : obj.Regular) (h : ObjectStep w i a obj obj') : obj'.Regular := by
  have hid := h.steveTransactionId
  have hflight : ∀ {t : Tally}, t.total = obj.tally.total → obj.tally.pending ≤ t.pending →
      (obj'.flushing = obj.flushing ∨ obj'.NotSending) →
      ∀ flush, obj'.flushing = some flush → RegularAt obj'.st.steveTransactionId t flush.point := by
    intro t htotal hpending hsame flush hflush
    rcases hsame with hsame | hnot
    · rw [hid]
      exact (hreg.flight flush (hsame ▸ hflush)).mono htotal hpending
    · exact RegularAt.of_not_sending (hnot flush hflush)
  have hanchored := (h.tallyStep hreg.anchored).anchored hreg.anchored
  cases h.tallyStep hreg.anchored with
  | idle htally hflush =>
      refine ⟨hanchored, ?_, ?_, ?_, ?_⟩ <;> rw [htally]
      · exact hreg.total_grid
      · exact hreg.pending_grid
      · exact hreg.pending_nonneg
      · exact hflight rfl le_rfl hflush
  | sampled ha hkwh hheld hid' hlast hguard htally hflush =>
      refine ⟨hanchored, ?_, ?_, ?_, ?_⟩ <;> rw [htally]
      · exact hreg.total_grid
      · exact Tally.add_pending_grid hreg.pending_grid _ _
      · exact hreg.pending_nonneg.trans (Tally.pending_le_add _ _ _)
      · exact hflight rfl (Tally.pending_le_add _ _ _) hflush
  | sent ha hflush hpoint hsub htally hflush' =>
      refine ⟨hanchored, ?_, ?_, ?_, ?_⟩ <;> rw [htally]
      · exact hreg.total_grid
      · exact hreg.pending_grid
      · exact hreg.pending_nonneg
      · intro flush' hf
        obtain rfl := Option.some.inj (hflush'.symm.trans hf)
        have hround := roundTo_six_of_grid hreg.pending_grid
        refine ⟨by rw [hround]; exact hreg.pending_grid, by rw [hround]; exact hreg.pending_nonneg,
          hround.le, ?_, ?_⟩
        · simp only [TxObject.buildEvent, hround, toFixed_of_onGrid hreg.pending_grid]
        · simp only [TxObject.buildEvent, TxObject.flushKey, hid]
  | dropped ha hflush hpoint hdrop htally hflush' =>
      refine ⟨hanchored, ?_, ?_, ?_, ?_⟩
      · rw [htally]
        exact hreg.total_grid
      · rw [htally]
        exact OnGrid.zero 3
      · rw [htally]
      · intro flush' hf
        rw [hflush'] at hf
        simp at hf
  | answered ha hflush hpoint hhas htally hflush' =>
      have hpost := hreg.flight _ hflush
      rw [hpoint] at hpost
      obtain ⟨hgrid, hnonneg, hle, -, hkey⟩ := hpost
      refine ⟨hanchored, ?_, ?_, ?_, ?_⟩ <;> rw [htally]
      · exact hreg.total_grid
      · exact hreg.pending_grid
      · exact hreg.pending_nonneg
      · intro flush' hf
        obtain rfl := Option.some.inj (hflush'.symm.trans hf)
        exact ⟨hgrid, hnonneg, hle, roundTo_six_of_grid (hreg.total_grid.add hgrid),
          by rw [hid]; exact hkey⟩
  | committed ha hflush hpoint htally hflush' =>
      have hargs := hreg.flight _ hflush
      rw [hpoint] at hargs
      refine ⟨hanchored, ?_, ?_, ?_, ?_⟩ <;> rw [htally]
      · exact hreg.total_grid
      · exact hreg.pending_grid
      · exact hreg.pending_nonneg
      · intro flush' hf
        obtain rfl := Option.some.inj (hflush'.symm.trans hf)
        rw [hid]
        exact hargs
  | succeeded ha hflush hpoint htally hflush' =>
      have hargs := hreg.flight _ hflush
      rw [hpoint] at hargs
      obtain ⟨hgrid, -, -, htotal, -⟩ := hargs
      refine ⟨hanchored, ?_, ?_, ?_, ?_⟩
      · rw [htally, htotal]
        exact hreg.total_grid.add hgrid
      · rw [htally]
        exact OnGrid.zero 3
      · rw [htally]
      · intro flush' hf
        rw [hflush'] at hf
        simp at hf

/-- Every object of the emitter has whole amounts. -/
def World.Regular (w : World) : Prop :=
  ∀ (i : ℕ) (obj : TxObject), w.heap[i]? = some obj → obj.Regular

lemma World.initial_regular (userMappings : List UserMapping) (clock : ℕ) :
    (World.initial userMappings clock).Regular := fun i obj h => by simp [World.initial] at h

theorem World.Regular.step {w w' : World} {a : Action} (h : w.Regular)
    (hstep : World.step w a = some w') : w'.Regular :=
  World.forall_object_step h (fun sample _ _ _ => firstSample_regular sample _ _)
    (fun _ _ _ _ hreg hobj => hreg.step hobj) hstep

/-! ## The samples of a run -/

/-- The samples of a transaction do not fall below the last one its record has seen. -/
def SamplesRise (steveTransactionId : ℕ) (w : World) : Action → Prop
  | .sample sample =>
      sample.steveTransactionId = steveTransactionId →
        ∀ kwh ∈ sample.kwh, ∀ obj ∈ w.heap, obj.held = true →
          obj.st.steveTransactionId = steveTransactionId →
            ∀ last ∈ obj.st.lastMeterValueWh, last ≤ meterWh kwh
  | _ => True

instance (id : ℕ) (w : World) (a : Action) : Decidable (SamplesRise id w a) := by
  unfold SamplesRise
  rcases a <;> infer_instance

end ExpresSync
