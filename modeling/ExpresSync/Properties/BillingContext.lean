import ExpresSync.Model.WorldSteps

/-!
# The billing context of one record

Whether a record knows who pays, and what it knows, is written by `resolveBillingContext` only.
`ObjectStep.contextStep` says what a step can do to it and to the part of a flush that looks it
up; `World.step_ambient` says what a step can do to the subscription cache all records share, to
the clock and to the history of first samples.
-/

namespace ExpresSync

/-- The fields of a record that `resolveBillingContext` writes. -/
structure BillingContext where
  resolved : Bool
  lagoSubscriptionExternalId : Option String
  planCode : Option String

/-- The billing context of an object. -/
def TxObject.context (obj : TxObject) : BillingContext where
  resolved := obj.st.resolved
  lagoSubscriptionExternalId := obj.st.lagoSubscriptionExternalId
  planCode := obj.st.planCode

/-- The context once `resolveSubscription` has returned. -/
def BillingContext.resolve (context : BillingContext) (result : Option ResolvedSubscription) :
    BillingContext :=
  match result with
  | none => context
  | some subscription =>
      { context with
        lagoSubscriptionExternalId := some subscription.externalId
        planCode := subscription.planCode }

/-- What `resolveBillingContext` answers once `resolveSubscription` has returned. -/
def resolvedBillable : Option ResolvedSubscription → Bool
  | none => false
  | some subscription => !isNonUsagePlan subscription.planCode

/-- The flush is waiting for an answer that `resolveBillingContext` needs. -/
def FlushPoint.LookingUp : FlushPoint → Prop
  | .steveTransaction => True
  | .userMapping _ => True
  | .subscriptions _ => True
  | _ => False

/-- The flush has sent its event and not yet settled. -/
def FlushPoint.Sending : FlushPoint → Prop
  | .posting _ => True
  | .persisting _ => True
  | .persisted _ => True
  | _ => False

/-- The action makes an object that has no flush in flight start one. -/
def World.startsFlush (w : World) (obj : TxObject) : Action → Bool
  | .sample sample =>
      obj.held && decide (obj.st.steveTransactionId = sample.steveTransactionId) &&
        sample.kwh.any fun kwh =>
          obj.flushing.isNone && (obj.takeSample sample (meterWh kwh) w.clock).flushing.isSome
  | .sweep => obj.flushing.isNone && (obj.sweep w.clock).flushing.isSome
  | _ => false

/-- What a step does to the billing context of an object and to the flush that looks it up. -/
inductive ContextStep (w : World) (i : ℕ) (a : Action) (obj obj' : TxObject) : Prop
  | idle (hcontext : obj'.context = obj.context) (hflush : obj'.flushing = obj.flushing)
  | reused {final : Bool} (hstarts : w.startsFlush obj a = true)
      (hresolved : obj.st.resolved = true) (hcontext : obj'.context = obj.context)
      (hflush : obj'.flushing =
        some ⟨final, .resolved obj.st.lagoSubscriptionExternalId.isSome⟩)
  | started {final : Bool} (hstarts : w.startsFlush obj a = true)
      (hresolved : obj.st.resolved = false)
      (hcontext : obj'.context = { obj.context with resolved := true })
      (hflush : obj'.flushing = some ⟨final, .steveTransaction⟩)
  | identified {flush : Flush} {idTag : String} (hflush : obj.flushing = some flush)
      (hpoint : flush.point = .steveTransaction) (hcontext : obj'.context = obj.context)
      (hflush' : obj'.flushing = some { flush with point := .userMapping idTag })
  | asked {flush : Flush} {idTag : String} {mapping : UserMapping}
      (ha : a = .flush i (.mappingSelected (.ok (some mapping))))
      (hflush : obj.flushing = some flush) (hpoint : flush.point = .userMapping idTag)
      (hask : resolveWithoutLago mapping w.subscriptionCache = none)
      (hcontext : obj'.context = obj.context)
      (hflush' : obj'.flushing = some { flush with point := .subscriptions mapping })
  | unpaid {flush : Flush} (hflush : obj.flushing = some flush) (hlook : flush.point.LookingUp)
      (hcontext : obj'.context = obj.context)
      (hflush' : obj'.flushing = some { flush with point := .resolved false })
  | failed {flush : Flush} (hflush : obj.flushing = some flush) (hlook : flush.point.LookingUp)
      (hcontext : obj'.context = { obj.context with resolved := false })
      (hflush' : obj'.flushing = some { flush with point := .resolved false })
  | found {flush : Flush} {idTag : String} {mapping : UserMapping}
      {result : Option ResolvedSubscription}
      (ha : a = .flush i (.mappingSelected (.ok (some mapping))))
      (hflush : obj.flushing = some flush) (hpoint : flush.point = .userMapping idTag)
      (hresult : resolveWithoutLago mapping w.subscriptionCache = some result)
      (hcontext : obj'.context = obj.context.resolve result)
      (hflush' : obj'.flushing = some { flush with point := .resolved (resolvedBillable result) })
  | listed {flush : Flush} {mapping : UserMapping} {answer : SubscriptionsAnswer}
      (ha : a = .flush i (.subscriptionsListed answer))
      (hflush : obj.flushing = some flush) (hpoint : flush.point = .subscriptions mapping)
      (hcontext : obj'.context =
        obj.context.resolve (resolveFromLago mapping w.subscriptionCache answer).1)
      (hflush' : obj'.flushing = some { flush with
        point := .resolved
          (resolvedBillable (resolveFromLago mapping w.subscriptionCache answer).1) })
  | sent {flush : Flush} {post : PostedFlush} (ha : a = .flush i .resumes)
      (hflush : obj.flushing = some flush) (hpoint : flush.point = .resolved true)
      (hsub : truthy obj.st.lagoSubscriptionExternalId = true)
      (hcontext : obj'.context = obj.context)
      (hflush' : obj'.flushing = some { flush with point := .posting post })
      (hevent : post.event.externalSubscriptionId = obj.st.lagoSubscriptionExternalId.getD "")
      (hkey : post.event.transactionId.steveTransactionId = obj.st.steveTransactionId)
  | settled (hcontext : obj'.context = obj.context)
      (hflush' : ∀ flush', obj'.flushing = some flush' →
        ((∃ args, flush'.point = .persisting args) ∨ ∃ args, flush'.point = .persisted args) ∧
          ∃ flush, obj.flushing = some flush ∧ flush.point.Sending)

namespace TxObject

variable {obj : TxObject} {flush : Flush}

/-- `subscriptionResolved` writes the context and answers. -/
lemma subscriptionResolved_context (result : Option ResolvedSubscription) :
    (obj.subscriptionResolved flush result).context = obj.context.resolve result ∧
      (obj.subscriptionResolved flush result).flushing =
        some { flush with point := .resolved (resolvedBillable result) } := by
  cases result with
  | none => exact ⟨rfl, rfl⟩
  | some subscription => exact ⟨rfl, rfl⟩

/-- `startFlush` does nothing, reuses the context of the record, or starts to look it up. -/
lemma startFlush_context {w : World} {i : ℕ} {a : Action} {base : TxObject} {final : Bool}
    (hcontext : obj.context = base.context) (hflush : obj.flushing = base.flushing)
    (hstarts : base.flushing = none → (obj.startFlush final).flushing.isSome →
      w.startsFlush base a = true) :
    ContextStep w i a base (obj.startFlush final) := by
  have hresolved : obj.st.resolved = base.st.resolved := congrArg BillingContext.resolved hcontext
  have hsub : obj.st.lagoSubscriptionExternalId = base.st.lagoSubscriptionExternalId :=
    congrArg BillingContext.lagoSubscriptionExternalId hcontext
  unfold startFlush at hstarts ⊢
  split at hstarts
  · next hbusy => rw [if_pos hbusy]; exact .idle hcontext hflush
  · next hidle =>
      rw [if_neg hidle]
      have hnone : base.flushing = none := by
        rw [← hflush]
        simpa using hidle
      split at hstarts
      · next hnothing => rw [if_pos hnothing]; exact .idle hcontext hflush
      · next hdue =>
          rw [if_neg hdue]
          split at hstarts
          · next hold =>
              rw [if_pos hold]
              exact .reused (hstarts hnone rfl) (hresolved ▸ hold) hcontext (by rw [hsub])
          · next hold =>
              rw [if_neg hold]
              refine .started (hstarts hnone rfl) (by rw [← hresolved]; simpa using hold) ?_ rfl
              rw [← hcontext]
              rfl

/-- A sample accumulates, and may then start a flush. -/
lemma takeSample_context (obj : TxObject) (sample : MeterSample) (meterValueWh : ℤ) (now : ℕ) :
    ∃ accumulated : TxObject, accumulated.context = obj.context ∧
      accumulated.flushing = obj.flushing ∧
        (obj.takeSample sample meterValueWh now = accumulated ∨
          obj.takeSample sample meterValueWh now = accumulated.startFlush sample.isFinal) := by
  unfold takeSample
  split
  · exact ⟨{ obj with st := anchor obj.st meterValueWh now }, rfl, rfl, Or.inl rfl⟩
  · next last _ =>
      split
      · exact ⟨obj, rfl, rfl, Or.inl rfl⟩
      · refine ⟨{ obj with st := accumulate obj.st sample last meterValueWh now }, rfl, rfl, ?_⟩
        simp only []
        split
        · exact Or.inr rfl
        · exact Or.inl rfl

end TxObject

/-- What a step does to the billing context of an object. -/
theorem ObjectStep.contextStep {w : World} {i : ℕ} {a : Action} {obj obj' : TxObject}
    (h : ObjectStep w i a obj obj') : ContextStep w i a obj obj' := by
  cases h with
  | unchanged => exact .idle rfl rfl
  | unheld => exact .idle rfl rfl
  | swept hsweep =>
      refine TxObject.startFlush_context rfl rfl fun hnone hsome => ?_
      simp [World.startsFlush, hnone, hsweep, hsome]
  | sampled hkwh hheld hid =>
      next sample kwh =>
      obtain ⟨accumulated, hcontext, hflush, heq | heq⟩ :=
        obj.takeSample_context sample (meterWh kwh) w.clock
      · rw [heq]
        exact .idle hcontext hflush
      · rw [heq]
        refine TxObject.startFlush_context hcontext hflush fun hnone hsome => ?_
        simp [World.startsFlush, hheld, hid, hkwh, hnone, heq, hsome]
  | steveAnswered hflush hpoint =>
      have hlook : FlushPoint.steveTransaction.LookingUp := trivial
      rw [← hpoint] at hlook
      unfold TxObject.steveAnswered
      split
      · exact .failed hflush hlook rfl rfl
      · exact .unpaid hflush hlook rfl rfl
      · simp only []
        split
        · exact .unpaid hflush hlook rfl rfl
        · exact .identified hflush hpoint rfl rfl
  | mappingSelected hflush hpoint hrow =>
      next flush idTag row =>
      have hlook : (FlushPoint.userMapping idTag).LookingUp := trivial
      rw [← hpoint] at hlook
      unfold TxObject.mappingSelected
      split
      · exact .failed hflush hlook rfl rfl
      · exact .unpaid hflush hlook rfl rfl
      · simp only []
        split
        · next result hresult =>
            obtain ⟨hcontext, hflush'⟩ := TxObject.subscriptionResolved_context result
            exact .found rfl hflush hpoint hresult hcontext hflush'
        · next hask => exact .asked rfl hflush hpoint hask rfl rfl
  | subscriptionsListed hflush hpoint =>
      obtain ⟨hcontext, hflush'⟩ := TxObject.subscriptionResolved_context _
      exact .listed rfl hflush hpoint hcontext hflush'
  | resumed hflush hpoint =>
      next flush billable =>
      unfold TxObject.resumeFlush
      split
      · next hsend =>
          obtain ⟨rfl, hsub⟩ := Bool.and_eq_true_iff.mp hsend
          exact .sent rfl hflush hpoint hsub rfl rfl rfl rfl
      · exact .settled rfl fun flush' h => by simp at h
  | postAnswered hflush hpoint hok =>
      next flush post ok =>
      unfold TxObject.postAnswered
      split
      · refine .settled rfl fun flush' h => ⟨Or.inl ⟨obj.persistArgs post, ?_⟩, flush, hflush, ?_⟩
        · obtain rfl := Option.some.inj h
          rfl
        · rw [hpoint]
          trivial
      · exact .settled rfl fun flush' h => by simp at h
  | committed hflush hpoint =>
      next flush args =>
      refine .settled rfl fun flush' h => ⟨Or.inr ⟨args, ?_⟩, flush, hflush, ?_⟩
      · obtain rfl := Option.some.inj h
        rfl
      · rw [hpoint]
        trivial
  | persistFailed hflush hpoint => exact .settled rfl fun flush' h => by simp at h
  | succeeded held hflush hpoint =>
      exact .settled rfl fun flush' h => by simp [TxObject.flushSucceeded] at h

/-- A new record knows nothing about who pays. -/
lemma firstSample_context (sample : MeterSample) (meterValueWh : ℤ) (now : ℕ) :
    (firstSample sample meterValueWh now).context = ⟨false, none, none⟩ ∧
      (firstSample sample meterValueWh now).flushing = none := ⟨rfl, rfl⟩

/-- The event an object is posting. -/
def TxObject.postedEvent (obj : TxObject) : Option LagoEvent :=
  obj.flushing.bind fun flush =>
    match flush.point with
    | .posting post => some post.event
    | _ => none

lemma TxObject.postedEvent_of_none {obj : TxObject} (h : obj.flushing = none) :
    obj.postedEvent = none := by simp [postedEvent, h]

lemma TxObject.postedEvent_of_point {obj : TxObject} {flush : Flush}
    (h : obj.flushing = some flush) (hpoint : ∀ post, flush.point ≠ .posting post) :
    obj.postedEvent = none := by
  simp only [postedEvent, h, Option.bind_some]

/-- What an object posts after a step it posted before, or it sends it now, to the subscription its
record names. -/
lemma ContextStep.postedEvent {w : World} {i : ℕ} {a : Action} {obj obj' : TxObject}
    (h : ContextStep w i a obj obj') {event : LagoEvent} (hevent : obj'.postedEvent = some event) :
    obj.postedEvent = some event ∨
      ∃ flush, obj.flushing = some flush ∧ flush.point = .resolved true ∧
        obj.context.lagoSubscriptionExternalId = some event.externalSubscriptionId := by
  have hquiet : ∀ {flush : Flush}, obj'.flushing = some flush →
      (∀ post, flush.point ≠ .posting post) → False := by
    intro flush hflush hpoint
    rw [TxObject.postedEvent_of_point hflush hpoint] at hevent
    simp at hevent
  cases h with
  | idle hcontext hflush =>
      left
      rw [TxObject.postedEvent, ← hflush]
      exact hevent
  | sent ha hflush hpoint hsub hcontext hnew hsent hkey =>
      next flush post =>
      obtain ⟨externalId, hexternal⟩ := exists_of_truthy hsub
      obtain rfl : post.event = event := by simpa [TxObject.postedEvent, hnew] using hevent
      refine Or.inr ⟨flush, hflush, hpoint, ?_⟩
      rw [hsent, hexternal]
      exact hexternal
  | reused hstarts hresolved hcontext hnew | started hstarts hresolved hcontext hnew
  | identified hflush hpoint hcontext hnew | asked ha hflush hpoint hask hcontext hnew
  | unpaid hflush hlook hcontext hnew | failed hflush hlook hcontext hnew
  | found ha hflush hpoint hresult hcontext hnew | listed ha hflush hpoint hcontext hnew =>
      exact (hquiet hnew fun post => by simp).elim
  | settled hcontext hnew =>
      cases hflush : obj'.flushing with
      | none =>
          rw [TxObject.postedEvent_of_none hflush] at hevent
          simp at hevent
      | some flush =>
          refine (hquiet hflush fun post hp => ?_).elim
          obtain ⟨⟨args, hpoint⟩ | ⟨args, hpoint⟩, -⟩ := hnew flush hflush <;> simp [hpoint] at hp

/-! ## The order of a look-up -/

/-- The context names a subscription that can be billed. -/
def BillingContext.billable (context : BillingContext) : Bool :=
  truthy context.lagoSubscriptionExternalId && !isNonUsagePlan context.planCode

/-- What the context of a record looks like while its flush is suspended: resolved and without a
subscription during a look-up, not billable when the flush of a resolved record is refused, and
resolved once something is sent. -/
def FlushPoint.InOrder (context : BillingContext) : FlushPoint → Prop
  | .resolved billable => billable = false → context.resolved = true → context.billable = false
  | .posting _ => context.resolved = true
  | .persisting _ => context.resolved = true
  | .persisted _ => context.resolved = true
  | _ => context.resolved = true ∧ context.lagoSubscriptionExternalId = none

/-- A record names a subscription only when it is resolved, and its context fits its flush. -/
structure TxObject.ContextInOrder (obj : TxObject) : Prop where
  unresolved : obj.context.resolved = false → obj.context.lagoSubscriptionExternalId = none
  flight : ∀ flush, obj.flushing = some flush → flush.point.InOrder obj.context

lemma FlushPoint.InOrder.of_lookingUp {context : BillingContext} {point : FlushPoint}
    (h : point.InOrder context) (hlook : point.LookingUp) :
    context.resolved = true ∧ context.lagoSubscriptionExternalId = none := by
  cases point with
  | steveTransaction | userMapping | subscriptions => exact h
  | resolved | posting | persisting | persisted => exact absurd hlook id

lemma FlushPoint.InOrder.of_sending {context : BillingContext} {point : FlushPoint}
    (h : point.InOrder context) (hsending : point.Sending) : context.resolved = true := by
  cases point with
  | posting | persisting | persisted => exact h
  | steveTransaction | userMapping | subscriptions | resolved => exact absurd hsending id

lemma BillingContext.not_billable_of_none {context : BillingContext}
    (h : context.lagoSubscriptionExternalId = none) : context.billable = false := by
  simp [billable, h]

lemma BillingContext.resolve_resolved (context : BillingContext)
    (result : Option ResolvedSubscription) :
      (context.resolve result).resolved = context.resolved := by
  cases result <;> rfl

/-- A context without subscription can be billed after a resolution only when it is told so. -/
lemma BillingContext.billable_resolve {context : BillingContext}
    {result : Option ResolvedSubscription} (hnone : context.lagoSubscriptionExternalId = none)
    (h : resolvedBillable result = false) : (context.resolve result).billable = false := by
  cases result with
  | none => exact not_billable_of_none hnone
  | some subscription =>
      have hplan : isNonUsagePlan subscription.planCode = true := by
        simpa [resolvedBillable] using h
      simp [resolve, billable, hplan]

lemma firstSample_contextInOrder (sample : MeterSample) (meterValueWh : ℤ) (now : ℕ) :
    (firstSample sample meterValueWh now).ContextInOrder := by
  obtain ⟨hcontext, hflush⟩ := firstSample_context sample meterValueWh now
  refine ⟨fun _ => by rw [hcontext], fun flush h => ?_⟩
  rw [hflush] at h
  simp at h

theorem TxObject.ContextInOrder.step {w : World} {i : ℕ} {a : Action} {obj obj' : TxObject}
    (hord : obj.ContextInOrder) (h : ContextStep w i a obj obj') : obj'.ContextInOrder := by
  -- A step that only moves the flush leaves the first half as it is.
  have hmove : obj'.context = obj.context →
      (∀ flush', obj'.flushing = some flush' → flush'.point.InOrder obj.context) →
        obj'.ContextInOrder := fun hcontext hflight =>
    ⟨by rw [hcontext]; exact hord.unresolved, by rw [hcontext]; exact hflight⟩
  have hpoint : ∀ {flush : Flush} {context : BillingContext}, obj'.flushing = some flush →
      flush.point.InOrder context →
        ∀ flush', obj'.flushing = some flush' → flush'.point.InOrder context :=
    fun hnew hin flush' hflush' => by
      obtain rfl := Option.some.inj (hnew.symm.trans hflush')
      exact hin
  cases h with
  | idle hcontext hflush => exact hmove hcontext fun flush' hf => hord.flight flush' (hflush ▸ hf)
  | reused hstarts hresolved hcontext hnew =>
      refine hmove hcontext (hpoint hnew fun hnone _ => ?_)
      have hsub : obj.st.lagoSubscriptionExternalId = none := by simpa using hnone
      exact BillingContext.not_billable_of_none hsub
  | started hstarts hresolved hcontext hnew =>
      refine ⟨fun h => ?_, ?_⟩
      · rw [hcontext] at h
        cases h
      · rw [hcontext]
        exact hpoint hnew ⟨rfl, hord.unresolved hresolved⟩
  | identified hflush hp hcontext hnew | asked ha hflush hp hask hcontext hnew =>
      have hlook := (hord.flight _ hflush).of_lookingUp (by rw [hp]; trivial)
      exact hmove hcontext (hpoint hnew hlook)
  | unpaid hflush hlook hcontext hnew =>
      obtain ⟨-, hnone⟩ := (hord.flight _ hflush).of_lookingUp hlook
      exact hmove hcontext (hpoint hnew fun _ _ => BillingContext.not_billable_of_none hnone)
  | failed hflush hlook hcontext hnew =>
      obtain ⟨-, hnone⟩ := (hord.flight _ hflush).of_lookingUp hlook
      refine ⟨fun _ => by rw [hcontext]; exact hnone, ?_⟩
      rw [hcontext]
      exact hpoint hnew fun _ h => by cases h
  | found ha hflush hp hresult hcontext hnew | listed ha hflush hp hcontext hnew =>
      obtain ⟨hresolved, hnone⟩ := (hord.flight _ hflush).of_lookingUp (by rw [hp]; trivial)
      refine ⟨fun h => ?_, ?_⟩
      · rw [hcontext, BillingContext.resolve_resolved, hresolved] at h
        cases h
      · rw [hcontext]
        exact hpoint hnew fun hrefused _ => BillingContext.billable_resolve hnone hrefused
  | sent ha hflush hp hsub hcontext hnew hevent hkey =>
      refine hmove hcontext (hpoint hnew ?_)
      show obj.context.resolved = true
      by_contra hno
      have hnone := hord.unresolved (by simpa using hno)
      rw [show obj.st.lagoSubscriptionExternalId = none from hnone] at hsub
      simp at hsub
  | settled hcontext hnew =>
      refine hmove hcontext fun flush' hflush' => ?_
      obtain ⟨hsettled, flush, hflush, hsending⟩ := hnew flush' hflush'
      have hresolved := (hord.flight flush hflush).of_sending hsending
      rcases hsettled with ⟨args, hp⟩ | ⟨args, hp⟩ <;> (rw [hp]; exact hresolved)

/-- The record is resolved, cannot be billed, and nothing is being looked up for it. -/
structure TxObject.Unbillable (obj : TxObject) : Prop where
  resolved : obj.context.resolved = true
  not_billable : obj.context.billable = false
  not_looking : ∀ flush, obj.flushing = some flush → ¬flush.point.LookingUp

/-- Such a record stays as it is. -/
theorem TxObject.Unbillable.step {w : World} {i : ℕ} {a : Action} {obj obj' : TxObject}
    (hun : obj.Unbillable) (h : ContextStep w i a obj obj') : obj'.Unbillable := by
  have hmove : obj'.context = obj.context →
      (∀ flush', obj'.flushing = some flush' → ¬flush'.point.LookingUp) → obj'.Unbillable :=
    fun hcontext hflight =>
      ⟨by rw [hcontext]; exact hun.resolved, by rw [hcontext]; exact hun.not_billable, hflight⟩
  have hpoint : ∀ {flush : Flush}, obj'.flushing = some flush → ¬flush.point.LookingUp →
      ∀ flush', obj'.flushing = some flush' → ¬flush'.point.LookingUp :=
    fun hnew hnot flush' hflush' => by
      obtain rfl := Option.some.inj (hnew.symm.trans hflush')
      exact hnot
  cases h with
  | idle hcontext hflush =>
      exact hmove hcontext fun flush' hf => hun.not_looking flush' (hflush ▸ hf)
  | reused hstarts hresolved hcontext hnew => exact hmove hcontext (hpoint hnew id)
  | started hstarts hresolved hcontext hnew =>
      have hno := hun.resolved
      rw [show obj.context.resolved = false from hresolved] at hno
      cases hno
  | identified hflush hp hcontext hnew | asked ha hflush hp hask hcontext hnew
  | found ha hflush hp hresult hcontext hnew | listed ha hflush hp hcontext hnew =>
      exact absurd (by rw [hp]; trivial) (hun.not_looking _ hflush)
  | unpaid hflush hlook hcontext hnew | failed hflush hlook hcontext hnew =>
      exact absurd hlook (hun.not_looking _ hflush)
  | sent ha hflush hp hsub hcontext hnew hevent hkey => exact hmove hcontext (hpoint hnew id)
  | settled hcontext hnew =>
      refine hmove hcontext fun flush' hflush' => ?_
      obtain ⟨⟨args, hp⟩ | ⟨args, hp⟩, -⟩ := hnew flush' hflush' <;> (rw [hp]; exact id)

/-! ## Clock, cache and first samples -/

/-- What a step does to the clock, to the emitter's subscription cache and to the history of first
samples. -/
inductive AmbientStep (w : World) (a : Action) (w' : World) : Prop
  | same (hclock : w'.clock = w.clock) (hcache : w'.subscriptionCache = w.subscriptionCache)
      (hfirst : w'.firstSampleAt = w.firstSampleAt)
  | ticked {ms : ℕ} (ha : a = .tick ms) (hclock : w'.clock = w.clock + ms)
      (hcache : w'.subscriptionCache = w.subscriptionCache)
      (hfirst : w'.firstSampleAt = w.firstSampleAt)
  | sampled {sample : MeterSample} (ha : a = .sample sample) (hclock : w'.clock = w.clock)
      (hcache : w'.subscriptionCache = w.subscriptionCache)
      (hfirst : w'.firstSampleAt = w.noteFirstSample sample)
  | restarted (hclock : w'.clock = w.clock)
      (hcache : w'.subscriptionCache = SubscriptionResolutionCache.empty)
      (hfirst : w'.firstSampleAt = w.firstSampleAt)
  | listed {i : ℕ} {obj : TxObject} {flush : Flush} {mapping : UserMapping}
      {answer : SubscriptionsAnswer} (ha : a = .flush i (.subscriptionsListed answer))
      (hobj : w.heap[i]? = some obj) (hflush : obj.flushing = some flush)
      (hpoint : flush.point = .subscriptions mapping) (hclock : w'.clock = w.clock)
      (hcache : w'.subscriptionCache = (resolveFromLago mapping w.subscriptionCache answer).2)
      (hfirst : w'.firstSampleAt = w.firstSampleAt)

namespace World

variable {w w' : World} {a : Action}

lemma flushDone_ambient (a : Action) (i : ℕ) (obj : TxObject) (final : Bool)
    (args : FlushPersistArgs) : AmbientStep w a (w.flushDone i obj final args) := by
  unfold flushDone
  split <;> exact .same rfl rfl rfl

/-- A flush leaves the surroundings alone, unless Lago has listed subscriptions to it. -/
lemma stepFlush_ambient {i : ℕ} {obj : TxObject} {flush : Flush} {event : FlushEvent}
    (hobj : w.heap[i]? = some obj) (hflush : obj.flushing = some flush)
    (hstep : w.stepFlush i obj flush event = some w') : AmbientStep w (.flush i event) w' := by
  cases event with
  | subscriptionsListed answer =>
      simp only [stepFlush] at hstep
      split at hstep
      · next hp =>
          obtain rfl := Option.some.inj hstep
          exact .listed rfl hobj hflush hp rfl rfl rfl
      · simp at hstep
  | commits =>
      simp only [stepFlush] at hstep
      split at hstep
      · obtain ⟨db, -, rfl⟩ := Option.map_eq_some_iff.mp hstep
        exact .same rfl rfl rfl
      · simp at hstep
  | persistAnswered ok =>
      simp only [stepFlush] at hstep
      split at hstep
      · split at hstep
        · simp at hstep
        · obtain rfl := Option.some.inj hstep
          exact .same rfl rfl rfl
      · split at hstep
        · obtain rfl := Option.some.inj hstep
          exact flushDone_ambient _ _ _ _ _
        · obtain rfl := Option.some.inj hstep
          exact .same rfl rfl rfl
      · simp at hstep
  | mappingSelected | postAnswered =>
      simp only [stepFlush] at hstep
      split at hstep
      · split at hstep
        · obtain rfl := Option.some.inj hstep
          exact .same rfl rfl rfl
        · simp at hstep
      · simp at hstep
  | steveAnswers | resumes | lagoReceives =>
      simp only [stepFlush] at hstep
      split at hstep
      · obtain rfl := Option.some.inj hstep
        exact .same rfl rfl rfl
      · simp at hstep

theorem step_ambient (hstep : step w a = some w') : AmbientStep w a w' := by
  cases a with
  | flush i event =>
      simp only [step] at hstep
      split at hstep
      · simp at hstep
      · next obj hobj =>
          split at hstep
          · simp at hstep
          · next flush hflush => exact stepFlush_ambient hobj hflush hstep
  | tick ms =>
      obtain rfl := Option.some.inj hstep
      exact .ticked rfl rfl rfl rfl
  | sample sample =>
      obtain rfl := Option.some.inj hstep
      exact .sampled rfl rfl rfl rfl
  | restart =>
      obtain rfl := Option.some.inj hstep
      exact .restarted rfl rfl rfl
  | editMappings | sweep =>
      obtain rfl := Option.some.inj hstep
      exact .same rfl rfl rfl
  | syncReads inputs runId =>
      simp only [step] at hstep
      split at hstep
      · simp at hstep
      · split at hstep
        · obtain rfl := Option.some.inj hstep
          exact .same rfl rfl rfl
        · split at hstep <;> (obtain rfl := Option.some.inj hstep; exact .same rfl rfl rfl)
  | syncPersists successful =>
      simp only [step] at hstep
      split at hstep
      · split at hstep
        · split at hstep <;> (obtain rfl := Option.some.inj hstep; exact .same rfl rfl rfl)
        · simp at hstep
      · simp at hstep
  | syncSaves =>
      simp only [step] at hstep
      split at hstep
      · split at hstep <;> (obtain rfl := Option.some.inj hstep; exact .same rfl rfl rfl)
      · simp at hstep
  | syncLagoReceives | syncEnds =>
      simp only [step] at hstep
      split at hstep
      · obtain rfl := Option.some.inj hstep
        exact .same rfl rfl rfl
      · simp at hstep

/-- Time does not go back. -/
lemma clock_le_step (hstep : step w a = some w') : w.clock ≤ w'.clock := by
  cases step_ambient hstep with
  | ticked ha hclock hcache hfirst => omega
  | same hclock | sampled ha hclock | restarted hclock | listed ha hobj hflush hpoint hclock =>
      exact hclock.ge

/-- The first sample of a transaction stays the first one. -/
lemma firstSampleAt_step (hstep : step w a = some w') {id first : ℕ}
    (h : w.firstSampleAt id = some first) : w'.firstSampleAt id = some first := by
  cases step_ambient hstep with
  | sampled ha hclock hcache hfirst =>
      next sample =>
      rw [hfirst]
      unfold noteFirstSample
      split
      · next hnew =>
          have hne : id ≠ sample.steveTransactionId := fun heq => by
            rw [← heq, h] at hnew
            simp at hnew
          rw [Function.update_of_ne hne]
          exact h
      · exact h
  | same hclock hcache hfirst | ticked ha hclock hcache hfirst | restarted hclock hcache hfirst
  | listed ha hobj hflush hpoint hclock hcache hfirst =>
      rw [hfirst]
      exact h

end World

end ExpresSync
