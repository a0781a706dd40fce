import ExpresSync.Properties.BillingContext
import ExpresSync.Properties.ObjectTally
import ExpresSync.Properties.SyncSteps

/-!
# Transactions on a non-usage plan

A transaction on a flat-rate plan must not produce a usage event.  `resolveBillingContext` answers
"not billable" when it finds such a plan, but a later call for the same record only looks whether
there is a subscription; and a mapping that names its subscription supplies no plan at all, to
either path.  `onlyUsageEvents_of_planSettled` shows that these two are the only ways.
-/

namespace ExpresSync

open Transition

/-- The plan of every subscription in Lago, by external id. -/
abbrev SubscriptionPlans := String → String

/-- The subscription is on a usage plan. -/
def SubscriptionPlans.Usage (plans : SubscriptionPlans) (externalId : String) : Prop :=
  isNonUsagePlan (some (plans externalId)) = false

instance (plans : SubscriptionPlans) (externalId : String) :
    Decidable (plans.Usage externalId) := by
  unfold SubscriptionPlans.Usage
  infer_instance

/-- `resolveBillingContext` has told the flush that the transaction is billable. -/
def FlushPoint.billable : FlushPoint → Bool
  | .resolved billable => billable
  | _ => false

/-- Nothing that a flush posts, that a sync run sends or that Lago has accepted for the transaction
names a subscription of a non-usage plan, and no flush of a record that has found such a plan is
told that the transaction is billable. -/
structure OnlyUsageEvents (plans : SubscriptionPlans) (steveTransactionId : ℕ) (w : World) :
    Prop where
  posted : ∀ obj ∈ w.heap, obj.st.steveTransactionId = steveTransactionId →
    ∀ event ∈ obj.postedEvent, plans.Usage event.externalSubscriptionId
  answered : ∀ obj ∈ w.heap, obj.st.steveTransactionId = steveTransactionId →
    isNonUsagePlan obj.st.planCode = true → ∀ flush ∈ obj.flushing, flush.point.billable = false
  synced : ∀ phase ∈ w.sync, ∀ event ∈ phase.run.lagoEvents,
    event.transactionId.steveTransactionId = steveTransactionId →
      plans.Usage event.externalSubscriptionId
  accepted : ∀ event ∈ w.lago.entries,
    event.transactionId.steveTransactionId = steveTransactionId →
      plans.Usage event.externalSubscriptionId


instance (plans : SubscriptionPlans) (id : ℕ) (w : World) :
    Decidable (OnlyUsageEvents plans id w) :=
  decidable_of_iff
    ((∀ obj ∈ w.heap, obj.st.steveTransactionId = id →
        ∀ event ∈ obj.postedEvent, plans.Usage event.externalSubscriptionId) ∧
      (∀ obj ∈ w.heap, obj.st.steveTransactionId = id → isNonUsagePlan obj.st.planCode = true →
        ∀ flush ∈ obj.flushing, flush.point.billable = false) ∧
      (∀ phase ∈ w.sync, ∀ event ∈ phase.run.lagoEvents,
        event.transactionId.steveTransactionId = id → plans.Usage event.externalSubscriptionId) ∧
      ∀ event ∈ w.lago.entries, event.transactionId.steveTransactionId = id →
        plans.Usage event.externalSubscriptionId)
    ⟨fun h => ⟨h.1, h.2.1, h.2.2.1, h.2.2.2⟩,
      fun h => ⟨h.posted, h.answered, h.synced, h.accepted⟩⟩

/-! ## Assumption and condition -/

/-- Lago lists subscriptions with their plans. -/
def ListsPlans (plans : SubscriptionPlans) : SubscriptionsAnswer → Prop
  | .ok subscriptions => ∀ sub ∈ subscriptions, sub.planCode = plans sub.externalId
  | .error _ => True

/-- Whenever Lago is asked, by either path, it answers with the right plans or not at all. -/
def AnswersPlans (plans : SubscriptionPlans) (_ : World) : Action → Prop
  | .flush _ (.subscriptionsListed answer) => ListsPlans plans answer
  | .syncReads inputs _ =>
      ∀ tx ∈ transactionMap inputs.recentlyCompleted,
        ListsPlans plans (inputs.getSubscriptions tx.id)
  | _ => True

/-- A mapping that names its subscription names one of a usage plan. -/
def UserMapping.NamesUsage (plans : SubscriptionPlans) (mapping : UserMapping) : Prop :=
  mapping.isExplicit = true → ∀ externalId ∈ mapping.lagoSubscriptionExternalId,
    plans.Usage externalId

/-- No flush starts on a record that has found a non-usage plan already, and no mapping the
transaction is billed by names a subscription of such a plan. -/
def PlanSettled (plans : SubscriptionPlans) (steveTransactionId : ℕ) (w : World) : Action → Prop
  | .flush i (.mappingSelected (.ok (some mapping))) =>
      ∀ obj ∈ w.heap[i]?, obj.st.steveTransactionId = steveTransactionId → mapping.NamesUsage plans
  | .syncReads inputs _ =>
      ∀ tx ∈ transactionMap inputs.recentlyCompleted, tx.id = steveTransactionId →
        ∀ mapping ∈ inputs.mappings w.db tx.ocppIdTag, mapping.NamesUsage plans
  | a =>
      ∀ obj ∈ w.heap, obj.st.steveTransactionId = steveTransactionId →
        obj.st.resolved = true → isNonUsagePlan obj.st.planCode = true → w.startsFlush obj a = false

instance (plans : SubscriptionPlans) (answer : SubscriptionsAnswer) :
    Decidable (ListsPlans plans answer) := by
  unfold ListsPlans
  rcases answer <;> infer_instance

instance (plans : SubscriptionPlans) (w : World) (a : Action) :
    Decidable (AnswersPlans plans w a) := by
  unfold AnswersPlans
  rcases a
  case flush i event => rcases event <;> infer_instance
  all_goals infer_instance

instance (plans : SubscriptionPlans) (mapping : UserMapping) :
    Decidable (mapping.NamesUsage plans) := by
  unfold UserMapping.NamesUsage
  infer_instance

instance (plans : SubscriptionPlans) (id : ℕ) (w : World) (a : Action) :
    Decidable (PlanSettled plans id w a) := by
  unfold PlanSettled
  rcases a
  case flush i event =>
      rcases event
      case mappingSelected row =>
          rcases row
          case ok mapping => rcases mapping <;> infer_instance
          all_goals infer_instance
      all_goals infer_instance
  all_goals infer_instance

/-! ## Resolved subscriptions -/

/-- Every cached subscription carries its plan. -/
def SubscriptionResolutionCache.CarriesPlans (cache : SubscriptionResolutionCache)
    (plans : SubscriptionPlans) : Prop :=
  ∀ customer subscription, cache customer = some (some subscription) →
    subscription.planCode = some (plans subscription.externalId)

/-- The plan of a resolved subscription is known, or the subscription is on a usage plan. -/
def ResolvedSubscription.PlanKnown (subscription : ResolvedSubscription)
    (plans : SubscriptionPlans) : Prop :=
  subscription.planCode = some (plans subscription.externalId) ∨ plans.Usage subscription.externalId

section Resolve

variable {plans : SubscriptionPlans} {mapping : UserMapping} {cache : SubscriptionResolutionCache}
  {answer : SubscriptionsAnswer} {subscription : ResolvedSubscription}

lemma ResolvedSubscription.PlanKnown.usage (h : subscription.PlanKnown plans)
    (hplan : isNonUsagePlan subscription.planCode = false) :
      plans.Usage subscription.externalId := by
  rcases h with h | h
  · rwa [h] at hplan
  · exact h

lemma SubscriptionResolutionCache.carriesPlans_empty :
    SubscriptionResolutionCache.empty.CarriesPlans plans := fun _ _ h => by
  simp [SubscriptionResolutionCache.empty] at h

lemma planCode_of_activeSubscription {subscriptions : List LagoSubscription}
    (hanswer : ListsPlans plans (.ok subscriptions))
    (h : activeSubscription subscriptions = some subscription) :
    subscription.planCode = some (plans subscription.externalId) := by
  obtain ⟨sub, hfind, rfl⟩ := Option.map_eq_some_iff.mp h
  exact congrArg some (hanswer sub (List.mem_of_find?_eq_some hfind))

lemma planKnown_of_resolveWithoutLago (hcache : cache.CarriesPlans plans)
    (hnames : mapping.NamesUsage plans)
    (h : resolveWithoutLago mapping cache = some (some subscription)) :
    subscription.PlanKnown plans := by
  cases hexplicit : mapping.isExplicit with
  | true =>
      obtain ⟨externalId, hexternal, hresolved⟩ := resolveWithoutLago_of_explicit hexplicit cache
      rw [hresolved] at h
      obtain rfl := Option.some.inj (Option.some.inj h)
      exact Or.inr (hnames hexplicit externalId hexternal)
  | false =>
      obtain ⟨customer, -, hcached⟩ := resolveWithoutLago_of_not_explicit hexplicit h
      exact Or.inl (hcache customer subscription hcached)

lemma resolveFromLago_spec (hcache : cache.CarriesPlans plans) (hanswer : ListsPlans plans answer) :
    (resolveFromLago mapping cache answer).2.CarriesPlans plans ∧
      ∀ subscription, (resolveFromLago mapping cache answer).1 = some subscription →
        subscription.planCode = some (plans subscription.externalId) := by
  cases answer with
  | error e => exact ⟨hcache, fun _ h => by simp [resolveFromLago] at h⟩
  | ok subscriptions =>
      refine ⟨?_, fun _ h => planCode_of_activeSubscription hanswer h⟩
      intro customer' subscription' h
      cases hcustomer : mapping.lagoCustomerExternalId with
      | none =>
          simp only [resolveFromLago, hcustomer, SubscriptionResolutionCache.set] at h
          exact hcache _ _ h
      | some customer =>
          simp only [resolveFromLago, hcustomer, SubscriptionResolutionCache.set] at h
          by_cases heq : customer' = customer
          · subst heq
            rw [Function.update_self] at h
            exact planCode_of_activeSubscription hanswer (Option.some.inj h)
          · rw [Function.update_of_ne heq] at h
            exact hcache _ _ h

lemma resolveSubscription_cache (hcache : cache.CarriesPlans plans)
    (hanswer : ListsPlans plans answer) :
    (resolveSubscription mapping cache answer).2.CarriesPlans plans := by
  unfold resolveSubscription
  split
  · exact hcache
  · exact (resolveFromLago_spec hcache hanswer).1

lemma planKnown_of_resolveSubscription (hcache : cache.CarriesPlans plans)
    (hanswer : ListsPlans plans answer) (hnames : mapping.NamesUsage plans)
    (h : (resolveSubscription mapping cache answer).1 = some subscription) :
    subscription.PlanKnown plans := by
  unfold resolveSubscription at h
  split at h
  · next resolved hresolved =>
      obtain rfl : resolved = some subscription := h
      exact planKnown_of_resolveWithoutLago hcache hnames hresolved
  · exact Or.inl ((resolveFromLago_spec hcache hanswer).2 subscription h)

end Resolve

/-! ## The invariant -/

/-- The plan of the subscription a record names is known, or the subscription is on a usage plan. -/
def BillingContext.PlanKnown (context : BillingContext) (plans : SubscriptionPlans) : Prop :=
  ∀ externalId, context.lagoSubscriptionExternalId = some externalId →
    ResolvedSubscription.PlanKnown ⟨externalId, context.planCode⟩ plans

/-- The invariant of runs in which the condition is met. -/
structure PlanInvariant (plans : SubscriptionPlans) (id : ℕ) (w : World) : Prop where
  regular : w.Regular
  cache : w.subscriptionCache.CarriesPlans plans
  known : ∀ obj ∈ w.heap, obj.st.steveTransactionId = id → obj.context.PlanKnown plans
  usage : OnlyUsageEvents plans id w

lemma initial_planInvariant (plans : SubscriptionPlans) (userMappings : List UserMapping)
    (clock id : ℕ) : PlanInvariant plans id (World.initial userMappings clock) where
  regular := World.initial_regular _ _
  cache := SubscriptionResolutionCache.carriesPlans_empty
  known := fun obj h => by simp [World.initial] at h
  usage :=
    { posted := fun obj h => by simp [World.initial] at h
      answered := fun obj h => by simp [World.initial] at h
      synced := fun phase h => by simp [World.initial] at h
      accepted := fun event h => by simp [World.initial, KeyedLog.empty] at h }

section Objects

variable {plans : SubscriptionPlans} {id i : ℕ} {w : World} {a : Action} {obj obj' : TxObject}

lemma BillingContext.PlanKnown.resolve {context : BillingContext}
    {result : Option ResolvedSubscription} (h : context.PlanKnown plans)
    (hresult : ∀ subscription, result = some subscription → subscription.PlanKnown plans) :
    (context.resolve result).PlanKnown plans := by
  cases result with
  | none => exact h
  | some subscription =>
      intro externalId heq
      obtain rfl := Option.some.inj heq
      exact hresult subscription rfl

/-- The plan of what a record names stays known. -/
lemma ContextStep.planKnown (h : ContextStep w i a obj obj') (hobj : w.heap[i]? = some obj)
    (hid : obj.st.steveTransactionId = id) (hcache : w.subscriptionCache.CarriesPlans plans)
    (hknown : obj.context.PlanKnown plans) (hanswers : AnswersPlans plans w a)
    (hsettled : PlanSettled plans id w a) : obj'.context.PlanKnown plans := by
  cases h with
  | idle hcontext hflush | reused hstarts hresolved hcontext | identified hflush hpoint hcontext
  | asked ha hflush hpoint hask hcontext | unpaid hflush hlook hcontext
  | sent ha hflush hpoint hsub hcontext | settled hcontext =>
      rw [hcontext]
      exact hknown
  | started hstarts hresolved hcontext | failed hflush hlook hcontext =>
      rw [hcontext]
      exact hknown
  | found ha hflush hpoint hresult hcontext hnew =>
      next flush idTag mapping result =>
      subst ha
      have hnames : mapping.NamesUsage plans := hsettled obj (by rw [hobj]; rfl) hid
      rw [hcontext]
      refine hknown.resolve fun subscription heq => ?_
      rw [heq] at hresult
      exact planKnown_of_resolveWithoutLago hcache hnames hresult
  | listed ha hflush hpoint hcontext hnew =>
      subst ha
      rw [hcontext]
      exact hknown.resolve fun subscription heq =>
        Or.inl ((resolveFromLago_spec hcache hanswers).2 subscription heq)

lemma planCode_of_resolvedBillable {context : BillingContext} {result : Option ResolvedSubscription}
    (h : resolvedBillable result = true) :
    isNonUsagePlan (context.resolve result).planCode = false := by
  cases result with
  | none => simp [resolvedBillable] at h
  | some subscription => simpa [resolvedBillable, BillingContext.resolve] using h

/-- No flush of a record with a non-usage plan is told that the transaction is billable. -/
lemma ContextStep.answered (h : ContextStep w i a obj obj') (hmem : obj ∈ w.heap)
    (hid : obj.st.steveTransactionId = id)
    (hanswered : isNonUsagePlan obj.context.planCode = true → ∀ flush, obj.flushing = some flush →
      flush.point.billable = false)
    (hsettled : PlanSettled plans id w a) (hplan : isNonUsagePlan obj'.context.planCode = true)
    (flush' : Flush) (hflush' : obj'.flushing = some flush') : flush'.point.billable = false := by
  have hquiet : ∀ {flush : Flush}, obj'.flushing = some flush → flush.point.billable = false →
      flush'.point.billable = false := fun hnew hfalse => by
    obtain rfl := Option.some.inj (hnew.symm.trans hflush')
    exact hfalse
  cases h with
  | idle hcontext hflush =>
      rw [hcontext] at hplan
      exact hanswered hplan flush' (hflush ▸ hflush')
  | reused hstarts hresolved hcontext hnew =>
      -- The condition rules out just this: a flush started on a record that knows its plan.
      rw [hcontext] at hplan
      exfalso
      cases a with
      | sample | sweep =>
          have hnot := hsettled obj hmem hid hresolved hplan
          rw [hstarts] at hnot
          cases hnot
      | _ => simp [World.startsFlush] at hstarts
  | started hstarts hresolved hcontext hnew | identified hflush hpoint hcontext hnew
  | asked ha hflush hpoint hask hcontext hnew | unpaid hflush hlook hcontext hnew
  | failed hflush hlook hcontext hnew | sent ha hflush hpoint hsub hcontext hnew =>
      exact hquiet hnew rfl
  | found ha hflush hpoint hresult hcontext hnew | listed ha hflush hpoint hcontext hnew =>
      refine hquiet hnew (Bool.eq_false_iff.mpr fun htrue => ?_)
      rw [hcontext, planCode_of_resolvedBillable htrue] at hplan
      cases hplan
  | settled hcontext hnew =>
      obtain ⟨⟨args, hp⟩ | ⟨args, hp⟩, -⟩ := hnew flush' hflush' <;> rw [hp] <;> rfl

end Objects

section Steps

variable {plans : SubscriptionPlans} {id : ℕ} {w w' : World} {a : Action}

/-- What a run sends for the transaction names a subscription of a usage plan. -/
lemma usage_of_readSync {inputs : SyncInputs} {db : Db} {runId now : ℕ} {run : SyncRun}
    (hrun : readSync inputs db runId now = .ok run)
    (hanswers : ∀ tx ∈ transactionMap inputs.recentlyCompleted,
      ListsPlans plans (inputs.getSubscriptions tx.id))
    (hnames : ∀ tx ∈ transactionMap inputs.recentlyCompleted, tx.id = id →
      ∀ mapping ∈ inputs.mappings db tx.ocppIdTag, mapping.NamesUsage plans)
    {event : LagoEvent} (hevent : event ∈ run.lagoEvents)
    (hid : event.transactionId.steveTransactionId = id) :
      plans.Usage event.externalSubscriptionId := by
  obtain ⟨pt, hpt, hof⟩ := exists_of_forall₂_mem_right (World.readSync_eventsMatch hrun) hevent
  obtain ⟨hmem, hsend⟩ := SyncRun.mem_transactionsToSend.mp hpt
  rw [(readSync_eq_ok hrun).2.2.1] at hmem
  obtain ⟨tx, htx, mapping, cache, hcache, -, -, hmapping, hbill⟩ :=
    SyncInputs.mem_process_cache (P := fun cache => cache.CarriesPlans plans) hmem
      SubscriptionResolutionCache.carriesPlans_empty
      fun tx htx _ _ hcache => resolveSubscription_cache hcache (hanswers tx htx)
  have htxid : tx.id = id := by
    rw [← hid, hof.transactionId]
    exact (billTransaction_key hbill).symm
  obtain ⟨_, -, -, -, -, hsub, -, ⟨-, -, hskip⟩ | ⟨-, -, -, -, hreason⟩⟩ :=
    billTransaction_spec hbill
  · rw [hsend] at hskip
    cases hskip
  · rw [hof.subscription] at hsub
    obtain ⟨subscription, hresolved, hexternal⟩ := Option.map_eq_some_iff.mp hsub.symm
    have hplan : isNonUsagePlan subscription.planCode = false := by
      have hnone := (subscriptionSkipReason_isNone (hreason.symm.trans hsend)).2
      rwa [hresolved] at hnone
    rw [← hexternal]
    exact (planKnown_of_resolveSubscription hcache (hanswers tx htx)
      (hnames tx htx htxid mapping hmapping) hresolved).usage hplan

lemma PlanInvariant.cache_step (hinv : PlanInvariant plans id w) (hanswers : AnswersPlans plans w a)
    (hstep : World.step w a = some w') : w'.subscriptionCache.CarriesPlans plans := by
  cases World.step_ambient hstep with
  | same hclock hcache hfirst | ticked ha hclock hcache hfirst | sampled ha hclock hcache hfirst =>
      rw [hcache]
      exact hinv.cache
  | restarted hclock hcache hfirst =>
      rw [hcache]
      exact SubscriptionResolutionCache.carriesPlans_empty
  | listed ha hobj hflush hpoint hclock hcache hfirst =>
      subst ha
      rw [hcache]
      exact (resolveFromLago_spec hinv.cache hanswers).1

/-- What a step sends, flushes answer, and Lago accepts. -/
lemma PlanInvariant.usage_step (hinv : PlanInvariant plans id w) (hanswers : AnswersPlans plans w a)
    (hsettled : PlanSettled plans id w a) (hstep : World.step w a = some w') :
    OnlyUsageEvents plans id w' where
  posted := by
    intro obj' hmem' hid' event hevent
    obtain ⟨i, hobj'⟩ := List.mem_iff_getElem?.mp hmem'
    rcases World.step_object hstep hobj' with ⟨obj, hobj, hos⟩ | ⟨sample, kwh, -, -, -, -, rfl⟩
    · have hid : obj.st.steveTransactionId = id := by rw [← hos.steveTransactionId]; exact hid'
      have hmem := List.mem_of_getElem? hobj
      rcases hos.contextStep.postedEvent hevent with hold | ⟨flush, hflush, hpoint, hsub⟩
      · exact hinv.usage.posted obj hmem hid event hold
      · refine (hinv.known obj hmem hid _ hsub).usage (Bool.eq_false_iff.mpr fun hplan => ?_)
        have hno := hinv.usage.answered obj hmem hid hplan flush hflush
        simp [hpoint, FlushPoint.billable] at hno
    · rw [TxObject.postedEvent_of_none (firstSample_context _ _ _).2] at hevent
      simp at hevent
  answered := by
    intro obj' hmem' hid' hplan flush' hflush'
    obtain ⟨i, hobj'⟩ := List.mem_iff_getElem?.mp hmem'
    rcases World.step_object hstep hobj' with ⟨obj, hobj, hos⟩ | ⟨sample, kwh, -, -, -, -, rfl⟩
    · have hid : obj.st.steveTransactionId = id := by rw [← hos.steveTransactionId]; exact hid'
      have hmem := List.mem_of_getElem? hobj
      exact hos.contextStep.answered hmem hid
        (fun hold flush hflush => hinv.usage.answered obj hmem hid hold flush hflush) hsettled hplan
        flush' hflush'
    · rw [(firstSample_context _ _ _).2] at hflush'
      simp at hflush'
  synced := by
    refine World.forall_run_step (P := fun run => ∀ event ∈ run.lagoEvents,
      event.transactionId.steveTransactionId = id → plans.Usage event.externalSubscriptionId)
      hinv.usage.synced ?_ hstep
    rintro inputs runId run rfl - hrun event hevent hid
    exact usage_of_readSync hrun hanswers hsettled hevent hid
  accepted := by
    intro event hevent hid
    cases World.step_shared hstep with
    | quiet hrows hevents hlago hsync =>
        rw [hlago] at hevent
        exact hinv.usage.accepted event hevent hid
    | committed | syncRead | syncPersisted | syncSaved | syncEnded =>
        exact hinv.usage.accepted event hevent hid
    | lagoReceived hobj hflush hpoint =>
        next i obj flush post =>
        rcases KeyedLog.mem_record hevent with hold | rfl
        · exact hinv.usage.accepted event hold hid
        · have hreg := (hinv.regular i obj hobj).flight flush hflush
          rw [hpoint] at hreg
          rw [hreg.2.2.2.2] at hid
          refine hinv.usage.posted obj (List.mem_of_getElem? hobj) hid post.event ?_
          simp [TxObject.postedEvent, hflush, hpoint]
    | syncReceived hsync =>
        rcases KeyedLog.mem_recordAll hevent with hold | hmem
        · exact hinv.usage.accepted event hold hid
        · exact hinv.usage.synced _ hsync event (mem_of_mem_batchAt hmem) hid

/-- A step that meets the assumption and the condition keeps the invariant. -/
theorem PlanInvariant.step (hinv : PlanInvariant plans id w) (hanswers : AnswersPlans plans w a)
    (hsettled : PlanSettled plans id w a) (hstep : World.step w a = some w') :
    PlanInvariant plans id w' where
  regular := hinv.regular.step hstep
  cache := hinv.cache_step hanswers hstep
  known := by
    intro obj' hmem' hid'
    obtain ⟨i, hobj'⟩ := List.mem_iff_getElem?.mp hmem'
    rcases World.step_object hstep hobj' with ⟨obj, hobj, hos⟩ | ⟨sample, kwh, -, -, -, -, rfl⟩
    · have hid : obj.st.steveTransactionId = id := by rw [← hos.steveTransactionId]; exact hid'
      exact hos.contextStep.planKnown hobj hid hinv.cache
        (hinv.known obj (List.mem_of_getElem? hobj) hid) hanswers hsettled
    · intro externalId h
      simp [(firstSample_context _ _ _).1] at h
  usage := hinv.usage_step hanswers hsettled hstep

end Steps

/-- In a run that starts no flush on a record with a known non-usage plan and bills no mapping that
names a subscription of such a plan, no event names a subscription of a non-usage plan. -/
theorem onlyUsageEvents_of_planSettled (plans : SubscriptionPlans) (userMappings : List UserMapping)
    (clock : ℕ) (steveTransactionId : ℕ) (as : List Action)
    (hanswers : Meets World.step (AnswersPlans plans) (World.initial userMappings clock) as)
    (hsettled : Meets World.step (PlanSettled plans steveTransactionId)
      (World.initial userMappings clock) as) :
    Always World.step (OnlyUsageEvents plans steveTransactionId) (World.initial userMappings clock)
      as := by
  have hinit := initial_planInvariant plans userMappings clock steveTransactionId
  refine ⟨hinit.usage, Meets.eachStep (I := PlanInvariant plans steveTransactionId) ?_ ?_ hinit
    (meets_and.mpr ⟨hanswers, hsettled⟩)⟩
  · exact fun _ _ _ hinv hC hstep => hinv.step hC.1 hC.2 hstep
  · exact fun _ _ _ hinv hC hstep => hinv.usage_step hC.1 hC.2 hstep

/-- The subscription of the card's customer, on the flat-rate plan. -/
def Scenario.flatRate : SubscriptionsAnswer := .ok [⟨"sub-1", "ExpressChargeM", .active⟩]

/-- A flush finds the flat-rate plan and drops its delta. -/
def Scenario.flatRateFlush : List Action :=
  [meter 7 0 false, meter 7 1 false] ++ lookUpsAtLago 0 7 flatRate ++ [.flush 0 .resumes]

/-- A further sample does not make up a flush, and the sync pass skips the transaction. -/
theorem onlyUsageEvents_of_one_flush :
    Always World.step (OnlyUsageEvents (fun _ => "ExpressChargeM") 7)
      (World.initial [Scenario.customerMapping] 0)
      (Scenario.flatRateFlush ++ [Scenario.meter 7 (3 / 2) false,
        .syncReads ⟨[Scenario.transaction 7 "0" (some "2000")], [], fun _ => Scenario.flatRate,
          true⟩
          1, .syncSaves]) :=
  onlyUsageEvents_of_planSettled _ _ _ _ _ (by decide +kernel) (by decide +kernel)

/-- The next kWh starts a second flush, which takes the subscription for an answer and sends. -/
theorem not_onlyUsageEvents_of_second_flush :
    Meets World.step (AnswersPlans fun _ => "ExpressChargeM")
        (World.initial [Scenario.customerMapping] 0)
        (Scenario.flatRateFlush ++ [Scenario.meter 7 2 false, .flush 0 .resumes]) ∧
      ¬Always World.step (OnlyUsageEvents (fun _ => "ExpressChargeM") 7)
        (World.initial [Scenario.customerMapping] 0)
        (Scenario.flatRateFlush ++ [Scenario.meter 7 2 false, .flush 0 .resumes]) := by
  decide +kernel

end ExpresSync
