import ExpresSync.Properties.BillingContext

/-!
# Subscriptions that are alive

The emitter asks Lago once for a customer and keeps the answer as long as the process lives, for
all sessions of the customer.  A session may therefore be billed to a subscription that was
terminated before its first sample.  What decides is the answer a session takes from the cache: as
long as that was alive during the session, so is everything the session is billed to.
-/

namespace ExpresSync

open Transition

/-- Whether a subscription is active in Lago at a time, in epoch milliseconds. -/
abbrev SubscriptionHistory := ℕ → String → Bool

/-- The subscription was active at some time since the first sample of the transaction. -/
def AliveSince (history : SubscriptionHistory) (steveTransactionId : ℕ) (externalId : String)
    (w : World) : Prop :=
  ∃ first ∈ w.firstSampleAt steveTransactionId, ∃ t < w.clock + 1,
    first ≤ t ∧ history t externalId = true

instance (history : SubscriptionHistory) (id : ℕ) (externalId : String) (w : World) :
    Decidable (AliveSince history id externalId w) := by
  unfold AliveSince
  infer_instance

/-- What a flush of the transaction sends names a subscription that was alive during the session. -/
def BillsAlive (history : SubscriptionHistory) (steveTransactionId : ℕ) (_ : World) :
    Action → World → Prop
  | .flush i .resumes, w' =>
      ∀ obj ∈ w'.heap[i]?, obj.st.steveTransactionId = steveTransactionId →
        ∀ event ∈ obj.postedEvent,
          AliveSince history steveTransactionId event.externalSubscriptionId w'
  | _, _ => True

instance (history : SubscriptionHistory) (id : ℕ) (w : World) (a : Action) (w' : World) :
    Decidable (BillsAlive history id w a w') := by
  unfold BillsAlive
  rcases a
  case flush i event => rcases event <;> infer_instance
  all_goals infer_instance

/-! ## Assumptions and condition -/

/-- Lago answers, and what it lists as active is. -/
def ListsTruly (history : SubscriptionHistory) (w : World) : Action → Prop
  | .flush _ (.subscriptionsListed (.ok subscriptions)) =>
      ∀ sub ∈ subscriptions, sub.status = .active → history w.clock sub.externalId = true
  | .flush _ (.subscriptionsListed (.error _)) => False
  | _ => True

/-- The mappings of the transaction name no subscription of their own. -/
def NamesCustomerOnly (steveTransactionId : ℕ) (w : World) : Action → Prop
  | .flush i (.mappingSelected (.ok (some mapping))) =>
      ∀ obj ∈ w.heap[i]?, obj.st.steveTransactionId = steveTransactionId →
        mapping.isExplicit = false
  | _ => True

/-- A cached subscription that the transaction is about to be billed to was alive during the
session. -/
def CachedAlive (history : SubscriptionHistory) (steveTransactionId : ℕ) (w : World) :
    Action → Prop
  | .flush i (.mappingSelected (.ok (some mapping))) =>
      ∀ obj ∈ w.heap[i]?, obj.st.steveTransactionId = steveTransactionId →
        ∀ customer ∈ mapping.lagoCustomerExternalId,
          ∀ subscription ∈ (w.subscriptionCache customer).join,
            AliveSince history steveTransactionId subscription.externalId w
  | _ => True

instance (history : SubscriptionHistory) (w : World) (a : Action) :
    Decidable (ListsTruly history w a) := by
  unfold ListsTruly
  rcases a
  case flush i event =>
      rcases event
      case subscriptionsListed answer => rcases answer <;> infer_instance
      all_goals infer_instance
  all_goals infer_instance

instance (id : ℕ) (w : World) (a : Action) : Decidable (NamesCustomerOnly id w a) := by
  unfold NamesCustomerOnly
  rcases a
  case flush i event =>
      rcases event
      case mappingSelected row =>
          rcases row
          case ok mapping => rcases mapping <;> infer_instance
          all_goals infer_instance
      all_goals infer_instance
  all_goals infer_instance

instance (history : SubscriptionHistory) (id : ℕ) (w : World) (a : Action) :
    Decidable (CachedAlive history id w a) := by
  unfold CachedAlive
  rcases a
  case flush i event =>
      rcases event
      case mappingSelected row =>
          rcases row
          case ok mapping => rcases mapping <;> infer_instance
          all_goals infer_instance
      all_goals infer_instance
  all_goals infer_instance

/-! ## The invariant -/

/-- Every record has a first sample, and what a record of the transaction is billed to, now or with
the event it is posting, was alive since. -/
structure AliveInvariant (history : SubscriptionHistory) (id : ℕ) (w : World) : Prop where
  past : ∀ id first, w.firstSampleAt id = some first → first ≤ w.clock
  noted : ∀ (i : ℕ) (obj : TxObject), w.heap[i]? = some obj →
    (w.firstSampleAt obj.st.steveTransactionId).isSome
  alive : ∀ (i : ℕ) (obj : TxObject), w.heap[i]? = some obj → obj.st.steveTransactionId = id →
    ∀ externalId, obj.context.lagoSubscriptionExternalId = some externalId →
      AliveSince history id externalId w
  posted : ∀ (i : ℕ) (obj : TxObject), w.heap[i]? = some obj → obj.st.steveTransactionId = id →
    ∀ event, obj.postedEvent = some event → AliveSince history id event.externalSubscriptionId w

lemma initial_aliveInvariant (history : SubscriptionHistory) (userMappings : List UserMapping)
    (clock id : ℕ) : AliveInvariant history id (World.initial userMappings clock) where
  past := fun id first h => by simp [World.initial] at h
  noted := fun i obj h => by simp [World.initial] at h
  alive := fun i obj h => by simp [World.initial] at h
  posted := fun i obj h => by simp [World.initial] at h

section Steps

variable {history : SubscriptionHistory} {id : ℕ} {w w' : World} {a : Action}

lemma AliveSince.step {externalId : String} (h : AliveSince history id externalId w)
    (hstep : World.step w a = some w') : AliveSince history id externalId w' := by
  obtain ⟨first, hfirst, t, ht, hle, halive⟩ := h
  have hclock := World.clock_le_step hstep
  exact ⟨first, World.firstSampleAt_step hstep hfirst, t, by omega, hle, halive⟩

/-- A first sample is noted at the current time, unless there is one already. -/
lemma noteFirstSample_eq_some {sample : MeterSample} {first : ℕ}
    (h : w.noteFirstSample sample id = some first) :
    w.firstSampleAt id = some first ∨ first = w.clock := by
  unfold World.noteFirstSample at h
  split at h
  · by_cases heq : id = sample.steveTransactionId
    · subst heq
      rw [Function.update_self] at h
      exact Or.inr (Option.some.inj h).symm
    · rw [Function.update_of_ne heq] at h
      exact Or.inl h
  · exact Or.inl h

lemma noteFirstSample_isSome {sample : MeterSample} (hkwh : sample.kwh.isSome) :
    (w.noteFirstSample sample sample.steveTransactionId).isSome := by
  unfold World.noteFirstSample
  split
  · simp
  · next hold =>
      rw [not_and] at hold
      exact Option.isSome_iff_ne_none.mpr (by simpa using hold hkwh)

lemma AliveInvariant.past_step (hinv : AliveInvariant history id w)
    (hstep : World.step w a = some w') {id' first : ℕ} (h : w'.firstSampleAt id' = some first) :
    first ≤ w'.clock := by
  cases World.step_ambient hstep with
  | ticked ha hclock hcache hfirst =>
      rw [hfirst] at h
      have hle := hinv.past _ _ h
      omega
  | sampled ha hclock hcache hfirst =>
      rw [hfirst] at h
      rw [hclock]
      rcases noteFirstSample_eq_some h with hold | rfl
      · exact hinv.past _ _ hold
      · exact le_refl _
  | same hclock hcache hfirst | restarted hclock hcache hfirst
  | listed ha hobj hflush hpoint hclock hcache hfirst =>
      rw [hfirst] at h
      rw [hclock]
      exact hinv.past _ _ h

lemma AliveInvariant.noted_step (hinv : AliveInvariant history id w)
    (hstep : World.step w a = some w') {i : ℕ} {obj' : TxObject} (hobj' : w'.heap[i]? = some obj') :
    (w'.firstSampleAt obj'.st.steveTransactionId).isSome := by
  rcases World.step_object hstep hobj' with ⟨obj, hobj, hos⟩ | ⟨sample, kwh, rfl, hkwh, -, -, rfl⟩
  · obtain ⟨first, hfirst⟩ := Option.isSome_iff_exists.mp (hinv.noted i obj hobj)
    rw [hos.steveTransactionId, World.firstSampleAt_step hstep hfirst]
    rfl
  · obtain rfl := Option.some.inj hstep
    exact noteFirstSample_isSome (by rw [hkwh]; rfl)

/-- A subscription Lago lists as active now is alive during the session of any record there is. -/
lemma AliveInvariant.aliveSince_of_listed (hinv : AliveInvariant history id w) {i : ℕ}
    {obj : TxObject} (hobj : w.heap[i]? = some obj) (hid : obj.st.steveTransactionId = id)
    {subscriptions : List LagoSubscription}
    (hlists : ∀ sub ∈ subscriptions, sub.status = .active → history w.clock sub.externalId = true)
    {subscription : ResolvedSubscription}
    (h : activeSubscription subscriptions = some subscription) :
    AliveSince history id subscription.externalId w := by
  obtain ⟨first, hfirst⟩ := Option.isSome_iff_exists.mp (hinv.noted i obj hobj)
  obtain ⟨sub, hfind, rfl⟩ := Option.map_eq_some_iff.mp h
  have hactive : sub.status = .active := by simpa using List.find?_some hfind
  rw [hid] at hfirst
  exact ⟨first, hfirst, w.clock, by omega, hinv.past _ _ hfirst,
    hlists sub (List.mem_of_find?_eq_some hfind) hactive⟩

lemma AliveInvariant.alive_step (hinv : AliveInvariant history id w)
    (hlists : ListsTruly history w a) (hcustomer : NamesCustomerOnly id w a)
    (hcached : CachedAlive history id w a) (hstep : World.step w a = some w') {i : ℕ}
    {obj' : TxObject} (hobj' : w'.heap[i]? = some obj') (hid' : obj'.st.steveTransactionId = id)
    {externalId : String} (h : obj'.context.lagoSubscriptionExternalId = some externalId) :
    AliveSince history id externalId w' := by
  refine AliveSince.step ?_ hstep
  rcases World.step_object hstep hobj' with ⟨obj, hobj, hos⟩ | ⟨sample, kwh, rfl, hkwh, -, -, rfl⟩
  swap
  · simp [(firstSample_context _ _ _).1] at h
  have hid : obj.st.steveTransactionId = id := by rw [← hos.steveTransactionId]; exact hid'
  have hsame : obj'.context.lagoSubscriptionExternalId = obj.context.lagoSubscriptionExternalId →
      AliveSince history id externalId w := fun hsame =>
    hinv.alive i obj hobj hid externalId (hsame ▸ h)
  cases hos.contextStep with
  | idle hcontext | reused hstarts hresolved hcontext | started hstarts hresolved hcontext
  | identified hflush hpoint hcontext | asked ha hflush hpoint hask hcontext
  | unpaid hflush hlook hcontext | failed hflush hlook hcontext
  | sent ha hflush hpoint hsub hcontext | settled hcontext => exact hsame (by rw [hcontext])
  | found ha hflush hpoint hresult hcontext hflush' =>
      next flush idTag mapping result =>
      subst ha
      cases result with
      | none => exact hsame (by rw [hcontext]; rfl)
      | some subscription =>
          rw [hcontext] at h
          obtain rfl := Option.some.inj h
          obtain ⟨customer, hcust, hcache⟩ :=
            resolveWithoutLago_of_not_explicit (hcustomer obj (by rw [hobj]; rfl) hid) hresult
          exact hcached obj (by rw [hobj]; rfl) hid customer hcust subscription
            (by rw [hcache]; rfl)
  | listed ha hflush hpoint hcontext hflush' =>
      next flush mapping answer =>
      subst ha
      cases answer with
      | error e => exact hlists.elim
      | ok subscriptions =>
          cases hactive : activeSubscription subscriptions with
          | none =>
              refine hsame ?_
              rw [hcontext, resolveFromLago, hactive]
              rfl
          | some subscription =>
              rw [hcontext, resolveFromLago, hactive] at h
              obtain rfl := Option.some.inj h
              exact hinv.aliveSince_of_listed hobj hid hlists hactive

lemma AliveInvariant.posted_step (hinv : AliveInvariant history id w)
    (hstep : World.step w a = some w') {i : ℕ} {obj' : TxObject} (hobj' : w'.heap[i]? = some obj')
    (hid' : obj'.st.steveTransactionId = id) {event : LagoEvent}
    (h : obj'.postedEvent = some event) :
      AliveSince history id event.externalSubscriptionId w' := by
  refine AliveSince.step ?_ hstep
  rcases World.step_object hstep hobj' with ⟨obj, hobj, hos⟩ | ⟨sample, kwh, -, -, -, -, rfl⟩
  · have hid : obj.st.steveTransactionId = id := by rw [← hos.steveTransactionId]; exact hid'
    rcases hos.contextStep.postedEvent h with hold | ⟨flush, -, -, hsub⟩
    · exact hinv.posted i obj hobj hid event hold
    · exact hinv.alive i obj hobj hid _ hsub
  · rw [TxObject.postedEvent_of_none (firstSample_context _ _ _).2] at h
    simp at h

/-- A step that meets the assumptions and takes nothing dead from the cache keeps the invariant. -/
theorem AliveInvariant.step (hinv : AliveInvariant history id w) (hlists : ListsTruly history w a)
    (hcustomer : NamesCustomerOnly id w a) (hcached : CachedAlive history id w a)
    (hstep : World.step w a = some w') : AliveInvariant history id w' where
  past := fun _ _ h => hinv.past_step hstep h
  noted := fun _ _ h => hinv.noted_step hstep h
  alive := fun _ _ hobj hid _ h => hinv.alive_step hlists hcustomer hcached hstep hobj hid h
  posted := fun _ _ hobj hid _ h => hinv.posted_step hstep hobj hid h

end Steps

/-- In a run in which no flush of a session takes a dead subscription from the cache, every event
a flush of the session sends names a subscription that was alive during it. -/
theorem billsAlive_of_cachedAlive (history : SubscriptionHistory) (userMappings : List UserMapping)
    (clock : ℕ) (steveTransactionId : ℕ) (as : List Action)
    (hlists : Meets World.step (ListsTruly history) (World.initial userMappings clock) as)
    (hcustomer : Meets World.step (NamesCustomerOnly steveTransactionId)
      (World.initial userMappings clock) as)
    (hcached : Meets World.step (CachedAlive history steveTransactionId)
      (World.initial userMappings clock) as) :
    EachStep World.step (BillsAlive history steveTransactionId) (World.initial userMappings clock)
      as := by
  refine Meets.eachStep (I := AliveInvariant history steveTransactionId) ?_ ?_
    (initial_aliveInvariant history userMappings clock steveTransactionId)
    (meets_and.mpr ⟨hlists, meets_and.mpr ⟨hcustomer, hcached⟩⟩)
  · exact fun _ _ _ hinv hC hstep => hinv.step hC.1 hC.2.1 hC.2.2 hstep
  · intro w a w' hinv hC hstep
    have hinv' := hinv.step hC.1 hC.2.1 hC.2.2 hstep
    unfold BillsAlive
    split
    · exact fun obj hobj hid event hevent => hinv'.posted _ obj hobj hid event hevent
    · trivial

/-- A subscription is replaced by another one. -/
def Scenario.subscriptionHistory : SubscriptionHistory := fun t externalId =>
  if externalId = "sub-1" then decide (t ≤ 5) else decide (5 < t)

/-- The first session of a customer, billed while its subscription is active. -/
def Scenario.firstSession : List Action :=
  [meter 7 0 false, meter 7 1 false] ++
    lookUpsAtLago 0 7 (.ok [⟨"sub-1", "plan", .active⟩]) ++ settles 0

theorem billsAlive_of_first_session :
    EachStep World.step (BillsAlive Scenario.subscriptionHistory 7)
      (World.initial [Scenario.customerMapping] 0) Scenario.firstSession :=
  billsAlive_of_cachedAlive _ _ _ _ _ (by decide +kernel) (by decide +kernel) (by decide +kernel)

/-- A second session of the customer starts after the change. -/
def Scenario.secondSession : List Action :=
  firstSession ++ [.tick 10, meter 8 0 false, meter 8 1 false,
    .flush 1 (.steveAnswers (.ok [transaction 8 "0" none])),
    .flush 1 (.mappingSelected (.ok (some customerMapping))), .flush 1 .resumes]

/-- The second session takes the answer of the first one from the cache and is billed to the
terminated subscription. -/
theorem not_billsAlive_of_terminated :
    Meets World.step (ListsTruly Scenario.subscriptionHistory)
        (World.initial [Scenario.customerMapping] 0) Scenario.secondSession ∧
      Meets World.step (NamesCustomerOnly 8) (World.initial [Scenario.customerMapping] 0)
        Scenario.secondSession ∧
      ¬EachStep World.step (BillsAlive Scenario.subscriptionHistory 8)
        (World.initial [Scenario.customerMapping] 0) Scenario.secondSession := by
  decide +kernel

end ExpresSync
