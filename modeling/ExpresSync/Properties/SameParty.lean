import ExpresSync.Properties.BillingContext

/-!
# Who is billed by the two paths

The emitter takes whatever row its query returns for the tag; the sync loads the active rows only
and lets later rows of a tag replace earlier ones.  Both then resolve a subscription in the same
way, so that, as long as both have the same answers of Lago, they differ in the row alone.
`sameParty_iff_prevails` says when the row of the emitter is the one the sync would use.
-/

namespace ExpresSync

/-- The active subscriptions Lago lists, by customer. -/
abbrev SubscriptionLists := String → List LagoSubscription

/-- Everything in the cache is what Lago lists. -/
def SubscriptionResolutionCache.AnswersFrom (cache : SubscriptionResolutionCache)
    (lists : SubscriptionLists) : Prop :=
  ∀ customer resolved, cache customer = some resolved → resolved = activeSubscription
    (lists customer)

/-- The answer of Lago for the customer of a mapping. -/
def SubscriptionLists.answer (lists : SubscriptionLists) (mapping : UserMapping) :
    SubscriptionsAnswer :=
  .ok (lists (mapping.lagoCustomerExternalId.getD ""))

/-- The subscription a mapping stands for: its own, or the active one of its customer. -/
def SubscriptionLists.subscriptionOf (lists : SubscriptionLists) (mapping : UserMapping) :
    Option ResolvedSubscription :=
  if mapping.isExplicit then
    mapping.lagoSubscriptionExternalId.map fun externalId => ⟨externalId, none⟩
  else if truthy mapping.lagoCustomerExternalId then
    activeSubscription (lists (mapping.lagoCustomerExternalId.getD ""))
  else none

/-! ## The two paths -/

/-- `resolveBillingContext` from its query on, for what the query returns and a Lago that answers
from the lists. -/
def TxObject.resolveContext (obj : TxObject) (flush : Flush) (cache : SubscriptionResolutionCache)
    (lists : SubscriptionLists) (row : Except String (Option UserMapping)) : TxObject :=
  let selected := obj.mappingSelected flush cache row
  match selected.flushing with
  | some { point := .subscriptions mapping, .. } =>
      selected.subscriptionResolved flush (resolveFromLago mapping cache (lists.answer mapping)).1
  | _ => selected

/-- The flush has been told that the transaction is billable, to this subscription. -/
structure TxObject.BilledTo (obj : TxObject) (flush : Flush) (externalId : String) : Prop where
  billable : obj.flushing = some { flush with point := .resolved true }
  subscription : obj.st.lagoSubscriptionExternalId = some externalId

/-- The sync bills the tag by this mapping, to this subscription. -/
structure SyncBills (db : Db) (allTags : List StEvEOcppTag) (cache : SubscriptionResolutionCache)
    (idTag : String) (mapping : UserMapping) (answer : SubscriptionsAnswer) (externalId : String) :
    Prop where
  lookup : buildMappingLookupWithInheritance db.getActiveMappings allTags idTag = some mapping
  subscription : ∃ subscription, (resolveSubscription mapping cache answer).1 = some subscription ∧
    subscription.externalId = externalId

/-- Whatever the query of the emitter returns, it bills the tag only by the mapping the sync bills
it by, and to the same subscription. -/
def SameParty (db : Db) (allTags : List StEvEOcppTag) (idTag : String) (lists : SubscriptionLists)
    (emitterCache syncCache : SubscriptionResolutionCache) (obj : TxObject) (flush : Flush)
    (row : Except String (Option UserMapping)) : Prop :=
  ∀ externalId, (obj.resolveContext flush emitterCache lists row).BilledTo flush externalId →
    ∃ mapping, row = .ok (some mapping) ∧
      SyncBills db allTags syncCache idTag mapping (lists.answer mapping) externalId

/-- The row is active, and no later row of its tag is active and carries a Lago id. -/
def UserMapping.Prevails (mapping : UserMapping) (userMappings : List UserMapping) : Prop :=
  mapping.isActive = true ∧ ∃ earlier later, userMappings = earlier ++ mapping :: later ∧
    ∀ m ∈ later, m.steveOcppIdTag = mapping.steveOcppIdTag → isDirectMapping m = false

/-! ## Resolved subscriptions -/

section Resolve

variable {lists : SubscriptionLists} {cache : SubscriptionResolutionCache} {mapping : UserMapping}

/-- With answers of Lago only, whatever the cache holds of them, a mapping resolves to its
subscription. -/
lemma resolveSubscription_eq (hcache : cache.AnswersFrom lists) :
    (resolveSubscription mapping cache (lists.answer mapping)).1 =
      lists.subscriptionOf mapping := by
  unfold resolveSubscription SubscriptionLists.subscriptionOf
  cases hexplicit : mapping.isExplicit with
  | true =>
      obtain ⟨externalId, hexternal, hresolved⟩ := resolveWithoutLago_of_explicit hexplicit cache
      simp [hresolved, hexternal]
  | false =>
      have hno : ¬truthy mapping.lagoSubscriptionExternalId = true := by
        simpa [UserMapping.isExplicit] using hexplicit
      simp only [resolveWithoutLago, if_neg hno, Bool.false_eq_true, if_false]
      by_cases hcustomer : truthy mapping.lagoCustomerExternalId = true
      · obtain ⟨customer, hid⟩ := exists_of_truthy hcustomer
        simp only [if_pos hcustomer]
        simp only [hid, Option.bind_some, Option.getD_some]
        cases hcached : cache customer with
        | none => simp [resolveFromLago, SubscriptionLists.answer, hid]
        | some resolved => exact hcache customer resolved hcached
      · simp only [if_neg hcustomer]

/-- A mapping that stands for a subscription carries a Lago id. -/
lemma hasLagoId_of_subscriptionOf {subscription : ResolvedSubscription}
    (h : lists.subscriptionOf mapping = some subscription) :
    (truthy mapping.lagoSubscriptionExternalId || truthy mapping.lagoCustomerExternalId) =
      true := by
  unfold SubscriptionLists.subscriptionOf at h
  split at h
  · next hexplicit => rw [show truthy mapping.lagoSubscriptionExternalId = true from hexplicit]; rfl
  · split at h
    · next hcustomer => rw [hcustomer, Bool.or_true]
    · simp at h

/-- What the emitter makes of a row. -/
lemma resolveContext_spec (hcache : cache.AnswersFrom lists) (mapping : UserMapping)
    (obj : TxObject) (flush : Flush) :
    (obj.resolveContext flush cache lists (.ok (some mapping))).context =
        obj.context.resolve (lists.subscriptionOf mapping) ∧
      (obj.resolveContext flush cache lists (.ok (some mapping))).flushing = some { flush with
        point := .resolved (resolvedBillable (lists.subscriptionOf mapping)) } := by
  rw [← resolveSubscription_eq hcache]
  unfold TxObject.resolveContext resolveSubscription TxObject.mappingSelected
  cases hresolved : resolveWithoutLago mapping cache with
  | some resolved =>
      simp only [hresolved]
      cases resolved <;> exact TxObject.subscriptionResolved_context _
  | none =>
      simp only [hresolved]
      exact TxObject.subscriptionResolved_context _

/-- Whom the emitter bills a row to. -/
lemma billedTo_iff (hcache : cache.AnswersFrom lists) {obj : TxObject} {flush : Flush}
    {externalId : String} :
    (obj.resolveContext flush cache lists (.ok (some mapping))).BilledTo flush externalId ↔
      ∃ subscription, lists.subscriptionOf mapping = some subscription ∧
        subscription.externalId = externalId ∧
        resolvedBillable (lists.subscriptionOf mapping) = true := by
  obtain ⟨hcontext, hflush⟩ := resolveContext_spec hcache mapping obj flush
  have hexternal := congrArg BillingContext.lagoSubscriptionExternalId hcontext
  cases hsubscription : lists.subscriptionOf mapping with
  | none =>
      rw [hsubscription] at hflush
      refine iff_of_false (fun h => ?_) (by simp)
      simp [resolvedBillable] at hflush
      have := hflush.symm.trans h.billable
      simp at this
  | some subscription =>
      rw [hsubscription] at hflush hexternal
      constructor
      · intro h
        refine ⟨subscription, rfl, ?_, ?_⟩
        · exact Option.some.inj (hexternal.symm.trans h.subscription)
        · simpa using hflush.symm.trans h.billable
      · rintro ⟨_, heq, hid, hbillable⟩
        obtain rfl := Option.some.inj heq
        exact ⟨by rw [hflush, hbillable], hexternal.trans (congrArg some hid)⟩

/-- Without a row nobody is billed. -/
lemma row_of_billedTo {obj : TxObject} {flush : Flush} {externalId : String}
    {row : Except String (Option UserMapping)}
    (h : (obj.resolveContext flush cache lists row).BilledTo flush externalId) :
    ∃ mapping, row = .ok (some mapping) := by
  match row with
  | .ok (some mapping) => exact ⟨mapping, rfl⟩
  | .ok none =>
      exact absurd h.billable (by
        simp [TxObject.resolveContext, TxObject.mappingSelected, TxObject.returnResolved])
  | .error _ =>
      exact absurd h.billable (by
        simp [TxObject.resolveContext, TxObject.mappingSelected, TxObject.resolveFailed,
          TxObject.returnResolved])

end Resolve

/-! ## Agreement -/

section Agreement

variable {db : Db} {allTags : List StEvEOcppTag} {idTag : String} {mapping : UserMapping}

/-- The sync uses a row of the tag itself exactly when that row prevails. -/
lemma lookup_eq_some_iff_prevails (htag : mapping.steveOcppIdTag = idTag)
    (hlago : (truthy mapping.lagoSubscriptionExternalId ||
      truthy mapping.lagoCustomerExternalId) = true) :
    buildMappingLookupWithInheritance db.getActiveMappings allTags idTag = some mapping ↔
      mapping.Prevails db.userMappings := by
  have hdirect : isDirectMapping mapping = mapping.isActive := by simp [isDirectMapping, hlago]
  have hprevails : directMappingsByTag db.getActiveMappings idTag = some mapping ↔
      mapping.Prevails db.userMappings := by
    rw [Db.getActiveMappings, directMappingsByTag_filter_active, directMappingsByTag_eq_some,
      hdirect, UserMapping.Prevails, htag]
    simp
  rw [← hprevails]
  constructor
  · intro hlookup
    cases hown : directMappingsByTag db.getActiveMappings idTag with
    | some own => exact (buildMappingLookup_of_direct hown).symm.trans hlookup
    | none =>
        -- An inherited mapping belongs to another tag.
        obtain ⟨direct, hancestor⟩ := buildMappingLookup_spec hlookup
        have heq : direct = idTag := (directMappingsByTag_spec hancestor).2.2.symm.trans htag
        rw [heq, hown] at hancestor
        simp at hancestor
  · exact buildMappingLookup_of_direct

end Agreement

/-- The emitter and the sync bill the same party exactly when the row prevails, or stands for no
subscription of a usage plan. -/
theorem sameParty_iff_prevails (db : Db) (allTags : List StEvEOcppTag) (idTag : String)
    (lists : SubscriptionLists) (emitterCache syncCache : SubscriptionResolutionCache)
    (hemitter : emitterCache.AnswersFrom lists) (hsync : syncCache.AnswersFrom lists)
    (obj : TxObject) (flush : Flush) (row : Except String (Option UserMapping))
    (hrow : World.MayReturn db idTag row) :
    SameParty db allTags idTag lists emitterCache syncCache obj flush row ↔
      ∀ mapping, row = .ok (some mapping) →
        resolvedBillable (lists.subscriptionOf mapping) = true →
          mapping.Prevails db.userMappings := by
  constructor
  · rintro hsame mapping rfl hbillable
    cases hsubscription : lists.subscriptionOf mapping with
    | none => simp [hsubscription, resolvedBillable] at hbillable
    | some subscription =>
        obtain ⟨mapping', heq, hbills⟩ := hsame subscription.externalId
          ((billedTo_iff hemitter).mpr ⟨subscription, hsubscription, rfl, hbillable⟩)
        obtain rfl : mapping = mapping' := by simpa using heq
        exact (lookup_eq_some_iff_prevails hrow.2 (hasLagoId_of_subscriptionOf hsubscription)).mp
          hbills.lookup
  · intro hprevails externalId hbilled
    obtain ⟨mapping, rfl⟩ := row_of_billedTo hbilled
    obtain ⟨subscription, hsubscription, hid, hbillable⟩ := (billedTo_iff hemitter).mp hbilled
    refine ⟨mapping, rfl, ?_, subscription, ?_, hid⟩
    · exact (lookup_eq_some_iff_prevails hrow.2 (hasLagoId_of_subscriptionOf hsubscription)).mpr
        (hprevails mapping rfl hbillable)
    · rw [resolveSubscription_eq hsync, hsubscription]

/-- The record of a first sample, whose flush waits for the row of the tag. -/
def Scenario.askingObject : TxObject :=
  firstSample ⟨7, "CB-1", some 0, false, none⟩ 0 0

def Scenario.askingFlush : Flush := ⟨false, .userMapping "CARD-1"⟩

/-- Lago lists one subscription for every customer. -/
def Scenario.oneSubscription : SubscriptionLists := fun _ => [⟨"sub-1", "plan", .active⟩]

/-- The tables with the given mappings. -/
def Scenario.mappingsOnly (userMappings : List UserMapping) : Db :=
  (World.initial userMappings 0).db

theorem sameParty_of_customerMapping :
    (Scenario.askingObject.resolveContext Scenario.askingFlush SubscriptionResolutionCache.empty
        Scenario.oneSubscription (.ok (some Scenario.customerMapping))).BilledTo
        Scenario.askingFlush "sub-1" ∧
      SameParty (Scenario.mappingsOnly [Scenario.customerMapping]) [] "CARD-1"
        Scenario.oneSubscription SubscriptionResolutionCache.empty
        SubscriptionResolutionCache.empty Scenario.askingObject Scenario.askingFlush
        (.ok (some Scenario.customerMapping)) := by
  refine ⟨⟨rfl, rfl⟩, (sameParty_iff_prevails _ _ _ _ _ _ (fun _ _ h => by cases h)
    (fun _ _ h => by cases h) _ _ _ (by decide)).mpr fun mapping heq _ => ?_⟩
  obtain rfl : Scenario.customerMapping = mapping := by simpa using heq
  exact ⟨rfl, [], [], rfl, by simp⟩

/-- A mapping that names its subscription and has been switched off. -/
def Scenario.deactivatedMapping : UserMapping := { cardMapping with isActive := false }

/-- The emitter bills a deactivated mapping. -/
theorem not_sameParty_of_deactivated :
    World.MayReturn (Scenario.mappingsOnly [Scenario.deactivatedMapping]) "CARD-1"
        (.ok (some Scenario.deactivatedMapping)) ∧
      ¬SameParty (Scenario.mappingsOnly [Scenario.deactivatedMapping]) [] "CARD-1"
        Scenario.oneSubscription SubscriptionResolutionCache.empty
        SubscriptionResolutionCache.empty Scenario.askingObject Scenario.askingFlush
        (.ok (some Scenario.deactivatedMapping)) := by
  refine ⟨by decide, fun hsame => ?_⟩
  obtain ⟨mapping, -, hbills⟩ := hsame "sub-1" ⟨rfl, rfl⟩
  have hlookup : (none : Option UserMapping) = some mapping := hbills.lookup
  cases hlookup

end ExpresSync
