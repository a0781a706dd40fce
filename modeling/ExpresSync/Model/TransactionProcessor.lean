import ExpresSync.Model.MappingResolver
import ExpresSync.Model.SyncDb

/-!
# The post-transaction sync: what to bill

`calculateDelta`, `processTransaction` and `processTransactions`.  A meter value that does not
parse is `NaN` and is carried along as the source carries it: every comparison with it is false,
so it passes both guards of `processTransaction`.
-/

namespace ExpresSync

/-- A transaction with the flag the sync adds to it. -/
structure TransactionWithCompletion extends StEvETransaction where
  isCompleted : Bool
deriving DecidableEq

/-- The number `parseInt` returned. -/
def JsNumber.ofParsed : Option ℤ → JsNumber
  | none => .nan
  | some n => .fin n

/-- The energy of a completed transaction and the meter range it was read from. -/
structure MeterDelta where
  kwhDelta : JsNumber
  meterValueFrom : JsNumber
  meterValueTo : JsNumber
deriving DecidableEq

/-- `calculateDelta`. -/
def calculateDelta (tx : TransactionWithCompletion) : Option MeterDelta :=
  if !tx.isCompleted || !truthy tx.stopValue then none
  else
    let startValue := JsNumber.ofParsed tx.startMeter
    let stopValue := JsNumber.ofParsed tx.stopMeter
    let deltaWh := stopValue - startValue
    if deltaWh ≤ .fin 0 then none
    else
      some
        { kwhDelta := deltaWh.map (· / 1000)
          meterValueFrom := startValue
          meterValueTo := stopValue }

/-- Why a processed transaction is not sent. -/
inductive SkipReason where
  | noSubscription
  | nonUsagePlan
  | alreadyBilledIncrementally
deriving DecidableEq

/-- The result of processing one transaction. -/
structure ProcessedTransaction where
  steveTransactionId : ℕ
  userMappingId : ℕ
  lagoSubscriptionExternalId : Option String
  kwhDelta : JsNumber
  meterValueFrom : JsNumber
  meterValueTo : JsNumber
  isFinal : Bool
  lagoEventTransactionId : LagoEventTransactionId
  shouldSendToLago : Bool
  skipReason : Option SkipReason
  stopTimestamp : Option ℕ
  chargeBoxId : String
  connectorId : ℕ
  startTimestamp : ℕ
deriving DecidableEq

/-- `ALREADY_BILLED_TOLERANCE_KWH`: 1 Wh. -/
def alreadyBilledToleranceKwh : ℚ := 1 / 1000

/-- The skip reason that follows from the resolved subscription. -/
def subscriptionSkipReason (resolved : Option ResolvedSubscription) : Option SkipReason :=
  if truthy (resolved.map (·.externalId)) then
    if isNonUsagePlan (resolved.bind (·.planCode)) then some .nonUsagePlan else none
  else some .noSubscription

/-- What is left to bill: the metered energy less the running total, rounded to six decimals. -/
def remainingKwh (fullDelta : MeterDelta) (syncState : Option TransactionSyncState) : JsNumber :=
  (fullDelta.kwhDelta - priorBilledKwh syncState).map (roundTo 6)

/-- The part of `processTransaction` after the subscription is resolved. -/
def billTransaction (tx : TransactionWithCompletion) (syncState : Option TransactionSyncState)
    (mapping : UserMapping) (resolved : Option ResolvedSubscription) :
      Option ProcessedTransaction :=
  match calculateDelta tx with
  | none => none
  | some fullDelta =>
      if remainingKwh fullDelta syncState ≤ .fin alreadyBilledToleranceKwh then
        some
          { steveTransactionId := tx.id
            userMappingId := mapping.id
            lagoSubscriptionExternalId := resolved.map (·.externalId)
            kwhDelta := .fin 0
            meterValueFrom := fullDelta.meterValueFrom
            meterValueTo := fullDelta.meterValueTo
            isFinal := tx.isCompleted
            lagoEventTransactionId := .finalNoop tx.id
            shouldSendToLago := false
            skipReason := some .alreadyBilledIncrementally
            stopTimestamp := tx.stopTimestamp
            chargeBoxId := tx.chargeBoxId
            connectorId := tx.connectorId
            startTimestamp := tx.startTimestamp }
      else
        some
          { steveTransactionId := tx.id
            userMappingId := mapping.id
            lagoSubscriptionExternalId := resolved.map (·.externalId)
            kwhDelta := remainingKwh fullDelta syncState
            meterValueFrom := fullDelta.meterValueFrom +
              (priorBilledKwh syncState).map fun kwh => (mathRound (kwh * 1000) : ℚ)
            meterValueTo := fullDelta.meterValueTo
            isFinal := tx.isCompleted
            lagoEventTransactionId := .final tx.id
            shouldSendToLago := (subscriptionSkipReason resolved).isNone
            skipReason := subscriptionSkipReason resolved
            stopTimestamp := tx.stopTimestamp
            chargeBoxId := tx.chargeBoxId
            connectorId := tx.connectorId
            startTimestamp := tx.startTimestamp }

/-- `processTransaction`: the result and the cache after it, when Lago, if asked, answers
`answer`. -/
def processTransaction (tx : TransactionWithCompletion) (syncState : Option TransactionSyncState)
    (mapping : Option UserMapping) (subscriptionCache : SubscriptionResolutionCache)
    (answer : SubscriptionsAnswer) : Option ProcessedTransaction × SubscriptionResolutionCache :=
  if (syncState.map (·.isFinalized)).getD false then (none, subscriptionCache)
  else
    match mapping with
    | none => (none, subscriptionCache)
    | some mapping =>
        let (resolved, cache') := resolveSubscription mapping subscriptionCache answer
        (billTransaction tx syncState mapping resolved, cache')

/-- The loop of `processTransactions`.  `getSubscriptions id` is the answer Lago gives to the
look-up made while the transaction `id` is processed. -/
def processTransactionsLoop (syncStates : ℕ → Option TransactionSyncState)
    (mappings : String → Option UserMapping) (getSubscriptions : ℕ → SubscriptionsAnswer) :
    List TransactionWithCompletion → SubscriptionResolutionCache → List ProcessedTransaction
  | [], _ => []
  | tx :: transactions, subscriptionCache =>
      let (result, cache') := processTransaction tx (syncStates tx.id) (mappings tx.ocppIdTag)
        subscriptionCache (getSubscriptions tx.id)
      result.toList ++
        processTransactionsLoop syncStates mappings getSubscriptions transactions cache'

/-- `processTransactions`: every invocation starts with a cache of its own. -/
def processTransactions (transactions : List TransactionWithCompletion)
    (syncStates : ℕ → Option TransactionSyncState) (mappings : String → Option UserMapping)
    (getSubscriptions : ℕ → SubscriptionsAnswer) : List ProcessedTransaction :=
  processTransactionsLoop syncStates mappings getSubscriptions transactions
    SubscriptionResolutionCache.empty

/-- History, read by nothing: `processTransaction` asks Lago and the call is rejected. -/
def lookupFails (syncState : Option TransactionSyncState) (mapping : Option UserMapping)
    (subscriptionCache : SubscriptionResolutionCache) (answer : SubscriptionsAnswer) : Bool :=
  !(syncState.map (·.isFinalized)).getD false &&
    mapping.any fun mapping =>
      (resolveWithoutLago mapping subscriptionCache).isNone &&
        match answer with
        | .ok _ => false
        | .error _ => true

/-- History: the transactions of the loop whose look-up fails. -/
def failedLookupsLoop (syncStates : ℕ → Option TransactionSyncState)
    (mappings : String → Option UserMapping) (getSubscriptions : ℕ → SubscriptionsAnswer) :
    List TransactionWithCompletion → SubscriptionResolutionCache → List ℕ
  | [], _ => []
  | tx :: transactions, subscriptionCache =>
      let (_, cache') := processTransaction tx (syncStates tx.id) (mappings tx.ocppIdTag)
        subscriptionCache (getSubscriptions tx.id)
      let rest := failedLookupsLoop syncStates mappings getSubscriptions transactions cache'
      if lookupFails (syncStates tx.id) (mappings tx.ocppIdTag) subscriptionCache
          (getSubscriptions tx.id) then tx.id :: rest
      else rest

/-! ## What a processed transaction looks like -/

/-- `calculateDelta` of a completed transaction whose two meter values are numbers. -/
lemma calculateDelta_of_meters {tx : TransactionWithCompletion} {start stop : ℤ}
    (hcompleted : tx.isCompleted = true) (hvalue : truthy tx.stopValue = true)
    (hstart : tx.startMeter = some start) (hstop : tx.stopMeter = some stop) (hlt : start < stop) :
    calculateDelta tx =
      some ⟨.fin (((stop : ℚ) - start) / 1000), .fin start, .fin stop⟩ := by
  have hpos : ¬((stop : ℚ) - start ≤ 0) := by
    have : (start : ℚ) < stop := by exact_mod_cast hlt
    linarith
  simp [calculateDelta, hcompleted, hvalue, hstart, hstop, JsNumber.ofParsed, hpos]

/-- A transaction with two meter values is only billed when the meter went up. -/
lemma lt_of_calculateDelta {tx : TransactionWithCompletion} {delta : MeterDelta} {start stop : ℤ}
    (h : calculateDelta tx = some delta) (hstart : tx.startMeter = some start)
    (hstop : tx.stopMeter = some stop) : start < stop := by
  unfold calculateDelta at h
  split at h
  · simp at h
  · simp only [hstart, hstop, JsNumber.ofParsed, JsNumber.fin_sub_fin, JsNumber.fin_le_fin] at h
    split at h
    · simp at h
    · next hpos =>
        have hlt : (start : ℚ) < stop := by linarith
        exact_mod_cast hlt

/-- Only completed transactions are billed. -/
lemma isCompleted_of_calculateDelta {tx : TransactionWithCompletion} {delta : MeterDelta}
    (h : calculateDelta tx = some delta) : tx.isCompleted = true := by
  unfold calculateDelta at h
  split at h
  · simp at h
  · next hguard =>
      simp only [Bool.not_eq_true, Bool.or_eq_false_iff, Bool.not_eq_false'] at hguard
      exact hguard.1

/-- Every result of the billing step belongs to its transaction and its mapping and is final. -/
lemma billTransaction_spec {tx : TransactionWithCompletion}
    {syncState : Option TransactionSyncState} {mapping : UserMapping}
    {resolved : Option ResolvedSubscription} {pt : ProcessedTransaction}
    (h : billTransaction tx syncState mapping resolved = some pt) :
    ∃ fullDelta, calculateDelta tx = some fullDelta ∧
      pt.steveTransactionId = tx.id ∧ pt.userMappingId = mapping.id ∧ pt.isFinal = true ∧
      pt.lagoSubscriptionExternalId = resolved.map (·.externalId) ∧
      pt.meterValueTo = fullDelta.meterValueTo ∧
      ((remainingKwh fullDelta syncState ≤ .fin alreadyBilledToleranceKwh ∧
          pt.kwhDelta = .fin 0 ∧ pt.shouldSendToLago = false) ∨
        (¬remainingKwh fullDelta syncState ≤ .fin alreadyBilledToleranceKwh ∧
          pt.kwhDelta = remainingKwh fullDelta syncState ∧
          pt.meterValueFrom = fullDelta.meterValueFrom +
            (priorBilledKwh syncState).map (fun kwh => (mathRound (kwh * 1000) : ℚ)) ∧
          pt.lagoEventTransactionId = .final tx.id ∧
          pt.shouldSendToLago = (subscriptionSkipReason resolved).isNone)) := by
  unfold billTransaction at h
  split at h
  · simp at h
  · next fullDelta hdelta =>
      have hcompleted := isCompleted_of_calculateDelta hdelta
      split at h
      · next hle =>
          obtain rfl := Option.some.inj h
          exact ⟨fullDelta, hdelta, rfl, rfl, hcompleted, rfl, rfl, Or.inl ⟨hle, rfl, rfl⟩⟩
      · next hgt =>
          obtain rfl := Option.some.inj h
          exact ⟨fullDelta, hdelta, rfl, rfl, hcompleted, rfl, rfl,
            Or.inr ⟨hgt, rfl, rfl, rfl, rfl⟩⟩

/-- The skip reason of a transaction that has energy left to bill is that of its subscription. -/
lemma billTransaction_skipReason {tx : TransactionWithCompletion}
    {syncState : Option TransactionSyncState} {mapping : UserMapping}
    {resolved : Option ResolvedSubscription} {pt : ProcessedTransaction}
    (h : billTransaction tx syncState mapping resolved = some pt)
    (hkey : pt.lagoEventTransactionId ≠ .finalNoop tx.id) :
    pt.skipReason = subscriptionSkipReason resolved := by
  unfold billTransaction at h
  split at h
  · simp at h
  · split at h
    · obtain rfl := Option.some.inj h
      exact absurd rfl hkey
    · obtain rfl := Option.some.inj h
      rfl

/-- The identifier of a processed transaction names it. -/
lemma billTransaction_key {tx : TransactionWithCompletion} {syncState : Option TransactionSyncState}
    {mapping : UserMapping} {resolved : Option ResolvedSubscription} {pt : ProcessedTransaction}
    (h : billTransaction tx syncState mapping resolved = some pt) :
    pt.lagoEventTransactionId.steveTransactionId = tx.id := by
  unfold billTransaction at h
  split at h
  · simp at h
  · split at h <;> (obtain rfl := Option.some.inj h; rfl)

/-- No skip reason follows from a subscription on a plan that is not known to be a non-usage one. -/
lemma subscriptionSkipReason_isNone {resolved : Option ResolvedSubscription}
    (h : (subscriptionSkipReason resolved).isNone = true) :
    truthy (resolved.map (·.externalId)) = true ∧
      isNonUsagePlan (resolved.bind (·.planCode)) = false := by
  unfold subscriptionSkipReason at h
  split at h
  · next hsub =>
      split at h
      · simp at h
      · next hplan => exact ⟨hsub, by simpa using hplan⟩
  · simp at h

/-- The energy of a delta is `NaN` exactly when one of the meter values is. -/
lemma calculateDelta_spec {tx : TransactionWithCompletion} {delta : MeterDelta}
    (h : calculateDelta tx = some delta) :
    (∃ start stop : ℚ, delta.meterValueFrom = .fin start ∧ delta.meterValueTo = .fin stop ∧
        delta.kwhDelta = .fin ((stop - start) / 1000)) ∨
      (delta.kwhDelta = .nan ∧ (delta.meterValueFrom = .nan ∨ delta.meterValueTo = .nan)) := by
  unfold calculateDelta at h
  split at h
  · simp at h
  · simp only [] at h
    split at h
    · simp at h
    · obtain rfl := Option.some.inj h
      cases tx.startMeter with
      | none => exact Or.inr ⟨by cases tx.stopMeter <;> rfl, Or.inl rfl⟩
      | some start =>
          cases tx.stopMeter with
          | none => exact Or.inr ⟨rfl, Or.inr rfl⟩
          | some stop => exact Or.inl ⟨start, stop, rfl, rfl, rfl⟩

/-- Against a running total that is a number, the billed delta is a number and not negative,
unless a meter value is `NaN`. -/
lemma billTransaction_delta {tx : TransactionWithCompletion}
    {syncState : Option TransactionSyncState} {mapping : UserMapping}
    {resolved : Option ResolvedSubscription} {pt : ProcessedTransaction} {prior : ℚ}
    (h : billTransaction tx syncState mapping resolved = some pt)
    (hprior : priorBilledKwh syncState = .fin prior) :
    (∃ d, pt.kwhDelta = .fin d ∧ 0 ≤ d) ∨
      (pt.kwhDelta = .nan ∧ (pt.meterValueFrom = .nan ∨ pt.meterValueTo = .nan)) := by
  obtain ⟨fullDelta, hdelta, -, -, -, -, hto, hcase⟩ := billTransaction_spec h
  rcases hcase with ⟨-, hzero, -⟩ | ⟨hgt, hkwh, hfrom, -, -⟩
  · exact Or.inl ⟨0, hzero, le_rfl⟩
  · rcases calculateDelta_spec hdelta with ⟨start, stop, -, -, hfull⟩ | ⟨hnan, hmeter⟩
    · rw [remainingKwh, hfull, hprior] at hgt hkwh
      refine Or.inl ⟨_, hkwh, ?_⟩
      have hlt : ¬roundTo 6 ((stop - start) / 1000 - prior) ≤ alreadyBilledToleranceKwh := hgt
      have htol : (0 : ℚ) ≤ alreadyBilledToleranceKwh := by norm_num [alreadyBilledToleranceKwh]
      linarith
    · refine Or.inr ⟨by rw [hkwh, remainingKwh, hnan, hprior]; rfl, ?_⟩
      rcases hmeter with hm | hm
      · left
        rw [hfrom, hm, hprior]
        rfl
      · right
        rw [hto, hm]

/-- A transaction is processed when it is not finalized, has a mapping, and has energy to bill. -/
lemma processTransaction_spec {tx : TransactionWithCompletion}
    {syncState : Option TransactionSyncState} {mapping : Option UserMapping}
    {cache : SubscriptionResolutionCache} {answer : SubscriptionsAnswer} {pt : ProcessedTransaction}
    (h : (processTransaction tx syncState mapping cache answer).1 = some pt) :
    (syncState.map (·.isFinalized)).getD false = false ∧ ∃ m, mapping = some m ∧
      billTransaction tx syncState m (resolveSubscription m cache answer).1 = some pt := by
  unfold processTransaction at h
  split at h
  · simp at h
  · next hfinal =>
      cases mapping with
      | none => simp at h
      | some m => exact ⟨by simpa using hfinal, m, rfl, h⟩

/-- Processing a transaction leaves the cache alone or resolves a subscription with it. -/
lemma processTransaction_cache (tx : TransactionWithCompletion)
    (syncState : Option TransactionSyncState) (mapping : Option UserMapping)
    (cache : SubscriptionResolutionCache) (answer : SubscriptionsAnswer) :
    (processTransaction tx syncState mapping cache answer).2 = cache ∨ ∃ m, mapping = some m ∧
      (processTransaction tx syncState mapping cache answer).2 =
        (resolveSubscription m cache answer).2 := by
  unfold processTransaction
  split
  · exact Or.inl rfl
  · cases mapping with
    | none => exact Or.inl rfl
    | some m => exact Or.inr ⟨m, rfl, rfl⟩

section Loop

variable {syncStates : ℕ → Option TransactionSyncState} {mappings : String → Option UserMapping}
  {getSubscriptions : ℕ → SubscriptionsAnswer}

/-- Every result of the loop comes from processing one of the transactions, with the cache the
loop has at that point; `P` is whatever the caches of the loop have in common. -/
lemma mem_processTransactionsLoop {P : SubscriptionResolutionCache → Prop}
    {transactions : List TransactionWithCompletion} {cache : SubscriptionResolutionCache}
    {pt : ProcessedTransaction}
    (h : pt ∈ processTransactionsLoop syncStates mappings getSubscriptions transactions cache)
    (hcache : P cache)
    (hkeep : ∀ tx ∈ transactions, ∀ cache', P cache' →
      P (processTransaction tx (syncStates tx.id) (mappings tx.ocppIdTag) cache'
        (getSubscriptions tx.id)).2) :
    ∃ tx ∈ transactions, ∃ cache', P cache' ∧
      (processTransaction tx (syncStates tx.id) (mappings tx.ocppIdTag) cache'
        (getSubscriptions tx.id)).1 = some pt := by
  induction transactions generalizing cache with
  | nil => simp [processTransactionsLoop] at h
  | cons tx transactions ih =>
      simp only [processTransactionsLoop, List.mem_append, Option.mem_toList] at h
      rcases h with h | h
      · exact ⟨tx, List.mem_cons_self, cache, hcache, h⟩
      · obtain ⟨tx', hmem, cache', hP, h'⟩ := ih h (hkeep tx List.mem_cons_self cache hcache)
          fun tx' hmem => hkeep tx' (List.mem_cons_of_mem _ hmem)
        exact ⟨tx', List.mem_cons_of_mem _ hmem, cache', hP, h'⟩

/-- The results carry the ids of transactions of the list, in its order. -/
lemma processTransactionsLoop_ids (transactions : List TransactionWithCompletion)
    (cache : SubscriptionResolutionCache) :
    List.Sublist
      ((processTransactionsLoop syncStates mappings getSubscriptions transactions cache).map
        (·.steveTransactionId))
      (transactions.map (·.id)) := by
  induction transactions generalizing cache with
  | nil => simp [processTransactionsLoop]
  | cons tx transactions ih =>
      simp only [processTransactionsLoop, List.map_append, List.map_cons]
      cases hpt : (processTransaction tx (syncStates tx.id) (mappings tx.ocppIdTag) cache
          (getSubscriptions tx.id)).1 with
      | none => simpa using (ih _).cons tx.id
      | some pt =>
          obtain ⟨-, m, -, hbill⟩ := processTransaction_spec hpt
          obtain ⟨_, -, hid, -⟩ := billTransaction_spec hbill
          simpa [hid] using ih _

end Loop

end ExpresSync
