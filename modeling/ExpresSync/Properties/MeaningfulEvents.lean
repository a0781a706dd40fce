import ExpresSync.Model.World

/-!
# When a processed transaction means something

`processTransaction` is meant to give up on meter values it cannot use.  A value that does not parse
is `NaN`, which both guards let through, and `meterValueFrom` advances by the billed total rounded
to whole Wh.  `meaningful_iff` says for which transactions and running totals the result still is an
amount of energy, over a meter range that accounts for it.
-/

namespace ExpresSync

/-- The result is an amount of energy, the difference of its meter range, more than the tolerance if
it is sent, and the event built from it carries the amount. -/
def ProcessedTransaction.IsMeaningful (pt : ProcessedTransaction) : Prop :=
  ∃ kwh lo hi : ℚ, pt.kwhDelta = .fin kwh ∧ pt.meterValueFrom = .fin lo ∧
    pt.meterValueTo = .fin hi ∧ 0 ≤ kwh ∧ lo ≤ hi ∧
    (pt.shouldSendToLago = true → alreadyBilledToleranceKwh < kwh) ∧
    (0 < kwh → kwh = (hi - lo) / 1000) ∧
    (pt.shouldSendToLago = true → ∀ safeEnrichment now,
      ∃ event, buildLagoEvents safeEnrichment now [pt] = .ok [event]) ∧
    ∀ safeEnrichment now events, buildLagoEvents safeEnrichment now [pt] = .ok events →
      ∀ event ∈ events, event.properties.value = .fin kwh ∧ event.properties.kwh = .fin kwh

/-- Nothing is asked of the meter values: the transaction is not billed whatever they are. -/
def NotBilled (tx : TransactionWithCompletion) (syncState : Option TransactionSyncState)
    (mapping : Option UserMapping) : Prop :=
  (syncState.map (·.isFinalized)).getD false = true ∨ mapping = none ∨ tx.isCompleted = false ∨
    truthy tx.stopValue = false

/-- A running total to the six decimals of its column. -/
def columnKwh (prior : ℚ) : ℚ := -roundTo 6 (-prior)

/-- The meter values are numbers, and either the meter did not go up, or the running total covers
the session up to the tolerance, or the running total is a whole number of Wh. -/
def HasUsableMeters (tx : TransactionWithCompletion) (syncState : Option TransactionSyncState) :
    Prop :=
  ∃ start stop : ℤ, tx.startMeter = some start ∧ tx.stopMeter = some stop ∧
    (stop ≤ start ∨ ∃ prior, priorBilledKwh syncState = .fin prior ∧
      (((stop : ℚ) - start) / 1000 ≤ columnKwh prior + alreadyBilledToleranceKwh ∨
        OnGrid 3 (columnKwh prior)))

/-! ## Running totals -/

/-- The energy of a session, less a running total, to six decimals. -/
lemma roundTo_session_sub (start stop : ℤ) (prior : ℚ) :
    roundTo 6 (((stop : ℚ) - start) / 1000 - prior) =
      ((stop : ℚ) - start) / 1000 - columnKwh prior := by
  have hgrid : OnGrid 6 (((stop : ℚ) - start) / 1000) :=
    OnGrid.mono (by norm_num : 3 ≤ 6) ⟨stop - start, by push_cast; norm_num⟩
  rw [sub_eq_add_neg, roundTo_add hgrid, columnKwh, sub_neg_eq_add]

lemma abs_columnKwh_sub_le (prior : ℚ) : |columnKwh prior - prior| ≤ 1 / 2000000 := by
  have h := abs_roundTo_sub_le 6 (-prior)
  rw [columnKwh, ← abs_neg]
  calc |-(-roundTo 6 (-prior) - prior)| = |roundTo 6 (-prior) - -prior| := by
        congr 1
        ring
    _ ≤ 1 / 2000000 := by norm_num at h ⊢; exact h

/-- The whole Wh that `meterValueFrom` advances by are the running total exactly when that is a
whole number of Wh. -/
lemma columnKwh_eq_iff (prior : ℚ) :
    columnKwh prior = (mathRound (prior * 1000) : ℚ) / 1000 ↔ OnGrid 3 (columnKwh prior) := by
  constructor
  · intro h
    rw [h]
    exact ⟨mathRound (prior * 1000), by norm_num⟩
  · rintro ⟨n, hn⟩
    have hclose := abs_le.mp (abs_columnKwh_sub_le prior)
    have hround : mathRound (prior * 1000) = n := by
      rw [mathRound, Int.floor_eq_iff]
      rw [hn] at hclose
      constructor <;> norm_num at hclose ⊢ <;> linarith [hclose.1, hclose.2]
    rw [hround, hn]
    norm_num

/-! ## Results -/

/-- The event built from a result carries its energy to three decimals. -/
lemma value_of_buildLagoEvents {safeEnrichment : Bool} {now : ℕ} {pt : ProcessedTransaction}
    {events : List LagoEvent} (h : buildLagoEvents safeEnrichment now [pt] = .ok events) :
    ∀ event ∈ events, event.properties.value = pt.kwhDelta.map (toFixed 3) ∧
      event.properties.kwh = pt.kwhDelta.map (toFixed 3) := by
  unfold buildLagoEvents at h
  cases hevent : buildLagoEvent safeEnrichment now pt with
  | error e => simp [List.mapM_cons, hevent] at h
  | ok built =>
      obtain rfl : [built] = events := by simpa [List.mapM_cons, hevent] using h
      intro event hmem
      obtain rfl := List.mem_singleton.mp hmem
      unfold buildLagoEvent at hevent
      split at hevent
      · obtain rfl := Except.ok.inj hevent
        exact ⟨rfl, rfl⟩
      · simp at hevent

/-- The event of a result to be sent is built. -/
lemma buildLagoEvents_ok {tx : TransactionWithCompletion} {syncState : Option TransactionSyncState}
    {mapping : UserMapping} {resolved : Option ResolvedSubscription} {pt : ProcessedTransaction}
    (h : billTransaction tx syncState mapping resolved = some pt)
    (hsend : pt.shouldSendToLago = true) (safeEnrichment : Bool) (now : ℕ) :
    ∃ event, buildLagoEvents safeEnrichment now [pt] = .ok [event] := by
  obtain ⟨event, hevent⟩ := buildLagoEvent_ok h hsend safeEnrichment now
  refine ⟨event, ?_⟩
  simp only [buildLagoEvents, List.mapM_cons, List.mapM_nil, hevent]
  rfl

/-- A result with a whole number of Wh over its meter range is meaningful. -/
lemma isMeaningful_of_range {tx : TransactionWithCompletion}
    {syncState : Option TransactionSyncState} {mapping : UserMapping}
    {resolved : Option ResolvedSubscription} {pt : ProcessedTransaction} {kwh lo hi : ℚ}
    (hbill : billTransaction tx syncState mapping resolved = some pt)
    (hkwh : pt.kwhDelta = .fin kwh)
    (hfrom : pt.meterValueFrom = .fin lo) (hto : pt.meterValueTo = .fin hi) (hnonneg : 0 ≤ kwh)
    (hrange : lo ≤ hi) (hsent : pt.shouldSendToLago = true → alreadyBilledToleranceKwh < kwh)
    (hdiff : 0 < kwh → kwh = (hi - lo) / 1000) (hgrid : OnGrid 3 kwh) : pt.IsMeaningful := by
  refine ⟨kwh, lo, hi, hkwh, hfrom, hto, hnonneg, hrange, hsent, hdiff,
    buildLagoEvents_ok hbill, ?_⟩
  intro safeEnrichment now events hbuild event hmem
  have hvalue := value_of_buildLagoEvents hbuild event hmem
  rw [hkwh, JsNumber.map_fin, toFixed_of_onGrid hgrid] at hvalue
  exact hvalue

/-- A result without energy, over the whole meter range. -/
lemma isMeaningful_of_zero {tx : TransactionWithCompletion}
    {syncState : Option TransactionSyncState} {mapping : UserMapping}
    {resolved : Option ResolvedSubscription} {pt : ProcessedTransaction} {start stop : ℤ}
    (hbill : billTransaction tx syncState mapping resolved = some pt) (hkwh : pt.kwhDelta = .fin 0)
    (hfrom : pt.meterValueFrom = .fin start) (hto : pt.meterValueTo = .fin stop)
    (hlt : start < stop) (hskip : pt.shouldSendToLago = false) : pt.IsMeaningful :=
  isMeaningful_of_range hbill hkwh hfrom hto le_rfl (by exact_mod_cast hlt.le) (by simp [hskip])
    (fun h => absurd h (lt_irrefl 0)) (OnGrid.zero 3)

section Billing

variable {tx : TransactionWithCompletion} {syncState : Option TransactionSyncState}
  {fullDelta : MeterDelta}

/-- A session the running total covers gives a result without energy. -/
lemma billTransaction_covered (mapping : UserMapping) (resolved : Option ResolvedSubscription)
    (hdelta : calculateDelta tx = some fullDelta)
    (hle : remainingKwh fullDelta syncState ≤ .fin alreadyBilledToleranceKwh) :
    ∃ pt, billTransaction tx syncState mapping resolved = some pt ∧ pt.kwhDelta = .fin 0 ∧
      pt.meterValueFrom = fullDelta.meterValueFrom ∧ pt.meterValueTo = fullDelta.meterValueTo ∧
      pt.shouldSendToLago = false := by
  unfold billTransaction
  rw [hdelta]
  dsimp only
  rw [if_pos hle]
  exact ⟨_, rfl, rfl, rfl, rfl, rfl⟩

/-- Any other session gives a result with the rest, also when the rest is `NaN`. -/
lemma billTransaction_rest (mapping : UserMapping) (resolved : Option ResolvedSubscription)
    (hdelta : calculateDelta tx = some fullDelta)
    (hgt : ¬remainingKwh fullDelta syncState ≤ .fin alreadyBilledToleranceKwh) :
    ∃ pt, billTransaction tx syncState mapping resolved = some pt ∧
      pt.kwhDelta = remainingKwh fullDelta syncState ∧
      pt.meterValueFrom = fullDelta.meterValueFrom +
        (priorBilledKwh syncState).map (fun kwh => (mathRound (kwh * 1000) : ℚ)) ∧
      pt.meterValueTo = fullDelta.meterValueTo := by
  unfold billTransaction
  rw [hdelta]
  dsimp only
  rw [if_neg hgt]
  exact ⟨_, rfl, rfl, rfl, rfl⟩

/-- A `NaN` rest is billed. -/
lemma not_isMeaningful_of_nan (mapping : UserMapping) (resolved : Option ResolvedSubscription)
    (hdelta : calculateDelta tx = some fullDelta)
    (hnan : remainingKwh fullDelta syncState = .nan) :
    ∃ pt, billTransaction tx syncState mapping resolved = some pt ∧ ¬pt.IsMeaningful := by
  have hgt : ¬remainingKwh fullDelta syncState ≤ .fin alreadyBilledToleranceKwh := by
    rw [hnan]
    exact not_false
  obtain ⟨pt, hbill, hkwh, -⟩ := billTransaction_rest mapping resolved hdelta hgt
  refine ⟨pt, hbill, ?_⟩
  rintro ⟨kwh, lo, hi, hfin, -⟩
  rw [hkwh, hnan] at hfin
  cases hfin

/-- A meter value that does not parse makes the energy `NaN`. -/
lemma calculateDelta_of_nan (hcompleted : tx.isCompleted = true)
    (hvalue : truthy tx.stopValue = true)
    (hmeter : tx.startMeter = none ∨ tx.stopMeter = none) :
    ∃ fullDelta, calculateDelta tx = some fullDelta ∧ fullDelta.kwhDelta = .nan := by
  have hdelta : JsNumber.ofParsed tx.stopMeter - JsNumber.ofParsed tx.startMeter = .nan := by
    rcases hmeter with hstart | hstop
    · rw [hstart]
      cases tx.stopMeter with
      | none => rfl
      | some stop => rfl
    · rw [hstop]
      rfl
  have hguard : ¬JsNumber.nan ≤ .fin 0 := not_false
  simp [calculateDelta, hcompleted, hvalue, hdelta, hguard, JsNumber.map]

/-- A meter that did not go up is not billed. -/
lemma calculateDelta_of_le {start stop : ℤ} (hstart : tx.startMeter = some start)
    (hstop : tx.stopMeter = some stop) (hle : stop ≤ start) : calculateDelta tx = none := by
  cases hdelta : calculateDelta tx with
  | none => rfl
  | some delta => exact absurd (lt_of_calculateDelta hdelta hstart hstop) (not_lt.mpr hle)

/-- Between two meter values that went up, every result is meaningful exactly when the running total
is a number and covers the session or is a whole number of Wh. -/
lemma billed_isMeaningful_iff (mapping : UserMapping) (resolved : Option ResolvedSubscription)
    {start stop : ℤ} (hlt : start < stop)
    (hdelta : calculateDelta tx =
      some ⟨.fin (((stop : ℚ) - start) / 1000), .fin start, .fin stop⟩) :
    (∀ pt, billTransaction tx syncState mapping resolved = some pt → pt.IsMeaningful) ↔
      ∃ prior, priorBilledKwh syncState = .fin prior ∧
        (((stop : ℚ) - start) / 1000 ≤ columnKwh prior + alreadyBilledToleranceKwh ∨
          OnGrid 3 (columnKwh prior)) := by
  cases hprior : priorBilledKwh syncState with
  | nan =>
      obtain ⟨pt, hbill, hnot⟩ := not_isMeaningful_of_nan mapping resolved hdelta
        (by rw [remainingKwh, hprior]; rfl)
      constructor
      · exact fun h => absurd (h pt hbill) hnot
      · rintro ⟨prior, hfin, -⟩
        cases hfin
  | fin prior =>
      have hrest : remainingKwh ⟨.fin (((stop : ℚ) - start) / 1000), .fin start, .fin stop⟩
          syncState = .fin (((stop : ℚ) - start) / 1000 - columnKwh prior) := by
        rw [remainingKwh, hprior, JsNumber.fin_sub_fin, JsNumber.map_fin, roundTo_session_sub]
      by_cases hcovered : ((stop : ℚ) - start) / 1000 ≤ columnKwh prior + alreadyBilledToleranceKwh
      · obtain ⟨pt, hbill, hkwh, hfrom, hto, hskip⟩ := billTransaction_covered mapping resolved
          hdelta (by rw [hrest, JsNumber.fin_le_fin]; linarith)
        have hmeaning := isMeaningful_of_zero hbill hkwh hfrom hto hlt hskip
        constructor
        · exact fun _ => ⟨prior, rfl, Or.inl hcovered⟩
        · intro _ pt' hpt'
          obtain rfl := Option.some.inj (hbill.symm.trans hpt')
          exact hmeaning
      · obtain ⟨pt, hbill, hkwh, hfrom, hto⟩ := billTransaction_rest mapping resolved hdelta
          (by rw [hrest, JsNumber.fin_le_fin]; linarith)
        rw [hrest] at hkwh
        rw [hprior] at hfrom
        have htol : (0 : ℚ) < alreadyBilledToleranceKwh := by norm_num [alreadyBilledToleranceKwh]
        constructor
        · intro h
          obtain ⟨kwh, lo, hi, hkwh', hlo, hhi, -, -, -, hdiff, -⟩ := h pt hbill
          obtain rfl := JsNumber.fin.inj (hkwh.symm.trans hkwh')
          obtain rfl := JsNumber.fin.inj (hfrom.symm.trans hlo)
          obtain rfl := JsNumber.fin.inj (hto.symm.trans hhi)
          have heq := hdiff (by linarith)
          refine ⟨prior, rfl, Or.inr ((columnKwh_eq_iff prior).mp ?_)⟩
          linarith
        · rintro ⟨prior', hfin, hcovered' | hgrid⟩ pt' hpt'
          · obtain rfl := JsNumber.fin.inj hfin
            exact absurd hcovered' hcovered
          · obtain rfl := JsNumber.fin.inj hfin
            obtain rfl := Option.some.inj (hbill.symm.trans hpt')
            have hwhole := (columnKwh_eq_iff prior).mpr hgrid
            have hsession : OnGrid 3 (((stop : ℚ) - start) / 1000) :=
              ⟨stop - start, by push_cast; norm_num⟩
            refine isMeaningful_of_range hbill hkwh hfrom hto ?_ ?_ (fun _ => ?_) (fun _ => ?_)
              (hsession.sub hgrid)
            · linarith
            · linarith
            · linarith
            · linarith

end Billing

/-- A transaction that is not billed gives no result. -/
lemma processTransaction_of_notBilled {tx : TransactionWithCompletion}
    {syncState : Option TransactionSyncState} {mapping : Option UserMapping}
    (h : NotBilled tx syncState mapping) (cache : SubscriptionResolutionCache)
    (answer : SubscriptionsAnswer) :
    (processTransaction tx syncState mapping cache answer).1 = none := by
  cases hresult : (processTransaction tx syncState mapping cache answer).1 with
  | none => rfl
  | some pt =>
      obtain ⟨hfinal, m, hmapping, hbill⟩ := processTransaction_spec hresult
      obtain ⟨fullDelta, hdelta, -⟩ := billTransaction_spec hbill
      have hcompleted := isCompleted_of_calculateDelta hdelta
      rcases h with h | h | h | h
      · simp [hfinal] at h
      · simp [hmapping] at h
      · simp [hcompleted] at h
      · simp [calculateDelta, h] at hdelta

/-- Any other transaction gives what the billing step makes of it. -/
lemma processTransaction_of_billed {tx : TransactionWithCompletion}
    {syncState : Option TransactionSyncState} {mapping : Option UserMapping}
    (h : ¬NotBilled tx syncState mapping) (cache : SubscriptionResolutionCache)
    (answer : SubscriptionsAnswer) :
    tx.isCompleted = true ∧ truthy tx.stopValue = true ∧ ∃ m, mapping = some m ∧
      (processTransaction tx syncState mapping cache answer).1 =
        billTransaction tx syncState m (resolveSubscription m cache answer).1 := by
  simp only [NotBilled, not_or, Bool.not_eq_true, Bool.not_eq_false] at h
  obtain ⟨hfinal, hmapping, hcompleted, hvalue⟩ := h
  obtain ⟨m, rfl⟩ := Option.ne_none_iff_exists'.mp hmapping
  refine ⟨hcompleted, hvalue, m, rfl, ?_⟩
  rw [processTransaction, if_neg (by simp [hfinal])]

/-- What `processTransaction` returns is meaningful exactly when the transaction is not billed at
all or has usable meter values. -/
theorem meaningful_iff (tx : TransactionWithCompletion) (syncState : Option TransactionSyncState)
    (mapping : Option UserMapping) (cache : SubscriptionResolutionCache)
    (answer : SubscriptionsAnswer) :
    (∀ pt, (processTransaction tx syncState mapping cache answer).1 = some pt → pt.IsMeaningful) ↔
      NotBilled tx syncState mapping ∨ HasUsableMeters tx syncState := by
  by_cases hskip : NotBilled tx syncState mapping
  · rw [processTransaction_of_notBilled hskip]
    simp [hskip]
  · obtain ⟨hcompleted, hvalue, m, rfl, hresult⟩ := processTransaction_of_billed hskip cache answer
    rw [hresult, or_iff_right hskip, HasUsableMeters]
    have hnan : tx.startMeter = none ∨ tx.stopMeter = none →
        ∃ pt, billTransaction tx syncState m (resolveSubscription m cache answer).1 = some pt ∧
          ¬pt.IsMeaningful := by
      intro hmeter
      obtain ⟨fullDelta, hdelta, hkwh⟩ := calculateDelta_of_nan hcompleted hvalue hmeter
      have hrest : remainingKwh fullDelta syncState = .nan := by
        rw [remainingKwh, hkwh]
        rfl
      exact not_isMeaningful_of_nan m _ hdelta hrest
    cases hstart : tx.startMeter with
    | none => simpa using hnan (Or.inl hstart)
    | some start =>
        cases hstop : tx.stopMeter with
        | none => simpa using hnan (Or.inr hstop)
        | some stop =>
            rcases le_or_gt stop start with hle | hlt
            · simp [billTransaction, calculateDelta_of_le hstart hstop hle, hle]
            · rw [billed_isMeaningful_iff m _ hlt
                (calculateDelta_of_meters hcompleted hvalue hstart hstop hlt)]
              simp [not_le.mpr hlt]

namespace Scenario

/-- A completed session whose start value StEvE left empty. -/
def unreadableSession : TransactionWithCompletion := ⟨transaction 7 "" (some "1500"), true⟩

end Scenario

open Scenario in
/-- A session with an empty start value is billed `NaN` kWh. -/
theorem not_meaningful_unreadableSession :
    ¬∀ (tx : TransactionWithCompletion) (syncState : Option TransactionSyncState)
      (mapping : Option UserMapping) (cache : SubscriptionResolutionCache)
      (answer : SubscriptionsAnswer), tx.isCompleted = true →
      ∀ pt, (processTransaction tx syncState mapping cache answer).1 = some pt →
        pt.IsMeaningful := by
  intro h
  have hstart : unreadableSession.startMeter = none := by decide +kernel
  have hcache := h unreadableSession none (some cardMapping) SubscriptionResolutionCache.empty
    (.ok []) rfl
  have hbilled : ¬NotBilled unreadableSession none (some cardMapping) := by
    simp [NotBilled, unreadableSession, transaction, truthy]
  obtain ⟨-, -, m, -, hresult⟩ := processTransaction_of_billed hbilled
    SubscriptionResolutionCache.empty (.ok [])
  obtain ⟨fullDelta, hdelta, hkwh⟩ := calculateDelta_of_nan rfl rfl (Or.inl hstart)
  have hrest : remainingKwh fullDelta none = .nan := by
    rw [remainingKwh, hkwh]
    rfl
  obtain ⟨pt, hbill, hnot⟩ := not_isMeaningful_of_nan m
    (resolveSubscription m SubscriptionResolutionCache.empty (.ok [])).1 hdelta hrest
  exact hnot (hcache pt (hresult.trans hbill))

end ExpresSync
