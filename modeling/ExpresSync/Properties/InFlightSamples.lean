import ExpresSync.Properties.ObjectTally

/-!
# Samples that arrive while a flush is in flight

`flush` takes a snapshot of the pending delta, waits for Lago and for the database, and then sets
the pending delta to `0`.  A delta that was accepted in between is forgotten with it, and the
meter value noted as billed is the one that was current when Lago answered.  A flush whose
look-ups failed forgets the pending delta as well, although the next one may find a subscription.

`balanced_iff_nothingLost` is the exact statement for the first of the two: along every run with
rising samples in which no failed look-up drops a delta, the books of a billable transaction
balance whenever no flush is in flight if and only if no flush completes with more pending than it
had sent.
-/

namespace ExpresSync

open Transition

/-! ## The property and its condition -/

/-- The books of an object: what is sent and what is pending add up to what the meter has
counted since the first sample, and what is sent is what the meter had counted at the value noted
as billed. -/
def TxObject.Balances (obj : TxObject) : Prop :=
  ∃ first ∈ obj.tally.start, ∃ last ∈ obj.tally.last,
    obj.tally.total + obj.tally.pending = ((last : ℚ) - first) / 1000 ∧
      (obj.tally.lastBilled : ℚ) = first + 1000 * obj.tally.total

/-- The books of a transaction balance whenever it is billable and no flush of it is in flight. -/
def Balanced (steveTransactionId : ℕ) (w : World) : Prop :=
  ∀ obj ∈ w.heap, obj.st.steveTransactionId = steveTransactionId → obj.context.billable = true →
    obj.flushing = none → obj.Balances

instance (obj : TxObject) : Decidable obj.Balances := by
  unfold TxObject.Balances
  infer_instance

instance (id : ℕ) (w : World) : Decidable (Balanced id w) := by
  unfold Balanced
  infer_instance

/-- The kWh a flush has sent, when its object has been written to the database. -/
def TxObject.persistedKwh (obj : TxObject) : Option ℚ :=
  obj.flushing.bind fun flush =>
    match flush.point with
    | .persisted args => some args.flushKwh
    | _ => none

/-- When a flush of a billable transaction completes, what is pending is what it has sent: no delta
was accepted since it took its snapshot. -/
def NothingLost (steveTransactionId : ℕ) (w : World) : Action → Prop
  | .flush i (.persistAnswered true) =>
      ∀ obj ∈ w.heap[i]?, obj.st.steveTransactionId = steveTransactionId →
        obj.context.billable = true →
          ∀ flushKwh ∈ obj.persistedKwh, obj.st.pendingDeltaKwh = flushKwh
  | _ => True

/-- A flush whose look-ups have failed has nothing to drop. -/
def DropsNothing (steveTransactionId : ℕ) (w : World) : Action → Prop
  | .flush i .resumes =>
      ∀ obj ∈ w.heap[i]?, obj.st.steveTransactionId = steveTransactionId →
        obj.aboutToSend = some false → obj.st.resolved = false → obj.st.pendingDeltaKwh = 0
  | _ => True

instance (id : ℕ) (w : World) (a : Action) : Decidable (DropsNothing id w a) := by
  unfold DropsNothing
  rcases a
  case flush i event => rcases event <;> infer_instance
  all_goals infer_instance

instance (id : ℕ) (w : World) (a : Action) : Decidable (NothingLost id w a) := by
  unfold NothingLost
  rcases a
  case flush i event =>
      rcases event
      case persistAnswered ok => rcases ok <;> infer_instance
      all_goals infer_instance
  all_goals infer_instance

/-! ## The invariant -/

/-- The meter value a flush will note as billed is at least what it has sent and at most what the
meter shows. -/
def BalancesAt (t : Tally) (first last : ℤ) : FlushPoint → Prop
  | .persisting args | .persisted args =>
      (first : ℚ) + 1000 * (t.total + args.flushKwh) ≤ args.meterValueToWh ∧
        args.meterValueToWh ≤ last
  | _ => True

/-- The books of an object, with a flush in flight or not. -/
structure TxObject.BalancesThroughout (obj : TxObject) : Prop where
  books : obj.Balances
  flight : ∀ flush, obj.flushing = some flush → ∀ first ∈ obj.tally.start, ∀ last ∈ obj.tally.last,
    BalancesAt obj.tally first last flush.point

/-- The invariant of runs in which the condition is met: the books of a record balance, unless it
cannot be billed any more. -/
def BalancedThroughout (steveTransactionId : ℕ) (w : World) : Prop :=
  ∀ (i : ℕ) (obj : TxObject), w.heap[i]? = some obj →
    obj.Regular ∧ obj.ContextInOrder ∧
      (obj.st.steveTransactionId = steveTransactionId → obj.BalancesThroughout ∨ obj.Unbillable)

lemma BalancesAt.of_not_sending {t : Tally} {first last : ℤ} {point : FlushPoint}
    (h : ¬point.Sending) : BalancesAt t first last point := by
  cases point with
  | posting | persisting | persisted => exact absurd trivial h
  | steveTransaction | userMapping | subscriptions | resolved => trivial

lemma BalancesAt.mono {t t' : Tally} {first last last' : ℤ} {point : FlushPoint}
    (htotal : t'.total = t.total) (hlast : last ≤ last') (h : BalancesAt t first last point) :
    BalancesAt t' first last' point := by
  cases point with
  | persisting args | persisted args => exact ⟨by rw [htotal]; exact h.1, h.2.trans hlast⟩
  | posting | steveTransaction | userMapping | subscriptions | resolved => trivial

lemma firstSample_balances (sample : MeterSample) (meterValueWh : ℤ) (now : ℕ) :
    (firstSample sample meterValueWh now).BalancesThroughout := by
  obtain ⟨htally, hflush, -⟩ := firstSample_eq sample meterValueWh now
  refine ⟨⟨meterValueWh, by rw [htally]; rfl, meterValueWh, by rw [htally]; rfl, ?_, ?_⟩, ?_⟩
  · rw [htally]
    simp
  · rw [htally]
    simp
  · intro flush hf
    rw [hflush] at hf
    simp at hf

section ObjectSteps

variable {id i : ℕ} {w : World} {a : Action} {obj obj' : TxObject}

/-- A flush that completes with just what it had sent pending leaves the books balanced. -/
lemma TxObject.BalancesThroughout.succeeded (hreg : obj.Regular) (hbal : obj.BalancesThroughout)
    {flush : Flush} {args : FlushPersistArgs} (hflush : obj.flushing = some flush)
    (hpoint : flush.point = .persisted args) (hpending : obj.tally.pending = args.flushKwh)
    (htally : obj'.tally =
      { obj.tally with lastBilled := args.meterValueToWh, total := args.newTotal, pending := 0 }) :
    obj'.Balances := by
  obtain ⟨first, hfirst, last, hlast, hsum, hbilled⟩ := hbal.books
  have hargs := hreg.flight flush hflush
  have hmeter := hbal.flight flush hflush first hfirst last hlast
  rw [hpoint] at hargs hmeter
  obtain ⟨-, -, -, htotal, -⟩ := hargs
  obtain ⟨hlow, hhigh⟩ := hmeter
  have hhigh' : (args.meterValueToWh : ℚ) ≤ last := by exact_mod_cast hhigh
  rw [hpending] at hsum
  refine ⟨first, by rw [htally]; exact hfirst, last, by rw [htally]; exact hlast, ?_, ?_⟩ <;>
    rw [htally]
  · simp only [htotal]
    linarith
  · simp only [htotal]
    linarith

/-- A flush that completes with more pending than it had sent does not. -/
lemma TxObject.BalancesThroughout.not_balances (hreg : obj.Regular) (hbal : obj.BalancesThroughout)
    {flush : Flush} {args : FlushPersistArgs} (hflush : obj.flushing = some flush)
    (hpoint : flush.point = .persisted args) (hpending : obj.tally.pending ≠ args.flushKwh)
    (htally : obj'.tally =
      { obj.tally with lastBilled := args.meterValueToWh, total := args.newTotal, pending := 0 }) :
    ¬obj'.Balances := by
  obtain ⟨first, hfirst, last, hlast, hsum, -⟩ := hbal.books
  have hargs := hreg.flight flush hflush
  rw [hpoint] at hargs
  obtain ⟨-, -, hle, htotal, -⟩ := hargs
  rintro ⟨first', hfirst', last', hlast', hsum', -⟩
  rw [htally] at hfirst' hlast' hsum'
  obtain rfl : first' = first := Option.mem_unique hfirst' hfirst
  obtain rfl : last' = last := Option.mem_unique hlast' hlast
  simp only [htotal, add_zero] at hsum'
  exact hpending (le_antisymm (by linarith) hle)

/-- A record that is resolved while its flush is not looking anything up can be billed, unless it
is unbillable for good. -/
lemma billable_of_not_unbillable (hun : ¬obj.Unbillable) (hresolved : obj.context.resolved = true)
    {flush : Flush} (hflush : obj.flushing = some flush) (hpoint : ¬flush.point.LookingUp) :
    obj.context.billable = true := by
  by_contra hno
  refine hun ⟨hresolved, by simpa using hno, fun flush' hf => ?_⟩
  obtain rfl := Option.some.inj (hflush.symm.trans hf)
  exact hpoint

/-- What a flush that is not billable drops is nothing, unless the record is unbillable for good. -/
lemma pending_of_dropped (hord : obj.ContextInOrder) (hun : ¬obj.Unbillable)
    (hobj : w.heap[i]? = some obj) (hid : obj.st.steveTransactionId = id) {flush : Flush}
    {billable : Bool} (hflush : obj.flushing = some flush)
    (hpoint : flush.point = .resolved billable)
    (hdrop : (billable && truthy obj.st.lagoSubscriptionExternalId) = false)
    (hdrops : DropsNothing id w (.flush i .resumes)) : obj.tally.pending = 0 := by
  cases hresolved : obj.st.resolved with
  | false =>
      exact hdrops obj hobj hid (by simp [TxObject.aboutToSend, hflush, hpoint, hdrop]) hresolved
  | true =>
      exfalso
      have hbillable :=
        billable_of_not_unbillable hun hresolved hflush (by rw [hpoint]; exact fun h => h)
      cases billable with
      | false =>
          have hin := hord.flight flush hflush
          rw [hpoint] at hin
          rw [hin rfl hresolved] at hbillable
          cases hbillable
      | true =>
          have hsub : truthy obj.st.lagoSubscriptionExternalId = false := by simpa using hdrop
          simp [BillingContext.billable, TxObject.context, hsub] at hbillable

/-- The invariant is kept by a step that meets the assumptions and the condition. -/
lemma TxObject.BalancesThroughout.step (hreg : obj.Regular) (hord : obj.ContextInOrder)
    (hbal : obj.BalancesThroughout) (hun : ¬obj.Unbillable)
    (hobj : w.heap[i]? = some obj) (hid : obj.st.steveTransactionId = id)
    (hrise : SamplesRise id w a) (hdrops : DropsNothing id w a) (hnothing : NothingLost id w a)
    (h : ObjectStep w i a obj obj') : obj'.BalancesThroughout := by
  obtain ⟨first, hfirst, last, hlast, hsum, hbilled⟩ := hbal.books
  cases h.tallyStep hreg.anchored with
  | idle htally hflush =>
      refine ⟨?_, fun flush hf => ?_⟩
      · unfold Balances
        rw [htally]
        exact hbal.books
      · rw [htally]
        rcases hflush with hsame | hnot
        · exact hbal.flight flush (hsame ▸ hf)
        · exact fun _ _ _ _ => BalancesAt.of_not_sending (hnot flush hf)
  | sampled ha hkwh hheld hid' hlast' hguard htally hflush =>
      next sample kwh last' =>
      obtain rfl : last' = last := Option.some.inj (hlast'.symm.trans hlast)
      subst ha
      have hle : last' ≤ meterWh kwh :=
        hrise (hid'.symm.trans hid) kwh hkwh obj (List.mem_of_getElem? hobj) hheld hid last' hlast
      refine ⟨⟨first, by rw [htally]; exact hfirst, meterWh kwh, by rw [htally]; rfl, ?_, ?_⟩,
        fun flush hf first' hfirst' last'' hlast'' => ?_⟩
      · rw [htally]
        simp only [Tally.add]
        split
        · linarith
        · next hnot =>
            rw [hsum, le_antisymm (not_lt.mp hnot) hle]
      · rw [htally]
        exact hbilled
      · rw [htally] at hfirst' hlast'' ⊢
        obtain rfl : meterWh kwh = last'' := Option.some.inj hlast''
        rcases hflush with hsame | hnot
        · exact (hbal.flight flush (hsame ▸ hf) first' hfirst' last' hlast).mono rfl hle
        · exact BalancesAt.of_not_sending (hnot flush hf)
  | sent ha hflush hpoint hsub htally hflush' =>
      refine ⟨?_, fun flush hf _ _ _ _ => ?_⟩
      · unfold Balances
        rw [htally]
        exact hbal.books
      · obtain rfl := Option.some.inj (hflush'.symm.trans hf)
        trivial
  | dropped ha hflush hpoint hdrop htally hflush' =>
      subst ha
      have hpending : obj.tally.pending = 0 :=
        pending_of_dropped hord hun hobj hid hflush hpoint hdrop hdrops
      have hsame : obj'.tally = obj.tally := by rw [htally, ← hpending]
      refine ⟨?_, fun flush' hf => ?_⟩
      · unfold Balances
        rw [hsame]
        exact hbal.books
      · rw [hflush'] at hf
        simp at hf
  | answered ha hflush hpoint hhas htally hflush' =>
      next flush post =>
      have hpost := hreg.flight flush hflush
      rw [hpoint] at hpost
      obtain ⟨-, -, hle, -, -⟩ := hpost
      refine ⟨?_, fun flush' hf first' hfirst' last' hlast' => ?_⟩
      · unfold Balances
        rw [htally]
        exact hbal.books
      · rw [htally] at hfirst' hlast' ⊢
        obtain rfl : first' = first := Option.mem_unique hfirst' hfirst
        obtain rfl : last' = last := Option.mem_unique hlast' hlast
        obtain rfl := Option.some.inj (hflush'.symm.trans hf)
        have hto : (obj.persistArgs post).meterValueToWh = last' := by
          rw [persistArgs, show obj.st.lastMeterValueWh = some last' from hlast]
          rfl
        refine ⟨?_, hto.le⟩
        rw [hto]
        simp only [persistArgs]
        linarith
  | committed ha hflush hpoint htally hflush' =>
      next flush args =>
      have hargs := hbal.flight flush hflush
      rw [hpoint] at hargs
      refine ⟨?_, fun flush' hf => ?_⟩
      · unfold Balances
        rw [htally]
        exact hbal.books
      · rw [htally]
        obtain rfl := Option.some.inj (hflush'.symm.trans hf)
        exact hargs
  | succeeded ha hflush hpoint htally hflush' =>
      next flush args =>
      subst ha
      have hbillable : obj.context.billable = true := by
        refine billable_of_not_unbillable hun ?_ hflush (by rw [hpoint]; exact fun h => h)
        exact (hord.flight flush hflush).of_sending (by rw [hpoint]; trivial)
      have hpending : obj.tally.pending = args.flushKwh :=
        hnothing obj hobj hid hbillable args.flushKwh (by simp [persistedKwh, hflush, hpoint])
      refine ⟨hbal.succeeded hreg hflush hpoint hpending htally, fun flush' hf => ?_⟩
      rw [hflush'] at hf
      simp at hf

end ObjectSteps

/-- The invariant is kept by every step that meets the assumptions and the condition. -/
theorem BalancedThroughout.step {id : ℕ} {w w' : World} {a : Action}
    (hinv : BalancedThroughout id w) (hrise : SamplesRise id w a) (hdrops : DropsNothing id w a)
    (hnothing : NothingLost id w a) (hstep : World.step w a = some w') :
    BalancedThroughout id w' := by
  refine World.forall_object_step hinv (fun sample kwh _ _ => ?_) ?_ hstep
  · exact ⟨firstSample_regular sample _ _, firstSample_contextInOrder sample _ _,
      fun _ => Or.inl (firstSample_balances sample _ _)⟩
  · rintro i obj obj' hobj ⟨hreg, hord, hbal⟩ h
    refine ⟨hreg.step h, hord.step h.contextStep, fun hid' => ?_⟩
    have hid : obj.st.steveTransactionId = id := by rw [← h.steveTransactionId, hid']
    by_cases hun : obj.Unbillable
    · exact Or.inr (hun.step h.contextStep)
    · exact Or.inl
        (((hbal hid).resolve_right hun).step hreg hord hun hobj hid hrise hdrops hnothing h)

/-! ## The result -/

/-- The invariant contains the property. -/
lemma BalancedThroughout.balanced {id : ℕ} {w : World} (h : BalancedThroughout id w) :
    Balanced id w := fun obj hobj hid hbillable _ => by
  obtain ⟨i, hi⟩ := List.mem_iff_getElem?.mp hobj
  rcases (h i obj hi).2.2 hid with hbal | hun
  · exact hbal.books
  · rw [hun.not_billable] at hbillable
    cases hbillable

/-- Along the invariant, a step that leads to balanced books meets the condition. -/
lemma nothingLost_of_balanced {id : ℕ} {w w' : World} {a : Action}
    (hinv : BalancedThroughout id w) (hstep : World.step w a = some w') (hbal : Balanced id w') :
    NothingLost id w a := by
  unfold NothingLost
  split
  · next i =>
      intro obj hobj hid hbillable flushKwh hkwh
      obtain ⟨flush, hflush, hargs⟩ := Option.bind_eq_some_iff.mp hkwh
      split at hargs
      · next args hpoint =>
          obtain rfl := Option.some.inj hargs
          by_contra hpending
          obtain ⟨held, hobj'⟩ := World.step_persistAnswered hobj hflush hpoint hstep
          obtain ⟨hreg, -, hthrough⟩ := hinv i obj hobj
          rcases hthrough hid with hthrough | hun
          · exact hthrough.not_balances hreg hflush hpoint hpending rfl
              (hbal _ (List.mem_of_getElem? hobj') hid hbillable rfl)
          · rw [hun.not_billable] at hbillable
            cases hbillable
      · simp at hargs
  · trivial

/-- 1 kWh is on its way to Lago when another 0.5 kWh are metered. -/
def Scenario.sampleInFlight : List Action :=
  [meter 7 0 false, .tick 60000, meter 7 1 false] ++ lookUps 0 7 ++
    [.flush 0 .resumes, .flush 0 .lagoReceives, meter 7 (3 / 2) false,
      .flush 0 (.postAnswered true), .flush 0 .commits, .flush 0 (.persistAnswered true)]

end ExpresSync
