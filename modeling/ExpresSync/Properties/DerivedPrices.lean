import ExpresSync.Properties.TierPricing
import Mathlib.Algebra.Order.Ring.Cast
import Mathlib.Order.Interval.Finset.Nat

/-!
# Plans and the tariffs that are derived from them

The ranges of a charge are inclusive, so a range after the first covers one unit more than the
difference of its ends, which is what the tier gets.  The tier at the place `i` ends `i` units
before its range does, and a volume charge is walked like a graduated one.  Both prices go by the
last rate less the steps of the rate, so what they differ by is told by the steps (`misplaced`), and
the cents are those of the charge where it is too small to reach the next half cent.
-/

namespace ExpresSync

open RateLadder

/-! ## Charges -/

/-- A range as it is read. -/
structure UnitRange where
  fromValue : ℕ
  toValue : Option ℕ
  rate : ℚ
deriving DecidableEq

/-- Each range begins after the one before it, and only the last is open. -/
def Contiguous : ℕ → List UnitRange → Prop
  | _, [] => False
  | start, u :: ranges =>
      u.fromValue = start ∧
        match u.toValue with
        | none => ranges = []
        | some toValue => start ≤ toValue ∧ Contiguous (toValue + 1) ranges

namespace UnitRange

def Contains (u : UnitRange) (n : ℕ) : Prop := u.fromValue ≤ n ∧ ∀ toValue ∈ u.toValue, n ≤ toValue

instance (u : UnitRange) (n : ℕ) : Decidable (u.Contains n) :=
  inferInstanceAs (Decidable (_ ∧ ∀ toValue ∈ u.toValue, n ≤ toValue))

end UnitRange

/-- The rate of the range that contains a unit. -/
def rateOfUnit (ranges : List UnitRange) (n : ℕ) : ℚ :=
  ((ranges.find? fun u => decide (u.Contains n)).map UnitRange.rate).getD 0

/-- The charge models with ranges. -/
inductive RangeModel where
  | graduated
  | volume
deriving DecidableEq

namespace RangeModel

def name : RangeModel → String
  | graduated => "graduated"
  | volume => "volume"

def rangesOf : RangeModel → PlanCharge → List PlanRange
  | graduated, charge => charge.graduatedRanges
  | volume, charge => charge.volumeRanges

/-- What the model charges for a number of units: graduated, each unit has the rate of its range;
volume, all have that of the last one. -/
def price (ranges : List UnitRange) (q : ℕ) : RangeModel → ℚ
  | graduated => ∑ n ∈ Finset.Icc 1 q, rateOfUnit ranges n
  | volume => q * rateOfUnit ranges q

/-- How many of the units have a rate from before the end of a range. -/
def unitsUpTo (toValue q : ℕ) : RangeModel → ℕ
  | graduated => min q toValue
  | volume => if q ≤ toValue then q else 0

end RangeModel

/-- The end of a range with the number of ranges before it, and the step of the rate there. -/
structure RangeEnd where
  toValue : ℕ
  before : ℕ
  rise : ℚ
deriving DecidableEq

def rangeEnds : ℕ → List UnitRange → List RangeEnd
  | before, u :: next :: ranges =>
      match u.toValue with
      | none => []
      | some toValue =>
          ⟨toValue, before, next.rate - u.rate⟩ :: rangeEnds (before + 1) (next :: ranges)
  | _, _ => []

def lastRangeRate : List UnitRange → ℚ
  | [] => 0
  | [u] => u.rate
  | _ :: next :: ranges => lastRangeRate (next :: ranges)

/-- By how much the tiers of a plan price a number of units too high. -/
def misplaced (model : RangeModel) (ranges : List UnitRange) (q : ℕ) : ℚ :=
  ((rangeEnds 0 ranges).map fun e =>
    e.rise * ((model.unitsUpTo e.toValue q : ℚ) - (min q (e.toValue - e.before) : ℕ))).sum

section

variable {start before n q : ℕ} {u : UnitRange} {ranges : List UnitRange}

lemma rangeEnds_cons {next : UnitRange} {toValue : ℕ} (h : u.toValue = some toValue) :
    rangeEnds before (u :: next :: ranges) =
      ⟨toValue, before, next.rate - u.rate⟩ :: rangeEnds (before + 1) (next :: ranges) := by
  rw [rangeEnds, h]

/-- A range that is not the last. -/
lemma Contiguous.cons_cons {next : UnitRange} (h : Contiguous start (u :: next :: ranges)) :
    ∃ toValue, u.fromValue = start ∧ u.toValue = some toValue ∧ start ≤ toValue ∧
      Contiguous (toValue + 1) (next :: ranges) := by
  obtain ⟨hfrom, hrest⟩ := h
  cases hto : u.toValue with
  | none =>
      rw [hto] at hrest
      cases hrest
  | some toValue =>
      rw [hto] at hrest
      exact ⟨toValue, hfrom, rfl, hrest⟩

lemma Contiguous.singleton (h : Contiguous start [u]) : u.fromValue = start ∧ u.toValue = none := by
  obtain ⟨hfrom, hrest⟩ := h
  cases hto : u.toValue with
  | none => exact ⟨hfrom, rfl⟩
  | some toValue =>
      rw [hto] at hrest
      exact hrest.2.elim

/-- From the last range to the first. -/
@[elab_as_elim]
theorem Contiguous.ranges_induction_on
    {motive : (start : ℕ) → (ranges : List UnitRange) → Contiguous start ranges → Prop}
    (h : Contiguous start ranges)
    (last : ∀ {u} (h : Contiguous u.fromValue [u]), u.toValue = none → motive u.fromValue [u] h)
    (more : ∀ {u next : UnitRange} {ranges toValue}
      (h : Contiguous u.fromValue (u :: next :: ranges))
      (hrest : Contiguous (toValue + 1) (next :: ranges)),
      u.toValue = some toValue → u.fromValue ≤ toValue →
        motive (toValue + 1) (next :: ranges) hrest →
          motive u.fromValue (u :: next :: ranges) h) : motive start ranges h := by
  induction ranges generalizing start with
  | nil => exact h.elim
  | cons u ranges ih =>
      cases ranges with
      | nil =>
          obtain ⟨rfl, hto⟩ := h.singleton
          exact last h hto
      | cons next ranges =>
          obtain ⟨toValue, rfl, hto, hle, hrest⟩ := h.cons_cons
          exact more h hrest hto hle (ih hrest)

/-- The ends of ranges come in order. -/
lemma le_of_mem_rangeEnds (h : Contiguous start ranges) {e : RangeEnd}
    (he : e ∈ rangeEnds before ranges) : start ≤ e.toValue := by
  induction h using Contiguous.ranges_induction_on generalizing before with
  | last => cases he
  | more _ _ hto hle ih =>
      rw [rangeEnds_cons hto] at he
      rcases List.mem_cons.mp he with rfl | hmem
      · exact hle
      · exact hle.trans ((Nat.le_succ _).trans (ih hmem))

lemma sum_rises (h : Contiguous start (u :: ranges)) :
    u.rate + ((rangeEnds before (u :: ranges)).map RangeEnd.rise).sum =
      lastRangeRate (u :: ranges) := by
  induction ranges generalizing u start before with
  | nil => exact add_zero _
  | cons next ranges ih =>
      obtain ⟨toValue, -, hto, -, hrest⟩ := h.cons_cons
      rw [rangeEnds_cons hto, List.map_cons, List.sum_cons, ← add_assoc, add_sub_cancel]
      exact ih hrest

/-- The rate of a unit goes by the last rate, less the steps that are still to come. -/
lemma rateOfUnit_eq (h : Contiguous start ranges) (hn : start ≤ n) :
    rateOfUnit ranges n = lastRangeRate ranges -
      ((rangeEnds before ranges).map fun e => if n ≤ e.toValue then e.rise else 0).sum := by
  induction h using Contiguous.ranges_induction_on generalizing before with
  | @last u h hto =>
      have hcontains : u.Contains n := by
        refine ⟨hn, fun toValue hmem => ?_⟩
        rw [hto] at hmem
        cases hmem
      rw [rateOfUnit, List.find?_cons_of_pos (by simpa using hcontains)]
      exact (sub_zero _).symm
  | @more u next ranges toValue h hrest hto hle ih =>
      by_cases hwithin : n ≤ toValue
      · have hcontains : u.Contains n := by
          refine ⟨hn, fun toValue' hmem => ?_⟩
          rw [hto] at hmem
          obtain rfl := Option.some.inj hmem
          exact hwithin
        -- all steps are still to come
        have hall : (rangeEnds before (u :: next :: ranges)).map
            (fun e => if n ≤ e.toValue then e.rise else 0) =
              (rangeEnds before (u :: next :: ranges)).map RangeEnd.rise := by
          refine List.map_congr_left fun e he => if_pos ?_
          rw [rangeEnds_cons hto] at he
          rcases List.mem_cons.mp he with rfl | hmem
          · exact hwithin
          · exact hwithin.trans ((Nat.le_succ _).trans (le_of_mem_rangeEnds hrest hmem))
        rw [rateOfUnit, List.find?_cons_of_pos (by simpa using hcontains), hall, ← sum_rises h]
        exact (add_sub_cancel_right _ _).symm
      · have hcontains : ¬u.Contains n := fun h => hwithin (h.2 toValue hto)
        rw [rateOfUnit, List.find?_cons_of_neg (by simpa using hcontains), rangeEnds_cons hto,
          List.map_cons, List.sum_cons, if_neg hwithin, zero_add]
        exact ih (Nat.succ_le_of_lt (not_le.mp hwithin))

/-! ### What a charge asks for -/

lemma sum_Icc_ite {toValue : ℕ} {rise : ℚ} :
    (∑ n ∈ Finset.Icc 1 q, if n ≤ toValue then rise else 0) = rise * (min q toValue : ℕ) := by
  have hfilter : (Finset.Icc 1 q).filter (fun n => n ≤ toValue) = Finset.Icc 1 (min q toValue) := by
    ext n
    simp only [Finset.mem_filter, Finset.mem_Icc, le_min_iff, and_assoc]
  rw [← Finset.sum_filter, hfilter, Finset.sum_const, Nat.card_Icc, Nat.add_sub_cancel,
    nsmul_eq_mul, mul_comm]

lemma sum_Icc_rises {ends : List RangeEnd} :
    (∑ n ∈ Finset.Icc 1 q, (ends.map fun e => if n ≤ e.toValue then e.rise else 0).sum) =
      (ends.map fun e => e.rise * ((min q e.toValue : ℕ) : ℚ)).sum := by
  induction ends with
  | nil => exact Finset.sum_const_zero
  | cons e ends ih =>
      simp only [List.map_cons, List.sum_cons]
      rw [Finset.sum_add_distrib, ih, sum_Icc_ite]

/-- The price of a charge goes by the last rate, less each step for the units before it. -/
lemma RangeModel.price_eq (h : Contiguous 0 ranges) (model : RangeModel) :
    model.price ranges q = lastRangeRate ranges * q -
      ((rangeEnds 0 ranges).map fun e => e.rise * (model.unitsUpTo e.toValue q : ℚ)).sum := by
  cases model with
  | graduated =>
      have hunit : ∀ n ∈ Finset.Icc 1 q, rateOfUnit ranges n = lastRangeRate ranges -
          ((rangeEnds 0 ranges).map fun e => if n ≤ e.toValue then e.rise else 0).sum :=
        fun n _ => rateOfUnit_eq h (Nat.zero_le n)
      show (∑ n ∈ Finset.Icc 1 q, rateOfUnit ranges n) = _
      rw [Finset.sum_congr rfl hunit, Finset.sum_sub_distrib, sum_Icc_rises, Finset.sum_const,
        Nat.card_Icc, Nat.add_sub_cancel, nsmul_eq_mul, mul_comm]
      rfl
  | volume =>
      have hstep : ∀ e ∈ rangeEnds 0 ranges, e.rise * (volume.unitsUpTo e.toValue q : ℚ) =
          (if q ≤ e.toValue then e.rise else 0) * q := by
        intro e _
        show e.rise * ((if q ≤ e.toValue then q else 0 : ℕ) : ℚ) = _
        split
        · rfl
        · rw [Nat.cast_zero, mul_zero, zero_mul]
      have hrate : rateOfUnit ranges q = lastRangeRate ranges -
          ((rangeEnds 0 ranges).map fun e => if q ≤ e.toValue then e.rise else 0).sum :=
        rateOfUnit_eq h (Nat.zero_le q)
      show (q : ℚ) * rateOfUnit ranges q = _
      rw [hrate, List.map_congr_left hstep,
        List.sum_map_mul_right]
      ring

end

/-! ## Tiers -/

/-- The band that a range becomes. -/
def UnitRange.band (u : UnitRange) : RateBand ℚ :=
  ⟨u.toValue.map fun toValue : ℕ => (toValue : ℚ) - u.fromValue, u.rate⟩

section

variable {start before q : ℕ} {u : UnitRange} {ranges : List UnitRange} {past : ℚ}

lemma UnitRange.band_size {toValue : ℕ} (h : u.toValue = some toValue) :
    u.band.size = some ((toValue : ℚ) - u.fromValue) := by
  rw [UnitRange.band, h]
  rfl

lemma Contiguous.le_toValue (h : Contiguous start ranges) (hu : u ∈ ranges) {toValue : ℕ}
    (hto : u.toValue = some toValue) : u.fromValue ≤ toValue := by
  induction h using Contiguous.ranges_induction_on with
  | last _ hnone =>
      obtain rfl := List.mem_singleton.mp hu
      rw [hnone] at hto
      cases hto
  | more _ _ hfirst hle ih =>
      rcases List.mem_cons.mp hu with rfl | hmem
      · rw [hfirst] at hto
        obtain rfl := Option.some.inj hto
        exact hle
      · exact ih hmem

lemma Contiguous.sized (h : Contiguous start ranges) : Sized (ranges.map UnitRange.band) := by
  intro band hband size hsize
  obtain ⟨u, hu, rfl⟩ := List.mem_map.mp hband
  obtain ⟨toValue, hto, rfl⟩ := Option.map_eq_some_iff.mp hsize
  exact sub_nonneg.mpr (Nat.cast_le.mpr (h.le_toValue hu hto))

lemma Contiguous.endsOpen (h : Contiguous start ranges) :
    EndsOpen (ranges.map UnitRange.band) := by
  induction h using Contiguous.ranges_induction_on with
  | @last u _ hto =>
      show u.band.size = none
      rw [UnitRange.band, hto]
      rfl
  | more _ _ hto _ ih => exact ⟨Option.isSome_iff_exists.mpr ⟨_, UnitRange.band_size hto⟩, ih⟩

lemma lastRate_bands : lastRate (ranges.map UnitRange.band) = lastRangeRate ranges := by
  induction ranges with
  | nil => rfl
  | cons u ranges ih =>
      cases ranges with
      | nil => rfl
      | cons next ranges => exact ih

/-- Each band ends as many units too early as there are ranges before its own. -/
lemma steps_bands (h : Contiguous start ranges) :
    steps ((start : ℚ) - before) (ranges.map UnitRange.band) =
      (rangeEnds before ranges).map fun e => ((e.toValue : ℚ) - e.before, e.rise) := by
  induction h using Contiguous.ranges_induction_on generalizing before with
  | last => rfl
  | @more u next ranges toValue _ _ hto _ ih =>
      have hend : (u.fromValue : ℚ) - before + (toValue - u.fromValue) = toValue - before := by ring
      have hnext : ((toValue + 1 : ℕ) : ℚ) - (before + 1 : ℕ) = toValue - before := by
        push_cast
        ring
      have hsteps : steps (((toValue + 1 : ℕ) : ℚ) - (before + 1 : ℕ))
          ((next :: ranges).map UnitRange.band) =
          (rangeEnds (before + 1) (next :: ranges)).map fun e =>
            ((e.toValue : ℚ) - e.before, e.rise) := ih
      rw [hnext] at hsteps
      rw [rangeEnds_cons hto, List.map_cons, List.map_cons, List.map_cons,
        steps_cons (UnitRange.band_size hto), hend, ← List.map_cons, hsteps]
      rfl

lemma before_le_of_mem_rangeEnds (h : Contiguous start ranges) (hbefore : before ≤ start)
    {e : RangeEnd} (he : e ∈ rangeEnds before ranges) : e.before ≤ e.toValue := by
  induction h using Contiguous.ranges_induction_on generalizing before with
  | last => cases he
  | more _ _ hto hle ih =>
      rw [rangeEnds_cons hto] at he
      rcases List.mem_cons.mp he with rfl | hmem
      · exact hbefore.trans hle
      · exact ih (Nat.succ_le_succ (hbefore.trans hle)) hmem

/-- What the tiers ask for, against the charge. -/
lemma priceTo_bands (h : Contiguous 0 ranges) (model : RangeModel) :
    priceTo past 0 (ranges.map UnitRange.band) q =
      model.price ranges q + misplaced model ranges q := by
  have hsteps : steps (((0 : ℕ) : ℚ) - (0 : ℕ)) (ranges.map UnitRange.band) =
      (rangeEnds 0 ranges).map fun e => ((e.toValue : ℚ) - e.before, e.rise) := steps_bands h
  rw [Nat.cast_zero, sub_zero] at hsteps
  have hmin : ∀ e ∈ rangeEnds 0 ranges,
      e.rise * (min (q : ℚ) (e.toValue - e.before) - 0) =
        e.rise * ((min q (e.toValue - e.before) : ℕ) : ℚ) := by
    intro e he
    rw [sub_zero, Nat.cast_min, Nat.cast_sub (before_le_of_mem_rangeEnds h le_rfl he)]
  have hsplit : ∀ e ∈ rangeEnds 0 ranges,
      e.rise * ((model.unitsUpTo e.toValue q : ℚ) - (min q (e.toValue - e.before) : ℕ)) =
        e.rise * (model.unitsUpTo e.toValue q : ℚ) +
          e.rise * ((min q (e.toValue - e.before) : ℕ) : ℚ) * (-1) := by
    intro e _
    ring
  rw [priceTo_eq_sum h.sized h.endsOpen (Nat.cast_nonneg q), lastRate_bands, hsteps, List.map_map,
    model.price_eq h, misplaced, List.map_congr_left hsplit, List.sum_map_add,
    List.sum_map_mul_right]
  have hcomp : (rangeEnds 0 ranges).map
      ((fun step : ℚ × ℚ => step.2 * (min (q : ℚ) step.1 - 0)) ∘
        fun e => ((e.toValue : ℚ) - e.before, e.rise)) =
      (rangeEnds 0 ranges).map fun e => e.rise * ((min q (e.toValue - e.before) : ℕ) : ℚ) :=
    List.map_congr_left hmin
  rw [hcomp]
  ring

end

/-! ## Plans -/

section

variable (texts : NumberTexts)

/-- A field that holds a number, or the text of one. -/
def PlanValue.Reads (v : PlanValue) (x : ℚ) : Prop := v.toNumber texts .nan = .fin x

structure PlanRange.Reads (r : PlanRange) (u : UnitRange) : Prop where
  fromValue : r.fromValue.Reads texts u.fromValue
  toValue : match u.toValue with
    | none => r.toValue = .missing
    | some toValue => r.toValue.Reads texts toValue
  perUnitAmount : r.perUnitAmount.Reads texts u.rate
  flatAmount : r.flatAmount = .missing ∨ r.flatAmount.Reads texts 0

/-- A plan with one usage charge. -/
structure RangedPlan (model : RangeModel) (plan : LagoPlan) (ranges : List UnitRange) : Prop where
  charge : ∃ charge, plan.charges = [charge] ∧ charge.chargeModel = some model.name ∧
    List.Forall₂ (PlanRange.Reads texts) (model.rangesOf charge) ranges
  contiguous : Contiguous 0 ranges
  rate : ∀ u ∈ ranges, 0 ≤ u.rate

/-- Lago answers with the plan of the customer. -/
structure PlanFound (externalCustomerId : Option String) (getSubscriptions : SubscriptionsAnswer)
    (getPlan : String → Except String LagoPlan) (plan : LagoPlan) : Prop where
  customer : externalCustomerId.getD "" ≠ ""
  subscription : ∃ subscriptions active, getSubscriptions = .ok subscriptions ∧
    subscriptions.find? (fun s => s.status = .active) = some active ∧ active.planCode ≠ "" ∧
    getPlan active.planCode = .ok plan

variable {texts} {model : RangeModel} {plan : LagoPlan} {ranges : List UnitRange} {q : ℕ}

lemma PlanValue.Reads.toNumber {v : PlanValue} {x : ℚ} (h : v.Reads texts x) (fallback : JsNumber) :
    v.toNumber texts fallback = .fin x := by
  cases v with
  | number value => exact h
  | string text => exact h
  | missing => cases h
  | other => cases h

lemma PlanValue.Reads.orElse {v w : PlanValue} {x : ℚ} (h : v.Reads texts x) : v.orElse w = v := by
  cases v with
  | missing => cases h
  | number value => rfl
  | string text => rfl
  | other => rfl

/-- A range becomes its band. -/
lemma PlanRange.Reads.band_tier {r : PlanRange} {u : UnitRange} (h : r.Reads texts u)
    (currencySymbol : String) : (r.tier texts currencySymbol).band = u.band := by
  have hrate : r.perUnit texts = .fin u.rate := by
    rw [PlanRange.perUnit, h.perUnitAmount.orElse, h.perUnitAmount.orElse]
    exact h.perUnitAmount.toNumber _
  have hupTo : r.upTo texts = u.band.size := by
    have hto := h.toValue
    rw [PlanRange.upTo, h.fromValue.toNumber, UnitRange.band]
    cases hvalue : u.toValue with
    | none =>
        rw [hvalue] at hto
        replace hto : r.toValue = .missing := hto
        rw [hto]
        rfl
    | some toValue =>
        rw [hvalue] at hto
        replace hto : r.toValue.Reads texts toValue := hto
        rw [hto.toNumber]
        rfl
  rw [PlanTier.band, PlanRange.tier, hrate, hupTo]
  rfl

lemma bands_tiers {planRanges : List PlanRange}
    (h : List.Forall₂ (PlanRange.Reads texts) planRanges ranges) (currencySymbol : String) :
    (planRanges.map fun r => r.tier texts currencySymbol).map PlanTier.band =
      ranges.map UnitRange.band := by
  induction h with
  | nil => rfl
  | cons hread _ ih =>
      simp only [List.map_cons]
      rw [hread.band_tier, ih]

lemma addCharge_ranged {info : PlanInfo} {charge : PlanCharge}
    (h : charge.chargeModel = some model.name) :
    info.addCharge texts charge =
      { info with
        tiers := info.tiers ++
          (model.rangesOf charge).map fun r => r.tier texts info.currencySymbol } := by
  unfold PlanInfo.addCharge
  rw [h]
  cases model with
  | graduated => rfl
  | volume => rfl

lemma resolveCustomerTariff_eq (texts : NumberTexts) {externalCustomerId : Option String}
    {getSubscriptions : SubscriptionsAnswer} {getPlan : String → Except String LagoPlan}
    (h : PlanFound externalCustomerId getSubscriptions getPlan plan) :
    ∃ currency symbol,
      resolveCustomerTariff texts externalCustomerId getSubscriptions getPlan =
        ⟨(derivePlanInfo texts plan 0 symbol).perKwhCharge,
          (derivePlanInfo texts plan 0 symbol).tiers, currency, symbol⟩ := by
  obtain ⟨hcustomer, subscriptions, active, hsubscriptions, hactive, hcode, hplan⟩ := h
  refine ⟨plan.amountCurrency.getD "EUR",
    currencySymbolFor texts (plan.amountCurrency.getD "EUR"), ?_⟩
  unfold resolveCustomerTariff
  rw [if_neg hcustomer, hsubscriptions]
  dsimp only
  rw [hactive]
  dsimp only
  rw [if_neg hcode, hplan]

/-- The tariff of a plan has the bands of its ranges, and no rate past them. -/
lemma RangedPlan.bands (h : RangedPlan texts model plan ranges) {externalCustomerId : Option String}
    {getSubscriptions : SubscriptionsAnswer} {getPlan : String → Except String LagoPlan}
    (hfound : PlanFound externalCustomerId getSubscriptions getPlan plan) :
    (resolveCustomerTariff texts externalCustomerId getSubscriptions getPlan).bands =
        ranges.map UnitRange.band ∧
      (resolveCustomerTariff texts externalCustomerId getSubscriptions getPlan).perKwh = none := by
  obtain ⟨charge, hcharges, hmodel, hreads⟩ := h.charge
  obtain ⟨currency, symbol, htariff⟩ := resolveCustomerTariff_eq texts hfound
  rw [htariff, derivePlanInfo, hcharges]
  dsimp only
  rw [List.foldl_cons, addCharge_ranged hmodel, List.foldl_nil]
  exact ⟨bands_tiers hreads symbol, rfl⟩

/-- Bands that come from ranges are not negative. -/
lemma CustomerTariff.nonNegative_of_bands {tariff : CustomerTariff}
    (hbands : tariff.bands = ranges.map UnitRange.band) (hperKwh : tariff.perKwh = none)
    (h : Contiguous 0 ranges) (hrate : ∀ u ∈ ranges, 0 ≤ u.rate) : tariff.NonNegative where
  size := by
    intro t ht size hsize
    have hmem : t.band ∈ ranges.map UnitRange.band := hbands ▸ List.mem_map_of_mem ht
    exact h.sized t.band hmem size hsize
  rate := by
    intro t ht rate hrateOf
    have hmem : t.band ∈ ranges.map UnitRange.band := hbands ▸ List.mem_map_of_mem ht
    obtain ⟨u, hu, hband⟩ := List.mem_map.mp hmem
    have heq : u.rate = rate := by
      rw [show u.rate = t.band.rate from congrArg RateBand.rate hband, PlanTier.band, hrateOf]
      rfl
    exact heq ▸ hrate u hu
  perKwh := by
    intro rate hsome
    rw [hperKwh] at hsome
    cases hsome

/-- The cents of the first kWh. -/
lemma RangedPlan.cents_eq (h : RangedPlan texts model plan ranges)
    {externalCustomerId : Option String} {getSubscriptions : SubscriptionsAnswer}
    {getPlan : String → Except String LagoPlan}
    (hfound : PlanFound externalCustomerId getSubscriptions getPlan plan) :
    (costCentsForRange (resolveCustomerTariff texts externalCustomerId getSubscriptions getPlan) 0
        (.fin q)).cents =
      some (mathRound (100 * model.price ranges q + 100 * misplaced model ranges q)) := by
  obtain ⟨hbands, hperKwh⟩ := h.bands hfound
  set tariff := resolveCustomerTariff texts externalCustomerId getSubscriptions getPlan
  have hladder : ∀ x, tariff.ladderPrice x =
      priceTo tariff.past 0 (ranges.map UnitRange.band) x := fun x => by
    rw [CustomerTariff.ladderPrice, hbands]
  have hfree : tariff.ladderPrice 0 = 0 := by
    rw [hladder]
    exact priceTo_of_le h.contiguous.sized le_rfl
  have hprice : tariff.ladderPrice q = model.price ranges q + misplaced model ranges q := by
    rw [hladder]
    exact priceTo_bands h.contiguous model
  rcases q.eq_zero_or_pos with rfl | hpos
  · rw [Nat.cast_zero, hfree] at hprice
    rw [← mul_add, ← hprice, mul_zero]
    exact congrArg some (mathRound_intCast 0).symm
  · have htiers : tariff.tiers ≠ [] := by
      intro hnil
      have hempty : ranges.map UnitRange.band = [] := by
        rw [← hbands, CustomerTariff.bands, hnil]
        rfl
      rw [List.map_eq_nil_iff] at hempty
      exact (hempty ▸ h.contiguous).elim
    have hrates := CustomerTariff.nonNegative_of_bands hbands hperKwh h.contiguous h.rate
    have hcents := (tariff.costCentsForRange_eq hrates htiers le_rfl (Nat.cast_pos.mpr hpos)).1
    rwa [zero_add, hfree, sub_zero, hprice, mul_comm, mul_add] at hcents

/-! ## Cents -/

/-- What rounding has taken from the price makes up for what is misplaced. -/
def KeepsCent (model : RangeModel) (ranges : List UnitRange) (q : ℕ) : Prop :=
  -(1 / 2) ≤ 100 * model.price ranges q - mathRound (100 * model.price ranges q) +
      100 * misplaced model ranges q ∧
    100 * model.price ranges q - mathRound (100 * model.price ranges q) +
      100 * misplaced model ranges q < 1 / 2

/-- The cents are those of the charge just where what is misplaced does not reach another cent. -/
theorem cents_eq_price_iff (h : RangedPlan texts model plan ranges)
    {externalCustomerId : Option String} {getSubscriptions : SubscriptionsAnswer}
    {getPlan : String → Except String LagoPlan}
    (hfound : PlanFound externalCustomerId getSubscriptions getPlan plan) (q : ℕ) :
    (costCentsForRange (resolveCustomerTariff texts externalCustomerId getSubscriptions getPlan) 0
        (.fin q)).cents = some (mathRound (100 * model.price ranges q)) ↔
      KeepsCent model ranges q := by
  rw [h.cents_eq hfound, Option.some_inj]
  generalize hcents : mathRound (100 * model.price ranges q) = cents
  rw [KeepsCent, hcents, mathRound, Int.floor_eq_iff]
  constructor
  · rintro ⟨hlo, hhi⟩
    constructor <;> linarith
  · rintro ⟨hlo, hhi⟩
    constructor <;> linarith

/-- Nothing is misplaced where each step of the rate comes after as many units as in the tiers. -/
lemma misplaced_eq_zero (h : ∀ e ∈ rangeEnds 0 ranges,
    e.rise = 0 ∨ model.unitsUpTo e.toValue q = min q (e.toValue - e.before)) :
    misplaced model ranges q = 0 := by
  have hzero : ∀ e ∈ rangeEnds 0 ranges, e.rise *
      ((model.unitsUpTo e.toValue q : ℚ) - ((min q (e.toValue - e.before) : ℕ) : ℚ)) = 0 := by
    intro e he
    rcases h e he with hrise | hunits
    · rw [hrise, zero_mul]
    · rw [hunits, sub_self, mul_zero]
  rw [misplaced, List.map_congr_left hzero, List.map_const', List.sum_replicate, smul_zero]

theorem keepsCent_of_misplaced_eq_zero (h : misplaced model ranges q = 0) :
    KeepsCent model ranges q := by
  have hround := abs_le.mp (abs_mathRound_sub_le (100 * model.price ranges q))
  have hhi : 100 * model.price ranges q + 1 / 2 <
      (mathRound (100 * model.price ranges q) : ℚ) + 1 := Int.lt_floor_add_one _
  rw [KeepsCent, h, mul_zero, add_zero]
  constructor <;> linarith [hround.2]

/-- A graduated charge is kept before the last unit of its second range. -/
theorem keepsCent_graduated (h : ∀ e ∈ rangeEnds 0 ranges, e.before = 0 ∨
    q + e.before ≤ e.toValue) :
    KeepsCent .graduated ranges q := by
  refine keepsCent_of_misplaced_eq_zero (misplaced_eq_zero fun e he => Or.inr ?_)
  show min q e.toValue = min q (e.toValue - e.before)
  rcases h e he with hfirst | hearly
  · rw [hfirst, Nat.sub_zero]
  · omega

end

/-! ## Three ranges -/

/-- Ten kWh for 10 cents each, ten for 20, and 50 from then on. -/
def threeRanges : List UnitRange := [⟨0, some 10, 1 / 10⟩, ⟨11, some 20, 1 / 5⟩, ⟨21, none, 1 / 2⟩]

def centTexts : NumberTexts where
  parseFloat
    | "0.10" => .fin (1 / 10)
    | "0.20" => .fin (1 / 5)
    | "0.50" => .fin (1 / 2)
    | _ => .nan
  toLocaleString x :=
    if x = .fin (1 / 10) then "0.10" else if x = .fin (1 / 5) then "0.20" else "0.50"
  toUpperCase code := code

def threeRangePlan : LagoPlan where
  name := .string "Home"
  code := .string "home"
  amountCents := .number 0
  amountCurrency := some "EUR"
  charges := [{
    chargeModel := some "graduated"
    amount := .missing
    graduatedRanges := [
      ⟨.number 0, .number 10, .string "0.10", .missing⟩,
      ⟨.number 11, .number 20, .string "0.20", .missing⟩,
      ⟨.number 21, .missing, .string "0.50", .missing⟩]
    volumeRanges := []
    perPackageSize := .missing }]

def homeSubscriptions : SubscriptionsAnswer := .ok [⟨"sub_1", "home", .active⟩]

lemma rangedPlan_threeRangePlan : RangedPlan centTexts .graduated threeRangePlan threeRanges where
  charge := by
    refine ⟨_, rfl, rfl, ?_⟩
    have hreads : ∀ {r : PlanRange} {u : UnitRange}, r.fromValue.Reads centTexts u.fromValue →
        (match u.toValue with
          | none => r.toValue = .missing
          | some toValue => r.toValue.Reads centTexts toValue) →
        r.perUnitAmount.Reads centTexts u.rate → r.flatAmount = .missing →
        r.Reads centTexts u := fun hfrom hto hrate hflat => ⟨hfrom, hto, hrate, Or.inl hflat⟩
    refine .cons (hreads rfl rfl rfl rfl) (.cons (hreads rfl rfl rfl rfl)
      (.cons (hreads rfl rfl rfl rfl) .nil))
  contiguous := ⟨rfl, by decide, rfl, by decide, rfl, rfl⟩
  rate := by decide +kernel

lemma planFound_threeRangePlan :
    PlanFound (some "cust_1") homeSubscriptions (fun _ => .ok threeRangePlan) threeRangePlan where
  customer := by decide
  subscription := ⟨_, _, rfl, rfl, by decide, rfl⟩

/-- 19 kWh are charged as they should be. -/
theorem cents_eq_price_nineteen :
    (costCentsForRange (resolveCustomerTariff centTexts (some "cust_1") homeSubscriptions
        fun _ => .ok threeRangePlan) 0 (.fin (19 : ℕ))).cents =
      some (mathRound (100 * RangeModel.graduated.price threeRanges 19)) :=
  (cents_eq_price_iff rangedPlan_threeRangePlan planFound_threeRangePlan 19).mpr
    (keepsCent_graduated (by decide))

/-- 30 kWh are 8 euros, and come to 8.30. -/
theorem not_cents_eq_price_thirty : ¬∀ (texts : NumberTexts) (model : RangeModel) (plan : LagoPlan)
    (ranges : List UnitRange) (externalCustomerId : Option String)
    (getSubscriptions : SubscriptionsAnswer) (getPlan : String → Except String LagoPlan) (q : ℕ),
    RangedPlan texts model plan ranges →
    PlanFound externalCustomerId getSubscriptions getPlan plan →
    ∃ cents, (costCentsForRange (resolveCustomerTariff texts externalCustomerId getSubscriptions
        getPlan) 0 (.fin q)).cents = some cents ∧
      |(cents : ℚ) - 100 * model.price ranges q| ≤ 1 := by
  intro hall
  obtain ⟨cents, hcents, hclose⟩ := hall centTexts .graduated threeRangePlan threeRanges
    (some "cust_1") homeSubscriptions (fun _ => .ok threeRangePlan) 30 rangedPlan_threeRangePlan
    planFound_threeRangePlan
  have hcode : (costCentsForRange (resolveCustomerTariff centTexts (some "cust_1") homeSubscriptions
      fun _ => .ok threeRangePlan) 0 (.fin (30 : ℕ))).cents = some 830 := by decide +kernel
  have hprice : RangeModel.graduated.price threeRanges 30 = 8 := by decide +kernel
  rw [hcode] at hcents
  obtain rfl := Option.some.inj hcents
  rw [hprice] at hclose
  exact absurd hclose (by norm_num)

end ExpresSync
