import ExpresSync.Foundation.RateLadder
import ExpresSync.Model.CustomerTariffs
import Mathlib.Algebra.BigOperators.Group.List.Basic

/-!
# Prices of tiers over a billing period

The walk over the tiers from a position on costs the difference of two prices of the ladder, and
meets a positive rate just where the ladder has one.  The ranges of the events follow one another in
the order of the sorted rows, so their costs add up to the price of the whole.
-/

namespace ExpresSync

open RateLadder

/-! ## The walk -/

def PlanTier.band (t : PlanTier) : RateBand ℚ := ⟨t.upToKwh, t.pricePerKwh.getD 0⟩

namespace CustomerTariff

variable (tariff : CustomerTariff)

def bands : List (RateBand ℚ) := tariff.tiers.map PlanTier.band

/-- The rate past the last tier. -/
def past : ℚ := tariff.perKwh.getD 0

/-- The price of `[0, x)`. -/
def ladderPrice (x : ℚ) : ℚ := priceTo tariff.past 0 tariff.bands x

/-- The rate of the tier at `x`, or past the last one. -/
def ladderRate (x : ℚ) : ℚ := rateAt tariff.past 0 tariff.bands x

/-- The sizes of the bands and the rates are not negative. -/
structure NonNegative : Prop where
  size : ∀ t ∈ tariff.tiers, ∀ size, t.upToKwh = some size → 0 ≤ size
  rate : ∀ t ∈ tariff.tiers, ∀ rate, t.pricePerKwh = some rate → 0 ≤ rate
  perKwh : ∀ rate, tariff.perKwh = some rate → 0 ≤ rate

end CustomerTariff

section

variable {perKwh : Option ℚ} {finish cursor : ℚ} {tiers : List PlanTier} {walk : CostWalk}

/-- What the walk is to end with: the price and the rates of the rest. -/
structure Walked (past : ℚ) (finish cursor : ℚ) (tiers : List PlanTier) (walk walk' : CostWalk) :
    Prop where
  cost : walk'.cost = walk.cost + (priceTo past cursor (tiers.map PlanTier.band) finish -
    priceTo past cursor (tiers.map PlanTier.band) walk.position)
  paid : walk'.anyPaidOverlap = true ↔ walk.anyPaidOverlap = true ∨
    ∃ x, walk.position ≤ x ∧ x < finish ∧ 0 < rateAt past cursor (tiers.map PlanTier.band) x

lemma payRemainder_of_le (h : finish ≤ walk.position) :
    walk.payRemainder finish perKwh = walk := by
  unfold CostWalk.payRemainder
  split
  · rfl
  · rw [if_neg (not_lt.mpr h)]

lemma walked_nil (hcursor : cursor ≤ walk.position) (hfinish : walk.position ≤ finish) :
    Walked (perKwh.getD 0) finish cursor [] walk (walk.payRemainder finish perKwh) := by
  have hprice : priceTo (perKwh.getD 0) cursor [] finish -
      priceTo (perKwh.getD 0) cursor [] walk.position =
        (finish - walk.position) * perKwh.getD 0 := by
    rw [priceTo, priceTo, max_eq_right (sub_nonneg.mpr hcursor),
      max_eq_right (sub_nonneg.mpr (hcursor.trans hfinish))]
    ring
  rcases hfinish.eq_or_lt with heq | hlt
  · rw [payRemainder_of_le heq.ge]
    refine ⟨by rw [List.map_nil, hprice, heq]; ring, ?_⟩
    refine (or_iff_left ?_).symm
    rintro ⟨x, hx, hfin, -⟩
    linarith
  · cases perKwh with
    | none =>
        refine ⟨?_, (or_iff_left ?_).symm⟩
        · rw [List.map_nil, hprice]
          show walk.cost = walk.cost + (finish - walk.position) * 0
          ring
        · rintro ⟨x, -, -, hpaid⟩
          exact lt_irrefl (0 : ℚ) hpaid
    | some rate =>
        unfold CostWalk.payRemainder
        dsimp only
        rw [if_pos hlt]
        refine ⟨by rw [List.map_nil, hprice]; rfl, ?_⟩
        rw [Bool.or_eq_true, decide_eq_true_eq, or_comm]
        refine or_congr_right ⟨fun hrate => ⟨walk.position, le_rfl, hlt, hrate⟩, ?_⟩
        rintro ⟨x, -, -, hpaid⟩
        exact hpaid

/-- A tier that is met takes what lies between the position and its end. -/
lemma take_eq {tierStart overlapEnd rate : ℚ} (hstart : tierStart ≤ walk.position)
    (hend : walk.position < overlapEnd) :
    walk.take tierStart overlapEnd rate =
      ⟨walk.cost + (overlapEnd - walk.position) * rate, overlapEnd,
        walk.anyPaidOverlap || decide (0 < rate)⟩ := by
  unfold CostWalk.take
  have hoverlap : 0 < overlapEnd - walk.position := sub_pos.mpr hend
  rw [max_eq_left hstart]
  dsimp only
  rw [max_eq_right hoverlap.le, decide_eq_true hoverlap, Bool.true_and]

/-- A tier that takes all there is left. -/
lemma walked_take_all {past rate : ℚ} (hcursor : cursor ≤ walk.position)
    (hfinish : walk.position < finish)
    (hprice : ∀ x, cursor ≤ x → x ≤ finish →
      priceTo past cursor (tiers.map PlanTier.band) x = rate * (x - cursor))
    (hrate : ∀ x, x < finish → rateAt past cursor (tiers.map PlanTier.band) x = rate) :
    Walked past finish cursor tiers walk (walk.take cursor finish rate) := by
  rw [take_eq hcursor hfinish]
  constructor
  · rw [hprice finish (hcursor.trans hfinish.le) le_rfl, hprice walk.position hcursor hfinish.le]
    ring
  · rw [Bool.or_eq_true, decide_eq_true_eq]
    refine or_congr_right ⟨fun hpos => ⟨walk.position, le_rfl, hfinish, ?_⟩, ?_⟩
    · rw [hrate _ hfinish]
      exact hpos
    · rintro ⟨x, -, hx, hpos⟩
      rwa [hrate x hx] at hpos

section

variable {t : PlanTier} {size past : ℚ} {walk' : CostWalk}

/-- A tier that is taken up to its end, where the rest of the walk starts. -/
lemma Walked.of_met (hsized : Sized ((t :: tiers).map PlanTier.band))
    (hband : t.band.size = some size) (hcursor : cursor ≤ walk.position)
    (hmet : walk.position < cursor + size) (hmore : cursor + size < finish)
    (h : Walked past finish (cursor + size) tiers
      (walk.take cursor (cursor + size) (t.pricePerKwh.getD 0)) walk') :
    Walked past finish cursor (t :: tiers) walk walk' := by
  rw [List.map_cons] at hsized
  rw [take_eq hcursor hmet] at h
  obtain ⟨hcost, hpaid⟩ := h
  constructor
  · rw [hcost, List.map_cons, priceTo_beyond hsized hband hmore.le,
      priceTo_within hsized hband hcursor hmet.le, priceTo_of_le hsized.tail le_rfl]
    show _ + (_ - 0) = _ + (t.pricePerKwh.getD 0 * size + _ -
      t.pricePerKwh.getD 0 * (walk.position - cursor))
    ring
  · rw [hpaid, Bool.or_eq_true, decide_eq_true_eq, or_assoc, List.map_cons]
    refine or_congr_right ⟨?_, ?_⟩
    · rintro (hrate | ⟨x, hx, hxf, hrate⟩)
      · refine ⟨walk.position, le_rfl, hmet.trans hmore, ?_⟩
        rw [rateAt_before hband hmet]
        exact hrate
      · refine ⟨x, hmet.le.trans hx, hxf, ?_⟩
        rw [rateAt_after hband hx]
        exact hrate
    · rintro ⟨x, hx, hxf, hrate⟩
      rcases lt_or_ge x (cursor + size) with hbefore | hafter
      · rw [rateAt_before hband hbefore] at hrate
        exact Or.inl hrate
      · rw [rateAt_after hband hafter] at hrate
        exact Or.inr ⟨x, hafter, hxf, hrate⟩

/-- A tier that ends before the position. -/
lemma Walked.of_passed (hsized : Sized ((t :: tiers).map PlanTier.band))
    (hband : t.band.size = some size) (hpassed : cursor + size ≤ walk.position)
    (hfinish : walk.position < finish) (h : Walked past finish (cursor + size) tiers walk walk') :
    Walked past finish cursor (t :: tiers) walk walk' := by
  rw [List.map_cons] at hsized
  obtain ⟨hcost, hpaid⟩ := h
  constructor
  · rw [hcost, List.map_cons, priceTo_beyond hsized hband hpassed,
      priceTo_beyond hsized hband (hpassed.trans hfinish.le), add_sub_add_left_eq_sub]
  · rw [hpaid, List.map_cons]
    refine or_congr_right (exists_congr fun x => and_congr_right fun hx => ?_)
    rw [rateAt_after hband (hpassed.trans hx)]

end

/-- The walk from a position on, with the remainder past the last tier. -/
lemma walked_walkTiers (hsized : Sized (tiers.map PlanTier.band)) (hcursor : cursor ≤ walk.position)
    (hfinish : walk.position < finish) :
    Walked (perKwh.getD 0) finish cursor tiers walk
      ((walkTiers finish tiers cursor walk).payRemainder finish perKwh) := by
  induction tiers generalizing cursor walk with
  | nil => exact walked_nil hcursor hfinish.le
  | cons t tiers ih =>
      rw [List.map_cons] at hsized
      have hstops : ∀ {overlapEnd rate : ℚ}, finish ≤ overlapEnd →
          (walk.take cursor overlapEnd rate).payRemainder finish perKwh =
            walk.take cursor overlapEnd rate := fun hend => payRemainder_of_le hend
      unfold walkTiers
      cases hsize : t.upToKwh with
      | none =>
          dsimp only
          rw [hstops le_rfl]
          refine walked_take_all hcursor hfinish (fun x hx _ => ?_) fun x _ => ?_
          · rw [List.map_cons, priceTo_open hsize, max_eq_right (sub_nonneg.mpr hx)]
            rfl
          · rw [List.map_cons, rateAt_open hsize]
            rfl
      | some size =>
          have hband : t.band.size = some size := hsize
          dsimp only
          by_cases hmet : walk.position < cursor + size
          · rw [if_pos hmet]
            by_cases hlast : finish ≤ cursor + size
            · -- the rest lies in this tier
              have hreached : finish ≤
                  (walk.take cursor finish (t.pricePerKwh.getD 0)).position := le_rfl
              rw [min_eq_left hlast, if_pos hreached, hstops le_rfl]
              refine walked_take_all hcursor hfinish (fun x hx hxf => ?_) fun x hx => ?_
              · rw [List.map_cons, priceTo_within hsized hband hx (hxf.trans hlast)]
                rfl
              · rw [List.map_cons, rateAt_before hband (hx.trans_le hlast)]
                rfl
            · have hmore : cursor + size < finish := not_le.mp hlast
              have hend : (walk.take cursor (cursor + size) (t.pricePerKwh.getD 0)).position =
                  cursor + size := by
                rw [take_eq hcursor hmet]
              rw [min_eq_right hmore.le, hend, if_neg hlast]
              exact (ih hsized.tail hend.ge (hend.trans_lt hmore)).of_met hsized hband hcursor hmet
                hmore
          · have hpassed : cursor + size ≤ walk.position := not_lt.mp hmet
            rw [if_neg hmet, if_neg (not_le.mpr hfinish)]
            exact (ih hsized.tail hpassed hfinish).of_passed hsized hband hpassed hfinish

end

/-! ## A range -/

lemma abs_mathRound_sub_le (x : ℚ) : |(mathRound x : ℚ) - x| ≤ 1 / 2 := by
  have hlo : (mathRound x : ℚ) ≤ x + 1 / 2 := Int.floor_le _
  have hhi : x + 1 / 2 < (mathRound x : ℚ) + 1 := Int.lt_floor_add_one _
  rw [abs_le]
  constructor <;> linarith

namespace CustomerTariff

variable {tariff : CustomerTariff}

lemma NonNegative.sized (h : tariff.NonNegative) : Sized tariff.bands := by
  intro band hband size hsize
  obtain ⟨t, ht, rfl⟩ := List.mem_map.mp hband
  exact h.size t ht size hsize

lemma NonNegative.ladderRate_nonneg (h : tariff.NonNegative) (x : ℚ) : 0 ≤ tariff.ladderRate x := by
  have hpast : 0 ≤ tariff.past := by
    unfold past
    cases hperKwh : tariff.perKwh with
    | none => exact le_rfl
    | some rate => exact h.perKwh rate hperKwh
  have hband : ∀ band ∈ tariff.bands, 0 ≤ band.rate := by
    intro band hmem
    obtain ⟨t, ht, rfl⟩ := List.mem_map.mp hmem
    show 0 ≤ t.pricePerKwh.getD 0
    cases hrate : t.pricePerKwh with
    | none => exact le_rfl
    | some rate => exact h.rate t ht rate hrate
  exact rateAt_nonneg hpast hband

/-- The estimate of a range of positive length. -/
lemma costCentsForRange_eq (h : tariff.NonNegative) (htiers : tariff.tiers ≠ []) {fromKwh kwh : ℚ}
    (hfrom : 0 ≤ fromKwh) (hkwh : 0 < kwh) :
    (costCentsForRange tariff fromKwh (.fin kwh)).cents = some (mathRound
        ((tariff.ladderPrice (fromKwh + kwh) - tariff.ladderPrice fromKwh) * 100)) ∧
      ((costCentsForRange tariff fromKwh (.fin kwh)).coverage = .included ↔
        ∀ x, fromKwh ≤ x → x < fromKwh + kwh → tariff.ladderRate x = 0) := by
  have hwalked : Walked tariff.past (fromKwh + kwh) 0 tariff.tiers ⟨0, fromKwh, false⟩ _ :=
    walked_walkTiers h.sized hfrom (lt_add_of_pos_right fromKwh hkwh)
  unfold costCentsForRange
  dsimp only
  rw [if_neg (not_le.mpr hkwh), if_neg htiers]
  dsimp only
  refine ⟨?_, ?_⟩
  · rw [hwalked.cost, zero_add]
    rfl
  · have hcoverage : ∀ paid : Bool, (if paid = true then CostCoverage.billed else .included) =
        .included ↔ ¬paid = true := by decide
    rw [hcoverage, hwalked.paid]
    simp only [Bool.false_eq_true, false_or, not_exists, not_and, not_lt]
    refine forall_congr' fun x => forall_congr' fun _ => forall_congr' fun _ => ?_
    exact ⟨fun hle => le_antisymm hle (h.ladderRate_nonneg x), le_of_eq⟩

/-- The cents of a range are the price to half a cent. -/
lemma abs_cents_sub_le (h : tariff.NonNegative) (htiers : tariff.tiers ≠ []) {fromKwh kwh : ℚ}
    (hfrom : 0 ≤ fromKwh) (hkwh : 0 ≤ kwh) :
    ∃ cents, (costCentsForRange tariff fromKwh (.fin kwh)).cents = some cents ∧
      |(cents : ℚ) - 100 * (tariff.ladderPrice (fromKwh + kwh) - tariff.ladderPrice fromKwh)| ≤
        1 / 2 := by
  rcases hkwh.eq_or_lt with rfl | hpos
  · refine ⟨0, ?_, ?_⟩
    · unfold costCentsForRange
      dsimp only
      rw [if_pos le_rfl]
    · rw [add_zero, sub_self, mul_zero, Int.cast_zero, sub_zero, abs_zero]
      exact one_half_pos.le
  · refine ⟨_, (costCentsForRange_eq h htiers hfrom hpos).1, ?_⟩
    rw [mul_comm (100 : ℚ)]
    exact abs_mathRound_sub_le _

end CustomerTariff

/-! ## The ranges of events -/

/-- The events with where their ranges start. -/
def eventRanges : ℚ → List BilledEvent → List (ℚ × BilledEvent)
  | _, [] => []
  | running, r :: rows => (running, r) :: eventRanges (running + r.kwh.toRat) rows

def totalKwh (rows : List BilledEvent) : ℚ := (rows.map fun r => r.kwh.toRat).sum

section

variable {running : ℚ} {rows : List BilledEvent}

lemma mapGet_cons {entry : ℕ × ℚ} {entries : List (ℕ × ℚ)} {id : ℕ} :
    mapGet (entry :: entries) id =
      (mapGet entries id).or (if entry.1 = id then some entry.2 else none) := by
  unfold mapGet
  rw [← List.singleton_append, List.filter_append, List.getLast?_append, Option.map_or]
  congr 1
  by_cases h : entry.1 = id
  · rw [List.filter_cons_of_pos (by simpa using h), if_pos h]
    rfl
  · rw [List.filter_cons_of_neg (by simpa using h), if_neg h]
    rfl

lemma mapGet_cumulate_of_not_mem {id : ℕ} (h : id ∉ rows.map BilledEvent.id) :
    mapGet (cumulate running rows) id = none := by
  induction rows generalizing running with
  | nil => rfl
  | cons r rows ih =>
      rw [List.map_cons, List.mem_cons, not_or] at h
      rw [cumulate, mapGet_cons, ih h.2, if_neg fun heq => h.1 heq.symm]
      rfl

/-- With distinct ids, the map has for each event where its range starts. -/
lemma map_mapGet_cumulate {β : Type*} (g : ℚ → BilledEvent → β)
    (hnodup : (rows.map BilledEvent.id).Nodup) :
    rows.map (fun r => g ((mapGet (cumulate running rows) r.id).getD 0) r) =
      (eventRanges running rows).map fun range => g range.1 range.2 := by
  induction rows generalizing running with
  | nil => rfl
  | cons r rows ih =>
      obtain ⟨hfresh, hnodup⟩ := List.nodup_cons.mp hnodup
      rw [List.map_cons, eventRanges, List.map_cons, ← ih hnodup]
      congr 1
      · rw [cumulate, mapGet_cons, mapGet_cumulate_of_not_mem hfresh, if_pos rfl]
        rfl
      · refine List.map_congr_left fun r' hr' => ?_
        have hne : r.id ≠ r'.id := fun heq => hfresh (heq ▸ List.mem_map_of_mem hr')
        rw [cumulate, mapGet_cons, if_neg hne, Option.or_none]

lemma totalKwh_cons (r : BilledEvent) : totalKwh (r :: rows) = r.kwh.toRat + totalKwh rows := rfl

/-- A consumption that can be billed. -/
def NonNegativeKwh (rows : List BilledEvent) : Prop :=
  ∀ r ∈ rows, ∃ kwh, r.kwh = .fin kwh ∧ 0 ≤ kwh

lemma NonNegativeKwh.head {r : BilledEvent} (h : NonNegativeKwh (r :: rows)) :
    0 ≤ r.kwh.toRat := by
  obtain ⟨kwh, hkwh, hpos⟩ := h r List.mem_cons_self
  rw [hkwh]
  exact hpos

lemma NonNegativeKwh.tail {r : BilledEvent} (h : NonNegativeKwh (r :: rows)) :
    NonNegativeKwh rows := fun r' hr' => h r' (List.mem_cons_of_mem _ hr')

lemma NonNegativeKwh.total_nonneg (h : NonNegativeKwh rows) : 0 ≤ totalKwh rows := by
  induction rows with
  | nil => exact le_rfl
  | cons r rows ih =>
      rw [totalKwh_cons]
      exact add_nonneg h.head (ih h.tail)

/-- The ranges lie one after the other. -/
lemma eventRanges_within (h : NonNegativeKwh rows) {range : ℚ × BilledEvent}
    (hrange : range ∈ eventRanges running rows) :
    running ≤ range.1 ∧ range.1 + range.2.kwh.toRat ≤ running + totalKwh rows := by
  induction rows generalizing running with
  | nil => cases hrange
  | cons r rows ih =>
      rw [totalKwh_cons]
      have hhead := h.head
      have hrest := h.tail.total_nonneg
      rcases List.mem_cons.mp hrange with rfl | hmem
      · constructor
        · exact le_rfl
        · dsimp only
          linarith
      · obtain ⟨hlo, hhi⟩ := ih h.tail hmem
        constructor <;> linarith

/-- Each point of the whole lies in one range. -/
lemma existsUnique_eventRanges (h : NonNegativeKwh rows) {x : ℚ} (hlo : running ≤ x)
    (hhi : x < running + totalKwh rows) :
    ∃! range, range ∈ eventRanges running rows ∧ range.1 ≤ x ∧
      x < range.1 + range.2.kwh.toRat := by
  induction rows generalizing running with
  | nil =>
      rw [show totalKwh [] = 0 from rfl, add_zero] at hhi
      exact absurd hlo (not_le.mpr hhi)
  | cons r rows ih =>
      rw [totalKwh_cons, ← add_assoc] at hhi
      rcases lt_or_ge x (running + r.kwh.toRat) with hfirst | hlater
      · refine ⟨(running, r), ⟨List.mem_cons_self, hlo, hfirst⟩, ?_⟩
        rintro range ⟨hrange, hstart, -⟩
        rcases List.mem_cons.mp hrange with heq | hmem
        · exact heq
        · have hafter := (eventRanges_within h.tail hmem).1
          linarith
      · obtain ⟨range, ⟨hrange, hin⟩, hunique⟩ := ih h.tail hlater hhi
        refine ⟨range, ⟨List.mem_cons_of_mem _ hrange, hin⟩, ?_⟩
        rintro other ⟨hother, hinOther⟩
        rcases List.mem_cons.mp hother with rfl | hmem
        · exact absurd hinOther.2 (not_lt.mpr hlater)
        · exact hunique other ⟨hmem, hinOther⟩

/-- The cents of ranges one after the other add up to the price of the whole. -/
lemma abs_sum_cents_sub_le {tariff : CustomerTariff} (hrates : tariff.NonNegative)
    (htiers : tariff.tiers ≠ []) (h : NonNegativeKwh rows) (hrunning : 0 ≤ running) :
    |(((eventRanges running rows).map fun range =>
          (costCentsForRange tariff range.1 range.2.kwh).cents.getD 0).sum : ℚ) -
        100 * (tariff.ladderPrice (running + totalKwh rows) - tariff.ladderPrice running)| ≤
      rows.length / 2 := by
  induction rows generalizing running with
  | nil =>
      rw [show totalKwh [] = 0 from rfl, add_zero, sub_self, mul_zero, sub_zero]
      show |((0 : ℤ) : ℚ)| ≤ ((0 : ℕ) : ℚ) / 2
      rw [Int.cast_zero, abs_zero, Nat.cast_zero, zero_div]
  | cons r rows ih =>
      obtain ⟨kwh, hkwh, hpos⟩ := h r List.mem_cons_self
      have hkwhRat : r.kwh.toRat = kwh := by rw [hkwh]; rfl
      obtain ⟨cents, hcents, hfirst⟩ := tariff.abs_cents_sub_le hrates htiers hrunning hpos
      have hrest := ih h.tail (add_nonneg hrunning hpos)
      rw [eventRanges, List.map_cons, List.sum_cons, totalKwh_cons, ← add_assoc, hkwhRat,
        List.length_cons]
      dsimp only
      rw [hkwh, hcents, Option.getD_some]
      push_cast at hrest ⊢
      rw [abs_le] at hfirst hrest ⊢
      constructor <;> linarith [hfirst.1, hfirst.2, hrest.1, hrest.2]

end

/-! ## A period -/

def sortedEvents (rows : List BilledEvent) : List BilledEvent :=
  rows.mergeSort fun a b => decide (a.syncedAtMs ≤ b.syncedAtMs)

/-- Where the range of an event starts. -/
def eventStart (rows : List BilledEvent) (r : BilledEvent) : ℚ :=
  (mapGet (buildCumulativeMap rows) r.id).getD 0

/-- The events of a billing period. -/
structure PeriodEvents (rows : List BilledEvent) (periodFromMs periodToMs : ℤ) : Prop where
  nodup : (rows.map BilledEvent.id).Nodup
  kwh : NonNegativeKwh rows
  inPeriod : ∀ r ∈ rows, periodFromMs ≤ r.syncedAtMs ∧ r.syncedAtMs < periodToMs

/-- The ranges of the events are disjoint and make up what has been consumed. -/
structure TilesTotal (rows : List BilledEvent) : Prop where
  within : ∀ r ∈ rows, 0 ≤ eventStart rows r ∧
    eventStart rows r + r.kwh.toRat ≤ totalKwh rows
  covered : ∀ x, 0 ≤ x → x < totalKwh rows →
    ∃! r, r ∈ rows ∧ eventStart rows r ≤ x ∧ x < eventStart rows r + r.kwh.toRat

/-- What the estimates of a period come to. -/
structure PricedAdditively (tariff : CustomerTariff) (rows : List BilledEvent)
    (periodFromMs periodToMs : ℤ) : Prop where
  known : ∀ r ∈ rows, (estimateEventCost tariff r (buildCumulativeMap rows) periodFromMs
    periodToMs).cents.isSome
  cents : |(((rows.map fun r => (estimateEventCost tariff r (buildCumulativeMap rows) periodFromMs
      periodToMs).cents.getD 0).sum : ℤ) : ℚ) - 100 * tariff.ladderPrice (totalKwh rows)| ≤
    rows.length / 2
  tiles : TilesTotal rows
  included : ∀ r ∈ rows, 0 < r.kwh.toRat → ((estimateEventCost tariff r (buildCumulativeMap rows)
      periodFromMs periodToMs).coverage = .included ↔
    ∀ x, eventStart rows r ≤ x → x < eventStart rows r + r.kwh.toRat → tariff.ladderRate x = 0)

section

variable {rows : List BilledEvent} {tariff : CustomerTariff} {periodFromMs periodToMs : ℤ}

lemma perm_sortedEvents : (sortedEvents rows).Perm rows := List.mergeSort_perm _ _

lemma PeriodEvents.sorted (h : PeriodEvents rows periodFromMs periodToMs) :
    ((sortedEvents rows).map BilledEvent.id).Nodup ∧ NonNegativeKwh (sortedEvents rows) :=
  ⟨(perm_sortedEvents.map _).nodup_iff.mpr h.nodup,
    fun r hr => h.kwh r (perm_sortedEvents.mem_iff.mp hr)⟩

lemma totalKwh_sortedEvents : totalKwh (sortedEvents rows) = totalKwh rows :=
  (perm_sortedEvents.map _).sum_eq

/-- The ranges of the sorted rows are those of the events. -/
lemma mem_eventRanges (h : PeriodEvents rows periodFromMs periodToMs) {range : ℚ × BilledEvent} :
    range ∈ eventRanges 0 (sortedEvents rows) ↔
      range.2 ∈ rows ∧ range.1 = eventStart rows range.2 := by
  have hmap : (sortedEvents rows).map (fun r => (eventStart rows r, r)) =
      (eventRanges 0 (sortedEvents rows)).map fun range => (range.1, range.2) :=
    map_mapGet_cumulate Prod.mk h.sorted.1
  have hid : (eventRanges 0 (sortedEvents rows)).map (fun range => (range.1, range.2)) =
      eventRanges 0 (sortedEvents rows) := List.map_id _
  rw [← hid, ← hmap, List.mem_map]
  constructor
  · rintro ⟨r, hr, rfl⟩
    exact ⟨perm_sortedEvents.mem_iff.mp hr, rfl⟩
  · rintro ⟨hr, hstart⟩
    exact ⟨range.2, perm_sortedEvents.mem_iff.mpr hr, Prod.ext hstart.symm rfl⟩

lemma tilesTotal (h : PeriodEvents rows periodFromMs periodToMs) : TilesTotal rows := by
  have hwithin : ∀ r ∈ rows, 0 ≤ eventStart rows r ∧
      eventStart rows r + r.kwh.toRat ≤ totalKwh rows := by
    intro r hr
    have hrange : (eventStart rows r, r) ∈ eventRanges 0 (sortedEvents rows) :=
      (mem_eventRanges h).mpr ⟨hr, rfl⟩
    have hbounds := eventRanges_within h.sorted.2 hrange
    rwa [zero_add, totalKwh_sortedEvents] at hbounds
  refine ⟨hwithin, fun x hlo hhi => ?_⟩
  obtain ⟨range, ⟨hrange, hin⟩, hunique⟩ := existsUnique_eventRanges h.sorted.2 hlo
    (show x < 0 + totalKwh (sortedEvents rows) by rwa [zero_add, totalKwh_sortedEvents])
  obtain ⟨hr, hstart⟩ := (mem_eventRanges h).mp hrange
  refine ⟨range.2, ⟨hr, hstart ▸ hin⟩, ?_⟩
  rintro r ⟨hr, hin⟩
  have heq := hunique (eventStart rows r, r) ⟨(mem_eventRanges h).mpr ⟨hr, rfl⟩, hin⟩
  exact congrArg Prod.snd heq

/-- An event of the period is priced by its range. -/
lemma estimateEventCost_eq (htiers : tariff.tiers ≠ [])
    (h : PeriodEvents rows periodFromMs periodToMs) {r : BilledEvent} (hr : r ∈ rows) :
    estimateEventCost tariff r (buildCumulativeMap rows) periodFromMs periodToMs =
      costCentsForRange tariff (eventStart rows r) r.kwh := by
  rw [estimateEventCost, if_neg htiers, if_pos (h.inPeriod r hr)]
  rfl

/-- The estimates of a period add up to the price of what has been consumed, to half a cent for each
event, and an event is included just where its range has the rate 0. -/
theorem pricedAdditively_of_tiers (htiers : tariff.tiers ≠ []) (hrates : tariff.NonNegative)
    (h : PeriodEvents rows periodFromMs periodToMs) :
    PricedAdditively tariff rows periodFromMs periodToMs where
  known := by
    intro r hr
    obtain ⟨kwh, hkwh, hpos⟩ := h.kwh r hr
    rw [estimateEventCost_eq htiers h hr, hkwh]
    obtain ⟨cents, hcents, -⟩ :=
      tariff.abs_cents_sub_le hrates htiers ((tilesTotal h).within r hr).1 hpos
    rw [hcents]
    rfl
  cents := by
    have hsum := abs_sum_cents_sub_le hrates htiers h.sorted.2 le_rfl
    have hranges : (eventRanges 0 (sortedEvents rows)).map (fun range =>
        (costCentsForRange tariff range.1 range.2.kwh).cents.getD 0) =
          (sortedEvents rows).map fun r => (estimateEventCost tariff r (buildCumulativeMap rows)
            periodFromMs periodToMs).cents.getD 0 := by
      rw [← map_mapGet_cumulate (fun start r => (costCentsForRange tariff start r.kwh).cents.getD 0)
        h.sorted.1]
      refine List.map_congr_left fun r hr => ?_
      rw [estimateEventCost_eq htiers h (perm_sortedEvents.mem_iff.mp hr)]
      rfl
    have hfree : tariff.ladderPrice 0 = 0 := priceTo_of_le hrates.sized le_rfl
    rwa [hranges, (perm_sortedEvents.map _).sum_eq, zero_add, totalKwh_sortedEvents, hfree,
      sub_zero, perm_sortedEvents.length_eq] at hsum
  tiles := tilesTotal h
  included := by
    intro r hr hpos
    obtain ⟨kwh, hkwh, -⟩ := h.kwh r hr
    rw [hkwh] at hpos
    rw [estimateEventCost_eq htiers h hr, hkwh]
    exact (tariff.costCentsForRange_eq hrates htiers ((tilesTotal h).within r hr).1 hpos).2

/-- What is included costs nothing. -/
theorem cents_of_included (htiers : tariff.tiers ≠ []) (hrates : tariff.NonNegative)
    (h : PeriodEvents rows periodFromMs periodToMs) {r : BilledEvent} (hr : r ∈ rows)
    (hpos : 0 < r.kwh.toRat) (hincluded : (estimateEventCost tariff r (buildCumulativeMap rows)
      periodFromMs periodToMs).coverage = .included) :
    (estimateEventCost tariff r (buildCumulativeMap rows) periodFromMs periodToMs).cents =
      some 0 := by
  have hfree := ((pricedAdditively_of_tiers htiers hrates h).included r hr hpos).mp hincluded
  obtain ⟨kwh, hkwh, -⟩ := h.kwh r hr
  rw [hkwh] at hpos hfree
  replace hpos : 0 < kwh := hpos
  replace hfree : ∀ x, eventStart rows r ≤ x → x < eventStart rows r + kwh →
      tariff.ladderRate x = 0 := hfree
  have hstart := ((tilesTotal h).within r hr).1
  have hprice : tariff.ladderPrice (eventStart rows r + kwh) -
      tariff.ladderPrice (eventStart rows r) = 0 := by
    rw [CustomerTariff.ladderPrice, CustomerTariff.ladderPrice,
      priceTo_sub hrates.sized hstart (le_add_of_nonneg_right hpos.le) hfree, zero_mul]
  rw [estimateEventCost_eq htiers h hr, hkwh,
    (tariff.costCentsForRange_eq hrates htiers hstart hpos).1, hprice, zero_mul]
  exact congrArg some (mathRound_intCast 0)

end

/-! ## Past the last tier -/

/-- Ten free kWh, and nothing is said of what comes after them. -/
def freeTariff : CustomerTariff := ⟨none, [⟨some 10, some 0, "Free"⟩], "EUR", "€"⟩

def longSession : List BilledEvent := [⟨1, 1000, .fin 20⟩]

lemma nonNegative_freeTariff : freeTariff.NonNegative where
  size := by
    rintro t ht size hsize
    obtain rfl := List.mem_singleton.mp ht
    cases hsize
    norm_num
  rate := by
    rintro t ht rate hrate
    obtain rfl := List.mem_singleton.mp ht
    cases hrate
    exact le_rfl
  perKwh := by
    rintro rate hrate
    cases hrate

lemma periodEvents_longSession : PeriodEvents longSession 0 2000 where
  nodup := List.nodup_singleton _
  kwh := by
    rintro r hr
    obtain rfl := List.mem_singleton.mp hr
    exact ⟨20, rfl, by norm_num⟩
  inPeriod := by decide

/-- The session costs nothing, whatever is past the tier. -/
theorem pricedAdditively_longSession : PricedAdditively freeTariff longSession 0 2000 :=
  pricedAdditively_of_tiers (List.cons_ne_nil _ _) nonNegative_freeTariff periodEvents_longSession

/-- It is included, and half of it is in no tier. -/
theorem not_included_longSession : ¬∀ (tariff : CustomerTariff) (rows : List BilledEvent)
    (periodFromMs periodToMs : ℤ), tariff.tiers ≠ [] → tariff.NonNegative →
    PeriodEvents rows periodFromMs periodToMs → ∀ r ∈ rows, 0 < r.kwh.toRat →
      ((estimateEventCost tariff r (buildCumulativeMap rows) periodFromMs
          periodToMs).coverage = .included ↔
        ∀ x, eventStart rows r ≤ x → x < eventStart rows r + r.kwh.toRat →
          ∃ band, bandAt 0 tariff.bands x = some band ∧ band.rate = 0) := by
  intro hall
  have hincluded := hall freeTariff longSession 0 2000 (List.cons_ne_nil _ _) nonNegative_freeTariff
    periodEvents_longSession ⟨1, 1000, .fin 20⟩ List.mem_cons_self (by decide +kernel)
  have hcoverage : (estimateEventCost freeTariff ⟨1, 1000, .fin 20⟩ (buildCumulativeMap longSession)
      0 2000).coverage = .included := by decide +kernel
  obtain ⟨band, hband, -⟩ := hincluded.mp hcoverage 15 (by decide +kernel) (by decide +kernel)
  have hnone : (bandAt 0 freeTariff.bands 15).isNone = true := by decide +kernel
  rw [hband] at hnone
  cases hnone

end ExpresSync
