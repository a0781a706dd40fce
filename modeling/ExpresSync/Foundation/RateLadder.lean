import Mathlib.Algebra.BigOperators.Group.List.Basic
import Mathlib.Algebra.BigOperators.Ring.List
import Mathlib.Algebra.Order.Field.Basic
import Mathlib.Tactic.LinearCombination
import Mathlib.Tactic.Linarith
import Mathlib.Tactic.Ring

/-!
# Ladders of rates

Bands that follow one another from a start on, each with its length and its rate; the last may be
open, and past the last there is one more rate.  `priceTo` is what the stretch from the start of the
bands up to a point costs, so a stretch between two points costs the difference.

A stretch in which the rate does not change costs its length times that rate (`priceTo_sub`), and
where all bands are bounded but the last, the price is told by the steps of the rate at the ends of
the bands (`priceTo_eq_sum`).
-/

/-- `size` is `none` for an open band. -/
structure RateBand (K : Type*) where
  size : Option K
  rate : K

namespace RateLadder

variable {K : Type*} [Field K] [LinearOrder K]

/-- The band of a point at or after the start `c` of the first band. -/
def bandAt : K → List (RateBand K) → K → Option (RateBand K)
  | _, [], _ => none
  | c, band :: bands, x =>
      match band.size with
      | none => some band
      | some size => if x < c + size then some band else bandAt (c + size) bands x

/-- The rate at a point, `past` after the last band. -/
def rateAt (past c : K) (bands : List (RateBand K)) (x : K) : K :=
  (bandAt c bands x).elim past RateBand.rate

/-- The price of what lies between the start of the first band and a point. -/
def priceTo (past : K) : K → List (RateBand K) → K → K
  | c, [], x => past * max 0 (x - c)
  | c, band :: bands, x =>
      match band.size with
      | none => band.rate * max 0 (x - c)
      | some size =>
          band.rate * max 0 (min x (c + size) - c) + priceTo past (c + size) bands x

/-- No band has a negative length. -/
def Sized (bands : List (RateBand K)) : Prop :=
  ∀ band ∈ bands, ∀ size, band.size = some size → 0 ≤ size

variable {past c x y : K} {band : RateBand K} {bands : List (RateBand K)} {size : K}

lemma Sized.tail (h : Sized (band :: bands)) : Sized bands := fun band' hband' =>
  h band' (List.mem_cons_of_mem _ hband')

/-! ### One band at a time -/

@[simp] lemma rateAt_nil : rateAt past c [] x = past := rfl

lemma rateAt_open (h : band.size = none) : rateAt past c (band :: bands) x = band.rate := by
  rw [rateAt, bandAt, h]
  rfl

lemma rateAt_before (h : band.size = some size) (hx : x < c + size) :
    rateAt past c (band :: bands) x = band.rate := by
  rw [rateAt, bandAt, h]
  dsimp only
  rw [if_pos hx]
  rfl

lemma rateAt_after (h : band.size = some size) (hx : c + size ≤ x) :
    rateAt past c (band :: bands) x = rateAt past (c + size) bands x := by
  rw [rateAt, bandAt, h]
  dsimp only
  rw [if_neg (not_lt.mpr hx)]
  rfl

/-- A rate is one of those of the bands, or the one past them. -/
lemma rateAt_nonneg (hpast : 0 ≤ past) (hbands : ∀ band ∈ bands, 0 ≤ band.rate) :
    0 ≤ rateAt past c bands x := by
  induction bands generalizing c with
  | nil => exact hpast
  | cons band bands ih =>
      have hfirst : 0 ≤ band.rate := hbands band List.mem_cons_self
      cases hsize : band.size with
      | none =>
          rw [rateAt_open hsize]
          exact hfirst
      | some size =>
          rcases lt_or_ge x (c + size) with hbefore | hafter
          · rw [rateAt_before hsize hbefore]
            exact hfirst
          · rw [rateAt_after hsize hafter]
            exact ih fun band' hband' => hbands band' (List.mem_cons_of_mem _ hband')

lemma priceTo_open (h : band.size = none) :
    priceTo past c (band :: bands) x = band.rate * max 0 (x - c) := by
  rw [priceTo, h]

lemma priceTo_sized (h : band.size = some size) : priceTo past c (band :: bands) x =
    band.rate * max 0 (min x (c + size) - c) + priceTo past (c + size) bands x := by
  rw [priceTo, h]

/-- After the first band. -/
lemma priceTo_beyond (hsized : Sized (band :: bands)) (hsize : band.size = some size)
    (hx : c + size ≤ x) :
    priceTo past c (band :: bands) x = band.rate * size + priceTo past (c + size) bands x := by
  have hpos : 0 ≤ size := hsized band List.mem_cons_self size hsize
  rw [priceTo_sized hsize, min_eq_right hx, add_sub_cancel_left, max_eq_right hpos]

variable [IsStrictOrderedRing K]

/-- Before the first band there is nothing to pay. -/
lemma priceTo_of_le (hsized : Sized bands) (hx : x ≤ c) : priceTo past c bands x = 0 := by
  induction bands generalizing c with
  | nil => rw [priceTo, max_eq_left (sub_nonpos.mpr hx), mul_zero]
  | cons band bands ih =>
      cases hsize : band.size with
      | none => rw [priceTo_open hsize, max_eq_left (sub_nonpos.mpr hx), mul_zero]
      | some size =>
          have hpos : 0 ≤ size := hsized band List.mem_cons_self size hsize
          have hend : x ≤ c + size := by linarith
          rw [priceTo_sized hsize, min_eq_left hend, max_eq_left (sub_nonpos.mpr hx), mul_zero,
            zero_add, ih hsized.tail hend]

/-- Within the first band. -/
lemma priceTo_within (hsized : Sized (band :: bands)) (hsize : band.size = some size) (hc : c ≤ x)
    (hx : x ≤ c + size) : priceTo past c (band :: bands) x = band.rate * (x - c) := by
  rw [priceTo_sized hsize, min_eq_left hx, max_eq_right (sub_nonneg.mpr hc),
    priceTo_of_le hsized.tail hx, add_zero]

/-- A stretch with one rate costs its length times the rate. -/
theorem priceTo_sub (hsized : Sized bands) {rate : K} (hc : c ≤ x) (hxy : x ≤ y)
    (hrate : ∀ z, x ≤ z → z < y → rateAt past c bands z = rate) :
    priceTo past c bands y - priceTo past c bands x = rate * (y - x) := by
  induction bands generalizing c x with
  | nil =>
      rw [priceTo, priceTo, max_eq_right (sub_nonneg.mpr hc),
        max_eq_right (sub_nonneg.mpr (hc.trans hxy))]
      rcases hxy.eq_or_lt with rfl | hlt
      · ring
      · rw [← hrate x le_rfl hlt, rateAt_nil]
        ring
  | cons band bands ih =>
      rcases hxy.eq_or_lt with rfl | hlt
      · ring
      have hfirst := hrate x le_rfl hlt
      cases hsize : band.size with
      | none =>
          rw [rateAt_open hsize] at hfirst
          rw [priceTo_open hsize, priceTo_open hsize, max_eq_right (sub_nonneg.mpr hc),
            max_eq_right (sub_nonneg.mpr (hc.trans hxy)), hfirst]
          ring
      | some size =>
          have hrest : ∀ z, c + size ≤ z → x ≤ z → z < y →
              rateAt past (c + size) bands z = rate := by
            intro z hz hxz hzy
            rw [← rateAt_after hsize hz]
            exact hrate z hxz hzy
          rcases lt_or_ge x (c + size) with hbefore | hafter
          · rw [rateAt_before hsize hbefore] at hfirst
            rw [priceTo_within hsized hsize hc hbefore.le]
            rcases le_total y (c + size) with hend | hend
            · rw [priceTo_within hsized hsize (hc.trans hxy) hend, hfirst]
              ring
            · have hbeyond := ih hsized.tail le_rfl hend fun z hz hzy =>
                hrest z hz (hbefore.le.trans hz) hzy
              rw [priceTo_of_le hsized.tail le_rfl, sub_zero] at hbeyond
              rw [priceTo_beyond hsized hsize hend, hbeyond, hfirst]
              ring
          · rw [priceTo_beyond hsized hsize hafter, priceTo_beyond hsized hsize (hafter.trans hxy),
              add_sub_add_left_eq_sub]
            exact ih hsized.tail hafter hxy fun z hz hzy => hrest z (hafter.trans hz) hz hzy

/-! ### Steps of the rate -/

/-- All bands but the last one are bounded. -/
def EndsOpen : List (RateBand K) → Prop
  | [] => False
  | [band] => band.size = none
  | band :: next :: bands => band.size.isSome ∧ EndsOpen (next :: bands)

def lastRate : List (RateBand K) → K
  | [] => 0
  | [band] => band.rate
  | _ :: next :: bands => lastRate (next :: bands)

/-- Where a band ends, and by how much the rate rises there. -/
def steps : K → List (RateBand K) → List (K × K)
  | c, band :: next :: bands =>
      match band.size with
      | none => []
      | some size => (c + size, next.rate - band.rate) :: steps (c + size) (next :: bands)
  | _, _ => []

omit [LinearOrder K] [IsStrictOrderedRing K] in
lemma steps_cons {next : RateBand K} (h : band.size = some size) :
    steps c (band :: next :: bands) =
      (c + size, next.rate - band.rate) :: steps (c + size) (next :: bands) := by
  rw [steps, h]

omit [LinearOrder K] [IsStrictOrderedRing K] in
/-- From the first rate the steps lead to the last one. -/
lemma sum_steps (hopen : EndsOpen (band :: bands)) :
    band.rate + ((steps c (band :: bands)).map Prod.snd).sum = lastRate (band :: bands) := by
  induction bands generalizing band c with
  | nil => exact add_zero _
  | cons next bands ih =>
      obtain ⟨hsome, hopen⟩ := hopen
      obtain ⟨size, hsize⟩ := Option.isSome_iff_exists.mp hsome
      rw [steps_cons hsize, List.map_cons, List.sum_cons, ← add_assoc, add_sub_cancel]
      exact ih hopen

lemma le_of_mem_steps (hsized : Sized bands) {step : K × K} (h : step ∈ steps c bands) :
    c ≤ step.1 := by
  induction bands generalizing c with
  | nil => cases h
  | cons band bands ih =>
      cases bands with
      | nil => cases h
      | cons next bands =>
          cases hsize : band.size with
          | none =>
              rw [steps, hsize] at h
              cases h
          | some size =>
              have hpos : 0 ≤ size := hsized band List.mem_cons_self size hsize
              rw [steps_cons hsize] at h
              rcases List.mem_cons.mp h with rfl | hmem
              · exact le_add_of_nonneg_right hpos
              · exact (le_add_of_nonneg_right hpos).trans (ih hsized.tail hmem)

/-- The price goes by the last rate, less each step of the rate for what lies before it. -/
theorem priceTo_eq_sum (hsized : Sized bands) (hopen : EndsOpen bands) (hx : c ≤ x) :
    priceTo past c bands x = lastRate bands * (x - c) -
      ((steps c bands).map fun step => step.2 * (min x step.1 - c)).sum := by
  induction bands generalizing c with
  | nil => exact hopen.elim
  | cons band bands ih =>
      cases bands with
      | nil =>
          rw [priceTo_open hopen, max_eq_right (sub_nonneg.mpr hx)]
          exact (sub_zero _).symm
      | cons next bands =>
          have hlast := sum_steps (c := c) hopen
          obtain ⟨size, hsize⟩ := Option.isSome_iff_exists.mp hopen.1
          have hpos : 0 ≤ size := hsized band List.mem_cons_self size hsize
          rcases le_total x (c + size) with hwithin | hbeyond
          · -- all steps are still to come
            have hall : (steps c (band :: next :: bands)).map
                (fun step => step.2 * (min x step.1 - c)) =
                  (steps c (band :: next :: bands)).map fun step => step.2 * (x - c) := by
              refine List.map_congr_left fun step hstep => ?_
              have hlater : x ≤ step.1 := by
                rw [steps_cons hsize] at hstep
                rcases List.mem_cons.mp hstep with rfl | hmem
                · exact hwithin
                · exact hwithin.trans (le_of_mem_steps hsized.tail hmem)
              rw [min_eq_left hlater]
            rw [priceTo_within hsized hsize hx hwithin, hall, List.sum_map_mul_right, ← hlast]
            ring
          · have hmin : ∀ step ∈ steps (c + size) (next :: bands),
                step.2 * (min x step.1 - c) =
                  step.2 * (min x step.1 - (c + size)) + step.2 * size := fun _ _ => by ring
            rw [priceTo_beyond hsized hsize hbeyond, ih hsized.tail hopen.2 hbeyond,
              steps_cons hsize, List.map_cons, List.sum_cons, min_eq_right hbeyond,
              List.map_congr_left hmin, List.sum_map_add, List.sum_map_mul_right]
            rw [steps_cons hsize, List.map_cons, List.sum_cons] at hlast
            have hnext : lastRate (band :: next :: bands) = lastRate (next :: bands) := rfl
            rw [hnext] at hlast ⊢
            linear_combination size * hlast

end RateLadder
