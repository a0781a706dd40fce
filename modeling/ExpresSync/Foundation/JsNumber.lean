import Mathlib.Algebra.Order.Floor.Ring
import Mathlib.Data.Rat.Floor
import Mathlib.Tactic.Ring
import Mathlib.Tactic.Linarith
import Mathlib.Tactic.FieldSimp
import Mathlib.Tactic.NormNum
import Mathlib.Tactic.Positivity

/-!
# JavaScript numbers in exact arithmetic

`Math.round` and `Number.prototype.toFixed` as rounding operations on the rationals, and the
numbers a JavaScript program computes with when floating-point error is left out: a rational,
or `NaN`.

The rounding operations all fix a decimal *grid*.  `OnGrid d x` says that `x` has at most `d`
decimal places; `roundTo d` and `toFixed d` return points of that grid and are the identity on
it (`roundTo_of_onGrid`, `toFixed_of_onGrid`), and both are monotone.  A program that only ever
adds and subtracts grid points therefore never loses anything to rounding, which is how every
caller below removes the rounding calls from a computation.
-/

/-! ## Decimal grids -/

/-- `x` has at most `d` decimal places. -/
def OnGrid (d : ℕ) (x : ℚ) : Prop := ∃ n : ℤ, x = n / 10 ^ d

namespace OnGrid

variable {d e : ℕ} {x y : ℚ}

lemma zero (d : ℕ) : OnGrid d 0 := ⟨0, by simp⟩

lemma intDiv (d : ℕ) (n : ℤ) : OnGrid d ((n : ℚ) / 10 ^ d) := ⟨n, rfl⟩

lemma add (hx : OnGrid d x) (hy : OnGrid d y) : OnGrid d (x + y) := by
  obtain ⟨m, rfl⟩ := hx
  obtain ⟨n, rfl⟩ := hy
  exact ⟨m + n, by push_cast; ring⟩

lemma neg (hx : OnGrid d x) : OnGrid d (-x) := by
  obtain ⟨m, rfl⟩ := hx
  exact ⟨-m, by push_cast; ring⟩

lemma sub (hx : OnGrid d x) (hy : OnGrid d y) : OnGrid d (x - y) := by
  rw [sub_eq_add_neg]
  exact hx.add hy.neg

/-- A coarser grid is contained in every finer one. -/
lemma mono (hde : d ≤ e) (hx : OnGrid d x) : OnGrid e x := by
  obtain ⟨m, rfl⟩ := hx
  obtain ⟨k, rfl⟩ := Nat.exists_eq_add_of_le hde
  refine ⟨m * 10 ^ k, ?_⟩
  push_cast
  rw [pow_add]
  field_simp

end OnGrid

/-! ## Rounding -/

/-- `Math.round`: the nearest integer, ties going up. -/
def mathRound (x : ℚ) : ℤ := ⌊x + 1 / 2⌋

@[simp] lemma mathRound_intCast (n : ℤ) : mathRound n = n := by
  rw [mathRound, Int.floor_eq_iff]
  constructor <;> linarith

lemma mathRound_mono {x y : ℚ} (h : x ≤ y) : mathRound x ≤ mathRound y :=
  Int.floor_le_floor (by linarith)

/-- `Math.round(x * 10^d) / 10^d`. -/
def roundTo (d : ℕ) (x : ℚ) : ℚ := (mathRound (x * 10 ^ d) : ℚ) / 10 ^ d

/-- The number written by `x.toFixed(d)`: the nearest point of the grid, ties going away from
zero (ECMAScript rounds the absolute value up and puts the sign back). -/
def toFixed (d : ℕ) (x : ℚ) : ℚ :=
  if x < 0 then -((mathRound (-x * 10 ^ d) : ℚ) / 10 ^ d)
  else (mathRound (x * 10 ^ d) : ℚ) / 10 ^ d

lemma onGrid_toFixed (d : ℕ) (x : ℚ) : OnGrid d (toFixed d x) := by
  unfold toFixed
  split
  · exact (OnGrid.intDiv d _).neg
  · exact OnGrid.intDiv d _

lemma roundTo_of_onGrid {d : ℕ} {x : ℚ} (hx : OnGrid d x) : roundTo d x = x := by
  obtain ⟨n, rfl⟩ := hx
  have hpow : (10 : ℚ) ^ d ≠ 0 := by positivity
  rw [roundTo, div_mul_cancel₀ _ hpow, mathRound_intCast]

lemma toFixed_eq_roundTo {d : ℕ} {x : ℚ} (hx : 0 ≤ x) : toFixed d x = roundTo d x := by
  rw [toFixed, if_neg (not_lt.mpr hx), roundTo]

lemma toFixed_of_neg {d : ℕ} {x : ℚ} (hx : x < 0) : toFixed d x = -roundTo d (-x) := by
  rw [toFixed, if_pos hx, roundTo]

lemma toFixed_of_onGrid {d : ℕ} {x : ℚ} (hx : OnGrid d x) : toFixed d x = x := by
  rcases lt_or_ge x 0 with hneg | hpos
  · rw [toFixed_of_neg hneg, roundTo_of_onGrid hx.neg, neg_neg]
  · rw [toFixed_eq_roundTo hpos, roundTo_of_onGrid hx]

lemma roundTo_mono {d : ℕ} {x y : ℚ} (h : x ≤ y) : roundTo d x ≤ roundTo d y := by
  have hpow : (0 : ℚ) < 10 ^ d := by positivity
  have hround : mathRound (x * 10 ^ d) ≤ mathRound (y * 10 ^ d) :=
    mathRound_mono (mul_le_mul_of_nonneg_right h hpow.le)
  unfold roundTo
  exact div_le_div_of_nonneg_right (by exact_mod_cast hround) hpow.le

/-- A grid point can be taken out of the rounding. -/
lemma roundTo_add {d : ℕ} {g : ℚ} (hg : OnGrid d g) (x : ℚ) :
    roundTo d (g + x) = g + roundTo d x := by
  obtain ⟨n, rfl⟩ := hg
  have hpow : (10 : ℚ) ^ d ≠ 0 := by positivity
  have hround : mathRound ((n / 10 ^ d + x) * 10 ^ d) = n + mathRound (x * 10 ^ d) := by
    unfold mathRound
    rw [← Int.floor_intCast_add]
    congr 1
    field_simp
    ring
  rw [roundTo, hround, roundTo]
  push_cast
  ring

/-- Rounding moves a number by at most half a grid step. -/
lemma abs_roundTo_sub_le (d : ℕ) (x : ℚ) : |roundTo d x - x| ≤ 1 / (2 * 10 ^ d) := by
  have hpow : (0 : ℚ) < 10 ^ d := by positivity
  have hlo : (mathRound (x * 10 ^ d) : ℚ) ≤ x * 10 ^ d + 1 / 2 := Int.floor_le _
  have hhi : x * 10 ^ d + 1 / 2 < (mathRound (x * 10 ^ d) : ℚ) + 1 := Int.lt_floor_add_one _
  have hscaled : |(mathRound (x * 10 ^ d) : ℚ) - x * 10 ^ d| ≤ 1 / 2 := by
    rw [abs_le]
    constructor <;> linarith
  calc |roundTo d x - x| = |(mathRound (x * 10 ^ d) : ℚ) - x * 10 ^ d| / 10 ^ d := by
        rw [roundTo, ← abs_of_pos hpow, ← abs_div, abs_of_pos hpow, sub_div,
          mul_div_cancel_right₀ _ hpow.ne']
    _ ≤ 1 / 2 / 10 ^ d := div_le_div_of_nonneg_right hscaled hpow.le
    _ = 1 / (2 * 10 ^ d) := by rw [div_div]

lemma roundTo_nonneg {d : ℕ} {x : ℚ} (h : 0 ≤ x) : 0 ≤ roundTo d x := by
  calc (0 : ℚ) = roundTo d 0 := (roundTo_of_onGrid (OnGrid.zero d)).symm
    _ ≤ roundTo d x := roundTo_mono h

lemma toFixed_mono {d : ℕ} {x y : ℚ} (h : x ≤ y) : toFixed d x ≤ toFixed d y := by
  rcases lt_or_ge x 0 with hx | hx <;> rcases lt_or_ge y 0 with hy | hy
  · rw [toFixed_of_neg hx, toFixed_of_neg hy]
    exact neg_le_neg (roundTo_mono (neg_le_neg h))
  · have hxn : 0 ≤ roundTo d (-x) := roundTo_nonneg (by linarith)
    rw [toFixed_of_neg hx, toFixed_eq_roundTo hy]
    linarith [roundTo_nonneg (d := d) hy]
  · linarith
  · rw [toFixed_eq_roundTo hx, toFixed_eq_roundTo hy]
    exact roundTo_mono h

/-! ## Numbers with `NaN` -/

/-- A JavaScript number in exact arithmetic. -/
inductive JsNumber where
  | nan
  | fin (value : ℚ)
deriving DecidableEq

namespace JsNumber

/-- The value of a number, `NaN` counting as `0`. -/
def toRat : JsNumber → ℚ
  | nan => 0
  | fin x => x

/-- Apply an operation that returns `NaN` on `NaN`. -/
def map (f : ℚ → ℚ) : JsNumber → JsNumber
  | nan => nan
  | fin x => fin (f x)

/-- Apply a binary operation that returns `NaN` as soon as one argument is `NaN`. -/
def map₂ (f : ℚ → ℚ → ℚ) : JsNumber → JsNumber → JsNumber
  | fin x, fin y => fin (f x y)
  | _, _ => nan

instance : Add JsNumber := ⟨map₂ (· + ·)⟩
instance : Sub JsNumber := ⟨map₂ (· - ·)⟩

/-- `a <= b`, false as soon as one side is `NaN`. -/
instance : LE JsNumber where
  le
    | fin x, fin y => x ≤ y
    | _, _ => False

instance : DecidableRel (α := JsNumber) (· ≤ ·)
  | fin x, fin y => inferInstanceAs (Decidable (x ≤ y))
  | fin _, nan => inferInstanceAs (Decidable False)
  | nan, fin _ => inferInstanceAs (Decidable False)
  | nan, nan => inferInstanceAs (Decidable False)

@[simp] lemma map_fin (f : ℚ → ℚ) (x : ℚ) : map f (fin x) = fin (f x) := rfl
@[simp] lemma fin_add_fin (x y : ℚ) : fin x + fin y = fin (x + y) := rfl
@[simp] lemma fin_sub_fin (x y : ℚ) : fin x - fin y = fin (x - y) := rfl
@[simp] lemma fin_le_fin {x y : ℚ} : fin x ≤ fin y ↔ x ≤ y := Iff.rfl

end JsNumber
