import Mathlib.Data.Int.ModEq
import Mathlib.Order.Bounds.Basic

/-!
# Cron patterns

Patterns over the minute, the hour and the day of the week, on a clock in epoch milliseconds (UTC).
The seconds of a five-field pattern are zero.  The times of a pattern that steps through or fixes
its fields are periodic; `Periodic` carries the period with its proof, and with it the next time of
the pattern is arithmetic (`Periodic.next`, specified by `Periodic.next_isLeast`).
-/

namespace Cron

/-- A field of a pattern. -/
inductive Field where
  /-- `*` -/
  | every
  /-- `*/n` -/
  | step (n : ℕ)
  /-- `n` -/
  | at (n : ℕ)
deriving DecidableEq

def Field.matches : Field → ℕ → Bool
  | every, _ => true
  | step n, value => value % n == 0
  | .at n, value => value == n

/-- A pattern whose day of the month and month are `*`. -/
structure Pattern where
  minute : Field
  hour : Field
  /-- Sunday is `0`. -/
  dayOfWeek : Field
deriving DecidableEq

def minuteOf (t : ℕ) : ℕ := t / 60000 % 60

def hourOf (t : ℕ) : ℕ := t / 3600000 % 24

/-- The epoch began on a Thursday. -/
def dayOfWeekOf (t : ℕ) : ℕ := (t / 86400000 + 4) % 7

/-- The pattern names the time `t`. -/
def Pattern.fires (pattern : Pattern) (t : ℕ) : Bool :=
  t % 60000 == 0 && pattern.minute.matches (minuteOf t) && pattern.hour.matches (hourOf t) &&
    pattern.dayOfWeek.matches (dayOfWeekOf t)

/-! ## Periodic times -/

/-- The first time after `now` that is `phase` modulo `period`. -/
def nextTime (period phase now : ℕ) : ℕ := now + (period - (now + (period - phase)) % period)

section NextTime

variable {period phase : ℕ}

lemma lt_nextTime (hphase : phase < period) (now : ℕ) : now < nextTime period phase now := by
  have hmod : (now + (period - phase)) % period < period := Nat.mod_lt _ (by omega)
  unfold nextTime
  omega

lemma nextTime_le (now : ℕ) : nextTime period phase now ≤ now + period := by
  unfold nextTime
  omega

lemma nextTime_mod (hphase : phase < period) (now : ℕ) :
    nextTime period phase now % period = phase := by
  have hmod : (now + (period - phase)) % period < period := Nat.mod_lt _ (by omega)
  have hdiv := Nat.div_add_mod (now + (period - phase)) period
  have heq : nextTime period phase now =
      period * ((now + (period - phase)) / period) + phase := by
    unfold nextTime
    omega
  rw [heq, Nat.mul_add_mod, Nat.mod_eq_of_lt hphase]

theorem nextTime_isLeast (hphase : phase < period) (now : ℕ) :
    IsLeast {t | now < t ∧ t % period = phase} (nextTime period phase now) := by
  refine ⟨⟨lt_nextTime hphase now, nextTime_mod hphase now⟩, ?_⟩
  rintro t ⟨hlt, hmod⟩
  by_contra hnot
  have hle : nextTime period phase now ≤ now + period := nextTime_le now
  -- Two times of the set that differ by less than a period are equal.
  have hdvd : period ∣ nextTime period phase now - t :=
    (Nat.modEq_iff_dvd' (by omega)).mp (hmod.trans (nextTime_mod hphase now).symm)
  have := Nat.le_of_dvd (by omega) hdvd
  omega

end NextTime

/-- A period of a pattern. -/
structure Periodic (pattern : Pattern) where
  period : ℕ
  phase : ℕ
  phase_lt : phase < period
  fires_iff : ∀ t, pattern.fires t = true ↔ t % period = phase

namespace Periodic

variable {pattern : Pattern} (p : Periodic pattern)

/-- The next time of the pattern. -/
def next (now : ℕ) : ℕ := nextTime p.period p.phase now

theorem next_isLeast (now : ℕ) :
    IsLeast {t | now < t ∧ pattern.fires t = true} (p.next now) := by
  simp only [p.fires_iff]
  exact nextTime_isLeast p.phase_lt now

lemma lt_next (now : ℕ) : now < p.next now := (p.next_isLeast now).1.1

lemma next_le (now : ℕ) : p.next now ≤ now + p.period := nextTime_le now

/-- Until the next time comes it stays the next time. -/
lemma next_of_lt {now later : ℕ} (hle : now ≤ later) (hlt : later < p.next now) :
    p.next later = p.next now := by
  refine (p.next_isLeast later).unique ⟨⟨hlt, (p.next_isLeast now).1.2⟩, ?_⟩
  rintro t ⟨hlater, hfires⟩
  exact (p.next_isLeast now).2 ⟨by omega, hfires⟩

end Periodic

end Cron
