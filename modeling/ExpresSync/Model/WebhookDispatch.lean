import Mathlib.Data.List.Basic
import ExpresSync.Foundation.Transition

/-!
# Dispatching webhooks

`dispatch` runs the reaction to one webhook behind a circuit breaker: `consecutiveFailures` and
`disabledUntilMs` are variables of the module, read before a reaction and written after it, and
every read and write is separated from the next by an await.  Any number of dispatches are in flight
at a time; what their reactions do is left open but for the outcome.

Only the first dispatch reads the stored state, and the others do not wait for it.
-/

namespace ExpresSync

/-- `CIRCUIT_BREAKER_THRESHOLD` -/
def circuitBreakerThreshold : ℕ := 5

/-- `CIRCUIT_BREAKER_COOLDOWN_MS` -/
def circuitBreakerCooldownMs : ℕ := 300000

/-! ## The breaker -/

structure CircuitBreaker where
  consecutiveFailures : ℕ
  disabledUntilMs : Option ℕ
deriving DecidableEq

namespace CircuitBreaker

/-- The state of a module that has just been loaded, and of one that has been reset. -/
def closed : CircuitBreaker := ⟨0, none⟩

/-- `open` of `getCircuitBreakerState`. -/
def isOpen (breaker : CircuitBreaker) (now : ℕ) : Bool :=
  match breaker.disabledUntilMs with
  | none => false
  | some disabledUntilMs => now < disabledUntilMs

/-- `isDispatchDisabled`: the answer, and the state it leaves. -/
def isDispatchDisabled (breaker : CircuitBreaker) (now : ℕ) : Bool × CircuitBreaker :=
  match breaker.disabledUntilMs with
  | none => (false, breaker)
  | some disabledUntilMs =>
      if disabledUntilMs ≤ now then (false, { breaker with disabledUntilMs := none })
      else (true, breaker)

/-- `recordDispatchSuccess` -/
def recordDispatchSuccess (_ : CircuitBreaker) : CircuitBreaker := closed

/-- `recordDispatchFailure`, up to its first await. -/
def recordDispatchFailure (breaker : CircuitBreaker) : CircuitBreaker :=
  { breaker with consecutiveFailures := breaker.consecutiveFailures + 1 }

/-- `recordDispatchFailure`, after its first await. -/
def openIfDue (breaker : CircuitBreaker) (now : ℕ) : CircuitBreaker :=
  if circuitBreakerThreshold ≤ breaker.consecutiveFailures ∧ breaker.disabledUntilMs = none then
    { breaker with disabledUntilMs := some (now + circuitBreakerCooldownMs) }
  else breaker

variable {breaker : CircuitBreaker} {now : ℕ}

@[simp] lemma isOpen_closed : closed.isOpen now = false := rfl

lemma isOpen_of_none (h : breaker.disabledUntilMs = none) : breaker.isOpen now = false := by
  simp [isOpen, h]

lemma isOpen_of_later {ms : ℕ} (h : breaker.isOpen (now + ms) = true) :
    breaker.isOpen now = true := by
  unfold isOpen at h ⊢
  cases hUntil : breaker.disabledUntilMs with
  | none => simp [hUntil] at h
  | some disabledUntilMs =>
      simp only [hUntil, decide_eq_true_eq] at h ⊢
      omega

/-- The answer of `isDispatchDisabled` is that of `isOpen`, and what is not open is cleared. -/
lemma isDispatchDisabled_fst : (breaker.isDispatchDisabled now).1 = breaker.isOpen now := by
  unfold isDispatchDisabled isOpen
  cases breaker.disabledUntilMs with
  | none => rfl
  | some disabledUntilMs =>
      simp only
      split
      · next hle => simp [Nat.not_lt.mpr hle]
      · next hlt => simp [Nat.not_le.mp hlt]

lemma isDispatchDisabled_snd_of_open (h : breaker.isOpen now = true) :
    (breaker.isDispatchDisabled now).2 = breaker := by
  unfold isDispatchDisabled
  unfold isOpen at h
  cases hUntil : breaker.disabledUntilMs with
  | none => rfl
  | some disabledUntilMs =>
      simp only [hUntil, decide_eq_true_eq] at h
      simp only [if_neg (Nat.not_le.mpr h)]

lemma isOpen_isDispatchDisabled_snd :
    (breaker.isDispatchDisabled now).2.isOpen now = breaker.isOpen now := by
  by_cases hopen : breaker.isOpen now = true
  · rw [isDispatchDisabled_snd_of_open hopen]
  · unfold isDispatchDisabled
    cases hUntil : breaker.disabledUntilMs with
    | none => rfl
    | some disabledUntilMs =>
        simp only
        split
        · rw [isOpen_of_none rfl]
          exact (Bool.not_eq_true _ ▸ hopen).symm
        · rfl

@[simp]
lemma consecutiveFailures_isDispatchDisabled_snd :
    (breaker.isDispatchDisabled now).2.consecutiveFailures = breaker.consecutiveFailures := by
  unfold isDispatchDisabled
  split
  · rfl
  · split <;> rfl

@[simp]
lemma consecutiveFailures_openIfDue :
    (breaker.openIfDue now).consecutiveFailures = breaker.consecutiveFailures := by
  unfold openIfDue
  split <;> rfl

/-- What is open stays as it is. -/
lemma openIfDue_of_open (h : breaker.isOpen now = true) : breaker.openIfDue now = breaker := by
  unfold openIfDue
  rw [if_neg]
  rintro ⟨-, hnone⟩
  rw [isOpen_of_none hnone] at h
  cases h

/-- The breaker opens when enough failures have been counted and no cooldown is in place. -/
lemma isOpen_openIfDue_of_not_open (h : breaker.isOpen now = false) :
    (breaker.openIfDue now).isOpen now = true ↔
      circuitBreakerThreshold ≤ breaker.consecutiveFailures ∧ breaker.disabledUntilMs = none := by
  unfold openIfDue
  split
  · next hdue =>
      refine iff_of_true ?_ hdue
      simp [isOpen, circuitBreakerCooldownMs]
  · next hdue => exact iff_of_false (by simp [h]) hdue

end CircuitBreaker

/-! ## Dispatches in flight -/

/-- What a dispatch does next. -/
inductive DispatchPoint where
  /-- It waits for the stored state. -/
  | hydrating
  /-- It asks whether dispatch is disabled. -/
  | checking
  /-- Dispatch was not disabled; the reaction starts. -/
  | passed
  /-- The reaction is running. -/
  | reacting
  /-- It has counted its failure and decides whether to open the breaker.  History: how many
  failures in a row there were with its own, since an admin last reset the breaker. -/
  | failing (inARow : ℕ)
deriving DecidableEq

/-- The failures in a row a dispatch has counted. -/
def DispatchPoint.inARow : DispatchPoint → ℕ
  | failing inARow => inARow
  | _ => 0

/-- An admin resets the breaker: the failures before no longer count. -/
def DispatchPoint.reset : DispatchPoint → DispatchPoint
  | failing _ => failing 0
  | point => point

/-- The module with the dispatches in flight. -/
structure WebhookDispatcher where
  now : ℕ
  breaker : CircuitBreaker
  hydrated : Bool
  dispatches : List DispatchPoint
  /-- History: the reactions that have failed since the last one that succeeded, or since the last
  reset by an admin. -/
  failedInARow : ℕ
  /-- History: the stored state has been read, or a reaction has been recorded. -/
  recorded : Bool
deriving DecidableEq

inductive DispatchAction where
  | waits (ms : ℕ)
  /-- A webhook is received, or replayed. -/
  | arrives
  /-- The stored state comes in, if there is one. -/
  | hydrates (i : ℕ) (row : Option CircuitBreaker)
  | checks (i : ℕ)
  | starts (i : ℕ)
  | succeeds (i : ℕ)
  | fails (i : ℕ)
  | decides (i : ℕ)
  /-- `resetCircuitBreaker` -/
  | resets
deriving DecidableEq

namespace WebhookDispatcher

/-- The module has been loaded. -/
def start (now : ℕ) : WebhookDispatcher where
  now := now
  breaker := .closed
  hydrated := false
  dispatches := []
  failedInARow := 0
  recorded := false

/-- The breaker is open. -/
def isOpen (w : WebhookDispatcher) : Bool := w.breaker.isOpen w.now

def step (w : WebhookDispatcher) : DispatchAction → Option WebhookDispatcher
  | .waits ms => some { w with now := w.now + ms }
  | .arrives =>
      some { w with
        hydrated := true
        dispatches := w.dispatches ++ [if w.hydrated then .checking else .hydrating] }
  | .hydrates i row =>
      if w.dispatches[i]? = some .hydrating then
        let dispatches := w.dispatches.set i .checking
        match row with
        | none => some { w with dispatches := dispatches }
        | some row =>
            some { w with
              breaker := row
              dispatches := dispatches
              failedInARow := if w.recorded then w.failedInARow else row.consecutiveFailures
              recorded := true }
      else none
  | .checks i =>
      if w.dispatches[i]? = some .checking then
        let (disabled, breaker) := w.breaker.isDispatchDisabled w.now
        some { w with
          breaker := breaker
          dispatches :=
            if disabled then w.dispatches.eraseIdx i else w.dispatches.set i .passed }
      else none
  | .starts i =>
      if w.dispatches[i]? = some .passed then
        some { w with dispatches := w.dispatches.set i .reacting }
      else none
  | .succeeds i =>
      if w.dispatches[i]? = some .reacting then
        some { w with
          breaker := w.breaker.recordDispatchSuccess
          dispatches := w.dispatches.eraseIdx i
          failedInARow := 0
          recorded := true }
      else none
  | .fails i =>
      if w.dispatches[i]? = some .reacting then
        some { w with
          breaker := w.breaker.recordDispatchFailure
          dispatches := w.dispatches.set i (.failing (w.failedInARow + 1))
          failedInARow := w.failedInARow + 1
          recorded := true }
      else none
  | .decides i =>
      match w.dispatches[i]? with
      | some (.failing _) =>
          some { w with
            breaker := w.breaker.openIfDue w.now
            dispatches := w.dispatches.eraseIdx i }
      | _ => none
  | .resets =>
      some { w with
        breaker := .closed
        dispatches := w.dispatches.map DispatchPoint.reset
        failedInARow := 0
        recorded := true }

end WebhookDispatcher

end ExpresSync
