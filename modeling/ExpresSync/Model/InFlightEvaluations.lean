import ExpresSync.Model.SyncScheduler

/-!
# Evaluations in flight

`evaluateAndReschedule` loads the row of `sync_schedule_state`, asks the database whether the pin is
active, probes StEvE and `tag_change_log`, and only then updates the row; each of these is awaited.
`handleSync` lets go of `isSyncing` before its evaluation starts, so the next run may be over, and
have its own evaluation, while the first is still in flight.

A `SchedulerRun` is the row with the evaluations in flight.  `onActivityDetected`, `setPin` and
`clearPin` are single updates of the row.  The worker's clock, by which a loaded pin is judged and
the next run computed, is not the clock of the database: a step that reads it is given the time.
-/

namespace ExpresSync

/-- The tier and the ticks an unpinned evaluation decides on. -/
def applyHysteresis (previousTier : SyncTier) (currentTicks : ℕ) (targetTier : SyncTier) :
    SyncTier × ℕ :=
  if isDemotion previousTier targetTier then
    if syncIdleHysteresisTicks ≤ currentTicks + 1 then (targetTier, 0)
    else (previousTier, currentTicks + 1)
  else (targetTier, 0)

/-! ## One evaluation -/

/-- What an evaluation does next. -/
inductive EvaluationPoint where
  /-- It asks whether the pin is active. -/
  | isPinActive
  /-- It asks StEvE for a sign of charging. -/
  | hasActiveSignal
  /-- It looks into `tag_change_log`. -/
  | hasRecentActivity (isActive : Bool)
  /-- It puts the row to the pinned tier. -/
  | updatesPinned (pinnedTier : SyncTier) (nextRunAt : ℕ)
  /-- It puts the row to the tier it has decided on, given the tier the signals ask for. -/
  | updates (targetTier : SyncTier) (nextRunAt : ℕ)
deriving DecidableEq

/-- An evaluation in flight. -/
structure Evaluation where
  /-- The row it has loaded. -/
  state : SyncScheduleState
  previousTier : SyncTier
  point : EvaluationPoint
  /-- History: an activity has been detected since the row was loaded. -/
  interrupted : Bool
deriving DecidableEq

/-- What an evaluation has been waiting for. -/
inductive EvaluationReply where
  | isPinActive (workerNow : ℕ)
  | hasActiveSignal (activeTxs : Except String (List StEvETransaction))
      (tags : Except String (List StEvEOcppTag))
  | hasRecentActivity (workerNow : ℕ)

namespace Evaluation

/-- The row is loaded. -/
def load (state : SyncScheduleState) (workerNow : ℕ) : Evaluation where
  state := state
  previousTier := state.effectiveTier workerNow
  point := .isPinActive
  interrupted := false

/-- What the evaluation decides for the tier the signals ask for. -/
def decision (e : Evaluation) (targetTier : SyncTier) : SyncTier × ℕ :=
  applyHysteresis e.previousTier e.state.consecutiveIdleTicks targetTier

/-- The evaluation asks for a demotion. -/
def asksDemotion (e : Evaluation) : Bool :=
  match e.point with
  | .updates targetTier _ => isDemotion e.previousTier targetTier
  | _ => false

/-- The next point, for the row and `tag_change_log` as they are at the database's time `now`. -/
def read (e : Evaluation) (state : SyncScheduleState) (tagChangeLog : List ℕ) (now : ℕ) :
    EvaluationReply → Option EvaluationPoint
  | .isPinActive workerNow =>
      if e.point = .isPinActive then
        match state.isPinActive now, e.state.pinnedTier with
        | true, some pinnedTier =>
            some (.updatesPinned pinnedTier (computeNextRun pinnedTier workerNow))
        | _, _ => some .hasActiveSignal
      else none
  | .hasActiveSignal activeTxs tags =>
      if e.point = .hasActiveSignal then
        some (.hasRecentActivity (ExpresSync.hasActiveSignal activeTxs tags))
      else none
  | .hasRecentActivity workerNow =>
      match e.point with
      | .hasRecentActivity isActive =>
          let targetTier := targetTier isActive (ExpresSync.hasRecentActivity tagChangeLog now)
          some (.updates targetTier (computeNextRun (e.decision targetTier).1 workerNow))
      | _ => none

/-- The row after the update, for the row before it. -/
def update (e : Evaluation) (state : SyncScheduleState) : Option SyncScheduleState :=
  match e.point with
  | .updatesPinned pinnedTier nextRunAt =>
      some { state with
        currentTier := pinnedTier
        nextRunAt := some nextRunAt }
  | .updates targetTier nextRunAt =>
      some { state with
        currentTier := (e.decision targetTier).1
        consecutiveIdleTicks := (e.decision targetTier).2
        nextRunAt := some nextRunAt }
  | _ => none

/-- The update is to the pinned tier. -/
def isPinned (e : Evaluation) : Bool :=
  match e.point with
  | .updatesPinned _ _ => true
  | _ => false

end Evaluation

/-! ## The row and its evaluations -/

/-- The row of `sync_schedule_state` with the evaluations in flight. -/
structure SchedulerRun where
  /-- The clock of the database. -/
  now : ℕ
  /-- The `detected_at` column. -/
  tagChangeLog : List ℕ
  state : SyncScheduleState
  evaluations : List Evaluation
  /-- History: the evaluations, up to the last one that is over, that asked for a demotion one after
  the other, with no activity detected since the first of them loaded the row. -/
  askedInARow : ℕ
  /-- History: a pinned evaluation has come after the last tick. -/
  pinnedSinceTick : Bool
deriving DecidableEq

inductive SchedulerAction where
  /-- Time passes. -/
  | waits (ms : ℕ)
  /-- A change of a tag is logged. -/
  | tagChanged
  | evaluationStarts (workerNow : ℕ)
  /-- The evaluation hears what it has been waiting for. -/
  | reads (i : ℕ) (reply : EvaluationReply)
  /-- The evaluation updates the row and is over. -/
  | updates (i : ℕ)
  /-- The evaluation throws, or the worker is gone. -/
  | evaluationFails (i : ℕ)
  | activityDetected
  | setPin (tier : SyncTier) (hours : ℕ)
  | clearPin

namespace SchedulerRun

/-- The scheduler over the row that `loadOrInitState` inserts. -/
def start (now : ℕ) (tagChangeLog : List ℕ) : SchedulerRun where
  now := now
  tagChangeLog := tagChangeLog
  state := .init
  evaluations := []
  askedInARow := 0
  pinnedSinceTick := false

/-- The row is updated by the evaluation, which is over. -/
def complete (w : SchedulerRun) (i : ℕ) (e : Evaluation) (state : SyncScheduleState) :
    SchedulerRun :=
  { w with
    state := state
    evaluations := w.evaluations.eraseIdx i
    askedInARow := if e.asksDemotion && !e.interrupted then w.askedInARow + 1 else 0
    pinnedSinceTick := e.isPinned && decide (0 < w.state.consecutiveIdleTicks) }

def step (w : SchedulerRun) : SchedulerAction → Option SchedulerRun
  | .waits ms => some { w with now := w.now + ms }
  | .tagChanged => some { w with tagChangeLog := w.tagChangeLog ++ [w.now] }
  | .evaluationStarts workerNow =>
      some { w with evaluations := w.evaluations ++ [Evaluation.load w.state workerNow] }
  | .reads i reply =>
      (w.evaluations[i]?).bind fun e =>
        (e.read w.state w.tagChangeLog w.now reply).map fun point =>
          { w with evaluations := w.evaluations.set i { e with point := point } }
  | .updates i =>
      (w.evaluations[i]?).bind fun e => (e.update w.state).map fun state => w.complete i e state
  | .evaluationFails i => some { w with evaluations := w.evaluations.eraseIdx i }
  | .activityDetected =>
      some { w with
        state := w.state.onActivityDetected w.now
        evaluations := w.evaluations.map fun e => { e with interrupted := true }
        askedInARow := 0
        pinnedSinceTick := false }
  | .setPin tier hours =>
      some { w with state := w.state.setPin tier (max 1 (min (24 * 14) hours)) w.now }
  | .clearPin => some { w with state := w.state.clearPin }

end SchedulerRun

/-! ## An evaluation that nothing comes between -/

lemma applyHysteresis_eq_evaluate {state : SyncScheduleState} {now : ℕ} (isActive recent : Bool)
    (hpin : state.activePin now = none) :
    (evaluateAndReschedule state isActive recent now).1 =
      { state with
        currentTier := (applyHysteresis (state.effectiveTier now) state.consecutiveIdleTicks
          (targetTier isActive recent)).1
        consecutiveIdleTicks := (applyHysteresis (state.effectiveTier now)
          state.consecutiveIdleTicks (targetTier isActive recent)).2
        nextRunAt := some (computeNextRun (applyHysteresis (state.effectiveTier now)
          state.consecutiveIdleTicks (targetTier isActive recent)).1 now) } := by
  unfold evaluateAndReschedule applyHysteresis
  simp only [hpin]
  split
  · split <;> rfl
  · rfl

/-- The reads of an evaluation and its update, one after the other. -/
def evaluationAlone (now : ℕ) (activeTxs : Except String (List StEvETransaction))
    (tags : Except String (List StEvEOcppTag)) (pinned : Bool) : List SchedulerAction :=
  if pinned then [.evaluationStarts now, .reads 0 (.isPinActive now), .updates 0]
  else
    [.evaluationStarts now, .reads 0 (.isPinActive now), .reads 0 (.hasActiveSignal activeTxs tags),
      .reads 0 (.hasRecentActivity now), .updates 0]

/-- With the clocks in step, an evaluation that nothing comes between is `evaluateAndReschedule`. -/
theorem run_evaluationAlone (w : SchedulerRun) (hnone : w.evaluations = [])
    (activeTxs : Except String (List StEvETransaction)) (tags : Except String (List StEvEOcppTag)) :
    (Transition.run SchedulerRun.step w
        (evaluationAlone w.now activeTxs tags (w.state.activePin w.now).isSome)).map (·.state) =
      some (evaluateAndReschedule w.state (hasActiveSignal activeTxs tags)
        (hasRecentActivity w.tagChangeLog w.now) w.now).1 := by
  cases hpin : w.state.activePin w.now with
  | some pinnedTier =>
      have hactive : w.state.isPinActive w.now = true := by
        by_contra hcon
        simp [SyncScheduleState.activePin, hcon] at hpin
      have htier : w.state.pinnedTier = some pinnedTier := by
        simpa [SyncScheduleState.activePin, hactive] using hpin
      simp [evaluationAlone, Transition.run, SchedulerRun.step, SchedulerRun.complete, hnone,
        Evaluation.load, Evaluation.read, Evaluation.update, evaluateAndReschedule, hpin, hactive,
        htier]
  | none =>
      rw [applyHysteresis_eq_evaluate _ _ hpin]
      have hread : (Evaluation.load w.state w.now).read w.state w.tagChangeLog w.now
          (.isPinActive w.now) = some .hasActiveSignal := by
        cases hactive : w.state.isPinActive w.now with
        | false => simp [Evaluation.load, Evaluation.read, hactive]
        | true =>
            have htier : w.state.pinnedTier = none := by
              simpa [SyncScheduleState.activePin, hactive] using hpin
            simp [Evaluation.load, Evaluation.read, hactive, htier]
      simp [evaluationAlone, Transition.run, SchedulerRun.step, SchedulerRun.complete, hnone, hread]
      simp [Evaluation.load, Evaluation.read, Evaluation.update, Evaluation.decision]

end ExpresSync
