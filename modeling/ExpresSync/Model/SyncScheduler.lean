import ExpresSync.Foundation.Cron
import ExpresSync.Foundation.Transition
import ExpresSync.Model.Types

/-!
# The sync worker and its cadence

`SyncScheduler` runs the sync on one of three cron patterns and picks the pattern again after every
run: from an admin pin, from what is being charged at that moment, and from the age of the last
entry of `tag_change_log`, with a hysteresis for demotions.  `getRecentlyCompletedTransactions`
looks a fixed time back.

`SyncWorker` puts the two together with StEvE's transactions and a clock.  A run is two steps, one
in which it reads the completed transactions and one in which it is over and the cadence is
re-evaluated; everything else may happen between them.  The configuration is the shipped one.
-/

namespace ExpresSync

/-! ## Configuration -/

/-- `SYNC_CRON_SCHEDULE`: no override. -/
def syncCronSchedule : Option Cron.Pattern := none

/-- `SYNC_LOOKBACK_MINUTES` -/
def syncLookbackMinutes : ℕ := 1440

/-- `SYNC_DORMANT_THRESHOLD_DAYS` -/
def syncDormantThresholdDays : ℕ := 30

/-- `SYNC_IDLE_HYSTERESIS_TICKS` -/
def syncIdleHysteresisTicks : ℕ := 2

/-! ## Tiers -/

inductive SyncTier where
  | active
  | idle
  | dormant
deriving DecidableEq

namespace SyncTier

def name : SyncTier → String
  | active => "active"
  | idle => "idle"
  | dormant => "dormant"

/-- The ranks of `isDemotion`. -/
def rank : SyncTier → ℕ
  | active => 0
  | idle => 1
  | dormant => 2

end SyncTier

/-- `TIER_PATTERNS`: every quarter of an hour, every hour, Sundays at 03:00. -/
def tierPatterns : SyncTier → Cron.Pattern
  | .active => ⟨.step 15, .every, .every⟩
  | .idle => ⟨.at 0, .every, .every⟩
  | .dormant => ⟨.at 0, .at 3, .at 0⟩

def patternFor (tier : SyncTier) : Cron.Pattern := syncCronSchedule.getD (tierPatterns tier)

/-- The patterns of the tiers are periodic. -/
def tierPeriodic : (tier : SyncTier) → Cron.Periodic (patternFor tier)
  | .active =>
      { period := 900000
        phase := 0
        phase_lt := by decide
        fires_iff := fun t => by
          simp only [patternFor, syncCronSchedule, tierPatterns, Option.getD_none,
            Cron.Pattern.fires, Cron.Field.matches, Cron.minuteOf, Bool.and_eq_true, beq_iff_eq,
            and_true]
          omega }
  | .idle =>
      { period := 3600000
        phase := 0
        phase_lt := by decide
        fires_iff := fun t => by
          simp only [patternFor, syncCronSchedule, tierPatterns, Option.getD_none,
            Cron.Pattern.fires, Cron.Field.matches, Cron.minuteOf, Bool.and_eq_true, beq_iff_eq,
            and_true]
          omega }
  | .dormant =>
      { period := 604800000
        phase := 270000000
        phase_lt := by decide
        fires_iff := fun t => by
          simp only [patternFor, syncCronSchedule, tierPatterns, Option.getD_none,
            Cron.Pattern.fires, Cron.Field.matches, Cron.minuteOf, Cron.hourOf, Cron.dayOfWeekOf,
            Bool.and_eq_true, beq_iff_eq]
          omega }

def computeNextRun (tier : SyncTier) (now : ℕ) : ℕ := (tierPeriodic tier).next now

def isDemotion (source target : SyncTier) : Bool := source.rank < target.rank

/-! ## `sync_schedule_state` -/

/-- The row of `sync_schedule_state`. -/
structure SyncScheduleState where
  currentTier : SyncTier
  nextRunAt : Option ℕ
  consecutiveIdleTicks : ℕ
  pinnedUntil : Option ℕ
  pinnedTier : Option SyncTier
deriving DecidableEq

namespace SyncScheduleState

/-- The row `loadOrInitState` inserts. -/
def init : SyncScheduleState where
  currentTier := .idle
  nextRunAt := none
  consecutiveIdleTicks := 0
  pinnedUntil := none
  pinnedTier := none

def isPinActive (state : SyncScheduleState) (now : ℕ) : Bool :=
  match state.pinnedUntil with
  | none => false
  | some pinnedUntil => now < pinnedUntil

/-- The tier of a pin that is active. -/
def activePin (state : SyncScheduleState) (now : ℕ) : Option SyncTier :=
  if state.isPinActive now then state.pinnedTier else none

def effectiveTier (state : SyncScheduleState) (now : ℕ) : SyncTier :=
  (state.activePin now).getD state.currentTier

def isOverdue (state : SyncScheduleState) (now : ℕ) : Bool :=
  match state.nextRunAt with
  | none => false
  | some nextRunAt => nextRunAt < now

/-- The update of `POST /api/sync/pin`. -/
def setPin (state : SyncScheduleState) (tier : SyncTier) (hours now : ℕ) : SyncScheduleState :=
  { state with
    pinnedTier := some tier
    pinnedUntil := some (now + hours * 3600000) }

/-- The update of `DELETE /api/sync/pin`. -/
def clearPin (state : SyncScheduleState) : SyncScheduleState :=
  { state with
    pinnedTier := none
    pinnedUntil := none }

/-- The update of `onActivityDetected`. -/
def onActivityDetected (state : SyncScheduleState) (now : ℕ) : SyncScheduleState :=
  { state with
    currentTier := .active
    consecutiveIdleTicks := 0
    nextRunAt := some (now + 900000) }

end SyncScheduleState

/-! ## Signals -/

/-- `hasActiveSignal`, for the answers of StEvE to its two probes; a probe that fails is skipped. -/
def hasActiveSignal (activeTxs : Except String (List StEvETransaction))
    (tags : Except String (List StEvEOcppTag)) : Bool :=
  (match activeTxs with
    | .ok activeTxs => activeTxs.any fun tx => tx.stopTimestamp == none
    | .error _ => false) ||
  (match tags with
    | .ok tags => tags.any fun t => t.inTransaction == some true
    | .error _ => false)

/-- `hasRecentActivity`, for the `detected_at` column of `tag_change_log`. -/
def hasRecentActivity (tagChangeLog : List ℕ) (now : ℕ) : Bool :=
  tagChangeLog.any fun detectedAt => now < detectedAt + syncDormantThresholdDays * 86400000

/-! ## `evaluateAndReschedule` -/

structure SchedulerEvaluationResult where
  previousTier : SyncTier
  newTier : SyncTier
  reason : String
  pattern : Cron.Pattern
  nextRunAt : ℕ
  pinned : Bool

/-- The tier the signals ask for. -/
def targetTier (isActive hasRecentActivity : Bool) : SyncTier :=
  if isActive then .active else if hasRecentActivity then .idle else .dormant

/-- Why they ask for it. -/
def targetReason (isActive hasRecentActivity : Bool) : String :=
  if isActive then "active tx or in-transaction tag"
  else if hasRecentActivity then
    "tag/tx activity within last " ++ Nat.repr syncDormantThresholdDays ++ "d"
  else "no tx and no tag changes for " ++ Nat.repr syncDormantThresholdDays ++ "d+"

/-- `evaluateAndReschedule`: the row it writes and the evaluation it returns.  The cron is installed
for `newTier`. -/
def evaluateAndReschedule (state : SyncScheduleState) (isActive hasRecentActivity : Bool)
    (now : ℕ) :
    SyncScheduleState × SchedulerEvaluationResult :=
  let previousTier := state.effectiveTier now
  match state.activePin now with
  | some pinnedTier =>
      let nextRunAt := computeNextRun pinnedTier now
      ({ state with
          currentTier := pinnedTier
          nextRunAt := some nextRunAt },
        { previousTier := previousTier
          newTier := pinnedTier
          reason := "admin pin"
          pattern := patternFor pinnedTier
          nextRunAt := nextRunAt
          pinned := true })
  | none =>
      let targetTier := targetTier isActive hasRecentActivity
      let reason := targetReason isActive hasRecentActivity
      let willReach := state.consecutiveIdleTicks + 1
      let (newTier, newTicks, reason) :=
        if isDemotion previousTier targetTier then
          if syncIdleHysteresisTicks ≤ willReach then (targetTier, 0, reason)
          else
            (previousTier, willReach,
              reason ++ " (holding " ++ previousTier.name ++ ", tick " ++ Nat.repr willReach ++
                "/" ++
                Nat.repr syncIdleHysteresisTicks ++ ")")
        else (targetTier, 0, reason)
      let nextRunAt := computeNextRun newTier now
      ({ state with
          currentTier := newTier
          consecutiveIdleTicks := newTicks
          nextRunAt := some nextRunAt },
        { previousTier := previousTier
          newTier := newTier
          reason := reason
          pattern := patternFor newTier
          nextRunAt := nextRunAt
          pinned := false })

/-! ## The look-back window -/

/-- `formatDateForStEvE`: the milliseconds are cut off. -/
def formatDateForStEvE (date : ℕ) : ℕ := date / 1000 * 1000

/-- The transactions StEvE returns for a period: those that stopped in it. -/
def stoppedBetween (transactions : List StEvETransaction) (start stop : ℕ) :
    List StEvETransaction :=
  transactions.filter fun tx => tx.stopTimestamp.any fun t => start ≤ t && t ≤ stop

/-- The start of the period `getRecentlyCompletedTransactions` asks for. -/
def lookbackStart (minutesAgo now : ℕ) : ℕ := formatDateForStEvE (now - minutesAgo * 60 * 1000)

def getRecentlyCompletedTransactions (transactions : List StEvETransaction) (minutesAgo now : ℕ) :
    List StEvETransaction :=
  (stoppedBetween transactions (lookbackStart minutesAgo now) (formatDateForStEvE now)).filter
    fun tx => tx.stopTimestamp != none

/-! ## The worker -/

/-- The sync worker, with StEvE's transactions and the clock. -/
structure SyncWorker where
  now : ℕ
  transactions : List StEvETransaction
  /-- The `detected_at` column. -/
  tagChangeLog : List ℕ
  scheduleState : SyncScheduleState
  /-- The tier whose pattern the cron job in place has. -/
  cronTier : SyncTier
  /-- When the run in progress started. -/
  syncStartedAt : Option ℕ
  /-- Everything the runs have been given so far. -/
  lists : List (List StEvETransaction)

inductive WorkerAction where
  /-- Time passes, and the cron job does not fire. -/
  | waits (ms : ℕ)
  /-- Time passes until the cron job fires. -/
  | cronFires
  /-- The run in progress is over; StEvE answers the probes of the evaluation. -/
  | runEnds (activeTxs : Except String (List StEvETransaction))
      (tags : Except String (List StEvEOcppTag))
  /-- A manual trigger is received. -/
  | triggered
  /-- A transaction starts. -/
  | starts (tx : StEvETransaction)
  /-- A transaction stops. -/
  | stops (i : ℕ) (stopValue : String)
  /-- A change of a tag is logged. -/
  | tagChanged
  | pinned (tier : SyncTier) (hours : ℕ)
  | pinCleared

namespace SyncWorker

/-- The next time the cron job fires. -/
def nextRun (w : SyncWorker) : ℕ := computeNextRun w.cronTier w.now

/-- A run starts and reads the completed transactions. -/
def runSync (w : SyncWorker) : SyncWorker :=
  { w with
    syncStartedAt := some w.now
    lists :=
      w.lists ++ [getRecentlyCompletedTransactions w.transactions syncLookbackMinutes w.now] }

/-- `handleSync`: nothing happens while a run is in progress. -/
def handleSync (w : SyncWorker) : SyncWorker :=
  if w.syncStartedAt.isSome then w else w.runSync

/-- `SyncScheduler.start`. -/
def start (state : SyncScheduleState) (tagChangeLog : List ℕ) (now : ℕ) : SyncWorker :=
  let w : SyncWorker :=
    { now := now
      transactions := []
      tagChangeLog := tagChangeLog
      scheduleState := state
      cronTier := state.effectiveTier now
      syncStartedAt := none
      lists := [] }
  if state.isOverdue now then w.handleSync else w

/-- The transactions that have not stopped. -/
def activeTransactions (w : SyncWorker) : List StEvETransaction :=
  w.transactions.filter fun tx => tx.stopTimestamp == none

/-- StEvE answers the probe for active transactions with those there are, or not at all. -/
def MayAnswer (w : SyncWorker) : Except String (List StEvETransaction) → Prop
  | .error _ => True
  | .ok activeTxs => activeTxs = w.activeTransactions

instance (w : SyncWorker) (answer : Except String (List StEvETransaction)) :
    Decidable (w.MayAnswer answer) :=
  match answer with
  | .error _ => inferInstanceAs (Decidable True)
  | .ok activeTxs => inferInstanceAs (Decidable (activeTxs = w.activeTransactions))

/-- A step of the worker or of its surroundings. -/
def step (w : SyncWorker) : WorkerAction → Option SyncWorker
  | .waits ms => if w.now + ms < w.nextRun then some { w with now := w.now + ms } else none
  | .cronFires => some { w with now := w.nextRun }.handleSync
  | .runEnds activeTxs tags =>
      if w.syncStartedAt.isSome ∧ w.MayAnswer activeTxs then
        let (state, evaluation) :=
          evaluateAndReschedule w.scheduleState (hasActiveSignal activeTxs tags)
          (hasRecentActivity w.tagChangeLog w.now) w.now
        some { w with
          scheduleState := state
          cronTier := evaluation.newTier
          syncStartedAt := none }
      else none
  | .triggered =>
      let state := w.scheduleState.onActivityDetected w.now
      some { w with
        scheduleState := state
        cronTier := state.effectiveTier w.now }.handleSync
  | .starts tx =>
      if tx.stopTimestamp = none then some { w with transactions := w.transactions ++ [tx] }
        else none
  | .stops i stopValue =>
      if (w.transactions[i]?).any fun tx => tx.stopTimestamp == none then
        some { w with
          transactions := w.transactions.modify i fun tx =>
            { tx with
              stopTimestamp := some w.now
              stopValue := some stopValue } }
      else none
  | .tagChanged => some { w with tagChangeLog := w.tagChangeLog ++ [w.now] }
  | .pinned tier hours =>
      if 1 ≤ hours ∧ hours ≤ 336 then
        some { w with scheduleState := w.scheduleState.setPin tier hours w.now }
      else none
  | .pinCleared => some { w with scheduleState := w.scheduleState.clearPin }

end SyncWorker

end ExpresSync
