import ExpresSync.Model.SyncScheduler

/-!
# What the look-back window reaches

A run sees what has stopped in the last 24 hours.  On the quarter-hourly and the hourly pattern that
is always enough, provided that runs are over within 23 hours; on the weekly pattern it is enough
only for what stops on the day before a Sunday run.  `noneEscapes_of_sundayInReach` says so for
every run of the worker, and `not_listed_of_outOfReach` that only a manual trigger helps otherwise.
-/

namespace ExpresSync

open Transition

/-! ## The property -/

namespace SyncWorker

/-- The transaction has been on the list of a run. -/
def Listed (w : SyncWorker) (tx : StEvETransaction) : Prop := ∃ list ∈ w.lists, tx ∈ list

instance (w : SyncWorker) (tx : StEvETransaction) : Decidable (w.Listed tx) := by
  unfold Listed
  infer_instance

/-- Every completed transaction has been on the list of a run, unless the look-back still reaches
it. -/
def NoneEscapes (w : SyncWorker) : Prop :=
  ∀ tx ∈ w.transactions, ∀ stop ∈ tx.stopTimestamp,
    w.Listed tx ∨ lookbackStart syncLookbackMinutes w.now ≤ stop

instance (w : SyncWorker) : Decidable w.NoneEscapes := by
  unfold NoneEscapes
  infer_instance

end SyncWorker

/-! ## The condition -/

/-- The look-back of the next Sunday run reaches a stop. -/
def sundayReaches (now stop : ℕ) : Prop :=
  lookbackStart syncLookbackMinutes (computeNextRun .dormant now) ≤ stop

instance (now stop : ℕ) : Decidable (sundayReaches now stop) := by
  unfold sundayReaches
  infer_instance

/-- An evaluation that installs the weekly pattern: by a pin, or because nothing is charging, no tag
has changed and the tier is dormant already or has been held long enough. -/
def SyncScheduleState.goesDormant (state : SyncScheduleState) (isActive hasRecentActivity : Bool)
    (now : ℕ) : Bool :=
  match state.activePin now with
  | some pinnedTier => pinnedTier == .dormant
  | none =>
      !isActive && !hasRecentActivity &&
        (state.currentTier == .dormant || syncIdleHysteresisTicks ≤ state.consecutiveIdleTicks + 1)

/-- A run in progress is over within 23 hours. -/
def EndsInTime (w : SyncWorker) : WorkerAction → Prop
  | .waits ms => ∀ startedAt ∈ w.syncStartedAt, w.now + ms ≤ startedAt + 82800000
  | .cronFires => ∀ startedAt ∈ w.syncStartedAt, w.nextRun ≤ startedAt + 82800000
  | _ => True

/-- What stops on the weekly pattern, or during a run after which it is installed, is in reach of
the next Sunday run. -/
def SundayInReach (w : SyncWorker) : WorkerAction → Prop
  | .stops _ _ => w.syncStartedAt = none → w.cronTier = .dormant → sundayReaches w.now w.now
  | .runEnds activeTxs tags =>
      w.scheduleState.goesDormant (hasActiveSignal activeTxs tags)
          (hasRecentActivity w.tagChangeLog w.now) w.now = true →
        ∀ startedAt ∈ w.syncStartedAt, ∀ tx ∈ w.transactions, ∀ stop ∈ tx.stopTimestamp,
          formatDateForStEvE startedAt ≤ stop → sundayReaches w.now stop
  | _ => True

instance (w : SyncWorker) (a : WorkerAction) : Decidable (EndsInTime w a) := by
  unfold EndsInTime
  rcases a <;> infer_instance

instance (w : SyncWorker) (a : WorkerAction) : Decidable (SundayInReach w a) := by
  unfold SundayInReach
  rcases a <;> infer_instance

/-! ## The cadence -/

/-- An evaluation installs the weekly pattern exactly in these cases. -/
lemma newTier_eq_dormant_iff {state : SyncScheduleState} {isActive hasRecentActivity : Bool}
    {now : ℕ} :
    (evaluateAndReschedule state isActive hasRecentActivity now).2.newTier = .dormant ↔
      state.goesDormant isActive hasRecentActivity now = true := by
  unfold evaluateAndReschedule SyncScheduleState.goesDormant
  cases hpin : state.activePin now with
  | some pinnedTier => simp
  | none =>
      have hprevious : state.effectiveTier now = state.currentTier := by
        simp [SyncScheduleState.effectiveTier, hpin]
      simp only [hprevious]
      by_cases hticks : syncIdleHysteresisTicks ≤ state.consecutiveIdleTicks + 1
      all_goals
        cases isActive <;> cases hasRecentActivity <;> cases state.currentTier <;>
          simp [targetTier, isDemotion, SyncTier.rank, hticks]

/-- The next time of a pattern other than the weekly one is at most an hour away. -/
lemma computeNextRun_le {tier : SyncTier} (htier : tier ≠ .dormant) (now : ℕ) :
    computeNextRun tier now ≤ now + 3600000 := by
  have hle := (tierPeriodic tier).next_le now
  have hperiod : (tierPeriodic tier).period ≤ 3600000 := by
    cases tier with
    | active => decide
    | idle => decide
    | dormant => exact absurd rfl htier
  unfold computeNextRun
  omega

lemma lookbackStart_mono {earlier later : ℕ} (h : earlier ≤ later) :
    lookbackStart syncLookbackMinutes earlier ≤ lookbackStart syncLookbackMinutes later := by
  unfold lookbackStart formatDateForStEvE syncLookbackMinutes
  omega

/-- Within a day the look-back reaches a whole period back. -/
lemma lookbackStart_le {earlier later : ℕ} (h : later ≤ earlier + 86400000) :
    lookbackStart syncLookbackMinutes later ≤ formatDateForStEvE earlier := by
  unfold lookbackStart formatDateForStEvE syncLookbackMinutes
  omega

/-! ## The lists -/

namespace SyncWorker

variable {w : SyncWorker} {tx : StEvETransaction} {stop : ℕ}

lemma mem_getRecentlyCompleted {transactions : List StEvETransaction} {minutesAgo now : ℕ}
    (hstop : tx.stopTimestamp = some stop) :
    tx ∈ getRecentlyCompletedTransactions transactions minutesAgo now ↔
      tx ∈ transactions ∧ lookbackStart minutesAgo now ≤ stop ∧ stop ≤ formatDateForStEvE now := by
  simp [getRecentlyCompletedTransactions, stoppedBetween, hstop]

/-- What a run adds to what has been listed. -/
lemma listed_runSync (hstop : tx.stopTimestamp = some stop) :
    w.runSync.Listed tx ↔ w.Listed tx ∨ tx ∈ w.transactions ∧
      lookbackStart syncLookbackMinutes w.now ≤ stop ∧ stop ≤ formatDateForStEvE w.now := by
  unfold Listed runSync
  simp only [List.mem_append, List.mem_singleton]
  rw [← mem_getRecentlyCompleted hstop]
  constructor
  · rintro ⟨list, hold | rfl, htx⟩
    · exact Or.inl ⟨list, hold, htx⟩
    · exact Or.inr htx
  · rintro (⟨list, hold, htx⟩ | htx)
    · exact ⟨list, Or.inl hold, htx⟩
    · exact ⟨_, Or.inr rfl, htx⟩

lemma lt_nextRun (w : SyncWorker) : w.now < w.nextRun := (tierPeriodic w.cronTier).lt_next w.now

/-- Waiting does not move the next time of the cron job. -/
lemma nextRun_of_waits {ms : ℕ} (hbefore : w.now + ms < w.nextRun) :
    computeNextRun w.cronTier (w.now + ms) = w.nextRun :=
  (tierPeriodic w.cronTier).next_of_lt (by omega) hbefore

lemma handleSync_of_idle (hidle : w.syncStartedAt = none) : w.handleSync = w.runSync := by
  simp [handleSync, hidle]

lemma handleSync_of_running {startedAt : ℕ} (hrun : w.syncStartedAt = some startedAt) :
    w.handleSync = w := by
  simp [handleSync, hrun]

/-! ## The invariant -/

/-- What has stopped earlier has been listed, or the next run will list it. -/
def coveredUntil (w : SyncWorker) : ℕ :=
  match w.syncStartedAt with
  | none => lookbackStart syncLookbackMinutes w.nextRun
  | some startedAt => formatDateForStEvE startedAt

lemma coveredUntil_of_idle (hidle : w.syncStartedAt = none) :
    w.coveredUntil = lookbackStart syncLookbackMinutes w.nextRun := by
  simp [coveredUntil, hidle]

lemma coveredUntil_of_running {startedAt : ℕ} (hrun : w.syncStartedAt = some startedAt) :
    w.coveredUntil = formatDateForStEvE startedAt := by
  simp [coveredUntil, hrun]

/-- Everything completed that has not been listed is in reach of the next run. -/
structure InReach (w : SyncWorker) : Prop where
  unlisted : ∀ tx ∈ w.transactions, ∀ stop ∈ tx.stopTimestamp, ¬w.Listed tx → w.coveredUntil ≤ stop
  started : ∀ startedAt ∈ w.syncStartedAt, startedAt ≤ w.now ∧ w.now ≤ startedAt + 82800000

/-- A run lists what its look-back reaches and is told about everything up to its start. -/
lemma runSync_inReach
    (hreach : ∀ tx ∈ w.transactions, ∀ stop ∈ tx.stopTimestamp, ¬w.Listed tx →
      lookbackStart syncLookbackMinutes w.now ≤ stop) : w.runSync.InReach := by
  constructor
  · intro tx htx stop hstop hunlisted
    rw [listed_runSync hstop] at hunlisted
    push Not at hunlisted
    have hlate := hunlisted.2 htx (hreach tx htx stop hstop hunlisted.1)
    exact hlate.le
  · intro startedAt hstarted
    obtain rfl : w.now = startedAt := by simpa [runSync] using hstarted
    exact ⟨le_rfl, by simp [runSync]⟩

lemma handleSync_inReach
    (hidle : w.syncStartedAt = none → ∀ tx ∈ w.transactions, ∀ stop ∈ tx.stopTimestamp,
      ¬w.Listed tx → lookbackStart syncLookbackMinutes w.now ≤ stop)
    (hrunning : ∀ startedAt, w.syncStartedAt = some startedAt → w.InReach) :
    w.handleSync.InReach := by
  cases hrun : w.syncStartedAt with
  | none =>
      rw [handleSync_of_idle hrun]
      exact runSync_inReach (hidle hrun)
  | some startedAt =>
      rw [handleSync_of_running hrun]
      exact hrunning startedAt hrun

lemma start_inReach (state : SyncScheduleState) (tagChangeLog : List ℕ) (now : ℕ) :
    (start state tagChangeLog now).InReach := by
  unfold start
  split
  · rw [handleSync_of_idle rfl]
    exact runSync_inReach (by simp)
  · exact ⟨by simp, by simp⟩

/-- The property follows from the invariant. -/
lemma InReach.noneEscapes (h : w.InReach) : w.NoneEscapes := by
  intro tx htx stop hstop
  by_cases hlisted : w.Listed tx
  · exact Or.inl hlisted
  · right
    have hcovered := h.unlisted tx htx stop hstop hlisted
    cases hrun : w.syncStartedAt with
    | none =>
        rw [coveredUntil_of_idle hrun] at hcovered
        calc lookbackStart syncLookbackMinutes w.now
            ≤ lookbackStart syncLookbackMinutes w.nextRun := lookbackStart_mono w.lt_nextRun.le
          _ ≤ stop := hcovered
    | some startedAt =>
        rw [coveredUntil_of_running hrun] at hcovered
        have hnow := (h.started startedAt hrun).2
        exact (lookbackStart_le (by omega)).trans hcovered

/-! ## Steps -/

/-- The list of transactions after one of them has stopped. -/
lemma mem_stopped {i : ℕ} {stopValue : String}
    (htx : tx ∈ w.transactions.modify i fun tx =>
      { tx with
        stopTimestamp := some w.now
        stopValue := some stopValue }) :
    tx ∈ w.transactions ∨ tx.stopTimestamp = some w.now := by
  obtain ⟨j, hj⟩ := List.mem_iff_getElem?.mp htx
  rw [List.getElem?_modify] at hj
  obtain ⟨tx', htx', heq⟩ := Option.map_eq_some_iff.mp hj
  split at heq
  · exact Or.inr (by rw [← heq])
  · exact Or.inl (List.mem_iff_getElem?.mpr ⟨j, by rw [htx', ← heq]⟩)

namespace InReach

lemma waits {ms : ℕ} (h : w.InReach) (hends : EndsInTime w (.waits ms))
    (hbefore : w.now + ms < w.nextRun) : InReach { w with now := w.now + ms } := by
  constructor
  · intro tx htx stop hstop hunlisted
    have hcovered := h.unlisted tx htx stop hstop hunlisted
    unfold coveredUntil nextRun at hcovered ⊢
    rwa [nextRun_of_waits hbefore]
  · intro startedAt hstarted
    exact ⟨(h.started startedAt hstarted).1.trans (Nat.le_add_right _ _), hends startedAt hstarted⟩

lemma fires (h : w.InReach) (hends : EndsInTime w .cronFires) :
    InReach { w with now := w.nextRun }.handleSync := by
  apply handleSync_inReach
  · intro hidle tx htx stop hstop hunlisted
    have hcovered := h.unlisted tx htx stop hstop hunlisted
    rwa [coveredUntil_of_idle (w := w) hidle] at hcovered
  · intro startedAt hrun
    refine ⟨fun tx htx stop hstop hunlisted => ?_, fun startedAt' hstarted => ?_⟩
    · rw [coveredUntil_of_running hrun]
      have hcovered := h.unlisted tx htx stop hstop hunlisted
      rwa [coveredUntil_of_running (w := w) hrun] at hcovered
    · exact ⟨(h.started startedAt' hstarted).1.trans w.lt_nextRun.le, hends startedAt' hstarted⟩

/-- The end of a run: what has stopped since its list was read is the next run's. -/
lemma runEnds {activeTxs : Except String (List StEvETransaction)}
    {tags : Except String (List StEvEOcppTag)} {startedAt : ℕ} (h : w.InReach)
    (hsunday : SundayInReach w (.runEnds activeTxs tags))
    (hrun : w.syncStartedAt = some startedAt) (state : SyncScheduleState) {tier : SyncTier}
    (htier : tier = .dormant ↔ w.scheduleState.goesDormant (hasActiveSignal activeTxs tags)
      (hasRecentActivity w.tagChangeLog w.now) w.now = true) :
    InReach { w with scheduleState := state, cronTier := tier, syncStartedAt := none } := by
  refine ⟨fun tx htx stop hstop hunlisted => ?_, by simp⟩
  have hcovered := h.unlisted tx htx stop hstop hunlisted
  rw [coveredUntil_of_running hrun] at hcovered
  by_cases hdormant : tier = .dormant
  · subst hdormant
    exact hsunday (htier.mp rfl) startedAt hrun tx htx stop hstop hcovered
  · have hnext := computeNextRun_le hdormant w.now
    have hnow := (h.started startedAt hrun).2
    exact (lookbackStart_le (hnext.trans (by omega))).trans hcovered

lemma triggered (h : w.InReach) (state : SyncScheduleState) (tier : SyncTier) :
    InReach { w with scheduleState := state, cronTier := tier }.handleSync := by
  apply handleSync_inReach
  · intro _ tx htx stop hstop hunlisted
    exact (h.noneEscapes tx htx stop hstop).resolve_left hunlisted
  · intro startedAt hrun
    refine ⟨fun tx htx stop hstop hunlisted => ?_, h.started⟩
    rw [coveredUntil_of_running hrun]
    have hcovered := h.unlisted tx htx stop hstop hunlisted
    rwa [coveredUntil_of_running (w := w) hrun] at hcovered

lemma starts (h : w.InReach) (hactive : tx.stopTimestamp = none) :
    InReach { w with transactions := w.transactions ++ [tx] } := by
  refine ⟨fun tx' htx' stop hstop hunlisted => ?_, h.started⟩
  rcases List.mem_append.mp htx' with hold | hnew
  · exact h.unlisted tx' hold stop hstop hunlisted
  · obtain rfl := List.mem_singleton.mp hnew
    rw [hactive] at hstop
    cases hstop

lemma stops {i : ℕ} {stopValue : String} (h : w.InReach)
    (hsunday : SundayInReach w (.stops i stopValue)) :
    InReach { w with transactions := w.transactions.modify i fun tx =>
      { tx with
        stopTimestamp := some w.now
        stopValue := some stopValue } } := by
  refine ⟨fun tx htx stop hstop hunlisted => ?_, h.started⟩
  rcases mem_stopped htx with hold | hnow
  · exact h.unlisted tx hold stop hstop hunlisted
  · obtain rfl : w.now = stop := Option.some.inj (hnow.symm.trans hstop)
    change w.coveredUntil ≤ w.now
    cases hrun : w.syncStartedAt with
    | none =>
        rw [coveredUntil_of_idle hrun]
        by_cases hdormant : w.cronTier = .dormant
        · have hreaches : sundayReaches w.now w.now := hsunday hrun hdormant
          simpa only [sundayReaches, nextRun, hdormant] using hreaches
        · calc lookbackStart syncLookbackMinutes w.nextRun
              ≤ formatDateForStEvE w.now :=
                lookbackStart_le ((computeNextRun_le hdormant w.now).trans (by omega))
            _ ≤ w.now := Nat.div_mul_le_self _ _
    | some startedAt =>
        rw [coveredUntil_of_running hrun]
        calc formatDateForStEvE startedAt ≤ startedAt := Nat.div_mul_le_self _ _
          _ ≤ w.now := (h.started startedAt hrun).1

end InReach

/-- A step that meets the conditions keeps the invariant. -/
lemma InReach.step {a : WorkerAction} {w' : SyncWorker} (h : w.InReach) (hends : EndsInTime w a)
    (hsunday : SundayInReach w a) (hstep : w.step a = some w') : w'.InReach := by
  cases a with
  | waits ms =>
      obtain ⟨hbefore, heq⟩ := Option.ite_none_right_eq_some.mp hstep
      obtain rfl := Option.some.inj heq
      exact h.waits hends hbefore
  | cronFires =>
      obtain rfl := Option.some.inj hstep
      exact h.fires hends
  | runEnds activeTxs tags =>
      obtain ⟨⟨hrun, -⟩, heq⟩ := Option.ite_none_right_eq_some.mp hstep
      obtain rfl := Option.some.inj heq
      obtain ⟨startedAt, hstarted⟩ := Option.isSome_iff_exists.mp hrun
      exact h.runEnds hsunday hstarted _ newTier_eq_dormant_iff
  | triggered =>
      obtain rfl := Option.some.inj hstep
      exact h.triggered _ _
  | starts tx =>
      obtain ⟨hactive, heq⟩ := Option.ite_none_right_eq_some.mp hstep
      obtain rfl := Option.some.inj heq
      exact h.starts hactive
  | stops i stopValue =>
      obtain ⟨-, heq⟩ := Option.ite_none_right_eq_some.mp hstep
      obtain rfl := Option.some.inj heq
      exact h.stops hsunday
  | tagChanged =>
      obtain rfl := Option.some.inj hstep
      exact ⟨h.unlisted, h.started⟩
  | pinned tier hours =>
      obtain ⟨-, heq⟩ := Option.ite_none_right_eq_some.mp hstep
      obtain rfl := Option.some.inj heq
      exact ⟨h.unlisted, h.started⟩
  | pinCleared =>
      obtain rfl := Option.some.inj hstep
      exact ⟨h.unlisted, h.started⟩

end SyncWorker

/-- When every run is over in time and what stops on the weekly pattern is in reach of the next
Sunday run, no completed transaction escapes the look-back window. -/
theorem noneEscapes_of_sundayInReach (state : SyncScheduleState) (tagChangeLog : List ℕ) (now : ℕ)
    (as : List WorkerAction)
    (hends : Meets SyncWorker.step EndsInTime (SyncWorker.start state tagChangeLog now) as)
    (hsunday : Meets SyncWorker.step SundayInReach (SyncWorker.start state tagChangeLog now) as) :
    Always SyncWorker.step SyncWorker.NoneEscapes (SyncWorker.start state tagChangeLog now) as := by
  have hinv := SyncWorker.start_inReach state tagChangeLog now
  refine ⟨hinv.noneEscapes, Meets.eachStep (I := SyncWorker.InReach) ?_ ?_ hinv
    (meets_and.mpr ⟨hends, hsunday⟩)⟩
  · exact fun _ _ _ h hC hstep => h.step hC.1 hC.2 hstep
  · exact fun _ _ _ h hC hstep => (h.step hC.1 hC.2 hstep).noneEscapes

namespace Scenario

/-- Monday, 5 January 2026, 00:00 UTC. -/
def monday : ℕ := 1767571200000

/-- A run that starts with the cron job and takes a minute, with nothing charging. -/
def quietRun : List WorkerAction := [.cronFires, .waits 60000, .runEnds (.ok []) (.ok [])]

/-- A session of ten minutes. -/
def shortSession : List WorkerAction :=
  [.starts ⟨7, "CB-1", 1, "CARD-1", monday, "0", none, none⟩, .waits 600000, .stops 0 "2000"]

/-- On the hourly pattern a session is listed by the next run. -/
def idleSession : List WorkerAction :=
  [.tagChanged] ++ quietRun ++ shortSession ++ quietRun

/-- With nothing charging and no tag changes the second run goes to the weekly pattern. -/
def dormantSession : List WorkerAction :=
  quietRun ++ quietRun ++ shortSession ++ [.cronFires]

end Scenario

theorem noneEscapes_of_idle_session :
    Always SyncWorker.step SyncWorker.NoneEscapes
      (SyncWorker.start SyncScheduleState.init [] Scenario.monday) Scenario.idleSession :=
  noneEscapes_of_sundayInReach _ _ _ _ (by decide +kernel) (by decide +kernel)

/-- A session on a Monday is over before the Sunday run looks back, and no run is ever given it. -/
theorem not_noneEscapes_of_dormant :
    ¬Always SyncWorker.step SyncWorker.NoneEscapes
      (SyncWorker.start SyncScheduleState.init [] Scenario.monday) Scenario.dormantSession := by
  decide +kernel

/-! ## What a manual trigger is needed for -/

namespace SyncWorker

variable {w w' : SyncWorker} {a : WorkerAction} {tx : StEvETransaction} {stop : ℕ}

/-- The transaction has not been listed and cannot be any more, or will not be by the next run of
the cron job. -/
def Missed (w : SyncWorker) (tx : StEvETransaction) (stop : ℕ) : Prop :=
  ¬w.Listed tx ∧ (stop < lookbackStart syncLookbackMinutes w.now ∨
    w.syncStartedAt = none ∧ stop < lookbackStart syncLookbackMinutes w.nextRun)

lemma Missed.handleSync (hstop : tx.stopTimestamp = some stop) (hunlisted : ¬w.Listed tx)
    (hout : stop < lookbackStart syncLookbackMinutes w.now) : w.handleSync.Missed tx stop := by
  cases hrun : w.syncStartedAt with
  | none =>
      rw [handleSync_of_idle hrun]
      refine ⟨fun hlisted => ?_, Or.inl hout⟩
      rcases (listed_runSync hstop).mp hlisted with hbefore | ⟨-, hreach, -⟩
      · exact hunlisted hbefore
      · omega
  | some startedAt =>
      rw [handleSync_of_running hrun]
      exact ⟨hunlisted, Or.inl hout⟩

/-- A step other than a manual trigger does not help. -/
lemma Missed.step (h : w.Missed tx stop) (hstop : tx.stopTimestamp = some stop)
    (hmanual : a ≠ .triggered) (hstep : w.step a = some w') : w'.Missed tx stop := by
  obtain ⟨hunlisted, hout⟩ := h
  cases a with
  | waits ms =>
      obtain ⟨hbefore, heq⟩ := Option.ite_none_right_eq_some.mp hstep
      obtain rfl := Option.some.inj heq
      refine ⟨hunlisted, hout.imp (fun h => h.trans_le (lookbackStart_mono (by simp))) ?_⟩
      rintro ⟨hidle, hnext⟩
      refine ⟨hidle, ?_⟩
      rwa [nextRun, nextRun_of_waits hbefore]
  | cronFires =>
      obtain rfl := Option.some.inj hstep
      refine Missed.handleSync hstop hunlisted ?_
      rcases hout with hnow | ⟨-, hnext⟩
      · exact hnow.trans_le (lookbackStart_mono w.lt_nextRun.le)
      · exact hnext
  | runEnds activeTxs tags =>
      obtain ⟨⟨hrun, -⟩, heq⟩ := Option.ite_none_right_eq_some.mp hstep
      obtain rfl := Option.some.inj heq
      refine ⟨hunlisted, Or.inl (hout.resolve_right fun hidle => ?_)⟩
      rw [hidle.1] at hrun
      cases hrun
  | triggered => exact absurd rfl hmanual
  | starts tx =>
      obtain ⟨-, heq⟩ := Option.ite_none_right_eq_some.mp hstep
      obtain rfl := Option.some.inj heq
      exact ⟨hunlisted, hout⟩
  | stops i stopValue =>
      obtain ⟨-, heq⟩ := Option.ite_none_right_eq_some.mp hstep
      obtain rfl := Option.some.inj heq
      exact ⟨hunlisted, hout⟩
  | tagChanged =>
      obtain rfl := Option.some.inj hstep
      exact ⟨hunlisted, hout⟩
  | pinned tier hours =>
      obtain ⟨-, heq⟩ := Option.ite_none_right_eq_some.mp hstep
      obtain rfl := Option.some.inj heq
      exact ⟨hunlisted, hout⟩
  | pinCleared =>
      obtain rfl := Option.some.inj hstep
      exact ⟨hunlisted, hout⟩

/-- A transaction the next run of the cron job does not look back to is never listed, unless
somebody triggers a run. -/
theorem not_listed_of_outOfReach {as : List WorkerAction} (hstop : tx.stopTimestamp = some stop)
    (hunlisted : ¬w.Listed tx) (hidle : w.syncStartedAt = none)
    (hout : stop < lookbackStart syncLookbackMinutes w.nextRun)
    (hmanual : Meets SyncWorker.step (fun _ a => a ≠ .triggered) w as)
    (hrun : run SyncWorker.step w as = some w') : ¬w'.Listed tx := by
  have hmissed : w'.Missed tx stop :=
    Meets.invariant (I := fun w => w.Missed tx stop)
      (fun _ _ _ h hnot hstep => h.step hstop hnot hstep)
      ⟨hunlisted, Or.inr ⟨hidle, hout⟩⟩ hmanual hrun
  exact hmissed.1

end SyncWorker

end ExpresSync
