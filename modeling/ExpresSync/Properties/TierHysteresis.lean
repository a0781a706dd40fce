import ExpresSync.Foundation.Transition
import ExpresSync.Model.InFlightEvaluations

/-!
# Hysteresis under interleaving

A tier is given up for a less active one when the count in the row says so, and the count is written
back by evaluations that have read it some time ago.  It speaks of the evaluations that asked for
the demotion as long as nothing has come between the reading and the writing: no detected activity,
no evaluation that has put the count back, and no pinned evaluation, which leaves the count as it
is.

`hysteresisRespected_of_meets` carries that along a run.  A pin that is in force when its evaluation
writes is the admin's doing and not a demotion by the count.
-/

namespace ExpresSync

open Transition

/-- The tier is not less active than the row's, or is that of the pin in force. -/
def SchedulerRun.MayWrite (w : SchedulerRun) (tier : SyncTier) : Prop :=
  isDemotion w.state.currentTier tier = true → w.state.activePin w.now = some tier

instance (w : SchedulerRun) (tier : SyncTier) : Decidable (w.MayWrite tier) :=
  inferInstanceAs (Decidable (_ → _))

/-- The row goes to a less active tier only by a pin, or when as many evaluations as are required
have asked for a demotion one after the other. -/
def DemotionEarned (w w' : SchedulerRun) : Prop :=
  isDemotion w.state.currentTier w'.state.currentTier = true →
    w.state.activePin w.now = some w'.state.currentTier ∨ syncIdleHysteresisTicks ≤ w'.askedInARow

instance (w w' : SchedulerRun) : Decidable (DemotionEarned w w') :=
  inferInstanceAs (Decidable (_ → _ ∨ _))

/-- An evaluation during which an activity has been detected neither takes the row to a less active
tier, other than that of a pin, nor counts on. -/
def ActivityKept (w : SchedulerRun) (a : SchedulerAction) (w' : SchedulerRun) : Prop :=
  match a with
  | .updates i =>
      ∀ e ∈ w.evaluations[i]?, e.interrupted = true →
        w.MayWrite w'.state.currentTier ∧
          w'.state.consecutiveIdleTicks ≤ w.state.consecutiveIdleTicks
  | _ => True

instance (w : SchedulerRun) (a : SchedulerAction) (w' : SchedulerRun) :
    Decidable (ActivityKept w a w') := by
  unfold ActivityKept
  rcases a <;> infer_instance

/-- What a step may do to the tier. -/
def HysteresisRespected (w : SchedulerRun) (a : SchedulerAction) (w' : SchedulerRun) : Prop :=
  DemotionEarned w w' ∧ ActivityKept w a w'

instance (w : SchedulerRun) (a : SchedulerAction) (w' : SchedulerRun) :
    Decidable (HysteresisRespected w a w') :=
  inferInstanceAs (Decidable (_ ∧ _))

/-! ## The condition -/

/-- The count the evaluation has read still stands: no activity has been detected since, the row has
not been put below it, and no pinned evaluation has come after its last tick. -/
def CountStands (w : SchedulerRun) (e : Evaluation) : Prop :=
  e.interrupted = false ∧
    (0 < e.state.consecutiveIdleTicks →
      w.pinnedSinceTick = false ∧ e.state.consecutiveIdleTicks ≤ w.state.consecutiveIdleTicks)

instance (w : SchedulerRun) (e : Evaluation) : Decidable (CountStands w e) :=
  inferInstanceAs (Decidable (_ ∧ (_ → _ ∧ _)))

/-- The row is as the update needs it.  The tier of a pin, and one that is asked for and is no
demotion for the tier the evaluation has loaded, must not be a demotion for the row either; a tick
is added to a count that stands; and a demotion that is due is one by a count that stands. -/
def UpdateInTime (w : SchedulerRun) (e : Evaluation) : Prop :=
  match e.point with
  | .updatesPinned pinnedTier _ => w.MayWrite pinnedTier
  | .updates targetTier _ =>
      if isDemotion e.previousTier targetTier then
        if syncIdleHysteresisTicks ≤ e.state.consecutiveIdleTicks + 1 then
          w.MayWrite targetTier ∨ CountStands w e
        else w.MayWrite e.previousTier ∧ CountStands w e
      else w.MayWrite targetTier
  | _ => True

instance (w : SchedulerRun) (e : Evaluation) : Decidable (UpdateInTime w e) := by
  unfold UpdateInTime
  cases e.point <;> infer_instance

/-- Every update of the row by an evaluation is in time. -/
def UpdatesInTime (w : SchedulerRun) : SchedulerAction → Prop
  | .updates i => ∀ e ∈ w.evaluations[i]?, UpdateInTime w e
  | _ => True

instance (w : SchedulerRun) (a : SchedulerAction) : Decidable (UpdatesInTime w a) := by
  unfold UpdatesInTime
  rcases a <;> infer_instance

/-! ## The count -/

/-- The count in the row is covered by evaluations that asked for a demotion, unless a pinned one
has come after its last tick. -/
def CountCovered (w : SchedulerRun) : Prop :=
  w.pinnedSinceTick = false → w.state.consecutiveIdleTicks ≤ w.askedInARow

lemma countCovered_start (now : ℕ) (tagChangeLog : List ℕ) :
    CountCovered (SchedulerRun.start now tagChangeLog) := fun _ => Nat.le_refl 0

@[simp]
lemma not_isDemotion_self (tier : SyncTier) : isDemotion tier tier = false := by
  simp [isDemotion]

@[simp]
lemma not_isDemotion_active (tier : SyncTier) : isDemotion tier .active = false := by
  simp [isDemotion, SyncTier.rank]

section Step

variable {w w' : SchedulerRun} {e : Evaluation} {i : ℕ} {state : SyncScheduleState}

/-- A step other than an update either leaves the tier, the count and its history, or is the
detection of an activity. -/
lemma step_of_not_updates {a : SchedulerAction} (hne : ∀ i, a ≠ .updates i)
    (hstep : w.step a = some w') :
    (w'.state.currentTier = w.state.currentTier ∧
        w'.state.consecutiveIdleTicks = w.state.consecutiveIdleTicks ∧
        w'.askedInARow = w.askedInARow ∧ w'.pinnedSinceTick = w.pinnedSinceTick) ∨
      (w'.state.currentTier = .active ∧ w'.state.consecutiveIdleTicks = 0) := by
  cases a with
  | updates i => exact absurd rfl (hne i)
  | activityDetected =>
      obtain rfl := Option.some.inj hstep
      exact Or.inr ⟨rfl, rfl⟩
  | reads i reply =>
      simp only [SchedulerRun.step, Option.bind_eq_some_iff, Option.map_eq_some_iff] at hstep
      obtain ⟨e, -, point, -, rfl⟩ := hstep
      exact Or.inl ⟨rfl, rfl, rfl, rfl⟩
  | waits ms | tagChanged | evaluationStarts workerNow | evaluationFails i | setPin tier hours
  | clearPin =>
      obtain rfl := Option.some.inj hstep
      exact Or.inl ⟨rfl, rfl, rfl, rfl⟩

lemma step_updates (hstep : w.step (.updates i) = some w') :
    ∃ e state, w.evaluations[i]? = some e ∧ e.update w.state = some state ∧
      w' = w.complete i e state := by
  simp only [SchedulerRun.step, Option.bind_eq_some_iff, Option.map_eq_some_iff] at hstep
  obtain ⟨e, he, state, hstate, rfl⟩ := hstep
  exact ⟨e, state, he, hstate, rfl⟩

/-- The cases of an update: to the pinned tier; to the tier asked for, when it is no demotion, or
when it is due; and a tick. -/
lemma update_cases (hupdate : e.update w.state = some state) :
    (∃ nextRunAt, e.point = .updatesPinned state.currentTier nextRunAt ∧
        state.consecutiveIdleTicks = w.state.consecutiveIdleTicks) ∨
      (∃ nextRunAt, e.point = .updates state.currentTier nextRunAt ∧
        isDemotion e.previousTier state.currentTier = false ∧ state.consecutiveIdleTicks = 0) ∨
      (∃ nextRunAt, e.point = .updates state.currentTier nextRunAt ∧
        isDemotion e.previousTier state.currentTier = true ∧
        syncIdleHysteresisTicks ≤ e.state.consecutiveIdleTicks + 1 ∧
        state.consecutiveIdleTicks = 0) ∨
      ∃ targetTier nextRunAt, e.point = .updates targetTier nextRunAt ∧
        isDemotion e.previousTier targetTier = true ∧
        ¬syncIdleHysteresisTicks ≤ e.state.consecutiveIdleTicks + 1 ∧
        state.currentTier = e.previousTier ∧
        state.consecutiveIdleTicks = e.state.consecutiveIdleTicks + 1 := by
  unfold Evaluation.update at hupdate
  cases hpoint : e.point with
  | isPinActive | hasActiveSignal | hasRecentActivity isActive =>
      rw [hpoint] at hupdate
      cases hupdate
  | updatesPinned pinnedTier nextRunAt =>
      rw [hpoint] at hupdate
      obtain rfl := Option.some.inj hupdate
      exact Or.inl ⟨nextRunAt, rfl, rfl⟩
  | updates targetTier nextRunAt =>
      rw [hpoint] at hupdate
      obtain rfl := Option.some.inj hupdate
      right
      by_cases hasks : isDemotion e.previousTier targetTier = true
      · right
        by_cases hdue : syncIdleHysteresisTicks ≤ e.state.consecutiveIdleTicks + 1
        · have hdecision : e.decision targetTier = (targetTier, 0) := by
            rw [Evaluation.decision, applyHysteresis, if_pos hasks, if_pos hdue]
          left
          simp only [hdecision]
          exact ⟨nextRunAt, rfl, hasks, hdue, trivial⟩
        · have hdecision : e.decision targetTier =
              (e.previousTier, e.state.consecutiveIdleTicks + 1) := by
            rw [Evaluation.decision, applyHysteresis, if_pos hasks, if_neg hdue]
          right
          simp only [hdecision]
          exact ⟨targetTier, nextRunAt, rfl, hasks, hdue, trivial, trivial⟩
      · have hdecision : e.decision targetTier = (targetTier, 0) := by
          rw [Evaluation.decision, applyHysteresis, if_neg hasks]
        left
        simp only [hdecision]
        exact ⟨nextRunAt, rfl, by simpa using hasks, trivial⟩

/-- A count that stands and that is covered is covered still, with the evaluation itself on top. -/
lemma CountStands.le_askedInARow (hstands : CountStands w e) (hcovered : CountCovered w) :
    e.state.consecutiveIdleTicks ≤ w.askedInARow := by
  rcases Nat.eq_zero_or_pos e.state.consecutiveIdleTicks with hzero | hpos
  · omega
  · obtain ⟨hpinned, hle⟩ := hstands.2 hpos
    exact hle.trans (hcovered hpinned)

lemma askedInARow_complete_of_stands (hasks : e.asksDemotion = true) (hstands : CountStands w e) :
    (w.complete i e state).askedInARow = w.askedInARow + 1 := by
  simp [SchedulerRun.complete, hasks, hstands.1]

/-- The count stays covered. -/
lemma countCovered_complete (hcovered : CountCovered w) (hupdate : e.update w.state = some state)
    (hintime : UpdateInTime w e) : CountCovered (w.complete i e state) := by
  intro hpinned
  rcases update_cases hupdate with
    ⟨nextRunAt, hpoint, hticks⟩ | ⟨nextRunAt, -, -, hticks⟩ | ⟨nextRunAt, -, -, -, hticks⟩ |
      ⟨targetTier, nextRunAt, hpoint, hasks, hdue, -, hticks⟩
  · -- a pinned evaluation that leaves no tick behind it
    have hzero : w.state.consecutiveIdleTicks = 0 := by
      simpa [SchedulerRun.complete, Evaluation.isPinned, hpoint] using hpinned
    have : (w.complete i e state).state.consecutiveIdleTicks = 0 := hticks.trans hzero
    omega
  · have : (w.complete i e state).state.consecutiveIdleTicks = 0 := hticks
    omega
  · have : (w.complete i e state).state.consecutiveIdleTicks = 0 := hticks
    omega
  · have hstands : CountStands w e := by
      simp only [UpdateInTime, hpoint, hasks, if_true, if_neg hdue] at hintime
      exact hintime.2
    rw [askedInARow_complete_of_stands (by simpa [Evaluation.asksDemotion, hpoint] using hasks)
      hstands]
    calc (w.complete i e state).state.consecutiveIdleTicks
        = e.state.consecutiveIdleTicks + 1 := hticks
      _ ≤ w.askedInARow + 1 := Nat.succ_le_succ (hstands.le_askedInARow hcovered)

/-- A demotion by the update is one by a pin, or by a count that is covered. -/
lemma demotionEarned_complete (hcovered : CountCovered w) (hupdate : e.update w.state = some state)
    (hintime : UpdateInTime w e) : DemotionEarned w (w.complete i e state) := by
  intro hdemotion
  change isDemotion w.state.currentTier state.currentTier = true at hdemotion
  change w.state.activePin w.now = some state.currentTier ∨ _
  rcases update_cases hupdate with
    ⟨nextRunAt, hpoint, -⟩ | ⟨nextRunAt, hpoint, hasks, -⟩ | ⟨nextRunAt, hpoint, hasks, hdue, -⟩ |
      ⟨targetTier, nextRunAt, hpoint, hasks, hdue, htier, -⟩
  · simp only [UpdateInTime, hpoint] at hintime
    exact Or.inl (hintime hdemotion)
  · simp only [UpdateInTime, hpoint, hasks] at hintime
    exact Or.inl (hintime hdemotion)
  · simp only [UpdateInTime, hpoint, hasks, if_true, if_pos hdue] at hintime
    rcases hintime with hmay | hstands
    · exact Or.inl (hmay hdemotion)
    · refine Or.inr ?_
      rw [askedInARow_complete_of_stands (by simpa [Evaluation.asksDemotion, hpoint] using hasks)
        hstands]
      exact hdue.trans (Nat.succ_le_succ (hstands.le_askedInARow hcovered))
  · simp only [UpdateInTime, hpoint, hasks, if_true, if_neg hdue] at hintime
    rw [htier] at hdemotion ⊢
    exact Or.inl (hintime.1 hdemotion)

/-- An evaluation that an activity has come into writes no tick, and no tier that the row or the pin
does not bear out. -/
lemma activityKept_complete (hupdate : e.update w.state = some state) (hintime : UpdateInTime w e)
    (hinterrupted : e.interrupted = true) :
    w.MayWrite state.currentTier ∧
      state.consecutiveIdleTicks ≤ w.state.consecutiveIdleTicks := by
  have hnot : ¬CountStands w e := fun hstands => by simp [hstands.1] at hinterrupted
  rcases update_cases hupdate with
    ⟨nextRunAt, hpoint, hticks⟩ | ⟨nextRunAt, hpoint, hasks, hticks⟩ |
      ⟨nextRunAt, hpoint, hasks, hdue, hticks⟩ | ⟨targetTier, nextRunAt, hpoint, hasks, hdue, -, -⟩
  · simp only [UpdateInTime, hpoint] at hintime
    exact ⟨hintime, hticks.le⟩
  · simp only [UpdateInTime, hpoint, hasks] at hintime
    exact ⟨hintime, by omega⟩
  · simp only [UpdateInTime, hpoint, hasks, if_true, if_pos hdue] at hintime
    exact ⟨hintime.resolve_right hnot, by omega⟩
  · simp only [UpdateInTime, hpoint, hasks, if_true, if_neg hdue] at hintime
    exact absurd hintime.2 hnot

end Step

/-! ## Runs -/

lemma countCovered_step {w w' : SchedulerRun} {a : SchedulerAction} (hcovered : CountCovered w)
    (hintime : UpdatesInTime w a) (hstep : w.step a = some w') : CountCovered w' := by
  by_cases hupdates : ∃ i, a = .updates i
  · obtain ⟨i, rfl⟩ := hupdates
    obtain ⟨e, state, he, hupdate, rfl⟩ := step_updates hstep
    exact countCovered_complete hcovered hupdate (hintime e he)
  · rcases step_of_not_updates (fun i heq => hupdates ⟨i, heq⟩) hstep with
      ⟨-, hticks, hasked, hpinned⟩ | ⟨-, hticks⟩
    · intro hnot
      rw [hticks, hasked]
      exact hcovered (hpinned ▸ hnot)
    · intro _
      omega

lemma hysteresisRespected_step {w w' : SchedulerRun} {a : SchedulerAction}
    (hcovered : CountCovered w) (hintime : UpdatesInTime w a) (hstep : w.step a = some w') :
    HysteresisRespected w a w' := by
  by_cases hupdates : ∃ i, a = .updates i
  · obtain ⟨i, rfl⟩ := hupdates
    obtain ⟨e, state, he, hupdate, rfl⟩ := step_updates hstep
    refine ⟨demotionEarned_complete hcovered hupdate (hintime e he), ?_⟩
    intro e' he' hinterrupted
    obtain rfl : e = e' := Option.some.inj (he.symm.trans he')
    exact activityKept_complete hupdate (hintime e he) hinterrupted
  · refine ⟨?_, by cases a <;> first | trivial | exact absurd ⟨_, rfl⟩ hupdates⟩
    intro hdemotion
    rcases step_of_not_updates (fun i heq => hupdates ⟨i, heq⟩) hstep with ⟨htier, -⟩ | ⟨htier, -⟩
    · simp [htier] at hdemotion
    · simp [htier] at hdemotion

/-- In a run in which every evaluation updates the row in time, a tier is given up for a less active
one only by an admin's pin or after the required number of evaluations in a row that asked for it,
and no evaluation overwrites an activity that was detected during it. -/
theorem hysteresisRespected_of_meets (now : ℕ) (tagChangeLog : List ℕ) (as : List SchedulerAction)
    (hintime : Meets SchedulerRun.step UpdatesInTime (.start now tagChangeLog) as) :
    EachStep SchedulerRun.step HysteresisRespected (.start now tagChangeLog) as :=
  hintime.eachStep (fun _ _ _ => countCovered_step) (fun _ _ _ => hysteresisRespected_step)
    (countCovered_start now tagChangeLog)

namespace Scenario

/-- An evaluation that finds neither charging nor recent activity, up to its update. -/
def quietEvaluation (now : ℕ) : List SchedulerAction :=
  [.evaluationStarts now, .reads 0 (.isPinActive now),
    .reads 0 (.hasActiveSignal (.ok []) (.ok [])), .reads 0 (.hasRecentActivity now)]

/-- Two quiet evaluations, one after the other. -/
def quietEvaluations : List SchedulerAction :=
  quietEvaluation 0 ++ [.updates 0, .waits 3600000] ++ quietEvaluation 3600000 ++ [.updates 0]

/-- A manual trigger is received while the second of two quiet evaluations is in flight. -/
def triggeredInFlight : List SchedulerAction :=
  quietEvaluation 0 ++ [.updates 0, .waits 3600000] ++ quietEvaluation 3600000 ++
    [.activityDetected, .updates 0]

/-- Between two quiet evaluations the tier is pinned, evaluated and unpinned. -/
def pinnedBetween : List SchedulerAction :=
  quietEvaluation 0 ++
    [.updates 0, .setPin .idle 1, .evaluationStarts 0, .reads 0 (.isPinActive 0), .updates 0,
      .clearPin] ++
    quietEvaluation 0 ++ [.updates 0]

end Scenario

/-- The demotion of two quiet evaluations is an earned one. -/
theorem hysteresisRespected_quietEvaluations :
    Meets SchedulerRun.step UpdatesInTime (.start 0 []) Scenario.quietEvaluations ∧
      EachStep SchedulerRun.step HysteresisRespected (.start 0 []) Scenario.quietEvaluations ∧
      (run SchedulerRun.step (.start 0 []) Scenario.quietEvaluations).map (·.state.currentTier) =
        some .dormant := by
  have hintime : Meets SchedulerRun.step UpdatesInTime (.start 0 []) Scenario.quietEvaluations := by
    decide +kernel
  exact ⟨hintime, hysteresisRespected_of_meets 0 [] _ hintime, by decide +kernel⟩

/-- The evaluation takes the row from active to dormant, over the trigger it has not seen. -/
theorem not_hysteresisRespected_triggeredInFlight :
    ¬EachStep SchedulerRun.step HysteresisRespected (.start 0 []) Scenario.triggeredInFlight := by
  decide +kernel

/-- The tick before the pin counts for the demotion after it. -/
theorem not_hysteresisRespected_pinnedBetween :
    ¬EachStep SchedulerRun.step HysteresisRespected (.start 0 []) Scenario.pinnedBetween := by
  decide +kernel

end ExpresSync
