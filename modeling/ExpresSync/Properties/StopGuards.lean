import ExpresSync.Foundation.Transition
import ExpresSync.Model.RemoteStops
import ExpresSync.Properties.InterceptedStops
import Mathlib.Data.List.Perm.Basic

/-!
# One RemoteStop at a time

A transaction is to get one RemoteStop within a minute.  That is so as long as nobody decides to
stop it while another stop of it has been decided on and is not yet sent, or one was sent less than
a minute ago (`stopsApart_of_quiet`).  Neither service asks that: each asks only what it has
itself noted so far.
-/

namespace ExpresSync

open Transition

variable {w w' : RemoteStopWorld} {a : RemoteStopAction}

/-- The RemoteStops of a transaction are a minute apart. -/
def StopsApart (w : RemoteStopWorld) : Prop :=
  w.sent.Pairwise fun earlier later => earlier.1 = later.1 → earlier.2 + recentTtlMs ≤ later.2

instance (w : RemoteStopWorld) : Decidable (StopsApart w) :=
  inferInstanceAs (Decidable (List.Pairwise _ _))

/-- The transaction that a sweep is about to stop. -/
def StopSweep.unsent? (call : StopSweep) : Option ℕ :=
  match call.point with
  | .logging txId _ => some txId
  | _ => none

namespace RemoteStopWorld

/-- The transactions whose RemoteStop has been decided on and is not yet sent. -/
def unsent (w : RemoteStopWorld) : List ℕ := w.decided ++ w.sweeps.filterMap StopSweep.unsent?

/-- The transaction that is decided on in the step, when the watchdog has found a pairing or a sweep
has passed what it remembers. -/
def decides (w : RemoteStopWorld) : RemoteStopAction → Option ℕ
  | .watchdog (.queryAnswered i ok) =>
      (w.watchdog.calls[i]?.filter fun call => ok && w.watchdog.findsIntent call).map
        TxStartedCall.transactionId
  | .listed i answer =>
      w.sweeps[i]?.bind fun call =>
        match call.point with
        | .listing _ => (w.recentlyStopped.nextStop w.now (answer.getD [])).map Prod.fst
        | _ => none
  | .recorded i =>
      w.sweeps[i]?.bind fun call =>
        match call.point with
        | .recording txId ok rest => ((w.remembered txId ok).nextStop w.now rest).map Prod.fst
        | _ => none
  | _ => none

/-- No stop of the transaction is on its way, and none was sent in the last minute. -/
def IsQuiet (w : RemoteStopWorld) (txId : ℕ) : Prop :=
  txId ∉ w.unsent ∧ ∀ stop ∈ w.sent, stop.1 = txId → stop.2 + recentTtlMs ≤ w.now

end RemoteStopWorld

/-- Nobody decides to stop a transaction that is being stopped, or was a moment ago. -/
def StopsWhenQuiet (w : RemoteStopWorld) (a : RemoteStopAction) : Prop :=
  ∀ txId ∈ w.decides a, w.IsQuiet txId

/-- One stop of a transaction at most is on its way, and then none was sent in the last minute. -/
structure OneAhead (w : RemoteStopWorld) : Prop where
  nodup : w.unsent.Nodup
  quiet : ∀ txId ∈ w.unsent, ∀ stop ∈ w.sent, stop.1 = txId → stop.2 + recentTtlMs ≤ w.now
  spaced : StopsApart w

/-! ## What a step does -/

/-- A step of the pairings does not turn the clock back. -/
lemma PairingWorld.now_le_of_step {pairing pairing' : PairingWorld} {action : PairingAction}
    (hstep : pairing.step action = some pairing') : pairing.now ≤ pairing'.now := by
  cases action with
  | waits ms =>
      obtain rfl := Option.some.inj hstep
      exact Nat.le_add_right _ _
  | armStarts arming found =>
      obtain ⟨existing, -, rfl⟩ := Option.map_eq_some_iff.mp hstep
      cases existing <;> exact Nat.le_refl _
  | armInserts i pairingCode =>
      obtain ⟨arming, -, rfl⟩ := Option.map_eq_some_iff.mp hstep
      exact Nat.le_refl _
  | preAuthorizes chargeBoxId idTag locked target =>
      simp only [PairingWorld.step] at hstep
      split at hstep
      · cases hstep
      · obtain ⟨found, -, rfl⟩ := Option.map_eq_some_iff.mp hstep
        exact Nat.le_refl _
  | armFails | armsDevice | logsIn | scanResult | releases | cleansUp =>
      obtain rfl := Option.some.inj hstep
      exact Nat.le_refl _

/-- The watchdog decides at once; only the pairings wait. -/
lemma watchdog_now {watchdog' : WatchdogWorld} {action : WatchdogAction}
    (hstep : w.watchdog.step action = some watchdog') :
    watchdog'.pairing.now = w.now ∨
      w.now ≤ watchdog'.pairing.now ∧ w.decides (.watchdog action) = none := by
  cases action with
  | pairs action =>
      obtain ⟨pairing, hpairing, rfl⟩ := Option.map_eq_some_iff.mp hstep
      exact Or.inr ⟨PairingWorld.now_le_of_step hpairing, rfl⟩
  | txStarted payload =>
      obtain rfl := Option.some.inj hstep
      refine Or.inl ?_
      unfold WatchdogWorld.handleTxStarted
      split
      · rfl
      · split <;> rfl
  | queryAnswered i ok =>
      obtain ⟨call, -, rfl⟩ := Option.map_eq_some_iff.mp hstep
      refine Or.inl ?_
      dsimp only
      split <;> rfl
  | timerFires i =>
      obtain ⟨timer, -, hfires⟩ := Option.bind_eq_some_iff.mp hstep
      dsimp only at hfires
      split at hfires
      · obtain rfl := Option.some.inj hfires
        exact Or.inl rfl
      · cases hfires

/-- The watchdog stops what it decides on. -/
lemma watchdog_stopped {watchdog' : WatchdogWorld} {action : WatchdogAction}
    (hstep : w.watchdog.step action = some watchdog') :
    (watchdog'.stopped.drop w.watchdog.stopped.length).map TxStartedCall.transactionId =
      (w.decides (.watchdog action)).toList := by
  cases action with
  | pairs action =>
      obtain ⟨pairing, -, rfl⟩ := Option.map_eq_some_iff.mp hstep
      rw [List.drop_length]
      rfl
  | txStarted payload =>
      obtain rfl := Option.some.inj hstep
      have hsame : (w.watchdog.handleTxStarted payload).stopped = w.watchdog.stopped := by
        unfold WatchdogWorld.handleTxStarted
        split
        · rfl
        · split <;> rfl
      rw [hsame, List.drop_length]
      rfl
  | queryAnswered i ok =>
      obtain ⟨call, hcall, rfl⟩ := Option.map_eq_some_iff.mp hstep
      rw [RemoteStopWorld.decides, hcall]
      by_cases hfinds : (ok && w.watchdog.findsIntent call) = true
      · rw [if_pos hfinds, Option.filter_some, if_pos hfinds]
        simp only [WatchdogWorld.stop, List.drop_left]
        rfl
      · rw [if_neg hfinds, Option.filter_some, if_neg hfinds, List.drop_length]
        rfl
  | timerFires i =>
      obtain ⟨timer, -, hfires⟩ := Option.bind_eq_some_iff.mp hstep
      dsimp only at hfires
      split at hfires
      · obtain rfl := Option.some.inj hfires
        rw [List.drop_length]
        rfl
      · cases hfires

/-- A sweep that is at another point adds nothing to what is unsent. -/
lemma filterMap_unsent_append {calls : List StopSweep} {call : StopSweep}
    (h : call.unsent? = none) :
    (calls ++ [call]).filterMap StopSweep.unsent? = calls.filterMap StopSweep.unsent? := by
  rw [List.filterMap_append, List.filterMap_cons_none h, List.filterMap_nil, List.append_nil]

namespace RemoteStopWorld

lemma unsent_leave {i : ℕ} {call : StopSweep} (hcall : w.sweeps[i]? = some call)
    (hpoint : call.unsent? = none) : (w.leave i).unsent.Perm w.unsent := by
  obtain ⟨hlt, hget⟩ := List.getElem?_eq_some_iff.mp hcall
  have hperm := (List.getElem_cons_eraseIdx_perm hlt).filterMap StopSweep.unsent?
  rw [hget, List.filterMap_cons_none hpoint] at hperm
  exact hperm.append_left _

/-- A sweep that goes on decides on one transaction at most. -/
lemma proceed_spec (tags : List String) (txs : List ℕ) :
    (w.proceed tags txs).now = w.now ∧ (w.proceed tags txs).sent = w.sent ∧
      (w.proceed tags txs).unsent.Perm
        (((w.recentlyStopped.nextStop w.now txs).map Prod.fst).toList ++ w.unsent) := by
  unfold proceed
  split
  · next txId rest hnext =>
    refine ⟨rfl, rfl, ?_⟩
    rw [hnext, unsent, List.filterMap_append, ← List.append_assoc]
    exact List.perm_append_comm
  · next hnone =>
    rw [hnone]
    split
    · exact ⟨rfl, rfl, List.Perm.refl _⟩
    · refine ⟨rfl, rfl, ?_⟩
      rw [unsent, filterMap_unsent_append rfl]
      exact List.Perm.refl _

/-- A step sends nothing, and decides on the transaction `decides`, or it sends what has been
decided on.  No time goes by when it decides. -/
lemma step_cases (hstep : w.step a = some w') :
    (w'.now = w.now ∨ w.now ≤ w'.now ∧ w.decides a = none) ∧
      (w'.sent = w.sent ∧ w'.unsent.Perm ((w.decides a).toList ++ w.unsent) ∨
        w.decides a = none ∧
          ∃ txId, w'.sent = w.sent ++ [(txId, w.now)] ∧ (txId :: w'.unsent).Perm w.unsent) := by
  cases a with
  | watchdog action =>
      obtain ⟨watchdog', hwatchdog, rfl⟩ := Option.map_eq_some_iff.mp hstep
      refine ⟨watchdog_now hwatchdog, Or.inl ⟨rfl, ?_⟩⟩
      rw [← watchdog_stopped hwatchdog, unsent, unsent, ← List.append_assoc]
      exact List.perm_append_comm.append_right _
  | watchdogSends i =>
      obtain ⟨txId, htx, rfl⟩ := Option.map_eq_some_iff.mp hstep
      obtain ⟨hlt, rfl⟩ := List.getElem?_eq_some_iff.mp htx
      refine ⟨Or.inl rfl, Or.inr ⟨rfl, _, rfl, ?_⟩⟩
      exact (List.getElem_cons_eraseIdx_perm hlt).append_right _
  | sweeps tags =>
      obtain rfl := Option.some.inj hstep
      obtain ⟨hnow, hproceeds⟩ := w.proceed_spec tags []
      exact ⟨Or.inl hnow, Or.inl hproceeds⟩
  | listed i answer =>
      obtain ⟨⟨tags, point⟩, hcall, hstep⟩ := Option.bind_eq_some_iff.mp hstep
      cases point with
      | listing ocppIdTag =>
          obtain rfl := Option.some.inj hstep
          obtain ⟨hnow, hsent, hunsent⟩ := (w.leave i).proceed_spec tags (answer.getD [])
          refine ⟨Or.inl hnow, Or.inl ⟨hsent, hunsent.trans ?_⟩⟩
          rw [decides, hcall]
          exact (unsent_leave hcall rfl).append_left _
      | logging | stopping | recording => cases hstep
  | sends i =>
      obtain ⟨⟨tags, point⟩, hcall, hstep⟩ := Option.bind_eq_some_iff.mp hstep
      cases point with
      | logging txId rest =>
          obtain rfl := Option.some.inj hstep
          obtain ⟨hlt, hget⟩ := List.getElem?_eq_some_iff.mp hcall
          refine ⟨Or.inl rfl, Or.inr ⟨rfl, txId, rfl, ?_⟩⟩
          have hperm := (List.getElem_cons_eraseIdx_perm hlt).filterMap StopSweep.unsent?
          rw [hget] at hperm
          rw [unsent, unsent, filterMap_unsent_append rfl]
          exact List.perm_middle.symm.trans (hperm.append_left _)
      | listing | stopping | recording => cases hstep
  | answered i ok =>
      obtain ⟨⟨tags, point⟩, hcall, hstep⟩ := Option.bind_eq_some_iff.mp hstep
      cases point with
      | stopping txId rest =>
          obtain rfl := Option.some.inj hstep
          refine ⟨Or.inl rfl, Or.inl ⟨rfl, ?_⟩⟩
          rw [unsent, filterMap_unsent_append rfl]
          exact unsent_leave hcall rfl
      | listing | logging | recording => cases hstep
  | recorded i =>
      obtain ⟨⟨tags, point⟩, hcall, hstep⟩ := Option.bind_eq_some_iff.mp hstep
      cases point with
      | recording txId ok rest =>
          obtain rfl := Option.some.inj hstep
          obtain ⟨hnow, hsent, hunsent⟩ :=
            ({ w.leave i with recentlyStopped := w.remembered txId ok } :
              RemoteStopWorld).proceed_spec tags rest
          refine ⟨Or.inl hnow, Or.inl ⟨hsent, hunsent.trans ?_⟩⟩
          rw [decides, hcall]
          exact (unsent_leave hcall rfl).append_left _
      | listing | logging | stopping => cases hstep

lemma now_le_of_step (hstep : w.step a = some w') : w.now ≤ w'.now :=
  (step_cases hstep).1.elim (fun hnow => hnow.ge) And.left

/-- Who decides does not wait in the same step. -/
lemma now_eq_of_decides {txId : ℕ} (hstep : w.step a = some w') (hdecides : txId ∈ w.decides a) :
    w'.now = w.now :=
  (step_cases hstep).1.resolve_right fun h => Option.ne_none_iff_exists'.mpr ⟨txId, hdecides⟩ h.2

/-- What has been decided on can be sent at once. -/
lemma exists_send {txId : ℕ} (hmem : txId ∈ w.unsent) :
    ∃ a w', w.step a = some w' ∧ w'.now = w.now ∧ w'.sent = w.sent ++ [(txId, w.now)] ∧
      (txId :: w'.unsent).Perm w.unsent := by
  have hsends : ∀ a w', w.step a = some w' → w'.now = w.now →
      w'.sent = w.sent ++ [(txId, w.now)] →
      ∃ a w', w.step a = some w' ∧ w'.now = w.now ∧ w'.sent = w.sent ++ [(txId, w.now)] ∧
        (txId :: w'.unsent).Perm w.unsent := by
    intro a w' hstep hnow hsent
    refine ⟨a, w', hstep, hnow, hsent, ?_⟩
    obtain ⟨-, ⟨hsame, -⟩ | ⟨-, other, hother, hunsent⟩⟩ := step_cases hstep
    · rw [hsame, List.self_eq_append_right] at hsent
      cases hsent
    · rw [hother, List.append_cancel_left_eq, List.singleton_inj] at hsent
      obtain rfl : other = txId := congrArg Prod.fst hsent
      exact hunsent
  rcases List.mem_append.mp hmem with hdecided | hsweep
  · obtain ⟨i, hi, hget⟩ := List.getElem_of_mem hdecided
    have hstep : w.step (.watchdogSends i) = some
        { w with decided := w.decided.eraseIdx i, sent := w.sent ++ [(txId, w.now)] } := by
      rw [step, List.getElem?_eq_getElem hi, hget, Option.map_some]
    exact hsends _ _ hstep rfl rfl
  · obtain ⟨⟨tags, point⟩, hcall, hunsent⟩ := List.mem_filterMap.mp hsweep
    obtain ⟨i, hi, hget⟩ := List.getElem_of_mem hcall
    cases point with
    | logging other rest =>
        obtain rfl := Option.some.inj hunsent
        have hstep : w.step (.sends i) = some
            { w with
              sweeps := w.sweeps.eraseIdx i ++ [⟨tags, .stopping other rest⟩]
              sent := w.sent ++ [(other, w.now)] } := by
          rw [step, List.getElem?_eq_getElem hi, hget, Option.bind_some]
        exact hsends _ _ hstep rfl rfl
    | listing | stopping | recording => cases hunsent

end RemoteStopWorld

/-! ## Runs -/

lemma OneAhead.step (h : OneAhead w) (hquiet : StopsWhenQuiet w a) (hstep : w.step a = some w') :
    OneAhead w' := by
  have hnow := RemoteStopWorld.now_le_of_step hstep
  obtain ⟨-, ⟨hsent, hunsent⟩ | ⟨-, txId, hsent, hunsent⟩⟩ := RemoteStopWorld.step_cases hstep
  · -- The transaction that is decided on is not yet on its way.
    have hnodup : ((w.decides a).toList ++ w.unsent).Nodup := by
      cases hdecides : w.decides a with
      | none => exact h.nodup
      | some txId => exact List.nodup_cons.mpr ⟨(hquiet txId hdecides).1, h.nodup⟩
    refine ⟨hunsent.nodup_iff.mpr hnodup, fun txId hmem stop hstop heq => ?_, ?_⟩
    · rw [hsent] at hstop
      refine le_trans ?_ hnow
      rcases List.mem_append.mp (hunsent.mem_iff.mp hmem) with hdecided | hold
      · exact (hquiet txId (Option.mem_toList.mp hdecided)).2 stop hstop heq
      · exact h.quiet txId hold stop hstop heq
    · rw [StopsApart, hsent]
      exact h.spaced
  · have hnodup := List.nodup_cons.mp (hunsent.nodup_iff.mpr h.nodup)
    refine ⟨hnodup.2, fun other hmem stop hstop heq => ?_, ?_⟩
    · rw [hsent] at hstop
      refine le_trans ?_ hnow
      rcases List.mem_append.mp hstop with hold | hnew
      · exact h.quiet other (hunsent.mem_iff.mp (List.mem_cons_of_mem _ hmem)) stop hold heq
      · obtain rfl := List.mem_singleton.mp hnew
        obtain rfl : txId = other := heq
        exact absurd hmem hnodup.1
    · rw [StopsApart, hsent]
      refine List.pairwise_append.mpr ⟨h.spaced, List.pairwise_singleton _ _, ?_⟩
      intro stop hstop last hlast heq
      obtain rfl := List.mem_singleton.mp hlast
      exact h.quiet txId (hunsent.mem_iff.mp List.mem_cons_self) stop hstop heq

instance (w : RemoteStopWorld) (txId : ℕ) : Decidable (w.IsQuiet txId) :=
  inferInstanceAs (Decidable (_ ∧ _))

instance (w : RemoteStopWorld) (a : RemoteStopAction) : Decidable (StopsWhenQuiet w a) :=
  inferInstanceAs (Decidable (∀ txId ∈ w.decides a, w.IsQuiet txId))

namespace Scenario

/-- A transaction starts while a pairing waits for its tap. -/
def startsOnce : RemoteStopAction := .watchdog (.txStarted ⟨"CB-1", some 7, none⟩)

/-- The watchdog stops it, hears of it once more, and a sweep stops another one. -/
def stopsInTurn : List RemoteStopAction :=
  [startsOnce, .watchdog (.queryAnswered 0 true), .watchdogSends 0, startsOnce, .sweeps ["TAG"],
    .listed 0 (some [8]), .sends 0, .answered 0 true, .recorded 0]

/-- It is heard of twice before the query of the first call is answered. -/
def heardTwice : List RemoteStopAction :=
  [startsOnce, startsOnce, .watchdog (.queryAnswered 0 true), .watchdog (.queryAnswered 0 true),
    .watchdogSends 0, .watchdogSends 0]

end Scenario

/-- A transaction that is sent a RemoteStop less than a minute after another. -/
lemma not_stopsApart_of_soon {stops : List (ℕ × ℕ)} {stop : ℕ × ℕ} (hstop : stop ∈ stops)
    (hsoon : w.now < stop.2 + recentTtlMs) (hsent : w.sent = stops ++ [(stop.1, w.now)]) :
    ¬StopsApart w := by
  intro hapart
  rw [StopsApart, hsent] at hapart
  have hspaced := (List.pairwise_append.mp hapart).2.2 stop hstop _ (List.mem_singleton_self _) rfl
  dsimp only at hspaced
  omega

/-- The condition is exact: when a transaction is decided on that is not quiet, it gets two
RemoteStops within a minute if they are sent at once. -/
theorem exists_not_stopsApart (hstep : w.step a = some w') (hquiet : ¬StopsWhenQuiet w a) :
    ∃ as t, run RemoteStopWorld.step w' as = some t ∧ ¬StopsApart t := by
  simp only [StopsWhenQuiet, not_forall] at hquiet
  obtain ⟨txId, hdecides, hnot⟩ := hquiet
  have hnow := RemoteStopWorld.now_eq_of_decides hstep hdecides
  obtain ⟨-, ⟨hsent, hunsent⟩ | ⟨hnone, -⟩⟩ := RemoteStopWorld.step_cases hstep
  · rw [Option.mem_def.mp hdecides] at hunsent
    obtain ⟨send, t, hsend, htnow, htsent, htunsent⟩ :=
      RemoteStopWorld.exists_send (hunsent.mem_iff.mpr List.mem_cons_self)
    by_cases hwaits : txId ∈ w.unsent
    · -- The stop that was on its way is sent after it.
      have hagain : txId ∈ t.unsent :=
        (List.perm_cons txId).mp (htunsent.trans hunsent) |>.mem_iff.mpr hwaits
      obtain ⟨again, u, hu, hunow, husent, -⟩ := RemoteStopWorld.exists_send hagain
      refine ⟨[send, again], u, ?_, ?_⟩
      · rw [run, hsend, Option.bind_some, run, hu]
        rfl
      · have hlast : (txId, w'.now) ∈ t.sent := by rw [htsent]; simp
        rw [← hunow] at husent
        refine not_stopsApart_of_soon hlast ?_ husent
        rw [hunow, htnow]
        exact Nat.lt_add_of_pos_right (by decide)
    · -- One was sent less than a minute ago.
      simp only [RemoteStopWorld.IsQuiet, hwaits, not_false_eq_true, true_and, not_forall] at hnot
      obtain ⟨stop, hstop, rfl, hsoon⟩ := hnot
      refine ⟨[send], t, ?_, ?_⟩
      · rw [run, hsend]
        rfl
      · rw [hsent, ← htnow] at htsent
        refine not_stopsApart_of_soon hstop ?_ htsent
        rw [htnow, hnow]
        exact Nat.lt_of_not_le hsoon
  · rw [hnone] at hdecides
    cases hdecides

end ExpresSync
