import ExpresSync.Properties.BillingContext
import ExpresSync.Properties.SyncSteps

/-!
# Look-ups that fail

`resolveSubscription` catches an error of `getSubscriptions` and returns what it returns for a
customer without subscription.  Its callers take that for a fact: the emitter leaves the record
resolved, and a sync run finalizes the row of the transaction without having billed it.
`lookupsRetried_iff_noneTaken` is the exact statement: a run never treats a failed look-up as an
answer if and only if no flush meets one and no sync run writes a transaction it has met one for.
-/

namespace ExpresSync

open Transition

/-- A failed look-up is not taken for an answer: a flush leaves its record unresolved, and a sync
run does not finalize the row. -/
def LookupsRetried (steveTransactionId : ℕ) (w : World) : Action → World → Prop
  | .flush i (.subscriptionsListed (.error _)), w' =>
      ∀ obj ∈ w'.heap[i]?, obj.st.steveTransactionId = steveTransactionId → obj.st.resolved = false
  | .flush _ _, _ => True
  | _, w' =>
      ∀ phase ∈ w.sync, steveTransactionId ∈ phase.run.failedLookups →
        w.db.finalized steveTransactionId = false → w'.db.finalized steveTransactionId = false

/-- No flush of the transaction gets an error for its subscriptions, and a sync run that has got
one does not write the transaction, unless it is finalized already or the database refuses. -/
def NoneTaken (steveTransactionId : ℕ) (w : World) : Action → Prop
  | .flush i (.subscriptionsListed (.error _)) =>
      ∀ obj ∈ w.heap[i]?, obj.st.steveTransactionId ≠ steveTransactionId
  | .flush _ _ => True
  | a =>
      ∀ phase ∈ w.sync, steveTransactionId ∈ phase.run.failedLookups →
        w.db.finalized steveTransactionId = false →
          (∀ pt ∈ w.syncWrites a, pt.steveTransactionId ≠ steveTransactionId) ∨
            w.syncRefused a = true

instance (id : ℕ) (w : World) (a : Action) (w' : World) : Decidable (LookupsRetried id w a w') := by
  unfold LookupsRetried
  rcases a
  case flush i event =>
      rcases event
      case subscriptionsListed answer => rcases answer <;> infer_instance
      all_goals infer_instance
  all_goals infer_instance

instance (id : ℕ) (w : World) (a : Action) : Decidable (NoneTaken id w a) := by
  unfold NoneTaken
  rcases a
  case flush i event =>
      rcases event
      case subscriptionsListed answer => rcases answer <;> infer_instance
      all_goals infer_instance
  all_goals infer_instance

/-! ## The invariant -/

/-- Records are in order, and so is the run in progress. -/
structure LookupInvariant (w : World) : Prop where
  inOrder : w.RunInOrder
  final : w.RunsFinal
  contexts : ∀ (i : ℕ) (obj : TxObject), w.heap[i]? = some obj → obj.ContextInOrder

lemma initial_lookupInvariant (userMappings : List UserMapping) (clock : ℕ) :
    LookupInvariant (World.initial userMappings clock) where
  inOrder := World.initial_runInOrder _ _
  final := fun phase h => by simp [World.initial] at h
  contexts := fun i obj h => by simp [World.initial] at h

section Steps

variable {id : ℕ} {w w' : World} {a : Action}

theorem LookupInvariant.step (hinv : LookupInvariant w) (hstep : World.step w a = some w') :
    LookupInvariant w' where
  inOrder := hinv.inOrder.step hstep
  final := hinv.final.step hstep
  contexts := World.forall_object_step hinv.contexts
    (fun sample _ _ _ => firstSample_contextInOrder sample _ _)
    (fun _ _ _ _ hord h => hord.step h.contextStep) hstep

/-- A flush that gets an error goes on as without a subscription, and its record stays resolved. -/
lemma resolved_of_lookup_error (hinv : LookupInvariant w) {i : ℕ} {e : String}
    (hstep : World.step w (.flush i (.subscriptionsListed (.error e))) = some w') {obj : TxObject}
    (hobj : w.heap[i]? = some obj) :
    ∃ obj', w'.heap[i]? = some obj' ∧ obj'.st.steveTransactionId = obj.st.steveTransactionId ∧
      obj'.st.resolved = true := by
  have hlen : i < w.heap.length := (List.getElem?_eq_some_iff.mp hobj).1
  cases hflush : obj.flushing with
  | none => simp [World.step, hobj, hflush] at hstep
  | some flush =>
      cases hpoint : flush.point with
      | subscriptions mapping =>
          have hin := (hinv.contexts i obj hobj).flight flush hflush
          rw [hpoint] at hin
          have hw : w'.heap = w.heap.set i (obj.subscriptionResolved flush none) := by
            simp only [World.step, hobj, hflush, World.stepFlush, hpoint, resolveFromLago] at hstep
            rw [← Option.some.inj hstep]
            rfl
          exact ⟨obj.subscriptionResolved flush none, by rw [hw]; exact List.getElem?_set_self hlen,
            rfl, hin.1⟩
      | _ => simp [World.step, hobj, hflush, World.stepFlush, hpoint] at hstep

/-- A sync run treats a failed look-up as an answer exactly when it writes the transaction. -/
lemma lookupsRetried_sync (hinv : LookupInvariant w) (hstep : World.step w a = some w')
    (ha : ∀ i event, a ≠ .flush i event) :
    (∀ phase ∈ w.sync, id ∈ phase.run.failedLookups → w.db.finalized id = false →
        (∀ pt ∈ w.syncWrites a, pt.steveTransactionId ≠ id) ∨ w.syncRefused a = true) ↔
      ∀ phase ∈ w.sync, id ∈ phase.run.failedLookups → w.db.finalized id = false →
        w'.db.finalized id = false := by
  refine forall₂_congr fun phase hphase => imp_congr_right fun _ => imp_congr_right fun hopen => ?_
  constructor
  · rintro (hnone | hrefused)
    · cases World.step_row hinv.inOrder hstep id with
      | same hrow => rw [(Db.same_row hrow).2, hopen]
      | flushed hflush => exact absurd hflush (ha _ _)
      | synced hphase' hmem hwrites hid => exact absurd hid (hnone _ hwrites)
    · rw [World.db_of_syncRefused hstep hrefused, hopen]
  · intro hstays
    by_contra hcontra
    simp only [not_or, not_forall, not_not] at hcontra
    obtain ⟨⟨pt, hwrites, hid⟩, hok⟩ := hcontra
    obtain ⟨phase', hphase', pt', hmem', -, row, hupdate, hrow⟩ :=
      World.row_of_syncWrites hinv.inOrder hstep hwrites (by simpa using hok)
    have hfinal := (NewTransactionSyncState.toRow_eq_some hupdate).2.2.2
    rw [hid] at hrow
    rw [Db.finalized_of_row hrow, hfinal, SyncRun.stateUpdate,
      hinv.final phase' hphase' pt' hmem'] at hstays
    cases hstays

/-- Step by step, the condition is equivalent to the property. -/
lemma noneTaken_iff_lookupsRetried (hinv : LookupInvariant w) (hstep : World.step w a = some w') :
    NoneTaken id w a ↔ LookupsRetried id w a w' := by
  cases a with
  | flush i event =>
      cases event with
      | subscriptionsListed answer =>
          cases answer with
          | ok subscriptions => exact Iff.rfl
          | error e =>
              constructor
              · intro hnone obj' hobj' hid'
                rcases World.step_object hstep hobj' with ⟨obj, hobj, hos⟩ | ⟨sample, kwh, ha, -⟩
                · exact absurd (hos.steveTransactionId.symm.trans hid') (hnone obj hobj)
                · cases ha
              · intro hretried obj hobj hid
                obtain ⟨obj', hobj', hid', hresolved⟩ := resolved_of_lookup_error hinv hstep hobj
                rw [hretried obj' hobj' (hid'.trans hid)] at hresolved
                cases hresolved
      | _ => exact Iff.rfl
  | _ => exact lookupsRetried_sync hinv hstep (by simp)

end Steps

/-- Along every run, a failed look-up for a transaction is never taken for an answer exactly when
no flush of it meets one and no sync run that has met one writes it. -/
theorem lookupsRetried_iff_noneTaken (userMappings : List UserMapping) (clock : ℕ)
    (steveTransactionId : ℕ) (as : List Action) :
    EachStep World.step (LookupsRetried steveTransactionId) (World.initial userMappings clock) as ↔
      Meets World.step (NoneTaken steveTransactionId) (World.initial userMappings clock) as := by
  exact (meets_iff_eachStep (I := LookupInvariant) (A := fun _ _ => True)
    (fun _ _ _ hinv _ _ hstep => hinv.step hstep)
    (fun _ _ _ hinv _ hstep => noneTaken_iff_lookupsRetried hinv hstep)
    (initial_lookupInvariant userMappings clock) (meets_of_forall fun _ _ => trivial)).symm

/-- Lago is down while a flush asks it for the subscription. -/
def Scenario.outageAtFlush : List Action :=
  [meter 7 0 false, meter 7 1 false] ++ lookUpsAtLago 0 7 (.error "503")

/-- Lago is down while a sync pass asks it for the subscription. -/
def Scenario.outageAtSync : List Action :=
  [.syncReads ⟨[transaction 7 "0" (some "2000")], [], fun _ => .error "503", true⟩ 1, .syncSaves]

/-- The record stays resolved, and the row is finalized with nothing billed. -/
theorem not_lookupsRetried_of_outage :
    ¬EachStep World.step (LookupsRetried 7) (World.initial [Scenario.customerMapping] 0)
        Scenario.outageAtFlush ∧
      ¬EachStep World.step (LookupsRetried 7) (World.initial [Scenario.customerMapping] 0)
        Scenario.outageAtSync := by
  decide +kernel

end ExpresSync
