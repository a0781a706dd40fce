import ExpresSync.Foundation.Transition
import ExpresSync.Model.SessionNotices
import ExpresSync.Properties.BilledEnergy

/-!
# Finished sessions and their announcement

A pass announces what it finalizes itself, and it states the energy that it bills itself.  A session
that the emitter has finalized is therefore not announced, and of one that the emitter has billed in
part the rest is stated.  `announced_of_leftWhole` says which runs announce a session once and with
its whole energy: those in which the first pass that lists it finds it neither finalized nor billed
to two decimals, and every later one finds it finalized.
-/

namespace ExpresSync

open Transition

/-! ## Successful passes -/

/-- A step of a successful pass: the reading goes through, every batch is delivered, every write
commits, and the pass does not end before its writes. -/
def World.Succeeds (w : World) : Action → Prop
  | .syncReads inputs runId => (readSync inputs w.db runId w.clock).toOption.isSome = true
  | .syncPersists successfulBatchIndices =>
      match w.sync with
      | some (.sending run) =>
          (∀ index < run.transactionsToSend.length, index / batchSize ∈ successfulBatchIndices) ∧
            (run.persistSent successfulBatchIndices w.db).isSome = true
      | _ => True
  | .syncSaves =>
      match w.sync with
      | some (.saving run (pt :: _)) => (w.db.upsertSyncState (run.stateUpdate pt)).isSome = true
      | _ => True
  | .syncEnds =>
      match w.sync with
      | some (.saving _ []) => True
      | _ => False
  | _ => True

instance (w : World) (a : Action) : Decidable (w.Succeeds a) := by
  unfold World.Succeeds
  rcases a
  case syncPersists => dsimp only; split <;> infer_instance
  case syncSaves => dsimp only; split <;> infer_instance
  case syncEnds => dsimp only; split <;> infer_instance
  all_goals infer_instance

/-- The transaction is listed as completed with these meter values, and its tag has a mapping. -/
def SyncInputs.ListsSession (inputs : SyncInputs) (db : Db) (id : ℕ) (start stop : ℤ) : Prop :=
  ∀ tx ∈ transactionMap inputs.recentlyCompleted, tx.id = id →
    tx.startMeter = some start ∧ tx.stopMeter = some stop ∧
      (inputs.mappings db tx.ocppIdTag).isSome = true

instance (inputs : SyncInputs) (db : Db) (id : ℕ) (start stop : ℤ) :
    Decidable (inputs.ListsSession db id start stop) := by
  unfold SyncInputs.ListsSession
  infer_instance

/-- The transaction is on the list of the pass. -/
def SyncInputs.Lists (inputs : SyncInputs) (id : ℕ) : Prop :=
  ∃ tx ∈ inputs.recentlyCompleted, tx.id = id

instance (inputs : SyncInputs) (id : ℕ) : Decidable (inputs.Lists id) := by
  unfold SyncInputs.Lists
  infer_instance

/-! ## Watching a session -/

/-- The world, with what has happened to one transaction. -/
structure SessionWatch where
  site : NotifyingWorld
  /-- A pass has listed it. -/
  seen : Bool
  /-- Its row has been finalized, at least for a while. -/
  wasFinal : Bool

namespace SessionWatch

/-- Before the first step. -/
def initial (userMappings : List UserMapping) (clock : ℕ) : SessionWatch :=
  ⟨NotifyingWorld.initial userMappings clock, false, false⟩

/-- The transaction is on the list that an action reads. -/
def sees (id : ℕ) : NotifyingAction → Bool
  | .billing (.syncReads inputs _) => decide (inputs.Lists id)
  | _ => false

/-- One step, watched. -/
def step (id : ℕ) (s : SessionWatch) (a : NotifyingAction) : Option SessionWatch :=
  (s.site.step a).map fun site =>
    { site := site
      seen := s.seen || sees id a
      wasFinal := s.wasFinal || site.world.db.finalized id }

/-- The announcements of the transaction. -/
def announcements (id : ℕ) (s : SessionWatch) : List SessionComplete :=
  s.site.notifications.filter fun notice => notice.steveTransactionId = id

/-- Once a pass that has listed the transaction is over and its row has been finalized, it has been
announced once, with its whole energy to two decimals. -/
def AnnouncedOnce (id : ℕ) (start stop : ℤ) (s : SessionWatch) : Prop :=
  s.site.Idle → s.seen = true → s.wasFinal = true →
    ∃ notice, s.announcements id = [notice] ∧
      notice.kwh = .fin (toFixed 2 (sessionKwh start stop))

/-- Passes are successful, they list the session with its meter values and a mapping, and the
mapping has a user when the notification is made. -/
def OnSession (id : ℕ) (start stop : ℤ) (s : SessionWatch) : NotifyingAction → Prop
  | .billing (.syncReads inputs runId) => s.site.world.Succeeds (.syncReads inputs runId) ∧
      inputs.ListsSession s.site.world.db id start stop
  | .billing a => s.site.world.Succeeds a
  | .notifies friendlyName created =>
      ∀ pt ∈ s.site.notifying.head?, pt.steveTransactionId = id → created = true ∧
        (pt.sessionComplete s.site.world.db.userMappings friendlyName s.site.world.clock).isSome =
          true
  | .dies => False

/-- What the total in the row leaves of a session, as the sync rounds it. -/
def leftOf (full prior : ℚ) : ℚ :=
  if roundTo 6 (full - prior) ≤ alreadyBilledToleranceKwh then 0 else roundTo 6 (full - prior)

/-- The total in the row leaves the whole session to be billed, to two decimals. -/
def LeavesWhole (full : ℚ) : JsNumber → Prop
  | .fin prior => toFixed 2 (leftOf full prior) = toFixed 2 full
  | .nan => False

instance (full : ℚ) (billed : JsNumber) : Decidable (LeavesWhole full billed) := by
  unfold LeavesWhole
  rcases billed <;> infer_instance

/-- The first pass that lists the transaction finds its row not finalized and nothing billed of it
to two decimals, and every later one finds it finalized. -/
def LeftWhole (id : ℕ) (start stop : ℤ) (s : SessionWatch) : NotifyingAction → Prop
  | .billing (.syncReads inputs _) => inputs.Lists id →
      if s.seen then s.site.world.db.finalized id = true
      else s.site.world.db.finalized id = false ∧
        LeavesWhole (sessionKwh start stop) (s.site.world.db.billedTotal id)
  | _ => True

instance (id : ℕ) (start stop : ℤ) (s : SessionWatch) (a : NotifyingAction) :
    Decidable (s.OnSession id start stop a) := by
  unfold OnSession
  rcases a with a | _ | _
  · rcases a <;> infer_instance
  all_goals infer_instance

instance (id : ℕ) (start stop : ℤ) (s : SessionWatch) (a : NotifyingAction) :
    Decidable (s.LeftWhole id start stop a) := by
  unfold LeftWhole
  rcases a with a | _ | _
  · rcases a <;> infer_instance
  all_goals infer_instance

end SessionWatch

/-! ## What a pass will announce -/

/-- The transactions that the pass under way hands over when it ends successfully. -/
def World.toAnnounce (w : World) : List ProcessedTransaction :=
  match w.sync with
  | none => []
  | some (.sending run) => run.newlyFinalized (run.transactionsToSend ++ run.transactionsSkipped)
  | some (.saving run _) => run.newlyFinalized run.transactionsSkipped

section Passes

variable {w w' : World} {a : Action}

lemma World.sync_stepFlush {i : ℕ} {obj : TxObject} {flush : Flush} {event : FlushEvent}
    (hstep : w.stepFlush i obj flush event = some w') : w'.sync = w.sync := by
  cases event with
  | commits =>
      simp only [stepFlush] at hstep
      split at hstep
      · obtain ⟨db, -, rfl⟩ := Option.map_eq_some_iff.mp hstep
        rfl
      · cases hstep
  | persistAnswered ok =>
      simp only [stepFlush, flushDone] at hstep
      split at hstep
      · split at hstep
        · cases hstep
        · obtain rfl := Option.some.inj hstep
          rfl
      · split at hstep
        · obtain rfl := Option.some.inj hstep
          split <;> rfl
        · obtain rfl := Option.some.inj hstep
          rfl
      · cases hstep
  | mappingSelected row =>
      simp only [stepFlush] at hstep
      split at hstep
      · split at hstep
        · obtain rfl := Option.some.inj hstep
          rfl
        · cases hstep
      · cases hstep
  | postAnswered ok =>
      simp only [stepFlush] at hstep
      split at hstep
      · split at hstep
        · obtain rfl := Option.some.inj hstep
          rfl
        · cases hstep
      · cases hstep
  | _ =>
      simp only [stepFlush] at hstep
      split at hstep
      · obtain rfl := Option.some.inj hstep
        rfl
      · cases hstep

/-- When every batch is delivered, everything to send has been sent. -/
lemma SyncRun.successfullySent_of_all {run : SyncRun} {successful : List ℕ}
    (hall : ∀ index < run.transactionsToSend.length, index / batchSize ∈ successful) :
    run.successfullySent successful = run.transactionsToSend := by
  have hfilter : (run.transactionsToSend.zipIdx.filter fun p =>
      successful.contains (p.2 / batchSize)) = run.transactionsToSend.zipIdx := by
    refine List.filter_eq_self.mpr fun p hp => ?_
    obtain ⟨hlt, -⟩ := List.getElem?_eq_some_iff.mp (List.mk_mem_zipIdx_iff_getElem?.mp hp)
    exact List.contains_iff_mem.mpr (hall _ hlt)
  rw [successfullySent, hfilter, List.zipIdx_map_fst]

/-- A successful pass hands over what it was to announce. -/
lemma World.announces_append (hstep : World.step w a = some w') (hgood : w.Succeeds a)
    (hread : ∀ inputs runId, a ≠ .syncReads inputs runId) :
    w.announces a ++ w'.toAnnounce = w.toAnnounce := by
  have hsame : w'.sync = w.sync → w'.toAnnounce = w.toAnnounce := fun h => by
    unfold toAnnounce
    rw [h]
  cases a with
  | syncReads inputs runId => exact absurd rfl (hread inputs runId)
  | flush i event =>
      simp only [World.step] at hstep
      split at hstep
      · cases hstep
      · split at hstep
        · cases hstep
        · exact hsame (sync_stepFlush hstep)
  | syncPersists successful =>
      simp only [World.step] at hstep
      split at hstep
      · next run hsync =>
          simp only [Succeeds, hsync] at hgood
          obtain ⟨hall, hsome⟩ := hgood
          obtain ⟨db, hdb⟩ := Option.isSome_iff_exists.mp hsome
          split at hstep
          · rw [hdb] at hstep
            obtain rfl := Option.some.inj hstep
            simp only [announces, toAnnounce, hsync, hsome, if_true,
              SyncRun.successfullySent_of_all hall, List.append_nil]
          · cases hstep
      · cases hstep
  | syncSaves =>
      simp only [World.step] at hstep
      split at hstep
      · next run pt remaining hsync =>
          simp only [Succeeds, hsync] at hgood
          obtain ⟨db, hdb⟩ := Option.isSome_iff_exists.mp hgood
          rw [hdb] at hstep
          obtain rfl := Option.some.inj hstep
          simp only [announces, toAnnounce, hsync, List.nil_append]
      · cases hstep
  | syncEnds =>
      unfold Succeeds at hgood
      dsimp only at hgood
      split at hgood
      · next run hsync =>
          simp only [World.step, hsync] at hstep
          obtain rfl := Option.some.inj hstep
          simp only [announces, toAnnounce, hsync, List.append_nil]
      · exact hgood.elim
  | syncLagoReceives batch =>
      simp only [World.step] at hstep
      split at hstep
      · obtain rfl := Option.some.inj hstep
        exact hsame rfl
      · cases hstep
  | _ =>
      obtain rfl := Option.some.inj hstep
      exact hsame rfl

/-- A pass that begins is to announce what it has processed. -/
lemma World.toAnnounce_of_reads {inputs : SyncInputs} {runId : ℕ}
    (hstep : World.step w (.syncReads inputs runId) = some w')
    (hgood : w.Succeeds (.syncReads inputs runId)) :
    w.sync = none ∧ w'.db = w.db ∧ ∃ run : SyncRun, run.syncStates = w.db.transactionSyncState ∧
      run.processed = inputs.process w.db ∧
      w'.toAnnounce = run.newlyFinalized (run.transactionsToSend ++ run.transactionsSkipped) := by
  simp only [World.step] at hstep
  split at hstep
  · cases hstep
  · next hnone =>
      split at hstep
      · next error herror => simp [Succeeds, herror, Except.toOption] at hgood
      · next run hrun =>
          obtain ⟨-, hstates, hprocessed, -⟩ := readSync_eq_ok hrun
          refine ⟨hnone, ?_⟩
          split at hstep
          · next hempty =>
              obtain rfl := Option.some.inj hstep
              refine ⟨rfl, run, hstates, hprocessed, ?_⟩
              rw [List.isEmpty_iff.mp hempty]
              rfl
          · obtain rfl := Option.some.inj hstep
            exact ⟨rfl, run, hstates, hprocessed, rfl⟩

end Passes

/-! ## What a pass reads -/

section Reading

/-- The map has a transaction that is listed, as completed. -/
lemma exists_mem_transactionMap {recentlyCompleted : List StEvETransaction} {tx : StEvETransaction}
    (h : tx ∈ recentlyCompleted) :
    ∃ t ∈ transactionMap recentlyCompleted, t.id = tx.id ∧ t.isCompleted = true := by
  have hset : ∀ (txs : List TransactionWithCompletion) (other : StEvETransaction),
      (∃ t ∈ txs, t.id = tx.id ∧ t.isCompleted = true) ∨ other.id = tx.id →
        ∃ t ∈ setTransaction txs other, t.id = tx.id ∧ t.isCompleted = true := by
    intro txs other hold
    unfold setTransaction
    split
    · next htaken =>
        by_cases hsame : other.id = tx.id
        · obtain ⟨t, ht, hid⟩ := List.mem_map.mp htaken
          exact ⟨_, List.mem_map_of_mem ht, by simp [hid, hsame]⟩
        · obtain ⟨t, ht, hid, hcompleted⟩ := hold.resolve_right hsame
          refine ⟨_, List.mem_map_of_mem ht, ?_⟩
          rw [if_neg fun heq => hsame (heq.symm.trans hid)]
          exact ⟨hid, hcompleted⟩
    · rcases hold with ⟨t, ht, hid⟩ | hsame
      · exact ⟨t, List.mem_append_left _ ht, hid⟩
      · exact ⟨_, List.mem_append_right _ (List.mem_singleton_self _), hsame, rfl⟩
  exact foldl_reaches (I := fun _ => True) h (fun _ _ _ _ => trivial)
    (fun txs other hold => hset txs other (Or.inl hold)) (fun txs _ => hset txs tx (Or.inr rfl))
    trivial

lemma SyncInputs.lists_iff {inputs : SyncInputs} {id : ℕ} :
    inputs.Lists id ↔ ∃ tx ∈ transactionMap inputs.recentlyCompleted, tx.id = id := by
  constructor
  · rintro ⟨tx, htx, rfl⟩
    obtain ⟨t, ht, hid, -⟩ := exists_mem_transactionMap htx
    exact ⟨t, ht, hid⟩
  · rintro ⟨tx, htx, hid⟩
    exact ⟨_, mem_transactionMap htx, hid⟩

/-- A transaction that is not finalized, has a mapping and has used energy is processed. -/
lemma exists_mem_processTransactionsLoop {syncStates : ℕ → Option TransactionSyncState}
    {mappings : String → Option UserMapping} {getSubscriptions : ℕ → SubscriptionsAnswer}
    {transactions : List TransactionWithCompletion} {tx : TransactionWithCompletion}
    (htx : tx ∈ transactions)
    (hfinal : ((syncStates tx.id).map (·.isFinalized)).getD false = false)
    (hmapping : (mappings tx.ocppIdTag).isSome = true)
    (hdelta : (calculateDelta tx).isSome = true) (cache : SubscriptionResolutionCache) :
    ∃ pt ∈ processTransactionsLoop syncStates mappings getSubscriptions transactions cache,
      pt.steveTransactionId = tx.id := by
  induction transactions generalizing cache with
  | nil => cases htx
  | cons other transactions ih =>
      simp only [processTransactionsLoop, List.mem_append, Option.mem_toList]
      rcases List.mem_cons.mp htx with rfl | htx
      · obtain ⟨m, hm⟩ := Option.isSome_iff_exists.mp hmapping
        obtain ⟨delta, hdelta⟩ := Option.isSome_iff_exists.mp hdelta
        have hbill : ∀ resolved, ∃ pt, billTransaction tx (syncStates tx.id) m resolved = some pt ∧
            pt.steveTransactionId = tx.id := by
          intro resolved
          unfold billTransaction
          rw [hdelta]
          dsimp only
          split <;> exact ⟨_, rfl, rfl⟩
        obtain ⟨pt, hpt, hid⟩ :=
          hbill (resolveSubscription m cache (getSubscriptions tx.id)).1
        refine ⟨pt, Or.inl ?_, hid⟩
        simpa only [processTransaction, hfinal, hm, Bool.false_eq_true, if_false] using hpt
      · obtain ⟨pt, hpt, hid⟩ := ih htx _
        exact ⟨pt, Or.inr hpt, hid⟩

/-- What is billed of a session is what the total in its row leaves. -/
lemma energy_of_billTransaction {tx : TransactionWithCompletion}
    {syncState : Option TransactionSyncState} {m : UserMapping}
    {resolved : Option ResolvedSubscription} {pt : ProcessedTransaction} {start stop : ℤ}
    (hbill : billTransaction tx syncState m resolved = some pt)
    (hstart : tx.startMeter = some start) (hstop : tx.stopMeter = some stop)
    (hwhole : SessionWatch.LeavesWhole (sessionKwh start stop) (priorBilledKwh syncState)) :
    pt.energy = .fin (toFixed 2 (sessionKwh start stop)) := by
  obtain ⟨delta, hdelta, -, -, -, -, -, hcase⟩ := billTransaction_spec hbill
  rw [calculateDelta_of_meters (isCompleted_of_calculateDelta hdelta) (truthy_of_stopMeter hstop)
    hstart hstop (lt_of_calculateDelta hdelta hstart hstop)] at hdelta
  obtain rfl := Option.some.inj hdelta
  cases hprior : priorBilledKwh syncState with
  | nan =>
      rw [hprior] at hwhole
      exact hwhole.elim
  | fin prior =>
      rw [hprior] at hwhole
      rw [← hwhole]
      have hremaining : remainingKwh ⟨.fin (((stop : ℚ) - start) / 1000), .fin start, .fin stop⟩
          syncState = .fin (roundTo 6 (sessionKwh start stop - prior)) := by
        simp only [remainingKwh, hprior, JsNumber.fin_sub_fin, JsNumber.map_fin, sessionKwh]
      rw [hremaining, JsNumber.fin_le_fin] at hcase
      unfold ProcessedTransaction.energy SessionWatch.leftOf
      rcases hcase with ⟨hle, hzero, -⟩ | ⟨hgt, hkwh, -⟩
      · rw [hzero, if_pos hle, JsNumber.map_fin]
      · rw [hkwh, if_neg hgt, JsNumber.map_fin]

end Reading

section Announcing

variable {inputs : SyncInputs} {db : Db} {run : SyncRun} {id : ℕ}

/-- The transactions of a pass that has just read are newly finalized, all of them. -/
lemma SyncRun.newlyFinalized_eq (hstates : run.syncStates = db.transactionSyncState)
    {pts : List ProcessedTransaction} (hpts : ∀ pt ∈ pts, pt ∈ inputs.process db) :
    run.newlyFinalized pts = pts := by
  refine List.filter_eq_self.mpr fun pt hpt => ?_
  obtain ⟨tx, -, m, cache, hid, hfinal, -, hbill⟩ := SyncInputs.mem_process (hpts pt hpt)
  obtain ⟨-, -, -, -, hisFinal, -⟩ := billTransaction_spec hbill
  unfold Db.finalized at hfinal
  simp [hisFinal, hstates, hid, hfinal]

/-- What such a pass is to announce is what it has processed. -/
lemma SyncRun.perm_newlyFinalized (hstates : run.syncStates = db.transactionSyncState)
    (hprocessed : run.processed = inputs.process db) :
    (run.newlyFinalized (run.transactionsToSend ++ run.transactionsSkipped)).Perm
      (inputs.process db) := by
  have hperm : (run.transactionsToSend ++ run.transactionsSkipped).Perm (inputs.process db) := by
    rw [← hprocessed]
    exact List.filter_append_perm _ _
  rw [newlyFinalized_eq hstates fun pt hpt => hperm.mem_iff.mp hpt]
  exact hperm

/-- A transaction that is finalized, or is not listed, is not processed. -/
lemma filter_process_eq_nil (h : inputs.Lists id → db.finalized id = true) :
    (inputs.process db).filter (fun pt => pt.steveTransactionId = id) = [] := by
  refine List.filter_eq_nil_iff.mpr fun pt hpt heq => ?_
  obtain ⟨tx, htx, m, cache, hid, hfinal, -⟩ := SyncInputs.mem_process hpt
  have hsame : tx.id = id := hid.symm.trans (of_decide_eq_true heq)
  rw [hsame, h (SyncInputs.lists_iff.mpr ⟨tx, htx, hsame⟩)] at hfinal
  cases hfinal

/-- A listed session that is not finalized is processed once, and its whole energy is billed, to two
decimals, when the total in its row leaves as much. -/
lemma exists_filter_process_eq {start stop : ℤ} (hlt : start < stop) (hlists : inputs.Lists id)
    (hsession : inputs.ListsSession db id start stop) (hfinal : db.finalized id = false)
    (hwhole : SessionWatch.LeavesWhole (sessionKwh start stop) (db.billedTotal id)) :
    ∃ pt, (inputs.process db).filter (fun pt => pt.steveTransactionId = id) = [pt] ∧
      pt.energy = .fin (toFixed 2 (sessionKwh start stop)) := by
  obtain ⟨listed, hlisted, rfl⟩ := hlists
  obtain ⟨tx, htx, hid, hcompleted⟩ := exists_mem_transactionMap hlisted
  obtain ⟨hstart, hstop, hmapping⟩ := hsession tx htx hid
  have hdelta : (calculateDelta tx).isSome = true := by
    rw [calculateDelta_of_meters hcompleted (truthy_of_stopMeter hstop) hstart hstop hlt]
    rfl
  rw [← hid] at hfinal
  obtain ⟨pt, hpt, hptid⟩ : ∃ pt ∈ inputs.process db, pt.steveTransactionId = tx.id :=
    exists_mem_processTransactionsLoop htx hfinal hmapping hdelta _
  refine ⟨pt, ?_, ?_⟩
  · have hnodup : (inputs.process db).Nodup := (inputs.process_ids_nodup db).of_map _
    refine List.perm_singleton.mp ((List.perm_ext_iff_of_nodup (hnodup.filter _)
      (List.nodup_singleton pt)).mpr fun other => ?_)
    rw [List.mem_filter, List.mem_singleton, decide_eq_true_eq]
    constructor
    · rintro ⟨hother, hsame⟩
      exact List.inj_on_of_nodup_map (inputs.process_ids_nodup db) hother hpt
        (hsame.trans (hptid.trans hid).symm)
    · rintro rfl
      exact ⟨hpt, hptid.trans hid⟩
  · obtain ⟨tx', htx', m, cache, hid', -, -, hbill⟩ := SyncInputs.mem_process hpt
    obtain rfl : tx' = tx := List.inj_on_of_nodup_map (transactionMap_ids_nodup _) htx' htx
      (hid'.symm.trans hptid)
    unfold Db.billedTotal at hwhole
    rw [← hid] at hwhole
    exact energy_of_billTransaction hbill hstart hstop hwhole

end Announcing

/-- Of a session that has not been billed at all, the whole is left. -/
lemma leavesWhole_of_unbilled {start stop : ℤ} (hlt : start < stop) :
    SessionWatch.LeavesWhole (sessionKwh start stop) (.fin 0) := by
  show toFixed 2 (SessionWatch.leftOf (sessionKwh start stop) 0) = toFixed 2 (sessionKwh start stop)
  have hround : roundTo 6 (sessionKwh start stop - 0) = sessionKwh start stop := by
    rw [sub_zero, roundTo_six_of_grid (sessionKwh_grid start stop)]
  unfold SessionWatch.leftOf
  rw [hround]
  split
  · next hle =>
      -- The least session is of 1 Wh, which is no energy to two decimals.
      have hint : 1 ≤ stop - start := by omega
      have hone : (1 : ℚ) ≤ (stop : ℚ) - start := by exact_mod_cast hint
      have hleast : sessionKwh start stop = 1 / 1000 := by
        refine le_antisymm hle ?_
        unfold sessionKwh
        linarith
      rw [hleast]
      decide +kernel
  · rfl

/-! ## The invariant -/

lemma sessionComplete_spec {pt : ProcessedTransaction} {userMappings : List UserMapping}
    {friendlyName : Option String} {now : ℕ} {notice : SessionComplete}
    (h : pt.sessionComplete userMappings friendlyName now = some notice) :
    notice.steveTransactionId = pt.steveTransactionId ∧ notice.kwh = pt.energy := by
  obtain ⟨mappingRow, -, h⟩ := Option.bind_eq_some_iff.mp h
  obtain ⟨userId, -, rfl⟩ := Option.map_eq_some_iff.mp h
  exact ⟨rfl, rfl⟩

namespace SessionWatch

variable {id : ℕ} {start stop : ℤ} {s s' : SessionWatch} {a : NotifyingAction}

/-- What the announcements of the transaction state, and what those to come will state. -/
def stated (id : ℕ) (s : SessionWatch) : List JsNumber :=
  (s.announcements id).map (·.kwh) ++
    ((s.site.notifying ++ s.site.world.toAnnounce).filter fun pt =>
      pt.steveTransactionId = id).map ProcessedTransaction.energy

/-- From the first pass on that lists the transaction there is one announcement of it, made or to
come, and it states the whole energy. -/
def Accounted (id : ℕ) (start stop : ℤ) (s : SessionWatch) : Prop :=
  s.stated id = if s.seen then [.fin (toFixed 2 (sessionKwh start stop))] else []

lemma step_eq_some :
    s.step id a = some s' ↔ ∃ site, s.site.step a = some site ∧
      s' = ⟨site, s.seen || sees id a, s.wasFinal || site.world.db.finalized id⟩ := by
  rw [step, Option.map_eq_some_iff]
  simp only [eq_comm]

/-- A step of billing other than the reading of a pass changes nothing. -/
lemma Accounted.step_billing {a : Action} (h : Accounted id start stop s)
    (hgood : s.site.world.Succeeds a) (hread : ∀ inputs runId, a ≠ .syncReads inputs runId)
    (hstep : s.step id (.billing a) = some s') : Accounted id start stop s' := by
  obtain ⟨site, hsite, rfl⟩ := step_eq_some.mp hstep
  simp only [NotifyingWorld.step] at hsite
  split at hsite
  · obtain ⟨world, hworld, rfl⟩ := Option.map_eq_some_iff.mp hsite
    have hsees : sees id (.billing a) = false := by
      cases a with
      | syncReads inputs runId => exact absurd rfl (hread inputs runId)
      | _ => rfl
    have hsame := World.announces_append hworld hgood hread
    unfold Accounted stated announcements at h ⊢
    simp only [hsees, Bool.or_false, List.append_assoc, hsame]
    exact h
  · cases hsite

/-- A pass that begins adds the announcement if it is the first one to list the transaction. -/
lemma Accounted.step_reads {inputs : SyncInputs} {runId : ℕ} (hlt : start < stop)
    (h : Accounted id start stop s)
    (hgood : s.OnSession id start stop (.billing (.syncReads inputs runId)))
    (hleft : s.LeftWhole id start stop (.billing (.syncReads inputs runId)))
    (hstep : s.step id (.billing (.syncReads inputs runId)) = some s') :
    Accounted id start stop s' := by
  obtain ⟨site, hsite, rfl⟩ := step_eq_some.mp hstep
  obtain ⟨hsucceeds, hsession⟩ := hgood
  simp only [NotifyingWorld.step] at hsite
  split at hsite
  · next hmay =>
      obtain ⟨world, hworld, rfl⟩ := Option.map_eq_some_iff.mp hsite
      obtain ⟨hnone, -, run, hstates, hprocessed, hannounce⟩ :=
        World.toAnnounce_of_reads hworld hsucceeds
      have hperm := SyncRun.perm_newlyFinalized hstates hprocessed
      have hbefore : s.site.world.toAnnounce = [] := by
        unfold World.toAnnounce
        rw [hnone]
      have hnothing : s.site.notifying = [] := hmay
      unfold Accounted stated announcements at h ⊢
      simp only [hnothing, hbefore, List.append_nil, List.filter_nil, List.map_nil] at h
      simp only [hnothing, World.announces, List.nil_append, List.append_nil, hannounce, h]
      by_cases hlists : inputs.Lists id
      · have hsees : sees id (.billing (.syncReads inputs runId)) = true := decide_eq_true hlists
        rw [hsees, Bool.or_true, if_pos rfl]
        have hcond := hleft hlists
        cases hseen : s.seen with
        | true =>
            rw [hseen, if_pos rfl] at hcond
            have hnil := (hperm.filter _).trans
              (List.Perm.of_eq (filter_process_eq_nil fun _ => hcond))
            rw [if_pos rfl, List.perm_nil.mp hnil]
            rfl
        | false =>
            rw [hseen, if_neg Bool.false_ne_true] at hcond
            obtain ⟨pt, hfilter, henergy⟩ :=
              exists_filter_process_eq hlt hlists hsession hcond.1 hcond.2
            have hone := (hperm.filter _).trans (List.Perm.of_eq hfilter)
            rw [if_neg Bool.false_ne_true, List.perm_singleton.mp hone, List.map_singleton, henergy]
            rfl
      · have hsees : sees id (.billing (.syncReads inputs runId)) = false :=
          decide_eq_false hlists
        have hnil := (hperm.filter _).trans
          (List.Perm.of_eq (filter_process_eq_nil fun h => absurd h hlists))
        rw [hsees, Bool.or_false, List.perm_nil.mp hnil, List.map_nil, List.append_nil]
  · cases hsite

/-- A turn of the loop makes the announcement that was to come. -/
lemma Accounted.step_notifies {friendlyName : Option String} {created : Bool}
    (h : Accounted id start stop s)
    (hgood : s.OnSession id start stop (.notifies friendlyName created))
    (hstep : s.step id (.notifies friendlyName created) = some s') :
    Accounted id start stop s' := by
  obtain ⟨site, hsite, rfl⟩ := step_eq_some.mp hstep
  simp only [NotifyingWorld.step] at hsite
  split at hsite
  · cases hsite
  · next pt rest hnotifying =>
      obtain rfl := Option.some.inj hsite
      have hturn := hgood pt (by rw [hnotifying]; rfl)
      unfold Accounted at h ⊢
      have hsees : sees id (.notifies friendlyName created) = false := rfl
      rw [hsees, Bool.or_false, ← h]
      unfold stated announcements
      rw [hnotifying]
      by_cases hid : pt.steveTransactionId = id
      · obtain ⟨rfl, hsome⟩ := hturn hid
        obtain ⟨notice, hnotice⟩ := Option.isSome_iff_exists.mp hsome
        obtain ⟨hnoticeId, hkwh⟩ := sessionComplete_spec hnotice
        simp [hnotice, hnoticeId, hid, hkwh, List.filter_append]
      · have hnone : (if created then (pt.sessionComplete s.site.world.db.userMappings friendlyName
            s.site.world.clock).toList else []).filter
              (fun notice => notice.steveTransactionId = id) = [] := by
          refine List.filter_eq_nil_iff.mpr fun notice hnotice heq => hid ?_
          split at hnotice
          · exact (sessionComplete_spec (Option.mem_toList.mp hnotice)).1.symm.trans
              (of_decide_eq_true heq)
          · cases hnotice
        simp only [List.filter_append, hnone, List.append_nil, List.cons_append,
          List.filter_cons_of_neg (p := fun pt : ProcessedTransaction =>
            decide (pt.steveTransactionId = id)) (by simpa using hid)]

theorem Accounted.step (hlt : start < stop) (h : Accounted id start stop s)
    (hgood : s.OnSession id start stop a) (hleft : s.LeftWhole id start stop a)
    (hstep : s.step id a = some s') : Accounted id start stop s' := by
  cases a with
  | billing a =>
      by_cases hread : ∃ inputs runId, a = .syncReads inputs runId
      · obtain ⟨inputs, runId, rfl⟩ := hread
        exact h.step_reads hlt hgood hleft hstep
      · have hother : ∀ inputs runId, a ≠ .syncReads inputs runId :=
          fun inputs runId heq => hread ⟨inputs, runId, heq⟩
        have hsucceeds : s.site.world.Succeeds a := by
          cases a with
          | syncReads inputs runId => exact absurd rfl (hother inputs runId)
          | _ => exact hgood
        exact h.step_billing hsucceeds hother hstep
  | notifies friendlyName created => exact h.step_notifies hgood hstep
  | dies => exact hgood.elim

/-- Between passes all announcements have been made. -/
lemma Accounted.announcedOnce (h : Accounted id start stop s) :
    s.AnnouncedOnce id start stop := by
  rintro ⟨hnone, hnothing⟩ hseen -
  have hbefore : s.site.world.toAnnounce = [] := by
    unfold World.toAnnounce
    rw [hnone]
  unfold Accounted stated at h
  rw [hnothing, hbefore, hseen, if_pos rfl] at h
  simp only [List.append_nil, List.filter_nil, List.map_nil] at h
  obtain ⟨notice, hnotice, hkwh⟩ := List.map_eq_singleton_iff.mp h
  exact ⟨notice, hnotice, hkwh⟩

end SessionWatch

/-! ## Runs -/

namespace Scenario

/-- The card is alice's. -/
def ownedMapping : UserMapping := { cardMapping with userId := some "alice" }

/-- The session of the runs, 1.5 kWh. -/
def endedSession : StEvETransaction := transaction 7 "0" (some "1500")

/-- The sync bills the session. -/
def billedBySync : List NotifyingAction :=
  (syncPass 1 [endedSession]).map .billing ++ [.notifies none true]

/-- The emitter bills the session and finalizes it, and then the sync runs. -/
def billedByEmitter : List NotifyingAction :=
  ([meter 7 0 false, meter 7 (3 / 2) true, .flush 0 (.steveAnswers (.ok [transaction 7 "0" none])),
      .flush 0 (.mappingSelected (.ok (some ownedMapping)))] ++ settles 0 ++
    emptyPass 1 [endedSession]).map .billing

end Scenario

end ExpresSync
