import ExpresSync.Model.World

/-!
# What a step can do

The inversion lemmas of `World.step`, from which every invariant is derived: `step_object` says
what a step does to the object at an index, and `step_shared` what it does to the database, to
Lago and to the sync run.
-/

namespace ExpresSync

/-! ## Objects -/

/-- What an action does to the object at index `i`. -/
inductive ObjectStep (w : World) (i : ℕ) : Action → TxObject → TxObject → Prop
  | unchanged (a : Action) (obj : TxObject) : ObjectStep w i a obj obj
  | unheld (a : Action) (obj : TxObject) : ObjectStep w i a obj { obj with held := false }
  | sampled {sample : MeterSample} {kwh : ℚ} {obj : TxObject} (hkwh : sample.kwh = some kwh)
      (hheld : obj.held = true)
      (hid : obj.st.steveTransactionId = sample.steveTransactionId) :
      ObjectStep w i (.sample sample) obj (obj.takeSample sample (meterWh kwh) w.clock)
  | swept {obj : TxObject} (hsweep : obj.sweep w.clock = obj.startFlush false) :
      ObjectStep w i .sweep obj (obj.startFlush false)
  | steveAnswered {obj : TxObject} {flush : Flush} {answer : Except String (List StEvETransaction)}
      (hflush : obj.flushing = some flush) (hpoint : flush.point = .steveTransaction) :
      ObjectStep w i (.flush i (.steveAnswers answer)) obj (obj.steveAnswered flush answer)
  | mappingSelected {obj : TxObject} {flush : Flush} {idTag : String}
      {row : Except String (Option UserMapping)}
      (hflush : obj.flushing = some flush) (hpoint : flush.point = .userMapping idTag)
      (hrow : World.MayReturn w.db idTag row) :
      ObjectStep w i (.flush i (.mappingSelected row)) obj
        (obj.mappingSelected flush w.subscriptionCache row)
  | subscriptionsListed {obj : TxObject} {flush : Flush} {mapping : UserMapping}
      {answer : SubscriptionsAnswer}
      (hflush : obj.flushing = some flush) (hpoint : flush.point = .subscriptions mapping) :
      ObjectStep w i (.flush i (.subscriptionsListed answer)) obj
        (obj.subscriptionResolved flush (resolveFromLago mapping w.subscriptionCache answer).1)
  | resumed {obj : TxObject} {flush : Flush} {billable : Bool}
      (hflush : obj.flushing = some flush) (hpoint : flush.point = .resolved billable) :
      ObjectStep w i (.flush i .resumes) obj (obj.resumeFlush flush billable w.clock)
  | postAnswered {obj : TxObject} {flush : Flush} {post : PostedFlush} {ok : Bool}
      (hflush : obj.flushing = some flush) (hpoint : flush.point = .posting post)
      (hok : ok = true → w.lago.Has post.event.transactionId) :
      ObjectStep w i (.flush i (.postAnswered ok)) obj (obj.postAnswered flush post ok)
  | committed {obj : TxObject} {flush : Flush} {args : FlushPersistArgs}
      (hflush : obj.flushing = some flush) (hpoint : flush.point = .persisting args) :
      ObjectStep w i (.flush i .commits) obj
        { obj with flushing := some { flush with point := .persisted args } }
  | persistFailed {obj : TxObject} {flush : Flush} {args : FlushPersistArgs}
      (hflush : obj.flushing = some flush)
      (hpoint : flush.point = .persisting args ∨ flush.point = .persisted args) :
      ObjectStep w i (.flush i (.persistAnswered false)) obj { obj with flushing := none }
  | succeeded {obj : TxObject} {flush : Flush} {args : FlushPersistArgs} (held : Bool)
      (hflush : obj.flushing = some flush) (hpoint : flush.point = .persisted args) :
      ObjectStep w i (.flush i (.persistAnswered true)) obj
        { obj.flushSucceeded args with held := held }

/-- A step never moves an object to another transaction. -/
lemma ObjectStep.steveTransactionId {w : World} {i : ℕ} {a : Action} {obj obj' : TxObject}
    (h : ObjectStep w i a obj obj') :
    obj'.st.steveTransactionId = obj.st.steveTransactionId := by
  have hstart : ∀ (o : TxObject) (final : Bool),
      (o.startFlush final).st.steveTransactionId = o.st.steveTransactionId := fun o final => by
    unfold TxObject.startFlush
    split_ifs <;> rfl
  have hresolved : ∀ (o : TxObject) (flush : Flush) (resolved : Option ResolvedSubscription),
      (o.subscriptionResolved flush resolved).st.steveTransactionId = o.st.steveTransactionId :=
    fun o flush resolved => by cases resolved <;> rfl
  cases h with
  | unchanged => rfl
  | unheld => rfl
  | swept => exact hstart _ _
  | sampled =>
      unfold TxObject.takeSample
      split
      · rfl
      · split
        · rfl
        · simp only []
          split
          · exact hstart _ _
          · rfl
  | steveAnswered =>
      unfold TxObject.steveAnswered
      split
      · rfl
      · rfl
      · simp only []
        split <;> rfl
  | mappingSelected =>
      unfold TxObject.mappingSelected
      split
      · rfl
      · rfl
      · simp only []
        split
        · exact hresolved _ _ _
        · rfl
  | subscriptionsListed => exact hresolved _ _ _
  | resumed =>
      unfold TxObject.resumeFlush
      split <;> rfl
  | postAnswered =>
      unfold TxObject.postAnswered
      split <;> rfl
  | committed => rfl
  | persistFailed => rfl
  | succeeded => rfl

namespace World

variable {w w' : World} {a : Action}

private lemma getElem?_setObject {i j : ℕ} {obj obj' : TxObject}
    (h : (w.setObject i obj).heap[j]? = some obj') :
    (j = i ∧ obj' = obj) ∨ (j ≠ i ∧ w.heap[j]? = some obj') := by
  rw [setObject, List.getElem?_set] at h
  split at h
  · next hij =>
      split at h
      · exact Or.inl ⟨hij.symm, (Option.some.inj h).symm⟩
      · simp at h
  · next hij => exact Or.inr ⟨fun hc => hij hc.symm, h⟩

private lemma getElem?_deleteState {heap : List TxObject} {id j : ℕ} {obj' : TxObject}
    (h : (deleteState heap id)[j]? = some obj') :
    ∃ obj, heap[j]? = some obj ∧ (obj' = obj ∨ obj' = { obj with held := false }) := by
  rw [deleteState, List.getElem?_map] at h
  obtain ⟨obj, hobj, rfl⟩ := Option.map_eq_some_iff.mp h
  refine ⟨obj, hobj, ?_⟩
  split
  · exact Or.inr rfl
  · exact Or.inl rfl

private lemma getElem?_evict {heap : List TxObject} {j : ℕ} {obj' : TxObject}
    (h : (evict heap)[j]? = some obj') :
    ∃ obj, heap[j]? = some obj ∧ (obj' = obj ∨ obj' = { obj with held := false }) := by
  unfold evict at h
  split at h
  · split at h
    · exact ⟨obj', h, Or.inl rfl⟩
    · exact getElem?_deleteState h
  · exact ⟨obj', h, Or.inl rfl⟩

lemma length_evict (heap : List TxObject) : (evict heap).length = heap.length := by
  unfold evict
  split
  · split
    · rfl
    · simp [deleteState]
  · rfl

/-- The object `state.get(id)` returns is held and belongs to the transaction. -/
lemma of_stateIndex {heap : List TxObject} {id j : ℕ} (h : stateIndex heap id = some j) :
    ∃ obj, heap[j]? = some obj ∧ obj.held = true ∧ obj.st.steveTransactionId = id := by
  obtain ⟨hlt, hp, -⟩ := List.findIdx?_eq_some_iff_getElem.mp h
  refine ⟨heap[j], List.getElem?_eq_getElem hlt, ?_⟩
  simpa using hp

/-! ### Flushes -/

/-- What an event does to the flush of the object at index `i`. -/
inductive FlushStep (w : World) (i : ℕ) (obj : TxObject) (flush : Flush) :
    FlushEvent → World → Prop
  | replaced {event : FlushEvent} {w' : World} {obj' : TxObject}
      (hobj : ObjectStep w i (.flush i event) obj obj')
      (hheap : w'.heap = (w.setObject i obj').heap) (hdb : w'.db = w.db)
      (hlago : w'.lago = w.lago) (hsync : w'.sync = w.sync) : FlushStep w i obj flush event w'
  | lagoReceived {post : PostedFlush} (hpoint : flush.point = .posting post) :
      FlushStep w i obj flush .lagoReceives { w with lago := w.lago.record post.event }
  | committed {args : FlushPersistArgs} {db : Db} (hpoint : flush.point = .persisting args)
      (hdb : w.db.persistFlush (obj.persistState flush.final args)
        (obj.persistEventRow flush.final args) = some db) :
      FlushStep w i obj flush .commits
        { w.setObject i { obj with flushing := some { flush with point := .persisted args } } with
          db := db }
  | done {args : FlushPersistArgs} (hpoint : flush.point = .persisted args) :
      FlushStep w i obj flush (.persistAnswered true) (w.flushDone i obj flush.final args)

lemma flushStep_of_stepFlush {i : ℕ} {obj : TxObject} {flush : Flush} {event : FlushEvent}
    (hflush : obj.flushing = some flush) (hstep : w.stepFlush i obj flush event = some w') :
    FlushStep w i obj flush event w' := by
  cases event with
  | steveAnswers answer =>
      simp only [stepFlush] at hstep
      split at hstep
      · next hp =>
          obtain rfl := Option.some.inj hstep
          exact .replaced (.steveAnswered hflush hp) rfl rfl rfl rfl
      · simp at hstep
  | mappingSelected row =>
      simp only [stepFlush] at hstep
      split at hstep
      · next idTag hp =>
          split at hstep
          · next hrow =>
              obtain rfl := Option.some.inj hstep
              exact .replaced (.mappingSelected hflush hp hrow) rfl rfl rfl rfl
          · simp at hstep
      · simp at hstep
  | subscriptionsListed answer =>
      simp only [stepFlush] at hstep
      split at hstep
      · next hp =>
          obtain rfl := Option.some.inj hstep
          exact .replaced (.subscriptionsListed hflush hp) rfl rfl rfl rfl
      · simp at hstep
  | resumes =>
      simp only [stepFlush] at hstep
      split at hstep
      · next hp =>
          obtain rfl := Option.some.inj hstep
          exact .replaced (.resumed hflush hp) rfl rfl rfl rfl
      · simp at hstep
  | lagoReceives =>
      simp only [stepFlush] at hstep
      split at hstep
      · next hp =>
          obtain rfl := Option.some.inj hstep
          exact .lagoReceived hp
      · simp at hstep
  | postAnswered ok =>
      simp only [stepFlush] at hstep
      split at hstep
      · next hp =>
          split at hstep
          · next hok =>
              obtain rfl := Option.some.inj hstep
              exact .replaced (.postAnswered hflush hp hok) rfl rfl rfl rfl
          · simp at hstep
      · simp at hstep
  | commits =>
      simp only [stepFlush] at hstep
      split at hstep
      · next hp =>
          obtain ⟨db, hdb, rfl⟩ := Option.map_eq_some_iff.mp hstep
          exact .committed hp hdb
      · simp at hstep
  | persistAnswered ok =>
      simp only [stepFlush] at hstep
      split at hstep
      · next hp =>
          split at hstep
          · simp at hstep
          · next hok =>
              obtain rfl := Option.some.inj hstep
              obtain rfl := Bool.eq_false_of_not_eq_true hok
              exact .replaced (.persistFailed hflush (Or.inl hp)) rfl rfl rfl rfl
      · next args hp =>
          split at hstep
          · next hok =>
              obtain rfl := Option.some.inj hstep
              subst hok
              exact .done hp
          · next hok =>
              obtain rfl := Option.some.inj hstep
              obtain rfl := Bool.eq_false_of_not_eq_true hok
              exact .replaced (.persistFailed hflush (Or.inr hp)) rfl rfl rfl rfl
      · simp at hstep

/-- A flush moves only where there is one. -/
lemma flushStep_of_step {i : ℕ} {event : FlushEvent} (hstep : step w (.flush i event) = some w') :
    ∃ obj flush, w.heap[i]? = some obj ∧ obj.flushing = some flush ∧
      FlushStep w i obj flush event w' := by
  simp only [step] at hstep
  split at hstep
  · simp at hstep
  · next obj hget =>
      split at hstep
      · simp at hstep
      · next flush hflush =>
          exact ⟨obj, flush, hget, hflush, flushStep_of_stepFlush hflush hstep⟩

/-- Where a step replaces one object, the others stay as they are. -/
private lemma object_of_setObject {i j : ℕ} {obj new obj' : TxObject}
    (hget : w.heap[i]? = some obj) (hnew : ObjectStep w i a obj new)
    (hobj : (w.setObject i new).heap[j]? = some obj') :
    ∃ o, w.heap[j]? = some o ∧ ObjectStep w j a o obj' := by
  rcases getElem?_setObject hobj with ⟨rfl, rfl⟩ | ⟨-, hj⟩
  · exact ⟨obj, hget, hnew⟩
  · exact ⟨obj', hj, .unchanged _ _⟩

private lemma object_of_flushDone {i j : ℕ} {obj obj' : TxObject} {flush : Flush}
    {args : FlushPersistArgs} (hget : w.heap[i]? = some obj) (hflush : obj.flushing = some flush)
    (hpoint : flush.point = .persisted args)
    (hobj : (w.flushDone i obj flush.final args).heap[j]? = some obj') :
    ∃ o, w.heap[j]? = some o ∧ ObjectStep w j (.flush i (.persistAnswered true)) o obj' := by
  unfold flushDone at hobj
  split at hobj
  · obtain ⟨o, hget', rfl | rfl⟩ := getElem?_deleteState hobj
    · exact object_of_setObject hget (.succeeded obj.held hflush hpoint) hget'
    · rcases getElem?_setObject hget' with ⟨rfl, rfl⟩ | ⟨-, hj⟩
      · exact ⟨obj, hget, .succeeded false hflush hpoint⟩
      · exact ⟨_, hj, .unheld _ _⟩
  · exact object_of_setObject hget (.succeeded obj.held hflush hpoint) hobj

/-! ### Objects after a step -/

/-- A sample goes to the object that `state.get(id)` returns, or to a new one. -/
private lemma object_of_sample {sample : MeterSample} {j : ℕ} {obj' : TxObject}
    (hobj : (enqueueMeterSample w.heap sample w.clock)[j]? = some obj') :
    (∃ obj, w.heap[j]? = some obj ∧ ObjectStep w j (.sample sample) obj obj') ∨
      ∃ kwh, sample.kwh = some kwh ∧ stateIndex w.heap sample.steveTransactionId = none ∧
        w.heap[j]? = none ∧ obj' = firstSample sample (meterWh kwh) w.clock := by
  simp only [enqueueMeterSample] at hobj
  cases hkwh : sample.kwh with
  | none =>
      simp only [hkwh] at hobj
      exact Or.inl ⟨obj', hobj, .unchanged _ _⟩
  | some kwh =>
      simp only [hkwh] at hobj
      cases hidx : stateIndex w.heap sample.steveTransactionId with
      | some i =>
          simp only [hidx, List.getElem?_modify] at hobj
          obtain ⟨obj, hget, heq⟩ := Option.map_eq_some_iff.mp hobj
          refine Or.inl ⟨obj, hget, ?_⟩
          by_cases hij : i = j
          · subst hij
            obtain ⟨held, hheld, hprops⟩ := of_stateIndex hidx
            obtain rfl : held = obj := by rw [hget] at hheld; exact (Option.some.inj hheld).symm
            rw [if_pos rfl] at heq
            subst heq
            exact .sampled hkwh hprops.1 hprops.2
          · rw [if_neg hij] at heq
            subst heq
            exact .unchanged _ _
      | none =>
          simp only [hidx] at hobj
          rw [List.getElem?_append] at hobj
          split at hobj
          · obtain ⟨obj, hget, rfl | rfl⟩ := getElem?_evict hobj
            · exact Or.inl ⟨_, hget, .unchanged _ _⟩
            · exact Or.inl ⟨_, hget, .unheld _ _⟩
          · next hlen =>
              rw [length_evict] at hlen
              have hnew : obj' = firstSample sample (meterWh kwh) w.clock := by
                have hmem := List.mem_of_getElem? hobj
                simpa using hmem
              exact Or.inr ⟨kwh, rfl, rfl, List.getElem?_eq_none (by omega), hnew⟩

private lemma object_of_sweep {j : ℕ} {obj' : TxObject}
    (hobj : (ExpresSync.sweep w.heap w.clock)[j]? = some obj') :
    ∃ obj, w.heap[j]? = some obj ∧ ObjectStep w j .sweep obj obj' := by
  simp only [ExpresSync.sweep, List.getElem?_map] at hobj
  obtain ⟨obj, hget, rfl⟩ := Option.map_eq_some_iff.mp hobj
  refine ⟨obj, hget, ?_⟩
  have hsweep : obj.sweep w.clock = obj ∨ obj.sweep w.clock = { obj with held := false } ∨
      obj.sweep w.clock = obj.startFlush false := by
    unfold TxObject.sweep
    split_ifs <;> simp
  rcases hsweep with hsweep | hsweep | hsweep
  · rw [hsweep]
    exact .unchanged _ _
  · rw [hsweep]
    exact .unheld _ _
  · have hswept := ObjectStep.swept (i := j) hsweep
    rwa [hsweep]

/-- An object after a step is a new one, anchored by its first sample, or comes from the object
at the same index. -/
theorem step_object (hstep : step w a = some w') {j : ℕ} {obj' : TxObject}
    (hobj : w'.heap[j]? = some obj') :
    (∃ obj, w.heap[j]? = some obj ∧ ObjectStep w j a obj obj') ∨
      ∃ sample kwh, a = .sample sample ∧ sample.kwh = some kwh ∧
        stateIndex w.heap sample.steveTransactionId = none ∧ w.heap[j]? = none ∧
        obj' = firstSample sample (meterWh kwh) w.clock := by
  cases a with
  | tick ms =>
      obtain rfl := Option.some.inj hstep
      exact Or.inl ⟨obj', hobj, .unchanged _ _⟩
  | editMappings userMappings =>
      obtain rfl := Option.some.inj hstep
      exact Or.inl ⟨obj', hobj, .unchanged _ _⟩
  | sample sample =>
      obtain rfl := Option.some.inj hstep
      rcases object_of_sample hobj with hold | ⟨kwh, hkwh, hidx, hfree, hnew⟩
      · exact Or.inl hold
      · exact Or.inr ⟨sample, kwh, rfl, hkwh, hidx, hfree, hnew⟩
  | sweep =>
      obtain rfl := Option.some.inj hstep
      exact Or.inl (object_of_sweep hobj)
  | restart =>
      obtain rfl := Option.some.inj hstep
      simp at hobj
  | syncReads inputs runId =>
      simp only [step] at hstep
      split at hstep
      · simp at hstep
      · split at hstep
        · obtain rfl := Option.some.inj hstep
          exact Or.inl ⟨obj', hobj, .unchanged _ _⟩
        · split at hstep <;>
          · obtain rfl := Option.some.inj hstep
            exact Or.inl ⟨obj', hobj, .unchanged _ _⟩
  | syncLagoReceives batch =>
      simp only [step] at hstep
      split at hstep
      · obtain rfl := Option.some.inj hstep
        exact Or.inl ⟨obj', hobj, .unchanged _ _⟩
      · simp at hstep
  | syncPersists successful =>
      simp only [step] at hstep
      split at hstep
      · split at hstep
        · split at hstep <;>
          · obtain rfl := Option.some.inj hstep
            exact Or.inl ⟨obj', hobj, .unchanged _ _⟩
        · simp at hstep
      · simp at hstep
  | syncSaves =>
      simp only [step] at hstep
      split at hstep
      · split at hstep <;>
        · obtain rfl := Option.some.inj hstep
          exact Or.inl ⟨obj', hobj, .unchanged _ _⟩
      · simp at hstep
  | syncEnds =>
      simp only [step] at hstep
      split at hstep
      · obtain rfl := Option.some.inj hstep
        exact Or.inl ⟨obj', hobj, .unchanged _ _⟩
      · simp at hstep
  | flush i event =>
      obtain ⟨obj, flush, hget, hflush, hflushStep⟩ := flushStep_of_step hstep
      cases hflushStep with
      | replaced hnew hheap =>
          rw [hheap] at hobj
          exact Or.inl (object_of_setObject hget hnew hobj)
      | lagoReceived => exact Or.inl ⟨obj', hobj, .unchanged _ _⟩
      | committed hpoint =>
          exact Or.inl (object_of_setObject hget (.committed hflush hpoint) hobj)
      | done hpoint => exact Or.inl (object_of_flushDone hget hflush hpoint hobj)

/-- An invariant of single objects: it holds of every new object and is kept by every object
step. -/
theorem forall_object_step {P : TxObject → Prop}
    (hP : ∀ (i : ℕ) (obj : TxObject), w.heap[i]? = some obj → P obj)
    (hnew : ∀ sample kwh, a = .sample sample → sample.kwh = some kwh →
      P (firstSample sample (meterWh kwh) w.clock))
    (hkeep : ∀ i obj obj', w.heap[i]? = some obj → P obj → ObjectStep w i a obj obj' → P obj')
    (hstep : step w a = some w') (i : ℕ) (obj' : TxObject) (hobj : w'.heap[i]? = some obj') :
    P obj' := by
  rcases step_object hstep hobj with ⟨obj, hget, hobjStep⟩ | ⟨sample, kwh, ha, hkwh, -, -, rfl⟩
  · exact hkeep i obj obj' hget (hP i obj hget) hobjStep
  · exact hnew sample kwh ha hkwh

/-- A flush that completes leaves its object with the values it has written. -/
lemma step_persistAnswered {i : ℕ} {obj : TxObject} {flush : Flush} {args : FlushPersistArgs}
    (hobj : w.heap[i]? = some obj) (hflush : obj.flushing = some flush)
    (hpoint : flush.point = .persisted args)
    (hstep : step w (.flush i (.persistAnswered true)) = some w') :
    ∃ held, w'.heap[i]? = some { obj.flushSucceeded args with held := held } := by
  have hlen : i < w.heap.length := (List.getElem?_eq_some_iff.mp hobj).1
  have hw : w.flushDone i obj flush.final args = w' := by
    simpa [step, stepFlush, hobj, hflush, hpoint] using hstep
  subst hw
  unfold flushDone
  split
  · refine ⟨false, ?_⟩
    simp only [setObject, deleteState]
    rw [List.getElem?_map, List.getElem?_set_self hlen]
    simp [TxObject.flushSucceeded]
  · exact ⟨obj.held, List.getElem?_set_self hlen⟩

end World

/-! ## Database, Lago and sync run -/

/-- What an action does to the billing tables, to Lago and to the sync run. -/
inductive SharedStep (w : World) : Action → World → Prop
  | quiet {a : Action} {w' : World}
      (hrows : w'.db.transactionSyncState = w.db.transactionSyncState)
      (hevents : w'.db.syncedTransactionEvents = w.db.syncedTransactionEvents)
      (hlago : w'.lago = w.lago) (hsync : w'.sync = w.sync) : SharedStep w a w'
  | lagoReceived {i : ℕ} {obj : TxObject} {flush : Flush} {post : PostedFlush}
      (hobj : w.heap[i]? = some obj) (hflush : obj.flushing = some flush)
      (hpoint : flush.point = .posting post) :
      SharedStep w (.flush i .lagoReceives) { w with lago := w.lago.record post.event }
  | committed {i : ℕ} {obj : TxObject} {flush : Flush} {args : FlushPersistArgs} {db : Db}
      (hobj : w.heap[i]? = some obj) (hflush : obj.flushing = some flush)
      (hpoint : flush.point = .persisting args)
      (hdb : w.db.persistFlush (obj.persistState flush.final args)
        (obj.persistEventRow flush.final args) = some db) :
      SharedStep w (.flush i .commits)
        { w.setObject i { obj with flushing := some { flush with point := .persisted args } } with
          db := db }
  | syncRead {inputs : SyncInputs} {runId : ℕ} {run : SyncRun} {phase : SyncPhase}
      (hnone : w.sync = none) (hrun : readSync inputs w.db runId w.clock = .ok run)
      (hphase : phase = .sending run ∨
        phase = .saving run run.transactionsSkipped ∧ run.transactionsToSend = []) :
      SharedStep w (.syncReads inputs runId) { w with sync := some phase }
  | syncReceived {run : SyncRun} {batch : ℕ} (hsync : w.sync = some (.sending run)) :
      SharedStep w (.syncLagoReceives batch)
        { w with lago := w.lago.recordAll (batchAt run.lagoEvents batch) }
  | syncPersisted {run : SyncRun} {successful : List ℕ} {db : Db}
      (hsync : w.sync = some (.sending run))
      (haccepted : ∀ batch ∈ successful, ∀ event ∈ batchAt run.lagoEvents batch,
        w.lago.Has event.transactionId)
      (hdb : run.persistSent successful w.db = some db) :
      SharedStep w (.syncPersists successful) { w with db := db, sync := none }
  | syncSaved {run : SyncRun} {pt : ProcessedTransaction}
      {remaining : List ProcessedTransaction} {db : Db}
      (hsync : w.sync = some (.saving run (pt :: remaining)))
      (hdb : w.db.upsertSyncState (run.stateUpdate pt) = some db) :
      SharedStep w .syncSaves { w with db := db, sync := some (.saving run remaining) }
  | syncEnded (a : Action) : SharedStep w a { w with sync := none }

namespace World

variable {w w' : World} {a : Action}

theorem step_shared (hstep : step w a = some w') : SharedStep w a w' := by
  cases a with
  | tick ms =>
      obtain rfl := Option.some.inj hstep
      exact .quiet rfl rfl rfl rfl
  | editMappings userMappings =>
      obtain rfl := Option.some.inj hstep
      exact .quiet rfl rfl rfl rfl
  | sample sample =>
      obtain rfl := Option.some.inj hstep
      exact .quiet rfl rfl rfl rfl
  | sweep =>
      obtain rfl := Option.some.inj hstep
      exact .quiet rfl rfl rfl rfl
  | restart =>
      obtain rfl := Option.some.inj hstep
      exact .quiet rfl rfl rfl rfl
  | syncReads inputs runId =>
      simp only [step] at hstep
      split at hstep
      · simp at hstep
      · next hnone =>
          split at hstep
          · obtain rfl := Option.some.inj hstep
            exact .quiet rfl rfl rfl rfl
          · next run hrun =>
              split at hstep
              · next hempty =>
                  obtain rfl := Option.some.inj hstep
                  exact .syncRead hnone hrun (Or.inr ⟨rfl, List.isEmpty_iff.mp hempty⟩)
              · obtain rfl := Option.some.inj hstep
                exact .syncRead hnone hrun (Or.inl rfl)
  | syncLagoReceives batch =>
      simp only [step] at hstep
      split at hstep
      · next run hsync =>
          obtain rfl := Option.some.inj hstep
          exact .syncReceived hsync
      · simp at hstep
  | syncPersists successful =>
      simp only [step] at hstep
      split at hstep
      · next run hsync =>
          split at hstep
          · next haccepted =>
              split at hstep
              · next db hdb =>
                  obtain rfl := Option.some.inj hstep
                  exact .syncPersisted hsync haccepted hdb
              · obtain rfl := Option.some.inj hstep
                exact .syncEnded _
          · simp at hstep
      · simp at hstep
  | syncSaves =>
      simp only [step] at hstep
      split at hstep
      · next run pt remaining hsync =>
          split at hstep
          · next db hdb =>
              obtain rfl := Option.some.inj hstep
              exact .syncSaved hsync hdb
          · obtain rfl := Option.some.inj hstep
            exact .syncEnded _
      · simp at hstep
  | syncEnds =>
      simp only [step] at hstep
      split at hstep
      · obtain rfl := Option.some.inj hstep
        exact .syncEnded _
      · simp at hstep
  | flush i event =>
      obtain ⟨obj, flush, hget, hflush, hflushStep⟩ := flushStep_of_step hstep
      cases hflushStep with
      | replaced _ _ hdb hlago hsync => exact .quiet (by rw [hdb]) (by rw [hdb]) hlago hsync
      | lagoReceived hpoint => exact .lagoReceived hget hflush hpoint
      | committed hpoint hdb => exact .committed hget hflush hpoint hdb
      | done =>
          unfold flushDone
          split <;> exact .quiet rfl rfl rfl rfl

end World

end ExpresSync
