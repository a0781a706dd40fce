import ExpresSync.Properties.ObjectTally
import ExpresSync.Properties.SyncSteps

/-!
# Flushes within one second

The emitter names an event after its transaction and the wall-clock second.  Two flushes of one
transaction that fall into one second, of one record or of an evicted record and its successor, send
their energy under one identifier: Lago and `persistFlush` take the second for a repetition of the
first and drop it, while the running total counts both.

`FlushWatch` keeps beside the world which flushes of a transaction have committed, and which of them
have been told so and have added their energy to the running total.
`distinctFlushes_of_keepsApart` says which runs are free of the collision.
-/

namespace ExpresSync

open Transition

/-! ## Flushes at the database -/

/-- The values a flush is about to commit. -/
def FlushPoint.persistingArgs : FlushPoint → Option FlushPersistArgs
  | .persisting args => some args
  | _ => none

/-- The values a flush has committed, while it waits for the answer. -/
def FlushPoint.persistedArgs : FlushPoint → Option FlushPersistArgs
  | .persisted args => some args
  | _ => none

/-- The values an object has committed, while its flush waits for the answer. -/
def TxObject.persistedArgs (obj : TxObject) : Option FlushPersistArgs :=
  obj.flushing.bind (·.point.persistedArgs)

namespace World

/-- The values the object with index `i` is about to commit, when it is one of the transaction. -/
def persistingAt (w : World) (id i : ℕ) : Option FlushPersistArgs :=
  (w.heap[i]?).bind fun obj =>
    if obj.st.steveTransactionId = id then obj.flushing.bind (·.point.persistingArgs) else none

/-- The values the object with index `i` has committed, when it is one of the transaction. -/
def persistedAt (w : World) (id i : ℕ) : Option FlushPersistArgs :=
  (w.heap[i]?).bind fun obj =>
    if obj.st.steveTransactionId = id then obj.persistedArgs else none

end World

/-- The event row of a flush of the transaction. -/
def isFlushOf (id : ℕ) : LagoEventTransactionId → Bool
  | .incremental id' _ => id' == id
  | _ => false

/-- The energy in the recorded event rows of the flushes of a transaction. -/
def recordedKwh (db : Db) (id : ℕ) : ℚ :=
  db.syncedTransactionEvents.total (isFlushOf id) (·.kwhDelta.toRat)

/-! ## Watching the flushes of a transaction -/

/-- The world, with the flushes of one transaction: those that have committed, those of them that
have not been answered yet, by the index of their object, and those that went through. -/
structure FlushWatch where
  world : World
  committed : List FlushPersistArgs
  unanswered : List (ℕ × FlushPersistArgs)
  succeeded : List FlushPersistArgs

namespace FlushWatch

/-- Before the first step. -/
def initial (userMappings : List UserMapping) (clock : ℕ) : FlushWatch :=
  ⟨World.initial userMappings clock, [], [], []⟩

/-- The flush of the object with index `i` commits. -/
def noteCommit (s : FlushWatch) (i : ℕ) (args : FlushPersistArgs) : FlushWatch :=
  { s with committed := args :: s.committed, unanswered := (i, args) :: s.unanswered }

/-- The flush of the object with index `i` is answered, and adds its energy when it went through. -/
def noteAnswer (s : FlushWatch) (i : ℕ) (ok : Bool) (args : FlushPersistArgs) : FlushWatch :=
  { s with
    unanswered := s.unanswered.filter fun entry => entry.1 ≠ i
    succeeded := if ok then args :: s.succeeded else s.succeeded }

/-- The flushes after an action. -/
def note (id : ℕ) (s : FlushWatch) : Action → FlushWatch
  | .flush i .commits =>
      match s.world.persistingAt id i with
      | some args => s.noteCommit i args
      | none => s
  | .flush i (.persistAnswered ok) =>
      match s.world.persistedAt id i with
      | some args => s.noteAnswer i ok args
      | none => s
  | .restart => { s with unanswered := [] }
  | _ => s

/-- One step, watched. -/
def step (id : ℕ) (s : FlushWatch) (a : Action) : Option FlushWatch :=
  (World.step s.world a).map fun world => { s.note id a with world := world }

/-- No two successful flushes that carry energy have sent one identifier, and when no committed
flush of the transaction waits for its answer, the recorded rows hold the energy of the successful
ones. -/
def DistinctFlushes (id : ℕ) (s : FlushWatch) : Prop :=
  ((s.succeeded.filter fun args => args.flushKwh ≠ 0).map (·.lagoEventTransactionId)).Nodup ∧
    ((∀ obj ∈ s.world.heap, obj.st.steveTransactionId = id → obj.persistedArgs = none) →
      recordedKwh s.world.db id = (s.succeeded.map (·.flushKwh)).sum)

/-- A flush that carries energy commits in a second of its own, and is told that it has
committed. -/
def KeepsApart (id : ℕ) (s : FlushWatch) : Action → Prop
  | .flush i .commits =>
      ∀ args ∈ s.world.persistingAt id i, args.flushKwh ≠ 0 →
        ∀ earlier ∈ s.committed, earlier.now / 1000 ≠ args.now / 1000
  | .flush i (.persistAnswered false) =>
      ∀ args ∈ s.world.persistedAt id i, args.flushKwh = 0
  | .restart => ∀ entry ∈ s.unanswered, entry.2.flushKwh = 0
  | _ => True

instance (id : ℕ) (s : FlushWatch) (a : Action) : Decidable (s.KeepsApart id a) := by
  unfold KeepsApart
  rcases a
  case flush i event =>
      rcases event
      case persistAnswered ok => rcases ok <;> infer_instance
      all_goals infer_instance
  all_goals infer_instance

lemma step_eq_some {id : ℕ} {s s' : FlushWatch} {a : Action} :
    s.step id a = some s' ↔
      World.step s.world a = some s'.world ∧ s' = { s.note id a with world := s'.world } := by
  unfold step
  rw [Option.map_eq_some_iff]
  constructor
  · rintro ⟨world, hstep, rfl⟩
    exact ⟨hstep, rfl⟩
  · rintro ⟨hstep, heq⟩
    exact ⟨s'.world, hstep, heq.symm⟩

end FlushWatch

/-! ## What a step does to the flushes at the database -/

section Steps

variable {w w' : World} {a : Action} {id i : ℕ}

/-- Only the commit and its answer change whether an object waits for an answer. -/
lemma ObjectStep.persistedArgs {obj obj' : TxObject} (h : ObjectStep w i a obj obj')
    (hcommit : a ≠ .flush i .commits) (hanswer : ∀ ok, a ≠ .flush i (.persistAnswered ok)) :
    obj'.persistedArgs = obj.persistedArgs := by
  have hstart : ∀ (o : TxObject) (final : Bool),
      (o.startFlush final).persistedArgs = o.persistedArgs := by
    intro o final
    unfold TxObject.startFlush
    cases hflush : o.flushing with
    | none => split_ifs <;> simp [TxObject.persistedArgs, hflush, FlushPoint.persistedArgs]
    | some flush => simp
  have hother : ∀ {flush : Flush} {o : TxObject}, obj.flushing = some flush →
      flush.point.persistedArgs = none → o.persistedArgs = none →
        o.persistedArgs = obj.persistedArgs := by
    intro flush o hflush hpoint ho
    rw [ho, TxObject.persistedArgs, hflush, Option.bind_some, hpoint]
  have hresolved : ∀ (o : TxObject) (flush : Flush) (result : Option ResolvedSubscription),
      (o.subscriptionResolved flush result).persistedArgs = none := by
    intro o flush result
    cases result <;> rfl
  cases h with
  | unchanged => rfl
  | unheld => rfl
  | swept => exact hstart _ _
  | sampled =>
      unfold TxObject.takeSample
      split
      · rfl
      · split
        · rfl
        · dsimp only
          split
          · exact hstart _ _
          · rfl
  | steveAnswered hflush hpoint =>
      refine hother hflush (by rw [hpoint]; rfl) ?_
      unfold TxObject.steveAnswered
      split
      · rfl
      · rfl
      · dsimp only
        split <;> rfl
  | mappingSelected hflush hpoint =>
      refine hother hflush (by rw [hpoint]; rfl) ?_
      unfold TxObject.mappingSelected
      split
      · rfl
      · rfl
      · dsimp only
        split
        · exact hresolved _ _ _
        · rfl
  | subscriptionsListed hflush hpoint =>
      exact hother hflush (by rw [hpoint]; rfl) (hresolved _ _ _)
  | resumed hflush hpoint =>
      refine hother hflush (by rw [hpoint]; rfl) ?_
      unfold TxObject.resumeFlush
      split <;> rfl
  | postAnswered hflush hpoint =>
      refine hother hflush (by rw [hpoint]; rfl) ?_
      unfold TxObject.postAnswered
      split <;> rfl
  | committed => exact absurd rfl hcommit
  | persistFailed => exact absurd rfl (hanswer false)
  | succeeded => exact absurd rfl (hanswer true)

/-- A flush moves no object. -/
lemma World.stepFlush_length {obj : TxObject} {flush : Flush} {event : FlushEvent}
    (hstep : w.stepFlush i obj flush event = some w') : w'.heap.length = w.heap.length := by
  have hset : ∀ obj', (w.setObject i obj').heap.length = w.heap.length := fun obj' => by
    simp [setObject]
  cases event with
  | commits =>
      simp only [stepFlush] at hstep
      split at hstep
      · obtain ⟨db, -, rfl⟩ := Option.map_eq_some_iff.mp hstep
        exact hset _
      · simp at hstep
  | persistAnswered ok =>
      simp only [stepFlush] at hstep
      split at hstep
      · split at hstep
        · simp at hstep
        · obtain rfl := Option.some.inj hstep
          exact hset _
      · split at hstep
        · obtain rfl := Option.some.inj hstep
          unfold flushDone
          split
          · simp [deleteState, setObject]
          · exact hset _
        · obtain rfl := Option.some.inj hstep
          exact hset _
      · simp at hstep
  | mappingSelected | postAnswered =>
      simp only [stepFlush] at hstep
      split at hstep
      · split at hstep
        · obtain rfl := Option.some.inj hstep
          exact hset _
        · simp at hstep
      · simp at hstep
  | subscriptionsListed | steveAnswers | resumes =>
      simp only [stepFlush] at hstep
      split at hstep
      · obtain rfl := Option.some.inj hstep
        exact hset _
      · simp at hstep
  | lagoReceives =>
      simp only [stepFlush] at hstep
      split at hstep
      · obtain rfl := Option.some.inj hstep
        rfl
      · simp at hstep

/-- Objects stay where they are until the process restarts. -/
lemma World.length_le_step (hstep : World.step w a = some w') (hrestart : a ≠ .restart) :
    w.heap.length ≤ w'.heap.length := by
  cases a with
  | restart => exact absurd rfl hrestart
  | tick | editMappings =>
      obtain rfl := Option.some.inj hstep
      exact le_rfl
  | sweep =>
      obtain rfl := Option.some.inj hstep
      simp [ExpresSync.sweep]
  | sample sample =>
      obtain rfl := Option.some.inj hstep
      simp only [enqueueMeterSample]
      split
      · exact le_rfl
      · split
        · simp
        · simp [World.length_evict]
  | flush i event =>
      simp only [step] at hstep
      split at hstep
      · simp at hstep
      · split at hstep
        · simp at hstep
        · exact (stepFlush_length hstep).ge
  | syncReads inputs runId =>
      simp only [step] at hstep
      split at hstep
      · simp at hstep
      · split at hstep
        · obtain rfl := Option.some.inj hstep
          exact le_rfl
        · split at hstep <;> (obtain rfl := Option.some.inj hstep; exact le_rfl)
  | syncPersists successful =>
      simp only [step] at hstep
      split at hstep
      · split at hstep
        · split at hstep <;> (obtain rfl := Option.some.inj hstep; exact le_rfl)
        · simp at hstep
      · simp at hstep
  | syncSaves =>
      simp only [step] at hstep
      split at hstep
      · split at hstep <;> (obtain rfl := Option.some.inj hstep; exact le_rfl)
      · simp at hstep
  | syncLagoReceives | syncEnds =>
      simp only [step] at hstep
      split at hstep
      · obtain rfl := Option.some.inj hstep
        exact le_rfl
      · simp at hstep

lemma World.persistedAt_eq_some {args : FlushPersistArgs} :
    w.persistedAt id i = some args ↔ ∃ obj, w.heap[i]? = some obj ∧
      obj.st.steveTransactionId = id ∧ obj.persistedArgs = some args := by
  simp [persistedAt, Option.bind_eq_some_iff]

lemma World.persistingAt_eq_some {args : FlushPersistArgs} :
    w.persistingAt id i = some args ↔ ∃ obj flush, w.heap[i]? = some obj ∧
      obj.st.steveTransactionId = id ∧ obj.flushing = some flush ∧
        flush.point = .persisting args := by
  have hpoint : ∀ point : FlushPoint,
      point.persistingArgs = some args ↔ point = .persisting args := by
    intro point
    cases point <;> simp [FlushPoint.persistingArgs]
  simp [persistingAt, Option.bind_eq_some_iff, hpoint]

/-- What an object waits for changes with its commit and its answer only. -/
lemma World.persistedAt_step (hstep : World.step w a = some w') (hrestart : a ≠ .restart)
    (hcommit : a ≠ .flush i .commits) (hanswer : ∀ ok, a ≠ .flush i (.persistAnswered ok)) :
    w'.persistedAt id i = w.persistedAt id i := by
  ext args
  rw [persistedAt_eq_some, persistedAt_eq_some]
  constructor
  · rintro ⟨obj', hobj', hid, hargs⟩
    rcases step_object hstep hobj' with ⟨obj, hobj, hobjStep⟩ | ⟨_, _, _, _, _, _, rfl⟩
    · rw [hobjStep.persistedArgs hcommit hanswer] at hargs
      exact ⟨obj, hobj, hobjStep.steveTransactionId ▸ hid, hargs⟩
    · cases hargs
  · rintro ⟨obj, hobj, hid, hargs⟩
    have hlen : i < w'.heap.length :=
      (List.getElem?_eq_some_iff.mp hobj).1.trans_le (length_le_step hstep hrestart)
    have hobj' := List.getElem?_eq_getElem hlen
    refine ⟨_, hobj', ?_⟩
    rcases step_object hstep hobj' with ⟨old, hold, hobjStep⟩ | ⟨_, _, _, _, _, hnone, _⟩
    · obtain rfl : old = obj := Option.some.inj (hold.symm.trans hobj)
      exact ⟨hobjStep.steveTransactionId.trans hid,
        (hobjStep.persistedArgs hcommit hanswer).trans hargs⟩
    · rw [hobj] at hnone
      cases hnone

/-- A commit writes the values its object was about to commit, and the object waits for the
answer. -/
lemma World.step_commits (hstep : World.step w (.flush i .commits) = some w') :
    ∃ obj flush args, w.heap[i]? = some obj ∧ obj.flushing = some flush ∧
      flush.point = .persisting args ∧
      w.db.persistFlush (obj.persistState flush.final args) (obj.persistEventRow flush.final args) =
        some w'.db ∧
      w'.heap[i]? = some { obj with flushing := some { flush with point := .persisted args } } := by
  simp only [step] at hstep
  split at hstep
  · simp at hstep
  · next obj hobj =>
      split at hstep
      · simp at hstep
      · next flush hflush =>
          simp only [stepFlush] at hstep
          split at hstep
          · next args hpoint =>
              obtain ⟨db, hdb, rfl⟩ := Option.map_eq_some_iff.mp hstep
              exact ⟨obj, flush, args, hobj, hflush, hpoint, hdb,
                List.getElem?_set_self (List.getElem?_eq_some_iff.mp hobj).1⟩
          · simp at hstep

/-- After an answer the object waits for none. -/
lemma World.persistedAt_of_answer {ok : Bool}
    (hstep : World.step w (.flush i (.persistAnswered ok)) = some w') :
    w'.persistedAt id i = none := by
  have hdone : ∃ obj', w'.heap[i]? = some obj' ∧ obj'.flushing = none := by
    simp only [step] at hstep
    split at hstep
    · simp at hstep
    · next obj hobj =>
        have hlen : i < w.heap.length := (List.getElem?_eq_some_iff.mp hobj).1
        split at hstep
        · simp at hstep
        · next flush hflush =>
            simp only [stepFlush] at hstep
            split at hstep
            · split at hstep
              · simp at hstep
              · obtain rfl := Option.some.inj hstep
                exact ⟨_, List.getElem?_set_self hlen, rfl⟩
            · next args hpoint =>
                split at hstep
                · obtain rfl := Option.some.inj hstep
                  unfold flushDone
                  split
                  · refine ⟨{ obj.flushSucceeded args with held := false }, ?_, rfl⟩
                    simp only [setObject, deleteState]
                    rw [List.getElem?_map, List.getElem?_set_self hlen]
                    simp [TxObject.flushSucceeded]
                  · exact ⟨_, List.getElem?_set_self hlen, rfl⟩
                · obtain rfl := Option.some.inj hstep
                  exact ⟨_, List.getElem?_set_self hlen, rfl⟩
            · simp at hstep
  obtain ⟨obj', hobj', hnone⟩ := hdone
  simp [persistedAt, hobj', TxObject.persistedArgs, hnone]

/-! ## What a step does to the event rows -/

/-- What the sync run in progress sends is not named like a flush. -/
def World.SyncKeysFinal (w : World) : Prop :=
  ∀ phase ∈ w.sync, ∀ pt ∈ phase.run.processed, ∀ id, isFlushOf id pt.lagoEventTransactionId = false

lemma isFlushOf_billTransaction {tx : TransactionWithCompletion}
    {syncState : Option TransactionSyncState} {mapping : UserMapping}
    {resolved : Option ResolvedSubscription} {pt : ProcessedTransaction}
    (h : billTransaction tx syncState mapping resolved = some pt) (id : ℕ) :
    isFlushOf id pt.lagoEventTransactionId = false := by
  unfold billTransaction at h
  split at h
  · simp at h
  · split at h <;> (obtain rfl := Option.some.inj h; rfl)

lemma World.SyncKeysFinal.step (h : w.SyncKeysFinal) (hstep : World.step w a = some w') :
    w'.SyncKeysFinal := by
  refine World.forall_run_step
    (P := fun run => ∀ pt ∈ run.processed, ∀ id, isFlushOf id pt.lagoEventTransactionId = false)
    h ?_ hstep
  intro inputs runId run _ _ hrun pt hpt
  rw [(readSync_eq_ok hrun).2.2.1] at hpt
  obtain ⟨tx, -, m, cache, -, -, -, hbill⟩ := SyncInputs.mem_process hpt
  exact isFlushOf_billTransaction hbill

/-- The rows of the flushes of a transaction are the same in two databases. -/
def SameFlushRows (id : ℕ) (db db' : Db) : Prop :=
  recordedKwh db' id = recordedKwh db id ∧ ∀ seconds,
    db'.syncedTransactionEvents.Has (.incremental id seconds) ↔
      db.syncedTransactionEvents.Has (.incremental id seconds)

lemma SameFlushRows.of_eq {db db' : Db}
    (h : db'.syncedTransactionEvents = db.syncedTransactionEvents) (id : ℕ) :
    SameFlushRows id db db' := by
  unfold SameFlushRows recordedKwh
  rw [h]
  exact ⟨rfl, fun _ => Iff.rfl⟩

/-- The rows of the flushes change with a commit only. -/
lemma World.sameFlushRows_step (hkeys : w.SyncKeysFinal) (hstep : World.step w a = some w')
    (hcommit : ∀ i, a ≠ .flush i .commits) (id : ℕ) : SameFlushRows id w.db w'.db := by
  cases step_shared hstep with
  | quiet hrows hevents hlago hsync => exact .of_eq hevents id
  | lagoReceived hobj hflush hpoint => exact .of_eq rfl id
  | committed hobj hflush hpoint hdb => exact absurd rfl (hcommit _)
  | syncRead hnone hrun hnew => exact .of_eq rfl id
  | syncReceived hsync => exact .of_eq rfl id
  | syncEnded => exact .of_eq rfl id
  | syncSaved hsync hdb =>
      obtain ⟨row, -, rfl⟩ := Db.upsertSyncState_spec hdb
      exact .of_eq rfl id
  | syncPersisted hsync haccepted hdb =>
      next run successful db =>
      obtain ⟨mid, hmid, hdb⟩ := Option.bind_eq_some_iff.mp hdb
      obtain ⟨rows, hrows, hdb⟩ := Option.bind_eq_some_iff.mp hdb
      obtain ⟨log, hlog, rfl⟩ := Option.map_eq_some_iff.mp hdb
      have hmidEvents := (Db.upsertAll_spec hmid).1
      have hnot : ∀ row ∈ rows, isFlushOf id row.lagoEventTransactionId = false := by
        intro row hrow
        obtain ⟨data, hdata, hdataRow⟩ :=
          exists_of_forall₂_mem_right (forall₂_of_mapM_option hrows) hrow
        obtain ⟨pt, hpt, rfl⟩ := List.mem_map.mp hdata
        rw [NewSyncedTransactionEvent.toRow_key hdataRow]
        exact hkeys _ hsync pt (SyncRun.mem_processed_of_successfullySent hpt).1 id
      refine ⟨?_, fun seconds => ?_⟩
      · unfold recordedKwh
        rw [← hmidEvents]
        exact KeyedLog.total_of_insertAll? _ hlog hnot
      · rw [KeyedLog.has_of_insertAll? hlog, hmidEvents]
        constructor
        · rintro (hold | ⟨row, hrow, hkey⟩)
          · exact hold
          · have hsel := hnot row hrow
            rw [← hkey] at hsel
            simp [isFlushOf] at hsel
        · exact Or.inl

/-- A commit records the energy of its flush, unless the row of its second is there already. -/
lemma recorded_of_commit {obj : TxObject} {flush : Flush} {args : FlushPersistArgs} {db db' : Db}
    (hreg : obj.Regular) (hflush : obj.flushing = some flush)
    (hpoint : flush.point = .persisting args)
    (hdb : db.persistFlush (obj.persistState flush.final args)
      (obj.persistEventRow flush.final args) =
      some db') (id : ℕ) :
    (obj.st.steveTransactionId ≠ id → SameFlushRows id db db') ∧
    (obj.st.steveTransactionId = id →
      (∀ seconds, db'.syncedTransactionEvents.Has (.incremental id seconds) ↔
        db.syncedTransactionEvents.Has (.incremental id seconds) ∨ seconds = args.now / 1000) ∧
      (db.syncedTransactionEvents.Has (.incremental id (args.now / 1000)) →
        recordedKwh db' id = recordedKwh db id) ∧
      (¬db.syncedTransactionEvents.Has (.incremental id (args.now / 1000)) →
        recordedKwh db' id = recordedKwh db id + args.flushKwh)) := by
  obtain ⟨mid, hmid, hdb⟩ := Option.bind_eq_some_iff.mp hdb
  obtain ⟨row, hrow, rfl⟩ := Option.map_eq_some_iff.mp hdb
  obtain ⟨state, -, rfl⟩ := Db.upsertSyncState_spec hmid
  have hargs := hreg.flight flush hflush
  rw [hpoint] at hargs
  obtain ⟨hgrid, -, -, -, hkey⟩ := hargs
  have hrowKey : row.lagoEventTransactionId =
      .incremental obj.st.steveTransactionId (args.now / 1000) :=
    (NewSyncedTransactionEvent.toRow_key hrow).trans hkey
  have hrowKwh : row.kwhDelta = .fin args.flushKwh := by
    obtain ⟨kwhDelta, hkwh, hrow⟩ := Option.bind_eq_some_iff.mp hrow
    obtain ⟨from', -, hrow⟩ := Option.bind_eq_some_iff.mp hrow
    obtain ⟨to', -, rfl⟩ := Option.map_eq_some_iff.mp hrow
    rw [pgNumeric_eq_some hkwh]
    simp only [TxObject.persistEventRow, toFixed_six_of_grid hgrid]
  constructor
  · intro hne
    refine ⟨?_, fun seconds => ?_⟩
    · refine KeyedLog.total_record_of_not_sel _ ?_
      rw [hrowKey]
      simpa [isFlushOf] using hne
    · rw [KeyedLog.has_record, hrowKey]
      constructor
      · rintro (hold | hnew)
        · exact hold
        · exact absurd (LagoEventTransactionId.incremental.inj hnew).1.symm hne
      · exact Or.inl
  · rintro rfl
    refine ⟨fun seconds => ?_, fun hhas => ?_, fun hnew => ?_⟩
    · rw [KeyedLog.has_record, hrowKey]
      simp [Db.putRow]
    · unfold recordedKwh
      dsimp only
      rw [KeyedLog.record_of_has (by rw [hrowKey]; exact hhas)]
      rfl
    · unfold recordedKwh
      dsimp only
      rw [KeyedLog.total_record (by rw [hrowKey]; exact hnew), hrowKey,
        if_pos (by simp [isFlushOf]), hrowKwh]
      rfl

end Steps

/-! ## The invariant -/

namespace FlushWatch

/-- What is known about the watched flushes in runs that meet the condition. -/
structure Watched (id : ℕ) (s : FlushWatch) : Prop where
  regular : s.world.Regular
  keys : s.world.SyncKeysFinal
  waits : ∀ i args, (i, args) ∈ s.unanswered ↔ s.world.persistedAt id i = some args
  once : (s.unanswered.map (·.1)).Nodup
  rows : ∀ seconds, s.world.db.syncedTransactionEvents.Has (.incremental id seconds) ↔
    ∃ args ∈ s.committed, args.now / 1000 = seconds
  named : ∀ args ∈ s.succeeded, args.lagoEventTransactionId = .incremental id (args.now / 1000)
  within : ∀ args ∈ s.succeeded ++ s.unanswered.map (·.2), args ∈ s.committed
  apart : (((s.succeeded ++ s.unanswered.map (·.2)).filter fun args => args.flushKwh ≠ 0).map
    fun args => args.now / 1000).Nodup
  sum : recordedKwh s.world.db id =
    (s.succeeded.map (·.flushKwh)).sum + (s.unanswered.map (·.2.flushKwh)).sum

variable {id : ℕ} {s s' : FlushWatch} {a : Action}

lemma initial_watched (id : ℕ) (userMappings : List UserMapping) (clock : ℕ) :
    Watched id (initial userMappings clock) where
  regular := World.initial_regular _ _
  keys := fun phase h => by simp [initial, World.initial] at h
  waits := fun i args => by simp [initial, World.initial, World.persistedAt]
  once := List.nodup_nil
  rows := fun seconds => by simp [initial, World.initial, Db.empty]
  named := fun args h => by simp [initial] at h
  within := fun args h => by simp [initial] at h
  apart := List.nodup_nil
  sum := by
    simp [initial, World.initial, Db.empty, recordedKwh, KeyedLog.total, KeyedLog.empty]

/-- A watched state has the property. -/
lemma Watched.distinctFlushes (h : Watched id s) : s.DistinctFlushes id := by
  constructor
  · have hseconds : ((s.succeeded.filter fun args => args.flushKwh ≠ 0).map
        fun args => args.now / 1000).Nodup := by
      refine h.apart.sublist (List.Sublist.map _ (List.Sublist.filter _ ?_))
      exact List.sublist_append_left _ _
    have hkeys : (s.succeeded.filter fun args => args.flushKwh ≠ 0).map
        (·.lagoEventTransactionId) =
        ((s.succeeded.filter fun args => args.flushKwh ≠ 0).map fun args => args.now / 1000).map
          (LagoEventTransactionId.incremental id) := by
      rw [List.map_map]
      exact List.map_congr_left fun args hargs => h.named args (List.mem_filter.mp hargs).1
    rw [hkeys]
    exact hseconds.map fun _ _ heq => (LagoEventTransactionId.incremental.inj heq).2
  · intro hnone
    have hempty : s.unanswered = [] := by
      rw [List.eq_nil_iff_forall_not_mem]
      rintro ⟨i, args⟩ hmem
      obtain ⟨obj, hobj, hid, hargs⟩ :=
        World.persistedAt_eq_some.mp ((h.waits i args).mp hmem)
      rw [hnone obj (List.mem_of_getElem? hobj) hid] at hargs
      cases hargs
    have hsum := h.sum
    rw [hempty] at hsum
    simpa using hsum

/-- A step that neither commits nor answers nor drops a flush of the transaction. -/
lemma Watched.of_same {world : World} (h : Watched id s) (hregular : world.Regular)
    (hkeys : world.SyncKeysFinal) (hwaits : ∀ i, world.persistedAt id i = s.world.persistedAt id i)
    (hrows : SameFlushRows id s.world.db world.db) : Watched id { s with world := world } where
  regular := hregular
  keys := hkeys
  waits := fun i args => by
    rw [hwaits]
    exact h.waits i args
  once := h.once
  rows := fun seconds => (hrows.2 seconds).trans (h.rows seconds)
  named := h.named
  within := h.within
  apart := h.apart
  sum := hrows.1.trans h.sum

/-- The commit of a flush keeps the watch, when no earlier commit fell into its second. -/
lemma Watched.commit {world : World} (h : Watched id s) {i : ℕ}
    (hstep : World.step s.world (.flush i .commits) = some world)
    (hapart : s.KeepsApart id (.flush i .commits)) :
    Watched id { s.note id (.flush i .commits) with world := world } := by
  obtain ⟨obj, flush, args, hobj, hflush, hpoint, hdb, hobj'⟩ := World.step_commits hstep
  have hregular := h.regular.step hstep
  have hkeys := h.keys.step hstep
  have hreg := h.regular i obj hobj
  have hothers : ∀ j, j ≠ i → world.persistedAt id j = s.world.persistedAt id j := fun j hne =>
    World.persistedAt_step hstep (by simp) (by simpa using hne.symm) (by simp)
  have hbefore : s.world.persistedAt id i = none := by
    simp [World.persistedAt, hobj, TxObject.persistedArgs, hflush, hpoint, FlushPoint.persistedArgs]
  obtain ⟨hother, hown⟩ := recorded_of_commit hreg hflush hpoint hdb id
  by_cases hid : obj.st.steveTransactionId = id
  · obtain ⟨hrows, hold, hnew⟩ := hown hid
    have hpersisting : s.world.persistingAt id i = some args :=
      World.persistingAt_eq_some.mpr ⟨obj, flush, hobj, hid, hflush, hpoint⟩
    have hafter : world.persistedAt id i = some args :=
      World.persistedAt_eq_some.mpr ⟨_, hobj', hid, rfl⟩
    have hsecond := hapart args (by rw [hpersisting]; rfl)
    have hnote : s.note id (.flush i .commits) = s.noteCommit i args := by
      simp only [note, hpersisting]
    rw [hnote]
    have hfresh : ∀ args', (i, args') ∉ s.unanswered := fun args' hmem => by
      rw [h.waits, hbefore] at hmem
      cases hmem
    have hperm : (s.succeeded ++ args :: s.unanswered.map (·.2)).Perm
        (args :: (s.succeeded ++ s.unanswered.map (·.2))) := List.perm_middle
    refine ⟨hregular, hkeys, ?_, ?_, ?_, h.named, ?_, ?_, ?_⟩
    · intro j args'
      simp only [noteCommit, List.mem_cons, Prod.mk.injEq]
      by_cases hij : j = i
      · subst hij
        rw [hafter]
        simp only [true_and, hfresh args', or_false, Option.some.injEq]
        exact eq_comm
      · rw [hothers j hij, ← h.waits]
        simp [hij]
    · refine List.nodup_cons.mpr ⟨fun hmem => ?_, h.once⟩
      obtain ⟨⟨j, args'⟩, hentry, rfl⟩ := List.mem_map.mp hmem
      exact hfresh args' hentry
    · intro seconds
      rw [hrows, h.rows]
      simp only [noteCommit, List.mem_cons, exists_eq_or_imp]
      rw [or_comm, eq_comm (a := seconds)]
    · intro args' hargs'
      rcases List.mem_cons.mp (hperm.mem_iff.mp hargs') with rfl | hmem
      · exact List.mem_cons_self
      · exact List.mem_cons_of_mem _ (h.within args' hmem)
    · refine ((hperm.filter _).map _).nodup_iff.mpr ?_
      by_cases hkwh : args.flushKwh = 0
      · rw [List.filter_cons_of_neg (by simpa using hkwh)]
        exact h.apart
      · rw [List.filter_cons_of_pos (by simpa using hkwh)]
        refine List.nodup_cons.mpr ⟨fun hmem => ?_, h.apart⟩
        obtain ⟨earlier, hearlier, hsame⟩ := List.mem_map.mp hmem
        exact hsecond hkwh earlier (h.within earlier (List.mem_filter.mp hearlier).1) hsame
    · have hadded : recordedKwh world.db id = recordedKwh s.world.db id + args.flushKwh := by
        by_cases hhas : s.world.db.syncedTransactionEvents.Has (.incremental id (args.now / 1000))
        · obtain ⟨earlier, hearlier, hsame⟩ := (h.rows _).mp hhas
          have hzero : args.flushKwh = 0 := by
            by_contra hkwh
            exact hsecond hkwh earlier hearlier hsame
          rw [hold hhas, hzero, add_zero]
        · exact hnew hhas
      simp only [noteCommit, List.map_cons, List.sum_cons]
      rw [hadded, h.sum]
      ring
  · have hnone : s.world.persistingAt id i = none := by
      simp [World.persistingAt, hobj, hid]
    have hnote : s.note id (.flush i .commits) = s := by simp only [note, hnone]
    rw [hnote]
    refine h.of_same hregular hkeys (fun j => ?_) (hother hid)
    by_cases hij : j = i
    · subst hij
      rw [hbefore]
      simp [World.persistedAt, hobj', hid]
    · exact hothers j hij

/-- With different indices, an entry can be taken to the front. -/
lemma perm_cons_filter {entries : List (ℕ × FlushPersistArgs)} {i : ℕ} {args : FlushPersistArgs}
    (hnodup : (entries.map (·.1)).Nodup) (hmem : (i, args) ∈ entries) :
    entries.Perm ((i, args) :: entries.filter fun entry => entry.1 ≠ i) := by
  induction entries with
  | nil => cases hmem
  | cons entry entries ih =>
      obtain ⟨hnew, hnodup⟩ := List.nodup_cons.mp hnodup
      rcases List.mem_cons.mp hmem with rfl | hmem
      · have hkeep : entries.filter (fun entry => entry.1 ≠ i) = entries := by
          refine List.filter_eq_self.mpr fun entry hentry => ?_
          simpa using fun heq : entry.1 = i => hnew (List.mem_map.mpr ⟨entry, hentry, heq⟩)
        rw [List.filter_cons_of_neg (by simp), hkeep]
      · have hne : entry.1 ≠ i := fun heq =>
          hnew (List.mem_map.mpr ⟨(i, args), hmem, heq.symm⟩)
        rw [List.filter_cons_of_pos (by simpa using hne)]
        exact ((ih hnodup hmem).cons entry).trans (List.Perm.swap _ _ _)

/-- An answer keeps the watch, when it is not lost to a flush that carries energy. -/
lemma Watched.answer {world : World} (h : Watched id s) {i : ℕ} {ok : Bool}
    (hstep : World.step s.world (.flush i (.persistAnswered ok)) = some world)
    (hanswered : s.KeepsApart id (.flush i (.persistAnswered ok))) :
    Watched id { s.note id (.flush i (.persistAnswered ok)) with world := world } := by
  have hregular := h.regular.step hstep
  have hkeys := h.keys.step hstep
  have hrows := World.sameFlushRows_step h.keys hstep (by simp) id
  have hafter : world.persistedAt id i = none := World.persistedAt_of_answer hstep
  have hothers : ∀ j, j ≠ i → world.persistedAt id j = s.world.persistedAt id j := fun j hne =>
    World.persistedAt_step hstep (by simp) (by simp) (by simpa using hne.symm)
  cases hwaiting : s.world.persistedAt id i with
  | none =>
      have hnote : s.note id (.flush i (.persistAnswered ok)) = s := by simp only [note, hwaiting]
      rw [hnote]
      refine h.of_same hregular hkeys (fun j => ?_) hrows
      by_cases hij : j = i
      · rw [hij, hafter, hwaiting]
      · exact hothers j hij
  | some args =>
      have hnote : s.note id (.flush i (.persistAnswered ok)) = s.noteAnswer i ok args := by
        simp only [note, hwaiting]
      rw [hnote]
      have hmem := (h.waits i args).mpr hwaiting
      have hperm := perm_cons_filter h.once hmem
      have hargs : args ∈ s.unanswered.map (·.2) := List.mem_map_of_mem hmem
      have hnamed : args.lagoEventTransactionId = .incremental id (args.now / 1000) := by
        obtain ⟨obj, hobj, hid, hpersisted⟩ := World.persistedAt_eq_some.mp hwaiting
        obtain ⟨flush, hflush, hpoint⟩ := Option.bind_eq_some_iff.mp hpersisted
        have hflight := (h.regular i obj hobj).flight flush hflush
        cases hp : flush.point with
        | persisted args' =>
            rw [hp] at hpoint hflight
            obtain rfl := Option.some.inj hpoint
            rw [← hid]
            exact hflight.2.2.2.2
        | _ => simp [hp, FlushPoint.persistedArgs] at hpoint
      -- The answered flush moves from the waiting to the successful ones, or is dropped.
      have hmove : (s.succeeded ++ s.unanswered.map (·.2)).Perm
          (args :: (s.succeeded ++
            (s.unanswered.filter fun entry => entry.1 ≠ i).map (·.2))) :=
        (((hperm.map (·.2)).append_left s.succeeded).trans List.perm_middle)
      have hsum : (s.unanswered.map (·.2.flushKwh)).sum = args.flushKwh +
          ((s.unanswered.filter fun entry => entry.1 ≠ i).map (·.2.flushKwh)).sum := by
        rw [(hperm.map (·.2.flushKwh)).sum_eq, List.map_cons, List.sum_cons]
      have hwaits : ∀ j args', (j, args') ∈ s.unanswered.filter (fun entry => entry.1 ≠ i) ↔
          world.persistedAt id j = some args' := by
        intro j args'
        rw [List.mem_filter]
        by_cases hij : j = i
        · subst hij
          simp [hafter]
        · rw [hothers j hij, ← h.waits]
          simp [hij]
      have honce : ((s.unanswered.filter fun entry => entry.1 ≠ i).map (·.1)).Nodup :=
        h.once.sublist (List.filter_sublist.map _)
      have hapart := ((hmove.filter fun args => args.flushKwh ≠ 0).map
        fun args : FlushPersistArgs => args.now / 1000).nodup_iff.mp h.apart
      cases ok with
      | true =>
          refine ⟨hregular, hkeys, hwaits, honce, fun seconds => (hrows.2 seconds).trans
            (h.rows seconds), ?_, ?_, hapart, ?_⟩
          · intro args' hargs'
            rcases List.mem_cons.mp hargs' with rfl | hargs'
            · exact hnamed
            · exact h.named args' hargs'
          · exact fun args' hargs' => h.within args' (hmove.mem_iff.mpr hargs')
          · simp only [noteAnswer, if_true, List.map_cons, List.sum_cons]
            rw [hrows.1, h.sum, hsum]
            ring
      | false =>
          have hzero : args.flushKwh = 0 := hanswered args (by rw [hwaiting]; rfl)
          refine ⟨hregular, hkeys, hwaits, honce, fun seconds => (hrows.2 seconds).trans
            (h.rows seconds), h.named, ?_, ?_, ?_⟩
          · exact fun args' hargs' =>
              h.within args' (hmove.mem_iff.mpr (List.mem_cons_of_mem args hargs'))
          · exact hapart.sublist (List.Sublist.map _ (List.Sublist.filter _
              (List.sublist_cons_self args _)))
          · simp only [noteAnswer, Bool.false_eq_true, if_false]
            rw [hrows.1, h.sum, hsum, hzero, zero_add]

/-- A restart keeps the watch, when no flush that carries energy was waiting for its answer. -/
lemma Watched.restart {world : World} (h : Watched id s)
    (hstep : World.step s.world .restart = some world) (hnone : s.KeepsApart id .restart) :
    Watched id { s.note id .restart with world := world } := by
  have hregular := h.regular.step hstep
  have hkeys := h.keys.step hstep
  obtain rfl := Option.some.inj hstep
  have hzero : (s.unanswered.map (·.2.flushKwh)).sum = 0 :=
    List.sum_eq_zero fun kwh hkwh => by
      obtain ⟨entry, hentry, rfl⟩ := List.mem_map.mp hkwh
      exact hnone entry hentry
  refine ⟨hregular, hkeys, fun i args => ?_, List.nodup_nil, h.rows, h.named, ?_, ?_, ?_⟩
  · simp [note, World.persistedAt]
  · intro args hargs
    rw [note, List.map_nil, List.append_nil] at hargs
    exact h.within args (List.mem_append_left _ hargs)
  · rw [note, List.map_nil, List.append_nil]
    exact h.apart.sublist
      (List.Sublist.map _ (List.Sublist.filter _ (List.sublist_append_left _ _)))
  · simp only [note, List.map_nil, List.sum_nil, add_zero]
    rw [h.sum, hzero, add_zero]

/-- A step that meets the condition keeps the watch. -/
theorem Watched.step (h : Watched id s) (hapart : s.KeepsApart id a)
    (hstep : s.step id a = some s') : Watched id s' := by
  obtain ⟨hworld, hs'⟩ := step_eq_some.mp hstep
  rw [hs']
  have hquiet : (∀ i, a ≠ .flush i .commits) → (∀ i ok, a ≠ .flush i (.persistAnswered ok)) →
      a ≠ .restart → s.note id a = s → Watched id { s.note id a with world := s'.world } := by
    intro hcommit hanswer hrestart hnote
    rw [hnote]
    exact h.of_same (h.regular.step hworld) (h.keys.step hworld)
      (fun i => World.persistedAt_step hworld hrestart (hcommit i) (hanswer i))
      (World.sameFlushRows_step h.keys hworld hcommit id)
  cases a with
  | flush i event =>
      cases event with
      | commits => exact h.commit hworld hapart
      | persistAnswered ok => exact h.answer hworld hapart
      | _ => exact hquiet (by simp) (by simp) (by simp) rfl
  | restart => exact h.restart hworld hapart
  | _ => exact hquiet (by simp) (by simp) (by simp) rfl

end FlushWatch

/-! ## Runs -/

/-- When every flush that carries energy commits in a second of its own and is told so, no two
successful flushes of a transaction share an identifier, and the recorded rows hold their energy. -/
theorem distinctFlushes_of_keepsApart (id : ℕ) (userMappings : List UserMapping) (clock : ℕ)
    (as : List Action)
    (hapart : Meets (FlushWatch.step id) (FlushWatch.KeepsApart id)
      (FlushWatch.initial userMappings clock) as) :
    Always (FlushWatch.step id) (FlushWatch.DistinctFlushes id)
      (FlushWatch.initial userMappings clock) as := by
  have hwatched := FlushWatch.initial_watched id userMappings clock
  refine ⟨hwatched.distinctFlushes, ?_⟩
  refine hapart.eachStep (I := FlushWatch.Watched id) ?_ ?_ hwatched
  · exact fun s a s' hs hkeeps hstep => hs.step hkeeps hstep
  · exact fun s a s' hs hkeeps hstep => (hs.step hkeeps hstep).distinctFlushes

open Scenario in
theorem distinctFlushes_of_two_seconds :
    Always (FlushWatch.step 1) (FlushWatch.DistinctFlushes 1) (FlushWatch.initial [cardMapping] 0)
      ([meter 1 10 false, meter 1 (23 / 2) false] ++ lookUps 0 1 ++ settles 0 ++
        [.tick 1000, meter 1 13 false] ++ settles 0) :=
  distinctFlushes_of_keepsApart 1 _ _ _ (by decide +kernel)

open Scenario in
/-- Two volume flushes of 1.5 kWh within one second are sent under one identifier. -/
theorem not_distinctFlushes_of_one_second :
    ¬∀ (id : ℕ) (userMappings : List UserMapping) (clock : ℕ) (as : List Action),
      Always (FlushWatch.step id) (FlushWatch.DistinctFlushes id)
        (FlushWatch.initial userMappings clock) as := by
  intro h
  have hapart : ∀ t ∈ run (FlushWatch.step 1) (FlushWatch.initial [cardMapping] 0)
      ([meter 1 10 false, meter 1 (23 / 2) false] ++ lookUps 0 1 ++ settles 0 ++
        [meter 1 13 false] ++ settles 0),
      ((t.succeeded.filter fun args => args.flushKwh ≠ 0).map (·.lagoEventTransactionId)).Nodup :=
    fun t ht => ((h _ _ _ _).of_run ht).1
  exact absurd hapart (by decide +kernel)

end ExpresSync
