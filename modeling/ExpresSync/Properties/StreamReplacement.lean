import ExpresSync.Foundation.Transition
import ExpresSync.Model.ScanStream
import ExpresSync.Properties.BusNetwork

/-!
# The newest stream of a device

A new stream is to take the place of the others of its device, and no word of an earlier
replacement is to reach it.  It does by replay, since the replacement it has published itself is
already kept, and from another worker, when the word comes late; `newestStreamStays_iff` says when
it does not.
-/

namespace ExpresSync

open Transition

/-- The stream has not been closed by word of a replacement from before it was registered. -/
def ScanStream.IsSpared (stream : ScanStream) : Prop :=
  match stream.ended with
  | some (.event e) => e.type = .deviceSessionReplaced → e ∉ stream.before
  | _ => True

instance (stream : ScanStream) : Decidable stream.IsSpared := by
  unfold ScanStream.IsSpared
  split <;> infer_instance

/-- The end of a stream that has nothing to do with other streams. -/
def StreamEnd.IsOwn : StreamEnd → Prop
  | .event e => e.type = .deviceTokenRevoked
  | .aborted => False
  | .client => True

/-- A stream of the device has been registered after the stream `i`. -/
def HasLater (streams : List ScanStream) (i : ℕ) (deviceId : String) : Prop :=
  ∃ j, i < j ∧ ∃ later ∈ streams[j]?, later.deviceId = deviceId

/-- The newest stream of each device is open, or has ended by itself, and the others have ended. -/
structure NewestStays (streams : List ScanStream) : Prop where
  older : ∀ i, ∀ stream ∈ streams[i]?, HasLater streams i stream.deviceId → stream.ended ≠ none
  newest : ∀ i, ∀ stream ∈ streams[i]?, ¬HasLater streams i stream.deviceId →
    ∀ reason ∈ stream.ended, reason.IsOwn

/-- No stream is closed by an earlier replacement, and the newest of each device stays. -/
def NewestStreamStays (w : StreamWorld) : Prop :=
  (∀ stream ∈ w.streams, stream.IsSpared) ∧ NewestStays w.streams

/-- The first event that closes a stream. -/
def firstClosing (stream : ScanStream) (es : List StreamEvent) : Option StreamEvent :=
  es.find? fun e => stream.concerns e && e.type.closes

/-- The stream that a request registers, before the replay. -/
def openedStream (w : StreamWorld) (worker deviceId connectionTokenId : String) : ScanStream :=
  ⟨worker, deviceId, connectionTokenId, none, [("connected", 0)], w.history⟩

/-- A new stream is registered when no other of its device is open at another worker, and of what is
replayed to it, replacements it has published included, none says first that it is replaced; and
word of a replacement from another worker comes when no stream is open for it that was registered
after it had been published. -/
def InGoodTime (bytes : StreamEvent → ℕ) (w : StreamWorld) : StreamAction → Prop
  | .connects worker deviceId connectionTokenId lastEventId =>
      (∀ stream ∈ w.streams, stream.ended = none → stream.deviceId = deviceId →
        stream.worker = worker) ∧
      (0 < lastEventId →
        let w' := w.kickOff bytes worker deviceId
        ∀ e ∈ firstClosing (openedStream w' worker deviceId connectionTokenId)
          ((w'.bus worker).replay lastEventId w'.now scanStreamTypes),
          e.type ≠ .deviceSessionReplaced)
  | .hears worker source => ∀ e ∈ w.nextHeard worker source, w.isHanded worker e = true →
      e.type = .deviceSessionReplaced → ∀ stream ∈ w.streams, stream.worker = worker →
        stream.ended = none → stream.concerns e = true → e ∉ stream.before
  | _ => True

/-! ## Streams that end -/

/-- The streams are the same, but that some which were open have ended, the stream `i` for a reason
with `P`. -/
structure Ends (P : ℕ → ScanStream → StreamEnd → Prop) (streams streams' : List ScanStream) :
    Prop where
  length : streams'.length = streams.length
  same : ∀ i, ∀ stream ∈ streams[i]?, ∃ stream' ∈ streams'[i]?,
    stream'.worker = stream.worker ∧ stream'.deviceId = stream.deviceId ∧
      stream'.connectionTokenId = stream.connectionTokenId ∧ stream'.before = stream.before ∧
      (stream'.ended = stream.ended ∨
        stream.ended = none ∧ ∃ reason, stream'.ended = some reason ∧ P i stream reason)

section Ends

variable {P : ℕ → ScanStream → StreamEnd → Prop} {streams streams' : List ScanStream}

lemma Ends.back (h : Ends P streams streams') {i : ℕ} {stream' : ScanStream}
    (hstream : stream' ∈ streams'[i]?) : ∃ stream ∈ streams[i]?,
      stream'.worker = stream.worker ∧ stream'.deviceId = stream.deviceId ∧
      stream'.connectionTokenId = stream.connectionTokenId ∧ stream'.before = stream.before ∧
      (stream'.ended = stream.ended ∨
        stream.ended = none ∧ ∃ reason, stream'.ended = some reason ∧ P i stream reason) := by
  obtain ⟨hlt, -⟩ := List.getElem?_eq_some_iff.mp hstream
  have hlt' : i < streams.length := h.length ▸ hlt
  obtain ⟨other, hother, hsame⟩ := h.same i streams[i] (List.getElem?_eq_getElem hlt')
  obtain rfl : stream' = other := Option.mem_unique hstream hother
  exact ⟨streams[i], List.getElem?_eq_getElem hlt', hsame⟩

lemma Ends.hasLater_iff (h : Ends P streams streams') {i : ℕ} {deviceId : String} :
    HasLater streams' i deviceId ↔ HasLater streams i deviceId := by
  constructor
  · rintro ⟨j, hj, later, hlater, hdevice⟩
    obtain ⟨stream, hstream, -, hsame, -⟩ := h.back hlater
    exact ⟨j, hj, stream, hstream, hsame ▸ hdevice⟩
  · rintro ⟨j, hj, later, hlater, hdevice⟩
    obtain ⟨stream, hstream, -, hsame, -⟩ := h.same j later hlater
    exact ⟨j, hj, stream, hstream, hsame.trans hdevice⟩

/-- A stream that has ended stays ended. -/
lemma Ends.ended (h : Ends P streams streams') {i : ℕ} {stream stream' : ScanStream}
    (hstream : stream ∈ streams[i]?) (hstream' : stream' ∈ streams'[i]?)
    (hended : stream.ended ≠ none) : stream'.ended ≠ none := by
  obtain ⟨other, hother, -, -, -, -, hsame | ⟨hopen, -⟩⟩ := h.same i stream hstream
  · obtain rfl : stream' = other := Option.mem_unique hstream' hother
    rwa [hsame]
  · exact absurd hopen hended

lemma Ends.refl : Ends P streams streams :=
  ⟨rfl, fun _ stream hstream => ⟨stream, hstream, rfl, rfl, rfl, rfl, Or.inl rfl⟩⟩

lemma Ends.trans {Q R : ℕ → ScanStream → StreamEnd → Prop} {streams'' : List ScanStream}
    (h : Ends P streams streams') (h' : Ends Q streams' streams'')
    (hP : ∀ i, ∀ stream ∈ streams[i]?, ∀ reason, P i stream reason → R i stream reason)
    (hQ : ∀ i, ∀ stream ∈ streams[i]?, ∀ stream' reason, Q i stream' reason → R i stream reason) :
    Ends R streams streams'' := by
  refine ⟨h'.length.trans h.length, fun i stream hstream => ?_⟩
  obtain ⟨stream', hstream', hworker, hdevice, htoken, hbefore, hended⟩ := h.same i stream hstream
  obtain ⟨stream'', hstream'', hworker', hdevice', htoken', hbefore', hended'⟩ :=
    h'.same i stream' hstream'
  refine ⟨stream'', hstream'', hworker'.trans hworker, hdevice'.trans hdevice,
    htoken'.trans htoken, hbefore'.trans hbefore, ?_⟩
  rcases hended with hsame | ⟨hnone, reason, hreason, hPr⟩
  · rcases hended' with hsame' | ⟨hnone', reason, hreason, hQr⟩
    · exact Or.inl (hsame'.trans hsame)
    · exact Or.inr ⟨hsame ▸ hnone', reason, hreason, hQ i stream hstream stream' reason hQr⟩
  · rcases hended' with hsame' | ⟨hnone', -⟩
    · exact Or.inr ⟨hnone, reason, hsame'.trans hreason, hP i stream hstream reason hPr⟩
    · rw [hnone'] at hreason
      cases hreason

/-- Streams are spared that end for other reasons than an earlier replacement. -/
lemma Ends.isSpared (h : Ends P streams streams') (hspared : ∀ stream ∈ streams, stream.IsSpared)
    (hP : ∀ i, ∀ stream ∈ streams[i]?, stream.ended = none → ∀ e, P i stream (.event e) →
      e.type = .deviceSessionReplaced → e ∉ stream.before) :
    ∀ stream ∈ streams', stream.IsSpared := by
  intro stream' hstream'
  obtain ⟨i, hi⟩ := List.mem_iff_getElem?.mp hstream'
  obtain ⟨stream, hstream, -, -, -, hbefore, hended⟩ := h.back hi
  unfold ScanStream.IsSpared
  split
  · next e he =>
    intro htype
    rw [hbefore]
    rcases hended with hsame | ⟨hopen, reason, hreason, hPr⟩
    · have hold := hspared stream (List.mem_of_getElem? hstream)
      unfold ScanStream.IsSpared at hold
      rw [← hsame, he] at hold
      exact hold htype
    · obtain rfl : reason = .event e := Option.some.inj (hreason.symm.trans he)
      exact hP i stream hstream hopen e hPr htype
  · trivial

/-- The newest streams stay when only others end, or they end by themselves. -/
lemma Ends.newestStays (h : Ends P streams streams') (hnewest : NewestStays streams)
    (hP : ∀ i, ∀ stream ∈ streams[i]?, stream.ended = none → ∀ reason, P i stream reason →
      reason.IsOwn ∨ HasLater streams i stream.deviceId) :
    NewestStays streams' := by
  constructor
  · intro i stream' hstream' hlater
    obtain ⟨stream, hstream, -, hdevice, -, -, hended⟩ := h.back hstream'
    rw [h.hasLater_iff, hdevice] at hlater
    rcases hended with hsame | ⟨-, reason, hreason, -⟩
    · rw [hsame]
      exact hnewest.older i stream hstream hlater
    · rw [hreason]
      exact Option.some_ne_none _
  · intro i stream' hstream' hlast reason hreason
    obtain ⟨stream, hstream, -, hdevice, -, -, hended⟩ := h.back hstream'
    rw [h.hasLater_iff, hdevice] at hlast
    rcases hended with hsame | ⟨hopen, reason', hreason', hPr⟩
    · exact hnewest.newest i stream hstream hlast reason (hsame ▸ hreason)
    · obtain rfl : reason = reason' := Option.mem_unique hreason hreason'
      exact (hP i stream hstream hopen reason hPr).resolve_right hlast

end Ends

/-! ## What an event does to the streams -/

lemma handle_frame (stream : ScanStream) (e : StreamEvent) :
    (stream.handle e).worker = stream.worker ∧ (stream.handle e).deviceId = stream.deviceId ∧
      (stream.handle e).connectionTokenId = stream.connectionTokenId ∧
      (stream.handle e).before = stream.before := by
  unfold ScanStream.handle
  split
  · exact ⟨rfl, rfl, rfl, rfl⟩
  · split <;> exact ⟨rfl, rfl, rfl, rfl⟩

lemma handle_of_ended {stream : ScanStream} (h : stream.ended ≠ none) (e : StreamEvent) :
    stream.handle e = stream := by
  have hsome := Option.isSome_iff_ne_none.mpr h
  rw [ScanStream.handle, hsome]
  rfl

lemma ended_handle {stream : ScanStream} (h : stream.ended = none) (e : StreamEvent) :
    (stream.handle e).ended =
      if stream.concerns e && e.type.closes then some (.event e) else none := by
  unfold ScanStream.handle
  cases hconcerns : stream.concerns e with
  | false => simp [h]
  | true =>
      cases htype : e.type <;> simp [h, scanStreamName, EventBusEventType.closes]

/-- A replay ends a stream with the first event that closes it. -/
lemma ended_foldl_handle {stream : ScanStream} (h : stream.ended = none) (es : List StreamEvent) :
    (es.foldl ScanStream.handle stream).ended = (firstClosing stream es).map .event := by
  have hended : ∀ (es : List StreamEvent) {closed : ScanStream}, closed.ended ≠ none →
      es.foldl ScanStream.handle closed = closed := by
    intro es
    induction es with
    | nil => exact fun _ => rfl
    | cons e es ih =>
        intro closed hclosed
        rw [List.foldl_cons, handle_of_ended hclosed, ih hclosed]
  induction es generalizing stream with
  | nil => exact h
  | cons e es ih =>
      have hnext := ended_handle h e
      rw [List.foldl_cons, firstClosing, List.find?_cons]
      cases hcloses : stream.concerns e && e.type.closes with
      | true =>
          rw [hcloses, if_pos rfl] at hnext
          rw [hended es (hnext ▸ Option.some_ne_none _), hnext]
          rfl
      | false =>
          rw [hcloses, if_neg Bool.false_ne_true] at hnext
          have hsame : (stream.handle e).concerns = stream.concerns := by
            obtain ⟨-, hdevice, htoken, -⟩ := handle_frame stream e
            funext e'
            rw [ScanStream.concerns, ScanStream.concerns, hdevice, htoken]
          rw [ih hnext, firstClosing, hsame]

lemma foldl_handle_frame (stream : ScanStream) (es : List StreamEvent) :
    (es.foldl ScanStream.handle stream).worker = stream.worker ∧
      (es.foldl ScanStream.handle stream).deviceId = stream.deviceId ∧
      (es.foldl ScanStream.handle stream).before = stream.before := by
  induction es generalizing stream with
  | nil => exact ⟨rfl, rfl, rfl⟩
  | cons e es ih =>
      obtain ⟨hworker, hdevice, -, hbefore⟩ := handle_frame stream e
      rw [List.foldl_cons, ← hworker, ← hdevice, ← hbefore]
      exact ih _

section Steps

open StreamWorld

variable {bytes : StreamEvent → ℕ} {w w' : StreamWorld} {a : StreamAction} {worker : String}
  {e : StreamEvent}

/-- A worker's event ends the streams there that it closes. -/
lemma ends_fanOut : Ends (fun _ stream reason => stream.worker = worker ∧
      stream.concerns e = true ∧ e.type.closes = true ∧ reason = .event e)
    w.streams (w.fanOut worker e).streams := by
  refine ⟨List.length_map _, fun i stream hstream => ?_⟩
  refine ⟨_, by rw [fanOut, change, List.getElem?_map, hstream]; rfl, ?_⟩
  by_cases hworker : stream.worker = worker
  · simp only [hworker, if_true]
    obtain ⟨hsame, hdevice, htoken, hbefore⟩ := handle_frame stream e
    refine ⟨hsame.trans hworker, hdevice, htoken, hbefore, ?_⟩
    by_cases hended : stream.ended = none
    · rw [ended_handle hended]
      split
      · next hcloses =>
        obtain ⟨hconcerns, hcloses⟩ := Bool.and_eq_true_iff.mp hcloses
        exact Or.inr ⟨hended, _, rfl, trivial, hconcerns, hcloses, rfl⟩
      · exact Or.inl hended.symm
    · rw [handle_of_ended hended]
      exact Or.inl rfl
  · dsimp only
    rw [if_neg hworker]
    exact ⟨rfl, rfl, rfl, rfl, Or.inl rfl⟩

/-- The open streams at the worker that it closes do end. -/
lemma ended_fanOut {i : ℕ} {stream stream' : ScanStream} (hstream : stream ∈ w.streams[i]?)
    (hworker : stream.worker = worker) (hopen : stream.ended = none)
    (hconcerns : stream.concerns e = true) (hcloses : e.type.closes = true)
    (hstream' : stream' ∈ (w.fanOut worker e).streams[i]?) :
    stream'.ended = some (.event e) ∧ stream'.before = stream.before := by
  rw [fanOut, change, List.getElem?_map, hstream, Option.map_some, Option.mem_some_iff] at hstream'
  subst hstream'
  rw [if_pos hworker, ended_handle hopen, hconcerns, hcloses]
  exact ⟨rfl, (handle_frame stream e).2.2.2⟩

lemma ends_endStream (i : ℕ) (reason : StreamEnd) :
    Ends (fun j _ reason' => j = i ∧ reason' = reason) w.streams
      (w.endStream i reason).streams := by
  refine ⟨List.length_modify _ _ _, fun j stream hstream => ?_⟩
  by_cases hj : i = j
  · subst hj
    refine ⟨{ stream with ended := some (stream.ended.getD reason) }, ?_, rfl, rfl, rfl, rfl, ?_⟩
    · rw [endStream, List.getElem?_modify_eq, hstream]
      rfl
    · cases hended : stream.ended with
      | none => exact Or.inr ⟨rfl, reason, rfl, rfl, rfl⟩
      | some old => exact Or.inl rfl
  · refine ⟨stream, ?_, rfl, rfl, rfl, rfl, Or.inl rfl⟩
    exact (List.getElem?_modify_ne _ _ hj).trans hstream

lemma ended_endStream {i : ℕ} {reason : StreamEnd} {stream : ScanStream}
    (hstream : stream ∈ (w.endStream i reason).streams[i]?) : stream.ended ≠ none := by
  rw [endStream, List.getElem?_modify_eq] at hstream
  obtain ⟨old, -, rfl⟩ := Option.map_eq_some_iff.mp hstream
  exact Option.some_ne_none _

/-! ## What is known of events and streams -/

/-- What workers send and keep, and what streams were registered after, has been published. -/
structure Recorded (w : StreamWorld) : Prop where
  published : ∀ e ∈ w.history, e.seq ≤ (w.bus e.workerId).seq
  notified : ∀ worker, ∀ e ∈ w.notified worker, e ∈ w.history
  buffer : ∀ worker, ∀ e ∈ (w.bus worker).buffer, e ∈ w.history
  before : ∀ stream ∈ w.streams, ∀ e ∈ stream.before, e ∈ w.history

/-- An open stream is the active one of its device at its worker. -/
structure Registered (w : StreamWorld) : Prop where
  active : ∀ i, ∀ stream ∈ w.streams[i]?, stream.ended = none →
    w.activeByDevice stream.worker stream.deviceId = some i
  registry : ∀ worker deviceId, ∀ i ∈ w.activeByDevice worker deviceId,
    ∃ stream ∈ w.streams[i]?, stream.worker = worker ∧ stream.deviceId = deviceId

/-- A replacement that was published after a stream of its device was registered has been followed
by another stream of the device. -/
def Announced (w : StreamWorld) : Prop :=
  ∀ e ∈ w.history, e.type = .deviceSessionReplaced → ∀ i, ∀ stream ∈ w.streams[i]?,
    e.payload.deviceId = some stream.deviceId → e ∉ stream.before →
      HasLater w.streams i stream.deviceId

lemma deviceId_of_concerns {stream : ScanStream} (h : stream.concerns e = true) :
    e.payload.deviceId = some stream.deviceId :=
  of_decide_eq_true (Bool.and_eq_true_iff.mp h).1

/-- An event that is just published is unknown. -/
lemma Recorded.nextEvent_notMem (h : Recorded w) (type : EventBusEventType)
    (payload : StreamPayload) : w.nextEvent worker type payload ∉ w.history := fun hmem =>
  Nat.not_succ_le_self _ (h.published _ hmem)

/-- The streams change, and nothing is published. -/
lemma Recorded.ends {P : ℕ → ScanStream → StreamEnd → Prop} (h : Recorded w)
    (hends : Ends P w.streams w'.streams) (hnetwork : w'.toBusNetwork = w.toBusNetwork)
    (hhistory : w'.history = w.history) : Recorded w' := by
  refine ⟨?_, ?_, ?_, fun stream' hstream' e he => ?_⟩
  · rw [hnetwork, hhistory]
    exact h.published
  · rw [hnetwork, hhistory]
    exact h.notified
  · rw [hnetwork, hhistory]
    exact h.buffer
  · obtain ⟨i, hi⟩ := List.mem_iff_getElem?.mp hstream'
    obtain ⟨stream, hstream, -, -, -, hbefore, -⟩ := hends.back hi
    rw [hhistory]
    exact h.before stream (List.mem_of_getElem? hstream) e (hbefore ▸ he)

lemma Registered.ends {P : ℕ → ScanStream → StreamEnd → Prop} (h : Registered w)
    (hends : Ends P w.streams w'.streams)
    (hkeep : ∀ i, ∀ stream' ∈ w'.streams[i]?, stream'.ended = none → ∀ worker deviceId,
      w.activeByDevice worker deviceId = some i → w'.activeByDevice worker deviceId = some i)
    (hsub : ∀ worker deviceId, ∀ i ∈ w'.activeByDevice worker deviceId,
      i ∈ w.activeByDevice worker deviceId) : Registered w' := by
  constructor
  · intro i stream' hstream' hopen
    obtain ⟨stream, hstream, hworker, hdevice, -, -, hended⟩ := hends.back hstream'
    refine hkeep i stream' hstream' hopen _ _ ?_
    rw [hworker, hdevice]
    refine h.active i stream hstream ?_
    rcases hended with hsame | ⟨hnone, -⟩
    · exact hsame ▸ hopen
    · exact hnone
  · intro worker deviceId i hi
    obtain ⟨stream, hstream, hworker, hdevice⟩ := h.registry worker deviceId i (hsub _ _ i hi)
    obtain ⟨stream', hstream', hworker', hdevice', -⟩ := hends.same i stream hstream
    exact ⟨stream', hstream', hworker'.trans hworker, hdevice'.trans hdevice⟩

lemma Announced.ends {P : ℕ → ScanStream → StreamEnd → Prop} (h : Announced w)
    (hends : Ends P w.streams w'.streams)
    (hhistory : ∀ e ∈ w'.history, e.type = .deviceSessionReplaced → e ∈ w.history) :
    Announced w' := by
  intro e he htype i stream' hstream' hdevice hnew
  obtain ⟨stream, hstream, -, hsame, -, hbefore, -⟩ := hends.back hstream'
  rw [hsame] at hdevice ⊢
  rw [hbefore] at hnew
  exact hends.hasLater_iff.mpr (h e (hhistory e he htype) htype i stream hstream hdevice hnew)

lemma registered_fanOut (h : Registered w) : Registered (w.fanOut worker e) := by
  refine h.ends ends_fanOut ?_ fun _ _ i hi => (Option.mem_filter_iff.mp hi).1
  intro i stream' hstream' hopen other deviceId hactive
  rw [fanOut, change, List.getElem?_map] at hstream'
  obtain ⟨stream, hstream, rfl⟩ := Option.map_eq_some_iff.mp hstream'
  refine Option.mem_filter_iff.mpr ⟨hactive, ?_⟩
  simp [hstream, hopen]

lemma registered_endStream (h : Registered w) (i : ℕ) (reason : StreamEnd) :
    Registered (w.endStream i reason) :=
  h.ends (ends_endStream i reason) (fun _ _ _ _ _ _ hactive => hactive) fun _ _ _ hi => hi

lemma registered_cleanup (h : Registered w) (i : ℕ) (reason : StreamEnd) :
    Registered (w.cleanup i reason) := by
  have hends : Ends _ w.streams (w.cleanup i reason).streams := ends_endStream i reason
  refine h.ends hends ?_
    fun _ _ j hj => (Option.mem_filter_iff.mp hj).1
  intro j stream' hstream' hopen other deviceId hactive
  refine Option.mem_filter_iff.mpr ⟨hactive, ?_⟩
  have hne : j ≠ i := by
    rintro rfl
    exact ended_endStream hstream' hopen
  simp [hne]

/-- An event is published and known from then on. -/
lemma recorded_publishEvent (h : Recorded w) (type : EventBusEventType) (payload : StreamPayload) :
    Recorded (w.publishEvent bytes worker type payload) := by
  have hpublished : Recorded { w with
      toBusNetwork := w.publish bytes worker type payload
      history := w.history ++ [w.nextEvent worker type payload] } := by
    refine ⟨?_, fun other e he => ?_, fun other e he => ?_, fun stream hstream e he => ?_⟩
    · simp only [List.forall_mem_append, List.forall_mem_singleton]
      refine ⟨fun e he => (h.published e he).trans (BusNetwork.seq_le_publish _), ?_⟩
      show _ ≤ ((w.publish bytes worker type payload).bus worker).seq
      rw [BusNetwork.bus_publish_self]
      exact le_rfl
    · rcases BusNetwork.notified_publish w.toBusNetwork bytes worker type payload other with
        hsame | ⟨-, hnew⟩
      · exact List.mem_append_left _ (h.notified other e (hsame ▸ he))
      · rcases List.mem_append.mp (hnew ▸ he) with hold | hmem
        · exact List.mem_append_left _ (h.notified other e hold)
        · exact List.mem_append_right _ hmem
    · change e ∈ ((w.publish bytes worker type payload).bus other).buffer at he
      by_cases hother : other = worker
      · subst hother
        rw [BusNetwork.bus_publish_self] at he
        rcases List.mem_append.mp ((BusNetwork.trimBuffer_sublist _ _).subset he) with hold | hmem
        · exact List.mem_append_left _ (h.buffer other e hold)
        · exact List.mem_append_right _ hmem
      · rw [BusNetwork.bus_publish_of_ne hother] at he
        exact List.mem_append_left _ (h.buffer other e he)
    · exact List.mem_append_left _ (h.before stream hstream e he)
  exact hpublished.ends ends_fanOut rfl rfl

/-- A payload that is heard has been published. -/
lemma recorded_hear {source : String} (h : Recorded w)
    (hnext : w.nextHeard worker source = some e) :
    e ∈ w.history ∧ Recorded { w with toBusNetwork := w.hear worker source e } := by
  have he : e ∈ w.history := h.notified source e (List.mem_of_getElem? hnext)
  refine ⟨he, ?_, h.notified, fun other e' he' => ?_, h.before⟩
  · intro e' he'
    exact (h.published e' he').trans (BusNetwork.seq_hear _).ge
  · change e' ∈ ((w.hear worker source e).bus other).buffer at he'
    by_cases hother : other = worker
    · subst hother
      cases hhanded : w.isHanded other e with
      | true =>
          rw [BusNetwork.bus_hear_self hhanded] at he'
          rcases List.mem_append.mp ((BusNetwork.trimBuffer_sublist _ _).subset he') with
            hold | hmem
          · exact h.buffer other e' hold
          · rw [List.mem_singleton.mp hmem]
            exact he
      | false =>
          rw [BusNetwork.bus_hear_of_not hhanded] at he'
          exact h.buffer other e' he'
    · rw [BusNetwork.bus_hear_of_ne hother] at he'
      exact h.buffer other e' he'

/-! ## Replacing a stream -/

/-- A new stream ends the others of its device at its worker, with a new event. -/
structure KicksOff (worker deviceId : String) (w w' : StreamWorld) : Prop where
  recorded : Recorded w'
  registered : Registered w'
  ends : Ends (fun _ stream reason => stream.worker = worker ∧ stream.deviceId = deviceId ∧
    ∀ e, reason = .event e → e ∉ w.history) w.streams w'.streams
  ended : ∀ stream ∈ w'.streams, stream.worker = worker → stream.deviceId = deviceId →
    stream.ended ≠ none
  history : ∀ e ∈ w'.history, e ∈ w.history ∨ e.payload.deviceId = some deviceId

lemma kicksOff (hrecorded : Recorded w) (hregistered : Registered w) (worker deviceId : String) :
    KicksOff worker deviceId w (w.kickOff bytes worker deviceId) := by
  cases hactive : w.activeByDevice worker deviceId with
  | none =>
      have hkick : w.kickOff bytes worker deviceId = w := by simp [kickOff, hactive]
      rw [hkick]
      refine ⟨hrecorded, hregistered, .refl, ?_, fun _ => Or.inl⟩
      intro stream hstream hworker hdevice hopen
      obtain ⟨i, hi⟩ := List.mem_iff_getElem?.mp hstream
      have hsome := hregistered.active i stream hi hopen
      rw [hworker, hdevice, hactive] at hsome
      cases hsome
  | some previous =>
      let e := w.nextEvent worker .deviceSessionReplaced ⟨some deviceId, none⟩
      let w₁ := w.publishEvent bytes worker .deviceSessionReplaced ⟨some deviceId, none⟩
      have hkick : w.kickOff bytes worker deviceId = w₁.cleanup previous .aborted := by
        simp [kickOff, hactive, w₁]
      have hrecorded₁ : Recorded w₁ := recorded_publishEvent hrecorded _ _
      have hregistered₁ : Registered w₁ :=
        registered_fanOut (e := e) ⟨hregistered.active, hregistered.registry⟩
      have hends₁ : Ends (fun _ stream reason => stream.worker = worker ∧
          stream.concerns e = true ∧ e.type.closes = true ∧ reason = .event e)
          w.streams w₁.streams := ends_fanOut
      have hends₂ := ends_endStream (w := w₁) previous .aborted
      rw [hkick]
      refine ⟨hrecorded₁.ends hends₂ rfl rfl, registered_cleanup hregistered₁ _ _, ?_, ?_, ?_⟩
      · refine hends₁.trans hends₂ ?_ ?_
        · rintro i stream - reason ⟨hworker, hconcerns, -, rfl⟩
          refine ⟨hworker, (Option.some.inj (deviceId_of_concerns hconcerns)).symm, ?_⟩
          rintro _ ⟨⟩
          exact hrecorded.nextEvent_notMem _ _
        · rintro i stream hstream _ reason ⟨rfl, rfl⟩
          obtain ⟨active, hactive', hworker, hdevice⟩ :=
            hregistered.registry worker deviceId i hactive
          obtain rfl : stream = active := Option.mem_unique hstream hactive'
          exact ⟨hworker, hdevice, fun _ h => by cases h⟩
      · intro stream₂ hstream₂ hworker hdevice
        obtain ⟨i, hi⟩ := List.mem_iff_getElem?.mp hstream₂
        obtain ⟨stream₁, hstream₁, hworker₁, hdevice₁, -⟩ := hends₂.back hi
        obtain ⟨stream, hstream, hworker₀, hdevice₀, -⟩ := hends₁.back hstream₁
        refine hends₂.ended hstream₁ hi ?_
        by_cases hopen : stream.ended = none
        · have hworker' : stream.worker = worker := by rw [← hworker₀, ← hworker₁, hworker]
          have hdevice' : stream.deviceId = deviceId := by rw [← hdevice₀, ← hdevice₁, hdevice]
          have hconcerns : stream.concerns e = true := by
            simp [ScanStream.concerns, e, BusNetwork.nextEvent, EventBus.nextEvent, hdevice']
          rw [(ended_fanOut hstream hworker' hopen hconcerns rfl hstream₁).1]
          exact Option.some_ne_none _
        · exact hends₁.ended hstream hstream₁ hopen
      · intro e' he'
        exact (List.mem_append.mp he').imp_right fun hnew => by rw [List.mem_singleton.mp hnew]; rfl

lemma mem_getElem?_append {streams : List ScanStream} {stream other : ScanStream} {i : ℕ}
    (h : other ∈ (streams ++ [stream])[i]?) :
    other ∈ streams[i]? ∨ i = streams.length ∧ other = stream := by
  by_cases hlt : i < streams.length
  · exact Or.inl (List.getElem?_append_left hlt ▸ h)
  · rw [List.getElem?_append_right (not_lt.mp hlt)] at h
    obtain ⟨hzero, heq⟩ := List.getElem?_eq_some_iff.mp h
    have hzero' : i - streams.length < 1 := hzero
    exact Or.inr ⟨by omega, by simpa using heq.symm⟩

lemma hasLater_append {streams : List ScanStream} {stream : ScanStream} {i : ℕ}
    {deviceId : String} :
    HasLater (streams ++ [stream]) i deviceId ↔
      HasLater streams i deviceId ∨ i < streams.length ∧ stream.deviceId = deviceId := by
  constructor
  · rintro ⟨j, hj, later, hlater, hdevice⟩
    rcases mem_getElem?_append hlater with hold | ⟨rfl, rfl⟩
    · exact Or.inl ⟨j, hj, later, hold, hdevice⟩
    · exact Or.inr ⟨hj, hdevice⟩
  · rintro (⟨j, hj, later, hlater, hdevice⟩ | ⟨hi, hdevice⟩)
    · have hlt := (List.getElem?_eq_some_iff.mp hlater).1
      exact ⟨j, hj, later, (List.getElem?_append_left hlt).trans hlater, hdevice⟩
    · exact ⟨streams.length, hi, stream, by simp, hdevice⟩

/-! ## Registering a stream -/

section Register

variable {deviceId connectionTokenId : String} {lastEventId : ℕ}

lemma newStream_frame (w : StreamWorld) (worker deviceId connectionTokenId : String)
    (lastEventId : ℕ) :
    (w.newStream worker deviceId connectionTokenId lastEventId).worker = worker ∧
      (w.newStream worker deviceId connectionTokenId lastEventId).deviceId = deviceId ∧
      (w.newStream worker deviceId connectionTokenId lastEventId).before = w.history := by
  unfold newStream
  dsimp only
  split
  · exact foldl_handle_frame _ _
  · exact ⟨rfl, rfl, rfl⟩

lemma ended_newStream (w : StreamWorld) (worker deviceId connectionTokenId : String)
    (lastEventId : ℕ) :
    (w.newStream worker deviceId connectionTokenId lastEventId).ended =
      if 0 < lastEventId then
        (firstClosing (openedStream w worker deviceId connectionTokenId)
          ((w.bus worker).replay lastEventId w.now scanStreamTypes)).map .event
      else none := by
  unfold newStream
  dsimp only
  split
  · exact ended_foldl_handle rfl _
  · rfl

/-- What closes a new stream has been published. -/
lemma mem_history_of_firstClosing (h : Recorded w)
    (he : e ∈ firstClosing (openedStream w worker deviceId connectionTokenId)
      ((w.bus worker).replay lastEventId w.now scanStreamTypes)) :
    e ∈ w.history ∧ e.type.closes = true := by
  refine ⟨h.buffer worker e (List.mem_of_mem_filter (List.mem_of_find?_eq_some he)), ?_⟩
  have hcloses := List.find?_some he
  exact (Bool.and_eq_true_iff.mp hcloses).2

lemma revoked_of_closes (hcloses : e.type.closes = true) (hne : e.type ≠ .deviceSessionReplaced) :
    e.type = .deviceTokenRevoked := by
  cases htype : e.type <;> simp_all [EventBusEventType.closes]

lemma recorded_register (h : Recorded w) :
    Recorded (w.register worker deviceId connectionTokenId lastEventId) := by
  refine ⟨h.published, h.notified, h.buffer, ?_⟩
  simp only [register, List.forall_mem_append, List.forall_mem_singleton, newStream_frame]
  exact ⟨h.before, fun _ he => he⟩

/-- The new stream takes the slot of its device, which no open stream has. -/
lemma registered_register (h : Registered w)
    (hended : ∀ stream ∈ w.streams, stream.worker = worker → stream.deviceId = deviceId →
      stream.ended ≠ none) :
    Registered (w.register worker deviceId connectionTokenId lastEventId) := by
  obtain ⟨hworker, hdevice, -⟩ :=
    newStream_frame w worker deviceId connectionTokenId lastEventId
  have hslot : ∀ other otherDevice, (w.register worker deviceId connectionTokenId
      lastEventId).activeByDevice other otherDevice =
      if other = worker ∧ otherDevice = deviceId then
        if (w.newStream worker deviceId connectionTokenId lastEventId).ended.isSome then none
        else some w.streams.length
      else w.activeByDevice other otherDevice := by
    intro other otherDevice
    simp only [register, Function.update_apply]
    split
    · next hother =>
      subst hother
      simp only [Function.update_apply, true_and]
    · next hother => simp [hother]
  constructor
  · intro i stream hstream hopen
    rw [hslot]
    rcases mem_getElem?_append hstream with hold | ⟨rfl, rfl⟩
    · split
      · next hsame =>
        exact absurd hopen (hended stream (List.mem_of_getElem? hold) hsame.1 hsame.2)
      · exact h.active i stream hold hopen
    · rw [if_pos ⟨hworker, hdevice⟩, hopen]
      rfl
  · intro other otherDevice i hi
    rw [hslot] at hi
    split at hi
    · next hsame =>
      split at hi
      · cases hi
      · obtain rfl := Option.some.inj hi
        exact ⟨_, List.getElem?_concat_length, hworker.trans hsame.1.symm,
          hdevice.trans hsame.2.symm⟩
    · obtain ⟨stream, hstream, hsame⟩ := h.registry other otherDevice i hi
      have hlt := (List.getElem?_eq_some_iff.mp hstream).1
      exact ⟨stream, (List.getElem?_append_left hlt).trans hstream, hsame⟩

lemma announced_register {w₁ : StreamWorld} (h : Announced w)
    (hkicks : KicksOff worker deviceId w w₁) :
    Announced (w₁.register worker deviceId connectionTokenId lastEventId) := by
  obtain ⟨-, hdevice, hbefore⟩ :=
    newStream_frame w₁ worker deviceId connectionTokenId lastEventId
  intro e he htype i stream hstream hnames hnew
  refine hasLater_append.mpr ?_
  rcases mem_getElem?_append hstream with hold | ⟨-, rfl⟩
  · have hlt := (List.getElem?_eq_some_iff.mp hold).1
    rcases hkicks.history e he with hknown | hsame
    · obtain ⟨stream₀, hstream₀, -, hdevice₀, -, hbefore₀, -⟩ := hkicks.ends.back hold
      rw [hdevice₀] at hnames ⊢
      rw [hbefore₀] at hnew
      exact Or.inl (hkicks.ends.hasLater_iff.mpr (h e hknown htype i stream₀ hstream₀ hnames hnew))
    · exact Or.inr ⟨hlt, hdevice.trans (Option.some.inj (hsame.symm.trans hnames))⟩
  · rw [hbefore] at hnew
    exact absurd he hnew

/-- A stream of the device that is open at another worker would stay open. -/
lemma worker_of_register {w₁ : StreamWorld} (hkicks : KicksOff worker deviceId w w₁)
    (hstays : NewestStreamStays (w₁.register worker deviceId connectionTokenId lastEventId)) :
    ∀ stream ∈ w.streams, stream.ended = none → stream.deviceId = deviceId →
      stream.worker = worker := by
  obtain ⟨-, hdevice, -⟩ := newStream_frame w₁ worker deviceId connectionTokenId lastEventId
  intro stream hstream hopen hsame
  obtain ⟨i, hi⟩ := List.mem_iff_getElem?.mp hstream
  obtain ⟨stream₁, hstream₁, -, hdevice₁, -, -, hkept | ⟨-, -, -, hworker, -⟩⟩ :=
    hkicks.ends.same i stream hi
  · have hlt := (List.getElem?_eq_some_iff.mp hstream₁).1
    have hmem : stream₁ ∈ (w₁.streams ++
        [w₁.newStream worker deviceId connectionTokenId lastEventId])[i]? :=
      (List.getElem?_append_left hlt).trans hstream₁
    have hlater := hasLater_append.mpr (Or.inr ⟨hlt, hdevice.trans (hdevice₁.trans hsame).symm⟩)
    exact absurd (hkept.trans hopen) (hstays.2.older i stream₁ hmem hlater)
  · exact hworker

/-- What closes a new stream that is not told of a replacement first is a revocation. -/
lemma revoked_newStream {w₁ : StreamWorld} (hrecorded : Recorded w₁)
    (hreplay : 0 < lastEventId →
      ∀ e ∈ firstClosing (openedStream w₁ worker deviceId connectionTokenId)
        ((w₁.bus worker).replay lastEventId w₁.now scanStreamTypes),
        e.type ≠ .deviceSessionReplaced) :
    ∀ reason ∈ (w₁.newStream worker deviceId connectionTokenId lastEventId).ended,
      ∃ e, reason = .event e ∧ e.type = .deviceTokenRevoked := by
  intro reason hreason
  rw [ended_newStream] at hreason
  split at hreason
  · next hlast =>
    obtain ⟨e, he, rfl⟩ := Option.map_eq_some_iff.mp hreason
    have hcloses := (mem_history_of_firstClosing hrecorded he).2
    exact ⟨e, rfl, revoked_of_closes hcloses (hreplay hlast e he)⟩
  · cases hreason

/-- The new stream takes the place of all others of its device, if none is at another worker. -/
lemma newestStays_register {w₁ : StreamWorld} (hstays : NewestStays w.streams)
    (hkicks : KicksOff worker deviceId w w₁)
    (hother : ∀ stream ∈ w.streams, stream.ended = none → stream.deviceId = deviceId →
      stream.worker = worker)
    (hown : ∀ reason ∈ (w₁.newStream worker deviceId connectionTokenId lastEventId).ended,
      reason.IsOwn) :
    NewestStays (w₁.register worker deviceId connectionTokenId lastEventId).streams := by
  obtain ⟨-, hdevice, -⟩ := newStream_frame w₁ worker deviceId connectionTokenId lastEventId
  constructor
  · intro i stream hstream hlater
    rcases mem_getElem?_append hstream with hold | ⟨rfl, -⟩
    · obtain ⟨stream₀, hstream₀, hworker₀, hdevice₀, -⟩ := hkicks.ends.back hold
      rcases hasLater_append.mp hlater with hbetween | ⟨-, hsame⟩
      · rw [hdevice₀, hkicks.ends.hasLater_iff] at hbetween
        exact hkicks.ends.ended hstream₀ hold (hstays.older i stream₀ hstream₀ hbetween)
      · have hdevice' : stream.deviceId = deviceId := hsame.symm.trans hdevice
        by_cases hworker : stream.worker = worker
        · exact hkicks.ended stream (List.mem_of_getElem? hold) hworker hdevice'
        · refine hkicks.ends.ended hstream₀ hold fun hopen => hworker ?_
          rw [hworker₀]
          exact hother stream₀ (List.mem_of_getElem? hstream₀) hopen (hdevice₀ ▸ hdevice')
    · rcases hasLater_append.mp hlater with ⟨j, hj, later, hmem, -⟩ | ⟨hlt, -⟩
      · exact absurd (List.getElem?_eq_some_iff.mp hmem).1 (by omega)
      · exact absurd hlt (lt_irrefl _)
  · intro i stream hstream hlast reason hreason
    rcases mem_getElem?_append hstream with hold | ⟨-, rfl⟩
    · obtain ⟨stream₀, hstream₀, -, hdevice₀, -, -, hkept⟩ := hkicks.ends.back hold
      rw [hdevice₀] at hlast
      rcases hkept with hsame | ⟨-, _, -, -, hdevice', -⟩
      · have hlast₀ : ¬HasLater w.streams i stream₀.deviceId := fun hlater =>
          hlast (hasLater_append.mpr (Or.inl (hkicks.ends.hasLater_iff.mpr hlater)))
        exact hstays.newest i stream₀ hstream₀ hlast₀ reason (hsame ▸ hreason)
      · have hlt := (List.getElem?_eq_some_iff.mp hold).1
        exact absurd (hasLater_append.mpr (Or.inr ⟨hlt, hdevice.trans hdevice'.symm⟩)) hlast
    · exact hown reason hreason

/-- The newest stream stays exactly when its place at the other workers is free, and the replay
does not close it with an earlier replacement. -/
lemma newestStreamStays_register {w₁ : StreamWorld} (hrecorded : Recorded w)
    (hstays : NewestStreamStays w) (hkicks : KicksOff worker deviceId w w₁) :
    NewestStreamStays (w₁.register worker deviceId connectionTokenId lastEventId) ↔
      (∀ stream ∈ w.streams, stream.ended = none → stream.deviceId = deviceId →
        stream.worker = worker) ∧
      (0 < lastEventId →
        ∀ e ∈ firstClosing (openedStream w₁ worker deviceId connectionTokenId)
          ((w₁.bus worker).replay lastEventId w₁.now scanStreamTypes),
          e.type ≠ .deviceSessionReplaced) := by
  constructor
  · refine fun h => ⟨worker_of_register hkicks h, fun hlast e he htype => ?_⟩
    have hspared := h.1 _ (List.mem_append_right _ (List.mem_singleton_self _))
    have hended := ended_newStream w₁ worker deviceId connectionTokenId lastEventId
    rw [if_pos hlast, Option.mem_def.mp he] at hended
    unfold ScanStream.IsSpared at hspared
    rw [hended, (newStream_frame w₁ worker deviceId connectionTokenId lastEventId).2.2] at hspared
    exact hspared htype (mem_history_of_firstClosing hkicks.recorded he).1
  · rintro ⟨hother, hreplay⟩
    have hrevoked := revoked_newStream hkicks.recorded hreplay
    refine ⟨List.forall_mem_append.mpr ⟨?_, List.forall_mem_singleton.mpr ?_⟩, ?_⟩
    · refine hkicks.ends.isSpared hstays.1 fun i stream hstream _ e he _ hmem => ?_
      exact he.2.2 e rfl (hrecorded.before stream (List.mem_of_getElem? hstream) e hmem)
    · unfold ScanStream.IsSpared
      split
      · next e he =>
        intro htype
        obtain ⟨_, ⟨⟩, hrevoked⟩ := hrevoked _ he
        rw [hrevoked] at htype
        cases htype
      · trivial
    · refine newestStays_register hstays.2 hkicks hother fun reason hreason => ?_
      obtain ⟨e, rfl, htype⟩ := hrevoked reason hreason
      exact htype

end Register

/-! ## Runs -/

/-- What is known in every state of a run. -/
structure Known (w : StreamWorld) : Prop where
  recorded : Recorded w
  registered : Registered w
  announced : Announced w

lemma known_initial (now : ℕ) : Known (.initial now) := by
  refine ⟨⟨?_, ?_, ?_, ?_⟩, ⟨?_, ?_⟩, ?_⟩
  · exact fun _ h => absurd h List.not_mem_nil
  · exact fun _ _ h => absurd h List.not_mem_nil
  · exact fun _ _ h => absurd h List.not_mem_nil
  · exact fun _ h => absurd h List.not_mem_nil
  · exact fun _ _ h => by cases h
  · exact fun _ _ _ h => by cases h
  · exact fun _ h => absurd h List.not_mem_nil

lemma closes_of_replaced (h : e.type = .deviceSessionReplaced) : e.type.closes = true := by
  rw [h]
  rfl

/-- A step that only closes streams by word that their tokens are revoked, or by themselves. -/
lemma newestStreamStays_of_own {P : ℕ → ScanStream → StreamEnd → Prop}
    (hends : Ends P w.streams w'.streams) (hown : ∀ i stream reason, P i stream reason →
      reason.IsOwn) (hstays : NewestStreamStays w) : NewestStreamStays w' := by
  refine ⟨hends.isSpared hstays.1 ?_, hends.newestStays hstays.2 ?_⟩
  · intro i stream _ _ e he htype
    have hrevoked : e.type = .deviceTokenRevoked := hown i stream _ he
    rw [htype] at hrevoked
    cases hrevoked
  · exact fun i stream _ _ reason h => Or.inl (hown i stream reason h)

/-- An event other than a replacement is handed to the streams of a worker. -/
lemma newestStreamStays_fanOut_of_ne (hne : e.type ≠ .deviceSessionReplaced)
    (hstays : NewestStreamStays w) : NewestStreamStays (w.fanOut worker e) := by
  refine newestStreamStays_of_own ends_fanOut ?_ hstays
  rintro i stream reason ⟨-, -, hcloses, rfl⟩
  exact revoked_of_closes hcloses hne

/-- A replacement is handed to the streams of a worker: it is to be news for those it closes. -/
lemma newestStreamStays_fanOut_iff (h : Announced w) (he : e ∈ w.history)
    (htype : e.type = .deviceSessionReplaced) (hstays : NewestStreamStays w) :
    NewestStreamStays (w.fanOut worker e) ↔ ∀ stream ∈ w.streams, stream.worker = worker →
      stream.ended = none → stream.concerns e = true → e ∉ stream.before := by
  constructor
  · intro hafter stream hstream hworker hopen hconcerns
    obtain ⟨i, hi⟩ := List.mem_iff_getElem?.mp hstream
    have hends : Ends _ w.streams (w.fanOut worker e).streams := ends_fanOut
    obtain ⟨stream', hstream', -⟩ := hends.same i stream hi
    obtain ⟨hended, hbefore⟩ :=
      ended_fanOut hi hworker hopen hconcerns (closes_of_replaced htype) hstream'
    have hspared := hafter.1 stream' (List.mem_of_getElem? hstream')
    unfold ScanStream.IsSpared at hspared
    rw [hended, hbefore] at hspared
    exact hspared htype
  · intro hnews
    refine ⟨ends_fanOut.isSpared hstays.1 ?_, ends_fanOut.newestStays hstays.2 ?_⟩
    · rintro i stream hstream hopen _ ⟨hworker, hconcerns, -, ⟨⟩⟩ -
      exact hnews stream (List.mem_of_getElem? hstream) hworker hopen hconcerns
    · rintro i stream hstream hopen _ ⟨hworker, hconcerns, -, rfl⟩
      have hnew := hnews stream (List.mem_of_getElem? hstream) hworker hopen hconcerns
      exact Or.inr (h e he htype i stream hstream (deviceId_of_concerns hconcerns) hnew)

lemma known_fanOut (h : Known w) : Known (w.fanOut worker e) :=
  ⟨h.recorded.ends ends_fanOut rfl rfl, registered_fanOut h.registered,
    h.announced.ends ends_fanOut fun _ he _ => he⟩

lemma known_publishEvent (h : Known w) {type : EventBusEventType} {payload : StreamPayload}
    (hne : type ≠ .deviceSessionReplaced) :
    Known (w.publishEvent bytes worker type payload) := by
  refine ⟨recorded_publishEvent h.recorded _ _, ?_, ?_⟩
  · exact registered_fanOut (e := w.nextEvent worker type payload)
      ⟨h.registered.active, h.registered.registry⟩
  · refine h.announced.ends ends_fanOut fun e he htype => ?_
    refine (List.mem_append.mp he).resolve_right fun hnew => hne ?_
    rw [List.mem_singleton.mp hnew] at htype
    exact htype

lemma known_connect (h : Known w) (worker deviceId connectionTokenId : String) (lastEventId : ℕ) :
    Known ((w.kickOff bytes worker deviceId).register worker deviceId connectionTokenId
      lastEventId) := by
  have hkicks : KicksOff worker deviceId w (w.kickOff bytes worker deviceId) :=
    kicksOff h.recorded h.registered worker deviceId
  exact ⟨recorded_register hkicks.recorded, registered_register hkicks.registered hkicks.ended,
    announced_register h.announced hkicks⟩

/-- What is known stays known, and the newest streams stay exactly when the step is in good time. -/
theorem inGoodTime_iff (h : Known w) (hstays : NewestStreamStays w)
    (hstep : w.step bytes a = some w') :
    Known w' ∧ (InGoodTime bytes w a ↔ NewestStreamStays w') := by
  cases a with
  | waits ms =>
      obtain rfl := Option.some.inj hstep
      refine ⟨⟨⟨h.recorded.published, h.recorded.notified, h.recorded.buffer, h.recorded.before⟩,
        ⟨h.registered.active, h.registered.registry⟩, h.announced⟩, ?_⟩
      exact iff_of_true trivial hstays
  | publishes worker type payload =>
      simp only [step] at hstep
      split at hstep
      · cases hstep
      · next hne =>
        obtain rfl := Option.some.inj hstep
        refine ⟨known_publishEvent h hne, iff_of_true trivial ?_⟩
        exact newestStreamStays_fanOut_of_ne hne ⟨hstays.1, hstays.2⟩
  | hears worker source =>
      obtain ⟨e, hnext, hstep⟩ := Option.bind_eq_some_iff.mp hstep
      obtain ⟨he, hrecorded⟩ := recorded_hear h.recorded hnext
      let w₁ : StreamWorld := { w with toBusNetwork := w.hear worker source e }
      have hknown : Known w₁ :=
        ⟨hrecorded, ⟨h.registered.active, h.registered.registry⟩, h.announced⟩
      have hstays₁ : NewestStreamStays w₁ := hstays
      cases hhanded : w.isHanded worker e with
      | false =>
          simp only [hhanded, Bool.false_eq_true, if_false] at hstep
          obtain rfl := Option.some.inj hstep
          refine ⟨hknown, iff_of_true ?_ hstays₁⟩
          intro e' he' hhanded'
          obtain rfl := Option.mem_unique hnext he'
          rw [hhanded] at hhanded'
          cases hhanded'
      | true =>
          simp only [hhanded, if_true] at hstep
          obtain rfl := Option.some.inj hstep
          refine ⟨known_fanOut hknown, ?_⟩
          have hcondition : InGoodTime bytes w (.hears worker source) ↔
              (e.type = .deviceSessionReplaced → ∀ stream ∈ w.streams, stream.worker = worker →
                stream.ended = none → stream.concerns e = true → e ∉ stream.before) := by
            constructor
            · exact fun hC => hC e hnext hhanded
            · intro hC e' he' _
              obtain rfl := Option.mem_unique hnext he'
              exact hC
          rw [hcondition]
          by_cases htype : e.type = .deviceSessionReplaced
          · rw [forall_prop_of_true htype]
            exact (newestStreamStays_fanOut_iff hknown.announced he htype hstays₁).symm
          · exact iff_of_true (fun h => absurd h htype)
              (newestStreamStays_fanOut_of_ne htype hstays₁)
  | connects worker deviceId connectionTokenId lastEventId =>
      obtain rfl := Option.some.inj hstep
      refine ⟨known_connect h worker deviceId connectionTokenId lastEventId, ?_⟩
      exact (newestStreamStays_register h.recorded hstays
        (kicksOff h.recorded h.registered worker deviceId)).symm
  | cancels i =>
      simp only [step] at hstep
      split at hstep
      · obtain rfl := Option.some.inj hstep
        have hends : Ends _ w.streams (w.cleanup i .client).streams := ends_endStream i .client
        refine ⟨⟨h.recorded.ends hends rfl rfl, registered_cleanup h.registered i .client,
          h.announced.ends hends fun _ he _ => he⟩, ?_⟩
        refine iff_of_true trivial (newestStreamStays_of_own hends ?_ hstays)
        rintro _ _ _ ⟨-, rfl⟩
        trivial
      · cases hstep
  | breaks i =>
      simp only [step] at hstep
      split at hstep
      · obtain rfl := Option.some.inj hstep
        have hends := ends_endStream (w := w) i .client
        refine ⟨⟨h.recorded.ends hends rfl rfl, registered_endStream h.registered i .client,
          h.announced.ends hends fun _ he _ => he⟩, ?_⟩
        refine iff_of_true trivial (newestStreamStays_of_own hends ?_ hstays)
        rintro _ _ _ ⟨-, rfl⟩
        trivial
      · cases hstep

end Steps

/-- The newest stream of each device stays, whatever the workers publish, hear and replay, exactly
when no other worker has a stream of a device that connects and no word of an earlier replacement
comes to a stream. -/
theorem newestStreamStays_iff (bytes : StreamEvent → ℕ) (now : ℕ) (as : List StreamAction) :
    Always (StreamWorld.step bytes) NewestStreamStays (.initial now) as ↔
      Meets (StreamWorld.step bytes) (InGoodTime bytes) (.initial now) as := by
  have hstart : NewestStreamStays (.initial now) :=
    ⟨fun _ h => absurd h List.not_mem_nil, fun _ _ h => (by cases h), fun _ _ h => (by cases h)⟩
  have hkeep : ∀ w a w', Known w ∧ NewestStreamStays w → True → InGoodTime bytes w a →
      w.step bytes a = some w' → Known w' ∧ NewestStreamStays w' := by
    intro w a w' hw _ hC hstep
    obtain ⟨hknown, hstays⟩ := inGoodTime_iff hw.1 hw.2 hstep
    exact ⟨hknown, hstays.mp hC⟩
  have hiff : Meets (StreamWorld.step bytes) (InGoodTime bytes) (.initial now) as ↔
      EachStep (StreamWorld.step bytes) (fun _ _ w' => NewestStreamStays w') (.initial now) as :=
    meets_iff_eachStep (A := fun _ _ => True) hkeep
      (fun _ _ _ hw _ hstep => (inGoodTime_iff hw.1 hw.2 hstep).2) ⟨known_initial now, hstart⟩
      (meets_of_forall fun _ _ => trivial)
  exact ⟨fun h => hiff.mpr h.2, fun h => ⟨hstart, hiff.mp h⟩⟩

namespace Scenario

/-- A device has got an event, and connects again with its number while its stream is open. -/
def ownReplacement : List StreamAction :=
  [.connects "A" "phone" "token" 0, .publishes "A" .deviceScanRequested ⟨some "phone", none⟩,
    .connects "A" "phone" "token" 1]

end Scenario

open Scenario

/-- The replacement that the new stream has published is replayed to it, and closes it. -/
theorem not_newestStreamStays_ownReplacement :
    ¬Always (StreamWorld.step fun _ => 100) NewestStreamStays (.initial 0) ownReplacement := by
  intro h
  have hspared : EachStep (StreamWorld.step fun _ => 100)
      (fun _ _ w' => ∀ stream ∈ w'.streams, stream.IsSpared) (.initial 0) ownReplacement :=
    (eachStep_and.mp h.2).1
  exact absurd hspared (by decide +kernel)

end ExpresSync
