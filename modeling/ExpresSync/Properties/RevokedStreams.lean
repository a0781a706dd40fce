import ExpresSync.Foundation.Transition
import ExpresSync.Model.DeviceRevocation
import ExpresSync.Properties.StreamReplacement

/-!
# The streams of a deleted device

A `DELETE` closes the streams of its device through one event, which names the token of its own
bearer: a stream of another token does not heed it, a stream at another worker hears it later, and a
request that was let pass before the deletion subscribes after it.  `revocationIsFinal_iff` says
that nothing else goes wrong.
-/

namespace ExpresSync

open Transition

/-! ## What a stream gets -/

namespace ScanStream

variable (stream : ScanStream)

/-- The stream is sent the event. -/
def gets (e : StreamEvent) : Bool :=
  stream.ended.isNone && stream.concerns e && (scanStreamName e.type).isSome

/-- The events of a replay that are sent. -/
def getsOf (stream : ScanStream) : List StreamEvent → List StreamEvent
  | [] => []
  | e :: es => if stream.gets e then e :: getsOf (stream.handle e) es else getsOf
    (stream.handle e) es

variable {stream}

lemma gets_eq_false (h : stream.ended ≠ none) (e : StreamEvent) : stream.gets e = false := by
  have hnot : stream.ended.isNone = false := by
    rw [Option.isNone_eq_false_iff, Option.isSome_iff_ne_none]
    exact h
  rw [gets, hnot, Bool.false_and, Bool.false_and]

/-- What a stream gets is written to it. -/
lemma sent_handle (e : StreamEvent) :
    (stream.handle e).sent =
      stream.sent ++ if stream.gets e then [((scanStreamName e.type).getD "", e.seq)] else [] := by
  unfold handle gets
  cases hended : stream.ended with
  | some reason => simp
  | none =>
      cases hconcerns : stream.concerns e with
      | false => simp
      | true =>
          cases hname : scanStreamName e.type with
          | none => simp
          | some name => simp

/-- What a stream gets of a replay is written to it. -/
theorem sent_foldl_handle (es : List StreamEvent) (stream : ScanStream) :
    (es.foldl handle stream).sent =
      stream.sent ++ (stream.getsOf es).map fun e => ((scanStreamName e.type).getD "", e.seq) := by
  induction es generalizing stream with
  | nil => simp [getsOf]
  | cons e es ih =>
      rw [List.foldl_cons, ih, sent_handle, getsOf]
      split
      · rw [List.map_cons, List.append_assoc, List.singleton_append]
      · rw [List.append_nil]

end ScanStream

/-! ## Revocations -/

namespace RevocationWorld

variable (bytes : StreamEvent → ℕ) (w : RevocationWorld)

/-- A worker's streams that are sent an event, and the event. -/
def handed (w : StreamWorld) (worker : String) (e : StreamEvent) :
    List (ScanStream × StreamEvent) :=
  (w.streams.filter fun stream => decide (stream.worker = worker) && stream.gets e).map (·, e)

/-- The events that the replay offers to the stream of a request. -/
def replayed (w : StreamWorld) (request : StreamRequest) : List StreamEvent :=
  if request.lastEventId > 0 then
    (w.bus request.worker).replay request.lastEventId w.now scanStreamTypes
  else []

/-- The stream of a request, and the events of the replay that it is sent. -/
def handedNew (w : StreamWorld) (request : StreamRequest) : List (ScanStream × StreamEvent) :=
  let stream := openedStream w request.worker request.deviceId request.tokenId
  (stream.getsOf (replayed w request)).map (stream, ·)

/-- What a request hands to the stream that it replaces. -/
def handedReplacement (w : StreamWorld) (request : StreamRequest) :
    List (ScanStream × StreamEvent) :=
  match w.activeByDevice request.worker request.deviceId with
  | none => []
  | some _ =>
      handed w request.worker
        (w.nextEvent request.worker .deviceSessionReplaced ⟨some request.deviceId, none⟩)

/-- The deliveries of an action. -/
def deliveries : RevocationAction → List (ScanStream × StreamEvent)
  | .streams (.publishes worker type payload) =>
      handed w.toStreamWorld worker (w.nextEvent worker type payload)
  | .streams (.hears worker source) =>
      match w.nextHeard worker source with
      | some e => if w.isHanded worker e then handed w.toStreamWorld worker e else []
      | none => []
  | .subscribes i =>
      match w.requests[i]? with
      | some request =>
          handedReplacement w.toStreamWorld request ++
            handedNew (w.kickOff bytes request.worker request.deviceId) request
      | none => []
  | .finishes j =>
      match w.deletes[j]? with
      | some call =>
          handed w.toStreamWorld call.worker
            (w.nextEvent call.worker .deviceTokenRevoked ⟨some call.deviceId, some call.tokenId⟩)
      | none => []
  | _ => []

/-- No stream of a device is open whose `DELETE` has finished. -/
def NoneOpen : Prop :=
  ∀ revocation ∈ w.revocations, ∀ stream ∈ w.streams, stream.deviceId = revocation.deviceId →
    stream.ended ≠ none

/-- No such stream is sent an event that was published after the revocation. -/
def DeliversNoLater (a : RevocationAction) : Prop :=
  ∀ delivery ∈ w.deliveries bytes a, ∀ revocation ∈ w.revocations,
    delivery.1.deviceId = revocation.deviceId → delivery.2 ∈ revocation.published

/-- When a `DELETE` finishes, the open streams of its device are of its own worker and token; and
when a stream subscribes after its device has been revoked, the replay closes it, and brings nothing
that was published after the revocation. -/
def ClosesAll : RevocationAction → Prop
  | .finishes j => ∀ call ∈ w.deletes[j]?, ∀ stream ∈ w.streams, stream.ended = none →
      stream.deviceId = call.deviceId →
        stream.worker = call.worker ∧ stream.connectionTokenId = call.tokenId
  | .subscribes i => ∀ request ∈ w.requests[i]?, ∀ revocation ∈ w.revocations,
      revocation.deviceId = request.deviceId →
        let w' := w.kickOff bytes request.worker request.deviceId
        let stream := openedStream w' request.worker request.deviceId request.tokenId
        (firstClosing stream (replayed w' request)).isSome ∧
          ∀ e ∈ stream.getsOf (replayed w' request), e ∈ revocation.published
  | _ => True

/-! ## What a step does -/

/-- What a step does.  No step of the workers opens a stream. -/
inductive Steps (bytes : StreamEvent → ℕ) (w : RevocationWorld) :
    RevocationAction → RevocationWorld → Prop
  | streams {action : StreamAction} {streams : StreamWorld}
      (hstreams : w.toStreamWorld.step bytes action = some streams)
      (hconnects : ∀ worker deviceId tokenId lastEventId,
        action ≠ .connects worker deviceId tokenId lastEventId) :
      Steps bytes w (.streams action) { w with toStreamWorld := streams }
  | requested {worker : String} {token : DeviceTokenEntry} {lastEventId : ℕ}
      (hresolves : w.Resolves token) :
      Steps bytes w (.requests worker token lastEventId)
        { w with
          requests := w.requests ++ [⟨worker, token.deviceId, token.id, lastEventId, false⟩] }
  | unresolved {worker : String} {token : DeviceTokenEntry} {lastEventId : ℕ}
      (hresolves : ¬w.Resolves token) : Steps bytes w (.requests worker token lastEventId) w
  | passed {i : ℕ} {request : StreamRequest} (hrequest : w.requests[i]? = some request)
      (hpasses : w.passesCheck request.deviceId = true) :
      Steps bytes w (.checks i false)
        { w with requests := w.requests.eraseIdx i ++ [{ request with checked := true }] }
  | stopped {i : ℕ} {fails : Bool} :
      Steps bytes w (.checks i fails) { w with requests := w.requests.eraseIdx i }
  | refused {i : ℕ} : Steps bytes w (.refuses i) { w with requests := w.requests.eraseIdx i }
  | subscribed {i : ℕ} {request : StreamRequest} (hrequest : w.requests[i]? = some request)
      (hchecked : request.checked = true) :
      Steps bytes w (.subscribes i)
        ({ w with requests := w.requests.eraseIdx i }.subscribe bytes request)
  | deleting {worker : String} {token : DeviceTokenEntry} :
      Steps bytes w (.deletes worker token token.deviceId)
        { w with deletes := w.deletes ++ [⟨worker, token.deviceId, token.id, .deleting⟩] }
  | notDeleting {worker : String} {token : DeviceTokenEntry} {pathDeviceId : String} :
      Steps bytes w (.deletes worker token pathDeviceId) w
  | softDeleted {j : ℕ} {call : DeleteCall} (hcall : w.deletes[j]? = some call)
      (hpoint : call.point = .deleting) :
      Steps bytes w (.softDeletes j false)
        { w.softDelete call.deviceId with
          deletes := w.deletes.eraseIdx j ++ [{ call with point := .revoking }] }
  | notDeleted {j : ℕ} {fails : Bool} :
      Steps bytes w (.softDeletes j fails) { w with deletes := w.deletes.eraseIdx j }
  | revoked {j : ℕ} {fails : Bool} {call : DeleteCall} {tokens : List DeviceTokenEntry}
      (hcall : w.deletes[j]? = some call) (hpoint : call.point = .revoking) :
      Steps bytes w (.revokes j fails)
        { w with
          tokens := tokens
          deletes := w.deletes.eraseIdx j ++ [{ call with point := .publishing }] }
  | finished {j : ℕ} {call : DeleteCall} (hcall : w.deletes[j]? = some call)
      (hpoint : call.point = .publishing) :
      Steps bytes w (.finishes j) ({ w with deletes := w.deletes.eraseIdx j }.finish bytes call)

section

variable {bytes : StreamEvent → ℕ} {w w' : RevocationWorld} {a : RevocationAction}

lemma steps_of_step (hstep : w.step bytes a = some w') : Steps bytes w a w' := by
  cases a with
  | streams action =>
      cases action with
      | connects worker deviceId connectionTokenId lastEventId =>
          exact absurd hstep (Option.some_ne_none _).symm
      | waits | publishes | hears | cancels | breaks =>
          unfold step at hstep
          obtain ⟨streams, hstreams, rfl⟩ := Option.map_eq_some_iff.mp hstep
          exact .streams hstreams (by rintro _ _ _ _ ⟨⟩)
  | requests worker token lastEventId =>
      rw [← Option.some.inj hstep]
      split
      · next hresolves => exact .requested hresolves
      · next hresolves => exact .unresolved hresolves
  | checks i fails =>
      obtain ⟨request, hrequest, hstep⟩ := Option.bind_eq_some_iff.mp hstep
      dsimp only at hstep
      split_ifs at hstep with hchecked hpasses
      · obtain ⟨hnot, hpasses⟩ := Bool.and_eq_true_iff.mp hpasses
        have hfails : fails = false := by simpa using hnot
        rw [← Option.some.inj hstep, hfails]
        exact .passed hrequest hpasses
      · rw [← Option.some.inj hstep]
        exact .stopped
  | refuses i =>
      obtain ⟨request, -, rfl⟩ := Option.map_eq_some_iff.mp hstep
      exact .refused
  | subscribes i =>
      obtain ⟨request, hrequest, hstep⟩ := Option.bind_eq_some_iff.mp hstep
      split_ifs at hstep with hchecked
      rw [← Option.some.inj hstep]
      exact .subscribed hrequest hchecked
  | deletes worker token pathDeviceId =>
      rw [← Option.some.inj hstep]
      split
      · next hresolves =>
          rw [hresolves.2]
          exact .deleting
      · exact .notDeleting
  | softDeletes j fails =>
      obtain ⟨call, hcall, hstep⟩ := Option.bind_eq_some_iff.mp hstep
      dsimp only at hstep
      split_ifs at hstep with hpoint hdeletes
      · have hfails : fails = false := by simpa using (Bool.and_eq_true_iff.mp hdeletes).1
        rw [← Option.some.inj hstep, hfails]
        exact .softDeleted hcall hpoint
      · rw [← Option.some.inj hstep]
        exact .notDeleted
  | revokes j fails =>
      obtain ⟨call, hcall, hstep⟩ := Option.bind_eq_some_iff.mp hstep
      dsimp only at hstep
      split_ifs at hstep with hpoint hfails
      · rw [← Option.some.inj hstep]
        exact .revoked hcall hpoint
      · rw [← Option.some.inj hstep]
        exact .revoked hcall hpoint
  | finishes j =>
      obtain ⟨call, hcall, hstep⟩ := Option.bind_eq_some_iff.mp hstep
      split_ifs at hstep with hpoint
      rw [← Option.some.inj hstep]
      exact .finished hcall hpoint

end

/-! ## Streams that end -/

/-- The streams after a step that opens none. -/
def OpensNone (streams streams' : List ScanStream) : Prop :=
  ∀ stream' ∈ streams', ∃ stream ∈ streams, stream.deviceId = stream'.deviceId ∧
    (stream'.ended = none → stream.ended = none)

lemma OpensNone.of_ends {P : ℕ → ScanStream → StreamEnd → Prop} {streams streams' : List ScanStream}
    (h : Ends P streams streams') : OpensNone streams streams' := by
  intro stream' hstream'
  obtain ⟨i, hi⟩ := List.mem_iff_getElem?.mp hstream'
  obtain ⟨stream, hstream, -, hdevice, -, -, hended⟩ := h.back hi
  refine ⟨stream, List.mem_of_getElem? hstream, hdevice.symm, fun hopen => ?_⟩
  rcases hended with hsame | ⟨hnone, -⟩
  · exact hsame ▸ hopen
  · exact hnone

lemma OpensNone.refl (streams : List ScanStream) : OpensNone streams streams :=
  fun stream hstream => ⟨stream, hstream, rfl, id⟩

lemma OpensNone.trans {streams streams' streams'' : List ScanStream}
    (h : OpensNone streams streams') (h' : OpensNone streams' streams'') :
    OpensNone streams streams'' := by
  intro stream'' hstream''
  obtain ⟨stream', hstream', hdevice', hopen'⟩ := h' stream'' hstream''
  obtain ⟨stream, hstream, hdevice, hopen⟩ := h stream' hstream'
  exact ⟨stream, hstream, hdevice.trans hdevice', fun hended => hopen (hopen' hended)⟩

section

variable {bytes : StreamEvent → ℕ} {w w' : RevocationWorld} {a : RevocationAction}

lemma opensNone_publishEvent (w : StreamWorld) (worker : String) (type : EventBusEventType)
    (payload : StreamPayload) :
    OpensNone w.streams (w.publishEvent bytes worker type payload).streams :=
  .of_ends ends_fanOut

lemma opensNone_kickOff (w : StreamWorld) (worker deviceId : String) :
    OpensNone w.streams (w.kickOff bytes worker deviceId).streams := by
  unfold StreamWorld.kickOff
  split
  · exact .refl _
  · exact (opensNone_publishEvent w _ _ _).trans (.of_ends (ends_endStream _ _))

/-- No step of the workers opens a stream, requests apart. -/
lemma opensNone_streams {streams streams' : StreamWorld} {action : StreamAction}
    (hconnects : ∀ worker deviceId tokenId lastEventId,
      action ≠ .connects worker deviceId tokenId lastEventId)
    (hstep : streams.step bytes action = some streams') :
    OpensNone streams.streams streams'.streams := by
  cases action with
  | connects worker deviceId connectionTokenId lastEventId => exact absurd rfl (hconnects _ _ _ _)
  | waits ms =>
      rw [← Option.some.inj hstep]
      exact .refl _
  | publishes worker type payload =>
      rw [StreamWorld.step] at hstep
      split_ifs at hstep
      rw [← Option.some.inj hstep]
      exact opensNone_publishEvent streams worker type payload
  | hears worker source =>
      obtain ⟨e, -, hstep⟩ := Option.bind_eq_some_iff.mp hstep
      dsimp only at hstep
      split_ifs at hstep
      · rw [← Option.some.inj hstep]
        exact .of_ends ends_fanOut
      · rw [← Option.some.inj hstep]
        exact .refl _
  | cancels i =>
      rw [StreamWorld.step] at hstep
      split_ifs at hstep
      rw [← Option.some.inj hstep]
      exact .of_ends (ends_endStream i .client)
  | breaks i =>
      rw [StreamWorld.step] at hstep
      split_ifs at hstep
      rw [← Option.some.inj hstep]
      exact .of_ends (ends_endStream i .client)

lemma NoneOpen.of_opensNone (h : w.NoneOpen) (hopens : OpensNone w.streams w'.streams)
    (hrevocations : w'.revocations = w.revocations) : w'.NoneOpen := by
  intro revocation hrevocation stream' hstream' hdevice' hopen'
  rw [hrevocations] at hrevocation
  obtain ⟨stream, hstream, hdevice, hopen⟩ := hopens stream' hstream'
  exact h revocation hrevocation stream hstream (hdevice.trans hdevice') (hopen hopen')

/-- What an event is handed to is open. -/
lemma NoneOpen.of_handed (h : w.NoneOpen) {worker : String} {e : StreamEvent}
    {delivery : ScanStream × StreamEvent} (hdelivery : delivery ∈ handed w.toStreamWorld worker e)
    {revocation : Revocation} (hrevocation : revocation ∈ w.revocations)
    (hdevice : delivery.1.deviceId = revocation.deviceId) : delivery.2 ∈ revocation.published := by
  obtain ⟨stream, hstream, heq⟩ := List.mem_map.mp hdelivery
  obtain ⟨hmem, hgets⟩ := List.mem_filter.mp hstream
  rw [← heq] at hdevice
  have hended : stream.ended ≠ none := h revocation hrevocation stream hmem hdevice
  rw [ScanStream.gets_eq_false hended, Bool.and_false] at hgets
  exact absurd hgets (by decide)

lemma DeliversNoLater.of_nil (h : w.deliveries bytes a = []) : w.DeliversNoLater bytes a := by
  intro delivery hdelivery
  rw [h] at hdelivery
  exact absurd hdelivery List.not_mem_nil

lemma NoneOpen.deliversNoLater_streams (h : w.NoneOpen) (action : StreamAction) :
    w.DeliversNoLater bytes (.streams action) := by
  cases action with
  | waits ms => exact .of_nil rfl
  | connects worker deviceId connectionTokenId lastEventId => exact .of_nil rfl
  | cancels i => exact .of_nil rfl
  | breaks i => exact .of_nil rfl
  | publishes worker type payload =>
      intro delivery hdelivery revocation hrevocation hdevice
      exact h.of_handed hdelivery hrevocation hdevice
  | hears worker source =>
      intro delivery hdelivery revocation hrevocation hdevice
      unfold deliveries at hdelivery
      dsimp only at hdelivery
      split at hdelivery
      · split at hdelivery
        · exact h.of_handed hdelivery hrevocation hdevice
        · exact absurd hdelivery List.not_mem_nil
      · exact absurd hdelivery List.not_mem_nil

/-! ## A `DELETE` finishes -/

/-- The event of a `DELETE` leaves a stream of its device open that is of another worker or
token. -/
lemma ended_finish {call : DeleteCall} {stream : ScanStream}
    (hdevice : stream.deviceId = call.deviceId) :
    (if stream.worker = call.worker then
        stream.handle (w.nextEvent call.worker .deviceTokenRevoked
          ⟨some call.deviceId, some call.tokenId⟩)
      else stream).ended ≠ none ↔
      (stream.ended = none →
        stream.worker = call.worker ∧ stream.connectionTokenId = call.tokenId) := by
  by_cases hended : stream.ended = none
  · rw [forall_prop_of_true hended]
    by_cases hworker : stream.worker = call.worker
    · rw [if_pos hworker, ended_handle hended]
      have hconcerns : stream.concerns (w.nextEvent call.worker .deviceTokenRevoked
          ⟨some call.deviceId, some call.tokenId⟩) =
            decide (call.tokenId = stream.connectionTokenId) := by
        simp [ScanStream.concerns, BusNetwork.nextEvent, EventBus.nextEvent, hdevice]
      rw [hconcerns]
      by_cases htoken : stream.connectionTokenId = call.tokenId
      · simp [BusNetwork.nextEvent, EventBus.nextEvent, EventBusEventType.closes, hworker, htoken]
      · simp [htoken, Ne.symm htoken]
    · rw [if_neg hworker]
      exact iff_of_false (fun h => h hended) fun h => hworker h.1
  · refine iff_of_true ?_ fun hopen => absurd hopen hended
    split
    · rw [handle_of_ended hended]
      exact hended
    · exact hended

/-- After a `DELETE` has finished, no stream of its device is open exactly when all that were are of
its worker and token. -/
lemma noneOpen_finish_iff (h : w.NoneOpen) (call : DeleteCall) :
    (w.finish bytes call).NoneOpen ↔ ∀ stream ∈ w.streams, stream.ended = none →
      stream.deviceId = call.deviceId →
        stream.worker = call.worker ∧ stream.connectionTokenId = call.tokenId := by
  have hstreams : (w.finish bytes call).streams = w.streams.map fun stream =>
      if stream.worker = call.worker then
        stream.handle (w.nextEvent call.worker .deviceTokenRevoked
          ⟨some call.deviceId, some call.tokenId⟩)
      else stream := rfl
  have hdevice : ∀ (e : StreamEvent) (stream : ScanStream),
      (if stream.worker = call.worker then stream.handle e else stream).deviceId =
        stream.deviceId := by
    intro e stream
    split
    · exact (handle_frame stream e).2.1
    · rfl
  constructor
  · intro hnone stream hstream hopen hsame
    have hrevocation : (⟨call.deviceId, (w.publishEvent bytes call.worker .deviceTokenRevoked
        ⟨some call.deviceId, some call.tokenId⟩).history⟩ : Revocation) ∈
          (w.finish bytes call).revocations :=
      List.mem_append_right _ (List.mem_singleton.mpr rfl)
    have hended := hnone _ hrevocation _ (hstreams ▸ List.mem_map_of_mem hstream)
      ((hdevice _ stream).trans hsame)
    exact (ended_finish hsame).mp hended hopen
  · intro hall revocation hrevocation
    rw [hstreams, List.forall_mem_map]
    intro stream hstream hsame
    rw [hdevice] at hsame
    rcases List.mem_append.mp hrevocation with hold | hnew
    · refine fun hopen => h revocation hold stream hstream hsame ?_
      by_contra hended
      revert hopen
      split
      · rw [handle_of_ended hended]
        exact hended
      · exact hended
    · rw [List.mem_singleton.mp hnew] at hsame
      exact (ended_finish hsame).mpr fun hopen => hall stream hstream hopen hsame

/-! ## A stream subscribes -/

lemma isSome_firstClosing_iff (w : StreamWorld) (request : StreamRequest) :
    (w.newStream request.worker request.deviceId request.tokenId request.lastEventId).ended ≠ none ↔
      (firstClosing (openedStream w request.worker request.deviceId request.tokenId)
        (replayed w request)).isSome := by
  rw [ended_newStream]
  unfold replayed
  by_cases hpos : 0 < request.lastEventId
  · rw [if_pos hpos, if_pos hpos, Option.isSome_iff_ne_none, ne_eq, ne_eq, Option.map_eq_none_iff]
  · rw [if_neg hpos, if_neg hpos]
    simp [firstClosing]

/-- After a stream has subscribed, it is closed if its device has been revoked. -/
lemma noneOpen_subscribe_iff (h : w.NoneOpen) (request : StreamRequest) :
    (w.subscribe bytes request).NoneOpen ↔ ∀ revocation ∈ w.revocations,
      revocation.deviceId = request.deviceId →
        (firstClosing (openedStream (w.kickOff bytes request.worker request.deviceId)
            request.worker request.deviceId request.tokenId)
          (replayed (w.kickOff bytes request.worker request.deviceId) request)).isSome := by
  let kicked := w.kickOff bytes request.worker request.deviceId
  let new := kicked.newStream request.worker request.deviceId request.tokenId request.lastEventId
  have hnew : new.deviceId = request.deviceId := (newStream_frame _ _ _ _ _).2.1
  have hstreams : (w.subscribe bytes request).streams = kicked.streams ++ [new] := rfl
  have hrevocations : (w.subscribe bytes request).revocations = w.revocations := rfl
  have hkicked : ∀ revocation ∈ w.revocations, ∀ stream ∈ kicked.streams,
      stream.deviceId = revocation.deviceId → stream.ended ≠ none := by
    intro revocation hrevocation stream' hstream' hdevice' hopen'
    obtain ⟨stream, hstream, hdevice, hopen⟩ :=
      opensNone_kickOff w.toStreamWorld request.worker request.deviceId stream' hstream'
    exact h revocation hrevocation stream hstream (hdevice.trans hdevice') (hopen hopen')
  unfold NoneOpen
  rw [hrevocations, hstreams]
  refine forall₂_congr fun revocation hrevocation => ?_
  rw [List.forall_mem_append, List.forall_mem_singleton, hnew,
    and_iff_right (hkicked revocation hrevocation)]
  constructor
  · intro hended hdevice
    exact (isSome_firstClosing_iff kicked request).mp (hended hdevice.symm)
  · intro hcloses hdevice
    exact (isSome_firstClosing_iff kicked request).mpr (hcloses hdevice.symm)

/-- The deliveries of a subscription are those of its replay. -/
lemma deliversNoLater_subscribes_iff (h : w.NoneOpen) {i : ℕ} {request : StreamRequest}
    (hrequest : w.requests[i]? = some request) :
    w.DeliversNoLater bytes (.subscribes i) ↔ ∀ revocation ∈ w.revocations,
      revocation.deviceId = request.deviceId →
        ∀ e ∈ (openedStream (w.kickOff bytes request.worker request.deviceId) request.worker
            request.deviceId request.tokenId).getsOf
          (replayed (w.kickOff bytes request.worker request.deviceId) request),
          e ∈ revocation.published := by
  have hdeliveries : w.deliveries bytes (.subscribes i) =
      handedReplacement w.toStreamWorld request ++
        handedNew (w.kickOff bytes request.worker request.deviceId) request := by
    rw [deliveries, hrequest]
  unfold DeliversNoLater
  rw [hdeliveries]
  constructor
  · intro hall revocation hrevocation hdevice e he
    have hmem : (openedStream (w.kickOff bytes request.worker request.deviceId) request.worker
        request.deviceId request.tokenId, e) ∈
          handedNew (w.kickOff bytes request.worker request.deviceId) request :=
      List.mem_map_of_mem he
    exact hall _ (List.mem_append_right _ hmem) revocation hrevocation hdevice.symm
  · intro hall delivery hdelivery revocation hrevocation hdevice
    rcases List.mem_append.mp hdelivery with hreplacement | hnew
    · unfold handedReplacement at hreplacement
      split at hreplacement
      · exact absurd hreplacement List.not_mem_nil
      · exact h.of_handed hreplacement hrevocation hdevice
    · obtain ⟨e, he, heq⟩ := List.mem_map.mp hnew
      rw [← heq] at hdevice ⊢
      exact hall revocation hrevocation hdevice.symm e he

/-! ## Steps -/

/-- A step that is about a request or a call only. -/
lemma NoneOpen.of_streams_eq (h : w.NoneOpen) (hstreams : w'.toStreamWorld = w.toStreamWorld)
    (hrevocations : w'.revocations = w.revocations) : w'.NoneOpen := by
  refine h.of_opensNone ?_ hrevocations
  rw [hstreams]
  exact .refl _

/-- The condition on a step is exactly what the claim asks of it. -/
lemma closesAll_iff (h : w.NoneOpen) (hstep : w.step bytes a = some w') :
    w.ClosesAll bytes a ↔ w'.NoneOpen ∧ w.DeliversNoLater bytes a := by
  cases steps_of_step hstep with
  | streams hstreams hconnects =>
      exact iff_of_true trivial
        ⟨h.of_opensNone (opensNone_streams hconnects hstreams) rfl, h.deliversNoLater_streams _⟩
  | requested | unresolved | passed | stopped | refused | deleting | notDeleting | softDeleted
  | notDeleted | revoked =>
      exact iff_of_true trivial ⟨h.of_streams_eq rfl rfl, .of_nil rfl⟩
  | @subscribed i request hrequest =>
      have hw' : (subscribe bytes { w with requests := w.requests.eraseIdx i } request).NoneOpen ↔
          _ :=
        noneOpen_subscribe_iff (h.of_streams_eq rfl rfl) request
      rw [hw', deliversNoLater_subscribes_iff h hrequest]
      constructor
      · intro hall
        exact ⟨fun revocation hrevocation hdevice =>
            (hall request hrequest revocation hrevocation hdevice).1,
          fun revocation hrevocation hdevice =>
            (hall request hrequest revocation hrevocation hdevice).2⟩
      · rintro ⟨hcloses, hpublished⟩ other hother revocation hrevocation hdevice
        have heq : request = other := Option.some.inj (hrequest.symm.trans hother)
        subst heq
        exact ⟨hcloses revocation hrevocation hdevice, hpublished revocation hrevocation hdevice⟩
  | @finished j call hcall =>
      have hw' : (finish bytes { w with deletes := w.deletes.eraseIdx j } call).NoneOpen ↔ _ :=
        noneOpen_finish_iff (h.of_streams_eq rfl rfl) call
      have hlater : w.DeliversNoLater bytes (.finishes j) := by
        intro delivery hdelivery revocation hrevocation hdevice
        unfold deliveries at hdelivery
        dsimp only at hdelivery
        rw [hcall] at hdelivery
        exact h.of_handed hdelivery hrevocation hdevice
      rw [hw', and_iff_left hlater]
      constructor
      · exact fun hall => hall call hcall
      · intro hall other hother
        have heq : call = other := Option.some.inj (hcall.symm.trans hother)
        rw [← heq]
        exact hall

/-! ## The look-up before the stream -/

/-- The device has been soft-deleted. -/
def IsDeleted (w : RevocationWorld) (deviceId : String) : Prop :=
  ∀ device ∈ w.devices, device.id = deviceId → device.deletedAt ≠ none

/-- Whoever has got past the first statement of a `DELETE` has deleted the device. -/
structure Deleted (w : RevocationWorld) : Prop where
  calls : ∀ call ∈ w.deletes, call.point ≠ .deleting → w.IsDeleted call.deviceId
  revocations : ∀ revocation ∈ w.revocations, w.IsDeleted revocation.deviceId

lemma isDeleted_softDelete (w : RevocationWorld) (deviceId : String) :
    (w.softDelete deviceId).IsDeleted deviceId := by
  intro device hdevice hid
  obtain ⟨old, -, heq⟩ := List.mem_map.mp hdevice
  rw [← heq] at hid ⊢
  by_cases hdeletable : isDeletable deviceId old = true
  · rw [if_pos hdeletable]
    exact Option.some_ne_none _
  · rw [if_neg hdeletable] at hid ⊢
    exact fun hnone => hdeletable (decide_eq_true ⟨hid, hnone⟩)

lemma IsDeleted.softDelete {deviceId : String} (h : w.IsDeleted deviceId) (other : String) :
    (w.softDelete other).IsDeleted deviceId := by
  intro device hdevice hid
  obtain ⟨old, hold, heq⟩ := List.mem_map.mp hdevice
  rw [← heq] at hid ⊢
  split at hid
  · next hdeletable =>
      rw [if_pos hdeletable]
      exact Option.some_ne_none _
  · next hdeletable =>
      rw [if_neg hdeletable]
      exact h old hold hid

lemma passesCheck_eq_false {deviceId : String} (h : w.IsDeleted deviceId) :
    w.passesCheck deviceId = false := by
  unfold passesCheck
  cases hfind : w.devices.find? fun device => device.id = deviceId with
  | none => rfl
  | some device =>
      have hid : device.id = deviceId := by simpa using List.find?_some hfind
      have hdeleted := h device (List.mem_of_find?_eq_some hfind) hid
      rw [Option.any_some, Option.isNone_eq_false_iff, Option.isSome_iff_ne_none]
      exact hdeleted

lemma deleted_initial (now : ℕ) (devices : List DeviceEntry) (tokens : List DeviceTokenEntry) :
    Deleted (initial now devices tokens) :=
  ⟨fun _ h => absurd h List.not_mem_nil, fun _ h => absurd h List.not_mem_nil⟩

lemma Deleted.erase (h : Deleted w) (j : ℕ) : Deleted { w with deletes := w.deletes.eraseIdx j } :=
  ⟨fun call hcall => h.calls call (InFlight.mem_of_mem_eraseIdx hcall), h.revocations⟩

/-- A call that goes on has deleted its device. -/
lemma Deleted.goesOn (h : Deleted w) (j : ℕ) {call : DeleteCall} (point : DeletePoint)
    (hdeleted : w.IsDeleted call.deviceId) (tokens : List DeviceTokenEntry) :
    Deleted { w with
      tokens := tokens
      deletes := w.deletes.eraseIdx j ++ [{ call with point := point }] } := by
  refine ⟨fun other hother hpoint => ?_, h.revocations⟩
  rcases List.mem_append.mp hother with hold | hnew
  · exact (h.erase j).calls other hold hpoint
  · rw [List.mem_singleton.mp hnew]
    exact hdeleted

lemma Deleted.softDelete (h : Deleted w) (deviceId : String) : Deleted (w.softDelete deviceId) :=
  ⟨fun call hcall hpoint => (h.calls call hcall hpoint).softDelete deviceId,
    fun revocation hrevocation => (h.revocations revocation hrevocation).softDelete deviceId⟩

lemma deleted_step (h : Deleted w) (hstep : w.step bytes a = some w') : Deleted w' := by
  cases steps_of_step hstep with
  | streams | requested | passed | stopped | refused | subscribed =>
      exact ⟨h.calls, h.revocations⟩
  | unresolved | notDeleting => exact h
  | deleting =>
      refine ⟨fun call hcall hpoint => ?_, h.revocations⟩
      rcases List.mem_append.mp hcall with hold | hnew
      · exact h.calls call hold hpoint
      · rw [List.mem_singleton.mp hnew] at hpoint
        exact absurd rfl hpoint
  | @softDeleted j call =>
      exact (h.softDelete call.deviceId).goesOn j .revoking
        (isDeleted_softDelete w call.deviceId) w.tokens
  | @notDeleted j => exact h.erase j
  | @revoked j fails call tokens hcall hpoint =>
      refine h.goesOn j .publishing (h.calls call (List.mem_of_getElem? hcall) ?_) tokens
      rw [hpoint]
      decide
  | @finished j call hcall hpoint =>
      refine ⟨(h.erase j).calls, fun revocation hrevocation => ?_⟩
      rcases List.mem_append.mp hrevocation with hold | hnew
      · exact h.revocations revocation hold
      · rw [List.mem_singleton.mp hnew]
        refine h.calls call (List.mem_of_getElem? hcall) ?_
        rw [hpoint]
        decide

/-- No request is let past the look-up whose device has been revoked. -/
def LetsNoneIn (w : RevocationWorld) (_ : RevocationAction) (w' : RevocationWorld) : Prop :=
  ∀ revocation ∈ w.revocations, ∀ request ∈ w'.requests, request.checked = true →
    request.deviceId = revocation.deviceId → request ∈ w.requests

lemma letsNoneIn_step (h : Deleted w) (hstep : w.step bytes a = some w') : LetsNoneIn w a w' := by
  intro revocation hrevocation request hrequest hchecked hdevice
  cases steps_of_step hstep with
  | streams | unresolved | deleting | notDeleting | softDeleted | notDeleted | revoked | finished =>
      exact hrequest
  | requested =>
      rcases List.mem_append.mp hrequest with hold | hnew
      · exact hold
      · rw [List.mem_singleton.mp hnew] at hchecked
        exact absurd hchecked Bool.false_ne_true
  | @passed i other hother hpasses =>
      rcases List.mem_append.mp hrequest with hold | hnew
      · exact InFlight.mem_of_mem_eraseIdx hold
      · rw [List.mem_singleton.mp hnew] at hdevice
        have hrefused := passesCheck_eq_false (h.revocations revocation hrevocation)
        rw [← hdevice, hpasses] at hrefused
        exact absurd hrefused (by decide)
  | stopped | refused | subscribed => exact InFlight.mem_of_mem_eraseIdx hrequest

end

end RevocationWorld

open RevocationWorld

/-- A stream that subscribes after its device has been revoked was let past the look-up before. -/
theorem letsNoneIn_afterRevocation (bytes : StreamEvent → ℕ) (now : ℕ) (devices : List DeviceEntry)
    (tokens : List DeviceTokenEntry) (as : List RevocationAction) :
    EachStep (step bytes) LetsNoneIn (initial now devices tokens) as :=
  Meets.eachStep (C := fun _ _ => True) (fun _ _ _ h _ hstep => deleted_step h hstep)
    (fun _ _ _ h _ hstep => letsNoneIn_step h hstep) (deleted_initial now devices tokens)
    (meets_of_forall fun _ _ => trivial)

/-- Once a `DELETE` has finished, no stream of its device is open, and none is sent an event that
was published after the revocation. -/
def RevocationIsFinal (bytes : StreamEvent → ℕ) (w : RevocationWorld) (as : List RevocationAction) :
    Prop :=
  Always (step bytes) NoneOpen w as ∧ EachStep (step bytes) (fun w a _ => w.DeliversNoLater bytes a)
    w as

instance (bytes : StreamEvent → ℕ) (w : RevocationWorld) (as : List RevocationAction) :
    Decidable (RevocationIsFinal bytes w as) :=
  have := fun w : RevocationWorld => inferInstanceAs (Decidable (∀ revocation ∈ w.revocations,
    ∀ stream ∈ w.streams, stream.deviceId = revocation.deviceId → stream.ended ≠ none))
  have : DecidablePred NoneOpen := this
  have := fun (w : RevocationWorld) a =>
    inferInstanceAs (Decidable (∀ delivery ∈ w.deliveries bytes a, ∀ revocation ∈ w.revocations,
    delivery.1.deviceId = revocation.deviceId →
      delivery.2 ∈ revocation.published))
  have : ∀ w a, Decidable (DeliversNoLater bytes w a) := this
  inferInstanceAs (Decidable (_ ∧ _))

/-- **Revocation is final for device streams**, exactly in the runs in which every `DELETE` finishes
when the open streams of its device are of its own worker and token, and no stream subscribes after
that unless the replay closes it. -/
theorem revocationIsFinal_iff (bytes : StreamEvent → ℕ) (now : ℕ) (devices : List DeviceEntry)
    (tokens : List DeviceTokenEntry) (as : List RevocationAction) :
    RevocationIsFinal bytes (initial now devices tokens) as ↔
      Meets (step bytes) (ClosesAll bytes) (initial now devices tokens) as := by
  have hnone : (initial now devices tokens).NoneOpen := fun _ h => absurd h List.not_mem_nil
  have hiff : Meets (step bytes) (ClosesAll bytes) (initial now devices tokens) as ↔
      EachStep (step bytes) (fun w a w' => w'.NoneOpen ∧ w.DeliversNoLater bytes a)
        (initial now devices tokens) as := meets_iff_eachStep (I := NoneOpen) (A := fun _ _ => True)
    (fun w a w' h _ hcloses hstep => ((closesAll_iff h hstep).mp hcloses).1)
    (fun w a w' h _ hstep => closesAll_iff h hstep) hnone
    (meets_of_forall fun _ _ => trivial)
  rw [hiff, eachStep_and]
  unfold RevocationIsFinal Always
  rw [and_iff_right hnone]

/-- The device is deleted between the look-up of a request for a stream and its subscription. -/
def deletedMeanwhile : List RevocationAction :=
  let token : DeviceTokenEntry := ⟨"token-1", "device-1", none, 1000⟩
  [.requests "worker-1" token 0, .checks 0 false, .deletes "worker-1" token "device-1",
    .softDeletes 0 false, .revokes 0 false, .finishes 0, .subscribes 0,
    .streams (.publishes "worker-1" .deviceScanRequested ⟨some "device-1", none⟩)]

theorem not_revocationIsFinal_deletedMeanwhile :
    ¬RevocationIsFinal (fun _ => 100)
      (initial 0 [⟨"device-1", none⟩] [⟨"token-1", "device-1", none, 1000⟩]) deletedMeanwhile := by
  decide +kernel

end ExpresSync
