import ExpresSync.Model.EventBus

/-!
# The scan stream of a device

`GET /api/devices/scan-stream` keeps one stream open for each device.  A new one publishes
`device.session.replaced` for the one before it, replays what the bus keeps after the
`Last-Event-ID` of the request, and then gets the events of its worker's bus; each of these closes
it when it says that the session has been replaced or that its token has been revoked.
-/

namespace ExpresSync

/-- What the stream reads of the payload of an event. -/
structure StreamPayload where
  deviceId : Option String
  tokenId : Option String
deriving DecidableEq

abbrev StreamEvent := DeliveredEvent StreamPayload

/-- How a stream has ended. -/
inductive StreamEnd where
  | event (e : StreamEvent)
  | aborted
  /-- The client has gone, or has stopped reading. -/
  | client
deriving DecidableEq

structure ScanStream where
  worker : String
  deviceId : String
  connectionTokenId : String
  ended : Option StreamEnd
  /-- Names and numbers of the events that have been sent. -/
  sent : List (String × ℕ)
  /-- The events that had been published when the stream was registered. -/
  before : List StreamEvent
deriving DecidableEq

/-- The types that a stream replays and subscribes to. -/
def scanStreamTypes : List EventBusEventType :=
  [.deviceScanRequested, .deviceScanCancelled, .deviceSessionReplaced, .deviceTokenRevoked,
    .deviceCapabilitiesChanged, .deviceSettingsChanged]

/-- The name under which an event of a type is sent. -/
def scanStreamName : EventBusEventType → Option String
  | .deviceScanRequested => some "scan.requested"
  | .deviceScanCancelled => some "scan.cancelled"
  | .deviceSessionReplaced => some "device.session.replaced"
  | .deviceTokenRevoked => some "device.token.revoked"
  | .deviceCapabilitiesChanged => some "device.capabilities.changed"
  | .deviceSettingsChanged => some "device.settings.changed"
  | _ => none

/-- An event of the type closes the streams that get it. -/
def EventBusEventType.closes : EventBusEventType → Bool
  | .deviceSessionReplaced | .deviceTokenRevoked => true
  | _ => false

namespace ScanStream

variable (stream : ScanStream)

/-- The event is for the stream: it names its device, and a revocation its token. -/
def concerns (e : StreamEvent) : Bool :=
  decide (e.payload.deviceId = some stream.deviceId) &&
    !(decide (e.type = .deviceTokenRevoked) &&
      !decide (e.payload.tokenId = some stream.connectionTokenId))

/-- An event that is replayed to the stream, or that it gets from the bus. -/
def handle (e : StreamEvent) : ScanStream :=
  if stream.ended.isSome || !stream.concerns e then stream
  else
    match scanStreamName e.type with
    | none => stream
    | some name =>
        { stream with
          sent := stream.sent ++ [(name, e.seq)]
          ended := if e.type.closes then some (.event e) else none }

end ScanStream

/-- The workers, the streams in the order they were registered, and the registries. -/
structure StreamWorld extends BusNetwork StreamPayload where
  streams : List ScanStream
  /-- The number of the active stream of a device at a worker. -/
  activeByDevice : String → String → Option ℕ
  /-- The events that have been published. -/
  history : List StreamEvent

inductive StreamAction where
  | waits (ms : ℕ)
  /-- Some other part of a worker publishes an event. -/
  | publishes (worker : String) (type : EventBusEventType) (payload : StreamPayload)
  | hears (worker source : String)
  /-- A request that gets as far as the registration. -/
  | connects (worker deviceId connectionTokenId : String) (lastEventId : ℕ)
  /-- The client cancels, or the keepalive or the slow-loris guard closes the stream. -/
  | cancels (i : ℕ)
  /-- Writing to the stream fails. -/
  | breaks (i : ℕ)

namespace StreamWorld

/-- No event has been published. -/
def initial (now : ℕ) : StreamWorld where
  toBusNetwork := .initial now
  streams := []
  activeByDevice _ _ := none
  history := []

variable (bytes : StreamEvent → ℕ) (w : StreamWorld)

/-- Streams change; those that are closed release the slot of their device. -/
def change (f : ScanStream → ScanStream) : StreamWorld :=
  { w with
    streams := w.streams.map f
    activeByDevice := fun worker deviceId =>
      (w.activeByDevice worker deviceId).filter fun i =>
        w.streams[i]?.all fun stream => stream.ended.isSome || (f stream).ended.isNone }

/-- A worker hands an event to its streams. -/
def fanOut (worker : String) (e : StreamEvent) : StreamWorld :=
  w.change fun stream => if stream.worker = worker then stream.handle e else stream

/-- A worker publishes an event. -/
def publishEvent (worker : String) (type : EventBusEventType) (payload : StreamPayload) :
    StreamWorld :=
  let e := w.nextEvent worker type payload
  { w with
    toBusNetwork := w.publish bytes worker type payload
    history := w.history ++ [e] }.fanOut worker e

/-- The stream `i` ends, unless it has. -/
def endStream (i : ℕ) (reason : StreamEnd) : StreamWorld :=
  { w with streams := w.streams.modify i fun stream =>
    { stream with ended := some (stream.ended.getD reason) } }

/-- `cleanup` of the stream `i`: it ends, and releases the slot of its device. -/
def cleanup (i : ℕ) (reason : StreamEnd) : StreamWorld :=
  { w.endStream i reason with
    activeByDevice := fun worker deviceId =>
      (w.activeByDevice worker deviceId).filter fun j =>
        !decide (j = i) || w.streams[i]?.all fun stream => stream.ended.isSome }

/-- The stream before is told that it is replaced, and aborted. -/
def kickOff (worker deviceId : String) : StreamWorld :=
  match w.activeByDevice worker deviceId with
  | none => w
  | some previous =>
      (w.publishEvent bytes worker .deviceSessionReplaced ⟨some deviceId, none⟩).cleanup previous
        .aborted

/-- A new stream after what is replayed to it. -/
def newStream (worker deviceId connectionTokenId : String) (lastEventId : ℕ) : ScanStream :=
  let stream : ScanStream :=
    ⟨worker, deviceId, connectionTokenId, none, [("connected", 0)], w.history⟩
  if lastEventId > 0 then
    ((w.bus worker).replay lastEventId w.now scanStreamTypes).foldl ScanStream.handle stream
  else stream

/-- The new stream is registered; it releases its slot when the replay closes it. -/
def register (worker deviceId connectionTokenId : String) (lastEventId : ℕ) : StreamWorld :=
  let stream := w.newStream worker deviceId connectionTokenId lastEventId
  { w with
    streams := w.streams ++ [stream]
    activeByDevice := Function.update w.activeByDevice worker
      (Function.update (w.activeByDevice worker) deviceId
        (if stream.ended.isSome then none else some w.streams.length)) }

def step : StreamAction → Option StreamWorld
  | .waits ms => some { w with now := w.now + ms }
  | .publishes worker type payload =>
      if type = .deviceSessionReplaced then none
      else some (w.publishEvent bytes worker type payload)
  | .hears worker source =>
      (w.nextHeard worker source).bind fun e =>
        let w' := { w with toBusNetwork := w.hear worker source e }
        if w.isHanded worker e then some (w'.fanOut worker e) else some w'
  | .connects worker deviceId connectionTokenId lastEventId =>
      some ((w.kickOff bytes worker deviceId).register worker deviceId connectionTokenId
        lastEventId)
  | .cancels i => if i < w.streams.length then some (w.cleanup i .client) else none
  | .breaks i => if i < w.streams.length then some (w.endStream i .client) else none

end StreamWorld

end ExpresSync
