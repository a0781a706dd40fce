import ExpresSync.Foundation.EventStream
import ExpresSync.Model.EventBus
import ExpresSync.Model.Types

/-!
# A stream that is resumed

A client of `openSseStream` (`sse.ts`) gets the events of one worker's bus while it is connected.
When it comes back it presents the number of the last event it has got, and the stream starts with
what the bus replays after that number.  Between the two worker processes publish as they like.

No event is dropped because the client is slow.
-/

namespace ExpresSync

variable {P : Type*}

/-- What a stream is opened with; `none` subscribes to all types. -/
structure SseStreamOptions (P : Type*) where
  types : Option (List EventBusEventType)
  filter : DeliveredEvent P → Bool
  types_ne : types ≠ some []

/-- The subscription lets the event through, and the filter does. -/
def SseStreamOptions.wants (opts : SseStreamOptions P) (e : DeliveredEvent P) : Bool :=
  (opts.types.all fun types => types.contains e.type) && opts.filter e

/-- The workers, and a client of the worker `home`. -/
structure SseWorld (P : Type*) extends BusNetwork P where
  home : String
  opts : SseStreamOptions P
  connected : Bool
  /-- Events that have been written to the stream and not received. -/
  wire : List (DeliveredEvent P)
  received : List (DeliveredEvent P)
  /-- The events for the client that its worker has got since it last connected anew. -/
  since : List (DeliveredEvent P)

inductive SseAction (P : Type*) where
  | waits (ms : ℕ)
  | publishes (worker : String) (type : EventBusEventType) (payload : P)
  | hears (worker source : String)
  | connects
  | receives
  | disconnects

namespace SseWorld

/-- No event has been published. -/
def initial (now : ℕ) (home : String) (opts : SseStreamOptions P) : SseWorld P where
  toBusNetwork := .initial now
  home := home
  opts := opts
  connected := false
  wire := []
  received := []
  since := []

variable (bytes : DeliveredEvent P → ℕ) (w : SseWorld P)

/-- The `Last-Event-ID` that the client presents; 0 when it has none. -/
def lastEventId : ℕ := (w.received.getLast?.map DeliveredEvent.seq).getD 0

/-- A worker hands an event to its subscribers. -/
def fanOut (worker : String) (e : DeliveredEvent P) : SseWorld P :=
  let forClient := decide (worker = w.home) && w.opts.wants e
  { w with
    wire := if forClient && w.connected then w.wire ++ [e] else w.wire
    since := if forClient then w.since ++ [e] else w.since }

/-- What a new stream starts with. -/
def prologue : List (DeliveredEvent P) :=
  if w.lastEventId > 0 then
    ((w.bus w.home).replay w.lastEventId w.now (w.opts.types.getD [])).filter w.opts.filter
  else []

/-- A new stream; without a `Last-Event-ID` nothing from before it is for the client. -/
def connect : SseWorld P :=
  { w with
    connected := true
    wire := w.prologue
    since := if w.lastEventId > 0 then w.since else [] }

def step : SseAction P → Option (SseWorld P)
  | .waits ms => some { w with now := w.now + ms }
  | .publishes worker type payload =>
      some ({ w with toBusNetwork := w.publish bytes worker type payload }.fanOut worker
        (w.nextEvent worker type payload))
  | .hears worker source =>
      (w.nextHeard worker source).bind fun e =>
        let w' := { w with toBusNetwork := w.hear worker source e }
        if w.isHanded worker e then some (w'.fanOut worker e) else some w'
  | .connects => if w.connected then none else some w.connect
  | .receives =>
      match w.wire with
      | [] => none
      | e :: rest => some { w with wire := rest, received := w.received ++ [e] }
  | .disconnects => if w.connected then some { w with connected := false, wire := [] } else none

end SseWorld

/-!
## A client that reads slowly

`openSseStream` with its writes (`sse.ts`): a frame is pending until the stream has taken it, and an
event is dropped when `SSE_MAX_PENDING_PER_CLIENT` frames are.  The retry hint and the heartbeats
count like events, but are never dropped.
-/

variable {P : Type*}

inductive SseFrame (P : Type*) where
  | retry
  | heartbeat
  | event (e : DeliveredEvent P)
deriving DecidableEq

/-- The event of a frame; the other frames have no `id`. -/
def SseFrame.event? : SseFrame P → Option (DeliveredEvent P)
  | .event e => some e
  | _ => none

/-- The workers, and a client of the worker `home`. -/
structure SlowSseWorld (P : Type*) extends BusNetwork P where
  home : String
  opts : SseStreamOptions P
  /-- `SSE_MAX_PENDING_PER_CLIENT` -/
  maxPending : ℕ
  connected : Bool
  /-- The client has been connected. -/
  known : Bool
  /-- Frames that have been written, and that the client has not received. -/
  wire : List (SseFrame P)
  /-- How many of the last of them the stream has not taken. -/
  pendingWrites : ℕ
  received : List (DeliveredEvent P)
  /-- The events for the client that its worker has got since it first connected. -/
  since : List (DeliveredEvent P)

inductive SlowSseAction (P : Type*) where
  | waits (ms : ℕ)
  | publishes (worker : String) (type : EventBusEventType) (payload : P)
  | hears (worker source : String)
  | connects
  | heartbeats
  /-- A write of the stream completes. -/
  | completes
  | receives
  /-- The client goes, a write fails, or the stream is closed as idle. -/
  | disconnects

namespace SlowSseWorld

/-- No event has been published. -/
def initial (now : ℕ) (home : String) (opts : SseStreamOptions P) (maxPending : ℕ) :
    SlowSseWorld P where
  toBusNetwork := .initial now
  home := home
  opts := opts
  maxPending := maxPending
  connected := false
  known := false
  wire := []
  pendingWrites := 0
  received := []
  since := []

variable (bytes : DeliveredEvent P → ℕ) (w : SlowSseWorld P)

/-- `Last-Event-ID`; 0 when the client has none. -/
def lastEventId : ℕ := (w.received.getLast?.map DeliveredEvent.seq).getD 0

def writeRaw (frame : SseFrame P) : SlowSseWorld P :=
  { w with wire := w.wire ++ [frame], pendingWrites := w.pendingWrites + 1 }

def writeEvent (e : DeliveredEvent P) : SlowSseWorld P :=
  if w.pendingWrites ≥ w.maxPending then w else w.writeRaw (.event e)

/-- A worker hands an event to its subscribers. -/
def fanOut (worker : String) (e : DeliveredEvent P) : SlowSseWorld P :=
  if decide (worker = w.home) && w.opts.wants e then
    let w' := { w with since := if w.known then w.since ++ [e] else w.since }
    if w.connected then w'.writeEvent e else w'
  else w

/-- What the bus replays to a new stream. -/
def replayed : List (DeliveredEvent P) :=
  if w.lastEventId > 0 then
    ((w.bus w.home).replay w.lastEventId w.now (w.opts.types.getD [])).filter w.opts.filter
  else []

/-- A new stream, after its prologue. -/
def connect : SlowSseWorld P :=
  w.replayed.foldl writeEvent
    ({ w with connected := true, known := true, wire := [], pendingWrites := 0 }.writeRaw .retry)

def step : SlowSseAction P → Option (SlowSseWorld P)
  | .waits ms => some { w with now := w.now + ms }
  | .publishes worker type payload =>
      some ({ w with toBusNetwork := w.publish bytes worker type payload }.fanOut worker
        (w.nextEvent worker type payload))
  | .hears worker source =>
      (w.nextHeard worker source).bind fun e =>
        let w' := { w with toBusNetwork := w.hear worker source e }
        if w.isHanded worker e then some (w'.fanOut worker e) else some w'
  | .connects => if w.connected then none else some w.connect
  | .heartbeats => if w.connected then some (w.writeRaw .heartbeat) else none
  | .completes =>
      if w.pendingWrites = 0 then none else some { w with pendingWrites := w.pendingWrites - 1 }
  | .receives =>
      match w.wire with
      | [] => none
      | frame :: rest =>
          -- a frame that the stream has not taken cannot be received
          if rest.length < w.pendingWrites then none
          else some { w with wire := rest, received := w.received ++ frame.event?.toList }
  | .disconnects =>
      if w.connected then some { w with connected := false, wire := [], pendingWrites := 0 }
      else none

end SlowSseWorld

/-!
## The text of a stream

What `openSseStream` writes for a frame, and what `parseLastEventId` makes of the header that a
client presents.
-/

/-- What `JSON.stringify` returns: a text on one line, as it escapes line breaks. -/
structure JsonLine where
  text : String
  inLine : ∀ c ∈ text.toList, InLine c

def EventBusEventType.text : EventBusEventType → String
  | notificationCreated => "notification.created"
  | notificationRead => "notification.read"
  | invoiceUpdated => "invoice.updated"
  | chargerState => "charger.state"
  | transactionMeter => "transaction.meter"
  | transactionBilling => "transaction.billing"
  | tagSeen => "tag.seen"
  | scanIntercepted => "scan.intercepted"
  | txStarted => "tx.started"
  | syncCompleted => "sync.completed"
  | heartbeat => "heartbeat"
  | deviceScanRequested => "device.scan.requested"
  | deviceScanCompleted => "device.scan.completed"
  | deviceScanCancelled => "device.scan.cancelled"
  | deviceSessionReplaced => "device.session.replaced"
  | deviceTokenRevoked => "device.token.revoked"
  | deviceCapabilitiesChanged => "device.capabilities.changed"
  | deviceSettingsChanged => "device.settings.changed"
  | deviceFeatureFlagsChanged => "device.feature-flags.changed"
  | deviceLogsAppended => "device.logs.appended"

/-- The JSON of a heartbeat at the time `ts`. -/
def heartbeatData (ts : ℕ) : String := s!"\x7b\"ts\":{ts}\x7d"

variable (stringify : P → JsonLine)

/-- A frame as it is written at the time `ts`. -/
def SseFrame.text (ts : ℕ) : SseFrame P → String
  | .retry => "retry: 5000\n\n"
  | .heartbeat => s!"event: heartbeat\ndata: {heartbeatData ts}\n\n"
  | .event e => s!"id: {e.seq}\nevent: {e.type.text}\ndata: {(stringify e.payload).text}\n\n"

/-- All that is written to a stream: frames, with the times at which they are written. -/
def streamText (frames : List (SseFrame P × ℕ)) : List Char :=
  frames.flatMap fun frame => (frame.1.text stringify frame.2).toList

/-- `raw` is the header `Last-Event-ID`. -/
def parseLastEventId (raw : Option String) : ℕ :=
  if truthy raw then
    match parseInt (raw.getD "") with
    | some n => if n > 0 then n.toNat else 0
    | none => 0
  else 0

end ExpresSync
