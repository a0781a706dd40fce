import Mathlib.Data.List.Basic
import Mathlib.Logic.Function.Basic

/-!
# The event bus

`event-bus.service.ts`: every worker process has a bus that numbers the events it publishes, keeps
the last ones for clients that come back, and hands each to its subscribers.  With the `postgres`
transport the buses hear each other's events through `NOTIFY`, as `PostgresNotifyTransport` of
`sse-transport.ts` sends them.

`P` is the payload of an event; times are milliseconds.
-/

namespace ExpresSync

inductive EventBusEventType where
  | notificationCreated
  | notificationRead
  | invoiceUpdated
  | chargerState
  | transactionMeter
  | transactionBilling
  | tagSeen
  | scanIntercepted
  | txStarted
  | syncCompleted
  | heartbeat
  | deviceScanRequested
  | deviceScanCompleted
  | deviceScanCancelled
  | deviceSessionReplaced
  | deviceTokenRevoked
  | deviceCapabilitiesChanged
  | deviceSettingsChanged
  | deviceFeatureFlagsChanged
  | deviceLogsAppended
deriving DecidableEq

structure DeliveredEvent (P : Type*) where
  seq : ℕ
  ts : ℕ
  type : EventBusEventType
  payload : P
  /-- The worker that has published the event. -/
  workerId : String
deriving DecidableEq

inductive TransportKind where
  | memory
  | postgres
deriving DecidableEq

/-- `BUFFER_WINDOW_MS` -/
def bufferWindowMs : ℕ := 60000

/-- `BUFFER_MAX` -/
@[irreducible] def bufferMax : ℕ := 2000

/-- `NOTIFY_MAX_PAYLOAD_BYTES` -/
def notifyMaxPayloadBytes : ℕ := 7000

/-- The bus of a worker, its subscribers apart. -/
structure EventBus (P : Type*) where
  seq : ℕ
  buffer : List (DeliveredEvent P)
deriving DecidableEq

variable {P : Type*}

/-- The event is too old to be kept or replayed at `now`. -/
def DeliveredEvent.IsOld (e : DeliveredEvent P) (now : ℕ) : Prop := e.ts + bufferWindowMs < now

instance (e : DeliveredEvent P) (now : ℕ) : Decidable (e.IsOld now) :=
  inferInstanceAs (Decidable (_ < _))

/-- Old events are dropped from the head, and then what is too many. -/
def trimBuffer (now : ℕ) (buffer : List (DeliveredEvent P)) : List (DeliveredEvent P) :=
  let recent := buffer.dropWhile fun e => e.IsOld now
  recent.drop (recent.length - bufferMax)

namespace EventBus

def initial : EventBus P := ⟨0, []⟩

variable (bus : EventBus P)

def push (now : ℕ) (e : DeliveredEvent P) : EventBus P :=
  { bus with buffer := trimBuffer now (bus.buffer ++ [e]) }

/-- The event that `publish` makes. -/
def nextEvent (workerId : String) (now : ℕ) (type : EventBusEventType) (payload : P) :
    DeliveredEvent P :=
  ⟨bus.seq + 1, now, type, payload, workerId⟩

/-- The bus after `publish`; the event is handed to the subscribers, and to the transport. -/
def publish (workerId : String) (now : ℕ) (type : EventBusEventType) (payload : P) : EventBus P :=
  { bus with seq := bus.seq + 1 }.push now (bus.nextEvent workerId now type payload)

/-- The bus after an event from the transport, and whether it hands it to its subscribers. -/
def onTransportEvent (kind : TransportKind) (workerId : String) (now : ℕ) (e : DeliveredEvent P) :
    EventBus P × Bool :=
  match kind with
  | .postgres => if e.workerId = workerId then (bus, false) else (bus.push now e, true)
  | .memory => (bus, true)

/-- The events after `afterSeq` that are kept; no types stand for all of them. -/
def replay (afterSeq now : ℕ) (types : List EventBusEventType) : List (DeliveredEvent P) :=
  bus.buffer.filter fun e =>
    decide (e.seq > afterSeq) && !decide (e.IsOld now) && (types.isEmpty || types.contains e.type)

end EventBus

/-! ## A process alone -/

/-- An event that is published, with the clock as it is read for it and then to trim the buffer. -/
structure Publication (P : Type*) where
  type : EventBusEventType
  payload : P
  ts : ℕ
  trimmedAt : ℕ
deriving DecidableEq

/-- The bus after `publish` with the in-memory transport, which hands the event back at once. -/
def EventBus.publishInProcess (workerId : String) (bus : EventBus P) (p : Publication P) :
    EventBus P :=
  let e := bus.nextEvent workerId p.ts p.type p.payload
  (({ bus with seq := bus.seq + 1 }.push p.trimmedAt e).onTransportEvent
    .memory workerId p.trimmedAt e).1

/-! ## The buses of all workers -/

/-- The worker processes of a deployment; events that are too long are not sent to the others. -/
structure BusNetwork (P : Type*) where
  now : ℕ
  bus : String → EventBus P
  /-- The payloads that a worker has sent, in order. -/
  notified : String → List (DeliveredEvent P)
  /-- How many of another worker's payloads a worker has got. -/
  heard : String → String → ℕ

namespace BusNetwork

/-- No event has been published. -/
def initial (now : ℕ) : BusNetwork P := ⟨now, fun _ => .initial, fun _ => [], fun _ _ => 0⟩

variable (net : BusNetwork P)

/-- The next event of a worker. -/
def nextEvent (worker : String) (type : EventBusEventType) (payload : P) : DeliveredEvent P :=
  (net.bus worker).nextEvent worker net.now type payload

/-- A worker publishes its next event; `bytes` is the length of an event's payload. -/
def publish (bytes : DeliveredEvent P → ℕ) (worker : String) (type : EventBusEventType)
    (payload : P) : BusNetwork P :=
  let e := net.nextEvent worker type payload
  { net with
    bus := Function.update net.bus worker ((net.bus worker).publish worker net.now type payload)
    notified :=
      if bytes e > notifyMaxPayloadBytes then net.notified
      else Function.update net.notified worker (net.notified worker ++ [e]) }

/-- The next payload of `source` that a worker gets. -/
def nextHeard (worker source : String) : Option (DeliveredEvent P) :=
  (net.notified source)[net.heard worker source]?

/-- A worker gets the payload `e` of `source`. -/
def hear (worker source : String) (e : DeliveredEvent P) : BusNetwork P :=
  { net with
    bus := Function.update net.bus worker
      ((net.bus worker).onTransportEvent .postgres worker net.now e).1
    heard := Function.update net.heard worker
      (Function.update (net.heard worker) source (net.heard worker source + 1)) }

/-- Whether the worker hands the payload to its subscribers. -/
def isHanded (worker : String) (e : DeliveredEvent P) : Bool :=
  ((net.bus worker).onTransportEvent .postgres worker net.now e).2

end BusNetwork

end ExpresSync

/-!
# Delivery to the subscribers of a bus

`fanOut` of `event-bus.service.ts`: an event is handed to one subscription after the other, in the
order in which they have been made, while `publish` waits.  A handler may publish, subscribe and
unsubscribe, so that deliveries nest; each goes over the subscriptions as they are when it goes on.
-/

namespace ExpresSync

/-- `Subscription`; the numbers give the order in which they have been made. -/
structure BusSubscription where
  id : ℕ
  /-- `null` stands for all types. -/
  types : Option (List EventBusEventType)
deriving DecidableEq

/-- A loop of `fanOut`: the subscriptions before `next` have had their turn. -/
structure FanOut (P : Type*) where
  event : DeliveredEvent P
  next : ℕ

/-- What is known of an event from when it was published. -/
structure PublishedEvent (P : Type*) where
  event : DeliveredEvent P
  /-- The events that were being delivered. -/
  during : List (DeliveredEvent P)
  /-- The subscriptions that there were. -/
  subs : List BusSubscription
  /-- The subscriptions that have ended before their turn. -/
  left : List BusSubscription

/-- The bus of a process with its subscribers, between two calls of its handlers; the history is
what has been published, and what the subscribers have received. -/
structure DeliveryWorld (P : Type*) where
  bus : EventBus P
  /-- `subs`, and how many have been made. -/
  subs : List BusSubscription
  made : ℕ
  /-- The deliveries in progress, the innermost first; each but those that wait for an inner one
  is in a handler. -/
  loops : List (FanOut P)
  published : List (PublishedEvent P)
  received : List (BusSubscription × DeliveredEvent P)

inductive DeliveryAction (P : Type*) where
  | publishes (p : Publication P)
  | subscribes (types : Option (List EventBusEventType))
  | unsubscribes (id : ℕ)
  /-- The handler that runs returns, or throws. -/
  | returns

variable {P : Type*}

def BusSubscription.wants (sub : BusSubscription) (e : DeliveredEvent P) : Bool :=
  sub.types.all fun types => types.contains e.type

/-- The loop has still to get to the subscription. -/
def FanOut.Awaits (loop : FanOut P) (sub : BusSubscription) : Prop := loop.next ≤ sub.id

instance (loop : FanOut P) (sub : BusSubscription) : Decidable (loop.Awaits sub) :=
  inferInstanceAs (Decidable (_ ≤ _))

namespace DeliveryWorld

def initial : DeliveryWorld P := ⟨.initial, [], 0, [], [], []⟩

variable (w : DeliveryWorld P)

/-- The event is being delivered, and the turn of the subscription has not come. -/
def IsToCome (e : DeliveredEvent P) (sub : BusSubscription) : Prop :=
  sub ∈ w.subs ∧ ∃ loop ∈ w.loops, loop.event.seq = e.seq ∧ loop.Awaits sub

instance (e : DeliveredEvent P) (sub : BusSubscription) : Decidable (w.IsToCome e sub) :=
  inferInstanceAs (Decidable (_ ∧ _))

/-- The innermost loop goes on to the handler of the next subscription, or ends. -/
def proceed : DeliveryWorld P :=
  match w.loops with
  | [] => w
  | loop :: outer =>
      match w.subs.find? fun sub => decide (loop.Awaits sub) && sub.wants loop.event with
      | none => { w with loops := outer }
      | some sub =>
          { w with
            loops := { loop with next := sub.id + 1 } :: outer
            received := w.received ++ [(sub, loop.event)] }

/-- `publish`, up to the loop over the subscriptions. -/
def begin (workerId : String) (p : Publication P) : DeliveryWorld P :=
  let e := w.bus.nextEvent workerId p.ts p.type p.payload
  { w with
    bus := w.bus.publishInProcess workerId p
    loops := ⟨e, 0⟩ :: w.loops
    published := w.published ++ [⟨e, w.loops.map FanOut.event, w.subs, []⟩] }

def subscribe (types : Option (List EventBusEventType)) : DeliveryWorld P :=
  { w with subs := w.subs ++ [⟨w.made, types⟩], made := w.made + 1 }

def unsubscribe (id : ℕ) : DeliveryWorld P :=
  { w with
    subs := w.subs.filter fun sub => sub.id ≠ id
    published := w.published.map fun pub =>
      { pub with left := pub.left ++ w.subs.filter fun sub =>
          sub.id = id ∧ w.IsToCome pub.event sub } }

def step (workerId : String) (w : DeliveryWorld P) : DeliveryAction P → Option (DeliveryWorld P)
  | .publishes p => some (w.begin workerId p).proceed
  | .subscribes types => some (w.subscribe types)
  | .unsubscribes id => some (w.unsubscribe id)
  | .returns => if w.loops.isEmpty then none else some w.proceed

end DeliveryWorld

end ExpresSync
