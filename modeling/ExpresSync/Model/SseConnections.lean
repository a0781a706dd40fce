import ExpresSync.Model.EventBus
import Mathlib.Data.List.Basic
import Mathlib.Logic.Function.Basic

/-!
# The connections of a process

All streams that `openSseStream` (`sse.ts`) has opened in a process, with the counter that they
share and what each of them holds: a subscription of the event bus and two timers.  A write is
started by the process and settles later.
-/

namespace ExpresSync

variable {P : Type*}

/-- `MAX_CONNECTIONS` -/
def maxConnections : ℕ := 100

/-- `IDLE_TIMEOUT_MS` -/
def idleTimeoutMs : ℕ := 5 * 60000

/-- What `openSseStream` is called with. -/
structure SseOpening (P : Type*) where
  types : Option (List EventBusEventType)
  filter : DeliveredEvent P → Bool
  /-- 0 for none. -/
  lastEventId : ℕ
  /-- The signal has been aborted. -/
  aborted : Bool

/-- Whether a stream has been closed, and what it holds. -/
structure SseResources where
  closed : Bool
  subscribed : Bool
  heartbeatTimer : Bool
  idleTimer : Bool
deriving DecidableEq

namespace SseResources

def opened : SseResources := ⟨false, true, true, true⟩

/-- `clearInterval` for both timers, and `unsubscribe` -/
def release (r : SseResources) : SseResources :=
  { r with subscribed := false, heartbeatTimer := false, idleTimer := false }

def close (r : SseResources) : SseResources := { r with closed := true }

end SseResources

/-- A stream, with the variables of the call that has opened it. -/
structure SseConnection (P : Type*) where
  opening : SseOpening P
  resources : SseResources
  lastWriteTs : ℕ
  /-- The writes that have not settled. -/
  pendingWrites : ℕ
  eventsDelivered : ℕ
  eventsDropped : ℕ
  /-- The signal is listened to. -/
  listening : Bool

namespace SseConnection

variable (c : SseConnection P)

/-- The subscription is for events of that type. -/
def subscribesTo (e : DeliveredEvent P) : Bool :=
  c.resources.subscribed && c.opening.types.all fun types => types.contains e.type

/-- `writeRaw`, up to the `await`. -/
def writeRaw : SseConnection P :=
  if c.resources.closed then c else { c with pendingWrites := c.pendingWrites + 1 }

def writeEvent (maxPending : ℕ) : SseConnection P :=
  if c.pendingWrites ≥ maxPending then { c with eventsDropped := c.eventsDropped + 1 }
  else { c with eventsDelivered := c.eventsDelivered + 1 }.writeRaw

/-- The handler of the subscription. -/
def handle (maxPending : ℕ) (e : DeliveredEvent P) : SseConnection P :=
  if c.opening.filter e then c.writeEvent maxPending else c

end SseConnection

/-- A process with its bus. -/
structure SseProcess (P : Type*) where
  workerId : String
  /-- `SSE_MAX_PENDING_PER_CLIENT` -/
  maxPending : ℕ
  now : ℕ
  bus : EventBus P
  openConnections : ℕ
  connections : List (SseConnection P)

inductive SseProcessAction (P : Type*) where
  | waits (ms : ℕ)
  | publishes (type : EventBusEventType) (payload : P)
  /-- An event of another process. -/
  | hears (e : DeliveredEvent P)
  | opens (opening : SseOpening P)
  /-- A write to the connection `i` settles. -/
  | settles (i : ℕ) (ok : Bool)
  | heartbeats (i : ℕ)
  | idles (i : ℕ)
  /-- The client of the connection `i` goes. -/
  | aborts (i : ℕ)

namespace SseProcess

def initial (workerId : String) (maxPending now : ℕ) : SseProcess P where
  workerId := workerId
  maxPending := maxPending
  now := now
  bus := .initial
  openConnections := 0
  connections := []

variable (w : SseProcess P)

/-- The connection `i` is changed. -/
def modify (i : ℕ) (f : SseConnection P → SseConnection P) : SseProcess P :=
  { w with connections := w.connections.modify i f }

def safeClose (i : ℕ) : SseProcess P :=
  match w.connections[i]? with
  | none => w
  | some c =>
      if c.resources.closed then w
      else { w with openConnections := w.openConnections - 1 }.modify i fun c =>
        { c with resources := c.resources.close }

def cleanup (i : ℕ) : SseProcess P :=
  (w.modify i fun c => { c with resources := c.resources.release }).safeClose i

/-- The bus hands an event to its subscribers. -/
def fanOut (e : DeliveredEvent P) : SseProcess P :=
  { w with connections := w.connections.map fun c =>
      if c.subscribesTo e then c.handle w.maxPending e else c }

/-- What the bus replays to a connection. -/
def replayed (opening : SseOpening P) : List (DeliveredEvent P) :=
  if opening.lastEventId > 0 then
    w.bus.replay opening.lastEventId w.now (opening.types.getD [])
  else []

/-- A connection after its prologue, with its subscription and timers. -/
def connection (opening : SseOpening P) : SseConnection P :=
  let c : SseConnection P := ⟨opening, .opened, w.now, 0, 0, 0, !opening.aborted⟩
  (w.replayed opening).foldl (fun c e => c.handle w.maxPending e) c.writeRaw

def openSseStream (opening : SseOpening P) : SseProcess P :=
  if w.openConnections ≥ maxConnections then w
  else
    let w' : SseProcess P :=
      { w with
        openConnections := w.openConnections + 1
        connections := w.connections ++ [w.connection opening] }
    if opening.aborted then w'.cleanup w.connections.length else w'

/-- The rest of `writeRaw`, after the `await`. -/
def settle (i : ℕ) (ok : Bool) : SseProcess P :=
  (if ok then w.modify i fun c => { c with lastWriteTs := w.now } else w.safeClose i).modify i
    fun c => { c with pendingWrites := c.pendingWrites - 1 }

def step : SseProcessAction P → Option (SseProcess P)
  | .waits ms => some { w with now := w.now + ms }
  | .publishes type payload =>
      some ({ w with bus := w.bus.publish w.workerId w.now type payload }.fanOut
        (w.bus.nextEvent w.workerId w.now type payload))
  | .hears e => some ({ w with bus := w.bus.push w.now e }.fanOut e)
  | .opens opening => some (w.openSseStream opening)
  | .settles i ok =>
      (w.connections[i]?).bind fun c => if c.pendingWrites = 0 then none else some (w.settle i ok)
  | .heartbeats i =>
      (w.connections[i]?).bind fun c =>
        if c.resources.heartbeatTimer then
          if c.resources.closed then some w else some (w.modify i SseConnection.writeRaw)
        else none
  | .idles i =>
      (w.connections[i]?).bind fun c =>
        if c.resources.idleTimer then
          if c.resources.closed then some w
          else if c.lastWriteTs + idleTimeoutMs < w.now then some (w.cleanup i)
          else some w
        else none
  | .aborts i =>
      (w.connections[i]?).bind fun c =>
        if c.listening then some ((w.modify i fun c => { c with listening := false }).cleanup i)
        else none

end SseProcess

end ExpresSync

/-!
# The slots of an address

`GET /api/auth/scan-detect` and `GET /api/devices/scan-stream` each count the streams that they keep
open for an address.  A request reads the count, asks the database, and then writes what it has
read and one more; a stream gives its slot back when it is cleaned up.
-/

namespace ExpresSync

/-- `MAX_CONCURRENT_PER_IP` -/
def maxConcurrentPerIp : ℕ := 3

/-- The two routes; each has counters of its own. -/
inductive StreamRoute where
  | scanDetect
  | scanStream

/-- A request that waits for the database, with the count it has read. -/
structure SlotRequest where
  ip : String
  deviceId : String
  cur : ℕ
  free : cur < maxConcurrentPerIp

/-- A stream that has been opened. -/
structure SlotStream where
  ip : String
  deviceId : String
  closed : Bool

/-- What a process knows of the streams of a route. -/
structure SlotWorld where
  concurrentByIp : String → Option ℕ
  /-- The number of the stream that a device has at last opened. -/
  activeByDevice : String → Option ℕ
  requests : List SlotRequest
  streams : List SlotStream

inductive SlotAction where
  /-- A request reads the count of its address. -/
  | requests (ip deviceId : String)
  /-- The database has no pairing or device for the request `i`. -/
  | refuses (i : ℕ)
  /-- The request `i` opens its stream; `ok` says to which streams writing succeeds. -/
  | opens (i : ℕ) (ok : ℕ → Bool)
  /-- Something is written to the stream `i`. -/
  | writes (i : ℕ) (ok : Bool)
  /-- The stream `i` is cleaned up after a last event. -/
  | ends (i : ℕ) (ok : Bool)
  /-- The client of the stream `i` has gone, or its time is up. -/
  | leaves (i : ℕ)

def SlotStream.close (stream : SlotStream) : SlotStream := { stream with closed := true }

namespace SlotWorld

def initial : SlotWorld := ⟨fun _ => none, fun _ => none, [], []⟩

variable (w : SlotWorld)

/-- The counter of the address of a stream that gives its slot back. -/
def releaseSlot (ip : String) : Option ℕ :=
  let remaining := (w.concurrentByIp ip).getD 1 - 1
  if remaining = 0 then none else some remaining

/-- `safeEnqueue`: a stream that cannot be written to is closed. -/
def safeEnqueue (i : ℕ) (ok : Bool) : SlotWorld :=
  if ok then w else { w with streams := w.streams.modify i SlotStream.close }

/-- `cleanup`, of a stream that is not closed. -/
def cleanup (i : ℕ) : SlotWorld :=
  match w.streams[i]? with
  | none => w
  | some stream =>
      if stream.closed then w
      else
        { w with
          streams := w.streams.modify i SlotStream.close
          concurrentByIp :=
            Function.update w.concurrentByIp stream.ip (w.releaseSlot stream.ip)
          activeByDevice :=
            if w.activeByDevice stream.deviceId = some i then
              Function.update w.activeByDevice stream.deviceId none
            else w.activeByDevice }

def finish (i : ℕ) (ok : Bool) : SlotWorld := (w.safeEnqueue i ok).cleanup i

/-- The streams of a device, as far as they are subscribed. -/
def streamsOf (deviceId : String) : List ℕ :=
  (List.range w.streams.length).filter fun i =>
    w.streams[i]?.any fun stream => stream.deviceId = deviceId

/-- The last stream of the device is told that it is replaced, with all of its streams that are
open, and then aborted. -/
def kickOff (deviceId : String) (ok : ℕ → Bool) : SlotWorld :=
  match w.activeByDevice deviceId with
  | none => w
  | some previous =>
      ((w.streamsOf deviceId).foldl (fun w i => w.finish i (ok i)) w).cleanup previous

/-- The request reserves its slots. -/
def register (route : StreamRoute) (req : SlotRequest) : SlotWorld :=
  { w with
    concurrentByIp := Function.update w.concurrentByIp req.ip (some (req.cur + 1))
    activeByDevice :=
      match route with
      | .scanDetect => w.activeByDevice
      | .scanStream => Function.update w.activeByDevice req.deviceId (some w.streams.length)
    streams := w.streams ++ [⟨req.ip, req.deviceId, false⟩] }

/-- Only the stream of a device has one before it. -/
def makeRoom (route : StreamRoute) (req : SlotRequest) (ok : ℕ → Bool) : SlotWorld :=
  match route with
  | .scanDetect => w
  | .scanStream => w.kickOff req.deviceId ok

def openStream (route : StreamRoute) (req : SlotRequest) (ok : ℕ → Bool) : SlotWorld :=
  (w.makeRoom route req ok).register route req

/-- A request that finds too many streams is answered at once. -/
def request (ip deviceId : String) : SlotWorld :=
  let cur := (w.concurrentByIp ip).getD 0
  if h : cur < maxConcurrentPerIp then
    { w with requests := w.requests ++ [⟨ip, deviceId, cur, h⟩] }
  else w

def step (route : StreamRoute) (w : SlotWorld) : SlotAction → Option SlotWorld
  | .requests ip deviceId => some (w.request ip deviceId)
  | .refuses i => some { w with requests := w.requests.eraseIdx i }
  | .opens i ok =>
      w.requests[i]?.map fun req =>
        { w with requests := w.requests.eraseIdx i }.openStream route req ok
  | .writes i ok => some (w.safeEnqueue i ok)
  | .ends i ok => some (w.finish i ok)
  | .leaves i => some (w.cleanup i)

end SlotWorld

end ExpresSync
