import ExpresSync.Model.TagPatterns

/-!
# The shared subscriber of the log

`docker-log-subscriber.ts`: one stream of StEvE's log is read for all subscribers.  The first of
them starts it, and the loop that reads it leaves when it gets a line after the last has gone.
-/

namespace ExpresSync

inductive ScanLogEventType where
  | reject
  | startTx
deriving DecidableEq

structure ScanLogEvent where
  type : ScanLogEventType
  idTag : Option String
  chargeBoxId : Option String
  transactionId : Option ℕ
  t : ℕ
  rawLine : String
deriving DecidableEq

/-- The payload of `tx.started`. -/
structure TxStarted where
  chargeBoxId : String
  idTag : Option String
  transactionId : ℕ
  t : ℕ
deriving DecidableEq

/-- The line, or its first 500 characters. -/
def truncatedLine (line : String) : String := String.ofList (line.toList.take 500)

/-- What a line that is read at `now` is dispatched as, if it is, and what is published for it. -/
def lineEvent (line : String) (now : ℕ) : Option (ScanLogEvent × Option TxStarted) :=
  let chargeBoxId := extractChargeBoxId line
  -- An empty string is falsy.
  match (extractRejectedTag line).filter (· ≠ "") with
  | some rejectedTag =>
      some (⟨.reject, some rejectedTag, chargeBoxId, none, now, truncatedLine line⟩, none)
  | none =>
      match extractStartTransaction line, chargeBoxId.filter (· ≠ "") with
      | some startTx, some box =>
          some (⟨.startTx, startTx.idTag, some box, some startTx.transactionId, now,
              truncatedLine line⟩,
            some ⟨box, startTx.idTag, startTx.transactionId, now⟩)
      | _, _ => none

structure Subscriber where
  /-- The number of its subscription. -/
  id : ℕ
  hasOnError : Bool
deriving DecidableEq

/-- What `runStream` awaits. -/
inductive StreamLoop where
  | idle
  | awaitsLine
  /-- The loop has been left, and the stream is being closed. -/
  | awaitsReturn
deriving DecidableEq

/-- The state of the module, and what has come of it. -/
structure LogSubscriber where
  subscribers : List Subscriber
  streamRunning : Bool
  stopRequested : Bool
  loop : StreamLoop
  /-- The number of subscriptions so far. -/
  subscriptions : ℕ
  delivered : List (ℕ × ScanLogEvent)
  /-- The messages that subscribers have been told of. -/
  errors : List (ℕ × String)
  published : List TxStarted
deriving DecidableEq

/-- `leaving` are the subscribers whose handlers detach them. -/
inductive LogAction where
  | subscribes (dockerAvailable hasOnError : Bool)
  | unsubscribes (i : ℕ)
  | yields (line : String) (now : ℕ) (leaving : List ℕ)
  | throws (message : String) (leaving : List ℕ)
  | ends
  /-- The stream that the loop has left is closed. -/
  | returns
deriving DecidableEq

namespace LogSubscriber

def initial : LogSubscriber := ⟨[], false, false, .idle, 0, [], [], []⟩

variable (s : LogSubscriber)

/-- `unsubscribe` of the subscription `i`; it has been detached when it is not there. -/
def unsubscribe (i : ℕ) : LogSubscriber :=
  if s.subscribers.any (·.id = i) then
    let rest := s.subscribers.filter (·.id ≠ i)
    { s with
      subscribers := rest
      stopRequested := if rest.isEmpty then true else s.stopRequested }
  else s

/-- The state after a handler of a subscriber. -/
def afterHandler (leaving : List ℕ) (sub : Subscriber) : LogSubscriber :=
  if leaving.contains sub.id then s.unsubscribe sub.id else s

def dispatch (leaving : List ℕ) (event : ScanLogEvent) : LogSubscriber :=
  s.subscribers.foldl (fun s sub =>
    { s with delivered := s.delivered ++ [(sub.id, event)] }.afterHandler leaving sub) s

def dispatchError (leaving : List ℕ) (message : String) : LogSubscriber :=
  s.subscribers.foldl (fun s sub =>
    if sub.hasOnError then
      { s with errors := s.errors ++ [(sub.id, message)] }.afterHandler leaving sub
    else s) s

/-- `runStream` until it awaits the first line. -/
def runStream : LogSubscriber :=
  if s.streamRunning then s
  else { s with streamRunning := true, stopRequested := false, loop := .awaitsLine }

/-- The end of `runStream`. -/
def finish : LogSubscriber :=
  { s with streamRunning := false, stopRequested := false, loop := .idle }

/-- The rest of `subscribe` when Docker is there. -/
def subscribe (hasOnError : Bool) : LogSubscriber :=
  let attached := { s with
    subscribers := s.subscribers ++ [⟨s.subscriptions, hasOnError⟩]
    subscriptions := s.subscriptions + 1 }
  if s.streamRunning then attached else attached.runStream

/-- The body of the loop. -/
def handleLine (line : String) (now : ℕ) (leaving : List ℕ) : LogSubscriber :=
  if s.stopRequested || s.subscribers.isEmpty then { s with loop := .awaitsReturn }
  else
    match lineEvent line now with
    | none => s
    | some (event, txStarted) =>
        { s with published := s.published ++ txStarted.toList }.dispatch leaving event

def step : LogAction → Option LogSubscriber
  | .subscribes dockerAvailable hasOnError =>
      some (if dockerAvailable then s.subscribe hasOnError else s)
  | .unsubscribes i => some (s.unsubscribe i)
  | .yields line now leaving =>
      if s.loop = .awaitsLine then some (s.handleLine line now leaving) else none
  | .throws message leaving =>
      if s.loop ≠ .idle then some (s.dispatchError leaving message).finish else none
  | .ends => if s.loop = .awaitsLine then some s.finish else none
  | .returns => if s.loop = .awaitsReturn then some s.finish else none

end LogSubscriber

end ExpresSync
