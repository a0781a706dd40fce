import ExpresSync.Foundation.KeyedLog
import ExpresSync.Model.Types

/-!
# Idempotency keys

`withIdempotency` of `idempotency.ts`: a request with an `Idempotency-Key` header looks for the
response stored under its key, runs the handler when there is none, and stores what the handler
returns.  Between these three a request waits, so several of one key can be in flight.  Requests
that have no key, or one that is too long, have nothing to do with the table.

`β` is the body of a response; a body that is stored comes back as the same JSON value.
-/

namespace ExpresSync

/-- `TTL_MS` -/
def idempotencyTtlMs : ℕ := 24 * 60 * 60 * 1000

structure IdempotentRequest where
  key : String
  route : String
  userId : Option String
deriving DecidableEq

/-- How a request with this header is treated. -/
inductive KeyHeader where
  /-- The handler runs as if there were no keys. -/
  | absent
  /-- 400 -/
  | tooLong
  | key (key : String)
deriving DecidableEq

def readKeyHeader : Option String → KeyHeader
  | none => .absent
  | some header =>
      let trimmed := trimChars header.toList
      if trimmed = [] then .absent
      else if 200 < trimmed.length then .tooLong
      else .key (String.ofList trimmed)

section

variable (β : Type*)

/-- What a handler returns. -/
structure HandlerResponse where
  status : ℕ
  /-- It says that it is JSON, and its body is. -/
  isJson : Bool
  body : β
deriving DecidableEq

/-- A row of `idempotency_keys`. -/
structure IdempotencyRow where
  key : String
  route : String
  userId : Option String
  responseStatus : ℕ
  responseBody : β
  createdAt : ℕ
deriving DecidableEq

inductive IdempotencyAnswer where
  /-- `idempotency_key_too_long`, 400 -/
  | keyTooLong
  /-- `idempotency_key_route_mismatch`, 409 -/
  | routeMismatch
  /-- `idempotency_key_owner_mismatch`, 409 -/
  | ownerMismatch
  | responds (status : ℕ) (body : β)
deriving DecidableEq

/-- What a request waits for. -/
inductive IdempotencyPoint where
  | lookup
  /-- The handler is running; `cached` is false when the look-up has failed. -/
  | handler (cached : Bool)
  | insert (response : HandlerResponse β)
deriving DecidableEq

structure IdempotentCall where
  request : IdempotentRequest
  point : IdempotencyPoint β
deriving DecidableEq

end

/-- How the handler ends. -/
inductive HandlerResult (β : Type*) where
  | throws
  | returns (response : HandlerResponse β)
deriving DecidableEq

structure IdempotencyWorld (β : Type*) where
  now : ℕ
  rows : KeyedLog (IdempotencyRow.key (β := β))
  calls : List (IdempotentCall β)
  /-- The requests whose handler has started. -/
  started : List IdempotentRequest
  /-- The requests whose handler has ended without a row being stored for it. -/
  unstored : List IdempotentRequest
  /-- What handlers have returned. -/
  returned : List (IdempotentRequest × HandlerResponse β)
  answers : List (IdempotentRequest × IdempotencyAnswer β)

inductive IdempotencyAction (β : Type*) where
  | waits (ms : ℕ)
  | posts (header : Option String) (route : String) (userId : Option String)
  | looksUp (i : ℕ) (fails : Bool)
  | handlerEnds (i : ℕ) (result : HandlerResult β)
  | inserts (i : ℕ) (fails : Bool)
  /-- `pruneExpiredIdempotencyKeys` -/
  | prunes

section

variable {β : Type*}

/-- The answer from a stored row. -/
def IdempotencyRow.answer (request : IdempotentRequest) (row : IdempotencyRow β) :
    IdempotencyAnswer β :=
  if row.route ≠ request.route then .routeMismatch
  else if row.userId ≠ request.userId then .ownerMismatch
  else .responds row.responseStatus row.responseBody

/-- The row that is stored for a response. -/
def IdempotentRequest.row (request : IdempotentRequest) (response : HandlerResponse β) (now : ℕ) :
    IdempotencyRow β where
  key := request.key
  route := request.route
  userId := request.userId
  responseStatus := response.status
  responseBody := response.body
  createdAt := now

/-- The row is old enough to be pruned. -/
def IdempotencyRow.isExpired (now : ℕ) (row : IdempotencyRow β) : Bool :=
  decide (row.createdAt + idempotencyTtlMs < now)

namespace IdempotencyWorld

def initial : IdempotencyWorld β := ⟨0, .empty, [], [], [], [], []⟩

variable (w : IdempotencyWorld β)

/-- The request `i` goes on to `point`. -/
def advance (i : ℕ) (request : IdempotentRequest) (point : IdempotencyPoint β) :
    IdempotencyWorld β :=
  { w with calls := w.calls.eraseIdx i ++ [⟨request, point⟩] }

/-- The request `i` is answered. -/
def answer (i : ℕ) (request : IdempotentRequest) (answer : IdempotencyAnswer β) :
    IdempotencyWorld β :=
  { w with calls := w.calls.eraseIdx i, answers := w.answers ++ [(request, answer)] }

/-- The handler of the request `i` starts. -/
def startHandler (i : ℕ) (request : IdempotentRequest) (cached : Bool) : IdempotencyWorld β :=
  { w.advance i request (.handler cached) with started := w.started ++ [request] }

/-- The handler of the request `i` has ended. -/
def endHandler (i : ℕ) (request : IdempotentRequest) (cached : Bool) :
    HandlerResult β → IdempotencyWorld β
  | .throws => { w with calls := w.calls.eraseIdx i, unstored := w.unstored ++ [request] }
  | .returns response =>
      let w := { w with returned := w.returned ++ [(request, response)] }
      if cached && response.isJson then w.advance i request (.insert response)
      else
        { w.answer i request (.responds response.status response.body) with
          unstored := w.unstored ++ [request] }

/-- The response of the request `i` is stored, unless that fails or its key is taken. -/
def store (i : ℕ) (request : IdempotentRequest) (response : HandlerResponse β) (fails : Bool) :
    IdempotencyWorld β :=
  let w := w.answer i request (.responds response.status response.body)
  if fails || decide (w.rows.Has request.key) then { w with unstored := w.unstored ++ [request] }
  else { w with rows := w.rows.record (request.row response w.now) }

def step : IdempotencyAction β → Option (IdempotencyWorld β)
  | .waits ms => some { w with now := w.now + ms }
  | .posts header route userId =>
      match readKeyHeader header with
      | .key key => some { w with calls := w.calls ++ [⟨⟨key, route, userId⟩, .lookup⟩] }
      -- No row is looked for.
      | .absent | .tooLong => none
  | .looksUp i fails =>
      w.calls[i]?.bind fun call =>
        match call.point with
        | .lookup =>
            if fails then some (w.startHandler i call.request false)
            else
              match w.rows.get? call.request.key with
              | some row => some (w.answer i call.request (row.answer call.request))
              | none => some (w.startHandler i call.request true)
        | _ => none
  | .handlerEnds i result =>
      w.calls[i]?.bind fun call =>
        match call.point with
        | .handler cached => some (w.endHandler i call.request cached result)
        | _ => none
  | .inserts i fails =>
      w.calls[i]?.bind fun call =>
        match call.point with
        | .insert response => some (w.store i call.request response fails)
        | _ => none
  | .prunes => some { w with rows := w.rows.remove (IdempotencyRow.isExpired w.now) }

end IdempotencyWorld

end

end ExpresSync
