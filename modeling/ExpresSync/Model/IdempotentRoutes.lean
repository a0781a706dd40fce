import ExpresSync.Model.Idempotency

/-!
# Who replays what

The handlers that are wrapped in `withIdempotency`, and who may call them.  What a handler passes on
is a constant of its own and `ctx.state.user?.id`; the sender of a request and the parameter in its
path are what it leaves out.  `ReplayWorld` is `IdempotencyWorld` together with these.
-/

namespace ExpresSync

/-! ## Principals -/

/-- Whoever sends a request. -/
inductive Principal where
  /-- With a session cookie. -/
  | user (id : String)
  /-- With the token of a device. -/
  | device (tokenId : String)
  /-- With neither. -/
  | client (name : String)
deriving DecidableEq

/-- How the middleware authenticates a path. -/
inductive AuthScheme where
  | unauthenticated
  | bearer
  | cookie
deriving DecidableEq

/-- `ctx.state.user?.id` where the handler is reached; `none` is 401. -/
def AuthScheme.userId : AuthScheme → Principal → Option (Option String)
  | unauthenticated, _ => some none
  -- `ctx.state.device` is set instead
  | bearer, .device _ => some none
  | cookie, .user id => some (some id)
  | _, _ => none

/-! ## Routes -/

/-- The calls of `withIdempotency`. -/
inductive WrappedRoute where
  | remoteStart
  | featureFlags
  | userFeatureFlags
  | syncTrigger
  | chargerOperation
  | deviceSettings
  | deviceFeatureFlags
  | deviceCapabilities
  | cancelReservation
  | stop
  | deregister
  | rename
  | scanArm
  | scanDisarm
  | start
  | scanCancel
  | stateSync
  | pushToken
  | register
  | scanResult
  | deleteDevice
deriving DecidableEq

namespace WrappedRoute

/-- What the call passes as `route`. -/
def constant : WrappedRoute → String
  | remoteStart => "POST /api/customer/remote-start"
  | featureFlags => "/api/admin/feature-flags"
  | userFeatureFlags => "/api/admin/users/[userId]/feature-flags"
  | syncTrigger => "POST /api/admin/sync/trigger"
  | chargerOperation => "POST /api/admin/charger/operation"
  | deviceSettings => "/api/admin/devices/[deviceId]/settings"
  | deviceFeatureFlags => "/api/admin/devices/[deviceId]/feature-flags"
  | deviceCapabilities => "/api/admin/devices/[deviceId]/capabilities"
  | cancelReservation => "/api/admin/devices/[deviceId]/cancel-reservation"
  | stop => "/api/admin/devices/[deviceId]/stop"
  | deregister => "/api/admin/devices/\x7bdeviceId\x7d/deregister"
  | rename => "/api/admin/devices/\x7bdeviceId\x7d/rename"
  -- `POST_ROUTE` and `DELETE_ROUTE`
  | scanArm | scanDisarm => "/api/admin/devices/[deviceId]/scan-arm"
  | start => "/api/admin/devices/[deviceId]/start"
  | scanCancel => "/api/devices/scan-cancel"
  | stateSync => "/api/devices/me/state/sync"
  | pushToken => "/api/devices/\x7bdeviceId\x7d/push-token"
  | register => "/api/devices/register"
  | scanResult => "/api/devices/scan-result"
  | deleteDevice => "/api/devices/\x7bdeviceId\x7d"

/-- What `classifyRoute` and `selectAuth` say of its path. -/
def authScheme : WrappedRoute → AuthScheme
  | register => .unauthenticated
  | cancelReservation | stop | start | scanCancel | stateSync | pushToken | scanResult
  | deleteDevice => .bearer
  | _ => .cookie

/-- Its path has a parameter. -/
def hasParam : WrappedRoute → Bool
  | remoteStart | featureFlags | syncTrigger | chargerOperation | scanCancel | stateSync | register
  | scanResult => false
  | _ => true

end WrappedRoute

/-! ## Replays -/

/-- Who sends a request, and the parameter in its path. -/
structure Sender where
  principal : Principal
  param : Option String
deriving DecidableEq

/-- What `withIdempotency` makes of a request, if it has a key and reaches the handler. -/
def WrappedRoute.request (route : WrappedRoute) (header : Option String) (sender : Sender) :
    Option IdempotentRequest :=
  match readKeyHeader header, route.authScheme.userId sender.principal with
  | .key key, some userId =>
      if sender.param.isSome = route.hasParam then some ⟨key, route.constant, userId⟩ else none
  | _, _ => none

structure ReplayWorld (β : Type*) where
  world : IdempotencyWorld β
  /-- Who has sent the calls of the world, in their order. -/
  senders : List Sender
  /-- Who has sent the request whose response is stored under a key. -/
  origin : String → Option Sender
  sent : List (Sender × IdempotentRequest)
  /-- Who has been sent a stored response, and who the response is of. -/
  replays : List (Sender × Option Sender)

inductive ReplayAction (β : Type*) where
  | posts (header : Option String) (route : WrappedRoute) (sender : Sender)
  /-- Anything else. -/
  | goesOn (a : IdempotencyAction β)

namespace ReplayWorld

variable {β : Type*}

def initial : ReplayWorld β := ⟨.initial, [], fun _ => none, [], []⟩

variable (w : ReplayWorld β)

/-- The call `i` has been answered, or is the last one now. -/
def follow (i : ℕ) (world : IdempotencyWorld β) : ReplayWorld β :=
  { w with
    world
    senders := w.senders.eraseIdx i ++
      if world.calls.length < w.world.calls.length then [] else w.senders[i]?.toList }

/-- The replay that the look-up of the call `i` is answered with. -/
def replay? (i : ℕ) : Option (Sender × Option Sender) :=
  match w.senders[i]?, w.world.calls[i]? with
  | some sender, some call =>
      (w.world.rows.get? call.request.key).bind fun row =>
        match row.answer call.request with
        | .responds _ _ => some (sender, w.origin call.request.key)
        | _ => none
  | _, _ => none

def step : ReplayAction β → Option (ReplayWorld β)
  | .posts header route sender =>
      match route.request header sender with
      | some request =>
          (w.world.step (.posts header request.route request.userId)).map fun world =>
            { w with
              world
              senders := w.senders ++ [sender]
              sent := w.sent ++ [(sender, request)] }
      | none => none
  | .goesOn (.posts _ _ _) => none
  | .goesOn (.looksUp i fails) =>
      (w.world.step (.looksUp i fails)).map fun world =>
        { w.follow i world with
          replays := w.replays ++ (if fails then none else w.replay? i).toList }
  | .goesOn (.handlerEnds i result) => (w.world.step (.handlerEnds i result)).map (w.follow i)
  | .goesOn (.inserts i fails) =>
      (w.world.step (.inserts i fails)).map fun world =>
        { w.follow i world with
          origin := fun key =>
            -- a row that has been there before stays
            if world.rows.Has key ∧ ¬w.world.rows.Has key then w.senders[i]? else w.origin key }
  | .goesOn a => (w.world.step a).map fun world => { w with world }

/-- A stored response goes to whoever has sent the request that it answered, and for the same
path. -/
def StaysWithSender : Prop := ∀ replay ∈ w.replays, replay.2 = some replay.1

instance : Decidable w.StaysWithSender := inferInstanceAs (Decidable (∀ replay ∈ w.replays, _))

end ReplayWorld

end ExpresSync
