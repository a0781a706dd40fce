import ExpresSync.Model.ScanStream

/-!
# Streams of a device that is deleted

The middleware resolves the bearer of a request (`bearer-auth.ts`), the scan stream looks at the
device once more before it subscribes (`scan-stream.ts`), and `DELETE /api/devices/{deviceId}`
soft-deletes the device, revokes its tokens and publishes `device.token.revoked`.  The last step of
each handler, after its last `await`, is one with nothing in between.
-/

namespace ExpresSync

/-- What is read of a row of `devices`. -/
structure DeviceEntry where
  id : String
  deletedAt : Option ℕ
deriving DecidableEq

/-- What is read of a row of `device_tokens`. -/
structure DeviceTokenEntry where
  id : String
  deviceId : String
  revokedAt : Option ℕ
  expiresAt : ℕ
deriving DecidableEq

/-- A request for a stream, with the device and the token of its bearer. -/
structure StreamRequest where
  worker : String
  deviceId : String
  tokenId : String
  lastEventId : ℕ
  /-- The look-up of the device has found it, and not deleted. -/
  checked : Bool
deriving DecidableEq

/-- Where a `DELETE` stands. -/
inductive DeletePoint where
  /-- Before the `UPDATE` of `devices`. -/
  | deleting
  /-- Before the `UPDATE` of `device_tokens`. -/
  | revoking
  /-- Before it publishes `device.token.revoked`, and answers. -/
  | publishing
deriving DecidableEq

structure DeleteCall where
  worker : String
  deviceId : String
  tokenId : String
  point : DeletePoint
deriving DecidableEq

/-- A `DELETE` that has finished. -/
structure Revocation where
  deviceId : String
  /-- The events that had been published then, its own included. -/
  published : List StreamEvent
deriving DecidableEq

structure RevocationWorld extends StreamWorld where
  devices : List DeviceEntry
  tokens : List DeviceTokenEntry
  requests : List StreamRequest
  deletes : List DeleteCall
  revocations : List Revocation

inductive RevocationAction where
  /-- Streams, buses and other parts of the workers. -/
  | streams (a : StreamAction)
  /-- A request for a stream with the bearer of a token, as far as `resolveBearer`. -/
  | requests (worker : String) (token : DeviceTokenEntry) (lastEventId : ℕ)
  /-- The look-up of the device before the stream. -/
  | checks (i : ℕ) (fails : Bool)
  /-- The request is turned away (`too_many_concurrent_streams`), or its client has gone. -/
  | refuses (i : ℕ)
  | subscribes (i : ℕ)
  /-- A `DELETE` with the bearer of a token, as far as the comparison with the path. -/
  | deletes (worker : String) (token : DeviceTokenEntry) (pathDeviceId : String)
  | softDeletes (j : ℕ) (fails : Bool)
  | revokes (j : ℕ) (fails : Bool)
  /-- The `DELETE` publishes its event and answers 200. -/
  | finishes (j : ℕ)

namespace RevocationWorld

/-- No event has been published, and nothing requested. -/
def initial (now : ℕ) (devices : List DeviceEntry) (tokens : List DeviceTokenEntry) :
    RevocationWorld where
  toStreamWorld := .initial now
  devices := devices
  tokens := tokens
  requests := []
  deletes := []
  revocations := []

variable (bytes : StreamEvent → ℕ) (w : RevocationWorld)

/-- `resolveBearer` finds the token. -/
def Resolves (token : DeviceTokenEntry) : Prop :=
  token ∈ w.tokens ∧ token.revokedAt = none ∧ w.now < token.expiresAt ∧
    ∃ device ∈ w.devices, device.id = token.deviceId ∧ device.deletedAt = none

instance (token : DeviceTokenEntry) : Decidable (w.Resolves token) :=
  inferInstanceAs (Decidable (_ ∧ _ ∧ _ ∧ _))

/-- The look-up before the stream lets the request pass. -/
def passesCheck (deviceId : String) : Bool :=
  (w.devices.find? fun device => device.id = deviceId).any fun device => device.deletedAt.isNone

/-- The rows that the `UPDATE` of `devices` selects. -/
def isDeletable (deviceId : String) (device : DeviceEntry) : Bool :=
  decide (device.id = deviceId ∧ device.deletedAt = none)

def softDelete (deviceId : String) : RevocationWorld :=
  { w with devices := w.devices.map fun device =>
      if isDeletable deviceId device then { device with deletedAt := some w.now } else device }

def revokeTokens (deviceId : String) : RevocationWorld :=
  { w with tokens := w.tokens.map fun token =>
      if token.deviceId = deviceId then { token with revokedAt := some w.now } else token }

/-- The stream of a request is registered. -/
def subscribe (request : StreamRequest) : RevocationWorld :=
  { w with
    toStreamWorld :=
      (w.kickOff bytes request.worker request.deviceId).register request.worker request.deviceId
        request.tokenId request.lastEventId }

/-- The event of a `DELETE` is published. -/
def finish (call : DeleteCall) : RevocationWorld :=
  let w' := w.publishEvent bytes call.worker .deviceTokenRevoked
    ⟨some call.deviceId, some call.tokenId⟩
  { w with
    toStreamWorld := w'
    revocations := w.revocations ++ [⟨call.deviceId, w'.history⟩] }

def step : RevocationAction → Option RevocationWorld
  | .streams (.connects ..) => none
  | .streams a =>
      (w.toStreamWorld.step bytes a).map fun streams => { w with toStreamWorld := streams }
  | .requests worker token lastEventId =>
      some (if w.Resolves token then
        { w with
          requests := w.requests ++ [⟨worker, token.deviceId, token.id, lastEventId, false⟩] }
      else w)
  | .checks i fails =>
      w.requests[i]?.bind fun request =>
        if request.checked then none
        else
          let w' := { w with requests := w.requests.eraseIdx i }
          some (if !fails && w.passesCheck request.deviceId then
            { w' with requests := w'.requests ++ [{ request with checked := true }] }
          else w')
  | .refuses i =>
      w.requests[i]?.map fun _ => { w with requests := w.requests.eraseIdx i }
  | .subscribes i =>
      w.requests[i]?.bind fun request =>
        if request.checked then
          some ({ w with requests := w.requests.eraseIdx i }.subscribe bytes request)
        else none
  | .deletes worker token pathDeviceId =>
      some (if w.Resolves token ∧ pathDeviceId = token.deviceId then
        { w with deletes := w.deletes ++ [⟨worker, token.deviceId, token.id, .deleting⟩] }
      else w)
  | .softDeletes j fails =>
      w.deletes[j]?.bind fun call =>
        if call.point = .deleting then
          let w' := { w with deletes := w.deletes.eraseIdx j }
          some (if !fails && w.devices.any (isDeletable call.deviceId) then
            { w'.softDelete call.deviceId with
              deletes := w'.deletes ++ [{ call with point := .revoking }] }
          else w')
        else none
  | .revokes j fails =>
      w.deletes[j]?.bind fun call =>
        if call.point = .revoking then
          let w' :=
            { w with deletes := w.deletes.eraseIdx j ++ [{ call with point := .publishing }] }
          some (if fails then w' else w'.revokeTokens call.deviceId)
        else none
  | .finishes j =>
      w.deletes[j]?.bind fun call =>
        if call.point = .publishing then
          some ({ w with deletes := w.deletes.eraseIdx j }.finish bytes call)
        else none

end RevocationWorld

end ExpresSync
