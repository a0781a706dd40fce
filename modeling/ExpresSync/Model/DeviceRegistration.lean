import ExpresSync.Foundation.SerialTable
import ExpresSync.Model.Types
import Mathlib.Algebra.GroupWithZero.Nat

/-!
# Registered devices

`mintOneTimeCode` and `claimOneTimeCode` of `registration.ts`, `POST /api/devices/register`,
`validateCapabilitySet` of `capability-gate.ts`, and the `PATCH` of an admin.  Each statement of a
handler is a step, so that requests interleave.

The two digests are a parameter.
-/

namespace ExpresSync

/-! ## Capabilities -/

/-- `DEVICE_CAPABILITIES` -/
inductive DeviceCapability where
  | scanner
  | charger
  | user
  | kiosk
  | managed
deriving DecidableEq

def DeviceCapability.ofString? : String → Option DeviceCapability
  | "scanner" => some .scanner
  | "charger" => some .charger
  | "user" => some .user
  | "kiosk" => some .kiosk
  | "managed" => some .managed
  | _ => none

/-- The check of a set for an app; the type leaves out unknown capabilities. -/
def validateCapabilitySet (caps : List DeviceCapability) : Except String Unit :=
  if caps = [] then throw "capabilities_must_not_be_empty"
  else if ¬caps.Nodup then throw "capability_duplicate"
  else if .charger ∈ caps then throw "capability_not_app_eligible"
  else if .kiosk ∈ caps ∧ (.scanner ∈ caps ↔ .user ∈ caps) then
    throw "kiosk_requires_exactly_one_of_scanner_user"
  else pure ()

/-- The set is legal. -/
def LegalCapabilities (caps : List DeviceCapability) : Prop := validateCapabilitySet caps = .ok ()

instance (caps : List DeviceCapability) : Decidable (LegalCapabilities caps) :=
  inferInstanceAs (Decidable (_ = _))

/-- `devices_capabilities_invariants_check` and `devices_kiosk_legality_check` -/
def meetsDeviceChecks (caps : List DeviceCapability) : Prop :=
  .charger ∉ caps ∧ (.kiosk ∈ caps → ¬(.scanner ∈ caps ↔ .user ∈ caps))

instance (caps : List DeviceCapability) : Decidable (meetsDeviceChecks caps) :=
  inferInstanceAs (Decidable (_ ∧ _))

/-! ## Bodies -/

inductive DevicePlatform where
  | ios
  | macos
  | ipados
deriving DecidableEq

inductive ApnsEnvironment where
  | sandbox
  | production
deriving DecidableEq

/-- What `registerBodySchema` accepts. -/
structure RegisterBody where
  oneTimeCode : String
  codeVerifier : String
  label : String
  platform : DevicePlatform
  model : String
  osVersion : String
  appVersion : String
  pushToken : Option String
  apnsEnvironment : ApnsEnvironment
  requestedCapabilities : List DeviceCapability
  nonempty : requestedCapabilities ≠ []
deriving DecidableEq

/-- `s.length`, in code units. -/
def codeUnits (s : String) : ℕ := (s.toList.map fun c => if c.toNat < 0x10000 then 1 else 2).sum

/-- `z.string().min(min).max(max)` for a field, with the `error` that `zodReason` gives it. -/
def requireText (body : JsonValue) (field : String) (min max : ℕ) (error : String) :
    Except String String :=
  match body.get? field with
  | some (.string s) => if min ≤ codeUnits s ∧ codeUnits s ≤ max then pure s else throw error
  | _ => throw error

def requirePlatform (body : JsonValue) : Except String DevicePlatform :=
  match body.get? "platform" with
  | some (.string "ios") => pure .ios
  | some (.string "macos") => pure .macos
  | some (.string "ipados") => pure .ipados
  | _ => throw "invalid_platform"

def optionalPushToken (body : JsonValue) : Except String (Option String) :=
  match body.get? "pushToken" with
  | none => pure none
  | some (.string s) => if codeUnits s ≤ 512 then pure (some s) else throw "invalid_body"
  | some _ => throw "invalid_body"

def requireApnsEnvironment (body : JsonValue) : Except String ApnsEnvironment :=
  match body.get? "apnsEnvironment" with
  | some (.string "sandbox") => pure .sandbox
  | some (.string "production") => pure .production
  | _ => throw "invalid_body"

/-- `z.enum(DEVICE_CAPABILITIES)` -/
def JsonValue.asCapability? (value : JsonValue) : Option DeviceCapability :=
  value.asString?.bind DeviceCapability.ofString?

/-- `z.array(z.enum(DEVICE_CAPABILITIES)).min(1).max(max)` -/
def capabilityArray (max : ℕ) : Option JsonValue → Option (List DeviceCapability)
  | some (.array elements) =>
      (elements.mapM JsonValue.asCapability?).filter
        fun caps => decide (1 ≤ caps.length ∧ caps.length ≤ max)
  | _ => none

/-- The schema, with the reason of the first field that fails. -/
def checkRegisterBody : Option JsonValue → Except String RegisterBody
  | some (.object fields) => do
      let body := JsonValue.object fields
      let oneTimeCode ← requireText body "oneTimeCode" 1 256 "invalid_code"
      let codeVerifier ← requireText body "codeVerifier" 43 256 "invalid_verifier"
      let label ← requireText body "label" 1 120 "invalid_body"
      let platform ← requirePlatform body
      let model ← requireText body "model" 1 80 "invalid_body"
      let osVersion ← requireText body "osVersion" 1 40 "invalid_body"
      let appVersion ← requireText body "appVersion" 1 40 "invalid_body"
      let pushToken ← optionalPushToken body
      let apnsEnvironment ← requireApnsEnvironment body
      match capabilityArray 5 (body.get? "requestedCapabilities") with
      | some (cap :: caps) =>
          return {
            oneTimeCode, codeVerifier, label, platform, model, osVersion, appVersion, pushToken
            apnsEnvironment
            requestedCapabilities := cap :: caps
            nonempty := List.cons_ne_nil cap caps }
      | _ => throw "invalid_capabilities"
  | _ => throw "invalid_body"

/-- `BodySchema` of the `PATCH`, which has no other field. -/
def checkPatchBody : Option JsonValue → Option (List DeviceCapability)
  | some (.object fields) =>
      if fields.all fun field => decide (field.1 = "capabilities") then
        capabilityArray 8 ((JsonValue.object fields).get? "capabilities")
      else none
  | _ => none

/-! ## Tables -/

/-- `ONE_TIME_CODE_TTL_SEC`, in milliseconds. -/
def oneTimeCodeTtlMs : ℕ := 60 * 1000

inductive CodeStatus where
  | armed
  | consumed
deriving DecidableEq

/-- A row of `verifications` under `expresscan-register:{userId}:{hashedCode}`. -/
structure RegistrationCode where
  id : ℕ
  userId : String
  hashedCode : String
  codeChallenge : String
  label : String
  /-- What the admin has approved. -/
  requestedCapabilities : List DeviceCapability
  status : CodeStatus
  expiresAt : ℕ
deriving DecidableEq

abbrev RegistrationCodeTable := SerialTable RegistrationCode.id

/-- A row of `devices`. -/
structure DeviceRow where
  id : ℕ
  label : String
  capabilities : List DeviceCapability
  ownerUserId : String
  platform : DevicePlatform
  model : String
  osVersion : String
  appVersion : String
  pushToken : Option String
  apnsEnvironment : ApnsEnvironment
  deletedAt : Option ℕ
  /-- The code it has been registered with. -/
  codeId : ℕ
deriving DecidableEq

abbrev DeviceTable := SerialTable DeviceRow.id

/-- What a claim returns. -/
structure ClaimedCodePayload where
  userId : String
  label : String
  requestedCapabilities : List DeviceCapability
deriving DecidableEq

def RegistrationCode.claimed (code : RegistrationCode) : ClaimedCodePayload :=
  ⟨code.userId, code.label, code.requestedCapabilities⟩

/-! ## Requests -/

/-- Where a registration stands. -/
inductive RegistrationPoint where
  /-- Before the `SELECT` of `claimOneTimeCode`. -/
  | claiming
  /-- The verifier is right, and the row is about to be consumed. -/
  | consuming (codeId : ℕ) (claim : ClaimedCodePayload)
  /-- Before the `INSERT` into `devices`. -/
  | inserting (codeId : ℕ) (claim : ClaimedCodePayload)
  /-- Before the `INSERT` into `device_tokens`. -/
  | issuing (deviceId : ℕ)
deriving DecidableEq

structure RegistrationCall where
  body : RegisterBody
  point : RegistrationPoint
deriving DecidableEq

/-- Where a `PATCH` stands. -/
inductive PatchPoint where
  | loading
  /-- Before the `UPDATE`, with a set that has been checked. -/
  | saving (legal : List DeviceCapability) (h : LegalCapabilities legal)
deriving DecidableEq

structure PatchCall where
  deviceId : ℕ
  capabilities : List DeviceCapability
  point : PatchPoint
deriving DecidableEq

inductive DeviceAnswer where
  | refused (status : ℕ) (error : String)
  | registered (deviceId : ℕ) (capabilities : List DeviceCapability)
  | patched (deviceId : ℕ) (capabilities : List DeviceCapability)
deriving DecidableEq

structure DeviceWorld where
  now : ℕ
  codes : RegistrationCodeTable
  devices : DeviceTable
  registrations : List RegistrationCall
  patches : List PatchCall
  /-- The sets that admins have saved, and for which device. -/
  saved : List (ℕ × List DeviceCapability)
  answers : List DeviceAnswer

inductive DeviceAction where
  | waits (ms : ℕ)
  /-- `mintOneTimeCode` with this random code. -/
  | mints (userId codeChallenge label : String) (requestedCapabilities : List DeviceCapability)
      (rawCode : String)
  | registers (body : Option JsonValue)
  /-- The `SELECT … LIMIT 1`, with the row that it returns. -/
  | looksUp (i : ℕ) (found : Option ℕ) (fails : Bool)
  | consumes (i : ℕ) (fails : Bool)
  | insertsDevice (i : ℕ) (fails : Bool)
  /-- When it fails, the device is deleted again, unless that fails too. -/
  | insertsToken (i : ℕ) (fails rollbackFails : Bool)
  /-- `PATCH /api/admin/devices/{deviceId}/capabilities` of an admin -/
  | patches (deviceId : ℕ) (body : Option JsonValue)
  | loads (i : ℕ) (ownerIsAdmin fails : Bool)
  | saves (i : ℕ) (fails : Bool)
  /-- The device is marked as deleted. -/
  | deregisters (deviceId : ℕ)

/-- `sha256Hex` and `sha256Base64Url` -/
structure Digests where
  sha256Hex : String → String
  sha256Base64Url : String → String

/-- What the registration page approves. -/
def registerPageCapabilities : List DeviceCapability := [.scanner]

namespace DeviceWorld

section

variable (digests : Digests) (w : DeviceWorld)

def initial : DeviceWorld := ⟨0, SerialTable.empty, SerialTable.empty, [], [], [], []⟩

def mint (userId codeChallenge label : String) (requestedCapabilities : List DeviceCapability)
    (rawCode : String) : DeviceWorld :=
  { w with
    codes := w.codes.insert (fun id =>
      ⟨id, userId, digests.sha256Hex rawCode, codeChallenge, label, requestedCapabilities, .armed,
        w.now + oneTimeCodeTtlMs⟩) fun _ => rfl }

/-- The registration `i` goes on. -/
def advance (i : ℕ) (body : RegisterBody) (point : RegistrationPoint) : DeviceWorld :=
  { w with registrations := w.registrations.eraseIdx i ++ [⟨body, point⟩] }

/-- The registration `i` is answered. -/
def answer (i : ℕ) (answer : DeviceAnswer) : DeviceWorld :=
  { w with registrations := w.registrations.eraseIdx i, answers := w.answers ++ [answer] }

/-- The row is one for this code, and has not expired. -/
def IsLive (oneTimeCode : String) (code : RegistrationCode) : Prop :=
  code.hashedCode = digests.sha256Hex oneTimeCode ∧ w.now < code.expiresAt

instance (oneTimeCode : String) (code : RegistrationCode) :
    Decidable (w.IsLive digests oneTimeCode code) := inferInstanceAs (Decidable (_ ∧ _))

/-- The `SELECT` and the checks of `claimOneTimeCode`; those of the lengths repeat the schema. -/
def lookUp (i : ℕ) (body : RegisterBody) : Option ℕ → Option DeviceWorld
  | none =>
      if ∀ code ∈ w.codes.rows, ¬w.IsLive digests body.oneTimeCode code then
        some (w.answer i (.refused 400 "invalid_code"))
      else none
  | some id =>
      (w.codes.get? id).bind fun code =>
        if w.IsLive digests body.oneTimeCode code then
          if code.status = .armed ∧
              digests.sha256Base64Url body.codeVerifier = code.codeChallenge then
            some (w.advance i body (.consuming id code.claimed))
          else some (w.answer i (.refused 400 "invalid_code"))
        else none

/-- The atomic claim. -/
def consume (i : ℕ) (body : RegisterBody) (codeId : ℕ) (claim : ClaimedCodePayload)
    (fails : Bool) : DeviceWorld :=
  let sel := fun code : RegistrationCode =>
    decide (code.id = codeId ∧ w.now < code.expiresAt ∧ code.status = .armed)
  if !fails && w.codes.rows.any sel then
    { w.advance i body (.inserting codeId claim) with
      codes := w.codes.update sel (fun code => { code with status := .consumed }) fun _ => rfl }
  else w.answer i (.refused 400 "invalid_code")

/-- The row that `runRegister` inserts. -/
def newDevice (body : RegisterBody) (codeId : ℕ) (claim : ClaimedCodePayload) (id : ℕ) :
    DeviceRow where
  id := id
  label := body.label
  capabilities := body.requestedCapabilities
  ownerUserId := claim.userId
  platform := body.platform
  model := body.model
  osVersion := body.osVersion
  appVersion := body.appVersion
  pushToken := body.pushToken
  apnsEnvironment := body.apnsEnvironment
  deletedAt := none
  codeId := codeId

def insertDevice (i : ℕ) (body : RegisterBody) (codeId : ℕ) (claim : ClaimedCodePayload)
    (fails : Bool) : DeviceWorld :=
  if fails = false ∧ meetsDeviceChecks body.requestedCapabilities then
    { w.advance i body (.issuing w.devices.next) with
      devices := w.devices.insert (newDevice body codeId claim) fun _ => rfl }
  else w.answer i (.refused 500 "internal")

def insertToken (i : ℕ) (body : RegisterBody) (deviceId : ℕ) (fails rollbackFails : Bool) :
    DeviceWorld :=
  if fails then
    { w.answer i (.refused 500 "internal") with
      devices :=
        if rollbackFails then w.devices
        else w.devices.delete fun device => decide (device.id = deviceId) }
  else w.answer i (.registered deviceId body.requestedCapabilities)

/-- The `PATCH` `i` is answered. -/
def answerPatch (i : ℕ) (answer : DeviceAnswer) : DeviceWorld :=
  { w with patches := w.patches.eraseIdx i, answers := w.answers ++ [answer] }

/-- What `handleDevicePatch` checks. -/
def load (i : ℕ) (call : PatchCall) (ownerIsAdmin fails : Bool) : DeviceWorld :=
  if fails then w.answerPatch i (.refused 500 "internal_error")
  else
    match w.devices.get? call.deviceId with
    | none => w.answerPatch i (.refused 404 "not_found")
    | some device =>
        if device.deletedAt ≠ none then w.answerPatch i (.refused 410 "device_revoked")
        else if ¬(.charger ∈ device.capabilities ↔ .charger ∈ call.capabilities) then
          w.answerPatch i (.refused 400 "capability_charger_immutable")
        else if .managed ∈ call.capabilities ∧ .managed ∉ device.capabilities ∧
            ownerIsAdmin = false then
          w.answerPatch i (.refused 400 "capability_managed_admin_only")
        else if h : LegalCapabilities call.capabilities then
          { w with
            patches := w.patches.eraseIdx i ++
              [{ call with point := .saving call.capabilities h }] }
        else w.answerPatch i (.refused 400 "invalid_capabilities")

/-- The `UPDATE`, whether or not the device has been deleted since. -/
def save (i deviceId : ℕ) (legal : List DeviceCapability) (fails : Bool) : DeviceWorld :=
  if fails then w.answerPatch i (.refused 500 "internal_error")
  else
    match w.devices.get? deviceId with
    | none => w.answerPatch i (.refused 410 "device_revoked")
    | some device =>
        { w.answerPatch i (if device.deletedAt = none then .patched deviceId legal
            else .refused 410 "device_revoked") with
          devices := w.devices.update (fun device => decide (device.id = deviceId))
            (fun device => { device with capabilities := legal }) fun _ => rfl
          saved := w.saved ++ [(deviceId, legal)] }

def deregister (deviceId : ℕ) : DeviceWorld :=
  { w with
    devices := w.devices.update (fun device => decide (device.id = deviceId))
      (fun device => { device with deletedAt := some w.now }) fun _ => rfl }

def step : DeviceAction → Option DeviceWorld
  | .waits ms => some { w with now := w.now + ms }
  | .mints userId codeChallenge label requestedCapabilities rawCode =>
      some (w.mint digests userId codeChallenge label requestedCapabilities rawCode)
  | .registers body =>
      match checkRegisterBody body with
      | .error error => some { w with answers := w.answers ++ [.refused 400 error] }
      | .ok body => some { w with registrations := w.registrations ++ [⟨body, .claiming⟩] }
  | .looksUp i found fails =>
      w.registrations[i]?.bind fun call =>
        match call.point with
        | .claiming =>
            if fails then some (w.answer i (.refused 400 "invalid_code"))
            else w.lookUp digests i call.body found
        | _ => none
  | .consumes i fails =>
      w.registrations[i]?.bind fun call =>
        match call.point with
        | .consuming codeId claim => some (w.consume i call.body codeId claim fails)
        | _ => none
  | .insertsDevice i fails =>
      w.registrations[i]?.bind fun call =>
        match call.point with
        | .inserting codeId claim => some (w.insertDevice i call.body codeId claim fails)
        | _ => none
  | .insertsToken i fails rollbackFails =>
      w.registrations[i]?.bind fun call =>
        match call.point with
        | .issuing deviceId => some (w.insertToken i call.body deviceId fails rollbackFails)
        | _ => none
  | .patches deviceId body =>
      match checkPatchBody body with
      | none => some { w with answers := w.answers ++ [.refused 400 "invalid_body"] }
      | some capabilities =>
          some { w with patches := w.patches ++ [⟨deviceId, capabilities, .loading⟩] }
  | .loads i ownerIsAdmin fails =>
      w.patches[i]?.bind fun call =>
        match call.point with
        | .loading => some (w.load i call ownerIsAdmin fails)
        | .saving _ _ => none
  | .saves i fails =>
      w.patches[i]?.bind fun call =>
        match call.point with
        | .saving legal _ => some (w.save i call.deviceId legal fails)
        | .loading => none
  | .deregisters deviceId => some (w.deregister deviceId)

end

/-- The capabilities of a device are legal, and among those that were approved when its code was
minted or those of a set that an admin saved for it. -/
structure Approved (w : DeviceWorld) (device : DeviceRow) : Prop where
  legal : LegalCapabilities device.capabilities
  within : (∃ code ∈ w.codes.rows, code.id = device.codeId ∧
      device.capabilities ⊆ code.requestedCapabilities) ∨
    ∃ set ∈ w.saved, set.1 = device.id ∧ device.capabilities ⊆ set.2

instance (w : DeviceWorld) (device : DeviceRow) : Decidable (w.Approved device) :=
  decidable_of_iff (LegalCapabilities device.capabilities ∧
      ((∃ code ∈ w.codes.rows, code.id = device.codeId ∧
        device.capabilities ⊆ code.requestedCapabilities) ∨
      ∃ set ∈ w.saved, set.1 = device.id ∧ device.capabilities ⊆ set.2))
    ⟨fun h => ⟨h.1, h.2⟩, fun h => ⟨h.legal, h.within⟩⟩

/-- No device has a capability that nobody approved. -/
def AllApproved (w : DeviceWorld) : Prop := ∀ device ∈ w.devices.rows, w.Approved device

instance (w : DeviceWorld) : Decidable w.AllApproved :=
  inferInstanceAs (Decidable (∀ device ∈ w.devices.rows, _))

end DeviceWorld

end ExpresSync
