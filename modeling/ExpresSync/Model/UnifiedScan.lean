import ExpresSync.Model.Types
import Mathlib.Logic.Function.Basic

/-!
# The scan flow of the browser

`useUnifiedScan` (`use-unified-scan.ts`) loads what a card may be tapped on, arms one of these,
listens to the stream of the pairing and resolves the card.  Every call starts a session, and what
an older session awaits may still come.  A session is followed from one of its `await`s to the next.
Times are epoch milliseconds.
-/

namespace ExpresSync

/-- The bytes that `encodeURIComponent` leaves as they are. -/
def isUnreservedByte (b : UInt8) : Bool :=
  let c := Char.ofNat b.toNat
  decide (b < 128) && (c.isAlphanum || "-_.!~*'()".toList.contains c)

def encodeURIComponent (s : String) : String :=
  String.ofList (s.toUTF8.data.toList.flatMap fun b =>
    if isUnreservedByte b then [Char.ofNat b.toNat]
    else '%' :: (Nat.toDigits 16 (b.toNat + 256)).tail.map Char.toUpper)

/-! ## Options -/

inductive ScanMode where
  | admin
  | customer
deriving DecidableEq

inductive ScanPurpose where
  | addTag
  | lookupTag
  | login
deriving DecidableEq

structure ScanResult where
  idTag : String
  /-- `exists` -/
  isKnown : Bool
  tagPk : Option ℤ
  hasMapping : Option Bool
  /-- `some none` is `null`. -/
  mappingId : Option (Option ℤ)
deriving DecidableEq

/-- `callback` is a function of the caller, which may be async and may throw. -/
inductive ResolveStrategy where
  | route (build : ScanResult → String)
  | callback
  | customerLogin

inductive PairableType where
  | device
  | charger
deriving DecidableEq

structure TapTargetEntry where
  deviceId : String
  pairableType : PairableType
  isOnline : Bool
deriving DecidableEq

structure UseUnifiedScanOptions where
  mode : ScanMode
  purpose : ScanPurpose
  resolve : ResolveStrategy
  preselected : Option TapTargetEntry
  preselectedId : Option (String × PairableType)
  ttlSeconds : Option ℕ
  hintLabel : Option String

/-- `PAIRING_DEFAULT_TTL_SEC` -/
def pairingDefaultTtlSec : ℕ := 90

namespace UseUnifiedScanOptions

variable (opts : UseUnifiedScanOptions)

/-- `ttlSeconds` of the hook. -/
def ttl : ℕ := max 1 (opts.ttlSeconds.getD pairingDefaultTtlSec)

/-- The entry of the list that is armed without a pick. -/
def preselectedOf (list : List TapTargetEntry) : Option TapTargetEntry :=
  (opts.preselectedId.bind fun id =>
    list.find? fun d => d.deviceId == id.1 && d.pairableType == id.2).filter fun d => d.isOnline

end UseUnifiedScanOptions

/-! ## Requests -/

/-- What a request is sent to, and the fields of its body; `none` is `null`. -/
structure ScanRequest where
  url : String
  body : List (String × Option String)

/-- The `POST` that arms the target. -/
def armRequest (opts : UseUnifiedScanOptions) (target : TapTargetEntry) : ScanRequest :=
  match opts.mode, target.pairableType with
  | .customer, .device =>
      ⟨"/api/auth/scan-pair", [("pairableType", "device"), ("deviceId", target.deviceId)]⟩
  | .customer, .charger => ⟨"/api/auth/scan-pair", [("chargeBoxId", target.deviceId)]⟩
  | .admin, .device =>
      ⟨"/api/admin/devices/" ++ encodeURIComponent target.deviceId ++ "/scan-arm",
        [("purpose", if opts.purpose = .login then "login" else "admin-link"),
          ("hintLabel", opts.hintLabel)]⟩
  | .admin, .charger => ⟨"/api/admin/tag/scan-arm", [("chargeBoxId", target.deviceId)]⟩

/-- A pairing, with the session that its code was reported to. -/
structure ActiveArm where
  pairableType : PairableType
  pairingCode : String
  deviceId : String
  mode : ScanMode
  session : ℕ
deriving DecidableEq

/-- The `DELETE` that releases the pairing. -/
def releaseRequest (arm : ActiveArm) : ScanRequest :=
  match arm.mode, arm.pairableType with
  | .customer, .device =>
      ⟨"/api/auth/scan-pair", [("pairableType", "device"), ("deviceId", arm.deviceId),
        ("pairingCode", arm.pairingCode)]⟩
  | .customer, .charger =>
      ⟨"/api/auth/scan-pair", [("chargeBoxId", arm.deviceId), ("pairingCode", arm.pairingCode)]⟩
  | .admin, .device =>
      ⟨"/api/admin/devices/" ++ encodeURIComponent arm.deviceId ++ "/scan-arm",
        [("pairingCode", arm.pairingCode)]⟩
  | .admin, .charger =>
      ⟨"/api/admin/tag/scan-arm",
        [("chargeBoxId", arm.deviceId), ("pairingCode", arm.pairingCode)]⟩

/-- `resp.ok` -/
def isOkStatus (status : ℕ) : Bool := decide (200 ≤ status ∧ status < 300)

/-- The answer of an arm request; a body that cannot be read has no code. -/
structure ArmAnswer where
  status : ℕ
  pairingCode : Option String
deriving DecidableEq

namespace ArmAnswer

variable (answer : ArmAnswer)

/-- `armResp.ok && armBodyResp.pairingCode` -/
def hasCode : Bool := isOkStatus answer.status && truthy answer.pairingCode

/-- The pairing that the answer reports to the session. -/
def reports (opts : UseUnifiedScanOptions) (target : TapTargetEntry) (s : ℕ) : Option ActiveArm :=
  if answer.hasCode then
    some ⟨target.pairableType, answer.pairingCode.getD "", target.deviceId, opts.mode, s⟩
  else none

/-- `friendly` -/
def friendly : String :=
  if answer.status = 409 then
    "That device is already armed for another scan. Wait a moment and try again."
  else if answer.status = 429 then "Too many attempts. Wait a moment and try again."
  else if answer.status = 503 then "Scan service is temporarily unavailable."
  else "Couldn't arm the scan. Try again."

end ArmAnswer

/-- Why a login has failed. -/
def loginFailure (status : ℕ) : String :=
  if status = 401 then
    "That card isn't linked to a customer account. Contact your operator."
  else if status = 410 then "This pairing was already used. Try again."
  else if status = 403 then "Couldn't verify your scan. Try again."
  else "Couldn't sign you in. Try again or use email instead."

/-! ## Events of the stream -/

/-- The data of `connected`. -/
structure ConnectedData where
  expiresAtEpochMs : Option ℤ
  expiresInSec : Option ℤ

structure ScanDetectEvent where
  idTag : String
  nonce : Option String
  t : Option ℤ

/-- `Math.ceil((expiresAtEpochMs - now) / 1000)` -/
def remainingSec (expiresAtEpochMs now : ℤ) : ℤ := -((now - expiresAtEpochMs) / 1000)

/-- `expiresAtEpochMs` once the stream is alive. -/
def ConnectedData.expiresAt (data : ConnectedData) (expiresAtEpochMs now : ℤ) : ℤ :=
  (data.expiresAtEpochMs.or (data.expiresInSec.map fun sec => now + sec * 1000)).getD
    expiresAtEpochMs

/-! ## The hook -/

inductive ScanFlowState where
  | idle
  | loadingTargets
  | picker (targets : List TapTargetEntry)
  | noTargets
  | arming (target : TapTargetEntry)
  | armed (target : TapTargetEntry) (pairingCode : String) (expiresAtEpochMs remaining : ℤ)
  | detected (target : TapTargetEntry) (idTag : String) (nonce : Option String)
      (nonceTimestamp : Option ℤ) (pairingCode : String)
  | resolving (idTag : String)
  | success (message : String)
  | error (message : String) (canRetry backToPicker : Bool)
deriving DecidableEq

/-- The kinds that the loss of the stream does not change. -/
def ScanFlowState.isTerminal : ScanFlowState → Bool
  | detected _ _ _ _ _ | resolving _ | success _ | error _ _ _ => true
  | _ => false

/-- What a session awaits. -/
inductive ScanPhase where
  /-- Nothing any more. -/
  | over
  | loadingTargets
  | readingTargets
  | arming (target : TapTargetEntry)
  | readingArm (target : TapTargetEntry) (answer : ArmAnswer)
  | listening (target : TapTargetEntry) (pairingCode : String)
  | loggingIn
  | readingLogin (status : ℕ)
  | lookingUp (idTag : String)
  | readingLookup (idTag : String)
  | callingBack
  /-- The `DELETE` of `shutdown`. -/
  | releasing
deriving DecidableEq

/-- `refs.sessionId` and `refs.arm`, and what has come of all sessions and their pairings. -/
structure ScanSessions where
  sessionId : ℕ
  arm : Option ActiveArm
  phase : ℕ → ScanPhase
  /-- The pairings that arm responses have reported. -/
  reported : List ActiveArm
  /-- The pairings that a `DELETE` has been sent for. -/
  deletes : List ActiveArm
  /-- The sessions whose pairing the server has consumed or cancelled. -/
  ended : List ℕ

namespace ScanSessions

variable (w : ScanSessions)

def releaseArm : ScanSessions :=
  match w.arm with
  | some arm => { w with arm := none, deletes := w.deletes ++ [arm] }
  | none => w

/-- The session goes on to its next `await`, or is over. -/
def goesOn (s : ℕ) (phase : ScanPhase) : ScanSessions :=
  { w with phase := Function.update w.phase s phase }

end ScanSessions

/-- The memory of `useUnifiedScan`; a session stands for its stream and for its countdown. -/
structure ScanHook extends ScanSessions where
  state : ScanFlowState
  eventSource : Option ℕ
  countdown : Option ℕ
  cachedTargets : List TapTargetEntry
  /-- Where the page has been sent. -/
  location : Option String

inductive HookAction where
  | start
  | selectTarget (t : TapTargetEntry)
  | backToPicker
  | retry
  | submitManual (idTag : String)
  | shutdown
  | unmounts
  /-- The answer to the `fetch` of the targets, and later its body; `none` when it throws. -/
  | targetsAnswer (s : ℕ) (status : Option ℕ)
  | targetsBody (s : ℕ) (devices : List TapTargetEntry)
  | armAnswer (s : ℕ) (answer : Option ArmAnswer)
  /-- `opens`: `new EventSource` does not throw. -/
  | armBody (s : ℕ) (opens : Bool) (now : ℤ)
  | connected (s : ℕ) (data : Option ConnectedData) (now : ℤ)
  | cancelled (s : ℕ)
  | timeout (s : ℕ)
  | message (s : ℕ) (payload : Option ScanDetectEvent)
  /-- `closed`: the stream's `readyState` is 2. -/
  | streamError (s : ℕ) (closed : Bool)
  | ticks (s : ℕ) (now : ℤ)
  | loginAnswer (s : ℕ) (status : Option ℕ)
  | loginBody (s : ℕ) (redirectTo : Option String)
  | lookupAnswer (s : ℕ) (status : Option ℕ)
  | lookupBody (s : ℕ) (isKnown : Bool) (tagPk : Option ℤ) (hasMapping : Option Bool)
      (mappingId : Option (Option ℤ))
  /-- The caller's function ends; `some` when it throws, with the message of an `Error`. -/
  | callbackEnds (s : ℕ) (thrown : Option (Option String))
  /-- The `DELETE` of `shutdown` is answered. -/
  | released (s : ℕ)
  /-- The server consumes or cancels the pairing of the session. -/
  | serverEnds (s : ℕ)

/-- The session whose callback it is. -/
def HookAction.session? : HookAction → Option ℕ
  | start | selectTarget _ | backToPicker | retry | submitManual _ | shutdown | unmounts
  | serverEnds _ => none
  | targetsAnswer s _ | targetsBody s _ | armAnswer s _ | armBody s _ _ | connected s _ _
  | cancelled s | timeout s | message s _ | streamError s _ | ticks s _ | loginAnswer s _
  | loginBody s _ | lookupAnswer s _ | lookupBody s _ _ _ _ | callbackEnds s _ | released s =>
      some s

namespace ScanHook

def initial : ScanHook where
  sessionId := 0
  arm := none
  phase _ := .over
  reported := []
  deletes := []
  ended := []
  state := .idle
  eventSource := none
  countdown := none
  cachedTargets := []
  location := none

variable (opts : UseUnifiedScanOptions) (w : ScanHook)

/-- `closeEventSource` and `clearCountdown` -/
def stopListening : ScanHook := { w with eventSource := none, countdown := none }

def cleanup : ScanHook :=
  { w.stopListening with toScanSessions := w.toScanSessions.releaseArm }

/-- `cleanup`, and a session of its own for what follows. -/
def supersede : ScanHook := { w.cleanup with sessionId := w.sessionId + 1 }

/-- The session awaits what comes next. -/
def awaits (s : ℕ) (phase : ScanPhase) (state : ScanFlowState) : ScanHook :=
  { w with toScanSessions := w.goesOn s phase, state := state }

/-- The session has come to its end with this state. -/
def ends (s : ℕ) (state : ScanFlowState) : ScanHook := w.awaits s .over state

/-- The session returns at a check. -/
def returns (s : ℕ) : ScanHook := w.ends s w.state

/-! ### Targets -/

def loadTargets (s : ℕ) : ScanHook := w.awaits s .loadingTargets .loadingTargets

def beginArm (target : TapTargetEntry) (s : ℕ) : ScanHook :=
  w.awaits s (.arming target) (.arming target)

def onTargetsAnswer (s : ℕ) (status : Option ℕ) : ScanHook :=
  if s ≠ w.sessionId then w.returns s
  else
    match status with
    | none =>
        w.ends s (.error "Couldn't reach the device list. Check your connection." true true)
    | some status =>
        if !isOkStatus status then
          w.ends s (.error
            (if status = 503 then "Scan service is temporarily unavailable."
              else "Couldn't load the device list. Try again in a moment.")
            (status != 503) true)
        else w.awaits s .readingTargets w.state

def onTargetsBody (s : ℕ) (list : List TapTargetEntry) : ScanHook :=
  let w := { w with cachedTargets := list }
  if list = [] then w.ends s .noTargets
  else
    match opts.preselectedOf list with
    | some target => w.beginArm target s
    | none => w.ends s (.picker list)

/-! ### Arming -/

def onArmAnswer (s : ℕ) (target : TapTargetEntry) (answer : Option ArmAnswer) : ScanHook :=
  if s ≠ w.sessionId then
    -- the body is not read
    { w.returns s with
      reported := w.reported ++ (answer.bind fun answer => answer.reports opts target s).toList }
  else
    match answer with
    | none =>
        w.ends s (.error "Couldn't reach the scan service. Check your connection." true true)
    | some answer => w.awaits s (.readingArm target answer) w.state

/-- The stream is open, and the countdown starts. -/
def listens (s : ℕ) (target : TapTargetEntry) (pairingCode : String) (now : ℤ) : ScanHook :=
  { w.awaits s (.listening target pairingCode)
      (.armed target pairingCode (now + opts.ttl * 1000) opts.ttl) with
    eventSource := some s
    countdown := some s }

def onArmBody (s : ℕ) (target : TapTargetEntry) (answer : ArmAnswer) (opens : Bool) (now : ℤ) :
    ScanHook :=
  match answer.reports opts target s with
  | none => w.ends s (.error answer.friendly (answer.status != 503) true)
  | some arm =>
      let w := { w with arm := some arm, reported := w.reported ++ [arm] }
      if s ≠ w.sessionId then w.returns s
      else if !opens then
        w.ends s (.error "Couldn't open the detection stream. Try again." true true)
      else w.listens opts s target arm.pairingCode now

/-! ### Resolution -/

/-- `resolve`, up to its request. -/
def resolve (s : ℕ) (idTag : String) : ScanHook :=
  match opts.resolve with
  | .customerLogin => w.awaits s .loggingIn (.resolving idTag)
  | _ => w.awaits s (.lookingUp idTag) (.resolving idTag)

def onLoginAnswer (s : ℕ) (status : Option ℕ) : ScanHook :=
  if s ≠ w.sessionId then w.returns s
  else
    match status with
    | none => w.ends s (.error "Couldn't finish signing you in. Try again." true false)
    | some status => w.awaits s (.readingLogin status) w.state

def onLoginBody (s status : ℕ) (redirectTo : Option String) : ScanHook :=
  if !isOkStatus status then w.ends s (.error (loginFailure status) true false)
  else
    { w.ends s (.success "Signed in. Redirecting…") with location := some (redirectTo.getD "/") }

/-- `resolve`, once there is a result. -/
def hands (s : ℕ) (result : ScanResult) : ScanHook :=
  match opts.resolve with
  | .callback => w.awaits s .callingBack w.state
  | .route build =>
      { w.ends s (.success ("Opening " ++ build result ++ "…")) with
        location := some (build result) }
  -- it has logged in instead
  | .customerLogin => w.returns s

def lookupFailure (idTag : String) : ScanFlowState :=
  .error ("Couldn't look up " ++ idTag ++ ". Try again.") true false

def onLookupAnswer (s : ℕ) (idTag : String) (status : Option ℕ) : ScanHook :=
  if s ≠ w.sessionId then w.returns s
  else
    match status with
    | none => w.ends s (lookupFailure idTag)
    | some status =>
        if isOkStatus status then w.awaits s (.readingLookup idTag) w.state
        else if opts.purpose = .addTag ∨ opts.purpose = .lookupTag then
          w.hands opts s ⟨idTag, false, none, none, none⟩
        else w.ends s (lookupFailure idTag)

def onLookupBody (s : ℕ) (result : ScanResult) : ScanHook :=
  if s ≠ w.sessionId then w.returns s else w.hands opts s result

def onCallbackEnds (s : ℕ) (thrown : Option (Option String)) : ScanHook :=
  match thrown with
  | none => w.ends s (.success "Done.")
  | some message => w.ends s (.error (message.getD "Something went wrong.") true false)

/-! ### Events -/

def onConnected (s : ℕ) (data : Option ConnectedData) (now : ℤ) : ScanHook :=
  if s ≠ w.sessionId then w
  else
    match data, w.state with
    | some data, .armed target pairingCode expiresAtEpochMs _ =>
        let expiresAt := data.expiresAt expiresAtEpochMs now
        { w with state := .armed target pairingCode expiresAt (max 1 (remainingSec expiresAt now)) }
    | _, _ => w

def onCancelled (s : ℕ) : ScanHook :=
  if s ≠ w.sessionId then w
  else
    -- the server has removed the row
    ScanHook.ends { w.stopListening with arm := none } s
      (.error "Scan was cancelled on the device. Try again?" true false)

def onTimeout (s : ℕ) : ScanHook :=
  if s ≠ w.sessionId then w
  else w.cleanup.ends s (.error "No EV Card detected in time. Try again." true false)

def onMessage (s : ℕ) (target : TapTargetEntry) (pairingCode : String)
    (payload : Option ScanDetectEvent) : ScanHook :=
  if s ≠ w.sessionId then w
  else
    match payload with
    | some payload =>
        if payload.idTag = "" then w
        else
          ScanHook.resolve opts
            { w.stopListening with
              arm := none
              state := .detected target payload.idTag payload.nonce payload.t pairingCode }
            s payload.idTag
    | none => w

def onError (s : ℕ) (closed : Bool) : ScanHook :=
  if s ≠ w.sessionId then w
  else if w.eventSource.isSome && !closed then w
  else if w.state.isTerminal then w
  else
    w.cleanup.ends s (.error "Lost connection to the detection stream. Try again." true true)

/-- The function of `startCountdown`. -/
def onTick (s : ℕ) (now : ℤ) : ScanHook :=
  if s ≠ w.sessionId then w
  else
    match w.state with
    | .armed target pairingCode expiresAtEpochMs _ =>
        let remaining := max 0 (remainingSec expiresAtEpochMs now)
        if remaining ≤ 0 then
          w.cleanup.ends s (.error "No EV Card detected in 90 seconds. Try again." true false)
        else { w with state := .armed target pairingCode expiresAtEpochMs remaining }
    | _ => w

/-! ### Calls -/

/-- The targets that have been loaded, or else they are loaded. -/
def showsPicker : ScanHook :=
  if w.cachedTargets ≠ [] then { w with state := .picker w.cachedTargets }
  else w.loadTargets w.sessionId

def start : ScanHook :=
  let w := w.supersede
  match opts.preselected with
  | some target => w.beginArm target w.sessionId
  | none => w.loadTargets w.sessionId

def selectTarget (t : TapTargetEntry) : ScanHook :=
  let w := w.supersede
  w.beginArm t w.sessionId

def backToPicker : ScanHook := w.supersede.showsPicker

def retry : ScanHook :=
  match w.state with
  | .error _ _ backToPicker =>
      if backToPicker then w.backToPicker
      else
        let w := w.supersede
        match opts.preselected with
        | some target => w.beginArm target w.sessionId
        | none => w.showsPicker
  | _ => w

def submitManual (idTag : String) : ScanHook :=
  let trimmed := trim idTag
  if trimmed = "" then w
  else if opts.mode = .customer then w
  else
    let w := w.supersede
    w.resolve opts w.sessionId trimmed

def shutdown : ScanHook :=
  let w := w.supersede
  w.awaits w.sessionId .releasing w.state

/-! ### Steps -/

def step : HookAction → Option ScanHook
  | .start => some (w.start opts)
  | .selectTarget t => some (w.selectTarget t)
  | .backToPicker => some w.backToPicker
  | .retry => some (w.retry opts)
  | .submitManual idTag => some (w.submitManual opts idTag)
  | .shutdown => some w.shutdown
  | .unmounts => some w.supersede
  | .targetsAnswer s status =>
      match w.phase s with
      | .loadingTargets => some (w.onTargetsAnswer s status)
      | _ => none
  | .targetsBody s devices =>
      match w.phase s with
      | .readingTargets => some (w.onTargetsBody opts s devices)
      | _ => none
  | .armAnswer s answer =>
      match w.phase s with
      | .arming target => some (w.onArmAnswer opts s target answer)
      | _ => none
  | .armBody s opens now =>
      match w.phase s with
      | .readingArm target answer => some (w.onArmBody opts s target answer opens now)
      | _ => none
  | .connected s data now =>
      match w.phase s with
      | .listening _ _ => some (w.onConnected s data now)
      | _ => none
  | .cancelled s =>
      match w.phase s with
      -- it is told of a pairing that has been cancelled
      | .listening _ _ => if s ∈ w.ended then some (w.onCancelled s) else none
      | _ => none
  | .timeout s =>
      match w.phase s with
      | .listening _ _ => some (w.onTimeout s)
      | _ => none
  | .message s payload =>
      match w.phase s with
      | .listening target pairingCode => some (w.onMessage opts s target pairingCode payload)
      | _ => none
  | .streamError s closed =>
      match w.phase s with
      | .listening _ _ => some (w.onError s closed)
      | _ => none
  | .ticks s now => if w.countdown = some s then some (w.onTick s now) else none
  | .loginAnswer s status =>
      match w.phase s with
      | .loggingIn => some (w.onLoginAnswer s status)
      | _ => none
  | .loginBody s redirectTo =>
      match w.phase s with
      | .readingLogin status => some (w.onLoginBody s status redirectTo)
      | _ => none
  | .lookupAnswer s status =>
      match w.phase s with
      | .lookingUp idTag => some (w.onLookupAnswer opts s idTag status)
      | _ => none
  | .lookupBody s isKnown tagPk hasMapping mappingId =>
      match w.phase s with
      | .readingLookup idTag =>
          some (w.onLookupBody opts s ⟨idTag, isKnown, tagPk, hasMapping, mappingId⟩)
      | _ => none
  | .callbackEnds s thrown =>
      match w.phase s with
      | .callingBack => some (w.onCallbackEnds s thrown)
      | _ => none
  | .released s =>
      match w.phase s with
      | .releasing => some (w.ends s .idle)
      | _ => none
  | .serverEnds s => some { w with ended := s :: w.ended }

end ScanHook

end ExpresSync
