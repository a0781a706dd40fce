import ExpresSync.Model.ArmRequests
import ExpresSync.Model.Types
import Mathlib.Logic.Function.Basic

/-!
# Logging in with a scan

`scan-result.ts`, `scan-detect.ts` and `scan-login.ts`: a card that is tapped is published as
`scan.intercepted`, by `pre-authorize` for chargers and by `scan-result` for devices; the
`scan-detect` stream of the pairing hands the browser the card and a nonce for it; and
`scan-login` exchanges the nonce for a session.  A charger's stream hears of taps from StEvE's log
as well.

A `scan-login` request is followed from one of its awaits to the next.  What is signed goes through
`ScanKeys`; times are epoch milliseconds.
-/

namespace ExpresSync

/-! ## Rate limits -/

/-- `RATE_LIMIT_WINDOW_MS` -/
def rateLimitWindowMs : ℕ := 60 * 1000

/-- The counts of `rate_limits`, by key and start of the window. -/
abbrev RateLimits := String × ℕ → ℕ

/-- Whether a request is allowed, and the counts after it.  When the store fails it is. -/
def checkRateLimit (key : String) (maxRequests now : ℕ) (storeFails : Bool) (limits : RateLimits) :
    Bool × RateLimits :=
  if storeFails then (true, limits)
  else
    let bucket := (key, now / rateLimitWindowMs * rateLimitWindowMs)
    let count := limits bucket + 1
    (decide (count ≤ maxRequests), Function.update limits bucket count)

/-! ## What is signed -/

/-- HMAC-SHA256 in hex, under `AUTH_SECRET` and under the secret of each device. -/
structure ScanKeys where
  sign : String → String
  signDevice : String → String → String

/-- `identifier` of a pairing. -/
def Pairable.identifier (pairingCode : String) : Pairable → String
  | .charger chargeBoxId => chargerPairingIdentifier chargeBoxId pairingCode
  | .device deviceId => devicePairingIdentifier deviceId pairingCode

/-- `pairableId` -/
def Pairable.id : Pairable → String
  | .charger chargeBoxId => chargeBoxId
  | .device deviceId => deviceId

/-- What the nonce of a scan signs. -/
def nonceText (idTag pairingCode : String) (pairable : Pairable) (t : ℤ) : String :=
  idTag ++ ":" ++ pairingCode ++ ":" ++ pairable.id ++ ":" ++ toString t

/-- What a device signs. -/
def scanResultText (idTag pairingCode deviceId : String) (ts : ℤ) : String :=
  "scan-result/v1|" ++ idTag ++ "|" ++ pairingCode ++ "|" ++ deviceId ++ "|" ++ toString ts

/-! ## `scan-result` -/

/-- `CLOCK_SKEW_S` -/
def clockSkewS : ℤ := 60

/-- The body, with `idTag` in upper case, and the device of the bearer. -/
structure ScanResultRequest where
  deviceId : String
  idTag : String
  pairingCode : String
  ts : ℤ
  nonce : String

/-- The request comes to its claim. -/
def ScanResultRequest.accepted (keys : ScanKeys) (now : ℕ) (request : ScanResultRequest) : Bool :=
  let nowS : ℤ := (now / 1000 : ℕ)
  let expected := keys.signDevice request.deviceId
    (scanResultText request.idTag request.pairingCode request.deviceId request.ts)
  decide (|nowS - request.ts| ≤ clockSkewS) && expected == request.nonce.toLower

/-! ## `scan-detect` -/

/-- A `scan.intercepted` event of the bus. -/
structure ScanEvent where
  pairable : Pairable
  pairingCode : String
  idTag : String
  purpose : String
  t : ℕ
deriving DecidableEq

/-- An open stream. -/
structure DetectStream where
  pairable : Pairable
  pairingCode : String
  openedAt : ℕ
deriving DecidableEq

/-- How far back a new stream replays. -/
def detectReplayMs : ℕ := 5 * 1000

/-- The stream hands the event out. -/
def DetectStream.delivers (stream : DetectStream) (event : ScanEvent) : Bool :=
  event.pairable == stream.pairable && event.pairingCode == stream.pairingCode &&
    decide (stream.openedAt < event.t + detectReplayMs)

/-- A line of StEvE's log that reports a rejected card. -/
structure LogReject where
  chargeBoxId : String
  idTag : String
deriving DecidableEq

/-- What a stream hands out: `{ idTag, nonce, t }`. -/
structure ScanMessage where
  stream : DetectStream
  idTag : String
  nonce : String
  t : ℕ
deriving DecidableEq

/-- What the nonce of the message signs. -/
def ScanMessage.text (message : ScanMessage) : String :=
  nonceText message.idTag message.stream.pairingCode message.stream.pairable message.t

/-- `emit` -/
def DetectStream.emit (keys : ScanKeys) (stream : DetectStream) (idTag : String) (t : ℕ) :
    ScanMessage where
  stream := stream
  idTag := idTag
  nonce := keys.sign (nonceText idTag stream.pairingCode stream.pairable t)
  t := t

/-- The row a stream is opened for. -/
def Verification.detectableAs (identifier : String) (now : ℕ) (row : Verification) : Bool :=
  row.identifier == identifier && row.isLive now && row.value.status == some .armed

/-! ## `scan-login` -/

/-- `REPLAY_WINDOW_MS` -/
def replayWindowMs : ℤ := 60000

def scanLoginRatePerIp : ℕ := 10

/-- The body, with `idTag` trimmed, and the address it comes from. -/
structure LoginRequest where
  ip : String
  pairingCode : String
  chargeBoxId : String
  deviceId : String
  idTag : String
  nonce : String
  t : ℤ
deriving DecidableEq

namespace LoginRequest

variable (request : LoginRequest)

/-- Nothing is missing, and exactly one of charger and device is named. -/
def isValid : Bool :=
  request.pairingCode != "" && request.idTag != "" && request.nonce != "" &&
    ((request.chargeBoxId != "") != (request.deviceId != ""))

def pairable : Pairable :=
  if request.deviceId != "" then .device request.deviceId else .charger request.chargeBoxId

def identifier : String := request.pairable.identifier request.pairingCode

/-- What the nonce of the request has to sign. -/
def text : String := nonceText request.idTag request.pairingCode request.pairable request.t

/-- The first check. -/
def nonceMatches (keys : ScanKeys) : Bool := keys.sign request.text == request.nonce.toLower

/-- The second check. -/
def isFresh (now : ℕ) : Bool :=
  let ageMs : ℤ := now - request.t
  decide (0 ≤ ageMs ∧ ageMs ≤ replayWindowMs)

end LoginRequest

/-- A user's row. -/
structure UserRow where
  id : String
  role : String
deriving DecidableEq

/-- Where a request is, with the row it has consumed and how it found it. -/
inductive LoginPoint where
  /-- Before the limit of its pairing and the checks of its nonce. -/
  | posted
  /-- Before the consume. -/
  | verified
  /-- Before the look-up of the mapping. -/
  | consumed (row : Verification)
  /-- Before the look-up of the user. -/
  | mapped (row : Verification) (userId : String)
  /-- Before the session is made. -/
  | authorized (row : Verification) (user : UserRow)
deriving DecidableEq

/-- The row the request has consumed, as it found it. -/
def LoginPoint.row? : LoginPoint → Option Verification
  | .posted | .verified => none
  | .consumed row | .mapped row _ | .authorized row _ => some row

/-- A request in flight. -/
structure Login where
  request : LoginRequest
  point : LoginPoint
deriving DecidableEq

/-- A session, with the request it was made for and the row that request had consumed. -/
structure ScanSession where
  request : LoginRequest
  row : Verification
  userId : String
deriving DecidableEq

/-- The mapping the look-up returns may be this one. -/
def isMappingOf (idTag : String) (mapping : UserMapping) : Bool :=
  mapping.steveOcppIdTag == idTag && mapping.isActive

/-! ## The system -/

/-- A row that a `pre-authorize` call has matched, as it found it, and when. -/
structure TagMatch where
  row : Verification
  idTag : String
  now : ℕ
deriving DecidableEq

/-- A row that a `scan-result` request has claimed, as it found it. -/
structure TagClaim where
  row : Verification
  request : ScanResultRequest

structure ScanWorld where
  arm : ArmWorld
  limits : RateLimits
  mappings : List UserMapping
  users : List UserRow
  events : List ScanEvent
  /-- The lines of the log that streams have heard of. -/
  rejects : List LogReject
  streams : List DetectStream
  messages : List ScanMessage
  logins : List Login
  sessions : List ScanSession
  /-- What `pre-authorize` has matched so far. -/
  tagMatches : List TagMatch
  /-- What `scan-result` has claimed so far. -/
  tagClaims : List TagClaim

inductive ScanAction where
  /-- Time passes, an arm request takes a step, or a pairing is released. -/
  | arms (action : ArmAction)
  | preAuthorizes (chargeBoxId idTag : String) (locked : List ℕ) (target : Option ℕ)
  | scanResult (request : ScanResultRequest)
  | detectOpens (pairable : Pairable) (pairingCode : String)
  | detectEnds (i : ℕ)
  /-- The stream `i` hears of the event `k`. -/
  | detectHears (i k : ℕ)
  /-- The log reports to the stream `i` that the card was rejected at its charger. -/
  | logRejects (i : ℕ) (idTag : String)
  | loginPosts (request : LoginRequest) (storeFails : Bool)
  | loginVerifies (i : ℕ) (storeFails : Bool)
  | loginConsumes (i : ℕ)
  /-- `found` is the mapping the look-up returns. -/
  | loginMaps (i : ℕ) (found : Option UserMapping)
  | loginFindsUser (i : ℕ)
  | loginMints (i : ℕ)
  /-- A statement of the request `i` fails. -/
  | loginFails (i : ℕ)
  /-- The row of the session `k` is removed. -/
  | cleansUp (k : ℕ)

/-- The action has a step of its own in the system, or an effect beyond the table. -/
def PairingAction.isScan : PairingAction → Bool
  | .preAuthorizes _ _ _ _ | .logsIn _ _ | .scanResult _ _ | .cleansUp _ => true
  | _ => false

def ArmAction.isScan : ArmAction → Bool
  | .pairing action => action.isScan
  | _ => false

namespace ScanWorld

def initial (mappings : List UserMapping) (users : List UserRow) : ScanWorld where
  arm := .initial
  limits := fun _ => 0
  mappings := mappings
  users := users
  events := []
  rejects := []
  streams := []
  messages := []
  logins := []
  sessions := []
  tagMatches := []
  tagClaims := []

variable (w : ScanWorld)

def now : ℕ := w.arm.pairings.now

def table : VerificationTable := w.arm.pairings.table

/-- The system with the pairings after a step of their own. -/
def withPairings (pairings : PairingWorld) : ScanWorld :=
  { w with arm := { w.arm with pairings } }

/-- The request `i` goes on to `point`. -/
def advance (i : ℕ) (request : LoginRequest) (point : LoginPoint) : ScanWorld :=
  { w with logins := w.logins.eraseIdx i ++ [⟨request, point⟩] }

/-- The request `i` is answered. -/
def answer (i : ℕ) : ScanWorld := { w with logins := w.logins.eraseIdx i }

/-- A `pre-authorize` call, whose `UPDATE` writes the row `target`. -/
def preAuthorize (chargeBoxId idTag : String) (target : Option Verification) : ScanWorld :=
  let published := (preAuthorizeResponse chargeBoxId idTag target).event
  { w with
    events := w.events ++ published.toList.map fun event =>
      ⟨.charger event.pairableId, event.pairingCode, event.idTag, event.purpose, w.now⟩
    tagMatches := w.tagMatches ++ target.toList.map fun row => ⟨row, idTag, w.now⟩ }

/-- A `scan-result` request, whose `UPDATE` returns `rows`. -/
def scanResult (request : ScanResultRequest) (rows : List Verification) : ScanWorld :=
  match rows with
  | [row] =>
      { w with
        events := w.events ++
          [⟨.device request.deviceId, request.pairingCode, request.idTag,
            row.value.purpose.getD "login", w.now⟩]
        tagClaims := w.tagClaims ++ [⟨row, request⟩] }
  | _ => w

/-- A `scan-login` request, whose `UPDATE` returns `rows`. -/
def loginConsumes (i : ℕ) (request : LoginRequest) (rows : List Verification) : ScanWorld :=
  match rows with
  | [row] => w.advance i request (.consumed row)
  | _ => w.answer i

/-- The mapping of the look-up: `none` when it cannot have returned that one. -/
def findMapping (idTag : String) : Option UserMapping → Option (Option UserMapping)
  | none => if ∃ mapping ∈ w.mappings, isMappingOf idTag mapping = true then none else some none
  | some mapping =>
      if mapping ∈ w.mappings ∧ isMappingOf idTag mapping = true then some (some mapping) else none

/-- A tap of the card at the charger or device has been published, or the log has reported it. -/
def Reported (pairable : Pairable) (idTag : String) : Prop :=
  (∃ event ∈ w.events, event.pairable = pairable ∧ event.idTag = idTag) ∨
    ∃ reject ∈ w.rejects, .charger reject.chargeBoxId = pairable ∧ reject.idTag = idTag

def findUser (userId : String) : Option UserRow := w.users.find? fun user => user.id == userId

end ScanWorld

namespace ScanWorld

variable (keys : ScanKeys)

def step (w : ScanWorld) : ScanAction → Option ScanWorld
  | .arms action =>
      if action.isScan then none else (w.arm.step action).map fun arm => { w with arm }
  | .preAuthorizes chargeBoxId idTag locked target =>
      (w.arm.pairings.step (.preAuthorizes chargeBoxId idTag locked target)).bind fun pairings =>
        (w.arm.pairings.preAuthorizeTarget chargeBoxId idTag locked target).map fun target =>
          (w.preAuthorize chargeBoxId idTag target).withPairings pairings
  | .scanResult request =>
      if request.accepted keys w.now then
        let identifier := devicePairingIdentifier request.deviceId request.pairingCode
        (w.arm.pairings.step (.scanResult identifier request.idTag)).map fun pairings =>
          (w.scanResult request (w.table.rows.filter (Verification.claimableBy identifier w.now))
            ).withPairings pairings
      else some w
  | .detectOpens pairable pairingCode =>
      if pairingCode ≠ "" ∧ pairable.id ≠ "" ∧
          ∃ row ∈ w.table.rows, row.detectableAs (pairable.identifier pairingCode) w.now = true then
        some { w with streams := w.streams ++ [⟨pairable, pairingCode, w.now⟩] }
      else some w
  | .detectEnds i => some { w with streams := w.streams.eraseIdx i }
  | .detectHears i k =>
      w.streams[i]?.bind fun stream => w.events[k]?.bind fun event =>
        if stream.delivers event then
          some { w with messages := w.messages ++ [stream.emit keys event.idTag event.t] }
        else none
  | .logRejects i idTag =>
      w.streams[i]?.bind fun stream =>
        match stream.pairable with
        | .charger chargeBoxId =>
            if idTag ≠ "" then
              some { w with
                rejects := w.rejects ++ [⟨chargeBoxId, idTag⟩]
                messages := w.messages ++ [stream.emit keys idTag w.now] }
            else none
        | .device _ => none
  | .loginPosts request storeFails =>
      let (allowed, limits) := checkRateLimit ("scanlogin:ip:" ++ request.ip) scanLoginRatePerIp
        w.now storeFails w.limits
      if allowed && request.isValid then
        some { w with limits, logins := w.logins ++ [⟨request, .posted⟩] }
      else some { w with limits }
  | .loginVerifies i storeFails =>
      w.logins[i]?.bind fun login =>
        match login.point with
        | .posted =>
            let (allowed, limits) := checkRateLimit
              ("scanlogin:pairing:" ++ login.request.pairingCode) 1 w.now storeFails w.limits
            let w := { w with limits }
            if allowed && login.request.nonceMatches keys && login.request.isFresh w.now then
              some (w.advance i login.request .verified)
            else some (w.answer i)
        | _ => none
  | .loginConsumes i =>
      w.logins[i]?.bind fun login =>
        match login.point with
        | .verified =>
            let request := login.request
            (w.arm.pairings.step (.logsIn request.identifier request.idTag)).map fun pairings =>
              (w.loginConsumes i request (w.table.rows.filter
                (Verification.consumableBy request.identifier request.idTag w.now))
                ).withPairings pairings
        | _ => none
  | .loginMaps i found =>
      w.logins[i]?.bind fun login =>
        match login.point with
        | .consumed row =>
            (w.findMapping login.request.idTag found).map fun mapping =>
              match mapping.bind UserMapping.userId with
              | some userId =>
                  if userId ≠ "" then w.advance i login.request (.mapped row userId)
                  else w.answer i
              | none => w.answer i
        | _ => none
  | .loginFindsUser i =>
      w.logins[i]?.bind fun login =>
        match login.point with
        | .mapped row userId =>
            match w.findUser userId with
            | some user =>
                if user.role = "customer" then
                  some (w.advance i login.request (.authorized row user))
                else some (w.answer i)
            | none => some (w.answer i)
        | _ => none
  | .loginMints i =>
      w.logins[i]?.bind fun login =>
        match login.point with
        | .authorized row user =>
            some { w.answer i with
              sessions := w.sessions ++ [⟨login.request, row, user.id⟩] }
        | _ => none
  | .loginFails i => some (w.answer i)
  | .cleansUp k =>
      w.sessions[k]?.bind fun session =>
        (w.arm.pairings.step (.cleansUp session.row.id)).map w.withPairings

end ScanWorld

end ExpresSync
