import ExpresSync.Model.Types

/-!
# Signed webhooks

`verifyLagoSignature` of `lago-signature.ts`, and `POST /api/webhook/lago` with what
`persistWebhookEvent` stores.  A request is one step.

The functions of the web platform that the source calls are a parameter, `WebPlatform`; `atob` is
written out.  `none` is an exception where a function of the source throws one.
-/

namespace ExpresSync

/-! ## Base64 -/

/-- The value of a digit of base64. -/
def base64Value (c : Char) : Option ℕ :=
  if 'A' ≤ c ∧ c ≤ 'Z' then some (c.toNat - 'A'.toNat)
  else if 'a' ≤ c ∧ c ≤ 'z' then some (c.toNat - 'a'.toNat + 26)
  else if '0' ≤ c ∧ c ≤ '9' then some (c.toNat - '0'.toNat + 52)
  else if c = '+' then some 62
  else if c = '/' then some 63
  else none

/-- The bytes of a row of digits; bits that do not fill a byte are dropped. -/
def base64Bytes : List ℕ → Option (List UInt8)
  | [] => some []
  | [_] => none
  | [a, b] => some [.ofNat ((a * 64 + b) / 16)]
  | [a, b, c] =>
      let bits := (a * 64 + b) * 64 + c
      some [.ofNat (bits / 1024), .ofNat (bits / 4)]
  | a :: b :: c :: d :: rest =>
      let bits := ((a * 64 + b) * 64 + c) * 64 + d
      (base64Bytes rest).map fun bytes =>
        .ofNat (bits / 65536) :: .ofNat (bits / 256) :: .ofNat bits :: bytes

def isAsciiWhitespace (c : Char) : Bool := [0x09, 0x0A, 0x0C, 0x0D, 0x20].contains c.toNat

def dropPadding (cs : List Char) : List Char := if cs.getLast? = some '=' then cs.dropLast else cs

def atob (s : String) : Option (List UInt8) :=
  let cs := s.toList.filter fun c => !isAsciiWhitespace c
  let cs := if cs.length % 4 = 0 then dropPadding (dropPadding cs) else cs
  (cs.mapM base64Value).bind base64Bytes

def base64UrlDecodeToBytes (s : String) : Option (List UInt8) :=
  let b64 := s.toList.map fun c => if c = '-' then '+' else if c = '_' then '/' else c
  let pad := if b64.length % 4 = 0 then [] else List.replicate (4 - b64.length % 4) '='
  atob (String.ofList (b64 ++ pad))

/-- `s.replace(pattern, "")` -/
def removeFirst (pattern : List Char) : List Char → List Char
  | [] => []
  | c :: cs =>
      if pattern.isPrefixOf (c :: cs) then (c :: cs).drop pattern.length
      else c :: removeFirst pattern cs

def pemToDer (pem : String) : Option (List UInt8) :=
  let body := removeFirst "-----BEGIN PUBLIC KEY-----".toList pem.toList
  let body := removeFirst "-----END PUBLIC KEY-----".toList body
  atob (String.ofList (body.filter fun c => !isStrWhiteSpace c))

/-! ## Signatures -/

/-- What the source calls. -/
structure WebPlatform (Key : Type*) where
  /-- `new TextDecoder().decode` -/
  decodeText : List UInt8 → String
  /-- `JSON.parse` -/
  parseJson : String → Option JsonValue
  /-- `crypto.subtle.importKey` -/
  importKey : List UInt8 → Option Key
  /-- `crypto.subtle.verify`, of a text in UTF-8. -/
  verify : Key → List UInt8 → String → Option Bool

namespace WebPlatform

variable {Key : Type*} (platform : WebPlatform Key)

def importPublicKey (pem : String) : Option Key := (pemToDer pem).bind platform.importKey

/-- Whether the JWT declares RS256 and its signature is one of the first two parts. -/
def verifyLagoSignature (jwt publicKeyPem : String) : Option Bool :=
  match jwt.toList.splitOn '.' with
  | [headerB64, payloadB64, sigB64] =>
      match (base64UrlDecodeToBytes (String.ofList headerB64)).bind fun bytes =>
        platform.parseJson (platform.decodeText bytes) with
      | none => some false
      -- `null` has no `alg`.
      | some .null => none
      | some headerJson =>
          if (headerJson.get? "alg").bind JsonValue.asString? ≠ some "RS256" then some false
          else
            let signingInput := String.ofList (headerB64 ++ '.' :: payloadB64)
            match base64UrlDecodeToBytes (String.ofList sigB64) with
            -- not in a `try`
            | none => none
            | some signature =>
                match platform.importPublicKey publicKeyPem with
                | none => some false
                | some key => some ((platform.verify key signature signingInput).getD false)
  | _ => some false

end WebPlatform

/-! ## The public key -/

/-- `PUBLIC_KEY_TTL_MS` -/
def publicKeyTtlMs : ℕ := 5 * 60 * 1000

structure CachedPublicKey where
  pem : String
  fetchedAt : ℕ
deriving DecidableEq

/-- What `Date.now` and, if it is called, `getWebhookPublicKey` say. -/
structure KeyFetch where
  now : ℕ
  pem : Option String
deriving DecidableEq

/-- The key, and the cache afterwards. -/
def getPublicKey (cachedPublicKey : Option CachedPublicKey) (forceRefresh : Bool)
    (fetch : KeyFetch) : Option String × Option CachedPublicKey :=
  match cachedPublicKey.filter fun entry =>
    !forceRefresh && decide (fetch.now - entry.fetchedAt < publicKeyTtlMs) with
  | some entry => (some entry.pem, cachedPublicKey)
  | none =>
      match fetch.pem with
      | some pem => (some pem, some ⟨pem, fetch.now⟩)
      | none => (none, cachedPublicKey)

/-! ## Events -/

structure WebhookIdentifiers where
  objectType : Option String
  lagoObjectId : Option String
  externalCustomerId : Option String
  externalSubscriptionId : Option String
deriving DecidableEq

/-- `webhook_type`, if it is a string. -/
def JsonValue.webhookType (body : JsonValue) : Option String :=
  (body.get? "webhook_type").bind asString?

/-- The keys under which the object of a webhook is looked for. -/
def webhookObjectKeys : List String :=
  ["invoice", "customer", "subscription", "wallet", "wallet_transaction", "alert", "credit_note",
    "payment", "payment_request", "fee", "event"]

/-- `pickStr` -/
def pickStr (value : Option JsonValue) (key : String) : Option String :=
  (value.bind (JsonValue.get? key)).bind JsonValue.asString?

/-- The external id of the customer, or of the customer inside. -/
def pickCustomerId (inner : Option JsonValue) : Option String :=
  let own := pickStr inner "external_customer_id"
  if own.getD "" ≠ "" then own
  else
    match inner.bind (JsonValue.get? "customer") with
    | some customer => if customer.isTypeofObject then pickStr (some customer) "external_id"
      else own
    | none => own

/-- The external id of the subscription, or of the first of the subscriptions inside. -/
def pickSubscriptionId (inner : Option JsonValue) : Option String :=
  let own :=
    (pickStr inner "external_subscription_id").or (pickStr inner "subscription_external_id")
  if own.getD "" ≠ "" then own
  else
    match inner.bind (JsonValue.get? "subscriptions") with
    | some (.array (.object fields :: _)) => pickStr (some (.object fields)) "external_id"
    -- An array is an object, but has no such key.
    | some (.array (.array _ :: _)) => none
    | _ => own

def extractIdentifiers (body : JsonValue) : Option WebhookIdentifiers :=
  match body with
  -- `in` throws.
  | .bool _ | .number _ | .string _ => none
  | _ =>
      let objectType := (body.get? "object_type").bind JsonValue.asString?
      let candidateKeys :=
        (objectType.toList ++ webhookObjectKeys).filter fun key => (body.get? key).isSome
      let inner := candidateKeys.findSome? fun key => (body.get? key).bind JsonValue.asObject?
      some {
        objectType
        lagoObjectId := pickStr inner "lago_id"
        externalCustomerId := pickCustomerId inner
        externalSubscriptionId := pickSubscriptionId inner }

/-- A row of `lago_webhook_events`, as it is inserted. -/
structure LagoWebhookEvent where
  webhookType : String
  identifiers : WebhookIdentifiers
  rawPayload : JsonValue

/-- The row that `persistWebhookEvent` inserts. -/
def LagoWebhookEvent.ofBody (body : JsonValue) : Option LagoWebhookEvent :=
  (extractIdentifiers body).map fun identifiers =>
    { webhookType := body.webhookType.getD "unknown"
      identifiers
      rawPayload := match body with
        | .null => .object []
        | _ => body }

/-! ## Requests -/

/-- A request, with what it meets. -/
structure WebhookPost where
  /-- The body; `none` when it cannot be read. -/
  raw : Option String
  /-- The `X-Lago-Signature` header. -/
  signature : Option String
  fetch : KeyFetch
  /-- For the second try. -/
  refetch : KeyFetch
  /-- The id that the `INSERT` returns. -/
  inserted : Option ℕ
deriving DecidableEq

structure WebhookResponse where
  status : ℕ
  received : Bool
  error : Option String
  rowId : Option ℕ
deriving DecidableEq

structure WebhookInbox where
  /-- The bodies and headers that Lago has sent. -/
  genuine : List (String × String)
  cachedPublicKey : Option CachedPublicKey
  events : List (ℕ × LagoWebhookEvent)
  /-- The calls of `dispatch`. -/
  dispatched : List (JsonValue × ℕ)

inductive WebhookInboxAction where
  /-- Lago signs and sends a webhook, which an attacker sees. -/
  | signs (raw signature : String)
  | posts (post : WebhookPost)
deriving DecidableEq

namespace WebhookInbox

section

variable {Key : Type*} (platform : WebPlatform Key) (w : WebhookInbox)

def start : WebhookInbox := ⟨[], none, [], []⟩

/-- Whether a key verifies the signature. -/
def verifiedBy (signature : String) : Option String → Option Bool
  | none => some false
  | some pem => if pem = "" then some false else platform.verifyLagoSignature signature pem

/-- The verification, with a second try under a key that is fetched anew. -/
def verified (signature : String) (post : WebhookPost) : Option Bool × Option CachedPublicKey :=
  let (pem, cachedPublicKey) := getPublicKey w.cachedPublicKey false post.fetch
  match verifiedBy platform signature pem with
  | some false =>
      let (pem, cachedPublicKey) := getPublicKey cachedPublicKey true post.refetch
      (verifiedBy platform signature pem, cachedPublicKey)
  | answer => (answer, cachedPublicKey)

def parseBody (raw : String) : Option JsonValue :=
  if raw = "" then some (.object []) else platform.parseJson raw

/-- What happens to the body of a verified request. -/
def receive (raw : String) (inserted : Option ℕ) : WebhookResponse × WebhookInbox :=
  match parseBody platform raw with
  | none => (⟨200, true, some "invalid_json", none⟩, w)
  | some body =>
      match LagoWebhookEvent.ofBody body, inserted with
      | some event, some rowId =>
          (⟨200, true, none, some rowId⟩,
            { w with
              events := w.events ++ [(rowId, event)]
              dispatched := w.dispatched ++ [(body, rowId)] })
      | _, _ => (⟨200, true, some "persist_failed", none⟩, w)

/-- What follows the verification; no response means that the handler throws. -/
def respond (raw : String) (inserted : Option ℕ) :
    Option Bool → Option WebhookResponse × WebhookInbox
  | none => (none, w)
  | some false => (some ⟨401, false, some "invalid_signature", none⟩, w)
  | some true => (w.receive platform raw inserted).map some id

/-- `POST /api/webhook/lago` -/
def post (post : WebhookPost) : Option WebhookResponse × WebhookInbox :=
  match post.raw with
  | none => (some ⟨200, true, some "body_read_failed", none⟩, w)
  | some raw =>
      match post.signature.filter (· ≠ "") with
      | none => (some ⟨401, false, some "missing_signature", none⟩, w)
      | some signature =>
          let (answer, cachedPublicKey) := w.verified platform signature post
          { w with cachedPublicKey := cachedPublicKey }.respond platform raw post.inserted answer

def step (w : WebhookInbox) : WebhookInboxAction → Option WebhookInbox
  | .signs raw signature => some { w with genuine := w.genuine ++ [(raw, signature)] }
  | .posts post => some (w.post platform post).2

/-- Lago has sent this body. -/
def IsGenuine (body : JsonValue) : Prop :=
  ∃ sent ∈ w.genuine, parseBody platform sent.1 = some body

/-- Whatever is stored and dispatched is the body of a webhook of Lago. -/
structure AllGenuine : Prop where
  stored : ∀ event ∈ w.events, ∃ body, w.IsGenuine platform body ∧
    LagoWebhookEvent.ofBody body = some event.2
  dispatched : ∀ call ∈ w.dispatched, w.IsGenuine platform call.1

end

end WebhookInbox

end ExpresSync
