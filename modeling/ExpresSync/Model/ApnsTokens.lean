import ExpresSync.Model.LagoSignatures
import ExpresSync.Model.RegistrationClaims

/-!
# Tokens for push messages

`signApnsJwt` and `getApnsJwt` of `apns.ts`: the JWT that goes with a push message, which is signed
anew when the one in memory is too old.  Calls wait for the signature, so several may be signing at
a time.  The signature, which is different each time, comes with the step that makes it; there is
none where the key cannot be loaded or the signing fails.
-/

namespace ExpresSync

/-! ## JSON -/

/-- The digits of `\u00…`. -/
def jsonEscape (c : Char) : List Char :=
  match c with
  | '"' => ['\\', '"']
  | '\\' => ['\\', '\\']
  | '\x08' => ['\\', 'b']
  | '\x0C' => ['\\', 'f']
  | '\n' => ['\\', 'n']
  | '\r' => ['\\', 'r']
  | '\t' => ['\\', 't']
  | c =>
      if c.toNat < 0x20 then
        ['\\', 'u', '0', '0', hexDigit (c.toNat / 16), hexDigit (c.toNat % 16)]
      else [c]

/-- `JSON.stringify` of a text. -/
def jsonText (s : String) : String :=
  String.ofList ('"' :: (s.toList.flatMap jsonEscape ++ ['"']))

/-- `new TextEncoder().encode` -/
def encodeText (s : String) : List UInt8 := s.toUTF8.data.toList

/-! ## Signing -/

/-- What the environment or the configuration has of the key. -/
structure ApnsConfig where
  keyId : String
  teamId : String
  keyBase64 : String

namespace ApnsConfig

variable (config : ApnsConfig)

/-- `JSON.stringify(header)` -/
def header : String :=
  "\x7b\"alg\":\"ES256\",\"kid\":" ++ jsonText config.keyId ++ ",\"typ\":\"JWT\"\x7d"

/-- `JSON.stringify(claims)` -/
def claims (iatSec : ℕ) : String :=
  "\x7b\"iss\":" ++ jsonText config.teamId ++ ",\"iat\":" ++ toString iatSec ++ "\x7d"

/-- What `signApnsJwt` throws before it loads the key. -/
def missing : Option String :=
  if config.keyId = "" then some "APNS_KEY_ID is empty"
  else if config.teamId = "" then some "APNS_TEAM_ID is empty"
  else if config.keyBase64 = "" then some "APNS_KEY_BASE64 is empty"
  else none

def signingInput (iatSec : ℕ) : List Char :=
  base64UrlEncode (encodeText config.header) ++
    '.' :: base64UrlEncode (encodeText (config.claims iatSec))

/-- The JWT with its signature. -/
def jwt (iatSec : ℕ) (signature : List UInt8) : String :=
  String.ofList (config.signingInput iatSec ++ '.' :: base64UrlEncode signature)

end ApnsConfig

/-! ## Calls -/

/-- `JWT_TTL_MS` -/
def jwtTtlMs : ℕ := 50 * 60 * 1000

inductive ApnsPoint where
  | signing
  | returned (token : String)
  | thrown (message : Option String)

/-- A call of `getApnsJwt`, at the time `now`. -/
structure ApnsCall where
  config : ApnsConfig
  now : ℕ
  point : ApnsPoint

structure ApnsWorld where
  now : ℕ
  /-- `cachedJwt`: the token, and `expiresAt`. -/
  cachedJwt : Option (String × ℕ)
  calls : List ApnsCall

inductive ApnsAction where
  | waits (ms : ℕ)
  | calls (config : ApnsConfig)
  | signs (i : ℕ) (signature : Option (List UInt8))
  /-- `_resetApnsJwtCache`, or a new process. -/
  | resets

namespace ApnsWorld

def initial (now : ℕ) : ApnsWorld := ⟨now, none, []⟩

variable (w : ApnsWorld)

/-- What a call comes to at once. -/
def firstPoint (config : ApnsConfig) : ApnsPoint :=
  match w.cachedJwt.filter fun cached => cached.2 > w.now with
  | some (token, _) => .returned token
  | none =>
      match config.missing with
      | some message => .thrown (some message)
      | none => .signing

/-- The JWT of a call has been signed. -/
def sign (i : ℕ) (call : ApnsCall) (signature : List UInt8) : ApnsWorld :=
  let token := call.config.jwt (call.now / 1000) signature
  { w with
    cachedJwt := some (token, call.now + jwtTtlMs)
    calls := w.calls.set i { call with point := .returned token } }

def step : ApnsAction → Option ApnsWorld
  | .waits ms => some { w with now := w.now + ms }
  | .calls config =>
      some { w with calls := w.calls ++ [⟨config, w.now, w.firstPoint config⟩] }
  | .signs i signature =>
      (w.calls[i]?).bind fun call =>
        match call.point, signature with
        | .signing, some signature => some (w.sign i call signature)
        | .signing, none =>
            some { w with calls := w.calls.set i { call with point := .thrown none } }
        | _, _ => none
  | .resets => some { w with cachedJwt := none }

end ApnsWorld

end ExpresSync
