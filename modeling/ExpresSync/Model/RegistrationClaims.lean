import ExpresSync.Foundation.Sql
import ExpresSync.Model.DeviceRegistration

/-!
# Codes that are minted and claimed

`mintOneTimeCode` and `claimOneTimeCode` of `registration.ts`, at each of their awaits.  In
`Model.DeviceRegistration` a claim is part of a registration, and its digests are computed along
with its statements.

`sha256` is the digest of a text's UTF-8 bytes.
-/

namespace ExpresSync

/-! ## Digests -/

/-- `n.toString(16)` for a digit. -/
def hexDigit (n : ℕ) : Char := Char.ofNat (if n < 10 then 0x30 + n else 0x57 + n)

/-- `byte.toString(16).padStart(2, "0")` -/
def hexByte (byte : UInt8) : List Char := [hexDigit (byte.toNat / 16), hexDigit (byte.toNat % 16)]

/-- A digit of base64url. -/
def base64UrlDigit (n : ℕ) : Char :=
  if n < 26 then Char.ofNat (0x41 + n)
  else if n < 52 then Char.ofNat (0x61 + (n - 26))
  else if n < 62 then Char.ofNat (0x30 + (n - 52))
  else if n = 62 then '-' else '_'

def base64UrlEncode : List UInt8 → List Char
  | [] => []
  | [a] => [base64UrlDigit (a.toNat / 4), base64UrlDigit (a.toNat % 4 * 16)]
  | [a, b] =>
      [base64UrlDigit (a.toNat / 4), base64UrlDigit (a.toNat % 4 * 16 + b.toNat / 16),
        base64UrlDigit (b.toNat % 16 * 4)]
  | a :: b :: c :: rest =>
      base64UrlDigit (a.toNat / 4) :: base64UrlDigit (a.toNat % 4 * 16 + b.toNat / 16) ::
        base64UrlDigit (b.toNat % 16 * 4 + c.toNat / 64) :: base64UrlDigit (c.toNat % 64) ::
          base64UrlEncode rest

section

variable (sha256 : String → Vector UInt8 32)

def sha256Hex (input : String) : String := String.ofList ((sha256 input).toList.flatMap hexByte)

def sha256Base64Url (input : String) : String :=
  String.ofList (base64UrlEncode (sha256 input).toList)

end

/-! ## Rows -/

/-- `buildIdentifier` -/
def buildIdentifier (userId hashedCode : String) : String :=
  "expresscan-register:" ++ userId ++ ":" ++ hashedCode

/-- The pattern of the look-up. -/
def identifierPattern (hashedCode : String) : List Char :=
  "expresscan-register:".toList ++ '%' :: ':' :: hashedCode.toList

/-- The row is one that the look-up may return at `now`. -/
def RegistrationCode.IsFound (now : ℕ) (hashedCode : String) (code : RegistrationCode) : Prop :=
  Sql.like (buildIdentifier code.userId code.hashedCode).toList (identifierPattern hashedCode) =
    true ∧
    now < code.expiresAt

instance (now : ℕ) (hashedCode : String) (code : RegistrationCode) :
    Decidable (code.IsFound now hashedCode) := inferInstanceAs (Decidable (_ ∧ _))

/-! ## Calls -/

/-- How a statement ends. -/
inductive StatementFate where
  | answers
  | fails
  /-- It takes effect, and its answer is lost. -/
  | answerLost
deriving DecidableEq

structure MintCall where
  userId : String
  codeChallenge : String
  label : String
  requestedCapabilities : List DeviceCapability
  rawCode : String
  /-- `expiresAt`, once the digest of the code is there. -/
  expiresAt : Option ℕ
deriving DecidableEq

/-- Where a call of `claimOneTimeCode` stands. -/
inductive ClaimPoint where
  /-- Before `sha256Hex(rawCode)`. -/
  | hashing
  /-- Before the `SELECT`. -/
  | lookingUp
  /-- Before `sha256Base64Url(codeVerifier)`, with the row that has been read. -/
  | verifying (row : RegistrationCode)
  /-- Before the `UPDATE`. -/
  | consuming (row : RegistrationCode)
deriving DecidableEq

structure ClaimCall where
  rawCode : String
  codeVerifier : String
  point : ClaimPoint
deriving DecidableEq

/-- A claim that has returned a payload. -/
structure SuccessfulClaim where
  rawCode : String
  codeVerifier : String
  codeId : ℕ
  /-- When the row was consumed. -/
  claimedAt : ℕ
  payload : ClaimedCodePayload
deriving DecidableEq

structure CodeWorld where
  now : ℕ
  codes : RegistrationCodeTable
  mints : List MintCall
  calls : List ClaimCall
  /-- The rows that have been inserted, and the raw codes they are for. -/
  minted : List (ℕ × String)
  claims : List SuccessfulClaim

inductive CodeAction where
  | waits (ms : ℕ)
  /-- `mintOneTimeCode` with this random code. -/
  | mints (userId codeChallenge label : String) (requestedCapabilities : List DeviceCapability)
      (rawCode : String)
  | hashesMint (j : ℕ) (fails : Bool)
  | inserts (j : ℕ) (fate : StatementFate)
  /-- `claimOneTimeCode` -/
  | claims (rawCode codeVerifier : String)
  | hashes (i : ℕ) (fails : Bool)
  /-- The `SELECT … LIMIT 1`, with the row that it returns. -/
  | looksUp (i : ℕ) (found : Option ℕ) (fails : Bool)
  | verifies (i : ℕ) (fails : Bool)
  | consumes (i : ℕ) (fate : StatementFate)

/-- The lengths that `claimOneTimeCode` takes. -/
def AcceptsLengths (rawCode codeVerifier : String) : Prop :=
  0 < codeUnits rawCode ∧ codeUnits rawCode ≤ 256 ∧ 43 ≤ codeUnits codeVerifier ∧
    codeUnits codeVerifier ≤ 256

instance (rawCode codeVerifier : String) : Decidable (AcceptsLengths rawCode codeVerifier) :=
  inferInstanceAs (Decidable (_ ∧ _ ∧ _ ∧ _))

namespace CodeWorld

def initial (now : ℕ) : CodeWorld := ⟨now, SerialTable.empty, [], [], [], []⟩

variable (sha256 : String → Vector UInt8 32) (w : CodeWorld)

/-- The row of a mint. -/
def insertCode (call : MintCall) (expiresAt : ℕ) : CodeWorld :=
  { w with
    codes := w.codes.insert (fun id =>
      ⟨id, call.userId, sha256Hex sha256 call.rawCode, call.codeChallenge, call.label,
        call.requestedCapabilities, .armed, expiresAt⟩) fun _ => rfl
    minted := w.minted ++ [(w.codes.next, call.rawCode)] }

/-- The call `i` goes on. -/
def goOn (i : ℕ) (call : ClaimCall) (point : ClaimPoint) : CodeWorld :=
  { w with calls := w.calls.eraseIdx i ++ [{ call with point := point }] }

/-- The call `i` returns `null`. -/
def returnNull (i : ℕ) : CodeWorld := { w with calls := w.calls.eraseIdx i }

/-- The look-up of the call `i`, and the check of the row's status. -/
def lookUp (i : ℕ) (call : ClaimCall) : Option ℕ → Option CodeWorld
  | none =>
      if ∀ code ∈ w.codes.rows, ¬code.IsFound w.now (sha256Hex sha256 call.rawCode) then
        some (w.returnNull i)
      else none
  | some id =>
      (w.codes.get? id).bind fun row =>
        if row.IsFound w.now (sha256Hex sha256 call.rawCode) then
          some (if row.status = .armed then w.goOn i call (.verifying row) else w.returnNull i)
        else none

/-- The rows that the `UPDATE` of a claim selects. -/
def isConsumable (codeId : ℕ) (code : RegistrationCode) : Bool :=
  decide (code.id = codeId ∧ w.now < code.expiresAt ∧ code.status = .armed)

lemma id_consumed (code : RegistrationCode) :
    ({ code with status := .consumed } : RegistrationCode).id = code.id := rfl

def consumeRow (codeId : ℕ) : CodeWorld :=
  { w with
    codes := w.codes.update (w.isConsumable codeId) (fun code => { code with status := .consumed })
      id_consumed }

/-- The `UPDATE` of the call `i`. -/
def consume (i : ℕ) (call : ClaimCall) (row : RegistrationCode) : StatementFate → CodeWorld
  | .fails => w.returnNull i
  | .answerLost => (w.consumeRow row.id).returnNull i
  | .answers =>
      if w.codes.rows.countP (w.isConsumable row.id) = 1 then
        { (w.consumeRow row.id).returnNull i with
          claims := w.claims ++ [⟨call.rawCode, call.codeVerifier, row.id, w.now, row.claimed⟩] }
      else (w.consumeRow row.id).returnNull i

def step : CodeAction → Option CodeWorld
  | .waits ms => some { w with now := w.now + ms }
  | .mints userId codeChallenge label requestedCapabilities rawCode =>
      some { w with
        mints := w.mints ++ [⟨userId, codeChallenge, label, requestedCapabilities, rawCode, none⟩] }
  | .hashesMint j fails =>
      w.mints[j]?.bind fun call =>
        if call.expiresAt ≠ none then none
        else some { w with
          mints := w.mints.eraseIdx j ++
            if fails then [] else [{ call with expiresAt := some (w.now + oneTimeCodeTtlMs) }] }
  | .inserts j fate =>
      w.mints[j]?.bind fun call =>
        call.expiresAt.map fun expiresAt =>
          let w' := { w with mints := w.mints.eraseIdx j }
          if fate = .fails then w' else w'.insertCode sha256 call expiresAt
  | .claims rawCode codeVerifier =>
      some (if AcceptsLengths rawCode codeVerifier then
        { w with calls := w.calls ++ [⟨rawCode, codeVerifier, .hashing⟩] }
      else w)
  | .hashes i fails =>
      w.calls[i]?.bind fun call =>
        match call.point with
        | .hashing => some (if fails then w.returnNull i else w.goOn i call .lookingUp)
        | _ => none
  | .looksUp i found fails =>
      w.calls[i]?.bind fun call =>
        match call.point with
        | .lookingUp => if fails then some (w.returnNull i) else w.lookUp sha256 i call found
        | _ => none
  | .verifies i fails =>
      w.calls[i]?.bind fun call =>
        match call.point with
        | .verifying row =>
            some (if !fails && sha256Base64Url sha256 call.codeVerifier = row.codeChallenge then
              w.goOn i call (.consuming row)
            else w.returnNull i)
        | _ => none
  | .consumes i fate =>
      w.calls[i]?.bind fun call =>
        match call.point with
        | .consuming row => some (w.consume i call row fate)
        | _ => none

end CodeWorld

end ExpresSync
