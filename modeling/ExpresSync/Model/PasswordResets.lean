import ExpresSync.Foundation.SerialTable
import ExpresSync.Model.CustomerAccounts
import ExpresSync.Model.DeviceSettings

/-!
# Password resets

`admin/forgot-password.ts` from the look-up of the account on, and `admin/reset-password.ts`.
Requests of both routes wait at each statement, so that they interleave, and any statement may fail.
Tokens are 32 random bytes, which never come twice; here they are numbered, like the rows of
`verifications` that hold them.  A body without a token, and rows that the first route has not
written, are left out.
-/

namespace ExpresSync

/-- A row `reset:{token}` of `verifications`. -/
structure ResetToken where
  id : ℕ
  userId : ℕ
  expiresAt : ℕ
deriving DecidableEq

/-- A row of `accounts` with the provider `credential`. -/
structure CredentialAccount where
  id : ℕ
  userId : ℕ
  password : String
deriving DecidableEq

/-- A request of `forgot-password`. -/
inductive ForgotPoint where
  /-- It has found an admin, and is about to insert the token. -/
  | minting (userId expiresAt : ℕ)
  | done

/-- What a request of `reset-password` awaits. -/
inductive ResetPoint where
  | lookingUp
  | findingUser (row : ResetToken)
  | selecting (row : ResetToken)
  | writing (row : ResetToken) (existing : Option ℕ)
  | deleting (row : ResetToken)
  | revoking (row : ResetToken)
  | answered (status : ℕ) (error : Option String)

structure PasswordReset where
  token : ℕ
  newPassword : String
  point : ResetPoint
  /-- When the token has been judged. -/
  lookedUpAt : ℕ

/-- A password that a request has written. -/
structure PasswordWrite where
  token : ℕ
  userId : ℕ
  lookedUpAt : ℕ
deriving DecidableEq

structure PasswordWorld where
  now : ℕ
  /-- The role of an account, if there is one. -/
  role : ℕ → Option UserRole
  verifications : SerialTable ResetToken.id
  accounts : SerialTable CredentialAccount.id
  /-- The accounts of the sessions. -/
  sessions : List ℕ
  forgotten : List ForgotPoint
  resets : List PasswordReset
  /-- The rows that have been inserted into `verifications`. -/
  minted : List ResetToken
  /-- The passwords that have been written, in that order. -/
  writes : List PasswordWrite

inductive PasswordAction where
  | waits (ms : ℕ)
  | setsRole (userId : ℕ) (role : Option UserRole)
  | signsIn (userId : ℕ)
  /-- A request of `forgot-password` finds the account. -/
  | forgets (userId : ℕ)
  | mints (i : ℕ) (ok : Bool)
  | presents (token : ℕ) (newPassword : String)
  | looksUp (i : ℕ) (ok : Bool)
  /-- The look-up of the account, and the hash of the new password. -/
  | findsUser (i : ℕ) (ok : Bool)
  | selects (i : ℕ) (ok : Bool)
  | writes (i : ℕ) (ok : Bool)
  | deletes (i : ℕ) (ok : Bool)
  | revokes (i : ℕ) (ok : Bool)
  /-- The job of `sync-worker.ts` clears expired rows. -/
  | cleansUp

namespace PasswordWorld

/-- `MIN_PASSWORD_LENGTH` and `MAX_PASSWORD_LENGTH`; a length counts code units. -/
def acceptsLength (newPassword : String) : Bool :=
  let length := (utf16Units newPassword).length
  decide (12 ≤ length ∧ length ≤ 256)

def initial (role : ℕ → Option UserRole) : PasswordWorld :=
  ⟨0, role, .empty, .empty, [], [], [], [], []⟩

section

variable (w : PasswordWorld)

def setPoint (i : ℕ) (r : PasswordReset) (point : ResetPoint) : PasswordWorld :=
  { w with resets := w.resets.set i { r with point := point } }

def answer (i : ℕ) (r : PasswordReset) (status : ℕ) (error : String) : PasswordWorld :=
  w.setPoint i r (.answered status (some error))

/-- The insert of a token. -/
def mint (i userId expiresAt : ℕ) : PasswordWorld :=
  { w with
    verifications := w.verifications.insert (fun id => ⟨id, userId, expiresAt⟩) fun _ => rfl
    forgotten := w.forgotten.set i .done
    minted := w.minted ++ [⟨w.verifications.next, userId, expiresAt⟩] }

/-- The row of the token, judged by its expiry. -/
def lookUp (i : ℕ) (r : PasswordReset) : PasswordWorld :=
  match w.verifications.get? r.token with
  | none => w.answer i r 400 "invalid_token"
  | some row =>
      if row.expiresAt < w.now then w.answer i r 400 "invalid_token"
      else w.setPoint i { r with lookedUpAt := w.now } (.findingUser row)

/-- The account of the token must be an admin's. -/
def findUser (i : ℕ) (r : PasswordReset) (row : ResetToken) : PasswordWorld :=
  if w.role row.userId = some .admin then w.setPoint i r (.selecting row)
  else w.answer i r 400 "invalid_token"

def existingAccount (userId : ℕ) : Option CredentialAccount :=
  w.accounts.rows.find? fun account => account.userId = userId

/-- The password, in the account that has been selected or in a new one. -/
def setPassword (userId : ℕ) (existing : Option ℕ) (password : String) :
    SerialTable CredentialAccount.id :=
  match existing with
  | some id =>
      w.accounts.update (fun account => decide (account.id = id))
        (fun account => { account with password := password }) fun _ => rfl
  | none => w.accounts.insert (fun id => ⟨id, userId, password⟩) fun _ => rfl

variable (hashPassword : String → String) in
def write (i : ℕ) (r : PasswordReset) (row : ResetToken) (existing : Option ℕ) : PasswordWorld :=
  { w with
    accounts := w.setPassword row.userId existing (hashPassword r.newPassword)
    resets := w.resets.set i { r with point := .deleting row }
    writes := w.writes ++ [⟨row.id, row.userId, r.lookedUpAt⟩] }

def delete (i : ℕ) (r : PasswordReset) (row : ResetToken) : PasswordWorld :=
  { w.setPoint i r (.revoking row) with
    verifications := w.verifications.delete fun other => decide (other.id = row.id) }

def revoke (i : ℕ) (r : PasswordReset) (row : ResetToken) : PasswordWorld :=
  { w.setPoint i r (.answered 200 none) with
    sessions := w.sessions.filter fun userId => userId ≠ row.userId }

end

variable (hashPassword : String → String) (ttlMs : ℕ) (w : PasswordWorld)

/-- What a statement of a request comes to. -/
def goOn (i : ℕ) (r : PasswordReset) : PasswordAction → Option PasswordWorld
  | .looksUp _ ok =>
      match r.point with
      | .lookingUp => some (if ok then w.lookUp i r else w.answer i r 500 "internal")
      | _ => none
  | .findsUser _ ok =>
      match r.point with
      | .findingUser row => some (if ok then w.findUser i r row else w.answer i r 500 "internal")
      | _ => none
  | .selects _ ok =>
      match r.point with
      | .selecting row =>
          some
            (if ok then
              w.setPoint i r
                (.writing row ((w.existingAccount row.userId).map CredentialAccount.id))
            else w.answer i r 500 "internal")
      | _ => none
  | .writes _ ok =>
      match r.point with
      | .writing row existing =>
          some (if ok then w.write hashPassword i r row existing else w.answer i r 500 "internal")
      | _ => none
  | .deletes _ ok =>
      match r.point with
      | .deleting row => some (if ok then w.delete i r row else w.setPoint i r (.revoking row))
      | _ => none
  | .revokes _ ok =>
      match r.point with
      | .revoking row =>
          some (if ok then w.revoke i r row else w.setPoint i r (.answered 200 none))
      | _ => none
  | _ => none

def step (a : PasswordAction) : Option PasswordWorld :=
  match a with
  | .waits ms => some { w with now := w.now + ms }
  | .setsRole userId role => some { w with role := Function.update w.role userId role }
  | .signsIn userId => some { w with sessions := w.sessions ++ [userId] }
  | .forgets userId =>
      some { w with
        forgotten := w.forgotten ++
          [if w.role userId = some .admin then .minting userId (w.now + ttlMs) else .done] }
  | .mints i ok =>
      (w.forgotten[i]?).bind fun
        | .minting userId expiresAt =>
            some
              (if ok then w.mint i userId expiresAt
              else { w with forgotten := w.forgotten.set i .done })
        | .done => none
  | .presents token newPassword =>
      some { w with
        resets := w.resets ++
          [⟨token, newPassword,
            if acceptsLength newPassword then .lookingUp
            else .answered 400 (some "password_must_be_12_to_256_chars"), 0⟩] }
  | .cleansUp =>
      some { w with
        verifications := w.verifications.delete fun row => decide (row.expiresAt < w.now) }
  | .looksUp i _ | .findsUser i _ | .selects i _ | .writes i _ | .deletes i _ | .revokes i _ =>
      (w.resets[i]?).bind fun r => w.goOn hashPassword i r a

end PasswordWorld

end ExpresSync
