import ExpresSync.Model.CustomerAccounts

/-!
# Two calls for one Lago customer

`resolveOrCreateCustomerAccount` statement by statement, called twice for one Lago customer, each
call in a transaction of its own at the isolation level `READ COMMITTED`.  A statement sees what has
been committed; no call reads anything after it has written.  A statement that fails aborts its
transaction, in which every further statement fails.

Whatever the two calls write has the same customer in `users_lago_external_id_unique`, so a write of
one waits for the end of the transaction in which the other has written.  Neither writes
`user_mappings`, so the two statements of the sibling look-up are one step.
-/

namespace ExpresSync

/-- What a call does next. -/
inductive ProvisionPoint where
  | directLookup
  | siblingLookup
  | siblingAccount (userId : ℕ)
  /-- `lagoClient.getCustomer` -/
  | fetch
  | emailLookup (email : String) (customer : LagoCustomer)
  | conflictLookup (email : String) (existing : User)
  | backfill (existing : User)
  | insert (email : Option String) (customer : LagoCustomer)
  /-- The `catch` of a unique violation: the link is looked up again, -/
  | retryDirect (email : Option String)
  /-- then the e-mail address, -/
  | retryEmail (email : String)
  /-- and then the links of its account. -/
  | retryConflict (email : String) (retried : User)
  /-- The call has returned or thrown, in a transaction that is still open. -/
  | ended (outcome : Except ProvisionFailure ResolveCustomerAccountResult)
  /-- The transaction is over. -/
  | closed (outcome : Except ProvisionFailure ResolveCustomerAccountResult)

/-- What a transaction has written. -/
inductive AccountWrite where
  | backfill (userId : ℕ)
  | insert (name email : Option String)

structure ProvisionCall where
  point : ProvisionPoint
  /-- A statement of the transaction has failed. -/
  aborted : Bool
  /-- The write that is to be committed. -/
  pending : Option AccountWrite

/-- The database as it has been committed, and the two calls. -/
structure ProvisioningRace (lower : String → String) where
  db : AccountDatabase lower
  calls : Bool → ProvisionCall

section

variable {lower : String → String}

/-- The tables after a write. -/
def AccountWrite.apply (tables : AccountTables) (lagoId : String) : AccountWrite → AccountTables
  | backfill userId => tables.backfillLink userId lagoId
  | insert name email => tables.insertUser name email .customer (some lagoId)

/-- The account has a row without a link. -/
def AccountTables.Unlinked (tables : AccountTables) (userId : ℕ) : Prop :=
  ∃ user ∈ tables.users.rows, user.id = userId ∧ user.lagoCustomerExternalId = none

instance (tables : AccountTables) (userId : ℕ) : Decidable (tables.Unlinked userId) :=
  inferInstanceAs (Decidable (∃ user ∈ tables.users.rows, _ ∧ _))

namespace ProvisioningRace

/-- Both calls are at their first statement. -/
def start (db : AccountDatabase lower) : ProvisioningRace lower :=
  ⟨db, fun _ => ⟨.directLookup, false, none⟩⟩

variable (lagoId : String) (fetched : Except String LagoCustomer)

/-- What a call makes of a look-up, in a transaction that has not been aborted. -/
def lookUp (db : AccountDatabase lower) : ProvisionPoint → ProvisionPoint
  | .directLookup =>
      match db.directLinked lagoId with
      | some user => .ended (.ok user.reusedResult)
      | none => .siblingLookup
  | .siblingLookup =>
      match db.findExistingUserViaSibling lagoId with
      | some userId => .siblingAccount userId
      | none => .fetch
  | .siblingAccount userId =>
      match db.userById userId with
      | some user => .backfill user
      | none => .fetch
  | .fetch =>
      match fetched with
      | .error msg => .ended (.error (classifyLagoFetchError msg))
      | .ok customer =>
        match trimmed customer.email with
        | none => .insert none customer
        | some email =>
            if isMalformedEmail email then .ended (.error (malformedEmailError email))
            else .emailLookup email customer
  | .emailLookup email customer =>
      match db.findExistingUserByEmail lower email with
      | none => .insert (some email) customer
      | some existing =>
          if existing.role = .admin then .ended (.error adminEmailError)
          else .conflictLookup email existing
  | .conflictLookup email existing =>
      let conflictingLagoId := db.findConflictingLagoLink existing.id lagoId
      if truthy conflictingLagoId then
        .ended (.error (linkedEmailError email (conflictingLagoId.getD "")))
      else .backfill existing
  | .retryDirect email =>
      match db.directLinked lagoId, email with
      | some user, _ => .ended (.ok user.reusedResult)
      | none, none => .ended (.error .database)
      | none, some email => .retryEmail email
  | .retryEmail email =>
      match db.findExistingUserByEmail lower email with
      | none => .ended (.error .database)
      | some retried =>
          if retried.role = .admin then .ended (.error adminEmailError)
          else .retryConflict email retried
  | .retryConflict email retried =>
      let conflictingLagoId := db.findConflictingLagoLink retried.id lagoId
      if truthy conflictingLagoId then
        .ended (.error (linkedEmailError email (conflictingLagoId.getD "")))
      else .ended (.ok retried.reusedResult)
  | point => point

/-- A call after its next statement, `none` while it waits for the transaction of the other, which
has written something when `otherWrote`. -/
def statement (db : AccountDatabase lower) (otherWrote : Bool) (call : ProvisionCall) :
    Option ProvisionCall :=
  match call.point with
  | .backfill existing =>
      let write : AccountWrite := .backfill existing.id
      -- an update of no row neither waits nor writes
      if ¬db.Unlinked existing.id then some { call
        with point := .ended (.ok existing.reusedResult) }
      else if otherWrote then none
      else if (write.apply db.toAccountTables lagoId).Sound lower then
        some ⟨.ended (.ok existing.reusedResult), call.aborted, some write⟩
      else some ⟨.ended (.error .database), true, none⟩
  | .insert email customer =>
      let write : AccountWrite := .insert (buildDisplayName customer email) email
      if otherWrote then none
      else if (write.apply db.toAccountTables lagoId).Sound lower then
        some ⟨.ended (.ok ⟨db.users.next, true, false, email⟩), call.aborted, some write⟩
      else some ⟨.retryDirect email, true, none⟩
  | point =>
      if call.aborted then some { call with point := .ended (.error .database) }
      else some { call with point := lookUp lagoId fetched db point }

variable (s : ProvisioningRace lower)

def setCall (i : Bool) (call : ProvisionCall) : ProvisioningRace lower :=
  { s with calls := Function.update s.calls i call }

/-- The next step of the call `i`. -/
def step (i : Bool) : Option (ProvisioningRace lower) :=
  let call := s.calls i
  match call.point with
  | .closed _ => none
  | .ended (.error failure) => some (s.setCall i ⟨.closed (.error failure), call.aborted, none⟩)
  | .ended (.ok result) =>
      match call.pending with
      | none => some (s.setCall i { call with point := .closed (.ok result) })
      | some write =>
          ((write.apply s.db.toAccountTables lagoId).checked lower).map fun db =>
            { s.setCall i ⟨.closed (.ok result), call.aborted, none⟩ with db := db }
  | _ =>
      (statement lagoId fetched s.db (s.calls !i).pending.isSome call).map (s.setCall i)

end ProvisioningRace

end

end ExpresSync
