import ExpresSync.Foundation.LastWriter
import ExpresSync.Foundation.SerialTable
import ExpresSync.Foundation.Transition
import ExpresSync.Model.Types
import Mathlib.Data.List.Dedup

/-!
# Customer accounts

`customer-account-provisioner.ts`: the account in `users` that belongs to a Lago customer, found by
the link in its own row, by the mappings of the customer or by the customer's e-mail, and created
when there is none.  What other code does to the two tables is a step of its own for each kind of
statement; a statement that a constraint or a trigger refuses is no step.

User ids are random UUIDs, which never come twice; here the table hands them out.  `lower` is the
`LOWER` of the database.  The random `public_id` of a row, which no modelled statement reads, is
left out.
-/

namespace ExpresSync

inductive UserRole where
  | admin
  | customer
deriving DecidableEq

/-- A row of `users`. -/
structure User where
  id : ℕ
  name : Option String
  email : Option String
  role : UserRole
  lagoCustomerExternalId : Option String
deriving DecidableEq

/-- What the provisioner reads of a row of `user_mappings`. -/
structure AccountMapping where
  id : ℕ
  userId : Option ℕ
  lagoCustomerExternalId : Option String
  createdAt : Option ℕ
deriving DecidableEq

structure AccountTables where
  users : SerialTable User.id
  mappings : SerialTable AccountMapping.id

/-! ## Constraints -/

/-- The two rows have one e-mail address up to case. -/
def User.SameEmail (lower : String → String) (a b : User) : Prop :=
  a.email.isSome ∧ a.email.map lower = b.email.map lower

instance (lower : String → String) (a b : User) : Decidable (a.SameEmail lower b) :=
  inferInstanceAs (Decidable (_ ∧ _))

/-- The two rows are linked to one Lago customer. -/
def User.SameLink (a b : User) : Prop :=
  a.lagoCustomerExternalId.isSome ∧ a.lagoCustomerExternalId = b.lagoCustomerExternalId

instance (a b : User) : Decidable (a.SameLink b) := inferInstanceAs (Decidable (_ ∧ _))

/-- There is an account with this id. -/
def AccountTables.HasUser (tables : AccountTables) (id : ℕ) : Prop :=
  ∃ user ∈ tables.users.rows, user.id = id

instance (tables : AccountTables) (id : ℕ) : Decidable (tables.HasUser id) :=
  inferInstanceAs (Decidable (∃ user ∈ tables.users.rows, user.id = id))

/-- `users_email_lower_unique`, `users_lago_external_id_unique`, and the reference from
`user_mappings.user_id` to `users`. -/
def AccountTables.Sound (lower : String → String) (tables : AccountTables) : Prop :=
  tables.users.Pairs (fun a b => ¬a.SameEmail lower b) ∧
    tables.users.Pairs (fun a b => ¬a.SameLink b) ∧
    ∀ mapping ∈ tables.mappings.rows, ∀ id ∈ mapping.userId.toList, tables.HasUser id

instance (lower : String → String) (tables : AccountTables) : Decidable (tables.Sound lower) :=
  inferInstanceAs (Decidable (_ ∧ _ ∧ _))

/-- The tables, in a state that the constraints allow. -/
structure AccountDatabase (lower : String → String) extends AccountTables where
  sound : toAccountTables.Sound lower

section

variable {lower : String → String}

variable (lower) in
/-- The result of a statement, unless a constraint refuses it. -/
def AccountTables.checked (tables : AccountTables) : Option (AccountDatabase lower) :=
  if h : tables.Sound lower then some ⟨tables, h⟩ else none

namespace AccountTables

variable (tables : AccountTables)

/-! ## Look-ups -/

/-- The account whose own row has the link. -/
def directLinked (lagoCustomerExternalId : String) : Option User :=
  tables.users.rows.find? fun user =>
    decide (user.lagoCustomerExternalId = some lagoCustomerExternalId)

def userById (id : ℕ) : Option User := tables.users.get? id

/-- The mappings of a Lago customer that belong to an account. -/
def siblingMappings (lagoCustomerExternalId : String) : List AccountMapping :=
  tables.mappings.rows.filter fun mapping =>
    decide (mapping.lagoCustomerExternalId = some lagoCustomerExternalId) && mapping.userId.isSome

def findExistingUserViaSibling (lagoCustomerExternalId : String) : Option ℕ :=
  let rows := tables.siblingMappings lagoCustomerExternalId
  match (rows.filterMap AccountMapping.userId).dedup with
  | [] => none
  | [userId] => some userId
  -- `ORDER BY created_at DESC NULLS LAST LIMIT 1`
  | _ => (rows.latest fun mapping => mapping.createdAt.elim 0 (· + 1)).bind AccountMapping.userId

/-- The account the sibling mappings lead to; it may be missing. -/
def siblingAccount (lagoCustomerExternalId : String) : Option User :=
  (tables.findExistingUserViaSibling lagoCustomerExternalId).bind tables.userById

variable (lower) in
def findExistingUserByEmail (email : String) : Option User :=
  tables.users.rows.find? fun user => decide (user.email.map lower = some (lower email))

/-- Another Lago customer that a mapping of the account has. -/
def findConflictingLagoLink (userId : ℕ) (lagoCustomerExternalId : String) : Option String :=
  (tables.mappings.rows.filterMap fun mapping =>
    if mapping.userId = some userId then mapping.lagoCustomerExternalId else none).find?
      fun lagoId => decide (lagoId ≠ lagoCustomerExternalId)

/-! ## Statements -/

/-- `UPDATE users SET lago_customer_external_id = … WHERE id = … AND lago_customer_external_id IS
NULL` -/
def backfillLink (userId : ℕ) (lagoCustomerExternalId : String) : AccountTables :=
  { tables with
    users := tables.users.update
      (fun user => decide (user.id = userId) && user.lagoCustomerExternalId.isNone)
      (fun user => { user with lagoCustomerExternalId := some lagoCustomerExternalId })
      fun _ => rfl }

def insertUser (name email : Option String) (role : UserRole)
    (lagoCustomerExternalId : Option String) : AccountTables :=
  { tables with
    users := tables.users.insert
      (fun id => ⟨id, name, email, role, lagoCustomerExternalId⟩) fun _ => rfl }

/-- Rewrite the row of one account. -/
def updateUser (id : ℕ) (f : User → User) (hf : ∀ user, (f user).id = user.id) : AccountTables :=
  { tables with users := tables.users.update (fun user => decide (user.id = id)) f hf }

/-- `DELETE FROM users`, with `ON DELETE SET NULL` of `user_mappings.user_id`. -/
def deleteUser (id : ℕ) : AccountTables where
  users := tables.users.delete fun user => decide (user.id = id)
  mappings := tables.mappings.update (fun mapping => decide (mapping.userId = some id))
    (fun mapping => { mapping with userId := none }) fun _ => rfl

/-- What the triggers on `user_mappings` ask of the account and the Lago customer of a mapping: the
account is a customer's, and no other mapping gives the Lago customer to another account. -/
def MappingAllowed (mappingId : Option ℕ) (userId : Option ℕ) (lagoId : Option String) : Prop :=
  ∀ id ∈ userId.toList,
    (∃ user ∈ tables.users.rows, user.id = id ∧ user.role = .customer) ∧
      (lagoId = none ∨ ∀ other ∈ tables.mappings.rows, other.lagoCustomerExternalId = lagoId →
        other.userId.isNone ∨ other.userId = some id ∨ some other.id = mappingId)

instance (mappingId userId : Option ℕ) (lagoId : Option String) :
    Decidable (tables.MappingAllowed mappingId userId lagoId) :=
  inferInstanceAs (Decidable (∀ id ∈ userId.toList, _ ∧ (_ ∨ ∀ other ∈ _, _ → _)))

def insertMapping (userId : Option ℕ) (lagoId : Option String) (createdAt : Option ℕ) :
    AccountTables :=
  { tables with
    mappings := tables.mappings.insert (fun id => ⟨id, userId, lagoId, createdAt⟩) fun _ => rfl }

def updateMapping (id : ℕ) (userId : Option ℕ) (lagoId : Option String) : AccountTables :=
  { tables with
    mappings := tables.mappings.update (fun mapping => decide (mapping.id = id))
      (fun mapping => { mapping with userId := userId, lagoCustomerExternalId := lagoId })
      fun _ => rfl }

def deleteMapping (id : ℕ) : AccountTables :=
  { tables with mappings := tables.mappings.delete fun mapping => decide (mapping.id = id) }

/-- The Lago customers an account carries, in its mappings and in its own row. -/
def carried (userId : ℕ) : List String :=
  (tables.mappings.rows.filterMap fun mapping =>
    if mapping.userId = some userId then mapping.lagoCustomerExternalId else none) ++
  tables.users.rows.filterMap fun user =>
    if user.id = userId then user.lagoCustomerExternalId else none

end AccountTables

/-! ## The customer in Lago -/

/-- What `lagoClient.getCustomer` returns. -/
structure LagoCustomer where
  email : Option String
  name : Option String
  firstname : Option String
  lastname : Option String
deriving DecidableEq

/-- `s && s.trim()`, when it is not the empty string. -/
def trimmed (s : Option String) : Option String :=
  s.bind fun s => if trimChars s.toList = [] then none else some
    (String.ofList (trimChars s.toList))

/-- A piece of `[^\s@]+` -/
def isEmailPiece (s : List Char) : Bool :=
  !s.isEmpty && s.all fun c => !isStrWhiteSpace c && c != '@'

/-- Not `/^[^\s@]+@[^\s@]+\.[^\s@]+$/` -/
def isMalformedEmail (email : String) : Bool :=
  match (trimChars email.toList).splitOn '@' with
  | [name, domain] =>
      -- the dot has something before it and after it
      !(isEmailPiece name && isEmailPiece domain && domain.tail.dropLast.contains '.')
  | _ => true

example : isMalformedEmail "eve@example.com" = false := by decide +kernel
example : isMalformedEmail "eve@example." = true := by decide +kernel

def buildDisplayName (customer : LagoCustomer) (email : Option String) : Option String :=
  match trimmed customer.name with
  | some name => some name
  | none =>
    match [customer.firstname, customer.lastname].filterMap trimmed with
    | [] =>
        email.map fun email =>
          -- the part before `@`, unless it is empty
          match email.toList.takeWhile (· != '@') with
          | [] => email
          | localPart => String.ofList localPart
    | parts => some (" ".intercalate parts)

inductive ProvisionerErrorCode where
  | lagoCustomerNotFound
  | lagoFetchFailed
  | lagoEmailMissing
  | lagoEmailMalformed
  | emailBelongsToAdmin
  | emailLinkedToDifferentLagoCustomer
deriving DecidableEq

/-- `STATUS_BY_CODE` -/
def ProvisionerErrorCode.status : ProvisionerErrorCode → ℕ
  | lagoCustomerNotFound => 422
  | lagoFetchFailed => 502
  | lagoEmailMissing => 422
  | lagoEmailMalformed => 422
  | emailBelongsToAdmin => 409
  | emailLinkedToDifferentLagoCustomer => 409

/-- What a call throws. -/
inductive ProvisionFailure where
  /-- A `ProvisionerError`. -/
  | rejected (code : ProvisionerErrorCode) (message : String)
  /-- The error of a statement. -/
  | database
deriving DecidableEq

def classifyLagoFetchError (msg : String) : ProvisionFailure :=
  if "404".toList <:+: msg.toList then
    .rejected .lagoCustomerNotFound s!"Lago customer not found: {msg}"
  else .rejected .lagoFetchFailed s!"Failed to fetch Lago customer: {msg}"

def malformedEmailError (email : String) : ProvisionFailure :=
  .rejected .lagoEmailMalformed s!"Lago customer email is malformed: {email}"

def adminEmailError : ProvisionFailure :=
  .rejected .emailBelongsToAdmin
    "Email belongs to an admin account; admin and customer accounts must use different emails."

def linkedEmailError (email lagoId : String) : ProvisionFailure :=
  .rejected .emailLinkedToDifferentLagoCustomer
    s!"Email {email} is already linked to Lago customer {lagoId}."

/-- `ResolveCustomerAccountResult` -/
structure ResolveCustomerAccountResult where
  userId : ℕ
  created : Bool
  reused : Bool
  email : Option String
deriving DecidableEq

/-- The result for an account that is there. -/
def User.reusedResult (user : User) : ResolveCustomerAccountResult :=
  ⟨user.id, false, true, user.email⟩

/-! ## A call on its own -/

namespace AccountDatabase

variable (db : AccountDatabase lower)

/-- The database after a call, and what the call returns. -/
abbrev Resolved (lower : String → String) :=
  Except ProvisionFailure (AccountDatabase lower × ResolveCustomerAccountResult)

/-- Reuse the account, and leave the link in its row when there is none. -/
def reuse (user : User) (lagoCustomerExternalId : String) : Resolved lower :=
  match (db.backfillLink user.id lagoCustomerExternalId).checked lower with
  | none => .error .database
  | some db => .ok (db, user.reusedResult)

/-- `createNoEmailUser`, and `createUserWithRaceRetry`.  After an `INSERT` that is refused, the
statements of the recovery fail as well: the transaction has been aborted. -/
def createUser (email : Option String) (lagoCustomerExternalId : String)
    (customer : LagoCustomer) : Resolved lower :=
  match (db.insertUser (buildDisplayName customer email) email .customer
      (some lagoCustomerExternalId)).checked lower with
  | none => .error .database
  | some created => .ok (created, ⟨db.users.next, true, false, email⟩)

def resolveOrCreateForEmail (lagoCustomerExternalId email : String) (customer : LagoCustomer) :
    Resolved lower :=
  match db.findExistingUserByEmail lower email with
  | none => db.createUser (some email) lagoCustomerExternalId customer
  | some existing =>
      if existing.role = .admin then .error adminEmailError
      else
        let conflictingLagoId := db.findConflictingLagoLink existing.id lagoCustomerExternalId
        if truthy conflictingLagoId then
          .error (linkedEmailError email (conflictingLagoId.getD ""))
        else db.reuse existing lagoCustomerExternalId

/-- `fetched` is the answer of Lago, or the message of the error. -/
def resolveOrCreateCustomerAccount (lagoCustomerExternalId : String)
    (fetched : Except String LagoCustomer) : Resolved lower :=
  match db.directLinked lagoCustomerExternalId with
  | some user => .ok (db, user.reusedResult)
  | none =>
    match db.siblingAccount lagoCustomerExternalId with
    | some user => db.reuse user lagoCustomerExternalId
    | none =>
      match fetched with
      | .error msg => .error (classifyLagoFetchError msg)
      | .ok customer =>
        match trimmed customer.email with
        | none => db.createUser none lagoCustomerExternalId customer
        | some email =>
            if isMalformedEmail email then .error (malformedEmailError email)
            else db.resolveOrCreateForEmail lagoCustomerExternalId email customer

end AccountDatabase

/-! ## Runs -/

structure AccountWorld (lower : String → String) where
  db : AccountDatabase lower
  /-- The accounts that calls have returned, with the Lago customer of the call. -/
  returned : List (ℕ × String)

inductive AccountAction where
  | resolves (lagoCustomerExternalId : String) (fetched : Except String LagoCustomer)
  | mappingInserted (userId : Option ℕ) (lagoId : Option String) (createdAt : Option ℕ)
  | mappingUpdated (id : ℕ) (userId : Option ℕ) (lagoId : Option String)
  | mappingDeleted (id : ℕ)
  /-- `auth.api.signUpEmail` -/
  | userInserted (name email : Option String) (role : UserRole)
  | userDeleted (id : ℕ)
  | emailSet (id : ℕ) (email : Option String)
  | roleSet (id : ℕ) (role : UserRole)

namespace AccountWorld

variable (w : AccountWorld lower)

/-- The statement of another part of the program. -/
def write (tables : AccountTables) : Option (AccountWorld lower) :=
  (tables.checked lower).map fun db => { w with db := db }

/-- The account a call returns, and the Lago customer it was called for. -/
def answer : AccountAction → Option (ℕ × String)
  | .resolves lagoId fetched =>
      match w.db.resolveOrCreateCustomerAccount lagoId fetched with
      | .error _ => none
      | .ok (_, result) => some (result.userId, lagoId)
  | _ => none

/-- The transaction of a call that throws is rolled back. -/
def step : AccountAction → Option (AccountWorld lower)
  | .resolves lagoId fetched =>
      match w.db.resolveOrCreateCustomerAccount lagoId fetched with
      | .error _ => some w
      | .ok (db, result) => some ⟨db, w.returned ++ [(result.userId, lagoId)]⟩
  | .mappingInserted userId lagoId createdAt =>
      if w.db.MappingAllowed none userId lagoId then
        w.write (w.db.insertMapping userId lagoId createdAt)
      else none
  | .mappingUpdated id userId lagoId =>
      if w.db.MappingAllowed (some id) userId lagoId then
        w.write (w.db.updateMapping id userId lagoId)
      else none
  | .mappingDeleted id => w.write (w.db.deleteMapping id)
  | .userInserted name email role => w.write (w.db.insertUser name email role none)
  | .userDeleted id => w.write (w.db.deleteUser id)
  | .emailSet id email => w.write (w.db.updateUser id (fun user => { user with email := email })
      fun _ => rfl)
  | .roleSet id role => w.write (w.db.updateUser id (fun user => { user with role := role })
      fun _ => rfl)

end AccountWorld

/-! ## The reconcile pass

`reconcileLocalState` of `lago-reconcile/local.ts`: an account for every customer in the cache, and
the e-mail address of the cache for an account that has none. -/

/-- What the pass reads of a row of `lago_customers`. -/
structure CachedCustomer where
  externalId : String
  email : Option String
  deletedAt : Option ℕ
deriving DecidableEq

/-- What the pass reads of a row of `lago_subscriptions`. -/
structure CachedSubscription where
  externalId : String
  deletedAt : Option ℕ

/-- What the pass reads of a row of `user_mappings`. -/
structure SubscribedMapping where
  mappingId : ℕ
  ocppIdTag : String
  isActive : Option Bool
  lagoSubscriptionExternalId : Option String

structure ReconcileError where
  lagoId : Option String
  message : String
deriving DecidableEq

/-- The result of a pass, but for its duration. -/
structure ReconcileResult where
  entity : String
  fetched : ℕ
  upserted : ℕ
  orphaned : ℕ
  errors : List ReconcileError

/-- The counters of the walk over the cached customers. -/
structure ReconcileTally where
  provisioned : ℕ
  emailBackfilled : ℕ
  driftDetected : ℕ
  errors : List ReconcileError

def ProvisionerErrorCode.text : ProvisionerErrorCode → String
  | lagoCustomerNotFound => "LAGO_CUSTOMER_NOT_FOUND"
  | lagoFetchFailed => "LAGO_FETCH_FAILED"
  | lagoEmailMissing => "LAGO_EMAIL_MISSING"
  | lagoEmailMalformed => "LAGO_EMAIL_MALFORMED"
  | emailBelongsToAdmin => "EMAIL_BELONGS_TO_ADMIN"
  | emailLinkedToDifferentLagoCustomer => "EMAIL_LINKED_TO_DIFFERENT_LAGO_CUSTOMER"

namespace AccountTables

variable (tables : AccountTables) (userId : ℕ)

/-- The row that the update of the e-mail address selects. -/
def lacksEmail (user : User) : Bool := decide (user.id = userId) && user.email.isNone

/-- `UPDATE users SET email = … WHERE id = … AND email IS NULL` -/
def backfillEmail (email : String) : AccountTables :=
  { tables with
    users := tables.users.update (lacksEmail userId) (fun user => { user with email := some email })
      fun _ => rfl }

/-- The rows that it returns. -/
def returnedByBackfill : List ℕ := (tables.users.rows.filter (lacksEmail userId)).map User.id

end AccountTables

section

-- the text of the error of a statement, `toLowerCase`, and the answer of Lago for a customer
variable (databaseMessage : String) (toLowerCase : String → String)
  (fetched : String → Except String LagoCustomer)

namespace AccountDatabase

/-- What is left of a failure in `errors`. -/
def provisionError (externalId : String) (failure : ProvisionFailure) : ReconcileError where
  lagoId := some externalId
  message := match failure with
    | .rejected code message => s!"provision({externalId}): {code.text} {message}"
    | .database => s!"provision({externalId}): UNKNOWN {databaseMessage}"

/-- One turn of the walk. -/
def reconcileCustomer (s : AccountDatabase lower × ReconcileTally) (c : CachedCustomer) :
    AccountDatabase lower × ReconcileTally :=
  let (db, tally) := s
  let failed := fun failure =>
    { tally with errors := tally.errors ++ [provisionError databaseMessage c.externalId failure] }
  match db.resolveOrCreateCustomerAccount c.externalId (fetched c.externalId) with
  | .error failure => (db, failed failure)
  | .ok (db, result) =>
      let provisioned := if result.created then tally.provisioned + 1 else tally.provisioned
      if truthy c.email && !truthy result.email then
        match (db.backfillEmail result.userId (c.email.getD "")).checked lower with
        -- the account has been committed, and counted
        | none => (db, { failed .database with provisioned := provisioned })
        | some updated =>
            (updated,
              { tally with
                provisioned := provisioned
                emailBackfilled :=
                  if 0 < (db.returnedByBackfill result.userId).length then tally.emailBackfilled + 1
                  else tally.emailBackfilled })
      else if truthy c.email && truthy result.email &&
          decide (toLowerCase (c.email.getD "") ≠ toLowerCase (result.email.getD "")) then
        (db, { tally with provisioned := provisioned, driftDetected := tally.driftDetected + 1 })
      else (db, { tally with provisioned := provisioned })

def cachedCustomers (lagoCustomers : List CachedCustomer) : List CachedCustomer :=
  lagoCustomers.filter fun c => c.deletedAt.isNone

/-- The walk over the customers in the cache. -/
def reconcileAccounts (db : AccountDatabase lower) (lagoCustomers : List CachedCustomer) :
    AccountDatabase lower × ReconcileTally :=
  (cachedCustomers lagoCustomers).foldl (reconcileCustomer databaseMessage toLowerCase fetched)
    (db, ⟨0, 0, 0, []⟩)

/-- The active mappings whose subscription is not in the cache. -/
def orphanedRows (userMappings : List SubscribedMapping)
    (lagoSubscriptions : List CachedSubscription) : List SubscribedMapping :=
  userMappings.filter fun mapping =>
    decide (mapping.isActive = some true) && mapping.lagoSubscriptionExternalId.isSome &&
      !lagoSubscriptions.any fun subscription =>
        decide (some subscription.externalId = mapping.lagoSubscriptionExternalId) &&
          subscription.deletedAt.isNone

def orphanError (r : SubscribedMapping) : ReconcileError where
  lagoId := r.lagoSubscriptionExternalId
  message := s!"mapping {r.mappingId} ({r.ocppIdTag}) references unknown subscription " ++
    r.lagoSubscriptionExternalId.getD "null"

/-- The walk writes no column of `user_mappings`, so the orphans are read from the rows that are
there when it starts. -/
def reconcileLocalState (db : AccountDatabase lower) (lagoCustomers : List CachedCustomer)
    (userMappings : List SubscribedMapping) (lagoSubscriptions : List CachedSubscription) :
    AccountDatabase lower × ReconcileResult :=
  let (after, tally) := db.reconcileAccounts databaseMessage toLowerCase fetched lagoCustomers
  let orphaned := orphanedRows userMappings lagoSubscriptions
  (after,
    { entity := "local_reconcile"
      fetched := (cachedCustomers lagoCustomers).length
      upserted := tally.provisioned + tally.emailBackfilled
      orphaned := orphaned.length
      errors := tally.errors ++ (orphaned.take 25).map orphanError })

end AccountDatabase

end

end

end ExpresSync
