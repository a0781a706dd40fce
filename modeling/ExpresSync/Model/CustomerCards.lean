import ExpresSync.Foundation.ReadCommitted
import ExpresSync.Model.Reservations
import ExpresSync.Model.TagLinks

/-!
# A customer's cards

`scoping.ts` and `capabilities.ts`, and the two routes by which a customer uses a card:
`POST /api/customer/reservations` up to its call of `createReservation`, and
`POST /api/customer/scan-start` up to its call of `remoteStart`.  The mappings are those of one
moment.

`parseDate` is `new Date`.  Whatever a handler does after its call is left out.
-/

namespace ExpresSync

/-! ## Scopes -/

structure CustomerScope where
  lagoCustomerExternalId : Option String
  ocppTagPks : List ℕ
  mappingIds : List ℕ
  isActive : Bool
deriving DecidableEq

/-- `ctx.state`, as far as the scope goes by it. -/
structure RequestState where
  user : Option String
  /-- The customer that an admin views as. -/
  actingAs : Option String
deriving DecidableEq

def CustomerScope.empty : CustomerScope := ⟨none, [], [], false⟩

/-- The mappings of a user. -/
def TagLinkTable.ofUser (table : TagLinkTable) (userId : String) : List TagLink :=
  table.rows.filter fun row => decide (row.userId = some userId)

def resolveCustomerScope (table : TagLinkTable) (state : RequestState) : CustomerScope :=
  match state.actingAs.or state.user with
  | none => .empty
  | some effectiveUserId =>
      if effectiveUserId = "" then .empty
      else
        let rows := table.ofUser effectiveUserId
        { lagoCustomerExternalId := (rows.filterMap TagLink.lagoCustomerExternalId).find? (· ≠ "")
          ocppTagPks := rows.map TagLink.steveOcppTagPk
          mappingIds := rows.map TagLink.id
          isActive := rows.any fun row => decide (row.isActive = some true) }

inductive OwnedResourceType where
  | session
  | reservation
  | invoice
  | card
  | mapping
deriving DecidableEq

/-- What ownership is looked up in, apart from the mappings. -/
structure OwnedRecords where
  /-- `user_mapping_id` of a row of `synced_transaction_events`. -/
  sessionMappingId : ℤ → Option (Option ℕ)
  reservationTagPk : ℤ → Option ℕ

/-- Whether `assertOwnership` returns; `numericId` is the id as a number. -/
def assertOwnership (records : OwnedRecords) (scope : CustomerScope) (type : OwnedResourceType)
    (numericId : Option ℤ) : Bool :=
  match type, numericId with
  | .invoice, _ => scope.lagoCustomerExternalId.isSome
  | _, none => false
  | .session, some id =>
      match records.sessionMappingId id with
      | some (some mappingId) => decide (mappingId ≠ 0) && scope.mappingIds.contains mappingId
      | _ => false
  | .reservation, some id =>
      match records.reservationTagPk id with
      | some tagPk => scope.ocppTagPks.contains tagPk
      | none => false
  | .card, some id | .mapping, some id =>
      scope.mappingIds.any fun mappingId => decide ((mappingId : ℤ) = id)

inductive CustomerCapability where
  | viewHistory
  | startCharge
  | stopCharge
  | reserve
  | manageCards
deriving DecidableEq

/-- `FULL` -/
def fullCapabilities : List CustomerCapability :=
  [.viewHistory, .startCharge, .stopCharge, .reserve, .manageCards]

/-- `READ_ONLY` -/
def readOnlyCapabilities : List CustomerCapability := [.viewHistory]

def getCustomerCapabilities (scope : CustomerScope) : List CustomerCapability :=
  if scope.isActive then fullCapabilities else readOnlyCapabilities

/-! ## Requests -/

/-- A field of a body; `other` is a value of another kind, a number with a fraction among them. -/
inductive BodyValue where
  | undefined
  | string (s : String)
  | integer (n : ℤ)
  | other
deriving DecidableEq

structure ReservationBody where
  chargeBoxId : BodyValue
  connectorId : BodyValue
  steveOcppTagPk : BodyValue
  startAtIso : BodyValue
  endAtIso : BodyValue
deriving DecidableEq

structure ScanStartBody where
  chargeBoxId : BodyValue
  connectorId : BodyValue
  ocppTagPk : BodyValue
deriving DecidableEq

/-- A refused request. -/
inductive CardRefusal where
  | unauthorized
  | readOnly
  | invalid (error : String)
  | capabilityDenied (capability : CustomerCapability)
  | cardNotFound
deriving DecidableEq

def CardRefusal.status : CardRefusal → ℕ
  | unauthorized => 401
  | readOnly | capabilityDenied _ => 403
  | invalid _ => 400
  | cardNotFound => 404

def CardRefusal.error : CardRefusal → String
  | unauthorized => "Unauthorized"
  | readOnly => "Read-only while impersonating; use admin tools to mutate."
  | invalid error => error
  | capabilityDenied _ => "Account inactive"
  | cardNotFound => "Card not found"

/-- The checked body of a reservation. -/
structure ReservationWish where
  chargeBoxId : String
  connectorId : ℤ
  steveOcppTagPk : ℤ
  startAt : ℕ
  endAt : ℕ
deriving DecidableEq

/-- The checked body of a scan-start. -/
structure ScanStartWish where
  chargeBoxId : String
  connectorId : Option ℤ
  ocppTagPk : ℤ
deriving DecidableEq

def BodyValue.requireChargeBox : BodyValue → Except CardRefusal String
  | string s => if s = "" then throw (.invalid "chargeBoxId is required") else pure s
  | _ => throw (.invalid "chargeBoxId is required")

def BodyValue.requireInteger (error : String) : BodyValue → Except CardRefusal ℤ
  | integer n => pure n
  | _ => throw (.invalid error)

/-- The text of both dates. -/
def requireIsoStrings : BodyValue → BodyValue → Except CardRefusal (String × String)
  | .string startAtIso, .string endAtIso => pure (startAtIso, endAtIso)
  | _, _ => throw (.invalid "startAtIso and endAtIso must be ISO strings")

def checkReservationBody (parseDate : String → Option ℕ) :
    Option ReservationBody → Except CardRefusal ReservationWish
  | none => throw (.invalid "Invalid JSON body")
  | some body => do
      let chargeBoxId ← body.chargeBoxId.requireChargeBox
      let connectorId ← body.connectorId.requireInteger "connectorId must be an integer"
      let steveOcppTagPk ← body.steveOcppTagPk.requireInteger "steveOcppTagPk must be an integer"
      let (startAtIso, endAtIso) ← requireIsoStrings body.startAtIso body.endAtIso
      match parseDate startAtIso, parseDate endAtIso with
      | some startAt, some endAt =>
          if startAt < endAt then
            return { chargeBoxId, connectorId, steveOcppTagPk, startAt, endAt }
          else throw (.invalid "endAt must be after startAt")
      | _, _ => throw (.invalid "Invalid ISO timestamp")

/-- `connectorId` of a scan-start. -/
def BodyValue.optionalConnector : BodyValue → Except CardRefusal (Option ℤ)
  | undefined => pure none
  | integer n =>
      if n < 0 then throw (.invalid "connectorId must be a non-negative integer") else pure (some n)
  | _ => throw (.invalid "connectorId must be a non-negative integer")

def checkScanStartBody : Option ScanStartBody → Except CardRefusal ScanStartWish
  | none => throw (.invalid "Invalid JSON body")
  | some body => do
      let chargeBoxId ← body.chargeBoxId.requireChargeBox
      let ocppTagPk ← body.ocppTagPk.requireInteger "ocppTagPk must be an integer"
      let connectorId ← body.connectorId.optionalConnector
      return { chargeBoxId, connectorId, ocppTagPk }

/-! ## Handlers -/

section

variable (records : OwnedRecords) (table : TagLinkTable) (state : RequestState)

/-- The user of a request that may write. -/
def RequestState.writer : Except CardRefusal String :=
  match state.user, state.actingAs with
  | none, _ => throw .unauthorized
  | some _, some _ => throw .readOnly
  | some userId, none => pure userId

/-- `assertCapability`, `assertOwnership` and the look-up of the mapping. -/
def lookUpCard (capability : CustomerCapability) (tagPk : ℤ) : Except CardRefusal TagLink :=
  let scope := resolveCustomerScope table state
  if capability ∉ getCustomerCapabilities scope then throw (.capabilityDenied capability)
  else if !assertOwnership records scope .card (some tagPk) then throw .cardNotFound
  else
    match table.rows.find? fun row => decide ((row.steveOcppTagPk : ℤ) = tagPk) with
    | none => throw .cardNotFound
    | some mapping => pure mapping

/-- `POST /api/customer/reservations`, up to the call. -/
def postReservation (parseDate : String → Option ℕ) (body : Option ReservationBody) :
    Except CardRefusal CreateReservationInput := do
  let userId ← state.writer
  let wish ← checkReservationBody parseDate body
  let mapping ← lookUpCard records table state .reserve wish.steveOcppTagPk
  return {
    chargeBoxId := wish.chargeBoxId
    connectorId := wish.connectorId
    -- the pk of the request, which is that of the mapping
    steveOcppTagPk := mapping.steveOcppTagPk
    steveOcppIdTag := mapping.steveOcppIdTag
    lagoSubscriptionExternalId := mapping.lagoSubscriptionExternalId
    startAt := wish.startAt
    endAt := wish.endAt
    createdByUserId := some userId
    force := false }

/-- `RemoteStartTransactionParams` -/
structure RemoteStartParams where
  chargeBoxId : String
  connectorId : Option ℤ
  idTag : String
deriving DecidableEq

/-- `POST /api/customer/scan-start`, up to the call. -/
def postScanStart (body : Option ScanStartBody) : Except CardRefusal RemoteStartParams := do
  let _ ← state.writer
  let wish ← checkScanStartBody body
  let mapping ← lookUpCard records table state .startCharge wish.ocppTagPk
  -- what is left of the schema: a charge box and a connector have been checked
  if mapping.steveOcppIdTag = "" then throw (.invalid "Invalid RemoteStart params")
  else return ⟨wish.chargeBoxId, wish.connectorId, mapping.steveOcppIdTag⟩

/-- A request to either route. -/
inductive CardRequest where
  | reservation (body : Option ReservationBody)
  | scanStart (body : Option ScanStartBody)
deriving DecidableEq

/-- The id tag that a request calls `createReservation` or `remoteStart` with. -/
def CardRequest.calledIdTag (parseDate : String → Option ℕ) :
    CardRequest → Except CardRefusal String
  | reservation body =>
      CreateReservationInput.steveOcppIdTag <$> postReservation records table state parseDate body
  | scanStart body => RemoteStartParams.idTag <$> postScanStart records table state body

end

end ExpresSync

/-!
# Links between users and Lago customers

The rows of `user_mappings` with the two columns of the trigger of migration 0026, which runs before
every `INSERT`, and before every `UPDATE` of one of the two.  A statement of several rows is one
step for each of them: the trigger of a row sees those before it.

A statement that the trigger refuses aborts its transaction.
-/

namespace ExpresSync

/-- `user_id` and `lago_customer_external_id` of a row. -/
structure LinkColumns where
  userId : Option String
  lagoCustomerExternalId : Option String
deriving DecidableEq

def TagLink.linkColumns (row : TagLink) : LinkColumns := ⟨row.userId, row.lagoCustomerExternalId⟩

/-- The trigger does not object to the row `new` on account of the row `other`. -/
def LinkColumns.SameUser (new other : LinkColumns) : Prop :=
  ∀ userId ∈ new.userId, ∀ lagoId ∈ new.lagoCustomerExternalId,
    other.lagoCustomerExternalId = some lagoId → ∀ existingUserId ∈ other.userId,
      existingUserId = userId

instance : DecidableRel LinkColumns.SameUser := fun new other =>
  inferInstanceAs (Decidable (∀ userId ∈ new.userId, ∀ lagoId ∈ new.lagoCustomerExternalId,
    other.lagoCustomerExternalId = some lagoId → ∀ existingUserId ∈ other.userId,
      existingUserId = userId))

abbrev MappingTransactions := ReadCommitted LinkColumns

inductive MappingTxnAction where
  | inserts (t : ℕ) (columns : LinkColumns)
  /-- An `UPDATE` that sets one of the columns, of the row `id`. -/
  | updates (t id : ℕ) (columns : LinkColumns)
  | commits (t : ℕ)
  | rollsBack (t : ℕ)

namespace MappingTransactions

variable (s : MappingTransactions)

/-- `assert_user_mapping_lago_user_consistency()` returns `NEW`. -/
def AssertsConsistency (t id : ℕ) (new : LinkColumns) : Prop :=
  ReadCommitted.Sees LinkColumns.SameUser s t id new

instance (t id : ℕ) (new : LinkColumns) : Decidable (s.AssertsConsistency t id new) :=
  inferInstanceAs (Decidable (ReadCommitted.Sees _ _ _ _ _))

def step : MappingTxnAction → Option MappingTransactions
  | .inserts t columns =>
      some (if s.AssertsConsistency t s.next columns then s.insert t columns else s.rollback t)
  | .updates t id columns =>
      if (s.visible t id).isSome ∧ s.IsFree t id then
        some (if s.AssertsConsistency t id columns then s.write t id columns else s.rollback t)
      -- no row, or one whose lock is held
      else none
  | .commits t => some (s.commit t)
  | .rollsBack t => some (s.rollback t)

end MappingTransactions

end ExpresSync
