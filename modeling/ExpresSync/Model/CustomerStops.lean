import ExpresSync.Model.CustomerCards
import ExpresSync.Model.InlinePushes
import ExpresSync.Model.SyncDb

/-!
# Stopping a session

`POST /api/customer/session-stop` up to its call of `remoteStop`.  Whose a session is, the handler
looks up in `synced_transaction_events`; the charger it takes from the body.

Both tables are those of one moment.  What the handler does after its call, and the row of
`charger_operation_log` it writes before, are left out.  So are its two ways to a 500: a body that
is `null`, and a `transactionId` that is too large for the column, which here is not found.
-/

namespace ExpresSync

/-- The mappings as `scoping.ts` has them. -/
def UserMappingTable.links (mappings : UserMappingTable) : TagLinkTable where
  rows := mappings.table.rows.map UserMapping.toLink
  nodup_id := by
    rw [List.map_map]
    exact mappings.table.nodup
  nodup_pk := by
    rw [List.map_map]
    exact mappings.nodup_pk

/-! ## Requests -/

structure SessionStopBody where
  transactionId : BodyValue
  chargeBoxId : BodyValue
deriving DecidableEq

/-- A refused request. -/
inductive SessionStopRefusal where
  | unauthorized
  | readOnly
  | invalid (error : String)
  | capabilityDenied (capability : CustomerCapability)
  | sessionNotFound
deriving DecidableEq

def SessionStopRefusal.status : SessionStopRefusal → ℕ
  | unauthorized => 401
  | readOnly | capabilityDenied _ => 403
  | invalid _ => 400
  | sessionNotFound => 404

def SessionStopRefusal.error : SessionStopRefusal → String
  | unauthorized => "Unauthorized"
  | readOnly => "Read-only while impersonating; use admin tools to mutate."
  | invalid error => error
  | capabilityDenied _ => "Account inactive"
  | sessionNotFound => "Session not found"

/-- `RemoteStopTransactionParams` -/
structure RemoteStopParams where
  chargeBoxId : String
  transactionId : ℤ
deriving DecidableEq

def checkSessionStopBody : Option SessionStopBody → Except SessionStopRefusal RemoteStopParams
  | none => throw (.invalid "Invalid JSON body")
  | some body =>
      match body.transactionId, body.chargeBoxId with
      | .integer transactionId, .string chargeBoxId =>
          if chargeBoxId = "" then throw (.invalid "chargeBoxId is required")
          else pure ⟨chargeBoxId, transactionId⟩
      | .integer _, _ => throw (.invalid "chargeBoxId is required")
      | _, _ => throw (.invalid "transactionId must be an integer")

/-! ## The handler -/

/-- `synced_transaction_events` -/
abbrev EventTable := KeyedLog SyncedTransactionEvent.lagoEventTransactionId

/-- The query of the handler finds a row. -/
def EventTable.ownedBy (events : EventTable) (mappingIds : List ℕ) (transactionId : ℤ) : Bool :=
  events.entries.any fun event =>
    decide ((event.steveTransactionId : ℤ) = transactionId) &&
      event.userMappingId.any mappingIds.contains

/-- `POST /api/customer/session-stop`, up to the call of `remoteStop`. -/
def postSessionStop (mappings : UserMappingTable) (events : EventTable) (state : RequestState)
    (body : Option SessionStopBody) : Except SessionStopRefusal RemoteStopParams :=
  match state.user, state.actingAs with
  | none, _ => throw .unauthorized
  | some _, some _ => throw .readOnly
  | some _, none => do
      let params ← checkSessionStopBody body
      let scope := resolveCustomerScope mappings.links state
      if .stopCharge ∉ getCustomerCapabilities scope then throw (.capabilityDenied .stopCharge)
      else if scope.mappingIds.isEmpty then throw .sessionNotFound
      -- The schema of the parameters asks for no more than has been checked.
      else if events.ownedBy scope.mappingIds params.transactionId then return params
      else throw .sessionNotFound

end ExpresSync
