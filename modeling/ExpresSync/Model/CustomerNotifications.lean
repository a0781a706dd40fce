import ExpresSync.Foundation.SerialTable
import ExpresSync.Foundation.Sql
import ExpresSync.Model.CustomerCards
import ExpresSync.Model.SseStreams

/-!
# Notifications of customers

`notification.service.ts` and `routes/api/stream/customer.ts`.  A notification is a row, which the
queries of a customer's feed select by its audience and its recipient, and an event, which the live
stream of a customer selects by its recipient alone: the event has no audience.
-/

namespace ExpresSync

inductive NotificationSeverity where
  | info
  | success
  | warn
  | error
deriving DecidableEq

inductive NotificationAudience where
  | admin
  | customer
  | all
deriving DecidableEq

inductive NotificationSourceType where
  | invoice
  | alert
  | subscription
  | walletTransaction
  | webhookEvent
  | system
  | mapping
  | charger
  | reservation
deriving DecidableEq

structure CreateNotificationInput where
  kind : String
  severity : NotificationSeverity
  title : String
  body : String
  sourceType : Option NotificationSourceType
  sourceId : Option String
  adminUserId : Option String
  audience : Option NotificationAudience
  userId : Option String
deriving DecidableEq

/-- A row of `notifications`; `admin_user_id` is the recipient, whoever that is. -/
structure Notification where
  id : ℕ
  kind : String
  severity : NotificationSeverity
  title : String
  body : String
  sourceType : Option NotificationSourceType
  sourceId : Option String
  adminUserId : Option String
  audience : NotificationAudience
  readAt : Option ℕ
  dismissedAt : Option ℕ
  createdAt : ℕ
deriving DecidableEq

abbrev NotificationTable := SerialTable Notification.id

/-- The payload of `notification.created`. -/
structure NotificationCreatedPayload where
  id : ℕ
  kind : String
  severity : NotificationSeverity
  title : String
  body : String
  sourceType : Option NotificationSourceType
  sourceId : Option String
  adminUserId : Option String
  createdAt : ℕ
deriving DecidableEq

/-! ## `createNotification` -/

namespace CreateNotificationInput

variable (input : CreateNotificationInput)

/-- `audience` -/
def routedAudience : NotificationAudience := input.audience.getD .admin

/-- `targetUserId` -/
def targetUserId : Option String :=
  if input.routedAudience = .customer then input.userId else input.adminUserId

/-- The row that is inserted at `now`. -/
def toRow (now id : ℕ) : Notification where
  id := id
  kind := input.kind
  severity := input.severity
  title := input.title
  body := input.body
  sourceType := input.sourceType
  sourceId := input.sourceId
  adminUserId := input.targetUserId
  audience := input.routedAudience
  readAt := none
  dismissedAt := none
  createdAt := now

end CreateNotificationInput

/-- What `createNotification` publishes for a row. -/
def Notification.created (row : Notification) : NotificationCreatedPayload where
  id := row.id
  kind := row.kind
  severity := row.severity
  title := row.title
  body := row.body
  sourceType := row.sourceType
  sourceId := row.sourceId
  adminUserId := row.adminUserId
  createdAt := row.createdAt

/-- The table, the row and the payload of a notification that is created. -/
def createNotification (table : NotificationTable) (now : ℕ) (input : CreateNotificationInput) :
    NotificationTable × Notification × NotificationCreatedPayload :=
  let row := input.toRow now table.next
  (table.insert (input.toRow now) fun _ => rfl, row, row.created)

/-! ## The feed of a customer -/

/-- The part of the condition that all queries of a customer's feed share. -/
def Notification.isForCustomer (userId : String) (row : Notification) : Bool :=
  (row.adminUserId = some userId || (row.audience = .all && row.adminUserId.isNone)) &&
    (row.audience = .customer || row.audience = .all)

/-- The condition of `getCustomerUnread`. -/
def Notification.isUnreadOf (userId : String) (row : Notification) : Bool :=
  row.readAt.isNone && row.dismissedAt.isNone && row.isForCustomer userId

structure ListArchiveParams where
  limit : Option ℤ
  offset : Option ℤ
  severity : Option NotificationSeverity
  kind : Option String
  readState : Option Bool
  sourceType : Option NotificationSourceType

/-- `limit`, held between 1 and 100. -/
def ListArchiveParams.pageLimit (params : ListArchiveParams) : ℕ :=
  (min (max (params.limit.getD 25) 1) 100).toNat

def ListArchiveParams.pageOffset (params : ListArchiveParams) : ℕ :=
  (max (params.offset.getD 0) 0).toNat

/-- The condition of `listCustomerArchive`; an empty `kind` filters nothing. -/
def ListArchiveParams.selects (params : ListArchiveParams) (userId : String) (row : Notification) :
    Bool :=
  row.isForCustomer userId && params.severity.all (row.severity = ·) &&
    (params.kind.filter (· ≠ "")).all (row.kind = ·) &&
    params.sourceType.all (row.sourceType = some ·) &&
    params.readState.all (row.readAt.isSome = ·)

/-- `getCustomerUnread` may return these rows. -/
def GetsCustomerUnread (table : NotificationTable) (userId : String) (limit : ℕ)
    (page : List Notification) : Prop :=
  Sql.IsPage Notification.createdAt (Notification.isUnreadOf userId) table.rows limit 0 page

/-- `listCustomerArchive` may return these rows. -/
def ListsCustomerArchive (table : NotificationTable) (userId : String) (params : ListArchiveParams)
    (page : List Notification) : Prop :=
  Sql.IsPage Notification.createdAt (params.selects userId) table.rows params.pageLimit
    params.pageOffset page

/-! ## The live stream of a customer -/

/-- What the stream reads of the payload of an event. -/
inductive CustomerStreamPayload where
  | notificationCreated (payload : NotificationCreatedPayload)
  | transactionMeter (userMappingId : Option ℕ)
  | other
deriving DecidableEq

/-- The filter of the stream of `userId`, whose mappings are `mappingIds`. -/
def customerStreamFilter (userId : String) (mappingIds : List ℕ)
    (ev : DeliveredEvent CustomerStreamPayload) : Bool :=
  match ev.type, ev.payload with
  | .notificationCreated, .notificationCreated payload =>
      payload.adminUserId.isNone || payload.adminUserId = some userId
  | .transactionMeter, .transactionMeter userMappingId =>
      userMappingId.any mappingIds.contains
  | .chargerState, _ => true
  | _, _ => false

/-- What `GET /api/stream/customer` opens its stream with. -/
def customerStream (userId : String) (mappingIds : List ℕ) :
    SseStreamOptions CustomerStreamPayload where
  types := some [.transactionMeter, .chargerState, .notificationCreated]
  filter := customerStreamFilter userId mappingIds
  types_ne := by simp

end ExpresSync
