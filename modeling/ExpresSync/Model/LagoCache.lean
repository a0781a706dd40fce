import ExpresSync.Foundation.Chunks
import ExpresSync.Foundation.KeyedLog
import ExpresSync.Foundation.Transition
import ExpresSync.Model.Types

/-!
# The Lago entity cache

`lago-reconcile/`: the cached rows of subscriptions and of invoices, which a webhook writes when it
comes in and a reconcile pass writes from the pages that it has listed.  A pass lists the entities
page by page, upserts each of them, reads the active rows and marks those rows as deleted that it
has not listed.  Anything else can happen between any two of these steps.

Lago numbers its changes, from 0 on.  A row remembers, next to its columns, the number of the
change its payload stems from and those of the changes on account of which it was deleted; the code
has neither.  A list request is answered as of its first page, in any order; an entity that is still
there when its page is fetched comes as it is then.  The fees of an invoice, in their own table,
are left out.
-/

namespace ExpresSync

/-! ## Entities -/

/-- What the cache of subscriptions has columns for. -/
structure LagoSubscriptionPayload where
  lagoId : String
  externalId : String
  externalCustomerId : String
  lagoCustomerId : String
  planCode : String
  status : SubscriptionStatus
  startedAt : Option String
  terminatedAt : Option String
  createdAt : String
deriving DecidableEq

/-- What the cache of invoices has columns for. -/
structure LagoInvoicePayload where
  lagoId : String
  number : String
  externalCustomerId : Option String
  status : String
  paymentStatus : String
  invoiceType : String
  totalAmountCents : ℤ
  currency : String
  issuingDate : String
  paymentOverdue : Option Bool
  createdAt : Option String
  updatedAt : Option String
deriving DecidableEq

structure LagoSubscriptionColumns where
  externalId : String
  externalCustomerId : Option String
  customerLagoId : Option String
  planCode : Option String
  status : Option SubscriptionStatus
  startedAt : Option ℕ
  terminatedAt : Option ℕ
deriving DecidableEq

structure LagoInvoiceColumns where
  number : Option String
  externalCustomerId : Option String
  status : Option String
  paymentStatus : Option String
  invoiceType : Option String
  totalAmountCents : Option ℤ
  currency : Option String
  issuingDate : Option String
  paymentOverdue : Option Bool
deriving DecidableEq

/-- `per_page` -/
def lagoPerPage : ℕ := 100

/-- `meta.total_pages` -/
def lagoTotalPages (total : ℕ) : ℕ := (total + lagoPerPage - 1) / lagoPerPage

/-- What the reconcilers of two kinds of entities do differently. -/
structure LagoEntityKind (E C : Type) where
  lagoId : E → String
  columns : E → C
  /-- A column with a unique index. -/
  uniqueColumn : C → Option String
  lagoUpdatedAt : E → Option ℕ
  maxPages : ℕ
  /-- With the number of the page, the number of pages and the length of the page. -/
  isLastPage : ℕ → ℕ → ℕ → Bool
  /-- Behind the last page there is nothing. -/
  isLastPage_sound : ∀ total page,
    isLastPage (page + 1) (lagoTotalPages total) (min lagoPerPage (total - page * lagoPerPage)) =
      true → total ≤ (page + 1) * lagoPerPage
  /-- There are webhooks about deleted entities. -/
  deletedWebhook : Bool

section

variable (parseDate : String → Option ℕ)

/-- `parseLagoTimestamp`, with `new Date` as `parseDate`. -/
def parseLagoTimestamp : Option String → Option ℕ
  | none => none
  | some value => if value = "" then none else parseDate value

def subscriptionKind : LagoEntityKind LagoSubscriptionPayload LagoSubscriptionColumns where
  lagoId := LagoSubscriptionPayload.lagoId
  columns s :=
    { externalId := s.externalId
      externalCustomerId := some s.externalCustomerId
      customerLagoId := some s.lagoCustomerId
      planCode := some s.planCode
      status := some s.status
      startedAt := parseLagoTimestamp parseDate s.startedAt
      terminatedAt := parseLagoTimestamp parseDate s.terminatedAt }
  -- `lago_subscriptions_external_id_unique`
  uniqueColumn columns := some columns.externalId
  lagoUpdatedAt s := parseLagoTimestamp parseDate (some s.createdAt)
  maxPages := 100
  isLastPage _ _ length := length < lagoPerPage
  isLastPage_sound total page h := by
    have hshort : min lagoPerPage (total - page * lagoPerPage) < lagoPerPage := of_decide_eq_true h
    rw [Nat.succ_mul]
    omega
  deletedWebhook := false

def invoiceKind : LagoEntityKind LagoInvoicePayload LagoInvoiceColumns where
  lagoId := LagoInvoicePayload.lagoId
  columns inv :=
    { number := some inv.number
      externalCustomerId := inv.externalCustomerId
      status := some inv.status
      paymentStatus := some inv.paymentStatus
      invoiceType := some inv.invoiceType
      totalAmountCents := some inv.totalAmountCents
      currency := some inv.currency
      issuingDate := some inv.issuingDate
      paymentOverdue := inv.paymentOverdue }
  uniqueColumn _ := none
  lagoUpdatedAt inv := parseLagoTimestamp parseDate (inv.updatedAt.or inv.createdAt)
  maxPages := 200
  isLastPage page totalPages length := decide (totalPages ≤ page) || decide (length < lagoPerPage)
  isLastPage_sound total page h := by
    rw [Bool.or_eq_true, decide_eq_true_eq, decide_eq_true_eq] at h
    rcases h with hlast | hshort
    · have hceil := Nat.lt_div_mul_add (a := total + lagoPerPage - 1) (b := lagoPerPage) (by decide)
      have hpages : lagoTotalPages total * lagoPerPage ≤ (page + 1) * lagoPerPage :=
        Nat.mul_le_mul_right _ hlast
      unfold lagoTotalPages at hpages
      omega
    · rw [Nat.succ_mul]
      omega
  deletedWebhook := true

end

/-! ## Rows -/

/-- A row of the cache. -/
structure CacheRow (E C : Type) where
  columns : C
  payload : E
  lagoUpdatedAt : Option ℕ
  syncedAt : ℕ
  deletedAt : Option ℕ
  /-- The change of the payload. -/
  version : ℕ
  /-- The changes the row was deleted for since it was upserted last. -/
  deletedBy : List ℕ
deriving DecidableEq

inductive LagoChange (E : Type) where
  | saved (entity : E)
  | deleted (lagoId : String)
deriving DecidableEq

/-- What Lago has of an id: the last change. -/
structure LagoRecord (E : Type) where
  change : LagoChange E
  version : ℕ
deriving DecidableEq

/-- An entity as a page of a list has it, and the number of changes that page knows of. -/
structure ListedEntity (E : Type) where
  entity : E
  version : ℕ
  asOf : ℕ
deriving DecidableEq

variable {E C : Type}

/-- The id that a change is about. -/
def LagoChange.about (K : LagoEntityKind E C) : LagoChange E → String
  | saved entity => K.lagoId entity
  | deleted lagoId => lagoId

abbrev LagoTable (K : LagoEntityKind E C) :=
  KeyedLog (fun record : LagoRecord E => record.change.about K)

abbrev CacheTable (K : LagoEntityKind E C) :=
  KeyedLog (fun row : CacheRow E C => K.lagoId row.payload)

/-- The entity of a record, as a page lists it. -/
def LagoRecord.listed (asOf : ℕ) : LagoRecord E → Option (ListedEntity E)
  | ⟨.saved entity, version⟩ => some ⟨entity, version, asOf⟩
  | ⟨.deleted _, _⟩ => none

namespace LagoEntityKind

variable (K : LagoEntityKind E C)

/-- The row that an upsert leaves: `deletedAt` is cleared whatever was there. -/
def row (entity : E) (version now : ℕ) : CacheRow E C where
  columns := K.columns entity
  payload := entity
  lagoUpdatedAt := K.lagoUpdatedAt entity
  syncedAt := now
  deletedAt := none
  version := version
  deletedBy := []

/-- Another row has the value that the unique index allows once. -/
def Taken (cache : CacheTable K) (entity : E) : Prop :=
  ∃ row ∈ cache.entries, K.lagoId row.payload ≠ K.lagoId entity ∧
    (K.uniqueColumn row.columns).isSome ∧
    K.uniqueColumn row.columns = K.uniqueColumn (K.columns entity)

instance (cache : CacheTable K) (entity : E) : Decidable (K.Taken cache entity) :=
  inferInstanceAs (Decidable (∃ row ∈ cache.entries, _ ∧ _ ∧ _))

/-- `INSERT … ON CONFLICT (lago_id) DO UPDATE`; `none` when the unique index refuses it. -/
def upsertEntity (cache : CacheTable K) (entity : E) (version now : ℕ) : Option (CacheTable K) :=
  if K.Taken cache entity then none else some (cache.upsert (K.row entity version now))

/-- `UPDATE … SET deleted_at = now WHERE lago_id = … AND deleted_at IS NULL` -/
def softDelete (cache : CacheTable K) (lagoId : String) (version now : ℕ) : CacheTable K :=
  cache.map
    (fun row =>
      if K.lagoId row.payload = lagoId then
        { row with deletedAt := row.deletedAt.or (some now), deletedBy := version :: row.deletedBy }
      else row)
    fun row => by split <;> rfl

/-- `UPDATE … SET deleted_at = now WHERE lago_id IN (…)`, for the changes Lago has seen last. -/
def softDeleteOrphans (cache : CacheTable K) (lago : LagoTable K) (orphanIds : List String)
    (now : ℕ) : CacheTable K :=
  cache.map
    (fun row =>
      if K.lagoId row.payload ∈ orphanIds then
        { row with
          deletedAt := some now
          deletedBy :=
            ((lago.get? (K.lagoId row.payload)).map LagoRecord.version).toList ++ row.deletedBy }
      else row)
    fun row => by split <;> rfl

/-- The ids of the rows with `deleted_at IS NULL`. -/
def activeIds (cache : CacheTable K) : List String :=
  (cache.entries.filter fun row => row.deletedAt.isNone).map fun row => K.lagoId row.payload

/-- What is there to be listed. -/
def existing (lago : LagoTable K) (asOf : ℕ) : List (ListedEntity E) :=
  lago.entries.filterMap (LagoRecord.listed asOf)

end LagoEntityKind

section

variable (parseDate : String → Option ℕ)

def upsertSubscription := (subscriptionKind parseDate).upsertEntity

def upsertInvoice := (invoiceKind parseDate).upsertEntity

def softDeleteInvoice := (invoiceKind parseDate).softDelete

end

/-- Any local id that is not in the fresh set. -/
def findOrphans (freshIds localIds : List String) : List String :=
  localIds.filter fun id => decide (id ∉ freshIds)

/-! ## Runs -/

/-- What the pages of one pass come from: each entity that exists, once. -/
structure LagoListing (K : LagoEntityKind E C) where
  lago : LagoTable K
  asOf : ℕ
  listed : List (ListedEntity E)
  complete : listed.Perm (K.existing lago asOf)

/-- How far a reconcile pass has come. -/
inductive ReconcilePass (K : LagoEntityKind E C) where
  | idle
  /-- It has fetched this many pages. -/
  | listing (source : LagoListing K) (pages : ℕ) (allItems : List (ListedEntity E))
  | upserting (source : LagoListing K) (fetched remaining : List (ListedEntity E))
  /-- It has read the active rows. -/
  | deleting (source : LagoListing K) (fetched : List (ListedEntity E)) (localActive : List String)

structure LagoCacheWorld (K : LagoEntityKind E C) where
  now : ℕ
  changes : List (LagoChange E)
  lago : LagoTable K
  cache : CacheTable K
  /-- The changes that rows were written for, with the ids of the rows. -/
  applied : List (String × ℕ)
  pass : ReconcilePass K

inductive LagoCacheAction (E : Type) where
  | waits (ms : ℕ)
  | lagoSaves (entity : E)
  | lagoDeletes (lagoId : String)
  /-- The webhook of a change comes in, early or late, once or again; the statement may fail. -/
  | webhook (number : ℕ) (succeeds : Bool)
  | passStarts (listed : List (ListedEntity E))
  /-- One round of the pagination loop. -/
  | passFetchesPage
  | passUpserts (succeeds : Bool)
  | passReadsLocal
  | passDeletesOrphans
  /-- A request, or a statement outside the upserts, fails. -/
  | passFails

namespace LagoCacheWorld

variable {K : LagoEntityKind E C} (w : LagoCacheWorld K)

variable (K) in
def initial : LagoCacheWorld K := ⟨0, [], KeyedLog.empty, KeyedLog.empty, [], .idle⟩

def lagoChanges (change : LagoChange E) : LagoCacheWorld K :=
  { w with
    changes := w.changes ++ [change]
    lago := w.lago.upsert ⟨change, w.changes.length⟩ }

/-- An upsert, whose error its caller catches. -/
def upserts (entity : E) (version : ℕ) (succeeds : Bool) : LagoCacheWorld K :=
  match if succeeds then K.upsertEntity w.cache entity version w.now else none with
  | none => w
  | some cache => { w with cache := cache, applied := (K.lagoId entity, version) :: w.applied }

/-- `handleSubscriptionWebhook`, `handleInvoiceWebhook` -/
def handleWebhook (number : ℕ) (succeeds : Bool) : LagoChange E → Option (LagoCacheWorld K)
  | .saved entity => some (w.upserts entity number succeeds)
  | .deleted lagoId =>
      if !K.deletedWebhook then none
      else if succeeds ∧ w.cache.Has lagoId then
        some { w with
          cache := K.softDelete w.cache lagoId number w.now
          applied := (lagoId, number) :: w.applied }
      else some w

/-- An entity of a list, when its page is fetched. -/
def refreshed (item : ListedEntity E) : ListedEntity E :=
  (((w.lago.get? (K.lagoId item.entity)).bind (LagoRecord.listed w.changes.length))).getD item

/-- The loop of `requestAllPages` and `listAllInvoices`. -/
def fetchesPage (listing : LagoListing K) (pages : ℕ) (allItems : List (ListedEntity E)) :
    ReconcilePass K :=
  if K.maxPages < pages + 1 then .upserting listing allItems allItems
  else
    let items := (Chunks.chunkAt lagoPerPage listing.listed pages).map w.refreshed
    if K.isLastPage (pages + 1) (lagoTotalPages listing.listed.length) items.length then
      .upserting listing (allItems ++ items) (allItems ++ items)
    else .listing listing (pages + 1) (allItems ++ items)

/-- The `UPDATE` at the end of a pass. -/
def deletesOrphans (listing : LagoListing K) (fetched : List (ListedEntity E))
    (localActive : List String) : LagoCacheWorld K :=
  let orphanIds := findOrphans (fetched.map fun item => K.lagoId item.entity) localActive
  let marked := (w.cache.entries.map fun row => K.lagoId row.payload).filter
    fun id => decide (id ∈ orphanIds)
  { w with
    cache := K.softDeleteOrphans w.cache listing.lago orphanIds w.now
    applied := (marked.filterMap fun id => (listing.lago.get? id).map fun r => (id, r.version)) ++
      w.applied
    pass := .idle }

variable [DecidableEq E]

def step (w : LagoCacheWorld K) : LagoCacheAction E → Option (LagoCacheWorld K)
  | .waits ms => some { w with now := w.now + ms }
  | .lagoSaves entity => some (w.lagoChanges (.saved entity))
  | .lagoDeletes lagoId => some (w.lagoChanges (.deleted lagoId))
  | .webhook number succeeds => w.changes[number]?.bind (w.handleWebhook number succeeds)
  | .passStarts listed =>
      match w.pass with
      | .idle =>
          if h : listed.Perm (K.existing w.lago w.changes.length) then
            some { w with pass := .listing ⟨w.lago, w.changes.length, listed, h⟩ 0 [] }
          else none
      | _ => none
  | .passFetchesPage =>
      match w.pass with
      | .listing source pages allItems =>
        some { w with pass := w.fetchesPage source pages allItems }
      | _ => none
  | .passUpserts succeeds =>
      match w.pass with
      | .upserting source fetched (item :: remaining) =>
          some { w.upserts item.entity item.version succeeds with
            pass := .upserting source fetched remaining }
      | _ => none
  | .passReadsLocal =>
      match w.pass with
      | .upserting source fetched [] =>
          some { w with pass := .deleting source fetched (K.activeIds w.cache) }
      | _ => none
  | .passDeletesOrphans =>
      match w.pass with
      | .deleting source fetched localActive => some (w.deletesOrphans source fetched localActive)
      | _ => none
  | .passFails =>
      match w.pass with
      | .idle => none
      | .upserting _ _ (_ :: _) => none
      | _ => some { w with pass := .idle }

end LagoCacheWorld

end ExpresSync
