import ExpresSync.Foundation.DepthFirst
import ExpresSync.Foundation.KeyedLog
import ExpresSync.Model.CustomerAccounts

/-!
# Linking a tag

`PUT /api/admin/tag/link`: the update of one mapping, and of the mappings of the tags below its
tag.  What the provisioner of customer accounts returns, and which users are customers, are
parameters: neither of the two writes a mapping.  StEvE lists each id tag once.

The columns that the request neither reads nor writes, and the push of the updated rows to StEvE
after the transaction, are left out.
-/

namespace ExpresSync

/-! ## Rows -/

inductive BillingTier where
  | standard
  | comped
deriving DecidableEq

/-- A row of `user_mappings`, as the link route has it. -/
structure TagLink where
  id : ℕ
  steveOcppTagPk : ℕ
  steveOcppIdTag : String
  lagoCustomerExternalId : Option String
  lagoSubscriptionExternalId : Option String
  isActive : Option Bool
  billingTier : BillingTier
  tagType : TagType
  userId : Option String
deriving DecidableEq

/-- The columns an `UPDATE` sets, and what to. -/
structure LinkUpdates where
  lagoCustomerExternalId : Option (Option String) := none
  lagoSubscriptionExternalId : Option (Option String) := none
  isActive : Option (Option Bool) := none
  billingTier : Option BillingTier := none
  tagType : Option TagType := none
  userId : Option String := none
deriving DecidableEq

def LinkUpdates.apply (updates : LinkUpdates) (row : TagLink) : TagLink where
  id := row.id
  steveOcppTagPk := row.steveOcppTagPk
  steveOcppIdTag := row.steveOcppIdTag
  lagoCustomerExternalId := updates.lagoCustomerExternalId.getD row.lagoCustomerExternalId
  lagoSubscriptionExternalId :=
    updates.lagoSubscriptionExternalId.getD row.lagoSubscriptionExternalId
  isActive := updates.isActive.getD row.isActive
  billingTier := updates.billingTier.getD row.billingTier
  tagType := updates.tagType.getD row.tagType
  userId := updates.userId.or row.userId

/-- The rows, with the two columns that have a unique index. -/
structure TagLinkTable where
  rows : List TagLink
  nodup_id : (rows.map TagLink.id).Nodup
  nodup_pk : (rows.map TagLink.steveOcppTagPk).Nodup

/-- The tags of StEvE. -/
abbrev TagHierarchy := KeyedLog StEvEOcppTag.idTag

/-- `getAllChildTags` -/
def getAllChildTags (parentIdTag : String) (allTags : List StEvEOcppTag) : List StEvEOcppTag :=
  DepthFirst.visitRoot
    (fun currentParentId =>
      allTags.filter fun tag => decide (tag.parentIdTag = some currentParentId))
    StEvEOcppTag.idTag parentIdTag (allTags.length + 1)

/-! ## Statements -/

/-- What else the route depends on. -/
structure LinkEnv where
  /-- The role of a user is `customer`. -/
  isCustomer : String → Bool
  resolveOrCreateCustomerAccount : Option String → Except ProvisionFailure String
  /-- `none` when StEvE does not answer. -/
  getOcppTags : Option TagHierarchy

/-- The triggers of `user_mappings` let a row become `row`. -/
def LinkEnv.Allows (env : LinkEnv) (table : TagLinkTable) (updates : LinkUpdates) (row : TagLink) :
    Prop :=
  -- BEFORE UPDATE OF user_id
  (updates.userId.isSome = true → ∀ userId ∈ row.userId, env.isCustomer userId = true) ∧
  -- BEFORE UPDATE OF user_id, lago_customer_external_id
  ((updates.userId.isSome = true ∨ updates.lagoCustomerExternalId.isSome = true) →
    ∀ userId ∈ row.userId, ∀ lagoId ∈ row.lagoCustomerExternalId, ∀ other ∈ table.rows,
      other.id ≠ row.id → other.lagoCustomerExternalId = some lagoId →
        ∀ otherUserId ∈ other.userId, otherUserId = userId)

instance (env : LinkEnv) (table : TagLinkTable) (updates : LinkUpdates) (row : TagLink) :
    Decidable (env.Allows table updates row) :=
  inferInstanceAs (Decidable (_ ∧ _))

namespace TagLinkTable

variable (table : TagLinkTable)

/-- The table with the selected rows updated. -/
def update (sel : TagLink → Bool) (updates : LinkUpdates) : TagLinkTable where
  rows := table.rows.map fun row => if sel row then updates.apply row else row
  nodup_id := by
    rw [List.map_map]
    refine (List.map_congr_left fun row _ => ?_).symm ▸ table.nodup_id
    show (if sel row then updates.apply row else row).id = row.id
    split <;> rfl
  nodup_pk := by
    rw [List.map_map]
    refine (List.map_congr_left fun row _ => ?_).symm ▸ table.nodup_pk
    show (if sel row then updates.apply row else row).steveOcppTagPk = row.steveOcppTagPk
    split <;> rfl

/-- `UPDATE … RETURNING`, when the triggers let it through. -/
def updateReturning (env : LinkEnv) (sel : TagLink → Bool) (updates : LinkUpdates) :
    Option (TagLinkTable × List TagLink) :=
  if ∀ row ∈ table.rows, sel row = true → env.Allows table updates (updates.apply row) then
    some (table.update sel updates, (table.rows.filter sel).map updates.apply)
  else none

end TagLinkTable

/-! ## Requests -/

/-- A field of a JSON object. -/
inductive JsonField (α : Type) where
  | undefined
  | null
  | value (a : α)
deriving DecidableEq

namespace JsonField

variable {α : Type}

/-- `field !== undefined` -/
def isSupplied : JsonField α → Bool
  | undefined => false
  | _ => true

/-- What a column is set to. -/
def column : JsonField α → Option α
  | value a => some a
  | _ => none

/-- `field ?? fallback` -/
def orElse (field : JsonField α) (fallback : Option α) : Option α :=
  match field with
  | value a => some a
  | _ => fallback

/-- The update a field asks for. -/
def toUpdate (field : JsonField α) : Option (Option α) :=
  if field.isSupplied then some field.column else none

end JsonField

/-- The body of the request. -/
structure LinkBody where
  lagoCustomerExternalId : JsonField String := .undefined
  lagoSubscriptionExternalId : JsonField String := .undefined
  isActive : JsonField Bool := .undefined
  billingTier : JsonField String := .undefined
  tag_type : JsonField String := .undefined
  tagType : JsonField String := .undefined
deriving DecidableEq

structure LinkRequest where
  /-- The query parameter `id`. -/
  id : Option String
  /-- `confirm_reassign` is `true`. -/
  confirmReassign : Bool
  body : LinkBody
deriving DecidableEq

/-- A request that is not carried out. -/
inductive LinkRefusal where
  | missingId
  | invalidBillingTier
  | invalidTagType
  | notFound
  | reassignRequired (current new : Option String) (currentUserId : Option String)
  /-- A `ProvisionerError`. -/
  | provisionerError (code : ProvisionerErrorCode) (message : String)
  | failed
deriving DecidableEq

def LinkRefusal.status : LinkRefusal → ℕ
  | missingId | invalidBillingTier | invalidTagType => 400
  | notFound => 404
  | reassignRequired _ _ _ => 409
  | provisionerError code _ => code.status
  | failed => 500

/-- The `error` of the response. -/
def LinkRefusal.error : LinkRefusal → String
  | missingId => "Missing ID"
  | invalidBillingTier => "Invalid billingTier. Must be 'standard' or 'comped'."
  | invalidTagType => "Invalid tag_type. Must be one of: ev_card, keytag, app, meta"
  | notFound => "Mapping not found"
  | reassignRequired _ _ _ => "REASSIGN_REQUIRED"
  | provisionerError _ message => message
  | failed => "Failed to update mapping"

/-- The allowlist of `billingTier`. -/
def readBillingTier (tier : String) : Option BillingTier :=
  if tier = "standard" then some .standard
  else if tier = "comped" then some .comped
  else none

/-- `isTagType` -/
def readTagType (value : String) : Option TagType :=
  if value = "ev_card" then some .evCard
  else if value = "keytag" then some .keytag
  else if value = "app" then some .app
  else if value = "meta" then some .metaTag
  else none

def LinkBody.billingTierUpdate (body : LinkBody) : Except LinkRefusal (Option BillingTier) :=
  match body.billingTier with
  | .value tier => (readBillingTier tier).elim (.error .invalidBillingTier) fun tier =>
    .ok (some tier)
  | _ => .ok none

def LinkBody.tagTypeUpdate (body : LinkBody) : Except LinkRefusal (Option TagType) :=
  match body.tag_type.orElse body.tagType.column with
  | some rawTagType => (readTagType rawTagType).elim (.error .invalidTagType) fun type =>
    .ok (some type)
  | none => .ok none

/-- What the body sets in the mapping itself. -/
def LinkBody.updates (body : LinkBody) : Except LinkRefusal LinkUpdates := do
  let billingTier ← body.billingTierUpdate
  let tagType ← body.tagTypeUpdate
  return {
    lagoCustomerExternalId := body.lagoCustomerExternalId.toUpdate
    lagoSubscriptionExternalId := body.lagoSubscriptionExternalId.toUpdate
    isActive := body.isActive.toUpdate
    billingTier, tagType }

/-- The request moves the mapping to another Lago customer. -/
def LinkBody.isReassign (body : LinkBody) (currentMapping : TagLink) : Bool :=
  body.lagoCustomerExternalId.isSupplied &&
    decide (body.lagoCustomerExternalId.column ≠ currentMapping.lagoCustomerExternalId)

def LinkBody.cascadeIsActive (body : LinkBody) : Bool := body.isActive.isSupplied

def LinkBody.cascadeLago (body : LinkBody) : Bool :=
  body.lagoCustomerExternalId.isSupplied || body.lagoSubscriptionExternalId.isSupplied

/-- What the body sets in the mappings of the descendants; `userId` is that of the new account. -/
def LinkBody.childUpdates (body : LinkBody) (currentMapping : TagLink) (userId : Option String) :
    LinkUpdates where
  lagoCustomerExternalId :=
    if body.cascadeLago then
      some (body.lagoCustomerExternalId.orElse currentMapping.lagoCustomerExternalId)
    else none
  lagoSubscriptionExternalId :=
    if body.cascadeLago then
      some (body.lagoSubscriptionExternalId.orElse currentMapping.lagoSubscriptionExternalId)
    else none
  isActive := if body.cascadeIsActive then some body.isActive.column else none
  userId := userId

section

variable (env : LinkEnv)

/-- The account of the Lago customer, when the request moves the mapping to one. -/
def LinkEnv.reassigned (currentMapping : TagLink) (body : LinkBody) :
    Except LinkRefusal (Option String) :=
  if body.isReassign currentMapping then
    match env.resolveOrCreateCustomerAccount body.lagoCustomerExternalId.column with
    | .error (.rejected code message) => throw (.provisionerError code message)
    | .error .database => throw .failed
    | .ok userId => pure (some userId)
  else pure none

/-- The loop over the descendants, as a transaction that may fail. -/
def LinkEnv.cascade (childUpdates : LinkUpdates) :
    List StEvEOcppTag → TagLinkTable → Except LinkRefusal TagLinkTable
  | [], table => pure table
  | childTag :: childTags, table =>
      match table.updateReturning env
        (fun row => decide (row.steveOcppTagPk = childTag.ocppTagPk)) childUpdates with
      | none => throw .failed
      | some (table, _) => LinkEnv.cascade childUpdates childTags table

/-- The transaction: the table after it, and the mapping. -/
def LinkEnv.linkTransaction (table : TagLinkTable) (currentMapping : TagLink) (body : LinkBody)
    (updates : LinkUpdates) : Except LinkRefusal (TagLinkTable × TagLink) := do
  let userId ← env.reassigned currentMapping body
  let updates := { updates with userId := userId }
  -- drizzle throws when there is nothing to set
  if updates = {} then throw .failed
  match table.updateReturning env (fun row => decide (row.id = currentMapping.id)) updates with
  | some (table, [mapping]) =>
      if body.cascadeIsActive || body.cascadeLago then
        match env.getOcppTags with
        | none => throw .failed
        | some allTags =>
            let table ← env.cascade (body.childUpdates currentMapping userId)
              (getAllChildTags currentMapping.steveOcppIdTag allTags.entries) table
            return (table, mapping)
      else return (table, mapping)
  | _ => throw .failed

/-- The handler: the table afterwards and the mapping.  A request that is refused writes nothing. -/
def LinkEnv.put (table : TagLinkTable) (request : LinkRequest) :
    Except LinkRefusal (TagLinkTable × TagLink) :=
  match parseInt (request.id.getD "") with
  | none | some 0 => throw .missingId
  | some id => do
      let updates ← request.body.updates
      match table.rows.find? fun row => decide ((row.id : ℤ) = id) with
      | none => throw .notFound
      | some currentMapping =>
          if request.body.isReassign currentMapping && !request.confirmReassign then
            throw (.reassignRequired currentMapping.lagoCustomerExternalId
              request.body.lagoCustomerExternalId.column currentMapping.userId)
          else env.linkTransaction table currentMapping request.body updates

end

end ExpresSync
