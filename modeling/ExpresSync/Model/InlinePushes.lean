import ExpresSync.Model.DeviceTags
import ExpresSync.Model.LinkRemoval
import ExpresSync.Model.RouteClassifier
import ExpresSync.Model.TagSync

/-!
# Inline pushes

What copies the parent column of `user_mappings` back to StEvE: `POST`, `PUT` and `DELETE` of
`/api/admin/tag/link`, and `syncSingleTagToSteve` by itself.  They are steps of one world, beside
the calls of `ensureCustomerMetaTag` and `ensureDeviceTag`, and a request ends before the next
one begins.

`PUT` and `DELETE` act on the columns that the link route has, and leave the two mirror columns as
they are.
-/

namespace ExpresSync

/-! ## Rows and tags -/

/-- The row, as the link route has it. -/
def UserMapping.toLink (m : UserMapping) : TagLink where
  id := m.id
  steveOcppTagPk := m.steveOcppTagPk
  steveOcppIdTag := m.steveOcppIdTag
  lagoCustomerExternalId := m.lagoCustomerExternalId
  lagoSubscriptionExternalId := m.lagoSubscriptionExternalId
  isActive := some m.isActive
  billingTier := .standard
  tagType := m.tagType
  userId := m.userId

/-- The row after a statement of the link route; without `is_active` it counts as switched off. -/
def UserMapping.setLink (m : UserMapping) (link : TagLink) : UserMapping :=
  { m with
    lagoCustomerExternalId := link.lagoCustomerExternalId
    lagoSubscriptionExternalId := link.lagoSubscriptionExternalId
    isActive := decide (link.isActive = some true)
    tagType := link.tagType
    userId := link.userId }

/-- What `getOcppTags()` lists. -/
def SteveTags.hierarchy (tags : SteveTags) : TagHierarchy := ⟨tags.table.rows, tags.nodup_idTag⟩

/-- What a request of the link route meets. -/
structure PushEnv where
  /-- StEvE answers `getOcppTags()`. -/
  listsAll : Bool
  /-- The role of a user is `customer`. -/
  isCustomer : String → Bool
  resolveOrCreateCustomerAccount : Option String → Except ProvisionFailure String
  faults : SteveFaults
  /-- When a mapping is pushed. -/
  timestamp : ℕ → String

def PushEnv.linkEnv (env : PushEnv) (tags : SteveTags) : LinkEnv where
  isCustomer := env.isCustomer
  resolveOrCreateCustomerAccount := env.resolveOrCreateCustomerAccount
  getOcppTags := if env.listsAll then some tags.hierarchy else none

namespace TagWorld

variable (w : TagWorld)

/-- The rows, as the link route has them. -/
def links : TagLinkTable where
  rows := w.mappings.table.rows.map UserMapping.toLink
  nodup_id := by
    rw [List.map_map]
    exact w.mappings.table.nodup
  nodup_pk := by
    rw [List.map_map]
    exact w.mappings.nodup_pk

/-- The row that the link route has made of a row. -/
def rowOf (links : TagLinkTable) (m : UserMapping) : UserMapping :=
  match links.rows.find? fun link => decide (link.id = m.id) with
  | some link => m.setLink link
  | none => m

lemma id_rowOf (links : TagLinkTable) (m : UserMapping) : (rowOf links m).id = m.id := by
  unfold rowOf
  split <;> rfl

lemma pk_rowOf (links : TagLinkTable) (m : UserMapping) :
    (rowOf links m).steveOcppTagPk = m.steveOcppTagPk := by
  unfold rowOf
  split <;> rfl

/-- The world after the statements of the link route. -/
def withLinks (links : TagLinkTable) : TagWorld :=
  w.updateMappings (fun _ => true) (rowOf links) (id_rowOf links) (pk_rowOf links)

/-- The rows of the tags. -/
def rowsOfPks (ocppTagPks : List ℕ) : List UserMapping :=
  ocppTagPks.filterMap fun ocppTagPk =>
    w.mappings.table.rows.find? fun m => decide (m.steveOcppTagPk = ocppTagPk)

/-- `syncSingleTagToSteve` of one row after the other. -/
def push (faults : SteveFaults) (timestamp : ℕ → String) (rows : List UserMapping) : TagWorld :=
  w.sendAll faults (rows.map fun m => .update (singleTagUpdate (timestamp m.id) m))

/-- `createOcppTag(idTag, {})` -/
def createTag (idTag : String) : TagWorld where
  tags := w.tags.createOcppTag idTag none none 1
  mappings := w.mappings
  numbered := fun m hm => Nat.lt_of_lt_of_le (w.numbered m hm) SteveTags.next_le_createOcppTag

lemma id_setParent (parentIdTag : String) (m : UserMapping) :
    ({ m with steveParentIdTag := some parentIdTag } : UserMapping).id = m.id := rfl

lemma pk_setParent (parentIdTag : String) (m : UserMapping) :
    ({ m with steveParentIdTag := some parentIdTag } : UserMapping).steveOcppTagPk =
      m.steveOcppTagPk := rfl

/-- `set({ steveParentIdTag })` in the row `id`. -/
def setParent (id : ℕ) (parentIdTag : String) : TagWorld :=
  w.updateMappings (fun m => decide (m.id = id))
    (fun m => { m with steveParentIdTag := some parentIdTag }) (id_setParent parentIdTag)
    (pk_setParent parentIdTag)

end TagWorld

/-! ## `POST` -/

/-- The body of the request. -/
structure LinkPost where
  ocppTagId : String
  ocppTagPk : ℕ
  lagoCustomerId : String
  lagoSubscriptionId : Option String
  isActive : Option Bool
  tag_type : Option String
  tagType : Option String

/-- What the request meets. -/
structure LinkPostEnv extends PushEnv where
  /-- What the first query of `ensureCustomerMetaTag` finds, `none` when it fails. -/
  owner : Option (Option MetaTagOwner)
  getSubscriptions : SubscriptionsAnswer

namespace LinkPost

variable (request : LinkPost)

/-- The required fields are there. -/
def IsComplete : Prop :=
  request.ocppTagId ≠ "" ∧ request.ocppTagPk ≠ 0 ∧ request.lagoCustomerId ≠ ""

instance : Decidable request.IsComplete := inferInstanceAs (Decidable (_ ∧ _))

/-- The `tag_type` of the rows, `none` when the request is refused for it. -/
def rowType : Option TagType :=
  match request.tag_type <|> request.tagType with
  | some rawTagType => readTagType rawTagType
  | none => some .evCard

/-- The values that the rows of a request have in common. -/
def row (tagType : TagType) (userId : String) (ocppTagPk : ℕ) (idTag : String)
    (parentIdTag expiryDate : Option String) : UserMapping where
  id := 0
  steveOcppTagPk := ocppTagPk
  steveOcppIdTag := idTag
  lagoCustomerExternalId := some request.lagoCustomerId
  lagoSubscriptionExternalId := request.lagoSubscriptionId.filter (· ≠ "")
  displayName := none
  tagType := tagType
  isActive := request.isActive.getD true
  steveParentIdTag := parentIdTag
  steveExpiryDate := expiryDate
  userId := some userId

/-- The row of the linked tag. -/
def parentRow (tagType : TagType) (userId : String) (effectiveTagPk : ℕ)
    (allTags : List StEvEOcppTag) : UserMapping :=
  let ourSteveRow := allTags.find? fun t => decide (t.ocppTagPk = effectiveTagPk)
  request.row tagType userId effectiveTagPk request.ocppTagId
    (ourSteveRow.bind StEvEOcppTag.parentIdTag) (ourSteveRow.bind StEvEOcppTag.expiryDate)

/-- The row of a tag below it. -/
def childRow (tagType : TagType) (userId : String) (childTag : StEvEOcppTag) : UserMapping :=
  request.row tagType userId childTag.ocppTagPk childTag.idTag (some request.ocppTagId)
    childTag.expiryDate

/-- The rows that are inserted, the one of the linked tag first. -/
def rows (tagType : TagType) (userId : String) (effectiveTagPk : ℕ)
    (allTags : List StEvEOcppTag) : List UserMapping :=
  request.parentRow tagType userId effectiveTagPk allTags ::
    (getAllChildTags request.ocppTagId allTags).map (request.childRow tagType userId)

end LinkPost

/-- The triggers of `user_mappings` let a new row in. -/
def PushEnv.Admits (env : PushEnv) (mappings : UserMappingTable) (row : UserMapping) : Prop :=
  ∀ userId ∈ row.userId, env.isCustomer userId = true ∧
    ∀ lagoId ∈ row.lagoCustomerExternalId, ∀ other ∈ mappings.table.rows,
      other.lagoCustomerExternalId = some lagoId →
        ∀ otherUserId ∈ other.userId, otherUserId = userId

instance (env : PushEnv) (mappings : UserMappingTable) (row : UserMapping) :
    Decidable (env.Admits mappings row) :=
  inferInstanceAs (Decidable (∀ userId ∈ row.userId, _))

/-- The inserts of a transaction: the world, and the rows as they are returned.  An insert that
fails fails the transaction, also where the handler catches its error. -/
def PushEnv.insertRows (env : PushEnv) :
    List UserMapping → TagWorld → Option (TagWorld × List UserMapping)
  | [], w => some (w, [])
  | row :: rows, w =>
      if w.mappings.HasPk row.steveOcppTagPk ∨ ¬env.Admits w.mappings row then none
      else
        (env.insertRows rows (w.insertMapping row)).map fun (linked, inserted) =>
          (linked, { row with id := w.mappings.table.next } :: inserted)

namespace TagWorld

variable (w : TagWorld) (env : LinkPostEnv) (request : LinkPost)

/-- The tag that is linked, created when StEvE does not list it: the world, and
`effectiveTagPk`. -/
def effectiveTag : Option (TagWorld × ℕ) :=
  match (w.tags.table.rows.find? fun t => decide (t.ocppTagPk = request.ocppTagPk)).or
      (w.tags.table.rows.find? fun t => decide (t.idTag = request.ocppTagId)) with
  | some steveTag => some (w, steveTag.ocppTagPk)
  | none =>
      if env.faults.creates then some (w.createTag request.ocppTagId, w.tags.table.next) else none

/-- The call of `ensureCustomerMetaTag`, when its first query finds `owner`. -/
def metaTagCall (owner : Option MetaTagOwner) : CustomerMetaTagCall where
  externalId := request.lagoCustomerId
  displayName := none
  owner := owner
  getSubscriptions := env.getSubscriptions
  faults := env.faults

/-- That call: the world, and `desiredParentIdTag`. -/
def ensureParent : TagWorld × String :=
  match env.owner with
  | none => (w, parentIdTagFor request.lagoCustomerId)
  | some owner =>
      ((w.ensureCustomerMetaTag (metaTagCall env request owner)).1,
        (w.inputs (metaTagCall env request owner)).idTag request.lagoCustomerId)

/-- The checks and the look-up: the `tag_type`, the world, and `effectiveTagPk`. -/
def findTag : Option (TagType × TagWorld × ℕ) :=
  match request.rowType with
  | some tagType =>
      if request.IsComplete ∧ env.listsAll = true then
        (w.effectiveTag env request).map fun (found, effectiveTagPk) =>
          (tagType, found, effectiveTagPk)
      else none
  | none => none

/-- The transaction: the world, and the rows. -/
def linkTransaction (tagType : TagType) (found : TagWorld) (effectiveTagPk : ℕ) :
    Option (TagWorld × List UserMapping) :=
  match env.resolveOrCreateCustomerAccount (some request.lagoCustomerId) with
  | .ok userId =>
      env.insertRows (request.rows tagType userId effectiveTagPk w.tags.table.rows) found
  | .error _ => none

/-- What follows the transaction. -/
def pushLinked : List UserMapping → TagWorld
  | [] => w
  | parentMapping :: childMappings =>
      if startsWith request.ocppTagId "OCPP-" then
        w.push env.faults env.timestamp (parentMapping :: childMappings)
      else
        let (ensured, desiredParentIdTag) := w.ensureParent env request
        let updated := ensured.setParent parentMapping.id desiredParentIdTag
        updated.push env.faults env.timestamp
          ((updated.mappings.table.get? parentMapping.id).getD parentMapping :: childMappings)

/-- The handler of `POST`. -/
def postLink : TagWorld :=
  match w.findTag env request with
  | some (tagType, found, effectiveTagPk) =>
      match w.linkTransaction env request tagType found effectiveTagPk with
      | some (linked, inserted) => linked.pushLinked env request inserted
      | none => found
  | none => w

/-! ## `PUT` and `DELETE` -/

/-- The handler of `PUT`. -/
def putLink (env : PushEnv) (request : LinkRequest) : TagWorld :=
  match (env.linkEnv w.tags).put w.links request with
  | .error _ => w
  | .ok (links, mapping) =>
      let updated := w.withLinks links
      let childPks :=
        if request.body.cascadeIsActive || request.body.cascadeLago then
          descendantPks mapping (env.linkEnv w.tags).getOcppTags
        else []
      updated.push env.faults env.timestamp
        (((updated.mappings.table.get? mapping.id).toList.map fun m => m.setLink mapping) ++
          updated.rowsOfPks childPks)

/-- The handler of `DELETE`. -/
def deleteLink (env : PushEnv) (id : Option String) : TagWorld :=
  match w.links.named? id with
  | none => w
  | some currentMapping =>
      let childPks := descendantPks currentMapping (env.linkEnv w.tags).getOcppTags
      let updated := w.withLinks (w.links.softDeactivate currentMapping childPks)
      updated.push env.faults env.timestamp
        ((updated.mappings.table.get? currentMapping.id).toList ++ updated.rowsOfPks childPks)

end TagWorld

/-! ## Runs -/

inductive HierarchyAction where
  | posts (env : LinkPostEnv) (request : LinkPost)
  | puts (env : PushEnv) (request : LinkRequest)
  | deletes (env : PushEnv) (id : Option String)
  | ensuresMetaTag (call : CustomerMetaTagCall)
  | ensuresDeviceTag (call : DeviceTagCall)
  /-- `syncSingleTagToSteve` of the row `id`, perhaps as switched off. -/
  | syncs (faults : SteveFaults) (timestamp : ℕ → String) (id : ℕ) (switchOff : Bool)

/-- The world, and the id tags that have been deleted. -/
structure HierarchyState where
  world : TagWorld
  deleted : List String

def HierarchyAction.write (w : TagWorld) : HierarchyAction → TagWorld
  | .posts env request => w.postLink env request
  | .puts env request => w.putLink env request
  | .deletes env id => w.deleteLink env id
  | .ensuresMetaTag call => (w.ensureCustomerMetaTag call).1
  | .ensuresDeviceTag call => w.ensureDeviceTag call
  | .syncs faults timestamp id switchOff =>
      w.push faults timestamp ((w.mappings.table.get? id).toList.map fun mapping =>
        if switchOff then { mapping with isActive := false } else mapping)

namespace HierarchyState

variable (s : HierarchyState)

def step (a : HierarchyAction) : Option HierarchyState :=
  let world := a.write s.world
  some
    { world := world
      deleted := s.deleted ++ (s.world.tags.table.rows.map StEvEOcppTag.idTag).filter
        fun idTag => decide ¬world.tags.Lists idTag }

end HierarchyState

end ExpresSync
