import ExpresSync.Model.MappingResolver

/-!
# The parent tag of a customer

`customer-meta-tags.ts`: every Lago customer has one parent tag in StEvE whose limit follows the
customer's first active subscription, and one row of `user_mappings` for it.
`ensureCustomerMetaTag` creates or corrects both and clears away the parents of two earlier naming
schemes.  What StEvE and Lago answer is a parameter; their refusals are logged and passed over.
-/

namespace ExpresSync

/-- `parentIdTagFor`, the first naming scheme. -/
def parentIdTagFor (externalId : String) : String := "OCPP-" ++ externalId

/-- `legacyOcppParentIdTagForUserPublicId`, the second one. -/
def legacyOcppParentIdTagForUserPublicId (userPublicId : String) : String := "OCPP-" ++ userPublicId

/-- `parentIdTagForUserPublicId`. -/
def parentIdTagForUserPublicId (userPublicId : String) : String := "META-" ++ userPublicId

/-- The row of `users` that belongs to a Lago customer. -/
structure MetaTagOwner where
  id : String
  publicId : String
deriving DecidableEq

/-- The world outside that a call of `ensureCustomerMetaTag` meets. -/
structure MetaTagInputs where
  owner : Option MetaTagOwner
  getSubscriptions : SubscriptionsAnswer
  /-- What `getOcppTags({ idTag })` answers. -/
  getOcppTags : String → Except String (List StEvEOcppTag)
  /-- What `getOcppTags({ parentIdTag })` answers. -/
  getChildren : String → Except String (List StEvEOcppTag)
  /-- The key of a tag that is created. -/
  createOcppTag : Except String ℕ
  /-- The key of a row that is inserted. -/
  newMappingId : ℕ

/-- A write request to StEvE. -/
inductive SteveRequest where
  | update (tag : StEvEOcppTag)
  | create (idTag note : String) (maxActiveTransactionCount : ℤ)
  | delete (ocppTagPk : ℕ)
deriving DecidableEq

/-- The limit a request puts on its tag. -/
def SteveRequest.limit : SteveRequest → Option ℤ
  | .update tag => tag.maxActiveTransactionCount
  | .create _ _ maxActiveTransactionCount => some maxActiveTransactionCount
  | .delete _ => none

/-- `firstActiveSubscriptionExternalId`: a failed look-up counts as no subscription. -/
def firstActiveSubscriptionExternalId (answer : SubscriptionsAnswer) : Option String :=
  match answer with
  | .ok subscriptions => (subscriptions.find? fun s => s.status = .active).map (·.externalId)
  | .error _ => none

namespace MetaTagInputs

variable (inputs : MetaTagInputs) (externalId : String)

/-- `idTag`. -/
def idTag : String :=
  match inputs.owner with
  | some owner => parentIdTagForUserPublicId owner.publicId
  | none => parentIdTagFor externalId

/-- `legacyIdTags`, without the tag in use. -/
def legacyIdTags : List String :=
  ([parentIdTagFor externalId] ++
    inputs.owner.toList.map fun owner => legacyOcppParentIdTagForUserPublicId owner.publicId).filter
      (· ≠ inputs.idTag externalId)

/-- `subExternalId`. -/
def subExternalId : Option String := firstActiveSubscriptionExternalId inputs.getSubscriptions

/-- `isActive`. -/
def isActive : Bool := inputs.subExternalId.isSome

/-- `maxActiveTransactionCount`. -/
def maxActiveTransactionCount : ℤ := if inputs.isActive then 1 else 0

/-- The tag in StEvE: the requests made, and `ocppTagPk`. -/
def ensureTag (displayName : Option String) : List SteveRequest × Option ℕ :=
  match inputs.getOcppTags (inputs.idTag externalId) with
  | .error _ => ([], none)
  | .ok (tag :: _) =>
      (if tag.maxActiveTransactionCount ≠ some inputs.maxActiveTransactionCount then
        [.update { tag with maxActiveTransactionCount := some inputs.maxActiveTransactionCount }]
      else [], some tag.ocppTagPk)
  | .ok [] =>
      let note :=
        if truthy displayName then "ExpressCharge customer parent — " ++ displayName.getD ""
        else "ExpressCharge customer parent"
      ([.create (inputs.idTag externalId) note inputs.maxActiveTransactionCount],
        inputs.createOcppTag.toOption)

/-- The values of the row when there is one already. -/
def updateRow (displayName : Option String) (existingRow : UserMapping) : UserMapping :=
  { existingRow with
    steveOcppIdTag := inputs.idTag externalId
    lagoCustomerExternalId := some externalId
    lagoSubscriptionExternalId := inputs.subExternalId
    displayName := existingRow.displayName <|> displayName
    isActive := inputs.isActive
    tagType := .metaTag
    userId := existingRow.userId <|> inputs.owner.map (·.id) }

/-- The values of a new row. -/
def newRow (displayName : Option String) (ocppTagPk : ℕ) : UserMapping where
  id := inputs.newMappingId
  steveOcppTagPk := ocppTagPk
  steveOcppIdTag := inputs.idTag externalId
  lagoCustomerExternalId := some externalId
  lagoSubscriptionExternalId := inputs.subExternalId
  displayName := displayName
  tagType := .metaTag
  isActive := inputs.isActive
  steveParentIdTag := none
  steveExpiryDate := none
  userId := inputs.owner.map (·.id)

/-- The upsert of the row of the tag with the key `ocppTagPk`. -/
def upsertRow (displayName : Option String) (ocppTagPk : ℕ) (userMappings : List UserMapping) :
    List UserMapping :=
  match userMappings.find? fun m => m.steveOcppTagPk = ocppTagPk with
  | some existingRow =>
      userMappings.map fun m =>
        if m.id = existingRow.id then inputs.updateRow externalId displayName existingRow else m
  | none => userMappings ++ [inputs.newRow externalId displayName ocppTagPk]

/-- `set({ isActive: false })` where `steveOcppIdTag = legacyIdTag`. -/
def deactivateTag (legacyIdTag : String) (userMappings : List UserMapping) : List UserMapping :=
  userMappings.map fun m =>
    if m.steveOcppIdTag = legacyIdTag then { m with isActive := false } else m

/-- The cleanup of one legacy tag: its children move to the new parent, its rows are switched off
and it is deleted.  A look-up that fails is retried at the next call. -/
def cleanUp (legacyIdTag : String) (userMappings : List UserMapping) :
    List SteveRequest × List UserMapping :=
  match inputs.getOcppTags legacyIdTag, inputs.getChildren legacyIdTag with
  | .ok (legacyTag :: _), .ok children =>
      (children.map (fun child =>
          .update { child with parentIdTag := some (inputs.idTag externalId) }) ++
        [.delete legacyTag.ocppTagPk], deactivateTag legacyIdTag userMappings)
  | _, _ => ([], userMappings)

end MetaTagInputs

/-- `EnsureMetaTagResult`. -/
structure EnsureMetaTagResult where
  idTag : String
  ocppTagPk : Option ℕ
  isActive : Bool
  lagoSubscriptionExternalId : Option String
deriving DecidableEq

/-- What a call of `ensureCustomerMetaTag` does. -/
structure MetaTagCall where
  requests : List SteveRequest
  userMappings : List UserMapping
  result : EnsureMetaTagResult

/-- `ensureCustomerMetaTag`. -/
def ensureCustomerMetaTag (inputs : MetaTagInputs) (externalId : String)
    (displayName : Option String) (userMappings : List UserMapping) : MetaTagCall :=
  let (requests, ocppTagPk) := inputs.ensureTag externalId displayName
  let (cleanUps, rows) :=
    match ocppTagPk with
    | none => ([], userMappings)
    | some ocppTagPk =>
        (inputs.legacyIdTags externalId).foldl
          (fun (requests, rows) legacyIdTag =>
            let (more, rows') := inputs.cleanUp externalId legacyIdTag rows
            (requests ++ more, rows'))
          ([], inputs.upsertRow externalId displayName ocppTagPk userMappings)
  { requests := requests ++ cleanUps
    userMappings := rows
    result :=
      { idTag := inputs.idTag externalId
        ocppTagPk := ocppTagPk
        isActive := inputs.isActive
        lagoSubscriptionExternalId := inputs.subExternalId } }

namespace MetaTagInputs

variable {inputs : MetaTagInputs} {externalId : String}

lemma firstActiveSubscriptionExternalId_eq_none {answer : SubscriptionsAnswer} :
    firstActiveSubscriptionExternalId answer = none ↔
      ∀ subscriptions, answer = .ok subscriptions → ∀ s ∈ subscriptions, s.status ≠ .active := by
  cases answer with
  | error message => simp [firstActiveSubscriptionExternalId]
  | ok subscriptions => simp [firstActiveSubscriptionExternalId, List.find?_eq_none]

/-- The customer counts as inactive when Lago lists no active subscription, or does not answer. -/
lemma isActive_eq_false : inputs.isActive = false ↔ ∀ subscriptions,
    inputs.getSubscriptions = .ok subscriptions → ∀ s ∈ subscriptions, s.status ≠ .active := by
  rw [← firstActiveSubscriptionExternalId_eq_none]
  exact Option.isSome_eq_false_iff.trans Option.isNone_iff_eq_none

/-- Once StEvE has answered, the tag has the limit, or is put to it. -/
lemma ensureTag_limit {displayName : Option String} {requests : List SteveRequest} {ocppTagPk : ℕ}
    (h : inputs.ensureTag externalId displayName = (requests, some ocppTagPk)) :
    (∃ tag rest, inputs.getOcppTags (inputs.idTag externalId) = .ok (tag :: rest) ∧
        requests = [] ∧ tag.maxActiveTransactionCount = some inputs.maxActiveTransactionCount) ∨
      ∃ request, requests = [request] ∧ request.limit = some inputs.maxActiveTransactionCount := by
  unfold ensureTag at h
  cases hanswer : inputs.getOcppTags (inputs.idTag externalId) with
  | error message => simp [hanswer] at h
  | ok tags =>
      cases tags with
      | nil =>
          simp only [hanswer, Prod.mk.injEq] at h
          exact Or.inr ⟨_, h.1.symm, rfl⟩
      | cons tag rest =>
          simp only [hanswer, Prod.mk.injEq] at h
          obtain ⟨hrequests, -⟩ := h
          by_cases hlimit : tag.maxActiveTransactionCount = some inputs.maxActiveTransactionCount
          · rw [if_neg (by simp [hlimit])] at hrequests
            exact Or.inl ⟨tag, rest, rfl, hrequests.symm, hlimit⟩
          · rw [if_pos hlimit] at hrequests
            exact Or.inr ⟨_, hrequests.symm, rfl⟩

end MetaTagInputs

end ExpresSync
