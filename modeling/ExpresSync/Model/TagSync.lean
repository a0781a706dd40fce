import ExpresSync.Model.MappingResolver

/-!
# Who may charge

`tag-sync.service.ts`: the limit and the note StEvE holds for a tag.  The background pass
`syncTagStatus` goes by the mapping lookup of the run, the inline push `syncSingleTagToSteve` by
the one row it is given.  What StEvE answers to a request and what `fetchEntityInfo` found out
about the customers are parameters.
-/

namespace ExpresSync

/-! ## Notes -/

/-- `EntityInfo`. -/
structure EntityInfo where
  customerName : String
  subscriptionName : String
  customerUrl : Option String
  subscriptionUrl : Option String

/-- `a || b || … || fallback` on strings. -/
def firstTruthy (values : List (Option String)) (fallback : String) : String :=
  ((values.find? truthy).bind id).getD fallback

/-- `generateLinkedNote`. -/
def generateLinkedNote (mapping : UserMapping) (entityInfo : Option EntityInfo)
    (timestamp : String) : String :=
  let customerName :=
    firstTruthy [entityInfo.map (·.customerName), mapping.lagoCustomerExternalId] "Unknown"
  let subscriptionName :=
    firstTruthy [entityInfo.map (·.subscriptionName), mapping.lagoSubscriptionExternalId] "Unknown"
  let link (label : String) (url : Option String) : List String :=
    if truthy url then [label ++ url.getD ""] else []
  String.intercalate "\n"
    (["Linked to " ++ customerName ++ " > " ++ subscriptionName] ++
      link "Customer: " (entityInfo.bind (·.customerUrl)) ++
      link "Subscription: " (entityInfo.bind (·.subscriptionUrl)) ++
      ["---", "Last synced on " ++ timestamp])

/-- `generateUnlinkedNote`. -/
def generateUnlinkedNote (timestamp : String) : String :=
  "No active subscription\n---\nLast synced on " ++ timestamp

/-- The characters `.` does not match. -/
def isLineTerminator (c : Char) : Bool := [0x0A, 0x0D, 0x2028, 0x2029].contains c.toNat

/-- `/^Last synced on .+$/` matches. -/
def isLastSynced (s : List Char) : Bool :=
  let label := "Last synced on ".toList
  label.isPrefixOf s && !(s.drop label.length).isEmpty && !(s.drop label.length).any
    isLineTerminator

/-- `note.replace(/Last synced on .+$/, "")`. -/
def cutLastSynced : List Char → List Char
  | [] => []
  | c :: rest => if isLastSynced (c :: rest) then [] else c :: cutLastSynced rest

/-- `stripTimestamp`. -/
def stripTimestamp (note : String) : List Char := trimChars (cutLastSynced note.toList)

/-! ## The background pass -/

/-- `TagChangeType`. -/
inductive TagChangeType where
  | activated
  | deactivated
  | updated
  | created
deriving DecidableEq

/-- `classifyTagChange`. -/
def classifyTagChange (currentLimit desiredLimit : ℤ) (noteChanged : Bool) : Option TagChangeType :=
  if currentLimit ≠ desiredLimit then
    if desiredLimit = -1 ∧ currentLimit = 0 then some .activated
    else if desiredLimit = 0 ∧ currentLimit ≠ 0 then some .deactivated
    else some .updated
  else if noteChanged then some .updated
  else none

/-- What `tag_change_log` keeps of a tag before and after a change. -/
structure TagSnapshot where
  maxActiveTransactionCount : ℤ
  note : Option String
deriving DecidableEq

/-- A row of `tag_change_log`. -/
structure TagChange where
  ocppTagPk : ℕ
  idTag : String
  changeType : TagChangeType
  before : TagSnapshot
  after : TagSnapshot
  syncRunId : Option ℕ
deriving DecidableEq

/-- `TagSyncResult`. -/
structure TagSyncResult where
  totalTags : ℕ
  activatedTags : ℕ
  deactivatedTags : ℕ
  unchangedTags : ℕ
  /-- Tag and error. -/
  errors : List (String × String)
deriving DecidableEq

/-- All that a pass has counted. -/
def TagSyncResult.counted (result : TagSyncResult) : ℕ :=
  result.activatedTags + result.deactivatedTags + result.unchangedTags + result.errors.length

/-- The world outside that a pass meets. -/
structure TagSyncInputs where
  /-- `entityInfoMap.get`. -/
  entityInfo : String → Option EntityInfo
  syncTimestamp : String
  syncRunId : Option ℕ
  /-- The insert into `tag_change_log` succeeds. -/
  logAccepts : TagChange → Bool
  /-- What StEvE answers to `updateOcppTag`. -/
  updateOcppTag : StEvEOcppTag → Except String Unit

/-- What a pass has done. -/
structure TagSyncPass where
  result : TagSyncResult
  changeLog : List TagChange
  /-- The tags as they were put to StEvE. -/
  requests : List StEvEOcppTag

/-- `-1` for a tag with a mapping, `0` for one without. -/
def desiredLimit (mapping : Option UserMapping) : ℤ := if mapping.isSome then -1 else 0

namespace TagSyncInputs

variable (inputs : TagSyncInputs) (mappingLookup : String → Option UserMapping) (tag : StEvEOcppTag)

/-- The note a pass wants on a tag. -/
def desiredNote : String :=
  match mappingLookup tag.idTag with
  | some mapping =>
      let entityKey := mapping.lagoCustomerExternalId.getD "null" ++ ":" ++
        mapping.lagoSubscriptionExternalId.getD "null"
      generateLinkedNote mapping (inputs.entityInfo entityKey) inputs.syncTimestamp
  | none => generateUnlinkedNote inputs.syncTimestamp

/-- `currentLimit`. -/
def currentLimit (tag : StEvEOcppTag) : ℤ := tag.maxActiveTransactionCount.getD (-1)

/-- `statusChanged`. -/
def statusChanged : Bool := currentLimit tag != desiredLimit (mappingLookup tag.idTag)

/-- `noteChanged`. -/
def noteChanged : Bool :=
  stripTimestamp (tag.note.getD "") != stripTimestamp (inputs.desiredNote mappingLookup tag)

/-- `updatedTag`. -/
def updatedTag : StEvEOcppTag :=
  { tag with
    maxActiveTransactionCount := some (desiredLimit (mappingLookup tag.idTag))
    note := some (inputs.desiredNote mappingLookup tag) }

/-- The row for `tag_change_log`. -/
def tagChange (changeType : TagChangeType) : TagChange where
  ocppTagPk := tag.ocppTagPk
  idTag := tag.idTag
  changeType := changeType
  before := ⟨currentLimit tag, tag.note⟩
  after := ⟨desiredLimit (mappingLookup tag.idTag), some (inputs.desiredNote mappingLookup tag)⟩
  syncRunId := inputs.syncRunId

/-- The change is logged before StEvE is asked, and a failing insert is passed over. -/
def logChange (changeLog : List TagChange) : List TagChange :=
  match classifyTagChange (currentLimit tag) (desiredLimit (mappingLookup tag.idTag))
      (inputs.noteChanged mappingLookup tag) with
  | some changeType =>
      if inputs.logAccepts (inputs.tagChange mappingLookup tag changeType) then
        changeLog ++ [inputs.tagChange mappingLookup tag changeType]
      else changeLog
  | none => changeLog

/-- The counters after an update that went through. -/
def countUpdated (result : TagSyncResult) : TagSyncResult :=
  if statusChanged mappingLookup tag then
    if desiredLimit (mappingLookup tag.idTag) = -1 then
      { result with activatedTags := result.activatedTags + 1 }
    else { result with deactivatedTags := result.deactivatedTags + 1 }
  else { result with unchangedTags := result.unchangedTags + 1 }

/-- The body of the loop of `syncTagStatus`. -/
def syncTag (pass : TagSyncPass) : TagSyncPass :=
  if !statusChanged mappingLookup tag && !inputs.noteChanged mappingLookup tag then
    { pass with
      result := { pass.result with unchangedTags := pass.result.unchangedTags + 1 } }
  else
    { changeLog := inputs.logChange mappingLookup tag pass.changeLog
      requests := pass.requests ++ [inputs.updatedTag mappingLookup tag]
      result :=
        match inputs.updateOcppTag (inputs.updatedTag mappingLookup tag) with
        | .ok () => countUpdated mappingLookup tag pass.result
        | .error error =>
            { pass.result with errors := pass.result.errors ++ [(tag.idTag, error)] } }

end TagSyncInputs

/-- `syncTagStatus`. -/
def syncTagStatus (inputs : TagSyncInputs) (mappings : List UserMapping)
    (allTags : List StEvEOcppTag) : TagSyncPass :=
  let mappingLookup := buildMappingLookupWithInheritance mappings allTags
  allTags.foldl (fun pass tag => inputs.syncTag mappingLookup tag pass)
    { result := ⟨allTags.length, 0, 0, 0, []⟩, changeLog := [], requests := [] }

/-! ## The inline push -/

/-- The tag `syncSingleTagToSteve` puts to StEvE. -/
def singleTagUpdate (timestamp : String) (mapping : UserMapping) : StEvEOcppTag where
  idTag := mapping.steveOcppIdTag
  ocppTagPk := mapping.steveOcppTagPk
  note := some
    (if mapping.isActive then
      "Active mapping " ++ Nat.repr mapping.id ++ "\n---\nLast updated by Polaris " ++ timestamp
    else
      "Deactivated by Polaris " ++ timestamp ++ " (mapping " ++ Nat.repr mapping.id ++
        ")\n---\nLast updated by Polaris " ++ timestamp)
  parentIdTag := mapping.steveParentIdTag
  expiryDate := mapping.steveExpiryDate
  maxActiveTransactionCount := some (if mapping.isActive then -1 else 0)
  inTransaction := none

/-- The admin notification of a push that failed. -/
structure SteveSyncFailed where
  title : String
  body : String
  mappingId : ℕ
  ocppIdTag : String
  ocppTagPk : ℕ
  isActive : Bool
  desiredMaxActiveTransactionCount : ℤ
  attemptedAt : String
  error : String
deriving DecidableEq

/-- `syncSingleTagToSteve` when StEvE answers `answer` to the update: the error it returns and the
notification it leaves. -/
def syncSingleTagToSteve (timestamp : String) (answer : Except String Unit)
    (mapping : UserMapping) :
    Except String Unit × Option SteveSyncFailed :=
  match answer with
  | .ok () => (.ok (), none)
  | .error error =>
      (.error error,
        some
          { title := "StEvE sync failed for tag " ++ mapping.steveOcppIdTag
            body := error ++ ". The mapping is set to " ++
              (if mapping.isActive then "active" else "inactive") ++
              " in our DB but StEvE was not updated. Background sync will retry."
            mappingId := mapping.id
            ocppIdTag := mapping.steveOcppIdTag
            ocppTagPk := mapping.steveOcppTagPk
            isActive := mapping.isActive
            desiredMaxActiveTransactionCount := if mapping.isActive then -1 else 0
            attemptedAt := timestamp
            error := error })

/-! ## What a pass sends -/

namespace TagSyncInputs

variable {inputs : TagSyncInputs} {mappingLookup : String → Option UserMapping}

/-- A pass has something to say about a tag. -/
def needsUpdate (inputs : TagSyncInputs) (mappingLookup : String → Option UserMapping)
    (tag : StEvEOcppTag) : Bool :=
  statusChanged mappingLookup tag || inputs.noteChanged mappingLookup tag

lemma syncTag_requests (pass : TagSyncPass) (tag : StEvEOcppTag) :
    (inputs.syncTag mappingLookup tag pass).requests =
      if inputs.needsUpdate mappingLookup tag then
        pass.requests ++ [inputs.updatedTag mappingLookup tag]
      else pass.requests := by
  unfold syncTag needsUpdate
  cases statusChanged mappingLookup tag <;> cases inputs.noteChanged mappingLookup tag <;> simp

lemma countUpdated_counted (tag : StEvEOcppTag) (result : TagSyncResult) :
    (countUpdated mappingLookup tag result).counted = result.counted + 1 ∧
      (countUpdated mappingLookup tag result).totalTags = result.totalTags := by
  unfold countUpdated TagSyncResult.counted
  split
  · split
    · exact ⟨by simp only; omega, rfl⟩
    · exact ⟨by simp only; omega, rfl⟩
  · exact ⟨by simp only; omega, rfl⟩

variable (inputs mappingLookup) in
/-- A turn of the loop enters its tag into one counter, or among the errors. -/
lemma syncTag_counted (pass : TagSyncPass) (tag : StEvEOcppTag) :
    (inputs.syncTag mappingLookup tag pass).result.counted = pass.result.counted + 1 ∧
      (inputs.syncTag mappingLookup tag pass).result.totalTags = pass.result.totalTags := by
  unfold syncTag
  split
  · unfold TagSyncResult.counted
    exact ⟨by simp only; omega, rfl⟩
  · cases inputs.updateOcppTag (inputs.updatedTag mappingLookup tag) with
    | ok u => exact countUpdated_counted tag pass.result
    | error error =>
        unfold TagSyncResult.counted
        exact ⟨by simp only [List.length_append, List.length_singleton]; omega, rfl⟩

end TagSyncInputs

/-- Every tag is counted once. -/
theorem syncTagStatus_counted (inputs : TagSyncInputs) (mappings : List UserMapping)
    (allTags : List StEvEOcppTag) :
    (syncTagStatus inputs mappings allTags).result.counted =
      (syncTagStatus inputs mappings allTags).result.totalTags := by
  have hloop : ∀ (mappingLookup : String → Option UserMapping) (tags : List StEvEOcppTag)
      (pass : TagSyncPass),
      let final := tags.foldl (fun pass tag => inputs.syncTag mappingLookup tag pass) pass
      final.result.counted = pass.result.counted + tags.length ∧
        final.result.totalTags = pass.result.totalTags := by
    intro mappingLookup tags
    induction tags with
    | nil => exact fun _ => ⟨rfl, rfl⟩
    | cons tag tags ih =>
        intro pass
        obtain ⟨hcounted, htotal⟩ := ih (inputs.syncTag mappingLookup tag pass)
        obtain ⟨hstep, hkeep⟩ := TagSyncInputs.syncTag_counted inputs mappingLookup pass tag
        refine ⟨?_, htotal.trans hkeep⟩
        rw [List.foldl_cons, hcounted, hstep, List.length_cons]
        omega
  obtain ⟨hcounted, htotal⟩ := hloop (buildMappingLookupWithInheritance mappings allTags) allTags
    { result := ⟨allTags.length, 0, 0, 0, []⟩, changeLog := [], requests := [] }
  rw [syncTagStatus, hcounted, htotal]
  simp [TagSyncResult.counted]

/-- A pass puts exactly the tags that need an update, once each and in order. -/
theorem syncTagStatus_requests (inputs : TagSyncInputs) (mappings : List UserMapping)
    (allTags : List StEvEOcppTag) :
    (syncTagStatus inputs mappings allTags).requests =
      (allTags.filter (inputs.needsUpdate (buildMappingLookupWithInheritance mappings allTags))).map
        (inputs.updatedTag (buildMappingLookupWithInheritance mappings allTags)) := by
  have hloop : ∀ (mappingLookup : String → Option UserMapping) (tags : List StEvEOcppTag)
      (pass : TagSyncPass),
      (tags.foldl (fun pass tag => inputs.syncTag mappingLookup tag pass) pass).requests =
        pass.requests ++
          (tags.filter (inputs.needsUpdate mappingLookup)).map
            (inputs.updatedTag mappingLookup) := by
    intro mappingLookup tags
    induction tags with
    | nil => simp
    | cons tag tags ih =>
        intro pass
        rw [List.foldl_cons, ih, TagSyncInputs.syncTag_requests]
        by_cases hneeds : inputs.needsUpdate mappingLookup tag = true <;> simp [hneeds]
  rw [syncTagStatus, hloop, List.nil_append]

end ExpresSync

/-!
# The names in the notes

`fetchEntityInfo`: the names and the dashboard links of the customers and subscriptions that have a
mapping, from what Lago answers.  A question that Lago does not answer leaves its names out.
-/

namespace ExpresSync

/-- What the notes need of a customer or a subscription. -/
structure LagoEntity where
  externalId : String
  name : Option String
  lagoId : String
deriving DecidableEq

/-- `name || external_id` -/
def LagoEntity.displayName (entity : LagoEntity) : String :=
  firstTruthy [entity.name] entity.externalId

/-- What Lago answers in a pass, and where its dashboard is. -/
structure LagoEntities where
  /-- Empty when it is not configured. -/
  lagoDashboard : String
  getCustomers : Option (List LagoEntity)
  getSubscriptions : String → Option (List LagoEntity)

namespace LagoEntities

variable (lago : LagoEntities) (mappings : List UserMapping)

/-- `customerIds` -/
def customerIds : List String :=
  ((mappings.filterMap (·.lagoCustomerExternalId)).filter (· ≠ "")).eraseDups

/-- The subscriptions, in the order of the answers; Lago is asked for none without the customers. -/
def subscriptions : List LagoEntity :=
  match lago.getCustomers with
  | none => []
  | some _ => (customerIds mappings).flatMap fun customerId =>
      (lago.getSubscriptions customerId).getD []

/-- The entry of `customerNames` and `customerLagoIds`: the last of an id stays. -/
def customer (externalId : String) : Option LagoEntity :=
  (lago.getCustomers.getD []).reverse.find? fun entity => entity.externalId = externalId

/-- The entry of `subscriptionNames` and `subscriptionLagoIds`. -/
def subscription (externalId : String) : Option LagoEntity :=
  (lago.subscriptions mappings).reverse.find? fun entity => entity.externalId = externalId

/-- The entry of `infoMap` for a mapping with both ids. -/
def infoOf (customerId subscriptionId : String) : EntityInfo :=
  let customerLagoId := (lago.customer customerId).map (·.lagoId)
  let subscriptionLagoId := (lago.subscription mappings subscriptionId).map (·.lagoId)
  { customerName := firstTruthy [(lago.customer customerId).map (·.displayName)] customerId
    subscriptionName :=
      firstTruthy [(lago.subscription mappings subscriptionId).map (·.displayName)] subscriptionId
    customerUrl :=
      if lago.lagoDashboard ≠ "" ∧ truthy customerLagoId = true then
        some (lago.lagoDashboard ++ "/customer/" ++ customerLagoId.getD "")
      else none
    subscriptionUrl :=
      if lago.lagoDashboard ≠ "" ∧ truthy customerLagoId = true ∧
          truthy subscriptionLagoId = true then
        some (lago.lagoDashboard ++ "/customer/" ++ customerLagoId.getD "" ++ "/subscription/" ++
          subscriptionLagoId.getD "" ++ "/overview")
      else none }

/-- The key and the entry a mapping sets in `infoMap`. -/
def infoEntry (mapping : UserMapping) : Option (String × EntityInfo) :=
  match mapping.lagoCustomerExternalId, mapping.lagoSubscriptionExternalId with
  | some customerId, some subscriptionId =>
      if customerId = "" ∨ subscriptionId = "" then none
      else some (customerId ++ ":" ++ subscriptionId, lago.infoOf mappings customerId
        subscriptionId)
  | _, _ => none

/-- `fetchEntityInfo` -/
def fetchEntityInfo (key : String) : Option EntityInfo :=
  ((mappings.filterMap (lago.infoEntry mappings)).reverse.find? fun entry => entry.1 = key).map
    Prod.snd

end LagoEntities

/-- A pass with these answers of Lago. -/
def TagSyncInputs.asking (inputs : TagSyncInputs) (lago : LagoEntities)
    (mappings : List UserMapping) : TagSyncInputs :=
  { inputs with entityInfo := lago.fetchEntityInfo mappings }

/-- The tags after a pass: StEvE stores what it accepts. -/
def TagSyncInputs.storedTag (inputs : TagSyncInputs) (mappingLookup : String → Option UserMapping)
    (tag : StEvEOcppTag) : StEvEOcppTag :=
  if inputs.needsUpdate mappingLookup tag = true then
    match inputs.updateOcppTag (inputs.updatedTag mappingLookup tag) with
    | .ok () => inputs.updatedTag mappingLookup tag
    | .error _ => tag
  else tag

/-- `allTags`, as the next pass finds them. -/
def storedTags (inputs : TagSyncInputs) (mappings : List UserMapping)
    (allTags : List StEvEOcppTag) : List StEvEOcppTag :=
  allTags.map (inputs.storedTag (buildMappingLookupWithInheritance mappings allTags))

end ExpresSync
