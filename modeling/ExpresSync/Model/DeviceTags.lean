import ExpresSync.Model.SteveTags
import ExpresSync.Model.TagLinks

/-!
# Parent tags and device tags

`ensureCustomerMetaTag` and `ensureDeviceTag` as steps of one world, StEvE's tags and the rows of
`user_mappings`: each question is answered from the world as it is when it is asked.

The database carries out every statement that its `UNIQUE` and `CHECK` constraints admit.  The
column `device_id` is left out.
-/

namespace ExpresSync

/-- The rows of `user_mappings`, with the two unique columns. -/
structure UserMappingTable where
  table : SerialTable UserMapping.id
  nodup_pk : (table.rows.map UserMapping.steveOcppTagPk).Nodup

/-- A row only ever gets the number of a tag from StEvE. -/
structure TagWorld where
  tags : SteveTags
  mappings : UserMappingTable
  numbered : ∀ m ∈ mappings.table.rows, m.steveOcppTagPk < tags.table.next

namespace UserMappingTable

variable (mappings : UserMappingTable)

def update (sel : UserMapping → Bool) (f : UserMapping → UserMapping) (hid : ∀ m, (f m).id = m.id)
    (hpk : ∀ m, (f m).steveOcppTagPk = m.steveOcppTagPk) : UserMappingTable where
  table := mappings.table.update sel f hid
  nodup_pk := by
    show ((SerialTable.rewrite sel f mappings.table.rows).map UserMapping.steveOcppTagPk).Nodup
    rw [SerialTable.rewrite, List.map_map]
    refine (List.map_congr_left fun m _ => ?_).symm ▸ mappings.nodup_pk
    show (if sel m then f m else m).steveOcppTagPk = m.steveOcppTagPk
    split
    · exact hpk m
    · rfl

def HasPk (ocppTagPk : ℕ) : Prop := ∃ m ∈ mappings.table.rows, m.steveOcppTagPk = ocppTagPk

instance (ocppTagPk : ℕ) : Decidable (mappings.HasPk ocppTagPk) :=
  inferInstanceAs (Decidable (∃ m ∈ mappings.table.rows, _))

/-- An `INSERT`, which fails when the number of the tag is taken. -/
def insert (row : UserMapping) : UserMappingTable :=
  if taken : mappings.HasPk row.steveOcppTagPk then mappings
  else
    { table := mappings.table.insert (fun id => { row with id := id }) fun _ => rfl
      nodup_pk := by
        show ((mappings.table.rows ++ [_]).map UserMapping.steveOcppTagPk).Nodup
        rw [List.map_append, List.map_singleton, List.nodup_append]
        refine ⟨mappings.nodup_pk, List.nodup_singleton _, ?_⟩
        intro k hk k' hk' heq
        obtain ⟨m, hm, rfl⟩ := List.mem_map.mp hk
        rw [List.mem_singleton.mp hk'] at heq
        exact taken ⟨m, hm, heq⟩ }

variable {mappings : UserMappingTable}

lemma mem_update {sel : UserMapping → Bool} {f : UserMapping → UserMapping}
    {hid : ∀ m, (f m).id = m.id} {hpk : ∀ m, (f m).steveOcppTagPk = m.steveOcppTagPk}
    {m : UserMapping} :
    m ∈ (mappings.update sel f hid hpk).table.rows ↔
      ∃ old ∈ mappings.table.rows, m = if sel old then f old else old :=
  SerialTable.mem_rewrite

lemma mem_insert {row m : UserMapping} (hfree : ¬mappings.HasPk row.steveOcppTagPk) :
    m ∈ (mappings.insert row).table.rows ↔
      m ∈ mappings.table.rows ∨ m = { row with id := mappings.table.next } := by
  rw [insert, dif_neg hfree]
  exact SerialTable.mem_insert

lemma eq_of_pk {m m' : UserMapping} (hm : m ∈ mappings.table.rows) (hm' : m' ∈ mappings.table.rows)
    (h : m.steveOcppTagPk = m'.steveOcppTagPk) : m = m' :=
  List.inj_on_of_nodup_map mappings.nodup_pk hm hm' h

end UserMappingTable

namespace TagWorld

variable (w : TagWorld)

def sendAll (faults : SteveFaults) (requests : List SteveRequest) : TagWorld where
  tags := w.tags.sendAll faults requests
  mappings := w.mappings
  numbered := fun m hm => Nat.lt_of_lt_of_le (w.numbered m hm) (SteveTags.next_le_sendAll requests)

def updateMappings (sel : UserMapping → Bool) (f : UserMapping → UserMapping)
    (hid : ∀ m, (f m).id = m.id) (hpk : ∀ m, (f m).steveOcppTagPk = m.steveOcppTagPk) :
    TagWorld where
  tags := w.tags
  mappings := w.mappings.update sel f hid hpk
  numbered := by
    intro m hm
    obtain ⟨old, hold, rfl⟩ := UserMappingTable.mem_update.mp hm
    have hlt : old.steveOcppTagPk < w.tags.table.next := w.numbered old hold
    split
    · rw [hpk]
      exact hlt
    · exact hlt

/-- The insert of a row for a tag that StEvE has numbered. -/
def insertMapping (row : UserMapping) : TagWorld :=
  if h : row.steveOcppTagPk < w.tags.table.next then
    { tags := w.tags
      mappings := w.mappings.insert row
      numbered := by
        intro m hm
        by_cases taken : w.mappings.HasPk row.steveOcppTagPk
        · rw [UserMappingTable.insert, dif_pos taken] at hm
          exact w.numbered m hm
        · rcases (UserMappingTable.mem_insert taken).mp hm with hm | rfl
          · exact w.numbered m hm
          · exact h }
  else w

variable {w}

lemma tags_insertMapping {row : UserMapping} : (w.insertMapping row).tags = w.tags := by
  unfold insertMapping
  split <;> rfl

lemma mem_insertMapping {row m : UserMapping} (hfree : ¬w.mappings.HasPk row.steveOcppTagPk)
    (hlt : row.steveOcppTagPk < w.tags.table.next) :
    m ∈ (w.insertMapping row).mappings.table.rows ↔
      m ∈ w.mappings.table.rows ∨ m = { row with id := w.mappings.table.next } := by
  rw [insertMapping, dif_pos hlt]
  exact UserMappingTable.mem_insert hfree

end TagWorld

/-! ## `ensureCustomerMetaTag` -/

/-- A call of `ensureCustomerMetaTag`, with what it finds out about the customer. -/
structure CustomerMetaTagCall where
  externalId : String
  displayName : Option String
  owner : Option MetaTagOwner
  getSubscriptions : SubscriptionsAnswer
  faults : SteveFaults

namespace TagWorld

variable (w : TagWorld) (call : CustomerMetaTagCall)

/-- The answers the call gets at this point. -/
def inputs : MetaTagInputs :=
  w.tags.answers call.faults call.owner call.getSubscriptions w.mappings.table.next

/-- The upsert of the row of the parent tag. -/
def upsertMetaRow (ocppTagPk : ℕ) : TagWorld :=
  if w.mappings.HasPk ocppTagPk then
    w.updateMappings (fun m => decide (m.steveOcppTagPk = ocppTagPk))
      ((w.inputs call).updateRow call.externalId call.displayName) (fun _ => rfl) fun _ => rfl
  else w.insertMapping ((w.inputs call).newRow call.externalId call.displayName ocppTagPk)

/-- The clean-up of one legacy tag: its children first, its row, then the tag itself. -/
def cleanUpLegacy (legacyIdTag : String) : TagWorld :=
  match (w.inputs call).getOcppTags legacyIdTag, (w.inputs call).getChildren legacyIdTag with
  | .ok (legacyTag :: _), .ok children =>
      ((w.sendAll call.faults (children.map fun child =>
          .update { child with parentIdTag := some ((w.inputs call).idTag call.externalId) })
        ).updateMappings (fun m => decide (m.steveOcppIdTag = legacyIdTag))
          (fun m => { m with isActive := false }) (fun _ => rfl) fun _ => rfl).sendAll call.faults
            [.delete legacyTag.ocppTagPk]
  | _, _ => w

/-- `ensureCustomerMetaTag`: the world afterwards, and `ocppTagPk`. -/
def ensureCustomerMetaTag : TagWorld × Option ℕ :=
  let (requests, ocppTagPk) := (w.inputs call).ensureTag call.externalId call.displayName
  let ensured := w.sendAll call.faults requests
  match ocppTagPk with
  | none => (ensured, none)
  | some ocppTagPk =>
      (((w.inputs call).legacyIdTags call.externalId).foldl
        (fun w legacyIdTag => w.cleanUpLegacy call legacyIdTag)
        (ensured.upsertMetaRow call ocppTagPk), some ocppTagPk)

end TagWorld

/-! ## `ensureDeviceTag` -/

/-- `deviceIdTagFor` -/
def deviceIdTagFor (userPublicId deviceId : String) : String :=
  let short := (String.ofList ((deviceId.toList.filter (· ≠ '-')).take 6)).toUpper
  "OCPP-D-" ++ userPublicId ++ "-" ++ short

example : deviceIdTagFor "7KQ2M9XA" "3f2a-9c41-77de" = "OCPP-D-7KQ2M9XA-3F2A9C" := by
  decide +kernel

/-- The columns of `users` that `ensureDeviceTag` reads. -/
structure DeviceTagUser where
  isCustomer : Bool
  lagoCustomerExternalId : Option String
deriving DecidableEq

def DeviceTagUser.parentIdTag (user : DeviceTagUser) : Option String :=
  if truthy user.lagoCustomerExternalId then user.lagoCustomerExternalId.map parentIdTagFor
  else none

/-- A call of `ensureDeviceTag`. -/
structure DeviceTagCall where
  deviceId : String
  userId : String
  userPublicId : String
  displayName : Option String
  /-- The row of `userId`. -/
  user : Option DeviceTagUser
  faults : SteveFaults

namespace DeviceTagCall

variable (call : DeviceTagCall)

def idTag : String := deviceIdTagFor call.userPublicId call.deviceId

def note : String :=
  if truthy call.displayName then "ExpressCharge device — " ++ call.displayName.getD ""
  else "ExpressCharge device"

/-- The columns that are set in an existing row. -/
def updateRow (user : DeviceTagUser) (isActive : Bool) (existingRow : UserMapping) : UserMapping :=
  { existingRow with
    steveOcppIdTag := call.idTag
    displayName := existingRow.displayName <|> call.displayName
    isActive := isActive
    userId := existingRow.userId <|> some call.userId
    steveParentIdTag := user.parentIdTag
    tagType := .app }

/-- The row that is inserted, `none` when its `tag_type` fails the check of migration 0049. -/
def newRow (user : DeviceTagUser) (isActive : Bool) (ocppTagPk : ℕ) : Option UserMapping :=
  (readTagType "phone_nfc").map fun tagType =>
    { id := 0
      steveOcppTagPk := ocppTagPk
      steveOcppIdTag := call.idTag
      lagoCustomerExternalId := none
      lagoSubscriptionExternalId := none
      displayName := call.displayName
      tagType := tagType
      isActive := isActive
      steveParentIdTag := user.parentIdTag
      steveExpiryDate := none
      userId := some call.userId }

end DeviceTagCall

namespace TagWorld

variable (w : TagWorld) (call : DeviceTagCall)

/-- The tag in StEvE: the world, `ocppTagPk` and `isActive`. -/
def ensureTagOfDevice (user : DeviceTagUser) : TagWorld × Option ℕ × Bool :=
  if call.faults.lists call.idTag then
    match w.tags.table.rows.filter fun tag => decide (tag.idTag = call.idTag) with
    | tag :: _ => (w, some tag.ocppTagPk, decide (0 < tag.maxActiveTransactionCount.getD 0))
    | [] =>
        if call.faults.creates then
          ({ tags := w.tags.createOcppTag call.idTag (some call.note) (user.parentIdTag) 1
             mappings := w.mappings
             numbered := fun m hm =>
               Nat.lt_of_lt_of_le (w.numbered m hm) SteveTags.next_le_createOcppTag },
            some w.tags.table.next, true)
        else (w, none, true)
  else (w, none, true)

/-- The row of the tag. -/
def upsertDeviceRow (user : DeviceTagUser) (isActive : Bool) (ocppTagPk : ℕ) : TagWorld :=
  if w.mappings.HasPk ocppTagPk then
    w.updateMappings (fun m => decide (m.steveOcppTagPk = ocppTagPk)) (call.updateRow user isActive)
      (fun _ => rfl) fun _ => rfl
  else
    match call.newRow user isActive ocppTagPk with
    | some row => w.insertMapping row
    | none => w

/-- `ensureDeviceTag`; nobody but a customer gets a tag. -/
def ensureDeviceTag : TagWorld :=
  match call.user with
  | some user =>
      if user.isCustomer then
        match w.ensureTagOfDevice call user with
        | (ensured, some ocppTagPk, isActive) =>
          ensured.upsertDeviceRow call user isActive ocppTagPk
        | (ensured, none, _) => ensured
      else w
  | none => w

/-- What `ensureDeviceTag` returns besides the id tag: `ocppTagPk` and `isActive`. -/
def ensureDeviceTagResult : Option ℕ × Bool :=
  match call.user with
  | some user => if user.isCustomer then (w.ensureTagOfDevice call user).2 else (none, false)
  | none => (none, false)

end TagWorld

/-! ## What `ensureDeviceTag` does -/

/-- The call is for a customer, and StEvE answers when it is asked for the tag. -/
structure DeviceTagCall.Reaches (call : DeviceTagCall) (user : DeviceTagUser) : Prop where
  owned : call.user = some user
  isCustomer : user.isCustomer = true
  lists : call.faults.lists call.idTag = true

/-- The world after a call, and what the call returns. -/
inductive DeviceTagOutcome (w : TagWorld) (call : DeviceTagCall) :
    TagWorld → Option ℕ × Bool → Prop where
  | keeps (isActive : Bool) (hfree : ∀ user, call.Reaches user → ¬w.tags.Lists call.idTag) :
      DeviceTagOutcome w call w (none, isActive)
  | creates {w' : TagWorld} (user : DeviceTagUser) (hreaches : call.Reaches user)
      (hfree : ¬w.tags.Lists call.idTag) (hcreates : call.faults.creates = true)
      (htags : w'.tags = w.tags.createOcppTag call.idTag (some call.note) user.parentIdTag 1)
      (hmappings : w'.mappings = w.mappings) :
      DeviceTagOutcome w call w' (some w.tags.table.next, true)
  | finds (user : DeviceTagUser) (hreaches : call.Reaches user) (tag : StEvEOcppTag)
      (htag : tag ∈ w.tags.table.rows) (hname : tag.idTag = call.idTag) :
      DeviceTagOutcome w call
        (w.upsertDeviceRow call user (decide (0 < tag.maxActiveTransactionCount.getD 0))
          tag.ocppTagPk)
        (some tag.ocppTagPk, decide (0 < tag.maxActiveTransactionCount.getD 0))

namespace TagWorld

variable {w : TagWorld} {call : DeviceTagCall} {user : DeviceTagUser} {isActive : Bool}
  {ocppTagPk : ℕ}

/-- The database does not take the row of a tag that has none yet. -/
lemma upsertDeviceRow_of_not_hasPk (h : ¬w.mappings.HasPk ocppTagPk) :
    w.upsertDeviceRow call user isActive ocppTagPk = w := by
  have hcheck : call.newRow user isActive ocppTagPk = none := rfl
  rw [upsertDeviceRow, if_neg h, hcheck]

lemma tags_upsertDeviceRow : (w.upsertDeviceRow call user isActive ocppTagPk).tags = w.tags := by
  by_cases hrow : w.mappings.HasPk ocppTagPk
  · rw [upsertDeviceRow, if_pos hrow]
    rfl
  · rw [upsertDeviceRow_of_not_hasPk hrow]

/-- The row of the tag is updated, if there is one. -/
lemma mem_upsertDeviceRow {m : UserMapping} :
    m ∈ (w.upsertDeviceRow call user isActive ocppTagPk).mappings.table.rows ↔
      ∃ old ∈ w.mappings.table.rows,
        m = if old.steveOcppTagPk = ocppTagPk then call.updateRow user isActive old else old := by
  by_cases hrow : w.mappings.HasPk ocppTagPk
  · rw [upsertDeviceRow, if_pos hrow]
    show m ∈ SerialTable.rewrite _ _ w.mappings.table.rows ↔ _
    simp only [SerialTable.mem_rewrite, decide_eq_true_eq]
  · rw [upsertDeviceRow_of_not_hasPk hrow]
    constructor
    · exact fun hm => ⟨m, hm, (if_neg fun hpk => hrow ⟨m, hm, hpk⟩).symm⟩
    · rintro ⟨old, hold, rfl⟩
      rw [if_neg fun hpk => hrow ⟨old, hold, hpk⟩]
      exact hold

lemma not_hasPk_next : ¬w.mappings.HasPk w.tags.table.next := by
  rintro ⟨m, hm, hpk⟩
  have hlt : m.steveOcppTagPk < w.tags.table.next := w.numbered m hm
  omega

variable (w call) in
theorem ensureDeviceTag_outcome :
    DeviceTagOutcome w call (w.ensureDeviceTag call) (w.ensureDeviceTagResult call) := by
  unfold ensureDeviceTag ensureDeviceTagResult
  cases huser : call.user with
  | none =>
      refine .keeps false fun user hreaches => ?_
      rw [hreaches.owned] at huser
      cases huser
  | some user =>
      dsimp only
      by_cases hcustomer : user.isCustomer = true
      · rw [if_pos hcustomer, if_pos hcustomer]
        unfold ensureTagOfDevice
        by_cases hlists : call.faults.lists call.idTag = true
        · rw [if_pos hlists]
          have hreaches : call.Reaches user := ⟨huser, hcustomer, hlists⟩
          rcases w.tags.filter_idTag call.idTag with
            ⟨hfree, hfilter⟩ | ⟨tag, htag, hname, rest, hfilter⟩
          · rw [hfilter]
            dsimp only
            by_cases hcreates : call.faults.creates = true
            · rw [if_pos hcreates]
              dsimp only
              have hfresh : ¬w.mappings.HasPk w.tags.table.next := not_hasPk_next
              rw [upsertDeviceRow_of_not_hasPk (by exact hfresh)]
              exact .creates user hreaches hfree hcreates rfl rfl
            · rw [if_neg hcreates]
              exact .keeps true fun _ _ => hfree
          · rw [hfilter]
            exact .finds user hreaches tag htag hname
        · rw [if_neg hlists]
          exact .keeps true fun _ hreaches => absurd hreaches.lists hlists
      · rw [if_neg hcustomer, if_neg hcustomer]
        refine .keeps false fun user' hreaches => ?_
        obtain rfl : user = user' := Option.some.inj (huser.symm.trans hreaches.owned)
        exact absurd hreaches.isCustomer hcustomer

end TagWorld

/-! ## The calls for one customer -/

/-- A customer who is linked to Lago. -/
structure BilledCustomer where
  owner : MetaTagOwner
  lagoCustomerExternalId : String
  linked : lagoCustomerExternalId ≠ ""

/-- A list that Lago sends of a customer with an active subscription. -/
abbrev ActiveSubscriptions :=
  { subscriptions : List LagoSubscription // ∃ s ∈ subscriptions, s.status = .active }

/-- A call, with StEvE, Lago and the database available. -/
inductive DeviceTagAction where
  | ensuresMetaTag (displayName : Option String) (subscriptions : ActiveSubscriptions)
  /-- StEvE may refuse a tag with a parent that it does not list. -/
  | ensuresDeviceTag (deviceId : String) (displayName : Option String) (admitsMissingParent : Bool)

namespace BilledCustomer

variable (c : BilledCustomer)

def metaIdTag : String := parentIdTagForUserPublicId c.owner.publicId

def deviceIdTag (deviceId : String) : String := deviceIdTagFor c.owner.publicId deviceId

/-- What the customer's parent tag was called before. -/
def legacyIdTags : List String :=
  [parentIdTagFor c.lagoCustomerExternalId, legacyOcppParentIdTagForUserPublicId c.owner.publicId]

def metaTagCall (displayName : Option String) (subscriptions : ActiveSubscriptions) :
    CustomerMetaTagCall where
  externalId := c.lagoCustomerExternalId
  displayName := displayName
  owner := some c.owner
  getSubscriptions := .ok subscriptions.1
  faults := .none

def deviceTagCall (tags : SteveTags) (deviceId : String) (displayName : Option String)
    (admitsMissingParent : Bool) : DeviceTagCall where
  deviceId := deviceId
  userId := c.owner.id
  userPublicId := c.owner.publicId
  displayName := displayName
  user := some { isCustomer := true, lagoCustomerExternalId := some c.lagoCustomerExternalId }
  faults := { SteveFaults.none with
    creates :=
      admitsMissingParent || decide (tags.Lists (parentIdTagFor c.lagoCustomerExternalId)) }

def step (w : TagWorld) : DeviceTagAction → TagWorld
  | .ensuresMetaTag displayName subscriptions =>
      (w.ensureCustomerMetaTag (c.metaTagCall displayName subscriptions)).1
  | .ensuresDeviceTag deviceId displayName admitsMissingParent =>
      w.ensureDeviceTag (c.deviceTagCall w.tags deviceId displayName admitsMissingParent)

/-- The world after a sequence of calls. -/
def runAll (w : TagWorld) (as : List DeviceTagAction) : TagWorld := as.foldl c.step w

end BilledCustomer

/-!
## Failures in `ensureCustomerMetaTag`

The call with a database that may fail at each statement, as StEvE may at each
request.  Only the first query is outside the `try` blocks: where it fails, the call throws before
it has written anything.
-/

/-- The statements of a call that are carried out. -/
structure MetaTagStatements where
  /-- The query of `resolveUserPublicIdForLagoCustomer`. -/
  publicId : Bool
  owner : Bool
  existingRow : Bool
  /-- The `UPDATE` of the existing row, or the `INSERT`. -/
  upsert : Bool
  /-- The `UPDATE` of the rows of a legacy tag. -/
  deactivate : String → Bool

structure MetaTagAttempt extends CustomerMetaTagCall where
  statements : MetaTagStatements

namespace MetaTagAttempt

variable (call : MetaTagAttempt) (w : TagWorld)

/-- The second `try` block, for the tag that has been found or created. -/
def upsertMetaRow (ocppTagPk : ℕ) : TagWorld :=
  if call.statements.owner && call.statements.existingRow && call.statements.upsert then
    w.upsertMetaRow call.toCustomerMetaTagCall ocppTagPk
  else w

lemma id_deactivated (m : UserMapping) : { m with isActive := false }.id = m.id := rfl

lemma steveOcppTagPk_deactivated (m : UserMapping) :
    { m with isActive := false }.steveOcppTagPk = m.steveOcppTagPk := rfl

/-- One round of the clean-up loop. -/
def cleanUpLegacy (legacyIdTag : String) : TagWorld :=
  let inputs := w.inputs call.toCustomerMetaTagCall
  match inputs.getOcppTags legacyIdTag, inputs.getChildren legacyIdTag with
  | .ok (legacyTag :: _), .ok children =>
      let moved := w.sendAll call.faults (children.map fun child =>
        .update { child with parentIdTag := some (inputs.idTag call.externalId) })
      let deactivated :=
        if call.statements.deactivate legacyIdTag then
          moved.updateMappings (fun m => decide (m.steveOcppIdTag = legacyIdTag))
            (fun m => { m with isActive := false }) id_deactivated steveOcppTagPk_deactivated
        else moved
      deactivated.sendAll call.faults [.delete legacyTag.ocppTagPk]
  | _, _ => w

/-- `ensureCustomerMetaTag`; `none` when it throws. -/
def ensureCustomerMetaTag : Option (TagWorld × EnsureMetaTagResult) :=
  if !call.statements.publicId then none
  else
    let inputs := w.inputs call.toCustomerMetaTagCall
    let (requests, ocppTagPk) := inputs.ensureTag call.externalId call.displayName
    let ensured := w.sendAll call.faults requests
    let cleaned :=
      match ocppTagPk with
      | none => ensured
      | some ocppTagPk =>
          (inputs.legacyIdTags call.externalId).foldl call.cleanUpLegacy
            (call.upsertMetaRow ensured ocppTagPk)
    some (cleaned,
      { idTag := inputs.idTag call.externalId
        ocppTagPk := ocppTagPk
        isActive := inputs.isActive
        lagoSubscriptionExternalId := inputs.subExternalId })

end MetaTagAttempt

end ExpresSync
