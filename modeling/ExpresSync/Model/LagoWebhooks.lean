import ExpresSync.Foundation.SerialTable
import ExpresSync.Foundation.Transition
import ExpresSync.Model.CustomerMetaTags

/-!
# Lago's webhooks and `user_mappings`

What the reactions to `subscription.*` and `customer.*` do to the rows, with the other writers of
`is_active`: the admin's routes and the routes that switch off a lost card or a removed device.  A
reaction to a subscription is one `UPDATE`; the refreshes of the parent tags it fires are not
awaited and run on their own, a select, a write and one cleanup for each earlier naming scheme.

Every row is kept together with who switched it off, which the table does not say.
-/

namespace ExpresSync

/-! ## The rows -/

/-- Who switched a row off. -/
inductive SwitchedOffBy where
  | admin
  | terminated
  | metaTag
  /-- A lost card, a removed device. -/
  | owner
deriving DecidableEq

/-- A row of `user_mappings`. -/
structure TrackedMapping where
  row : UserMapping
  /-- History: who switched the row off.  What an admin has switched off counts as that until an
  admin switches it on. -/
  offBy : Option SwitchedOffBy
deriving DecidableEq

namespace TrackedMapping

/-- The row is written, not by an admin. -/
def write (who : SwitchedOffBy) (row : UserMapping) (t : TrackedMapping) : TrackedMapping where
  row := row
  offBy :=
    if t.offBy = some .admin then some .admin
    else if row.isActive then none
    else if t.row.isActive then some who
    else t.offBy

/-- `is_active` is written, not by an admin. -/
def switch (who : SwitchedOffBy) (isActive : Bool) (t : TrackedMapping) : TrackedMapping :=
  t.write who { t.row with isActive := isActive }

/-- `is_active` is written by an admin. -/
def switchByAdmin (isActive : Bool) (t : TrackedMapping) : TrackedMapping where
  row := { t.row with isActive := isActive }
  offBy := if isActive then none else some .admin

/-- The other columns an admin may write. -/
def link (lagoCustomerExternalId lagoSubscriptionExternalId : Option String) (t : TrackedMapping) :
    TrackedMapping :=
  { t with
    row := { t.row with
      lagoCustomerExternalId := lagoCustomerExternalId
      lagoSubscriptionExternalId := lagoSubscriptionExternalId } }

/-- A row that is inserted. -/
def inserted (who : SwitchedOffBy) (row : UserMapping) : TrackedMapping where
  row := row
  offBy := if row.isActive then none else some who

end TrackedMapping

abbrev MappingTable : Type := SerialTable fun t : TrackedMapping => t.row.id

/-- The rows as the table has them. -/
def MappingTable.userMappings (table : MappingTable) : List UserMapping := table.rows.map (·.row)

/-! ## The reactions -/

inductive LagoWebhookType where
  | subscriptionTerminated
  | subscriptionTerminatedAndDowngraded
  | subscriptionStarted
  | subscriptionCreated
  | customerCreated
  | customerUpdated
  /-- Any other. -/
  | other
deriving DecidableEq

/-- What `pickCustomer` returns. -/
structure LagoWebhookCustomer where
  externalId : Option String
  name : Option String
deriving DecidableEq

structure LagoWebhook where
  webhookType : LagoWebhookType
  /-- What `pickExternalSubscriptionId` returns. -/
  externalSubscriptionId : Option String
  customer : Option LagoWebhookCustomer
deriving DecidableEq

/-- What a refresh in flight does next. -/
inductive RefreshPoint where
  /-- It asks Lago and StEvE, and selects the row. -/
  | asks
  /-- It writes the row. -/
  | upserts (inputs : MetaTagInputs) (ocppTagPk : ℕ) (existingRow : Option UserMapping)
  /-- It clears away the legacy tags that are left. -/
  | cleansUp (inputs : MetaTagInputs) (legacyIdTags : List String)

/-- A call of `ensureCustomerMetaTag` in flight. -/
structure MetaTagRefresh where
  externalId : String
  displayName : Option String
  point : RefreshPoint

/-- `void ensureCustomerMetaTag(...)`. -/
def MetaTagRefresh.fired (externalId : String) (displayName : Option String) : MetaTagRefresh where
  externalId := externalId
  displayName := displayName
  point := .asks

/-- The condition of the `UPDATE` of `handleSubscriptionStateChange`. -/
def TrackedMapping.flips (externalSubscriptionId : String) (targetActive : Bool)
    (t : TrackedMapping) : Bool :=
  t.row.lagoSubscriptionExternalId == some externalSubscriptionId && t.row.isActive == !targetActive

/-- `handleSubscriptionStateChange`: the table, and the refreshes it fires. -/
def handleSubscriptionStateChange (externalSubscriptionId : String) (targetActive : Bool)
    (table : MappingTable) : MappingTable × List MetaTagRefresh :=
  let updated := table.rows.filter (·.flips externalSubscriptionId targetActive)
  let refreshedCustomers :=
    (updated.filterMap fun t => t.row.lagoCustomerExternalId.filter (· ≠ "")).eraseDups
  (table.update (·.flips externalSubscriptionId targetActive) (·.switch .terminated targetActive)
      fun _ => rfl,
    refreshedCustomers.map fun externalId => .fired externalId none)

namespace LagoWebhook

/-- The subscription a webhook is about; `null` and the empty string are refused. -/
def subscription (webhook : LagoWebhook) : Option String :=
  webhook.externalSubscriptionId.filter (· ≠ "")

/-- The reaction to a webhook. -/
def react (webhook : LagoWebhook) (table : MappingTable) : MappingTable × List MetaTagRefresh :=
  match webhook.webhookType with
  | .subscriptionTerminated | .subscriptionTerminatedAndDowngraded =>
      match webhook.subscription with
      | some externalSubscriptionId =>
          handleSubscriptionStateChange externalSubscriptionId false table
      | none => (table, [])
  | .subscriptionStarted | .subscriptionCreated =>
      match webhook.subscription with
      | some externalSubscriptionId =>
          handleSubscriptionStateChange externalSubscriptionId true table
      | none => (table, [])
  | .customerCreated =>
      match webhook.customer.bind fun customer =>
          (customer.externalId.filter (· ≠ "")).map (·, customer.name) with
      | some (externalId, name) => (table, [.fired externalId (some (name.getD externalId))])
      | none => (table, [])
  | .customerUpdated =>
      match webhook.customer.bind fun customer => customer.externalId.filter (· ≠ "") with
      | some externalId => (table, [.fired externalId none])
      | none => (table, [])
  | .other => (table, [])

end LagoWebhook

/-! ## A refresh in flight -/

/-- The legacy tag is there, and StEvE lists its children. -/
def MetaTagInputs.clears (inputs : MetaTagInputs) (legacyIdTag : String) : Bool :=
  match inputs.getOcppTags legacyIdTag, inputs.getChildren legacyIdTag with
  | .ok (_ :: _), .ok _ => true
  | _, _ => false

namespace MetaTagRefresh

/-- The answers are in and the row is selected.  Without a key of the tag there is nothing more to
do. -/
def ask (r : MetaTagRefresh) (inputs : MetaTagInputs) (userMappings : List UserMapping) :
    Option MetaTagRefresh :=
  (inputs.ensureTag r.externalId r.displayName).2.map fun ocppTagPk =>
    { r with
      point := .upserts inputs ocppTagPk
        (userMappings.find? fun m => m.steveOcppTagPk = ocppTagPk) }

/-- The values of the update, for the row it selected before and the row it finds now. -/
def updated (r : MetaTagRefresh) (inputs : MetaTagInputs) (existingRow : UserMapping)
    (t : TrackedMapping) : TrackedMapping :=
  t.write .metaTag { inputs.updateRow r.externalId r.displayName t.row with
    displayName := existingRow.displayName <|> r.displayName
    userId := existingRow.userId <|> inputs.owner.map (·.id) }

/-- The write of the row; a second row with the same tag is refused. -/
def upsert (r : MetaTagRefresh) (inputs : MetaTagInputs) (ocppTagPk : ℕ)
    (existingRow : Option UserMapping) (table : MappingTable) : MappingTable :=
  match existingRow with
  | some existingRow =>
      table.update (fun t => t.row.id == existingRow.id) (r.updated inputs existingRow) fun _ => rfl
  | none =>
      if table.rows.any fun t => t.row.steveOcppTagPk == ocppTagPk then table
      else
        table.insert
          (fun id => .inserted .metaTag
            { inputs.newRow r.externalId r.displayName ocppTagPk with id := id })
          fun _ => rfl

/-- The cleanup of one legacy tag. -/
def cleanUp (inputs : MetaTagInputs) (legacyIdTag : String) (table : MappingTable) : MappingTable :=
  if inputs.clears legacyIdTag then
    table.update (fun t => t.row.steveOcppIdTag == legacyIdTag) (·.switch .metaTag false)
      fun _ => rfl
  else table

/-- The next write: the table, and what is left to do. -/
def writes (r : MetaTagRefresh) (table : MappingTable) :
    Option (MappingTable × Option MetaTagRefresh) :=
  match r.point with
  | .asks => none
  | .upserts inputs ocppTagPk existingRow =>
      some (r.upsert inputs ocppTagPk existingRow table,
        some { r with point := .cleansUp inputs (inputs.legacyIdTags r.externalId) })
  | .cleansUp inputs (legacyIdTag :: legacyIdTags) =>
      some (cleanUp inputs legacyIdTag table,
        some { r with point := .cleansUp inputs legacyIdTags })
  | .cleansUp _ [] => some (table, none)

end MetaTagRefresh

/-! ## The rows and their writers -/

/-- `user_mappings`, `lago_webhook_events` and the refreshes in flight. -/
structure MappingWorld where
  table : MappingTable
  events : List LagoWebhook
  refreshes : List MetaTagRefresh

inductive MappingAction where
  /-- A webhook is persisted and dispatched. -/
  | webhook (webhook : LagoWebhook)
  /-- An event is cloned and dispatched again. -/
  | replay (eventId : ℕ)
  | refreshAsks (i : ℕ) (inputs : MetaTagInputs)
  | refreshWrites (i : ℕ)
  | refreshFails (i : ℕ)
  /-- An admin creates a row. -/
  | adminCreates (row : UserMapping)
  /-- An admin switches a row, and the rows of the tags below it. -/
  | adminSwitches (ids : List ℕ) (isActive : Bool)
  | adminLinks (id : ℕ) (lagoCustomerExternalId lagoSubscriptionExternalId : Option String)
  /-- A card is reported lost, or its device is removed. -/
  | ownerSwitchesOff (id : ℕ)

namespace MappingWorld

/-- Nothing is mapped. -/
def initial : MappingWorld := ⟨SerialTable.empty, [], []⟩

/-- `dispatch`. -/
def dispatch (w : MappingWorld) (webhook : LagoWebhook) : MappingWorld :=
  { table := (webhook.react w.table).1
    events := w.events ++ [webhook]
    refreshes := w.refreshes ++ (webhook.react w.table).2 }

def step (w : MappingWorld) : MappingAction → Option MappingWorld
  | .webhook webhook => some (w.dispatch webhook)
  | .replay eventId => (w.events[eventId]?).map w.dispatch
  | .refreshAsks i inputs =>
      (w.refreshes[i]?).bind fun r =>
        match r.point, r.ask inputs w.table.userMappings with
        | .asks, some r' => some { w with refreshes := w.refreshes.set i r' }
        | .asks, none => some { w with refreshes := w.refreshes.eraseIdx i }
        | _, _ => none
  | .refreshWrites i =>
      (w.refreshes[i]?).bind fun r =>
        (r.writes w.table).map fun (table, rest) =>
          { w with
            table := table
            refreshes := match rest with
              | some r' => w.refreshes.set i r'
              | none => w.refreshes.eraseIdx i }
  | .refreshFails i => some { w with refreshes := w.refreshes.eraseIdx i }
  | .adminCreates row =>
      if w.table.rows.any fun t => t.row.steveOcppTagPk == row.steveOcppTagPk then none
      else
        some { w with
          table := w.table.insert (fun id => .inserted .admin { row with id := id }) fun _ => rfl }
  | .adminSwitches ids isActive =>
      some { w with
        table := w.table.update (fun t => ids.contains t.row.id) (·.switchByAdmin isActive)
          fun _ => rfl }
  | .adminLinks id lagoCustomerExternalId lagoSubscriptionExternalId =>
      some { w with
        table := w.table.update (fun t => t.row.id == id)
          (·.link lagoCustomerExternalId lagoSubscriptionExternalId) fun _ => rfl }
  | .ownerSwitchesOff id =>
      some { w with
        table := w.table.update (fun t => t.row.id == id) (·.switch .owner false) fun _ => rfl }

end MappingWorld

/-! ## A refresh that nothing comes between -/

section Alone

variable {r : MetaTagRefresh} {inputs : MetaTagInputs} {table : MappingTable}

lemma map_row_rewrite {sel : TrackedMapping → Bool} {f : TrackedMapping → TrackedMapping}
    {rows : List TrackedMapping} (selRow : UserMapping → Prop) [DecidablePred selRow]
    (fRow : UserMapping → UserMapping) (hsel : ∀ t ∈ rows, sel t = decide (selRow t.row))
    (hrow : ∀ t ∈ rows, sel t = true → (f t).row = fRow t.row) :
    (SerialTable.rewrite sel f rows).map (·.row) =
      (rows.map (·.row)).map fun m => if selRow m then fRow m else m := by
  rw [SerialTable.rewrite, List.map_map, List.map_map]
  refine List.map_congr_left fun t ht => ?_
  simp only [Function.comp_apply]
  by_cases hs : selRow t.row
  · have hst : sel t = true := (hsel t ht).trans (decide_eq_true hs)
    rw [if_pos hst, if_pos hs]
    exact hrow t ht hst
  · have hst : ¬sel t = true := by
      rw [hsel t ht]
      simpa using hs
    rw [if_neg hst, if_neg hs]

/-- The rows after an upsert whose select has just been made are those of `upsertRow`. -/
lemma userMappings_upsert {ocppTagPk : ℕ} (hid : inputs.newMappingId = table.next) :
    (r.upsert inputs ocppTagPk
        (table.userMappings.find? fun m => m.steveOcppTagPk = ocppTagPk) table).userMappings =
      inputs.upsertRow r.externalId r.displayName ocppTagPk table.userMappings := by
  unfold MetaTagRefresh.upsert MetaTagInputs.upsertRow
  cases hfind : table.userMappings.find? fun m => m.steveOcppTagPk = ocppTagPk with
  | none =>
      have hany : (table.rows.any fun t => t.row.steveOcppTagPk == ocppTagPk) = false := by
        rw [List.any_eq_false]
        intro t ht heq
        have := List.find?_eq_none.mp hfind t.row (List.mem_map_of_mem ht)
        simp_all
      simp only [hany, Bool.false_eq_true, if_false]
      simp [MappingTable.userMappings, SerialTable.insert, TrackedMapping.inserted,
        MetaTagInputs.newRow, hid]
  | some existingRow =>
      obtain ⟨old, hold, rfl⟩ := List.mem_map.mp (List.mem_of_find?_eq_some hfind)
      refine map_row_rewrite (fun m => m.id = old.row.id)
        (fun _ => inputs.updateRow r.externalId r.displayName old.row)
        (fun t _ => beq_eq_decide _ _) ?_
      intro t ht hsel
      obtain rfl : t = old := SerialTable.eq_of_key ht hold (by simpa using hsel)
      rfl

/-- The rows after a cleanup are those of `cleanUp`. -/
lemma userMappings_cleanUp {legacyIdTag : String} :
    (MetaTagRefresh.cleanUp inputs legacyIdTag table).userMappings =
      (inputs.cleanUp r.externalId legacyIdTag table.userMappings).2 := by
  unfold MetaTagRefresh.cleanUp MetaTagInputs.cleanUp MetaTagInputs.clears
  rcases hanswer : inputs.getOcppTags legacyIdTag with message | (_ | ⟨tag, tags⟩)
  · rfl
  · rfl
  · rcases hchildren : inputs.getChildren legacyIdTag with message | children
    · rfl
    · exact map_row_rewrite (fun m => m.steveOcppIdTag = legacyIdTag)
        (fun m => { m with isActive := false }) (fun t _ => beq_eq_decide _ _) fun t _ _ => rfl

/-- The cleanups, one after the other. -/
lemma userMappings_cleanUps (legacyIdTags : List String) (requests : List SteveRequest) :
    (legacyIdTags.foldl (fun table legacyIdTag => MetaTagRefresh.cleanUp inputs legacyIdTag table)
        table).userMappings =
      (legacyIdTags.foldl
        (fun (requests, rows) legacyIdTag =>
          let (more, rows') := inputs.cleanUp r.externalId legacyIdTag rows
          (requests ++ more, rows'))
        (requests, table.userMappings)).2 := by
  induction legacyIdTags generalizing table requests with
  | nil => rfl
  | cons legacyIdTag legacyIdTags ih =>
      simp only [List.foldl_cons]
      rw [ih, userMappings_cleanUp (r := r)]

lemma run_cleansUp (w : MappingWorld) (legacyIdTags : List String)
    (hr : w.refreshes = [{ r with point := .cleansUp inputs legacyIdTags }]) :
    Transition.run MappingWorld.step w
        (List.replicate (legacyIdTags.length + 1) (.refreshWrites 0)) =
      some { w with
        table := legacyIdTags.foldl
          (fun table legacyIdTag => MetaTagRefresh.cleanUp inputs legacyIdTag table) w.table
        refreshes := [] } := by
  induction legacyIdTags generalizing w with
  | nil => simp [Transition.run, MappingWorld.step, hr, MetaTagRefresh.writes]
  | cons legacyIdTag legacyIdTags ih =>
      rw [List.length_cons, List.replicate_succ, Transition.run]
      simp only [MappingWorld.step, hr, List.getElem?_cons_zero, MetaTagRefresh.writes,
        Option.bind_some, Option.map_some, List.set_cons_zero]
      rw [ih _ rfl]
      rfl

/-- The steps of a refresh, one after the other. -/
def refreshAlone (inputs : MetaTagInputs) (externalId : String) (displayName : Option String) :
    List MappingAction :=
  .refreshAsks 0 inputs ::
    if (inputs.ensureTag externalId displayName).2.isSome then
      List.replicate ((inputs.legacyIdTags externalId).length + 2) (.refreshWrites 0)
    else []

/-- A refresh that nothing comes between leaves the rows `ensureCustomerMetaTag` leaves. -/
theorem run_refreshAlone (w : MappingWorld) (inputs : MetaTagInputs) (externalId : String)
    (displayName : Option String) (hid : inputs.newMappingId = w.table.next)
    (hfired : w.refreshes = [.fired externalId displayName]) :
    (Transition.run MappingWorld.step w (refreshAlone inputs externalId displayName)).map
        (·.table.userMappings) =
      some (ensureCustomerMetaTag inputs externalId displayName
        w.table.userMappings).userMappings := by
  unfold refreshAlone ensureCustomerMetaTag
  rcases htag : inputs.ensureTag externalId displayName with ⟨requests, _ | ⟨ocppTagPk⟩⟩
  · simp [Transition.run, MappingWorld.step, hfired, MetaTagRefresh.fired, MetaTagRefresh.ask, htag]
  · rw [Option.isSome_some, if_pos rfl, List.replicate_succ]
    simp only [Transition.run, MappingWorld.step, hfired, MetaTagRefresh.fired,
      MetaTagRefresh.ask, htag, List.getElem?_cons_zero, Option.bind_some, Option.map_some,
      List.set_cons_zero, MetaTagRefresh.writes]
    rw [run_cleansUp (r := .fired externalId displayName) _ _ rfl, Option.map_some]
    rw [userMappings_cleanUps (r := .fired externalId displayName) _ [], userMappings_upsert hid]
    rfl

end Alone

end ExpresSync
