import ExpresSync.Model.CustomerStops
import ExpresSync.Properties.SyncSteps

/-!
# Whose sessions a customer stops

The handler knows a session by the rows that billing has recorded of it, and it knows the charger
from the request only.  `stopsOwn_iff` says what that amounts to: a customer's own session is
stopped once one of its events has been recorded under a mapping of his, and a recorded session is
stopped at whatever charger the body names.  Until billing has recorded one, no request stops the
session (`refused_before_recorded`).
-/

namespace ExpresSync

open Transition

/-! ## Sessions -/

/-- The tables, StEvE's tags and its transactions. -/
structure ChargingSite where
  mappings : UserMappingTable
  events : EventTable
  allTags : List StEvEOcppTag
  transactions : KeyedLog StEvETransaction.id

/-- A customer who does not act for somebody else's sake makes the request. -/
structure RequestState.IsCustomer (state : RequestState) (userId : String) : Prop where
  user : state.user = some userId
  actingAs : state.actingAs = none
  nonempty : userId ≠ ""

namespace UserMappingTable

variable (mappings : UserMappingTable)

/-- A mapping of the user is active. -/
def HasActive (userId : String) : Prop :=
  ∃ m ∈ mappings.table.rows, m.userId = some userId ∧ m.isActive = true

/-- The transactions of the tag are billed to the mapping: the emitter's query may return it, or the
look-up of the sync gives it. -/
def Bills (allTags : List StEvEOcppTag) (idTag : String) (m : UserMapping) : Prop :=
  m ∈ mappings.table.rows ∧ m.steveOcppIdTag = idTag ∨
    buildMappingLookupWithInheritance (mappings.table.rows.filter (·.isActive)) allTags idTag =
      some m

/-- A mapping of somebody else has the tag. -/
def OnAnother (userId idTag : String) : Prop :=
  ∃ m ∈ mappings.table.rows, m.steveOcppIdTag = idTag ∧ ∃ other ∈ m.userId, other ≠ userId

end UserMappingTable

namespace ChargingSite

variable (site : ChargingSite) (state : RequestState) (body : Option SessionStopBody)

/-- An event of the transaction has been recorded under a mapping of the user. -/
def Recorded (transactionId : ℤ) (userId : String) : Prop :=
  ∃ event ∈ site.events.entries, (event.steveTransactionId : ℤ) = transactionId ∧
    ∃ m ∈ site.mappings.table.rows, m.userId = some userId ∧ event.userMappingId = some m.id

/-- The customer asks, with the right charger, for a transaction in progress that is billed to an
active mapping of his. -/
structure AsksForOwn (userId : String) (tx : StEvETransaction) : Prop where
  customer : state.IsCustomer userId
  known : tx ∈ site.transactions.entries
  inFlight : tx.stopTimestamp = none
  names : body = some ⟨.integer tx.id, .string tx.chargeBoxId⟩
  billed : ∃ m ∈ site.mappings.table.rows, m.userId = some userId ∧ m.isActive = true ∧
    site.mappings.Bills site.allTags tx.ocppIdTag m

/-- What the handler hands to `remoteStop`. -/
def stops : Except SessionStopRefusal RemoteStopParams :=
  postSessionStop site.mappings site.events state body

/-- A customer's own session is stopped, and nothing is stopped but sessions that are nobody else's,
at the charger they run on. -/
def StopsOwn : Prop :=
  (∀ userId tx, site.AsksForOwn state body userId tx →
    site.stops state body = .ok ⟨tx.chargeBoxId, tx.id⟩) ∧
  ∀ params, site.stops state body = .ok params → ∀ tx ∈ site.transactions.entries,
    (tx.id : ℤ) = params.transactionId → params.chargeBoxId = tx.chargeBoxId ∧
      ∀ userId, state.IsCustomer userId → ¬site.mappings.OnAnother userId tx.ocppIdTag

/-- What the customer asks for has been recorded as his when it is, and when it has been recorded as
his, it is nobody else's and runs on the charger he names. -/
def RecordsFit : Prop :=
  (∀ userId tx, site.AsksForOwn state body userId tx →
    tx.chargeBoxId ≠ "" ∧ site.Recorded tx.id userId) ∧
  ∀ userId, state.IsCustomer userId → site.mappings.HasActive userId → ∀ transactionId chargeBoxId,
    body = some ⟨.integer transactionId, .string chargeBoxId⟩ → chargeBoxId ≠ "" →
      site.Recorded transactionId userId → ∀ tx ∈ site.transactions.entries,
        (tx.id : ℤ) = transactionId →
          chargeBoxId = tx.chargeBoxId ∧ ¬site.mappings.OnAnother userId tx.ocppIdTag

end ChargingSite

/-! ## What the handler does -/

section Handler

variable {mappings : UserMappingTable} {events : EventTable} {state : RequestState}
  {userId : String} {body : Option SessionStopBody} {params : RemoteStopParams}

lemma checkSessionStopBody_eq_ok :
    checkSessionStopBody body = .ok params ↔
      body = some ⟨.integer params.transactionId, .string params.chargeBoxId⟩ ∧
        params.chargeBoxId ≠ "" := by
  constructor
  · intro h
    unfold checkSessionStopBody at h
    split at h
    · cases h
    · next body =>
        obtain ⟨transactionId, chargeBoxId⟩ := body
        dsimp only at h
        split at h
        · split at h
          · cases h
          · next hnonempty =>
              obtain rfl := Except.ok.inj h
              exact ⟨rfl, hnonempty⟩
        · cases h
        · cases h
  · rintro ⟨rfl, hnonempty⟩
    simp only [checkSessionStopBody, if_neg hnonempty]
    rfl

/-- The scope of a customer. -/
lemma scope_of_isCustomer (hcustomer : state.IsCustomer userId) :
    (resolveCustomerScope mappings.links state).mappingIds =
        ((mappings.table.rows.filter fun m => decide (m.userId = some userId)).map UserMapping.id) ∧
      ((resolveCustomerScope mappings.links state).isActive = true ↔
        mappings.HasActive userId) := by
  have hrows : mappings.links.ofUser userId =
      (mappings.table.rows.filter fun m => decide (m.userId = some userId)).map
        UserMapping.toLink := by
    simp only [TagLinkTable.ofUser, UserMappingTable.links, List.filter_map]
    rfl
  unfold resolveCustomerScope
  simp only [hcustomer.user, hcustomer.actingAs, Option.none_or, if_neg hcustomer.nonempty, hrows]
  refine ⟨by rw [List.map_map]; rfl, ?_⟩
  simp only [List.any_map, List.any_eq_true, List.mem_filter, decide_eq_true_eq,
    Function.comp_apply, UserMapping.toLink, Option.some.injEq, and_assoc]
  rfl

lemma ownedBy_iff {mappingIds : List ℕ} {transactionId : ℤ} :
    events.ownedBy mappingIds transactionId = true ↔
      ∃ event ∈ events.entries, (event.steveTransactionId : ℤ) = transactionId ∧
        ∃ id ∈ mappingIds, event.userMappingId = some id := by
  simp only [EventTable.ownedBy, List.any_eq_true, Bool.and_eq_true, decide_eq_true_eq,
    Option.any_eq_true, List.contains_iff_mem]
  constructor
  · rintro ⟨event, hevent, htx, id, hid, hmem⟩
    exact ⟨event, hevent, htx, id, hmem, hid⟩
  · rintro ⟨event, hevent, htx, id, hmem, hid⟩
    exact ⟨event, hevent, htx, id, hid, hmem⟩

/-- A user with an active mapping has the capability. -/
lemma stopCharge_mem_iff {scope : CustomerScope} :
    CustomerCapability.stopCharge ∈ getCustomerCapabilities scope ↔ scope.isActive = true := by
  unfold getCustomerCapabilities
  cases scope.isActive <;> simp [fullCapabilities, readOnlyCapabilities]

/-- A row with one of the customer's mappings. -/
lemma recorded_iff (site : ChargingSite) (hcustomer : state.IsCustomer userId)
    {transactionId : ℤ} :
    site.events.ownedBy (resolveCustomerScope site.mappings.links state).mappingIds transactionId =
        true ↔ site.Recorded transactionId userId := by
  rw [(scope_of_isCustomer hcustomer).1, ownedBy_iff]
  simp only [ChargingSite.Recorded, List.mem_map, List.mem_filter, decide_eq_true_eq]
  constructor
  · rintro ⟨event, hevent, htx, _, ⟨m, ⟨hm, huser⟩, rfl⟩, hid⟩
    exact ⟨event, hevent, htx, m, hm, huser, hid⟩
  · rintro ⟨event, hevent, htx, m, hm, huser, hid⟩
    exact ⟨event, hevent, htx, _, ⟨m, ⟨hm, huser⟩, rfl⟩, hid⟩

/-- The handler, for a user who does not impersonate. -/
lemma stops_of_user (site : ChargingSite) (huser : state.user = some userId)
    (hacting : state.actingAs = none) :
    site.stops state body = .ok params ↔ checkSessionStopBody body = .ok params ∧
      (resolveCustomerScope site.mappings.links state).isActive = true ∧
        site.events.ownedBy (resolveCustomerScope site.mappings.links state).mappingIds
          params.transactionId = true := by
  simp only [ChargingSite.stops, postSessionStop, huser, hacting, stopCharge_mem_iff]
  cases hcheck : checkSessionStopBody body with
  | error refusal =>
      refine iff_of_false (fun h => ?_) fun h => nomatch h.1
      cases h
  | ok wish =>
      have hsame : (.ok wish = (.ok params : Except SessionStopRefusal _)) ↔ wish = params := by
        simp
      rw [hsame]
      -- With a row of one of the mappings, there are mappings.
      have hsome : site.events.ownedBy (resolveCustomerScope site.mappings.links state).mappingIds
          wish.transactionId = true →
            (resolveCustomerScope site.mappings.links state).mappingIds.isEmpty = false := by
        intro howned
        obtain ⟨event, -, -, id, hid, -⟩ := ownedBy_iff.mp howned
        exact List.isEmpty_eq_false_iff.mpr (List.ne_nil_of_mem hid)
      cases hactive : (resolveCustomerScope site.mappings.links state).isActive with
      | false => simp [bind, Except.bind, throw, throwThe, MonadExceptOf.throw]
      | true =>
          cases howned : site.events.ownedBy
              (resolveCustomerScope site.mappings.links state).mappingIds wish.transactionId with
          | false =>
              refine iff_of_false (fun h => ?_) ?_
              · simp only [bind, Except.bind, howned, throw, throwThe, MonadExceptOf.throw,
                  not_true_eq_false, if_false, Bool.false_eq_true, ite_self] at h
                cases h
              · rintro ⟨rfl, -, hother⟩
                rw [howned] at hother
                cases hother
          | true =>
              simp only [bind, Except.bind, howned, hsome howned, throw, throwThe,
                MonadExceptOf.throw, not_true_eq_false, if_false, Bool.false_eq_true, if_true, pure,
                Except.pure, Except.ok.injEq]
              exact ⟨fun h => ⟨h, trivial, h ▸ howned⟩, fun h => h.1⟩

/-- A user without an id has no mapping. -/
lemma isCustomer_of_isActive {links : TagLinkTable} (huser : state.user = some userId)
    (hacting : state.actingAs = none)
    (hactive : (resolveCustomerScope links state).isActive = true) :
    state.IsCustomer userId := by
  refine ⟨huser, hacting, fun hempty => ?_⟩
  simp [resolveCustomerScope, huser, hacting, hempty, CustomerScope.empty] at hactive

/-- Which requests are passed on to `remoteStop`, and with what. -/
lemma stops_eq_ok_iff (site : ChargingSite) :
    site.stops state body = .ok params ↔ ∃ userId, state.IsCustomer userId ∧
      site.mappings.HasActive userId ∧
        body = some ⟨.integer params.transactionId, .string params.chargeBoxId⟩ ∧
          params.chargeBoxId ≠ "" ∧ site.Recorded params.transactionId userId := by
  constructor
  · intro h
    cases huser : state.user with
    | none =>
        simp only [ChargingSite.stops, postSessionStop, huser] at h
        cases h
    | some userId =>
        cases hacting : state.actingAs with
        | some actingAs =>
            simp only [ChargingSite.stops, postSessionStop, huser, hacting] at h
            cases h
        | none =>
            obtain ⟨hcheck, hactive, howned⟩ := (stops_of_user site huser hacting).mp h
            have hcustomer := isCustomer_of_isActive huser hacting hactive
            obtain ⟨hbody, hnonempty⟩ := checkSessionStopBody_eq_ok.mp hcheck
            exact ⟨userId, hcustomer, (scope_of_isCustomer hcustomer).2.mp hactive, hbody,
              hnonempty, (recorded_iff site hcustomer).mp howned⟩
  · rintro ⟨userId, hcustomer, hactive, hbody, hnonempty, hrecorded⟩
    exact (stops_of_user site hcustomer.user hcustomer.actingAs).mpr
      ⟨checkSessionStopBody_eq_ok.mpr ⟨hbody, hnonempty⟩,
        (scope_of_isCustomer hcustomer).2.mpr hactive, (recorded_iff site hcustomer).mpr hrecorded⟩

end Handler

/-! ## Own sessions -/

/-- A customer's stop reaches exactly his own running session when, and only when, the recorded
events say of the sessions he names that they are his, and he names the right charger. -/
theorem stopsOwn_iff (site : ChargingSite) (state : RequestState) (body : Option SessionStopBody) :
    site.StopsOwn state body ↔ site.RecordsFit state body := by
  constructor
  · rintro ⟨hreaches, honly⟩
    refine ⟨fun userId tx hasks => ?_, ?_⟩
    · obtain ⟨userId', hcustomer, -, -, hnonempty, hrecorded⟩ :=
        (stops_eq_ok_iff site).mp (hreaches userId tx hasks)
      obtain rfl : userId' = userId :=
        Option.some.inj (hcustomer.user.symm.trans hasks.customer.user)
      exact ⟨hnonempty, hrecorded⟩
    · intro userId hcustomer hactive transactionId chargeBoxId hbody hnonempty hrecorded tx htx hid
      obtain ⟨hcharger, hother⟩ := honly ⟨chargeBoxId, transactionId⟩
        ((stops_eq_ok_iff site).mpr ⟨userId, hcustomer, hactive, hbody, hnonempty, hrecorded⟩) tx
        htx hid
      exact ⟨hcharger, hother userId hcustomer⟩
  · rintro ⟨hown, hfit⟩
    refine ⟨fun userId tx hasks => ?_, fun params hstops tx htx hid => ?_⟩
    · obtain ⟨hnonempty, hrecorded⟩ := hown userId tx hasks
      obtain ⟨m, hm, huser, hactive, -⟩ := hasks.billed
      exact (stops_eq_ok_iff site).mpr ⟨userId, hasks.customer, ⟨m, hm, huser, hactive⟩,
        hasks.names, hnonempty, hrecorded⟩
    · obtain ⟨userId, hcustomer, hactive, hbody, hnonempty, hrecorded⟩ :=
        (stops_eq_ok_iff site).mp hstops
      obtain ⟨hcharger, hother⟩ :=
        hfit userId hcustomer hactive _ _ hbody hnonempty hrecorded tx htx hid
      refine ⟨hcharger, fun userId' hcustomer' => ?_⟩
      obtain rfl : userId = userId' := Option.some.inj (hcustomer.user.symm.trans hcustomer'.user)
      exact hother

namespace Scenario

/-- The card is alice's. -/
def aliceMapping : UserMapping := { cardMapping with userId := some "alice" }

/-- A session of alice's card has begun, and nothing has been billed yet. -/
def justStarted : ChargingSite where
  mappings := ⟨⟨[aliceMapping], 2, by decide, by decide⟩, by decide⟩
  events := .empty
  allTags := []
  transactions := ⟨[transaction 7 "0" none], by decide⟩

end Scenario

open Scenario in
/-- Alice cannot stop the session she has just begun. -/
theorem not_stopsOwn_justStarted :
    ¬∀ (site : ChargingSite) (state : RequestState) (body : Option SessionStopBody),
      site.StopsOwn state body := by
  intro h
  have hasks : justStarted.AsksForOwn ⟨some "alice", none⟩ (some ⟨.integer 7, .string "CB-1"⟩)
      "alice" (transaction 7 "0" none) :=
    { customer := ⟨rfl, rfl, by decide⟩
      known := List.mem_singleton_self _
      inFlight := rfl
      names := rfl
      billed := ⟨aliceMapping, List.mem_singleton_self _, rfl, rfl,
        Or.inl ⟨List.mem_singleton_self _, rfl⟩⟩ }
  obtain ⟨userId, -, -, -, -, event, hevent, -⟩ :=
    (stops_eq_ok_iff justStarted).mp ((h _ _ _).1 _ _ hasks)
  cases hevent

/-! ## Before billing commits -/

/-- The action records an event of the transaction. -/
def World.Records (w : World) (id : ℕ) : Action → Prop
  | .flush i .commits => ∃ obj ∈ w.heap[i]?, obj.st.steveTransactionId = id
  | .syncPersists successful => ∃ pt ∈ w.syncWrites (.syncPersists successful),
      pt.steveTransactionId = id
  | _ => False

/-- No event of the transaction has been recorded. -/
def World.Unrecorded (id : ℕ) (w : World) : Prop :=
  ∀ event ∈ w.db.syncedTransactionEvents.entries, event.steveTransactionId ≠ id

lemma NewSyncedTransactionEvent.toRow_id {data : NewSyncedTransactionEvent}
    {row : SyncedTransactionEvent} (h : data.toRow = some row) :
    row.steveTransactionId = data.steveTransactionId := by
  obtain ⟨kwhDelta, -, h⟩ := Option.bind_eq_some_iff.mp h
  obtain ⟨meterValueFrom, -, h⟩ := Option.bind_eq_some_iff.mp h
  obtain ⟨meterValueTo, -, rfl⟩ := Option.map_eq_some_iff.mp h
  rfl

/-- What is not recorded stays so until an action records it. -/
lemma World.Unrecorded.step {w w' : World} {a : Action} {id : ℕ} (h : w.Unrecorded id)
    (hquiet : ¬w.Records id a) (hstep : World.step w a = some w') : w'.Unrecorded id := by
  cases step_shared hstep with
  | quiet hrows hevents hlago hsync =>
      unfold Unrecorded
      rw [hevents]
      exact h
  | lagoReceived hobj hflush hpoint => exact h
  | syncRead hnone hrun hnew => exact h
  | syncReceived hsync => exact h
  | syncEnded => exact h
  | committed hobj hflush hpoint hdb =>
      obtain ⟨mid, hmid, hdb⟩ := Option.bind_eq_some_iff.mp hdb
      obtain ⟨row, hrow, rfl⟩ := Option.map_eq_some_iff.mp hdb
      obtain ⟨state, -, rfl⟩ := Db.upsertSyncState_spec hmid
      intro event hevent
      rcases KeyedLog.mem_record hevent with hevent | rfl
      · exact h event hevent
      · rw [NewSyncedTransactionEvent.toRow_id hrow]
        exact fun hid => hquiet ⟨_, hobj, hid⟩
  | syncSaved hsync hdb =>
      obtain ⟨row, -, rfl⟩ := Db.upsertSyncState_spec hdb
      exact h
  | syncPersisted hsync haccepted hdb =>
      next run successful db =>
      obtain ⟨mid, hmid, hdb⟩ := Option.bind_eq_some_iff.mp hdb
      obtain ⟨rows, hrows, hdb⟩ := Option.bind_eq_some_iff.mp hdb
      obtain ⟨log, hlog, rfl⟩ := Option.map_eq_some_iff.mp hdb
      intro event hevent
      rw [KeyedLog.entries_of_insertAll? hlog, (Db.upsertAll_spec hmid).1,
        List.mem_append] at hevent
      rcases hevent with hevent | hevent
      · exact h event hevent
      · obtain ⟨data, hdata, hdataRow⟩ :=
          exists_of_forall₂_mem_right (forall₂_of_mapM_option hrows) hevent
        obtain ⟨pt, hpt, rfl⟩ := List.mem_map.mp hdata
        rw [NewSyncedTransactionEvent.toRow_id hdataRow]
        refine fun hid => hquiet ⟨pt, ?_, hid⟩
        simp only [syncWrites, hsync]
        exact List.mem_append_left _ hpt

/-- As long as neither billing path has recorded an event of a transaction, no request stops it,
whosever it is. -/
theorem refused_before_recorded (id : ℕ) (userMappings : List UserMapping) (clock : ℕ)
    (as : List Action)
    (hquiet : Meets World.step (fun w a => ¬w.Records id a) (World.initial userMappings clock) as) :
    Always World.step
      (fun w => ∀ (mappings : UserMappingTable) (state : RequestState)
        (body : Option SessionStopBody) (params : RemoteStopParams),
        postSessionStop mappings w.db.syncedTransactionEvents state body = .ok params →
          params.transactionId ≠ id)
      (World.initial userMappings clock) as := by
  have hrefuses : ∀ {w : World}, w.Unrecorded id → ∀ (mappings : UserMappingTable)
      (state : RequestState) (body : Option SessionStopBody) (params : RemoteStopParams),
      postSessionStop mappings w.db.syncedTransactionEvents state body = .ok params →
        params.transactionId ≠ id := by
    intro w hnone mappings state body params hstops hid
    obtain ⟨userId, -, -, -, -, event, hevent, htx, -⟩ :=
      (stops_eq_ok_iff ⟨mappings, w.db.syncedTransactionEvents, [], .empty⟩).mp hstops
    exact hnone event hevent (by exact_mod_cast htx.trans hid)
  have hinitial : (World.initial userMappings clock).Unrecorded id := by rintro event ⟨⟩
  refine ⟨hrefuses hinitial, ?_⟩
  refine hquiet.eachStep (I := World.Unrecorded id) ?_ ?_ hinitial
  · exact fun w a w' hw hnot hstep => hw.step hnot hstep
  · exact fun w a w' hw hnot hstep => hrefuses (hw.step hnot hstep)

end ExpresSync
