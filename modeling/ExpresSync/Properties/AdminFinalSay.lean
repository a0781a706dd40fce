import ExpresSync.Model.LagoWebhooks

/-!
# The admin's final say

`is_active` says that a row is switched off and not by whom.  A subscription that starts switches on
every row of its that is off, and a refresh of the parent tag writes the customer's state over
whatever its row says.  `adminFinal_iff` says in which runs no admin is overruled: those in which a
subscription starts with no row off but by its own termination, and a refresh for an active customer
does not find its row switched off by an admin.
-/

namespace ExpresSync

open Transition

/-- A row an admin has switched off is off. -/
def TrackedMapping.StaysOff (t : TrackedMapping) : Prop :=
  t.offBy = some .admin → t.row.isActive = false

instance (t : TrackedMapping) : Decidable t.StaysOff :=
  inferInstanceAs (Decidable (_ → _))

/-- Every row an admin has switched off, and none has switched on since, is off. -/
def AdminFinal (w : MappingWorld) : Prop := ∀ t ∈ w.table.rows, t.StaysOff

instance (w : MappingWorld) : Decidable (AdminFinal w) :=
  inferInstanceAs (Decidable (∀ t ∈ w.table.rows, t.StaysOff))

/-- The subscription that has started. -/
def LagoWebhook.startedSubscription (webhook : LagoWebhook) : Option String :=
  match webhook.webhookType with
  | .subscriptionStarted | .subscriptionCreated => webhook.subscription
  | _ => none

/-- The webhook an action dispatches. -/
def MappingWorld.dispatched (w : MappingWorld) : MappingAction → Option LagoWebhook
  | .webhook webhook => some webhook
  | .replay eventId => w.events[eventId]?
  | _ => none

/-- The rows that are off before and on after were switched off by a termination. -/
def OnlyTerminatedSwitchedOn (table table' : MappingTable) : Prop :=
  ∀ t ∈ table.rows, t.row.isActive = false →
    ∀ t' ∈ table'.rows, t'.row.id = t.row.id → t'.row.isActive = true → t.offBy = some .terminated

instance (table table' : MappingTable) : Decidable (OnlyTerminatedSwitchedOn table table') :=
  inferInstanceAs (Decidable (∀ t ∈ table.rows, _ → ∀ t' ∈ table'.rows, _ → _ → _))

/-- A start webhook switches on only what a termination has switched off. -/
def StartsOnlyTerminated (w : MappingWorld) (a : MappingAction) (w' : MappingWorld) : Prop :=
  ∀ webhook ∈ w.dispatched a, webhook.startedSubscription.isSome = true →
    OnlyTerminatedSwitchedOn w.table w'.table

instance (w : MappingWorld) (a : MappingAction) (w' : MappingWorld) :
    Decidable (StartsOnlyTerminated w a w') :=
  inferInstanceAs (Decidable (∀ webhook ∈ w.dispatched a, _ → _))

/-! ## The condition -/

/-- The rows of the subscription that are off were switched off by its termination. -/
def LagoWebhook.SparesOthers (webhook : LagoWebhook) (table : MappingTable) : Prop :=
  ∀ externalSubscriptionId ∈ webhook.startedSubscription, ∀ t ∈ table.rows,
    t.row.lagoSubscriptionExternalId = some externalSubscriptionId → t.row.isActive = false →
      t.offBy = some .terminated

/-- If the customer counts as active, the row about to be updated was not switched off by an
admin. -/
def MetaTagRefresh.SparesAdmin (r : MetaTagRefresh) (table : MappingTable) : Prop :=
  match r.point with
  | .upserts inputs _ (some existingRow) =>
      inputs.isActive = true →
        ∀ t ∈ table.rows, t.row.id = existingRow.id → t.offBy ≠ some .admin
  | _ => True

/-- What is about to be switched on, is not off by an admin, nor for a start webhook by anything but
a termination. -/
def SwitchesOnInTime (w : MappingWorld) (a : MappingAction) : Prop :=
  (∀ webhook ∈ w.dispatched a, webhook.SparesOthers w.table) ∧
    ∀ i, a = .refreshWrites i → ∀ r ∈ w.refreshes[i]?, r.SparesAdmin w.table

/-! ## What the writers keep -/

section Writers

variable {table : MappingTable} {rows : List TrackedMapping} {who : SwitchedOffBy}

@[simp]
lemma TrackedMapping.row_write (row : UserMapping) (t : TrackedMapping) :
    (t.write who row).row = row := rfl

lemma TrackedMapping.offBy_write_eq_admin (hwho : who ≠ .admin) (row : UserMapping)
    (t : TrackedMapping) : (t.write who row).offBy = some .admin ↔ t.offBy = some .admin := by
  unfold TrackedMapping.write
  by_cases hadmin : t.offBy = some .admin
  · simp [hadmin]
  · simp only [hadmin, if_false, iff_false]
    split
    · simp
    · split
      · simpa using hwho
      · exact hadmin

lemma TrackedMapping.staysOff_switch_off (t : TrackedMapping) :
    (t.switch who false).StaysOff := fun _ => rfl

/-- A write that switches a row on keeps to the admin's word exactly when no admin has switched it
off. -/
lemma TrackedMapping.staysOff_write_on (hwho : who ≠ .admin) {row : UserMapping}
    (hon : row.isActive = true) (t : TrackedMapping) :
    (t.write who row).StaysOff ↔ t.offBy ≠ some .admin := by
  unfold TrackedMapping.StaysOff
  rw [TrackedMapping.offBy_write_eq_admin hwho, TrackedMapping.row_write, hon]
  simp

lemma TrackedMapping.staysOff_inserted (hwho : who ≠ .admin) (row : UserMapping) :
    (TrackedMapping.inserted who row).StaysOff := by
  intro hadmin
  unfold TrackedMapping.inserted at hadmin
  split at hadmin
  · cases hadmin
  · exact absurd (Option.some.inj hadmin) hwho

lemma TrackedMapping.staysOff_inserted_admin (row : UserMapping) :
    (TrackedMapping.inserted .admin row).StaysOff := by
  intro hadmin
  unfold TrackedMapping.inserted at hadmin
  split at hadmin
  · cases hadmin
  · next hoff => exact Bool.not_eq_true _ ▸ hoff

end Writers

/-! ## A start webhook -/

section Webhook

variable {webhook : LagoWebhook} {table : MappingTable}

lemma flips_true_iff {s : String} {t : TrackedMapping} :
    t.flips s true = true ↔ t.row.lagoSubscriptionExternalId = some s ∧ t.row.isActive = false := by
  simp [TrackedMapping.flips]

/-- The table after a reaction. -/
lemma react_cases (webhook : LagoWebhook) (table : MappingTable) :
    (∃ s, webhook.startedSubscription = some s ∧
        (webhook.react table).1 = (handleSubscriptionStateChange s true table).1) ∨
      webhook.startedSubscription = none ∧
        ((webhook.react table).1 = table ∨
          ∃ s, (webhook.react table).1 = (handleSubscriptionStateChange s false table).1) := by
  unfold LagoWebhook.startedSubscription LagoWebhook.react
  cases webhook.webhookType with
  | subscriptionStarted | subscriptionCreated =>
      cases hs : webhook.subscription with
      | none => exact Or.inr ⟨rfl, Or.inl rfl⟩
      | some s => exact Or.inl ⟨s, rfl, rfl⟩
  | subscriptionTerminated | subscriptionTerminatedAndDowngraded =>
      cases hs : webhook.subscription with
      | none => exact Or.inr ⟨rfl, Or.inl rfl⟩
      | some s => exact Or.inr ⟨rfl, Or.inr ⟨s, rfl⟩⟩
  | customerCreated | customerUpdated =>
      right
      refine ⟨rfl, Or.inl ?_⟩
      simp only
      split <;> rfl
  | other => exact Or.inr ⟨rfl, Or.inl rfl⟩

/-- After a start, the rows that came on are those that were flipped. -/
lemma onlyTerminated_start_iff {s : String} :
    OnlyTerminatedSwitchedOn table (handleSubscriptionStateChange s true table).1 ↔
      ∀ t ∈ table.rows, t.flips s true = true → t.offBy = some .terminated := by
  constructor
  · intro honly t ht hflips
    refine honly t ht (flips_true_iff.mp hflips).2 (t.switch .terminated true) ?_ rfl rfl
    exact SerialTable.mem_rewrite.mpr ⟨t, ht, by rw [if_pos hflips]⟩
  · intro hflipped t ht hoff t' ht' hid hon
    obtain ⟨old, hold, rfl⟩ := SerialTable.mem_rewrite.mp ht'
    have hkey : old.row.id = t.row.id := by
      rw [← hid]
      split <;> rfl
    obtain rfl : old = t := SerialTable.eq_of_key hold ht hkey
    by_cases hflips : old.flips s true = true
    · exact hflipped old ht hflips
    · rw [if_neg hflips, hoff] at hon
      cases hon

/-- A reaction overrules no admin, and a start switches on only what a termination has switched off,
exactly when the webhook spares the other rows. -/
lemma sparesOthers_iff (hfinal : ∀ t ∈ table.rows, t.StaysOff) :
    webhook.SparesOthers table ↔
      (∀ t ∈ (webhook.react table).1.rows, t.StaysOff) ∧
        (webhook.startedSubscription.isSome = true →
          OnlyTerminatedSwitchedOn table (webhook.react table).1) := by
  unfold LagoWebhook.SparesOthers
  rcases react_cases webhook table with ⟨s, hs, htable⟩ | ⟨hnone, htable⟩
  · rw [htable, hs, onlyTerminated_start_iff]
    simp only [Option.mem_some_iff, forall_eq', Option.isSome_some, forall_const]
    have hflipped : (∀ t ∈ table.rows, t.row.lagoSubscriptionExternalId = some s →
        t.row.isActive = false → t.offBy = some .terminated) ↔
          ∀ t ∈ table.rows, t.flips s true = true → t.offBy = some .terminated :=
      forall₂_congr fun t _ => by rw [flips_true_iff, and_imp]
    rw [hflipped]
    refine ⟨fun h => ⟨(SerialTable.forall_rewrite hfinal).mpr fun t ht hflips => ?_, h⟩, And.right⟩
    refine (TrackedMapping.staysOff_write_on (by decide) rfl t).mpr ?_
    rw [h t ht hflips]
    decide
  · rw [hnone]
    simp only [Option.not_mem_none, false_imp_iff, implies_true, Option.isSome_none,
      Bool.false_eq_true, and_true, true_iff]
    rcases htable with htable | ⟨s, htable⟩
    · rw [htable]
      exact hfinal
    · rw [htable]
      exact (SerialTable.forall_rewrite hfinal).mpr fun t _ _ => t.staysOff_switch_off

end Webhook

/-! ## A refresh -/

/-- The write of a refresh overrules no admin exactly when it spares the row an admin has switched
off. -/
lemma sparesAdmin_iff {r : MetaTagRefresh} {table table' : MappingTable}
    {rest : Option MetaTagRefresh} (hfinal : ∀ t ∈ table.rows, t.StaysOff)
    (hwrites : r.writes table = some (table', rest)) :
    r.SparesAdmin table ↔ ∀ t ∈ table'.rows, t.StaysOff := by
  unfold MetaTagRefresh.writes at hwrites
  unfold MetaTagRefresh.SparesAdmin
  cases hpoint : r.point with
  | asks =>
      rw [hpoint] at hwrites
      cases hwrites
  | cleansUp inputs legacyIdTags =>
      rw [hpoint] at hwrites
      refine iff_of_true trivial ?_
      cases legacyIdTags with
      | nil =>
          obtain ⟨rfl, -⟩ := Prod.mk.inj (Option.some.inj hwrites)
          exact hfinal
      | cons legacyIdTag legacyIdTags =>
          obtain ⟨rfl, -⟩ := Prod.mk.inj (Option.some.inj hwrites)
          unfold MetaTagRefresh.cleanUp
          split
          · exact (SerialTable.forall_rewrite hfinal).mpr fun t _ _ => t.staysOff_switch_off
          · exact hfinal
  | upserts inputs ocppTagPk existingRow =>
      rw [hpoint] at hwrites
      obtain ⟨rfl, -⟩ := Prod.mk.inj (Option.some.inj hwrites)
      unfold MetaTagRefresh.upsert
      cases existingRow with
      | none =>
          refine iff_of_true trivial ?_
          simp only
          split
          · exact hfinal
          · exact SerialTable.forall_insert.mpr
              ⟨hfinal, TrackedMapping.staysOff_inserted (by decide) _⟩
      | some existingRow =>
          refine Iff.trans ?_ (SerialTable.forall_rewrite hfinal).symm
          by_cases hon : inputs.isActive = true
          · simp only [hon, forall_const, beq_iff_eq]
            refine forall₃_congr fun t _ _ => ?_
            exact (TrackedMapping.staysOff_write_on (by decide) hon t).symm
          · refine iff_of_true (fun heq => absurd heq hon) fun t _ _ _ => ?_
            exact Bool.not_eq_true _ ▸ hon

/-! ## Runs -/

/-- An action that dispatches nothing and is no write of a refresh switches nothing on that the
condition speaks of. -/
lemma switchesOnInTime_iff_of_quiet {w w' : MappingWorld} {a : MappingAction}
    (hdispatched : w.dispatched a = none) (hwrites : ∀ i, a ≠ .refreshWrites i)
    (hfinal' : AdminFinal w') :
    SwitchesOnInTime w a ↔ AdminFinal w' ∧ StartsOnlyTerminated w a w' := by
  unfold SwitchesOnInTime StartsOnlyTerminated
  rw [hdispatched]
  refine iff_of_true ⟨?_, fun i heq => absurd heq (hwrites i)⟩ ⟨hfinal', ?_⟩
  · simp
  · simp

lemma switchesOnInTime_iff {w w' : MappingWorld} {a : MappingAction} (hfinal : AdminFinal w)
    (hstep : w.step a = some w') :
    SwitchesOnInTime w a ↔ AdminFinal w' ∧ StartsOnlyTerminated w a w' := by
  cases a with
  | webhook webhook =>
      obtain rfl := Option.some.inj hstep
      simp only [SwitchesOnInTime, StartsOnlyTerminated, MappingWorld.dispatched,
        Option.mem_some_iff, forall_eq', reduceCtorEq, false_imp_iff, implies_true, and_true]
      exact sparesOthers_iff hfinal
  | replay eventId =>
      obtain ⟨webhook, hevent, rfl⟩ := Option.map_eq_some_iff.mp hstep
      simp only [SwitchesOnInTime, StartsOnlyTerminated, MappingWorld.dispatched, hevent,
        Option.mem_some_iff, forall_eq', reduceCtorEq, false_imp_iff, implies_true, and_true]
      exact sparesOthers_iff hfinal
  | refreshWrites i =>
      obtain ⟨r, hr, hstep⟩ := Option.bind_eq_some_iff.mp hstep
      obtain ⟨⟨table, rest⟩, hwrites, rfl⟩ := Option.map_eq_some_iff.mp hstep
      have hspares : SwitchesOnInTime w (.refreshWrites i) ↔ r.SparesAdmin w.table := by
        constructor
        · exact fun h => h.2 i rfl r hr
        · refine fun h => ⟨by simp [MappingWorld.dispatched], ?_⟩
          rintro j heq r' hr'
          obtain rfl := MappingAction.refreshWrites.inj heq
          obtain rfl : r = r' := Option.some.inj (hr.symm.trans hr')
          exact h
      rw [hspares, sparesAdmin_iff hfinal hwrites]
      simp [AdminFinal, StartsOnlyTerminated, MappingWorld.dispatched]
  | refreshAsks i inputs =>
      obtain ⟨r, hr, hstep⟩ := Option.bind_eq_some_iff.mp hstep
      refine switchesOnInTime_iff_of_quiet rfl (by simp) ?_
      split at hstep
      · obtain rfl := Option.some.inj hstep
        exact hfinal
      · obtain rfl := Option.some.inj hstep
        exact hfinal
      · cases hstep
  | refreshFails i =>
      obtain rfl := Option.some.inj hstep
      exact switchesOnInTime_iff_of_quiet rfl (by simp) hfinal
  | adminCreates row =>
      refine switchesOnInTime_iff_of_quiet rfl (by simp) ?_
      simp only [MappingWorld.step] at hstep
      split at hstep
      · cases hstep
      · obtain rfl := Option.some.inj hstep
        exact SerialTable.forall_insert.mpr ⟨hfinal, TrackedMapping.staysOff_inserted_admin _⟩
  | adminSwitches ids isActive =>
      obtain rfl := Option.some.inj hstep
      refine switchesOnInTime_iff_of_quiet rfl (by simp) ?_
      refine (SerialTable.forall_rewrite hfinal).mpr fun t _ _ hadmin => ?_
      cases isActive with
      | false => rfl
      | true => cases hadmin
  | adminLinks id lagoCustomerExternalId lagoSubscriptionExternalId =>
      obtain rfl := Option.some.inj hstep
      refine switchesOnInTime_iff_of_quiet rfl (by simp) ?_
      exact (SerialTable.forall_rewrite hfinal).mpr fun t ht _ => hfinal t ht
  | ownerSwitchesOff id =>
      obtain rfl := Option.some.inj hstep
      refine switchesOnInTime_iff_of_quiet rfl (by simp) ?_
      exact (SerialTable.forall_rewrite hfinal).mpr fun t _ _ => t.staysOff_switch_off

/-- In every run: no admin is overruled, and start webhooks switch on only what a termination has
switched off, exactly when everything that is switched on may be. -/
theorem adminFinal_iff (w : MappingWorld) (as : List MappingAction) :
    Always MappingWorld.step AdminFinal w as ∧ EachStep MappingWorld.step StartsOnlyTerminated w
      as ↔
      AdminFinal w ∧ Meets MappingWorld.step SwitchesOnInTime w as := by
  unfold Always
  rw [and_assoc, ← eachStep_and]
  refine and_congr_right fun hfinal => ?_
  refine (meets_iff_eachStep (I := AdminFinal) (A := fun _ _ => True) ?_ ?_ hfinal
    (meets_of_forall fun _ _ => trivial)).symm
  · exact fun w a w' hfinal _ hintime hstep => ((switchesOnInTime_iff hfinal hstep).mp hintime).1
  · exact fun w a w' hfinal _ hstep => switchesOnInTime_iff hfinal hstep

namespace Scenario

/-- A card on a subscription. -/
def card : UserMapping where
  id := 0
  steveOcppTagPk := 1
  steveOcppIdTag := "CARD-1"
  lagoCustomerExternalId := some "cust-1"
  lagoSubscriptionExternalId := some "sub-1"
  displayName := none
  tagType := .evCard
  isActive := true
  steveParentIdTag := none
  steveExpiryDate := none
  userId := none

/-- An admin switches a card off, and its subscription starts (again). -/
def resubscription : List MappingAction :=
  [.adminCreates card, .adminSwitches [0] false,
    .webhook ⟨.subscriptionStarted, some "sub-1", none⟩]

/-- What a refresh of `cust-1` meets: an active subscription, and the parent tag in StEvE. -/
def activeCustomer : MetaTagInputs where
  owner := none
  getSubscriptions := .ok [⟨"sub-1", "plan", .active⟩]
  getOcppTags := fun idTag =>
    .ok [⟨idTag, 2, none, none, none, some 1, none⟩]
  getChildren := fun _ => .ok []
  createOcppTag := .error ""
  newMappingId := 0

/-- An admin switches the customer's parent tag off, and the customer's data are edited in Lago. -/
def customerEdited : List MappingAction :=
  [.webhook ⟨.customerUpdated, none, some ⟨some "cust-1", none⟩⟩, .refreshAsks 0 activeCustomer,
    .refreshWrites 0, .refreshWrites 0, .adminSwitches [0] false,
    .webhook ⟨.customerUpdated, none, some ⟨some "cust-1", none⟩⟩, .refreshAsks 0 activeCustomer,
    .refreshWrites 0]

end Scenario

/-- The card is switched on again. -/
theorem not_adminFinal_of_resubscription :
    ¬Always MappingWorld.step AdminFinal MappingWorld.initial Scenario.resubscription := by
  decide +kernel

/-- The parent tag is switched on again. -/
theorem not_adminFinal_of_customer_edited :
    ¬Always MappingWorld.step AdminFinal MappingWorld.initial Scenario.customerEdited := by
  decide +kernel

end ExpresSync
