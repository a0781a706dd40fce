import ExpresSync.Model.CustomerNotifications
import ExpresSync.Properties.SseResumption

/-!
# What a customer sees live

The live stream of a customer is to show no notification that their feed would not list.  It goes
by the recipient, so that whatever has none reaches every customer; `showsNoMore_iff` says for which
notifications the two agree.
-/

namespace ExpresSync

/-- The feed of a customer would return the row, on some page. -/
def IsListedFor (table : NotificationTable) (userId : String) (row : Notification) : Prop :=
  (∃ limit page, GetsCustomerUnread table userId limit page ∧ row ∈ page) ∨
    ∃ params page, ListsCustomerArchive table userId params page ∧ row ∈ page

/-- The event of a notification reaches the stream of a customer only if their feed would return
the notification, whatever the bus numbers it and whichever mappings the customer has. -/
def ShowsNoMore (table : NotificationTable) (now : ℕ) (input : CreateNotificationInput)
    (userId : String) : Prop :=
  let (table', row, payload) := createNotification table now input
  ∀ (bus : EventBus CustomerStreamPayload) (workerId : String) (ts : ℕ) (mappingIds : List ℕ),
    (customerStream userId mappingIds).wants
        (bus.nextEvent workerId ts .notificationCreated (.notificationCreated payload)) = true →
      IsListedFor table' userId row

/-- The notification is for all, or for a customer who is named, or for an admin who is named and
is not this customer. -/
def CreateNotificationInput.IsAddressed (input : CreateNotificationInput) (userId : String) :
    Prop :=
  match input.audience.getD .admin with
  | .all => True
  | .customer => input.userId ≠ none
  | .admin => input.adminUserId ≠ none ∧ input.adminUserId ≠ some userId

section

variable {table : NotificationTable} {now : ℕ} {input : CreateNotificationInput}
  {userId : String} {row : Notification} {mappingIds : List ℕ}

/-- The feed of a customer is what the shared condition selects. -/
lemma isListedFor_iff (hrow : row ∈ table.rows) :
    IsListedFor table userId row ↔ row.isForCustomer userId = true := by
  constructor
  · rintro (⟨limit, page, hpage, hmem⟩ | ⟨params, page, hpage, hmem⟩)
    · have hunread := (Sql.mem_of_mem_page hpage hmem).2
      exact (Bool.and_eq_true_iff.mp hunread).2
    · have hselected := (Sql.mem_of_mem_page hpage hmem).2
      simp only [ListArchiveParams.selects, Bool.and_eq_true] at hselected
      exact hselected.1.1.1.1
  · intro hcustomer
    let params : ListArchiveParams := ⟨some 1, none, none, none, none, none⟩
    have hselects : params.selects userId row = true := by
      simp [params, ListArchiveParams.selects, hcustomer]
    obtain ⟨offset, page, hpage, hmem⟩ : ∃ offset page,
        Sql.IsPage Notification.createdAt (params.selects userId) table.rows 1 offset page ∧
          row ∈ page := Sql.exists_page_of_mem hrow hselects Nat.one_pos
    refine Or.inr ⟨{ params with offset := some (offset : ℤ) }, page, ?_, hmem⟩
    have hoffset : (max (offset : ℤ) 0).toNat = offset := by omega
    unfold ListsCustomerArchive
    show Sql.IsPage Notification.createdAt (params.selects userId) table.rows 1
      (max (offset : ℤ) 0).toNat page
    rw [hoffset]
    exact hpage

/-- The stream goes by the recipient. -/
lemma wants_created_iff {bus : EventBus CustomerStreamPayload} {workerId : String} {ts : ℕ} :
    (customerStream userId mappingIds).wants
        (bus.nextEvent workerId ts .notificationCreated (.notificationCreated row.created)) =
          true ↔
      row.adminUserId = none ∨ row.adminUserId = some userId := by
  have htypes : (customerStream userId mappingIds).types.all
      (fun types => types.contains EventBusEventType.notificationCreated) = true := by
    simp [customerStream]
  unfold SseStreamOptions.wants
  rw [Bool.and_eq_true]
  constructor
  · rintro ⟨-, hfilter⟩
    simpa [customerStream, customerStreamFilter, EventBus.nextEvent, Notification.created]
      using hfilter
  · intro hrecipient
    refine ⟨htypes, ?_⟩
    simpa [customerStream, customerStreamFilter, EventBus.nextEvent, Notification.created]
      using hrecipient

/-- The notifications that the feed has if the stream shows them are those that are addressed. -/
lemma isForCustomer_toRow_iff {id : ℕ} :
    ((input.toRow now id).adminUserId = none ∨ (input.toRow now id).adminUserId = some userId →
        (input.toRow now id).isForCustomer userId = true) ↔ input.IsAddressed userId := by
  have hrecipient : (input.toRow now id).adminUserId = input.targetUserId := rfl
  have haudience : (input.toRow now id).audience = input.audience.getD .admin := rfl
  unfold Notification.isForCustomer CreateNotificationInput.IsAddressed
  rw [hrecipient, haudience]
  unfold CreateNotificationInput.targetUserId CreateNotificationInput.routedAudience
  cases input.audience.getD .admin with
  | all =>
      show (input.adminUserId = none ∨ input.adminUserId = some userId → _) ↔ True
      refine iff_of_true ?_ trivial
      rintro (hnone | hsome)
      · simp [hnone]
      · simp [hsome]
  | customer =>
      show (input.userId = none ∨ input.userId = some userId → _) ↔ input.userId ≠ none
      by_cases hnone : input.userId = none
      · simp [hnone]
      · simp only [if_true, hnone, false_or]
        refine iff_of_true (fun hsome => ?_) hnone
        simp [hsome]
  | admin =>
      show (input.adminUserId = none ∨ input.adminUserId = some userId → _) ↔
        input.adminUserId ≠ none ∧ input.adminUserId ≠ some userId
      simp [not_or]

end

/-- The live stream of a customer shows no more than their feed exactly of the notifications that
are addressed. -/
theorem showsNoMore_iff (table : NotificationTable) (now : ℕ) (input : CreateNotificationInput)
    (userId : String) : ShowsNoMore table now input userId ↔ input.IsAddressed userId := by
  let table' : NotificationTable := table.insert (input.toRow now) fun _ => rfl
  let row : Notification := input.toRow now table.next
  have hrow : row ∈ table'.rows := SerialTable.mem_insert.mpr (Or.inr rfl)
  have hshows : ShowsNoMore table now input userId ↔
      (row.adminUserId = none ∨ row.adminUserId = some userId →
        row.isForCustomer userId = true) := by
    rw [← isListedFor_iff hrow]
    constructor
    · intro hall hshown
      exact hall .initial "" 0 [] (wants_created_iff.mpr hshown)
    · intro himp bus workerId ts mappingIds hwants
      exact himp (wants_created_iff.mp hwants)
  exact hshows.trans isForCustomer_toRow_iff

namespace Scenario

/-- A webhook's alert to all admins. -/
def alertToAdmins : CreateNotificationInput where
  kind := "lago_alert"
  severity := .error
  title := "Wallet depleted"
  body := "The wallet of another customer has run dry."
  sourceType := some .alert
  sourceId := some "alert-1"
  adminUserId := none
  audience := none
  userId := none

end Scenario

open Scenario

/-- What is for all admins has no recipient, and reaches every customer. -/
theorem not_showsNoMore_alertToAdmins :
    ¬ShowsNoMore SerialTable.empty 0 alertToAdmins "customer" := by
  intro hshows
  have hlisted := hshows .initial "worker" 0 [] (by decide +kernel)
  rcases hlisted with ⟨limit, page, hpage, hmem⟩ | ⟨params, page, hpage, hmem⟩
  · exact absurd (Sql.mem_of_mem_page hpage hmem).2 (by decide +kernel)
  · have hselected := (Sql.mem_of_mem_page hpage hmem).2
    simp only [ListArchiveParams.selects, Bool.and_eq_true] at hselected
    exact absurd hselected.1.1.1.1 (by decide +kernel)

end ExpresSync
