import ExpresSync.Model.Reservations

/-!
# Who confirms a reservation

A finished `ReserveNow` task is read by `createReservation` when StEvE answers in time and by
`resolveOne` when it is found later.  The first goes by the response of the charger, the second by
the number of errors (`same_reading_iff`).

A `Reserved` notification confirms every pending reservation of its connector that has not ended,
and so more than the most recent one as soon as there are two (`one_confirmed_iff`).
-/

namespace ExpresSync

namespace ReservationTable

variable (table : ReservationTable) {row : Reservation}

def statusOf (id : ℕ) : Option ReservationStatus := (table.get? id).map (·.status)

variable {table}

lemma statusOf_of_mem (hrow : row ∈ table.rows) : table.statusOf row.id = some row.status := by
  rw [statusOf, SerialTable.get?_eq_some.mpr ⟨hrow, rfl⟩, Option.map_some]

/-- The status of a row after a statement is that of the row it makes of it. -/
lemma statusOf_update (sel : Reservation → Bool) (f : Reservation → Reservation)
    (hf : ∀ row, (f row).id = row.id) (hrow : row ∈ table.rows) :
    statusOf (table.update sel f hf) row.id =
      some (if sel row = true then (f row).status else row.status) := by
  have hmem : (if sel row = true then f row else row) ∈ (table.update sel f hf).rows :=
    SerialTable.mem_update.mpr ⟨row, hrow, rfl⟩
  have hid : (if sel row = true then f row else row).id = row.id := by
    split
    · exact hf row
    · rfl
  rw [← hid, statusOf_of_mem hmem]
  split <;> rfl

end ReservationTable

/-! ## Tasks -/

/-- A finished task of `ReserveNow`. -/
structure FinishedTask where
  taskId : ℤ
  /-- Charger and response. -/
  successResponses : List (String × String)
  /-- The chargers with a CallError. -/
  errorResponses : List String
  /-- The chargers that could not be reached. -/
  exceptions : List String

namespace FinishedTask

variable (task : FinishedTask)

/-- The task, as `createReservation` gets it. -/
def toResult : OcppTaskResult where
  taskId := some task.taskId
  taskFinished := some true
  successResponses := task.successResponses
  errorResponses := task.errorResponses
  exceptions := task.exceptions

/-- The task, as `resolveOne` gets it. -/
def toStatus : OcppTaskStatus where
  taskFinished := true
  errorCount := task.errorResponses.length + task.exceptions.length

/-- The first response of the charger is `ACCEPTED`. -/
def IsAccepted (chargeBoxId : String) : Prop :=
  ∃ r, task.successResponses.find? (fun r => r.1 = chargeBoxId) = some r ∧
    r.2.toUpper = "ACCEPTED"

/-- The first response of the charger is another, or the charger has failed without one. -/
def IsRefused (chargeBoxId : String) : Prop :=
  (∃ r, task.successResponses.find? (fun r => r.1 = chargeBoxId) = some r ∧
    r.2.toUpper ≠ "ACCEPTED") ∨
  (∀ r ∈ task.successResponses, r.1 ≠ chargeBoxId) ∧
    (chargeBoxId ∈ task.errorResponses ∨ chargeBoxId ∈ task.exceptions)

/-- Nothing went wrong anywhere. -/
def IsClean : Prop := task.errorResponses = [] ∧ task.exceptions = []

variable {task} {chargeBoxId : String}

lemma resolvedStatus_eq_confirmed :
    task.toResult.resolvedStatus chargeBoxId = some .confirmed ↔ task.IsAccepted chargeBoxId := by
  unfold OcppTaskResult.resolvedStatus IsAccepted toResult
  cases task.successResponses.find? (fun r => r.1 = chargeBoxId) with
  | none => simp
  | some r => simp

lemma resolvedStatus_eq_conflicted :
    task.toResult.resolvedStatus chargeBoxId = some .conflicted ↔ task.IsRefused chargeBoxId := by
  unfold OcppTaskResult.resolvedStatus IsRefused toResult
  cases hfind : task.successResponses.find? (fun r => r.1 = chargeBoxId) with
  | none =>
      have hnone : ∀ r ∈ task.successResponses, r.1 ≠ chargeBoxId := by
        simpa using List.find?_eq_none.mp hfind
      simp only [Option.ite_none_right_eq_some, Bool.or_eq_true, List.contains_iff_mem, and_true,
        reduceCtorEq, false_and, exists_false, false_or]
      exact ⟨fun h => ⟨hnone, h⟩, fun h => h.2⟩
  | some r =>
      have hmem := List.mem_of_find?_eq_some hfind
      have hcharger : r.1 = chargeBoxId := by simpa using List.find?_some hfind
      constructor
      · intro h
        refine Or.inl ⟨r, rfl, fun haccepted => ?_⟩
        simp [haccepted] at h
      · rintro (⟨r', hr', hother⟩ | ⟨hnone, -⟩)
        · obtain rfl := Option.some.inj hr'
          simp [hother]
        · exact absurd hcharger (hnone r hmem)

lemma isClean_iff : task.IsClean ↔ ¬0 < task.toStatus.errorCount := by
  simp only [IsClean, toStatus, ← List.length_eq_zero_iff]
  omega

end FinishedTask

section Readings

variable {table : ReservationTable} {row : Reservation} {task : FinishedTask}

lemma statusOf_reserveNowReturned (hrow : row ∈ table.rows) :
    (reserveNowReturned table row.id row.chargeBoxId (.ok task.toResult)).statusOf row.id =
      some ((task.toResult.resolvedStatus row.chargeBoxId).getD row.status) := by
  have hupdate := ReservationTable.statusOf_update (fun r => decide (r.id = row.id))
    (fun r =>
      { r with
        steveReservationId := some task.taskId
        status := (task.toResult.resolvedStatus row.chargeBoxId).getD r.status })
    (fun _ => rfl) hrow
  refine hupdate.trans ?_
  simp

lemma statusOf_resolveOne (hrow : row ∈ table.rows) (hpending : row.status = .pending) :
    (resolveOne table row.id (.ok (some task.toStatus))).statusOf row.id =
      some (if 0 < task.toStatus.errorCount then .conflicted else .confirmed) := by
  have hupdate := ReservationTable.statusOf_update
    (fun r => r.id == row.id && r.status == .pending)
    (fun r =>
      { r with status := if 0 < task.toStatus.errorCount then .conflicted else .confirmed })
    (fun _ => rfl) hrow
  refine hupdate.trans ?_
  simp [hpending]

/-- For every table, pending reservation and finished task: both read the same status from the task
exactly when it has no errors and the charger's response is `ACCEPTED`, or when it has errors and
the charger has refused or failed. -/
theorem same_reading_iff (table : ReservationTable) (row : Reservation) (hrow : row ∈ table.rows)
    (hpending : row.status = .pending) (task : FinishedTask) :
    (reserveNowReturned table row.id row.chargeBoxId (.ok task.toResult)).statusOf row.id =
        (resolveOne table row.id (.ok (some task.toStatus))).statusOf row.id ↔
      (task.IsClean → task.IsAccepted row.chargeBoxId) ∧
        (¬task.IsClean → task.IsRefused row.chargeBoxId) := by
  rw [statusOf_reserveNowReturned hrow, statusOf_resolveOne hrow hpending, hpending,
    ← FinishedTask.resolvedStatus_eq_confirmed, ← FinishedTask.resolvedStatus_eq_conflicted,
    FinishedTask.isClean_iff]
  by_cases herrors : 0 < task.toStatus.errorCount
  · simp only [herrors, not_true_eq_false, not_false_eq_true, if_true, false_imp_iff, true_and,
      true_imp_iff]
    cases task.toResult.resolvedStatus row.chargeBoxId <;> simp
  · simp only [herrors, not_false_eq_true, not_true_eq_false, if_false, false_imp_iff, and_true,
      true_imp_iff]
    cases task.toResult.resolvedStatus row.chargeBoxId <;> simp

end Readings

/-- A reservation that the charger has not answered yet. -/
def pendingReservation (id startAt endAt : ℕ) : Reservation where
  id := id
  chargeBoxId := "CP1"
  connectorId := 1
  steveOcppTagPk := 7
  steveOcppIdTag := "CARD"
  lagoSubscriptionExternalId := none
  startAt := startAt
  endAt := endAt
  durationMinutes := 60
  status := .pending
  steveReservationId := some 4
  chargingProfileTaskId := none
  createdByUserId := none
  cancelledAt := none
  forced := false

/-- A table with one row. -/
def onePending : ReservationTable :=
  SerialTable.empty.insert (fun id => pendingReservation id 3600000 7200000) fun _ => rfl

/-- The charger has said `REJECTED`. -/
def rejectedTask : FinishedTask := ⟨4, [("CP1", "REJECTED")], [], []⟩

/-- A refusal that is a response and no error: the first reader refuses the reservation, the second
confirms it. -/
theorem rejected_task_confirmed_later :
    (reserveNowReturned onePending 0 "CP1" (.ok rejectedTask.toResult)).statusOf 0 =
        some .conflicted ∧
      (resolveOne onePending 0 (.ok (some rejectedTask.toStatus))).statusOf 0 =
        some .confirmed ∧
      (reserveNowReturned onePending 0 "CP1" (.ok rejectedTask.toResult)).statusOf 0 ≠
        (resolveOne onePending 0 (.ok (some rejectedTask.toStatus))).statusOf 0 := by
  decide +kernel

theorem same_reading_iff_rejected :
    (reserveNowReturned onePending 0 "CP1" (.ok rejectedTask.toResult)).statusOf 0 =
        (resolveOne onePending 0 (.ok (some rejectedTask.toStatus))).statusOf 0 ↔
      (rejectedTask.IsClean → rejectedTask.IsAccepted "CP1") ∧
        (¬rejectedTask.IsClean → rejectedTask.IsRefused "CP1") :=
  same_reading_iff onePending (pendingReservation 0 3600000 7200000) List.mem_cons_self rfl
    rejectedTask

/-! ## Notifications -/

section Notifications

/-- The row is one that the notification can refer to. -/
def Reservation.Awaits (row : Reservation) (chargeBoxId : String) (connectorId : ℤ) (now : ℕ) :
    Prop :=
  row.status = .pending ∧ row.chargeBoxId = chargeBoxId ∧ row.connectorId = connectorId ∧
    now < row.endAt

/-- A notification confirms at most one reservation: the last one made of those it can refer to. -/
structure ReservationTable.ConfirmsMostRecent (table after : ReservationTable)
    (chargeBoxId : String) (connectorId : ℤ) (now : ℕ) : Prop where
  atMostOne : ∀ row ∈ table.rows, ∀ row' ∈ table.rows,
    after.statusOf row.id ≠ some row.status → after.statusOf row'.id ≠ some row'.status → row = row'
  mostRecent : ∀ row ∈ table.rows, after.statusOf row.id ≠ some row.status →
    after.statusOf row.id = some .confirmed ∧ row.Awaits chargeBoxId connectorId now ∧
      ∀ other ∈ table.rows, other.Awaits chargeBoxId connectorId now → other.id ≤ row.id

variable {table : ReservationTable} {row : Reservation} {chargeBoxId : String} {connectorId : ℤ}
  {now : ℕ}

/-- The rows that change are those that the notification can refer to, all of them. -/
lemma statusOf_confirm (hrow : row ∈ table.rows) :
    (row.Awaits chargeBoxId connectorId now → ReservationTable.statusOf
      (table.confirmFromStatusNotification chargeBoxId connectorId now) row.id =
        some .confirmed) ∧
    (¬row.Awaits chargeBoxId connectorId now → ReservationTable.statusOf
      (table.confirmFromStatusNotification chargeBoxId connectorId now) row.id =
        some row.status) := by
  have hupdate := ReservationTable.statusOf_update
    (fun row => row.status == .pending && row.chargeBoxId == chargeBoxId &&
      row.connectorId == connectorId && decide (now < row.endAt))
    (fun row => { row with status := .confirmed }) (fun _ => rfl) hrow
  have hsel : (row.status == .pending && row.chargeBoxId == chargeBoxId &&
      row.connectorId == connectorId && decide (now < row.endAt)) = true ↔
        row.Awaits chargeBoxId connectorId now := by
    simp [Reservation.Awaits, and_assoc]
  refine ⟨fun hawaits => hupdate.trans ?_, fun hnot => hupdate.trans ?_⟩
  · rw [if_pos (hsel.mpr hawaits)]
  · rw [if_neg fun h => hnot (hsel.mp h)]

/-- For every table and every `Reserved` notification: it confirms the most recent pending
reservation of the connector and no other exactly when there is no more than one. -/
theorem one_confirmed_iff (table : ReservationTable) (chargeBoxId : String) (connectorId : ℤ)
    (now : ℕ) :
    table.ConfirmsMostRecent (table.confirmFromStatusNotification chargeBoxId connectorId now)
        chargeBoxId connectorId now ↔
      ∀ row ∈ table.rows, ∀ row' ∈ table.rows, row.Awaits chargeBoxId connectorId now →
        row'.Awaits chargeBoxId connectorId now → row = row' := by
  have hchanges : ∀ row ∈ table.rows, ReservationTable.statusOf
      (table.confirmFromStatusNotification chargeBoxId connectorId now) row.id ≠
        some row.status ↔ row.Awaits chargeBoxId connectorId now := by
    intro row hrow
    constructor
    · exact fun h => by_contra fun hnot => h ((statusOf_confirm hrow).2 hnot)
    · intro hawaits
      rw [(statusOf_confirm hrow).1 hawaits, hawaits.1]
      decide
  constructor
  · intro h row hrow row' hrow' hawaits hawaits'
    exact h.atMostOne row hrow row' hrow' ((hchanges row hrow).mpr hawaits)
      ((hchanges row' hrow').mpr hawaits')
  · intro hone
    refine ⟨fun row hrow row' hrow' h h' => ?_, fun row hrow h => ?_⟩
    · exact hone row hrow row' hrow' ((hchanges row hrow).mp h) ((hchanges row' hrow').mp h')
    · have hawaits := (hchanges row hrow).mp h
      refine ⟨(statusOf_confirm hrow).1 hawaits, hawaits, fun other hother hawaits' => ?_⟩
      rw [hone other hother row hrow hawaits' hawaits]

/-- Two reservations of one connector, the second for the next day. -/
def twoPending : ReservationTable :=
  onePending.insert (fun id => pendingReservation id 90000000 93600000) fun _ => rfl

/-- One notification confirms them both. -/
theorem both_pending_confirmed :
    ReservationTable.statusOf (twoPending.confirmFromStatusNotification "CP1" 1 3600000) 0 =
        some .confirmed ∧
      ReservationTable.statusOf (twoPending.confirmFromStatusNotification "CP1" 1 3600000) 1 =
        some .confirmed ∧
      ¬twoPending.ConfirmsMostRecent
        (twoPending.confirmFromStatusNotification "CP1" 1 3600000) "CP1" 1 3600000 := by
  refine ⟨by decide +kernel, by decide +kernel, fun h => ?_⟩
  have hsame := h.atMostOne (pendingReservation 0 3600000 7200000) List.mem_cons_self
    (pendingReservation 1 90000000 93600000) (List.mem_cons_of_mem _ List.mem_cons_self)
    (by decide +kernel) (by decide +kernel)
  exact absurd hsame (by decide +kernel)

end Notifications

end ExpresSync
