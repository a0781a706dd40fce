import ExpresSync.Foundation.JsNumber
import ExpresSync.Foundation.SerialTable
import ExpresSync.Foundation.Transition
import Mathlib.Data.List.Sort

/-!
# Reservations

`reservation.service.ts` and `reservation-resolver.service.ts`.  A call is suspended at every
statement and at every request to StEvE, so other calls run between its conflict check and its
write; a call in flight is represented by the point it is suspended at.  Times are epoch
milliseconds.

`bulkCancelFutureReservationsForUser` and `tryConfirmFromStatusNotification` are single
statements, and steps of their own.
-/

namespace ExpresSync

/-- `ReservationStatus`. -/
inductive ReservationStatus where
  | pending
  | confirmed
  | active
  | completed
  | cancelled
  | conflicted
  | orphaned
deriving DecidableEq

/-- `BLOCKING_STATUSES`. -/
def blockingStatuses : List ReservationStatus := [.pending, .confirmed, .active]

/-- A row of `reservations`. -/
structure Reservation where
  id : ℕ
  chargeBoxId : String
  /-- `0` is the whole charger. -/
  connectorId : ℤ
  steveOcppTagPk : ℕ
  steveOcppIdTag : String
  lagoSubscriptionExternalId : Option String
  startAt : ℕ
  endAt : ℕ
  durationMinutes : ℤ
  status : ReservationStatus
  /-- The task of `ReserveNow`. -/
  steveReservationId : Option ℤ
  chargingProfileTaskId : Option ℤ
  createdByUserId : Option String
  /-- Set when the row is cancelled, and never cleared. -/
  cancelledAt : Option ℕ
  /-- History: the row was created with the force option. -/
  forced : Bool
deriving DecidableEq

/-- The row blocks its window. -/
def Reservation.isBlocking (row : Reservation) : Bool := blockingStatuses.contains row.status

/-- The table of reservations. -/
abbrev ReservationTable := SerialTable Reservation.id

/-- `durationMinutes` of a window. -/
def durationMinutesOf (startAt endAt : ℕ) : ℤ := max 1 (mathRound ((endAt - startAt : ℚ) / 60000))

/-- The row with another window. -/
def Reservation.moveTo (row : Reservation) (startAt endAt : ℕ) : Reservation :=
  { row with
    startAt := startAt
    endAt := endAt
    durationMinutes := durationMinutesOf startAt endAt }

/-! ## Conflicts -/

/-- `ConflictCheckInput`. -/
structure ConflictCheckInput where
  chargeBoxId : String
  connectorId : ℤ
  startAt : ℕ
  endAt : ℕ
  excludeReservationId : Option ℕ
deriving DecidableEq

/-- The condition of the query of `checkConflicts`. -/
def ConflictCheckInput.finds (input : ConflictCheckInput) (row : Reservation) : Bool :=
  row.chargeBoxId == input.chargeBoxId &&
    (input.connectorId == 0 || row.connectorId == input.connectorId || row.connectorId == 0) &&
    row.isBlocking && decide (row.startAt < input.endAt) && decide (input.startAt < row.endAt) &&
    input.excludeReservationId != some row.id

/-- `checkConflicts`, without the order of the result. -/
def checkConflicts (table : ReservationTable) (input : ConflictCheckInput) : List Reservation :=
  table.rows.filter input.finds

/-! ## Creating -/

/-- `CreateReservationInput`. -/
structure CreateReservationInput where
  chargeBoxId : String
  connectorId : ℤ
  steveOcppTagPk : ℕ
  steveOcppIdTag : String
  lagoSubscriptionExternalId : Option String
  startAt : ℕ
  endAt : ℕ
  createdByUserId : Option String
  force : Bool
deriving DecidableEq

namespace CreateReservationInput

variable (input : CreateReservationInput)

/-- What `createReservation` checks. -/
def toCheck : ConflictCheckInput where
  chargeBoxId := input.chargeBoxId
  connectorId := input.connectorId
  startAt := input.startAt
  endAt := input.endAt
  excludeReservationId := none

/-- The row `createReservation` inserts. -/
def newReservation (id : ℕ) : Reservation where
  id := id
  chargeBoxId := input.chargeBoxId
  connectorId := input.connectorId
  steveOcppTagPk := input.steveOcppTagPk
  steveOcppIdTag := input.steveOcppIdTag
  lagoSubscriptionExternalId := input.lagoSubscriptionExternalId
  startAt := input.startAt
  endAt := input.endAt
  durationMinutes := durationMinutesOf input.startAt input.endAt
  status := .pending
  steveReservationId := none
  chargingProfileTaskId := none
  createdByUserId := input.createdByUserId
  cancelledAt := none
  forced := input.force

end CreateReservationInput

/-- `OcppTaskResult` of `ReserveNow`. -/
structure OcppTaskResult where
  /-- `none` when the id is no number a column can hold. -/
  taskId : Option ℤ
  taskFinished : Option Bool
  /-- Charger and OCPP status. -/
  successResponses : List (String × String)
  /-- The chargers with a CallError. -/
  errorResponses : List String
  /-- The chargers that could not be reached. -/
  exceptions : List String
deriving DecidableEq

/-- `resolvedStatus`. -/
def OcppTaskResult.resolvedStatus (result : OcppTaskResult) (chargeBoxId : String) :
    Option ReservationStatus :=
  match result.successResponses.find? fun r => r.1 = chargeBoxId with
  | some successForUs =>
      some (if successForUs.2.toUpper = "ACCEPTED" then .confirmed else .conflicted)
  | none =>
      if result.errorResponses.contains chargeBoxId || result.exceptions.contains chargeBoxId then
        some .conflicted
      else none

/-! ## Statements -/

namespace ReservationTable

variable (table : ReservationTable)

/-- `update … where id = id`. -/
def updateById (id : ℕ) (f : Reservation → Reservation) (hf : ∀ row, (f row).id = row.id) :
    ReservationTable :=
  table.update (fun row => row.id = id) f hf

/-- The insert of `createReservation`. -/
def create (input : CreateReservationInput) : ReservationTable :=
  table.insert input.newReservation fun _ => rfl

/-- The task of the charging-profile hook. -/
def setProfileTask (id : ℕ) (taskId : ℤ) : ReservationTable :=
  table.updateById id (fun row => { row with chargingProfileTaskId := some taskId }) fun _ => rfl

/-- The write after `ReserveNow` has returned. -/
def setReserveNow (id : ℕ) (taskId : ℤ) (resolvedStatus : Option ReservationStatus) :
    ReservationTable :=
  table.updateById id
    (fun row =>
      { row with steveReservationId := some taskId, status := resolvedStatus.getD row.status })
    fun _ => rfl

/-- The write of `cancelReservation`. -/
def cancel (id now : ℕ) : ReservationTable :=
  table.updateById id (fun row => { row with status := .cancelled, cancelledAt := some now })
    fun _ => rfl

/-- The write of `rescheduleReservation`. -/
def move (id startAt endAt : ℕ) : ReservationTable :=
  table.updateById id (fun row => row.moveTo startAt endAt) fun _ => rfl

/-- The write of `resolveOne`. -/
def resolvePending (id : ℕ) (newStatus : ReservationStatus) : ReservationTable :=
  table.update (fun row => row.id == id && row.status == .pending)
    (fun row => { row with status := newStatus }) fun _ => rfl

/-- `tryConfirmFromStatusNotification`. -/
def confirmFromStatusNotification (chargeBoxId : String) (connectorId : ℤ) (now : ℕ) :
    ReservationTable :=
  table.update
    (fun row => row.status == .pending && row.chargeBoxId == chargeBoxId &&
      row.connectorId == connectorId && decide (now < row.endAt))
    (fun row => { row with status := .confirmed }) fun _ => rfl

/-- The write of `bulkCancelFutureReservationsForUser`. -/
def bulkCancel (tagPks : List ℕ) (now : ℕ) : ReservationTable :=
  table.update
    (fun row => tagPks.contains row.steveOcppTagPk && decide (now ≤ row.endAt) && row.isBlocking)
    (fun row => { row with status := .cancelled, cancelledAt := some now }) fun _ => rfl

end ReservationTable

/-! ## Calls -/

/-- `RescheduleInput`. -/
structure RescheduleInput where
  reservationId : ℕ
  startAt : ℕ
  endAt : ℕ
  force : Bool
deriving DecidableEq

/-- What `rescheduleReservation` checks for a row with this charger and connector. -/
def RescheduleInput.toCheck (input : RescheduleInput) (chargeBoxId : String) (connectorId : ℤ) :
    ConflictCheckInput where
  chargeBoxId := chargeBoxId
  connectorId := connectorId
  startAt := input.startAt
  endAt := input.endAt
  excludeReservationId := some input.reservationId

/-- `OcppTaskStatus`, with the number of its errors and exceptions. -/
structure OcppTaskStatus where
  taskFinished : Bool
  errorCount : ℕ
deriving DecidableEq

/-- A call, at the point where it is suspended. -/
inductive ReservationCall where
  /-- `createReservation`, before its conflict check. -/
  | creating (input : CreateReservationInput)
  /-- Its check has passed (or was skipped); the insert is next. -/
  | inserting (input : CreateReservationInput)
  /-- In the charging-profile hook. -/
  | profiling (id : ℕ) (chargeBoxId : String)
  /-- In `ReserveNow`. -/
  | reserving (id : ℕ) (chargeBoxId : String)
  /-- `cancelReservation`, before its select. -/
  | cancelling (id : ℕ)
  /-- In StEvE's `CancelReservation`, if that is called at all; the update is next. -/
  | tearingDown (id : ℕ)
  /-- `rescheduleReservation`, before its select. -/
  | rescheduling (input : RescheduleInput)
  /-- Before its conflict check. -/
  | checkingMove (input : RescheduleInput) (chargeBoxId : String) (connectorId : ℤ)
  /-- Its check has passed (or was skipped); the update is next. -/
  | moving (input : RescheduleInput)
  /-- A tick of `resolvePendingReservations`, before its select. -/
  | ticking
  /-- The tick with the rows still to be polled. -/
  | polling (ids : List ℕ)
  | settled
deriving DecidableEq

/-- The call has just been made. -/
def ReservationCall.isNew : ReservationCall → Bool
  | creating _ => true
  | cancelling _ => true
  | rescheduling _ => true
  | ticking => true
  | _ => false

/-- What a suspended call waits for. -/
inductive ReservationEvent where
  /-- The statement goes through. -/
  | proceeds
  /-- The statement fails, and the call with it. -/
  | fails
  | profileReturned (taskId : Option ℤ)
  | reserveNowReturned (answer : Except String OcppTaskResult)
  /-- The rows the select of a tick returns. -/
  | selected (ids : List ℕ)
  | taskReturned (answer : Except String (Option OcppTaskStatus))

/-- `POLL_BATCH_LIMIT`. -/
def pollBatchLimit : ℕ := 50

/-- A row a tick may poll. -/
def Reservation.isPollable (row : Reservation) (now : ℕ) : Bool :=
  row.status == .pending && row.steveReservationId.isSome && decide (now < row.endAt)

/-- `resolveOne`, from the answer of `getTask` on. -/
def resolveOne (table : ReservationTable) (id : ℕ)
    (answer : Except String (Option OcppTaskStatus)) : ReservationTable :=
  match answer with
  | .ok (some task) =>
      if task.taskFinished then
        table.resolvePending id (if 0 < task.errorCount then .conflicted else .confirmed)
      else table
  | _ => table

/-- The write after `ReserveNow`; when the task's id does not fit, the whole update is refused. -/
def reserveNowReturned (table : ReservationTable) (id : ℕ) (chargeBoxId : String)
    (answer : Except String OcppTaskResult) : ReservationTable :=
  match answer with
  | .ok result =>
      match result.taskId with
      | some taskId => table.setReserveNow id taskId (result.resolvedStatus chargeBoxId)
      | none => table
  | .error _ => table

/-- One step of a call: the table it leaves, and where it is suspended next. -/
def ReservationCall.resume (table : ReservationTable) (now : ℕ) :
    ReservationCall → ReservationEvent → Option (ReservationTable × ReservationCall)
  | settled, _ => none
  | _, .fails => some (table, .settled)
  | creating input, .proceeds =>
      if input.endAt ≤ input.startAt then some (table, .settled)
      else if input.force || (checkConflicts table input.toCheck).isEmpty then
        some (table, .inserting input)
      else some (table, .settled)
  | inserting input, .proceeds =>
      some (table.create input, .profiling table.next input.chargeBoxId)
  | profiling id chargeBoxId, .profileReturned taskId =>
      some ((taskId.map (table.setProfileTask id)).getD table, .reserving id chargeBoxId)
  | reserving id chargeBoxId, .reserveNowReturned answer =>
      some (ExpresSync.reserveNowReturned table id chargeBoxId answer, .settled)
  | cancelling id, .proceeds =>
      match table.get? id with
      | none => some (table, .settled)
      | some existing =>
          some (table, if existing.status = .cancelled then .settled else .tearingDown id)
  | tearingDown id, .proceeds => some (table.cancel id now, .settled)
  | rescheduling input, .proceeds =>
      if input.endAt ≤ input.startAt then some (table, .settled)
      else
        match table.get? input.reservationId with
        | none => some (table, .settled)
        | some existing =>
            some (table, .checkingMove input existing.chargeBoxId existing.connectorId)
  | checkingMove input chargeBoxId connectorId, .proceeds =>
      if input.force ||
          (checkConflicts table (input.toCheck chargeBoxId connectorId)).isEmpty then
        some (table, .moving input)
      else some (table, .settled)
  | moving input, .proceeds =>
      some (table.move input.reservationId input.startAt input.endAt, .settled)
  | ticking, .selected ids =>
      if ids.length ≤ pollBatchLimit ∧
          ∀ id ∈ ids, ((table.get? id).map (·.isPollable now)).getD false = true then
        some (table, .polling ids)
      else none
  | polling (id :: ids), .taskReturned answer => some (resolveOne table id answer, .polling ids)
  | _, _ => none

/-! ## The service -/

/-- The table and the calls in flight. -/
structure ReservationWorld where
  table : ReservationTable
  calls : List ReservationCall

/-- What can happen next. -/
inductive ReservationAction where
  | arrives (call : ReservationCall)
  | resumes (i now : ℕ) (event : ReservationEvent)
  /-- The charger reports `Reserved`. -/
  | reservedNotification (chargeBoxId : String) (connectorId : ℤ) (now : ℕ)
  /-- The owner of these tags is unlinked. -/
  | bulkCancels (tagPks : List ℕ) (now : ℕ)

namespace ReservationWorld

/-- No reservations and no calls. -/
def initial : ReservationWorld := ⟨SerialTable.empty, []⟩

/-- One step of the service. -/
def step (w : ReservationWorld) : ReservationAction → Option ReservationWorld
  | .arrives call => if call.isNew then some { w with calls := w.calls ++ [call] } else none
  | .resumes i now event =>
      (w.calls[i]?).bind fun call =>
        (call.resume w.table now event).map fun (table, call') =>
          { table := table, calls := w.calls.set i call' }
  | .reservedNotification chargeBoxId connectorId now =>
      some { w with table := w.table.confirmFromStatusNotification chargeBoxId connectorId now }
  | .bulkCancels tagPks now => some { w with table := w.table.bulkCancel tagPks now }

/-! ## What a step writes -/

/-- Everything a step can do to the table. -/
inductive TableWrite (w : ReservationWorld) : ReservationAction → ReservationTable → Prop
  | kept {a : ReservationAction} : TableWrite w a w.table
  | created {i now : ℕ} {input : CreateReservationInput}
    (hcall : w.calls[i]? = some (.inserting input)) :
      TableWrite w (.resumes i now .proceeds) (w.table.create input)
  | profiled {i now id : ℕ} {chargeBoxId : String} {taskId : ℤ}
      (hcall : w.calls[i]? = some (.profiling id chargeBoxId)) :
      TableWrite w (.resumes i now (.profileReturned (some taskId)))
        (w.table.setProfileTask id taskId)
  | answered {i now id : ℕ} {chargeBoxId : String} {answer : Except String OcppTaskResult}
      (hcall : w.calls[i]? = some (.reserving id chargeBoxId)) :
      TableWrite w (.resumes i now (.reserveNowReturned answer))
        (ExpresSync.reserveNowReturned w.table id chargeBoxId answer)
  | cancelled {i now id : ℕ} (hcall : w.calls[i]? = some (.tearingDown id)) :
      TableWrite w (.resumes i now .proceeds) (w.table.cancel id now)
  | moved {i now : ℕ} {input : RescheduleInput} (hcall : w.calls[i]? = some (.moving input)) :
      TableWrite w (.resumes i now .proceeds)
        (w.table.move input.reservationId input.startAt input.endAt)
  | resolved {i now id : ℕ} {ids : List ℕ} {answer : Except String (Option OcppTaskStatus)}
      (hcall : w.calls[i]? = some (.polling (id :: ids))) :
      TableWrite w (.resumes i now (.taskReturned answer)) (resolveOne w.table id answer)
  | confirmed {chargeBoxId : String} {connectorId : ℤ} {now : ℕ} :
      TableWrite w (.reservedNotification chargeBoxId connectorId now)
        (w.table.confirmFromStatusNotification chargeBoxId connectorId now)
  | bulkCancelled {tagPks : List ℕ} {now : ℕ} :
      TableWrite w (.bulkCancels tagPks now) (w.table.bulkCancel tagPks now)

variable {w w' : ReservationWorld} {a : ReservationAction}

theorem step_table (h : step w a = some w') : TableWrite w a w'.table := by
  cases a with
  | arrives call =>
      simp only [step] at h
      split at h
      · obtain rfl := Option.some.inj h
        exact .kept
      · cases h
  | reservedNotification chargeBoxId connectorId now =>
      obtain rfl := Option.some.inj h
      exact .confirmed
  | bulkCancels tagPks now =>
      obtain rfl := Option.some.inj h
      exact .bulkCancelled
  | resumes i now event =>
      obtain ⟨call, hcall, h⟩ := Option.bind_eq_some_iff.mp h
      obtain ⟨⟨table, call'⟩, hresume, rfl⟩ := Option.map_eq_some_iff.mp h
      have hkept : ∀ c, some (w.table, c) = some (table, call') →
          TableWrite w (.resumes i now event) table := by
        intro c heq
        obtain ⟨rfl, -⟩ := Prod.mk.inj (Option.some.inj heq)
        exact .kept
      unfold ReservationCall.resume at hresume
      split at hresume
      · cases hresume
      · exact hkept _ hresume
      · split at hresume
        · exact hkept _ hresume
        · split at hresume <;> exact hkept _ hresume
      · obtain ⟨rfl, -⟩ := Prod.mk.inj (Option.some.inj hresume)
        exact .created hcall
      · next id chargeBoxId taskId _ =>
          obtain ⟨rfl, -⟩ := Prod.mk.inj (Option.some.inj hresume)
          cases taskId with
          | none => exact .kept
          | some taskId => exact .profiled hcall
      · obtain ⟨rfl, -⟩ := Prod.mk.inj (Option.some.inj hresume)
        exact .answered hcall
      · split at hresume <;> exact hkept _ hresume
      · obtain ⟨rfl, -⟩ := Prod.mk.inj (Option.some.inj hresume)
        exact .cancelled hcall
      · split at hresume
        · exact hkept _ hresume
        · split at hresume <;> exact hkept _ hresume
      · split at hresume <;> exact hkept _ hresume
      · obtain ⟨rfl, -⟩ := Prod.mk.inj (Option.some.inj hresume)
        exact .moved hcall
      · split at hresume
        · exact hkept _ hresume
        · cases hresume
      · obtain ⟨rfl, -⟩ := Prod.mk.inj (Option.some.inj hresume)
        exact .resolved hcall
      · cases hresume

end ReservationWorld

end ExpresSync

/-!
# Windows to offer instead

`suggestAlternatives`, which the routes of the customers call when a request has conflicts.
-/

namespace ExpresSync

/-- `ReservationSuggestion`. -/
structure ReservationSuggestion where
  startAt : ℕ
  endAt : ℕ
deriving DecidableEq

/-- `SuggestionInput`. -/
structure SuggestionInput where
  chargeBoxId : String
  connectorId : ℤ
  requestedStartAt : ℕ
  requestedEndAt : ℕ
  conflicts : List Reservation

/-- What the routes ask for, when a request has conflicts. -/
def ConflictCheckInput.toSuggest (requested : ConflictCheckInput) (table : ReservationTable) :
    SuggestionInput where
  chargeBoxId := requested.chargeBoxId
  connectorId := requested.connectorId
  requestedStartAt := requested.startAt
  requestedEndAt := requested.endAt
  conflicts := checkConflicts table requested

namespace SuggestionInput

variable (input : SuggestionInput) (table : ReservationTable)

def durationMs : ℕ := input.requestedEndAt - input.requestedStartAt

def cutoff : ℕ := input.requestedStartAt + 24 * 60 * 60 * 1000

/-- `conflictEnds`, ascending. -/
def conflictEnds : List ℕ := (input.conflicts.map (·.endAt)).insertionSort (· ≤ ·)

/-- The window from a candidate on. -/
def suggestion (candidateStart : ℕ) : ReservationSuggestion :=
  ⟨candidateStart, candidateStart + input.durationMs⟩

/-- What is checked for a window. -/
def toCheck (window : ReservationSuggestion) : ConflictCheckInput where
  chargeBoxId := input.chargeBoxId
  connectorId := input.connectorId
  startAt := window.startAt
  endAt := window.endAt
  excludeReservationId := none

/-- The candidate has no conflicts. -/
def isFree (candidateStart : ℕ) : Bool :=
  (checkConflicts table (input.toCheck (input.suggestion candidateStart))).isEmpty

/-- The loop over the candidates. -/
def tryStarts : List ℕ → List ReservationSuggestion → List ReservationSuggestion
  | [], suggestions => suggestions
  | candidateStart :: rest, suggestions =>
      if 2 ≤ suggestions.length then suggestions
      else if input.cutoff < candidateStart then suggestions
      else if input.isFree table candidateStart then
        tryStarts rest (suggestions ++ [input.suggestion candidateStart])
      else tryStarts rest suggestions

/-- `suggestAlternatives` -/
def suggestAlternatives : List ReservationSuggestion :=
  if input.requestedEndAt ≤ input.requestedStartAt then []
  else input.tryStarts table input.conflictEnds []

end SuggestionInput

end ExpresSync

/-!
# Holds at the chargers

What the calls of `reservation.service.ts` do at the chargers, beside what they do to the table:
`createReservation` sends `ReserveNow`, `cancelReservation` sends `CancelReservation`, and
`rescheduleReservation` sends nothing.

A charger of OCPP 1.6 that accepts a `ReserveNow` holds the connector for the tag until the expiry
or until a `CancelReservation` with the reservation's id, which StEvE has chosen, and refuses any
other `ReserveNow` meanwhile.  Calls follow one another here, without the force option, and every
command gets to its charger; how calls overlap is the subject of `ReservationWorld`, of which these
are runs (`exists_run_of_step`).
-/

namespace ExpresSync

/-- A connector of a charger. -/
structure Connector where
  chargeBoxId : String
  connectorId : ℤ
deriving DecidableEq

/-- A reservation at a charger. -/
structure Hold where
  connector : Connector
  idTag : String
  reservationId : ℤ
  expiry : ℕ
deriving DecidableEq

/-- The connector of a row. -/
def Reservation.connector (row : Reservation) : Connector := ⟨row.chargeBoxId, row.connectorId⟩

/-- How StEvE and the charger answer a `ReserveNow`. -/
structure ReserveNowAnswer where
  /-- The number of StEvE's task, which the response carries. -/
  taskId : ℤ
  /-- The id in the OCPP message, which it does not carry. -/
  reservationId : ℤ
  /-- The charger's OCPP `ReservationStatus`. -/
  status : String
deriving DecidableEq

/-- The charger has taken the reservation. -/
def ReserveNowAnswer.IsAccepted (answer : ReserveNowAnswer) : Prop :=
  answer.status.toUpper = "ACCEPTED"

instance (answer : ReserveNowAnswer) : Decidable answer.IsAccepted :=
  inferInstanceAs (Decidable (_ = _))

/-- StEvE's response. -/
def ReserveNowAnswer.toResult (answer : ReserveNowAnswer) (chargeBoxId : String) :
    OcppTaskResult where
  taskId := some answer.taskId
  taskFinished := some true
  successResponses := [(chargeBoxId, answer.status)]
  errorResponses := []
  exceptions := []

/-- The id `cancelReservation` sends, when it sends a command. -/
def Reservation.cancelledReservationId (row : Reservation) : Option ℤ :=
  if row.status = .pending ∨ row.status = .confirmed then row.steveReservationId else none

/-- The command that cancels the row takes the hold down. -/
def Reservation.TearsDown (row : Reservation) (hold : Hold) : Prop :=
  hold.connector.chargeBoxId = row.chargeBoxId ∧
    row.cancelledReservationId = some hold.reservationId

instance (row : Reservation) (hold : Hold) : Decidable (row.TearsDown hold) :=
  inferInstanceAs (Decidable (_ ∧ _))

/-- The table and the chargers. -/
structure HoldWorld where
  table : ReservationTable
  holds : List Hold
  now : ℕ

/-- One call after the other. -/
inductive HoldAction where
  | waits (ms : ℕ)
  /-- `profileTaskId` is the task of the charging-profile hook. -/
  | creates (input : CreateReservationInput) (profileTaskId : Option ℤ) (answer : ReserveNowAnswer)
  | reschedules (input : RescheduleInput)
  | cancels (reservationId : ℕ)

namespace HoldWorld

variable (w : HoldWorld)

def initial (now : ℕ) : HoldWorld := ⟨.empty, [], now⟩

/-- The connector is held. -/
def Occupied (connector : Connector) : Prop :=
  ∃ hold ∈ w.holds, hold.connector = connector ∧ w.now < hold.expiry

instance (connector : Connector) : Decidable (w.Occupied connector) :=
  inferInstanceAs (Decidable (∃ hold ∈ w.holds, _))

/-- The hold that an accepted `ReserveNow` for the input begins. -/
def newHold (input : CreateReservationInput) (reservationId : ℤ) : Hold where
  connector := ⟨input.chargeBoxId, input.connectorId⟩
  idTag := input.steveOcppIdTag
  reservationId := reservationId
  expiry := input.endAt

/-- The holds after a `ReserveNow`: `none` when it cannot have been answered like that. -/
def reserveNow (input : CreateReservationInput) (answer : ReserveNowAnswer) : Option (List Hold) :=
  if answer.IsAccepted then
    if w.Occupied ⟨input.chargeBoxId, input.connectorId⟩ then none
    else some (w.holds ++ [newHold input answer.reservationId])
  else some w.holds

/-- The table once `createReservation` has gone through. -/
def createdTable (input : CreateReservationInput) (profileTaskId : Option ℤ)
    (answer : ReserveNowAnswer) : ReservationTable :=
  let inserted := w.table.create input
  let reservation := (profileTaskId.map (inserted.setProfileTask w.table.next)).getD inserted
  reserveNowReturned reservation w.table.next input.chargeBoxId
    (.ok (answer.toResult input.chargeBoxId))

def createReservation (input : CreateReservationInput) (profileTaskId : Option ℤ)
    (answer : ReserveNowAnswer) : Option HoldWorld :=
  if input.endAt ≤ input.startAt then some w
  else if (checkConflicts w.table input.toCheck).isEmpty then
    (w.reserveNow input answer).map fun holds =>
      { w with table := w.createdTable input profileTaskId answer, holds := holds }
  else some w

def rescheduleReservation (input : RescheduleInput) : HoldWorld :=
  if input.endAt ≤ input.startAt then w
  else
    match w.table.get? input.reservationId with
    | none => w
    | some existing =>
        if (checkConflicts w.table
            (input.toCheck existing.chargeBoxId existing.connectorId)).isEmpty then
          { w with table := w.table.move input.reservationId input.startAt input.endAt }
        else w

def cancelReservation (reservationId : ℕ) : HoldWorld :=
  match w.table.get? reservationId with
  | none => w
  | some existing =>
      if existing.status = .cancelled then w
      else
        { w with
          table := w.table.cancel reservationId w.now
          holds := w.holds.filter fun hold => ¬existing.TearsDown hold }

def step : HoldAction → Option HoldWorld
  | .waits ms => some { w with now := w.now + ms }
  | .creates input profileTaskId answer =>
      if input.force then none else w.createReservation input profileTaskId answer
  | .reschedules input => if input.force then none else some (w.rescheduleReservation input)
  | .cancels reservationId => some (w.cancelReservation reservationId)

end HoldWorld

end ExpresSync
