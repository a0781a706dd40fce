import ExpresSync.Model.Reservations
import ExpresSync.Model.TagLinks

/-!
# Users who lose their mappings

The operations that switch a mapping off, or move it to another user: `DELETE` and `PUT` of
`/api/admin/tag/link`, and the webhook `subscription.terminated`.  `DELETE` ends with
`bulkCancelFutureReservationsForUser`.

The pushes to StEvE, the sessions that the webhook stops and the meta tags that it refreshes are
left out.
-/

namespace ExpresSync

namespace TagLinkTable

variable (table : TagLinkTable)

/-- The query `remainingActive` finds a row. -/
def HasActive (userId : String) : Prop :=
  ∃ row ∈ table.rows, row.userId = some userId ∧ row.isActive = some true

instance (userId : String) : Decidable (table.HasActive userId) :=
  inferInstanceAs (Decidable (∃ row ∈ table.rows, _))

/-- The tags of a user, active or not. -/
def tagPksOf (userId : String) : List ℕ :=
  (table.rows.filter fun row => decide (row.userId = some userId)).map TagLink.steveOcppTagPk

/-- The mapping that the query parameter `id` names. -/
def named? (id : Option String) : Option TagLink :=
  match parseInt (id.getD "") with
  | none | some 0 => none
  | some id => table.rows.find? fun row => decide ((row.id : ℤ) = id)

/-- `UPDATE user_mappings SET is_active = false`. -/
def switchOff (sel : TagLink → Bool) : TagLinkTable :=
  table.update sel { isActive := some (some false) }

/-- The transaction of `DELETE`. -/
def softDeactivate (currentMapping : TagLink) (descendantPks : List ℕ) : TagLinkTable :=
  descendantPks.foldl
    (fun table childPk => table.switchOff fun row => decide (row.steveOcppTagPk = childPk))
    (table.switchOff fun row => decide (row.id = currentMapping.id))

end TagLinkTable

/-- The descendants that `DELETE` finds, none when StEvE does not answer. -/
def descendantPks (currentMapping : TagLink) (allTags : Option TagHierarchy) : List ℕ :=
  match allTags with
  | some allTags =>
      (getAllChildTags currentMapping.steveOcppIdTag allTags.entries).map StEvEOcppTag.ocppTagPk
  | none => []

def bulkCancelFutureReservationsForUser (links : TagLinkTable) (reservations : ReservationTable)
    (userId : String) (now : ℕ) : ReservationTable :=
  reservations.bulkCancel (links.tagPksOf userId) now

/-- The end of `DELETE`. -/
def cancelWithoutActive (links : TagLinkTable) (reservations : ReservationTable)
    (currentMapping : TagLink) (now : ℕ) : ReservationTable :=
  match currentMapping.userId with
  | some userId =>
      if userId ≠ "" ∧ ¬links.HasActive userId then
        bulkCancelFutureReservationsForUser links reservations userId now
      else reservations
  | none => reservations

/-- The two tables, and the clock. -/
structure BookingWorld where
  now : ℕ
  links : TagLinkTable
  reservations : ReservationTable
  /-- `CHECK ("end_at" > "start_at")` -/
  window_check : ∀ row ∈ reservations.rows, row.startAt < row.endAt

inductive BookingAction where
  | waits (ms : ℕ)
  /-- `DELETE`; what it does after its transaction may fail. -/
  | deletes (id : Option String) (allTags : Option TagHierarchy) (cancelFails : Bool)
  | puts (env : LinkEnv) (request : LinkRequest)
  | terminates (externalSubscriptionId : Option String)

/-- What an operation writes to `user_mappings`. -/
def BookingAction.writeLinks (links : TagLinkTable) : BookingAction → TagLinkTable
  | .waits _ => links
  | .deletes id allTags _ =>
      match links.named? id with
      | some currentMapping =>
          links.softDeactivate currentMapping (descendantPks currentMapping allTags)
      | none => links
  | .puts env request =>
      match env.put links request with
      | .ok (links, _) => links
      | .error _ => links
  | .terminates externalSubscriptionId =>
      match externalSubscriptionId.filter (· ≠ "") with
      | some externalSubscriptionId =>
          -- `handleSubscriptionStateChange`
          links.switchOff fun row =>
            decide (row.lagoSubscriptionExternalId = some externalSubscriptionId) &&
              decide (row.isActive = some true)
      | none => links

namespace BookingWorld

variable (w : BookingWorld)

/-- What an operation writes to `reservations`. -/
def writeReservations : BookingAction → ReservationTable
  | .deletes id allTags false =>
      match w.links.named? id with
      | some currentMapping =>
          cancelWithoutActive
            (w.links.softDeactivate currentMapping (descendantPks currentMapping allTags))
            w.reservations currentMapping w.now
      | none => w.reservations
  | _ => w.reservations

lemma window_bulkCancel {reservations : ReservationTable} (tagPks : List ℕ) (now : ℕ)
    (h : ∀ row ∈ reservations.rows, row.startAt < row.endAt) :
    ∀ row ∈ (reservations.bulkCancel tagPks now).rows, row.startAt < row.endAt := by
  refine (SerialTable.forall_rewrite h).mpr ?_
  intro row hrow _
  exact h row hrow

lemma window_writeReservations (a : BookingAction) :
    ∀ row ∈ (w.writeReservations a).rows, row.startAt < row.endAt := by
  unfold writeReservations cancelWithoutActive bulkCancelFutureReservationsForUser
  split
  · split
    · split
      · split
        · exact window_bulkCancel _ _ w.window_check
        · exact w.window_check
      · exact w.window_check
    · exact w.window_check
  · exact w.window_check

def step (a : BookingAction) : Option BookingWorld :=
  some {
    now := match a with
      | .waits ms => w.now + ms
      | _ => w.now
    links := a.writeLinks w.links
    reservations := w.writeReservations a
    window_check := w.window_writeReservations a }

end BookingWorld

end ExpresSync
