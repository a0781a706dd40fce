import ExpresSync.Foundation.Transition
import ExpresSync.Model.LinkRemoval

/-!
# Reservations of users without an active mapping

`DELETE` cancels the reservations of the user whose mapping it names, when it leaves him without an
active one.  It does not look at the owners of the descendants, and neither `PUT` nor
`subscription.terminated` cancels a reservation.
-/

namespace ExpresSync

open Transition

namespace TagLinkTable

/-- One of the tags of the user has this number. -/
def HasTag (table : TagLinkTable) (userId : String) (pk : ℕ) : Prop :=
  ∃ row ∈ table.rows, row.userId = some userId ∧ row.steveOcppTagPk = pk

variable {table : TagLinkTable} {userId otherUserId : String} {pk : ℕ}

lemma mem_tagPksOf : pk ∈ table.tagPksOf userId ↔ table.HasTag userId pk := by
  simp [tagPksOf, HasTag, and_assoc]

/-- A tag has one owner. -/
lemma HasTag.unique (h : table.HasTag userId pk) (hother : table.HasTag otherUserId pk) :
    userId = otherUserId := by
  obtain ⟨row, hrow, hself, rfl⟩ := h
  obtain ⟨other, hmem, hotherSelf, hpk⟩ := hother
  have hsame : other = row := List.inj_on_of_nodup_map table.nodup_pk hmem hrow hpk
  rw [hsame, hself] at hotherSelf
  exact Option.some.inj hotherSelf

/-- To switch mappings off leaves each user his tags. -/
lemma hasTag_switchOff {sel : TagLink → Bool} :
    (table.switchOff sel).HasTag userId pk ↔ table.HasTag userId pk := by
  have howner : ∀ row : TagLink,
      (if sel row then ({ isActive := some (some false) } : LinkUpdates).apply row
        else row).userId =
          row.userId ∧
        (if sel row then ({ isActive := some (some false) } : LinkUpdates).apply row
          else row).steveOcppTagPk = row.steveOcppTagPk := by
    intro row
    split <;> exact ⟨rfl, rfl⟩
  unfold HasTag switchOff update
  constructor
  · rintro ⟨row, hrow, huser, hpk⟩
    obtain ⟨old, hold, rfl⟩ := List.mem_map.mp hrow
    exact ⟨old, hold, (howner old).1 ▸ huser, (howner old).2 ▸ hpk⟩
  · rintro ⟨old, hold, huser, hpk⟩
    exact ⟨_, List.mem_map_of_mem hold, (howner old).1.trans huser, (howner old).2.trans hpk⟩

lemma hasTag_softDeactivate {currentMapping : TagLink} {descendantPks : List ℕ} :
    (table.softDeactivate currentMapping descendantPks).HasTag userId pk ↔
      table.HasTag userId pk := by
  have hloop : ∀ links : TagLinkTable,
      (descendantPks.foldl
        (fun t childPk => t.switchOff fun row => decide (row.steveOcppTagPk = childPk))
        links).HasTag userId pk ↔ links.HasTag userId pk := by
    induction descendantPks with
    | nil => exact fun _ => Iff.rfl
    | cons childPk childPks ih => exact fun links => (ih _).trans hasTag_switchOff
  exact (hloop _).trans hasTag_switchOff

end TagLinkTable

/-! ## Reservations that block -/

/-- A reservation of the user that has still to begin blocks its window. -/
def BooksAhead (links : TagLinkTable) (reservations : ReservationTable) (now : ℕ)
    (userId : String) : Prop :=
  ∃ row ∈ reservations.rows, links.HasTag userId row.steveOcppTagPk ∧ now < row.startAt ∧
    row.isBlocking = true

section

variable {links : TagLinkTable} {reservations : ReservationTable} {now : ℕ} {userId : String}
  {tagPks : List ℕ}

/-- A row of the table after a bulk cancel, and the row it was. -/
lemma exists_of_mem_bulkCancel {row : Reservation}
    (h : row ∈ (reservations.bulkCancel tagPks now).rows) (hblocking : row.isBlocking = true) :
    row ∈ reservations.rows ∧ ¬(row.steveOcppTagPk ∈ tagPks ∧ now ≤ row.endAt) := by
  obtain ⟨old, hold, rfl⟩ := SerialTable.mem_rewrite.mp h
  split at hblocking
  · cases hblocking
  · next hsel =>
    rw [if_neg hsel]
    refine ⟨hold, fun hcancelled => hsel ?_⟩
    simp [hcancelled.1, hcancelled.2, hblocking]

/-- A bulk cancel makes no reservation block. -/
lemma BooksAhead.of_bulkCancel
    (h : BooksAhead links (reservations.bulkCancel tagPks now) now userId) :
    BooksAhead links reservations now userId := by
  obtain ⟨row, hrow, htag, hfuture, hblocking⟩ := h
  exact ⟨row, (exists_of_mem_bulkCancel hrow hblocking).1, htag, hfuture, hblocking⟩

/-- A bulk cancel of all tags of the user cancels what he has booked. -/
lemma not_booksAhead_bulkCancel (hwindow : ∀ row ∈ reservations.rows, row.startAt < row.endAt)
    (htags : ∀ pk, links.HasTag userId pk → pk ∈ tagPks) :
    ¬BooksAhead links (reservations.bulkCancel tagPks now) now userId := by
  rintro ⟨row, hrow, htag, hfuture, hblocking⟩
  obtain ⟨hmem, hkept⟩ := exists_of_mem_bulkCancel hrow hblocking
  have hends : row.startAt < row.endAt := hwindow row hmem
  exact hkept ⟨htags _ htag, by omega⟩

/-- A bulk cancel of other tags leaves alone what he has booked. -/
lemma BooksAhead.bulkCancel (h : BooksAhead links reservations now userId)
    (htags : ∀ pk ∈ tagPks, ¬links.HasTag userId pk) :
    BooksAhead links (reservations.bulkCancel tagPks now) now userId := by
  obtain ⟨row, hrow, htag, hfuture, hblocking⟩ := h
  refine ⟨row, SerialTable.mem_rewrite.mpr ⟨row, hrow, ?_⟩, htag, hfuture, hblocking⟩
  have hother : row.steveOcppTagPk ∉ tagPks := fun hmem => htags _ hmem htag
  simp [hother]

end

/-! ## Operations -/

/-- A user whom the operation leaves without an active mapping has no reservation with a future
start that blocks. -/
def FreesChargers (w : BookingWorld) (_ : BookingAction) (w' : BookingWorld) : Prop :=
  ∀ userId, w.links.HasActive userId → ¬w'.links.HasActive userId →
    ¬BooksAhead w.links w'.reservations w'.now userId

/-- The operation is a `DELETE` of a mapping of the user, which does not fail on the way. -/
def BookingAction.Unlinks (links : TagLinkTable) (userId : String) : BookingAction → Prop
  | .deletes id _ cancelFails =>
      cancelFails = false ∧ userId ≠ "" ∧
        ∃ currentMapping, links.named? id = some currentMapping ∧ currentMapping.userId =
          some userId
  | _ => False

/-- Whose last mapping the operation takes, has it deleted, or has booked nothing ahead. -/
def UnlinksOrUnbooked (w : BookingWorld) (a : BookingAction) : Prop :=
  ∀ userId, w.links.HasActive userId → ¬(a.writeLinks w.links).HasActive userId →
    a.Unlinks w.links userId ∨ ¬BooksAhead w.links w.reservations w.now userId

namespace BookingWorld

variable {w w' : BookingWorld} {a : BookingAction} {userId : String}

/-- What is booked after an operation was booked before. -/
lemma booksAhead_of_writeReservations
    (h : BooksAhead w.links (w.writeReservations a) w.now userId) :
    BooksAhead w.links w.reservations w.now userId := by
  unfold writeReservations cancelWithoutActive bulkCancelFutureReservationsForUser at h
  split at h
  · split at h
    · split at h
      · split at h
        · exact h.of_bulkCancel
        · exact h
      · exact h
    · exact h
  · exact h

/-- What the user has booked is cancelled when his last active mapping is deleted, and only then. -/
lemma booksAhead_writeReservations_iff (hleft : ¬(a.writeLinks w.links).HasActive userId) :
    BooksAhead w.links (w.writeReservations a) w.now userId ↔
      BooksAhead w.links w.reservations w.now userId ∧ ¬a.Unlinks w.links userId := by
  constructor
  · intro h
    refine ⟨booksAhead_of_writeReservations h, ?_⟩
    intro hunlinks
    cases a with
    | deletes id allTags cancelFails =>
        obtain ⟨rfl, hne, currentMapping, hnamed, howner⟩ := hunlinks
        simp only [BookingAction.writeLinks, hnamed] at hleft
        simp only [writeReservations, hnamed, cancelWithoutActive, howner,
          if_pos (And.intro hne hleft), bulkCancelFutureReservationsForUser] at h
        refine not_booksAhead_bulkCancel w.window_check ?_ h
        intro pk htag
        exact TagLinkTable.mem_tagPksOf.mpr (TagLinkTable.hasTag_softDeactivate.mpr htag)
    | waits ms => exact hunlinks
    | puts env request => exact hunlinks
    | terminates externalSubscriptionId => exact hunlinks
  · rintro ⟨hbooked, hnot⟩
    unfold writeReservations cancelWithoutActive bulkCancelFutureReservationsForUser
    split
    · next id allTags =>
      split
      · next currentMapping hnamed =>
        split
        · next ownerId howner =>
          split
          · next hcancels =>
            refine hbooked.bulkCancel ?_
            -- the tags of the owner are not those of another user
            intro pk hmem htag
            have hownerTag : w.links.HasTag ownerId pk :=
              TagLinkTable.hasTag_softDeactivate.mp (TagLinkTable.mem_tagPksOf.mp hmem)
            have hsame : userId = ownerId := htag.unique hownerTag
            exact hnot ⟨rfl, hsame ▸ hcancels.1, currentMapping, hnamed, hsame ▸ howner⟩
          · exact hbooked
        · exact hbooked
      · exact hbooked
    · exact hbooked

lemma now_of_left (hstep : w.step a = some w') (hactive : w.links.HasActive userId)
    (hleft : ¬w'.links.HasActive userId) : w'.now = w.now := by
  obtain rfl := Option.some.inj hstep
  cases a with
  | waits ms => exact absurd hactive hleft
  | deletes id allTags cancelFails => rfl
  | puts env request => rfl
  | terminates externalSubscriptionId => rfl

lemma freesChargers_iff (hstep : w.step a = some w') :
    UnlinksOrUnbooked w a ↔ FreesChargers w a w' := by
  have hnow : ∀ userId, w.links.HasActive userId → ¬w'.links.HasActive userId → w'.now = w.now :=
    fun _ => now_of_left hstep
  obtain rfl := Option.some.inj hstep
  refine forall_congr' fun userId => forall_congr' fun hactive => forall_congr' fun hleft => ?_
  show _ ↔ ¬BooksAhead w.links (w.writeReservations a) _ userId
  rw [hnow userId hactive hleft, booksAhead_writeReservations_iff hleft]
  tauto

/-- For all mappings, reservations and runs: after each operation that leaves a user without an
active mapping nothing that he has booked ahead blocks a charger, exactly when the operation is the
deletion of a mapping of his that does not fail on the way, or nothing was booked before. -/
theorem freesChargers_iff_unlinksOrUnbooked (w : BookingWorld) (as : List BookingAction) :
    Meets step UnlinksOrUnbooked w as ↔ EachStep step FreesChargers w as :=
  meets_iff_eachStep (I := fun _ => True) (A := fun _ _ => True)
    (fun _ _ _ _ _ _ _ => trivial) (fun _ _ _ _ _ hstep => freesChargers_iff hstep) trivial
    (meets_of_forall fun _ _ => trivial)

end BookingWorld

/-! ## A subscription that ends -/

/-- One active mapping, and a reservation of its tag for tomorrow. -/
def bookedAhead : BookingWorld where
  now := 0
  links := ⟨[{
    id := 1
    steveOcppTagPk := 7
    steveOcppIdTag := "CARD"
    lagoCustomerExternalId := some "customer"
    lagoSubscriptionExternalId := some "sub_1"
    isActive := some true
    billingTier := .standard
    tagType := .evCard
    userId := some "user" }], by decide, by decide⟩
  reservations := ⟨[{
    id := 1
    chargeBoxId := "CB"
    connectorId := 1
    steveOcppTagPk := 7
    steveOcppIdTag := "CARD"
    lagoSubscriptionExternalId := some "sub_1"
    startAt := 86400000
    endAt := 90000000
    durationMinutes := 60
    status := .confirmed
    steveReservationId := some 1
    chargingProfileTaskId := none
    createdByUserId := some "user"
    cancelledAt := none
    forced := false }], 2, by decide, by decide⟩
  window_check := by decide

/-- The webhook `subscription.terminated` takes the user his last mapping, and the charger stays
booked. -/
theorem not_freesChargers_subscriptionTerminated :
    ¬∀ (w : BookingWorld) (as : List BookingAction),
      EachStep BookingWorld.step FreesChargers w as := by
  intro hall
  have hfrees : FreesChargers bookedAhead (.terminates (some "sub_1")) _ :=
    (hall bookedAhead [.terminates (some "sub_1")] _ rfl).1
  refine hfrees "user" ?_ ?_ ?_
  · decide
  · decide
  · exact ⟨_, List.mem_singleton_self _, ⟨_, List.mem_singleton_self _, rfl, rfl⟩, by decide,
      by decide⟩

end ExpresSync
