import ExpresSync.Model.Reservations

/-!
# Holds and booked windows

The table books windows; a charger holds from the moment it accepts until the expiry.
`holdsMatchWindows_iff` says which calls keep the two together: a reservation is accepted after its
window has begun only, a reschedule leaves what is still to come of a confirmed window as it is, and
the id a cancellation sends, which is the number of StEvE's task, is the id of the hold of the row's
connector, or of none in force if the row has no window left.

`exists_run_of_step` shows the calls to be runs of `ReservationWorld` that do not overlap.
-/

namespace ExpresSync

open Transition

namespace Reservation

/-- The row is confirmed and its window contains `t`. -/
def Books (row : Reservation) (t : ℕ) : Prop :=
  row.status = .confirmed ∧ row.startAt ≤ t ∧ t < row.endAt

/-- The row is confirmed and its window has not ended at `t`. -/
def IsOpen (row : Reservation) (t : ℕ) : Prop := row.status = .confirmed ∧ t < row.endAt

end Reservation

namespace HoldWorld

section Definitions

variable (w : HoldWorld)

/-- The connector is held for the tag at `t`, unless a command comes in before. -/
def IsHeld (connector : Connector) (idTag : String) (t : ℕ) : Prop :=
  ∃ hold ∈ w.holds, hold.connector = connector ∧ hold.idTag = idTag ∧ t < hold.expiry

/-- A confirmed reservation of the tag on the connector has a window that contains `t`. -/
def IsBooked (connector : Connector) (idTag : String) (t : ℕ) : Prop :=
  ∃ row ∈ w.table.rows, row.connector = connector ∧ row.steveOcppIdTag = idTag ∧ row.Books t

/-- From now on, the connectors are held for the tags that have booked them, and when they have. -/
def HoldsMatchWindows : Prop :=
  ∀ t, w.now ≤ t → ∀ connector idTag, w.IsHeld connector idTag t ↔ w.IsBooked connector idTag t

/-- What each call has to meet. -/
def FollowsWindows : HoldAction → Prop
  | .waits _ => True
  | .creates input _ answer =>
      input.startAt < input.endAt → checkConflicts w.table input.toCheck = [] → answer.IsAccepted →
        input.startAt ≤ w.now
  | .reschedules input =>
      input.startAt < input.endAt → ∀ row ∈ w.table.rows, row.id = input.reservationId →
        checkConflicts w.table (input.toCheck row.chargeBoxId row.connectorId) = [] →
          row.status = .confirmed → ∀ t, w.now ≤ t →
            (input.startAt ≤ t ∧ t < input.endAt ↔ row.startAt ≤ t ∧ t < row.endAt)
  | .cancels reservationId =>
      ∀ row ∈ w.table.rows, row.id = reservationId → row.status ≠ .cancelled →
        ∀ hold ∈ w.holds, hold.connector.chargeBoxId = row.chargeBoxId → w.now < hold.expiry →
          (row.cancelledReservationId = some hold.reservationId ↔
            hold.connector = row.connector ∧ row.IsOpen w.now)

end Definitions

/-! ## What a step does -/

section Steps

variable {w w' : HoldWorld}

/-- An update of the last row. -/
lemma updateById_last {table : ReservationTable} {rows : List Reservation} {row : Reservation}
    {f : Reservation → Reservation} {hf : ∀ row, (f row).id = row.id}
    (hrows : table.rows = rows ++ [row]) (hnew : ∀ old ∈ rows, old.id ≠ row.id) :
    (table.updateById row.id f hf).rows = rows ++ [f row] := by
  have hkept :
      rows.map (fun old => if decide (old.id = row.id) = true then f old else old) = rows := by
    refine (List.map_congr_left fun old hold => ?_).trans (List.map_id rows)
    simp [hnew old hold]
  simp only [ReservationTable.updateById, SerialTable.update, SerialTable.rewrite, hrows,
    List.map_append, List.map_singleton, hkept]
  simp

/-- The row `createReservation` leaves. -/
def createdRow (w : HoldWorld) (input : CreateReservationInput) (profileTaskId : Option ℤ)
    (answer : ReserveNowAnswer) : Reservation :=
  { input.newReservation w.table.next with
    status := if answer.IsAccepted then .confirmed else .conflicted
    steveReservationId := some answer.taskId
    chargingProfileTaskId := profileTaskId }

lemma createdTable_rows (w : HoldWorld) (input : CreateReservationInput)
    (profileTaskId : Option ℤ) (answer : ReserveNowAnswer) :
    (w.createdTable input profileTaskId answer).rows =
      w.table.rows ++ [w.createdRow input profileTaskId answer] := by
  have hnew : ∀ old ∈ w.table.rows, old.id ≠ w.table.next := fun old hold =>
    (w.table.key_lt old hold).ne
  have hstatus : (answer.toResult input.chargeBoxId).resolvedStatus input.chargeBoxId =
      some (if answer.IsAccepted then .confirmed else .conflicted) := by
    by_cases haccepted : answer.IsAccepted
    · simp [ReserveNowAnswer.toResult, OcppTaskResult.resolvedStatus, if_pos haccepted,
        show answer.status.toUpper = "ACCEPTED" from haccepted]
    · simp [ReserveNowAnswer.toResult, OcppTaskResult.resolvedStatus, if_neg haccepted,
        show answer.status.toUpper ≠ "ACCEPTED" from haccepted]
  have hanswered : ∀ {table : ReservationTable} {row : Reservation},
      table.rows = w.table.rows ++ [row] → row.id = w.table.next →
        (reserveNowReturned table w.table.next input.chargeBoxId
          (.ok (answer.toResult input.chargeBoxId))).rows = w.table.rows ++ [{ row with
            steveReservationId := some answer.taskId
            status := if answer.IsAccepted then .confirmed else .conflicted }] := by
    intro table row hrows hid
    simp only [reserveNowReturned, ReserveNowAnswer.toResult, ReservationTable.setReserveNow]
    rw [← hid]
    refine (updateById_last hrows (by rwa [hid])).trans ?_
    simp only [ReserveNowAnswer.toResult] at hstatus
    rw [hstatus]
    rfl
  have hinserted : (w.table.create input).rows =
      w.table.rows ++ [input.newReservation w.table.next] := rfl
  unfold createdTable
  cases profileTaskId with
  | none => exact hanswered hinserted rfl
  | some taskId =>
      have hprofiled : ((w.table.create input).setProfileTask
          (input.newReservation w.table.next).id taskId).rows =
            w.table.rows ++ [{ input.newReservation w.table.next with
              chargingProfileTaskId := some taskId }] := updateById_last hinserted hnew
      exact hanswered hprofiled rfl

/-- What `createReservation` does. -/
lemma createReservation_cases {input : CreateReservationInput} {profileTaskId : Option ℤ}
    {answer : ReserveNowAnswer} (h : w.createReservation input profileTaskId answer = some w') :
    (w' = w ∧ ¬(input.startAt < input.endAt ∧ checkConflicts w.table input.toCheck = [])) ∨
      input.startAt < input.endAt ∧ checkConflicts w.table input.toCheck = [] ∧
        w'.now = w.now ∧
        w'.table.rows = w.table.rows ++ [w.createdRow input profileTaskId answer] ∧
        (answer.IsAccepted ∧ ¬w.Occupied ⟨input.chargeBoxId, input.connectorId⟩ ∧
            w'.holds = w.holds ++ [newHold input answer.reservationId] ∨
          ¬answer.IsAccepted ∧ w'.holds = w.holds) := by
  unfold createReservation at h
  split_ifs at h with hwindow hfree
  · obtain rfl := Option.some.inj h
    exact Or.inl ⟨rfl, fun hpass => absurd hpass.1 (not_lt.mpr hwindow)⟩
  · rw [List.isEmpty_iff] at hfree
    obtain ⟨holds, hholds, rfl⟩ := Option.map_eq_some_iff.mp h
    refine Or.inr ⟨not_le.mp hwindow, hfree, rfl, createdTable_rows _ _ _ _, ?_⟩
    unfold reserveNow at hholds
    split_ifs at hholds with haccepted hoccupied
    · exact Or.inl ⟨haccepted, hoccupied, (Option.some.inj hholds).symm⟩
    · exact Or.inr ⟨haccepted, (Option.some.inj hholds).symm⟩
  · obtain rfl := Option.some.inj h
    exact Or.inl ⟨rfl, fun hpass => hfree (List.isEmpty_iff.mpr hpass.2)⟩

/-- What `rescheduleReservation` does. -/
lemma rescheduleReservation_cases (w : HoldWorld) (input : RescheduleInput) :
    (w.rescheduleReservation input = w ∧ ¬(input.startAt < input.endAt ∧
        ∃ row ∈ w.table.rows, row.id = input.reservationId ∧
          checkConflicts w.table (input.toCheck row.chargeBoxId row.connectorId) = [])) ∨
      input.startAt < input.endAt ∧ ∃ existing ∈ w.table.rows,
        existing.id = input.reservationId ∧
          checkConflicts w.table (input.toCheck existing.chargeBoxId existing.connectorId) = [] ∧
            w.rescheduleReservation input =
              { w with table := w.table.move existing.id input.startAt input.endAt } := by
  unfold rescheduleReservation
  split_ifs with hwindow
  · exact Or.inl ⟨rfl, fun hpass => absurd hpass.1 (not_lt.mpr hwindow)⟩
  · cases hexisting : w.table.get? input.reservationId with
    | none =>
        refine Or.inl ⟨rfl, ?_⟩
        rintro ⟨-, row, hrow, hid, -⟩
        rw [SerialTable.get?_eq_some.mpr ⟨hrow, hid⟩] at hexisting
        cases hexisting
    | some existing =>
        obtain ⟨hmem, hid⟩ := SerialTable.get?_eq_some.mp hexisting
        dsimp only
        split_ifs with hfree
        · rw [List.isEmpty_iff] at hfree
          exact Or.inr ⟨not_le.mp hwindow, existing, hmem, hid, hfree, by rw [hid]⟩
        · refine Or.inl ⟨rfl, ?_⟩
          rintro ⟨-, row, hrow, hrowid, hpass⟩
          obtain rfl := SerialTable.eq_of_key hrow hmem (hrowid.trans hid.symm)
          exact hfree (List.isEmpty_iff.mpr hpass)

/-- What `cancelReservation` does. -/
lemma cancelReservation_cases (w : HoldWorld) (reservationId : ℕ) :
    (w.cancelReservation reservationId = w ∧
        ∀ row ∈ w.table.rows, row.id = reservationId → row.status = .cancelled) ∨
      ∃ existing ∈ w.table.rows, existing.id = reservationId ∧ existing.status ≠ .cancelled ∧
        w.cancelReservation reservationId =
          { w with
            table := w.table.cancel existing.id w.now
            holds := w.holds.filter fun hold => ¬existing.TearsDown hold } := by
  unfold cancelReservation
  cases hexisting : w.table.get? reservationId with
  | none =>
      refine Or.inl ⟨rfl, fun row hrow hid => ?_⟩
      rw [SerialTable.get?_eq_some.mpr ⟨hrow, hid⟩] at hexisting
      cases hexisting
  | some existing =>
      obtain ⟨hmem, hid⟩ := SerialTable.get?_eq_some.mp hexisting
      dsimp only
      split_ifs with hcancelled
      · refine Or.inl ⟨rfl, fun row hrow hrowid => ?_⟩
        obtain rfl := SerialTable.eq_of_key hrow hmem (hrowid.trans hid.symm)
        exact hcancelled
      · exact Or.inr ⟨existing, hmem, hid, hcancelled, by rw [hid]⟩

end Steps

/-! ## The rows other than one -/

section Others

variable {w : HoldWorld} {connector : Connector} {idTag : String} {t : ℕ}

/-- Booked by a row with another id. -/
def IsBookedBut (w : HoldWorld) (id : ℕ) (connector : Connector) (idTag : String) (t : ℕ) : Prop :=
  ∃ row ∈ w.table.rows, row.id ≠ id ∧ row.connector = connector ∧ row.steveOcppIdTag = idTag ∧
    row.Books t

lemma isBooked_iff {existing : Reservation} (hmem : existing ∈ w.table.rows) :
    w.IsBooked connector idTag t ↔ w.IsBookedBut existing.id connector idTag t ∨
      existing.connector = connector ∧ existing.steveOcppIdTag = idTag ∧ existing.Books t := by
  constructor
  · rintro ⟨row, hrow, hbooks⟩
    by_cases hid : row.id = existing.id
    · obtain rfl := SerialTable.eq_of_key hrow hmem hid
      exact Or.inr hbooks
    · exact Or.inl ⟨row, hrow, hid, hbooks⟩
  · rintro (⟨row, hrow, -, hbooks⟩ | hbooks)
    · exact ⟨row, hrow, hbooks⟩
    · exact ⟨existing, hmem, hbooks⟩

/-- After an update of one row. -/
lemma isBooked_updateById {existing : Reservation} {f : Reservation → Reservation}
    {hf : ∀ row, (f row).id = row.id} (hmem : existing ∈ w.table.rows) (holds : List Hold) :
    HoldWorld.IsBooked ⟨w.table.updateById existing.id f hf, holds, w.now⟩ connector idTag t ↔
      w.IsBookedBut existing.id connector idTag t ∨
        (f existing).connector = connector ∧ (f existing).steveOcppIdTag = idTag ∧
          (f existing).Books t := by
  constructor
  · rintro ⟨row, hrow, hbooks⟩
    obtain ⟨old, hold, rfl⟩ := SerialTable.mem_rewrite.mp hrow
    by_cases hid : old.id = existing.id
    · obtain rfl := SerialTable.eq_of_key hold hmem hid
      rw [if_pos (by simp)] at hbooks
      exact Or.inr hbooks
    · rw [if_neg (by simpa using hid)] at hbooks
      exact Or.inl ⟨old, hold, hid, hbooks⟩
  · rintro (⟨row, hrow, hid, hbooks⟩ | hbooks)
    · refine ⟨row, ?_, hbooks⟩
      exact SerialTable.mem_rewrite.mpr ⟨row, hrow, by rw [if_neg (by simpa using hid)]⟩
    · refine ⟨f existing, ?_, hbooks⟩
      exact SerialTable.mem_rewrite.mpr ⟨existing, hmem, by rw [if_pos (by simp)]⟩

end Others

/-! ## The invariant -/

/-- Open windows have begun, no two rows with open windows share a connector, and no two holds in
force do. -/
structure Regular (w : HoldWorld) : Prop where
  started : ∀ row ∈ w.table.rows, row.IsOpen w.now → row.startAt ≤ w.now
  single : ∀ row ∈ w.table.rows, ∀ row' ∈ w.table.rows, row.connector = row'.connector →
    row.IsOpen w.now → row'.IsOpen w.now → row = row'
  exclusive : ∀ hold ∈ w.holds, ∀ hold' ∈ w.holds, hold.connector = hold'.connector →
    w.now < hold.expiry → w.now < hold'.expiry → hold = hold'

section Invariant

variable {w w' : HoldWorld}

lemma initial_regular (now : ℕ) : (initial now).Regular where
  started := by rintro row ⟨⟩
  single := by rintro row ⟨⟩
  exclusive := by rintro hold ⟨⟩

lemma initial_holdsMatchWindows (now : ℕ) : (initial now).HoldsMatchWindows := by
  intro t _ connector idTag
  constructor
  · rintro ⟨hold, ⟨⟩, -⟩
  · rintro ⟨row, ⟨⟩, -⟩

/-- A window that contains a time to come is open. -/
lemma isOpen_of_books {row : Reservation} {t : ℕ} (ht : w.now ≤ t) (h : row.Books t) :
    row.IsOpen w.now :=
  ⟨h.1, lt_of_le_of_lt ht h.2.2⟩

/-- A row with an open window keeps its connector held. -/
lemma Regular.occupied (hregular : w.Regular) (hmatch : w.HoldsMatchWindows) {row : Reservation}
    (hrow : row ∈ w.table.rows) (hopen : row.IsOpen w.now) : w.Occupied row.connector := by
  have hbooked : w.IsBooked row.connector row.steveOcppIdTag w.now :=
    ⟨row, hrow, rfl, rfl, hopen.1, hregular.started row hrow hopen, hopen.2⟩
  obtain ⟨hold, hhold, hconnector, -, hforce⟩ := (hmatch _ le_rfl _ _).mpr hbooked
  exact ⟨hold, hhold, hconnector, hforce⟩

/-- No other row with an open window is booked on the connector of one. -/
lemma Regular.not_isBookedBut (hregular : w.Regular) {existing : Reservation} {idTag : String}
    {t : ℕ} (hmem : existing ∈ w.table.rows) (hopen : existing.IsOpen w.now) (ht : w.now ≤ t) :
    ¬w.IsBookedBut existing.id existing.connector idTag t := by
  rintro ⟨row, hrow, hid, hconnector, -, hbooks⟩
  exact hid
    (by rw [hregular.single row hrow existing hmem hconnector (isOpen_of_books ht hbooks) hopen])

lemma Regular.waits (hregular : w.Regular) (ms : ℕ) :
    Regular { w with now := w.now + ms } where
  started row hrow hopen :=
    (hregular.started row hrow ⟨hopen.1, lt_of_le_of_lt (Nat.le_add_right _ _) hopen.2⟩).trans
      (Nat.le_add_right _ _)
  single row hrow row' hrow' hconnector hopen hopen' :=
    hregular.single row hrow row' hrow' hconnector
      ⟨hopen.1, lt_of_le_of_lt (Nat.le_add_right _ _) hopen.2⟩
      ⟨hopen'.1, lt_of_le_of_lt (Nat.le_add_right _ _) hopen'.2⟩
  exclusive hold hhold hold' hhold' hconnector hforce hforce' :=
    hregular.exclusive hold hhold hold' hhold' hconnector
      (lt_of_le_of_lt (Nat.le_add_right _ _) hforce) (lt_of_le_of_lt (Nat.le_add_right _ _) hforce')

end Invariant

/-! ## Creating -/

section Creating

variable {w w' : HoldWorld} {row : Reservation} {hold : Hold}

lemma isBooked_append (hrows : w'.table.rows = w.table.rows ++ [row]) {connector : Connector}
    {idTag : String} {t : ℕ} :
    w'.IsBooked connector idTag t ↔ w.IsBooked connector idTag t ∨
      row.connector = connector ∧ row.steveOcppIdTag = idTag ∧ row.Books t := by
  simp only [IsBooked, hrows, List.mem_append, List.mem_singleton, or_and_right, exists_or,
    exists_eq_left]

lemma isHeld_append (hholds : w'.holds = w.holds ++ [hold]) {connector : Connector}
    {idTag : String} {t : ℕ} :
    w'.IsHeld connector idTag t ↔ w.IsHeld connector idTag t ∨
      hold.connector = connector ∧ hold.idTag = idTag ∧ t < hold.expiry := by
  simp only [IsHeld, hholds, List.mem_append, List.mem_singleton, or_and_right, exists_or,
    exists_eq_left]

/-- A row that is not confirmed, added. -/
lemma Regular.append_refused (hregular : w.Regular) (hnow : w'.now = w.now)
    (hrows : w'.table.rows = w.table.rows ++ [row]) (hholds : w'.holds = w.holds)
    (hstatus : row.status ≠ .confirmed) : w'.Regular := by
  have hold : ∀ other ∈ w'.table.rows, other.IsOpen w'.now →
      other ∈ w.table.rows ∧ other.IsOpen w.now := by
    intro other hother hopen
    rw [hrows, List.mem_append, List.mem_singleton] at hother
    rw [hnow] at hopen
    rcases hother with hother | rfl
    · exact ⟨hother, hopen⟩
    · exact absurd hopen.1 hstatus
  constructor
  · intro other hother hopen
    obtain ⟨hmem, hopen⟩ := hold other hother hopen
    rw [hnow]
    exact hregular.started other hmem hopen
  · intro other hother other' hother' hconnector hopen hopen'
    obtain ⟨hmem, hopen⟩ := hold other hother hopen
    obtain ⟨hmem', hopen'⟩ := hold other' hother' hopen'
    exact hregular.single other hmem other' hmem' hconnector hopen hopen'
  · rw [hholds, hnow]
    exact hregular.exclusive

/-- A row whose window has begun, added with its hold. -/
lemma Regular.append_accepted (hregular : w.Regular) (hmatch : w.HoldsMatchWindows)
    (hnow : w'.now = w.now) (hrows : w'.table.rows = w.table.rows ++ [row])
    (hholds : w'.holds = w.holds ++ [hold]) (hsame : hold.connector = row.connector)
    (hfree : ¬w.Occupied row.connector) (hstart : row.startAt ≤ w.now) : w'.Regular := by
  constructor
  · intro other hother hopen
    rw [hrows, List.mem_append, List.mem_singleton] at hother
    rw [hnow] at hopen ⊢
    rcases hother with hother | rfl
    · exact hregular.started other hother hopen
    · exact hstart
  · intro other hother other' hother' hconnector hopen hopen'
    rw [hrows, List.mem_append, List.mem_singleton] at hother hother'
    rw [hnow] at hopen hopen'
    rcases hother with hother | rfl
    · rcases hother' with hother' | rfl
      · exact hregular.single other hother other' hother' hconnector hopen hopen'
      · exact absurd (hconnector ▸ hregular.occupied hmatch hother hopen) hfree
    · rcases hother' with hother' | rfl
      · exact absurd (hconnector ▸ hregular.occupied hmatch hother' hopen') hfree
      · rfl
  · intro other hother other' hother' hconnector hforce hforce'
    rw [hholds, List.mem_append, List.mem_singleton] at hother hother'
    rw [hnow] at hforce hforce'
    rcases hother with hother | rfl
    · rcases hother' with hother' | rfl
      · exact hregular.exclusive other hother other' hother' hconnector hforce hforce'
      · exact absurd ⟨other, hother, hconnector.trans hsame, hforce⟩ hfree
    · rcases hother' with hother' | rfl
      · exact absurd ⟨other', hother', hconnector.symm.trans hsame, hforce'⟩ hfree
      · rfl

variable {input : CreateReservationInput} {profileTaskId : Option ℤ} {answer : ReserveNowAnswer}

/-- A reservation that is accepted keeps the holds and the windows together exactly when its window
has begun. -/
lemma holdsMatchWindows_creates_iff (hregular : w.Regular) (hmatch : w.HoldsMatchWindows)
    (hstep : w.createReservation input profileTaskId answer = some w') :
    w.FollowsWindows (.creates input profileTaskId answer) ↔ w'.HoldsMatchWindows := by
  rcases createReservation_cases hstep
    with ⟨rfl, hrejected⟩ | ⟨hwindow, hpass, hnow, hrows, hcharger⟩
  · refine iff_of_true (fun hwindow hpass => ?_) hmatch
    exact absurd ⟨hwindow, hpass⟩ hrejected
  · rcases hcharger with ⟨haccepted, hfree, hholds⟩ | ⟨hrefused, hholds⟩
    · have hconfirmed : (w.createdRow input profileTaskId answer).status = .confirmed :=
        if_pos haccepted
      constructor
      · intro hfollows t ht connector idTag
        rw [hnow] at ht
        rw [isHeld_append hholds, isBooked_append hrows, hmatch t ht]
        have hstart := (hfollows hwindow hpass haccepted).trans ht
        refine or_congr_right (and_congr_right fun _ => and_congr_right fun _ => ?_)
        exact ⟨fun hexpiry => ⟨hconfirmed, hstart, hexpiry⟩, fun hbooks => hbooks.2.2⟩
      · intro hmatch' _ _ _
        by_contra hlater
        have hexpiry : w.now < input.endAt := (not_le.mp hlater).trans hwindow
        have hheld := (isHeld_append hholds).mpr (Or.inr
          (⟨rfl, rfl, hexpiry⟩ : _ ∧ _ ∧ w.now < (newHold input answer.reservationId).expiry))
        rw [hmatch' w.now hnow.le, isBooked_append hrows, ← hmatch w.now le_rfl] at hheld
        rcases hheld with ⟨hold, hhold, hconnector, -, hforce⟩ | ⟨-, -, hbooks⟩
        · exact hfree ⟨hold, hhold, hconnector, hforce⟩
        · exact hlater hbooks.2.1
    · refine iff_of_true (fun _ _ haccepted => absurd haccepted hrefused)
        fun t ht connector idTag => ?_
      have hstatus : ¬(w.createdRow input profileTaskId answer).Books t := fun hbooks => by
        have hconflicted : (w.createdRow input profileTaskId answer).status = .conflicted :=
          if_neg hrefused
        rw [Reservation.Books, hconflicted] at hbooks
        cases hbooks.1
      rw [hnow] at ht
      rw [isBooked_append hrows, ← hmatch t ht]
      simp only [IsHeld, hholds, hstatus, and_false, or_false]

lemma Regular.creates (hregular : w.Regular) (hmatch : w.HoldsMatchWindows)
    (hfollows : w.FollowsWindows (.creates input profileTaskId answer))
    (hstep : w.createReservation input profileTaskId answer = some w') : w'.Regular := by
  rcases createReservation_cases hstep with ⟨rfl, -⟩ | ⟨hwindow, hpass, hnow, hrows, hcharger⟩
  · exact hregular
  · rcases hcharger with ⟨haccepted, hfree, hholds⟩ | ⟨hrefused, hholds⟩
    · exact hregular.append_accepted hmatch hnow hrows hholds rfl hfree
        (hfollows hwindow hpass haccepted)
    · refine hregular.append_refused hnow hrows hholds ?_
      rw [createdRow, if_neg hrefused]
      exact ReservationStatus.noConfusion

end Creating

/-! ## Rescheduling -/

section Rescheduling

variable {w : HoldWorld} {input : RescheduleInput} {existing : Reservation}

/-- The row is found by the conflict check of a window that overlaps its own. -/
lemma mem_checkConflicts_of_books {row : Reservation} {t : ℕ} (hrow : row ∈ w.table.rows)
    (hid : row.id ≠ input.reservationId) (hconnector : row.connector = existing.connector)
    (hbooks : row.Books t) (hstart : input.startAt ≤ t) (hend : t < input.endAt) :
    row ∈ checkConflicts w.table (input.toCheck existing.chargeBoxId existing.connectorId) := by
  obtain ⟨hcharger, hnumber⟩ := Connector.mk.inj hconnector
  have hblocking : row.isBlocking = true := by
    simp [Reservation.isBlocking, hbooks.1, blockingStatuses]
  refine List.mem_filter.mpr ⟨hrow, ?_⟩
  simp only [ConflictCheckInput.finds, RescheduleInput.toCheck, hcharger, hnumber, hblocking,
    beq_self_eq_true, Bool.true_and, Bool.or_true, Bool.true_or, Bool.and_eq_true, bne_iff_ne,
    ne_eq, Option.some.injEq]
  refine ⟨⟨?_, ?_⟩, fun heq => hid heq.symm⟩
  · exact decide_eq_true (lt_of_le_of_lt hbooks.2.1 hend)
  · exact decide_eq_true (lt_of_le_of_lt hstart hbooks.2.2)

/-- A reschedule keeps the holds and the windows together exactly when it leaves what is still to
come of a confirmed window as it is. -/
lemma holdsMatchWindows_reschedules_iff (hregular : w.Regular) (hmatch : w.HoldsMatchWindows) :
    w.FollowsWindows (.reschedules input) ↔ (w.rescheduleReservation input).HoldsMatchWindows := by
  rcases rescheduleReservation_cases w input with
    ⟨hsame, hrejected⟩ | ⟨hwindow, existing, hmem, hid, hpass, hmoved⟩
  · rw [hsame]
    refine iff_of_true (fun hwindow row hrow hid hpass => ?_) hmatch
    exact absurd ⟨hwindow, row, hrow, hid, hpass⟩ hrejected
  · rw [hmoved]
    have hbooked : ∀ {connector : Connector} {idTag : String} {t : ℕ},
        HoldWorld.IsBooked ⟨w.table.move existing.id input.startAt input.endAt, w.holds, w.now⟩
            connector idTag t ↔
          w.IsBookedBut existing.id connector idTag t ∨
            existing.connector = connector ∧ existing.steveOcppIdTag = idTag ∧
              (existing.moveTo input.startAt input.endAt).Books t := isBooked_updateById hmem _
    constructor
    · intro hfollows t ht connector idTag
      refine (hmatch t ht connector idTag).trans ?_
      rw [hbooked, isBooked_iff hmem]
      refine or_congr_right (and_congr_right fun _ => and_congr_right fun _ => ?_)
      refine and_congr_right fun hconfirmed => ?_
      exact (hfollows hwindow existing hmem hid hpass hconfirmed t ht).symm
    · intro hmatch' _ row hrow hrowid _ hconfirmed t ht
      obtain rfl := SerialTable.eq_of_key hrow hmem (hrowid.trans hid.symm)
      have hboth := (hmatch t ht row.connector row.steveOcppIdTag).symm.trans
        (hmatch' t ht row.connector row.steveOcppIdTag)
      rw [hbooked, isBooked_iff hmem] at hboth
      constructor
      · rintro ⟨hstart, hend⟩
        rcases hboth.mpr (Or.inr ⟨rfl, rfl, hconfirmed, hstart, hend⟩) with
          ⟨other, hother, hne, hconnector, -, hbooks⟩ | ⟨-, -, hbooks⟩
        · -- The conflict check has found no such row.
          have hfound :=
            mem_checkConflicts_of_books hother (hid ▸ hne) hconnector hbooks hstart hend
          rw [hpass] at hfound
          cases hfound
        · exact hbooks.2
      · intro hold
        have hbooks : row.Books t := ⟨hconfirmed, hold⟩
        rcases hboth.mp (Or.inr ⟨rfl, rfl, hbooks⟩) with hbut | ⟨-, -, hmovedBooks⟩
        · exact absurd hbut (hregular.not_isBookedBut hmem (isOpen_of_books ht hbooks) ht)
        · exact hmovedBooks.2

lemma Regular.reschedules (hregular : w.Regular)
    (hfollows : w.FollowsWindows (.reschedules input)) :
    (w.rescheduleReservation input).Regular := by
  rcases rescheduleReservation_cases w input with
    ⟨hsame, -⟩ | ⟨hwindow, existing, hmem, hid, hpass, hmoved⟩
  · rw [hsame]
    exact hregular
  · rw [hmoved]
    -- A row with an open window had it open before, and it has begun.
    have hold : ∀ row' ∈ (w.table.move existing.id input.startAt input.endAt).rows,
        row'.IsOpen w.now → row'.startAt ≤ w.now ∧ ∃ row ∈ w.table.rows, row.IsOpen w.now ∧
          row'.connector = row.connector ∧
            row' = if row.id = existing.id then row.moveTo input.startAt input.endAt else row := by
      intro row' hrow' hopen
      obtain ⟨row, hrow, rfl⟩ := SerialTable.mem_rewrite.mp hrow'
      by_cases hrowid : row.id = existing.id
      · obtain rfl := SerialTable.eq_of_key hrow hmem hrowid
        rw [if_pos (by simp)] at hopen ⊢
        have hagree := hfollows hwindow row hmem hid hpass hopen.1
        have hlast := (hagree (input.endAt - 1) (Nat.le_sub_one_of_lt hopen.2)).mp
          ⟨Nat.le_sub_one_of_lt hwindow, Nat.sub_one_lt (Nat.ne_of_gt (Nat.zero_lt_of_lt hwindow))⟩
        have hrowopen : row.IsOpen w.now :=
          ⟨hopen.1, lt_of_le_of_lt (Nat.le_sub_one_of_lt hopen.2) hlast.2⟩
        have hstarted := hregular.started row hmem hrowopen
        refine ⟨((hagree w.now le_rfl).mpr ⟨hstarted, hrowopen.2⟩).1, row, hmem, hrowopen, rfl, ?_⟩
        rw [if_pos rfl]
      · rw [if_neg (by simpa using hrowid)] at hopen ⊢
        exact ⟨hregular.started row hrow hopen, row, hrow, hopen, rfl, by rw [if_neg hrowid]⟩
    refine ⟨fun row hrow hopen => (hold row hrow hopen).1, ?_, hregular.exclusive⟩
    intro row hrow other hother hconnector hopen hopen'
    obtain ⟨-, before, hbefore, hbeforeopen, hsame, hrow⟩ := hold row hrow hopen
    obtain ⟨-, before', hbefore', hbeforeopen', hsame', hother⟩ := hold other hother hopen'
    rw [hsame, hsame'] at hconnector
    obtain rfl :=
      hregular.single before hbefore before' hbefore' hconnector hbeforeopen hbeforeopen'
    exact hrow.trans hother.symm

end Rescheduling

/-! ## Cancelling -/

section Cancelling

variable {w : HoldWorld} {reservationId : ℕ}

/-- A cancellation keeps the holds and the windows together exactly when what it takes down is the
hold of the row's open window. -/
lemma holdsMatchWindows_cancels_iff (hregular : w.Regular) (hmatch : w.HoldsMatchWindows) :
    w.FollowsWindows (.cancels reservationId) ↔
      (w.cancelReservation reservationId).HoldsMatchWindows := by
  rcases cancelReservation_cases w reservationId with
    ⟨hsame, hdone⟩ | ⟨existing, hmem, hid, hstatus, hcancelled⟩
  · rw [hsame]
    refine iff_of_true (fun row hrow hid hstatus => ?_) hmatch
    exact absurd (hdone row hrow hid) hstatus
  · rw [hcancelled]
    have hbooked : ∀ {connector : Connector} {idTag : String} {t : ℕ},
        HoldWorld.IsBooked ⟨w.table.cancel existing.id w.now,
            w.holds.filter fun hold => ¬existing.TearsDown hold, w.now⟩ connector idTag t ↔
          w.IsBookedBut existing.id connector idTag t := by
      intro connector idTag t
      refine (isBooked_updateById hmem _).trans (or_iff_left ?_)
      rintro ⟨-, -, hconfirmed, -⟩
      cases hconfirmed
    have hheld : ∀ {connector : Connector} {idTag : String} {t : ℕ},
        HoldWorld.IsHeld ⟨w.table.cancel existing.id w.now,
            w.holds.filter fun hold => ¬existing.TearsDown hold, w.now⟩ connector idTag t ↔
          ∃ hold ∈ w.holds, ¬existing.TearsDown hold ∧ hold.connector = connector ∧
            hold.idTag = idTag ∧ t < hold.expiry := by
      intro connector idTag t
      simp only [IsHeld, List.mem_filter, decide_eq_true_eq, and_assoc]
    constructor
    · intro hfollows t ht connector idTag
      have htakes := hfollows existing hmem hid hstatus
      rw [hbooked, hheld]
      constructor
      · rintro ⟨hold, hhold, hstays, rfl, rfl, hforce⟩
        rcases (isBooked_iff hmem).mp ((hmatch t ht _ _).mp ⟨hold, hhold, rfl, rfl, hforce⟩) with
          hbut | ⟨hconnector, -, hbooks⟩
        · exact hbut
        · have hcharger : hold.connector.chargeBoxId = existing.chargeBoxId := by
            rw [← hconnector]; rfl
          refine absurd ⟨hcharger, ?_⟩ hstays
          exact (htakes hold hhold hcharger (lt_of_le_of_lt ht hforce)).mpr
            ⟨hconnector.symm, isOpen_of_books ht hbooks⟩
      · intro hbut
        obtain ⟨hold, hhold, hconnector, htag, hforce⟩ :=
          (hmatch t ht connector idTag).mpr ((isBooked_iff hmem).mpr (Or.inl hbut))
        refine ⟨hold, hhold, fun htorn => ?_, hconnector, htag, hforce⟩
        obtain ⟨hsame, hopen⟩ := (htakes hold hhold htorn.1 (lt_of_le_of_lt ht hforce)).mp htorn.2
        rw [← hconnector, hsame] at hbut
        exact hregular.not_isBookedBut hmem hopen ht hbut
    · intro hmatch' row hrow hrowid _ hold hhold hcharger hforce
      obtain rfl := SerialTable.eq_of_key hrow hmem (hrowid.trans hid.symm)
      have hnow := hmatch' w.now le_rfl hold.connector hold.idTag
      rw [hbooked, hheld] at hnow
      constructor
      · intro hsent
        rcases (isBooked_iff hmem).mp
            ((hmatch w.now le_rfl _ _).mp ⟨hold, hhold, rfl, rfl, hforce⟩) with
          hbut | ⟨hconnector, -, hbooks⟩
        · -- The hold that is left on the connector would be this one.
          obtain ⟨other, hother, hstays, hconnector, -, hforce'⟩ := hnow.mpr hbut
          obtain rfl := hregular.exclusive other hother hold hhold hconnector hforce' hforce
          exact absurd ⟨hcharger, hsent⟩ hstays
        · exact ⟨hconnector.symm, isOpen_of_books le_rfl hbooks⟩
      · rintro ⟨hconnector, hopen⟩
        by_contra hother
        have hbut := hnow.mp ⟨hold, hhold, fun htorn => hother htorn.2, rfl, rfl, hforce⟩
        rw [hconnector] at hbut
        exact hregular.not_isBookedBut hmem hopen le_rfl hbut

lemma Regular.cancels (hregular : w.Regular) (reservationId : ℕ) :
    (w.cancelReservation reservationId).Regular := by
  rcases cancelReservation_cases w reservationId
    with ⟨hsame, -⟩ | ⟨existing, hmem, -, -, hcancelled⟩
  · rw [hsame]
    exact hregular
  · rw [hcancelled]
    have hold : ∀ row ∈ (w.table.cancel existing.id w.now).rows, row.IsOpen w.now →
        row ∈ w.table.rows := by
      intro row' hrow' hopen
      obtain ⟨row, hrow, rfl⟩ := SerialTable.mem_rewrite.mp hrow'
      split at hopen
      · cases hopen.1
      · next hother => rwa [if_neg hother]
    constructor
    · exact fun row hrow hopen => hregular.started row (hold row hrow hopen) hopen
    · exact fun row hrow other hother hconnector hopen hopen' =>
        hregular.single row (hold row hrow hopen) other (hold other hother hopen') hconnector hopen
          hopen'
    · exact fun hold hhold other hother =>
        hregular.exclusive hold (List.mem_of_mem_filter hhold) other (List.mem_of_mem_filter hother)

end Cancelling

/-! ## Runs -/

section Runs

variable {w w' : HoldWorld} {a : HoldAction}

lemma holdsMatchWindows_step_iff (hregular : w.Regular) (hmatch : w.HoldsMatchWindows)
    (hstep : w.step a = some w') : w.FollowsWindows a ↔ w'.HoldsMatchWindows := by
  cases a with
  | waits ms =>
      obtain rfl := Option.some.inj hstep
      exact iff_of_true trivial fun t ht => hmatch t ((Nat.le_add_right _ _).trans ht)
  | creates input profileTaskId answer =>
      simp only [step] at hstep
      split at hstep
      · cases hstep
      · exact holdsMatchWindows_creates_iff hregular hmatch hstep
  | reschedules input =>
      simp only [step] at hstep
      split at hstep
      · cases hstep
      · obtain rfl := Option.some.inj hstep
        exact holdsMatchWindows_reschedules_iff hregular hmatch
  | cancels reservationId =>
      obtain rfl := Option.some.inj hstep
      exact holdsMatchWindows_cancels_iff hregular hmatch

lemma Regular.step (hregular : w.Regular) (hmatch : w.HoldsMatchWindows)
    (hfollows : w.FollowsWindows a) (hstep : w.step a = some w') : w'.Regular := by
  cases a with
  | waits ms =>
      obtain rfl := Option.some.inj hstep
      exact hregular.waits ms
  | creates input profileTaskId answer =>
      simp only [HoldWorld.step] at hstep
      split at hstep
      · cases hstep
      · exact hregular.creates hmatch hfollows hstep
  | reschedules input =>
      simp only [HoldWorld.step] at hstep
      split at hstep
      · cases hstep
      · obtain rfl := Option.some.inj hstep
        exact hregular.reschedules hfollows
  | cancels reservationId =>
      obtain rfl := Option.some.inj hstep
      exact hregular.cancels reservationId

end Runs

/-! ## As runs of `ReservationWorld` -/

section Calls

variable {w w' : HoldWorld} {a : HoldAction}

/-- A call that goes on with one event after the other. -/
def resumeAll (now : ℕ) : ReservationTable → ReservationCall → List ReservationEvent →
    Option (ReservationTable × ReservationCall)
  | table, call, [] => some (table, call)
  | table, call, event :: events =>
      (call.resume table now event).bind fun (table', call') => resumeAll now table' call' events

lemma run_resumes {table table' : ReservationTable} {call call' : ReservationCall} {now : ℕ}
    {events : List ReservationEvent} (calls : List ReservationCall)
    (h : resumeAll now table call events = some (table', call')) :
    run ReservationWorld.step ⟨table, calls ++ [call]⟩
      (events.map (ReservationAction.resumes calls.length now)) =
        some ⟨table', calls ++ [call']⟩ := by
  induction events generalizing table call with
  | nil =>
      obtain ⟨rfl, rfl⟩ := Prod.mk.inj (Option.some.inj h)
      rfl
  | cons event events ih =>
      obtain ⟨⟨between, next⟩, hresume, hrest⟩ := Option.bind_eq_some_iff.mp h
      have hstep : ReservationWorld.step ⟨table, calls ++ [call]⟩
          (.resumes calls.length now event) = some ⟨between, calls ++ [next]⟩ := by
        simp [ReservationWorld.step, hresume]
      exact run_cons_eq_some.mpr ⟨_, hstep, ih hrest⟩

/-- A call that is made and goes on until it is answered. -/
lemma exists_run_of_resumeAll {table table' : ReservationTable} {call : ReservationCall} {now : ℕ}
    {events : List ReservationEvent} (hnew : call.isNew = true)
    (h : resumeAll now table call events = some (table', .settled)) (calls : List ReservationCall) :
    ∃ bs, run ReservationWorld.step ⟨table, calls⟩ bs = some ⟨table', calls ++ [.settled]⟩ := by
  refine ⟨.arrives call :: events.map (ReservationAction.resumes calls.length now), ?_⟩
  have harrives : ReservationWorld.step ⟨table, calls⟩ (.arrives call) =
      some ⟨table, calls ++ [call]⟩ := by simp [ReservationWorld.step, hnew]
  exact run_cons_eq_some.mpr ⟨_, harrives, run_resumes calls h⟩

lemma resumeAll_creates {input : CreateReservationInput} {profileTaskId : Option ℤ}
    {answer : ReserveNowAnswer} (hforce : input.force = false)
    (hstep : w.createReservation input profileTaskId answer = some w') :
    ∃ events, resumeAll w.now w.table (.creating input) events = some (w'.table, .settled) := by
  unfold createReservation at hstep
  split_ifs at hstep with hwindow hfree
  · obtain rfl := Option.some.inj hstep
    exact ⟨[.proceeds], by simp [resumeAll, ReservationCall.resume, hwindow]⟩
  · obtain ⟨holds, -, rfl⟩ := Option.map_eq_some_iff.mp hstep
    refine ⟨[.proceeds, .proceeds, .profileReturned profileTaskId,
      .reserveNowReturned (.ok (answer.toResult input.chargeBoxId))], ?_⟩
    simp [resumeAll, ReservationCall.resume, hwindow, hfree, createdTable]
  · obtain rfl := Option.some.inj hstep
    exact ⟨[.proceeds], by simp [resumeAll, ReservationCall.resume, hwindow, hfree, hforce]⟩

lemma resumeAll_reschedules (w : HoldWorld) {input : RescheduleInput}
    (hforce : input.force = false) :
    ∃ events, resumeAll w.now w.table (.rescheduling input) events =
      some ((w.rescheduleReservation input).table, .settled) := by
  unfold rescheduleReservation
  split_ifs with hwindow
  · exact ⟨[.proceeds], by simp [resumeAll, ReservationCall.resume, hwindow]⟩
  · cases hexisting : w.table.get? input.reservationId with
    | none => exact ⟨[.proceeds], by simp [resumeAll, ReservationCall.resume, hwindow, hexisting]⟩
    | some existing =>
        dsimp only
        simp only [List.isEmpty_iff]
        split_ifs with hfree
        · refine ⟨[.proceeds, .proceeds, .proceeds], ?_⟩
          simp [resumeAll, ReservationCall.resume, hwindow, hexisting, hfree]
        · refine ⟨[.proceeds, .proceeds], ?_⟩
          simp [resumeAll, ReservationCall.resume, hwindow, hexisting, hfree, hforce]

lemma resumeAll_cancels (w : HoldWorld) (reservationId : ℕ) :
    ∃ events, resumeAll w.now w.table (.cancelling reservationId) events =
      some ((w.cancelReservation reservationId).table, .settled) := by
  unfold cancelReservation
  cases hexisting : w.table.get? reservationId with
  | none => exact ⟨[.proceeds], by simp [resumeAll, ReservationCall.resume, hexisting]⟩
  | some existing =>
      dsimp only
      split_ifs with hcancelled
      · exact ⟨[.proceeds], by simp [resumeAll, ReservationCall.resume, hexisting, hcancelled]⟩
      · refine ⟨[.proceeds, .proceeds], ?_⟩
        simp [resumeAll, ReservationCall.resume, hexisting, hcancelled]

/-- What a step does to the table, the service does in a run in which one call is made and answered
while no other goes on. -/
theorem exists_run_of_step (hstep : w.step a = some w') (calls : List ReservationCall) :
    ∃ bs calls', run ReservationWorld.step ⟨w.table, calls⟩ bs = some ⟨w'.table, calls'⟩ := by
  cases a with
  | waits ms =>
      obtain rfl := Option.some.inj hstep
      exact ⟨[], calls, rfl⟩
  | creates input profileTaskId answer =>
      simp only [step] at hstep
      split at hstep
      · cases hstep
      · next hforce =>
          obtain ⟨events, hevents⟩ := resumeAll_creates (by simpa using hforce) hstep
          obtain ⟨bs, hbs⟩ := exists_run_of_resumeAll rfl hevents calls
          exact ⟨bs, _, hbs⟩
  | reschedules input =>
      simp only [step] at hstep
      split at hstep
      · cases hstep
      · next hforce =>
          obtain rfl := Option.some.inj hstep
          have hunforced : input.force = false := by simpa using hforce
          obtain ⟨events, hevents⟩ := w.resumeAll_reschedules hunforced
          obtain ⟨bs, hbs⟩ := exists_run_of_resumeAll rfl hevents calls
          exact ⟨bs, _, hbs⟩
  | cancels reservationId =>
      obtain rfl := Option.some.inj hstep
      obtain ⟨events, hevents⟩ := w.resumeAll_cancels reservationId
      obtain ⟨bs, hbs⟩ := exists_run_of_resumeAll rfl hevents calls
      exact ⟨bs, _, hbs⟩

end Calls

end HoldWorld

/-- The holds match the booked windows throughout a run exactly when every call follows the
windows. -/
theorem holdsMatchWindows_iff (now : ℕ) (as : List HoldAction) :
    Always HoldWorld.step HoldWorld.HoldsMatchWindows (HoldWorld.initial now) as ↔
      Meets HoldWorld.step HoldWorld.FollowsWindows (HoldWorld.initial now) as := by
  refine (and_iff_right (HoldWorld.initial_holdsMatchWindows now)).trans ?_
  refine (meets_iff_eachStep (I := fun w => w.Regular ∧ w.HoldsMatchWindows)
    (A := fun _ _ => True) ?_ ?_
    ⟨HoldWorld.initial_regular now, HoldWorld.initial_holdsMatchWindows now⟩
    (meets_of_forall fun _ _ => trivial)).symm
  · rintro w a w' ⟨hregular, hmatch⟩ - hfollows hstep
    exact ⟨hregular.step hmatch hfollows hstep,
      (HoldWorld.holdsMatchWindows_step_iff hregular hmatch hstep).mp hfollows⟩
  · rintro w a w' ⟨hregular, hmatch⟩ - hstep
    exact HoldWorld.holdsMatchWindows_step_iff hregular hmatch hstep

namespace Scenario

/-- A booking of the second hour, which the charger accepts at once. -/
def laterBooking : List HoldAction :=
  [.creates
    { chargeBoxId := "CB-1"
      connectorId := 1
      steveOcppTagPk := 11
      steveOcppIdTag := "CARD-1"
      lagoSubscriptionExternalId := none
      startAt := 3600000
      endAt := 7200000
      createdByUserId := none
      force := false }
    none ⟨5, 90, "Accepted"⟩]

end Scenario

/-- The connector is held in the hour before the one that was booked. -/
theorem not_holdsMatchWindows_laterBooking :
    ¬∀ (now : ℕ) (as : List HoldAction),
      Always HoldWorld.step HoldWorld.HoldsMatchWindows (HoldWorld.initial now) as := by
  intro h
  have hnow : ∀ w ∈ run HoldWorld.step (HoldWorld.initial 0) Scenario.laterBooking,
      w.IsHeld ⟨"CB-1", 1⟩ "CARD-1" 0 ↔ w.IsBooked ⟨"CB-1", 1⟩ "CARD-1" 0 := by
    intro w hw
    have hclock : ∀ w ∈ run HoldWorld.step (HoldWorld.initial 0) Scenario.laterBooking,
        w.now = 0 := by
      decide +kernel
    exact (h 0 _).of_run hw 0 (hclock w hw).le _ _
  have hbooked : ∀ w ∈ run HoldWorld.step (HoldWorld.initial 0) Scenario.laterBooking,
      (∃ hold ∈ w.holds, hold.connector = ⟨"CB-1", 1⟩ ∧ hold.idTag = "CARD-1" ∧ 0 < hold.expiry) ∧
        ∀ row ∈ w.table.rows, 0 < row.startAt := by
    decide +kernel
  have hruns : (run HoldWorld.step (HoldWorld.initial 0) Scenario.laterBooking).isSome = true := by
    decide +kernel
  obtain ⟨w, hw⟩ := Option.isSome_iff_exists.mp hruns
  obtain ⟨hheld, hlater⟩ := hbooked w hw
  obtain ⟨row, hrow, -, -, -, hstart, -⟩ := (hnow w hw).mp hheld
  exact absurd (hlater row hrow) (not_lt.mpr hstart)

end ExpresSync
