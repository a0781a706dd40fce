import ExpresSync.Model.Reservations

/-!
# Reservations that overlap, and cancellations that do not last

The conflict check of a call and its write are two statements, and the table has no constraint
that would catch what happens between them.  `noDoubleBooking_iff` says that this is the whole
story: windows overlap exactly when a call writes although its check, run again at that moment,
would find another row.

The write after `ReserveNow` goes by the id alone; `cancellationFinal_iff` shows that it is the
only one that brings a cancelled row back.
-/

namespace ExpresSync

open Transition

namespace Reservation

/-- The conflict check for the window of a row. -/
def asCheck (row : Reservation) : ConflictCheckInput where
  chargeBoxId := row.chargeBoxId
  connectorId := row.connectorId
  startAt := row.startAt
  endAt := row.endAt
  excludeReservationId := some row.id

/-- The windows of two rows overlap on some connector of one charger. -/
def Overlaps (a b : Reservation) : Prop :=
  a.chargeBoxId = b.chargeBoxId ∧
    (a.connectorId = b.connectorId ∨ a.connectorId = 0 ∨ b.connectorId = 0) ∧
    a.startAt < b.endAt ∧ b.startAt < a.endAt

/-- The row blocks a window it did not get by force. -/
def HoldsWindow (row : Reservation) : Prop := row.isBlocking = true ∧ row.forced = false

/-- Two rows do not hold overlapping windows. -/
def Apart (a b : Reservation) : Prop := a.HoldsWindow → b.HoldsWindow → ¬a.Overlaps b

instance (a b : Reservation) : Decidable (a.Overlaps b) :=
  inferInstanceAs (Decidable (a.chargeBoxId = b.chargeBoxId ∧
    (a.connectorId = b.connectorId ∨ a.connectorId = 0 ∨ b.connectorId = 0) ∧
      a.startAt < b.endAt ∧ b.startAt < a.endAt))

instance (row : Reservation) : Decidable row.HoldsWindow :=
  inferInstanceAs (Decidable (row.isBlocking = true ∧ row.forced = false))

instance : DecidableRel Apart := fun a b =>
  inferInstanceAs (Decidable (a.HoldsWindow → b.HoldsWindow → ¬a.Overlaps b))

variable {row other : Reservation}

lemma Overlaps.symm (h : row.Overlaps other) : other.Overlaps row := by
  obtain ⟨hcharger, hconnector, hstart, hend⟩ := h
  refine ⟨hcharger.symm, ?_, hend, hstart⟩
  rcases hconnector with heq | hzero | hzero
  · exact Or.inl heq.symm
  · exact Or.inr (Or.inr hzero)
  · exact Or.inr (Or.inl hzero)

lemma Apart.symm (h : row.Apart other) : other.Apart row :=
  fun hholds hholds' hoverlap => h hholds' hholds hoverlap.symm

lemma apart_of_not_blocking (h : row.isBlocking = false) : row.Apart other := by
  rintro ⟨hblock, -⟩
  rw [h] at hblock
  cases hblock

/-- Only the window, the charger, the force option and whether the row blocks matter. -/
lemma Apart.of_eq {row' : Reservation} (h : row.Apart other)
    (hblock : row'.isBlocking = true → row.isBlocking = true) (hforced : row'.forced = row.forced)
    (hcheck : row'.asCheck = row.asCheck) : row'.Apart other := by
  obtain ⟨hcharger, hconnector, hstart, hend, -⟩ := ConflictCheckInput.mk.inj hcheck
  intro hholds hholds' hoverlap
  refine h ⟨hblock hholds.1, hforced ▸ hholds.2⟩ hholds' ?_
  unfold Overlaps at hoverlap ⊢
  rwa [hcharger, hconnector, hstart, hend] at hoverlap

end Reservation

/-- Run for the window of `row`, the conflict check finds nothing but forced rows; forced rows are
not checked. -/
def StillFree (table : ReservationTable) (row : Reservation) : Prop :=
  row.forced = false → ∀ other ∈ checkConflicts table row.asCheck, other.forced = true

instance (table : ReservationTable) (row : Reservation) : Decidable (StillFree table row) :=
  inferInstanceAs (Decidable
    (row.forced = false → ∀ other ∈ checkConflicts table row.asCheck, other.forced = true))

/-- No two reservations block overlapping windows. -/
def NoDoubleBooking (w : ReservationWorld) : Prop := w.table.Pairs Reservation.Apart

instance (w : ReservationWorld) : Decidable (NoDoubleBooking w) :=
  inferInstanceAs (Decidable (w.table.Pairs Reservation.Apart))

/-- A call that writes would pass its conflict check at that moment: an insert for the new row, a
reschedule for the new window of a row that blocks, and an `ACCEPTED` of `ReserveNow` for the
window of a row that blocks no more. -/
def RecheckPasses (w : ReservationWorld) : ReservationAction → Prop
  | .resumes i _ .proceeds =>
      (∀ input, w.calls[i]? = some (.inserting input) →
        StillFree w.table (input.newReservation w.table.next)) ∧
      ∀ input, w.calls[i]? = some (.moving input) →
        ∀ row ∈ w.table.rows, row.id = input.reservationId → row.isBlocking = true →
          StillFree w.table (row.moveTo input.startAt input.endAt)
  | .resumes i _ (.reserveNowReturned (.ok result)) =>
      ∀ id chargeBoxId, w.calls[i]? = some (.reserving id chargeBoxId) → result.taskId.isSome →
        result.resolvedStatus chargeBoxId = some .confirmed →
          ∀ row ∈ w.table.rows, row.id = id → row.isBlocking = false → StillFree w.table row
  | _ => True

/-! ## What the check decides -/

section Check

variable {table : ReservationTable} {row : Reservation}

lemma mem_checkConflicts {other : Reservation} :
    other ∈ checkConflicts table row.asCheck ↔
      other ∈ table.rows ∧ other.id ≠ row.id ∧ other.isBlocking = true ∧ row.Overlaps other := by
  simp only [checkConflicts, ConflictCheckInput.finds, Reservation.asCheck, Reservation.Overlaps,
    List.mem_filter, Bool.and_eq_true, Bool.or_eq_true, beq_iff_eq, decide_eq_true_eq, bne_iff_ne,
    ne_eq, Option.some.injEq]
  constructor
  · rintro ⟨hmem, ⟨⟨⟨⟨hcharger, hconnector⟩, hblock⟩, hstart⟩, hend⟩, hne⟩
    refine ⟨hmem, Ne.symm hne, hblock, hcharger.symm, ?_, hend, hstart⟩
    rcases hconnector with (hzero | heq) | hzero
    · exact Or.inr (Or.inl hzero)
    · exact Or.inl heq.symm
    · exact Or.inr (Or.inr hzero)
  · rintro ⟨hmem, hne, hblock, hcharger, hconnector, hend, hstart⟩
    refine ⟨hmem, ⟨⟨⟨⟨hcharger.symm, ?_⟩, hblock⟩, hstart⟩, hend⟩, Ne.symm hne⟩
    rcases hconnector with heq | hzero | hzero
    · exact Or.inl (Or.inr heq.symm)
    · exact Or.inl (Or.inl hzero)
    · exact Or.inr hzero

/-- For a row that blocks, the check says exactly whether it is apart from all others. -/
lemma stillFree_iff (hblock : row.isBlocking = true) :
    StillFree table row ↔ ∀ other ∈ table.rows, other.id ≠ row.id → row.Apart other := by
  constructor
  · intro hfree other hother hne hholds hholds' hoverlap
    have hfound := hfree hholds.2 other
      (mem_checkConflicts.mpr ⟨hother, hne, hholds'.1, hoverlap⟩)
    rw [hholds'.2] at hfound
    cases hfound
  · intro hapart hforced other hother
    obtain ⟨hmem, hne, hblock', hoverlap⟩ := mem_checkConflicts.mp hother
    by_contra hforced'
    exact hapart other hmem hne ⟨hblock, hforced⟩ ⟨hblock', Bool.not_eq_true _ ▸ hforced'⟩ hoverlap

lemma stillFree_congr (row : Reservation) {row' : Reservation} (hforced : row'.forced = row.forced)
    (hcheck : row'.asCheck = row.asCheck) : StillFree table row' ↔ StillFree table row := by
  rw [StillFree, StillFree, hforced, hcheck]

end Check

lemma OcppTaskResult.resolvedStatus_cases (result : OcppTaskResult) (chargeBoxId : String) :
    result.resolvedStatus chargeBoxId = some .confirmed ∨
      result.resolvedStatus chargeBoxId = some .conflicted ∨
        result.resolvedStatus chargeBoxId = none := by
  unfold resolvedStatus
  split
  · split
    · exact Or.inl rfl
    · exact Or.inr (Or.inl rfl)
  · split
    · exact Or.inr (Or.inl rfl)
    · exact Or.inr (Or.inr rfl)

/-! ## What a statement does to the windows -/

section Statements

variable {table : ReservationTable} (h : table.Pairs Reservation.Apart)

include h

lemma pairs_create {input : CreateReservationInput} :
    (table.create input).Pairs Reservation.Apart ↔
      StillFree table (input.newReservation table.next) := by
  rw [stillFree_iff rfl]
  refine (SerialTable.pairs_insert (fun _ _ => Reservation.Apart.symm) h).trans ?_
  refine forall₂_congr fun other hother => ?_
  have hne : other.id ≠ table.next := Nat.ne_of_lt (table.key_lt other hother)
  exact ⟨fun hapart _ => hapart, fun hapart => hapart hne⟩

/-- Rewriting one row to `f row` is safe when the rewritten row, if it blocks, is still free. -/
lemma pairs_updateById {id : ℕ} {f : Reservation → Reservation} {hf : ∀ row, (f row).id = row.id} :
    (table.updateById id f hf).Pairs Reservation.Apart ↔
      ∀ row ∈ table.rows, row.id = id → (f row).isBlocking = true → StillFree table (f row) := by
  refine (SerialTable.pairs_update_one (fun _ _ => Reservation.Apart.symm) h fun row =>
    decide_eq_true_iff).trans ?_
  refine forall₃_congr fun row hrow hid => ?_
  by_cases hblock : (f row).isBlocking = true
  · rw [forall_prop_of_true hblock, stillFree_iff hblock, hf, hid]
  · have hapart : ∀ other ∈ table.rows, other.id ≠ id → (f row).Apart other := fun _ _ _ =>
      Reservation.apart_of_not_blocking (Bool.not_eq_true _ ▸ hblock)
    exact iff_of_true hapart fun hblock' => absurd hblock' hblock

lemma pairs_move {id startAt endAt : ℕ} :
    (table.move id startAt endAt).Pairs Reservation.Apart ↔
      ∀ row ∈ table.rows, row.id = id → row.isBlocking = true →
        StillFree table (row.moveTo startAt endAt) := pairs_updateById h

lemma pairs_of_cancelling {sel : Reservation → Bool} {now : ℕ} :
    (table.update sel (fun row => { row with status := .cancelled, cancelledAt := some now })
      fun _ => rfl).Pairs Reservation.Apart :=
  SerialTable.pairs_update_of_imp (fun _ _ => Reservation.Apart.symm) h fun _ _ _ _ =>
    Reservation.apart_of_not_blocking rfl

/-- A row that is pending already may be given any status. -/
lemma pairs_of_pending {sel : Reservation → Bool} {newStatus : ReservationStatus}
    (hsel : ∀ row, sel row = true → row.status = .pending) :
    (table.update sel (fun row => { row with status := newStatus }) fun _ => rfl).Pairs
      Reservation.Apart := by
  refine SerialTable.pairs_update_of_imp (fun _ _ => Reservation.Apart.symm) h
    fun row other hs hapart => hapart.of_eq (fun _ => ?_) rfl rfl
  rw [Reservation.isBlocking, hsel row hs]
  rfl

/-- The window of a row that blocks is free. -/
lemma stillFree_of_pairs {row : Reservation} (hrow : row ∈ table.rows)
    (hblock : row.isBlocking = true) : StillFree table row :=
  (stillFree_iff hblock).mpr fun other hother hne => h row hrow other hother hne.symm

/-- The write after `ReserveNow` matters only when it makes a row block again. -/
lemma pairs_setReserveNow {id : ℕ} {taskId : ℤ} {result : OcppTaskResult} {chargeBoxId : String} :
    (table.setReserveNow id taskId (result.resolvedStatus chargeBoxId)).Pairs Reservation.Apart ↔
      (result.resolvedStatus chargeBoxId = some .confirmed →
        ∀ row ∈ table.rows, row.id = id → row.isBlocking = false → StillFree table row) := by
  refine (pairs_updateById h).trans ?_
  rcases result.resolvedStatus_cases chargeBoxId with hstatus | hstatus | hstatus
  · rw [hstatus]
    constructor
    · intro hfree _ row hrow hid _
      exact (stillFree_congr row rfl rfl).mp (hfree row hrow hid rfl)
    · intro hfree row hrow hid _
      refine (stillFree_congr row rfl rfl).mpr ?_
      cases hblock : row.isBlocking with
      | true => exact stillFree_of_pairs h hrow hblock
      | false => exact hfree rfl row hrow hid hblock
  · rw [hstatus]
    have hnot : ∀ row : Reservation, Reservation.isBlocking
        { row with steveReservationId := some taskId, status := .conflicted } = false :=
      fun _ => rfl
    exact iff_of_true (fun row _ _ hblock => absurd hblock (by simp [hnot])) fun heq => by cases heq
  · rw [hstatus]
    refine iff_of_true (fun row hrow _ hblock => ?_) (fun heq => by cases heq)
    exact (stillFree_congr row rfl rfl).mpr (stillFree_of_pairs h hrow hblock)

end Statements

/-! ## No double booking -/

section Steps

variable {w w' : ReservationWorld} {a : ReservationAction}

/-- What a step does to the table is safe when the call would still pass its check. -/
lemma noDoubleBooking_of_recheckPasses (hfree : NoDoubleBooking w) (hpass : RecheckPasses w a)
    (hstep : ReservationWorld.step w a = some w') : NoDoubleBooking w' := by
  have hwrite := ReservationWorld.step_table hstep
  unfold NoDoubleBooking at hfree ⊢
  generalize w'.table = table' at hwrite ⊢
  cases hwrite with
  | kept => exact hfree
  | created hcall => exact (pairs_create hfree).mpr (hpass.1 _ hcall)
  | profiled hcall =>
      refine (pairs_updateById hfree).mpr fun row hrow _ hblock => ?_
      exact (stillFree_congr row rfl rfl).mpr (stillFree_of_pairs hfree hrow hblock)
  | @answered i now id chargeBoxId answer hcall =>
      cases answer with
      | error message => exact hfree
      | ok result =>
          unfold reserveNowReturned
          cases htask : result.taskId with
          | none =>
              simp only [htask]
              exact hfree
          | some taskId =>
              simp only [htask]
              refine (pairs_setReserveNow hfree).mpr fun hstatus row hrow hid hblock => ?_
              exact hpass id chargeBoxId hcall (by rw [htask]; rfl) hstatus row hrow hid hblock
  | cancelled hcall => exact pairs_of_cancelling hfree
  | moved hcall =>
      exact (pairs_move hfree).mpr (hpass.2 _ hcall)
  | @resolved i now id ids answer hcall =>
      unfold resolveOne
      split
      · split
        · refine pairs_of_pending hfree fun row hsel => ?_
          simp only [Bool.and_eq_true, beq_iff_eq] at hsel
          exact hsel.2
        · exact hfree
      · exact hfree
  | confirmed =>
      refine pairs_of_pending hfree fun row hsel => ?_
      simp only [Bool.and_eq_true, beq_iff_eq] at hsel
      exact hsel.1.1.1
  | bulkCancelled => exact pairs_of_cancelling hfree

/-- A step that writes although the check would not pass leaves overlapping windows. -/
lemma recheckPasses_of_noDoubleBooking (hfree : NoDoubleBooking w)
    (hstep : ReservationWorld.step w a = some w') (hfree' : NoDoubleBooking w') :
    RecheckPasses w a := by
  cases a with
  | arrives call => trivial
  | reservedNotification chargeBoxId connectorId now => trivial
  | bulkCancels tagPks now => trivial
  | resumes i now event =>
      cases event with
      | fails => trivial
      | profileReturned taskId => trivial
      | selected ids => trivial
      | taskReturned answer => trivial
      | proceeds =>
          constructor
          · intro input hcall
            simp only [ReservationWorld.step, hcall, ReservationCall.resume, Option.bind_some,
              Option.map_some, Option.some.injEq] at hstep
            subst hstep
            exact (pairs_create hfree).mp hfree'
          · intro input hcall
            simp only [ReservationWorld.step, hcall, ReservationCall.resume, Option.bind_some,
              Option.map_some, Option.some.injEq] at hstep
            subst hstep
            exact (pairs_move hfree).mp hfree'
      | reserveNowReturned answer =>
          cases answer with
          | error message => trivial
          | ok result =>
              intro id chargeBoxId hcall htask
              obtain ⟨taskId, htaskId⟩ := Option.isSome_iff_exists.mp htask
              simp only [ReservationWorld.step, hcall, ReservationCall.resume, Option.bind_some,
                Option.map_some, Option.some.injEq, reserveNowReturned, htaskId] at hstep
              subst hstep
              exact (pairs_setReserveNow hfree).mp hfree'

end Steps

section Checked

variable {table table' : ReservationTable} {now : ℕ}

/-- Right after the check of `createReservation` has passed, the window of the new row is free. -/
lemma stillFree_of_created_check {input : CreateReservationInput}
    (h : (ReservationCall.creating input).resume table now .proceeds =
      some (table', .inserting input)) :
    StillFree table (input.newReservation table.next) := by
  intro hforce other hother
  obtain ⟨hmem, hfinds⟩ := List.mem_filter.mp hother
  have hfound : other ∈ checkConflicts table input.toCheck := by
    refine List.mem_filter.mpr ⟨hmem, ?_⟩
    simp only [ConflictCheckInput.finds, Bool.and_eq_true] at hfinds ⊢
    exact ⟨hfinds.1, rfl⟩
  simp only [ReservationCall.resume] at h
  split at h
  · cases h
  · split at h
    · next hpass =>
        rw [show input.force = false from hforce, Bool.false_or, List.isEmpty_iff] at hpass
        rw [hpass] at hfound
        cases hfound
    · cases h

/-- Right after the check of `rescheduleReservation` has passed, the new window of the row is
free. -/
lemma stillFree_of_move_check {input : RescheduleInput} {row : Reservation}
    (hid : row.id = input.reservationId) (hforce : input.force = false)
    (h : (ReservationCall.checkingMove input row.chargeBoxId row.connectorId).resume table now
      .proceeds = some (table', .moving input)) :
    StillFree table (row.moveTo input.startAt input.endAt) := by
  intro _ other hother
  have hcheck : (row.moveTo input.startAt input.endAt).asCheck =
      input.toCheck row.chargeBoxId row.connectorId := by
    rw [RescheduleInput.toCheck, ← hid]
    rfl
  rw [hcheck] at hother
  simp only [ReservationCall.resume, hforce, Bool.false_or] at h
  split at h
  · next hpass =>
      rw [List.isEmpty_iff.mp hpass] at hother
      cases hother
  · cases h

end Checked

namespace Scenario

/-- A booking of the first connector, for the first hour. -/
def booking : CreateReservationInput where
  chargeBoxId := "CB-1"
  connectorId := 1
  steveOcppTagPk := 11
  steveOcppIdTag := "CARD-1"
  lagoSubscriptionExternalId := none
  startAt := 0
  endAt := 3600000
  createdByUserId := none
  force := false

/-- The charger accepts the reservation. -/
def acceptedReserveNow : ReservationEvent :=
  .reserveNowReturned (.ok ⟨some 5, some true, [("CB-1", "Accepted")], [], []⟩)

/-- Two customers book the same hour: both checks run before either insert. -/
def simultaneousBookings : List ReservationAction :=
  [.arrives (.creating booking), .arrives (.creating booking), .resumes 0 0 .proceeds,
    .resumes 1 0 .proceeds, .resumes 0 0 .proceeds, .resumes 1 0 .proceeds]

/-- A booking is cancelled while the charger is being asked, and the answer comes in after that. -/
def lateAcceptance : List ReservationAction :=
  [.arrives (.creating booking), .resumes 0 0 .proceeds, .resumes 0 0 .proceeds,
    .resumes 0 0 (.profileReturned none), .arrives (.cancelling 0), .resumes 1 1 .proceeds,
    .resumes 1 1 .proceeds, .resumes 0 2 acceptedReserveNow]

end Scenario

/-- A row that is cancelled carries the time of the cancellation, and a row that carries one does
not block. -/
def Reservation.StaysCancelled (row : Reservation) : Prop :=
  (row.status = .cancelled → row.cancelledAt.isSome = true) ∧
    (row.cancelledAt.isSome = true → row.isBlocking = false)

instance (row : Reservation) : Decidable row.StaysCancelled :=
  inferInstanceAs (Decidable ((row.status = .cancelled → row.cancelledAt.isSome = true) ∧
    (row.cancelledAt.isSome = true → row.isBlocking = false)))

/-- Every cancelled row stays cancelled. -/
def CancellationFinal (w : ReservationWorld) : Prop :=
  ∀ row ∈ w.table.rows, row.StaysCancelled

instance (w : ReservationWorld) : Decidable (CancellationFinal w) :=
  inferInstanceAs (Decidable (∀ row ∈ w.table.rows, row.StaysCancelled))

/-- No `ACCEPTED` of `ReserveNow` is written to a row that has been cancelled. -/
def AcceptedInTime (w : ReservationWorld) : ReservationAction → Prop
  | .resumes i _ (.reserveNowReturned (.ok result)) =>
      ∀ id chargeBoxId, w.calls[i]? = some (.reserving id chargeBoxId) → result.taskId.isSome →
        result.resolvedStatus chargeBoxId = some .confirmed →
          ∀ row ∈ w.table.rows, row.id = id → row.cancelledAt = none
  | _ => True

section Final

variable {w w' : ReservationWorld} {a : ReservationAction}

/-- A row that has been cancelled is no longer pending. -/
lemma CancellationFinal.not_pending (hfinal : CancellationFinal w) {row : Reservation}
    (hrow : row ∈ w.table.rows) (hpending : row.status = .pending) : row.cancelledAt = none := by
  have hblock : row.isBlocking = true := by
    rw [Reservation.isBlocking, hpending]
    rfl
  by_contra hmarked
  have := (hfinal row hrow).2 (Option.isSome_iff_ne_none.mpr hmarked)
  rw [hblock] at this
  cases this

lemma cancellationFinal_of_acceptedInTime (hfinal : CancellationFinal w)
    (hintime : AcceptedInTime w a) (hstep : ReservationWorld.step w a = some w') :
      CancellationFinal w' := by
  have hwrite := ReservationWorld.step_table hstep
  unfold CancellationFinal
  generalize w'.table = table' at hwrite ⊢
  cases hwrite with
  | kept => exact hfinal
  | created hcall =>
      refine SerialTable.forall_insert.mpr ⟨hfinal, ?_⟩
      exact ⟨fun heq => (by cases heq), fun heq => (by cases heq)⟩
  | profiled hcall =>
      refine (SerialTable.forall_rewrite hfinal).mpr fun row hrow _ => ?_
      exact hfinal row hrow
  | @answered i now id chargeBoxId answer hcall =>
      cases answer with
      | error message => exact hfinal
      | ok result =>
          unfold reserveNowReturned
          cases htask : result.taskId with
          | none =>
              simp only [htask]
              exact hfinal
          | some taskId =>
              simp only [htask]
              refine (SerialTable.forall_rewrite hfinal).mpr fun row hrow hsel => ?_
              rcases result.resolvedStatus_cases chargeBoxId with hstatus | hstatus | hstatus
              · have hnone := hintime id chargeBoxId hcall (by rw [htask]; rfl) hstatus row hrow
                  (of_decide_eq_true hsel)
                rw [hstatus]
                exact ⟨fun heq => (by cases heq), fun hsome => absurd hsome (by simp [hnone])⟩
              · rw [hstatus]
                exact ⟨fun heq => (by cases heq), fun _ => rfl⟩
              · rw [hstatus]
                exact hfinal row hrow
  | cancelled hcall =>
      refine (SerialTable.forall_rewrite hfinal).mpr fun row _ _ => ?_
      exact ⟨fun _ => rfl, fun _ => rfl⟩
  | moved hcall =>
      refine (SerialTable.forall_rewrite hfinal).mpr fun row hrow _ => ?_
      exact hfinal row hrow
  | @resolved i now id ids answer hcall =>
      unfold resolveOne
      split
      · split
        · next task hfinished =>
            refine (SerialTable.forall_rewrite hfinal).mpr fun row hrow hsel => ?_
            simp only [Bool.and_eq_true, beq_iff_eq] at hsel
            have hnone := hfinal.not_pending hrow hsel.2
            refine ⟨fun heq => ?_, fun hsome => absurd hsome (by simp [hnone])⟩
            simp only at heq
            split at heq <;> cases heq
        · exact hfinal
      · exact hfinal
  | confirmed =>
      refine (SerialTable.forall_rewrite hfinal).mpr fun row hrow hsel => ?_
      simp only [Bool.and_eq_true, beq_iff_eq] at hsel
      have hnone := hfinal.not_pending hrow hsel.1.1.1
      exact ⟨fun heq => (by cases heq), fun hsome => absurd hsome (by simp [hnone])⟩
  | bulkCancelled =>
      refine (SerialTable.forall_rewrite hfinal).mpr fun row _ _ => ?_
      exact ⟨fun _ => rfl, fun _ => rfl⟩

lemma acceptedInTime_of_cancellationFinal (hfinal : CancellationFinal w)
    (hstep : ReservationWorld.step w a = some w') (hfinal' : CancellationFinal w') :
    AcceptedInTime w a := by
  cases a with
  | arrives call => trivial
  | reservedNotification chargeBoxId connectorId now => trivial
  | bulkCancels tagPks now => trivial
  | resumes i now event =>
      cases event with
      | reserveNowReturned answer =>
          cases answer with
          | error message => trivial
          | ok result =>
              intro id chargeBoxId hcall htask hstatus row hrow hid
              obtain ⟨taskId, htaskId⟩ := Option.isSome_iff_exists.mp htask
              simp only [ReservationWorld.step, hcall, ReservationCall.resume, Option.bind_some,
                Option.map_some, Option.some.injEq, reserveNowReturned, htaskId, hstatus] at hstep
              subst hstep
              have hafter := (SerialTable.forall_rewrite hfinal).mp hfinal'
              by_contra hmarked
              have hblock := (hafter row hrow (decide_eq_true hid)).2
                (Option.isSome_iff_ne_none.mpr hmarked)
              cases hblock
      | _ => trivial

end Final

/-- In every run, a cancelled row never blocks again exactly when no `ACCEPTED` of `ReserveNow`
comes in after its row has been cancelled. -/
theorem cancellationFinal_iff (w : ReservationWorld) (as : List ReservationAction) :
    Always ReservationWorld.step CancellationFinal w as ↔
      CancellationFinal w ∧ Meets ReservationWorld.step AcceptedInTime w as :=
  always_iff_meets fun _ _ _ hfinal hstep =>
    ⟨fun hintime => cancellationFinal_of_acceptedInTime hfinal hintime hstep,
      acceptedInTime_of_cancellationFinal hfinal hstep⟩

theorem not_cancellationFinal_of_late_acceptance :
    ¬Always ReservationWorld.step CancellationFinal ReservationWorld.initial
      Scenario.lateAcceptance := by
  decide +kernel

end ExpresSync
